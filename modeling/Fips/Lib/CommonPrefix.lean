import Mathlib.Data.List.Basic
import Mathlib.Order.Bounds.Defs

/-!
# The longest common prefix of two lists

`commonPrefix xs ys` counts how long two lists agree from the front, as a loop over their zip does.
`prefixDist xs ys` is what is left of both after that: on root-first paths of a tree, the steps up
to the common ancestor and down again.

## Results

* `commonPrefix_eq_length_iff`: all of the first list counts exactly when it is a prefix.
* `isGreatest_commonPrefix`: it is the length of the longest list that is a prefix of both.
* `min_le_commonPrefix`: two lists agree at least as far as both agree with a third.
* `prefixDist_comm`, `prefixDist_eq_zero_iff`, `prefixDist_triangle`: `prefixDist` is a metric.
* `commonPrefix_concat`: an element beyond a mismatch does not count.
* `prefixDist_of_concat`, `prefixDist_to_concat`: one step along or off the other list.
-/

namespace List

variable {α β : Type*} [DecidableEq α] [DecidableEq β]

/-- How many elements two lists begin with in common. -/
def commonPrefix (xs ys : List α) : ℕ := ((xs.zip ys).takeWhile fun p => p.1 == p.2).length

@[simp] theorem commonPrefix_nil_left (ys : List α) : commonPrefix [] ys = 0 := rfl

@[simp] theorem commonPrefix_nil_right (xs : List α) : commonPrefix xs [] = 0 := by
  simp [commonPrefix]

theorem commonPrefix_cons (x y : α) (xs ys : List α) : commonPrefix (x :: xs) (y :: ys) =
    if x = y then commonPrefix xs ys + 1 else 0 := by
  unfold commonPrefix
  split_ifs with h
  · simp [h]
  · simp [h]

theorem commonPrefix_comm (xs ys : List α) : commonPrefix xs ys = commonPrefix ys xs := by
  induction xs generalizing ys with
  | nil => simp
  | cons x xs ih =>
    cases ys with
    | nil => simp
    | cons y ys =>
      rw [commonPrefix_cons, commonPrefix_cons, ih]
      simp only [eq_comm]

theorem commonPrefix_le_left (xs ys : List α) : commonPrefix xs ys ≤ xs.length := by
  calc commonPrefix xs ys ≤ (xs.zip ys).length := (takeWhile_sublist _).length_le
    _ = min xs.length ys.length := length_zip
    _ ≤ xs.length := Nat.min_le_left _ _

theorem commonPrefix_le_right (xs ys : List α) : commonPrefix xs ys ≤ ys.length :=
  commonPrefix_comm xs ys ▸ commonPrefix_le_left ys xs

theorem commonPrefix_eq_length_iff {xs ys : List α} :
    commonPrefix xs ys = xs.length ↔ xs <+: ys := by
  induction xs generalizing ys with
  | nil => simp
  | cons x xs ih =>
    cases ys with
    | nil => simp
    | cons y ys =>
      rw [commonPrefix_cons, cons_prefix_cons, length_cons]
      split_ifs with h
      · rw [Nat.add_right_cancel_iff, ih]
        exact (and_iff_right h).symm
      · simp [h]

theorem take_commonPrefix (xs ys : List α) : xs.take (commonPrefix xs ys) <+: ys := by
  induction xs generalizing ys with
  | nil => simp
  | cons x xs ih =>
    cases ys with
    | nil => simp
    | cons y ys =>
      rw [commonPrefix_cons]
      split_ifs with h
      · rw [take_succ_cons, cons_prefix_cons]
        exact ⟨h, ih ys⟩
      · exact nil_prefix

theorem length_le_commonPrefix {l xs ys : List α} (hx : l <+: xs) (hy : l <+: ys) :
    l.length ≤ commonPrefix xs ys := by
  obtain ⟨xs', rfl⟩ := hx
  obtain ⟨ys', rfl⟩ := hy
  induction l with
  | nil => exact Nat.zero_le _
  | cons a l ih =>
    rw [cons_append, cons_append, commonPrefix_cons, if_pos rfl]
    exact Nat.succ_le_succ ih

theorem isGreatest_commonPrefix (xs ys : List α) :
    IsGreatest {n | ∃ l : List α, l.length = n ∧ l <+: xs ∧ l <+: ys} (commonPrefix xs ys) := by
  constructor
  · exact ⟨xs.take (commonPrefix xs ys), length_take_of_le (commonPrefix_le_left xs ys),
      take_prefix _ _, take_commonPrefix xs ys⟩
  · rintro _ ⟨l, rfl, hx, hy⟩
    exact length_le_commonPrefix hx hy

/-- Two lists agree at least as far as both agree with a third. -/
theorem min_le_commonPrefix (xs ys zs : List α) :
    min (commonPrefix xs ys) (commonPrefix ys zs) ≤ commonPrefix xs zs := by
  have hlength : (ys.take (min (commonPrefix xs ys) (commonPrefix ys zs))).length =
      min (commonPrefix xs ys) (commonPrefix ys zs) :=
    length_take_of_le (Nat.le_trans (Nat.min_le_right _ _) (commonPrefix_le_left ys zs))
  have hx : ys.take (min (commonPrefix xs ys) (commonPrefix ys zs)) <+: xs := by
    rw [commonPrefix_comm xs ys]
    exact (take_prefix_take_left (Nat.min_le_left _ _)).trans (take_commonPrefix ys xs)
  have hz : ys.take (min (commonPrefix xs ys) (commonPrefix ys zs)) <+: zs :=
    (take_prefix_take_left (Nat.min_le_right _ _)).trans (take_commonPrefix ys zs)
  calc min (commonPrefix xs ys) (commonPrefix ys zs)
      = (ys.take (min (commonPrefix xs ys) (commonPrefix ys zs))).length := hlength.symm
    _ ≤ commonPrefix xs zs := length_le_commonPrefix hx hz

theorem commonPrefix_map {f : α → β} (hf : Function.Injective f) (xs ys : List α) :
    commonPrefix (xs.map f) (ys.map f) = commonPrefix xs ys := by
  induction xs generalizing ys with
  | nil => rfl
  | cons x xs ih =>
    cases ys with
    | nil => simp
    | cons y ys => simp only [map_cons, commonPrefix_cons, hf.eq_iff, ih]

/-- One more element counts only if the list before it counts whole. -/
theorem commonPrefix_concat {xs ys : List α} {x : α} (h : ¬ xs ++ [x] <+: ys) :
    commonPrefix (xs ++ [x]) ys = commonPrefix xs ys := by
  induction xs generalizing ys with
  | nil =>
    cases ys with
    | nil => rfl
    | cons y ys =>
      have hne : x ≠ y := by
        rintro rfl
        exact h ⟨ys, rfl⟩
      simp [commonPrefix_cons, hne]
  | cons x' xs ih =>
    cases ys with
    | nil => simp
    | cons y ys =>
      rw [cons_append, commonPrefix_cons, commonPrefix_cons]
      split_ifs with hxy
      · rw [ih fun hp => h (cons_prefix_cons.mpr ⟨hxy, hp⟩)]
      · rfl

/-- What is left of both lists after their common prefix. -/
def prefixDist (xs ys : List α) : ℕ :=
  (xs.length - commonPrefix xs ys) + (ys.length - commonPrefix xs ys)

theorem prefixDist_comm (xs ys : List α) : prefixDist xs ys = prefixDist ys xs := by
  unfold prefixDist
  rw [commonPrefix_comm, Nat.add_comm]

theorem prefixDist_triangle (xs ys zs : List α) :
    prefixDist xs zs ≤ prefixDist xs ys + prefixDist ys zs := by
  have hmin := min_le_commonPrefix xs ys zs
  have hxy := commonPrefix_le_left xs ys
  have hyx := commonPrefix_le_right xs ys
  have hyz := commonPrefix_le_left ys zs
  have hzy := commonPrefix_le_right ys zs
  unfold prefixDist
  omega

theorem prefixDist_map {f : α → β} (hf : Function.Injective f) (xs ys : List α) :
    prefixDist (xs.map f) (ys.map f) = prefixDist xs ys := by
  unfold prefixDist
  rw [commonPrefix_map hf, length_map, length_map]

/-- One step further along the other list. -/
theorem prefixDist_of_concat {xs ys : List α} {x : α} (h : xs ++ [x] <+: ys) :
    prefixDist xs ys = prefixDist (xs ++ [x]) ys + 1 := by
  have hxs : xs <+: ys := (prefix_append xs [x]).trans h
  have hlen := h.length_le
  unfold prefixDist
  rw [commonPrefix_eq_length_iff.mpr h, commonPrefix_eq_length_iff.mpr hxs]
  rw [length_append, length_singleton] at hlen ⊢
  omega

/-- One step back from a branch off the other list. -/
theorem prefixDist_to_concat {xs ys : List α} {x : α} (h : ¬ xs ++ [x] <+: ys) :
    prefixDist (xs ++ [x]) ys = prefixDist xs ys + 1 := by
  have hle := commonPrefix_le_left xs ys
  unfold prefixDist
  rw [commonPrefix_concat h, length_append, length_singleton]
  omega

theorem prefixDist_eq_zero_iff {xs ys : List α} : prefixDist xs ys = 0 ↔ xs = ys := by
  have hx := commonPrefix_le_left xs ys
  have hy := commonPrefix_le_right xs ys
  unfold prefixDist
  constructor
  · intro h
    exact (commonPrefix_eq_length_iff.mp (by omega)).eq_of_length (by omega)
  · rintro rfl
    rw [commonPrefix_eq_length_iff.mpr prefix_rfl]
    omega

end List
