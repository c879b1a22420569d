import Mathlib.Order.Basic
import Fips.Lib.Checked

/-!
# Writing into a buffer

A mutable slice `&mut [u8]` has a fixed length. A write replaces some of its elements, and one
beyond the end stops the program. `splice xs i ys` is the buffer `xs` with `ys` written at `i`.

## Results

* `set_eq`, `copyFromSlice_eq`: a write within the bounds is a splice.
* `getElem?_splice_of_ne`, `getElem?_splice_mid`: what a splice changes.
* `splice_splice`: writing twice at one place is writing the second time only.
* `copyFromSlice_flatten`, `set_flatten`: writing one field of a buffer that is a sequence of fields.
-/

open Checked

namespace Buffer

universe u

variable {ε : Type*} {α : Type u} {xs ys zs : List α} {i j k n : Nat} {a b : α}

/-- The buffer `xs` with `ys` written at `i`. -/
def splice (xs : List α) (i : Nat) (ys : List α) : List α :=
  xs.take i ++ ys ++ xs.drop (i + ys.length)

/-- `xs[i] = a`. -/
def set (xs : List α) (i : Nat) (a : α) : Result ε (List α) :=
  if i < xs.length then .ok (xs.set i a) else .error .panic

/-- `xs[i..j].copy_from_slice(&ys)`. -/
def copyFromSlice (xs : List α) (i j : Nat) (ys : List α) : Result ε (List α) :=
  if i ≤ j ∧ j ≤ xs.length ∧ ys.length = j - i then .ok (splice xs i ys) else .error .panic

theorem set_eq (h : i < xs.length) : (set xs i a : Result ε (List α)) = .ok (splice xs i [a]) := by
  unfold set splice
  rw [if_pos h, List.set_eq_take_append_cons_drop, if_pos h, List.append_assoc]
  rfl

theorem copyFromSlice_eq (hj : i + ys.length = j) (h : j ≤ xs.length) :
    (copyFromSlice xs i j ys : Result ε (List α)) = .ok (splice xs i ys) :=
  if_pos ⟨by omega, h, by omega⟩

@[simp] theorem length_splice (h : i + ys.length ≤ xs.length) :
    (splice xs i ys).length = xs.length := by
  simp only [splice, List.length_append, List.length_take, List.length_drop]
  omega

theorem getElem?_splice_of_ne (h : i + ys.length ≤ xs.length) (hk : k < i ∨ i + ys.length ≤ k) :
    (splice xs i ys)[k]? = xs[k]? := by
  have hlen : (xs.take i).length = i := List.length_take_of_le (by omega)
  unfold splice
  obtain hk | hk := hk
  · rw [List.append_assoc, List.getElem?_append_left (by omega), List.getElem?_take_of_lt hk]
  · rw [List.getElem?_append_right (by rw [List.length_append]; omega), List.getElem?_drop]
    congr 1
    rw [List.length_append]
    omega

theorem getElem?_splice_mid (h : i ≤ xs.length) (hk : k < ys.length) :
    (splice xs i ys)[i + k]? = ys[k]? := by
  have hlen : (xs.take i).length = i := List.length_take_of_le h
  unfold splice
  rw [List.append_assoc, List.getElem?_append_right (by omega), hlen, Nat.add_sub_cancel_left,
    List.getElem?_append_left hk]

theorem drop_splice (hn : n ≤ i) (h : i ≤ xs.length) :
    (splice xs i ys).drop n = splice (xs.drop n) (i - n) ys := by
  have hskip : n + (i - n + ys.length) = i + ys.length := by omega
  unfold splice
  rw [List.append_assoc, List.append_assoc, List.drop_append_of_le_length
    (by rw [List.length_take]; omega), List.drop_take, List.drop_drop, hskip]

theorem take_splice (hn : n ≤ i) (h : i ≤ xs.length) : (splice xs i ys).take n = xs.take n := by
  unfold splice
  rw [List.append_assoc, List.take_append_of_le_length (by rw [List.length_take]; omega),
    List.take_take, Nat.min_eq_left hn]

theorem splice_splice (h : i + ys.length ≤ xs.length) (hlen : zs.length = ys.length) :
    splice (splice xs i ys) i zs = splice xs i zs := by
  have htake : (splice xs i ys).take i = xs.take i := take_splice (Nat.le_refl i) (by omega)
  have hdrop : (splice xs i ys).drop (i + ys.length) = xs.drop (i + ys.length) := by
    unfold splice
    have hpre : (xs.take i ++ ys).length = i + ys.length := by
      rw [List.length_append, List.length_take_of_le (by omega)]
    rw [← hpre, List.drop_left]
  rw [splice, htake, hlen, hdrop, splice, hlen]

/-- Two neighbouring writes are one. -/
theorem splice_splice_succ (h : i + 2 ≤ xs.length) :
    splice (splice xs i [a]) (i + 1) [b] = splice xs i [a, b] := by
  have hpre : (xs.take i ++ [a]).length = i + 1 := by
    rw [List.length_append, List.length_take_of_le (by omega)]
    rfl
  have htake : (splice xs i [a]).take (i + 1) = xs.take i ++ [a] := by
    rw [splice, ← hpre, List.take_left]
  have hdrop : (splice xs i [a]).drop (i + 1 + 1) = xs.drop (i + 2) := by
    rw [splice, ← hpre, List.drop_length_add_append, List.drop_drop]
    rfl
  rw [splice, htake, List.length_singleton, hdrop]
  simp [splice]

/-! ## Fields -/

section Fields

variable {fields : List (List α)}

theorem flatten_eq (hk : fields[k]? = some ys) :
    fields.flatten = (fields.take k).flatten ++ ys ++ (fields.drop (k + 1)).flatten := by
  have hfields : fields = fields.take k ++ ys :: fields.drop (k + 1) := by
    obtain ⟨hlt, rfl⟩ := List.getElem?_eq_some_iff.mp hk
    rw [← List.drop_eq_getElem_cons hlt, List.take_append_drop]
  calc fields.flatten = (fields.take k ++ ys :: fields.drop (k + 1)).flatten :=
        congrArg List.flatten hfields
    _ = _ := by rw [List.flatten_append, List.flatten_cons, List.append_assoc]

theorem flatten_set (hk : fields[k]? = some ys) :
    (fields.set k zs).flatten = (fields.take k).flatten ++ zs ++ (fields.drop (k + 1)).flatten := by
  have hlt := (List.getElem?_eq_some_iff.mp hk).1
  rw [List.set_eq_take_append_cons_drop, if_pos hlt, List.flatten_append, List.flatten_cons,
    List.append_assoc]

/-- A write of a whole field. -/
theorem copyFromSlice_flatten (hk : fields[k]? = some ys) (hi : (fields.take k).flatten.length = i)
    (hj : i + ys.length = j) (hlen : zs.length = ys.length) :
    (copyFromSlice fields.flatten i j zs : Result ε (List α)) = .ok (fields.set k zs).flatten := by
  rw [copyFromSlice_eq (by omega), flatten_set hk, flatten_eq hk]
  · unfold splice
    rw [List.append_assoc (fields.take k).flatten ys, ← hi, List.take_left, hlen, ← List.append_assoc,
      ← List.length_append, List.drop_left]
  · rw [flatten_eq hk, List.length_append, List.length_append]
    omega

theorem set_flatten (hk : fields[k]? = some [b]) (hi : (fields.take k).flatten.length = i) :
    (set fields.flatten i a : Result ε (List α)) = .ok (fields.set k [a]).flatten := by
  have hlt : i < fields.flatten.length := by
    rw [flatten_eq hk, List.length_append, List.length_append, List.length_singleton]
    omega
  have hcopy : (copyFromSlice fields.flatten i (i + 1) [a] : Result ε (List α)) =
      .ok (fields.set k [a]).flatten := copyFromSlice_flatten hk hi rfl rfl
  have hsplice : (copyFromSlice fields.flatten i (i + 1) [a] : Result ε (List α)) =
      .ok (splice fields.flatten i [a]) := copyFromSlice_eq rfl hlt
  rw [set_eq hlt, ← hsplice, hcopy]

theorem drop_flatten (hi : (fields.take k).flatten.length = i) :
    fields.flatten.drop i = (fields.drop k).flatten := by
  have hsplit : fields.flatten = (fields.take k).flatten ++ (fields.drop k).flatten := by
    rw [← List.flatten_append, List.take_append_drop]
  rw [hsplit, ← hi, List.drop_left]

theorem take_drop_flatten (hk : fields[k]? = some ys) (hi : (fields.take k).flatten.length = i)
    (hn : ys.length = n) : (fields.flatten.drop i).take n = ys := by
  rw [flatten_eq hk, List.append_assoc, ← hi, List.drop_left, ← hn, List.take_left]

end Fields

end Buffer
