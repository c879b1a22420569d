import Fips.Lib.Map

/-!
# Gates that let a key pass once in a while

A gate remembers when each key last passed. A key that comes back sooner than `minInterval` is
refused; a key that passes is recorded, and records that have reached `maxAge` are dropped. The clock
does not run backwards.

`Gate.Sees now passed` relates a gate to the list of all that has passed so far, oldest first. What a
gate is for is a property of that list alone (`Spaced`).

## Results

* `Gate.Sees.ask`: one call, and what it says about the passes before it.
* `Spaced.length_le`: spaced passes in a window of time are few.
-/

/-- A gate for keys in `κ`. -/
structure Gate (κ : Type*) where
  lastPassed : Map κ Nat
  minInterval : Nat
  maxAge : Nat

variable {κ : Type*}

/-- Passes of one key are at least `d` apart. -/
def Spaced (d : Nat) (passed : List (Nat × κ)) : Prop :=
  passed.Pairwise fun p q => p.2 = q.2 → p.1 + d ≤ q.1

namespace Gate

/-- A gate that let nobody pass yet. -/
def new (minInterval maxAge : Nat) : Gate κ := ⟨∅, minInterval, maxAge⟩

/-- Drop what has reached its age. -/
def cleanup (now : Nat) (g : Gate κ) : Gate κ :=
  { g with lastPassed := g.lastPassed.filterMap fun _ last =>
      if now - last < g.maxAge then some last else none }

variable [DecidableEq κ]

/-- The key passed less than `minInterval` ago. -/
def tooSoon (now : Nat) (k : κ) (g : Gate κ) : Bool :=
  (g.lastPassed.lookup k).any fun last => decide (now - last < g.minInterval)

/-- Ask for `k` to pass. -/
def ask (now : Nat) (k : κ) (g : Gate κ) : Bool × Gate κ :=
  if g.tooSoon now k then (false, g)
  else (true, cleanup now { g with lastPassed := g.lastPassed.insert k now })

/-! ## What a gate remembers -/

/-- The gate after these passes, at `now`: a record is a pass, and a pass is recorded, or its key
passed later, or has been dropped at its age. -/
structure Sees (g : Gate κ) (now : Nat) (passed : List (Nat × κ)) : Prop where
  past : ∀ p ∈ passed, p.1 ≤ now
  recorded : ∀ k last, g.lastPassed.lookup k = some last → (last, k) ∈ passed
  kept : ∀ p ∈ passed, (∃ last, g.lastPassed.lookup p.2 = some last ∧ p.1 ≤ last) ∨
    ∃ q ∈ passed, p.1 + g.maxAge ≤ q.1
  spaced : Spaced (min g.minInterval g.maxAge) passed

theorem sees_new (minInterval maxAge now : Nat) : (new minInterval maxAge : Gate κ).Sees now [] where
  past _ h := by cases h
  recorded _ _ h := by cases h
  kept _ h := by cases h
  spaced := .nil

variable {g : Gate κ} {now : Nat} {passed : List (Nat × κ)} {k : κ}

theorem Sees.mono (h : g.Sees now passed) {now' : Nat} (hnow : now ≤ now') : g.Sees now' passed :=
  { h with past := fun p hp => le_trans (h.past p hp) hnow }

theorem tooSoon_iff : g.tooSoon now k = true ↔
    ∃ last, g.lastPassed.lookup k = some last ∧ now - last < g.minInterval := by
  simp [tooSoon, Option.any_eq_true]

/-- The record of a key after another one, or the same, has passed. -/
theorem lookup_cleanup_insert (now : Nat) (k j : κ) (g : Gate κ) :
    (cleanup now { g with lastPassed := g.lastPassed.insert k now }).lastPassed.lookup j =
      ((if j = k then some now else g.lastPassed.lookup j).bind fun last =>
        if now - last < g.maxAge then some last else none) := by
  unfold cleanup
  rw [Map.lookup_filterMap, Map.lookup_insert']

/-- A refusal is for a pass less than the interval ago. -/
theorem Sees.of_tooSoon (h : g.Sees now passed) (hsoon : g.tooSoon now k = true) :
    ∃ p ∈ passed, p.2 = k ∧ now < p.1 + g.minInterval := by
  obtain ⟨last, hlast, hage⟩ := tooSoon_iff.mp hsoon
  have hpast : last ≤ now := h.past _ (h.recorded k last hlast)
  exact ⟨(last, k), h.recorded k last hlast, rfl, by omega⟩

/-- A key that is not refused has been away long enough. -/
theorem Sees.away (h : g.Sees now passed) (hsoon : ¬g.tooSoon now k = true) :
    ∀ p ∈ passed, p.2 = k → p.1 + min g.minInterval g.maxAge ≤ now := by
  rintro p hp rfl
  rcases h.kept p hp with ⟨last, hlast, hle⟩ | ⟨q, hq, hage⟩
  · have hlong : ¬now - last < g.minInterval := fun hlt => hsoon (tooSoon_iff.mpr ⟨last, hlast, hlt⟩)
    have hpast : last ≤ now := h.past _ (h.recorded _ last hlast)
    omega
  · have hpast := h.past q hq
    omega

/-- The gate after a pass at `now`. -/
theorem Sees.pass (h : g.Sees now passed) (hsoon : ¬g.tooSoon now k = true) :
    (cleanup now { g with lastPassed := g.lastPassed.insert k now }).Sees now
      (passed ++ [(now, k)]) := by
  have hnew : (now, k) ∈ passed ++ [(now, k)] := List.mem_append_right _ (List.mem_singleton_self _)
  have hlookup := fun j => lookup_cleanup_insert now k j g
  -- whatever the record of `j` is after the insertion, it is kept or has reached its age
  have hkept : ∀ j t last, (if j = k then some now else g.lastPassed.lookup j) = some last →
      last ≤ now → t ≤ last → (∃ last, (cleanup now { g with lastPassed := g.lastPassed.insert k now }).lastPassed.lookup j =
        some last ∧ t ≤ last) ∨ ∃ q ∈ passed ++ [(now, k)], t + g.maxAge ≤ q.1 := by
    intro j t last hlast hpast ht
    by_cases hage : now - last < g.maxAge
    · exact .inl ⟨last, by rw [hlookup, hlast, Option.bind_some, if_pos hage], ht⟩
    · exact .inr ⟨(now, k), hnew, by omega⟩
  refine ⟨fun p hp => ?_, fun j last hlast => ?_, fun p hp => ?_, ?_⟩
  · rcases List.mem_append.mp hp with hold | hlast
    · exact h.past p hold
    · rw [List.mem_singleton.mp hlast]
  · rw [hlookup, Option.bind_eq_some_iff] at hlast
    obtain ⟨t, ht, hage⟩ := hlast
    split_ifs at hage with hyoung
    cases hage
    split_ifs at ht with hj
    · cases ht
      rwa [hj]
    · exact List.mem_append_left _ (h.recorded j last ht)
  · rcases List.mem_append.mp hp with hold | hlast
    · by_cases hk : p.2 = k
      · exact hkept p.2 p.1 now (if_pos hk) le_rfl (h.past p hold)
      · rcases h.kept p hold with ⟨last, hlast, hle⟩ | ⟨q, hq, hage⟩
        · have hpast : last ≤ now := h.past _ (h.recorded p.2 last hlast)
          exact hkept p.2 p.1 last (by rw [if_neg hk, hlast]) hpast hle
        · exact .inr ⟨q, List.mem_append_left _ hq, hage⟩
    · rw [List.mem_singleton.mp hlast]
      exact hkept k now now (if_pos rfl) le_rfl le_rfl
  · refine List.pairwise_append.mpr ⟨h.spaced, List.pairwise_singleton _ _, fun p hp q hq hkey => ?_⟩
    obtain rfl := List.mem_singleton.mp hq
    exact h.away hsoon p hp hkey

/-- **One call** at `now`. It passes only if no pass of its key is less than the smaller of the interval
and the age ago, and is refused only if one is less than the interval ago. -/
theorem Sees.ask (h : g.Sees now passed) (k : κ) :
    ((g.ask now k).1 = true ∧ (g.ask now k).2.Sees now (passed ++ [(now, k)]) ∧
      ∀ p ∈ passed, p.2 = k → p.1 + min g.minInterval g.maxAge ≤ now) ∨
    ((g.ask now k).1 = false ∧ (g.ask now k).2 = g ∧
      ∃ p ∈ passed, p.2 = k ∧ now < p.1 + g.minInterval) := by
  unfold Gate.ask
  by_cases hsoon : g.tooSoon now k = true
  · rw [if_pos hsoon]
    exact .inr ⟨rfl, rfl, h.of_tooSoon hsoon⟩
  · rw [if_neg hsoon]
    exact .inl ⟨rfl, h.pass hsoon, h.away hsoon⟩

theorem ask_of_refused (h : (g.ask now k).1 = false) : (g.ask now k).2 = g := by
  unfold Gate.ask at h ⊢
  split_ifs at h ⊢
  rfl

@[simp] theorem ask_minInterval (now : Nat) (k : κ) (g : Gate κ) :
    (g.ask now k).2.minInterval = g.minInterval := by
  unfold Gate.ask cleanup
  split_ifs <;> rfl

@[simp] theorem ask_maxAge (now : Nat) (k : κ) (g : Gate κ) :
    (g.ask now k).2.maxAge = g.maxAge := by
  unfold Gate.ask cleanup
  split_ifs <;> rfl

end Gate

/-! ## Few passes in a window -/

/-- Times at least `d` apart. -/
theorem add_length_mul_le {d t : Nat} {times : List Nat}
    (h : (t :: times).Pairwise fun a b => a + d ≤ b) {e : Nat} (he : ∀ s ∈ t :: times, s ≤ e) :
    t + times.length * d ≤ e := by
  induction times generalizing t with
  | nil => simpa using he t List.mem_cons_self
  | cons s times ih =>
    obtain ⟨hfirst, hrest⟩ := List.pairwise_cons.mp h
    have hlast := ih hrest fun u hu => he u (List.mem_cons_of_mem t hu)
    have hstep := hfirst s List.mem_cons_self
    rw [List.length_cons, Nat.succ_mul]
    omega

/-- Of one key at most `w / d + 1` passes fall into any stretch of time of length `w`. -/
theorem Spaced.length_le [DecidableEq κ] {d : Nat} (hd : 0 < d) {passed : List (Nat × κ)}
    (h : Spaced d passed) (k : κ) (start w : Nat) :
    (passed.filter fun p => decide (p.2 = k ∧ start ≤ p.1 ∧ p.1 ≤ start + w)).length ≤ w / d + 1 := by
  obtain ⟨few, hfew⟩ : ∃ l, l =
    passed.filter fun p => decide (p.2 = k ∧ start ≤ p.1 ∧ p.1 ≤ start + w) := ⟨_, rfl⟩
  have hmem : ∀ p ∈ few, p.2 = k ∧ start ≤ p.1 ∧ p.1 ≤ start + w := by
    intro p hp
    rw [hfew] at hp
    simpa using (List.mem_filter.mp hp).2
  have hspaced : Spaced d few := by
    rw [hfew]
    exact h.filter _
  rw [← hfew]
  cases few with
  | nil => exact Nat.zero_le _
  | cons p later =>
    have htimes : (p.1 :: later.map Prod.fst).Pairwise fun a b => a + d ≤ b := by
      have hall : ((p :: later).map Prod.fst).Pairwise fun a b => a + d ≤ b := by
        rw [List.pairwise_map]
        refine hspaced.imp_of_mem fun ha hb hab => hab ?_
        rw [(hmem _ ha).1, (hmem _ hb).1]
      exact hall
    have hend := add_length_mul_le htimes (e := start + w) fun t ht => by
      obtain ⟨q, hq, rfl⟩ := List.mem_map.mp (show t ∈ (p :: later).map Prod.fst from ht)
      exact (hmem q hq).2.2
    have hstart := (hmem p List.mem_cons_self).2.1
    rw [List.length_map] at hend
    rw [List.length_cons, Nat.add_le_add_iff_right, Nat.le_div_iff_mul_le hd]
    omega
