import Mathlib.Data.List.Nodup
import Mathlib.Logic.Function.Basic

/-!
# Tokens and their holders

An allocator hands out tokens; the places that may hold one form a type of holders, each with at
most one token. `Balanced held used`: the tokens in use are exactly the held ones, and no two holders
share a token. So a balanced ledger has no leak, no token given out twice and none used after it was
given back.

Each lemma is one kind of bookkeeping step, on `Function.update` of the holders.

## Results

* `Balanced.take`, `Balanced.release`, `Balanced.move`: a free token is taken, a held one is given
  back, a held one changes its holder.
* `Balanced.releaseAll`: a list of holders gives back what it holds.
-/

namespace Ledger

open Function

variable {H I : Type*}

/-- Every token in use has exactly one holder. -/
structure Balanced (held : H → Option I) (used : List I) : Prop where
  nodup : used.Nodup
  mem_iff : ∀ i, i ∈ used ↔ ∃ h, held h = some i
  unique : ∀ h h' i, held h = some i → held h' = some i → h = h'

variable {held held' : H → Option I} {used : List I} {h h' : H} {i : I}

/-- Nothing is held. -/
theorem Balanced.empty : Balanced (fun _ : H => (none : Option I)) [] where
  nodup := List.nodup_nil
  mem_iff i := by simp
  unique h h' i hi := by cases hi

theorem Balanced.congr (hb : Balanced held used) (heq : ∀ h, held' h = held h) :
    Balanced held' used := by
  rwa [funext heq]

theorem Balanced.mem (hb : Balanced held used) (hi : held h = some i) : i ∈ used :=
  (hb.mem_iff i).mpr ⟨h, hi⟩

section Update

variable [DecidableEq H]

/-- **Taking** a free token. -/
theorem Balanced.take (hb : Balanced held used) (hh : held h = none) (hi : i ∉ used) :
    Balanced (update held h (some i)) (i :: used) where
  nodup := List.nodup_cons.mpr ⟨hi, hb.nodup⟩
  mem_iff j := by
    rw [List.mem_cons, hb.mem_iff]
    constructor
    · rintro (rfl | ⟨k, hk⟩)
      · exact ⟨h, update_self ..⟩
      · refine ⟨k, ?_⟩
        rw [update_of_ne (fun heq => by rw [heq, hh] at hk; cases hk), hk]
    · rintro ⟨k, hk⟩
      by_cases hkh : k = h
      · rw [hkh, update_self] at hk
        exact .inl (Option.some.inj hk).symm
      · rw [update_of_ne hkh] at hk
        exact .inr ⟨k, hk⟩
  unique k k' j hk hk' := by
    by_cases hkh : k = h <;> by_cases hkh' : k' = h
    · rw [hkh, hkh']
    · subst hkh
      rw [update_self] at hk
      rw [update_of_ne hkh'] at hk'
      exact absurd (Option.some.inj hk ▸ hb.mem hk') hi
    · subst hkh'
      rw [update_self] at hk'
      rw [update_of_ne hkh] at hk
      exact absurd (Option.some.inj hk' ▸ hb.mem hk) hi
    · rw [update_of_ne hkh] at hk
      rw [update_of_ne hkh'] at hk'
      exact hb.unique k k' j hk hk'

/-- **Giving back** a held token. -/
theorem Balanced.release [DecidableEq I] (hb : Balanced held used) (hi : held h = some i) :
    Balanced (update held h none) (used.erase i) where
  nodup := hb.nodup.erase i
  mem_iff j := by
    rw [hb.nodup.mem_erase_iff, hb.mem_iff]
    constructor
    · rintro ⟨hne, k, hk⟩
      refine ⟨k, ?_⟩
      rw [update_of_ne (fun heq => ?_), hk]
      rw [heq, hi] at hk
      exact hne (Option.some.inj hk).symm
    · rintro ⟨k, hk⟩
      have hkh : k ≠ h := by
        rintro rfl
        rw [update_self] at hk
        cases hk
      rw [update_of_ne hkh] at hk
      exact ⟨fun heq => hkh (hb.unique k h j hk (heq ▸ hi)), k, hk⟩
  unique k k' j hk hk' := by
    by_cases hkh : k = h
    · rw [hkh, update_self] at hk
      cases hk
    · by_cases hkh' : k' = h
      · rw [hkh', update_self] at hk'
        cases hk'
      · rw [update_of_ne hkh] at hk
        rw [update_of_ne hkh'] at hk'
        exact hb.unique k k' j hk hk'

/-- What one holder gives back. -/
def giveBack [DecidableEq I] (used : List I) : Option I → List I
  | none => used
  | some i => used.erase i

theorem Balanced.release' [DecidableEq I] (hb : Balanced held used) (h : H) :
    Balanced (update held h none) (giveBack used (held h)) := by
  cases hi : held h with
  | none => exact hb.congr fun k => by rw [← hi, update_eq_self]
  | some i => exact hb.release hi

/-- A held token **moves** to a holder without one. -/
theorem Balanced.move (hb : Balanced held used) (hi : held h = some i) (hh' : held h' = none) :
    Balanced (update (update held h none) h' (some i)) used where
  nodup := hb.nodup
  mem_iff j := by
    rw [hb.mem_iff]
    constructor
    · rintro ⟨k, hk⟩
      by_cases hkh : k = h
      · rw [hkh, hi] at hk
        exact ⟨h', by rw [update_self, hk]⟩
      · refine ⟨k, ?_⟩
        rw [update_of_ne (fun heq => by rw [heq, hh'] at hk; cases hk), update_of_ne hkh, hk]
    · rintro ⟨k, hk⟩
      by_cases hkh' : k = h'
      · rw [hkh', update_self] at hk
        exact ⟨h, hi.trans hk⟩
      · rw [update_of_ne hkh'] at hk
        by_cases hkh : k = h
        · rw [hkh, update_self] at hk
          cases hk
        · rw [update_of_ne hkh] at hk
          exact ⟨k, hk⟩
  unique k k' j hk hk' := by
    have hold : ∀ k, update (update held h none) h' (some i) k = some j →
        k = h' ∧ j = i ∨ k ≠ h' ∧ k ≠ h ∧ held k = some j := by
      intro k hk
      by_cases hkh' : k = h'
      · rw [hkh', update_self] at hk
        exact .inl ⟨hkh', (Option.some.inj hk).symm⟩
      · rw [update_of_ne hkh'] at hk
        by_cases hkh : k = h
        · rw [hkh, update_self] at hk
          cases hk
        · rw [update_of_ne hkh] at hk
          exact .inr ⟨hkh', hkh, hk⟩
    obtain ⟨rfl, rfl⟩ | ⟨-, hkh, hkeep⟩ := hold k hk
    · obtain ⟨rfl, -⟩ | ⟨-, hkh', hkeep'⟩ := hold k' hk'
      · rfl
      · exact absurd (hb.unique k' h j hkeep' hi) hkh'
    · obtain ⟨rfl, rfl⟩ | ⟨-, -, hkeep'⟩ := hold k' hk'
      · exact absurd (hb.unique k h j hkeep hi) hkh
      · exact hb.unique k k' j hkeep hkeep'

/-- A list of holders gives back what it holds, one after the other. -/
theorem Balanced.releaseAll [DecidableEq I] (hb : Balanced held used) (hs : List H) (hnodup : hs.Nodup) :
    Balanced (fun k => if k ∈ hs then none else held k)
      (hs.foldl (fun used h => giveBack used (held h)) used) := by
  induction hs generalizing held used with
  | nil => exact hb.congr fun k => by simp
  | cons h hs ih =>
    obtain ⟨hmem, hnodup⟩ := List.nodup_cons.mp hnodup
    have hrest := ih (hb.release' h) hnodup
    have hsame : hs.foldl (fun used k => giveBack used (update held h none k))
        (giveBack used (held h)) =
        hs.foldl (fun used k => giveBack used (held k)) (giveBack used (held h)) := by
      refine List.foldl_ext _ _ _ fun used k hk => ?_
      have hne : k ≠ h := fun heq => hmem (heq ▸ hk)
      rw [update_of_ne hne]
    rw [hsame] at hrest
    refine hrest.congr fun k => ?_
    by_cases hk : k = h
    · simp [hk]
    · simp [hk, update_of_ne]

end Update

end Ledger
