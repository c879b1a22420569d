import Mathlib.Data.List.Flatten
import Mathlib.Data.List.Sort

/-!
# Numbered letters on an unreliable channel

A sender numbers its letters in increasing order and may skip numbers. Letters may be lost, delayed,
reordered and repeated. The receiver takes a letter whose number it has not taken before and that does
not lie a window below a number it has, and puts a remark on it.

## Results

* `Consistent.reach`: what holds in every state of a run.
* `Consistent.letters_subperm`: no letter is taken more often than it was sent.
* `Consistent.letters_sublist`: letters that are taken in increasing order are taken as they were sent.
-/

namespace Channel

variable {α β γ : Type*}

/-- Letters with increasing numbers from `lo` on and below `hi`. -/
structure Numbered (lo : ℕ) (letters : List (ℕ × α)) (hi : ℕ) : Prop where
  le : lo ≤ hi
  increasing : letters.Pairwise (·.1 < ·.1)
  bounds : ∀ l ∈ letters, lo ≤ l.1 ∧ l.1 < hi

namespace Numbered

variable {lo mid hi : ℕ} {letters letters' : List (ℕ × α)}

theorem nil (h : lo ≤ hi) : Numbered lo ([] : List (ℕ × α)) hi :=
  ⟨h, .nil, List.forall_mem_nil _⟩

theorem singleton (number : ℕ) (a : α) : Numbered number [(number, a)] (number + 1) where
  le := Nat.le_succ number
  increasing := List.pairwise_singleton _ _
  bounds := List.forall_mem_singleton.mpr ⟨le_rfl, Nat.lt_succ_self number⟩

theorem append (h : Numbered lo letters mid) (h' : Numbered mid letters' hi) :
    Numbered lo (letters ++ letters') hi where
  le := h.le.trans h'.le
  increasing := List.pairwise_append.mpr ⟨h.increasing, h'.increasing, fun l hl l' hl' =>
    (h.bounds l hl).2.trans_le (h'.bounds l' hl').1⟩
  bounds := List.forall_mem_append.mpr
    ⟨fun l hl => ⟨(h.bounds l hl).1, (h.bounds l hl).2.trans_le h'.le⟩,
      fun l hl => ⟨h.le.trans (h'.bounds l hl).1, (h'.bounds l hl).2⟩⟩

end Numbered

/-- What was sent, with the number that comes next, and what was taken, each with its remark. -/
structure State (α β : Type*) where
  next : ℕ
  sent : List (ℕ × α)
  taken : List ((ℕ × α) × β)

/-- The letters that were taken, in the order in which they were. -/
def State.letters (s : State α β) : List (ℕ × α) := s.taken.map Prod.fst

/-- The receiver takes a letter of this number. -/
def State.Takes (window : ℕ) (s : State α β) (number : ℕ) : Prop :=
  ∀ l ∈ s.letters, l.1 ≠ number ∧ l.1 < number + window

instance (window : ℕ) (s : State α β) (number : ℕ) : Decidable (s.Takes window number) :=
  inferInstanceAs (Decidable (∀ l ∈ s.letters, l.1 ≠ number ∧ l.1 < number + window))

/-- A step of either side. -/
inductive Step (window : ℕ) : State α β → State α β → Prop
  | send (s : State α β) (letters : List (ℕ × α)) (next : ℕ) (h : Numbered s.next letters next) :
      Step window s { s with next := next, sent := s.sent ++ letters }
  | take (s : State α β) (l : ℕ × α) (remark : β) (hsent : l ∈ s.sent) (h : s.Takes window l.1) :
      Step window s { s with taken := s.taken ++ [(l, remark)] }

/-- The states of the runs from `s`. -/
def Reach (window : ℕ) : State α β → State α β → Prop := Relation.ReflTransGen (Step window)

/-- The sender numbers from `first` on, and the receiver takes each of its letters at most once. -/
structure Consistent (first : ℕ) (s : State α β) : Prop where
  numbered : Numbered first s.sent s.next
  sent : s.letters ⊆ s.sent
  nodup : (s.letters.map Prod.fst).Nodup

namespace Consistent

variable {window first : ℕ} {s s' : State α β}

theorem start (first : ℕ) : Consistent first (⟨first, [], []⟩ : State α β) :=
  ⟨.nil le_rfl, List.nil_subset _, List.nodup_nil⟩

/-- **One step.** -/
theorem step (h : Consistent first s) (hstep : Step window s s') : Consistent first s' := by
  cases hstep with
  | send letters next hnumbered =>
    exact ⟨h.numbered.append hnumbered, List.subset_append_of_subset_left _ h.sent, h.nodup⟩
  | take l remark hsent htakes =>
    have hletters : State.letters { s with taken := s.taken ++ [(l, remark)] } = s.letters ++ [l] :=
      List.map_append
    refine ⟨h.numbered, ?_, ?_⟩
    · rw [hletters]
      exact List.append_subset.mpr ⟨h.sent, List.cons_subset.mpr ⟨hsent, List.nil_subset _⟩⟩
    · rw [hletters, List.map_append]
      refine List.Nodup.append h.nodup (List.nodup_singleton _) ?_
      intro number hnumber hl
      obtain ⟨l', hl', rfl⟩ := List.mem_map.mp hnumber
      exact (htakes l' hl').1 (List.mem_singleton.mp hl)

/-- **Every state of a run.** -/
theorem reach (h : Consistent first s) (hreach : Reach window s s') : Consistent first s' := by
  induction hreach with
  | refl => exact h
  | tail _ hstep ih => exact ih.step hstep

/-- **At most once.** -/
theorem letters_subperm (h : Consistent first s) : s.letters.Subperm s.sent :=
  List.subperm_of_subset (List.Nodup.of_map _ h.nodup) h.sent

/-- **In order**, where the numbers that were taken increase. -/
theorem letters_sublist (h : Consistent first s) (hsorted : s.letters.Pairwise (·.1 < ·.1)) :
    s.letters.Sublist s.sent := by
  have : Std.Antisymm fun l l' : ℕ × α => l.1 < l'.1 :=
    ⟨fun l l' hlt hgt => absurd (hlt.trans hgt) (lt_irrefl _)⟩
  exact List.sublist_of_subperm_of_pairwise h.letters_subperm hsorted h.numbered.increasing

/-- No copy of what the letters carry is received that was not sent. -/
theorem flatMap_subperm (h : Consistent first s) (f : ℕ × α → List γ) :
    (s.letters.flatMap f).Subperm (s.sent.flatMap f) := by
  obtain ⟨letters, hperm, hsublist⟩ := h.letters_subperm
  exact ⟨letters.flatMap f, hperm.flatMap_right f, hsublist.flatMap f⟩

end Consistent

end Channel
