import Mathlib.Logic.Function.Basic
import Mathlib.Logic.Relation

/-!
# Offers that cross

Two parties, one below the other, each of which may offer the other a link. A party that has no link
answers the offer it gets and goes on the link it answered. A party that hears the answer to its own
offer goes on that link, unless it answered an offer before and is the upper one. Offers and answers
may be lost, delayed, reordered and repeated; what has no effect is no step.

## Results

* `Consistent.reach`: what holds in every state of a run.
* `Consistent.agree`: two parties that both have a link have the same one, or the lower one has yet to
  hear an answer that was given.
* `Consistent.agree_of_heard`: they have the same one once it has.
-/

open Function (update update_self update_of_ne)

namespace Crossing

/-- The two parties, by their order. -/
inductive Side
  | lower
  | upper
  deriving DecidableEq, Repr

namespace Side

/-- The other party. -/
def other : Side → Side
  | .lower => .upper
  | .upper => .lower

@[simp] theorem other_other (r : Side) : r.other.other = r := by cases r <;> rfl

@[simp] theorem other_ne (r : Side) : r.other ≠ r := by cases r <;> decide

@[simp] theorem ne_other (r : Side) : r ≠ r.other := by cases r <;> decide

/-- What holds of one party and of the other holds of both. -/
theorem forall_of {P : Side → Prop} (r : Side) (h : P r) (h' : P r.other) : ∀ r', P r' := by
  intro r'
  cases r <;> cases r' <;> assumption

end Side

/-- The offers that were made, the answers that were given to them, who has heard the answer to its own,
and on whose offer's link each party is. -/
structure State (α β : Type*) where
  offer : Side → Option α
  answer : Side → Option β
  heard : Side → Bool
  active : Side → Option Side

variable {α β : Type*}

namespace State

/-- Nothing is offered. -/
def start : State α β := ⟨fun _ => none, fun _ => none, fun _ => false, fun _ => none⟩

/-- The link a party is on once it has heard the answer to its own offer. -/
def settled (s : State α β) (r : Side) : Side :=
  if r = .lower then r else (s.active r).getD r

/-- A party makes its offer. -/
def makeOffer (s : State α β) (r : Side) (offer : α) : State α β :=
  { s with offer := update s.offer r (some offer) }

/-- The offer of `r` is answered, and the answering party goes on its link. -/
def giveAnswer (s : State α β) (r : Side) (answer : β) : State α β :=
  { s with
    answer := update s.answer r (some answer)
    active := update s.active r.other (some r) }

/-- Party `r` hears the answer to its offer and settles. -/
def hearAnswer (s : State α β) (r : Side) : State α β :=
  { s with
    heard := update s.heard r true
    active := update s.active r (some (s.settled r)) }

theorem settled_of_idle {s : State α β} {r : Side} (h : s.active r = none) : s.settled r = r := by
  unfold settled
  rw [h, Option.getD_none, ite_self]

theorem settled_upper {s : State α β} {r : Side} (h : s.active .upper = some r) :
    s.settled .upper = r := by
  unfold settled
  rw [h, Option.getD_some, if_neg (by decide)]

end State

/-- A step of a party: `r` makes its only offer, the offer of `r` is answered, `r` hears that. -/
inductive Step : State α β → State α β → Prop
  | offer (s : State α β) (r : Side) (a : α) (h : s.offer r = none) : Step s (s.makeOffer r a)
  | answer (s : State α β) (r : Side) (b : β) (hoffer : (s.offer r).isSome)
      (hidle : s.active r.other = none) : Step s (s.giveAnswer r b)
  | hear (s : State α β) (r : Side) (hanswer : (s.answer r).isSome) (hdeaf : s.heard r = false) :
      Step s (s.hearAnswer r)

/-- Any number of steps. -/
def Reach : State α β → State α β → Prop := Relation.ReflTransGen Step

/-- What every reachable state satisfies. -/
structure Consistent (s : State α β) : Prop where
  offered : ∀ r, (s.answer r).isSome → (s.offer r).isSome
  answered : ∀ r, s.heard r = true → (s.answer r).isSome
  active_answered : ∀ r r', s.active r = some r' → (s.answer r').isSome
  active_heard : ∀ r, s.active r = some r → s.heard r = true
  upper_active : (s.answer .lower).isSome → s.active .upper = some .lower
  lower_active : (s.answer .upper).isSome → s.active .lower ≠ none
  lower_heard : s.heard .lower = true → s.active .lower = some .lower
  upper_heard : s.heard .upper = true → s.active .upper ≠ none

namespace Consistent

variable {s s' : State α β}

theorem start : Consistent (State.start : State α β) := by
  constructor <;> simp [State.start]

theorem makeOffer (h : Consistent s) (r : Side) (a : α) : Consistent (s.makeOffer r a) where
  offered r' hanswer := by
    by_cases hr : r' = r
    · subst hr
      simp [State.makeOffer]
    · simpa [State.makeOffer, hr] using h.offered r' hanswer
  answered := h.answered
  active_answered := h.active_answered
  active_heard := h.active_heard
  upper_active := h.upper_active
  lower_active := h.lower_active
  lower_heard := h.lower_heard
  upper_heard := h.upper_heard

/-- An offer is answered at most once. -/
theorem answer_eq_none (h : Consistent s) {r : Side} (hidle : s.active r.other = none) :
    s.answer r = none := by
  by_contra hsome
  have hanswer := Option.isSome_iff_ne_none.mpr hsome
  cases r with
  | lower => exact absurd (hidle.symm.trans (h.upper_active hanswer)) (Option.some_ne_none _).symm
  | upper => exact h.lower_active hanswer hidle

theorem giveAnswer (h : Consistent s) {r : Side} (hoffer : (s.offer r).isSome)
    (hidle : s.active r.other = none) (b : β) : Consistent (s.giveAnswer r b) := by
  have hfresh := h.answer_eq_none hidle
  have hanswer : ∀ r', (s.answer r').isSome → ((s.giveAnswer r b).answer r').isSome := by
    intro r' hr'
    by_cases hr : r' = r
    · subst hr
      simp [State.giveAnswer]
    · simpa [State.giveAnswer, hr] using hr'
  have hheard : s.heard r.other = true → False := by
    cases r with
    | lower => exact fun hheard => h.upper_heard hheard hidle
    | upper => exact fun hheard => absurd (hidle.symm.trans (h.lower_heard hheard)) (by simp)
  refine ⟨fun r' hr' => ?_, fun r' hr' => hanswer r' (h.answered r' hr'), fun r' r'' hr' => ?_,
    fun r' hr' => ?_, fun hr' => ?_, fun hr' => ?_, fun hr' => ?_, fun hr' => ?_⟩
  · by_cases hr : r' = r
    · exact hr ▸ hoffer
    · exact h.offered r' (by simpa [State.giveAnswer, hr] using hr')
  · by_cases hr : r' = r.other
    · subst hr
      obtain rfl : r = r'' := by simpa [State.giveAnswer] using hr'
      simp [State.giveAnswer]
    · exact hanswer r'' (h.active_answered r' r'' (by simpa [State.giveAnswer, hr] using hr'))
  · by_cases hr : r' = r.other
    · subst hr
      simp [State.giveAnswer] at hr'
    · exact h.active_heard r' (by simpa [State.giveAnswer, hr] using hr')
  · cases r with
    | lower => rfl
    | upper => exact h.upper_active hr'
  · cases r with
    | lower => exact h.lower_active hr'
    | upper => exact Option.some_ne_none _
  · cases r with
    | lower => exact h.lower_heard hr'
    | upper => exact (hheard hr').elim
  · cases r with
    | lower => exact Option.some_ne_none _
    | upper => exact h.upper_heard hr'

/-- The link a party settles on is one of an answered offer. -/
theorem answered_settled (h : Consistent s) {r : Side} (hanswer : (s.answer r).isSome) :
    (s.answer (s.settled r)).isSome := by
  cases r with
  | lower => exact hanswer
  | upper =>
    cases hactive : s.active .upper with
    | none => exact (State.settled_of_idle hactive).symm ▸ hanswer
    | some r' => exact (State.settled_upper hactive).symm ▸ h.active_answered _ r' hactive

theorem hearAnswer (h : Consistent s) {r : Side} (hanswer : (s.answer r).isSome) :
    Consistent (s.hearAnswer r) := by
  -- the upper party leaves a link it has as it is
  have hupper : ∀ r', s.active .upper = some r' → (s.hearAnswer r).active .upper = some r' := by
    intro r' hr'
    cases r with
    | lower => exact hr'
    | upper =>
      have hnow : (s.hearAnswer .upper).active .upper = some (s.settled .upper) := rfl
      rw [hnow, State.settled_upper hr']
  refine ⟨h.offered, fun r' hr' => ?_, fun r' r'' hr' => ?_, fun r' hr' => ?_,
    fun hr' => hupper _ (h.upper_active hr'), fun hr' => ?_, fun hr' => ?_, fun hr' => ?_⟩
  · by_cases hr : r' = r
    · exact hr ▸ hanswer
    · exact h.answered r' (by simpa [State.hearAnswer, hr] using hr')
  · by_cases hr : r' = r
    · subst hr
      obtain rfl : s.settled r' = r'' := by simpa [State.hearAnswer] using hr'
      exact h.answered_settled hanswer
    · exact h.active_answered r' r'' (by simpa [State.hearAnswer, hr] using hr')
  · by_cases hr : r' = r
    · subst hr
      simp [State.hearAnswer]
    · simpa [State.hearAnswer, hr] using
        h.active_heard r' (by simpa [State.hearAnswer, hr] using hr')
  · cases r with
    | lower => exact Option.some_ne_none _
    | upper => exact h.lower_active hr'
  · cases r with
    | lower => rfl
    | upper => exact h.lower_heard hr'
  · cases r with
    | lower => exact h.upper_heard hr'
    | upper => exact Option.some_ne_none _

/-- **One step.** -/
theorem step (h : Consistent s) (hstep : Step s s') : Consistent s' := by
  cases hstep with
  | offer r a _ => exact h.makeOffer r a
  | answer r b hoffer hidle => exact h.giveAnswer hoffer hidle b
  | hear r hanswer _ => exact h.hearAnswer hanswer

/-- **Every state of a run.** -/
theorem reach (h : Consistent s) (hreach : Reach s s') : Consistent s' := by
  induction hreach with
  | refl => exact h
  | tail _ hstep ih => exact ih.step hstep

/-- **Agreement**, but for an answer that is still to arrive. -/
theorem agree (h : Consistent s) (hactive : ∀ r, s.active r ≠ none) :
    (∃ r, ∀ r', s.active r' = some r) ∨
      (s.active = (some ·.other) ∧ (s.answer .lower).isSome ∧ s.heard .lower = false) := by
  obtain ⟨x, hx⟩ := Option.ne_none_iff_exists'.mp (hactive .lower)
  obtain ⟨y, hy⟩ := Option.ne_none_iff_exists'.mp (hactive .upper)
  cases y with
  | upper =>
    refine .inl ⟨.upper, fun r' => ?_⟩
    cases r' with
    | upper => exact hy
    | lower =>
      cases x with
      | upper => exact hx
      | lower => exact absurd (hy.symm.trans (h.upper_active (h.active_answered _ _ hx))) (by decide)
  | lower =>
    cases x with
    | lower =>
      refine .inl ⟨.lower, fun r' => ?_⟩
      cases r' with
      | lower => exact hx
      | upper => exact hy
    | upper =>
      refine .inr ⟨funext fun r' => ?_, h.active_answered _ _ hy, ?_⟩
      · cases r' with
        | lower => exact hx
        | upper => exact hy
      · by_contra hheard
        exact absurd (hx.symm.trans (h.lower_heard (Bool.not_eq_false _ ▸ hheard))) (by decide)

/-- **Agreement** once the lower party has heard its answer. -/
theorem agree_of_heard (h : Consistent s) (hheard : s.heard .lower = true) (r : Side) :
    s.active r = some .lower := by
  cases r with
  | lower => exact h.lower_heard hheard
  | upper => exact h.upper_active (h.answered _ hheard)

end Consistent

end Crossing
