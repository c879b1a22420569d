import Fips.Lib.Wp

/-!
# Methods of a part of the state

A state `τ` with a part `σ` runs the methods of the part by `onPart`. A method of the whole
*simulates* one of the part if it does to the part what that one does and ends the same way; what it
does to the rest does not show.

The rest may hold a resource (slots, permits) of which a handler takes a unit: `take r` is what is left
of `r`. Started with the unit taken, a method that *carries* it returns with it or stops early having
given it back; one that *settles* it has given it back whichever way it ends. Neither panics.

## Results

* `Simulates.bind`, `Simulates.body`: a sequence simulates a sequence part by part.
* `Simulates.silent_then`, `Simulates.then_silent`: steps that leave the part alone do not count.
* `Carries.settles`: a handler that carries the unit up to a part that settles it settles it.
-/

namespace Checked

variable {σ τ ε ε' α β : Type}

/-! ## Methods that return -/

/-- The method returns from every state. -/
def Returns (m : Method σ ε α) : Prop := ∀ s, wp m (fun _ _ => True) (fun _ _ => False) s

/-- The method does not panic in any state. -/
def NeverPanics (m : Method σ ε α) : Prop := ∀ s, wp m (fun _ _ => True) (fun e _ => e ≠ .panic) s

section Returns

variable {m : Method σ ε α} {f : α → Method σ ε β}

theorem returns_pure (a : α) : Returns (pure a : Method σ ε α) := fun _ => trivial

theorem returns_read (f : σ → α) : Returns (read f : Method σ ε α) := fun _ => trivial

theorem returns_write (f : σ → σ) : Returns (write f : Method σ ε Unit) := fun _ => trivial

theorem Returns.bind (hm : Returns m) (hf : ∀ a, Returns (f a)) : Returns (m >>= f) := fun s =>
  wp_bind_iff.mpr (wp_mono (fun a s' _ => hf a s') (fun _ _ h => h) (hm s))

theorem Returns.ite {c : Prop} [Decidable c] {m' : Method σ ε α} (hm : Returns m)
    (hm' : Returns m') : Returns (if c then m else m') := by
  split_ifs
  · exact hm
  · exact hm'

theorem result_of_wp_returns {m : Method σ ε Unit} {Q : Unit → σ → Prop} {s : σ}
    (h : wp m Q (fun _ _ => False) s) : (m s).2 = .ok () := by
  unfold wp at h
  rcases hm : m s with ⟨t, r⟩
  rw [hm] at h
  cases r with
  | ok a => rfl
  | error e => exact False.elim h

theorem Returns.neverPanics (hm : Returns m) : NeverPanics m := fun s =>
  wp_mono (fun _ _ h => h) (fun _ _ h => h.elim) (hm s)

theorem neverPanics_stop (e : ε) : NeverPanics (stop e : Method σ ε α) := fun _ h => by cases h

theorem neverPanics_orElse (e : ε) (o : Option α) : NeverPanics (orElse e o : Method σ ε α) := by
  cases o with
  | none => exact neverPanics_stop e
  | some a => exact (returns_pure a).neverPanics

theorem neverPanics_pureCall {x : Result ε α} (hx : NoPanic x) :
    NeverPanics (pureCall x : Method σ ε α) := by
  intro s
  rw [wp_pureCall_iff]
  refine ⟨fun _ _ => trivial, ?_⟩
  rintro e he rfl
  exact hx he

theorem NeverPanics.bind (hm : NeverPanics m) (hf : ∀ a, NeverPanics (f a)) :
    NeverPanics (m >>= f) := fun s =>
  wp_bind_iff.mpr (wp_mono (fun a s' _ => hf a s') (fun _ _ h => h) (hm s))

theorem NeverPanics.ite {c : Prop} [Decidable c] {m' : Method σ ε α} (hm : NeverPanics m)
    (hm' : NeverPanics m') : NeverPanics (if c then m else m') := by
  split_ifs
  · exact hm
  · exact hm'

/-- A call whose errors are caught. -/
theorem NeverPanics.attempt (hm : NeverPanics m) :
    Returns (attempt m : Method σ ε' (Except ε α)) := by
  intro s
  rw [wp_attempt_iff]
  refine wp_mono (fun _ _ h => h) (fun e s' he => ?_) (hm s)
  cases e with
  | error e => trivial
  | panic => exact absurd rfl he

end Returns

/-! ## Parts -/

/-- How a state holds a part. -/
structure StatePart (τ σ : Type) where
  get : τ → σ
  set : τ → σ → τ
  get_set : ∀ t s, get (set t s) = s

variable (p : StatePart τ σ)

/-- A method of the part, run by the whole. -/
def onPart (m : Method σ ε α) : Method τ ε α := fun t =>
  let r := m (p.get t)
  (p.set t r.1, r.2)

theorem wp_onPart_iff {m : Method σ ε α} {Q : α → τ → Prop} {E : Fail ε → τ → Prop} {t : τ} :
    wp (onPart p m) Q E t ↔
      wp m (fun a s' => Q a (p.set t s')) (fun e s' => E e (p.set t s')) (p.get t) := by
  unfold wp onPart
  rcases m (p.get t) with ⟨s', r⟩
  cases r with
  | ok a => exact Iff.rfl
  | error e => exact Iff.rfl

/-- The method of the whole does to the part what `m` does. -/
def Simulates (m' : Method τ ε α) (m : Method σ ε α) : Prop :=
  ∀ t, (p.get (m' t).1, (m' t).2) = m (p.get t)

section Simulates

variable {p} {m' : Method τ ε α} {m : Method σ ε α}

theorem simulates_onPart (m : Method σ ε α) : Simulates p (onPart p m) m := fun t => by
  unfold onPart
  rw [p.get_set]

theorem simulates_pure (a : α) : Simulates p (pure a : Method τ ε α) (pure a) := fun _ => rfl

theorem simulates_stop (e : ε) : Simulates p (stop e : Method τ ε α) (stop e) := fun _ => rfl

theorem simulates_crash : Simulates p (crash : Method τ ε α) crash := fun _ => rfl

theorem Simulates.bind {f' : α → Method τ ε β} {f : α → Method σ ε β} (hm : Simulates p m' m)
    (hf : ∀ a, Simulates p (f' a) (f a)) : Simulates p (m' >>= f') (m >>= f) := by
  intro t
  have hstep := hm t
  simp only [Bind.bind]
  rcases hrun : m' t with ⟨t', r⟩
  rw [hrun] at hstep
  rw [← hstep]
  cases r with
  | ok a => exact hf a t'
  | error e => rfl

theorem Simulates.ite {c : Prop} [Decidable c] {n' : Method τ ε α} {n : Method σ ε α}
    (hm : Simulates p m' m) (hn : Simulates p n' n) :
    Simulates p (if c then m' else n') (if c then m else n) := by
  split_ifs
  · exact hm
  · exact hn

/-- A step that is skipped unless `c`. -/
theorem Simulates.ite_then {c : Prop} [Decidable c] {q' : Method τ ε Unit} {q : Method σ ε Unit}
    {k' : Unit → Method τ ε α} {k : Unit → Method σ ε α} (hq : Simulates p q' q)
    (hk : ∀ u, Simulates p (k' u) (k u)) :
    Simulates p (if c then q' >>= k' else k' ()) (if c then q >>= k else k ()) :=
  (hq.bind hk).ite (hk ())

theorem Simulates.attempt (hm : Simulates p m' m) :
    Simulates p (attempt m' : Method τ ε' (Except ε α)) (attempt m) := by
  intro t
  have hstep := hm t
  unfold Checked.attempt
  rcases hrun : m' t with ⟨t', r⟩
  rw [hrun] at hstep
  rw [← hstep]
  cases r with
  | ok a => rfl
  | error e => cases e <;> rfl

theorem Simulates.body {m' : Method τ Unit Unit} {m : Method σ Unit Unit} (hm : Simulates p m' m) :
    Simulates p (body m' : Method τ ε Unit) (body m) :=
  hm.attempt.bind fun _ => simulates_pure ()

/-- A step that leaves the part alone. -/
abbrev Silent (p : StatePart τ σ) (q : Method τ ε Unit) : Prop := Simulates p q (pure ())

theorem Simulates.silent_then {q : Method τ ε Unit} (hq : Silent p q) (hm : Simulates p m' m) :
    Simulates p (q >>= fun _ => m') m :=
  hq.bind fun _ => hm

theorem Simulates.then_silent {q m' : Method τ ε Unit} {m : Method σ ε Unit}
    (hm : Simulates p m' m) (hq : Silent p q) : Simulates p (m' >>= fun _ => q) m := by
  have hstep : (m >>= fun _ => pure ()) = m := by
    funext s
    simp only [Bind.bind]
    rcases m s with ⟨s', r⟩
    cases r <;> rfl
  rw [← hstep]
  exact hm.bind fun _ => hq

/-- `Simulates` from one state, where `m` may depend on what the rest of it holds. -/
def SimulatesFrom (p : StatePart τ σ) (t : τ) (m' : Method τ ε α) (m : Method σ ε α) : Prop :=
  (p.get (m' t).1, (m' t).2) = m (p.get t)

section SimulatesFrom

variable {t : τ}

theorem Simulates.at (hm : Simulates p m' m) (t : τ) : SimulatesFrom p t m' m := hm t

theorem SimulatesFrom.bind {f' : α → Method τ ε β} {f : α → Method σ ε β}
    (hm : SimulatesFrom p t m' m)
    (hf : ∀ a t', m' t = (t', .ok a) → SimulatesFrom p t' (f' a) (f a)) :
    SimulatesFrom p t (m' >>= f') (m >>= f) := by
  unfold SimulatesFrom at hm ⊢
  simp only [Bind.bind]
  rcases hrun : m' t with ⟨t', r⟩
  rw [hrun] at hm
  rw [← hm]
  cases r with
  | ok a => exact hf a t' hrun
  | error e => rfl

/-- Values read on both sides. -/
theorem SimulatesFrom.read_bind {γ δ : Type} {g' : τ → γ} {g : σ → δ} {f' : γ → Method τ ε β}
    {f : δ → Method σ ε β} (hf : SimulatesFrom p t (f' (g' t)) (f (g (p.get t)))) :
    SimulatesFrom p t (read g' >>= f') (read g >>= f) := hf

theorem SimulatesFrom.ite {c' c : Prop} [Decidable c'] [Decidable c] {n' : Method τ ε α}
    {n : Method σ ε α} (hc : c' ↔ c) (hm : c → SimulatesFrom p t m' m)
    (hn : ¬c → SimulatesFrom p t n' n) :
    SimulatesFrom p t (if c' then m' else n') (if c then m else n) := by
  by_cases h : c
  · rw [if_pos h, if_pos (hc.mpr h)]
    exact hm h
  · rw [if_neg h, if_neg (mt hc.mp h)]
    exact hn h

theorem SimulatesFrom.body {m' : Method τ Unit Unit} {m : Method σ Unit Unit}
    (hm : SimulatesFrom p t m' m) : SimulatesFrom p t (body m' : Method τ ε Unit) (body m) := by
  unfold SimulatesFrom Checked.body Checked.attempt at *
  simp only [Bind.bind]
  rcases hrun : m' t with ⟨t', r⟩
  rw [hrun] at hm
  rw [← hm]
  cases r with
  | ok a => rfl
  | error e => cases e <;> rfl

end SimulatesFrom

end Simulates

/-! ## Resources held by a handler -/

section Resource

variable {ρ : Type} (res : τ → ρ) (take : ρ → ρ)

/-- The method returns with the unit it was started with, or stops having given it back. -/
def Carries (m : Method τ ε α) : Prop :=
  ∀ r t, res t = take r →
    wp m (fun _ t' => res t' = take r) (fun e t' => e ≠ .panic ∧ res t' = r) t

/-- The unit the method was started with is given back at its end. -/
def Settles (m : Method τ ε α) : Prop :=
  ∀ r t, res t = take r →
    wp m (fun _ t' => res t' = r) (fun e t' => e ≠ .panic ∧ res t' = r) t

variable {res take} {m : Method τ ε α}

theorem carries_pure (a : α) : Carries res take (pure a : Method τ ε α) := fun _ _ h => h

/-- The part knows nothing of the resource. -/
theorem carries_onPart (hres : ∀ t s, res (p.set t s) = res t) {m : Method σ ε α}
    (hm : Returns m) : Carries res take (onPart p m) := by
  intro r t ht
  rw [wp_onPart_iff]
  exact wp_mono (fun _ s' _ => (hres t s').trans ht) (fun _ _ h => h.elim) (hm (p.get t))

theorem Carries.bind {f : α → Method τ ε β} (hm : Carries res take m)
    (hf : ∀ a, Carries res take (f a)) : Carries res take (m >>= f) := fun r t ht =>
  wp_bind_iff.mpr (wp_mono (fun a t' ht' => hf a r t' ht') (fun _ _ h => h) (hm r t ht))

theorem Carries.settles {f : α → Method τ ε β} (hm : Carries res take m)
    (hf : ∀ a, Settles res take (f a)) : Settles res take (m >>= f) := fun r t ht =>
  wp_bind_iff.mpr (wp_mono (fun a t' ht' => hf a r t' ht') (fun _ _ h => h) (hm r t ht))

theorem Carries.ite {c : Prop} [Decidable c] {m' : Method τ ε α} (hm : Carries res take m)
    (hm' : Carries res take m') : Carries res take (if c then m else m') := by
  split_ifs
  · exact hm
  · exact hm'

theorem Settles.ite {c : Prop} [Decidable c] {m' : Method τ ε α} (hm : Settles res take m)
    (hm' : Settles res take m') : Settles res take (if c then m else m') := by
  split_ifs
  · exact hm
  · exact hm'

/-- A step that is skipped unless `c`. -/
theorem Carries.ite_settles {c : Prop} [Decidable c] {q : Method τ ε Unit}
    {k : Unit → Method τ ε α} (hq : Carries res take q) (hk : ∀ u, Settles res take (k u)) :
    Settles res take (if c then q >>= k else k ()) :=
  (hq.settles hk).ite (hk ())

/-- Giving the unit back and returning early. -/
theorem Settles.then_stop {q : Method τ ε Unit} (hq : Settles res take q) (e : ε) {r : ρ} {t : τ}
    (ht : res t = take r) {Q : α → τ → Prop} :
    wp (q >>= fun _ => (stop e : Method τ ε α)) Q (fun e t' => e ≠ .panic ∧ res t' = r) t := by
  rw [wp_bind_iff]
  refine wp_mono (fun _ t' ht' => ?_) (fun _ _ h => h) (hq r t ht)
  exact ⟨fun h => (by cases h), ht'⟩

/-- An early exit where others go on. -/
theorem Settles.exit_carries {q : Method τ ε Unit} (hq : Settles res take q) (e : ε) :
    Carries res take (q >>= fun _ => (stop e : Method τ ε α)) := fun _ _ ht => hq.then_stop e ht

theorem Settles.exit {q : Method τ ε Unit} (hq : Settles res take q) (e : ε) :
    Settles res take (q >>= fun _ => (stop e : Method τ ε α)) := fun _ _ ht => hq.then_stop e ht

/-- A unit taken at the start and settled by the body leaves the resource as it was. -/
theorem Settles.body {m : Method τ Unit Unit} (hm : Settles res take m) {r : ρ} {t : τ}
    (ht : res t = take r) :
    wp (body m : Method τ ε Unit) (fun _ t' => res t' = r) (fun _ _ => False) t := by
  rw [wp_body_iff]
  refine wp_mono (fun _ _ h => h) (fun e t' h => ?_) (hm r t ht)
  cases e with
  | error e => exact h.2
  | panic => exact absurd rfl h.1

end Resource

end Checked
