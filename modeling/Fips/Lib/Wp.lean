import Fips.Lib.Checked

/-!
# Weakest preconditions of methods

`wp m Q E s`: run from `s`, the method either returns a value that satisfies `Q` with the state it
leaves, or stops for a reason that satisfies `E` with the state it leaves. A panic is one of the
reasons, so `E` also says where a method may panic.

`attempt` is a call whose error the caller looks at, `body` the body of a function whose early
returns end that function only.

## Results

* `wp_bind_iff`: sequencing; with its siblings the `wp` of a method unfolds to a statement about
  its branches.
* `wp_mono`: consequence.
* `Keeps.bind`, `Keeps.body`: an invariant is kept by a sequence whose parts keep it.
* `Steady.bind`, `Steady.body`: so is the absence of panics from the states of an invariant.
* `Frames.bind`: a sequence leaves alone what its parts leave alone.
-/

namespace Checked

variable {σ ε ε' α β : Type}

/-- `match m { Ok(a) => .., Err(e) => .. }`. -/
def attempt (m : Method σ ε α) : Method σ ε' (Except ε α) := fun s =>
  match m s with
  | (s', .ok a) => (s', .ok (.ok a))
  | (s', .error (.error e)) => (s', .ok (.error e))
  | (s', .error .panic) => (s', .error .panic)

/-- Return early. -/
def stop (e : ε) : Method σ ε α := fun s => (s, .error (.error e))

/-- `unwrap` of `None`, `unreachable!`. -/
def crash : Method σ ε α := fun s => (s, .error .panic)

/-- The body of a function that returns nothing. -/
def body (m : Method σ Unit Unit) : Method σ ε Unit := do
  let _ ← attempt m
  pure ()

/-- `match x { Ok(a) => a, Err(_) => return }`. -/
def orReturn (x : Result ε' α) : Method σ Unit α := fun s =>
  match x with
  | .ok a => (s, .ok a)
  | .error (.error _) => (s, .error (.error ()))
  | .error .panic => (s, .error .panic)

/-- `ok_or(e)?`. -/
def orElse (e : ε) : Option α → Method σ ε α
  | some a => pure a
  | none => stop e

/-- What holds when the method ends: `Q` if it returns, `E` if it stops. -/
def wp (m : Method σ ε α) (Q : α → σ → Prop) (E : Fail ε → σ → Prop) (s : σ) : Prop :=
  match m s with
  | (s', .ok a) => Q a s'
  | (s', .error e) => E e s'

section Rules

variable {Q : α → σ → Prop} {E : Fail ε → σ → Prop} {s : σ}

@[simp] theorem wp_pure_iff {a : α} : wp (pure a : Method σ ε α) Q E s ↔ Q a s := Iff.rfl

/-- **Sequencing.** -/
@[simp] theorem wp_bind_iff {m : Method σ ε β} {f : β → Method σ ε α} :
    wp (m >>= f) Q E s ↔ wp m (fun b => wp (f b) Q E) E s := by
  unfold wp
  change (match (match m s with
    | (t, .ok a) => f a t
    | (t, .error e) => (t, .error e)) with
    | (s', .ok a) => Q a s'
    | (s', .error e) => E e s') ↔ _
  rcases m s with ⟨t, r⟩
  cases r with
  | ok b => exact Iff.rfl
  | error e => exact Iff.rfl

@[simp] theorem wp_read_iff {f : σ → α} : wp (read f : Method σ ε α) Q E s ↔ Q (f s) s := Iff.rfl

@[simp] theorem wp_write_iff {f : σ → σ} {Q : Unit → σ → Prop} :
    wp (write f : Method σ ε Unit) Q E s ↔ Q () (f s) := Iff.rfl

@[simp] theorem wp_stop_iff {e : ε} : wp (stop e : Method σ ε α) Q E s ↔ E (.error e) s := Iff.rfl

@[simp] theorem wp_crash_iff : wp (crash : Method σ ε α) Q E s ↔ E .panic s := Iff.rfl

theorem wp_require_iff {p : σ → Bool} {e : σ → ε} {Q : Unit → σ → Prop} :
    wp (require p e : Method σ ε Unit) Q E s ↔
      (p s = true → Q () s) ∧ (p s = false → E (.error (e s)) s) := by
  unfold wp require
  cases p s with
  | true => simp
  | false => simp

theorem wp_expect_iff {f : σ → Option α} :
    wp (expect f : Method σ ε α) Q E s ↔ (∀ a, f s = some a → Q a s) ∧ (f s = none → E .panic s) := by
  unfold wp expect unwrap
  cases f s with
  | none => simp
  | some a => simp

theorem wp_pureCall_iff {x : Result ε α} :
    wp (pureCall x : Method σ ε α) Q E s ↔
      (∀ a, x = .ok a → Q a s) ∧ (∀ e, x = .error e → E e s) := by
  unfold wp pureCall
  cases x with
  | ok a => simp
  | error e => simp

/-- A call on a value of its own. -/
theorem wp_pureCall_call {τ : Type} {m : Method σ ε α} {t : τ}
    {Q : α × σ → τ → Prop} {E : Fail ε → τ → Prop}
    (h : wp m (fun a s' => Q (a, s') t) (fun e _ => E e t) s) :
    wp (pureCall (call m s) : Method τ ε (α × σ)) Q E t := by
  unfold wp at h
  rw [wp_pureCall_iff]
  unfold call
  rcases hm : m s with ⟨s', r⟩
  rw [hm] at h
  cases r with
  | ok a =>
    refine ⟨fun b hb => ?_, fun e he => (by cases he)⟩
    cases hb
    exact h
  | error e =>
    refine ⟨fun b hb => (by cases hb), fun e' he => ?_⟩
    cases he
    exact h

theorem wp_lift_iff {f : σ → σ × Except ε α} :
    wp (lift f) Q E s ↔
      (∀ a, (f s).2 = .ok a → Q a (f s).1) ∧ (∀ e, (f s).2 = .error e → E (.error e) (f s).1) := by
  unfold wp lift ofExcept
  rcases f s with ⟨t, r⟩
  cases r with
  | ok a => simp
  | error e => simp

theorem wp_orReturn_iff {x : Result ε' α} {Q : α → σ → Prop} {E : Fail Unit → σ → Prop} :
    wp (orReturn x) Q E s ↔
      (∀ a, x = .ok a → Q a s) ∧ ((∃ e, x = .error (.error e)) → E (.error ()) s) ∧
        (x = .error .panic → E .panic s) := by
  unfold wp orReturn
  cases x with
  | ok a => simp
  | error e => cases e <;> simp

@[simp] theorem wp_orReturn_ok {a : α} {Q : α → σ → Prop} {E : Fail Unit → σ → Prop} :
    wp (orReturn (.ok a : Result ε' α)) Q E s ↔ Q a s := Iff.rfl

theorem wp_of_runs {s' : σ} {m : Method σ ε α} {a : α} (h : Runs m s a s') :
    wp m Q E s ↔ Q a s' := by
  unfold wp
  rw [h]

/-- What follows a method that returned. -/
theorem bind_of_runs {β : Type} {s s' : σ} {m : Method σ ε α} {f : α → Method σ ε β} {a : α}
    (h : m s = (s', .ok a)) : (m >>= f) s = f a s' := by
  simp only [bind, h]

theorem body_congr {s s' : σ} {m m' : Method σ Unit Unit} (h : m s = m' s') :
    (body m : Method σ ε Unit) s = body m' s' := by
  simp only [body, bind, attempt, h]

/-- A value that is there is passed on. -/
theorem orReturn_ok_bind {β : Type} (a : α) (k : α → Method σ Unit β) :
    (orReturn (.ok a : Result ε' α) >>= k) = k a := rfl

@[simp] theorem wp_orReturn_error {e : ε'} {Q : α → σ → Prop} {E : Fail Unit → σ → Prop} :
    wp (orReturn (.error (.error e) : Result ε' α)) Q E s ↔ E (.error ()) s := Iff.rfl

@[simp] theorem wp_orElse_some {e : ε} {a : α} :
    wp (orElse e (some a) : Method σ ε α) Q E s ↔ Q a s := Iff.rfl

@[simp] theorem wp_orElse_none {e : ε} :
    wp (orElse e none : Method σ ε α) Q E s ↔ E (.error e) s := Iff.rfl

theorem wp_orElse_iff {e : ε} {o : Option α} :
    wp (orElse e o : Method σ ε α) Q E s ↔
      (∀ a, o = some a → Q a s) ∧ (o = none → E (.error e) s) := by
  cases o with
  | none => simp [orElse]
  | some a => simp [orElse]

/-- A call whose errors are caught: only a panic passes through. -/
@[simp] theorem wp_attempt_iff {m : Method σ ε' β} {Q : Except ε' β → σ → Prop} :
    wp (attempt m : Method σ ε (Except ε' β)) Q E s ↔
      wp m (fun b => Q (.ok b)) (fun e s' => match e with
        | .error e => Q (.error e) s'
        | .panic => E .panic s') s := by
  unfold wp attempt
  rcases m s with ⟨t, r⟩
  cases r with
  | ok b => exact Iff.rfl
  | error e =>
    cases e with
    | error e => exact Iff.rfl
    | panic => exact Iff.rfl

@[simp] theorem wp_body_iff {m : Method σ Unit Unit} {Q : Unit → σ → Prop} :
    wp (body m : Method σ ε Unit) Q E s ↔
      wp m Q (fun e s' => match e with
        | .error _ => Q () s'
        | .panic => E .panic s') s := by
  unfold body
  rw [wp_bind_iff, wp_attempt_iff]
  unfold wp
  rcases m s with ⟨t, r⟩
  cases r with
  | ok u => exact Iff.rfl
  | error e =>
    cases e with
    | error e => exact Iff.rfl
    | panic => exact Iff.rfl

/-- What a body establishes whichever way it ends, its function does. -/
theorem wp_body_of_wp {m : Method σ Unit Unit} {P : σ → Prop}
    (h : wp m (fun _ => P) (fun _ => P) s) :
    wp (body m : Method σ ε Unit) (fun _ => P) (fun _ => P) s := by
  rw [wp_body_iff]
  unfold wp at h ⊢
  rcases hm : m s with ⟨t, r⟩
  rw [hm] at h
  cases r with
  | ok u => exact h
  | error e => cases e <;> exact h

/-- **Consequence.** -/
theorem wp_mono {m : Method σ ε α} {Q' : α → σ → Prop} {E' : Fail ε → σ → Prop}
    (hQ : ∀ a s', Q a s' → Q' a s') (hE : ∀ e s', E e s' → E' e s') (h : wp m Q E s) :
    wp m Q' E' s := by
  unfold wp at h ⊢
  rcases hm : m s with ⟨t, r⟩
  rw [hm] at h
  cases r with
  | ok a => exact hQ a t h
  | error e => exact hE e t h

/-- What a method establishes whichever way it ends holds of the state it leaves. -/
theorem fst_of_wp {m : Method σ ε α} {P : σ → Prop} (h : wp m (fun _ => P) (fun _ => P) s) :
    P (m s).1 := by
  unfold wp at h
  rcases hm : m s with ⟨t, r⟩
  rw [hm] at h
  cases r with
  | ok a => exact h
  | error e => exact h

/-- The same of a method that always returns. -/
theorem fst_of_wp_returns {m : Method σ ε α} {P : σ → Prop}
    (h : wp m (fun _ => P) (fun _ _ => False) s) : P (m s).1 :=
  fst_of_wp (wp_mono (fun _ _ hP => hP) (fun _ _ hF => hF.elim) h)

theorem wp_of_fst {m : Method σ ε α} {P : σ → Prop} (h : P (m s).1) :
    wp m (fun _ => P) (fun _ => P) s := by
  unfold wp
  rcases hm : m s with ⟨t, r⟩
  rw [hm] at h
  cases r with
  | ok a => exact h
  | error e => exact h

/-- Two descriptions of one run. -/
theorem wp_and {m : Method σ ε α} {Q' : α → σ → Prop} {E' : Fail ε → σ → Prop} (h : wp m Q E s)
    (h' : wp m Q' E' s) :
    wp m (fun a s' => Q a s' ∧ Q' a s') (fun e s' => E e s' ∧ E' e s') s := by
  unfold wp at h h' ⊢
  rcases hm : m s with ⟨t, r⟩
  rw [hm] at h h'
  cases r with
  | ok a => exact ⟨h, h'⟩
  | error e => exact ⟨h, h'⟩

/-- What a method that returns did. -/
theorem wp_and_runs {m : Method σ ε α} (h : wp m Q E s) :
    wp m (fun a s' => Q a s' ∧ Runs m s a s') E s := by
  unfold wp at h ⊢
  unfold Runs
  rcases hm : m s with ⟨t, r⟩
  rw [hm] at h
  cases r with
  | ok a => exact ⟨h, rfl⟩
  | error e => exact h

/-- The outcome of the run a rule describes. -/
theorem wp_and_result {m : Method σ ε α} (h : wp m Q E s) :
    wp m (fun a s' => Q a s' ∧ (m s).2 = .ok a) (fun e s' => E e s' ∧ (m s).2 = .error e) s := by
  unfold wp at h ⊢
  rcases hm : m s with ⟨t, r⟩
  rw [hm] at h
  cases r with
  | ok a => exact ⟨h, rfl⟩
  | error e => exact ⟨h, rfl⟩

/-- `P` holds of the state the method leaves, whichever way it ends. -/
abbrev Leaves (m : Method σ ε α) (P : σ → Prop) (s : σ) : Prop := wp m (fun _ => P) (fun _ => P) s

end Rules

/-- A call that does not panic. -/
theorem noPanic_call {m : Method σ ε α} {s : σ}
    (h : wp m (fun _ _ => True) (fun e _ => e ≠ .panic) s) : NoPanic (call m s) := by
  unfold wp at h
  unfold call
  rcases hm : m s with ⟨t, r⟩
  rw [hm] at h
  cases r with
  | ok a => exact noPanic_ok _
  | error e => exact fun heq => h (by cases heq; rfl)

/-- What a call returned. -/
theorem ok_of_wp {m : Method σ ε α} {s s' : σ} {a : α} {Q : α → σ → Prop} {E : Fail ε → σ → Prop}
    (h : wp m Q E s) (hcall : call m s = .ok (a, s')) : Q a s' := by
  unfold wp at h
  rw [call_eq_ok.mp hcall] at h
  exact h

/-! ## Invariants -/

/-- The method keeps `I` whichever way it ends. -/
def Keeps (I : σ → Prop) (m : Method σ ε α) : Prop := ∀ s, I s → I (m s).1

section Keeps

variable {I : σ → Prop}

theorem keeps_iff {m : Method σ ε α} :
    Keeps I m ↔ ∀ s, I s → wp m (fun _ => I) (fun _ => I) s :=
  ⟨fun h s hs => wp_of_fst (h s hs), fun h s hs => fst_of_wp (h s hs)⟩

theorem Keeps.wp {m : Method σ ε α} (h : Keeps I m) {s : σ} (hs : I s) :
    Checked.wp m (fun _ => I) (fun _ => I) s := wp_of_fst (h s hs)

theorem keeps_pure (a : α) : Keeps I (pure a : Method σ ε α) := fun _ hs => hs

theorem keeps_read (f : σ → α) : Keeps I (read f : Method σ ε α) := fun _ hs => hs

theorem keeps_stop (e : ε) : Keeps I (stop e : Method σ ε α) := fun _ hs => hs

theorem keeps_crash : Keeps I (crash : Method σ ε α) := fun _ hs => hs

theorem keeps_expect (f : σ → Option α) : Keeps I (expect f : Method σ ε α) := fun _ hs => hs

theorem keeps_pureCall (x : Result ε α) : Keeps I (pureCall x : Method σ ε α) := fun _ hs => hs

theorem keeps_orReturn (x : Result ε' α) : Keeps I (orReturn x : Method σ Unit α) := by
  rw [keeps_iff]
  exact fun s hs => wp_orReturn_iff.mpr ⟨fun _ _ => hs, fun _ => hs, fun _ => hs⟩

theorem keeps_orElse (e : ε) (o : Option α) : Keeps I (orElse e o : Method σ ε α) := by
  rw [keeps_iff]
  exact fun s hs => wp_orElse_iff.mpr ⟨fun _ _ => hs, fun _ => hs⟩

theorem keeps_write {f : σ → σ} (h : ∀ s, I s → I (f s)) : Keeps I (write f : Method σ ε Unit) := h

theorem Keeps.bind {m : Method σ ε α} {f : α → Method σ ε β} (hm : Keeps I m)
    (hf : ∀ a, Keeps I (f a)) : Keeps I (m >>= f) := by
  rw [keeps_iff]
  intro s hs
  rw [wp_bind_iff]
  exact wp_mono (fun a s' hs' => (hf a).wp hs') (fun _ _ hs' => hs') (hm.wp hs)

/-- The rest of the body runs on a value that was returned. -/
theorem keeps_orReturn_bind {x : Result ε' α} {f : α → Method σ Unit β}
    (hf : ∀ a, x = .ok a → Keeps I (f a)) : Keeps I (orReturn x >>= f) := by
  rw [keeps_iff]
  intro s hs
  rw [wp_bind_iff, wp_orReturn_iff]
  exact ⟨fun a ha => (hf a ha).wp hs, fun _ => hs, fun _ => hs⟩

theorem Keeps.attempt {m : Method σ ε α} (hm : Keeps I m) :
    Keeps I (attempt m : Method σ ε' (Except ε α)) := by
  rw [keeps_iff]
  intro s hs
  rw [wp_attempt_iff]
  refine wp_mono (fun _ _ hs' => hs') (fun e s' hs' => ?_) (hm.wp hs)
  cases e with
  | error e => exact hs'
  | panic => exact hs'

theorem Keeps.body {m : Method σ Unit Unit} (hm : Keeps I m) :
    Keeps I (body m : Method σ ε Unit) :=
  hm.attempt.bind fun _ => keeps_pure ()

theorem Keeps.ite {c : Prop} [Decidable c] {m m' : Method σ ε α} (hm : Keeps I m)
    (hm' : Keeps I m') : Keeps I (if c then m else m') := by
  split_ifs
  · exact hm
  · exact hm'

end Keeps

/-! ## Invariants without a panic -/

/-- From `I` the method does not panic, and it keeps `I` whichever way it ends. -/
def Steady (I : σ → Prop) (m : Method σ ε α) : Prop :=
  ∀ s, I s → wp m (fun _ => I) (fun e s' => e ≠ .panic ∧ I s') s

section Steady

variable {I : σ → Prop}

theorem error_ne_panic (e : ε) : Fail.error e ≠ .panic := fun h => by cases h

theorem Steady.keeps {m : Method σ ε α} (h : Steady I m) : Keeps I m :=
  fun s hs => fst_of_wp (wp_mono (fun _ _ hI => hI) (fun _ _ hI => hI.2) (h s hs))

theorem Keeps.steady {m : Method σ ε α} (hkeeps : Keeps I m)
    (hpanic : ∀ s, I s → Checked.wp m (fun _ _ => True) (fun e _ => e ≠ .panic) s) : Steady I m :=
  fun s hs => wp_mono (fun _ _ h => h.2) (fun _ _ h => h) (wp_and (hpanic s hs) (hkeeps.wp hs))

theorem steady_pure (a : α) : Steady I (pure a : Method σ ε α) := fun _ hs => hs

theorem steady_read (f : σ → α) : Steady I (read f : Method σ ε α) := fun _ hs => hs

theorem steady_stop (e : ε) : Steady I (stop e : Method σ ε α) :=
  fun _ hs => ⟨error_ne_panic e, hs⟩

theorem steady_write {f : σ → σ} (h : ∀ s, I s → I (f s)) : Steady I (write f : Method σ ε Unit) := h

theorem steady_pureCall {x : Result ε α} (h : NoPanic x) : Steady I (pureCall x : Method σ ε α) :=
  fun _ hs => wp_pureCall_iff.mpr ⟨fun _ _ => hs, fun _ he => ⟨fun heq => h (heq ▸ he), hs⟩⟩

theorem steady_orReturn {x : Result ε' α} (h : NoPanic x) :
    Steady I (orReturn x : Method σ Unit α) :=
  fun _ hs => wp_orReturn_iff.mpr
    ⟨fun _ _ => hs, fun _ => ⟨error_ne_panic _, hs⟩, fun hpanic => absurd hpanic h⟩

theorem steady_orElse (e : ε) (o : Option α) : Steady I (orElse e o : Method σ ε α) :=
  fun _ hs => wp_orElse_iff.mpr ⟨fun _ _ => hs, fun _ => ⟨error_ne_panic e, hs⟩⟩

theorem Steady.bind {m : Method σ ε α} {f : α → Method σ ε β} (hm : Steady I m)
    (hf : ∀ a, Steady I (f a)) : Steady I (m >>= f) :=
  fun s hs => wp_bind_iff.mpr (wp_mono (fun a s' hs' => hf a s' hs') (fun _ _ hE => hE) (hm s hs))

/-- What a pure call returned is known to what follows. -/
theorem steady_orReturn_bind {x : Result ε' α} {f : α → Method σ Unit β} (h : NoPanic x)
    (hf : ∀ a, x = .ok a → Steady I (f a)) : Steady I (orReturn x >>= f) :=
  fun s hs => wp_bind_iff.mpr (wp_orReturn_iff.mpr ⟨fun a ha => hf a ha s hs,
    fun _ => ⟨error_ne_panic _, hs⟩, fun hpanic => absurd hpanic h⟩)

theorem Steady.attempt {m : Method σ ε α} (hm : Steady I m) :
    Steady I (attempt m : Method σ ε' (Except ε α)) := by
  intro s hs
  rw [wp_attempt_iff]
  refine wp_mono (fun _ _ hI => hI) (fun e s' hE => ?_) (hm s hs)
  cases e with
  | error e => exact hE.2
  | panic => exact absurd rfl hE.1

theorem Steady.body {m : Method σ Unit Unit} (hm : Steady I m) :
    Steady I (body m : Method σ ε Unit) :=
  hm.attempt.bind fun _ => steady_pure ()

theorem Steady.ite {c : Prop} [Decidable c] {m m' : Method σ ε α} (hm : Steady I m)
    (hm' : Steady I m') : Steady I (if c then m else m') := by
  split_ifs
  · exact hm
  · exact hm'

end Steady

/-! ## Frame conditions -/

/-- The method leaves what `f` reads of the state as it was, whichever way it ends. -/
def Frames {τ : Type} (f : σ → τ) (m : Method σ ε α) : Prop := ∀ s, f (m s).1 = f s

section Frames

variable {τ : Type} {f : σ → τ}

theorem Frames.keeps {m : Method σ ε α} (h : Frames f m) (t : τ) : Keeps (fun s => f s = t) m :=
  fun s hs => (h s).trans hs

theorem frames_of_keeps {m : Method σ ε α} (h : ∀ t, Keeps (fun s => f s = t) m) : Frames f m :=
  fun s => h (f s) s rfl

theorem frames_pure (a : α) : Frames f (pure a : Method σ ε α) := fun _ => rfl

theorem frames_read (g : σ → α) : Frames f (read g : Method σ ε α) := fun _ => rfl

theorem frames_stop (e : ε) : Frames f (stop e : Method σ ε α) := fun _ => rfl

theorem frames_expect (g : σ → Option α) : Frames f (expect g : Method σ ε α) := fun _ => rfl

theorem frames_pureCall (x : Result ε α) : Frames f (pureCall x : Method σ ε α) := fun _ => rfl

theorem frames_orReturn (x : Result ε' α) : Frames f (orReturn x : Method σ Unit α) :=
  frames_of_keeps fun _ => keeps_orReturn x

theorem frames_orElse (e : ε) (o : Option α) : Frames f (orElse e o : Method σ ε α) :=
  frames_of_keeps fun _ => keeps_orElse e o

theorem frames_write {g : σ → σ} (h : ∀ s, f (g s) = f s) : Frames f (write g : Method σ ε Unit) :=
  h

theorem Frames.bind {m : Method σ ε α} {k : α → Method σ ε β} (hm : Frames f m)
    (hk : ∀ a, Frames f (k a)) : Frames f (m >>= k) :=
  frames_of_keeps fun t => (hm.keeps t).bind fun a => (hk a).keeps t

theorem Frames.attempt {m : Method σ ε α} (hm : Frames f m) :
    Frames f (attempt m : Method σ ε' (Except ε α)) :=
  frames_of_keeps fun t => (hm.keeps t).attempt

theorem Frames.body {m : Method σ Unit Unit} (hm : Frames f m) :
    Frames f (body m : Method σ ε Unit) :=
  frames_of_keeps fun t => (hm.keeps t).body

theorem Frames.ite {c : Prop} [Decidable c] {m m' : Method σ ε α} (hm : Frames f m)
    (hm' : Frames f m') : Frames f (if c then m else m') := by
  split_ifs
  · exact hm
  · exact hm'

end Frames

end Checked
