import Mathlib.Order.Basic

/-!
# Runs of a system that takes one event at a time

A system is a state type `σ`, an event type `ε` and a total `step : σ → ε → σ`; an event that is
not enabled leaves the state as it was. A run is a list of events. Two readings of a run:

* `Always step P s es`: `P` holds of every state the run passes through, the first included;
* `Along step C s es`: every event of the run meets `C` in the state it is taken from.

## Results

* `along_of_nodup`: a loop over distinct elements, each of which has a condition of its own.
* `Always.of_along`: an invariant that every step meeting `C` keeps holds throughout a run whose
  steps all meet `C`.
* `always_iff_along`: where a step from the invariant meets `P` afterwards exactly when it met `C`
  before, a run satisfies `P` throughout exactly when its steps all meet `C`.
-/

namespace EventRun

variable {σ ε : Type*} (step : σ → ε → σ)

/-- The state after a run. -/
def exec (s : σ) (es : List ε) : σ := es.foldl step s

@[simp] theorem exec_nil (s : σ) : exec step s [] = s := rfl

@[simp] theorem exec_cons (s : σ) (e : ε) (es : List ε) :
    exec step s (e :: es) = exec step (step s e) es := rfl

theorem exec_append (s : σ) (es₁ es₂ : List ε) :
    exec step s (es₁ ++ es₂) = exec step (exec step s es₁) es₂ := List.foldl_append ..

/-- Every event of the run meets `C` in the state it is taken from. -/
def Along (C : σ → ε → Prop) : σ → List ε → Prop
  | _, [] => True
  | s, e :: es => C s e ∧ Along C (step s e) es

/-- Every state of the run satisfies `P`. -/
def Always (P : σ → Prop) : σ → List ε → Prop
  | s, [] => P s
  | s, e :: es => P s ∧ Always P (step s e) es

variable {step} {P I : σ → Prop} {C : σ → ε → Prop} {s : σ} {es : List ε}

theorem Always.head (h : Always step P s es) : P s := by
  cases es with
  | nil => exact h
  | cons e es => exact h.1

theorem Always.mono {Q : σ → Prop} (hPQ : ∀ s, P s → Q s) (h : Always step P s es) :
    Always step Q s es := by
  induction es generalizing s with
  | nil => exact hPQ s h
  | cons e es ih => exact ⟨hPQ s h.1, ih h.2⟩

theorem Along.mono {D : σ → ε → Prop} (hCD : ∀ s e, C s e → D s e) (h : Along step C s es) :
    Along step D s es := by
  induction es generalizing s with
  | nil => trivial
  | cons e es ih => exact ⟨hCD s e h.1, ih h.2⟩

theorem along_append {es' : List ε} : Along step C s (es ++ es') ↔
    Along step C s es ∧ Along step C (EventRun.exec step s es) es' := by
  induction es generalizing s with
  | nil => exact (iff_of_eq (true_and _)).symm
  | cons e es ih => exact (and_congr_right fun _ => ih).trans and_assoc.symm

/-- A condition that every step meets. -/
theorem along_of_forall (h : ∀ s e, C s e) (s : σ) (es : List ε) : Along step C s es := by
  induction es generalizing s with
  | nil => trivial
  | cons e es ih => exact ⟨h s e, ih (step s e)⟩

theorem Along.and {D : σ → ε → Prop} (h : Along step C s es) (h' : Along step D s es) :
    Along step (fun s e => C s e ∧ D s e) s es := by
  induction es generalizing s with
  | nil => trivial
  | cons e es ih => exact ⟨⟨h.1, h'.1⟩, ih h.2 h'.2⟩

theorem Always.exec (h : Always step P s es) : P (exec step s es) := by
  induction es generalizing s with
  | nil => exact h
  | cons e es ih => exact ih h.2

/-- What every event of the run leaves as it was. -/
theorem exec_frames {τ : Type*} (f : σ → τ) (h : ∀ s, ∀ e ∈ es, f (step s e) = f s) :
    f (EventRun.exec step s es) = f s := by
  induction es generalizing s with
  | nil => rfl
  | cons e es ih =>
    rw [exec_cons, ih fun s e' he' => h s e' (List.mem_cons_of_mem e he')]
    exact h s e List.mem_cons_self

/-- A run that takes each event once, where no event touches the condition of another. -/
theorem along_of_nodup (hframe : ∀ s e e', e ≠ e' → C s e → C s e' → C (step s e) e')
    (hes : es.Nodup) (h : ∀ e ∈ es, C s e) : Along step C s es := by
  induction es generalizing s with
  | nil => trivial
  | cons e es ih =>
    obtain ⟨hfresh, hes⟩ := List.nodup_cons.mp hes
    have hC := h e List.mem_cons_self
    refine ⟨hC, ih hes fun e' he' => ?_⟩
    refine hframe s e e' ?_ hC (h e' (List.mem_cons_of_mem e he'))
    rintro rfl
    exact hfresh he'

/-- **The invariant rule.** -/
theorem Always.of_along (hstep : ∀ s e, I s → C s e → I (step s e)) (hs : I s)
    (h : Along step C s es) : Always step I s es := by
  induction es generalizing s with
  | nil => exact hs
  | cons e es ih => exact ⟨hs, ih (hstep s e hs h.1) h.2⟩

/-- The invariant rule where no step needs a condition. -/
theorem Always.of_step (hstep : ∀ s e, I s → I (step s e)) (hs : I s) : Always step I s es := by
  induction es generalizing s with
  | nil => exact hs
  | cons e es ih => exact ⟨hs, ih (hstep s e hs)⟩

/-- **Exact condition of a run** of events that each satisfy `A`. The invariant `I` may be used on
both sides because a step that meets `C` keeps it. -/
theorem always_iff_along_of {A : ε → Prop} (hP : ∀ s, I s → P s)
    (hiff : ∀ s e, I s → A e → P (step s e) → C s e)
    (hstep : ∀ s e, I s → A e → C s e → I (step s e)) (hs : I s) (hA : ∀ e ∈ es, A e) :
    Always step P s es ↔ Along step C s es := by
  induction es generalizing s with
  | nil => exact ⟨fun _ => trivial, fun _ => hP s hs⟩
  | cons e es ih =>
    have he := hA e List.mem_cons_self
    have hrest : I (step s e) → (Always step P (step s e) es ↔ Along step C (step s e) es) :=
      fun hI => ih hI fun e' he' => hA e' (List.mem_cons_of_mem e he')
    constructor
    · rintro ⟨-, h⟩
      have hC := hiff s e hs he h.head
      exact ⟨hC, (hrest (hstep s e hs he hC)).mp h⟩
    · rintro ⟨hC, h⟩
      exact ⟨hP s hs, (hrest (hstep s e hs he hC)).mpr h⟩

/-- The exact condition of a run of any events. -/
theorem always_iff_along (hP : ∀ s, I s → P s) (hiff : ∀ s e, I s → P (step s e) → C s e)
    (hstep : ∀ s e, I s → C s e → I (step s e)) (hs : I s) :
    Always step P s es ↔ Along step C s es :=
  always_iff_along_of (fun s hI => hP s hI) (fun s e hI (_ : True) => hiff s e hI)
    (fun s e hI _ => hstep s e hI) hs fun _ _ => trivial

end EventRun
