import Mathlib.Order.Basic

/-!
# Computations that may fail or stop

A call of a Rust function returns a value, returns an error of its own type, or stops the program
(an index out of bounds, a length that underflows, an `unwrap`, `expect` or `unreachable!`).
`Result ε α` is a pure computation of this kind, `Method σ ε α` one with a `&mut self` of type `σ`,
whose changes stay when it stops.

## Results

* `noPanic_bind`: a sequence never panics if its parts do not.
* `runs_bind_iff`: what a sequence of method steps does when it succeeds.
-/

universe u

namespace Checked

/-- Why a computation stopped. -/
inductive Fail (ε : Type*)
  | error (e : ε)
  | panic
  deriving DecidableEq

/-- What a function returns, or how it fails. -/
abbrev Result (ε α : Type*) := Except (Fail ε) α

section Pure

variable {ε : Type*} {α β : Type u}

/-- A result of the source's own `Result` type. -/
def ofExcept : Except ε α → Result ε α
  | .ok a => .ok a
  | .error e => .error (.error e)

/-- `unwrap` and `expect` of an option. -/
def unwrap : Option α → Result ε α
  | some a => .ok a
  | none => .error .panic

/-- `ok_or`. -/
def okOr (e : ε) : Option α → Result ε α
  | some a => .ok a
  | none => .error (.error e)

/-- `xs[i]`. -/
def index (xs : List α) (i : Nat) : Result ε α := unwrap xs[i]?

/-- `&xs[i..j]`. -/
def slice (xs : List α) (i j : Nat) : Result ε (List α) :=
  if i ≤ j ∧ j ≤ xs.length then .ok ((xs.drop i).take (j - i)) else .error .panic

/-- `&xs[i..]`. -/
def sliceFrom (xs : List α) (i : Nat) : Result ε (List α) :=
  if i ≤ xs.length then .ok (xs.drop i) else .error .panic

/-- `a - b` on unsigned integers. -/
def sub (a b : Nat) : Result ε Nat := if b ≤ a then .ok (a - b) else .error .panic

/-- `a + b` on `u32`s. -/
def addU32 (a b : Nat) : Result ε Nat :=
  if a + b < 4294967296 then .ok (a + b) else .error .panic

/-- The computation does not stop the program. -/
def NoPanic (x : Result ε α) : Prop := x ≠ .error .panic

theorem noPanic_ok (a : α) : NoPanic (.ok a : Result ε α) := fun h => by cases h

theorem noPanic_pure (a : α) : NoPanic (pure a : Result ε α) := noPanic_ok a

theorem noPanic_error (e : ε) : NoPanic (.error (.error e) : Result ε α) := fun h => by cases h

theorem noPanic_ofExcept (x : Except ε α) : NoPanic (ofExcept x) := by
  cases x with
  | ok a => exact noPanic_ok a
  | error e => exact noPanic_error e

theorem noPanic_okOr (e : ε) (o : Option α) : NoPanic (okOr e o) := by
  cases o with
  | some a => exact noPanic_ok a
  | none => exact noPanic_error e

theorem noPanic_unwrap {o : Option α} (h : o.isSome) : NoPanic (unwrap o : Result ε α) := by
  cases o with
  | some a => exact noPanic_ok a
  | none => cases h

theorem noPanic_index {xs : List α} {i : Nat} (h : i < xs.length) :
    NoPanic (index xs i : Result ε α) :=
  noPanic_unwrap (by simp [h])

theorem noPanic_slice {xs : List α} {i j : Nat} (hij : i ≤ j) (hj : j ≤ xs.length) :
    NoPanic (slice xs i j : Result ε (List α)) := by
  unfold slice
  rw [if_pos ⟨hij, hj⟩]
  exact noPanic_ok _

theorem noPanic_sliceFrom {xs : List α} {i : Nat} (h : i ≤ xs.length) :
    NoPanic (sliceFrom xs i : Result ε (List α)) := by
  unfold sliceFrom
  rw [if_pos h]
  exact noPanic_ok _

theorem noPanic_sub {a b : Nat} (h : b ≤ a) : NoPanic (sub a b : Result ε Nat) := by
  unfold sub
  rw [if_pos h]
  exact noPanic_ok _

/-- **Sequencing.** The second part only runs on what the first one returned. -/
theorem noPanic_bind {x : Result ε α} {f : α → Result ε β} (hx : NoPanic x)
    (hf : ∀ a, x = .ok a → NoPanic (f a)) : NoPanic (x >>= f) := by
  cases x with
  | ok a => exact hf a rfl
  | error e =>
    cases e with
    | error e => exact noPanic_error e
    | panic => exact absurd rfl hx

theorem ok_bind (a : α) (f : α → Result ε β) : Except.ok a >>= f = f a := rfl

theorem panic_bind (f : α → Result ε β) :
    (Except.error .panic : Result ε α) >>= f = .error .panic := rfl

theorem bind_eq_ok {x : Result ε α} {f : α → Result ε β} {b : β} :
    x >>= f = .ok b ↔ ∃ a, x = .ok a ∧ f a = .ok b := by
  cases x with
  | ok a => simp [bind, Except.bind]
  | error e => simp [bind, Except.bind]

theorem slice_eq_ok {xs ys : List α} {i j : Nat} :
    (slice xs i j : Result ε (List α)) = .ok ys ↔
      i ≤ j ∧ j ≤ xs.length ∧ (xs.drop i).take (j - i) = ys := by
  unfold slice
  split_ifs with h
  · simp [h]
  · simp only [false_iff]
    rintro ⟨hij, hj, -⟩
    exact h ⟨hij, hj⟩

theorem sliceFrom_of_le {xs : List α} {i : Nat} (h : i ≤ xs.length) :
    (sliceFrom xs i : Result ε (List α)) = .ok (xs.drop i) := if_pos h

theorem sliceFrom_eq_ok {xs ys : List α} {i : Nat} :
    (sliceFrom xs i : Result ε (List α)) = .ok ys ↔ i ≤ xs.length ∧ xs.drop i = ys := by
  unfold sliceFrom
  split_ifs with h
  · simp [h]
  · simp [h]

theorem sub_eq_ok {a b c : Nat} : (sub a b : Result ε Nat) = .ok c ↔ b ≤ a ∧ a - b = c := by
  unfold sub
  split_ifs with h
  · simp [h]
  · simp [h]

theorem addU32_eq {a b : Nat} (h : a + b < 4294967296) :
    (addU32 a b : Result ε Nat) = .ok (a + b) := if_pos h

theorem ofExcept_eq_ok {x : Except ε α} {a : α} : ofExcept x = .ok a ↔ x = .ok a := by
  cases x <;> simp [ofExcept]

theorem ok_of_toOption {x : Except ε α} {a : α} (h : x.toOption = some a) :
    x = .ok a := by
  cases x with
  | error e => cases h
  | ok b =>
    cases h
    rfl

theorem unwrap_eq_ok {o : Option α} {a : α} : (unwrap o : Result ε α) = .ok a ↔ o = some a := by
  cases o <;> simp [unwrap]

theorem okOr_eq_ok {e : ε} {o : Option α} {a : α} : okOr e o = .ok a ↔ o = some a := by
  cases o <;> simp [okOr]

theorem slice_all {xs : List α} {n : Nat} (h : xs.length = n) :
    (slice xs 0 n : Result ε (List α)) = .ok xs := by
  subst h
  simp [slice]

theorem slice_append_left {xs ys : List α} {n : Nat} (h : xs.length = n) :
    (slice (xs ++ ys) 0 n : Result ε (List α)) = .ok xs := by
  subst h
  simp [slice]

theorem slice_append_mid {xs ys zs : List α} {n m : Nat} (h : xs.length = n)
    (hm : n + ys.length = m) : (slice (xs ++ ys ++ zs) n m : Result ε (List α)) = .ok ys := by
  subst h hm
  simp [slice]

theorem sliceFrom_append {xs ys : List α} {n : Nat} (h : xs.length = n) :
    (sliceFrom (xs ++ ys) n : Result ε (List α)) = .ok ys := by
  subst h
  simp [sliceFrom]

/-- What a slice behind `xs` returns is what follows `xs`. -/
theorem slice_append_iff {xs rest ys : List α} {i n : Nat} (hi : xs.length = i) :
    (slice (xs ++ rest) i (i + n) : Result ε (List α)) = .ok ys ↔
      ys.length = n ∧ ∃ zs, rest = ys ++ zs := by
  subst hi
  rw [slice_eq_ok, List.drop_left, Nat.add_sub_cancel_left, List.length_append]
  constructor
  · rintro ⟨-, hlength, rfl⟩
    exact ⟨List.length_take_of_le (by omega), rest.drop n, (List.take_append_drop n rest).symm⟩
  · rintro ⟨rfl, zs, rfl⟩
    refine ⟨Nat.le_add_right _ _, ?_, List.take_left⟩
    rw [List.length_append]
    omega

/-- The element behind `xs`. -/
theorem index_append_iff {xs rest : List α} {i : Nat} {a : α} (hi : xs.length = i) :
    (index (xs ++ rest) i : Result ε α) = .ok a ↔ ∃ zs, rest = a :: zs := by
  subst hi
  unfold index
  rw [unwrap_eq_ok, List.getElem?_append_right (Nat.le_refl _), Nat.sub_self]
  cases rest with
  | nil => simp
  | cons b rest => simp [eq_comm]

end Pure

/-! ## Methods -/

/-- A call that may change its receiver. -/
def Method (σ ε α : Type) := σ → σ × Result ε α

section Method

variable {σ ε α β : Type}

instance : Monad (Method σ ε) where
  pure a := fun s => (s, .ok a)
  bind m f := fun s =>
    match m s with
    | (t, .ok a) => f a t
    | (t, .error e) => (t, .error e)

/-- The method returns `a` and leaves the state `s'`. -/
def Runs (m : Method σ ε α) (s : σ) (a : α) (s' : σ) : Prop := m s = (s', .ok a)

/-- A call whose receiver is dropped when it fails. -/
def call (m : Method σ ε α) (s : σ) : Result ε (α × σ) :=
  match m s with
  | (s', .ok a) => .ok (a, s')
  | (_, .error e) => .error e

/-- `expect` on a field. -/
def expect (f : σ → Option α) : Method σ ε α := fun s => (s, unwrap (f s))

/-- A value read off the state. -/
def read (f : σ → α) : Method σ ε α := fun s => (s, .ok (f s))

/-- A change of the state. -/
def write (f : σ → σ) : Method σ ε Unit := fun s => (f s, .ok ())

/-- A pure computation. -/
def pureCall (x : Result ε α) : Method σ ε α := fun s => (s, x)

/-- A call on a part of the state. -/
def lift (f : σ → σ × Except ε α) : Method σ ε α := fun s => ((f s).1, ofExcept (f s).2)

/-- Return early with `e` unless `p` holds. -/
def require (p : σ → Bool) (e : σ → ε) : Method σ ε Unit := fun s =>
  if p s then (s, .ok ()) else (s, .error (.error (e s)))

variable {s s' : σ} {a b : α}

theorem call_eq_ok {m : Method σ ε α} : call m s = .ok (a, s') ↔ Runs m s a s' := by
  unfold call Runs
  rcases m s with ⟨t, r⟩
  cases r with
  | ok b => simp [and_comm]
  | error e => simp

@[simp] theorem runs_pure_iff : Runs (pure a : Method σ ε α) s b s' ↔ b = a ∧ s' = s := by
  change (s, (Except.ok a : Result ε α)) = (s', .ok b) ↔ _
  simp [eq_comm, and_comm]

/-- **Sequencing.** -/
@[simp] theorem runs_bind_iff {m : Method σ ε α} {f : α → Method σ ε β} {c : β} :
    Runs (m >>= f) s c s' ↔ ∃ a t, Runs m s a t ∧ Runs (f a) t c s' := by
  unfold Runs
  change (match m s with
    | (t, .ok a) => f a t
    | (t, .error e) => (t, .error e)) = (s', .ok c) ↔ _
  rcases m s with ⟨t, r⟩
  cases r with
  | ok a =>
    constructor
    · intro h
      exact ⟨a, t, rfl, h⟩
    · rintro ⟨a', t', heq, h⟩
      cases heq
      exact h
  | error e => simp

@[simp] theorem runs_read_iff {f : σ → α} :
    Runs (read f : Method σ ε α) s a s' ↔ a = f s ∧ s' = s := by
  simp [Runs, read, eq_comm, and_comm]

@[simp] theorem runs_write_iff {f : σ → σ} {u : Unit} :
    Runs (write f : Method σ ε Unit) s u s' ↔ s' = f s := by
  simp [Runs, write, eq_comm]

@[simp] theorem runs_expect_iff {f : σ → Option α} :
    Runs (expect f : Method σ ε α) s a s' ↔ f s = some a ∧ s' = s := by
  simp [Runs, expect, unwrap_eq_ok, eq_comm, and_comm]

@[simp] theorem runs_pureCall_iff {x : Result ε α} :
    Runs (pureCall x : Method σ ε α) s a s' ↔ x = .ok a ∧ s' = s := by
  simp [Runs, pureCall, eq_comm, and_comm]

@[simp] theorem runs_lift_iff {f : σ → σ × Except ε α} :
    Runs (lift f) s a s' ↔ f s = (s', .ok a) := by
  unfold Runs lift
  rcases f s with ⟨t, r⟩
  simp [ofExcept_eq_ok]

@[simp] theorem runs_require_iff {p : σ → Bool} {e : σ → ε} {u : Unit} :
    Runs (require p e) s u s' ↔ p s = true ∧ s' = s := by
  unfold Runs require
  split_ifs with h
  · simp [h, eq_comm]
  · simp [h]

end Method

end Checked
