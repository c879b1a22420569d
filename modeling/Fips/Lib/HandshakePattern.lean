import Mathlib.Data.List.Forall2

/-!
# Noise handshake patterns

The token language of the Noise protocol framework and its meaning on a symmetric state. In a
two-letter token the first letter is the initiator's key and the second the responder's, whoever
writes the message. A symmetric state is any type with the three operations; hashing, encryption and
Diffie-Hellman come with it.

`State` is the symmetric state of the framework itself: a chaining key, a hash, and a cipher state
whose associated data is the hash (`EncryptAndHash`). `framework` are its operations. `detached` are
those of an implementation that encrypts under fixed associated data instead.

## Results

* `schedule_eq`: a handshake is a list of steps, each of which mixes in one input.
* `log_run_iff`: a detached run and one of the framework, whose steps differ in hashed data and key
  material only, mix in the same inputs exactly when the steps are the same and every plaintext is
  sealed alike under the hash and under the fixed data.
-/

namespace HandshakePattern

/-- What a message is made of; `payload` is the encrypted payload that ends it. -/
inductive Token
  | e
  | s
  | ee
  | es
  | se
  | ss
  | payload
  deriving DecidableEq, Repr

/-- The input of one mixing operation. -/
inductive Mix (δ : Type*)
  | hash (data : δ)
  | key (material : δ)
  deriving DecidableEq

/-- The operations of a symmetric state. -/
structure Symmetric (σ δ : Type*) where
  mixHash : σ → δ → σ
  mixKey : σ → δ → σ
  encryptAndHash : σ → δ → σ

/-- The secret keys of both parties. -/
structure Keys (κ : Type*) where
  initiatorStatic : κ
  initiatorEphemeral : κ
  responderStatic : κ
  responderEphemeral : κ

/-- Public keys as they are sent, and the shared secret of an initiator's and a responder's key. -/
structure Curve (κ δ : Type*) where
  publicKey : κ → δ
  dh : κ → κ → δ

/-- One message: who writes it, its tokens and its payload. -/
structure Message (δ : Type*) where
  byInitiator : Bool
  tokens : List Token
  payload : δ

variable {σ δ κ : Type*} (sym : Symmetric σ δ) (curve : Curve κ δ) (keys : Keys κ)

/-- What a token does to the symmetric state. -/
def Token.apply (m : Message δ) (x : σ) : Token → σ
  | .e => sym.mixHash x
      (curve.publicKey (if m.byInitiator then keys.initiatorEphemeral else keys.responderEphemeral))
  | .s => sym.encryptAndHash x
      (curve.publicKey (if m.byInitiator then keys.initiatorStatic else keys.responderStatic))
  | .ee => sym.mixKey x (curve.dh keys.initiatorEphemeral keys.responderEphemeral)
  | .es => sym.mixKey x (curve.dh keys.initiatorEphemeral keys.responderStatic)
  | .se => sym.mixKey x (curve.dh keys.initiatorStatic keys.responderEphemeral)
  | .ss => sym.mixKey x (curve.dh keys.initiatorStatic keys.responderStatic)
  | .payload => sym.encryptAndHash x m.payload

/-- The symmetric state after one message. -/
def Message.schedule (x : σ) (m : Message δ) : σ := m.tokens.foldl (Token.apply sym curve keys m) x

/-- The symmetric state after a handshake. -/
def schedule (x : σ) (messages : List (Message δ)) : σ :=
  messages.foldl (Message.schedule sym curve keys) x

/-- `-> e, es, s, ss` and `<- e, ee, se`, each with a payload. -/
def ik (p₁ p₂ : δ) : List (Message δ) :=
  [⟨true, [.e, .es, .s, .ss, .payload], p₁⟩, ⟨false, [.e, .ee, .se, .payload], p₂⟩]

/-- `-> e, es`, then `<- e, ee` and `-> s, se` with a payload. The first message has none. -/
def xk (p₁ p₂ p₃ : δ) : List (Message δ) :=
  [⟨true, [.e, .es], p₁⟩, ⟨false, [.e, .ee, .payload], p₂⟩, ⟨true, [.s, .se, .payload], p₃⟩]

/-! ## Handshakes as lists of steps -/

/-- One operation with its input; `encrypt` encrypts a plaintext and hashes the ciphertext. -/
inductive Step (δ : Type*)
  | hash (data : δ)
  | key (material : δ)
  | encrypt (plaintext : δ)
  deriving DecidableEq

/-- The operation on a symmetric state. -/
def Step.apply (x : σ) : Step δ → σ
  | .hash data => sym.mixHash x data
  | .key material => sym.mixKey x material
  | .encrypt plaintext => sym.encryptAndHash x plaintext

/-- The step of a token. -/
def Token.step (m : Message δ) : Token → Step δ
  | .e => .hash
      (curve.publicKey (if m.byInitiator then keys.initiatorEphemeral else keys.responderEphemeral))
  | .s => .encrypt
      (curve.publicKey (if m.byInitiator then keys.initiatorStatic else keys.responderStatic))
  | .ee => .key (curve.dh keys.initiatorEphemeral keys.responderEphemeral)
  | .es => .key (curve.dh keys.initiatorEphemeral keys.responderStatic)
  | .se => .key (curve.dh keys.initiatorStatic keys.responderEphemeral)
  | .ss => .key (curve.dh keys.initiatorStatic keys.responderStatic)
  | .payload => .encrypt m.payload

/-- The steps of a handshake. -/
def steps (messages : List (Message δ)) : List (Step δ) :=
  messages.flatMap fun m => m.tokens.map (Token.step curve keys m)

/-- The symmetric state after some steps. -/
def run (x : σ) (steps : List (Step δ)) : σ := steps.foldl (Step.apply sym) x

theorem Token.apply_eq (m : Message δ) (x : σ) (t : Token) :
    t.apply sym curve keys m x = (t.step curve keys m).apply sym x := by
  cases t <;> rfl

theorem Message.schedule_eq (x : σ) (m : Message δ) :
    m.schedule sym curve keys x = run sym x (m.tokens.map (Token.step curve keys m)) := by
  have happly : Token.apply sym curve keys m = fun x t => (t.step curve keys m).apply sym x := by
    funext x t
    exact t.apply_eq sym curve keys m x
  rw [Message.schedule, run, List.foldl_map, happly]

/-- **A handshake is the run of its steps.** -/
theorem schedule_eq (x : σ) (messages : List (Message δ)) :
    schedule sym curve keys x messages = run sym x (steps curve keys messages) := by
  induction messages generalizing x with
  | nil => rfl
  | cons m messages ih =>
    rw [schedule, List.foldl_cons, ← schedule, ih, Message.schedule_eq, run, run, run,
      ← List.foldl_append]
    rfl

/-! ## The symmetric state of the framework -/

/-- The functions the framework is used with: `HASH(h || data)`, both outputs of
`HKDF(ck, material)`, and `ENCRYPT(k, n, ad, plaintext)`. -/
structure Primitives (δ : Type*) where
  hash : δ → δ → δ
  hkdf : δ → δ → δ × δ
  encrypt : δ → Nat → δ → δ → δ

/-- Chaining key, hash, cipher key and nonce, with the inputs mixed in so far, the oldest first. -/
structure State (δ : Type*) where
  ck : δ
  h : δ
  k : Option δ
  n : Nat
  log : List (Mix δ)

namespace State

variable (prim : Primitives δ)

/-- `Initialize`: the hash of the protocol name, the prologue and the pre-messages. The inputs of the
messages are recorded from here on. -/
def start (h₀ prologue : δ) (premessages : List δ) : State δ :=
  ⟨h₀, (prologue :: premessages).foldl prim.hash h₀, none, 0, []⟩

/-- `MixHash`. -/
def mixHash (x : State δ) (data : δ) : State δ :=
  { x with h := prim.hash x.h data, log := x.log ++ [.hash data] }

/-- `MixKey`: the first output is the chaining key, the second the cipher key. -/
def mixKey (x : State δ) (material : δ) : State δ :=
  let output := prim.hkdf x.ck material
  { x with ck := output.1, k := some output.2, n := 0, log := x.log ++ [.key material] }

/-- The result of `EncryptWithAd`: without a key the plaintext stays as it is. -/
def sealed (x : State δ) (ad plaintext : δ) : δ :=
  match x.k with
  | none => plaintext
  | some k => prim.encrypt k x.n ad plaintext

/-- `EncryptWithAd` and `MixHash` of the ciphertext, for any choice of associated data. -/
def encryptAndHash (ad : State δ → δ) (x : State δ) (plaintext : δ) : State δ :=
  let n := if x.k.isSome then x.n + 1 else x.n
  { x with n := n }.mixHash prim (x.sealed prim (ad x) plaintext)

/-- The associated data of the framework, the hash, makes no difference against `ad`. -/
def SealsAlike (x : State δ) (ad plaintext : δ) : Prop :=
  x.sealed prim x.h plaintext = x.sealed prim ad plaintext

/-- The same chaining key and cipher state. -/
structure SameKeys (x y : State δ) : Prop where
  ck : x.ck = y.ck
  k : x.k = y.k
  n : x.n = y.n

end State

variable (prim : Primitives δ) (ad : δ)

/-- The operations of the framework: the hash is the associated data. -/
def framework : Symmetric (State δ) δ where
  mixHash := State.mixHash prim
  mixKey := State.mixKey prim
  encryptAndHash := State.encryptAndHash prim (·.h)

/-- The operations with fixed associated data. -/
def detached : Symmetric (State δ) δ where
  mixHash := State.mixHash prim
  mixKey := State.mixKey prim
  encryptAndHash := State.encryptAndHash prim fun _ => ad

/-- Where a run of the framework encrypts, and what. -/
def sealings (y : State δ) : List (Step δ) → List (State δ × δ)
  | [] => []
  | .encrypt plaintext :: steps =>
    (y, plaintext) :: sealings (Step.apply (framework prim) y (.encrypt plaintext)) steps
  | step :: steps => sealings (Step.apply (framework prim) y step) steps

/-- Steps that differ in hashed data and key material only. -/
inductive SameKind : Step δ → Step δ → Prop
  | hash (a b : δ) : SameKind (.hash a) (.hash b)
  | key (a b : δ) : SameKind (.key a) (.key b)
  | encrypt (plaintext : δ) : SameKind (.encrypt plaintext) (.encrypt plaintext)

/-- Steps without a difference. -/
theorem sameKind_refl (steps : List (Step δ)) : List.Forall₂ SameKind steps steps := by
  refine List.forall₂_same.mpr fun step _ => ?_
  cases step with
  | hash data => exact .hash data data
  | key material => exact .key material material
  | encrypt plaintext => exact .encrypt plaintext

section Logs

variable {prim ad} {x y : State δ} {l : List (Mix δ)} {step : Step δ} {steps : List (Step δ)}

variable (prim ad) in
/-- Every step mixes in one input. -/
theorem exists_log_apply (step : Step δ) (x : State δ) :
    (∃ input, (step.apply (framework prim) x).log = x.log ++ [input]) ∧
      ∃ input, (step.apply (detached prim ad) x).log = x.log ++ [input] := by
  cases step with
  | hash data => exact ⟨⟨_, rfl⟩, ⟨_, rfl⟩⟩
  | key material => exact ⟨⟨_, rfl⟩, ⟨_, rfl⟩⟩
  | encrypt plaintext => exact ⟨⟨_, rfl⟩, ⟨_, rfl⟩⟩

variable (prim ad) in
/-- A run of the framework adds one input for each step. -/
theorem exists_log_run (steps : List (Step δ)) (x : State δ) :
    (∃ inputs, (run (framework prim) x steps).log = x.log ++ inputs ∧
        inputs.length = steps.length) ∧
      ∃ inputs, (run (detached prim ad) x steps).log = x.log ++ inputs ∧
        inputs.length = steps.length := by
  induction steps generalizing x with
  | nil => exact ⟨⟨[], (List.append_nil _).symm, rfl⟩, ⟨[], (List.append_nil _).symm, rfl⟩⟩
  | cons step steps ih =>
    obtain ⟨⟨a, ha⟩, ⟨b, hb⟩⟩ := exists_log_apply prim ad step x
    obtain ⟨as, has, hlen⟩ := (ih (step.apply (framework prim) x)).1
    obtain ⟨bs, hbs, hlen'⟩ := (ih (step.apply (detached prim ad) x)).2
    refine ⟨⟨a :: as, ?_, congrArg (· + 1) hlen⟩, ⟨b :: bs, ?_, congrArg (· + 1) hlen'⟩⟩
    · rw [run, List.foldl_cons, ← run, has, ha, List.append_assoc, List.singleton_append]
    · rw [run, List.foldl_cons, ← run, hbs, hb, List.append_assoc, List.singleton_append]

/-- Equal logs at the end were equal before the last steps, as many on either side. -/
theorem log_eq_of_run {steps' : List (Step δ)} (hlen : steps.length = steps'.length)
    (h : (run (detached prim ad) x steps).log = l ++ (run (framework prim) y steps').log) :
    x.log = l ++ y.log := by
  obtain ⟨as, has, haslen⟩ := (exists_log_run prim ad steps x).2
  obtain ⟨bs, hbs, hbslen⟩ := (exists_log_run prim ad steps' y).1
  rw [has, hbs, ← List.append_assoc] at h
  exact List.append_inj_left' h (by rw [haslen, hbslen, hlen])

/-- Logs that end in one input each. -/
theorem log_concat_iff (a b : Mix δ) :
    x.log ++ [a] = l ++ (y.log ++ [b]) ↔ x.log = l ++ y.log ∧ a = b := by
  rw [← List.append_assoc]
  constructor
  · intro h
    obtain ⟨hlog, hlast⟩ := List.append_inj' h rfl
    exact ⟨hlog, List.singleton_inj.mp hlast⟩
  · rintro ⟨hlog, rfl⟩
    rw [hlog]

/-- **One step of the same kind** mixes in the same input exactly when it is the same step and what
it encrypts is sealed alike. -/
theorem log_apply_iff {step' : Step δ} (hxy : x.SameKeys y) (hkind : SameKind step step') :
    (step.apply (detached prim ad) x).log = l ++ (step'.apply (framework prim) y).log ↔
      x.log = l ++ y.log ∧ step = step' ∧
        ∀ plaintext, step' = .encrypt plaintext → y.SealsAlike prim ad plaintext := by
  cases hkind with
  | hash a b =>
    refine (log_concat_iff (.hash a) (.hash b)).trans (and_congr_right fun _ => ?_)
    rw [Mix.hash.injEq, Step.hash.injEq]
    exact (and_iff_left nofun).symm
  | key a b =>
    refine (log_concat_iff (.key a) (.key b)).trans (and_congr_right fun _ => ?_)
    rw [Mix.key.injEq, Step.key.injEq]
    exact (and_iff_left nofun).symm
  | encrypt plaintext =>
    refine (log_concat_iff (.hash (x.sealed prim ad plaintext))
      (.hash (y.sealed prim y.h plaintext))).trans (and_congr_right fun _ => ?_)
    have hsealed : x.sealed prim ad plaintext = y.sealed prim ad plaintext := by
      unfold State.sealed
      rw [hxy.k, hxy.n]
    rw [Mix.hash.injEq, hsealed]
    constructor
    · rintro halike
      refine ⟨rfl, ?_⟩
      rintro _ ⟨⟩
      exact halike.symm
    · rintro ⟨-, halike⟩
      exact (halike plaintext rfl).symm

/-- The keys depend on the key material alone. -/
theorem State.SameKeys.apply (hxy : x.SameKeys y) (step : Step δ) :
    (step.apply (detached prim ad) x).SameKeys (step.apply (framework prim) y) := by
  cases step with
  | hash data => exact ⟨hxy.ck, hxy.k, hxy.n⟩
  | key material =>
    have hkeys : prim.hkdf x.ck material = prim.hkdf y.ck material := by rw [hxy.ck]
    exact ⟨congrArg Prod.fst hkeys, congrArg (fun output : δ × δ => some output.2) hkeys, rfl⟩
  | encrypt plaintext =>
    refine ⟨hxy.ck, hxy.k, ?_⟩
    change (if x.k.isSome then x.n + 1 else x.n) = if y.k.isSome then y.n + 1 else y.n
    rw [hxy.k, hxy.n]

/-- What the framework encrypts in a run, from its first step on. -/
theorem forall_sealings_cons (p : State δ × δ → Prop) :
    (∀ s ∈ sealings prim y (step :: steps), p s) ↔
      (∀ plaintext, step = .encrypt plaintext → p (y, plaintext)) ∧
        ∀ s ∈ sealings prim (step.apply (framework prim) y) steps, p s := by
  cases step with
  | hash data => exact (and_iff_right nofun).symm
  | key material => exact (and_iff_right nofun).symm
  | encrypt plaintext =>
    refine List.forall_mem_cons.trans (and_congr_left fun _ => ?_)
    exact ⟨fun h _ heq => Step.encrypt.inj heq ▸ h, fun h => h plaintext rfl⟩

variable (prim ad) in
/-- **Logs of a whole run.** By induction on the steps. The keys of the two runs stay the same as long
as the steps are, and once a step differs the logs do. -/
theorem log_run_iff {steps' : List (Step δ)} (hxy : x.SameKeys y)
    (hkind : List.Forall₂ SameKind steps steps') :
    (run (detached prim ad) x steps).log = l ++ (run (framework prim) y steps').log ↔
      x.log = l ++ y.log ∧ steps = steps' ∧
        ∀ s ∈ sealings prim y steps', s.1.SealsAlike prim ad s.2 := by
  induction hkind generalizing x y with
  | nil => exact (and_iff_left ⟨rfl, nofun⟩).symm
  | @cons step step' steps steps' hstep hsteps ih =>
    rw [forall_sealings_cons, List.cons.injEq]
    constructor
    · intro h
      have hfirst := log_eq_of_run hsteps.length_eq (h : (run (detached prim ad)
        (step.apply (detached prim ad) x) steps).log =
          l ++ (run (framework prim) (step'.apply (framework prim) y) steps').log)
      obtain ⟨hlog, rfl, halike⟩ := (log_apply_iff hxy hstep).mp hfirst
      obtain ⟨-, rfl, hrest⟩ := (ih (hxy.apply step)).mp h
      exact ⟨hlog, ⟨rfl, rfl⟩, halike, hrest⟩
    · rintro ⟨hlog, ⟨rfl, rfl⟩, halike, hrest⟩
      exact (ih (hxy.apply step)).mpr ⟨(log_apply_iff hxy hstep).mpr ⟨hlog, rfl, halike⟩, rfl, hrest⟩

end Logs

end HandshakePattern
