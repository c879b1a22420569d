import Fips.Noise.Exchange

/-!
# The documented patterns

`noise/mod.rs` documents the two handshakes as Noise IK and Noise XK. Here the inputs of `mix_hash`
and `mix_key` in an undisturbed exchange are compared with those of the Noise framework run on the
same keys: the symmetric state of `Lib/HandshakePattern` with SHA-256, HKDF, ChaCha20-Poly1305 and
its nonce format, an empty prologue, the even-parity pre-message, the x-only Diffie-Hellman and the
epochs as payloads.

The code departs from the framework twice. `encrypt_and_hash` passes no associated data where the
framework passes the handshake hash, and the second key of IK message 2 is `es` again, not `se`.

## Results

* `view_run`: the symmetric state of the code runs as that of the framework with empty associated
  data.
* `follows_patterns_iff`: what has to coincide for both patterns to be followed.
* `not_follows_emptyPayload`: with the empty payload that the framework also encrypts in XK
  message 1, XK is never followed.
-/

open Checked HandshakePattern

namespace Fips

namespace SymmetricState

variable [Sha256] [HkdfSha256] [ChaCha20Poly1305]

/-- SHA-256, HKDF and ChaCha20-Poly1305 as the framework is given them. The AEAD does not fail on
what a handshake encrypts. -/
def primitives : Primitives Bytes where
  hash h data := Sha256.digest (h ++ data)
  hkdf ck material :=
    ((HkdfSha256.expand ck material).take 32, ((HkdfSha256.expand ck material).drop 32).take 32)
  encrypt k n ad plaintext :=
    (ChaCha20Poly1305.encrypt k (CipherState.counterToNonce n) ad plaintext).getD []

/-- The symmetric state of the code as one of the framework. -/
def view (x : SymmetricState) : State Bytes :=
  ⟨x.ck, x.h, if x.cipher.hasKey then some x.cipher.key else none, x.cipher.nonce, x.log⟩

/-- A plaintext the cipher takes. -/
def Sealable (plaintext : Bytes) : Prop := plaintext.length ≤ MAX_MESSAGE_SIZE - TAG_SIZE

variable {x : SymmetricState}

open HandshakeState (symmetricOps)

/-- `encrypt_and_hash` is `EncryptAndHash` with empty associated data. -/
theorem view_encryptAndHash (haead : ChaCha20Poly1305.Lawful) (hn : x.cipher.nonce < U64_MAX)
    {plaintext : Bytes} (hlen : Sealable plaintext) :
    (x.encryptAndHash plaintext).1.view =
      x.view.encryptAndHash primitives (fun _ => []) plaintext := by
  by_cases hkey : x.cipher.hasKey = true
  · obtain ⟨c, henc, -, -⟩ := haead.decrypt_encrypt x.cipher.key
      (CipherState.counterToNonce x.cipher.nonce) [] plaintext hlen
    have hcipher : x.cipher.encrypt plaintext =
        ({ x.cipher with nonce := x.cipher.nonce + 1 }, .ok c) := by
      simp [CipherState.encrypt, CipherState.encryptWithAad, CipherState.nextNonce, hkey, henc,
        Nat.not_lt.mpr hlen, Nat.ne_of_lt hn]
    simp [encryptAndHash, hcipher, view, mixHash, State.encryptAndHash, State.sealed,
      State.mixHash, primitives, hkey, henc]
  · have hcipher : x.cipher.encrypt plaintext = (x.cipher, .ok plaintext) := by
      simp [CipherState.encrypt, CipherState.encryptWithAad, hkey]
    simp [encryptAndHash, hcipher, view, mixHash, State.encryptAndHash, State.sealed,
      State.mixHash, primitives, hkey]

/-- One step of the code. -/
theorem view_apply (haead : ChaCha20Poly1305.Lawful) (hn : x.cipher.nonce < U64_MAX)
    (step : Step Bytes) (hlen : ∀ plaintext, step = .encrypt plaintext → Sealable plaintext) :
    (step.apply symmetricOps x).view = step.apply (detached primitives []) x.view := by
  cases step with
  | hash data => rfl
  | key material => rfl
  | encrypt plaintext => exact view_encryptAndHash haead hn (hlen plaintext rfl)

/-- A step moves the nonce by one at most. -/
theorem nonce_apply_le (step : Step Bytes) :
    (step.apply symmetricOps x).cipher.nonce ≤ x.cipher.nonce + 1 := by
  cases step with
  | hash data => exact Nat.le_succ _
  | key material => exact Nat.zero_le _
  | encrypt plaintext =>
    have hcipher : (x.encryptAndHash plaintext).1.cipher = (x.cipher.encrypt plaintext).1 := by
      unfold encryptAndHash
      rcases x.cipher.encrypt plaintext with ⟨c, _ | ciphertext⟩ <;> rfl
    exact hcipher ▸ x.cipher.nonce_encryptWithAad_le plaintext []

/-- **The code runs as the framework does with empty associated data**, as long as its nonces last. -/
theorem view_run (haead : ChaCha20Poly1305.Lawful) {steps : List (Step Bytes)}
    (hn : x.cipher.nonce + steps.length ≤ U64_MAX)
    (hlen : ∀ plaintext, .encrypt plaintext ∈ steps → Sealable plaintext) :
    (run symmetricOps x steps).view = run (detached primitives []) x.view steps := by
  induction steps generalizing x with
  | nil => rfl
  | cons step steps ih =>
    rw [List.length_cons] at hn
    have hstep := view_apply haead (x := x) (by omega) step fun plaintext heq =>
      hlen plaintext (heq ▸ List.mem_cons_self)
    have hnonce := nonce_apply_le (x := x) step
    have hrest := ih (x := step.apply symmetricOps x) (by omega) fun plaintext hmem =>
      hlen plaintext (List.mem_cons_of_mem _ hmem)
    rw [hstep] at hrest
    exact hrest

end SymmetricState

namespace HandshakeState

open SymmetricState (primitives view Sealable)

variable {SecretKey PublicKey : Type} [Secp256k1 SecretKey PublicKey]

section Patterns

variable [Sha256] [HkdfSha256] [ChaCha20Poly1305]

/-! ## The framework on the same keys -/

/-- The framework after `Initialize`: no prologue, and the responder's static key as the pre-message,
its parity forced to even. -/
def noiseStart (protocolName : Bytes) (p : Parties SecretKey PublicKey) : State Bytes :=
  .start primitives (SymmetricState.initial protocolName).h []
    [normalizeForPremessage SecretKey (Secp256k1.publicKey p.responderStatic)]

/-- The framework after some messages. -/
def noiseAfter (protocolName : Bytes) (p : Parties SecretKey PublicKey)
    (messages : List (Message Bytes)) : State Bytes :=
  schedule (framework primitives) (curveOps SecretKey) p.toKeys (noiseStart protocolName p) messages

/-- Wherever the framework encrypts in these messages, the handshake hash as associated data gives
the bytes that empty associated data gives. -/
def SealedAlike (protocolName : Bytes) (messages : List (Message Bytes))
    (p : Parties SecretKey PublicKey) : Prop :=
  ∀ s ∈ sealings primitives (noiseStart protocolName p)
    (steps (curveOps SecretKey) p.toKeys messages), s.1.SealsAlike primitives [] s.2

instance (protocolName : Bytes) (messages : List (Message Bytes))
    (p : Parties SecretKey PublicKey) : Decidable (SealedAlike protocolName messages p) :=
  List.decidableBAll (fun s : State Bytes × Bytes =>
    s.1.sealed primitives s.1.h s.2 = s.1.sealed primitives [] s.2) _

/-- Both parties of the exchange complete. After the pre-message they mixed in what the framework
mixes in, in its order. -/
def Follows (protocolName : Bytes) (messages : List (Message Bytes))
    (exchange : Result NoiseError
      (HandshakeState SecretKey PublicKey × HandshakeState SecretKey PublicKey))
    (p : Parties SecretKey PublicKey) : Prop :=
  let inputs := .hash (normalizeForPremessage SecretKey (Secp256k1.publicKey p.responderStatic)) ::
    (noiseAfter protocolName p messages).log
  ∃ i r, exchange = .ok (i, r) ∧ i.symmetric.log = inputs ∧ r.symmetric.log = inputs

/-- IK on `<- s`, `-> e, es, s, ss`, `<- e, ee, se` with the epochs as payloads. -/
def FollowsIk (p : Parties SecretKey PublicKey) : Prop :=
  Follows PROTOCOL_NAME_IK (ik p.initiatorEpoch.bytes p.responderEpoch.bytes) (ikExchange p) p

/-- XK on `<- s`, `-> e, es`, `<- e, ee`, `-> s, se` with the epochs as payloads. -/
def FollowsXk (p : Parties SecretKey PublicKey) : Prop :=
  Follows PROTOCOL_NAME_XK (xk [] p.responderEpoch.bytes p.initiatorEpoch.bytes) (xkExchange p) p

/-- What IK encrypts is sealed alike with and without the handshake hash. -/
def SealedAlikeIk (p : Parties SecretKey PublicKey) : Prop :=
  SealedAlike PROTOCOL_NAME_IK (ik p.initiatorEpoch.bytes p.responderEpoch.bytes) p

/-- What XK encrypts is sealed alike with and without the handshake hash. -/
def SealedAlikeXk (p : Parties SecretKey PublicKey) : Prop :=
  SealedAlike PROTOCOL_NAME_XK (xk [] p.responderEpoch.bytes p.initiatorEpoch.bytes) p

/-! ## Comparison -/

variable (hcurve : Secp256k1.Lawful SecretKey) (haead : ChaCha20Poly1305.Lawful)
  (p : Parties SecretKey PublicKey)

/-- Messages within the bounds of the cipher. -/
structure Bounded (messages : List (Message Bytes)) : Prop where
  nonces : (steps (curveOps SecretKey) p.toKeys messages).length ≤ U64_MAX
  sealable : ∀ plaintext, .encrypt plaintext ∈ steps (curveOps SecretKey) p.toKeys messages →
    Sealable plaintext

include haead in
/-- The parties' state is that of a detached run. -/
theorem view_after (protocolName : Bytes) {coded : List (Message Bytes)} (hcoded : Bounded p coded) :
    (after protocolName p coded).view = run (detached primitives [])
      (premessage protocolName p).view (steps (curveOps SecretKey) p.toKeys coded) := by
  rw [after, schedule_eq]
  exact SymmetricState.view_run haead ((Nat.zero_add _).trans_le hcoded.nonces) hcoded.sealable

include haead in
/-- A schedule of the code against one of the framework with the same kinds of steps. -/
theorem log_after_iff (protocolName : Bytes) {coded : List (Message Bytes)}
    (hcoded : Bounded p coded) (messages : List (Message Bytes))
    (hkind : List.Forall₂ SameKind (steps (curveOps SecretKey) p.toKeys coded)
      (steps (curveOps SecretKey) p.toKeys messages)) :
    (after protocolName p coded).log =
        .hash (normalizeForPremessage SecretKey (Secp256k1.publicKey p.responderStatic)) ::
          (noiseAfter protocolName p messages).log ↔
      steps (curveOps SecretKey) p.toKeys coded = steps (curveOps SecretKey) p.toKeys messages ∧
        SealedAlike protocolName messages p := by
  have hview := view_after haead p protocolName hcoded
  have hkeys : (premessage protocolName p).view.SameKeys (noiseStart protocolName p) :=
    ⟨rfl, rfl, rfl⟩
  have hlog := log_run_iff primitives []
    (l := [.hash (normalizeForPremessage SecretKey (Secp256k1.publicKey p.responderStatic))])
    hkeys hkind
  rw [← hview] at hlog
  rw [noiseAfter, schedule_eq]
  exact hlog.trans (and_iff_right rfl)

include hcurve

omit [HkdfSha256] [ChaCha20Poly1305] in
/-- Beside the payloads a message encrypts a public key at most. -/
theorem bounded_of_payloads {messages : List (Message Bytes)}
    (hnonces : (steps (curveOps SecretKey) p.toKeys messages).length ≤ U64_MAX)
    (hpayloads : ∀ m ∈ messages, Sealable m.payload) : Bounded p messages := by
  refine ⟨hnonces, fun plaintext hmem => ?_⟩
  obtain ⟨m, hm, hstep⟩ := List.mem_flatMap.mp hmem
  obtain ⟨t, -, ht⟩ := List.mem_map.mp hstep
  cases t with
  | s =>
    cases ht
    exact length_publicKey_le hcurve _
  | payload =>
    cases ht
    exact hpayloads m hm
  | e | ee | es | se | ss => cases ht

omit [HkdfSha256] [ChaCha20Poly1305] in
theorem bounded_xk : Bounded p (xk [] p.responderEpoch.bytes p.initiatorEpoch.bytes) := by
  refine bounded_of_payloads hcurve p (Nat.le_of_ble_eq_true rfl) ?_
  simp only [xk, List.forall_mem_cons]
  exact ⟨Nat.zero_le _, p.responderEpoch.length_le, p.initiatorEpoch.length_le, nofun⟩

omit [HkdfSha256] [ChaCha20Poly1305] in
theorem bounded_ikAsCoded :
    Bounded p (ikAsCoded p.initiatorEpoch.bytes p.responderEpoch.bytes) := by
  refine bounded_of_payloads hcurve p (Nat.le_of_ble_eq_true rfl) ?_
  simp only [ikAsCoded, List.forall_mem_cons]
  exact ⟨p.initiatorEpoch.length_le, p.responderEpoch.length_le, nofun⟩

omit hcurve in
/-- An exchange that completes with one log on both sides follows the messages that give this log. -/
theorem follows_iff {protocolName : Bytes} {messages : List (Message Bytes)}
    {exchange : Result NoiseError
      (HandshakeState SecretKey PublicKey × HandshakeState SecretKey PublicKey)}
    {i r : HandshakeState SecretKey PublicKey} (hexchange : exchange = .ok (i, r))
    {log : List (Mix Bytes)} (hi : i.symmetric.log = log) (hr : r.symmetric.log = log) :
    Follows protocolName messages exchange p ↔
      log = .hash (normalizeForPremessage SecretKey (Secp256k1.publicKey p.responderStatic)) ::
        (noiseAfter protocolName p messages).log := by
  constructor
  · rintro ⟨i', r', hex, hlog, -⟩
    rw [hexchange] at hex
    cases hex
    exact hi.symm.trans hlog
  · intro h
    exact ⟨i, r, hexchange, hi.trans h, hr.trans h⟩

include haead

/-- **XK** mixes what its pattern says as far as its ciphertexts are those of the framework. -/
theorem followsXk_iff : FollowsXk p ↔ SealedAlikeXk p := by
  have hlog := log_after_iff haead p PROTOCOL_NAME_XK (bounded_xk hcurve p) _ (sameKind_refl _)
  rw [and_iff_right rfl] at hlog
  exact (follows_iff p (xkExchange_eq hcurve p haead) rfl rfl).trans hlog

/-- **IK** mixes `es` a second time where its pattern has `se`. -/
theorem followsIk_iff :
    FollowsIk p ↔
      ecdh p.initiatorEphemeral (Secp256k1.publicKey p.responderStatic) =
        ecdh p.initiatorStatic (Secp256k1.publicKey p.responderEphemeral) ∧ SealedAlikeIk p := by
  have hlog := log_after_iff haead p PROTOCOL_NAME_IK (bounded_ikAsCoded hcurve p)
    (ik p.initiatorEpoch.bytes p.responderEpoch.bytes) (by
      refine .cons (.hash _ _) (.cons (.key _ _) (.cons (.encrypt _) (.cons (.key _ _)
        (.cons (.encrypt _) ?_))))
      exact .cons (.hash _ _) (.cons (.key _ _) (.cons (.key _ _) (.cons (.encrypt _) .nil))))
  have hsteps : steps (curveOps SecretKey) p.toKeys
        (ikAsCoded p.initiatorEpoch.bytes p.responderEpoch.bytes) =
      steps (curveOps SecretKey) p.toKeys (ik p.initiatorEpoch.bytes p.responderEpoch.bytes) ↔
      ecdh p.initiatorEphemeral (Secp256k1.publicKey p.responderStatic) =
        ecdh p.initiatorStatic (Secp256k1.publicKey p.responderEphemeral) := by
    simp [steps, ikAsCoded, ik, Token.step, curveOps]
  rw [hsteps] at hlog
  exact (follows_iff p (ikExchange_eq hcurve p haead) rfl rfl).trans hlog

/-- The framework also ends XK message 1 with a payload, of length zero, whose tag it hashes. The
code has one input less, so it never follows XK in this form. -/
theorem not_follows_emptyPayload :
    ¬ Follows PROTOCOL_NAME_XK
      [⟨true, [.e, .es, .payload], []⟩, ⟨false, [.e, .ee, .payload], p.responderEpoch.bytes⟩,
        ⟨true, [.s, .se, .payload], p.initiatorEpoch.bytes⟩] (xkExchange p) p := by
  intro hfollows
  have hi := (follows_iff p (xkExchange_eq hcurve p haead) rfl rfl).mp hfollows
  have hview := view_after haead p PROTOCOL_NAME_XK (bounded_xk hcurve p)
  obtain ⟨coded, hcoded, hcount⟩ := (exists_log_run primitives []
    (steps (curveOps SecretKey) p.toKeys (xk [] p.responderEpoch.bytes p.initiatorEpoch.bytes))
    (premessage PROTOCOL_NAME_XK p).view).2
  obtain ⟨noise, hnoise, hcount'⟩ := (exists_log_run primitives []
    (steps (curveOps SecretKey) p.toKeys
      [⟨true, [.e, .es, .payload], []⟩, ⟨false, [.e, .ee, .payload], p.responderEpoch.bytes⟩,
        ⟨true, [.s, .se, .payload], p.initiatorEpoch.bytes⟩]) (noiseStart PROTOCOL_NAME_XK p)).1
  have hlog : (run (detached primitives []) (premessage PROTOCOL_NAME_XK p).view (steps
      (curveOps SecretKey) p.toKeys (xk [] p.responderEpoch.bytes p.initiatorEpoch.bytes))).log = _ :=
    (congrArg State.log hview).symm.trans hi
  rw [hcoded, noiseAfter, schedule_eq, hnoise] at hlog
  have hlength := congrArg List.length hlog
  rw [List.length_append, List.length_cons, List.length_append, hcount, hcount'] at hlength
  exact absurd hlength (by simp [premessage, view, SymmetricState.mixHash, SymmetricState.initial,
    noiseStart, State.start, steps, xk])

/-- **The patterns.** IK mixes the initiator's ephemeral with the responder's static key where its
pattern has the initiator's static with the responder's ephemeral key, and neither pattern binds its
ciphertexts to the handshake hash. So both are followed exactly when these secrets are equal and the
hash makes no difference to any ciphertext. -/
theorem follows_patterns_iff :
    FollowsIk p ∧ FollowsXk p ↔
      ecdh p.initiatorEphemeral (Secp256k1.publicKey p.responderStatic) =
        ecdh p.initiatorStatic (Secp256k1.publicKey p.responderEphemeral) ∧
      SealedAlikeIk p ∧ SealedAlikeXk p := by
  rw [followsIk_iff hcurve haead p, followsXk_iff hcurve haead p, and_assoc]

end Patterns

open Sample in
theorem follows_patterns_iff_sample :
    FollowsIk Sample.parties ∧ FollowsXk Sample.parties ↔
      ecdh Sample.parties.initiatorEphemeral
          (Secp256k1.publicKey Sample.parties.responderStatic) =
        ecdh Sample.parties.initiatorStatic
          (Secp256k1.publicKey Sample.parties.responderEphemeral) ∧
      SealedAlikeIk Sample.parties ∧ SealedAlikeXk Sample.parties :=
  follows_patterns_iff curve_lawful aead_lawful Sample.parties

open Sample in
/-- Ephemeral 7 with static -3 is not static 5 with ephemeral 11, and the hash changes the tags. -/
theorem patterns_not_followed : ¬ FollowsIk Sample.parties ∧ ¬ FollowsXk Sample.parties := by
  rw [followsIk_iff curve_lawful aead_lawful, followsXk_iff curve_lawful aead_lawful]
  constructor
  · rintro ⟨h, -⟩
    revert h
    decide +kernel
  · unfold SealedAlikeXk
    decide +kernel

end HandshakeState

end Fips
