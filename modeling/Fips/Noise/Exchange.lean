import Fips.Noise.Sample

/-!
# Undisturbed exchanges

Two parties that run the methods of `noise/handshake.rs` against each other with every message
delivered as written: the two messages of IK and the three of XK.

The curve and the AEAD are assumed to behave as documented (`Secp256k1.Lawful`,
`ChaCha20Poly1305.Lawful`). The initiator knows the responder's static key up to its parity, as it
does when the key comes from an npub.

## Results

* `ikExchange_eq`, `xkExchange_eq`: both exchanges complete, and both parties end in the symmetric
  state of a token schedule.
* `exchange_agreement`: the sessions of the two parties fit together.
-/

open Checked HandshakePattern

namespace Fips

/-! ## The parties -/

variable {SecretKey PublicKey : Type} [Secp256k1 SecretKey PublicKey]

/-- The keys and epochs of one exchange. -/
structure Parties (SecretKey PublicKey : Type) [Secp256k1 SecretKey PublicKey]
    extends Keys SecretKey where
  knownStatic : PublicKey
  sameX : SameX SecretKey knownStatic (Secp256k1.publicKey responderStatic)
  initiatorEpoch : Epoch
  responderEpoch : Epoch

open Sample in
/-- The initiator knows the responder's key `-3` as its even lift. -/
def Sample.parties : Parties Scalar Point where
  initiatorStatic := ⟨5⟩
  initiatorEphemeral := ⟨7⟩
  responderStatic := ⟨253⟩
  responderEphemeral := ⟨11⟩
  knownStatic := ⟨3⟩
  sameX := rfl
  initiatorEpoch := ⟨List.replicate 8 1, rfl⟩
  responderEpoch := ⟨List.replicate 8 2, rfl⟩

namespace Parties

/-- The initiator in the middle of an exchange. -/
def initiator (p : Parties SecretKey PublicKey) (pattern : NoisePattern)
    (progress : HandshakeProgress) (symmetric : SymmetricState) (ephemeral : Option SecretKey)
    (remoteEphemeral : Option PublicKey) (remoteEpoch : Option Epoch) :
    HandshakeState SecretKey PublicKey where
  pattern := pattern
  role := .initiator
  progress := progress
  symmetric := symmetric
  staticKeypair := p.initiatorStatic
  ephemeralKeypair := ephemeral
  remoteStatic := some p.knownStatic
  remoteEphemeral := remoteEphemeral
  localEpoch := some p.initiatorEpoch
  remoteEpoch := remoteEpoch

/-- The responder in the middle of an exchange. -/
def responder (p : Parties SecretKey PublicKey) (pattern : NoisePattern)
    (progress : HandshakeProgress) (symmetric : SymmetricState) (ephemeral : Option SecretKey)
    (remoteStatic remoteEphemeral : Option PublicKey) (remoteEpoch : Option Epoch) :
    HandshakeState SecretKey PublicKey where
  pattern := pattern
  role := .responder
  progress := progress
  symmetric := symmetric
  staticKeypair := p.responderStatic
  ephemeralKeypair := ephemeral
  remoteStatic := remoteStatic
  remoteEphemeral := remoteEphemeral
  localEpoch := some p.responderEpoch
  remoteEpoch := remoteEpoch

end Parties

namespace HandshakeState

section Agreement

variable [Sha256] [HkdfSha256] [ChaCha20Poly1305]

/-- Both parties after an undisturbed IK exchange. -/
def ikExchange (p : Parties SecretKey PublicKey) :
    Result NoiseError (HandshakeState SecretKey PublicKey × HandshakeState SecretKey PublicKey) :=
  do
  let i := (newInitiator p.initiatorStatic p.knownStatic).setLocalEpoch p.initiatorEpoch
  let r := (newResponder p.responderStatic).setLocalEpoch p.responderEpoch
  let (msg1, i) ← call (writeMessage1 p.initiatorEphemeral) i
  let (_, r) ← call (readMessage1 msg1) r
  let (msg2, r) ← call (writeMessage2 p.responderEphemeral) r
  let (_, i) ← call (readMessage2 msg2) i
  pure (i, r)

/-- Both parties after an undisturbed XK exchange. -/
def xkExchange (p : Parties SecretKey PublicKey) :
    Result NoiseError (HandshakeState SecretKey PublicKey × HandshakeState SecretKey PublicKey) :=
  do
  let i := (newXkInitiator p.initiatorStatic p.knownStatic).setLocalEpoch p.initiatorEpoch
  let r := (newXkResponder p.responderStatic).setLocalEpoch p.responderEpoch
  let (msg1, i) ← call (writeXkMessage1 p.initiatorEphemeral) i
  let (_, r) ← call (readXkMessage1 msg1) r
  let (msg2, r) ← call (writeXkMessage2 p.responderEphemeral) r
  let (_, i) ← call (readXkMessage2 msg2) i
  let (msg3, i) ← call writeXkMessage3 i
  let (_, r) ← call (readXkMessage3 msg3) r
  pure (i, r)

/-! ## Schedules of this symmetric state -/

/-- The operations of `noise/handshake.rs`, where no step fails. -/
def symmetricOps : Symmetric SymmetricState Bytes where
  mixHash := SymmetricState.mixHash
  mixKey := SymmetricState.mixKey
  encryptAndHash x plaintext := (x.encryptAndHash plaintext).1

/-- Compressed public keys and the x-only Diffie-Hellman. -/
def curveOps (SecretKey : Type) {PublicKey : Type} [Secp256k1 SecretKey PublicKey] :
    Curve SecretKey Bytes where
  publicKey k := Secp256k1.serialize SecretKey (Secp256k1.publicKey k)
  dh a b := ecdh a (Secp256k1.publicKey b)

/-- The symmetric state after the even-parity pre-message. -/
def premessage (protocolName : Bytes) (p : Parties SecretKey PublicKey) : SymmetricState :=
  (SymmetricState.initial protocolName).mixHash
    (normalizeForPremessage SecretKey (Secp256k1.publicKey p.responderStatic))

/-- The symmetric state of the parties after some messages. -/
def after (protocolName : Bytes) (p : Parties SecretKey PublicKey)
    (messages : List (Message Bytes)) : SymmetricState :=
  schedule symmetricOps (curveOps SecretKey) p.toKeys (premessage protocolName p) messages

/-- What the IK methods compute: `-> e, es, s, ss` and `<- e, ee, es`. -/
def ikAsCoded (p₁ p₂ : Bytes) : List (Message Bytes) :=
  [⟨true, [.e, .es, .s, .ss, .payload], p₁⟩, ⟨false, [.e, .ee, .es, .payload], p₂⟩]

/-! ## The messages -/

section Messages

variable (hcurve : Secp256k1.Lawful SecretKey)

include hcurve

omit [HkdfSha256] [ChaCha20Poly1305] in
theorem ecdh_comm (a b : SecretKey) :
    ecdh a (Secp256k1.publicKey b) = ecdh b (Secp256k1.publicKey a) := by
  unfold ecdh
  rw [hcurve.shared_comm b a]

omit [HkdfSha256] [ChaCha20Poly1305] in
/-- The initiator's view of the responder's static key gives the responder's secrets. -/
theorem ecdh_knownStatic (p : Parties SecretKey PublicKey) (k : SecretKey) :
    ecdh k p.knownStatic = ecdh k (Secp256k1.publicKey p.responderStatic) := by
  unfold ecdh
  rw [hcurve.shared_sameX _ _ k p.sameX]

omit [Sha256] [HkdfSha256] [ChaCha20Poly1305] in
theorem normalizeForPremessage_knownStatic (p : Parties SecretKey PublicKey) :
    normalizeForPremessage SecretKey p.knownStatic =
      normalizeForPremessage SecretKey (Secp256k1.publicKey p.responderStatic) := by
  have hcons : ∀ P : PublicKey, normalizeForPremessage SecretKey P =
      0x02 :: (Secp256k1.serialize SecretKey P).tail := by
    intro P
    unfold normalizeForPremessage
    have hlen := hcurve.serialize_length P
    cases hs : Secp256k1.serialize SecretKey P with
    | nil =>
      rw [hs] at hlen
      cases hlen
    | cons b bs => rfl
  rw [hcons, hcons, p.sameX]

omit [Sha256] [HkdfSha256] [ChaCha20Poly1305] in
theorem length_publicKey_le (k : SecretKey) :
    (Secp256k1.serialize SecretKey (Secp256k1.publicKey k)).length ≤
      MAX_MESSAGE_SIZE - TAG_SIZE := by
  rw [hcurve.serialize_length]
  decide

variable (p : Parties SecretKey PublicKey) (pattern : NoisePattern) (x : SymmetricState)

/-- **XK message 1.** -/
theorem xk_message_1 {x' : SymmetricState}
    (hx' : x' = Message.schedule symmetricOps (curveOps SecretKey) p.toKeys x
      ⟨true, [.e, .es], []⟩) :
    ∃ msg,
      Runs (writeXkMessage1 p.initiatorEphemeral) (p.initiator pattern .initial x none none none)
        msg (p.initiator pattern .message1Done x' (some p.initiatorEphemeral) none none) ∧
      Runs (readXkMessage1 msg) (p.responder pattern .initial x none none none none) ()
        (p.responder pattern .message1Done x' none none
          (some (Secp256k1.publicKey p.initiatorEphemeral)) none) := by
  have hes := ecdh_knownStatic hcurve p p.initiatorEphemeral
  have hes' := ecdh_comm hcurve p.initiatorEphemeral p.responderStatic
  have hpub := hcurve.serialize_length
  simp only [Message.schedule, List.foldl_cons, List.foldl_nil, Token.apply, symmetricOps,
    curveOps, if_true] at hx'
  subst hx'
  have hslice : slice (Secp256k1.serialize SecretKey (Secp256k1.publicKey p.initiatorEphemeral)) 0
      PUBKEY_SIZE = (.ok (Secp256k1.serialize SecretKey
        (Secp256k1.publicKey p.initiatorEphemeral)) : Result NoiseError Bytes) := by
    exact slice_all (hpub _)
  refine ⟨Secp256k1.serialize SecretKey (Secp256k1.publicKey p.initiatorEphemeral), ?_, ?_⟩
  · simp [writeXkMessage1, Parties.initiator, hes]
  · simp [readXkMessage1, Parties.responder, XK_HANDSHAKE_MSG1_SIZE, hpub, hslice,
      hcurve.fromSlice_serialize, ← hes']

variable (haead : ChaCha20Poly1305.Lawful)

include haead

/-- **IK message 1.** -/
theorem ik_message_1 {x' : SymmetricState}
    (hx' : x' = Message.schedule symmetricOps (curveOps SecretKey) p.toKeys x
      ⟨true, [.e, .es, .s, .ss, .payload], p.initiatorEpoch.bytes⟩) :
    ∃ msg,
      Runs (writeMessage1 p.initiatorEphemeral) (p.initiator pattern .initial x none none none) msg
        (p.initiator pattern .message1Done x' (some p.initiatorEphemeral) none none) ∧
      Runs (readMessage1 msg) (p.responder pattern .initial x none none none none) ()
        (p.responder pattern .message1Done x' none
          (some (Secp256k1.publicKey p.initiatorStatic))
          (some (Secp256k1.publicKey p.initiatorEphemeral)) (some p.initiatorEpoch)) := by
  have hes := ecdh_knownStatic hcurve p p.initiatorEphemeral
  have hss := ecdh_knownStatic hcurve p p.initiatorStatic
  have hes' := ecdh_comm hcurve p.initiatorEphemeral p.responderStatic
  have hss' := ecdh_comm hcurve p.initiatorStatic p.responderStatic
  have hpub := hcurve.serialize_length
  simp only [Message.schedule, List.foldl_cons, List.foldl_nil, Token.apply, symmetricOps,
    curveOps, if_true] at hx'
  obtain ⟨c₁, x₁, -, hlen₁, henc₁, hdec₁⟩ :=
    SymmetricState.decryptAndHash_encryptAndHash_mixKey haead
      (x.mixHash (Secp256k1.serialize SecretKey (Secp256k1.publicKey p.initiatorEphemeral)))
      (ecdh p.initiatorEphemeral (Secp256k1.publicKey p.responderStatic))
      (length_publicKey_le hcurve p.initiatorStatic)
  obtain ⟨c₂, x₂, -, hlen₂, henc₂, hdec₂⟩ :=
    SymmetricState.decryptAndHash_encryptAndHash_mixKey haead x₁
      (ecdh p.initiatorStatic (Secp256k1.publicKey p.responderStatic))
      p.initiatorEpoch.length_le
  simp only [henc₁, henc₂] at hx'
  subst hx'
  obtain ⟨msg, hmsg⟩ : ∃ msg, msg =
      Secp256k1.serialize SecretKey (Secp256k1.publicKey p.initiatorEphemeral) ++ c₁ ++ c₂ :=
    ⟨_, rfl⟩
  have hlen : msg.length = HANDSHAKE_MSG1_SIZE := by
    rw [hmsg, List.length_append, List.length_append, hpub, hlen₁, hlen₂, hpub,
      p.initiatorEpoch.length_eq]
    rfl
  have hslice₁ : slice msg 0 PUBKEY_SIZE = (.ok (Secp256k1.serialize SecretKey
      (Secp256k1.publicKey p.initiatorEphemeral)) : Result NoiseError Bytes) := by
    rw [hmsg, List.append_assoc]
    exact slice_append_left (hpub _)
  have hslice₂ : slice msg PUBKEY_SIZE (PUBKEY_SIZE + PUBKEY_SIZE + TAG_SIZE) =
      (.ok c₁ : Result NoiseError Bytes) := by
    rw [hmsg]
    exact slice_append_mid (hpub _) (by rw [hlen₁, hpub]; rfl)
  have hslice₃ : sliceFrom msg (PUBKEY_SIZE + PUBKEY_SIZE + TAG_SIZE) =
      (.ok c₂ : Result NoiseError Bytes) := by
    rw [hmsg]
    exact sliceFrom_append (by rw [List.length_append, hpub, hlen₁, hpub]; rfl)
  refine ⟨msg, ?_, ?_⟩
  · simp [writeMessage1, Parties.initiator, hes, hss, henc₁, henc₂, hmsg]
  · simp [readMessage1, Parties.responder, hlen, hslice₁, hslice₂, hslice₃,
      hcurve.fromSlice_serialize, ← hes', ← hss', hdec₁, hdec₂]

/-- **IK message 2.** -/
theorem ik_message_2 {x' : SymmetricState}
    (hx' : x' = Message.schedule symmetricOps (curveOps SecretKey) p.toKeys x
      ⟨false, [.e, .ee, .es, .payload], p.responderEpoch.bytes⟩) (epoch : Option Epoch) :
    ∃ msg,
      Runs (writeMessage2 p.responderEphemeral)
        (p.responder pattern .message1Done x none (some (Secp256k1.publicKey p.initiatorStatic))
          (some (Secp256k1.publicKey p.initiatorEphemeral)) epoch) msg
        (p.responder pattern .complete x' (some p.responderEphemeral)
          (some (Secp256k1.publicKey p.initiatorStatic))
          (some (Secp256k1.publicKey p.initiatorEphemeral)) epoch) ∧
      Runs (readMessage2 msg)
        (p.initiator pattern .message1Done x (some p.initiatorEphemeral) none none) ()
        (p.initiator pattern .complete x' (some p.initiatorEphemeral)
          (some (Secp256k1.publicKey p.responderEphemeral)) (some p.responderEpoch)) := by
  have hes := ecdh_knownStatic hcurve p p.initiatorEphemeral
  have hes' := ecdh_comm hcurve p.initiatorEphemeral p.responderStatic
  have hee := ecdh_comm hcurve p.initiatorEphemeral p.responderEphemeral
  have hpub := hcurve.serialize_length
  simp only [Message.schedule, List.foldl_cons, List.foldl_nil, Token.apply, symmetricOps,
    curveOps, Bool.false_eq_true, if_false] at hx'
  obtain ⟨c, x₁, -, hclen, henc, hdec⟩ :=
    SymmetricState.decryptAndHash_encryptAndHash_mixKey haead
      ((x.mixHash (Secp256k1.serialize SecretKey
        (Secp256k1.publicKey p.responderEphemeral))).mixKey
          (ecdh p.initiatorEphemeral (Secp256k1.publicKey p.responderEphemeral)))
      (ecdh p.initiatorEphemeral (Secp256k1.publicKey p.responderStatic))
      p.responderEpoch.length_le
  simp only [henc] at hx'
  subst hx'
  obtain ⟨msg, hmsg⟩ : ∃ msg, msg =
      Secp256k1.serialize SecretKey (Secp256k1.publicKey p.responderEphemeral) ++ c :=
    ⟨_, rfl⟩
  have hlen : msg.length = HANDSHAKE_MSG2_SIZE := by
    rw [hmsg, List.length_append, hpub, hclen, p.responderEpoch.length_eq]
    rfl
  have hslice₁ : slice msg 0 PUBKEY_SIZE = (.ok (Secp256k1.serialize SecretKey
      (Secp256k1.publicKey p.responderEphemeral)) : Result NoiseError Bytes) := by
    rw [hmsg]
    exact slice_append_left (hpub _)
  have hslice₂ : sliceFrom msg PUBKEY_SIZE = (.ok c : Result NoiseError Bytes) := by
    rw [hmsg]
    exact sliceFrom_append (hpub _)
  refine ⟨msg, ?_, ?_⟩
  · simp [writeMessage2, Parties.responder, ← hee, ← hes', henc, hmsg]
  · simp [readMessage2, Parties.initiator, hlen, hslice₁, hslice₂,
      hcurve.fromSlice_serialize, hes, hdec]

/-- **XK message 2.** The cipher has encrypted one message since its last key. -/
theorem xk_message_2 {x' : SymmetricState}
    (hx' : x' = Message.schedule symmetricOps (curveOps SecretKey) p.toKeys x
      ⟨false, [.e, .ee, .payload], p.responderEpoch.bytes⟩) :
    x'.Keyed 1 ∧ ∃ msg,
      Runs (writeXkMessage2 p.responderEphemeral)
        (p.responder pattern .message1Done x none none
          (some (Secp256k1.publicKey p.initiatorEphemeral)) none) msg
        (p.responder pattern .message2Done x' (some p.responderEphemeral) none
          (some (Secp256k1.publicKey p.initiatorEphemeral)) none) ∧
      Runs (readXkMessage2 msg)
        (p.initiator pattern .message1Done x (some p.initiatorEphemeral) none none) ()
        (p.initiator pattern .message2Done x' (some p.initiatorEphemeral)
          (some (Secp256k1.publicKey p.responderEphemeral)) (some p.responderEpoch)) := by
  have hee := ecdh_comm hcurve p.initiatorEphemeral p.responderEphemeral
  have hpub := hcurve.serialize_length
  simp only [Message.schedule, List.foldl_cons, List.foldl_nil, Token.apply, symmetricOps,
    curveOps, Bool.false_eq_true, if_false] at hx'
  obtain ⟨c, x₁, hkeyed, hclen, henc, hdec⟩ :=
    SymmetricState.decryptAndHash_encryptAndHash_mixKey haead
      (x.mixHash (Secp256k1.serialize SecretKey (Secp256k1.publicKey p.responderEphemeral)))
      (ecdh p.initiatorEphemeral (Secp256k1.publicKey p.responderEphemeral))
      p.responderEpoch.length_le
  simp only [henc] at hx'
  subst hx'
  obtain ⟨msg, hmsg⟩ : ∃ msg, msg =
      Secp256k1.serialize SecretKey (Secp256k1.publicKey p.responderEphemeral) ++ c :=
    ⟨_, rfl⟩
  have hlen : msg.length = XK_HANDSHAKE_MSG2_SIZE := by
    rw [hmsg, List.length_append, hpub, hclen, p.responderEpoch.length_eq]
    rfl
  have hslice₁ : slice msg 0 PUBKEY_SIZE = (.ok (Secp256k1.serialize SecretKey
      (Secp256k1.publicKey p.responderEphemeral)) : Result NoiseError Bytes) := by
    rw [hmsg]
    exact slice_append_left (hpub _)
  have hslice₂ : sliceFrom msg PUBKEY_SIZE = (.ok c : Result NoiseError Bytes) := by
    rw [hmsg]
    exact sliceFrom_append (hpub _)
  refine ⟨hkeyed, msg, ?_, ?_⟩
  · simp [writeXkMessage2, Parties.responder, ← hee, henc, hmsg]
  · simp [readXkMessage2, Parties.initiator, hlen, hslice₁, hslice₂,
      hcurve.fromSlice_serialize, hdec]

/-- **XK message 3.** -/
theorem xk_message_3 {x' : SymmetricState} (hkeyed : x.Keyed 1)
    (hx' : x' = Message.schedule symmetricOps (curveOps SecretKey) p.toKeys x
      ⟨true, [.s, .se, .payload], p.initiatorEpoch.bytes⟩) (epoch : Option Epoch) :
    ∃ msg,
      Runs writeXkMessage3
        (p.initiator pattern .message2Done x (some p.initiatorEphemeral)
          (some (Secp256k1.publicKey p.responderEphemeral)) epoch) msg
        (p.initiator pattern .complete x' (some p.initiatorEphemeral)
          (some (Secp256k1.publicKey p.responderEphemeral)) epoch) ∧
      Runs (readXkMessage3 msg)
        (p.responder pattern .message2Done x (some p.responderEphemeral) none
          (some (Secp256k1.publicKey p.initiatorEphemeral)) none) ()
        (p.responder pattern .complete x' (some p.responderEphemeral)
          (some (Secp256k1.publicKey p.initiatorStatic))
          (some (Secp256k1.publicKey p.initiatorEphemeral)) (some p.initiatorEpoch)) := by
  have hse := ecdh_comm hcurve p.initiatorStatic p.responderEphemeral
  have hpub := hcurve.serialize_length
  simp only [Message.schedule, List.foldl_cons, List.foldl_nil, Token.apply, symmetricOps,
    curveOps, if_true] at hx'
  obtain ⟨c₁, x₁, -, hlen₁, henc₁, hdec₁⟩ :=
    SymmetricState.decryptAndHash_encryptAndHash hkeyed haead (by decide)
      (length_publicKey_le hcurve p.initiatorStatic)
  obtain ⟨c₂, x₂, -, hlen₂, henc₂, hdec₂⟩ :=
    SymmetricState.decryptAndHash_encryptAndHash_mixKey haead x₁
      (ecdh p.initiatorStatic (Secp256k1.publicKey p.responderEphemeral))
      p.initiatorEpoch.length_le
  simp only [henc₁, henc₂] at hx'
  subst hx'
  obtain ⟨msg, hmsg⟩ : ∃ msg, msg = c₁ ++ c₂ := ⟨_, rfl⟩
  have hlen : msg.length = XK_HANDSHAKE_MSG3_SIZE := by
    rw [hmsg, List.length_append, hlen₁, hlen₂, hpub, p.initiatorEpoch.length_eq]
    rfl
  have hslice₁ : slice msg 0 (PUBKEY_SIZE + TAG_SIZE) = (.ok c₁ : Result NoiseError Bytes) := by
    rw [hmsg]
    exact slice_append_left (by rw [hlen₁, hpub])
  have hslice₂ : sliceFrom msg (PUBKEY_SIZE + TAG_SIZE) = (.ok c₂ : Result NoiseError Bytes) := by
    rw [hmsg]
    exact sliceFrom_append (by rw [hlen₁, hpub])
  refine ⟨msg, ?_, ?_⟩
  · simp [writeXkMessage3, Parties.initiator, henc₁, henc₂, hmsg]
  · simp [readXkMessage3, Parties.responder, hlen, hslice₁, hslice₂,
      hcurve.fromSlice_serialize, ← hse, hdec₁, hdec₂]

/-! ## The exchanges -/

omit haead in
omit [HkdfSha256] [ChaCha20Poly1305] in
/-- Both roles start from the same pre-message. -/
theorem start_initiator (protocolName : Bytes) :
    (start pattern protocolName .initiator p.initiatorStatic (some p.knownStatic)
      p.knownStatic).setLocalEpoch p.initiatorEpoch =
      p.initiator pattern .initial (premessage protocolName p) none none none := by
  unfold start setLocalEpoch Parties.initiator premessage
  rw [normalizeForPremessage_knownStatic hcurve p]

omit hcurve haead in
omit [HkdfSha256] [ChaCha20Poly1305] in
theorem start_responder (protocolName : Bytes) :
    (start pattern protocolName .responder p.responderStatic none
      (Secp256k1.publicKey p.responderStatic)).setLocalEpoch p.responderEpoch =
      p.responder pattern .initial (premessage protocolName p) none none none none := rfl

/-- **IK completes.** -/
theorem ikExchange_eq :
    let x := after PROTOCOL_NAME_IK p (ikAsCoded p.initiatorEpoch.bytes p.responderEpoch.bytes)
    ikExchange p = .ok
      (p.initiator .ik .complete x (some p.initiatorEphemeral)
        (some (Secp256k1.publicKey p.responderEphemeral)) (some p.responderEpoch),
      p.responder .ik .complete x (some p.responderEphemeral)
        (some (Secp256k1.publicKey p.initiatorStatic))
        (some (Secp256k1.publicKey p.initiatorEphemeral)) (some p.initiatorEpoch)) := by
  intro x
  obtain ⟨x₁, hx₁⟩ : ∃ x₁, x₁ = Message.schedule symmetricOps (curveOps SecretKey) p.toKeys
      (premessage PROTOCOL_NAME_IK p)
      ⟨true, [.e, .es, .s, .ss, .payload], p.initiatorEpoch.bytes⟩ := ⟨_, rfl⟩
  have hx : x = Message.schedule symmetricOps (curveOps SecretKey) p.toKeys x₁
      ⟨false, [.e, .ee, .es, .payload], p.responderEpoch.bytes⟩ := by
    rw [hx₁]
    rfl
  obtain ⟨msg1, hw1, hr1⟩ := ik_message_1 hcurve p .ik _ haead hx₁
  obtain ⟨msg2, hw2, hr2⟩ := ik_message_2 hcurve p .ik _ haead hx (some p.initiatorEpoch)
  unfold ikExchange newInitiator newResponder
  rw [start_initiator hcurve p, start_responder p]
  simp only [bind, Except.bind, call_eq_ok.mpr hw1, call_eq_ok.mpr hr1, call_eq_ok.mpr hw2, call_eq_ok.mpr hr2]
  rfl

/-- **XK completes.** -/
theorem xkExchange_eq :
    let x := after PROTOCOL_NAME_XK p (xk [] p.responderEpoch.bytes p.initiatorEpoch.bytes)
    xkExchange p = .ok
      (p.initiator .xk .complete x (some p.initiatorEphemeral)
        (some (Secp256k1.publicKey p.responderEphemeral)) (some p.responderEpoch),
      p.responder .xk .complete x (some p.responderEphemeral)
        (some (Secp256k1.publicKey p.initiatorStatic))
        (some (Secp256k1.publicKey p.initiatorEphemeral)) (some p.initiatorEpoch)) := by
  intro x
  obtain ⟨x₁, hx₁⟩ : ∃ x₁, x₁ = Message.schedule symmetricOps (curveOps SecretKey) p.toKeys
      (premessage PROTOCOL_NAME_XK p) ⟨true, [.e, .es], []⟩ := ⟨_, rfl⟩
  obtain ⟨x₂, hx₂⟩ : ∃ x₂, x₂ = Message.schedule symmetricOps (curveOps SecretKey) p.toKeys x₁
      ⟨false, [.e, .ee, .payload], p.responderEpoch.bytes⟩ := ⟨_, rfl⟩
  have hx : x = Message.schedule symmetricOps (curveOps SecretKey) p.toKeys x₂
      ⟨true, [.s, .se, .payload], p.initiatorEpoch.bytes⟩ := by
    rw [hx₂, hx₁]
    rfl
  obtain ⟨msg1, hw1, hr1⟩ := xk_message_1 hcurve p .xk _ hx₁
  obtain ⟨hkeyed, msg2, hw2, hr2⟩ := xk_message_2 hcurve p .xk _ haead hx₂
  obtain ⟨msg3, hw3, hr3⟩ := xk_message_3 hcurve p .xk _ haead hkeyed hx (some p.responderEpoch)
  unfold xkExchange newXkInitiator newXkResponder
  rw [start_initiator hcurve p, start_responder p]
  simp only [bind, Except.bind, call_eq_ok.mpr hw1, call_eq_ok.mpr hr1, call_eq_ok.mpr hw2, call_eq_ok.mpr hr2, call_eq_ok.mpr hw3,
    call_eq_ok.mpr hr3]
  rfl

end Messages

/-! ## Agreement -/

/-- The sessions of both parties fit together, and each side has learned what it was sent. -/
structure Agree (p : Parties SecretKey PublicKey) (i r : HandshakeState SecretKey PublicKey)
    (si sr : NoiseSession PublicKey) : Prop where
  handshakeHash : si.handshakeHash = sr.handshakeHash
  initiatorSends : si.sendCipher = sr.recvCipher
  responderSends : sr.sendCipher = si.recvCipher
  responderEpoch : i.remoteEpoch = some p.responderEpoch
  initiatorEpoch : r.remoteEpoch = some p.initiatorEpoch
  initiatorStatic : sr.remoteStatic = Secp256k1.publicKey p.initiatorStatic

omit [Sha256] [ChaCha20Poly1305] in
/-- Parties that completed with one symmetric state agree. -/
theorem agree_of_symmetric (p : Parties SecretKey PublicKey) (pattern : NoisePattern)
    (x : SymmetricState) (ei er : Option SecretKey) (re re' : Option PublicKey) :
    ∃ si sr, intoSession (p.initiator pattern .complete x ei re (some p.responderEpoch)) = .ok si ∧
      intoSession (p.responder pattern .complete x er
        (some (Secp256k1.publicKey p.initiatorStatic)) re' (some p.initiatorEpoch)) = .ok sr ∧
      Agree p (p.initiator pattern .complete x ei re (some p.responderEpoch))
        (p.responder pattern .complete x er
          (some (Secp256k1.publicKey p.initiatorStatic)) re' (some p.initiatorEpoch)) si sr :=
  ⟨_, _, rfl, rfl, ⟨rfl, rfl, rfl, rfl, rfl, rfl⟩⟩

/-- **Agreement.** Undisturbed exchanges of both patterns complete, and the sessions of the two
parties fit together. -/
theorem exchange_agreement (hcurve : Secp256k1.Lawful SecretKey)
    (haead : ChaCha20Poly1305.Lawful) (p : Parties SecretKey PublicKey) :
    (∃ i r si sr, ikExchange p = .ok (i, r) ∧ i.intoSession = .ok si ∧ r.intoSession = .ok sr ∧
      Agree p i r si sr) ∧
    (∃ i r si sr, xkExchange p = .ok (i, r) ∧ i.intoSession = .ok si ∧ r.intoSession = .ok sr ∧
      Agree p i r si sr) := by
  constructor
  · obtain ⟨si, sr, hi, hr, hagree⟩ := agree_of_symmetric p .ik _ _ _ _ _
    exact ⟨_, _, si, sr, ikExchange_eq hcurve p haead, hi, hr, hagree⟩
  · obtain ⟨si, sr, hi, hr, hagree⟩ := agree_of_symmetric p .xk _ _ _ _ _
    exact ⟨_, _, si, sr, xkExchange_eq hcurve p haead, hi, hr, hagree⟩

end Agreement

open Sample in
theorem exchange_agreement_sample :
    (∃ i r si sr, ikExchange Sample.parties = .ok (i, r) ∧ i.intoSession = .ok si ∧
      r.intoSession = .ok sr ∧ Agree Sample.parties i r si sr) ∧
    (∃ i r si sr, xkExchange Sample.parties = .ok (i, r) ∧ i.intoSession = .ok si ∧
      r.intoSession = .ok sr ∧ Agree Sample.parties i r si sr) :=
  exchange_agreement curve_lawful aead_lawful Sample.parties

end HandshakeState

end Fips
