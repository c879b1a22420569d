import Fips.Noise.HandshakePanic
import Fips.Peer.Active

/-!
# Connections in the handshake phase

Model of `peer/connection.rs`: a link whose Noise IK handshake is not over. `PeerIdentity`
(`identity/peer.rs`) is its full key; the address is computed from it, so that an identity whose
address belongs to another key cannot be built. Instants are Unix milliseconds.

A method that fails after it took the Noise handshake out has lost it, as in the source.
-/

open Checked

namespace Fips

/-- `transport::LinkDirection`. -/
inductive LinkDirection
  | outbound
  | inbound
  deriving DecidableEq, Repr

/-- `LinkStats::new`. -/
def LinkStats.new : LinkStats := ⟨0, 0, 0, 0, 0⟩

/-- `NodeAddr::from_pubkey` of the `x` coordinate of a key. -/
def NodeAddr.fromPubkey (SecretKey : Type) {PublicKey : Type} [Sha256] [Secp256k1 SecretKey PublicKey]
    (pubkey : PublicKey) : NodeAddr :=
  NodeAddr.fromBytes ((Sha256.digest (Secp256k1.serialize SecretKey pubkey).tail).take 16)

/-- `identity::PeerIdentity`. -/
structure PeerIdentity (PublicKey : Type) where
  pubkeyFull : PublicKey

/-- `PeerIdentity::node_addr`: the address is derived from the key. -/
def PeerIdentity.nodeAddr (SecretKey : Type) {PublicKey : Type} [Sha256]
    [Secp256k1 SecretKey PublicKey] (identity : PeerIdentity PublicKey) : NodeAddr :=
  NodeAddr.fromPubkey SecretKey identity.pubkeyFull

/-- `HandshakeState` of `peer/connection.rs`. -/
inductive ConnectionState
  | initial
  | sentMsg1
  | receivedMsg1
  | complete
  | failed
  deriving DecidableEq, Repr

/-- The `Display` of `HandshakeState` in `peer/connection.rs`. -/
def ConnectionState.toString : ConnectionState → String
  | .initial => "initial"
  | .sentMsg1 => "sent_msg1"
  | .receivedMsg1 => "received_msg1"
  | .complete => "complete"
  | .failed => "failed"

/-- `peer/connection.rs:70-131`. -/
structure PeerConnection (SecretKey PublicKey : Type) where
  linkId : LinkId
  direction : LinkDirection
  handshakeState : ConnectionState
  expectedIdentity : Option (PeerIdentity PublicKey)
  noiseHandshake : Option (HandshakeState SecretKey PublicKey)
  noiseSession : Option (NoiseSession PublicKey)
  startedAt : Nat
  lastActivity : Nat
  linkStats : LinkStats
  ourIndex : Option SessionIndex
  theirIndex : Option SessionIndex
  transportId : Option TransportId
  sourceAddr : Option TransportAddr
  remoteEpoch : Option Epoch
  handshakeMsg1 : Option Bytes
  handshakeMsg2 : Option Bytes
  resendCount : Nat
  nextResendAtMs : Nat

namespace PeerConnection

variable {SecretKey PublicKey : Type}

/-- The constructors differ in direction, identity and source. -/
def new (linkId : LinkId) (direction : LinkDirection) (identity : Option (PeerIdentity PublicKey))
    (transportId : Option TransportId) (sourceAddr : Option TransportAddr) (currentTimeMs : Nat) :
    PeerConnection SecretKey PublicKey where
  linkId := linkId
  direction := direction
  handshakeState := .initial
  expectedIdentity := identity
  noiseHandshake := none
  noiseSession := none
  startedAt := currentTimeMs
  lastActivity := currentTimeMs
  linkStats := LinkStats.new
  ourIndex := none
  theirIndex := none
  transportId := transportId
  sourceAddr := sourceAddr
  remoteEpoch := none
  handshakeMsg1 := none
  handshakeMsg2 := none
  resendCount := 0
  nextResendAtMs := 0

/-- `PeerConnection::outbound`: we know whom we call. -/
def outbound (linkId : LinkId) (identity : PeerIdentity PublicKey) (currentTimeMs : Nat) :
    PeerConnection SecretKey PublicKey :=
  new linkId .outbound (some identity) none none currentTimeMs

/-- `PeerConnection::inbound_with_transport`: whoever calls is not known before msg1 is read. -/
def inboundWithTransport (linkId : LinkId) (transportId : TransportId) (sourceAddr : TransportAddr)
    (currentTimeMs : Nat) : PeerConnection SecretKey PublicKey :=
  new linkId .inbound none (some transportId) (some sourceAddr) currentTimeMs

section Fields

variable (c : PeerConnection SecretKey PublicKey)

/-- `PeerConnection::is_outbound`. -/
def isOutbound : Bool := c.direction == .outbound

/-- `PeerConnection::is_failed`. -/
def isFailed : Bool := c.handshakeState == .failed

/-- `PeerConnection::idle_time`, a saturating difference. -/
def idleTime (currentTimeMs : Nat) : Nat := currentTimeMs - c.lastActivity

/-- `PeerConnection::is_timed_out`. -/
def isTimedOut (currentTimeMs timeoutMs : Nat) : Bool := decide (timeoutMs < c.idleTime currentTimeMs)

/-- `PeerConnection::has_session`. -/
def hasSession : Bool := c.handshakeState == .complete && c.noiseSession.isSome

/-- The session, and the connection without it. -/
def takeSession : PeerConnection SecretKey PublicKey × Option (NoiseSession PublicKey) :=
  if c.handshakeState == .complete then ({ c with noiseSession := none }, c.noiseSession)
  else (c, none)

/-- `PeerConnection::mark_failed`. -/
def markFailed : PeerConnection SecretKey PublicKey :=
  { c with handshakeState := .failed, noiseHandshake := none }

/-- `PeerConnection::set_handshake_msg1`: the msg1 to resend, with its count at zero. -/
def setHandshakeMsg1 (msg1 : Bytes) (firstResendAtMs : Nat) : PeerConnection SecretKey PublicKey :=
  { c with handshakeMsg1 := some msg1, resendCount := 0, nextResendAtMs := firstResendAtMs }

/-- `PeerConnection::set_handshake_msg2`: kept to answer a msg1 that comes twice. -/
def setHandshakeMsg2 (msg2 : Bytes) : PeerConnection SecretKey PublicKey :=
  { c with handshakeMsg2 := some msg2 }

/-- `PeerConnection::record_resend`. -/
def recordResend (nextResendAtMs : Nat) : PeerConnection SecretKey PublicKey :=
  { c with resendCount := c.resendCount + 1, nextResendAtMs := nextResendAtMs }

end Fields

/-! ## The handshake -/

/-- A method of `PeerConnection`. -/
abbrev M (SecretKey PublicKey α : Type) := Method (PeerConnection SecretKey PublicKey) NoiseError α

/-- The direction check of the two `start`s of a handshake. -/
def requireDirection (direction : LinkDirection) (expected got : String) :
    M SecretKey PublicKey Unit :=
  require (fun c => c.direction == direction) fun _ => .wrongState expected got

/-- The state check at the head of every handshake step. -/
def requireState (state : ConnectionState) (expected : String) : M SecretKey PublicKey Unit :=
  require (fun c => c.handshakeState == state)
    fun c => .wrongState expected c.handshakeState.toString

/-- The end of each handshake. -/
def finish (session : NoiseSession PublicKey) (currentTimeMs : Nat) : M SecretKey PublicKey Unit :=
  write fun c => { c with
    noiseSession := some session
    handshakeState := .complete
    lastActivity := currentTimeMs }

variable [Sha256] [HkdfSha256] [ChaCha20Poly1305] [Secp256k1 SecretKey PublicKey]

/-- `PeerConnection::start_handshake`: the outbound side writes msg1. -/
def startHandshake (ourKeypair : SecretKey) (epoch : Epoch) (ephemeral : SecretKey)
    (currentTimeMs : Nat) : M SecretKey PublicKey Bytes := do
  requireDirection .outbound "outbound connection" "inbound connection"
  requireState .initial "initial state"
  let identity ← expect (·.expectedIdentity)
  let hs := (HandshakeState.newInitiator ourKeypair identity.pubkeyFull).setLocalEpoch epoch
  let (msg1, hs) ← pureCall (call (HandshakeState.writeMessage1 ephemeral) hs)
  write fun c => { c with
    noiseHandshake := some hs
    handshakeState := .sentMsg1
    lastActivity := currentTimeMs }
  pure msg1

/-- `PeerConnection::receive_handshake_init`: the inbound side reads msg1, learns the caller and
writes msg2. -/
def receiveHandshakeInit (ourKeypair : SecretKey) (epoch : Epoch) (ephemeral : SecretKey)
    (message : Bytes) (currentTimeMs : Nat) : M SecretKey PublicKey Bytes := do
  requireDirection .inbound "inbound connection" "outbound connection"
  requireState .initial "initial state"
  let hs := (HandshakeState.newResponder ourKeypair).setLocalEpoch epoch
  let ((), hs) ← pureCall (call (HandshakeState.readMessage1 message) hs)
  let remoteStatic ← pureCall (unwrap hs.remoteStatic)
  write fun c => { c with
    expectedIdentity := some ⟨remoteStatic⟩
    remoteEpoch := hs.remoteEpoch }
  let (msg2, hs) ← pureCall (call (HandshakeState.writeMessage2 ephemeral) hs)
  let session ← pureCall hs.intoSession
  finish session currentTimeMs
  pure msg2

/-- `PeerConnection::complete_handshake`: the outbound side reads msg2. The handshake state is gone
before the message is read, so a refused msg2 leaves a connection without one. -/
def completeHandshake (message : Bytes) (currentTimeMs : Nat) : M SecretKey PublicKey Unit := do
  requireState .sentMsg1 "sent_msg1 state"
  let hs ← expect (·.noiseHandshake)
  write fun c => { c with noiseHandshake := none }
  let ((), hs) ← pureCall (call (HandshakeState.readMessage2 message) hs)
  write fun c => { c with remoteEpoch := hs.remoteEpoch }
  let session ← pureCall hs.intoSession
  finish session currentTimeMs

/-! ### What the handshake leaves -/

/-- What the handshake methods leave as it was. -/
structure SameEnds (c c' : PeerConnection SecretKey PublicKey) : Prop where
  linkId : c'.linkId = c.linkId
  direction : c'.direction = c.direction
  ourIndex : c'.ourIndex = c.ourIndex
  transportId : c'.transportId = c.transportId
  sourceAddr : c'.sourceAddr = c.sourceAddr

/-- Starting an outbound handshake does not panic. -/
theorem noPanic_startHandshake (ourKeypair : SecretKey) (epoch : Epoch) (ephemeral : SecretKey)
    (currentTimeMs : Nat) (linkId : LinkId) (identity : PeerIdentity PublicKey) :
    NoPanic (call (startHandshake ourKeypair epoch ephemeral currentTimeMs)
      (outbound linkId identity currentTimeMs)) := by
  refine noPanic_call ?_
  unfold startHandshake requireDirection requireState
  rw [wp_bind_iff, wp_require_iff]
  refine ⟨fun _ => ?_, fun hno => by cases hno⟩
  rw [wp_bind_iff, wp_require_iff]
  refine ⟨fun _ => ?_, fun hno => by cases hno⟩
  rw [wp_bind_iff, wp_expect_iff]
  refine ⟨fun remote _ => ?_, fun hnone => by cases hnone⟩
  refine wp_bind_iff.mpr (wp_pureCall_iff.mpr ⟨fun r _ => ?_, fun e he => ?_⟩)
  · simp only [wp_bind_iff, wp_write_iff, wp_pure_iff]
  · have hsafe := HandshakeState.wp_writeMessage1 (s := (HandshakeState.newInitiator ourKeypair
      remote.pubkeyFull).setLocalEpoch epoch) ephemeral rfl rfl
    rintro rfl
    exact noPanic_call hsafe he

/-- Answering an inbound handshake does not panic, whatever the message is. -/
theorem noPanic_receiveHandshakeInit (hsized : ChaCha20Poly1305.Sized) (ourKeypair : SecretKey)
    (epoch : Epoch) (ephemeral : SecretKey) (message : Bytes) (currentTimeMs : Nat)
    (c : PeerConnection SecretKey PublicKey) :
    NoPanic (call (receiveHandshakeInit ourKeypair epoch ephemeral message currentTimeMs) c) := by
  refine noPanic_call ?_
  unfold receiveHandshakeInit requireDirection requireState
  rw [wp_bind_iff, wp_require_iff]
  refine ⟨fun _ => ?_, fun _ h => by cases h⟩
  rw [wp_bind_iff, wp_require_iff]
  refine ⟨fun _ => ?_, fun _ h => by cases h⟩
  refine wp_bind_iff.mpr (wp_pureCall_call (wp_mono ?_ (fun _ _ h => h)
    (HandshakeState.wp_readMessage1 hsized message)))
  rintro ⟨⟩ hs ⟨hstatic, hremote, hlocal⟩
  have hunwrap : NoPanic (unwrap hs.remoteStatic : Result NoiseError PublicKey) :=
    noPanic_unwrap hstatic
  refine wp_bind_iff.mpr (wp_pureCall_iff.mpr ⟨fun remote _ => ?_, fun e he hpanic => ?_⟩)
  · rw [wp_bind_iff, wp_write_iff]
    refine wp_bind_iff.mpr (wp_pureCall_call (wp_mono ?_ (fun _ _ h => h)
      (HandshakeState.wp_writeMessage2 ephemeral hremote (by rw [hlocal]; rfl))))
    intro msg2 hs' hsame
    refine wp_bind_iff.mpr (wp_pureCall_iff.mpr ⟨fun session _ => trivial, ?_⟩)
    rintro e he rfl
    exact HandshakeState.noPanic_intoSession (hsame ▸ hstatic) he
  · exact hunwrap (hpanic ▸ he)

/-- An inbound handshake that succeeds is complete. -/
theorem receiveHandshakeInit_spec {ourKeypair : SecretKey} {epoch : Epoch} {ephemeral : SecretKey}
    {message msg2 : Bytes} {currentTimeMs : Nat} {c c' : PeerConnection SecretKey PublicKey}
    (h : call (receiveHandshakeInit ourKeypair epoch ephemeral message currentTimeMs) c =
      .ok (msg2, c')) : SameEnds c c' ∧ c'.hasSession ∧ c'.expectedIdentity.isSome := by
  rw [call_eq_ok] at h
  unfold receiveHandshakeInit requireDirection requireState finish at h
  simp only [runs_bind_iff, runs_require_iff, runs_pureCall_iff, runs_write_iff, runs_pure_iff] at h
  obtain ⟨-, -, ⟨-, rfl⟩, -, -, ⟨-, rfl⟩, -, -, ⟨-, rfl⟩, -, -, ⟨-, rfl⟩, -, -, rfl, -, -, ⟨-, rfl⟩,
    -, -, ⟨-, rfl⟩, -, -, rfl, -, rfl⟩ := h
  exact ⟨⟨rfl, rfl, rfl, rfl, rfl⟩, rfl, rfl⟩

/-- An outbound handshake that succeeds is complete. -/
theorem completeHandshake_spec (message : Bytes) (currentTimeMs : Nat)
    (c : PeerConnection SecretKey PublicKey) :
    wp (completeHandshake message currentTimeMs)
      (fun _ c' => SameEnds c c' ∧ c'.expectedIdentity = c.expectedIdentity ∧ c'.hasSession)
      (fun _ c' => SameEnds c c') c := by
  have hsame : SameEnds c c := ⟨rfl, rfl, rfl, rfl, rfl⟩
  unfold completeHandshake requireState finish
  rw [wp_bind_iff, wp_require_iff]
  refine ⟨fun _ => ?_, fun _ => hsame⟩
  rw [wp_bind_iff, wp_expect_iff]
  refine ⟨fun hs _ => ?_, fun _ => hsame⟩
  rw [wp_bind_iff, wp_write_iff]
  have htaken : SameEnds c { c with noiseHandshake := none } := ⟨rfl, rfl, rfl, rfl, rfl⟩
  refine wp_bind_iff.mpr (wp_pureCall_iff.mpr ⟨fun r _ => ?_, fun _ _ => htaken⟩)
  refine wp_bind_iff.mpr (wp_write_iff.mpr ?_)
  refine wp_bind_iff.mpr (wp_pureCall_iff.mpr ⟨fun session _ => ?_, fun _ _ => ?_⟩)
  · rw [wp_write_iff]
    exact ⟨⟨rfl, rfl, rfl, rfl, rfl⟩, rfl, rfl⟩
  · exact ⟨rfl, rfl, rfl, rfl, rfl⟩

end PeerConnection

end Fips
