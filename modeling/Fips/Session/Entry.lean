import Fips.Noise.Handshake
import Fips.Wire.Link

/-!
# End-to-end session entries

Model of `node/session.rs`: one entry of the node's session table. `state` is `None` while a handler
holds the handshake it took out.

The measurement state (`MmpSessionState`) is a type parameter with the operations of `mmp/mod.rs`
the handlers call; they index nothing and unwrap nothing. Times are milliseconds; `instant` is the
monotonic clock.

## Results

* `handlePeerKbitFlip_of_none`, `handlePeerKbitFlip_of_some`, `cutoverToNewSession_of_some`: the two
  promotions of a pending session agree except for the completion time of the rekey, which only the
  cutover clears.
-/

namespace Fips

/-- The measurement operations links and sessions share. -/
class Mmp (μ : Type) where
  new : Bool → μ
  resetForRekey : Nat → μ → μ
  txBit : μ → Bool
  recordRecv (counter timestamp bytes : Nat) (ceFlag : Bool) (now : Nat) : μ → μ
  rxObserve (spinBit : Bool) (counter now : Nat) : μ → μ
  recordSent (counter timestamp bytes : Nat) : μ → μ
  processReceiverReport (report : ReceiverReport) (ourTimestampMs now : Nat) : μ → μ

/-- The path MTU operations of a session. -/
class SessionMmp (μ : Type) extends Mmp μ where
  observeIncomingMtu (pathMtu : Nat) : μ → μ
  applyNotification (mtu now : Nat) : μ → μ
  seedSourceMtu (mtu : Nat) : μ → μ

/-- `node/session.rs:17-26`. -/
inductive EndToEndState (SecretKey PublicKey : Type)
  | initiating (handshake : HandshakeState SecretKey PublicKey)
  | awaitingMsg3 (handshake : HandshakeState SecretKey PublicKey)
  | established (session : NoiseSession PublicKey)

namespace EndToEndState

variable {SecretKey PublicKey : Type}

/-- `EndToEndState::is_established`. -/
def isEstablished : EndToEndState SecretKey PublicKey → Bool
  | .established _ => true
  | _ => false

/-- `EndToEndState::is_initiating`: msg1 is out and the ack is awaited. -/
def isInitiating : EndToEndState SecretKey PublicKey → Bool
  | .initiating _ => true
  | _ => false

/-- `EndToEndState::is_awaiting_msg3`: the ack is out and the initiator's identity is not yet known. -/
def isAwaitingMsg3 : EndToEndState SecretKey PublicKey → Bool
  | .awaitingMsg3 _ => true
  | _ => false

end EndToEndState

/-- `node/session.rs:50-121`. -/
structure SessionEntry (SecretKey PublicKey μ : Type) where
  remoteAddr : NodeAddr
  remotePubkey : PublicKey
  state : Option (EndToEndState SecretKey PublicKey)
  createdAt : Nat
  lastActivity : Nat
  sessionStartMs : Nat
  coordsWarmupRemaining : Nat
  isInitiator : Bool
  mmp : Option μ
  packetsSent : Nat
  packetsRecv : Nat
  bytesSent : Nat
  bytesRecv : Nat
  handshakePayload : Option Bytes
  resendCount : Nat
  nextResendAtMs : Nat
  currentKBit : Bool
  previousNoiseSession : Option (NoiseSession PublicKey)
  drainStartedMs : Nat
  rekeyState : Option (HandshakeState SecretKey PublicKey)
  pendingNewSession : Option (NoiseSession PublicKey)
  rekeyInitiator : Bool
  lastPeerRekeyMs : Nat
  rekeyCompletedMs : Nat

namespace SessionEntry

variable {SecretKey PublicKey μ : Type}

/-- `SessionEntry::new`: no epoch is pending or draining, all counters are zero. -/
def new (remoteAddr : NodeAddr) (remotePubkey : PublicKey)
    (state : EndToEndState SecretKey PublicKey) (nowMs : Nat) (isInitiator : Bool) :
    SessionEntry SecretKey PublicKey μ where
  remoteAddr := remoteAddr
  remotePubkey := remotePubkey
  state := some state
  createdAt := nowMs
  lastActivity := nowMs
  sessionStartMs := 0
  coordsWarmupRemaining := 0
  isInitiator := isInitiator
  mmp := none
  packetsSent := 0
  packetsRecv := 0
  bytesSent := 0
  bytesRecv := 0
  handshakePayload := none
  resendCount := 0
  nextResendAtMs := 0
  currentKBit := false
  previousNoiseSession := none
  drainStartedMs := 0
  rekeyState := none
  pendingNewSession := none
  rekeyInitiator := false
  lastPeerRekeyMs := 0
  rekeyCompletedMs := 0

section Fields

variable (s : SessionEntry SecretKey PublicKey μ)

/-- `SessionEntry::set_state`, which also puts back a state that was taken. -/
def setState (state : EndToEndState SecretKey PublicKey) : SessionEntry SecretKey PublicKey μ :=
  { s with state := some state }

/-- `SessionEntry::touch`: application activity, which holds off the idle purge. -/
def touch (nowMs : Nat) : SessionEntry SecretKey PublicKey μ := { s with lastActivity := nowMs }

/-- `SessionEntry::is_established`; an entry whose state is taken is not. -/
def isEstablished : Bool := s.state.any EndToEndState.isEstablished

/-- `SessionEntry::is_initiating`; an entry whose state is taken is not. -/
def isInitiating : Bool := s.state.any EndToEndState.isInitiating

/-- `SessionEntry::is_awaiting_msg3`; an entry whose state is taken is not. -/
def isAwaitingMsg3 : Bool := s.state.any EndToEndState.isAwaitingMsg3

/-- `SessionEntry::set_coords_warmup_remaining`: how many frames are still to carry coordinates. -/
def setCoordsWarmupRemaining (value : Nat) : SessionEntry SecretKey PublicKey μ :=
  { s with coordsWarmupRemaining := value }

/-- `SessionEntry::mark_established`: the time that the frames' session timestamps count from. -/
def markEstablished (nowMs : Nat) : SessionEntry SecretKey PublicKey μ :=
  { s with sessionStartMs := nowMs }

/-- Truncated to 32 bits. -/
def sessionTimestamp (nowMs : Nat) : Nat :=
  ((nowMs : Int) - s.sessionStartMs).emod 4294967296 |>.toNat

/-- `SessionEntry::init_mmp`; the spin bit's role is the handshake's. -/
def initMmp [Mmp μ] : SessionEntry SecretKey PublicKey μ :=
  { s with mmp := some (Mmp.new s.isInitiator) }

/-- Mutation behind `mmp_mut`. -/
def mapMmp (f : μ → μ) : SessionEntry SecretKey PublicKey μ := { s with mmp := s.mmp.map f }

/-- `SessionEntry::record_sent`. -/
def recordSent (bytes : Nat) : SessionEntry SecretKey PublicKey μ :=
  { s with packetsSent := s.packetsSent + 1, bytesSent := s.bytesSent + bytes }

/-- `SessionEntry::record_recv`. -/
def recordRecv (bytes : Nat) : SessionEntry SecretKey PublicKey μ :=
  { s with packetsRecv := s.packetsRecv + 1, bytesRecv := s.bytesRecv + bytes }

/-- `SessionEntry::set_handshake_payload`: the message to resend, with its count at zero. -/
def setHandshakePayload (payload : Bytes) (nextResendAtMs : Nat) :
    SessionEntry SecretKey PublicKey μ :=
  { s with handshakePayload := some payload, resendCount := 0, nextResendAtMs := nextResendAtMs }

/-- `SessionEntry::clear_handshake_payload`: nothing is left to resend. -/
def clearHandshakePayload : SessionEntry SecretKey PublicKey μ :=
  { s with handshakePayload := none, nextResendAtMs := 0 }

/-- `SessionEntry::record_resend`. -/
def recordResend (nextResendAtMs : Nat) : SessionEntry SecretKey PublicKey μ :=
  { s with resendCount := s.resendCount + 1, nextResendAtMs := nextResendAtMs }

/-! ### Rekey -/

/-- `SessionEntry::has_rekey_in_progress`: an XK rekey of either role holds its handshake state. -/
def hasRekeyInProgress : Bool := s.rekeyState.isSome

/-- `SessionEntry::is_rekey_dampened`; zero stands for a peer that never began a rekey. -/
def isRekeyDampened (nowMs dampeningMs : Nat) : Bool :=
  s.lastPeerRekeyMs != 0 && decide (nowMs - s.lastPeerRekeyMs < dampeningMs)

/-- `SessionEntry::record_peer_rekey`. -/
def recordPeerRekey (nowMs : Nat) : SessionEntry SecretKey PublicKey μ :=
  { s with lastPeerRekeyMs := nowMs }

/-- `SessionEntry::send_counter`: the counter of the next frame, zero outside an established session. -/
def sendCounter : Nat :=
  match s.state with
  | some (.established session) => session.currentSendCounter
  | _ => 0

/-- `SessionEntry::set_rekey_completed_ms`: from here the initiator waits before it cuts over. -/
def setRekeyCompletedMs (ms : Nat) : SessionEntry SecretKey PublicKey μ :=
  { s with rekeyCompletedMs := ms }

/-- `SessionEntry::set_pending_session`: the rekey's keys are ready and its handshake state is
dropped. -/
def setPendingSession (session : NoiseSession PublicKey) : SessionEntry SecretKey PublicKey μ :=
  { s with pendingNewSession := some session, rekeyState := none }

/-- `SessionEntry::set_rekey_state`. -/
def setRekeyState (state : HandshakeState SecretKey PublicKey) (isInitiator : Bool) :
    SessionEntry SecretKey PublicKey μ :=
  { s with rekeyState := some state, rekeyInitiator := isInitiator }

/-- The established session, if there is one. -/
def current : Option (NoiseSession PublicKey) :=
  match s.state with
  | some (.established session) => some session
  | _ => none

/-- The part of a promotion that cutover and K-bit flip share. -/
def promote [Mmp μ] (newSession : NoiseSession PublicKey) (nowMs instant : Nat) :
    SessionEntry SecretKey PublicKey μ :=
  { s with
    pendingNewSession := none
    previousNoiseSession := s.current.or s.previousNoiseSession
    drainStartedMs := nowMs
    state := some (.established newSession)
    currentKBit := !s.currentKBit
    sessionStartMs := nowMs
    rekeyState := none
    rekeyInitiator := false
    mmp := s.mmp.map (Mmp.resetForRekey instant) }

/-- `SessionEntry::cutover_to_new_session`: the initiator moves to the pending keys and turns its
K-bit. The flag says whether there were any. -/
def cutoverToNewSession [Mmp μ] (nowMs instant : Nat) :
    SessionEntry SecretKey PublicKey μ × Bool :=
  match s.pendingNewSession with
  | none => (s, false)
  | some newSession => ({ s.promote newSession nowMs instant with rekeyCompletedMs := 0 }, true)

/-- `SessionEntry::handle_peer_kbit_flip`: the responder moves to the pending keys when the peer's
K-bit turned. Unlike the cutover it leaves `rekey_completed_ms`. -/
def handlePeerKbitFlip [Mmp μ] (nowMs instant : Nat) : SessionEntry SecretKey PublicKey μ × Bool :=
  match s.pendingNewSession with
  | none => (s, false)
  | some newSession => (s.promote newSession nowMs instant, true)

/-- `SessionEntry::drain_expired`; a start of zero means that nothing drains. -/
def drainExpired (nowMs drainMs : Nat) : Bool :=
  decide (0 < s.drainStartedMs) && decide (drainMs ≤ nowMs - s.drainStartedMs)

/-- `SessionEntry::is_draining`: the previous epoch's keys still open late frames. -/
def isDraining : Bool := decide (0 < s.drainStartedMs)

/-- `SessionEntry::complete_drain`: the previous epoch's keys are gone. -/
def completeDrain : SessionEntry SecretKey PublicKey μ :=
  { s with previousNoiseSession := none, drainStartedMs := 0 }

/-- `SessionEntry::abandon_rekey`: handshake state and pending keys are dropped, the session stays. -/
def abandonRekey : SessionEntry SecretKey PublicKey μ :=
  { s with rekeyState := none, pendingNewSession := none, rekeyInitiator := false }

end Fields

section Flip

variable [Mmp μ] {s : SessionEntry SecretKey PublicKey μ}

theorem handlePeerKbitFlip_of_none (h : s.pendingNewSession = none) (nowMs instant : Nat) :
    s.handlePeerKbitFlip nowMs instant = (s, false) := by
  unfold handlePeerKbitFlip
  rw [h]

theorem handlePeerKbitFlip_of_some {session : NoiseSession PublicKey}
    (h : s.pendingNewSession = some session) (nowMs instant : Nat) :
    s.handlePeerKbitFlip nowMs instant = (s.promote session nowMs instant, true) := by
  unfold handlePeerKbitFlip
  rw [h]

theorem cutoverToNewSession_of_some {session : NoiseSession PublicKey}
    (h : s.pendingNewSession = some session) (nowMs instant : Nat) :
    s.cutoverToNewSession nowMs instant =
      ({ (s.handlePeerKbitFlip nowMs instant).1 with rekeyCompletedMs := 0 }, true) := by
  unfold cutoverToNewSession
  rw [handlePeerKbitFlip_of_some h, h]

end Flip

theorem isEstablished_iff {s : SessionEntry SecretKey PublicKey μ} :
    s.isEstablished = true ↔ ∃ session, s.state = some (.established session) := by
  unfold isEstablished
  cases h : s.state with
  | none => simp
  | some state => cases state <;> simp [EndToEndState.isEstablished]

theorem isInitiating_iff {s : SessionEntry SecretKey PublicKey μ} :
    s.isInitiating = true ↔ ∃ handshake, s.state = some (.initiating handshake) := by
  unfold isInitiating
  cases h : s.state with
  | none => simp
  | some state => cases state <;> simp [EndToEndState.isInitiating]

theorem isAwaitingMsg3_iff {s : SessionEntry SecretKey PublicKey μ} :
    s.isAwaitingMsg3 = true ↔ ∃ handshake, s.state = some (.awaitingMsg3 handshake) := by
  unfold isAwaitingMsg3
  cases h : s.state with
  | none => simp
  | some state => cases state <;> simp [EndToEndState.isAwaitingMsg3]

end SessionEntry

end Fips
