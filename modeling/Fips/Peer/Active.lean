import Fips.Session.Entry

/-!
# Authenticated peers

Model of `peer/active.rs`: the slots of `ActivePeer` the frame and rekey handlers read or write. Its
tree-facing slots are `TreePeer`; the bloom filter, heartbeat and announce timers belong to handlers
that are not modelled.

Instants are readings of the monotonic clock in milliseconds; `now` is the reading a method takes.

## Results

* `cutoverToNewSession_eq`: the two promotions of a pending session are the same function.
-/

namespace Fips

/-- `peer/active.rs:20-30`. -/
inductive ConnectivityState
  | connected
  | stale
  | reconnecting
  | disconnected
  deriving DecidableEq, Repr

/-- The counters of `transport::LinkStats` a frame moves. -/
structure LinkStats where
  packetsSent : Nat
  packetsRecv : Nat
  bytesSent : Nat
  bytesRecv : Nat
  lastRecvMs : Nat
  deriving DecidableEq, Repr

/-- `LinkStats::record_recv`. -/
def LinkStats.recordRecv (s : LinkStats) (bytes timestampMs : Nat) : LinkStats :=
  { s with
    packetsRecv := s.packetsRecv + 1
    bytesRecv := s.bytesRecv + bytes
    lastRecvMs := timestampMs }

/-- `t.elapsed().as_secs()` at `now`. -/
def elapsedSecs (t now : Nat) : Nat := (now - t) / 1000

/-- `TransportId`, a counter that the node hands out. -/
abbrev TransportId := Nat

/-- `LinkId`, a counter that the node hands out. -/
abbrev LinkId := Nat

/-- `TransportAddr`: the transport alone reads its bytes. -/
abbrev TransportAddr := Bytes

/-- `peer/active.rs:73-186`. -/
structure ActivePeer (SecretKey PublicKey μ : Type) where
  nodeAddr : NodeAddr
  linkId : LinkId
  connectivity : ConnectivityState
  noiseSession : Option (NoiseSession PublicKey)
  ourIndex : Option SessionIndex
  theirIndex : Option SessionIndex
  transportId : Option TransportId
  currentAddr : Option TransportAddr
  sessionStart : Nat
  linkStats : LinkStats
  lastSeen : Nat
  remoteEpoch : Option Epoch
  mmp : Option μ
  handshakeMsg2 : Option Bytes
  replaySuppressedCount : Nat
  consecutiveDecryptFailures : Nat
  sessionEstablishedAt : Nat
  currentKBit : Bool
  previousSession : Option (NoiseSession PublicKey)
  previousOurIndex : Option SessionIndex
  drainStarted : Option Nat
  pendingNewSession : Option (NoiseSession PublicKey)
  pendingOurIndex : Option SessionIndex
  pendingTheirIndex : Option SessionIndex
  rekeyInProgress : Bool
  lastPeerRekey : Option Nat
  rekeyHandshake : Option (HandshakeState SecretKey PublicKey)
  rekeyOurIndex : Option SessionIndex
  rekeyMsg1 : Option Bytes
  rekeyMsg1NextResend : Nat

namespace ActivePeer

variable {SecretKey PublicKey μ : Type}

/-- `with_session`; the `MmpConfig` is in `Mmp.new`. -/
def withSession [Mmp μ] (nodeAddr : NodeAddr) (linkId : LinkId) (authenticatedAt : Nat)
    (noiseSession : NoiseSession PublicKey) (ourIndex theirIndex : SessionIndex)
    (transportId : TransportId) (currentAddr : TransportAddr) (linkStats : LinkStats)
    (isInitiator : Bool) (remoteEpoch : Option Epoch) (now : Nat) :
    ActivePeer SecretKey PublicKey μ where
  nodeAddr := nodeAddr
  linkId := linkId
  connectivity := .connected
  noiseSession := some noiseSession
  ourIndex := some ourIndex
  theirIndex := some theirIndex
  transportId := some transportId
  currentAddr := some currentAddr
  sessionStart := now
  linkStats := linkStats
  lastSeen := authenticatedAt
  remoteEpoch := remoteEpoch
  mmp := some (Mmp.new isInitiator)
  handshakeMsg2 := none
  replaySuppressedCount := 0
  consecutiveDecryptFailures := 0
  sessionEstablishedAt := now
  currentKBit := false
  previousSession := none
  previousOurIndex := none
  drainStarted := none
  pendingNewSession := none
  pendingOurIndex := none
  pendingTheirIndex := none
  rekeyInProgress := false
  lastPeerRekey := none
  rekeyHandshake := none
  rekeyOurIndex := none
  rekeyMsg1 := none
  rekeyMsg1NextResend := 0

section Fields

variable (p : ActivePeer SecretKey PublicKey μ)

/-- `replace_session`, with the old index. -/
def replaceSession (newSession : NoiseSession PublicKey) (newOurIndex newTheirIndex : SessionIndex) :
    ActivePeer SecretKey PublicKey μ × Option SessionIndex :=
  ({ p with
    replaySuppressedCount := 0
    noiseSession := some newSession
    ourIndex := some newOurIndex
    theirIndex := some newTheirIndex }, p.ourIndex)

/-- `ActivePeer::set_handshake_msg2`: kept to answer a msg1 that comes twice. -/
def setHandshakeMsg2 (msg2 : Bytes) : ActivePeer SecretKey PublicKey μ :=
  { p with handshakeMsg2 := some msg2 }

/-- `ActivePeer::can_send`. -/
def canSend : Bool := p.connectivity == .connected || p.connectivity == .stale

/-- `ActivePeer::is_healthy`. -/
def isHealthy : Bool := p.connectivity == .connected

/-- `ActivePeer::has_session`. -/
def hasSession : Bool := p.noiseSession.isSome

/-- `ActivePeer::set_current_addr`: where the peer's last frame came from. -/
def setCurrentAddr (transportId : TransportId) (addr : TransportAddr) :
    ActivePeer SecretKey PublicKey μ :=
  { p with transportId := some transportId, currentAddr := some addr }

/-- `ActivePeer::increment_replay_suppressed`. -/
def incrementReplaySuppressed : ActivePeer SecretKey PublicKey μ :=
  { p with replaySuppressedCount := p.replaySuppressedCount + 1 }

/-- `ActivePeer::increment_decrypt_failures`. -/
def incrementDecryptFailures : ActivePeer SecretKey PublicKey μ :=
  { p with consecutiveDecryptFailures := p.consecutiveDecryptFailures + 1 }

/-- `ActivePeer::reset_decrypt_failures`. -/
def resetDecryptFailures : ActivePeer SecretKey PublicKey μ :=
  { p with consecutiveDecryptFailures := 0 }

/-- `ActivePeer::touch`: a stale peer that is heard from is connected again. -/
def touch (currentTimeMs : Nat) : ActivePeer SecretKey PublicKey μ :=
  { p with
    lastSeen := currentTimeMs
    connectivity := if p.connectivity == .stale then .connected else p.connectivity }

/-- Truncated to 32 bits. -/
def sessionElapsedMs (now : Nat) : Nat := (now - p.sessionStart) % 4294967296

/-- Mutation behind `mmp_mut`. -/
def mapMmp (f : μ → μ) : ActivePeer SecretKey PublicKey μ := { p with mmp := p.mmp.map f }

/-! ### Rekey -/

/-- `ActivePeer::is_rekey_dampened`: whether the peer itself began a rekey a short while ago. -/
def isRekeyDampened (now dampeningSecs : Nat) : Bool :=
  match p.lastPeerRekey with
  | some t => decide (elapsedSecs t now < dampeningSecs)
  | none => false

/-- `ActivePeer::record_peer_rekey`. -/
def recordPeerRekey (now : Nat) : ActivePeer SecretKey PublicKey μ :=
  { p with lastPeerRekey := some now }

/-- `ActivePeer::set_pending_session`: the rekey's keys and indices are ready, the cutover is still
to come. -/
def setPendingSession (session : NoiseSession PublicKey) (ourIndex theirIndex : SessionIndex) :
    ActivePeer SecretKey PublicKey μ :=
  { p with
    pendingNewSession := some session
    pendingOurIndex := some ourIndex
    pendingTheirIndex := some theirIndex
    rekeyInProgress := false
    rekeyOurIndex := none
    rekeyHandshake := none
    rekeyMsg1 := none
    rekeyMsg1NextResend := 0 }

/-- The new session becomes the current one and the current one drains. -/
def promote [Mmp μ] (newSession : NoiseSession PublicKey) (now : Nat) :
    ActivePeer SecretKey PublicKey μ :=
  { p with
    pendingNewSession := none
    pendingOurIndex := none
    pendingTheirIndex := none
    previousSession := p.noiseSession
    previousOurIndex := p.ourIndex
    drainStarted := some now
    noiseSession := some newSession
    ourIndex := p.pendingOurIndex
    theirIndex := p.pendingTheirIndex
    currentKBit := !p.currentKBit
    sessionEstablishedAt := now
    sessionStart := now
    rekeyInProgress := false
    replaySuppressedCount := 0
    mmp := p.mmp.map (Mmp.resetForRekey now) }

/-- The initiator's promotion, with the index the caller logs. -/
def cutoverToNewSession [Mmp μ] (now : Nat) :
    ActivePeer SecretKey PublicKey μ × Option SessionIndex :=
  match p.pendingNewSession with
  | none => (p, none)
  | some newSession =>
    let p' := p.promote newSession now
    (p', p'.previousOurIndex)

/-- The responder's promotion. -/
def handlePeerKbitFlip [Mmp μ] (now : Nat) : ActivePeer SecretKey PublicKey μ × Option SessionIndex :=
  match p.pendingNewSession with
  | none => (p, none)
  | some newSession =>
    let p' := p.promote newSession now
    (p', p'.previousOurIndex)

theorem cutoverToNewSession_eq [Mmp μ] (now : Nat) :
    p.cutoverToNewSession now = p.handlePeerKbitFlip now := rfl

/-- `ActivePeer::drain_expired`. -/
def drainExpired (now drainSecs : Nat) : Bool :=
  match p.drainStarted with
  | some t => decide (drainSecs ≤ elapsedSecs t now)
  | none => false

/-- `ActivePeer::is_draining`: the previous epoch's keys still open late frames. -/
def isDraining : Bool := p.drainStarted.isSome

/-- The index to free is the second component. -/
def completeDrain : ActivePeer SecretKey PublicKey μ × Option SessionIndex :=
  ({ p with previousSession := none, drainStarted := none, previousOurIndex := none },
    p.previousOurIndex)

/-- The index to free is the second component. The pending session is dropped only where no
handshake of our own holds an index. -/
def abandonRekey : ActivePeer SecretKey PublicKey μ × Option SessionIndex :=
  let p' := { p with
    rekeyHandshake := none
    rekeyMsg1 := none
    rekeyMsg1NextResend := 0
    rekeyInProgress := false
    rekeyOurIndex := none }
  match p.rekeyOurIndex with
  | some index => (p', some index)
  | none =>
    ({ p' with pendingNewSession := none, pendingTheirIndex := none, pendingOurIndex := none },
      p.pendingOurIndex)

/-- `ActivePeer::set_rekey_state`: our own rekey is under way, its msg1 kept to be resent. -/
def setRekeyState (handshake : HandshakeState SecretKey PublicKey) (ourIndex : SessionIndex)
    (wireMsg1 : Bytes) (nextResendMs : Nat) : ActivePeer SecretKey PublicKey μ :=
  { p with
    rekeyHandshake := some handshake
    rekeyOurIndex := some ourIndex
    rekeyMsg1 := some wireMsg1
    rekeyMsg1NextResend := nextResendMs
    rekeyInProgress := true }

/-- `ActivePeer::needs_msg1_resend`. -/
def needsMsg1Resend (nowMs : Nat) : Bool :=
  p.rekeyInProgress && p.rekeyMsg1.isSome && decide (p.rekeyMsg1NextResend ≤ nowMs)

/-- `ActivePeer::set_msg1_next_resend`. -/
def setMsg1NextResend (nextMs : Nat) : ActivePeer SecretKey PublicKey μ :=
  { p with rekeyMsg1NextResend := nextMs }

end Fields

section Rekey

variable [Sha256] [HkdfSha256] [ChaCha20Poly1305] [Secp256k1 SecretKey PublicKey]

/-- `complete_rekey_msg2`: the handshake is taken out first, so a failure loses it. -/
def completeRekeyMsg2 (p : ActivePeer SecretKey PublicKey μ) (msg2 : Bytes) :
    ActivePeer SecretKey PublicKey μ × Checked.Result NoiseError (NoiseSession PublicKey) :=
  match p.rekeyHandshake with
  | none => (p, .error (.error (.wrongState "rekey handshake in progress" "no handshake state")))
  | some hs =>
    let taken := { p with rekeyHandshake := none }
    match Checked.call (HandshakeState.readMessage2 msg2) hs with
    | .error e => (taken, .error e)
    | .ok (_, hs) =>
      match hs.intoSession with
      | .error e => (taken, .error e)
      | .ok session => ({ taken with rekeyMsg1 := none, rekeyMsg1NextResend := 0 }, .ok session)

end Rekey

end ActivePeer

end Fips
