import Fips.Lib.StatePart
import Fips.Node.Handshake

/-!
# Admission of handshakes

The rate limiter of msg1 (`HandshakeRateLimiter` of `node/rate_limit.rs`) and `handle_msg1` with its
part in it: a slot is taken before a msg1 is looked at, and each of the exits gives it back
(`complete_handshake`). `AdmittingNode` is a node with its limiter. Its handler is written out exit
by exit, over the link handshake of `Fips.Node.Handshake` as a part (`onLink`), which it simulates.

The token bucket counts in floating point. Its answer is an argument, `acquired`, of each start. The
answer of the limiter takes the place of `LinkEnv.msg1Allowed`.

## Results

* `handleMsg1_simulates`: to the links, the handler is `LinkNode.handleMsg1`.
-/

namespace Fips

open Checked

/-- `HandshakeRateLimiter`, without the token bucket. -/
structure HandshakeRateLimiter where
  pendingCount : Nat
  maxPending : Nat
  deriving DecidableEq, Repr

namespace HandshakeRateLimiter

/-- `start_handshake`. The token bucket is asked last. -/
def startHandshake (limiter : HandshakeRateLimiter) (acquired : Bool) :
    HandshakeRateLimiter × Bool :=
  if limiter.maxPending ≤ limiter.pendingCount then (limiter, false)
  else if acquired then ({ limiter with pendingCount := limiter.pendingCount + 1 }, true)
  else (limiter, false)

/-- `complete_handshake`. -/
def completeHandshake (limiter : HandshakeRateLimiter) : HandshakeRateLimiter :=
  if 0 < limiter.pendingCount then { limiter with pendingCount := limiter.pendingCount - 1 }
  else limiter

end HandshakeRateLimiter

/-- A node with the limiter of the handshakes it answers. -/
structure AdmittingNode (SecretKey PublicKey ν μ : Type) extends
    LinkNode SecretKey PublicKey ν μ where
  msg1RateLimiter : HandshakeRateLimiter

namespace AdmittingNode

variable {SecretKey PublicKey ν μ ε α : Type}

/-- A method of an admitting node. -/
abbrev M (SecretKey PublicKey ν μ ε α : Type) := Method (AdmittingNode SecretKey PublicKey ν μ) ε α

/-- A handler of an admitting node. -/
abbrev Handler (SecretKey PublicKey ν μ α : Type) := M SecretKey PublicKey ν μ Unit α

/-- The node beside its limiter. -/
def linkPart : StatePart (AdmittingNode SecretKey PublicKey ν μ) (LinkNode SecretKey PublicKey ν μ) where
  get := (·.toLinkNode)
  set n links := { n with toLinkNode := links }
  get_set _ _ := rfl

/-- A method of the node below, the limiter unchanged. -/
abbrev onLink (m : LinkNode.M SecretKey PublicKey ν μ ε α) : M SecretKey PublicKey ν μ ε α :=
  onPart linkPart m

/-- `msg1_rate_limiter.start_handshake()`. -/
def startHandshake (acquired : Bool) : M SecretKey PublicKey ν μ ε Bool := do
  let started ← read fun n => n.msg1RateLimiter.startHandshake acquired
  write fun n => { n with msg1RateLimiter := started.1 }
  pure started.2

/-- `msg1_rate_limiter.complete_handshake()`. -/
def completeHandshake : M SecretKey PublicKey ν μ ε Unit :=
  write fun n => { n with msg1RateLimiter := n.msg1RateLimiter.completeHandshake }

/-- `match x { Ok(a) => a, Err(_) => { complete_handshake(); return } }`. -/
def orComplete {ε' : Type} : Result ε' α → Handler SecretKey PublicKey ν μ α
  | .ok a => pure a
  | .error (.error _) => do
    completeHandshake
    stop ()
  | .error .panic => crash

theorem silent_completeHandshake :
    Silent linkPart (completeHandshake : M SecretKey PublicKey ν μ ε Unit) := fun _ => rfl

/-- An exit that gives its slot back. -/
theorem simulates_exit (e : ε) : Simulates linkPart
    (do completeHandshake; stop e : M SecretKey PublicKey ν μ ε α) (stop e) :=
  silent_completeHandshake.silent_then (simulates_stop e)

theorem simulates_orComplete {ε' : Type} (x : Result ε' α) : Simulates linkPart
    (orComplete x : Handler SecretKey PublicKey ν μ α) (orReturn x) := by
  cases x with
  | ok a => exact simulates_pure a
  | error e =>
    cases e with
    | error e => exact simulates_exit ()
    | panic => exact simulates_crash

/-! ## The handler -/

variable (env : LinkEnv SecretKey)

/-- `handshake.rs:63-131`. -/
def checkAddress (packet : ReceivedPacket) : Handler SecretKey PublicKey ν μ Bool := do
  match ← onLink (read (·.addrToLink.lookup (packet.transportId, packet.remoteAddr))) with
  | none => pure false
  | some existingLinkId => do
    match ← onLink (read (·.links.lookup existingLinkId)) with
    | none => pure false
    | some link => do
      let isActivePeer ←
        onLink (read fun n => n.peers.entries.any fun e => e.2.linkId == existingLinkId)
      if isActivePeer then pure true
      else if link.direction == .inbound then do
        let msg2 ← onLink (read (LinkNode.findStoredMsg2 existingLinkId))
        onLink (LinkNode.resendMsg2 env packet msg2)
        completeHandshake
        stop ()
      else pure false

theorem simulates_checkAddress (packet : ReceivedPacket) : Simulates linkPart
    (checkAddress env packet : Handler SecretKey PublicKey ν μ Bool)
    (LinkNode.checkAddress env packet) := by
  unfold checkAddress LinkNode.checkAddress
  refine (simulates_onPart _).bind fun existing => ?_
  cases existing with
  | none => exact simulates_pure false
  | some existingLinkId =>
    refine (simulates_onPart _).bind fun link => ?_
    cases link with
    | none => exact simulates_pure false
    | some link =>
      refine (simulates_onPart _).bind fun isActivePeer => ?_
      refine (simulates_pure true).ite (Simulates.ite ?_ (simulates_pure false))
      refine (simulates_onPart _).bind fun msg2 => ?_
      exact (simulates_onPart _).bind fun _ => simulates_exit ()

/-- `handshake.rs:192-336`. -/
def respondRekey (packet : ReceivedPacket) (senderIdx : SessionIndex)
    (conn : PeerConnection SecretKey PublicKey) (msg2Response : Bytes) (addr : NodeAddr)
    (existingPeer : ActivePeer SecretKey PublicKey ν) : Handler SecretKey PublicKey ν μ Unit := do
  let ourAddr ← onLink (read (·.nodeAddr))
  if existingPeer.pendingNewSession.isSome then do
    onLink (LinkNode.discard conn.linkId)
    completeHandshake
  else if existingPeer.rekeyInProgress && decide (ourAddr < addr) then do
    onLink (LinkNode.discard conn.linkId)
    completeHandshake
  else do
    if existingPeer.rekeyInProgress then onLink (LinkNode.yieldRekey addr existingPeer)
    match ← onLink (attempt (LinkNode.allocate env)) with
    | .error _ => completeHandshake
    | .ok ourNewIndex =>
      match conn.takeSession.2 with
      | none => do
        onLink (LinkNode.free ourNewIndex)
        completeHandshake
      | some noiseSession => do
        let wireMsg2 := buildMsg2 ourNewIndex senderIdx msg2Response
        let sent ← onLink (LinkNode.transmit env packet.transportId packet.remoteAddr wireMsg2)
        if !sent then do
          onLink (LinkNode.free ourNewIndex)
          completeHandshake
        else do
          onLink (LinkNode.modifyPeer addr fun p =>
            (p.setPendingSession noiseSession ourNewIndex senderIdx).recordPeerRekey env.instant)
          onLink (write fun n => { n with
            peersByIndex := n.peersByIndex.insert (packet.transportId, ourNewIndex) addr })
          onLink (LinkNode.discard conn.linkId)
          completeHandshake

theorem simulates_respondRekey (packet : ReceivedPacket) (senderIdx : SessionIndex)
    (conn : PeerConnection SecretKey PublicKey) (msg2Response : Bytes) (addr : NodeAddr)
    (existingPeer : ActivePeer SecretKey PublicKey ν) : Simulates linkPart
    (respondRekey env packet senderIdx conn msg2Response addr existingPeer :
      Handler SecretKey PublicKey ν μ Unit)
    (LinkNode.respondRekey env packet senderIdx conn msg2Response addr existingPeer) := by
  unfold respondRekey LinkNode.respondRekey
  have hdiscard : Simulates linkPart
      (do onLink (LinkNode.discard conn.linkId); completeHandshake :
        Handler SecretKey PublicKey ν μ Unit)
      (LinkNode.discard conn.linkId) :=
    (simulates_onPart _).then_silent silent_completeHandshake
  refine (simulates_onPart _).bind fun ourAddr => ?_
  refine hdiscard.ite (hdiscard.ite ?_)
  refine (simulates_onPart _).ite_then fun _ => ?_
  refine (simulates_onPart _).bind fun allocated => ?_
  cases allocated with
  | error e => exact silent_completeHandshake
  | ok ourNewIndex =>
    have hfree : Simulates linkPart
        (do onLink (LinkNode.free ourNewIndex); completeHandshake :
          Handler SecretKey PublicKey ν μ Unit)
        (LinkNode.free ourNewIndex) :=
      (simulates_onPart _).then_silent silent_completeHandshake
    cases conn.takeSession.2 with
    | none => exact hfree
    | some noiseSession =>
      refine (simulates_onPart _).bind fun sent => hfree.ite ?_
      refine (simulates_onPart _).bind fun _ => (simulates_onPart _).bind fun _ => ?_
      exact hdiscard

/-- `handshake.rs:350-409`. -/
def openInbound (packet : ReceivedPacket) (senderIdx : SessionIndex)
    (conn : PeerConnection SecretKey PublicKey) (msg2Response : Bytes) :
    Handler SecretKey PublicKey ν μ (SessionIndex × Bytes) := do
  match ← onLink (attempt (LinkNode.allocate env)) with
  | .error _ => do
    completeHandshake
    stop ()
  | .ok ourIndex => do
    let wireMsg2 := buildMsg2 ourIndex senderIdx msg2Response
    let conn := { conn with ourIndex := some ourIndex, theirIndex := some senderIdx }
    onLink (LinkNode.addLink ⟨conn.linkId, packet.transportId, packet.remoteAddr, .inbound⟩)
    onLink (write fun n => { n with
      connections := n.connections.insert conn.linkId (conn.setHandshakeMsg2 wireMsg2) })
    let sent ← onLink (LinkNode.transmit env packet.transportId packet.remoteAddr wireMsg2)
    if !sent then do
      onLink (LinkNode.dropConnection conn.linkId)
      onLink (LinkNode.forgetLink conn.linkId packet.transportId packet.remoteAddr)
      onLink (LinkNode.free ourIndex)
      completeHandshake
      stop ()
    else pure (ourIndex, wireMsg2)

theorem simulates_openInbound (packet : ReceivedPacket) (senderIdx : SessionIndex)
    (conn : PeerConnection SecretKey PublicKey) (msg2Response : Bytes) : Simulates linkPart
    (openInbound env packet senderIdx conn msg2Response : Handler SecretKey PublicKey ν μ _)
    (LinkNode.openInbound env packet senderIdx conn msg2Response) := by
  unfold openInbound LinkNode.openInbound
  refine (simulates_onPart _).bind fun allocated => ?_
  cases allocated with
  | error e => exact simulates_exit ()
  | ok ourIndex =>
    refine (simulates_onPart _).bind fun _ => (simulates_onPart _).bind fun _ => ?_
    refine (simulates_onPart _).bind fun sent => Simulates.ite ?_ (simulates_pure _)
    refine (simulates_onPart _).bind fun _ => (simulates_onPart _).bind fun _ => ?_
    exact (simulates_onPart _).bind fun _ => simulates_exit ()

variable [Sha256] [Secp256k1 SecretKey PublicKey] [Mmp ν]

/-- `handshake.rs:350-498`. -/
def acceptConnection (packet : ReceivedPacket) (senderIdx : SessionIndex)
    (conn : PeerConnection SecretKey PublicKey) (msg2Response : Bytes)
    (peerIdentity : PeerIdentity PublicKey) : Handler SecretKey PublicKey ν μ Unit := do
  let (ourIndex, wireMsg2) ← openInbound env packet senderIdx conn msg2Response
  let promotion ← onLink
    (attempt (LinkNode.promoteConnection conn.linkId peerIdentity packet.timestampMs env.instant))
  match promotion with
  | .ok (.promoted addr) => onLink (LinkNode.modifyPeer addr (·.setHandshakeMsg2 wireMsg2))
  | .ok (.crossConnectionWon loserLinkId addr) => do
    onLink (LinkNode.modifyPeer addr (·.setHandshakeMsg2 wireMsg2))
    onLink (write (LinkNode.removeLink loserLinkId))
  | .ok (.crossConnectionLost winnerLinkId) => do
    onLink (write (LinkNode.removeLink conn.linkId))
    onLink (write fun n => { n with
      addrToLink := n.addrToLink.insert (packet.transportId, packet.remoteAddr) winnerLinkId })
  | .error _ => do
    onLink (write (LinkNode.removeLink conn.linkId))
    onLink (LinkNode.free ourIndex)
  completeHandshake

theorem simulates_acceptConnection (packet : ReceivedPacket) (senderIdx : SessionIndex)
    (conn : PeerConnection SecretKey PublicKey) (msg2Response : Bytes)
    (peerIdentity : PeerIdentity PublicKey) : Simulates linkPart
    (acceptConnection env packet senderIdx conn msg2Response peerIdentity :
      Handler SecretKey PublicKey ν μ Unit)
    (LinkNode.acceptConnection env packet senderIdx conn msg2Response peerIdentity) := by
  unfold acceptConnection LinkNode.acceptConnection
  refine (simulates_openInbound env packet senderIdx conn msg2Response).bind fun opened => ?_
  refine (simulates_onPart _).bind fun promotion => ?_
  cases promotion with
  | error e =>
    refine (simulates_onPart _).bind fun _ => ?_
    exact (simulates_onPart _).then_silent silent_completeHandshake
  | ok result =>
    cases result with
    | promoted addr => exact (simulates_onPart _).then_silent silent_completeHandshake
    | crossConnectionWon loserLinkId addr =>
      refine (simulates_onPart _).bind fun _ => ?_
      exact (simulates_onPart _).then_silent silent_completeHandshake
    | crossConnectionLost winnerLinkId =>
      refine (simulates_onPart _).bind fun _ => ?_
      exact (simulates_onPart _).then_silent silent_completeHandshake

/-- `handshake.rs:141-350`. -/
def receiveMsg1 (packet : ReceivedPacket) (senderIdx : SessionIndex)
    (conn : PeerConnection SecretKey PublicKey) (msg2Response : Bytes)
    (peerIdentity : PeerIdentity PublicKey) (possibleRestart : Bool) :
    Handler SecretKey PublicKey ν μ Unit := do
  let addr := peerIdentity.nodeAddr SecretKey
  let existing ← onLink (read (·.peers.lookup addr))
  let possibleRestart := possibleRestart || existing.isSome
  match if possibleRestart then existing else none with
  | none => acceptConnection env packet senderIdx conn msg2Response peerIdentity
  | some existingPeer => do
    let config ← onLink (read (·.config))
    if LinkNode.epochMismatch existingPeer.remoteEpoch conn.remoteEpoch then do
      onLink (LinkNode.removeActivePeer addr)
      onLink (LinkNode.emit (.scheduleReconnect addr))
      acceptConnection env packet senderIdx conn msg2Response peerIdentity
    else if LinkNode.isRekey config env.instant existingPeer then
      respondRekey env packet senderIdx conn msg2Response addr existingPeer
    else do
      onLink (LinkNode.resendMsg2 env packet existingPeer.handshakeMsg2)
      completeHandshake

theorem simulates_receiveMsg1 (packet : ReceivedPacket) (senderIdx : SessionIndex)
    (conn : PeerConnection SecretKey PublicKey) (msg2Response : Bytes)
    (peerIdentity : PeerIdentity PublicKey) (possibleRestart : Bool) : Simulates linkPart
    (receiveMsg1 env packet senderIdx conn msg2Response peerIdentity possibleRestart :
      Handler SecretKey PublicKey ν μ Unit)
    (LinkNode.receiveMsg1 env packet senderIdx conn msg2Response peerIdentity possibleRestart) := by
  unfold receiveMsg1 LinkNode.receiveMsg1
  have haccept := simulates_acceptConnection (ν := ν) (μ := μ) env packet senderIdx conn msg2Response
    peerIdentity
  refine (simulates_onPart _).bind fun existing => ?_
  dsimp only
  cases (if possibleRestart || existing.isSome then existing else none) with
  | none => exact haccept
  | some existingPeer =>
    refine (simulates_onPart _).bind fun config => Simulates.ite ?_ (Simulates.ite ?_ ?_)
    · exact (simulates_onPart _).bind fun _ => (simulates_onPart _).bind fun _ => haccept
    · exact simulates_respondRekey env packet senderIdx conn msg2Response _ existingPeer
    · exact (simulates_onPart _).then_silent silent_completeHandshake

variable [HkdfSha256] [ChaCha20Poly1305]

/-- `handshake.rs:28-139`, and what follows for the peer a msg1 is from. -/
def admitted (packet : ReceivedPacket) : Handler SecretKey PublicKey ν μ Unit := do
  if !env.acceptsConnections packet.transportId then do
    completeHandshake
    stop ()
  else do
    let header ← orComplete (Msg1Header.parse packet.data)
    let possibleRestart ← checkAddress env packet
    let linkId ← onLink LinkNode.allocateLinkId
    let n ← onLink (read id)
    let noiseMsg1 ← onLink
      (orReturn (sliceFrom packet.data header.noiseMsg1Offset : Result Unit Bytes))
    let received := call
      (PeerConnection.receiveHandshakeInit n.identity.secretKey n.startupEpoch env.ephemeral
        noiseMsg1 packet.timestampMs)
      (PeerConnection.inboundWithTransport linkId packet.transportId packet.remoteAddr
        packet.timestampMs)
    let (msg2Response, conn) ← orComplete received
    let peerIdentity ← orComplete (okOr () conn.expectedIdentity)
    receiveMsg1 env packet header.senderIdx conn msg2Response peerIdentity possibleRestart

theorem simulates_admitted (hallowed : env.msg1Allowed = true) (packet : ReceivedPacket) :
    Simulates linkPart (body (admitted env packet) : Handler SecretKey PublicKey ν μ Unit)
      (LinkNode.handleMsg1 env packet) := by
  unfold admitted LinkNode.handleMsg1
  rw [hallowed]
  refine Simulates.body (Simulates.ite (simulates_exit ()) ?_)
  refine (simulates_orComplete _).bind fun header => ?_
  refine (simulates_checkAddress env packet).bind fun possibleRestart => ?_
  refine (simulates_onPart _).bind fun linkId => (simulates_onPart _).bind fun n => ?_
  refine (simulates_onPart _).bind fun noiseMsg1 => (simulates_orComplete _).bind fun received => ?_
  refine Simulates.bind ?_ fun peerIdentity =>
    simulates_receiveMsg1 env packet header.senderIdx received.2 received.1 peerIdentity
      possibleRestart
  cases received.2.expectedIdentity with
  | none => exact simulates_exit ()
  | some identity => exact simulates_pure identity

/-- `handle_msg1`. -/
def handleMsg1 (acquired : Bool) (packet : ReceivedPacket) : Handler SecretKey PublicKey ν μ Unit :=
  body do
    if !(← startHandshake acquired) then stop ()
    else admitted env packet

/-- After the limiter was asked. -/
theorem handleMsg1_eq (acquired : Bool) (packet : ReceivedPacket)
    (n : AdmittingNode SecretKey PublicKey ν μ) :
    handleMsg1 env acquired packet n =
      body (if !(n.msg1RateLimiter.startHandshake acquired).2 then stop () else admitted env packet)
        { n with msg1RateLimiter := (n.msg1RateLimiter.startHandshake acquired).1 } :=
  body_congr rfl

/-- **The links see the handshake of the node.** With the limiter's answer for `msg1Allowed`, the
handler does to the links what `LinkNode.handleMsg1` does. -/
theorem handleMsg1_simulates (n : AdmittingNode SecretKey PublicKey ν μ) (acquired : Bool)
    (packet : ReceivedPacket)
    (hallowed : env.msg1Allowed = (n.msg1RateLimiter.startHandshake acquired).2) :
    ((handleMsg1 env acquired packet n).1.toLinkNode, (handleMsg1 env acquired packet n).2) =
      LinkNode.handleMsg1 env packet n.toLinkNode := by
  rw [handleMsg1_eq]
  cases hstarted : (n.msg1RateLimiter.startHandshake acquired).2 with
  | false =>
    unfold LinkNode.handleMsg1
    rw [hallowed, hstarted]
    rfl
  | true => exact simulates_admitted env (hallowed.trans hstarted) packet _

end AdmittingNode

end Fips
