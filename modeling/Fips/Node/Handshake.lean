import Fips.Node.Link

/-!
# Link handshake messages

Model of `node/handlers/handshake.rs`: `handle_msg1` answers an initiator, `handle_msg2` completes a
handshake of our own, `promote_connection` makes a completed connection an active peer.

Both handlers are cut where the source branches; each part says which lines it is. The rate limiter
is read where msg1 asks it; giving its slot back is left out.
-/

open Checked

namespace Fips

/-- `peer::PromotionResult`. -/
inductive PromotionResult
  | promoted (nodeAddr : NodeAddr)
  | crossConnectionLost (winnerLinkId : LinkId)
  | crossConnectionWon (loserLinkId : LinkId) (nodeAddr : NodeAddr)
  deriving DecidableEq, Repr

/-- The age in seconds from which a msg1 of an active peer is a rekey. -/
def REKEY_MIN_AGE_SECS : Nat := 30

namespace LinkNode

variable {SecretKey PublicKey ν μ : Type} {ε : Type}

/-- What a completed connection brings to the peer it becomes. -/
structure Promotion (PublicKey : Type) where
  noiseSession : NoiseSession PublicKey
  ourIndex : SessionIndex
  theirIndex : SessionIndex
  transportId : TransportId
  currentAddr : TransportAddr
  linkStats : LinkStats
  remoteEpoch : Option Epoch
  isOutbound : Bool

/-- `handshake.rs:870-907`: verify that the handshake is complete and extract the session. -/
def extractPromotion (linkId : LinkId) (connection : PeerConnection SecretKey PublicKey) :
    Result LinkError (Promotion PublicKey) :=
  if !connection.hasSession then .error (.error (.handshakeIncomplete linkId))
  else do
    let (connection, session) := connection.takeSession
    let noiseSession ← okOr (.noSession linkId) session
    let ourIndex ← okOr (.promotionFailed linkId "missing our_index") connection.ourIndex
    let theirIndex ← okOr (.promotionFailed linkId "missing their_index") connection.theirIndex
    let transportId ← okOr (.promotionFailed linkId "missing transport_id") connection.transportId
    let currentAddr ← okOr (.promotionFailed linkId "missing source_addr") connection.sourceAddr
    pure ⟨noiseSession, ourIndex, theirIndex, transportId, currentAddr, connection.linkStats,
      connection.remoteEpoch, connection.isOutbound⟩

variable [Sha256] [HkdfSha256] [ChaCha20Poly1305] [Secp256k1 SecretKey PublicKey] [Mmp ν]

/-! ## Promotion -/

/-- `peers.insert` of the peer a connection became, with its index and identity. -/
def insertPeer (linkId : LinkId) (verifiedIdentity : PeerIdentity PublicKey) (currentTimeMs : Nat)
    (now : Nat) (p : Promotion PublicKey) : M SecretKey PublicKey ν μ ε Unit := do
  let addr := verifiedIdentity.nodeAddr SecretKey
  let peer := ActivePeer.withSession addr linkId currentTimeMs p.noiseSession p.ourIndex
    p.theirIndex p.transportId p.currentAddr p.linkStats p.isOutbound p.remoteEpoch now
  write fun n => { n with
    peers := n.peers.insert addr peer
    peersByIndex := n.peersByIndex.insert (p.transportId, p.ourIndex) addr
    peerKeys := n.peerKeys.insert addr verifiedIdentity.pubkeyFull }
  emit (.registerIdentity addr verifiedIdentity.pubkeyFull)

/-- `handshake.rs:921-931`: the old peer of a connection that won is dropped with its index. -/
def replacePeer (addr : NodeAddr) (oldPeer : ActivePeer SecretKey PublicKey ν) :
    M SecretKey PublicKey ν μ ε Unit := do
  write fun n => { n with peers := n.peers.erase addr }
  match oldPeer.transportId, oldPeer.ourIndex with
  | some oldTid, some oldIdx =>
    write fun n => { n with
      peersByIndex := n.peersByIndex.erase (oldTid, oldIdx)
      allocatedIndices := n.allocatedIndices.erase oldIdx }
  | _, _ => pure ()

/-- `promote_connection`; `now` is the monotonic clock. -/
def promoteConnection (linkId : LinkId) (verifiedIdentity : PeerIdentity PublicKey)
    (currentTimeMs now : Nat) : M SecretKey PublicKey ν μ LinkError PromotionResult := do
  let connection ← orElse (.connectionNotFound linkId) (← read (·.connections.lookup linkId))
  dropConnection linkId
  let p ← pureCall (extractPromotion linkId connection)
  let addr := verifiedIdentity.nodeAddr SecretKey
  match ← read (·.peers.lookup addr) with
  | some existingPeer => do
    let ourAddr ← read (·.nodeAddr)
    if crossConnectionWinner ourAddr addr p.isOutbound then do
      replacePeer addr existingPeer
      insertPeer linkId verifiedIdentity currentTimeMs now p
      pure (.crossConnectionWon existingPeer.linkId addr)
    else do
      free p.ourIndex
      pure (.crossConnectionLost existingPeer.linkId)
  | none => do
    let maxPeers ← read (·.maxPeers)
    let count ← read (·.peers.entries.length)
    if decide (0 < maxPeers) && decide (maxPeers ≤ count) then do
      free p.ourIndex
      stop (.maxPeersExceeded maxPeers)
    else do
      insertPeer linkId verifiedIdentity currentTimeMs now p
      pure (.promoted addr)

/-! ## Message 1 -/

variable (env : LinkEnv SecretKey)

/-- `find_stored_msg2`. -/
def findStoredMsg2 (linkId : LinkId) (n : LinkNode SecretKey PublicKey ν μ) : Option Bytes :=
  match (n.connections.lookup linkId).bind (·.handshakeMsg2) with
  | some msg2 => some msg2
  | none => n.peers.entries.findSome? fun e =>
      if e.2.linkId == linkId then e.2.handshakeMsg2 else none

/-- Resend a stored msg2 to where the duplicate came from. -/
def resendMsg2 (packet : ReceivedPacket) : Option Bytes → M SecretKey PublicKey ν μ ε Unit
  | none => pure ()
  | some msg2 => do
    let _ ← transmit env packet.transportId packet.remoteAddr msg2

/-- `handshake.rs:63-131`: what is known of the address a msg1 comes from. A pending inbound
handshake is answered again and ends the handler; `true` is a possible restart. -/
def checkAddress (packet : ReceivedPacket) : Handler SecretKey PublicKey ν μ Bool := do
  match ← read (·.addrToLink.lookup (packet.transportId, packet.remoteAddr)) with
  | none => pure false
  | some existingLinkId => do
    match ← read (·.links.lookup existingLinkId) with
    | none => pure false
    | some link => do
      let isActivePeer ← read fun n => n.peers.entries.any fun e => e.2.linkId == existingLinkId
      if isActivePeer then pure true
      else if link.direction == .inbound then do
        resendMsg2 env packet (← read (findStoredMsg2 existingLinkId))
        stop ()
      else pure false

/-- The index an abandoned rekey held. Registered or not, its entry under the peer's transport is
removed. -/
def abandonRekey (addr : NodeAddr) : M SecretKey PublicKey ν μ ε Unit :=
  write fun n =>
    match n.peers.lookup addr with
    | none => n
    | some peer =>
      let abandoned := peer.abandonRekey
      let n := { n with peers := n.peers.insert addr abandoned.1 }
      match abandoned.2 with
      | none => n
      | some idx =>
        let n := { n with allocatedIndices := n.allocatedIndices.erase idx }
        match peer.transportId with
        | none => n
        | some tid => { n with peersByIndex := n.peersByIndex.erase (tid, idx) }

/-- `handshake.rs:233-247`: the loser of a double initiation abandons its own rekey, whose msg2 it
no longer expects. -/
def yieldRekey (addr : NodeAddr) (peer : ActivePeer SecretKey PublicKey ν) :
    M SecretKey PublicKey ν μ ε Unit := do
  abandonRekey addr
  match peer.abandonRekey.2, peer.transportId with
  | some idx, some tid => forgetOutbound (tid, idx)
  | _, _ => pure ()

/-- `connections.remove` and `links.remove` of the connection made for a msg1. -/
def discard (linkId : LinkId) : M SecretKey PublicKey ν μ ε Unit :=
  write fun n => { n with
    connections := n.connections.erase linkId
    links := n.links.erase linkId }

/-- `handshake.rs:192-336`: answer a rekey of an active peer; the new session waits for the K-bit. -/
def respondRekey (packet : ReceivedPacket) (senderIdx : SessionIndex)
    (conn : PeerConnection SecretKey PublicKey) (msg2Response : Bytes) (addr : NodeAddr)
    (existingPeer : ActivePeer SecretKey PublicKey ν) : Handler SecretKey PublicKey ν μ Unit := do
  let ourAddr ← read (·.nodeAddr)
  if existingPeer.pendingNewSession.isSome then discard conn.linkId
  else if existingPeer.rekeyInProgress && decide (ourAddr < addr) then discard conn.linkId
  else do
    if existingPeer.rekeyInProgress then yieldRekey addr existingPeer
    match ← attempt (allocate env) with
    | .error _ => pure ()
    | .ok ourNewIndex =>
      match conn.takeSession.2 with
      | none => free ourNewIndex
      | some noiseSession => do
        let wireMsg2 := buildMsg2 ourNewIndex senderIdx msg2Response
        if !(← transmit env packet.transportId packet.remoteAddr wireMsg2) then free ourNewIndex
        else do
          modifyPeer addr fun p =>
            (p.setPendingSession noiseSession ourNewIndex senderIdx).recordPeerRekey env.instant
          write fun n => { n with
            peersByIndex := n.peersByIndex.insert (packet.transportId, ourNewIndex) addr }
          discard conn.linkId

/-- `handshake.rs:177-182`. -/
def isRekey (config : NodeConfig) (now : Nat) (peer : ActivePeer SecretKey PublicKey ν) : Bool :=
  config.rekeyEnabled && peer.hasSession && peer.isHealthy &&
    decide (REKEY_MIN_AGE_SECS ≤ elapsedSecs peer.sessionEstablishedAt now)

/-- `handshake.rs:364-409`: a new inbound connection, its link and its msg2. -/
def openInbound (packet : ReceivedPacket) (senderIdx : SessionIndex)
    (conn : PeerConnection SecretKey PublicKey) (msg2Response : Bytes) :
    Handler SecretKey PublicKey ν μ (SessionIndex × Bytes) := do
  match ← attempt (allocate env) with
  | .error _ => stop ()
  | .ok ourIndex => do
    let wireMsg2 := buildMsg2 ourIndex senderIdx msg2Response
    let conn := { conn with ourIndex := some ourIndex, theirIndex := some senderIdx }
    addLink ⟨conn.linkId, packet.transportId, packet.remoteAddr, .inbound⟩
    write fun n => { n with
      connections := n.connections.insert conn.linkId (conn.setHandshakeMsg2 wireMsg2) }
    if !(← transmit env packet.transportId packet.remoteAddr wireMsg2) then do
      dropConnection conn.linkId
      forgetLink conn.linkId packet.transportId packet.remoteAddr
      free ourIndex
      stop ()
    else pure (ourIndex, wireMsg2)

/-- `handshake.rs:350-497`: accept a new inbound connection and promote it. -/
def acceptConnection (packet : ReceivedPacket) (senderIdx : SessionIndex)
    (conn : PeerConnection SecretKey PublicKey) (msg2Response : Bytes)
    (peerIdentity : PeerIdentity PublicKey) : Handler SecretKey PublicKey ν μ Unit := do
  let (ourIndex, wireMsg2) ← openInbound env packet senderIdx conn msg2Response
  let promotion ←
    attempt (promoteConnection conn.linkId peerIdentity packet.timestampMs env.instant)
  match promotion with
  | .ok (.promoted addr) => modifyPeer addr (·.setHandshakeMsg2 wireMsg2)
  | .ok (.crossConnectionWon loserLinkId addr) => do
    modifyPeer addr (·.setHandshakeMsg2 wireMsg2)
    write (removeLink loserLinkId)
  | .ok (.crossConnectionLost winnerLinkId) => do
    write (removeLink conn.linkId)
    write fun n => { n with
      addrToLink := n.addrToLink.insert (packet.transportId, packet.remoteAddr) winnerLinkId }
  | .error _ => do
    write (removeLink conn.linkId)
    free ourIndex

/-- `(Some(existing), Some(new)) if existing != new`. -/
def epochMismatch (existing new : Option Epoch) : Bool :=
  match existing, new with
  | some existing, some new => existing != new
  | _, _ => false

/-- `handshake.rs:141-350`: msg1 of an active peer is a restart, a rekey or a duplicate. -/
def receiveMsg1 (packet : ReceivedPacket) (senderIdx : SessionIndex)
    (conn : PeerConnection SecretKey PublicKey) (msg2Response : Bytes)
    (peerIdentity : PeerIdentity PublicKey) (possibleRestart : Bool) :
    Handler SecretKey PublicKey ν μ Unit := do
  let addr := peerIdentity.nodeAddr SecretKey
  let existing ← read (·.peers.lookup addr)
  let possibleRestart := possibleRestart || existing.isSome
  match if possibleRestart then existing else none with
  | none => acceptConnection env packet senderIdx conn msg2Response peerIdentity
  | some existingPeer => do
    let config ← read (·.config)
    if epochMismatch existingPeer.remoteEpoch conn.remoteEpoch then do
      removeActivePeer addr
      emit (.scheduleReconnect addr)
      acceptConnection env packet senderIdx conn msg2Response peerIdentity
    else if isRekey config env.instant existingPeer then
      respondRekey env packet senderIdx conn msg2Response addr existingPeer
    else resendMsg2 env packet existingPeer.handshakeMsg2

/-- `handle_msg1`. -/
def handleMsg1 (packet : ReceivedPacket) : Handler SecretKey PublicKey ν μ Unit := body do
  if !env.msg1Allowed then stop ()
  else if !env.acceptsConnections packet.transportId then stop ()
  else do
    let header ← orReturn (Msg1Header.parse packet.data)
    let possibleRestart ← checkAddress env packet
    let linkId ← allocateLinkId
    let n ← read id
    let noiseMsg1 ← orReturn (sliceFrom packet.data header.noiseMsg1Offset : Result Unit Bytes)
    let received := call
      (PeerConnection.receiveHandshakeInit n.identity.secretKey n.startupEpoch env.ephemeral
        noiseMsg1 packet.timestampMs)
      (PeerConnection.inboundWithTransport linkId packet.transportId packet.remoteAddr
        packet.timestampMs)
    let (msg2Response, conn) ← orReturn received
    let peerIdentity ← orElse () conn.expectedIdentity
    receiveMsg1 env packet header.senderIdx conn msg2Response peerIdentity possibleRestart

/-! ## Message 2 -/

/-- A method of a pending connection. -/
def onConnection {α : Type} (linkId : LinkId) (m : Method (PeerConnection SecretKey PublicKey) ε α) :
    M SecretKey PublicKey ν μ ε α := fun n =>
  match n.connections.lookup linkId with
  | none => (n, .error .panic)
  | some conn =>
    let r := m conn
    ({ n with connections := n.connections.insert linkId r.1 }, r.2)

/-- A method of an active peer. -/
def onPeer {α : Type} (addr : NodeAddr) (m : Method (ActivePeer SecretKey PublicKey ν) ε α) :
    M SecretKey PublicKey ν μ ε α := fun n =>
  match n.peers.lookup addr with
  | none => (n, .error .panic)
  | some peer =>
    let r := m peer
    ({ n with peers := n.peers.insert addr r.1 }, r.2)

/-- `handshake.rs:556-562`: the peer whose rekey waits for this index. -/
def findRekey (receiverIdx : SessionIndex) (n : LinkNode SecretKey PublicKey ν μ) :
    Option NodeAddr :=
  n.peers.entries.findSome? fun e =>
    if e.2.rekeyInProgress && e.2.rekeyOurIndex == some receiverIdx then some e.1 else none

/-- `handshake.rs:564-602`: complete a rekey of our own. -/
def completeRekey (header : Msg2Header) (noiseMsg2 : Bytes) (addr : NodeAddr) :
    Handler SecretKey PublicKey ν μ Unit := do
  match ← attempt (onPeer addr fun p => p.completeRekeyMsg2 noiseMsg2) with
  | .error _ => abandonRekey addr
  | .ok session =>
    write fun n =>
      match n.peers.lookup addr with
      | none => n
      | some peer =>
        let ourIndex := peer.rekeyOurIndex.getD header.receiverIdx
        let n := { n with
          peers := n.peers.insert addr (peer.setPendingSession session ourIndex header.senderIdx) }
        match peer.transportId with
        | none => n
        | some tid => { n with peersByIndex := n.peersByIndex.insert (tid, ourIndex) addr }

/-- `handshake.rs:678-719`: swap an active peer to the session of our own handshake. -/
def swapSession (addr : NodeAddr) (session : NoiseSession PublicKey)
    (ourIndex theirIndex : SessionIndex) : Handler SecretKey PublicKey ν μ Unit := do
  match ← read (·.peers.lookup addr) with
  | none => pure ()
  | some peer => do
    let replaced := peer.replaceSession session ourIndex theirIndex
    write fun n => { n with peers := n.peers.insert addr replaced.1 }
    let transportId ← expect fun _ => replaced.1.transportId
    match replaced.2 with
    | none => pure ()
    | some oldIdx =>
      write fun n => { n with
        peersByIndex := n.peersByIndex.erase (transportId, oldIdx)
        allocatedIndices := n.allocatedIndices.erase oldIdx }
    write fun n => { n with peersByIndex := n.peersByIndex.insert (transportId, ourIndex) addr }

/-- `handshake.rs:660-770`: the peer is active already, through its own handshake. The smaller
address's handshake counts. -/
def resolveCrossConnection (key : TransportId × SessionIndex) (senderIdx : SessionIndex)
    (linkId : LinkId) (addr : NodeAddr) : Handler SecretKey PublicKey ν μ Unit := do
  let ourAddr ← read (·.nodeAddr)
  match ← read (·.connections.lookup linkId) with
  | none => forgetOutbound key
  | some conn => do
    dropConnection linkId
    if crossConnectionWinner ourAddr addr true then
      match conn.takeSession.2, conn.ourIndex with
      | some session, some ourIndex => swapSession addr session ourIndex senderIdx
      | _, _ => do
        forgetOutbound key
        stop ()
    else
      match conn.ourIndex with
      | none => pure ()
      | some idx => free idx
    forgetOutbound key
    write (removeLink linkId)

/-- `handshake.rs:772-849`: make the peer of our own handshake active. -/
def promoteOutbound (packet : ReceivedPacket) (key : TransportId × SessionIndex) (linkId : LinkId)
    (peerIdentity : PeerIdentity PublicKey) : Handler SecretKey PublicKey ν μ Unit := do
  match ← attempt (promoteConnection linkId peerIdentity packet.timestampMs env.instant) with
  | .error _ => pure ()
  | .ok result => do
    forgetOutbound key
    match result with
    | .promoted _ => pure ()
    | .crossConnectionWon loserLinkId _ => do
      write (removeLink loserLinkId)
      write fun n => { n with
        addrToLink := n.addrToLink.insert (packet.transportId, packet.remoteAddr) linkId }
    | .crossConnectionLost winnerLinkId => do
      write (removeLink linkId)
      write fun n => { n with
        addrToLink := n.addrToLink.insert (packet.transportId, packet.remoteAddr) winnerLinkId }

/-- `handle_msg2`. -/
def handleMsg2 (packet : ReceivedPacket) : Handler SecretKey PublicKey ν μ Unit := body do
  let header ← orReturn (Msg2Header.parse packet.data)
  let key := (packet.transportId, header.receiverIdx)
  let linkId ← orElse () (← read (·.pendingOutbound.lookup key))
  let noiseMsg2 ← orReturn (sliceFrom packet.data header.noiseMsg2Offset : Result Unit Bytes)
  if (← read (·.connections.lookup linkId)).isNone then do
    match ← read (findRekey header.receiverIdx) with
    | none => pure ()
    | some addr => completeRekey header noiseMsg2 addr
    forgetOutbound key
  else do
    let completed ← attempt
      (onConnection linkId (PeerConnection.completeHandshake noiseMsg2 packet.timestampMs))
    match completed with
    | .error _ => modifyConnection linkId (·.markFailed)
    | .ok () => do
      modifyConnection linkId fun c => { c with
        theirIndex := some header.senderIdx
        sourceAddr := some packet.remoteAddr }
      let conn ← expect (·.connections.lookup linkId)
      let peerIdentity ← orElse () conn.expectedIdentity
      let addr := peerIdentity.nodeAddr SecretKey
      if (← read (·.peers.lookup addr)).isSome then
        resolveCrossConnection key header.senderIdx linkId addr
      else promoteOutbound env packet key linkId peerIdentity

end LinkNode

end Fips
