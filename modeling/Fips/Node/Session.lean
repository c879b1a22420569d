import Fips.Node.State

/-!
# Session message handlers

Model of `node/handlers/session.rs`: the handlers of SessionSetup, SessionAck, SessionMsg3, encrypted
messages and error signals, the send path, and `initiate_session`.

A handler that takes an entry out of the table and returns early without putting it back has dropped
it, as in the source. `finishAsInitiator` and the two lines around `read_xk_message_3` are written
once where the source repeats them for the first handshake and for a rekey.

Left out: statistics, log lines, and the queueing of outbound packets (`handle_tun_outbound`).
-/

open Checked

namespace Fips

namespace Node

variable {SecretKey PublicKey ν μ : Type}
variable [Sha256] [HkdfSha256] [ChaCha20Poly1305] [Secp256k1 SecretKey PublicKey] [SessionMmp μ]
variable (env : Env SecretKey)

/-! ## Sending on an established session -/

/-- `Display` of `NoiseError`. -/
def noiseErrorText : NoiseError → String
  | .handshakeNotComplete => "handshake not complete"
  | .handshakeAlreadyComplete => "handshake already complete"
  | .wrongState expected got => s!"wrong handshake state: expected {expected}, got {got}"
  | .invalidPublicKey => "invalid public key"
  | .decryptionFailed => "decryption failed"
  | .encryptionFailed => "encryption failed"
  | .messageTooLarge size max => s!"message too large: {size} > {max}"
  | .messageTooShort expected got => s!"message too short: expected at least {expected}, got {got}"
  | .nonceOverflow => "nonce overflow"
  | .replayDetected counter => s!"replay detected: counter {counter} already seen or too old"

/-- The common part of the three senders: seal `inner` under the current session, put `coords`
between header and ciphertext, send, and record the send for the measurements. -/
def sendSealed (dest : NodeAddr) (flags : UInt8) (timestamp : Nat) (coords inner : Bytes) :
    M SecretKey PublicKey ν μ SendError Unit := do
  let entry ← orElse (.sendFailed dest "no session") (← read (·.sessions.lookup dest))
  match entry.state with
  | none => crash
  | some (.established session) =>
    let counter := session.currentSendCounter
    let header := buildFspHeader counter flags inner.length
    let (session, sealed) := session.encryptWithAad inner header
    putSession dest (entry.setState (.established session))
    match sealed with
    | .error e => stop (.sendFailed dest ("session encrypt failed: " ++ noiseErrorText e))
    | .ok ciphertext =>
      sendSessionPayload env dest (header ++ coords ++ ciphertext)
      modifySession dest (·.mapMmp (Mmp.recordSent counter timestamp ciphertext.length))
  | some _ => stop (.sendFailed dest "session not established")

/-- The spin bit as a flag byte. -/
def spinFlags (entry : SessionEntry SecretKey PublicKey μ) : UInt8 :=
  if entry.mmp.any Mmp.txBit then 0x01 else 0x00

/-- `send_coords_warmup`. -/
def sendCoordsWarmup (dest : NodeAddr) : M SecretKey PublicKey ν μ SendError Unit := do
  let entry ← orElse (.sendFailed dest "no session") (← read (·.sessions.lookup dest))
  let timestamp := entry.sessionTimestamp env.nowMs
  let inner := fspPrependInnerHeader timestamp SessionMessageType.coordsWarmup.toByte
    (spinFlags entry) []
  let coords := encodeCoords env.myCoords ++ encodeCoords (env.destCoords dest)
  sendSealed env dest FSP_FLAG_CP timestamp coords inner

/-- `send_session_msg`. -/
def sendSessionMsg (dest : NodeAddr) (msgType : UInt8) (payload : Bytes) :
    M SecretKey PublicKey ν μ SendError Unit := do
  let entry ← orElse (.sendFailed dest "no session") (← read (·.sessions.lookup dest))
  let timestamp := entry.sessionTimestamp env.nowMs
  let inner := fspPrependInnerHeader timestamp msgType (spinFlags entry) payload
  sendSealed env dest (if entry.currentKBit then FSP_FLAG_K else 0) timestamp [] inner

/-- `FIPS_OVERHEAD` of `upper/icmp.rs`. -/
def FIPS_OVERHEAD : Nat := 106

/-- `send_session_data`. -/
def sendSessionData (dest : NodeAddr) (srcPort dstPort : Nat) (payload : Bytes) :
    M SecretKey PublicKey ν μ SendError Unit := do
  let entry ← orElse (.sendFailed dest "no session") (← read (·.sessions.lookup dest))
  let wantsCoords := decide (0 < entry.coordsWarmupRemaining)
  let timestamp := entry.sessionTimestamp env.nowMs
  let spin := spinFlags entry
  if !entry.isEstablished then stop (.sendFailed dest "session not established")
  else do
    let portPayload := leBytes 2 srcPort ++ leBytes 2 dstPort ++ payload
    let inner := fspPrependInnerHeader timestamp SessionMessageType.dataPacket.toByte spin
      portPayload
    let coordsSize := coordsWireSize env.myCoords + coordsWireSize (env.destCoords dest)
    let fits := decide (FIPS_OVERHEAD + FSP_PORT_HEADER_SIZE + coordsSize + payload.length ≤
      env.transportMtu)
    let includeCoords := wantsCoords && fits
    if wantsCoords && !fits then do
      let _ ← attempt (sendCoordsWarmup env dest)
    if wantsCoords then
      modifySession dest fun e => e.setCoordsWarmupRemaining (e.coordsWarmupRemaining - 1)
    let kBit ← read fun n => (n.sessions.lookup dest).any (·.currentKBit)
    let flags := (if includeCoords then FSP_FLAG_CP else 0) ||| (if kBit then FSP_FLAG_K else 0)
    let coords :=
      if includeCoords then encodeCoords env.myCoords ++ encodeCoords (env.destCoords dest) else []
    sendSealed env dest flags timestamp coords inner
    modifySession dest fun e => (e.recordSent payload.length).touch env.nowMs

/-- `send_ipv6_packet`. -/
def sendIpv6Packet (dest : NodeAddr) (packet : Bytes) :
    M SecretKey PublicKey ν μ SendError Unit := do
  match ← attempt (pureCall (compressIpv6 packet)) with
  | .error () => stop (.sendFailed dest "IPv6 header compression failed")
  | .ok compressed =>
    sendSessionData env dest FSP_PORT_IPV6_SHIM FSP_PORT_IPV6_SHIM compressed

/-- The loop of `flush_pending_packets`. -/
def flushPackets (dest : NodeAddr) : List Bytes → Handler SecretKey PublicKey ν μ Unit
  | [] => pure ()
  | packet :: packets => do
    match ← attempt (sendIpv6Packet env dest packet) with
    | .error _ => pure ()
    | .ok () => flushPackets dest packets

/-- `flush_pending_packets`. -/
def flushPendingPackets (dest : NodeAddr) : Handler SecretKey PublicKey ν μ Unit := body do
  let packets ← orElse () (← read (·.pendingTunPackets.lookup dest))
  write fun n => { n with pendingTunPackets := n.pendingTunPackets.erase dest }
  flushPackets env dest packets

/-! ## SessionSetup -/

/-- Answer a first handshake message of `src` as responder: the handshake after msg2, and msg2. -/
def xkRespond (src : NodeAddr) (n : Node SecretKey PublicKey ν μ) (msg1 : Bytes) :
    Result NoiseError (HandshakeState SecretKey PublicKey × Bytes) := do
  let handshake :=
    (HandshakeState.newXkResponder n.identity.secretKey).setLocalEpoch n.startupEpoch
  let ((), handshake) ← call (HandshakeState.readXkMessage1 msg1) handshake
  let (msg2, handshake) ← call (HandshakeState.writeXkMessage2 (env.ephemeral src)) handshake
  pure (handshake, msg2)

/-- `handlers/session.rs:546-593`: become responder of a new session. -/
def acceptSetup (src : NodeAddr) (setup : SessionSetup) : Handler SecretKey PublicKey ν μ Unit := do
  let (handshake, msg2) ← orReturn (xkRespond env src (← read id) setup.handshakePayload)
  let ackPayload := ((SessionAck.new env.myCoords setup.srcCoords).withHandshake msg2).encode
  match ← attempt (sendSessionPayload env src ackPayload) with
  | .error _ => stop ()
  | .ok () =>
    let n ← read id
    let entry := SessionEntry.new src (Secp256k1.publicKey n.identity.secretKey)
      (.awaitingMsg3 handshake) env.nowMs false
    putSession src
      (entry.setHandshakePayload ackPayload (env.nowMs + n.config.handshakeResendIntervalMs))

/-- `handlers/session.rs:455-538`: answer a rekey on an established session. -/
def acceptRekey (src : NodeAddr) (setup : SessionSetup)
    (existing : SessionEntry SecretKey PublicKey μ) : Handler SecretKey PublicKey ν μ Unit := do
  let my ← read Node.nodeAddr
  if existing.hasRekeyInProgress then
    if my < src then stop ()
    else do
      let _ ← expect (·.sessions.lookup src)
      modifySession src (·.abandonRekey)
  else if existing.pendingNewSession.isSome then stop ()
  let (handshake, msg2) ← orReturn (xkRespond env src (← read id) setup.handshakePayload)
  let ackPayload := ((SessionAck.new env.myCoords setup.srcCoords).withHandshake msg2).encode
  match ← attempt (sendSessionPayload env src ackPayload) with
  | .error _ => stop ()
  | .ok () => do
    let _ ← expect (·.sessions.lookup src)
    modifySession src fun e => (e.setRekeyState handshake false).recordPeerRekey env.nowMs

/-- `handle_session_setup` after decoding. -/
def onSessionSetup (src : NodeAddr) (setup : SessionSetup) : Handler SecretKey PublicKey ν μ Unit := do
  if setup.handshakePayload.length != XK_HANDSHAKE_MSG1_SIZE then stop ()
  else
    match ← read (·.sessions.lookup src) with
    | none => acceptSetup env src setup
    | some existing => do
      let my ← read Node.nodeAddr
      let config ← read (·.config)
      if existing.isInitiating then
        -- simultaneous initiation: the smaller address stays initiator
        if my < src then stop () else acceptSetup env src setup
      else if existing.isAwaitingMsg3 then
        match existing.handshakePayload with
        | none => pure ()
        | some payload => do
          let _ ← attempt (sendSessionPayload env src payload)
      else if existing.isEstablished && config.rekeyEnabled then
        acceptRekey env src setup existing
      else acceptSetup env src setup

/-- `handle_session_setup`. -/
def handleSessionSetup (src : NodeAddr) (inner : Bytes) : Handler SecretKey PublicKey ν μ Unit := body do
  let setup ← orReturn (SessionSetup.decode inner)
  onSessionSetup env src setup

/-! ## SessionAck -/

/-- Read msg2, send msg3 and split into a session. -/
def finishAsInitiator (src : NodeAddr) (msg2 : Bytes)
    (handshake : HandshakeState SecretKey PublicKey) :
    Handler SecretKey PublicKey ν μ (NoiseSession PublicKey) := do
  let ((), handshake) ← orReturn (call (HandshakeState.readXkMessage2 msg2) handshake)
  let (msg3, handshake) ← orReturn (call HandshakeState.writeXkMessage3 handshake)
  match ← attempt (sendSessionPayload env src (SessionMsg3.new msg3).encode) with
  | .error _ => stop ()
  | .ok () => orReturn handshake.intoSession

/-- `handle_session_ack` after decoding. -/
def onSessionAck (src : NodeAddr) (ack : SessionAck) : Handler SecretKey PublicKey ν μ Unit := do
  if ack.handshakePayload.length != XK_HANDSHAKE_MSG2_SIZE then stop ()
  else do
    let entry ← takeSession src
    if entry.isEstablished && entry.hasRekeyInProgress && entry.rekeyInitiator then
      match entry.rekeyState with
      | none => putSession src entry
      | some handshake => do
        let entry := { entry with rekeyState := none }
        match ← attempt (finishAsInitiator env src ack.handshakePayload handshake) with
        | .error () => putSession src entry.abandonRekey
        | .ok session =>
          putSession src ((entry.setPendingSession session).setRekeyCompletedMs env.nowMs)
    else if !entry.isInitiating then putSession src entry
    else
      match entry.state with
      | some (.initiating handshake) => do
        let session ← finishAsInitiator env src ack.handshakePayload handshake
        let config ← read (·.config)
        let entry := entry.setState (.established session)
        let entry := entry.setCoordsWarmupRemaining config.coordsWarmupPackets
        let entry := (entry.markEstablished env.nowMs).initMmp
        putSession src (entry.clearHandshakePayload.touch env.nowMs)
        cacheCoords src (some ack.srcCoords)
        flushPendingPackets env src
      | _ => crash

/-- `handle_session_ack`. -/
def handleSessionAck (src : NodeAddr) (inner : Bytes) : Handler SecretKey PublicKey ν μ Unit := body do
  let ack ← orReturn (SessionAck.decode inner)
  onSessionAck env src ack

/-! ## SessionMsg3 -/

/-- `handle_session_msg3` after decoding. -/
def onSessionMsg3 (src : NodeAddr) (msg3 : SessionMsg3) : Handler SecretKey PublicKey ν μ Unit := do
  if msg3.handshakePayload.length != XK_HANDSHAKE_MSG3_SIZE then stop ()
  else do
    let entry ← takeSession src
    if entry.isEstablished && entry.hasRekeyInProgress && !entry.rekeyInitiator then
      match entry.rekeyState with
      | none => putSession src entry
      | some handshake => do
        let entry := { entry with rekeyState := none }
        match ← attempt (pureCall do
            let ((), handshake) ←
              call (HandshakeState.readXkMessage3 msg3.handshakePayload) handshake
            handshake.intoSession) with
        | .error _ => putSession src entry.abandonRekey
        | .ok session => putSession src (entry.setPendingSession session)
    else if !entry.isAwaitingMsg3 then putSession src entry
    else
      match entry.state with
      | some (.awaitingMsg3 handshake) => do
        let ((), handshake) ←
          orReturn (call (HandshakeState.readXkMessage3 msg3.handshakePayload) handshake)
        let remotePubkey ← orElse () handshake.remoteStatic
        registerIdentity src remotePubkey
        let session ← orReturn handshake.intoSession
        let config ← read (·.config)
        let entry := SessionEntry.new src remotePubkey (.established session) env.nowMs false
        let entry := entry.setCoordsWarmupRemaining config.coordsWarmupPackets
        putSession src ((entry.markEstablished env.nowMs).initMmp.touch env.nowMs)
        flushPendingPackets env src
      | _ => crash

/-- `handle_session_msg3`. -/
def handleSessionMsg3 (src : NodeAddr) (inner : Bytes) : Handler SecretKey PublicKey ν μ Unit := body do
  let msg3 ← orReturn (SessionMsg3.decode inner)
  onSessionMsg3 env src msg3

/-! ## Encrypted messages -/

/-- The K-bit check of both layers: a flipped bit and a session to flip to. -/
def flips (kBit currentKBit : Bool) (pending : Option (NoiseSession PublicKey)) : Bool :=
  kBit != currentKBit && pending.isSome

/-- `handlers/session.rs:158-247`: find the session, follow the K-bit, decrypt. -/
def openSessionFrame (src : NodeAddr) (kBit : Bool) (frame : NoiseSession.Frame) :
    Handler SecretKey PublicKey ν μ Bytes := do
  let entry ← orElse () (← read (·.sessions.lookup src))
  if !entry.isEstablished then stop ()
  else do
    let entry ← expect (·.sessions.lookup src)
    if flips kBit entry.currentKBit entry.pendingNewSession then do
      let _ ← expect (·.sessions.lookup src)
      modifySession src fun e => (e.handlePeerKbitFlip env.nowMs env.instant).1
    let entry ← takeSession src
    match entry.state with
    | none => crash
    | some (.established session) => do
      let (session, previous, plaintext) :=
        session.decryptWithFallback entry.previousNoiseSession frame
      putSession src
        { entry with state := some (.established session), previousNoiseSession := previous }
      orReturn (ofExcept plaintext)
    | some _ => do
      putSession src entry
      stop ()

/-- `is_empty`, `len() >= 48 && packet[6] == 58 && packet[40] == 129`: the sequence number of an echo
reply. -/
def echoReplySequence (packet : Bytes) : Result Unit (Option Nat) :=
  if 48 ≤ packet.length then do
    let nextHeader ← index packet 6
    let icmpType ← index packet 40
    if nextHeader == 58 && icmpType == 129 then do
      let hi ← index packet 46
      let lo ← index packet 47
      pure (some (256 * hi.toNat + lo.toNat))
    else pure none
  else pure none

/-- `FipsAddress::from_node_addr(..).to_ipv6().octets()`. -/
def fipsAddress (addr : NodeAddr) : Bytes := 0xfd :: addr.bytes.take 15

/-- `mark_ipv6_ecn_ce`: a packet that is capable of ECN says that it met congestion. -/
def markIpv6EcnCe : Bytes → Bytes
  | first :: second :: rest =>
    let tc : UInt8 := (first &&& 0x0F) <<< 4 ||| second >>> 4
    if tc &&& 0x03 == 0 then first :: second :: rest
    else
      let newTc : UInt8 := tc ||| 0x03
      (first &&& (0xF0 : UInt8) ||| newTc >>> 4) ::
        (newTc <<< 4 ||| second &&& (0x0F : UInt8)) :: rest
  | packet => packet

/-- A data packet: port dispatch and delivery. -/
def handleDataPacket (src : NodeAddr) (ceFlag : Bool) (rest : Bytes) :
    Handler SecretKey PublicKey ν μ Unit := do
  let dstPort ← orReturn (leAt rest 2 2 : Result Unit Nat)
  let servicePayload ← orReturn (sliceFrom rest FSP_PORT_HEADER_SIZE : Result Unit Bytes)
  if dstPort == FSP_PORT_IPV6_SHIM then do
    let my ← read Node.nodeAddr
    match ← attempt (pureCall (decompressIpv6 servicePayload (fipsAddress src) (fipsAddress my))) with
    | .error () => pure ()
    | .ok packet => do
      match ← orReturn (echoReplySequence packet) with
      | none => pure ()
      | some sequence => do
        let ping ← read (·.pendingPings.lookup (src, sequence))
        if ping.isSome then do
          write fun n => { n with pendingPings := n.pendingPings.erase (src, sequence) }
          emit (.finishPing src sequence)
      emit (.deliverPacket (if ceFlag then markIpv6EcnCe packet else packet))

/-- `handle_session_receiver_report`. -/
def handleSessionReceiverReport (src : NodeAddr) (payload : Bytes) :
    Handler SecretKey PublicKey ν μ Unit := body do
  let report ← orReturn (SessionReceiverReport.decode payload)
  modifySession src fun e => e.mapMmp
    (Mmp.processReceiverReport report (e.sessionTimestamp env.nowMs) env.instant)

/-- `handle_session_sender_report`: logged only. -/
def handleSessionSenderReport (payload : Bytes) : Handler SecretKey PublicKey ν μ Unit := body do
  let _ ← orReturn (SessionSenderReport.decode payload)

/-- `handle_session_path_mtu_notification`. -/
def handleSessionPathMtuNotification (src : NodeAddr) (payload : Bytes) :
    Handler SecretKey PublicKey ν μ Unit := body do
  let mtu ← orReturn (PathMtuNotification.decode payload)
  modifySession src (·.mapMmp (SessionMmp.applyNotification mtu env.instant))

/-- What follows the decryption of a session message. -/
def processSessionMessage (src : NodeAddr) (counter plaintextLen pathMtu : Nat) (ceFlag : Bool)
    (message : FspInner) : Handler SecretKey PublicKey ν μ Unit := do
  modifySession src (·.mapMmp fun m =>
    Mmp.rxObserve (hasFlag message.innerFlags 0x01) counter env.instant
      (Mmp.recordRecv counter message.timestamp plaintextLen ceFlag env.instant m))
  modifySession src (·.mapMmp (SessionMmp.observeIncomingMtu pathMtu))
  match SessionMessageType.fromByte message.msgType with
  | some .dataPacket =>
    if message.rest.length < FSP_PORT_HEADER_SIZE then stop ()
    else handleDataPacket src ceFlag message.rest
  | some .senderReport => handleSessionSenderReport message.rest
  | some .receiverReport => handleSessionReceiverReport env src message.rest
  | some .pathMtuNotification => handleSessionPathMtuNotification env src message.rest
  | _ => pure ()
  if message.msgType == SessionMessageType.dataPacket.toByte then
    modifySession src fun e => (e.recordRecv message.rest.length).touch env.nowMs
  flushPendingPackets env src

/-- The ciphertext of an encrypted message, with the coordinates in front of it. -/
def sessionCiphertext (header : FspEncryptedHeader) (payload : Bytes) :
    Result ProtocolError (Option TreeCoordinate × Option TreeCoordinate × Bytes) := do
  if header.hasCoords then do
    let coordData ← sliceFrom payload FSP_HEADER_SIZE
    let (srcCoords, destCoords, consumed) ← parseEncryptedCoords coordData
    let ciphertext ← sliceFrom payload (FSP_HEADER_SIZE + consumed)
    pure (srcCoords, destCoords, ciphertext)
  else do
    let ciphertext ← sliceFrom payload FSP_HEADER_SIZE
    pure (none, none, ciphertext)

omit [Sha256] [HkdfSha256] [ChaCha20Poly1305] [Secp256k1 SecretKey PublicKey] [SessionMmp μ] in
theorem noPanic_sessionCiphertext {header : FspEncryptedHeader} {payload : Bytes}
    (hparse : FspEncryptedHeader.parse payload = .ok header) :
    NoPanic (sessionCiphertext header payload) := by
  have hlen : FSP_HEADER_SIZE ≤ payload.length :=
    le_trans (by decide) (FspEncryptedHeader.length_of_parse hparse)
  unfold sessionCiphertext
  split_ifs
  · refine noPanic_bind (noPanic_sliceFrom hlen) fun coordData hcoord => ?_
    rw [sliceFrom_of_le hlen] at hcoord
    refine noPanic_bind (noPanic_parseEncryptedCoords coordData) fun r hr => ?_
    obtain ⟨srcCoords, destCoords, consumed⟩ := r
    have hconsumed := le_length_of_parseEncryptedCoords hr
    rw [← Except.ok.inj hcoord, List.length_drop] at hconsumed
    exact noPanic_bind (noPanic_sliceFrom (by omega)) fun _ _ => noPanic_pure _
  · exact noPanic_bind (noPanic_sliceFrom hlen) fun _ _ => noPanic_pure _

/-- `handle_encrypted_session_msg`. -/
def handleEncryptedSessionMsg (src : NodeAddr) (payload : Bytes) (pathMtu : Nat) (ceFlag : Bool) :
    Handler SecretKey PublicKey ν μ Unit := body do
  let header ← orReturn (FspEncryptedHeader.parse payload)
  let (srcCoords, destCoords, ciphertext) ← orReturn (sessionCiphertext header payload)
  let my ← read Node.nodeAddr
  cacheCoords src srcCoords
  cacheCoords my destCoords
  let plaintext ← openSessionFrame env src (hasFlag header.flags FSP_FLAG_K)
    ⟨ciphertext, header.counter, header.headerBytes⟩
  let message ← orReturn (fspStripInnerHeader plaintext)
  processSessionMessage env src header.counter plaintext.length pathMtu ceFlag message

/-! ## Error signals -/

/-- Reset the warmup counter of a session. -/
def resetWarmup (dest : NodeAddr) : Handler SecretKey PublicKey ν μ Unit := do
  let config ← read (·.config)
  modifySession dest (·.setCoordsWarmupRemaining config.coordsWarmupPackets)

/-- A standalone warmup if the session is established and the limiter allows it. -/
def warmUp (dest : NodeAddr) : Handler SecretKey PublicKey ν μ Unit := do
  if env.coordsResponseAllowed dest then do
    let established ← read fun n => (n.sessions.lookup dest).any (·.isEstablished)
    if established then do
      let _ ← attempt (sendCoordsWarmup env dest)

/-- A lookup of `dest`, for which its identity must be known. -/
def lookUp (dest : NodeAddr) : Handler SecretKey PublicKey ν μ Unit := do
  if env.hasCachedIdentity dest then emit (.initiateLookup dest)

/-- `handle_coords_required`. -/
def handleCoordsRequired (inner : Bytes) : Handler SecretKey PublicKey ν μ Unit := body do
  let msg ← orReturn (CoordsRequired.decode inner)
  warmUp env msg.destAddr
  lookUp env msg.destAddr
  resetWarmup msg.destAddr

/-- `handle_path_broken`. -/
def handlePathBroken (inner : Bytes) : Handler SecretKey PublicKey ν μ Unit := body do
  let msg ← orReturn (PathBroken.decode inner)
  warmUp env msg.destAddr
  emit (.uncacheCoords msg.destAddr)
  lookUp env msg.destAddr
  resetWarmup msg.destAddr

/-- `handle_mtu_exceeded`. -/
def handleMtuExceeded (inner : Bytes) : Handler SecretKey PublicKey ν μ Unit := body do
  let msg ← orReturn (MtuExceeded.decode inner)
  modifySession msg.destAddr (·.mapMmp (SessionMmp.applyNotification msg.mtu env.instant))

/-- `handle_session_payload`. -/
def handleSessionPayload (src : NodeAddr) (payload : Bytes) (pathMtu : Nat) (ceFlag : Bool) :
    Handler SecretKey PublicKey ν μ Unit := body do
  let pre ← orReturn (FspCommonPrefix.parse payload)
  let inner ← orReturn (sliceFrom payload FSP_COMMON_PREFIX_SIZE : Result Unit Bytes)
  if pre.phase == FSP_PHASE_MSG1 then handleSessionSetup env src inner
  else if pre.phase == FSP_PHASE_MSG2 then handleSessionAck env src inner
  else if pre.phase == FSP_PHASE_MSG3 then handleSessionMsg3 env src inner
  else if pre.phase == FSP_PHASE_ESTABLISHED then
    if pre.isUnencrypted then
      if inner.isEmpty then stop ()
      else do
        let errorType ← orReturn (index inner 0 : Result Unit UInt8)
        let errorBody ← orReturn (sliceFrom inner 1 : Result Unit Bytes)
        match SessionMessageType.fromByte errorType with
        | some .coordsRequired => handleCoordsRequired env errorBody
        | some .pathBroken => handlePathBroken env errorBody
        | some .mtuExceeded => handleMtuExceeded env errorBody
        | _ => pure ()
    else handleEncryptedSessionMsg env src payload pathMtu ceFlag

/-! ## Initiation -/

/-- `initiate_session`. -/
def initiateSession (dest : NodeAddr) (destPubkey : PublicKey) :
    M SecretKey PublicKey ν μ SendError Unit := do
  let existing ← read (·.sessions.lookup dest)
  if existing.any fun e => e.isEstablished || e.isInitiating then pure ()
  else do
    let n ← read id
    let handshake := (HandshakeState.newXkInitiator n.identity.secretKey destPubkey).setLocalEpoch
      n.startupEpoch
    match ← attempt (pureCall (call (HandshakeState.writeXkMessage1 (env.ephemeral dest)) handshake)) with
    | .error e => stop (.sendFailed dest ("Noise XK msg1 generation failed: " ++ noiseErrorText e))
    | .ok (msg1, handshake) => do
      let setupPayload :=
        ((SessionSetup.new env.myCoords (env.destCoords dest)).withHandshake msg1).encode
      sendSessionPayload env dest setupPayload
      registerIdentity dest destPubkey
      let entry := SessionEntry.new dest destPubkey (.initiating handshake) env.nowMs true
      putSession dest
        (entry.setHandshakePayload setupPayload (env.nowMs + n.config.handshakeResendIntervalMs))

end Node

end Fips
