import Fips.Node.Dispatch

/-!
# Encrypted link frames

Model of `node/handlers/encrypted.rs`: find the peer by the receiver index, follow its K-bit,
decrypt under the current and then the draining session, and dispatch what is authentic. A frame
that does not decrypt is counted against the peer, which is removed at the twentieth in a row.
-/

open Checked

namespace Fips

/-- `transport::ReceivedPacket`. -/
structure ReceivedPacket where
  transportId : TransportId
  remoteAddr : TransportAddr
  data : Bytes
  timestampMs : Nat

namespace Node

variable {SecretKey PublicKey ν μ : Type} (env : Env SecretKey)

/-- `DECRYPT_FAILURE_THRESHOLD`: after so many failures in a row the peer is removed. -/
def DECRYPT_FAILURE_THRESHOLD : Nat := 20

/-- `log_decrypt_failure`: replays are counted. -/
def logDecryptFailure (addr : NodeAddr) : NoiseError → Handler SecretKey PublicKey ν μ Unit
  | .replayDetected _ => modifyPeer addr (·.incrementReplaySuppressed)
  | _ => pure ()

/-- `handle_decrypt_failure`. -/
def handleDecryptFailure (addr : NodeAddr) : Handler SecretKey PublicKey ν μ Unit := do
  modifyPeer addr (·.incrementDecryptFailures)
  match ← read (·.peers.lookup addr) with
  | none => pure ()
  | some peer => do
    if DECRYPT_FAILURE_THRESHOLD ≤ peer.consecutiveDecryptFailures then do
      write (removeActivePeer addr)
      emit (.scheduleReconnect addr)

variable [Sha256] [HkdfSha256] [ChaCha20Poly1305] [Secp256k1 SecretKey PublicKey] [Mmp ν]
  [SessionMmp μ]

/-- `encrypted.rs:49-77`: promote the pending session of a peer whose K-bit flipped. -/
def followKBit (addr : NodeAddr) (kBit : Bool) : Handler SecretKey PublicKey ν μ Unit := do
  let peer ← expect (·.peers.lookup addr)
  if flips kBit peer.currentKBit peer.pendingNewSession then do
    let _ ← expect (·.peers.lookup addr)
    modifyPeer addr fun p => (p.handlePeerKbitFlip env.instant).1

/-- `encrypted.rs:79-132`: decrypt under the current session, else under the draining one. -/
def openLinkFrame (addr : NodeAddr) (frame : NoiseSession.Frame) :
    Handler SecretKey PublicKey ν μ Bytes := do
  let peer ← expect (·.peers.lookup addr)
  let session ← orElse () peer.noiseSession
  let (session, previous, plaintext) := session.decryptWithFallback peer.previousSession frame
  modifyPeer addr fun p => { p with noiseSession := some session, previousSession := previous }
  match plaintext with
  | .ok plaintext => do
    modifyPeer addr (·.resetDecryptFailures)
    pure plaintext
  | .error e => do
    logDecryptFailure addr e
    handleDecryptFailure addr
    stop ()

/-- What an authentic frame changes on its peer. -/
def recordFrame (packet : ReceivedPacket) (header : EncryptedHeader) (timestamp now : Nat)
    (p : ActivePeer SecretKey PublicKey ν) : ActivePeer SecretKey PublicKey ν :=
  let p := p.mapMmp fun m =>
    Mmp.rxObserve (hasFlag header.flags FLAG_SP) header.counter now
      (Mmp.recordRecv header.counter timestamp packet.data.length (hasFlag header.flags FLAG_CE)
        now m)
  let p := p.setCurrentAddr packet.transportId packet.remoteAddr
  let p := { p with
    linkStats := p.linkStats.recordRecv packet.data.length packet.timestampMs }
  p.touch packet.timestampMs

/-- `handle_encrypted_frame`. -/
def handleEncryptedFrame (Signature : Type) [SchnorrSignature Signature] (packet : ReceivedPacket) :
    Handler SecretKey PublicKey ν μ Unit := body do
  let header ← orReturn (EncryptedHeader.parse packet.data)
  let key := (packet.transportId, header.receiverIdx)
  let addr ← orElse () (← read (·.peersByIndex.lookup key))
  if (← read (·.peers.lookup addr)).isNone then do
    write fun n => { n with peersByIndex := n.peersByIndex.erase key }
    stop ()
  else do
    followKBit env addr (hasFlag header.flags FLAG_KEY_EPOCH)
    let ciphertext ← orReturn (sliceFrom packet.data header.ciphertextOffset : Result Unit Bytes)
    let plaintext ← openLinkFrame addr ⟨ciphertext, header.counter, header.headerBytes⟩
    let (timestamp, message) ← orReturn (stripInnerHeader plaintext)
    modifyPeer addr (recordFrame packet header timestamp env.instant)
    dispatchLinkMessage env Signature addr message (hasFlag header.flags FLAG_CE)

end Node

end Fips
