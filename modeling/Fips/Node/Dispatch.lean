import Fips.Node.Forwarding

/-!
# Link messages

Model of `node/handlers/dispatch.rs` and of the handlers it calls: `dispatch_link_message` sends the
decrypted message of a peer to its handler, `remove_active_peer` forgets a peer with its end-to-end
session and its indices.

The handlers of announces and lookups change the tree, the filters and the discovery tables, which
are not part of this state (`TreeNode` is the tree's). Here they decode, and what decodes is recorded
as `receivedAnnounce`; of the answer to a lookup of our own the warmup counter is kept too. The
session such an answer may initiate is an event of its own.
-/

open Checked

namespace Fips

namespace Node

variable {SecretKey PublicKey ν μ : Type} (env : Env SecretKey)

/-! ## Removal -/

/-- Forget an index of a removed peer. -/
def releaseIndex (n : Node SecretKey PublicKey ν μ) (tid : TransportId) :
    Option SessionIndex → Node SecretKey PublicKey ν μ
  | none => n
  | some index =>
    { n with
      peersByIndex := n.peersByIndex.erase (tid, index)
      allocatedIndices := n.allocatedIndices.erase index }

/-- The indices of a removed peer: current, rekey, pending, previous. -/
def releaseIndices (n : Node SecretKey PublicKey ν μ) (peer : ActivePeer SecretKey PublicKey ν) :
    Node SecretKey PublicKey ν μ :=
  match peer.transportId with
  | none => n
  | some tid =>
    let n := n.releaseIndex tid peer.ourIndex
    let n := match peer.rekeyOurIndex with
      | none => n
      | some index => { n with pendingOutbound := n.pendingOutbound.erase (tid, index) }
    let n := n.releaseIndex tid peer.rekeyOurIndex
    let n := n.releaseIndex tid peer.pendingOurIndex
    n.releaseIndex tid peer.previousOurIndex

/-- `remove_active_peer`. -/
def removeActivePeer (addr : NodeAddr) (n : Node SecretKey PublicKey ν μ) :
    Node SecretKey PublicKey ν μ :=
  match n.peers.lookup addr with
  | none => n
  | some peer =>
    let n := { n with
      peers := n.peers.erase addr
      sessions := n.sessions.erase addr
      pendingTunPackets := n.pendingTunPackets.erase addr }
    let n := n.releaseIndices peer
    { n with effects := n.effects ++ [.removeLink peer.linkId, .cleanUpPeer addr] }

/-- `handle_disconnect`. -/
def handleDisconnect (src : NodeAddr) (payload : Bytes) : Handler SecretKey PublicKey ν μ Unit := body do
  let _ ← orReturn (Disconnect.decode payload)
  write (removeActivePeer src)

/-! ## Reports, announces and lookups -/

/-- `handle_sender_report`: nothing is kept of it. -/
def handleSenderReport (payload : Bytes) : Handler SecretKey PublicKey ν μ Unit := body do
  let _ ← orReturn (SenderReport.decode payload)

/-- `handle_receiver_report`, up to the re-evaluation of the parent after a first RTT. -/
def handleReceiverReport [Mmp ν] (src : NodeAddr) (payload : Bytes) :
    Handler SecretKey PublicKey ν μ Unit := body do
  let report ← orReturn (ReceiverReport.decode payload)
  modifyPeer src fun p =>
    p.mapMmp (Mmp.processReceiverReport report (p.sessionElapsedMs env.instant) env.instant)

/-- Decode an announce or a lookup and hand it on. -/
def handleAnnounce {α : Type} (decode : Bytes → Result ProtocolError α) (src : NodeAddr)
    (msgType : UInt8) (payload : Bytes) : Handler SecretKey PublicKey ν μ Unit := body do
  let _ ← orReturn (decode payload)
  emit (.receivedAnnounce src msgType payload)

section Signed

variable (Signature : Type) [SchnorrSignature Signature]

/-- `handle_tree_announce`, which the tree component takes over. -/
def handleTreeAnnounce (src : NodeAddr) (payload : Bytes) : Handler SecretKey PublicKey ν μ Unit :=
  handleAnnounce (TreeAnnounce.decode : Bytes → Result ProtocolError (TreeAnnounce Signature)) src
    0x10 payload

/-- `handle_filter_announce`, which the filter component takes over. -/
def handleFilterAnnounce (src : NodeAddr) (payload : Bytes) : Handler SecretKey PublicKey ν μ Unit :=
  handleAnnounce FilterAnnounce.decode src 0x20 payload

/-- `handle_lookup_request`, which discovery takes over. -/
def handleLookupRequest (src : NodeAddr) (payload : Bytes) : Handler SecretKey PublicKey ν μ Unit :=
  handleAnnounce LookupRequest.decode src 0x30 payload

/-- `handle_lookup_response`: `lookupAccepted` is a response to a lookup of our own whose proof
verifies. -/
def handleLookupResponse (src : NodeAddr) (payload : Bytes) :
    Handler SecretKey PublicKey ν μ Unit := body do
  let response ← orReturn
    (LookupResponse.decode payload : Result ProtocolError (LookupResponse Signature))
  emit (.receivedAnnounce src 0x31 payload)
  if env.lookupAccepted response.target then do
    let config ← read (·.config)
    modifySession response.target fun e =>
      if e.isEstablished then e.setCoordsWarmupRemaining config.coordsWarmupPackets else e

/-! ## Dispatch -/

variable [Sha256] [HkdfSha256] [ChaCha20Poly1305] [Secp256k1 SecretKey PublicKey] [Mmp ν]
  [SessionMmp μ]

/-- `dispatch_link_message`. -/
def dispatchLinkMessage (src : NodeAddr) (plaintext : Bytes) (ceFlag : Bool) :
    Handler SecretKey PublicKey ν μ Unit := body do
  if plaintext.isEmpty then stop ()
  else do
    let msgType ← orReturn (index plaintext 0 : Result Unit UInt8)
    let payload ← orReturn (sliceFrom plaintext 1 : Result Unit Bytes)
    if msgType == 0x00 then handleSessionDatagram env payload ceFlag
    else if msgType == 0x01 then handleSenderReport payload
    else if msgType == 0x02 then handleReceiverReport env src payload
    else if msgType == 0x10 then handleTreeAnnounce Signature src payload
    else if msgType == 0x20 then handleFilterAnnounce src payload
    else if msgType == 0x30 then handleLookupRequest src payload
    else if msgType == 0x31 then handleLookupResponse env Signature src payload
    else if msgType == 0x50 then handleDisconnect src payload
    -- 0x51 is a heartbeat
    else pure ()

end Signed

end Node

end Fips
