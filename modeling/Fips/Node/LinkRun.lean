import Fips.Node.Rekey

/-!
# Runs of the link layer

`LinkNode` as a system that takes one link event at a time: handshake messages, promotions, rekeys
and their ticks, encrypted frames and removals, in any order and with any failure inside them.
-/

open Checked

namespace Fips

/-- What may happen to the link tables of a node. -/
inductive LinkEvent (SecretKey PublicKey : Type)
  | initiateConnection (env : LinkEnv SecretKey) (transportId : TransportId)
      (remoteAddr : TransportAddr) (peerIdentity : PeerIdentity PublicKey)
  | completeConnect (env : LinkEnv SecretKey) (i : Nat) (connected : Bool)
  | cleanupStaleConnection (linkId : LinkId)
  | handleMsg1 (env : LinkEnv SecretKey) (packet : ReceivedPacket)
  | handleMsg2 (env : LinkEnv SecretKey) (packet : ReceivedPacket)
  | promoteConnection (linkId : LinkId) (verifiedIdentity : PeerIdentity PublicKey)
      (currentTimeMs now : Nat)
  | initiateRekey (env : LinkEnv SecretKey) (addr : NodeAddr)
  | checkRekey (now : Nat) (env : NodeAddr → LinkEnv SecretKey)
  | resendRekey (env : LinkEnv SecretKey) (addr : NodeAddr)
  | handleEncryptedFrame (env : Env SecretKey) (packet : ReceivedPacket)
  | removeActivePeer (addr : NodeAddr)

namespace LinkNode

variable {SecretKey PublicKey ν μ : Type}

/-- `Node::new`, as far as it is modelled. -/
def new (identity : Identity SecretKey) (startupEpoch : Epoch) (config : NodeConfig)
    (maxPeers : Nat) : LinkNode SecretKey PublicKey ν μ where
  identity := identity
  startupEpoch := startupEpoch
  config := config
  peers := ∅
  peersByIndex := ∅
  pendingOutbound := ∅
  allocatedIndices := []
  sessions := ∅
  pendingTunPackets := ∅
  pendingPings := ∅
  effects := []
  maxPeers := maxPeers
  connections := ∅
  links := ∅
  addrToLink := ∅
  nextLinkId := 1
  pendingConnects := []
  peerKeys := ∅
  outbox := []

variable [Sha256] [HkdfSha256] [ChaCha20Poly1305] [Secp256k1 SecretKey PublicKey] [Mmp ν]
  [SessionMmp μ] (Signature : Type) [SchnorrSignature Signature]

/-- One event. -/
def step (n : LinkNode SecretKey PublicKey ν μ) : LinkEvent SecretKey PublicKey →
    LinkNode SecretKey PublicKey ν μ
  | .initiateConnection env transportId remoteAddr peerIdentity =>
    (initiateConnection env transportId remoteAddr peerIdentity n).1
  | .completeConnect env i connected => (completeConnect env i connected n).1
  | .cleanupStaleConnection linkId => (cleanupStaleConnection linkId n).1
  | .handleMsg1 env packet => (handleMsg1 env packet n).1
  | .handleMsg2 env packet => (handleMsg2 env packet n).1
  | .promoteConnection linkId verifiedIdentity currentTimeMs now =>
    (promoteConnection linkId verifiedIdentity currentTimeMs now n).1
  | .initiateRekey env addr => (initiateRekey env addr n : _ × Result Unit Unit).1
  | .checkRekey now env => (checkRekey now env n : _ × Result Unit Unit).1
  | .resendRekey env addr => (resendRekey env addr n : _ × Result Unit Unit).1
  | .handleEncryptedFrame env packet =>
    (onNode (Node.handleEncryptedFrame env Signature packet) n).1
  | .removeActivePeer addr => (removeActivePeer addr n : _ × Result Unit Unit).1

end LinkNode

end Fips
