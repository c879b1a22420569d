import Fips.Lib.Run
import Fips.Node.LinkRun
import Fips.Node.LinkTables
import Mathlib.Data.List.Sort

/-!
# Retries of auto-connect peers

Model of `node/retry.rs` and of what hands a peer to it or takes it out: the start of the configured
connections, the pending connects and the discoveries of `node/lifecycle.rs`, the handshake timeouts
of `handlers/timeout.rs`, the liveness check of `handlers/mmp.rs`, and the handlers of link
messages, whose own model (`LinkNode`) does not keep `retry_pending`.

`schedule_reconnect` and the removals from `retry_pending` follow the effects of a handler: a
handler asks for a reconnect with `scheduleReconnect`, and in the link handshake
`retry_pending.remove` stands beside `register_identity`, at each place where a peer becomes active.

Of a peer's configuration the alias is left out; npubs are decoded by `NpubDecoder`, since bech32 is
a library of its own. Which transport an address belongs to is an input (`ConnectEnv`).
-/

open Checked

namespace Fips

/-! ## Configuration -/

/-- `config::ConnectPolicy`. -/
inductive ConnectPolicy
  | autoConnect
  | onDemand
  | manual
  deriving DecidableEq, Repr

/-- `config::PeerAddress`. -/
structure PeerAddress where
  transport : String
  addr : String
  priority : UInt8
  deriving DecidableEq, Repr

/-- `config::PeerConfig`. -/
structure PeerConfig where
  npub : String
  addresses : List PeerAddress
  connectPolicy : ConnectPolicy
  autoReconnect : Bool
  deriving DecidableEq, Repr

namespace PeerConfig

/-- `PeerConfig::is_auto_connect`. -/
def isAutoConnect (pc : PeerConfig) : Bool := pc.connectPolicy == .autoConnect

/-- `addresses_by_priority`: a stable sort, lowest first. -/
def addressesByPriority (pc : PeerConfig) : List PeerAddress :=
  pc.addresses.insertionSort fun a b => a.priority ≤ b.priority

end PeerConfig

/-- `config::RetryConfig`. -/
structure RetryConfig where
  maxRetries : Nat
  baseIntervalSecs : Nat
  maxBackoffSecs : Nat
  deriving DecidableEq, Repr

/-- `PeerIdentity::from_npub`. -/
class NpubDecoder (PublicKey : Type) where
  fromNpub : String → Option (PeerIdentity PublicKey)

/-- The address of the peer a configuration names. -/
def PeerConfig.nodeAddr (SecretKey PublicKey : Type) [Sha256]
    [Secp256k1 SecretKey PublicKey] [NpubDecoder PublicKey] (pc : PeerConfig) : Option NodeAddr :=
  (NpubDecoder.fromNpub pc.npub : Option (PeerIdentity PublicKey)).map (·.nodeAddr SecretKey)

/-- `retry::RetryState`. -/
structure RetryState where
  peerConfig : PeerConfig
  retryCount : Nat
  retryAfterMs : Nat
  reconnect : Bool
  deriving DecidableEq, Repr

namespace RetryState

/-- `RetryState::new`. -/
def new (peerConfig : PeerConfig) : RetryState := ⟨peerConfig, 0, 0, false⟩

/-- `backoff_ms`, on `u64`. -/
def backoffMs (state : RetryState) (baseIntervalMs maxBackoffMs : Nat) : Nat :=
  let multiplier := if state.retryCount < 64 then 2 ^ state.retryCount else 2 ^ 64 - 1
  min (min (baseIntervalMs * multiplier) (2 ^ 64 - 1)) maxBackoffMs

end RetryState

/-! ## Connecting to a configured peer -/

/-- `transports.get` answers the same throughout an event. -/
def LinkEnv.Consistent {SecretKey : Type} (env : LinkEnv SecretKey) : Prop :=
  ∀ transportId remoteAddr, env.connectionOriented transportId = true →
    env.connect transportId remoteAddr ≠ .noTransport

/-- What an attempt to connect to a configured peer reads from outside: the transport and the
address of each configured address, none where it cannot be used, and the outside of the `i`th
address tried. -/
structure ConnectEnv (SecretKey : Type) where
  resolve : PeerAddress → Option (TransportId × TransportAddr)
  link : Nat → LinkEnv SecretKey
  consistent : ∀ i, (link i).Consistent

/-- The errors of `initiate_peer_connection`. -/
inductive ConnectError
  | invalidPeerNpub (npub : String)
  | noTransportForType (message : String)
  deriving DecidableEq, Repr

namespace LinkNode

variable {SecretKey PublicKey ν μ : Type}

/-- A connection is under way whose peer is known to have the address. -/
def isConnecting [Sha256] [Secp256k1 SecretKey PublicKey] (addr : NodeAddr)
    (n : LinkNode SecretKey PublicKey ν μ) : Bool :=
  n.connections.entries.any fun e =>
    e.2.expectedIdentity.any fun identity => identity.nodeAddr SecretKey == addr

variable [Sha256] [HkdfSha256] [ChaCha20Poly1305] [Secp256k1 SecretKey PublicKey]
  [NpubDecoder PublicKey]

/-- `lifecycle.rs:106-178`: the addresses in order, until one works. -/
def tryAddresses (env : ConnectEnv SecretKey) (npub : String)
    (peerIdentity : PeerIdentity PublicKey) :
    List PeerAddress → Nat → M SecretKey PublicKey ν μ ConnectError Unit
  | [], _ => stop (.noTransportForType
      ("no operational transport for any of " ++ npub ++ "'s addresses"))
  | addr :: addrs, i =>
    match env.resolve addr with
    | none => tryAddresses env npub peerIdentity addrs (i + 1)
    | some (transportId, remoteAddr) => do
      match ← attempt (initiateConnection (env.link i) transportId remoteAddr peerIdentity) with
      | .ok () => pure ()
      | .error _ => tryAddresses env npub peerIdentity addrs (i + 1)

/-- `initiate_peer_connection`. -/
def initiatePeerConnection (env : ConnectEnv SecretKey) (pc : PeerConfig) :
    M SecretKey PublicKey ν μ ConnectError Unit := do
  let peerIdentity ← orElse (.invalidPeerNpub pc.npub)
    (NpubDecoder.fromNpub pc.npub : Option (PeerIdentity PublicKey))
  let addr := peerIdentity.nodeAddr SecretKey
  if (← read (·.peers.lookup addr)).isSome then pure ()
  else if ← read (isConnecting addr) then pure ()
  else tryAddresses env pc.npub peerIdentity pc.addressesByPriority 0

/-- What a resend of msg1 needs of a connection. -/
def needsResend (config : NodeConfig) (nowMs : Nat) (conn : PeerConnection SecretKey PublicKey) :
    Bool :=
  conn.isOutbound && conn.handshakeState == .sentMsg1 &&
    decide (conn.resendCount < config.handshakeMaxResends) && decide (0 < conn.nextResendAtMs) &&
    decide (conn.nextResendAtMs ≤ nowMs)

/-- One connection of `resend_pending_handshakes`. -/
def resendHandshake (env : LinkEnv SecretKey) (linkId : LinkId) (msg1 : Bytes)
    (n : LinkNode SecretKey PublicKey ν μ) : LinkNode SecretKey PublicKey ν μ :=
  match n.connections.lookup linkId with
  | none => n
  | some conn =>
    match conn.transportId, conn.sourceAddr with
    | some transportId, some remoteAddr =>
      match env.send transportId remoteAddr msg1 with
      | .sent =>
        let next := env.nowMs + n.config.resendIntervalMs (conn.resendCount + 1)
        { n with
          outbox := n.outbox ++ [⟨transportId, remoteAddr, msg1⟩]
          connections := n.connections.modify linkId (·.recordResend next) }
      | _ => n
    | _, _ => n

/-- `resend_pending_handshakes`. -/
def resendPendingHandshakes (env : LinkEnv SecretKey) (n : LinkNode SecretKey PublicKey ν μ) :
    LinkNode SecretKey PublicKey ν μ :=
  let candidates := n.connections.entries.filterMap fun e =>
    if needsResend n.config env.nowMs e.2 then e.2.handshakeMsg1.map fun msg1 => (e.1, msg1)
    else none
  candidates.foldl (fun n candidate => n.resendHandshake env candidate.1 candidate.2) n

end LinkNode

/-! ## The retry table -/

/-- A node with the peers it is configured to reach and its retries of them. -/
structure RetryNode (SecretKey PublicKey ν μ : Type) extends LinkNode SecretKey PublicKey ν μ where
  peerConfigs : List PeerConfig
  retryConfig : RetryConfig
  retryPending : Map NodeAddr RetryState

namespace RetryNode

variable {SecretKey PublicKey ν μ : Type}

/-- A method of a node with its retries. -/
abbrev M (SecretKey PublicKey ν μ ε α : Type) := Method (RetryNode SecretKey PublicKey ν μ) ε α

/-- A method of the links. -/
def onLink {ε α : Type} (m : LinkNode.M SecretKey PublicKey ν μ ε α) :
    M SecretKey PublicKey ν μ ε α := fun n =>
  let r := m n.toLinkNode
  ({ n with toLinkNode := r.1 }, r.2)

/-- `auto_connect_peers`. -/
def autoConnectPeers (n : RetryNode SecretKey PublicKey ν μ) : List PeerConfig :=
  n.peerConfigs.filter (·.isAutoConnect)

/-- The backoff before the next try, with the configured base and maximum. -/
def delay (n : RetryNode SecretKey PublicKey ν μ) (state : RetryState) : Nat :=
  state.backoffMs (n.retryConfig.baseIntervalSecs * 1000) (n.retryConfig.maxBackoffSecs * 1000)

/-- `retry_pending.insert` of a state whose next attempt is as far away as its count says. -/
def keepRetry (addr : NodeAddr) (nowMs : Nat) (state : RetryState)
    (n : RetryNode SecretKey PublicKey ν μ) : RetryNode SecretKey PublicKey ν μ :=
  { n with retryPending :=
      n.retryPending.insert addr { state with retryAfterMs := nowMs + n.delay state } }

variable [Sha256] [Secp256k1 SecretKey PublicKey] [NpubDecoder PublicKey]

/-- The first auto-connect configuration of a peer. -/
def configOf (n : RetryNode SecretKey PublicKey ν μ) (addr : NodeAddr) : Option PeerConfig :=
  n.autoConnectPeers.find? fun pc =>
    decide (pc.nodeAddr SecretKey PublicKey = some addr)

/-- `schedule_retry`. -/
def scheduleRetry (addr : NodeAddr) (nowMs : Nat) (n : RetryNode SecretKey PublicKey ν μ) :
    RetryNode SecretKey PublicKey ν μ :=
  if n.retryConfig.maxRetries = 0 then n
  else if (n.peers.lookup addr).isSome then n
  else
    match n.retryPending.lookup addr with
    | some state =>
      let state := { state with retryCount := state.retryCount + 1 }
      if !state.reconnect && decide (n.retryConfig.maxRetries < state.retryCount) then
        { n with retryPending := n.retryPending.erase addr }
      else n.keepRetry addr nowMs state
    | none =>
      match n.configOf addr with
      | none => n
      | some pc => n.keepRetry addr nowMs { RetryState.new pc with retryCount := 1, reconnect := true }

/-- `schedule_reconnect`. -/
def scheduleReconnect (addr : NodeAddr) (nowMs : Nat) (n : RetryNode SecretKey PublicKey ν μ) :
    RetryNode SecretKey PublicKey ν μ :=
  match n.configOf addr with
  | none => n
  | some pc =>
    if !pc.autoReconnect then n
    else
      match n.retryPending.lookup addr with
      | some state =>
        n.keepRetry addr nowMs { state with reconnect := true, retryCount := state.retryCount + 1 }
      | none => n.keepRetry addr nowMs { RetryState.new pc with reconnect := true }

/-! ## Link messages -/

/-- What one effect of a handshake handler does to the retries. -/
def followHandshake (nowMs : Nat) (n : RetryNode SecretKey PublicKey ν μ) :
    Effect PublicKey → RetryNode SecretKey PublicKey ν μ
  | .registerIdentity addr _ => { n with retryPending := n.retryPending.erase addr }
  | .scheduleReconnect addr => n.scheduleReconnect addr nowMs
  | _ => n

/-- A handler of the link handshake. -/
def onHandshake {ε α : Type} (nowMs : Nat) (m : LinkNode.M SecretKey PublicKey ν μ ε α) :
    M SecretKey PublicKey ν μ ε α := fun n =>
  let r := m n.toLinkNode
  ((r.1.effects.drop n.effects.length).foldl (followHandshake nowMs) { n with toLinkNode := r.1 },
    r.2)

/-- What one effect of the data plane does to the retries. -/
def followFrame (nowMs : Nat) (n : RetryNode SecretKey PublicKey ν μ) :
    Effect PublicKey → RetryNode SecretKey PublicKey ν μ
  | .scheduleReconnect addr => n.scheduleReconnect addr nowMs
  | _ => n

/-- A method of the data plane. -/
def onNode {ε α : Type} (nowMs : Nat) (m : Node.M SecretKey PublicKey ν μ ε α) :
    M SecretKey PublicKey ν μ ε α := fun n =>
  let r := LinkNode.onNode m n.toLinkNode
  ((r.1.effects.drop n.effects.length).foldl (followFrame nowMs) { n with toLinkNode := r.1 }, r.2)

/-! ## Ticks -/

/-- One stale connection of `check_timeouts`. -/
def timeOutConnection (nowMs : Nat) (n : RetryNode SecretKey PublicKey ν μ) (linkId : LinkId) :
    RetryNode SecretKey PublicKey ν μ :=
  let n :=
    match n.connections.lookup linkId with
    | none => n
    | some conn =>
      match conn.expectedIdentity with
      | none => n
      | some identity =>
        if conn.isOutbound then n.scheduleRetry (identity.nodeAddr SecretKey) nowMs else n
  (onLink (LinkNode.cleanupStaleConnection linkId) n).1

/-- `check_timeouts`. -/
def checkTimeouts (nowMs : Nat) (n : RetryNode SecretKey PublicKey ν μ) :
    RetryNode SecretKey PublicKey ν μ :=
  let stale := n.connections.entries.filter fun e =>
    e.2.isTimedOut nowMs (n.config.handshakeTimeoutSecs * 1000) || e.2.isFailed
  (stale.map fun e => e.1).foldl (timeOutConnection nowMs) n

/-- The liveness part of `check_link_heartbeats`; `isDead` is what the measurements of a peer say. -/
def removeDeadPeers (nowMs : Nat) (isDead : ActivePeer SecretKey PublicKey ν → Bool)
    (n : RetryNode SecretKey PublicKey ν μ) : RetryNode SecretKey PublicKey ν μ :=
  let dead := (n.peers.entries.filter fun e => isDead e.2).map fun e => e.1
  dead.foldl (fun n addr =>
    let removed := LinkNode.removeActivePeer (ε := Unit) addr n.toLinkNode
    scheduleReconnect addr nowMs { n with toLinkNode := removed.1 }) n

variable [HkdfSha256] [ChaCha20Poly1305]

/-- One completed connect of `poll_pending_connects`. -/
def finishConnect (env : Nat → LinkEnv SecretKey) (n : RetryNode SecretKey PublicKey ν μ)
    (completed : Nat × Bool) : RetryNode SecretKey PublicKey ν μ :=
  let done := (onLink (LinkNode.completeConnect (env completed.1) completed.1 completed.2) n).1
  match n.pendingConnects[completed.1]? with
  | none => done
  | some pending =>
    if completed.2 then done
    else done.scheduleRetry (pending.peerIdentity.nodeAddr SecretKey) (env completed.1).nowMs

/-- `poll_pending_connects`; `state` is whether a connect has succeeded, failed or neither. The
connects are completed from the last to the first. -/
def pollPendingConnects (env : Nat → LinkEnv SecretKey)
    (state : PendingConnect PublicKey → Option Bool) (n : RetryNode SecretKey PublicKey ν μ) :
    RetryNode SecretKey PublicKey ν μ :=
  EventRun.exec (finishConnect env) n (completedConnects state n.pendingConnects)
where
  completedConnects (state : PendingConnect PublicKey → Option Bool)
      (pending : List (PendingConnect PublicKey)) : List (Nat × Bool) :=
    (pending.zipIdx.filterMap fun e => (state e.1).map fun connected => (e.2, connected)).reverse

/-- One due retry of `process_pending_retries`. -/
def retryConnection (nowMs : Nat) (env : NodeAddr → ConnectEnv SecretKey)
    (n : RetryNode SecretKey PublicKey ν μ) (addr : NodeAddr) : RetryNode SecretKey PublicKey ν μ :=
  if (n.peers.lookup addr).isSome then { n with retryPending := n.retryPending.erase addr }
  else
    match n.retryPending.lookup addr with
    | none => n
    | some state =>
      match onLink (LinkNode.initiatePeerConnection (env addr) state.peerConfig) n with
      | (n, .ok ()) =>
        let retryAfterMs := nowMs + n.config.handshakeTimeoutSecs * 1000
        { n with retryPending :=
            n.retryPending.modify addr fun state => { state with retryAfterMs := retryAfterMs } }
      | (n, .error _) => n.scheduleRetry addr nowMs

/-- `process_pending_retries`. -/
def processPendingRetries (nowMs : Nat) (env : NodeAddr → ConnectEnv SecretKey)
    (n : RetryNode SecretKey PublicKey ν μ) : RetryNode SecretKey PublicKey ν μ :=
  let due := (n.retryPending.entries.filter fun e => decide (e.2.retryAfterMs ≤ nowMs)).map
    fun e => e.1
  due.foldl (retryConnection nowMs env) n

/-! ## Start -/

/-- `Node::new`, as far as it is modelled. -/
def new (identity : Identity SecretKey) (startupEpoch : Epoch) (config : NodeConfig) (maxPeers : Nat)
    (peerConfigs : List PeerConfig) (retryConfig : RetryConfig) :
    RetryNode SecretKey PublicKey ν μ where
  toLinkNode := LinkNode.new identity startupEpoch config maxPeers
  peerConfigs := peerConfigs
  retryConfig := retryConfig
  retryPending := ∅

/-- One peer of `initiate_peer_connections`, whose failure is logged. -/
def startPeer (env : Nat → ConnectEnv SecretKey) (n : RetryNode SecretKey PublicKey ν μ)
    (peer : PeerConfig × Nat) : RetryNode SecretKey PublicKey ν μ :=
  (onLink (LinkNode.initiatePeerConnection (env peer.2) peer.1) n).1

/-- `lifecycle.rs:27-45`: the identities of the configured peers are known from the start. -/
def seedIdentities (n : RetryNode SecretKey PublicKey ν μ) : RetryNode SecretKey PublicKey ν μ :=
  let identities : List (PeerIdentity PublicKey) :=
    n.peerConfigs.filterMap fun pc => NpubDecoder.fromNpub pc.npub
  let registered : List (Effect PublicKey) := identities.map fun identity =>
    .registerIdentity (identity.nodeAddr SecretKey) identity.pubkeyFull
  { n with effects := n.effects ++ registered }

/-- `initiate_peer_connections`. -/
def initiatePeerConnections (env : Nat → ConnectEnv SecretKey)
    (n : RetryNode SecretKey PublicKey ν μ) : RetryNode SecretKey PublicKey ν μ :=
  EventRun.exec (startPeer env) n.seedIdentities n.autoConnectPeers.zipIdx

end RetryNode

/-! ## Runs -/

/-- The events of a node after its start, with what each reads from outside. `connect` is a request
of the control socket, `discover` a peer a transport found, `dataPlane` anything else the node does;
a disconnect by the operator is not one of them. -/
inductive RetryEvent (SecretKey PublicKey ν μ : Type)
  | connect (env : ConnectEnv SecretKey) (pc : PeerConfig)
  | discover (env : LinkEnv SecretKey) (consistent : env.Consistent) (transportId : TransportId)
      (remoteAddr : TransportAddr) (peerIdentity : PeerIdentity PublicKey)
  | checkTimeouts (nowMs : Nat)
  | pollPendingConnects (env : Nat → LinkEnv SecretKey)
      (state : PendingConnect PublicKey → Option Bool)
  | resendPendingHandshakes (env : LinkEnv SecretKey)
  | processPendingRetries (nowMs : Nat) (env : NodeAddr → ConnectEnv SecretKey)
  | removeDeadPeers (nowMs : Nat) (isDead : ActivePeer SecretKey PublicKey ν → Bool)
  | handleMsg1 (env : LinkEnv SecretKey) (packet : ReceivedPacket)
  | handleMsg2 (env : LinkEnv SecretKey) (packet : ReceivedPacket)
  | handleEncryptedFrame (env : Env SecretKey) (packet : ReceivedPacket)
  | checkRekey (now : Nat) (env : NodeAddr → LinkEnv SecretKey)
  | resendRekey (env : LinkEnv SecretKey) (addr : NodeAddr)
  | dataPlane (m : Node.M SecretKey PublicKey ν μ Unit Unit) (frames : Node.FramesLinks m)

namespace RetryNode

variable {SecretKey PublicKey ν μ : Type}
variable [Sha256] [HkdfSha256] [ChaCha20Poly1305] [Secp256k1 SecretKey PublicKey] [Mmp ν]
  [SessionMmp μ] [NpubDecoder PublicKey] (Signature : Type) [SchnorrSignature Signature]

/-- One event. -/
def step (n : RetryNode SecretKey PublicKey ν μ) : RetryEvent SecretKey PublicKey ν μ →
    RetryNode SecretKey PublicKey ν μ
  | .connect env pc => (onLink (LinkNode.initiatePeerConnection env pc) n).1
  | .discover env _ transportId remoteAddr peerIdentity =>
    (onLink (LinkNode.initiateConnection env transportId remoteAddr peerIdentity) n).1
  | .checkTimeouts nowMs => n.checkTimeouts nowMs
  | .pollPendingConnects env state => n.pollPendingConnects env state
  | .resendPendingHandshakes env =>
    { n with toLinkNode := n.toLinkNode.resendPendingHandshakes env }
  | .processPendingRetries nowMs env => n.processPendingRetries nowMs env
  | .removeDeadPeers nowMs isDead => n.removeDeadPeers nowMs isDead
  | .handleMsg1 env packet => (onHandshake env.nowMs (LinkNode.handleMsg1 env packet) n).1
  | .handleMsg2 env packet => (onHandshake env.nowMs (LinkNode.handleMsg2 env packet) n).1
  | .handleEncryptedFrame env packet =>
    (onNode env.nowMs (Node.handleEncryptedFrame env Signature packet) n).1
  | .checkRekey now env =>
    (onLink (LinkNode.checkRekey now env : LinkNode.M SecretKey PublicKey ν μ Unit Unit) n).1
  | .resendRekey env addr =>
    (onLink (LinkNode.resendRekey env addr : LinkNode.M SecretKey PublicKey ν μ Unit Unit) n).1
  | .dataPlane m _ => (onLink (LinkNode.onNode m) n).1

end RetryNode

end Fips
