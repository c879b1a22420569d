import Fips.Node.Handshake

/-!
# Link rekeys

Model of the link part of `node/handlers/rekey.rs`: `check_rekey` cuts peers over to their pending
session, ends drains that are over and starts new rekeys; `resend_pending_rekeys` repeats their
msg1.

`check_rekey` first goes through the peers and collects who needs what, then acts. The peers are
visited in the order of the table, which is unspecified.
-/

open Checked

namespace Fips

/-- `DRAIN_WINDOW_SECS`: for so long the previous keys still open frames. -/
def DRAIN_WINDOW_SECS : Nat := 10

/-- `REKEY_DAMPENING_SECS`: for so long after the peer's rekey we begin none. -/
def REKEY_DAMPENING_SECS : Nat := 30

namespace LinkNode

variable {SecretKey PublicKey ν μ : Type} {ε : Type}

/-! ## What each peer needs -/

section Plan

variable (config : NodeConfig) (now : Nat) (p : ActivePeer SecretKey PublicKey ν)

/-- `rekey.rs:50-60`. -/
def wantsCutover : Bool :=
  p.hasSession && p.isHealthy && p.pendingNewSession.isSome && !p.rekeyInProgress

/-- `rekey.rs:62-65`. -/
def wantsDrain : Bool :=
  p.hasSession && p.isHealthy && !wantsCutover p && p.isDraining &&
    p.drainExpired now DRAIN_WINDOW_SECS

/-- `rekey.rs:67-85`. -/
def wantsRekey : Bool :=
  p.hasSession && p.isHealthy && !wantsCutover p && !p.rekeyInProgress &&
    !p.isRekeyDampened now REKEY_DAMPENING_SECS &&
    (decide (config.rekeyAfterSecs ≤ elapsedSecs p.sessionEstablishedAt now) ||
      decide (config.rekeyAfterMessages ≤ (p.noiseSession.map (·.currentSendCounter)).getD 0))

end Plan

/-- The addresses of the peers that satisfy `want`. -/
def peersWhere (want : ActivePeer SecretKey PublicKey ν → Bool)
    (n : LinkNode SecretKey PublicKey ν μ) : List NodeAddr :=
  (n.peers.entries.filter fun e => want e.2).map fun e => e.1

/-! ## Acting -/

/-- `rekey.rs:88-107`. -/
def cutover [Mmp ν] (now : Nat) (n : LinkNode SecretKey PublicKey ν μ) (addr : NodeAddr) :
    LinkNode SecretKey PublicKey ν μ :=
  { n with peers := n.peers.modify addr fun p => (p.cutoverToNewSession now).1 }

/-- `rekey.rs:110-124`. -/
def drain (n : LinkNode SecretKey PublicKey ν μ) (addr : NodeAddr) :
    LinkNode SecretKey PublicKey ν μ :=
  match n.peers.lookup addr with
  | none => n
  | some peer =>
    let drained := peer.completeDrain
    let n := { n with peers := n.peers.insert addr drained.1 }
    match drained.2 with
    | none => n
    | some oldIdx =>
      let n := { n with allocatedIndices := n.allocatedIndices.erase oldIdx }
      match drained.1.transportId with
      | none => n
      | some tid => { n with peersByIndex := n.peersByIndex.erase (tid, oldIdx) }

variable [Sha256] [HkdfSha256] [ChaCha20Poly1305] [Secp256k1 SecretKey PublicKey] [Mmp ν]

/-- `initiate_rekey`. -/
def initiateRekey (env : LinkEnv SecretKey) (addr : NodeAddr) : M SecretKey PublicKey ν μ ε Unit :=
  body do
    let peer ← orElse () (← read (·.peers.lookup addr))
    let transportId ← orElse () peer.transportId
    let remoteAddr ← orElse () peer.currentAddr
    let peerPubkey ← orElse () (← read (·.peerKeys.lookup addr))
    match ← attempt (allocate env) with
    | .error _ => pure ()
    | .ok ourIndex => do
      let n ← read id
      let hs :=
        (HandshakeState.newInitiator n.identity.secretKey peerPubkey).setLocalEpoch n.startupEpoch
      match ← attempt (pureCall (call (HandshakeState.writeMessage1 env.ephemeral) hs)) with
      | .error _ => free ourIndex
      | .ok (noiseMsg1, hs) => do
        let wireMsg1 := buildMsg1 ourIndex noiseMsg1
        if !(← transmit env transportId remoteAddr wireMsg1) then free ourIndex
        else do
          modifyPeer addr (·.setRekeyState hs ourIndex wireMsg1
            (env.nowMs + n.config.handshakeResendIntervalMs))
          write fun n => { n with
            pendingOutbound := n.pendingOutbound.insert (transportId, ourIndex) peer.linkId }

/-- The last loop of `check_rekey`. -/
def initiateRekeys (env : NodeAddr → LinkEnv SecretKey) :
    List NodeAddr → M SecretKey PublicKey ν μ ε Unit
  | [] => pure ()
  | addr :: addrs => do
    initiateRekey (env addr) addr
    initiateRekeys env addrs

/-- `check_rekey`; `env addr` is what the rekey of one peer reads from outside. -/
def checkRekey (now : Nat) (env : NodeAddr → LinkEnv SecretKey) : M SecretKey PublicKey ν μ ε Unit := do
  let n ← read id
  if n.config.rekeyEnabled then do
    write fun m => (n.peersWhere wantsCutover).foldl (cutover now) m
    write fun m => (n.peersWhere (wantsDrain now)).foldl drain m
    initiateRekeys env (n.peersWhere (wantsRekey n.config now))

/-- One peer of `resend_pending_rekeys`. -/
def resendRekey (env : LinkEnv SecretKey) (addr : NodeAddr) : M SecretKey PublicKey ν μ ε Unit :=
  body do
    let peer ← orElse () (← read (·.peers.lookup addr))
    let config ← read (·.config)
    if !peer.needsMsg1Resend env.nowMs then stop ()
    else do
      let msg1Bytes ← orElse () peer.rekeyMsg1
      let transportId ← orElse () peer.transportId
      let remoteAddr ← orElse () peer.currentAddr
      match env.send transportId remoteAddr msg1Bytes with
      | .sent => do
        write fun n => { n with outbox := n.outbox ++ [⟨transportId, remoteAddr, msg1Bytes⟩] }
        modifyPeer addr (·.setMsg1NextResend (env.nowMs + config.handshakeResendIntervalMs))
      | _ => pure ()

end LinkNode

end Fips
