import Fips.Node.LinkSample
import Fips.Node.RekeyIndices

/-!
# Index accounting over whole runs

Index accounting holds throughout every run of the link layer (`Fips.Node.LinkRun`) whose events are
`InPlace`: each finds the entries of the indices it frees where it looks for them, and no cutover
meets an index that still drains.

The code checks neither. It registers the index of a rekey it answers under the transport of msg1 and
frees it under the transport the peer has by then; a second cutover overwrites the draining index.

## Results

* `inv_step`: an event that is `InPlace` keeps the invariant.
* `accounted_of_inPlace`: index accounting over runs.
* `not_accounted_overTwoTransports`: the peer's second handshake arrives over another transport.
-/

open Checked EventRun

namespace Fips

namespace LinkNode

variable {SecretKey PublicKey ν μ : Type}

theorem inv_new (identity : Identity SecretKey) (startupEpoch : Epoch) (config : NodeConfig)
    (maxPeers : Nat) :
    (new identity startupEpoch config maxPeers : LinkNode SecretKey PublicKey ν μ).Inv := by
  refine ⟨⟨⟨?_, fun tid i a hreg => ?_⟩, fun a i tid hi => ?_⟩, fun a p hp => ?_, fun l c hc => ?_,
    fun _ _ => rfl, fun pc hpc => ?_, List.nodup_nil⟩
  · refine Ledger.Balanced.empty.congr fun h => ?_
    cases h <;> rfl
  · cases hreg
  · cases hi
  · cases hp
  · cases hc
  · cases hpc

variable [Sha256] [HkdfSha256] [ChaCha20Poly1305] [Secp256k1 SecretKey PublicKey] [Mmp ν]
  [SessionMmp μ] {Signature : Type} [SchnorrSignature Signature]

/-- The event finds the entries of the indices it frees under the transport it looks for them, and
no cutover of it meets an index that still drains. A promotion and a rekey asked for directly find
what their callers in the source make sure of: a complete connection, a peer without another rekey. -/
def InPlace (n : LinkNode SecretKey PublicKey ν μ) : LinkEvent SecretKey PublicKey → Prop
  | .handleMsg1 env packet => ∀ p, RestartsPeer env packet n p → n.Homed p
  | .handleMsg2 _ packet => ∀ p, ReplacesSession packet n p →
    ∀ i tid, p.ourIndex = some i → p.transportId = some tid → n.OnlyUnder i tid
  | .promoteConnection linkId verifiedIdentity _ _ => n.PromotesCleanly linkId verifiedIdentity
  | .initiateRekey _ addr => n.StartsCleanly addr
  | .checkRekey now _ => n.config.rekeyEnabled = true →
    (∀ a ∈ n.peersWhere wantsCutover, n.CutsCleanly a) ∧
      ∀ a ∈ n.peersWhere (wantsDrain now), n.DrainsCleanly a
  | .handleEncryptedFrame env packet => FrameClean env packet n
  | .removeActivePeer addr => ∀ p, n.peers.lookup addr = some p → n.Homed p
  | _ => True

variable {n : LinkNode SecretKey PublicKey ν μ}

/-- **One step.** -/
theorem inv_step {e : LinkEvent SecretKey PublicKey} (h : n.Inv) (hplace : n.InPlace e) :
    (step Signature n e).Inv := by
  cases e with
  | initiateConnection env transportId remoteAddr peerIdentity =>
    exact inv_initiateConnection env h transportId remoteAddr peerIdentity
  | completeConnect env i connected => exact inv_completeConnect env h i connected
  | cleanupStaleConnection linkId => exact inv_cleanupStaleConnection h linkId
  | handleMsg1 env packet => exact inv_handleMsg1 env h packet hplace
  | handleMsg2 env packet => exact inv_handleMsg2 env h packet hplace
  | promoteConnection linkId verifiedIdentity currentTimeMs now =>
    exact inv_promoteConnection h hplace currentTimeMs now
  | initiateRekey env addr =>
    exact (fst_of_wp (initiateRekey_spec env h hplace)).1
  | checkRekey now env =>
    exact inv_checkRekey now env h (fun hon => (hplace hon).1) fun hon => (hplace hon).2
  | resendRekey env addr => exact inv_resendRekey env h addr
  | handleEncryptedFrame env packet => exact inv_handleEncryptedFrame Signature env packet h hplace
  | removeActivePeer addr =>
    cases hp : n.peers.lookup addr with
    | none =>
      have hsame : Node.removeActivePeer addr n.toNode = n.toNode := by
        unfold Node.removeActivePeer
        rw [hp]
      obtain ⟨links, addrToLink, heq⟩ :=
        onNode_eq (write (Node.removeActivePeer addr) : Node.M _ _ _ _ Unit Unit) n
      change (onNode (write (Node.removeActivePeer addr) : Node.M _ _ _ _ Unit Unit) n).1.Inv
      rw [heq]
      exact Inv.withLinks (n := { n with toNode := Node.removeActivePeer addr n.toNode })
        (hsame.symm ▸ h) links addrToLink
    | some p =>
      exact (fst_of_wp_returns (wp_mono (fun _ _ hm => hm.1) (fun _ _ hF => hF)
        (inv_removeActivePeer h hp (hplace p hp))))

/-- **Index accounting**, throughout every run whose events are in place. -/
theorem accounted_of_inPlace (identity : Identity SecretKey) (startupEpoch : Epoch)
    (config : NodeConfig) (maxPeers : Nat) (es : List (LinkEvent SecretKey PublicKey))
    (h : Along (step Signature) InPlace
      (new identity startupEpoch config maxPeers : LinkNode SecretKey PublicKey ν μ) es) :
    Always (step Signature) Accounted
      (new identity startupEpoch config maxPeers : LinkNode SecretKey PublicKey ν μ) es :=
  (Always.of_along (fun _ _ hn he => inv_step hn he)
    (inv_new identity startupEpoch config maxPeers) h).mono fun _ hn => hn.accounted

omit [Sha256] [HkdfSha256] [ChaCha20Poly1305] [Secp256k1 SecretKey PublicKey] [Mmp ν] [SessionMmp μ] in
/-- An entry for a peer that is gone. -/
theorem not_accounted_of_entry {tid : TransportId} {i : SessionIndex} {a : NodeAddr}
    (hentry : n.peersByIndex.lookup (tid, i) = some a) (hgone : n.peers.lookup a = none) :
    ¬ n.Accounted := by
  intro h
  obtain ⟨s, hs⟩ := h.registered tid i a hentry
  cases (congrFun (slots_books_of_none hgone) s).symm.trans hs

omit [Sha256] [HkdfSha256] [ChaCha20Poly1305] [Secp256k1 SecretKey PublicKey] [Mmp ν] [SessionMmp μ] in
/-- The only entry there is, under the transport of the peer. -/
theorem homed_of_keys {tid : TransportId} {i : SessionIndex} {a : NodeAddr}
    (hkeys : n.peersByIndex.keys = [(tid, i)])
    (htransport : (n.peers.lookup a).bind (·.transportId) = some tid) :
    ∀ p, n.peers.lookup a = some p → n.Homed p := by
  intro p hp tid' htid' s j _ tid'' hreg
  rw [hp, Option.bind_some, htid'] at htransport
  have hmem : (tid'', j) ∈ n.peersByIndex.keys :=
    AList.mem_keys.mp (AList.lookup_isSome.mp (Option.isSome_iff_ne_none.mpr hreg))
  rw [hkeys, List.mem_singleton] at hmem
  rw [(Prod.mk.inj hmem).1]
  exact (Option.some.inj htransport).symm

end LinkNode

/-! ## Two runs -/

namespace Sample

open LinkNode

/-- Our handshake with the peer, over transport 0. -/
def ourHandshake : LinkEvent Scalar Point :=
  .initiateConnection (linkEnv 0 11 1) 0 [5] (peerIdentity 5)

/-- Node 5 takes our msg1 on the first transport. -/
def theirAnswer : LinkEvent Scalar Point :=
  .handleMsg1 (linkEnv 0 12 7) ⟨0, [3], lastSent (linkRun (linkNode 3 1) [ourHandshake]), 0⟩

/-- Its answer completes our handshake. -/
def ourCompletion : LinkEvent Scalar Point :=
  .handleMsg2 (linkEnv 0 0 0) ⟨0, [5], lastSent (linkRun (linkNode 5 1) [theirAnswer]), 0⟩

/-- The peer has given the link up and tries us over its other transport. -/
def theirHandshake : LinkEvent Scalar Point :=
  .initiateConnection (linkEnv 40000 13 8) 1 [3] (peerIdentity 3)

/-- After 40 seconds this is a rekey to us. -/
def ourAnswer : LinkEvent Scalar Point :=
  .handleMsg1 (linkEnv 40000 14 2) ⟨1, [6], lastSent (linkRun (linkNode 5 1)
    [theirAnswer, .removeActivePeer (identity 3).nodeAddr, theirHandshake]), 40000⟩

/-- The peer's own handshake reaches us over another transport before the peer is removed. -/
def overTwoTransports : List (LinkEvent Scalar Point) :=
  [ourHandshake, ourCompletion, ourAnswer, .removeActivePeer (identity 5).nodeAddr]

/-- The index registered under the other transport outlives the peer. -/
theorem not_accounted_overTwoTransports :
    ¬ ∀ es : List (LinkEvent Scalar Point),
      Always (step Unit) Accounted (linkNode 3 1) es := by
  intro h
  have haccounted : (linkRun (linkNode 3 1) overTwoTransports).Accounted :=
    (h overTwoTransports).exec
  have hentry : (linkRun (linkNode 3 1) overTwoTransports).peersByIndex.lookup (1, 2) =
      some (identity 5).nodeAddr := by decide +kernel
  have hempty : (linkRun (linkNode 3 1) overTwoTransports).peers.isEmpty = true := by
    decide +kernel
  exact not_accounted_of_entry hentry (Map.isEmpty_iff.mp hempty _) haccounted

/-- Over one transport the peer is removed with what it held. -/
theorem accounted_overOneTransport :
    Always (step Unit) Accounted (linkNode 3 1)
      [ourHandshake, ourCompletion, .removeActivePeer (identity 5).nodeAddr] := by
  have hempty : (linkRun (linkNode 3 1) [ourHandshake]).peers.isEmpty = true := by decide +kernel
  have hkeys : (linkRun (linkNode 3 1) [ourHandshake, ourCompletion]).peersByIndex.keys =
      [(0, 1)] := by decide +kernel
  have htransport : ((linkRun (linkNode 3 1) [ourHandshake, ourCompletion]).peers.lookup
      (identity 5).nodeAddr).bind (·.transportId) = some 0 := by decide +kernel
  have hcompletes : (linkRun (linkNode 3 1) [ourHandshake]).InPlace ourCompletion := by
    rintro p ⟨_, _, _, _, _, _, -, -, -, -, -, -, hp, -⟩
    cases (Map.isEmpty_iff.mp hempty _).symm.trans hp
  have hremoves : (linkRun (linkNode 3 1) [ourHandshake, ourCompletion]).InPlace
      (.removeActivePeer (identity 5).nodeAddr) :=
    homed_of_keys (n := linkRun (linkNode 3 1) [ourHandshake, ourCompletion]) hkeys htransport
  exact accounted_of_inPlace (identity 3) (epoch 1) config 0 _
    ⟨trivial, hcompletes, hremoves, trivial⟩

end Sample

end Fips
