import Fips.Bloom.State
import Fips.Node.Tree
import Fips.Wire.Link

/-!
# The node's filter announcements

Model of `node/bloom.rs`, over the node's tree handlers. `BloomNode` is the tree part of the node,
the filter slots of its active peers (`peer/active.rs:111-114`; a peer that is not in the table has
fresh ones) and the bloom state. The tree handlers' `markFilterUpdates` effects are the marks they
set; a removed peer's filter state is dropped, a promoted peer starts with fresh slots.

`BloomEvent` lists the events of a run: those of the tree, a received announce, the tick that sends
what is owed, and the mark after a cross connection is resolved (`node/handlers/handshake.rs:760`).

## Results

* `lookup_peerInboundFilters`: the filters that are merged are those of the tree peers.
* `sendFilterAnnounceToPeer_cases`: a send changes nothing but a sequence number, or it records the
  outgoing filter and the peer is no longer owed one.
* `handleFilterAnnounce_cases`: an announce is dropped, or its filter, of the default size, is stored.
* `step_sized`: so has every stored filter in every run.
-/

namespace Fips

/-- `peer/active.rs:111-114`. -/
structure FilterSlots where
  inboundFilter : Option BloomFilter := none
  filterSequence : Nat := 0

/-- A node with the filters of its peers and its own. -/
structure BloomNode (SecretKey PublicKey Signature F : Type) where
  tree : TreeNode SecretKey PublicKey Signature F
  filterSlots : Map NodeAddr FilterSlots
  bloomState : BloomState

namespace BloomNode

variable {SecretKey PublicKey Signature F : Type}

/-- The filter slots of an active peer. -/
def slots (n : BloomNode SecretKey PublicKey Signature F) (addr : NodeAddr) : FilterSlots :=
  (n.filterSlots.lookup addr).getD {}

/-- The filters received from the tree peers. -/
def peerInboundFilters (n : BloomNode SecretKey PublicKey Signature F) : Map NodeAddr BloomFilter :=
  n.tree.peers.filterMap fun addr _ =>
    if n.tree.isTreePeer addr then (n.slots addr).inboundFilter else none

/-- The marks a tree handler sets. -/
def applyEffects (s : BloomState) (effects : List (TreeEffect Signature)) : BloomState :=
  effects.foldl (fun s effect =>
    match effect with
    | .markFilterUpdates peers => s.markAllUpdatesNeeded peers
    | _ => s) s

section Hash

variable [Sha256]

/-- `build_filter_announce`: the filter for a peer leaves out what that peer announced. -/
def buildFilterAnnounce (n : BloomNode SecretKey PublicKey Signature F) (excludePeer : NodeAddr) :
    BloomNode SecretKey PublicKey Signature F × FilterAnnounce :=
  let filter := n.bloomState.computeOutgoingFilter excludePeer n.peerInboundFilters
  let (bloomState, sequence) := n.bloomState.nextSequence
  ({ n with bloomState }, .new filter sequence)

/-- `send_filter_announce_to_peer`; a failed send leaves the update pending. Nothing can be sent to
a node that is not an active peer. -/
def sendFilterAnnounceToPeer (n : BloomNode SecretKey PublicKey Signature F) (peerAddr : NodeAddr)
    (env : SendEnv) : BloomNode SecretKey PublicKey Signature F :=
  if ¬ n.bloomState.shouldSendUpdate peerAddr (env.nowMs peerAddr) then n
  else
    let (n, announce) := n.buildFilterAnnounce peerAddr
    match announce.encode with
    | .error _ => n
    | .ok _ =>
      if peerAddr ∉ n.tree.peers then n
      else match env.sendEncryptedLinkMessage peerAddr with
        | .error _ => n
        | .ok () =>
          let sent := n.bloomState.recordUpdateSent peerAddr (env.nowMs peerAddr)
          { n with bloomState := sent.recordSentFilter peerAddr announce.filter }

/-- The peers whose announce is due. -/
def readyFilterPeers (n : BloomNode SecretKey PublicKey Signature F) (nowMs : Nat) :
    List NodeAddr :=
  n.tree.peers.keys.filter fun addr => n.bloomState.shouldSendUpdate addr nowMs

/-- `check_bloom_state`, that is `send_pending_filter_announces`. -/
def checkBloomState (n : BloomNode SecretKey PublicKey Signature F) (nowMs : Nat) (env : SendEnv) :
    BloomNode SecretKey PublicKey Signature F :=
  (n.readyFilterPeers nowMs).foldl (fun n peerAddr => n.sendFilterAnnounceToPeer peerAddr env) n

/-- `handle_filter_announce`. -/
def handleFilterAnnounce (n : BloomNode SecretKey PublicKey Signature F) (source : NodeAddr)
    (payload : Bytes) : BloomNode SecretKey PublicKey Signature F :=
  match FilterAnnounce.decode payload with
  | .error _ => n
  | .ok announce =>
    if ¬ announce.isValid then n
    else if ¬ announce.isV1Compliant then n
    else if source ∉ n.tree.peers then n
    else if announce.sequence ≤ (n.slots source).filterSequence then n
    else
      let slots := ⟨some announce.filter, announce.sequence⟩
      let n := { n with filterSlots := n.filterSlots.insert source slots }
      let bloomState :=
        n.bloomState.markChangedPeers source n.tree.peers.keys n.peerInboundFilters
      { n with bloomState }

end Hash

/-! ## Runs -/

variable [LinkCost F] [SigningKey SecretKey Signature] [VerifyingKey PublicKey Signature]

/-- One event of the tree: its marks, and the filter state of a removed or a promoted peer. -/
def stepTree (n : BloomNode SecretKey PublicKey Signature F)
    (e : TreeEvent PublicKey Signature F) : BloomNode SecretKey PublicKey Signature F :=
  let (tree, effects) := n.tree.step e
  match e with
  | .removePeer addr _ _ =>
    if addr ∉ n.tree.peers then n
    else
      { tree
        filterSlots := n.filterSlots.erase addr
        bloomState := applyEffects (n.bloomState.removePeerState addr) effects }
  | .promotePeer addr _ _ =>
    { tree
      filterSlots := n.filterSlots.erase addr
      bloomState := applyEffects n.bloomState effects }
  | _ => { n with tree, bloomState := applyEffects n.bloomState effects }

/-- The announces after a cross connection is resolved with the peer kept. -/
def alignSession (n : BloomNode SecretKey PublicKey Signature F) (peerAddr : NodeAddr)
    (env : SendEnv) : BloomNode SecretKey PublicKey Signature F :=
  if peerAddr ∉ n.tree.peers then n
  else
    { n with
      tree := (n.tree.sendTreeAnnounceToPeer peerAddr env).1
      bloomState := n.bloomState.markUpdateNeeded peerAddr }

end BloomNode

/-- The events of a run. -/
inductive BloomEvent (PublicKey Signature F : Type)
  | tree (e : TreeEvent PublicKey Signature F)
  | filterAnnounce (source : NodeAddr) (payload : Bytes)
  | checkBloomState (nowMs : Nat) (env : SendEnv)
  | alignSession (peerAddr : NodeAddr) (env : SendEnv)

namespace BloomNode

variable {SecretKey PublicKey Signature F : Type}

section Step

variable [LinkCost F] [SigningKey SecretKey Signature]

/-- `Node::new`, with leaf dependents added through `bloom_state_mut`. -/
def new (tree : TreeNode SecretKey PublicKey Signature F) (updateDebounceMs : Nat)
    (leafDependents : List NodeAddr) : BloomNode SecretKey PublicKey Signature F where
  tree
  filterSlots := ∅
  bloomState := leafDependents.foldl BloomState.addLeafDependent
    ((BloomState.new tree.identity.nodeAddr).setUpdateDebounceMs updateDebounceMs)

/-- One event. -/
def step [VerifyingKey PublicKey Signature] [Sha256]
    (n : BloomNode SecretKey PublicKey Signature F) :
    BloomEvent PublicKey Signature F → BloomNode SecretKey PublicKey Signature F
  | .tree e => n.stepTree e
  | .filterAnnounce source payload => n.handleFilterAnnounce source payload
  | .checkBloomState nowMs env => n.checkBloomState nowMs env
  | .alignSession peerAddr env => n.alignSession peerAddr env

end Step

/-! ## What each function does -/

section Lemmas

variable {n : BloomNode SecretKey PublicKey Signature F}

/-- **The filters that are merged.** -/
theorem lookup_peerInboundFilters (p : NodeAddr) : n.peerInboundFilters.lookup p =
    if p ∈ n.tree.peers ∧ n.tree.isTreePeer p = true then (n.slots p).inboundFilter else none := by
  unfold peerInboundFilters
  rw [Map.lookup_filterMap]
  by_cases hp : p ∈ n.tree.peers
  · obtain ⟨peer, hpeer⟩ := Option.isSome_iff_exists.mp (AList.lookup_isSome.mpr hp)
    simp [hpeer, hp]
  · rw [AList.lookup_eq_none.mpr hp, Option.bind_none, if_neg fun h => hp h.1]

/-- The marks of a tree handler only add pending updates. -/
theorem applyEffects_spec (s : BloomState) (effects : List (TreeEffect Signature)) :
    ∃ pending, applyEffects s effects = { s with pendingUpdates := pending } ∧
      ∀ p, p ∈ pending ↔ p ∈ s.pendingUpdates ∨
        ∃ peers, .markFilterUpdates peers ∈ effects ∧ p ∈ peers := by
  induction effects generalizing s with
  | nil => exact ⟨s.pendingUpdates, rfl, fun p => by simp⟩
  | cons effect effects ih =>
    have hother : (∀ peers, effect ≠ .markFilterUpdates peers) →
        applyEffects s (effect :: effects) = applyEffects s effects →
        ∃ pending, applyEffects s (effect :: effects) = { s with pendingUpdates := pending } ∧
          ∀ p, p ∈ pending ↔ p ∈ s.pendingUpdates ∨
            ∃ peers, .markFilterUpdates peers ∈ effect :: effects ∧ p ∈ peers := by
      intro hne heq
      obtain ⟨pending, hout, hmem⟩ := ih s
      refine ⟨pending, heq.trans hout, fun p => (hmem p).trans ?_⟩
      simp [fun peers => (hne peers).symm]
    cases effect with
    | markFilterUpdates peers =>
      obtain ⟨pending, hout, hmem⟩ := ih (s.markAllUpdatesNeeded peers)
      refine ⟨pending, hout, fun p => (hmem p).trans ?_⟩
      simp [BloomState.markAllUpdatesNeeded, or_and_right, exists_or, or_assoc]
    | sentTreeAnnounce peer announce => exact hother nofun rfl
    | clearCoordCache => exact hother nofun rfl
    | resetDiscoveryBackoff => exact hother nofun rfl

variable [Sha256]

/-- A built announce is encoded: its filter has the default size. -/
theorem isValid_buildFilterAnnounce (peerAddr : NodeAddr) :
    (n.buildFilterAnnounce peerAddr).2.isValid = true := by
  have hsize := (n.bloomState.computeOutgoingFilter_spec peerAddr n.peerInboundFilters).1.numBits
  unfold BloomFilter.numBits BloomFilter.DEFAULT_FILTER_SIZE_BITS at hsize
  have hlen : (n.bloomState.computeOutgoingFilter peerAddr n.peerInboundFilters).bits.length =
      1024 := by omega
  simp [buildFilterAnnounce, FilterAnnounce.new, FilterAnnounce.isValid, BloomFilter.numBytes,
    FilterAnnounce.filterSizeBytes, FilterAnnounce.V1_SIZE_CLASS, hlen]

/-- **A send**: at most a sequence number is used up, or the outgoing filter is recorded as sent and
the peer is no longer owed one. -/
theorem sendFilterAnnounceToPeer_cases (n : BloomNode SecretKey PublicKey Signature F)
    (peerAddr : NodeAddr) (env : SendEnv) :
    ∃ sequence lastUpdateSent,
      n.sendFilterAnnounceToPeer peerAddr env =
          { n with bloomState := { n.bloomState with sequence := sequence } } ∨
        n.sendFilterAnnounceToPeer peerAddr env =
          { n with bloomState := { n.bloomState with
            sequence := sequence
            lastUpdateSent := lastUpdateSent
            pendingUpdates := n.bloomState.pendingUpdates.erase peerAddr
            lastSentFilters := n.bloomState.lastSentFilters.insert peerAddr
              (n.bloomState.computeOutgoingFilter peerAddr n.peerInboundFilters) } } := by
  unfold sendFilterAnnounceToPeer
  by_cases hshould : n.bloomState.shouldSendUpdate peerAddr (env.nowMs peerAddr) = true
  swap
  · rw [if_pos hshould]
    exact ⟨_, ∅, .inl rfl⟩
  rw [if_neg (not_not.mpr hshould)]
  obtain ⟨bytes, henc⟩ : ∃ bytes, (n.buildFilterAnnounce peerAddr).2.encode = .ok bytes := by
    unfold FilterAnnounce.encode
    rw [if_neg (not_not.mpr (isValid_buildFilterAnnounce peerAddr))]
    exact ⟨_, rfl⟩
  simp only [henc]
  by_cases hpeer : peerAddr ∉ (n.buildFilterAnnounce peerAddr).1.tree.peers
  · rw [if_pos hpeer]
    exact ⟨_, ∅, .inl rfl⟩
  · rw [if_neg hpeer]
    cases env.sendEncryptedLinkMessage peerAddr with
    | error _ => exact ⟨_, ∅, .inl rfl⟩
    | ok _ => exact ⟨_, _, .inr rfl⟩

/-- **A received announce** is dropped, or its filter, of the default size, is stored and the peers
whose outgoing filter changed are marked. -/
theorem handleFilterAnnounce_cases (n : BloomNode SecretKey PublicKey Signature F)
    (source : NodeAddr) (payload : Bytes) :
    n.handleFilterAnnounce source payload = n ∨
    ∃ filter sequence, filter.numBits = BloomFilter.DEFAULT_FILTER_SIZE_BITS ∧
      source ∈ n.tree.peers ∧
      let stored := { n with filterSlots := n.filterSlots.insert source ⟨some filter, sequence⟩ }
      n.handleFilterAnnounce source payload = { stored with
        bloomState := n.bloomState.markChangedPeers source n.tree.peers.keys
          stored.peerInboundFilters } := by
  unfold handleFilterAnnounce
  cases hdec : FilterAnnounce.decode payload with
  | error e => exact .inl rfl
  | ok announce =>
    obtain ⟨hvalid, hv1, hsize⟩ := FilterAnnounce.of_decode hdec
    simp only
    rw [if_neg (not_not.mpr hvalid), if_neg (not_not.mpr hv1)]
    by_cases hpeer : source ∈ n.tree.peers
    swap
    · rw [if_pos hpeer]
      exact .inl rfl
    rw [if_neg (not_not.mpr hpeer)]
    by_cases hstale : announce.sequence ≤ (n.slots source).filterSequence
    · rw [if_pos hstale]
      exact .inl rfl
    · rw [if_neg hstale]
      exact .inr ⟨announce.filter, announce.sequence, hsize, hpeer, rfl⟩

end Lemmas

/-! ## Sizes -/

section Sizes

variable {n : BloomNode SecretKey PublicKey Signature F}

/-- Every stored filter has the default size. -/
def Sized (n : BloomNode SecretKey PublicKey Signature F) : Prop :=
  ∀ p f, (n.slots p).inboundFilter = some f → f.numBits = BloomFilter.DEFAULT_FILTER_SIZE_BITS

theorem new_sized (tree : TreeNode SecretKey PublicKey Signature F) (updateDebounceMs : Nat)
    (leafDependents : List NodeAddr) : (new tree updateDebounceMs leafDependents).Sized := nofun

theorem Sized.of_erase (h : n.Sized) {m : BloomNode SecretKey PublicKey Signature F}
    {addr : NodeAddr} (hm : m.filterSlots = n.filterSlots.erase addr) : m.Sized := by
  intro p f hf
  unfold slots at hf
  rw [hm, Map.lookup_erase'] at hf
  split_ifs at hf with hp
  · cases hf
  · exact h p f hf

variable [Sha256]

theorem filterSlots_checkBloomState (nowMs : Nat) (env : SendEnv) :
    (n.checkBloomState nowMs env).filterSlots = n.filterSlots := by
  unfold checkBloomState
  induction n.readyFilterPeers nowMs generalizing n with
  | nil => rfl
  | cons p ps ih =>
    rw [List.foldl_cons, ih]
    obtain ⟨sequence, last, hout | hout⟩ := n.sendFilterAnnounceToPeer_cases p env <;> rw [hout]

variable [LinkCost F] [SigningKey SecretKey Signature] [VerifyingKey PublicKey Signature]

/-- **One event** keeps the sizes. -/
theorem step_sized (h : n.Sized) (e : BloomEvent PublicKey Signature F) : (n.step e).Sized := by
  cases e with
  | tree e =>
    change (n.stepTree e).Sized
    cases e with
    | removePeer addr peerCosts clock =>
      unfold stepTree
      simp only
      split_ifs
      · exact h.of_erase rfl
      · exact h
    | promotePeer addr pubkey env => exact h.of_erase rfl
    | _ => exact h
  | filterAnnounce source payload =>
    change (n.handleFilterAnnounce source payload).Sized
    rcases n.handleFilterAnnounce_cases source payload with hout | ⟨filter, seq, hsize, -, hout⟩
    · rw [hout]
      exact h
    · rw [hout]
      intro p f hf
      unfold slots at hf
      simp only [Map.lookup_insert'] at hf
      split_ifs at hf with hp
      · cases hf
        exact hsize
      · exact h p f hf
  | checkBloomState nowMs env =>
    intro p f hf
    refine h p f ?_
    unfold slots at hf ⊢
    rwa [show (n.step (.checkBloomState nowMs env)).filterSlots = n.filterSlots from
      filterSlots_checkBloomState nowMs env] at hf
  | alignSession peerAddr env =>
    change (n.alignSession peerAddr env).Sized
    unfold alignSession
    split_ifs
    · exact h
    · exact h

end Sizes

end BloomNode

end Fips
