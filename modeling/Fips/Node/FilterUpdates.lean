import Fips.Node.FilterMembers
import Fips.Node.TreePeers

/-!
# No lost filter update

A peer whose outgoing filter is not the one it was last sent should be owed an update. The outgoing
filter follows the filters of the other tree peers, and a received filter, a parent switch, a removal
and a refresh mark whoever that concerns. But a peer that becomes or stops being a tree peer through
its own announce marks at most itself, a parent dropped for a loop marks nobody, and a promotion that
replaces a tree peer drops its filter and marks that peer only.

## Results

* `owed_step`: what one event keeps.
* `owed_of_marksMoves`: in every run whose events all meet `MarksMoves`, every active peer whose
  outgoing filter changed is owed an update.
* `joining_child_marks_nobody`: a run that ends with a peer that is not.
-/

namespace Fips

namespace BloomNode

open TreeNode (MarksAll KeepsPeers)

variable {SecretKey PublicKey Signature F : Type} [Sha256]
  {n m : BloomNode SecretKey PublicKey Signature F}

/-- Every active peer whose outgoing filter is not the one last sent to it has an update pending. -/
def Owed (n : BloomNode SecretKey PublicKey Signature F) : Prop :=
  ∀ p ∈ n.tree.peers, n.bloomState.changed p n.peerInboundFilters = true →
    p ∈ n.bloomState.pendingUpdates

theorem not_owed {p : NodeAddr} (hp : p ∈ n.tree.peers)
    (hchanged : n.bloomState.changed p n.peerInboundFilters = true)
    (hpending : p ∉ n.bloomState.pendingUpdates) : ¬ n.Owed :=
  fun h => hpending (h p hp hchanged)

/-- The bloom states make the same outgoing filters and were last sent the same. -/
structure SameFilters (s t : BloomState) : Prop where
  ownNodeAddr : t.ownNodeAddr = s.ownNodeAddr
  leafDependents : t.leafDependents = s.leafDependents
  lastSentFilters : t.lastSentFilters = s.lastSentFilters

omit [Sha256] in
theorem SameFilters.refl (s : BloomState) : SameFilters s s := ⟨rfl, rfl, rfl⟩

theorem SameFilters.changed_eq {s t : BloomState} (h : SameFilters s t) {p : NodeAddr}
    {filters filters' : Map NodeAddr BloomFilter}
    (hfilters : ∀ q, q ≠ p → filters'.lookup q = filters.lookup q) :
    t.changed p filters' = s.changed p filters := by
  unfold BloomState.changed
  rw [h.lastSentFilters, BloomState.computeOutgoingFilter_congr h.ownNodeAddr h.leafDependents
    hfilters]

/-- The same merged filters, with at least the same updates pending. -/
theorem Owed.of_same (h : n.Owed) (hsame : SameFilters n.bloomState m.bloomState)
    (hpending : n.bloomState.pendingUpdates ⊆ m.bloomState.pendingUpdates)
    (hfilters : ∀ q, m.peerInboundFilters.lookup q = n.peerInboundFilters.lookup q)
    (hpeers : ∀ p ∈ m.tree.peers, p ∈ n.tree.peers ∨ p ∈ m.bloomState.pendingUpdates) :
    m.Owed := by
  intro p hp hchanged
  rw [hsame.changed_eq fun q _ => hfilters q] at hchanged
  rcases hpeers p hp with hp | hp
  · exact hpending (h p hp hchanged)
  · exact hp

/-! ## Sends -/

/-- **One send.** -/
theorem owed_sendFilterAnnounceToPeer (h : n.Owed) (peerAddr : NodeAddr) (env : SendEnv) :
    (n.sendFilterAnnounceToPeer peerAddr env).Owed := by
  obtain ⟨sequence, last, hout | hout⟩ := n.sendFilterAnnounceToPeer_cases peerAddr env
  · rw [hout]
    exact h
  · rw [hout]
    intro p hp hchanged
    by_cases hpeer : p = peerAddr
    · subst hpeer
      -- what was sent is the outgoing filter
      unfold BloomState.changed at hchanged
      simp only [AList.lookup_insert] at hchanged
      exact absurd hchanged (by simp [BloomState.computeOutgoingFilter, BloomState.baseFilter,
        peerInboundFilters, slots])
    · refine Finset.mem_erase.mpr ⟨hpeer, h p hp ?_⟩
      rw [← hchanged]
      unfold BloomState.changed
      simp only [AList.lookup_insert_ne hpeer]
      rfl

theorem owed_checkBloomState (h : n.Owed) (nowMs : Nat) (env : SendEnv) :
    (n.checkBloomState nowMs env).Owed := by
  unfold checkBloomState
  induction n.readyFilterPeers nowMs generalizing n with
  | nil => exact h
  | cons p ps ih => exact ih (owed_sendFilterAnnounceToPeer h p env)

/-! ## Received filters -/

/-- **One received announce** checks every other peer's outgoing filter; the sender's own does not
depend on it. -/
theorem owed_handleFilterAnnounce (h : n.Owed) (source : NodeAddr) (payload : Bytes) :
    (n.handleFilterAnnounce source payload).Owed := by
  rcases n.handleFilterAnnounce_cases source payload with hout | ⟨filter, seq, -, -, hout⟩
  · rw [hout]
    exact h
  rw [hout]
  intro p hp hchanged
  obtain ⟨pending, hs, hmem⟩ := n.bloomState.markChangedPeers_spec source n.tree.peers.keys
    (peerInboundFilters { n with filterSlots := n.filterSlots.insert source ⟨some filter, seq⟩ })
  simp only [hs] at hchanged ⊢
  refine (hmem p).mpr ?_
  by_cases hsource : p = source
  · subst hsource
    refine .inl (h p hp ?_)
    rw [← hchanged]
    refine (SameFilters.changed_eq ⟨rfl, rfl, rfl⟩ fun q hq => ?_).symm
    rw [lookup_peerInboundFilters, lookup_peerInboundFilters]
    unfold slots
    rw [AList.lookup_insert_ne hq]
  · exact .inr ⟨AList.mem_keys.mp hp, hsource, hchanged⟩

/-! ## Tree events -/

variable [LinkCost F] [SigningKey SecretKey Signature] [VerifyingKey PublicKey Signature]

/-- No event makes a peer with a stored filter a tree peer, or no longer one, without marking the
others, and no promotion replaces a tree peer with a stored filter. -/
def MarksMoves (n : BloomNode SecretKey PublicKey Signature F) :
    BloomEvent PublicKey Signature F → Prop
  | .tree (.promotePeer addr _ _) => n.peerInboundFilters.lookup addr = none
  | .tree e => ∀ p, n.tree.SilentlyMoves p e → (n.slots p).inboundFilter = none
  | _ => True

omit [Sha256] [LinkCost F] [SigningKey SecretKey Signature] [VerifyingKey PublicKey Signature] in
theorem sameFilters_applyEffects (s : BloomState) (effects : List (TreeEffect Signature)) :
    SameFilters s (applyEffects s effects) ∧
      s.pendingUpdates ⊆ (applyEffects s effects).pendingUpdates := by
  obtain ⟨pending, hs, hmem⟩ := applyEffects_spec s effects
  rw [hs]
  exact ⟨⟨rfl, rfl, rfl⟩, fun p hp => (hmem p).mpr (.inl hp)⟩

omit [Sha256] [LinkCost F] [SigningKey SecretKey Signature] [VerifyingKey PublicKey Signature] in
theorem mem_pending_applyEffects {s : BloomState} {effects : List (TreeEffect Signature)}
    {p : NodeAddr} {peers : List NodeAddr} (hmark : .markFilterUpdates peers ∈ effects)
    (hp : p ∈ peers) : p ∈ (applyEffects s effects).pendingUpdates := by
  obtain ⟨pending, hs, hmem⟩ := applyEffects_spec s effects
  rw [hs]
  exact (hmem p).mpr (.inr ⟨peers, hmark, hp⟩)

/-- An event of the tree that removes and promotes no peer. -/
theorem owed_tree (hplaced : n.tree.Placed) (h : n.Owed) {e : TreeEvent PublicKey Signature F}
    (he : KeepsPeers e)
    (hc : ∀ p, n.tree.SilentlyMoves p e → (n.slots p).inboundFilter = none) :
    Owed { n with
      tree := (n.tree.step e).1
      bloomState := applyEffects n.bloomState (n.tree.step e).2 } := by
  by_cases hall : MarksAll (n.tree.step e)
  · obtain ⟨peers, hmark, hmem⟩ := hall
    intro p hp _
    exact mem_pending_applyEffects hmark (hmem p hp)
  obtain ⟨hsame, hpending⟩ := sameFilters_applyEffects n.bloomState (n.tree.step e).2
  have hpeers := TreeNode.mem_peers_next hplaced.identity he
  refine h.of_same hsame hpending (fun q => ?_) fun p hp => .inl ((hpeers p).mp hp)
  rw [lookup_peerInboundFilters, lookup_peerInboundFilters]
  by_cases hq : n.tree.SilentlyMoves q e
  · have hnone := hc q hq
    unfold slots at hnone ⊢
    rw [hnone, ite_self, ite_self]
  · have htree := (TreeNode.isTreePeer_next hplaced he hq).resolve_left hall
    change (if q ∈ (n.tree.next e).peers ∧ (n.tree.next e).isTreePeer q = true then _ else _) = _
    simp only [hpeers, htree]
    rfl

theorem owed_removePeer (h : n.Owed) (addr : NodeAddr) (peerCosts : Map NodeAddr F)
    (clock : Clock) : (n.stepTree (.removePeer addr peerCosts clock)).Owed := by
  unfold stepTree
  simp only
  by_cases haddr : addr ∈ n.tree.peers
  · rw [if_neg (not_not.mpr haddr)]
    obtain ⟨peers, hmark, hmem⟩ := TreeNode.removeActivePeer_marksAll haddr peerCosts clock
    intro p hp _
    exact mem_pending_applyEffects hmark (hmem p hp)
  · rw [if_pos haddr]
    exact h

/-- A promoted peer starts with no filter and is marked. -/
theorem owed_promotePeer (h : n.Owed) {addr : NodeAddr}
    (hnone : n.peerInboundFilters.lookup addr = none) (pubkey : PublicKey) (env : SendEnv) :
    (n.stepTree (.promotePeer addr pubkey env)).Owed := by
  obtain ⟨hmark, hpeers⟩ := n.tree.promotePeer_marks addr pubkey env
  obtain ⟨hsame, hpending⟩ := sameFilters_applyEffects n.bloomState
    (n.tree.promotePeer addr pubkey env).2
  refine h.of_same hsame hpending (fun q => ?_) fun p hp => ?_
  · by_cases hq : q = addr
    · subst hq
      rw [hnone, lookup_peerInboundFilters]
      unfold slots
      change (if _ then ((n.filterSlots.erase q).lookup q |>.getD {}).inboundFilter else none) = none
      rw [AList.lookup_erase]
      exact ite_self _
    · rw [lookup_peerInboundFilters, lookup_peerInboundFilters]
      have htree : (n.tree.promotePeer addr pubkey env).1.isTreePeer q = n.tree.isTreePeer q :=
        TreeNode.isTreePeer_congr (TreeNode.promotePeer_identity ..)
          (TreeNode.promotePeer_treeState ..) q
      unfold slots
      change (if q ∈ (n.tree.promotePeer addr pubkey env).1.peers ∧
        (n.tree.promotePeer addr pubkey env).1.isTreePeer q = true then
          ((n.filterSlots.erase addr).lookup q |>.getD {}).inboundFilter else none) = _
      rw [AList.lookup_erase_ne hq, htree]
      simp only [hpeers, hq, false_or]
  · rcases (hpeers p).mp hp with rfl | hp
    · exact .inr (mem_pending_applyEffects hmark (List.mem_singleton.mpr rfl))
    · exact .inl hp

omit [LinkCost F] [SigningKey SecretKey Signature] [VerifyingKey PublicKey Signature] in
theorem owed_alignSession (h : n.Owed) (peerAddr : NodeAddr) (env : SendEnv) :
    (n.alignSession peerAddr env).Owed := by
  unfold alignSession
  by_cases hpeer : peerAddr ∈ n.tree.peers
  · rw [if_neg (not_not.mpr hpeer)]
    have hpeers := TreeNode.mem_peers_sendTreeAnnounceToPeer (n := n.tree) peerAddr env
    refine h.of_same ⟨rfl, rfl, rfl⟩ (Finset.subset_insert _ _) (fun q => ?_)
      fun p hp => .inl ((hpeers p).mp hp)
    rw [lookup_peerInboundFilters, lookup_peerInboundFilters]
    have htree : (n.tree.sendTreeAnnounceToPeer peerAddr env).1.isTreePeer q = n.tree.isTreePeer q :=
      TreeNode.isTreePeer_congr (TreeNode.sendTreeAnnounceToPeer_identity ..)
        (TreeNode.sendTreeAnnounceToPeer_treeState ..) q
    simp only [hpeers, htree]
    rfl
  · rw [if_pos hpeer]
    exact h

/-! ## Runs -/

/-- What every reachable state satisfies. -/
structure Inv (n : BloomNode SecretKey PublicKey Signature F) : Prop where
  placed : n.tree.Placed
  owed : n.Owed

omit [Sha256] in
/-- Every event moves the tree part as the tree's own step does, or leaves its state alone. -/
theorem placed_stepTree (h : n.tree.Placed) (e : TreeEvent PublicKey Signature F) :
    (n.stepTree e).tree.Placed := by
  have hnext := h.next e
  cases e with
  | removePeer addr peerCosts clock =>
    unfold stepTree
    simp only
    split_ifs
    · exact hnext
    · exact h
  | _ => exact hnext

omit [LinkCost F] [SigningKey SecretKey Signature] [VerifyingKey PublicKey Signature] in
theorem tree_checkBloomState (nowMs : Nat) (env : SendEnv) :
    (n.checkBloomState nowMs env).tree = n.tree := by
  unfold checkBloomState
  induction n.readyFilterPeers nowMs generalizing n with
  | nil => rfl
  | cons p ps ih =>
    rw [List.foldl_cons, ih]
    obtain ⟨sequence, last, hout | hout⟩ := n.sendFilterAnnounceToPeer_cases p env <;> rw [hout]

omit [LinkCost F] [SigningKey SecretKey Signature] [VerifyingKey PublicKey Signature] in
theorem tree_handleFilterAnnounce (source : NodeAddr) (payload : Bytes) :
    (n.handleFilterAnnounce source payload).tree = n.tree := by
  rcases n.handleFilterAnnounce_cases source payload with hout | ⟨filter, seq, -, -, hout⟩ <;>
    rw [hout]

/-- **One event.** -/
theorem owed_step (h : n.Inv) {e : BloomEvent PublicKey Signature F} (hc : n.MarksMoves e) :
    (n.step e).Inv := by
  cases e with
  | tree e =>
    refine ⟨placed_stepTree h.placed e, ?_⟩
    change (n.stepTree e).Owed
    have hkept : KeepsPeers e →
        (∀ p, n.tree.SilentlyMoves p e → (n.slots p).inboundFilter = none) → _ :=
      owed_tree h.placed h.owed
    cases e with
    | removePeer addr peerCosts clock => exact owed_removePeer h.owed addr peerCosts clock
    | promotePeer addr pubkey env => exact owed_promotePeer h.owed hc pubkey env
    | _ => exact hkept trivial hc
  | filterAnnounce source payload =>
    refine ⟨?_, owed_handleFilterAnnounce h.owed source payload⟩
    exact (tree_handleFilterAnnounce source payload).symm ▸ h.placed
  | checkBloomState nowMs env =>
    refine ⟨?_, owed_checkBloomState h.owed nowMs env⟩
    exact (tree_checkBloomState nowMs env).symm ▸ h.placed
  | alignSession peerAddr env =>
    refine ⟨?_, owed_alignSession h.owed peerAddr env⟩
    change (n.alignSession peerAddr env).tree.Placed
    unfold alignSession
    split_ifs
    · have hid := n.tree.sendTreeAnnounceToPeer_identity env peerAddr
      have hs := n.tree.sendTreeAnnounceToPeer_treeState env peerAddr
      refine ⟨?_, ?_⟩
      · rw [hid, hs]
        exact h.placed.identity
      · rw [hs]
        exact h.placed.anchored
    · exact h.placed

/-- **No lost filter update.** In every run from a new node whose events all meet `MarksMoves`, after
each event every active peer whose outgoing filter is not the one last sent to it is owed an
update. -/
theorem owed_of_marksMoves (identity : Identity SecretKey) (timestamp : Nat) (hysteresis : F)
    (holdDownSecs flapThreshold flapWindowSecs flapDampeningSecs reevalIntervalSecs
      announceMinIntervalMs updateDebounceMs : Nat) (leafDependents : List NodeAddr)
    (events : List (BloomEvent PublicKey Signature F))
    (h : EventRun.Along step MarksMoves
      (new (.new identity timestamp hysteresis holdDownSecs flapThreshold flapWindowSecs
        flapDampeningSecs reevalIntervalSecs announceMinIntervalMs) updateDebounceMs leafDependents :
        BloomNode SecretKey PublicKey Signature F) events) :
    EventRun.Always step Owed
      (new (.new identity timestamp hysteresis holdDownSecs flapThreshold flapWindowSecs
        flapDampeningSecs reevalIntervalSecs announceMinIntervalMs) updateDebounceMs leafDependents)
      events := by
  obtain ⟨hinv, -⟩ := TreeNode.new_signed identity timestamp hysteresis holdDownSecs flapThreshold
    flapWindowSecs flapDampeningSecs reevalIntervalSecs announceMinIntervalMs
    (.new identity timestamp hysteresis holdDownSecs flapThreshold flapWindowSecs
      flapDampeningSecs reevalIntervalSecs announceMinIntervalMs :
      TreeNode SecretKey PublicKey Signature F) rfl
  refine EventRun.Always.mono (fun _ hn => Inv.owed hn)
    (EventRun.Always.of_along (fun _ _ hn hc => owed_step hn hc) ⟨hinv.toPlaced, ?_⟩ h)
  exact fun p hp => absurd hp (AList.notMem_empty p)

end BloomNode

/-! ## Two runs of node 5 -/

namespace FilterUpdates

open RootElection (start env announceOf)
open scoped FilterMembers

/-- Peers 7 and 8 join, 7 announces a filter, and the tick sends both what they are owed. -/
def joins : List (BloomEvent Unit Unit (Option Nat)) :=
  [.tree (.promotePeer 7 () env), .tree (.promotePeer 8 () env),
    .filterAnnounce 7 (FilterMembers.payload 5 2), .checkBloomState 1000 env]

theorem filterUpdate_owed_after_joins : EventRun.Always BloomNode.step BloomNode.Owed (.new start 500 []) joins :=
  BloomNode.owed_of_marksMoves _ _ _ _ _ _ _ _ _ _ _ joins ⟨rfl, rfl, trivial, trivial, trivial⟩

/-- Node 5 after peer 7 has declared it its parent. -/
def last : BloomNode Unit Unit Unit (Option Nat) :=
  EventRun.exec BloomNode.step (.new start 500 []) (joins ++ [.tree (announceOf 5 1)])

/-- Its filter is merged into what 8 should be sent, and 8 is not owed an update. -/
theorem last_not_owed : ¬ BloomNode.Owed last := by
  refine BloomNode.not_owed (p := 8) ?_ ?_ ?_
  · decide +kernel
  · decide +kernel
  · decide +kernel

/-- **A lost filter update.** -/
theorem joining_child_marks_nobody :
    ¬ ∀ events : List (BloomEvent Unit Unit (Option Nat)),
      EventRun.Always BloomNode.step BloomNode.Owed (.new start 500 []) events := by
  intro h
  have hlast := (h (joins ++ [.tree (announceOf 5 1)])).exec
  rw [← last] at hlast
  revert hlast
  exact last_not_owed

end FilterUpdates

end Fips
