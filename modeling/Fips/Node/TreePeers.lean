import Fips.Node.RootElection

/-!
# Who a node's tree peers are

The tree peers of a node are its parent, if it is not root, and the peers that declare it their
parent (`is_tree_peer`, `node/tree.rs`). Their filters are merged into what the node announces.

## Results

* `isTreePeer_iff`: what `is_tree_peer` says.
* `mem_peers_next`: the active peers after an event that removes or promotes none.
* `isTreePeer_next`: such an event leaves a peer a tree peer or not, unless it marks every active
  peer for a filter update or silently moves that peer (`SilentlyMoves`).
-/

namespace Fips

open TreeState (Moved)

variable {SecretKey PublicKey Signature F : Type}

/-- Peer `p` declares this node its parent. -/
def TreeState.Child (s : TreeState Signature F) (p : NodeAddr) : Prop :=
  ∃ declaration, s.peerDeclarations.lookup p = some declaration ∧
    declaration.parentId = s.myNodeAddr

namespace TreeNode

variable {n m : TreeNode SecretKey PublicKey Signature F}

theorem isTreePeer_iff (hid : n.identity.nodeAddr = n.treeState.myNodeAddr) (p : NodeAddr) :
    n.isTreePeer p = true ↔
      (¬ n.treeState.isRoot ∧ n.treeState.myDeclaration.parentId = p) ∨ n.treeState.Child p := by
  unfold isTreePeer TreeState.Child
  by_cases hparent : ¬ n.treeState.isRoot ∧ n.treeState.myDeclaration.parentId = p
  · simp [hparent]
  · have hwas : (!n.treeState.isRoot && n.treeState.myDeclaration.parentId == p) = false := by
      simpa using hparent
    rw [hwas, or_iff_right hparent]
    cases n.treeState.peerDeclarations.lookup p with
    | none => simp
    | some declaration => simp [hid]

theorem isTreePeer_congr (hid : m.identity = n.identity) (hs : m.treeState = n.treeState)
    (p : NodeAddr) : m.isTreePeer p = n.isTreePeer p := by
  unfold isTreePeer
  rw [hid, hs]

/-! ## The active peers -/

theorem mem_peers_sendTreeAnnounceToPeer (p : NodeAddr) (env : SendEnv) (q : NodeAddr) :
    q ∈ (n.sendTreeAnnounceToPeer p env).1.peers ↔ q ∈ n.peers := by
  unfold sendTreeAnnounceToPeer
  cases n.peers.lookup p with
  | none => rfl
  | some peer =>
    simp only
    split_ifs
    · cases n.buildTreeAnnounce with
      | error e => rfl
      | ok announce =>
        cases env.sendEncryptedLinkMessage p with
        | error e => rfl
        | ok _ => exact Map.mem_modify
    · exact Map.mem_modify

theorem mem_peers_sendTreeAnnounces (env : SendEnv) (ps : List NodeAddr) (q : NodeAddr) :
    q ∈ (sendTreeAnnounces env ps n).1.peers ↔ q ∈ n.peers := by
  induction ps generalizing n with
  | nil => rfl
  | cons p ps ih => exact ih.trans (mem_peers_sendTreeAnnounceToPeer p env q)

theorem SendsAll.mem_peers {env : SendEnv}
    {out : TreeNode SecretKey PublicKey Signature F × List (TreeEffect Signature)}
    (h : SendsAll m env out) (q : NodeAddr) : q ∈ out.1.peers ↔ q ∈ m.peers := by
  rw [h.node]
  exact mem_peers_sendTreeAnnounces env _ q

theorem mem_peers_recordAnnounce (source : NodeAddr) (announce : TreeAnnounce Signature)
    (q : NodeAddr) : q ∈ (n.recordAnnounce source announce).1.peers ↔ q ∈ n.peers :=
  Map.mem_modify

variable [SigningKey SecretKey Signature] [LinkCost F]

theorem mem_peers_reevaluateParent (hid : n.identity.nodeAddr = n.treeState.myNodeAddr)
    (peerCosts : Map NodeAddr F) (clock : Clock) (env : SendEnv) (q : NodeAddr) :
    q ∈ (n.reevaluateParent peerCosts clock env).1.peers ↔ q ∈ n.peers := by
  rcases reevaluateParent_cases hid peerCosts clock env with ⟨p, s', -, -, -, hout⟩ | hout
  · exact hout.mem_peers q
  · rw [hout]

variable [VerifyingKey PublicKey Signature]

/-- The event neither removes nor promotes a peer. -/
def KeepsPeers : TreeEvent PublicKey Signature F → Prop
  | .removePeer _ _ _ => False
  | .promotePeer _ _ _ => False
  | _ => True

/-- **The active peers** stay the same. -/
theorem mem_peers_next (hid : n.identity.nodeAddr = n.treeState.myNodeAddr)
    {e : TreeEvent PublicKey Signature F} (he : KeepsPeers e) (q : NodeAddr) :
    q ∈ (n.next e).peers ↔ q ∈ n.peers := by
  cases e with
  | announce source announce peerCosts clock lostClock env =>
    have hout := handleTreeAnnounce_outcome hid source announce peerCosts clock lostClock env
    have hrec := mem_peers_recordAnnounce (n := n) source announce q
    change q ∈ (n.handleTreeAnnounce source announce peerCosts clock lostClock env).1.peers ↔ _
    generalize n.handleTreeAnnounce source announce peerCosts clock lostClock env = out at hout ⊢
    cases hout with
    | unadmitted _ hout => rw [hout]
    | stale _ hout => rw [hout, hrec]
    | switched _ _ _ _ _ _ _ hout => exact (hout.mem_peers q).trans hrec
    | looping _ _ _ _ _ _ _ _ hout => exact (hout.mem_peers q).trans hrec
    | refreshed _ _ _ _ _ _ _ _ hout =>
      split_ifs at hout
      · exact (hout.mem_peers q).trans hrec
      · rw [hout]
        exact hrec
    | recorded _ _ _ _ hout => rw [hout, hrec]
  | periodicReeval peerCosts clock env =>
    change q ∈ (n.checkPeriodicParentReeval peerCosts clock env).1.peers ↔ _
    rcases n.checkPeriodicParentReeval_cases peerCosts clock env with hout | ⟨-, hout⟩
    · rw [hout]
    · rw [hout]
      exact mem_peers_reevaluateParent (n := { n with lastParentReeval := some clock.instant }) hid
        peerCosts clock env q
  | firstRtt peerCosts clock env => exact mem_peers_reevaluateParent hid peerCosts clock env q
  | sendPending nowMs env => exact mem_peers_sendTreeAnnounces env _ q
  | rehash ancestry =>
    unfold next step
    simp only
    split_ifs <;> rfl
  | removePeer => exact absurd he id
  | promotePeer => exact absurd he id

/-! ## Marks -/

omit [SigningKey SecretKey Signature] [LinkCost F] [VerifyingKey PublicKey Signature] in
/-- The outcome marks every active peer for a filter update. -/
def MarksAll (out : TreeNode SecretKey PublicKey Signature F × List (TreeEffect Signature)) :
    Prop :=
  ∃ peers, .markFilterUpdates peers ∈ out.2 ∧ ∀ p ∈ out.1.peers, p ∈ peers

omit [SigningKey SecretKey Signature] [LinkCost F] [VerifyingKey PublicKey Signature] in
theorem MarksAll.append {out : TreeNode SecretKey PublicKey Signature F ×
    List (TreeEffect Signature)} (h : MarksAll out) (before : List (TreeEffect Signature)) :
    MarksAll (out.1, before ++ out.2) := by
  obtain ⟨peers, hmark, hall⟩ := h
  exact ⟨peers, List.mem_append_right _ hmark, hall⟩

omit [LinkCost F] [VerifyingKey PublicKey Signature] in
theorem switchParent_marksAll (hid : n.identity.nodeAddr = n.treeState.myNodeAddr) (p : NodeAddr)
    (clock : Clock) (env : SendEnv) : MarksAll (n.switchParent p clock env) := by
  obtain ⟨signed, hok, -, -⟩ := setParent_signed hid p (n.treeState.myDeclaration.sequence + 1)
    clock.unixSecs clock.instant
  unfold MarksAll switchParent
  simp only [hok]
  exact ⟨_, List.mem_append_right _ (List.mem_singleton.mpr rfl), fun p hp => AList.mem_keys.mp hp⟩

omit [VerifyingKey PublicKey Signature] in
theorem reevaluateParent_marksAll (hid : n.identity.nodeAddr = n.treeState.myNodeAddr)
    (peerCosts : Map NodeAddr F) (clock : Clock) (env : SendEnv) :
    MarksAll (n.reevaluateParent peerCosts clock env) ∨
      n.reevaluateParent peerCosts clock env = (n, []) := by
  unfold reevaluateParent
  cases n.treeState.evaluateParent peerCosts clock.instant with
  | some p => exact .inl (switchParent_marksAll hid p clock env)
  | none => exact .inr rfl

theorem handleTreeAnnounce_marksAll (hid : n.identity.nodeAddr = n.treeState.myNodeAddr)
    {source p : NodeAddr} {announce : TreeAnnounce Signature} {peerCosts : Map NodeAddr F}
    {clock : Clock} (lostClock : Clock) (env : SendEnv) (hadm : n.admits source announce = true)
    (hacc : n.treeState.accepts announce.declaration = true)
    (hp : (n.recordAnnounce source announce).1.treeState.SwitchesTo peerCosts clock.instant p) :
    MarksAll (n.handleTreeAnnounce source announce peerCosts clock lostClock env) := by
  have hrec : (n.recordAnnounce source announce).2 = true :=
    congrArg Prod.snd (TreeState.updatePeer_eq hacc announce.ancestry)
  have hid' : (n.recordAnnounce source announce).1.identity.nodeAddr =
      (n.recordAnnounce source announce).1.treeState.myNodeAddr :=
    hid.trans (TreeState.updatePeer_myNodeAddr ..).symm
  have heval := TreeState.evaluateParent_eq_some_iff.mpr hp
  unfold handleTreeAnnounce
  simp only [hadm, hrec, heval, not_true_eq_false, if_false]
  exact (switchParent_marksAll hid' p clock env).append _

omit [VerifyingKey PublicKey Signature] in
theorem removeActivePeer_marksAll {addr : NodeAddr} (haddr : addr ∈ n.peers)
    (peerCosts : Map NodeAddr F) (clock : Clock) :
    MarksAll (n.removeActivePeer addr peerCosts clock) := by
  unfold removeActivePeer
  rw [if_neg (not_not.mpr haddr)]
  refine ⟨_, List.mem_singleton.mpr rfl, fun p hp => AList.mem_keys.mp ?_⟩
  dsimp only at hp
  split_ifs at hp
  · exact Map.mem_mapVals.mp hp
  · exact hp

omit [SigningKey SecretKey Signature] [LinkCost F] [VerifyingKey PublicKey Signature] in
/-- A promotion adds the peer and marks it. -/
theorem promotePeer_marks (n : TreeNode SecretKey PublicKey Signature F) (addr : NodeAddr)
    (pubkey : PublicKey) (env : SendEnv) :
    .markFilterUpdates [addr] ∈ (n.promotePeer addr pubkey env).2 ∧
      ∀ q, q ∈ (n.promotePeer addr pubkey env).1.peers ↔ q = addr ∨ q ∈ n.peers := by
  unfold promotePeer
  refine ⟨by simp, fun q => ?_⟩
  exact (mem_peers_sendTreeAnnounceToPeer addr env q).trans (AList.mem_insert _)

/-! ## Silent moves -/

/-- The event makes `p` a tree peer, or no longer one, without marking the other peers:

* an accepted announce that leads to no parent switch makes its source, not the parent, a child, or
  no longer one;
* an accepted announce of the parent closes a loop and leads to no parent switch: the parent is
  dropped and was no child, or `p` takes its place and was no child. -/
def SilentlyMoves (n : TreeNode SecretKey PublicKey Signature F) (p : NodeAddr) :
    TreeEvent PublicKey Signature F → Prop
  | .announce source announce peerCosts clock lostClock _ =>
    let t := (n.treeState.updatePeer announce.declaration announce.ancestry).1
    n.admits source announce ∧ n.treeState.accepts announce.declaration ∧
      ¬ t.Switches peerCosts clock.instant ∧
      if ¬ n.treeState.isRoot ∧ n.treeState.myDeclaration.parentId = source then
        announce.ancestry.contains n.treeState.myNodeAddr ∧ ¬ t.Child p ∧
          (p = source ∨ t.SwitchesTo peerCosts lostClock.instant p)
      else p = source ∧ ¬ (t.Child source ↔ n.treeState.Child source)
  | _ => False

omit [SigningKey SecretKey Signature] [LinkCost F] in
/-- Recording an announce says nothing about who else is a child. -/
theorem child_recordAnnounce {source p : NodeAddr} {announce : TreeAnnounce Signature}
    (hadm : n.admits source announce = true) (hp : p ≠ source) :
    (n.recordAnnounce source announce).1.treeState.Child p ↔ n.treeState.Child p := by
  change (n.treeState.updatePeer announce.declaration announce.ancestry).1.Child p ↔ _
  unfold TreeState.updatePeer
  split_ifs
  · unfold TreeState.Child
    rw [admits_source hadm, AList.lookup_insert_ne hp]
  · rfl

omit [SigningKey SecretKey Signature] [LinkCost F] [VerifyingKey PublicKey Signature] in
theorem Moved.child_iff {s s' : TreeState Signature F} {q : NodeAddr} (hm : Moved s s' q)
    (p : NodeAddr) : s'.Child p ↔ s.Child p := by
  unfold TreeState.Child
  rw [hm.peerDeclarations, hm.myNodeAddr]

omit [SigningKey SecretKey Signature] [VerifyingKey PublicKey Signature] in
/-- Where a lost parent leaves the node, its parent is recommended, or it is root. -/
theorem LostTo.parent {s s' : TreeState Signature F} {peerCosts : Map NodeAddr F} {clock : Clock}
    (h : LostTo s s' peerCosts clock) {p : NodeAddr} (hroot : ¬ s'.isRoot)
    (hp : s'.myDeclaration.parentId = p) : s.SwitchesTo peerCosts clock.instant p := by
  rcases h with ⟨q, hq, hm⟩ | ⟨-, hm⟩
  · rwa [← hp, hm.parentId]
  · refine absurd ?_ hroot
    unfold TreeState.isRoot
    rw [hm.root_of_self.2]
    exact beq_self_eq_true _

omit [SigningKey SecretKey Signature] [VerifyingKey PublicKey Signature] in
theorem LostTo.child_iff {s s' : TreeState Signature F} {peerCosts : Map NodeAddr F}
    {clock : Clock} (h : LostTo s s' peerCosts clock) (p : NodeAddr) : s'.Child p ↔ s.Child p := by
  rcases h with ⟨q, -, hm⟩ | ⟨-, hm⟩
  · exact Moved.child_iff hm p
  · exact Moved.child_iff hm p

/-- **One announce.** -/
theorem isTreePeer_announce (hinv : n.Placed) {source p : NodeAddr}
    {announce : TreeAnnounce Signature} {peerCosts : Map NodeAddr F} {clock lostClock : Clock}
    {env : SendEnv}
    (h : ¬ n.SilentlyMoves p (.announce source announce peerCosts clock lostClock env)) :
    MarksAll (n.handleTreeAnnounce source announce peerCosts clock lostClock env) ∨
      ((n.handleTreeAnnounce source announce peerCosts clock lostClock env).1.isTreePeer p = true ↔
        n.isTreePeer p = true) := by
  have hid := hinv.identity
  have hoid := (hinv.next (.announce source announce peerCosts clock lostClock env)).identity
  change (n.handleTreeAnnounce source announce peerCosts clock lostClock env).1.identity.nodeAddr =
    (n.handleTreeAnnounce source announce peerCosts clock lostClock env).1.treeState.myNodeAddr
    at hoid
  have hout := handleTreeAnnounce_outcome hid source announce peerCosts clock lostClock env
  have hself : (n.recordAnnounce source announce).1.treeState.myNodeAddr =
    n.treeState.myNodeAddr := TreeState.updatePeer_myNodeAddr ..
  have hmove : ¬ (n.admits source announce ∧ n.treeState.accepts announce.declaration ∧
      ¬ (n.recordAnnounce source announce).1.treeState.Switches peerCosts clock.instant ∧
      if ¬ n.treeState.isRoot ∧ n.treeState.myDeclaration.parentId = source then
        announce.ancestry.contains n.treeState.myNodeAddr ∧
          ¬ (n.recordAnnounce source announce).1.treeState.Child p ∧ (p = source ∨
            (n.recordAnnounce source announce).1.treeState.SwitchesTo peerCosts lostClock.instant p)
      else p = source ∧ ¬ ((n.recordAnnounce source announce).1.treeState.Child source ↔
        n.treeState.Child source)) := h
  cases hout with
  | unadmitted _ hout => exact .inr (by rw [hout])
  | stale hstale hout =>
    have hsame : (n.recordAnnounce source announce).1.treeState = n.treeState :=
      congrArg Prod.fst (TreeState.updatePeer_of_stale hstale announce.ancestry)
    have hmid : (n.recordAnnounce source announce).1.identity = n.identity := rfl
    exact .inr (by rw [hout, isTreePeer_congr hmid hsame])
  | switched hadm hacc q s' hq hm hsigned hout =>
    exact .inl (handleTreeAnnounce_marksAll hid lostClock env hadm hacc hq)
  | looping hadm hacc hno hchild hloop s' hlost hsigned hout =>
    refine .inr ?_
    rw [isTreePeer_iff hoid, isTreePeer_iff hid, hout.treeState]
    change (_ ∧ s'.myDeclaration.parentId = p) ∨ s'.Child p ↔ _
    rw [LostTo.child_iff hlost]
    by_cases hp : (n.recordAnnounce source announce).1.treeState.Child p
    · -- a child stays a tree peer; before it was a child, or the parent
      refine iff_of_true (.inr hp) ?_
      by_cases hsource : p = source
      · exact .inl ⟨hchild.1, hchild.2.trans hsource.symm⟩
      · exact .inr ((child_recordAnnounce hadm hsource).mp hp)
    · have hnot : ¬ (p = source ∨ (n.recordAnnounce source announce).1.treeState.SwitchesTo
          peerCosts lostClock.instant p) := by
        intro hps
        refine hmove ⟨hadm, hacc, hno, ?_⟩
        rw [if_pos hchild]
        exact ⟨hloop, hp, hps⟩
      obtain ⟨hsource, hswitch⟩ := not_or.mp hnot
      refine iff_of_false ?_ ?_
      · rintro (⟨hroot, hparent⟩ | hc)
        · exact hswitch (hlost.parent hroot hparent)
        · exact hp hc
      · rintro (⟨-, hparent⟩ | hc)
        · exact hsource (hparent.symm.trans hchild.2)
        · exact hp ((child_recordAnnounce hadm hsource).mpr hc)
  | refreshed hadm hacc hno hchild hloop s' hm hsigned hout =>
    refine .inr ?_
    have hs' : (n.handleTreeAnnounce source announce peerCosts clock lostClock env).1.treeState =
        s' := by
      split_ifs at hout
      · exact hout.treeState
      · rw [hout]
    have hrec := lookup_recordAnnounce hadm hacc
    have hne : source ≠ (n.recordAnnounce source announce).1.treeState.myNodeAddr := by
      rw [hself, ← hchild.2]
      exact hinv.parent_ne hchild.1
    -- the parent's path does not contain the node, so its root is another node
    have hroot : ¬ s'.isRoot := by
      unfold TreeState.isRoot
      rw [beq_iff_eq, (hm.position hne hrec).1, hm.myNodeAddr, hself]
      intro heq
      exact hloop (TreeCoordinate.contains_iff.mpr (heq ▸ announce.ancestry.rootId_mem))
    rw [isTreePeer_iff hoid, isTreePeer_iff hid, hs', Moved.child_iff hm, hm.parentId]
    by_cases hsource : source = p
    · exact iff_of_true (.inl ⟨hroot, hsource⟩) (.inl ⟨hchild.1, hchild.2.trans hsource⟩)
    · rw [child_recordAnnounce hadm (Ne.symm hsource), hchild.2]
      simp [hsource]
  | recorded hadm hacc hno hchild hout =>
    refine .inr ?_
    rw [isTreePeer_iff hoid, isTreePeer_iff hid, hout]
    have hpos : (n.recordAnnounce source announce).1.treeState.isRoot = n.treeState.isRoot ∧
        (n.recordAnnounce source announce).1.treeState.myDeclaration =
          n.treeState.myDeclaration := by
      change (n.treeState.updatePeer _ _).1.isRoot = _ ∧
        (n.treeState.updatePeer _ _).1.myDeclaration = _
      rw [TreeState.updatePeer_eq hacc]
      exact ⟨rfl, rfl⟩
    rw [hpos.1, hpos.2]
    refine or_congr Iff.rfl ?_
    by_cases hsource : p = source
    · subst hsource
      by_contra hc
      refine hmove ⟨hadm, hacc, hno, ?_⟩
      rw [if_neg hchild]
      exact ⟨rfl, hc⟩
    · exact child_recordAnnounce hadm hsource

/-- **One event** that removes and promotes no peer: `p` stays a tree peer or not, unless the event
marks all active peers. -/
theorem isTreePeer_next (hinv : n.Placed) {e : TreeEvent PublicKey Signature F} (he : KeepsPeers e)
    {p : NodeAddr} (h : ¬ n.SilentlyMoves p e) :
    MarksAll (n.step e) ∨ ((n.next e).isTreePeer p = true ↔ n.isTreePeer p = true) := by
  cases e with
  | announce source announce peerCosts clock lostClock env => exact isTreePeer_announce hinv h
  | periodicReeval peerCosts clock env =>
    change MarksAll (n.checkPeriodicParentReeval peerCosts clock env) ∨
      ((n.checkPeriodicParentReeval peerCosts clock env).1.isTreePeer p = true ↔ _)
    rcases n.checkPeriodicParentReeval_cases peerCosts clock env with hout | ⟨-, hout⟩
    · exact .inr (by rw [hout])
    · rw [hout]
      rcases reevaluateParent_marksAll (n := { n with lastParentReeval := some clock.instant })
        hinv.identity peerCosts clock env with hall | hsame
      · exact .inl hall
      · rw [hsame]
        exact .inr Iff.rfl
  | firstRtt peerCosts clock env =>
    change MarksAll (n.reevaluateParent peerCosts clock env) ∨
      ((n.reevaluateParent peerCosts clock env).1.isTreePeer p = true ↔ _)
    rcases reevaluateParent_marksAll hinv.identity peerCosts clock env with hall | hsame
    · exact .inl hall
    · rw [hsame]
      exact .inr Iff.rfl
  | sendPending nowMs env =>
    refine .inr ?_
    change (sendTreeAnnounces env _ n).1.isTreePeer p = true ↔ _
    rw [isTreePeer_congr (sendTreeAnnounces_identity ..) (sendTreeAnnounces_treeState ..)]
  | rehash ancestry =>
    refine .inr ?_
    unfold next step
    simp only
    split_ifs <;> rfl
  | removePeer => exact absurd he id
  | promotePeer => exact absurd he id

end TreeNode

end Fips
