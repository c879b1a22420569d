import Fips.Lib.Run
import Fips.Node.Tree

/-!
# Root election safety

`TreeState.root` is documented as the smallest reachable address, and a node that is the smallest
stays root. So a node's root should never be larger than its own address. In a run of node events
this fails in two ways, both on a node that has a parent:

* the parent's next announce carries a root larger than this node, `evaluate_parent` does not move
  the node to another peer, and the same-parent refresh adopts that root;
* the parent is lost (removed, or dropped for a loop), every root still visible is larger than this
  node, and `evaluate_parent` picks one of them: it answers "stay root" only to a node that is root
  already.

`KeepsRootBound` says of one event that neither happens, in terms of the state before it and of the
event's own data.

## Results

* `Placed`: a node under another root sits where its parent's recorded ancestry puts it; every event
  keeps it (`Placed.next`). `ElectionInv` adds the bound.
* `next_settlesIff`: one event from within the bound stays there exactly when it meets
  `KeepsRootBound`.
* `root_le_iff_keepsRootBound`: a run from a new node keeps the bound throughout exactly when all
  its events meet the condition.
* `root_exceeds_own_address`: a run that breaks the bound.
-/

namespace Fips

open TreeState (Moved SwitchesTo Switches Anchored Eligible)

/-! ## Where a recommended switch leads -/

namespace TreeState

variable {Signature F : Type} [LinkCost F] {s s' : TreeState Signature F}
  {peerCosts : Map NodeAddr F} {now : Nat} {p r : NodeAddr}

/-- A recommended switch does not lead under a root larger than this node. -/
def SafeSwitch (s : TreeState Signature F) (peerCosts : Map NodeAddr F) (now : Nat) : Prop :=
  ∀ p smallest, s.SwitchesTo peerCosts now p → s.smallestRoot = some smallest →
    p ≠ s.myNodeAddr → smallest ≤ s.myNodeAddr

/-- After a recommended switch the root is the smallest visible one. -/
theorem Moved.root_of_switch (hm : Moved s s' p) (hp : s.SwitchesTo peerCosts now p)
    (hr : s.smallestRoot = some r) :
    s'.Anchored ∧ s'.root = if p = s.myNodeAddr then s.myNodeAddr else r := by
  obtain ⟨r', c, hr', hel, -, -⟩ := hp.eligible
  obtain rfl := Option.some.inj (hr'.symm.trans hr)
  have hanch : s'.Anchored := hm.anchored (.inr ⟨c, hel.recorded⟩)
  refine ⟨hanch, ?_⟩
  cases hanch with
  | self parent root _ =>
    rw [hm.parentId, hm.myNodeAddr] at parent
    rw [root, if_pos parent, hm.myNodeAddr]
  | child c' parent recorded root _ =>
    rw [hm.parentId, hm.myNodeAddr] at parent
    rw [hm.parentId, hm.peerAncestry, hel.recorded] at recorded
    rw [if_neg parent, root, ← Option.some.inj recorded, hel.reaches]

theorem Moved.root_le_iff_of_switch (hm : Moved s s' p) (hp : s.SwitchesTo peerCosts now p) :
    s'.root ≤ s'.myNodeAddr ↔ s.SafeSwitch peerCosts now := by
  obtain ⟨r, c, hr, -, -, -⟩ := hp.eligible
  have hroot := (hm.root_of_switch hp hr).2
  rw [hroot, hm.myNodeAddr]
  constructor
  · intro h q smallest hq hsm hne
    -- two recommended switches from one state are the same
    have hqp : q = p := by
      have hq' := evaluateParent_eq_some_iff.mpr hq
      rw [evaluateParent_eq_some_iff.mpr hp] at hq'
      exact (Option.some.inj hq').symm
    subst hqp
    rw [if_neg hne] at h
    rw [← Option.some.inj (hr.symm.trans hsm)]
    exact h
  · intro h
    split_ifs with hp'
    · exact le_rfl
    · exact h p r hp hr hp'

omit [LinkCost F] in
/-- Becoming its own root. -/
theorem Moved.root_of_self (hm : Moved s s' s.myNodeAddr) :
    s'.Anchored ∧ s'.root = s'.myNodeAddr := by
  have hanch : s'.Anchored := hm.anchored (.inl rfl)
  refine ⟨hanch, ?_⟩
  cases hanch with
  | self _ root _ => exact root
  | child _ parent _ _ _ =>
    rw [hm.parentId, hm.myNodeAddr] at parent
    exact absurd rfl parent

/-- A root, or a node whose parent is recorded under a root within the bound, only switches to a
smaller root. -/
theorem safeSwitch_of_anchored (hbound : s.root ≤ s.myNodeAddr)
    (hanch : s.root ≠ s.myNodeAddr → s.Anchored) : s.SafeSwitch peerCosts now := by
  intro p smallest hp hsm _
  by_cases hroot : s.root = s.myNodeAddr
  · obtain ⟨r', c, hr', -, hstay, -⟩ := hp.eligible
    obtain rfl := Option.some.inj (hr'.symm.trans hsm)
    by_contra hlt
    exact hstay ⟨(not_le.mp hlt).le, by simp [isRoot, hroot]⟩
  · cases hanch hroot with
    | self _ root _ => exact absurd root hroot
    | child c _ recorded root _ =>
      calc smallest ≤ c.rootId := smallestRoot_le hsm recorded
        _ = s.root := root.symm
        _ ≤ s.myNodeAddr := hbound

end TreeState

namespace TreeNode

variable {SecretKey PublicKey Signature F : Type} [SigningKey SecretKey Signature]
  [VerifyingKey PublicKey Signature] [LinkCost F]

/-- The state after one event. -/
def next (n : TreeNode SecretKey PublicKey Signature F) (e : TreeEvent PublicKey Signature F) :
    TreeNode SecretKey PublicKey Signature F := (n.step e).1

/-! ## The invariant and the condition -/

/-- A node under another root sits where its parent's recorded ancestry puts it. Every event keeps
this. -/
structure Placed (n : TreeNode SecretKey PublicKey Signature F) : Prop where
  identity : n.identity.nodeAddr = n.treeState.myNodeAddr
  anchored : n.treeState.root ≠ n.treeState.myNodeAddr → n.treeState.Anchored

/-- What the events below keep: the node is placed, and its root is not above its own address. -/
structure ElectionInv (n : TreeNode SecretKey PublicKey Signature F) : Prop extends Placed n where
  bound : n.treeState.root ≤ n.treeState.myNodeAddr

/-- The event does not bring the node under a root larger than itself:

* an announce that is accepted from the parent of a node that is not root leads to no switch under
  a larger root, and if it leads to no switch at all, then its own root is at most this node's
  address, or it closes a loop and losing the parent leads to no switch under a larger root;
* the removal of that parent leads to no switch under a larger root. -/
def KeepsRootBound (n : TreeNode SecretKey PublicKey Signature F) :
    TreeEvent PublicKey Signature F → Prop
  | .announce source announce peerCosts clock lostClock _ =>
    n.admits source announce → n.treeState.accepts announce.declaration →
    ¬ n.treeState.isRoot → n.treeState.myDeclaration.parentId = source →
      let t := (n.treeState.updatePeer announce.declaration announce.ancestry).1
      t.SafeSwitch peerCosts clock.instant ∧
        (¬ t.Switches peerCosts clock.instant →
          if announce.ancestry.contains n.treeState.myNodeAddr then
            t.SafeSwitch peerCosts lostClock.instant
          else announce.ancestry.rootId ≤ n.treeState.myNodeAddr)
  | .removePeer addr peerCosts clock =>
    addr ∈ n.peers → ¬ n.treeState.isRoot → n.treeState.myDeclaration.parentId = addr →
      (n.treeState.removePeer addr).SafeSwitch peerCosts clock.instant
  | _ => True

/-! ## One event -/

variable {n : TreeNode SecretKey PublicKey Signature F} {s s' t : TreeState Signature F}
  {peerCosts : Map NodeAddr F} {clock lostClock : Clock} {source : NodeAddr}
  {announce : TreeAnnounce Signature}

omit [SigningKey SecretKey Signature] [VerifyingKey PublicKey Signature] in
theorem LostTo.position (h : LostTo s s' peerCosts clock) :
    s'.myNodeAddr = s.myNodeAddr ∧ s'.Anchored ∧
      (s'.root ≤ s'.myNodeAddr ↔ s.SafeSwitch peerCosts clock.instant) := by
  rcases h with ⟨p, hp, hm⟩ | ⟨hno, hm⟩
  · obtain ⟨r, c, hr, -, -, -⟩ := hp.eligible
    exact ⟨hm.myNodeAddr, (hm.root_of_switch hp hr).1, hm.root_le_iff_of_switch hp⟩
  · obtain ⟨hanch, hroot⟩ := hm.root_of_self
    refine ⟨hm.myNodeAddr, hanch, ?_⟩
    rw [hroot]
    exact ⟨fun _ p _ hp _ _ => absurd ⟨p, hp⟩ hno, fun _ => le_rfl⟩

omit [SigningKey SecretKey Signature] [VerifyingKey PublicKey Signature] [LinkCost F] in
/-- A node that is not root has another parent than itself. -/
theorem Placed.parent_ne (hinv : n.Placed) (hroot : ¬ n.treeState.isRoot) :
    n.treeState.myDeclaration.parentId ≠ n.treeState.myNodeAddr := by
  have hne : n.treeState.root ≠ n.treeState.myNodeAddr := by
    simpa [TreeState.isRoot] using hroot
  cases hinv.anchored hne with
  | self _ root _ => exact absurd root hne
  | child _ parent _ _ _ => exact parent

variable {out : TreeNode SecretKey PublicKey Signature F × List (TreeEffect Signature)}
  {env : SendEnv}

/-- The outcome `out` of a step keeps the place, and the bound exactly under the condition `C`. -/
structure SettlesIff (n out : TreeNode SecretKey PublicKey Signature F) (C : Prop) : Prop where
  identity : out.identity = n.identity
  myNodeAddr : out.treeState.myNodeAddr = n.treeState.myNodeAddr
  anchored : out.treeState.root ≠ out.treeState.myNodeAddr → out.treeState.Anchored
  bound : n.treeState.root ≤ n.treeState.myNodeAddr →
    (out.treeState.root ≤ out.treeState.myNodeAddr ↔ C)

omit [SigningKey SecretKey Signature] [VerifyingKey PublicKey Signature] [LinkCost F] in
theorem SettlesIff.of_treeState {out : TreeNode SecretKey PublicKey Signature F} (hinv : n.Placed)
    (hid : out.identity = n.identity) (hs : out.treeState = n.treeState) {C : Prop} (hC : C) :
    SettlesIff n out C := by
  refine ⟨hid, congrArg _ hs, ?_, fun hle => ?_⟩
  · rw [hs]
    exact hinv.anchored
  · rw [hs]
    exact ⟨fun _ => hC, fun _ => hle⟩

omit [SigningKey SecretKey Signature] in
/-- **One announce.** -/
theorem AnnounceOutcome.settlesIff (hinv : n.Placed)
    (h : AnnounceOutcome n (n.recordAnnounce source announce).1 source announce peerCosts clock
      lostClock env out) :
    SettlesIff n out.1
      (n.KeepsRootBound (.announce source announce peerCosts clock lostClock env)) := by
  have hmt : (n.recordAnnounce source announce).1.treeState =
    (n.treeState.updatePeer announce.declaration announce.ancestry).1 := rfl
  have hmid : (n.recordAnnounce source announce).1.identity = n.identity := rfl
  unfold KeepsRootBound
  simp only
  rw [← hmt]
  generalize (n.recordAnnounce source announce).1 = m at h hmt hmid
  -- an accepted announce only changes the table, and only the entry of its source
  have hself : n.treeState.accepts announce.declaration →
      m.treeState.myNodeAddr = n.treeState.myNodeAddr := by
    intro hacc
    rw [hmt, TreeState.updatePeer_eq hacc]
  have hbound : n.treeState.accepts announce.declaration →
      n.treeState.root ≤ n.treeState.myNodeAddr → m.treeState.root ≤ m.treeState.myNodeAddr := by
    intro hacc hle
    rw [hmt, TreeState.updatePeer_eq hacc]
    exact hle
  have hrecorded : n.admits source announce → n.treeState.accepts announce.declaration →
      m.treeState.peerAncestry.lookup source = some announce.ancestry := by
    intro hadm hacc
    rw [hmt, TreeState.updatePeer_eq hacc, ← admits_source hadm]
    exact AList.lookup_insert _
  have hother : n.admits source announce → n.treeState.accepts announce.declaration →
      ¬ (¬ n.treeState.isRoot ∧ n.treeState.myDeclaration.parentId = source) →
      m.treeState.root ≠ m.treeState.myNodeAddr → m.treeState.Anchored := by
    intro hadm hacc hchild hroot
    rw [hmt, TreeState.updatePeer_eq hacc] at hroot ⊢
    refine (hinv.anchored hroot).of_lookup (AList.lookup_insert_ne ?_)
    rw [admits_source hadm]
    exact fun hp => hchild ⟨by simpa [TreeState.isRoot] using hroot, hp⟩
  cases h with
  | unadmitted h hout =>
    rw [hout]
    exact .of_treeState hinv rfl rfl fun hadm => absurd hadm h
  | stale h hout =>
    rw [hout]
    exact .of_treeState hinv hmid (by rw [hmt, TreeState.updatePeer_of_stale h])
      fun _ hacc => absurd hacc h
  | switched hadm hacc p s' hp hm hsigned hout =>
    obtain ⟨r, c, hr, -, -, -⟩ := hp.eligible
    refine ⟨hout.identity.trans hmid, ?_, ?_, fun hle => ?_⟩
    · rw [hout.treeState]
      exact hm.myNodeAddr.trans (hself hacc)
    · rw [hout.treeState]
      exact fun _ => (hm.root_of_switch hp hr).1
    · rw [hout.treeState]
      refine (hm.root_le_iff_of_switch hp).trans ⟨fun hsafe _ _ _ _ => ?_, fun hkeep => ?_⟩
      · exact ⟨hsafe, fun hno => absurd ⟨p, hp⟩ hno⟩
      · by_cases hchild : ¬ n.treeState.isRoot ∧ n.treeState.myDeclaration.parentId = source
        · exact (hkeep hadm hacc hchild.1 hchild.2).1
        · exact TreeState.safeSwitch_of_anchored (hbound hacc hle) (hother hadm hacc hchild)
  | looping hadm hacc hno hchild hloop s' hlost hsigned hout =>
    obtain ⟨hme, hanch, hiff⟩ := hlost.position
    refine ⟨hout.identity.trans hmid, ?_, ?_, fun _ => ?_⟩
    · rw [hout.treeState]
      exact hme.trans (hself hacc)
    · rw [hout.treeState]
      exact fun _ => hanch
    · rw [hout.treeState]
      refine hiff.trans ⟨fun hsafe _ _ _ _ => ?_, fun hkeep => ?_⟩
      · exact ⟨fun p _ hp _ _ => absurd ⟨p, hp⟩ hno, fun _ => by rwa [if_pos hloop]⟩
      · have hlost' := (hkeep hadm hacc hchild.1 hchild.2).2 hno
        rwa [if_pos hloop] at hlost'
  | refreshed hadm hacc hno hchild hloop s' hm hsigned hout =>
    have hrec := hrecorded hadm hacc
    have hanch := hm.anchored (.inr ⟨_, hrec⟩)
    have hne : source ≠ m.treeState.myNodeAddr := by
      rw [hself hacc, ← hchild.2]
      exact hinv.parent_ne hchild.1
    have hroot : s'.root = announce.ancestry.rootId := (hm.position hne hrec).1
    have hout' : out.1.treeState = s' ∧ out.1.identity = m.identity := by
      split_ifs at hout
      · exact ⟨hout.treeState, hout.identity⟩
      · rw [hout]
        exact ⟨rfl, rfl⟩
    refine ⟨hout'.2.trans hmid, ?_, ?_, fun _ => ?_⟩
    · rw [hout'.1]
      exact hm.myNodeAddr.trans (hself hacc)
    · rw [hout'.1]
      exact fun _ => hanch
    · rw [hout'.1, hroot, hm.myNodeAddr, hself hacc]
      constructor
      · intro hle _ _ _ _
        exact ⟨fun p _ hp _ _ => absurd ⟨p, hp⟩ hno, fun _ => by rwa [if_neg hloop]⟩
      · intro hkeep
        have hle := (hkeep hadm hacc hchild.1 hchild.2).2 hno
        rwa [if_neg hloop] at hle
  | recorded hadm hacc hno hchild hout =>
    rw [hout]
    exact ⟨hmid, hself hacc, hother hadm hacc hchild, fun hle =>
      ⟨fun _ _ _ hroot hparent => absurd ⟨hroot, hparent⟩ hchild, fun _ => hbound hacc hle⟩⟩

omit [VerifyingKey PublicKey Signature] in
/-- A re-evaluation only switches to a smaller root. -/
theorem reevaluateParent_settlesIff (hinv : n.Placed) (peerCosts : Map NodeAddr F)
    (clock : Clock) (env : SendEnv) :
    SettlesIff n (n.reevaluateParent peerCosts clock env).1 True := by
  rcases reevaluateParent_cases hinv.identity peerCosts clock env with
    ⟨p, s', hp, hm, -, hout⟩ | hout
  · obtain ⟨r, c, hr, -, -, -⟩ := hp.eligible
    refine ⟨hout.identity, ?_, ?_, fun hle => ?_⟩
    · rw [hout.treeState]
      exact hm.myNodeAddr
    · rw [hout.treeState]
      exact fun _ => (hm.root_of_switch hp hr).1
    · rw [hout.treeState]
      exact ⟨fun _ => trivial, fun _ => (hm.root_le_iff_of_switch hp).mpr
        (TreeState.safeSwitch_of_anchored hle hinv.anchored)⟩
  · rw [hout]
    exact .of_treeState hinv rfl rfl trivial

omit [VerifyingKey PublicKey Signature] in
theorem removeActivePeer_settlesIff (hinv : n.Placed) (addr : NodeAddr) :
    SettlesIff n (n.removeActivePeer addr peerCosts clock).1
      (addr ∈ n.peers → ¬ n.treeState.isRoot → n.treeState.myDeclaration.parentId = addr →
        (n.treeState.removePeer addr).SafeSwitch peerCosts clock.instant) := by
  by_cases haddr : addr ∈ n.peers
  · rcases removeActivePeer_cases hinv.identity haddr peerCosts clock with
      ⟨s', hroot, hparent, hlost, -, hout⟩ | ⟨hchild, hout⟩
    · obtain ⟨hme, hanch, hiff⟩ := hlost.position
      rw [hout]
      exact ⟨rfl, hme, fun _ => hanch, fun _ => hiff.trans ⟨fun h _ _ _ => h,
        fun h => h haddr hroot hparent⟩⟩
    · rw [hout]
      refine ⟨rfl, rfl, fun hne => ?_, fun hle => ⟨fun _ _ hroot hparent =>
        absurd ⟨hroot, hparent⟩ hchild, fun _ => hle⟩⟩
      have hne' : n.treeState.root ≠ n.treeState.myNodeAddr := hne
      refine (hinv.anchored hne').of_lookup (AList.lookup_erase_ne fun hp => hchild ⟨?_, hp⟩)
      simpa [TreeState.isRoot] using hne'
  · unfold removeActivePeer
    rw [if_pos haddr]
    exact .of_treeState hinv rfl rfl fun h => absurd h haddr

/-- **One event** keeps the place, and from within the bound it stays within the bound exactly when
it meets the condition. -/
theorem next_settlesIff (hinv : n.Placed) (e : TreeEvent PublicKey Signature F) :
    SettlesIff n (n.next e) (n.KeepsRootBound e) := by
  cases e with
  | announce source announce peerCosts clock lostClock env =>
    exact (handleTreeAnnounce_outcome hinv.identity source announce peerCosts clock lostClock
      env).settlesIff hinv
  | periodicReeval peerCosts clock env =>
    show SettlesIff n (n.checkPeriodicParentReeval peerCosts clock env).1 True
    rcases n.checkPeriodicParentReeval_cases peerCosts clock env with hout | ⟨-, hout⟩
    · rw [hout]
      exact .of_treeState hinv rfl rfl trivial
    · rw [hout]
      have h := reevaluateParent_settlesIff (n := { n with lastParentReeval := some clock.instant })
        ⟨hinv.identity, hinv.anchored⟩ peerCosts clock env
      exact ⟨h.identity, h.myNodeAddr, h.anchored, h.bound⟩
  | firstRtt peerCosts clock env => exact reevaluateParent_settlesIff hinv peerCosts clock env
  | removePeer addr peerCosts clock => exact removeActivePeer_settlesIff hinv addr
  | sendPending nowMs env =>
    exact .of_treeState hinv (sendTreeAnnounces_identity ..) (sendTreeAnnounces_treeState ..)
      trivial
  | promotePeer addr pubkey env =>
    exact .of_treeState hinv (n.promotePeer_identity env addr pubkey)
      (n.promotePeer_treeState env addr pubkey) trivial
  | rehash ancestry =>
    unfold next step
    simp only
    split_ifs with hre
    · exact ⟨rfl, rfl, fun hne => (hinv.anchored hne).of_lookup (Map.lookup_rehash hre _),
        fun hle => ⟨fun _ => trivial, fun _ => hle⟩⟩
    · exact .of_treeState hinv rfl rfl trivial

theorem Placed.next (hinv : n.Placed) (e : TreeEvent PublicKey Signature F) :
    (n.next e).Placed := by
  have h := next_settlesIff hinv e
  refine ⟨?_, h.anchored⟩
  rw [h.identity, h.myNodeAddr]
  exact hinv.identity

theorem ElectionInv.next (hinv : n.ElectionInv) {e : TreeEvent PublicKey Signature F}
    (he : n.KeepsRootBound e) : (n.next e).ElectionInv :=
  ⟨hinv.toPlaced.next e, ((next_settlesIff hinv.toPlaced e).bound hinv.bound).mpr he⟩

/-- The own declaration stays signed, so an announce can always be built. -/
theorem next_isSigned (hinv : n.Placed) (hsigned : n.treeState.myDeclaration.isSigned)
    (e : TreeEvent PublicKey Signature F) : (n.next e).treeState.myDeclaration.isSigned := by
  have hkept : ∀ n' : TreeNode SecretKey PublicKey Signature F,
      n'.treeState.myDeclaration = n.treeState.myDeclaration →
        n'.treeState.myDeclaration.isSigned := by
    intro n' h
    rw [h]
    exact hsigned
  have hreeval : ∀ n' : TreeNode SecretKey PublicKey Signature F, n'.Placed →
      n'.treeState.myDeclaration.isSigned → ∀ (peerCosts : Map NodeAddr F) (clock : Clock)
        (env : SendEnv), (n'.reevaluateParent peerCosts clock env).1.treeState.myDeclaration.isSigned
      := by
    intro n' hp hs peerCosts clock env
    rcases reevaluateParent_cases hp.identity peerCosts clock env with
      ⟨p, s', -, -, hs', hout⟩ | hout
    · rw [hout.treeState]
      exact hs'
    · rw [hout]
      exact hs
  cases e with
  | announce source announce peerCosts clock lostClock env =>
    have hrec : (n.recordAnnounce source announce).1.treeState.myDeclaration =
        n.treeState.myDeclaration := TreeState.updatePeer_myDeclaration ..
    show (n.handleTreeAnnounce source announce peerCosts clock lostClock
      env).1.treeState.myDeclaration.isSigned
    cases handleTreeAnnounce_outcome hinv.identity source announce peerCosts clock lostClock env with
    | unadmitted _ hout => exact hkept _ (by rw [hout])
    | stale _ hout => exact hkept _ (by rw [hout, hrec])
    | switched _ _ _ _ _ _ hs hout =>
      rw [hout.treeState]
      exact hs
    | looping _ _ _ _ _ _ _ hs hout =>
      rw [hout.treeState]
      exact hs
    | refreshed _ _ _ _ _ _ _ hs hout =>
      split_ifs at hout
      · rw [hout.treeState]
        exact hs
      · rw [hout]
        exact hs
    | recorded _ _ _ _ hout => exact hkept _ (by rw [hout, hrec])
  | periodicReeval peerCosts clock env =>
    show (n.checkPeriodicParentReeval peerCosts clock env).1.treeState.myDeclaration.isSigned
    rcases n.checkPeriodicParentReeval_cases peerCosts clock env with hout | ⟨-, hout⟩
    · exact hkept _ (by rw [hout])
    · rw [hout]
      exact hreeval { n with lastParentReeval := some clock.instant }
        ⟨hinv.identity, hinv.anchored⟩ hsigned _ _ _
  | firstRtt peerCosts clock env => exact hreeval n hinv hsigned _ _ _
  | removePeer addr peerCosts clock =>
    show (n.removeActivePeer addr peerCosts clock).1.treeState.myDeclaration.isSigned
    by_cases haddr : addr ∈ n.peers
    · rcases removeActivePeer_cases hinv.identity haddr peerCosts clock with
        ⟨s', -, -, -, hs', hout⟩ | ⟨-, hout⟩
      · rw [hout]
        exact hs'
      · rw [hout]
        exact hsigned
    · unfold removeActivePeer
      rw [if_pos haddr]
      exact hsigned
  | sendPending nowMs env => exact hkept _ (congrArg _ (sendTreeAnnounces_treeState ..))
  | promotePeer addr pubkey env =>
    exact hkept _ (congrArg _ (n.promotePeer_treeState env addr pubkey))
  | rehash ancestry =>
    unfold next step
    simp only
    split_ifs <;> exact hsigned

/-! ## Runs -/

omit [VerifyingKey PublicKey Signature] in
/-- The tree state of a new node: a signed root with empty tables. -/
theorem new_treeState (identity : Identity SecretKey) (timestamp : Nat) (hysteresis : F)
    (holdDownSecs flapThreshold flapWindowSecs flapDampeningSecs reevalIntervalSecs
      announceMinIntervalMs : Nat) :
    ∀ n : TreeNode SecretKey PublicKey Signature F,
      n = new identity timestamp hysteresis holdDownSecs flapThreshold flapWindowSecs
        flapDampeningSecs reevalIntervalSecs announceMinIntervalMs →
      ∃ sig : Signature, n.treeState = { (((TreeState.new identity.nodeAddr timestamp : TreeState Signature F).setParentHysteresis
        hysteresis).setHoldDown holdDownSecs).setFlapDampening flapThreshold flapWindowSecs
        flapDampeningSecs with
        myDeclaration := ⟨identity.nodeAddr, identity.nodeAddr, 1, timestamp, some sig⟩ } := by
  obtain ⟨sig, hsig⟩ := TreeState.signDeclaration_eq
    ((((TreeState.new identity.nodeAddr timestamp : TreeState Signature F).setParentHysteresis
      hysteresis).setHoldDown holdDownSecs).setFlapDampening
      flapThreshold flapWindowSecs flapDampeningSecs) identity rfl
  rintro n rfl
  refine ⟨sig, ?_⟩
  unfold new
  simp only [hsig]
  rfl

omit [VerifyingKey PublicKey Signature] in
theorem new_signed (identity : Identity SecretKey) (timestamp : Nat) (hysteresis : F)
    (holdDownSecs flapThreshold flapWindowSecs flapDampeningSecs reevalIntervalSecs
      announceMinIntervalMs : Nat) :
    ∀ n : TreeNode SecretKey PublicKey Signature F,
      n = new identity timestamp hysteresis holdDownSecs flapThreshold flapWindowSecs
        flapDampeningSecs reevalIntervalSecs announceMinIntervalMs →
      n.ElectionInv ∧ n.treeState.myDeclaration.isSigned := by
  intro n hn
  obtain ⟨sig, hts⟩ := new_treeState _ _ _ _ _ _ _ _ _ n hn
  have hid : n.identity = identity := by
    rw [hn]
    rfl
  refine ⟨⟨⟨?_, ?_⟩, ?_⟩, ?_⟩
  · rw [hid, hts]
    rfl
  · rw [hts]
    exact fun h => absurd rfl h
  · rw [hts]
    exact le_rfl
  · rw [hts]
    rfl

/-- **Root election safety.** In a run of node events from a new node the root stays at most the
node's own address throughout exactly when every event meets `KeepsRootBound` in the state it is
taken from. -/
theorem root_le_iff_keepsRootBound (identity : Identity SecretKey) (timestamp : Nat)
    (hysteresis : F) (holdDownSecs flapThreshold flapWindowSecs flapDampeningSecs
      reevalIntervalSecs announceMinIntervalMs : Nat)
    (events : List (TreeEvent PublicKey Signature F)) :
    EventRun.Always next (fun n => n.treeState.root ≤ n.treeState.myNodeAddr)
      (new identity timestamp hysteresis holdDownSecs flapThreshold flapWindowSecs
        flapDampeningSecs reevalIntervalSecs announceMinIntervalMs) events ↔
    EventRun.Along next KeepsRootBound
      (new identity timestamp hysteresis holdDownSecs flapThreshold flapWindowSecs
        flapDampeningSecs reevalIntervalSecs announceMinIntervalMs) events :=
  EventRun.always_iff_along (I := ElectionInv) (fun _ hn => hn.bound)
    (fun _ e hn hle => ((next_settlesIff hn.toPlaced e).bound hn.bound).mp hle)
    (fun _ _ hn he => hn.next he)
    (new_signed _ _ _ _ _ _ _ _ _ _ rfl).1

end TreeNode

/-! ## A run that breaks the bound -/

namespace RootElection

/-- A signature scheme with one key that accepts its signature. -/
instance : SigningKey Unit Unit := ⟨fun _ _ => ()⟩

instance : VerifyingKey Unit Unit := ⟨fun _ _ _ => true⟩

/-- Whole-number costs and infinity, on which `f64` arithmetic is exact. -/
instance : LinkCost (Option Nat) where
  ofNat n := some n
  infinity := none
  add a b := a.bind fun x => b.map (x + ·)
  sub a b := a.bind fun x => b.map (x - ·)
  mul a b := a.bind fun x => b.map (x * ·)
  lt a b := match a, b with
    | some x, some y => decide (x < y)
    | some _, none => true
    | none, _ => false
  beq a b := a == b

/-- Every send succeeds, one second after the epoch. -/
def env : SendEnv := ⟨fun _ => 1000, fun _ => .ok ()⟩

/-- Peer 7 under `root`, in its declaration number `seq`. -/
def announceOf (root : NodeAddr) (seq : Nat) : TreeEvent Unit Unit (Option Nat) :=
  .announce 7 ⟨⟨7, root, seq, 0, some ()⟩, ⟨[⟨7, seq, 0⟩, ⟨root, 1, 0⟩], List.cons_ne_nil _ _⟩⟩ ∅
    ⟨1, 1000, 1⟩ ⟨1, 1000, 1⟩ env

/-- Node 5 learns of root 3 through peer 7, which then moves under root 9. -/
def events : List (TreeEvent Unit Unit (Option Nat)) :=
  [.promotePeer 7 () env, announceOf 3 1, announceOf 9 2]

/-- Node 5, which has just started. -/
def start : TreeNode Unit Unit Unit (Option Nat) := .new ⟨5, ()⟩ 0 (some 0) 0 4 60 120 60 500

/-- Node 5 ends under root 9. -/
theorem root_exceeds_own_address :
    ¬ ∀ events : List (TreeEvent Unit Unit (Option Nat)),
      EventRun.Always TreeNode.next (fun n => n.treeState.root ≤ n.treeState.myNodeAddr)
        start events := by
  intro h
  have hend := (h events).exec
  revert hend
  decide

end RootElection

end Fips
