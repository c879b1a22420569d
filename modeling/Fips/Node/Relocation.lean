import Mathlib.Data.Set.Basic
import Fips.Node.Announce
import Fips.Node.Consistency

/-!
# What one event sends and where it leaves the node

Two inversion lemmas for `TreeNode.step` that hold of every event, as the network of nodes needs
them.

## Results

* `step_sendsCurrent`: every announce an event sends carries the declaration and the coordinates the
  node has after the event.
* `next_relocates`: an event that removes no peer records at most its own announce, and then leaves
  the node in place, under the peer that a recommended switch names, or, if the node was not root,
  under a recorded peer or its own root.
* `Within.next`: a node whose recorded paths stay within a set of addresses keeps to it, and a node
  with the smallest of these addresses stays its own root.
-/

namespace Fips

open TreeState (Moved SwitchesTo)

namespace TreeState

variable {Signature F : Type} [LinkCost F]

/-- Where an event leaves a node: in place, under the peer a recommended switch names, or, if it was
not root, under a recorded peer or its own root. -/
inductive Relocates (s s' : TreeState Signature F) : Prop
  | stays (h : s' = s)
  | switches (peerCosts : Map NodeAddr F) (now : Nat) (p : NodeAddr)
      (hp : s.SwitchesTo peerCosts now p) (hm : Moved s s' p)
  | leaves (p : NodeAddr) (hroot : ¬ s.isRoot)
      (hp : p = s.myNodeAddr ∨ ∃ c, s.peerAncestry.lookup p = some c) (hm : Moved s s' p)

end TreeState

/-- `c` is the ancestry the event announces for `p`. -/
def TreeEvent.Announces {PublicKey Signature F : Type} (p : NodeAddr) (c : TreeCoordinate) :
    TreeEvent PublicKey Signature F → Prop
  | .announce source received _ _ _ _ => source = p ∧ received.ancestry = c
  | _ => False

/-- The event removes a peer. -/
def TreeEvent.IsRemoval {PublicKey Signature F : Type} : TreeEvent PublicKey Signature F → Prop
  | .removePeer _ _ _ => True
  | _ => False

namespace TreeNode

variable {SecretKey PublicKey Signature F : Type} [LinkCost F] [SigningKey SecretKey Signature]
  [VerifyingKey PublicKey Signature]

/-! ## What an event sends -/

section Sent

variable {n : TreeNode SecretKey PublicKey Signature F}

/-- Every announce of the outcome is the one the node builds in its last state. -/
def SendsCurrent (out : TreeNode SecretKey PublicKey Signature F × List (TreeEffect Signature)) :
    Prop :=
  ∀ p announce, .sentTreeAnnounce p announce ∈ out.2 → announce = out.1.currentAnnounce

omit [LinkCost F] [SigningKey SecretKey Signature] [VerifyingKey PublicKey Signature]

/-- What is sent to a peer is the node's current announce. -/
theorem sendTreeAnnounceToPeer_sent (p : NodeAddr) (env : SendEnv) {q : NodeAddr}
    {announce : TreeAnnounce Signature}
    (h : .sentTreeAnnounce q announce ∈ (n.sendTreeAnnounceToPeer p env).2.1) :
    announce = n.currentAnnounce := by
  unfold sendTreeAnnounceToPeer at h
  cases hp : n.peers.lookup p with
  | none => simp [hp] at h
  | some peer =>
    simp only [hp] at h
    by_cases hcan : peer.canSendTreeAnnounce (env.nowMs p) = true
    · cases hb : n.buildTreeAnnounce with
      | error e => simp [hcan, hb] at h
      | ok built =>
        have hbuilt : built = n.currentAnnounce := by
          unfold buildTreeAnnounce at hb
          split_ifs at hb
          exact (Except.ok.inj hb).symm
        cases hs : env.sendEncryptedLinkMessage p with
        | error e => simp [hcan, hb, hs] at h
        | ok _ =>
          simp only [hcan, hb, hs, not_true_eq_false, if_false, List.mem_singleton,
            TreeEffect.sentTreeAnnounce.injEq] at h
          exact h.2.trans hbuilt
    · simp [hcan] at h

/-- Between the sends of one round the announce does not change. -/
theorem sendTreeAnnounces_sent (env : SendEnv) (ps : List NodeAddr) {q : NodeAddr}
    {announce : TreeAnnounce Signature}
    (h : .sentTreeAnnounce q announce ∈ (sendTreeAnnounces env ps n).2) :
    announce = n.currentAnnounce := by
  induction ps generalizing n with
  | nil => cases h
  | cons p ps ih =>
    have hcur : (n.sendTreeAnnounceToPeer p env).1.currentAnnounce = n.currentAnnounce := by
      simp [currentAnnounce]
    rcases List.mem_append.mp h with h | h
    · exact sendTreeAnnounceToPeer_sent p env h
    · exact (ih h).trans hcur

/-- A handler that sends no announce sends none that is old. -/
theorem SendsCurrent.of_silent {m : TreeNode SecretKey PublicKey Signature F}
    {effects : List (TreeEffect Signature)} (h : ∀ p a, .sentTreeAnnounce p a ∉ effects) :
    SendsCurrent (m, effects) := fun p a ha => absurd ha (h p a)

/-- A round to all peers sends what is current. -/
theorem SendsCurrent.of_all (m : TreeNode SecretKey PublicKey Signature F) (env : SendEnv) :
    SendsCurrent (m.sendTreeAnnounceToAll env) := by
  intro p announce h
  rw [sendTreeAnnounces_sent env _ h]
  simp [currentAnnounce]

theorem SendsCurrent.of_one (m : TreeNode SecretKey PublicKey Signature F) (p : NodeAddr)
    (env : SendEnv) : SendsCurrent ((m.sendTreeAnnounceToPeer p env).1,
      (m.sendTreeAnnounceToPeer p env).2.1) := by
  intro q announce h
  rw [sendTreeAnnounceToPeer_sent p env h]
  simp [currentAnnounce]

/-- Effects other than announces may come before. -/
theorem SendsCurrent.append_left {out : TreeNode SecretKey PublicKey Signature F ×
    List (TreeEffect Signature)} (h : SendsCurrent out) {before : List (TreeEffect Signature)}
    (hb : ∀ p a, .sentTreeAnnounce p a ∉ before) : SendsCurrent (out.1, before ++ out.2) := by
  intro p announce hmem
  rcases List.mem_append.mp hmem with hmem | hmem
  · exact absurd hmem (hb p announce)
  · exact h p announce hmem

/-- Effects other than announces may come after. -/
theorem SendsCurrent.append_right {out : TreeNode SecretKey PublicKey Signature F ×
    List (TreeEffect Signature)} (h : SendsCurrent out) {after : List (TreeEffect Signature)}
    (ha : ∀ p a, .sentTreeAnnounce p a ∉ after) : SendsCurrent (out.1, out.2 ++ after) := by
  intro p announce hmem
  rcases List.mem_append.mp hmem with hmem | hmem
  · exact h p announce hmem
  · exact absurd hmem (ha p announce)

omit [LinkCost F] [VerifyingKey PublicKey Signature]

variable [SigningKey SecretKey Signature]

theorem switchParent_sendsCurrent (p : NodeAddr) (clock : Clock) (env : SendEnv) :
    SendsCurrent (n.switchParent p clock env) := by
  unfold switchParent
  simp only
  split
  · exact .of_silent nofun
  · exact ((SendsCurrent.of_all _ env).append_left (by simp)).append_right (by simp)

theorem refreshParent_sendsCurrent (p : NodeAddr) (clock : Clock) (env : SendEnv) :
    SendsCurrent (n.refreshParent p clock env) := by
  unfold refreshParent
  simp only
  split
  · exact .of_silent nofun
  · split_ifs
    · exact ((SendsCurrent.of_all _ env).append_left (by simp)).append_right (by simp)
    · exact .of_silent (by simp)

variable [LinkCost F]

theorem dropLoopingParent_sendsCurrent (peerCosts : Map NodeAddr F) (clock : Clock)
    (env : SendEnv) : SendsCurrent (n.dropLoopingParent peerCosts clock env) := by
  unfold dropLoopingParent
  simp only
  split_ifs
  · split
    · exact .of_silent nofun
    · exact (SendsCurrent.of_all _ env).append_left (by simp)
  · exact .of_silent nofun

theorem reevaluateParent_sendsCurrent (peerCosts : Map NodeAddr F) (clock : Clock)
    (env : SendEnv) : SendsCurrent (n.reevaluateParent peerCosts clock env) := by
  unfold reevaluateParent
  cases n.treeState.evaluateParent peerCosts clock.instant with
  | some p => exact switchParent_sendsCurrent p clock env
  | none => exact .of_silent nofun

variable [VerifyingKey PublicKey Signature]

/-- Whatever an announce leads to, what is sent after it is current. -/
theorem handleTreeAnnounce_sendsCurrent (source : NodeAddr) (announce : TreeAnnounce Signature)
    (peerCosts : Map NodeAddr F) (clock lostClock : Clock) (env : SendEnv) :
    SendsCurrent (n.handleTreeAnnounce source announce peerCosts clock lostClock env) := by
  unfold handleTreeAnnounce
  by_cases hadm : n.admits source announce = true
  swap
  · rw [if_pos hadm]
    exact .of_silent (by simp)
  rw [if_neg (not_not.mpr hadm)]
  generalize n.recordAnnounce source announce = out
  obtain ⟨m, updated⟩ := out
  cases updated with
  | false => exact .of_silent (by simp)
  | true =>
    simp only [not_true_eq_false, if_false]
    have hmarks : ∀ p (a : TreeAnnounce Signature), .sentTreeAnnounce p a ∉
        if m.isTreePeer source then [TreeEffect.markFilterUpdates [source]] else [] := by
      intro p a
      split_ifs <;> simp
    generalize (if m.isTreePeer source then [TreeEffect.markFilterUpdates [source]] else []) =
      marks at hmarks
    cases m.treeState.evaluateParent peerCosts clock.instant with
    | some p => exact (switchParent_sendsCurrent p clock env).append_left hmarks
    | none =>
      simp only
      split_ifs
      · exact (dropLoopingParent_sendsCurrent peerCosts lostClock env).append_left hmarks
      · exact (refreshParent_sendsCurrent source clock env).append_left hmarks
      · exact .of_silent hmarks

/-- **What a step sends** is the announce of the state after it. -/
theorem step_sendsCurrent (e : TreeEvent PublicKey Signature F) : SendsCurrent (n.step e) := by
  cases e with
  | announce source announce peerCosts clock lostClock env =>
    exact handleTreeAnnounce_sendsCurrent source announce peerCosts clock lostClock env
  | periodicReeval peerCosts clock env =>
    change SendsCurrent (n.checkPeriodicParentReeval peerCosts clock env)
    rcases n.checkPeriodicParentReeval_cases peerCosts clock env with hout | ⟨-, hout⟩
    · rw [hout]
      exact .of_silent (by simp)
    · rw [hout]
      exact reevaluateParent_sendsCurrent peerCosts clock env
  | firstRtt peerCosts clock env => exact reevaluateParent_sendsCurrent peerCosts clock env
  | removePeer addr peerCosts clock =>
    change SendsCurrent (n.removeActivePeer addr peerCosts clock)
    unfold removeActivePeer
    split_ifs <;> exact .of_silent (by simp)
  | sendPending nowMs env =>
    intro p announce h
    rw [sendTreeAnnounces_sent env _ h]
    simp [currentAnnounce, step, sendPendingTreeAnnounces]
  | promotePeer addr pubkey env =>
    exact (SendsCurrent.of_one { n with peers := n.peers.insert addr _ } addr env).append_right
      (by simp)
  | rehash ancestry =>
    unfold step
    simp only
    split_ifs <;> exact .of_silent (by simp)

end Sent

/-! ## Where one event leaves a node -/

section Relocation

variable {n : TreeNode SecretKey PublicKey Signature F} {s s' : TreeState Signature F}
  {peerCosts : Map NodeAddr F} {clock : Clock}

/-- The state with the event's announce recorded: the position is the old one, and the table has no
other ancestry than before and the announced one. -/
structure Learns (s t : TreeState Signature F) (e : TreeEvent PublicKey Signature F) : Prop where
  myNodeAddr : t.myNodeAddr = s.myNodeAddr
  myDeclaration : t.myDeclaration = s.myDeclaration
  myCoords : t.myCoords = s.myCoords
  root : t.root = s.root
  peerAncestry : ∀ p c, t.peerAncestry.lookup p = some c →
    s.peerAncestry.lookup p = some c ∨ e.Announces p c

omit [LinkCost F] [VerifyingKey PublicKey Signature] in
theorem Learns.refl (s : TreeState Signature F) (e : TreeEvent PublicKey Signature F) :
    Learns s s e := ⟨rfl, rfl, rfl, rfl, fun _ _ h => .inl h⟩

omit [LinkCost F] [VerifyingKey PublicKey Signature] in
/-- What is learned does not make a node a root, or stop it from being one. -/
theorem Learns.isRoot {t : TreeState Signature F} {e : TreeEvent PublicKey Signature F}
    (h : Learns s t e) : t.isRoot = s.isRoot := by
  unfold TreeState.isRoot
  rw [h.root, h.myNodeAddr]

omit [LinkCost F] [SigningKey SecretKey Signature] in
/-- To record an announce is to learn its sender's position. -/
theorem learns_recordAnnounce {source : NodeAddr} {announce : TreeAnnounce Signature}
    (hadm : n.admits source announce = true)
    (peerCosts : Map NodeAddr F) (clock lostClock : Clock) (env : SendEnv) :
    Learns n.treeState (n.recordAnnounce source announce).1.treeState
      (.announce source announce peerCosts clock lostClock env :
        TreeEvent PublicKey Signature F) := by
  change Learns n.treeState (n.treeState.updatePeer announce.declaration announce.ancestry).1 _
  unfold TreeState.updatePeer
  split_ifs with hacc
  · refine ⟨rfl, rfl, rfl, rfl, fun p c hc => ?_⟩
    change (n.treeState.peerAncestry.insert announce.declaration.nodeAddr
      announce.ancestry).lookup p = some c at hc
    rw [admits_source hadm, Map.lookup_insert'] at hc
    split_ifs at hc with hp
    · exact .inr ⟨hp.symm, Option.some.inj hc⟩
    · exact .inl hc
  · exact Learns.refl _ _

omit [SigningKey SecretKey Signature] [VerifyingKey PublicKey Signature] in
/-- A node that lost its parent is its own root or below another peer. -/
theorem LostTo.relocates (h : LostTo s s' peerCosts clock) (hroot : ¬ s.isRoot) :
    s.Relocates s' := by
  rcases h with ⟨p, hp, hm⟩ | ⟨-, hm⟩
  · exact .switches _ _ p hp hm
  · exact .leaves _ hroot (.inl rfl) hm

omit [VerifyingKey PublicKey Signature] in
/-- A re-evaluation keeps the position or takes another one. -/
theorem reevaluateParent_relocates (h : n.identity.nodeAddr = n.treeState.myNodeAddr)
    (peerCosts : Map NodeAddr F) (clock : Clock) (env : SendEnv) :
    n.treeState.Relocates (n.reevaluateParent peerCosts clock env).1.treeState := by
  rcases reevaluateParent_cases h peerCosts clock env with ⟨p, s', hp, hm, -, hout⟩ | hout
  · rw [hout.treeState]
    exact .switches _ _ p hp hm
  · rw [hout]
    exact .stays rfl

/-- **One event** that removes no peer. -/
theorem next_relocates (h : n.identity.nodeAddr = n.treeState.myNodeAddr)
    {e : TreeEvent PublicKey Signature F} (he : ¬ e.IsRemoval) :
    ∃ t, Learns n.treeState t e ∧ t.Relocates (n.next e).treeState := by
  cases e with
  | announce source announce peerCosts clock lostClock env =>
    have hlearns : n.admits source announce = true → Learns n.treeState
        (n.recordAnnounce source announce).1.treeState
        (.announce source announce peerCosts clock lostClock env :
          TreeEvent PublicKey Signature F) :=
      fun hadm => learns_recordAnnounce hadm peerCosts clock lostClock env
    have hout := handleTreeAnnounce_outcome h source announce peerCosts clock lostClock env
    change ∃ t : TreeState Signature F, _ ∧ t.Relocates
      (n.handleTreeAnnounce source announce peerCosts clock lostClock env).1.treeState
    generalize n.handleTreeAnnounce source announce peerCosts clock lostClock env = out at hout ⊢
    cases hout with
    | unadmitted _ hout => exact ⟨_, .refl _ _, .stays (congrArg treeState hout)⟩
    | stale hacc hout =>
      refine ⟨_, .refl _ _, .stays ((congrArg treeState hout).trans ?_)⟩
      exact congrArg Prod.fst (TreeState.updatePeer_of_stale hacc announce.ancestry)
    | switched hadm _ p s' hp hm _ hout =>
      refine ⟨_, hlearns hadm, ?_⟩
      rw [hout.treeState]
      exact .switches _ _ p hp hm
    | looping hadm _ _ hchild _ s' hlost _ hout =>
      refine ⟨_, hlearns hadm, ?_⟩
      rw [hout.treeState]
      exact hlost.relocates ((hlearns hadm).isRoot ▸ hchild.1)
    | refreshed hadm hacc _ hchild _ s' hm _ hout =>
      have hmove := TreeState.Relocates.leaves source ((hlearns hadm).isRoot ▸ hchild.1)
        (.inr ⟨_, lookup_recordAnnounce hadm hacc⟩) hm
      refine ⟨_, hlearns hadm, ?_⟩
      split_ifs at hout
      · rw [hout.treeState]
        exact hmove
      · rw [hout]
        exact hmove
    | recorded hadm _ _ _ hout => exact ⟨_, hlearns hadm, .stays (congrArg treeState hout)⟩
  | periodicReeval peerCosts clock env =>
    refine ⟨_, .refl _ _, ?_⟩
    change n.treeState.Relocates (n.checkPeriodicParentReeval peerCosts clock env).1.treeState
    rcases n.checkPeriodicParentReeval_cases peerCosts clock env with hout | ⟨-, hout⟩
    · rw [hout]
      exact .stays rfl
    · rw [hout]
      exact reevaluateParent_relocates (n := { n with lastParentReeval := some clock.instant }) h
        peerCosts clock env
  | firstRtt peerCosts clock env =>
    exact ⟨_, .refl _ _, reevaluateParent_relocates h peerCosts clock env⟩
  | removePeer addr peerCosts clock => exact absurd trivial he
  | sendPending nowMs env => exact ⟨_, .refl _ _, .stays (sendTreeAnnounces_treeState ..)⟩
  | promotePeer addr pubkey env =>
    exact ⟨_, .refl _ _, .stays (n.promotePeer_treeState env addr pubkey)⟩
  | rehash ancestry =>
    refine ⟨(n.next (.rehash ancestry)).treeState, ?_, .stays rfl⟩
    unfold TreeNode.next step
    simp only
    split_ifs with hre
    · exact ⟨rfl, rfl, rfl, rfl, fun p c hc => .inl ((Map.lookup_rehash hre p).symm.trans hc)⟩
    · exact .refl _ _

omit [SigningKey SecretKey Signature] [VerifyingKey PublicKey Signature] in
theorem relocates_myNodeAddr (h : s.Relocates s') : s'.myNodeAddr = s.myNodeAddr := by
  cases h with
  | stays hs => rw [hs]
  | switches _ _ _ _ hm => exact hm.myNodeAddr
  | leaves _ _ _ hm => exact hm.myNodeAddr

theorem next_myNodeAddr (h : n.identity.nodeAddr = n.treeState.myNodeAddr)
    {e : TreeEvent PublicKey Signature F} (he : ¬ e.IsRemoval) :
    (n.next e).treeState.myNodeAddr = n.treeState.myNodeAddr := by
  obtain ⟨t, hl, hr⟩ := next_relocates h he
  exact (relocates_myNodeAddr hr).trans hl.myNodeAddr

omit [LinkCost F] [SigningKey SecretKey Signature] [VerifyingKey PublicKey Signature] in
/-- The announce of a consistent node begins with the node. -/
theorem Inv.ownHead (h : n.Inv) : n.currentAnnounce.OwnHead := by
  have hhead := h.treeState.consistent.own
  rw [List.head?_eq_some_head n.treeState.myCoords.nonempty] at hhead
  show (n.treeState.myCoords.entries.head _).nodeAddr = n.treeState.myDeclaration.nodeAddr
  rw [Option.some.inj hhead, h.treeState.declarer]

end Relocation

/-! ## Addresses of the network -/

/-- Every address the node knows is one of `V`, it recorded ancestries only for the neighbours `L`,
and if its own address is the smallest it is its own root. -/
structure Within (V L : Set NodeAddr) (n : TreeNode SecretKey PublicKey Signature F) : Prop where
  coords : ∀ a ∈ n.treeState.myCoords.nodeAddrs, a ∈ V
  ancestry : ∀ p c, n.treeState.peerAncestry.lookup p = some c → p ∈ L ∧ ∀ a ∈ c.nodeAddrs, a ∈ V
  least : (∀ a ∈ V, n.treeState.myNodeAddr ≤ a) → n.treeState.isRoot

section Within

variable {V L : Set NodeAddr} {n : TreeNode SecretKey PublicKey Signature F}

omit [LinkCost F] [SigningKey SecretKey Signature] [VerifyingKey PublicKey Signature] in
/-- The node itself is one of the addresses that can be known. -/
theorem Within.self_mem (h : n.Within V L) (hinv : n.Inv) : n.treeState.myNodeAddr ∈ V := by
  refine h.coords _ (List.count_pos_iff.mp ?_)
  rw [hinv.treeState.consistent.once]
  exact Nat.one_pos

omit [LinkCost F] in
/-- A move to this node itself, or to a recorded path within `V`. -/
theorem moved_within {s s' : TreeState Signature F} {p : NodeAddr} (hm : Moved s s' p)
    (hself : s.myNodeAddr ∈ V)
    (hp : p = s.myNodeAddr ∨ ∃ c, s.peerAncestry.lookup p = some c)
    (hall : ∀ q c, s.peerAncestry.lookup q = some c → q ∈ L ∧ ∀ a ∈ c.nodeAddrs, a ∈ V) :
    ∀ a ∈ s'.myCoords.nodeAddrs, a ∈ V := by
  intro a ha
  cases hm.anchored hp with
  | self _ _ coords =>
    rw [coords, TreeCoordinate.nodeAddrs_rootWithMeta, List.mem_singleton, hm.myNodeAddr] at ha
    exact ha ▸ hself
  | child c _ recorded _ coords =>
    rw [coords, TreeCoordinate.nodeAddrs_extend, List.mem_cons, hm.myNodeAddr] at ha
    rw [hm.peerAncestry] at recorded
    rcases ha with rfl | ha
    · exact hself
    · exact (hall _ c recorded).2 a ha

/-- **One event** whose announce stays within `V` and comes from `L`. -/
theorem Within.next (h : n.Within V L) (hinv : n.Inv) {e : TreeEvent PublicKey Signature F}
    (he : ¬ e.IsRemoval)
    (hgen : ∀ p c, e.Announces p c → p ∈ L ∧ ∀ a ∈ c.nodeAddrs, a ∈ V) :
    (n.next e).Within V L := by
  obtain ⟨t, hl, hr⟩ := next_relocates hinv.identity he
  have hself : t.myNodeAddr ∈ V := hl.myNodeAddr ▸ h.self_mem hinv
  have hall : ∀ q c, t.peerAncestry.lookup q = some c → q ∈ L ∧ ∀ a ∈ c.nodeAddrs, a ∈ V := by
    intro q c hc
    rcases hl.peerAncestry q c hc with hc | hc
    · exact h.ancestry q c hc
    · exact hgen q c hc
  have hleast : (∀ a ∈ V, t.myNodeAddr ≤ a) → t.isRoot := by
    rw [hl.myNodeAddr, hl.isRoot]
    exact h.least
  cases hr with
  | stays hs =>
    refine ⟨?_, hs ▸ hall, hs ▸ hleast⟩
    rw [hs, hl.myCoords]
    exact h.coords
  | switches peerCosts now p hp hm =>
    obtain ⟨smallest, c, -, hel, hstay, -⟩ := hp.eligible
    refine ⟨moved_within hm hself (.inr ⟨c, hel.recorded⟩) hall, hm.peerAncestry ▸ hall, ?_⟩
    -- the smallest node stays: every recorded root is at least its own address
    intro hle
    rw [hm.myNodeAddr] at hle
    refine absurd ⟨hle smallest ?_, hleast hle⟩ hstay
    rw [← hel.reaches]
    exact (hall p c hel.recorded).2 _ c.rootId_mem
  | leaves p hroot hp hm =>
    refine ⟨moved_within hm hself hp hall, hm.peerAncestry ▸ hall, fun hle => ?_⟩
    rw [hm.myNodeAddr] at hle
    exact absurd (hleast hle) hroot

omit [VerifyingKey PublicKey Signature] in
/-- A new node knows its own address only. -/
theorem new_within (identity : Identity SecretKey) (hV : identity.nodeAddr ∈ V) (timestamp : Nat)
    (hysteresis : F) (holdDownSecs flapThreshold flapWindowSecs flapDampeningSecs reevalIntervalSecs
      announceMinIntervalMs : Nat) :
    (new identity timestamp hysteresis holdDownSecs flapThreshold flapWindowSecs flapDampeningSecs
      reevalIntervalSecs announceMinIntervalMs :
      TreeNode SecretKey PublicKey Signature F).Within V L := by
  obtain ⟨sig, hsig⟩ := TreeState.signDeclaration_eq
    ((((TreeState.new identity.nodeAddr timestamp : TreeState Signature F).setParentHysteresis
      hysteresis).setHoldDown holdDownSecs).setFlapDampening
      flapThreshold flapWindowSecs flapDampeningSecs) identity rfl
  unfold new
  simp only [hsig]
  refine ⟨fun a ha => ?_, nofun, fun _ => beq_self_eq_true _⟩
  rw [List.mem_singleton.mp ha]
  exact hV

end Within

end TreeNode

end Fips
