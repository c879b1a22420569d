import Fips.Node.RootElection
import Fips.Wire.Link

/-!
# Local tree consistency

The node's declaration, its coordinates, its root and its table of ancestries are four copies of one
fact. `Consistent` says how they agree; every event keeps it, for any ancestries and costs.

An announce is received as bytes, and decoding takes the declaring address from the first entry of
the ancestry. So no recorded ancestry begins with another address than the one it is recorded for,
and a node never moves under a path that contains itself.

## Results

* `Inv.next`: one event keeps the invariant behind `Consistent`.
* `consistent_of_received`: every state of every run from a new node is consistent.
-/

namespace Fips

open TreeState (Moved SwitchesTo Anchored)

namespace TreeState

variable {Signature F : Type}

/-- How declaration, coordinates, root and recorded ancestries agree. -/
structure Consistent (s : TreeState Signature F) : Prop where
  own : s.myCoords.entries.head? =
    some ⟨s.myNodeAddr, s.myDeclaration.sequence, s.myDeclaration.timestamp⟩
  once : s.myCoords.nodeAddrs.count s.myNodeAddr = 1
  root : s.root = s.myCoords.rootId
  parent : s.myCoords.parentId = s.myDeclaration.parentId
  isRoot_iff_declared : s.isRoot = true ↔ s.myDeclaration.isRoot = true
  isRoot_iff_coords : s.isRoot = true ↔ s.myCoords.isRoot = true
  rest : s.isRoot = false → ∃ c, s.peerCoords s.myDeclaration.parentId = some c ∧
    s.myCoords.entries.tail = c.entries

/-- What the events keep: the position follows the parent's recorded ancestry, that ancestry does not
contain this node, and every recorded ancestry begins with the peer it is recorded for. -/
structure Inv (s : TreeState Signature F) : Prop where
  declarer : s.myDeclaration.nodeAddr = s.myNodeAddr
  anchored : s.Anchored
  loopFree : ∀ c, s.myDeclaration.parentId ≠ s.myNodeAddr →
    s.peerAncestry.lookup s.myDeclaration.parentId = some c → s.myNodeAddr ∉ c.nodeAddrs
  heads : ∀ p c, s.peerAncestry.lookup p = some c → c.nodeAddr = p

variable {s s' : TreeState Signature F} {p : NodeAddr}

theorem Inv.consistent (h : s.Inv) : s.Consistent := by
  have hdeclared : s.myDeclaration.isRoot = decide (s.myDeclaration.parentId = s.myNodeAddr) := by
    unfold ParentDeclaration.isRoot
    rw [h.declarer, Bool.beq_eq_decide_eq]
    exact decide_eq_decide.mpr eq_comm
  cases h.anchored with
  | self parent root coords =>
    have hroot : s.isRoot = true := by simp [isRoot, root]
    refine ⟨?_, ?_, ?_, ?_, ?_, ?_, ?_⟩
    · rw [coords]
      rfl
    · rw [coords]
      simp
    · rw [coords, root]
      rfl
    · rw [coords, parent]
      rfl
    · simp [hroot, hdeclared, parent]
    · rw [coords]
      simp [hroot, TreeCoordinate.isRoot, TreeCoordinate.rootWithMeta]
    · intro hchild
      rw [hroot] at hchild
      cases hchild
  | child c parent recorded root coords =>
    have hfree : s.myNodeAddr ∉ c.nodeAddrs := h.loopFree c parent recorded
    have hroot : s.isRoot = false := by
      simp only [isRoot, root, beq_eq_false_iff_ne]
      exact fun heq => hfree (heq ▸ c.rootId_mem)
    refine ⟨?_, ?_, ?_, ?_, ?_, ?_, ?_⟩
    · rw [coords]
      rfl
    · rw [coords, TreeCoordinate.nodeAddrs_extend, List.count_cons_self,
        List.count_eq_zero_of_not_mem hfree]
    · rw [coords, root, TreeCoordinate.rootId_extend]
    · rw [coords, TreeCoordinate.parentId_extend, h.heads _ c recorded]
    · simp [hroot, hdeclared, parent]
    · rw [coords, TreeCoordinate.isRoot_extend, hroot]
    · intro _
      refine ⟨c, recorded, ?_⟩
      rw [coords]
      rfl

/-! ## One move -/

/-- A move to a recorded path that does not contain this node, or to this node itself. -/
theorem Inv.of_moved (hm : Moved s s' p)
    (hp : p = s.myNodeAddr ∨ ∃ c, s.peerAncestry.lookup p = some c ∧ s.myNodeAddr ∉ c.nodeAddrs)
    (hheads : ∀ q c, s.peerAncestry.lookup q = some c → c.nodeAddr = q) : s'.Inv := by
  refine ⟨hm.declarer.trans hm.myNodeAddr.symm, ?_, ?_, ?_⟩
  · exact hm.anchored (hp.imp id fun ⟨c, hc, _⟩ => ⟨c, hc⟩)
  · intro c hne hc
    rw [hm.parentId, hm.myNodeAddr] at hne
    rw [hm.parentId, hm.peerAncestry] at hc
    obtain ⟨c', hc', hfree⟩ := hp.resolve_left hne
    rw [hm.myNodeAddr, ← Option.some.inj (hc'.symm.trans hc)]
    exact hfree
  · rw [hm.peerAncestry]
    exact hheads

/-- The table may change where it is not the parent's entry. -/
theorem Inv.of_lookup (h : s.Inv) {ancestry : Map NodeAddr TreeCoordinate}
    {declarations : Map NodeAddr (ParentDeclaration Signature)}
    (hl : s.myDeclaration.parentId ≠ s.myNodeAddr →
      ancestry.lookup s.myDeclaration.parentId = s.peerAncestry.lookup s.myDeclaration.parentId)
    (hheads : ∀ q c, ancestry.lookup q = some c → c.nodeAddr = q) :
    { s with peerAncestry := ancestry, peerDeclarations := declarations }.Inv := by
  refine ⟨h.declarer, ?_, fun c hne hc => h.loopFree c hne ((hl hne).symm.trans hc), hheads⟩
  cases h.anchored with
  | self parent root coords => exact .self parent root coords
  | child c parent recorded root coords =>
    exact .child c parent ((hl parent).trans recorded) root coords

theorem Inv.isRoot_iff (h : s.Inv) :
    s.isRoot = true ↔ s.myDeclaration.parentId = s.myNodeAddr := by
  rw [h.consistent.isRoot_iff_declared]
  unfold ParentDeclaration.isRoot
  rw [h.declarer, beq_iff_eq, eq_comm]

variable [LinkCost F] {peerCosts : Map NodeAddr F} {now : Nat} {clock : Clock}

/-- A recommended switch leads to a recorded path that does not contain this node. -/
theorem Inv.of_switch (hm : Moved s s' p) (hp : s.SwitchesTo peerCosts now p)
    (hheads : ∀ q c, s.peerAncestry.lookup q = some c → c.nodeAddr = q) : s'.Inv := by
  obtain ⟨_, c, -, hel, -, -⟩ := hp.eligible
  exact .of_moved hm (.inr ⟨c, hel.recorded, hel.loopFree⟩) hheads

end TreeState

/-! ## One event -/

/-- An announce of the event begins with its declaring node. -/
def TreeEvent.OwnHead {PublicKey Signature F : Type} : TreeEvent PublicKey Signature F → Prop
  | .announce _ received _ _ _ _ => received.OwnHead
  | _ => True

namespace TreeNode

variable {SecretKey PublicKey Signature F : Type}

/-- The invariant of a node of the run. -/
structure Inv (n : TreeNode SecretKey PublicKey Signature F) : Prop where
  identity : n.identity.nodeAddr = n.treeState.myNodeAddr
  treeState : n.treeState.Inv

variable [LinkCost F] [SigningKey SecretKey Signature] [VerifyingKey PublicKey Signature]

variable {n m out : TreeNode SecretKey PublicKey Signature F} {s s' : TreeState Signature F}
  {peerCosts : Map NodeAddr F} {clock lostClock : Clock} {source : NodeAddr}
  {announce : TreeAnnounce Signature} {env : SendEnv}

omit [SigningKey SecretKey Signature] [VerifyingKey PublicKey Signature] [LinkCost F] in
theorem Inv.of_treeState (h : n.Inv) (hid : m.identity = n.identity)
    (hs : m.treeState = n.treeState) : m.Inv := by
  refine ⟨?_, hs ▸ h.treeState⟩
  rw [hid, hs]
  exact h.identity

omit [SigningKey SecretKey Signature] [VerifyingKey PublicKey Signature] in
/-- Losing the parent leads to a recorded path without this node, or to this node itself. -/
theorem LostTo.inv (h : LostTo s s' peerCosts clock)
    (hheads : ∀ q c, s.peerAncestry.lookup q = some c → c.nodeAddr = q) : s'.Inv := by
  rcases h with ⟨p, hp, hm⟩ | ⟨-, hm⟩
  · exact .of_switch hm hp hheads
  · exact .of_moved hm (.inl rfl) hheads

omit [SigningKey SecretKey Signature] [LinkCost F] in
/-- Recording an announce that begins with its sender keeps the heads of the table. -/
theorem heads_recordAnnounce (h : n.treeState.Inv) (hadm : n.admits source announce = true)
    (hacc : n.treeState.accepts announce.declaration = true) (hhead : announce.OwnHead) (q : NodeAddr)
    (c : TreeCoordinate)
    (hc : (n.recordAnnounce source announce).1.treeState.peerAncestry.lookup q = some c) :
    c.nodeAddr = q := by
  change (n.treeState.updatePeer announce.declaration announce.ancestry).1.peerAncestry.lookup q =
    some c at hc
  rw [TreeState.updatePeer_eq hacc, admits_source hadm, Map.lookup_insert'] at hc
  split_ifs at hc with hq
  · rw [← Option.some.inj hc, hq, ← admits_source hadm]
    exact hhead
  · exact h.heads q c hc

omit [SigningKey SecretKey Signature] in
/-- **One announce.** -/
theorem AnnounceOutcome.inv {out : TreeNode SecretKey PublicKey Signature F ×
    List (TreeEffect Signature)} (h : n.Inv) (hhead : announce.OwnHead)
    (hout : AnnounceOutcome n (n.recordAnnounce source announce).1 source announce peerCosts clock
      lostClock env out) : out.1.Inv := by
  have hmid : (n.recordAnnounce source announce).1.identity = n.identity := rfl
  have hmt : (n.recordAnnounce source announce).1.treeState =
    (n.treeState.updatePeer announce.declaration announce.ancestry).1 := rfl
  have hheads : n.admits source announce = true →
      n.treeState.accepts announce.declaration = true → ∀ q c,
        (n.recordAnnounce source announce).1.treeState.peerAncestry.lookup q = some c →
          c.nodeAddr = q :=
    fun hadm hacc => heads_recordAnnounce h.treeState hadm hacc hhead
  have hmrec : n.admits source announce = true → n.treeState.accepts announce.declaration = true →
      (n.recordAnnounce source announce).1.treeState.peerAncestry.lookup source =
        some announce.ancestry := lookup_recordAnnounce
  generalize (n.recordAnnounce source announce).1 = m at hout hmid hmt hheads hmrec
  have hself : m.treeState.myNodeAddr = n.treeState.myNodeAddr := by
    rw [hmt, TreeState.updatePeer_myNodeAddr]
  -- the outcome moved `m` to a state that keeps the invariant
  have hmoved : ∀ {s' : TreeState Signature F} {out : TreeNode SecretKey PublicKey Signature F},
      out.identity = m.identity → out.treeState = s' → s'.myNodeAddr = m.treeState.myNodeAddr →
      s'.Inv → out.Inv := by
    intro s' out hid hs hme hinv
    refine ⟨?_, hs ▸ hinv⟩
    rw [hid, hmid, hs, hme, hself]
    exact h.identity
  cases hout with
  | unadmitted _ hout =>
    rw [hout]
    exact h
  | stale hacc hout =>
    rw [hout]
    exact h.of_treeState hmid (hmt.trans (by rw [TreeState.updatePeer_of_stale hacc]))
  | switched hadm hacc p s' hp hm _ hout =>
    exact hmoved hout.identity hout.treeState hm.myNodeAddr (.of_switch hm hp (hheads hadm hacc))
  | looping hadm hacc _ _ _ s' hlost _ hout =>
    have hme : s'.myNodeAddr = m.treeState.myNodeAddr := by
      rcases hlost with ⟨p, -, hm⟩ | ⟨-, hm⟩
      · exact hm.myNodeAddr
      · exact hm.myNodeAddr
    exact hmoved hout.identity hout.treeState hme (hlost.inv (hheads hadm hacc))
  | refreshed hadm hacc _ _ hloop s' hm _ hout =>
    have hrec : m.treeState.peerAncestry.lookup source = some announce.ancestry :=
      hmrec hadm hacc
    have hfree : m.treeState.myNodeAddr ∉ announce.ancestry.nodeAddrs := by
      rw [hself]
      exact fun hmem => hloop (TreeCoordinate.contains_iff.mpr hmem)
    have hinv : s'.Inv := .of_moved hm (.inr ⟨_, hrec, hfree⟩) (hheads hadm hacc)
    split_ifs at hout
    · exact hmoved hout.identity hout.treeState hm.myNodeAddr hinv
    · rw [hout]
      exact hmoved rfl rfl hm.myNodeAddr hinv
  | recorded hadm hacc _ hchild hout =>
    rw [hout]
    refine ⟨by rw [hmid, hself]; exact h.identity, ?_⟩
    have hall := hheads hadm hacc
    rw [hmt, TreeState.updatePeer_eq hacc] at hall ⊢
    refine h.treeState.of_lookup (fun hne => AList.lookup_insert_ne ?_) hall
    rw [admits_source hadm]
    intro hp
    refine hchild ⟨fun hroot => hne (h.treeState.isRoot_iff.mp hroot), hp⟩

omit [VerifyingKey PublicKey Signature] in
theorem Inv.reevaluateParent (h : n.Inv) (peerCosts : Map NodeAddr F) (clock : Clock)
    (env : SendEnv) : (n.reevaluateParent peerCosts clock env).1.Inv := by
  rcases reevaluateParent_cases h.identity peerCosts clock env with
    ⟨p, s', hp, hm, -, hout⟩ | hout
  · refine ⟨?_, ?_⟩
    · rw [hout.identity, hout.treeState]
      exact h.identity.trans hm.myNodeAddr.symm
    · rw [hout.treeState]
      exact .of_switch hm hp h.treeState.heads
  · rw [hout]
    exact h

omit [VerifyingKey PublicKey Signature] in
theorem Inv.removeActivePeer (h : n.Inv) (addr : NodeAddr) (peerCosts : Map NodeAddr F)
    (clock : Clock) : (n.removeActivePeer addr peerCosts clock).1.Inv := by
  have hheads : ∀ q c, (n.treeState.removePeer addr).peerAncestry.lookup q = some c →
      c.nodeAddr = q := by
    intro q c hc
    change (n.treeState.peerAncestry.erase addr).lookup q = some c at hc
    rw [Map.lookup_erase'] at hc
    split_ifs at hc
    exact h.treeState.heads q c hc
  by_cases haddr : addr ∈ n.peers
  · rcases removeActivePeer_cases h.identity haddr peerCosts clock with
      ⟨s', -, -, hlost, -, hout⟩ | ⟨hchild, hout⟩
    · rw [hout]
      refine ⟨?_, hlost.inv hheads⟩
      rcases hlost with ⟨p, -, hm⟩ | ⟨-, hm⟩
      · exact h.identity.trans hm.myNodeAddr.symm
      · exact h.identity.trans hm.myNodeAddr.symm
    · rw [hout]
      refine ⟨h.identity, h.treeState.of_lookup (fun hne => ?_) hheads⟩
      exact AList.lookup_erase_ne fun hp =>
        hchild ⟨fun hroot => hne (h.treeState.isRoot_iff.mp hroot), hp⟩
  · unfold TreeNode.removeActivePeer
    rw [if_pos haddr]
    exact h

/-- **One event** keeps the invariant. -/
theorem Inv.next (h : n.Inv) {e : TreeEvent PublicKey Signature F} (he : e.OwnHead) :
    (n.next e).Inv := by
  cases e with
  | announce source announce peerCosts clock lostClock env =>
    exact (handleTreeAnnounce_outcome h.identity source announce peerCosts clock lostClock env).inv
      h he
  | periodicReeval peerCosts clock env =>
    show (n.checkPeriodicParentReeval peerCosts clock env).1.Inv
    rcases n.checkPeriodicParentReeval_cases peerCosts clock env with hout | ⟨-, hout⟩
    · rw [hout]
      exact h
    · rw [hout]
      exact Inv.reevaluateParent (n := { n with lastParentReeval := some clock.instant })
        ⟨h.identity, h.treeState⟩ peerCosts clock env
  | firstRtt peerCosts clock env => exact h.reevaluateParent peerCosts clock env
  | removePeer addr peerCosts clock => exact h.removeActivePeer addr peerCosts clock
  | sendPending nowMs env =>
    exact h.of_treeState (sendTreeAnnounces_identity ..) (sendTreeAnnounces_treeState ..)
  | promotePeer addr pubkey env =>
    exact h.of_treeState (n.promotePeer_identity env addr pubkey)
      (n.promotePeer_treeState env addr pubkey)
  | rehash ancestry =>
    unfold TreeNode.next step
    simp only
    split_ifs with hre
    · refine ⟨h.identity, h.treeState.of_lookup (fun _ => Map.lookup_rehash hre _) ?_⟩
      intro q c hc
      rw [Map.lookup_rehash hre] at hc
      exact h.treeState.heads q c hc
    · exact h

/-! ## Runs -/

omit [VerifyingKey PublicKey Signature] in
theorem inv_new (identity : Identity SecretKey) (timestamp : Nat) (hysteresis : F)
    (holdDownSecs flapThreshold flapWindowSecs flapDampeningSecs reevalIntervalSecs
      announceMinIntervalMs : Nat) :
    (new identity timestamp hysteresis holdDownSecs flapThreshold flapWindowSecs flapDampeningSecs
      reevalIntervalSecs announceMinIntervalMs : TreeNode SecretKey PublicKey Signature F).Inv := by
  obtain ⟨sig, hsig⟩ := TreeState.signDeclaration_eq
    ((((TreeState.new identity.nodeAddr timestamp : TreeState Signature F).setParentHysteresis
      hysteresis).setHoldDown holdDownSecs).setFlapDampening
      flapThreshold flapWindowSecs flapDampeningSecs) identity rfl
  unfold new
  simp only [hsig]
  exact ⟨rfl, rfl, .self rfl rfl rfl, fun _ hne => absurd rfl hne, nofun⟩

variable [SchnorrSignature Signature]

/-- An event of a node on the wire: its announce, if it is one, was decoded from some bytes. -/
def Received (e : TreeEvent PublicKey Signature F) : Prop :=
  match e with
  | .announce _ announce _ _ _ _ => ∃ payload, TreeAnnounce.decode payload = .ok announce
  | _ => True

omit [LinkCost F] [VerifyingKey PublicKey Signature] in
theorem Received.ownHead {e : TreeEvent PublicKey Signature F} (h : Received e) : e.OwnHead := by
  cases e with
  | announce =>
    obtain ⟨payload, hdec⟩ := h
    exact TreeAnnounce.ownHead_of_decode hdec
  | _ => exact trivial

/-- **Local tree consistency.** In every state of every run of received events from a new node, the
declaration, the coordinates, the root and the recorded ancestries agree. -/
theorem consistent_of_received (identity : Identity SecretKey) (timestamp : Nat) (hysteresis : F)
    (holdDownSecs flapThreshold flapWindowSecs flapDampeningSecs reevalIntervalSecs
      announceMinIntervalMs : Nat)
    (events : List { e : TreeEvent PublicKey Signature F // Received e }) :
    EventRun.Always (fun n e => next n e.1) (fun n => n.treeState.Consistent)
      (new identity timestamp hysteresis holdDownSecs flapThreshold flapWindowSecs
        flapDampeningSecs reevalIntervalSecs announceMinIntervalMs :
        TreeNode SecretKey PublicKey Signature F) events :=
  (EventRun.Always.of_step (I := Inv) (fun _ e hn => hn.next e.2.ownHead)
    (inv_new _ _ _ _ _ _ _ _ _)).mono fun _ hn => hn.treeState.consistent

end TreeNode

namespace RootElection

/-- Any 64 bytes are a signature of the scheme. -/
scoped instance : SchnorrSignature Unit := ⟨fun _ => some ()⟩

/-- Peer 7 under root 3. -/
def announced : TreeAnnounce Unit :=
  ⟨⟨7, 3, 1, 0, some ()⟩, ⟨[⟨7, 1, 0⟩, ⟨3, 1, 0⟩], List.cons_ne_nil _ _⟩⟩

/-- The announce on the wire, behind its type byte. -/
def payload : Bytes :=
  0x01 :: (leBytes 8 1 ++ leBytes 8 0 ++ NodeAddr.bytes 3 ++ leBytes 2 2 ++
    (NodeAddr.bytes 7 ++ leBytes 8 1 ++ leBytes 8 0) ++
    (NodeAddr.bytes 3 ++ leBytes 8 1 ++ leBytes 8 0) ++ List.replicate 64 0)

theorem decode_payload : TreeAnnounce.decode payload = .ok announced := by decide +kernel

/-- Node 5 promotes peer 7 and receives its announce. -/
def received : List { e : TreeEvent Unit Unit (Option Nat) // TreeNode.Received e } :=
  [⟨.promotePeer 7 () env, trivial⟩,
    ⟨.announce 7 announced ∅ ⟨1, 1000, 1⟩ ⟨1, 1000, 1⟩ env, payload, decode_payload⟩]

/-- Node 5 ends below peer 7, and consistent throughout. -/
theorem consistent_of_received_announced :
    (EventRun.exec (fun n e => TreeNode.next n e.1) start received).treeState.myDeclaration.parentId
      = 7 ∧
    EventRun.Always (fun n e => TreeNode.next n e.1) (fun n => n.treeState.Consistent) start
      received :=
  ⟨by decide, TreeNode.consistent_of_received ⟨5, ()⟩ 0 (some 0) 0 4 60 120 60 500 received⟩

end RootElection

end Fips
