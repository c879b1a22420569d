import Fips.Node.PeerPositions
import Fips.Node.Relocation

/-!
# No equivocation

A receiver keeps only strictly fresher declarations, so a node must never describe two positions
under one sequence. The sequence, the signature and the coordinates are updated by separate calls
on several paths (`switchParent`, `refreshParent`, `dropLoopingParent`, the removal of the parent);
each of them takes the next sequence first, and nothing else writes to the declaration or the
coordinates (`Renews`).

`built` lists the announces a node builds in a run, in order: the one it would build in every state
and those it sends.

The sequence is a `u64` in the source. It grows by at most one with each event (`sequence_exec_le`),
so a run reaches the end of that range only after 2^64 - 2 events, and is a natural number here.

## Results

* `renews_next`: what one event does to the declaration and the coordinates.
* `built_pairwise`: two announces built in one run are equal, or the later one is fresher.
* `no_equivocation`: equal sequences mean equal announces, a changed position has a larger
  sequence, and a receiver ends with the announce that the others it heard are older than.
-/

namespace Fips

variable {SecretKey PublicKey Signature F : Type}

namespace TreeState

variable {s s' t : TreeState Signature F}

/-- The declaration and the coordinates stay the same, or the declaration is the node's own under
the next sequence. -/
structure Renews (s s' : TreeState Signature F) : Prop where
  myNodeAddr : s'.myNodeAddr = s.myNodeAddr
  position : (s'.myDeclaration = s.myDeclaration ∧ s'.myCoords = s.myCoords) ∨
    (s'.myDeclaration.sequence = s.myDeclaration.sequence + 1 ∧
      s'.myDeclaration.nodeAddr = s.myNodeAddr)

theorem Renews.refl (s : TreeState Signature F) : Renews s s := ⟨rfl, .inl ⟨rfl, rfl⟩⟩

/-- The declaration is the node's own under the next sequence, perhaps signed. -/
structure Renewed (s s' : TreeState Signature F) : Prop where
  myNodeAddr : s'.myNodeAddr = s.myNodeAddr
  sequence : s'.myDeclaration.sequence = s.myDeclaration.sequence + 1
  declarer : s'.myDeclaration.nodeAddr = s.myNodeAddr

theorem Renewed.renews (h : Renewed s s') : Renews s s' :=
  ⟨h.myNodeAddr, .inr ⟨h.sequence, h.declarer⟩⟩

theorem Renewed.recomputeCoords (h : Renewed s s') : Renewed s s'.recomputeCoords :=
  ⟨s'.recomputeCoords_myNodeAddr.trans h.myNodeAddr,
    (congrArg _ s'.recomputeCoords_myDeclaration).trans h.sequence,
    (congrArg _ s'.recomputeCoords_myDeclaration).trans h.declarer⟩

theorem Renewed.signed [SigningKey SecretKey Signature] {identity : Identity SecretKey}
    (h : Renewed s s') (hsign : s'.signDeclaration identity = .ok t) : Renewed s t := by
  unfold signDeclaration ParentDeclaration.sign at hsign
  split_ifs at hsign
  cases hsign
  exact ⟨h.myNodeAddr, h.sequence, h.declarer⟩

theorem renewed_setParent (s : TreeState Signature F) (p : NodeAddr) (ts now : Nat) :
    Renewed s (s.setParent p (s.myDeclaration.sequence + 1) ts now).1 :=
  ⟨by simp, by simp [ParentDeclaration.new], by simp [ParentDeclaration.new]⟩

theorem renewed_handleParentLost [LinkCost F] (s : TreeState Signature F)
    (peerCosts : Map NodeAddr F) (clock : Clock) :
    Renewed s (s.handleParentLost peerCosts clock).1 := by
  unfold handleParentLost
  cases s.evaluateParent peerCosts clock.instant with
  | some p => exact (s.renewed_setParent p clock.unixSecs clock.instant).recomputeCoords
  | none =>
    have hroot : Renewed s { s with
        myDeclaration := .selfRoot s.myNodeAddr (s.myDeclaration.sequence + 1) clock.unixSecs } :=
      ⟨rfl, rfl, rfl⟩
    exact hroot.recomputeCoords

/-- A receiver's tables after the announces `heard`, in the order they arrive. -/
def hear (s : TreeState Signature F) (heard : List (TreeAnnounce Signature)) :
    TreeState Signature F :=
  heard.foldl (fun s announce => (s.updatePeer announce.declaration announce.ancestry).1) s

/-- It ends with the freshest of them. -/
theorem stored_hear {s : TreeState Signature F} {addr : NodeAddr}
    {before heard : List (TreeAnnounce Signature)}
    (h : s.stored addr = TreeAnnounce.position before)
    (haddr : ∀ a ∈ heard, a.declaration.nodeAddr = addr) :
    (s.hear heard).stored addr = TreeAnnounce.position (before ++ heard) := by
  induction heard generalizing s before with
  | nil => rw [List.append_nil, ← h]; rfl
  | cons a heard ih =>
    obtain rfl := haddr a List.mem_cons_self
    have hrest := ih (stored_updatePeer h) fun b hb => haddr b (List.mem_cons_of_mem a hb)
    rwa [List.append_assoc] at hrest

end TreeState

namespace TreeNode

open TreeState (Renews Renewed)

variable {n m : TreeNode SecretKey PublicKey Signature F}

/-! ## One event -/

section Handlers

variable [SigningKey SecretKey Signature]

theorem renewed_switchParent (n : TreeNode SecretKey PublicKey Signature F) (p : NodeAddr)
    (clock : Clock) (env : SendEnv) :
    Renewed n.treeState (n.switchParent p clock env).1.treeState := by
  have hset := n.treeState.renewed_setParent p clock.unixSecs clock.instant
  unfold switchParent
  cases hsign : ((n.treeState.setParent p (n.treeState.myDeclaration.sequence + 1) clock.unixSecs
      clock.instant).1.signDeclaration n.identity) with
  | error e =>
    simp only [hsign]
    exact hset
  | ok signed =>
    simp only [hsign]
    rw [sendTreeAnnounceToAll_treeState]
    exact (hset.signed hsign).recomputeCoords

theorem renewed_refreshParent (n : TreeNode SecretKey PublicKey Signature F) (p : NodeAddr)
    (clock : Clock) (env : SendEnv) :
    Renewed n.treeState (n.refreshParent p clock env).1.treeState := by
  have hset := n.treeState.renewed_setParent p clock.unixSecs clock.instant
  unfold refreshParent
  cases hsign : ((n.treeState.setParent p (n.treeState.myDeclaration.sequence + 1) clock.unixSecs
      clock.instant).1.signDeclaration n.identity) with
  | error e =>
    simp only [hsign]
    exact hset
  | ok signed =>
    simp only [hsign]
    split_ifs
    · rw [sendTreeAnnounceToAll_treeState]
      exact (hset.signed hsign).recomputeCoords
    · exact (hset.signed hsign).recomputeCoords

variable [LinkCost F]

theorem renewed_dropLoopingParent (n : TreeNode SecretKey PublicKey Signature F)
    (peerCosts : Map NodeAddr F) (clock : Clock) (env : SendEnv) :
    Renewed n.treeState (n.dropLoopingParent peerCosts clock env).1.treeState := by
  have hlost := n.treeState.renewed_handleParentLost peerCosts clock
  unfold dropLoopingParent
  simp only [TreeState.handleParentLost_changed, if_true]
  cases hsign : (n.treeState.handleParentLost peerCosts clock).1.signDeclaration n.identity with
  | error e => exact hlost
  | ok signed =>
    dsimp only
    rw [sendTreeAnnounceToAll_treeState]
    exact hlost.signed hsign

theorem renews_reevaluateParent (n : TreeNode SecretKey PublicKey Signature F)
    (peerCosts : Map NodeAddr F) (clock : Clock) (env : SendEnv) :
    Renews n.treeState (n.reevaluateParent peerCosts clock env).1.treeState := by
  unfold reevaluateParent
  cases n.treeState.evaluateParent peerCosts clock.instant with
  | some p => exact (n.renewed_switchParent p clock env).renews
  | none => exact Renews.refl _

theorem renews_removeActivePeer (n : TreeNode SecretKey PublicKey Signature F) (addr : NodeAddr)
    (peerCosts : Map NodeAddr F) (clock : Clock) :
    Renews n.treeState (n.removeActivePeer addr peerCosts clock).1.treeState := by
  have hlost := (n.treeState.removePeer addr).renewed_handleParentLost peerCosts clock
  unfold removeActivePeer
  by_cases haddr : addr ∉ n.peers
  · rw [if_pos haddr]
    exact Renews.refl _
  · rw [if_neg haddr]
    unfold handlePeerRemovalTreeCleanup
    simp only [TreeState.handleParentLost_changed, if_true]
    by_cases hparent : (!n.treeState.isRoot && n.treeState.myDeclaration.parentId == addr) = true
    · simp only [hparent, if_true]
      cases hsign : ((n.treeState.removePeer addr).handleParentLost peerCosts
          clock).1.signDeclaration n.identity with
      | error e => exact Renewed.renews ⟨hlost.myNodeAddr, hlost.sequence, hlost.declarer⟩
      | ok signed =>
        have hsigned := hlost.signed hsign
        exact Renewed.renews ⟨hsigned.myNodeAddr, hsigned.sequence, hsigned.declarer⟩
    · simp only [hparent]
      exact ⟨rfl, .inl ⟨rfl, rfl⟩⟩

variable [VerifyingKey PublicKey Signature]

theorem renews_handleTreeAnnounce (n : TreeNode SecretKey PublicKey Signature F)
    (source : NodeAddr) (announce : TreeAnnounce Signature) (peerCosts : Map NodeAddr F)
    (clock lostClock : Clock) (env : SendEnv) :
    Renews n.treeState
      (n.handleTreeAnnounce source announce peerCosts clock lostClock env).1.treeState := by
  -- recording the announce leaves the node's own position alone
  have hdecl : (n.recordAnnounce source announce).1.treeState.myDeclaration =
    n.treeState.myDeclaration := TreeState.updatePeer_myDeclaration ..
  have haddr : (n.recordAnnounce source announce).1.treeState.myNodeAddr =
    n.treeState.myNodeAddr := TreeState.updatePeer_myNodeAddr ..
  have hcoords : (n.recordAnnounce source announce).1.treeState.myCoords =
    n.treeState.myCoords := TreeState.updatePeer_myCoords ..
  have hkept : ∀ {t : TreeState Signature F},
      Renewed (n.recordAnnounce source announce).1.treeState t → Renews n.treeState t :=
    fun h => Renewed.renews
      ⟨h.myNodeAddr.trans haddr, hdecl ▸ h.sequence, h.declarer.trans haddr⟩
  unfold handleTreeAnnounce
  by_cases hadm : n.admits source announce = true
  swap
  · rw [if_pos hadm]
    exact Renews.refl _
  simp only [hadm, not_true_eq_false, if_false]
  generalize (n.recordAnnounce source announce).1 = m at hdecl haddr hcoords hkept
  generalize (n.recordAnnounce source announce).2 = updated
  have hrecorded : Renews n.treeState m.treeState := ⟨haddr, .inl ⟨hdecl, hcoords⟩⟩
  cases updated with
  | false => exact hrecorded
  | true =>
    simp only [not_true_eq_false, if_false]
    generalize (if m.isTreePeer source then [TreeEffect.markFilterUpdates [source]] else
      ([] : List (TreeEffect Signature))) = marks
    cases m.treeState.evaluateParent peerCosts clock.instant with
    | some p => exact hkept (m.renewed_switchParent p clock env)
    | none =>
      -- the parent's ancestry closes a loop, the position follows the parent, or another peer's
      dsimp only
      split_ifs with hparent hloop
      · exact hkept (m.renewed_dropLoopingParent peerCosts lostClock env)
      · exact hkept (m.renewed_refreshParent source clock env)
      · exact hrecorded

/-- **One event.** The position stays, or the declaration takes the next sequence. -/
theorem renews_next (n : TreeNode SecretKey PublicKey Signature F)
    (e : TreeEvent PublicKey Signature F) : Renews n.treeState (n.next e).treeState := by
  cases e with
  | announce source announce peerCosts clock lostClock env =>
    exact n.renews_handleTreeAnnounce source announce peerCosts clock lostClock env
  | periodicReeval peerCosts clock env =>
    change Renews _ (n.checkPeriodicParentReeval peerCosts clock env).1.treeState
    rcases n.checkPeriodicParentReeval_cases peerCosts clock env with hout | ⟨-, hout⟩
    · rw [hout]
      exact Renews.refl _
    · rw [hout]
      exact renews_reevaluateParent { n with lastParentReeval := some clock.instant } peerCosts clock
        env
  | firstRtt peerCosts clock env => exact n.renews_reevaluateParent peerCosts clock env
  | removePeer addr peerCosts clock => exact n.renews_removeActivePeer addr peerCosts clock
  | sendPending nowMs env =>
    have hkept : (n.next (.sendPending nowMs env)).treeState = n.treeState :=
      sendTreeAnnounces_treeState ..
    rw [hkept]
    exact Renews.refl _
  | promotePeer addr pubkey env =>
    have hkept : (n.next (.promotePeer addr pubkey env)).treeState = n.treeState :=
      n.promotePeer_treeState env addr pubkey
    rw [hkept]
    exact Renews.refl _
  | rehash ancestry =>
    unfold next step
    dsimp only
    split_ifs
    · exact ⟨rfl, .inl ⟨rfl, rfl⟩⟩
    · exact Renews.refl _

end Handlers

/-! ## Runs -/

/-- The announce an effect sends. -/
def sentAnnounce : TreeEffect Signature → Option (TreeAnnounce Signature)
  | .sentTreeAnnounce _ a => some a
  | _ => none

/-- The announce the node would build now, if it would build one. -/
def buildable (n : TreeNode SecretKey PublicKey Signature F) : List (TreeAnnounce Signature) :=
  match n.buildTreeAnnounce with
  | .ok a => [a]
  | .error _ => []

theorem mem_buildable {a : TreeAnnounce Signature} (h : a ∈ n.buildable) :
    a = n.currentAnnounce := by
  unfold buildable at h
  cases hb : n.buildTreeAnnounce with
  | error e =>
    rw [hb] at h
    cases h
  | ok b =>
    rw [hb] at h
    rw [List.mem_singleton.mp h]
    unfold buildTreeAnnounce at hb
    split_ifs at hb
    exact (Except.ok.inj hb).symm

section Runs

variable [SigningKey SecretKey Signature] [VerifyingKey PublicKey Signature] [LinkCost F]

/-- The announces built in a run, in order: what the node would build in each state, and what each
event sends. -/
def built (n : TreeNode SecretKey PublicKey Signature F) :
    List (TreeEvent PublicKey Signature F) → List (TreeAnnounce Signature)
  | [] => n.buildable
  | e :: es => n.buildable ++ ((n.step e).2.filterMap sentAnnounce ++ built (n.next e) es)

theorem mem_sent {e : TreeEvent PublicKey Signature F} {a : TreeAnnounce Signature}
    (h : a ∈ (n.step e).2.filterMap sentAnnounce) : a = (n.next e).currentAnnounce := by
  obtain ⟨effect, hmem, heffect⟩ := List.mem_filterMap.mp h
  cases effect with
  | sentTreeAnnounce p b =>
    obtain rfl := Option.some.inj heffect
    exact step_sendsCurrent e p b hmem
  | clearCoordCache => cases heffect
  | resetDiscoveryBackoff => cases heffect
  | markFilterUpdates peers => cases heffect

/-- The announce of the next state is the same, or has the next sequence. -/
theorem currentAnnounce_next (n : TreeNode SecretKey PublicKey Signature F)
    (e : TreeEvent PublicKey Signature F) :
    (n.next e).currentAnnounce = n.currentAnnounce ∨
      (n.next e).currentAnnounce.declaration.sequence =
        n.currentAnnounce.declaration.sequence + 1 := by
  refine (n.renews_next e).position.imp (fun h => ?_) fun h => h.1
  unfold currentAnnounce
  rw [h.1, h.2]

/-- `b` may be built once `a` was: it is the same announce or a fresher one. -/
def Follows (a b : TreeAnnounce Signature) : Prop :=
  b = a ∨ a.declaration.sequence < b.declaration.sequence

omit [SigningKey SecretKey Signature] [VerifyingKey PublicKey Signature] [LinkCost F] in
theorem Follows.trans {a b c : TreeAnnounce Signature} (hab : Follows a b) (hbc : Follows b c) :
    Follows a c := by
  rcases hab with rfl | hab
  · exact hbc
  · rcases hbc with rfl | hbc
    · exact .inr hab
    · exact .inr (hab.trans hbc)

theorem follows_next (n : TreeNode SecretKey PublicKey Signature F)
    (e : TreeEvent PublicKey Signature F) :
    Follows n.currentAnnounce (n.next e).currentAnnounce :=
  (n.currentAnnounce_next e).imp_right fun h => by omega

/-- What a run builds follows the announce of its first state. -/
theorem follows_built {a : TreeAnnounce Signature} (events : List (TreeEvent PublicKey Signature F))
    (h : a ∈ n.built events) : Follows n.currentAnnounce a := by
  induction events generalizing n with
  | nil => exact .inl (mem_buildable h)
  | cons e es ih =>
    rcases List.mem_append.mp h with h | h
    · exact .inl (mem_buildable h)
    · refine (n.follows_next e).trans ?_
      rcases List.mem_append.mp h with h | h
      · exact .inl (mem_sent h)
      · exact ih h

/-- **One run.** A later announce is the same or fresher. -/
theorem built_pairwise (n : TreeNode SecretKey PublicKey Signature F)
    (events : List (TreeEvent PublicKey Signature F)) : (n.built events).Pairwise Follows := by
  have hnow : ∀ {m : TreeNode SecretKey PublicKey Signature F}, m.buildable.Pairwise Follows := by
    intro m
    refine List.pairwise_of_forall_mem_list fun a ha b hb => .inl ?_
    rw [mem_buildable ha, mem_buildable hb]
  induction events generalizing n with
  | nil => exact hnow
  | cons e es ih =>
    refine List.pairwise_append.mpr ⟨hnow, List.pairwise_append.mpr ⟨?_, ih _, ?_⟩, ?_⟩
    · refine List.pairwise_of_forall_mem_list fun a ha b hb => .inl ?_
      rw [mem_sent ha, mem_sent hb]
    · intro a ha b hb
      rw [mem_sent ha]
      exact follows_built es hb
    · intro a ha b hb
      rw [mem_buildable ha]
      refine (n.follows_next e).trans ?_
      rcases List.mem_append.mp hb with hb | hb
      · exact .inl (mem_sent hb)
      · exact follows_built es hb

/-- Equal sequences mean equal announces. -/
theorem eq_of_sequence_eq {events : List (TreeEvent PublicKey Signature F)}
    {a b : TreeAnnounce Signature} (ha : a ∈ n.built events) (hb : b ∈ n.built events)
    (h : a.declaration.sequence = b.declaration.sequence) : a = b := by
  have hpair := n.built_pairwise events
  refine List.Pairwise.forall_of_forall_of_flip
    (R := fun a b => a.declaration.sequence = b.declaration.sequence → a = b)
    (fun _ _ _ => rfl) (hpair.imp fun hf hseq => ?_) (hpair.imp fun hf hseq => ?_) ha hb h
  · exact (hf.resolve_right (by omega)).symm
  · exact hf.resolve_right (by omega)

/-- The sequence grows by at most one with each event. -/
theorem sequence_exec_le (n : TreeNode SecretKey PublicKey Signature F)
    (events : List (TreeEvent PublicKey Signature F)) :
    (EventRun.exec next n events).treeState.myDeclaration.sequence ≤
      n.treeState.myDeclaration.sequence + events.length := by
  induction events generalizing n with
  | nil => exact le_rfl
  | cons e es ih =>
    have hnext : (n.next e).treeState.myDeclaration.sequence ≤
        n.treeState.myDeclaration.sequence + 1 := by
      rcases (n.renews_next e).position with ⟨hdecl, -⟩ | ⟨hseq, -⟩
      · rw [hdecl]
        omega
      · exact hseq.le
    refine (ih _).trans ?_
    rw [List.length_cons]
    omega

/-- The node's declaration is its own. -/
theorem declarer_built {a : TreeAnnounce Signature} {addr : NodeAddr}
    (haddr : n.treeState.myNodeAddr = addr) (hdecl : n.treeState.myDeclaration.nodeAddr = addr)
    (events : List (TreeEvent PublicKey Signature F)) (ha : a ∈ n.built events) :
    a.declaration.nodeAddr = addr := by
  induction events generalizing n with
  | nil =>
    rw [mem_buildable ha]
    exact hdecl
  | cons e es ih =>
    have hrenews := n.renews_next e
    have hdecl' : (n.next e).treeState.myDeclaration.nodeAddr = addr := by
      rcases hrenews.position with ⟨h, -⟩ | ⟨-, h⟩
      · rw [h, hdecl]
      · exact h.trans haddr
    rcases List.mem_append.mp ha with ha | ha
    · rw [mem_buildable ha]
      exact hdecl
    · rcases List.mem_append.mp ha with ha | ha
      · rw [mem_sent ha]
        exact hdecl'
      · exact ih (hrenews.myNodeAddr.trans haddr) hdecl' ha

/-- **No equivocation.** In every run of a node:

* two announces it builds with one sequence are equal;
* an event that changes the declared parent, the timestamp or the ancestry increases the sequence;
* a receiver that hears any of the announces, in any order, ends with one of them that all the
  others are older than. -/
theorem no_equivocation (identity : Identity SecretKey) (timestamp : Nat)
    (hysteresis : F) (holdDownSecs flapThreshold flapWindowSecs flapDampeningSecs
      reevalIntervalSecs announceMinIntervalMs : Nat)
    (events : List (TreeEvent PublicKey Signature F)) :
    let start : TreeNode SecretKey PublicKey Signature F :=
      .new identity timestamp hysteresis holdDownSecs flapThreshold flapWindowSecs
        flapDampeningSecs reevalIntervalSecs announceMinIntervalMs
    (∀ a ∈ start.built events, ∀ b ∈ start.built events,
      a.declaration.sequence = b.declaration.sequence → a = b) ∧
    EventRun.Along next (fun n e =>
      (n.next e).treeState.myDeclaration.parentId ≠ n.treeState.myDeclaration.parentId ∨
      (n.next e).treeState.myDeclaration.timestamp ≠ n.treeState.myDeclaration.timestamp ∨
      (n.next e).treeState.myCoords ≠ n.treeState.myCoords →
        n.treeState.myDeclaration.sequence < (n.next e).treeState.myDeclaration.sequence)
      start events ∧
    ∀ heard, (∀ a ∈ heard, a ∈ start.built events) → ∀ receiver : TreeState Signature F,
      receiver.stored identity.nodeAddr = (none, none) →
        (receiver.hear heard).stored identity.nodeAddr = TreeAnnounce.position heard ∧
        ∀ latest ∈ TreeAnnounce.freshest heard, ∀ a ∈ heard,
          a = latest ∨ a.declaration.sequence < latest.declaration.sequence := by
  intro start
  refine ⟨fun a ha b hb => eq_of_sequence_eq ha hb, ?_, ?_⟩
  · refine EventRun.along_of_forall (fun n e hchange => ?_) start events
    rcases (n.renews_next e).position with ⟨hdecl, hcoords⟩ | ⟨hseq, -⟩
    · rw [hdecl, hcoords] at hchange
      simp at hchange
    · omega
  · intro heard hheard receiver hnew
    obtain ⟨sig, hstart⟩ := new_treeState _ _ _ _ _ _ _ _ _ start rfl
    have hown : ∀ a ∈ heard, a.declaration.nodeAddr = identity.nodeAddr := by
      refine fun a ha => declarer_built ?_ ?_ events (hheard a ha)
      · rw [hstart]
        rfl
      · rw [hstart]
    have hempty : receiver.stored identity.nodeAddr = TreeAnnounce.position [] := hnew
    refine ⟨TreeState.stored_hear hempty hown, fun latest hlatest a ha => ?_⟩
    have hle := List.le_of_mem_argmax (f := fun a : TreeAnnounce Signature =>
      a.declaration.sequence) ha hlatest
    rcases hle.eq_or_lt with heq | hlt
    · exact .inl (eq_of_sequence_eq (hheard a ha) (hheard latest (List.argmax_mem hlatest)) heq)
    · exact .inr hlt

end Runs

end TreeNode

end Fips
