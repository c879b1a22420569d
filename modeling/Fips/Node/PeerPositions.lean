import Mathlib.Data.List.MinMax
import Fips.Node.RootElection

/-!
# One view of a peer's tree position

A peer's declaration and ancestry are stored twice: in its `ActivePeer` and in the `TreeState`.
`handle_tree_announce` overwrites the first before `update_peer` checks the freshness of the
announce and the second after it. `Heard` pairs a node with the announces it admitted from each peer
since it last removed that peer; `Heard.OneView` says that both stores hold, of every active peer,
the announce with the highest sequence (the first of them).

It fails in two ways:

* an announce that is not fresher than the stored one reaches the `ActivePeer` alone;
* an active peer is promoted again (the loser of a cross connection is replaced) and starts with
  empty slots, while the `TreeState` keeps its entry.

`KeepsView` says of one event that neither happens.

## Results

* `TreeState.stored_updatePeer`: `update_peer` keeps the announce with the highest sequence.
* `sameBooks_announce`, `sameBooks_reevaluateParent`: what a handler does after the announce is
  recorded touches neither store.
* `inv_next`, `keepsView_of_next`: an event from within one view keeps it exactly when it meets
  `KeepsView`.
* `oneView_iff_keepsView`: a run from a new node has one view throughout exactly when all its events
  meet the condition.
* `stale_announce_splits_view`: a run that breaks it.
-/

namespace Fips

open TreeState (Moved)

variable {SecretKey PublicKey Signature F : Type}

/-! ## The freshest announce -/

namespace TreeAnnounce

/-- The announce with the highest sequence, the first of those. -/
def freshest (heard : List (TreeAnnounce Signature)) : Option (TreeAnnounce Signature) :=
  heard.argmax fun announce => announce.declaration.sequence

/-- The position it declares. -/
def position (heard : List (TreeAnnounce Signature)) :
    Option (ParentDeclaration Signature) × Option TreeCoordinate :=
  ((freshest heard).map fun announce => announce.declaration,
    (freshest heard).map fun announce => announce.ancestry)

end TreeAnnounce

namespace TreeState

/-- What the tables hold of a peer's position. -/
def stored (s : TreeState Signature F) (p : NodeAddr) :
    Option (ParentDeclaration Signature) × Option TreeCoordinate :=
  (s.peerDeclarations.lookup p, s.peerAncestry.lookup p)

theorem stored_updatePeer_ne (s : TreeState Signature F) {announce : TreeAnnounce Signature}
    {p : NodeAddr} (hp : p ≠ announce.declaration.nodeAddr) :
    (s.updatePeer announce.declaration announce.ancestry).1.stored p = s.stored p := by
  unfold updatePeer stored
  split_ifs
  · dsimp only
    rw [AList.lookup_insert_ne hp, AList.lookup_insert_ne hp]
  · rfl

theorem stored_updatePeer_self {s : TreeState Signature F} {announce : TreeAnnounce Signature}
    (h : s.accepts announce.declaration = true) :
    (s.updatePeer announce.declaration announce.ancestry).1.stored announce.declaration.nodeAddr =
      (some announce.declaration, some announce.ancestry) := by
  rw [updatePeer_eq h]
  unfold stored
  dsimp only
  rw [AList.lookup_insert, AList.lookup_insert]

/-- `update_peer` accepts exactly what is freshest. -/
theorem stored_updatePeer {s : TreeState Signature F} {announce : TreeAnnounce Signature}
    {heard : List (TreeAnnounce Signature)}
    (h : s.stored announce.declaration.nodeAddr = TreeAnnounce.position heard) :
    (s.updatePeer announce.declaration announce.ancestry).1.stored announce.declaration.nodeAddr =
      TreeAnnounce.position (heard ++ [announce]) := by
  have hdecl : s.peerDeclarations.lookup announce.declaration.nodeAddr =
      (TreeAnnounce.freshest heard).map fun announce => announce.declaration :=
    congrArg Prod.fst h
  unfold TreeAnnounce.position at h ⊢
  unfold TreeAnnounce.freshest at h hdecl ⊢
  rw [List.argmax_concat]
  generalize heard.argmax (fun announce => announce.declaration.sequence) = best at h hdecl ⊢
  cases best with
  | none =>
    have hacc : s.accepts announce.declaration = true := by
      unfold accepts
      rw [hdecl]
      rfl
    exact stored_updatePeer_self hacc
  | some best =>
    have hiff : s.accepts announce.declaration = true ↔
        best.declaration.sequence < announce.declaration.sequence := by
      unfold accepts
      rw [hdecl]
      exact decide_eq_true_iff
    dsimp only
    split_ifs with hlt
    · exact stored_updatePeer_self (hiff.mpr hlt)
    · rw [updatePeer_of_stale fun hacc => hlt (hiff.mp hacc)]
      exact h

end TreeState

namespace TreeNode

variable {n m : TreeNode SecretKey PublicKey Signature F}

/-! ## The two stores -/

/-- What the `ActivePeer` holds of a peer's position. -/
def slots (n : TreeNode SecretKey PublicKey Signature F) (p : NodeAddr) :
    Option (Option (ParentDeclaration Signature) × Option TreeCoordinate) :=
  (n.peers.lookup p).map fun peer => (peer.declaration, peer.ancestry)

/-- Neither store differs between the two nodes. -/
def SameBooks (n m : TreeNode SecretKey PublicKey Signature F) : Prop :=
  ∀ p, m.slots p = n.slots p ∧ m.treeState.stored p = n.treeState.stored p

theorem SameBooks.refl (n : TreeNode SecretKey PublicKey Signature F) : SameBooks n n :=
  fun _ => ⟨rfl, rfl⟩

theorem SameBooks.trans {k : TreeNode SecretKey PublicKey Signature F} (h : SameBooks n m)
    (h' : SameBooks m k) : SameBooks n k :=
  fun p => ⟨(h' p).1.trans (h p).1, (h' p).2.trans (h p).2⟩

theorem slots_isSome_iff {p : NodeAddr} : (n.slots p).isSome ↔ p ∈ n.peers := by
  unfold slots
  rw [Option.isSome_map, AList.lookup_isSome]

theorem SameBooks.mem_peers (h : SameBooks n m) (p : NodeAddr) : p ∈ m.peers ↔ p ∈ n.peers := by
  rw [← slots_isSome_iff, ← slots_isSome_iff, (h p).1]

/-- Mutation of a peer that leaves its position alone. -/
theorem slots_modify (n : TreeNode SecretKey PublicKey Signature F)
    {f : TreePeer PublicKey Signature → TreePeer PublicKey Signature}
    (hf : ∀ peer, (f peer).declaration = peer.declaration ∧
      (f peer).ancestry = peer.ancestry)
    (p q : NodeAddr) : { n with peers := n.peers.modify p f }.slots q = n.slots q := by
  unfold slots
  dsimp only
  rw [Map.lookup_modify]
  split_ifs with hq
  · rw [hq, Option.map_map]
    congr 1
    funext peer
    exact Prod.ext (hf peer).1 (hf peer).2
  · rfl

theorem sameBooks_sendTreeAnnounceToPeer (n : TreeNode SecretKey PublicKey Signature F)
    (p : NodeAddr) (env : SendEnv) : SameBooks n (n.sendTreeAnnounceToPeer p env).1 := by
  refine fun q => ⟨?_, ?_⟩
  · unfold sendTreeAnnounceToPeer
    cases n.peers.lookup p with
    | none => rfl
    | some peer =>
      dsimp only
      split_ifs
      · cases n.buildTreeAnnounce with
        | error e => rfl
        | ok announce =>
          cases env.sendEncryptedLinkMessage p with
          | error e => rfl
          | ok _ =>
            exact n.slots_modify (f := fun peer => peer.recordTreeAnnounceSent (env.nowMs p))
              (fun _ => ⟨rfl, rfl⟩) p q
      · exact n.slots_modify (f := TreePeer.markTreeAnnouncePending) (fun _ => ⟨rfl, rfl⟩) p q
  · unfold TreeState.stored
    rw [sendTreeAnnounceToPeer_treeState]

theorem sameBooks_sendTreeAnnounces (env : SendEnv) (ps : List NodeAddr) :
    ∀ n : TreeNode SecretKey PublicKey Signature F, SameBooks n (sendTreeAnnounces env ps n).1 := by
  induction ps with
  | nil => exact SameBooks.refl
  | cons p ps ih => exact fun n => (sameBooks_sendTreeAnnounceToPeer n p env).trans (ih _)

/-- A move of the node itself. -/
theorem sameBooks_of_moved {s' : TreeState Signature F} {q : NodeAddr}
    (hm : Moved n.treeState s' q) : SameBooks n { n with treeState := s' } := by
  refine fun p => ⟨rfl, ?_⟩
  unfold TreeState.stored
  dsimp only
  rw [hm.peerDeclarations, hm.peerAncestry]

theorem SendsAll.sameBooks {s' : TreeState Signature F} {q : NodeAddr} {env : SendEnv}
    {out : TreeNode SecretKey PublicKey Signature F × List (TreeEffect Signature)}
    (h : SendsAll { n with treeState := s' } env out) (hm : Moved n.treeState s' q) :
    SameBooks n out.1 := by
  rw [h.node]
  exact (sameBooks_of_moved hm).trans (sameBooks_sendTreeAnnounces env _ _)

variable [SigningKey SecretKey Signature] [LinkCost F]

theorem sameBooks_reevaluateParent (hid : n.identity.nodeAddr = n.treeState.myNodeAddr)
    (peerCosts : Map NodeAddr F) (clock : Clock) (env : SendEnv) :
    SameBooks n (n.reevaluateParent peerCosts clock env).1 := by
  rcases reevaluateParent_cases hid peerCosts clock env with ⟨p, s', -, hm, -, hout⟩ | hout
  · exact hout.sameBooks hm
  · rw [hout]
    exact SameBooks.refl n

variable [VerifyingKey PublicKey Signature]

/-- What follows the recording of an announce touches neither store. -/
theorem sameBooks_announce (hid : n.identity.nodeAddr = n.treeState.myNodeAddr)
    {source : NodeAddr} {announce : TreeAnnounce Signature}
    (hadm : n.admits source announce = true) (peerCosts : Map NodeAddr F)
    (clock lostClock : Clock) (env : SendEnv) :
    SameBooks (n.recordAnnounce source announce).1
      (n.handleTreeAnnounce source announce peerCosts clock lostClock env).1 := by
  have hout := handleTreeAnnounce_outcome hid source announce peerCosts clock lostClock env
  generalize (n.recordAnnounce source announce).1 = m at hout ⊢
  cases hout with
  | unadmitted h hout => exact absurd hadm h
  | stale _ hout =>
    rw [hout]
    exact SameBooks.refl m
  | switched _ _ p s' _ hm _ hout => exact hout.sameBooks hm
  | looping _ _ _ _ _ s' hlost _ hout =>
    rcases hlost with ⟨q, -, hm⟩ | ⟨-, hm⟩
    · exact hout.sameBooks hm
    · exact hout.sameBooks hm
  | refreshed _ _ _ _ _ s' hm _ hout =>
    split_ifs at hout
    · exact hout.sameBooks hm
    · rw [hout]
      exact sameBooks_of_moved hm
  | recorded _ _ _ _ hout =>
    rw [hout]
    exact SameBooks.refl m

/-! ## One event -/

omit [SigningKey SecretKey Signature] [LinkCost F] [VerifyingKey PublicKey Signature] in
theorem slots_recordAnnounce {source : NodeAddr} (hsource : source ∈ n.peers)
    (announce : TreeAnnounce Signature) (p : NodeAddr) :
    (n.recordAnnounce source announce).1.slots p =
      if p = source then some (some announce.declaration, some announce.ancestry)
      else n.slots p := by
  obtain ⟨peer, hpeer⟩ := Option.isSome_iff_exists.mp (AList.lookup_isSome.mpr hsource)
  unfold slots
  change ((n.peers.modify source fun peer =>
    peer.updateTreePosition announce.declaration announce.ancestry).lookup p).map _ = _
  rw [Map.lookup_modify]
  split_ifs with hp
  · rw [hp, hpeer]
    rfl
  · rfl

omit [SigningKey SecretKey Signature] [LinkCost F] in
theorem stored_recordAnnounce {source : NodeAddr} {announce : TreeAnnounce Signature}
    (hadm : n.admits source announce = true) (p : NodeAddr) :
    (n.recordAnnounce source announce).1.treeState.stored p =
      if p = source ∧ n.treeState.accepts announce.declaration = true then
        (some announce.declaration, some announce.ancestry)
      else n.treeState.stored p := by
  change (n.treeState.updatePeer announce.declaration announce.ancestry).1.stored p = _
  by_cases hacc : n.treeState.accepts announce.declaration = true
  · by_cases hp : p = source
    · subst hp
      rw [if_pos ⟨rfl, hacc⟩, ← admits_source hadm]
      exact TreeState.stored_updatePeer_self hacc
    · rw [if_neg fun h => hp h.1]
      exact TreeState.stored_updatePeer_ne _ (admits_source hadm ▸ hp)
  · rw [TreeState.updatePeer_of_stale hacc, if_neg fun h => hacc h.2]

omit [SigningKey SecretKey Signature] [LinkCost F] in
theorem admits_mem {source : NodeAddr} {announce : TreeAnnounce Signature}
    (h : n.admits source announce = true) : source ∈ n.peers := by
  unfold admits at h
  cases hp : n.peers.lookup source with
  | none =>
    rw [hp] at h
    cases h
  | some peer => exact Map.mem_of_lookup hp

omit [VerifyingKey PublicKey Signature] in
/-- A removed peer is in neither store; the other entries stay. -/
theorem books_removeActivePeer (hid : n.identity.nodeAddr = n.treeState.myNodeAddr)
    {addr : NodeAddr} (haddr : addr ∈ n.peers) (peerCosts : Map NodeAddr F) (clock : Clock)
    (p : NodeAddr) :
    (n.removeActivePeer addr peerCosts clock).1.slots p =
        (if p = addr then none else n.slots p) ∧
      (n.removeActivePeer addr peerCosts clock).1.treeState.stored p =
        (if p = addr then (none, none) else n.treeState.stored p) := by
  have hslots : { n with peers := n.peers.erase addr }.slots p =
      if p = addr then none else n.slots p := by
    unfold slots
    dsimp only
    rw [Map.lookup_erase']
    split_ifs <;> rfl
  have hstored : (n.treeState.removePeer addr).stored p =
      if p = addr then (none, none) else n.treeState.stored p := by
    unfold TreeState.stored TreeState.removePeer
    dsimp only
    rw [Map.lookup_erase', Map.lookup_erase']
    split_ifs <;> rfl
  rcases removeActivePeer_cases hid haddr peerCosts clock with
    ⟨s', -, -, hlost, -, hout⟩ | ⟨-, hout⟩
  · rw [hout]
    refine ⟨Eq.trans ?_ hslots, Eq.trans ?_ hstored⟩
    · -- the remaining peers are only marked
      unfold slots
      dsimp only
      rw [Map.lookup_mapVals, Option.map_map]
      rfl
    · unfold TreeState.stored
      rcases hlost with ⟨q, -, hm⟩ | ⟨-, hm⟩
      · dsimp only
        rw [hm.peerDeclarations, hm.peerAncestry]
      · dsimp only
        rw [hm.peerDeclarations, hm.peerAncestry]
  · rw [hout]
    exact ⟨hslots, hstored⟩

omit [SigningKey SecretKey Signature] [LinkCost F] [VerifyingKey PublicKey Signature] in
theorem slots_promotePeer (n : TreeNode SecretKey PublicKey Signature F) (addr : NodeAddr)
    (pubkey : PublicKey) (env : SendEnv) (p : NodeAddr) :
    (n.promotePeer addr pubkey env).1.slots p =
      if p = addr then some (none, none) else n.slots p := by
  have hsend := (sameBooks_sendTreeAnnounceToPeer { n with
    peers := n.peers.insert addr { pubkey, treeAnnounceMinIntervalMs := n.announceMinIntervalMs } }
    addr env p).1
  refine hsend.trans ?_
  unfold slots
  dsimp only
  rw [Map.lookup_insert']
  split_ifs <;> rfl

/-- Both stores say the same of every active peer. -/
def Agree (n : TreeNode SecretKey PublicKey Signature F) : Prop :=
  ∀ p ∈ n.peers, n.slots p = some (n.treeState.stored p)

/-- The event does not part the two stores: an announce that passes the checks is fresher than the
stored one or repeats it exactly, and a promoted peer is in the tables of no earlier connection. -/
def KeepsView (n : TreeNode SecretKey PublicKey Signature F) :
    TreeEvent PublicKey Signature F → Prop
  | .announce source announce _ _ _ _ =>
    n.admits source announce → n.treeState.accepts announce.declaration ∨
      n.treeState.stored source = (some announce.declaration, some announce.ancestry)
  | .promotePeer addr _ _ => n.treeState.stored addr = (none, none)
  | _ => True

omit [SigningKey SecretKey Signature] [LinkCost F] [VerifyingKey PublicKey Signature] in
theorem SameBooks.agree_iff (h : SameBooks n m) : m.Agree ↔ n.Agree := by
  refine forall_congr' fun p => ?_
  rw [h.mem_peers p, (h p).1, (h p).2]

/-- An announce that fails the checks. -/
theorem next_of_unadmitted {source : NodeAddr} {announce : TreeAnnounce Signature}
    (hadm : ¬ n.admits source announce = true) (peerCosts : Map NodeAddr F)
    (clock lostClock : Clock) (env : SendEnv) :
    n.next (.announce source announce peerCosts clock lostClock env) = n := by
  change (n.handleTreeAnnounce source announce peerCosts clock lostClock env).1 = n
  unfold handleTreeAnnounce
  rw [if_pos hadm]

/-- The event is none that writes to the stores. -/
def Quiet : TreeEvent PublicKey Signature F → Prop
  | .announce _ _ _ _ _ _ => False
  | .removePeer _ _ _ => False
  | .promotePeer _ _ _ => False
  | _ => True

theorem sameBooks_next (hid : n.identity.nodeAddr = n.treeState.myNodeAddr)
    {e : TreeEvent PublicKey Signature F} (he : Quiet e) : SameBooks n (n.next e) := by
  cases e with
  | announce => exact absurd he id
  | removePeer => exact absurd he id
  | promotePeer => exact absurd he id
  | periodicReeval peerCosts clock env =>
    change SameBooks n (n.checkPeriodicParentReeval peerCosts clock env).1
    rcases n.checkPeriodicParentReeval_cases peerCosts clock env with hout | ⟨-, hout⟩
    · rw [hout]
      exact SameBooks.refl n
    · rw [hout]
      exact sameBooks_reevaluateParent (n := { n with lastParentReeval := some clock.instant }) hid
        peerCosts clock env
  | firstRtt peerCosts clock env => exact sameBooks_reevaluateParent hid peerCosts clock env
  | sendPending nowMs env => exact sameBooks_sendTreeAnnounces env _ n
  | rehash ancestry =>
    unfold next step
    dsimp only
    split_ifs with hperm
    · refine fun p => ⟨rfl, ?_⟩
      unfold TreeState.stored
      dsimp only
      rw [Map.lookup_rehash hperm]
    · exact SameBooks.refl n

/-- **One event** leaves the stores in agreement exactly when it meets the condition. -/
theorem agree_next_iff (hid : n.identity.nodeAddr = n.treeState.myNodeAddr) (hn : n.Agree)
    (e : TreeEvent PublicKey Signature F) : (n.next e).Agree ↔ KeepsView n e := by
  cases e with
  | announce source announce peerCosts clock lostClock env =>
    by_cases hadm : n.admits source announce = true
    swap
    · rw [next_of_unadmitted hadm]
      exact iff_of_true hn fun h => absurd h hadm
    have hsource := admits_mem hadm
    refine (sameBooks_announce hid hadm peerCosts clock lostClock env).agree_iff.trans ?_
    constructor
    · intro h _
      have hmem : source ∈ (n.recordAnnounce source announce).1.peers := Map.mem_modify.mpr hsource
      have heq := h source hmem
      rw [slots_recordAnnounce hsource, stored_recordAnnounce hadm, if_pos rfl] at heq
      by_cases hacc : n.treeState.accepts announce.declaration = true
      · exact .inl hacc
      · rw [if_neg fun h => hacc h.2] at heq
        exact .inr (Option.some.inj heq).symm
    · intro h p hp
      rw [slots_recordAnnounce hsource, stored_recordAnnounce hadm]
      by_cases hps : p = source
      · subst hps
        rw [if_pos rfl]
        rcases h hadm with hacc | hsame
        · rw [if_pos ⟨rfl, hacc⟩]
        · rw [hsame, ite_self]
      · rw [if_neg hps, if_neg fun h => hps h.1]
        exact hn p (Map.mem_modify.mp hp)
  | removePeer addr peerCosts clock =>
    refine iff_of_true ?_ trivial
    change (n.removeActivePeer addr peerCosts clock).1.Agree
    by_cases haddr : addr ∈ n.peers
    · intro p hp
      obtain ⟨hslots, hstored⟩ := books_removeActivePeer hid haddr peerCosts clock p
      rw [← slots_isSome_iff, hslots] at hp
      rw [hslots, hstored]
      by_cases hpa : p = addr
      · rw [if_pos hpa] at hp
        cases hp
      · rw [if_neg hpa] at hp ⊢
        rw [if_neg hpa]
        exact hn p (slots_isSome_iff.mp hp)
    · unfold removeActivePeer
      rw [if_pos haddr]
      exact hn
  | promotePeer addr pubkey env =>
    change (n.promotePeer addr pubkey env).1.Agree ↔ n.treeState.stored addr = (none, none)
    have hstored : ∀ p, (n.promotePeer addr pubkey env).1.treeState.stored p = n.treeState.stored p := by
      intro p
      unfold TreeState.stored
      rw [promotePeer_treeState]
    constructor
    · intro h
      have hmem : addr ∈ (n.promotePeer addr pubkey env).1.peers := by
        rw [← slots_isSome_iff, slots_promotePeer, if_pos rfl]
        rfl
      have heq := h addr hmem
      rw [slots_promotePeer, if_pos rfl, hstored] at heq
      exact (Option.some.inj heq).symm
    · intro h p hp
      rw [← slots_isSome_iff, slots_promotePeer] at hp
      rw [slots_promotePeer, hstored]
      split_ifs at hp ⊢ with hpa
      · rw [hpa, h]
      · exact hn p (slots_isSome_iff.mp hp)
  | periodicReeval peerCosts clock env =>
    have hsame := sameBooks_next hid (e := .periodicReeval peerCosts clock env) trivial
    exact iff_of_true (hsame.agree_iff.mpr hn) trivial
  | firstRtt peerCosts clock env =>
    have hsame := sameBooks_next hid (e := .firstRtt peerCosts clock env) trivial
    exact iff_of_true (hsame.agree_iff.mpr hn) trivial
  | sendPending nowMs env =>
    have hsame := sameBooks_next hid (e := .sendPending nowMs env) trivial
    exact iff_of_true (hsame.agree_iff.mpr hn) trivial
  | rehash ancestry =>
    have hsame := sameBooks_next hid (e := .rehash ancestry) trivial
    exact iff_of_true (hsame.agree_iff.mpr hn) trivial

end TreeNode

/-! ## What was heard of each peer -/

/-- A node and, for each peer, the announces it admitted from it since it last removed it. -/
structure Heard (SecretKey PublicKey Signature F : Type) where
  node : TreeNode SecretKey PublicKey Signature F
  heard : NodeAddr → List (TreeAnnounce Signature)

namespace Heard

section Views

variable (o : Heard SecretKey PublicKey Signature F)

/-- The position `p` last moved to. -/
def position (p : NodeAddr) : Option (ParentDeclaration Signature) × Option TreeCoordinate :=
  TreeAnnounce.position (o.heard p)

/-- Both stores hold the announce with the highest sequence of every active peer. -/
def OneView : Prop :=
  ∀ p ∈ o.node.peers, o.node.slots p = some (o.position p) ∧ o.node.treeState.stored p = o.position p

end Views

section Step

variable [SigningKey SecretKey Signature] [VerifyingKey PublicKey Signature] [LinkCost F]
  (o : Heard SecretKey PublicKey Signature F)

omit [SigningKey SecretKey Signature] [LinkCost F] in
/-- The announces heard after one event. -/
def hear (e : TreeEvent PublicKey Signature F) (p : NodeAddr) : List (TreeAnnounce Signature) :=
  match e with
  | .announce source announce _ _ _ _ =>
    if p = source ∧ o.node.admits source announce then o.heard p ++ [announce] else o.heard p
  | .removePeer addr _ _ => if p = addr then [] else o.heard p
  | _ => o.heard p

/-- The node after an event, and what was heard by then. -/
def next (e : TreeEvent PublicKey Signature F) : Heard SecretKey PublicKey Signature F :=
  ⟨o.node.next e, o.hear e⟩

end Step

/-- The `TreeState` holds the announce with the highest sequence of every peer, and nothing was
heard of a peer that is not active. Every event keeps this. -/
structure Tracked (o : Heard SecretKey PublicKey Signature F) : Prop where
  placed : o.node.Placed
  stored : ∀ p, o.node.treeState.stored p = o.position p
  unheard : ∀ p, p ∉ o.node.peers → o.heard p = []

variable [SigningKey SecretKey Signature] [VerifyingKey PublicKey Signature] [LinkCost F]
  {o : Heard SecretKey PublicKey Signature F}

omit [SigningKey SecretKey Signature] [VerifyingKey PublicKey Signature] [LinkCost F] in
theorem Tracked.oneView_iff (ho : o.Tracked) : o.OneView ↔ o.node.Agree := by
  refine forall₂_congr fun p _ => ?_
  rw [ho.stored p, and_iff_left rfl]

/-- An announce that passes the checks. -/
theorem tracked_announce (ho : o.Tracked) {source : NodeAddr} {announce : TreeAnnounce Signature}
    (hadm : o.node.admits source announce = true) {peerCosts : Map NodeAddr F}
    {clock lostClock : Clock} {env : SendEnv} :
    (o.next (.announce source announce peerCosts clock lostClock env)).Tracked := by
  have hsource := TreeNode.admits_source hadm
  have hsame : TreeNode.SameBooks (o.node.recordAnnounce source announce).1
      (o.next (.announce source announce peerCosts clock lostClock env)).node :=
    TreeNode.sameBooks_announce ho.placed.identity hadm peerCosts clock lostClock env
  have hheard : ∀ p, (o.next (.announce source announce peerCosts clock lostClock env)).heard p =
      if p = source then o.heard p ++ [announce] else o.heard p := by
    intro p
    by_cases hp : p = source
    · rw [if_pos hp]
      exact if_pos ⟨hp, hadm⟩
    · rw [if_neg hp]
      exact if_neg fun h => hp h.1
  refine ⟨ho.placed.next _, fun p => ?_, fun p hp => ?_⟩
  · unfold position
    rw [(hsame p).2, hheard]
    by_cases hp : p = source
    · obtain rfl : p = announce.declaration.nodeAddr := hp.trans hsource.symm
      rw [if_pos hp]
      exact TreeState.stored_updatePeer (ho.stored _)
    · rw [if_neg hp]
      exact (TreeState.stored_updatePeer_ne _ (hsource ▸ hp)).trans (ho.stored p)
  · have hmem : p ∉ o.node.peers := fun h => hp ((hsame.mem_peers p).mpr (Map.mem_modify.mpr h))
    have hne : p ≠ source := fun h => hmem (h ▸ TreeNode.admits_mem hadm)
    exact ((hheard p).trans (if_neg hne)).trans (ho.unheard p hmem)

/-- **One event** keeps the `TreeState` right about every peer. -/
theorem tracked_next (ho : o.Tracked) (e : TreeEvent PublicKey Signature F) :
    (o.next e).Tracked := by
  have hid := ho.placed.identity
  -- an event that leaves the books and what was heard alone
  have hquiet : ∀ e : TreeEvent PublicKey Signature F, TreeNode.SameBooks o.node (o.node.next e) →
      (∀ p, o.hear e p = o.heard p) → (o.next e).Tracked := by
    intro e hsame hheard
    refine ⟨ho.placed.next e, fun p => ?_, fun p hp => ?_⟩
    · exact ((hsame p).2.trans (ho.stored p)).trans (congrArg _ (hheard p).symm)
    · exact (hheard p).trans (ho.unheard p fun h => hp ((hsame.mem_peers p).mpr h))
  cases e with
  | announce source announce peerCosts clock lostClock env =>
    by_cases hadm : o.node.admits source announce = true
    · exact tracked_announce ho hadm
    · refine hquiet _ ?_ fun p => if_neg fun h => hadm h.2
      rw [TreeNode.next_of_unadmitted hadm]
      exact TreeNode.SameBooks.refl o.node
  | removePeer addr peerCosts clock =>
    refine ⟨ho.placed.next _, fun p => ?_, fun p hp => ?_⟩
    · change (o.node.removeActivePeer addr peerCosts clock).1.treeState.stored p = _
      by_cases hpa : p = addr
      · have hnone : (o.next (.removePeer addr peerCosts clock)).position p = (none, none) :=
          congrArg TreeAnnounce.position (if_pos hpa)
        rw [hnone]
        by_cases haddr : addr ∈ o.node.peers
        · rw [(TreeNode.books_removeActivePeer hid haddr peerCosts clock p).2, if_pos hpa]
        · unfold TreeNode.removeActivePeer
          rw [if_pos haddr, hpa]
          exact (ho.stored addr).trans (congrArg TreeAnnounce.position (ho.unheard addr haddr))
      · have hsame : (o.next (.removePeer addr peerCosts clock)).position p = o.position p :=
          congrArg TreeAnnounce.position (if_neg hpa)
        rw [hsame, ← ho.stored p]
        by_cases haddr : addr ∈ o.node.peers
        · rw [(TreeNode.books_removeActivePeer hid haddr peerCosts clock p).2, if_neg hpa]
        · unfold TreeNode.removeActivePeer
          rw [if_pos haddr]
    · by_cases hpa : p = addr
      · exact if_pos hpa
      · refine Eq.trans (if_neg hpa) (ho.unheard p fun h => hp ?_)
        change p ∈ (o.node.removeActivePeer addr peerCosts clock).1.peers
        by_cases haddr : addr ∈ o.node.peers
        · rw [← TreeNode.slots_isSome_iff,
            (TreeNode.books_removeActivePeer hid haddr peerCosts clock p).1, if_neg hpa]
          exact TreeNode.slots_isSome_iff.mpr h
        · unfold TreeNode.removeActivePeer
          rwa [if_pos haddr]
  | promotePeer addr pubkey env =>
    refine ⟨ho.placed.next _, fun p => ?_, fun p hp => ?_⟩
    · change (o.node.promotePeer addr pubkey env).1.treeState.stored p = o.position p
      unfold TreeState.stored
      rw [TreeNode.promotePeer_treeState]
      exact ho.stored p
    · refine ho.unheard p fun h => hp ?_
      change p ∈ (o.node.promotePeer addr pubkey env).1.peers
      rw [← TreeNode.slots_isSome_iff, TreeNode.slots_promotePeer]
      split_ifs
      · rfl
      · exact TreeNode.slots_isSome_iff.mpr h
  | periodicReeval => exact hquiet _ (TreeNode.sameBooks_next hid (by trivial)) fun _ => rfl
  | firstRtt => exact hquiet _ (TreeNode.sameBooks_next hid (by trivial)) fun _ => rfl
  | sendPending => exact hquiet _ (TreeNode.sameBooks_next hid (by trivial)) fun _ => rfl
  | rehash => exact hquiet _ (TreeNode.sameBooks_next hid (by trivial)) fun _ => rfl

/-! ## Runs -/

/-- **One view.** In a run of node events from a new node, both stores hold the announce with the
highest sequence of every active peer throughout exactly when every event meets `KeepsView` in the
state it is taken from. -/
theorem oneView_iff_keepsView (identity : Identity SecretKey) (timestamp : Nat)
    (hysteresis : F) (holdDownSecs flapThreshold flapWindowSecs flapDampeningSecs
      reevalIntervalSecs announceMinIntervalMs : Nat)
    (events : List (TreeEvent PublicKey Signature F)) :
    EventRun.Always next OneView
      ⟨.new identity timestamp hysteresis holdDownSecs flapThreshold flapWindowSecs
        flapDampeningSecs reevalIntervalSecs announceMinIntervalMs, fun _ => []⟩ events ↔
    EventRun.Along next (fun o => TreeNode.KeepsView o.node)
      ⟨.new identity timestamp hysteresis holdDownSecs flapThreshold flapWindowSecs
        flapDampeningSecs reevalIntervalSecs announceMinIntervalMs, fun _ => []⟩ events := by
  obtain ⟨hinv, -⟩ := TreeNode.new_signed identity timestamp hysteresis holdDownSecs flapThreshold
    flapWindowSecs flapDampeningSecs reevalIntervalSecs announceMinIntervalMs
    (.new identity timestamp hysteresis holdDownSecs flapThreshold flapWindowSecs
      flapDampeningSecs reevalIntervalSecs announceMinIntervalMs :
      TreeNode SecretKey PublicKey Signature F) rfl
  refine EventRun.always_iff_along (I := fun o => o.Tracked ∧ o.node.Agree)
    (fun o ho => ho.1.oneView_iff.mpr ho.2) (fun o e ho hview => ?_) (fun o e ho hkeeps => ?_) ?_
  · have hagree := (tracked_next ho.1 e).oneView_iff.mp hview
    exact (TreeNode.agree_next_iff ho.1.placed.identity ho.2 e).mp hagree
  · have hagree := (TreeNode.agree_next_iff ho.1.placed.identity ho.2 e).mpr hkeeps
    exact ⟨tracked_next ho.1 e, hagree⟩
  · obtain ⟨sig, hts⟩ := TreeNode.new_treeState identity timestamp hysteresis holdDownSecs
      flapThreshold flapWindowSecs flapDampeningSecs reevalIntervalSecs announceMinIntervalMs
      (.new identity timestamp hysteresis holdDownSecs flapThreshold flapWindowSecs
        flapDampeningSecs reevalIntervalSecs announceMinIntervalMs :
        TreeNode SecretKey PublicKey Signature F) rfl
    have htracked : Tracked (⟨.new identity timestamp hysteresis holdDownSecs flapThreshold
        flapWindowSecs flapDampeningSecs reevalIntervalSecs announceMinIntervalMs, fun _ => []⟩ :
        Heard SecretKey PublicKey Signature F) :=
      ⟨hinv.toPlaced, fun p => congrArg (fun s => TreeState.stored s p) hts, fun p _ => rfl⟩
    exact ⟨htracked, fun p hp => absurd hp (by simp [TreeNode.new])⟩

end Heard

/-! ## A run that breaks it -/

namespace RootElection

/-- Peer 7 announces root 3 under number 2; its earlier announce of root 4, number 1, comes late. -/
def lateAnnounce : List (TreeEvent Unit Unit (Option Nat)) :=
  [.promotePeer 7 () env, announceOf 3 2, announceOf 4 1]

/-- The late announce is in the `ActivePeer` and not in the `TreeState`. -/
theorem stale_announce_splits_view :
    ¬ ∀ events : List (TreeEvent Unit Unit (Option Nat)),
      EventRun.Always Heard.next Heard.OneView ⟨start, fun _ => []⟩ events := by
  intro h
  have hend := (h lateAnnounce).exec 7 (by decide)
  revert hend
  decide

end RootElection

end Fips
