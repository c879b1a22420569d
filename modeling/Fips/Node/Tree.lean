import Fips.Tree.State

/-!
# The node's spanning-tree handlers

Model of `node/tree.rs` and of the other places where the node's own tree position changes:
`remove_active_peer` (`node/handlers/dispatch.rs:96-190`), the first-RTT re-evaluation of
`handle_receiver_report` (`node/handlers/mmp.rs:133-176`) and the initial announce after a peer is
promoted (`node/handlers/handshake.rs:415-465`, `:756-790`).

`TreeNode` is the part of `Node` these functions touch, `TreePeer` the part of `ActivePeer`. What
they do to the other components (the announces that leave the node, the coordinate cache, the
discovery backoff, the bloom filter marks) is returned as a list of `TreeEffect`s.

Inputs that come from outside: the link costs of the measured peers (`has_srtt`, `link_cost`), the
clocks, and for every send the millisecond clock and the outcome of `send_encrypted_link_message`
(`SendEnv`). A payload that does not decode is dropped before any state is read, so
`handleTreeAnnounce` starts from the decoded announce. Counters and log lines are left out.

`TreeEvent` lists the events of a node's run and `TreeNode.step` performs one of them.

Out of scope here: why a peer is removed or promoted (any peer may be, at any time).
-/

namespace Fips

/-- The variants of `NodeError` that an announce returns. -/
inductive NodeError
  | peerNotFound (addr : NodeAddr)
  | sendFailed (addr : NodeAddr) (reason : String)
  deriving DecidableEq, Repr

/-- The tree-facing slots of `ActivePeer` (`peer/active.rs:97-108`). -/
structure TreePeer (PublicKey Signature : Type) where
  pubkey : PublicKey
  declaration : Option (ParentDeclaration Signature) := none
  ancestry : Option TreeCoordinate := none
  treeAnnounceMinIntervalMs : Nat := 500
  lastTreeAnnounceSentMs : Nat := 0
  pendingTreeAnnounce : Bool := false

namespace TreePeer

variable {PublicKey Signature : Type}

/-- `ActivePeer::update_tree_position`. -/
def updateTreePosition (p : TreePeer PublicKey Signature)
    (declaration : ParentDeclaration Signature) (ancestry : TreeCoordinate) :
    TreePeer PublicKey Signature :=
  { p with declaration := some declaration, ancestry := some ancestry }

/-- `ActivePeer::can_send_tree_announce`. -/
def canSendTreeAnnounce (p : TreePeer PublicKey Signature) (nowMs : Nat) : Bool :=
  decide (p.treeAnnounceMinIntervalMs ≤ nowMs - p.lastTreeAnnounceSentMs)

/-- `ActivePeer::record_tree_announce_sent`. -/
def recordTreeAnnounceSent (p : TreePeer PublicKey Signature) (nowMs : Nat) :
    TreePeer PublicKey Signature :=
  { p with lastTreeAnnounceSentMs := nowMs, pendingTreeAnnounce := false }

/-- `ActivePeer::mark_tree_announce_pending`: the announce is owed once the peer's interval is over. -/
def markTreeAnnouncePending (p : TreePeer PublicKey Signature) : TreePeer PublicKey Signature :=
  { p with pendingTreeAnnounce := true }

end TreePeer

/-- What a handler does outside the tree state. -/
inductive TreeEffect (Signature : Type)
  | sentTreeAnnounce (peer : NodeAddr) (announce : TreeAnnounce Signature)
  | clearCoordCache
  | resetDiscoveryBackoff
  | markFilterUpdates (peers : List NodeAddr)

/-- The environment of the sends of one event. -/
structure SendEnv where
  nowMs : NodeAddr → Nat
  sendEncryptedLinkMessage : NodeAddr → Except NodeError Unit

/-- What of a node the tree protocol reads and writes. -/
structure TreeNode (SecretKey PublicKey Signature F : Type) where
  identity : Identity SecretKey
  treeState : TreeState Signature F
  peers : Map NodeAddr (TreePeer PublicKey Signature)
  reevalIntervalSecs : Nat
  announceMinIntervalMs : Nat
  lastParentReeval : Option Nat

namespace TreeNode

variable {SecretKey PublicKey Signature F : Type}

/-- `Node::new`: the tree parameters of the configuration are set and the self-declaration is
signed, which cannot fail for the node's own identity (`node/mod.rs:519-530`). -/
def new [LinkCost F] [SigningKey SecretKey Signature] (identity : Identity SecretKey)
    (timestamp : Nat) (hysteresis : F)
    (holdDownSecs flapThreshold flapWindowSecs flapDampeningSecs : Nat)
    (reevalIntervalSecs announceMinIntervalMs : Nat) :
    TreeNode SecretKey PublicKey Signature F :=
  let treeState := (((TreeState.new identity.nodeAddr timestamp).setParentHysteresis
    hysteresis).setHoldDown holdDownSecs).setFlapDampening
    flapThreshold flapWindowSecs flapDampeningSecs
  { identity
    treeState := match treeState.signDeclaration identity with
      | .ok signed => signed
      | .error _ => treeState
    peers := ∅
    reevalIntervalSecs
    announceMinIntervalMs
    lastParentReeval := none }

/-! ## Sending announces -/

/-- `build_tree_announce`. -/
def buildTreeAnnounce (n : TreeNode SecretKey PublicKey Signature F) :
    Except NodeError (TreeAnnounce Signature) :=
  if n.treeState.myDeclaration.isSigned then
    .ok ⟨n.treeState.myDeclaration, n.treeState.myCoords⟩
  else .error (.sendFailed n.identity.nodeAddr "declaration not signed")

/-- `send_tree_announce_to_peer`. Encoding a built announce cannot fail: `TreeAnnounce::encode`
only refuses an unsigned declaration. -/
def sendTreeAnnounceToPeer (n : TreeNode SecretKey PublicKey Signature F) (peerAddr : NodeAddr)
    (env : SendEnv) :
    TreeNode SecretKey PublicKey Signature F × List (TreeEffect Signature) ×
      Except NodeError Unit :=
  match n.peers.lookup peerAddr with
  | none => (n, [], .error (.peerNotFound peerAddr))
  | some peer =>
    if ¬ peer.canSendTreeAnnounce (env.nowMs peerAddr) then
      ({ n with peers := n.peers.modify peerAddr TreePeer.markTreeAnnouncePending }, [], .ok ())
    else match n.buildTreeAnnounce with
      | .error e => (n, [], .error e)
      | .ok announce =>
        match env.sendEncryptedLinkMessage peerAddr with
        | .error e => (n, [], .error e)
        | .ok () =>
          ({ n with peers := n.peers.modify peerAddr fun p =>
              p.recordTreeAnnounceSent (env.nowMs peerAddr) },
            [.sentTreeAnnounce peerAddr announce], .ok ())

/-- Send to each peer of a list; an error is only logged. -/
def sendTreeAnnounces (env : SendEnv) :
    List NodeAddr → TreeNode SecretKey PublicKey Signature F →
      TreeNode SecretKey PublicKey Signature F × List (TreeEffect Signature)
  | [], n => (n, [])
  | peerAddr :: rest, n =>
    let (n, sent, _) := n.sendTreeAnnounceToPeer peerAddr env
    let (n, sent') := sendTreeAnnounces env rest n
    (n, sent ++ sent')

/-- `send_tree_announce_to_all`. -/
def sendTreeAnnounceToAll (n : TreeNode SecretKey PublicKey Signature F) (env : SendEnv) :
    TreeNode SecretKey PublicKey Signature F × List (TreeEffect Signature) :=
  sendTreeAnnounces env n.peers.keys n

/-- The peers `send_pending_tree_announces` picks: a pending announce whose cooldown is over. -/
def readyPeers (n : TreeNode SecretKey PublicKey Signature F) (nowMs : Nat) : List NodeAddr :=
  (n.peers.entries.filter fun e =>
    e.2.pendingTreeAnnounce && e.2.canSendTreeAnnounce nowMs).map Sigma.fst

/-- `send_pending_tree_announces`. -/
def sendPendingTreeAnnounces (n : TreeNode SecretKey PublicKey Signature F) (nowMs : Nat)
    (env : SendEnv) : TreeNode SecretKey PublicKey Signature F × List (TreeEffect Signature) :=
  sendTreeAnnounces env (n.readyPeers nowMs) n

/-! ## Switching parents -/

/-- `is_tree_peer`: the parent, or a node that declared this one its parent. -/
def isTreePeer (n : TreeNode SecretKey PublicKey Signature F) (peerAddr : NodeAddr) : Bool :=
  if !n.treeState.isRoot && n.treeState.myDeclaration.parentId == peerAddr then true
  else match n.treeState.peerDeclarations.lookup peerAddr with
    | some decl => decl.parentId == n.identity.nodeAddr
    | none => false

variable [SigningKey SecretKey Signature]

/-- The switch flow that `handle_tree_announce`, `check_periodic_parent_reeval` and the first-RTT
re-evaluation share: set the parent, sign, recompute the coordinates, announce to all. -/
def switchParent (n : TreeNode SecretKey PublicKey Signature F) (newParent : NodeAddr)
    (clock : Clock) (env : SendEnv) :
    TreeNode SecretKey PublicKey Signature F × List (TreeEffect Signature) :=
  let newSeq := n.treeState.myDeclaration.sequence + 1
  let switched := (n.treeState.setParent newParent newSeq clock.unixSecs clock.instant).1
  match switched.signDeclaration n.identity with
  | .error _ => ({ n with treeState := switched }, [])
  | .ok signed =>
    let (n, sent) := { n with treeState := signed.recomputeCoords }.sendTreeAnnounceToAll env
    (n, [.clearCoordCache, .resetDiscoveryBackoff] ++ sent ++ [.markFilterUpdates n.peers.keys])

variable [LinkCost F]

/-- The loop drop of `handle_tree_announce`: the parent's ancestry contains this node. -/
def dropLoopingParent (n : TreeNode SecretKey PublicKey Signature F) (peerCosts : Map NodeAddr F)
    (clock : Clock) (env : SendEnv) :
    TreeNode SecretKey PublicKey Signature F × List (TreeEffect Signature) :=
  let (lost, changed) := n.treeState.handleParentLost peerCosts clock
  if changed then
    match lost.signDeclaration n.identity with
    | .error _ => ({ n with treeState := lost }, [])
    | .ok signed =>
      let (n, sent) := { n with treeState := signed }.sendTreeAnnounceToAll env
      (n, [.clearCoordCache, .resetDiscoveryBackoff] ++ sent)
  else ({ n with treeState := lost }, [])

omit [LinkCost F] in
/-- The same-parent refresh of `handle_tree_announce`: the kept parent's ancestry changed, the
node recomputes its coordinates and re-announces when its root or depth changed. -/
def refreshParent (n : TreeNode SecretKey PublicKey Signature F) (parent : NodeAddr)
    (clock : Clock) (env : SendEnv) :
    TreeNode SecretKey PublicKey Signature F × List (TreeEffect Signature) :=
  let oldRoot := n.treeState.root
  let oldDepth := n.treeState.myCoords.depth
  let newSeq := n.treeState.myDeclaration.sequence + 1
  let kept := (n.treeState.setParent parent newSeq clock.unixSecs clock.instant).1
  match kept.signDeclaration n.identity with
  | .error _ => ({ n with treeState := kept }, [])
  | .ok signed =>
    let n := { n with treeState := signed.recomputeCoords }
    if n.treeState.root ≠ oldRoot ∨ n.treeState.myCoords.depth ≠ oldDepth then
      let (n, sent) := n.sendTreeAnnounceToAll env
      (n, [.clearCoordCache, .resetDiscoveryBackoff] ++ sent ++
        [.markFilterUpdates n.peers.keys])
    else (n, [.clearCoordCache, .resetDiscoveryBackoff])

/-! ## Handlers -/

omit [SigningKey SecretKey Signature] [LinkCost F] in
/-- The checks before an announce reaches the tree state: a known peer, its own address, its
signature. -/
def admits [VerifyingKey PublicKey Signature] (n : TreeNode SecretKey PublicKey Signature F)
    (source : NodeAddr) (announce : TreeAnnounce Signature) : Bool :=
  match n.peers.lookup source with
  | none => false
  | some peer =>
    announce.declaration.nodeAddr == source &&
      match announce.declaration.verify peer.pubkey with
      | .ok () => true
      | .error _ => false

omit [SigningKey SecretKey Signature] [LinkCost F] in
/-- An announce recorded: the peer's slots and, if fresher, the tree state. -/
def recordAnnounce (n : TreeNode SecretKey PublicKey Signature F) (source : NodeAddr)
    (announce : TreeAnnounce Signature) : TreeNode SecretKey PublicKey Signature F × Bool :=
  let (treeState, updated) :=
    n.treeState.updatePeer announce.declaration announce.ancestry
  ({ n with
    peers := n.peers.modify source fun p =>
      p.updateTreePosition announce.declaration announce.ancestry
    treeState }, updated)

/-- `handle_tree_announce` after decoding. `clock` is read by the parent evaluation and the switch
it leads to, `lostClock` by `handle_parent_lost` in the loop drop. -/
def handleTreeAnnounce [VerifyingKey PublicKey Signature]
    (n : TreeNode SecretKey PublicKey Signature F) (source : NodeAddr)
    (announce : TreeAnnounce Signature) (peerCosts : Map NodeAddr F) (clock lostClock : Clock)
    (env : SendEnv) : TreeNode SecretKey PublicKey Signature F × List (TreeEffect Signature) :=
  if ¬ n.admits source announce then (n, [])
  else
    let (n, updated) := n.recordAnnounce source announce
    if ¬ updated then (n, [])
    else
      let marks := if n.isTreePeer source then [.markFilterUpdates [source]] else []
      match n.treeState.evaluateParent peerCosts clock.instant with
      | some newParent =>
        let (n, effects) := n.switchParent newParent clock env
        (n, marks ++ effects)
      | none =>
        if !n.treeState.isRoot && n.treeState.myDeclaration.parentId == source then
          let looping := match n.treeState.peerCoords source with
            | some parentCoords => parentCoords.contains n.identity.nodeAddr
            | none => false
          let (n, effects) :=
            if looping then n.dropLoopingParent peerCosts lostClock env
            else n.refreshParent source clock env
          (n, marks ++ effects)
        else (n, marks)

/-- The parent evaluation followed by the switch flow, as the periodic and the first-RTT
re-evaluation do. -/
def reevaluateParent (n : TreeNode SecretKey PublicKey Signature F) (peerCosts : Map NodeAddr F)
    (clock : Clock) (env : SendEnv) :
    TreeNode SecretKey PublicKey Signature F × List (TreeEffect Signature) :=
  match n.treeState.evaluateParent peerCosts clock.instant with
  | some newParent => n.switchParent newParent clock env
  | none => (n, [])

omit [SigningKey SecretKey Signature] [LinkCost F] in
/-- The periodic re-evaluation is enabled, has two peers to compare, and its interval is over. -/
def reevalDue (n : TreeNode SecretKey PublicKey Signature F) (now : Nat) : Bool :=
  n.reevalIntervalSecs != 0 && decide (2 ≤ n.peers.keys.length) &&
    !n.lastParentReeval.any fun last => decide (now - last < n.reevalIntervalSecs)

/-- `check_periodic_parent_reeval`, self-paced by `last_parent_reeval`. -/
def checkPeriodicParentReeval (n : TreeNode SecretKey PublicKey Signature F)
    (peerCosts : Map NodeAddr F) (clock : Clock) (env : SendEnv) :
    TreeNode SecretKey PublicKey Signature F × List (TreeEffect Signature) :=
  if ¬ n.reevalDue clock.instant then (n, [])
  else { n with lastParentReeval := some clock.instant }.reevaluateParent peerCosts clock env

/-- `handle_peer_removal_tree_cleanup`; the flag says whether the tree state changed. -/
def handlePeerRemovalTreeCleanup (n : TreeNode SecretKey PublicKey Signature F)
    (addr : NodeAddr) (peerCosts : Map NodeAddr F) (clock : Clock) :
    TreeNode SecretKey PublicKey Signature F × Bool :=
  let wasParent := !n.treeState.isRoot && n.treeState.myDeclaration.parentId == addr
  let removed := n.treeState.removePeer addr
  if wasParent then
    let (lost, changed) := removed.handleParentLost peerCosts clock
    if changed then
      match lost.signDeclaration n.identity with
      | .ok signed => ({ n with treeState := signed }, changed)
      | .error _ => ({ n with treeState := lost }, changed)
    else ({ n with treeState := lost }, changed)
  else ({ n with treeState := removed }, false)

/-- The tree part of `remove_active_peer`: a changed tree state marks every remaining peer. -/
def removeActivePeer (n : TreeNode SecretKey PublicKey Signature F) (addr : NodeAddr)
    (peerCosts : Map NodeAddr F) (clock : Clock) :
    TreeNode SecretKey PublicKey Signature F × List (TreeEffect Signature) :=
  if addr ∉ n.peers then (n, [])
  else
    let (n, treeChanged) := { n with peers := n.peers.erase addr }.handlePeerRemovalTreeCleanup
      addr peerCosts clock
    let peers := if treeChanged then n.peers.mapVals fun _ p => p.markTreeAnnouncePending
      else n.peers
    ({ n with peers }, [.markFilterUpdates n.peers.keys])

omit [SigningKey SecretKey Signature] [LinkCost F] in
/-- A promoted peer (new, or the winner of a cross connection) starts with fresh slots and gets
the initial announce. -/
def promotePeer (n : TreeNode SecretKey PublicKey Signature F) (addr : NodeAddr)
    (pubkey : PublicKey) (env : SendEnv) :
    TreeNode SecretKey PublicKey Signature F × List (TreeEffect Signature) :=
  let fresh : TreePeer PublicKey Signature :=
    { pubkey, treeAnnounceMinIntervalMs := n.announceMinIntervalMs }
  let (n, sent, _) := { n with peers := n.peers.insert addr fresh }.sendTreeAnnounceToPeer addr env
  (n, sent ++ [.markFilterUpdates [addr], .resetDiscoveryBackoff])

end TreeNode

/-! ## Runs -/

/-- The events of a node's run. -/
inductive TreeEvent (PublicKey Signature F : Type)
  | announce (source : NodeAddr) (announce : TreeAnnounce Signature) (peerCosts : Map NodeAddr F)
      (clock lostClock : Clock) (env : SendEnv)
  | periodicReeval (peerCosts : Map NodeAddr F) (clock : Clock) (env : SendEnv)
  | firstRtt (peerCosts : Map NodeAddr F) (clock : Clock) (env : SendEnv)
  | removePeer (addr : NodeAddr) (peerCosts : Map NodeAddr F) (clock : Clock)
  | sendPending (nowMs : Nat) (env : SendEnv)
  | promotePeer (addr : NodeAddr) (pubkey : PublicKey) (env : SendEnv)
  /-- The table of ancestries is iterated in another order from here on. -/
  | rehash (ancestry : Map NodeAddr TreeCoordinate)

variable {SecretKey PublicKey Signature F : Type}

/-- One event. -/
def TreeNode.step [SigningKey SecretKey Signature] [VerifyingKey PublicKey Signature]
    [LinkCost F] (n : TreeNode SecretKey PublicKey Signature F) :
    TreeEvent PublicKey Signature F →
      TreeNode SecretKey PublicKey Signature F × List (TreeEffect Signature)
  | .announce source announce peerCosts clock lostClock env =>
    n.handleTreeAnnounce source announce peerCosts clock lostClock env
  | .periodicReeval peerCosts clock env => n.checkPeriodicParentReeval peerCosts clock env
  | .firstRtt peerCosts clock env => n.reevaluateParent peerCosts clock env
  | .removePeer addr peerCosts clock => n.removeActivePeer addr peerCosts clock
  | .sendPending nowMs env => n.sendPendingTreeAnnounces nowMs env
  | .promotePeer addr pubkey env => n.promotePeer addr pubkey env
  | .rehash ancestry =>
    if n.treeState.peerAncestry.Rehash ancestry then
      ({ n with treeState := { n.treeState with peerAncestry := ancestry } }, [])
    else (n, [])

/-! ## What the handlers do to the tree state -/

namespace TreeNode

section Sends

variable (n : TreeNode SecretKey PublicKey Signature F) (env : SendEnv)

@[simp] theorem sendTreeAnnounceToPeer_treeState (p : NodeAddr) :
    (n.sendTreeAnnounceToPeer p env).1.treeState = n.treeState := by
  unfold sendTreeAnnounceToPeer
  split
  · rfl
  · split_ifs
    · split
      · rfl
      · split <;> rfl
    · rfl

@[simp] theorem sendTreeAnnounceToPeer_identity (p : NodeAddr) :
    (n.sendTreeAnnounceToPeer p env).1.identity = n.identity := by
  unfold sendTreeAnnounceToPeer
  split
  · rfl
  · split_ifs
    · split
      · rfl
      · split <;> rfl
    · rfl

@[simp] theorem sendTreeAnnounces_treeState (ps : List NodeAddr) :
    (sendTreeAnnounces env ps n).1.treeState = n.treeState := by
  induction ps generalizing n with
  | nil => rfl
  | cons p ps ih => exact (ih _).trans (n.sendTreeAnnounceToPeer_treeState env p)

@[simp] theorem sendTreeAnnounces_identity (ps : List NodeAddr) :
    (sendTreeAnnounces env ps n).1.identity = n.identity := by
  induction ps generalizing n with
  | nil => rfl
  | cons p ps ih => exact (ih _).trans (n.sendTreeAnnounceToPeer_identity env p)

@[simp] theorem sendTreeAnnounceToAll_treeState :
    (n.sendTreeAnnounceToAll env).1.treeState = n.treeState := n.sendTreeAnnounces_treeState env _

@[simp] theorem sendTreeAnnounceToAll_identity :
    (n.sendTreeAnnounceToAll env).1.identity = n.identity := n.sendTreeAnnounces_identity env _

@[simp] theorem promotePeer_treeState (addr : NodeAddr) (pubkey : PublicKey) :
    (n.promotePeer addr pubkey env).1.treeState = n.treeState :=
  sendTreeAnnounceToPeer_treeState { n with peers := n.peers.insert addr _ } env addr

@[simp] theorem promotePeer_identity (addr : NodeAddr) (pubkey : PublicKey) :
    (n.promotePeer addr pubkey env).1.identity = n.identity :=
  sendTreeAnnounceToPeer_identity { n with peers := n.peers.insert addr _ } env addr

end Sends

section Moves

variable {n : TreeNode SecretKey PublicKey Signature F} [SigningKey SecretKey Signature]

open TreeState (Moved)

/-- The outcome of a handler that sends the announces of `m` to all peers. -/
structure SendsAll (m : TreeNode SecretKey PublicKey Signature F) (env : SendEnv)
    (out : TreeNode SecretKey PublicKey Signature F × List (TreeEffect Signature)) : Prop where
  node : out.1 = (m.sendTreeAnnounceToAll env).1
  sent : ∀ e ∈ (m.sendTreeAnnounceToAll env).2, e ∈ out.2

omit [SigningKey SecretKey Signature] in
theorem SendsAll.treeState {m : TreeNode SecretKey PublicKey Signature F} {env : SendEnv}
    {out : TreeNode SecretKey PublicKey Signature F × List (TreeEffect Signature)}
    (h : SendsAll m env out) : out.1.treeState = m.treeState := by
  rw [h.node, sendTreeAnnounceToAll_treeState]

omit [SigningKey SecretKey Signature] in
theorem SendsAll.identity {m : TreeNode SecretKey PublicKey Signature F} {env : SendEnv}
    {out : TreeNode SecretKey PublicKey Signature F × List (TreeEffect Signature)}
    (h : SendsAll m env out) : out.1.identity = m.identity := by
  rw [h.node, sendTreeAnnounceToAll_identity]

/-- Setting a parent and signing. -/
theorem setParent_signed {s : TreeState Signature F} {identity : Identity SecretKey}
    (hid : identity.nodeAddr = s.myNodeAddr) (p : NodeAddr) (seq ts now : Nat) :
    ∃ signed, (s.setParent p seq ts now).1.signDeclaration identity = .ok signed ∧
      Moved s signed.recomputeCoords p ∧ signed.recomputeCoords.myDeclaration.isSigned := by
  obtain ⟨sig, hsig⟩ := (s.setParent p seq ts now).1.signDeclaration_eq identity
    (by simpa [ParentDeclaration.new] using hid)
  exact ⟨_, hsig, Moved.of_setParent (some sig) _ _ _, by simp [ParentDeclaration.isSigned]⟩

/-- The switch flow moves the node under the new parent and announces to all. -/
theorem switchParent_cases (hid : n.identity.nodeAddr = n.treeState.myNodeAddr) (p : NodeAddr)
    (clock : Clock) (env : SendEnv) :
    ∃ s', Moved n.treeState s' p ∧ s'.myDeclaration.isSigned ∧
      SendsAll { n with treeState := s' } env (n.switchParent p clock env) := by
  obtain ⟨signed, hok, hm, hsigned⟩ := setParent_signed hid p
    (n.treeState.myDeclaration.sequence + 1) clock.unixSecs clock.instant
  refine ⟨signed.recomputeCoords, hm, hsigned, ?_⟩
  unfold switchParent
  simp only [hok]
  exact ⟨rfl, fun e he => List.mem_append_left _ (List.mem_append_right _ he)⟩

/-- The refresh moves the node under the same parent again, and announces to all if its root or
depth changed. -/
theorem refreshParent_cases (hid : n.identity.nodeAddr = n.treeState.myNodeAddr) (p : NodeAddr)
    (clock : Clock) (env : SendEnv) :
    ∃ s', Moved n.treeState s' p ∧ s'.myDeclaration.isSigned ∧
      if s'.root ≠ n.treeState.root ∨ s'.myCoords.depth ≠ n.treeState.myCoords.depth then
        SendsAll { n with treeState := s' } env (n.refreshParent p clock env)
      else (n.refreshParent p clock env).1 = { n with treeState := s' } := by
  obtain ⟨signed, hok, hm, hsigned⟩ := setParent_signed hid p
    (n.treeState.myDeclaration.sequence + 1) clock.unixSecs clock.instant
  refine ⟨signed.recomputeCoords, hm, hsigned, ?_⟩
  unfold refreshParent
  simp only [hok]
  split_ifs
  · exact ⟨rfl, fun e he => List.mem_append_left _ (List.mem_append_right _ he)⟩
  · rfl

variable [LinkCost F] {s : TreeState Signature F} {peerCosts : Map NodeAddr F} {clock : Clock}

/-- Where a lost parent leaves the node: under an alternative, or its own root. -/
def LostTo (s s' : TreeState Signature F) (peerCosts : Map NodeAddr F) (clock : Clock) : Prop :=
  (∃ p, s.SwitchesTo peerCosts clock.instant p ∧ Moved s s' p) ∨
    (¬ s.Switches peerCosts clock.instant ∧ Moved s s' s.myNodeAddr)

/-- `handle_parent_lost` followed by a signature. -/
theorem lostTo_signed {identity : Identity SecretKey} (hid : identity.nodeAddr = s.myNodeAddr)
    (peerCosts : Map NodeAddr F) (clock : Clock) :
    ∃ s', (s.handleParentLost peerCosts clock).1.signDeclaration identity = .ok s' ∧
      s'.myDeclaration.isSigned ∧ LostTo s s' peerCosts clock := by
  rcases s.handleParentLost_moved peerCosts clock with ⟨p, hp, hm⟩ | ⟨hno, hm⟩
  · obtain ⟨sig, hsig⟩ := TreeState.signDeclaration_eq _ _ (hid.trans hm.declarer.symm)
    exact ⟨_, hsig, rfl, .inl ⟨p, hp, hm.signed (some sig)⟩⟩
  · obtain ⟨sig, hsig⟩ := TreeState.signDeclaration_eq _ _ (hid.trans hm.declarer.symm)
    exact ⟨_, hsig, rfl, .inr ⟨hno, hm.signed (some sig)⟩⟩

theorem dropLoopingParent_cases (hid : n.identity.nodeAddr = n.treeState.myNodeAddr)
    (peerCosts : Map NodeAddr F) (clock : Clock) (env : SendEnv) :
    ∃ s', LostTo n.treeState s' peerCosts clock ∧ s'.myDeclaration.isSigned ∧
      SendsAll { n with treeState := s' } env (n.dropLoopingParent peerCosts clock env) := by
  obtain ⟨s', hs', hsigned, hlost⟩ := lostTo_signed hid peerCosts clock
  refine ⟨s', hlost, hsigned, ?_⟩
  unfold dropLoopingParent
  simp only [TreeState.handleParentLost_changed, if_true, hs']
  exact ⟨rfl, fun e he => List.mem_append_right _ he⟩

/-- A re-evaluation moves the node where the recommended switch leads, or does nothing. -/
theorem reevaluateParent_cases (hid : n.identity.nodeAddr = n.treeState.myNodeAddr)
    (peerCosts : Map NodeAddr F) (clock : Clock) (env : SendEnv) :
    (∃ p s', n.treeState.SwitchesTo peerCosts clock.instant p ∧ Moved n.treeState s' p ∧
        s'.myDeclaration.isSigned ∧
        SendsAll { n with treeState := s' } env (n.reevaluateParent peerCosts clock env)) ∨
      n.reevaluateParent peerCosts clock env = (n, []) := by
  unfold reevaluateParent
  cases he : n.treeState.evaluateParent peerCosts clock.instant with
  | some p =>
    obtain ⟨s', hm, hsigned, hout⟩ := switchParent_cases hid p clock env
    exact .inl ⟨p, s', TreeState.evaluateParent_eq_some_iff.mp he, hm, hsigned, hout⟩
  | none => exact .inr rfl

/-- The periodic check does nothing, or it notes the time and re-evaluates the parent. -/
theorem checkPeriodicParentReeval_cases (n : TreeNode SecretKey PublicKey Signature F)
    (peerCosts : Map NodeAddr F) (clock : Clock) (env : SendEnv) :
    n.checkPeriodicParentReeval peerCosts clock env = (n, []) ∨
      (n.reevalDue clock.instant ∧ n.checkPeriodicParentReeval peerCosts clock env =
        { n with lastParentReeval := some clock.instant }.reevaluateParent
          peerCosts clock env) := by
  unfold checkPeriodicParentReeval
  split_ifs with hdue
  · exact .inr ⟨hdue, rfl⟩
  · exact .inl rfl

/-- The removal of a known peer drops its entries; if it was the parent, the node loses its parent
and every remaining peer is marked. -/
theorem removeActivePeer_cases (hid : n.identity.nodeAddr = n.treeState.myNodeAddr)
    {addr : NodeAddr} (haddr : addr ∈ n.peers) (peerCosts : Map NodeAddr F) (clock : Clock) :
    (∃ s', ¬ n.treeState.isRoot ∧ n.treeState.myDeclaration.parentId = addr ∧
        LostTo (n.treeState.removePeer addr) s' peerCosts clock ∧ s'.myDeclaration.isSigned ∧
        (n.removeActivePeer addr peerCosts clock).1 = { n with
          treeState := s'
          peers := Map.mapVals (fun _ p => p.markTreeAnnouncePending) (n.peers.erase addr) }) ∨
      (¬ (¬ n.treeState.isRoot ∧ n.treeState.myDeclaration.parentId = addr) ∧
        (n.removeActivePeer addr peerCosts clock).1 = { n with
          treeState := n.treeState.removePeer addr
          peers := n.peers.erase addr }) := by
  obtain ⟨s', hs', hsigned, hlost⟩ := lostTo_signed
    (show n.identity.nodeAddr = (n.treeState.removePeer addr).myNodeAddr from hid) peerCosts clock
  unfold removeActivePeer handlePeerRemovalTreeCleanup
  simp only [haddr, not_true_eq_false, if_false]
  by_cases hparent : ¬ n.treeState.isRoot ∧ n.treeState.myDeclaration.parentId = addr
  · have hwas : (!n.treeState.isRoot && n.treeState.myDeclaration.parentId == addr) = true := by
      simpa using hparent
    simp only [hwas, if_true, TreeState.handleParentLost_changed, hs']
    exact .inl ⟨s', hparent.1, hparent.2, hlost, hsigned, rfl⟩
  · have hwas : (!n.treeState.isRoot && n.treeState.myDeclaration.parentId == addr) = false := by
      simpa using hparent
    simp only [hwas, Bool.false_eq_true, if_false]
    exact .inr ⟨hparent, trivial⟩

variable [VerifyingKey PublicKey Signature]

omit [SigningKey SecretKey Signature] [LinkCost F] in
theorem admits_source {source : NodeAddr} {announce : TreeAnnounce Signature}
    (h : n.admits source announce = true) : announce.declaration.nodeAddr = source := by
  unfold admits at h
  split at h
  · cases h
  · exact beq_iff_eq.mp (Bool.and_eq_true_iff.mp h).1

omit [SigningKey SecretKey Signature] [LinkCost F] in
/-- An accepted announce is the sender's recorded ancestry from there on. -/
theorem lookup_recordAnnounce {source : NodeAddr} {announce : TreeAnnounce Signature}
    (hadm : n.admits source announce = true)
    (hacc : n.treeState.accepts announce.declaration = true) :
    (n.recordAnnounce source announce).1.treeState.peerAncestry.lookup source =
      some announce.ancestry := by
  change (n.treeState.updatePeer announce.declaration announce.ancestry).1.peerAncestry.lookup
    source = _
  rw [TreeState.updatePeer_eq hacc, ← admits_source hadm]
  exact AList.lookup_insert _

/-- The outcome of an announce, where `m` is the node with the announce recorded. -/
inductive AnnounceOutcome (n m : TreeNode SecretKey PublicKey Signature F) (source : NodeAddr)
    (announce : TreeAnnounce Signature) (peerCosts : Map NodeAddr F) (clock lostClock : Clock)
    (env : SendEnv)
    (out : TreeNode SecretKey PublicKey Signature F × List (TreeEffect Signature)) : Prop
  | unadmitted (h : ¬ n.admits source announce) (hout : out.1 = n)
  | stale (h : ¬ n.treeState.accepts announce.declaration) (hout : out.1 = m)
  | switched (hadm : n.admits source announce) (hacc : n.treeState.accepts announce.declaration)
      (p : NodeAddr) (s' : TreeState Signature F)
      (hp : m.treeState.SwitchesTo peerCosts clock.instant p) (hm : Moved m.treeState s' p)
      (hsigned : s'.myDeclaration.isSigned) (hout : SendsAll { m with treeState := s' } env out)
  | looping (hadm : n.admits source announce) (hacc : n.treeState.accepts announce.declaration)
      (hno : ¬ m.treeState.Switches peerCosts clock.instant)
      (hchild : ¬ n.treeState.isRoot ∧ n.treeState.myDeclaration.parentId = source)
      (hloop : announce.ancestry.contains n.treeState.myNodeAddr) (s' : TreeState Signature F)
      (hlost : LostTo m.treeState s' peerCosts lostClock) (hsigned : s'.myDeclaration.isSigned)
      (hout : SendsAll { m with treeState := s' } env out)
  | refreshed (hadm : n.admits source announce) (hacc : n.treeState.accepts announce.declaration)
      (hno : ¬ m.treeState.Switches peerCosts clock.instant)
      (hchild : ¬ n.treeState.isRoot ∧ n.treeState.myDeclaration.parentId = source)
      (hloop : ¬ announce.ancestry.contains n.treeState.myNodeAddr) (s' : TreeState Signature F)
      (hm : Moved m.treeState s' source) (hsigned : s'.myDeclaration.isSigned)
      (hout : if s'.root ≠ n.treeState.root ∨ s'.myCoords.depth ≠ n.treeState.myCoords.depth then
        SendsAll { m with treeState := s' } env out else out.1 = { m with treeState := s' })
  | recorded (hadm : n.admits source announce) (hacc : n.treeState.accepts announce.declaration)
      (hno : ¬ m.treeState.Switches peerCosts clock.instant)
      (hchild : ¬ (¬ n.treeState.isRoot ∧ n.treeState.myDeclaration.parentId = source))
      (hout : out.1 = m)

omit [SigningKey SecretKey Signature] [VerifyingKey PublicKey Signature] [LinkCost F] in
/-- Further effects do not change what was sent. -/
theorem SendsAll.append {m : TreeNode SecretKey PublicKey Signature F} {env : SendEnv}
    {out : TreeNode SecretKey PublicKey Signature F × List (TreeEffect Signature)}
    (h : SendsAll m env out) (marks : List (TreeEffect Signature)) :
    SendsAll m env (out.1, marks ++ out.2) :=
  ⟨h.node, fun e he => List.mem_append_right _ (h.sent e he)⟩

/-- **Everything an announce can do.** -/
theorem handleTreeAnnounce_outcome (hid : n.identity.nodeAddr = n.treeState.myNodeAddr)
    (source : NodeAddr) (announce : TreeAnnounce Signature) (peerCosts : Map NodeAddr F)
    (clock lostClock : Clock) (env : SendEnv) :
    AnnounceOutcome n (n.recordAnnounce source announce).1 source announce peerCosts clock
      lostClock env (n.handleTreeAnnounce source announce peerCosts clock lostClock env) := by
  by_cases hadm : n.admits source announce = true
  swap
  · refine .unadmitted hadm ?_
    unfold handleTreeAnnounce
    rw [if_pos hadm]
  by_cases hacc : n.treeState.accepts announce.declaration = true
  swap
  · have hrec : (n.recordAnnounce source announce).2 = false :=
      congrArg Prod.snd (TreeState.updatePeer_of_stale hacc announce.ancestry)
    refine .stale hacc ?_
    unfold handleTreeAnnounce
    simp only [hadm, hrec, not_true_eq_false, if_false, Bool.false_eq_true, not_false_eq_true,
      if_true]
  -- the announce is recorded; `m` is the node from there on
  have hupd := TreeState.updatePeer_eq hacc announce.ancestry
  have hrec : (n.recordAnnounce source announce).2 = true := congrArg Prod.snd hupd
  have hmt : (n.recordAnnounce source announce).1.treeState =
    (n.treeState.updatePeer announce.declaration announce.ancestry).1 := rfl
  have hmid : (n.recordAnnounce source announce).1.identity = n.identity := rfl
  have hmrec := lookup_recordAnnounce hadm hacc
  unfold handleTreeAnnounce
  simp only [hadm, hrec, not_true_eq_false, if_false]
  generalize (n.recordAnnounce source announce).1 = m at hmt hmid hmrec
  have hmid' : m.identity.nodeAddr = m.treeState.myNodeAddr := by
    rw [hmid, hid, hmt, hupd]
  have hmroot : m.treeState.isRoot = n.treeState.isRoot := by
    rw [hmt, hupd]
    rfl
  have hmdecl : m.treeState.myDeclaration = n.treeState.myDeclaration := by
    rw [hmt, hupd]
  have hmpos : m.treeState.root = n.treeState.root ∧
      m.treeState.myCoords = n.treeState.myCoords := by
    rw [hmt, hupd]
    exact ⟨rfl, rfl⟩
  have hcoords : m.treeState.peerCoords source = some announce.ancestry := hmrec
  cases he : m.treeState.evaluateParent peerCosts clock.instant with
  | some p =>
    obtain ⟨s', hm, hsigned, hout⟩ := switchParent_cases hmid' p clock env
    exact .switched hadm hacc p s' (TreeState.evaluateParent_eq_some_iff.mp he) hm hsigned
      (hout.append _)
  | none =>
    have hno := TreeState.evaluateParent_eq_none_iff.mp he
    rw [hmroot, hmdecl, hcoords, hmid, hid]
    by_cases hchild : ¬ n.treeState.isRoot ∧ n.treeState.myDeclaration.parentId = source
    · have hwas : (!n.treeState.isRoot && n.treeState.myDeclaration.parentId == source) = true :=
        by simpa using hchild
      simp only [hwas, if_true]
      by_cases hloop : announce.ancestry.contains n.treeState.myNodeAddr = true
      · obtain ⟨s', hlost, hsigned, hout⟩ := dropLoopingParent_cases hmid' peerCosts
          lostClock env
        simp only [hloop, if_true]
        exact .looping hadm hacc hno hchild hloop s' hlost hsigned (hout.append _)
      · obtain ⟨s', hm, hsigned, hout⟩ := refreshParent_cases hmid' source clock env
        simp only [hloop, Bool.false_eq_true, if_false]
        rw [hmpos.1, hmpos.2] at hout
        refine .refreshed hadm hacc hno hchild hloop s' hm hsigned ?_
        by_cases hchanged : s'.root ≠ n.treeState.root ∨
            s'.myCoords.depth ≠ n.treeState.myCoords.depth
        · rw [if_pos hchanged] at hout ⊢
          exact hout.append _
        · rw [if_neg hchanged] at hout ⊢
          exact hout
    · have hwas : (!n.treeState.isRoot && n.treeState.myDeclaration.parentId == source) =
        false := by simpa using hchild
      simp only [hwas]
      exact .recorded hadm hacc hno hchild rfl

end Moves

end TreeNode

end Fips
