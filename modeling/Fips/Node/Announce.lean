import Fips.Node.RootElection

/-!
# No lost tree announcement

Downstream nodes derive their coordinates from the announces they are sent, so after each event
every active peer should have been sent the node's current address path since that path last
changed, or have its pending-announce flag set. `Observed` pairs a node with the peers that were
sent the current path since it last changed; `Observed.Owed` is the property.

It fails in two ways:

* the same-parent refresh (`node/tree.rs:288-328`) announces only if the root or the depth changed,
  so a path that changes between the same root and at the same depth reaches nobody;
* a send that is not rate limited and fails leaves the flag as it was, and the callers only log.

`DeliversPath` says of one event that neither happens.

## Results

* `sendTreeAnnounces_peer`: what a round of sends leaves at one peer.
* `SendsAll.owed`: a round of announces to all leaves nobody out if every send that is attempted to
  a peer without a pending flag succeeds.
* `Observed.owed_next`: an event that meets `DeliversPath` keeps the property.
* `owed_of_deliversPath`: a run whose events all meet it has the property throughout.
* `refresh_reaches_nobody`: a run that breaks it with every send succeeding.
-/

namespace Fips

open TreeState (Moved Anchored)

variable {SecretKey PublicKey Signature F : Type}

namespace TreeNode

/-! ## A round of sends -/

section Sends

variable {n : TreeNode SecretKey PublicKey Signature F} {env : SendEnv} {p q : NodeAddr}

/-- No send to `p` fails unless an announce to it is pending anyway: `peer` is flagged, or rate
limited, or the send succeeds. -/
def SendReaches (env : SendEnv) (p : NodeAddr) (peer : TreePeer PublicKey Signature) : Prop :=
  peer.pendingTreeAnnounce = true ∨
    (peer.canSendTreeAnnounce (env.nowMs p) = true → env.sendEncryptedLinkMessage p = .ok ())

/-- The announce the node builds. -/
def currentAnnounce (n : TreeNode SecretKey PublicKey Signature F) : TreeAnnounce Signature :=
  ⟨n.treeState.myDeclaration, n.treeState.myCoords⟩

/-- One send changes no other peer, and leaves its peer flagged or sent to. -/
theorem sendTreeAnnounceToPeer_peer (hsigned : n.treeState.myDeclaration.isSigned)
    {peer' : TreePeer PublicKey Signature}
    (h : (n.sendTreeAnnounceToPeer p env).1.peers.lookup q = some peer') :
    ∃ peer, n.peers.lookup q = some peer ∧ (q ≠ p → peer' = peer) ∧
      (q = p → SendReaches env p peer → peer'.pendingTreeAnnounce = true ∨
        .sentTreeAnnounce p n.currentAnnounce ∈ (n.sendTreeAnnounceToPeer p env).2.1) := by
  unfold sendTreeAnnounceToPeer at h ⊢
  cases hp : n.peers.lookup p with
  | none =>
    simp only [hp] at h
    refine ⟨peer', h, fun _ => rfl, ?_⟩
    rintro rfl
    rw [hp] at h
    cases h
  | some peer₀ =>
    simp only [hp] at h
    simp only
    by_cases hcan : peer₀.canSendTreeAnnounce (env.nowMs p) = true
    · have hbuild : n.buildTreeAnnounce = .ok n.currentAnnounce := by
        unfold buildTreeAnnounce
        rw [if_pos hsigned]
        rfl
      simp only [hcan, not_true_eq_false, if_false, hbuild] at h ⊢
      cases hsend : env.sendEncryptedLinkMessage p with
      | error e =>
        simp only [hsend] at h ⊢
        refine ⟨peer', h, fun _ => rfl, ?_⟩
        rintro rfl (hflag | hok)
        · exact .inl hflag
        · rw [hp] at h
          obtain rfl := Option.some.inj h
          have hsent := hok hcan
          rw [hsend] at hsent
          cases hsent
      | ok u =>
        simp only [hsend, Map.lookup_modify] at h ⊢
        by_cases hq : q = p
        · subst hq
          exact ⟨peer₀, hp, fun hne => absurd rfl hne, fun _ _ => .inr List.mem_cons_self⟩
        · rw [if_neg hq] at h
          exact ⟨peer', h, fun _ => rfl, fun h => absurd h hq⟩
    · simp only [hcan, Bool.false_eq_true, not_false_eq_true, if_true, Map.lookup_modify] at h ⊢
      by_cases hq : q = p
      · subst hq
        rw [if_pos rfl, hp] at h
        obtain rfl := Option.some.inj h
        exact ⟨peer₀, hp, fun hne => absurd rfl hne, fun _ _ => .inl rfl⟩
      · rw [if_neg hq] at h
        exact ⟨peer', h, fun _ => rfl, fun h => absurd h hq⟩

/-- **A round of sends.** A peer outside the list is unchanged; one in the list is flagged or sent
to. -/
theorem sendTreeAnnounces_peer {ps : List NodeAddr} (hnodup : ps.Nodup)
    (hsigned : n.treeState.myDeclaration.isSigned) {peer' : TreePeer PublicKey Signature}
    (h : (sendTreeAnnounces env ps n).1.peers.lookup q = some peer') :
    ∃ peer, n.peers.lookup q = some peer ∧ (q ∉ ps → peer' = peer) ∧
      (q ∈ ps → SendReaches env q peer → peer'.pendingTreeAnnounce = true ∨
        .sentTreeAnnounce q n.currentAnnounce ∈ (sendTreeAnnounces env ps n).2) := by
  induction ps generalizing n with
  | nil => exact ⟨peer', h, fun _ => rfl, fun hq => absurd hq List.not_mem_nil⟩
  | cons p ps ih =>
    obtain ⟨hp, hnodup⟩ := List.nodup_cons.mp hnodup
    have hcur : (n.sendTreeAnnounceToPeer p env).1.currentAnnounce = n.currentAnnounce := by
      simp [currentAnnounce]
    obtain ⟨peer₁, h₁, hout, hin⟩ := ih (n := (n.sendTreeAnnounceToPeer p env).1) hnodup
      (by simpa using hsigned) h
    obtain ⟨peer, hl, hne, heq⟩ := sendTreeAnnounceToPeer_peer hsigned h₁
    refine ⟨peer, hl, fun hq => ?_, fun hq hreach => ?_⟩
    · rw [List.mem_cons, not_or] at hq
      rw [hout hq.2, hne hq.1]
    · rcases List.mem_cons.mp hq with rfl | hq
      · rw [hout hp]
        exact (heq rfl hreach).imp_right fun hs => List.mem_append_left _ hs
      · have hqp : q ≠ p := fun hqp => hp (hqp ▸ hq)
        rw [hne hqp, hcur] at hin
        exact (hin hq hreach).imp_right fun hs => List.mem_append_right _ hs

variable {m : TreeNode SecretKey PublicKey Signature F}
  {out : TreeNode SecretKey PublicKey Signature F × List (TreeEffect Signature)}

/-- No send of a round to all peers fails unless an announce is pending anyway. -/
def SendsReach (n : TreeNode SecretKey PublicKey Signature F) (env : SendEnv) : Prop :=
  ∀ p peer, n.peers.lookup p = some peer → SendReaches env p peer

/-- **A round to all peers** leaves each of them flagged or sent to. -/
theorem SendsAll.reaches (h : SendsAll m env out) (hsigned : m.treeState.myDeclaration.isSigned)
    (hreach : m.SendsReach env) {peer' : TreePeer PublicKey Signature}
    (hp : out.1.peers.lookup p = some peer') :
    peer'.pendingTreeAnnounce = true ∨ .sentTreeAnnounce p m.currentAnnounce ∈ out.2 := by
  rw [h.node] at hp
  obtain ⟨peer, hl, -, hin⟩ := sendTreeAnnounces_peer m.peers.keys_nodup hsigned hp
  have hkey : p ∈ m.peers.keys := AList.mem_keys.mp (Map.mem_of_lookup hl)
  exact (hin hkey (hreach p peer hl)).imp_right (h.sent _)

end Sends

/-- Recording an announce leaves every peer's announce slots alone. -/
theorem recordAnnounce_peer {n : TreeNode SecretKey PublicKey Signature F} {source p : NodeAddr}
    {announce : TreeAnnounce Signature} {peer' : TreePeer PublicKey Signature}
    (h : (n.recordAnnounce source announce).1.peers.lookup p = some peer') :
    ∃ peer, n.peers.lookup p = some peer ∧
      peer'.pendingTreeAnnounce = peer.pendingTreeAnnounce ∧
      ∀ env : SendEnv, SendReaches env p peer → SendReaches env p peer' := by
  have h' : (n.peers.modify source fun peer =>
      peer.updateTreePosition announce.declaration announce.ancestry).lookup p = some peer' := h
  rw [Map.lookup_modify] at h'
  by_cases hp : p = source
  · subst hp
    rw [if_pos rfl, Option.map_eq_some_iff] at h'
    obtain ⟨peer, hl, rfl⟩ := h'
    exact ⟨peer, hl, rfl, fun _ hr => hr⟩
  · rw [if_neg hp] at h'
    exact ⟨peer', h', rfl, fun _ hr => hr⟩

end TreeNode

/-! ## Who was sent the current path -/

/-- A node, and the peers that were sent its current address path since the path last changed (and
since they became peers). -/
structure Observed (SecretKey PublicKey Signature F : Type) where
  node : TreeNode SecretKey PublicKey Signature F
  informed : List NodeAddr

namespace Observed

open TreeNode

/-- The node's address path. -/
def path (n : TreeNode SecretKey PublicKey Signature F) : List NodeAddr :=
  n.treeState.myCoords.nodeAddrs

/-- The peers that were sent an announce with the address path `path`. -/
def told (path : List NodeAddr) : List (TreeEffect Signature) → List NodeAddr
  | [] => []
  | .sentTreeAnnounce p announce :: rest =>
    if announce.ancestry.nodeAddrs = path then p :: told path rest else told path rest
  | _ :: rest => told path rest

theorem mem_told {path : List NodeAddr} {effects : List (TreeEffect Signature)} {p : NodeAddr}
    {announce : TreeAnnounce Signature} (h : .sentTreeAnnounce p announce ∈ effects)
    (hpath : announce.ancestry.nodeAddrs = path) : p ∈ told path effects := by
  induction effects with
  | nil => exact absurd h List.not_mem_nil
  | cons e rest ih =>
    rcases List.mem_cons.mp h with rfl | h
    · simp [told, hpath]
    · have hrest := ih h
      cases e with
      | sentTreeAnnounce q a =>
        unfold told
        split_ifs
        · exact List.mem_cons_of_mem _ hrest
        · exact hrest
      | clearCoordCache => exact hrest
      | resetDiscoveryBackoff => exact hrest
      | markFilterUpdates ps => exact hrest

/-- The peers still informed when the node's path goes from `before` to `after`; a promoted peer
starts uninformed. -/
def stillInformed (informed before after : List NodeAddr) (e : TreeEvent PublicKey Signature F) :
    List NodeAddr :=
  if after = before then
    match e with
    | .promotePeer addr _ _ => informed.filter (· ≠ addr)
    | _ => informed
  else []

variable [SigningKey SecretKey Signature] [VerifyingKey PublicKey Signature] [LinkCost F]

/-- The node after an event, and which peers were told of its path by then. -/
def next (o : Observed SecretKey PublicKey Signature F) (e : TreeEvent PublicKey Signature F) :
    Observed SecretKey PublicKey Signature F where
  node := (o.node.step e).1
  informed := told (path (o.node.step e).1) (o.node.step e).2 ++
    stillInformed o.informed (path o.node) (path (o.node.step e).1) e

omit [SigningKey SecretKey Signature] [VerifyingKey PublicKey Signature] [LinkCost F] in
/-- **The property**: every active peer is informed or flagged. -/
def Owed (o : Observed SecretKey PublicKey Signature F) : Prop :=
  ∀ p peer, o.node.peers.lookup p = some peer →
    peer.pendingTreeAnnounce = true ∨ p ∈ o.informed

/-! ## The condition -/

/-- An accepted announce makes the node announce: it switches parents, or the announce comes from
the kept parent and closes a loop or changes the root or the depth. -/
def Announces (n : TreeNode SecretKey PublicKey Signature F) (source : NodeAddr)
    (announce : TreeAnnounce Signature) (peerCosts : Map NodeAddr F) (clock : Clock) : Prop :=
  (n.recordAnnounce source announce).1.treeState.Switches peerCosts clock.instant ∨
    (¬ n.treeState.isRoot ∧ n.treeState.myDeclaration.parentId = source) ∧
      (announce.ancestry.contains n.treeState.myNodeAddr ∨
        announce.ancestry.rootId ≠ n.treeState.root ∨
        announce.ancestry.depth + 1 ≠ n.treeState.myCoords.depth)

/-- The event loses no announcement: where it sends announces, none of them fails unless one is
pending anyway, and where the kept parent's announce makes the node recompute its coordinates
without announcing them, the address path is the old one or every peer is flagged already. -/
def DeliversPath (n : TreeNode SecretKey PublicKey Signature F) :
    TreeEvent PublicKey Signature F → Prop
  | .announce source announce peerCosts clock _ env =>
    n.admits source announce → n.treeState.accepts announce.declaration →
      (Announces n source announce peerCosts clock → n.SendsReach env) ∧
      (¬ Announces n source announce peerCosts clock →
        ¬ n.treeState.isRoot → n.treeState.myDeclaration.parentId = source →
          n.treeState.myNodeAddr :: announce.ancestry.nodeAddrs = path n ∨
            ∀ p peer, n.peers.lookup p = some peer → peer.pendingTreeAnnounce = true)
  | .periodicReeval peerCosts clock env =>
    n.reevalDue clock.instant → n.treeState.Switches peerCosts clock.instant → n.SendsReach env
  | .firstRtt peerCosts clock env =>
    n.treeState.Switches peerCosts clock.instant → n.SendsReach env
  | .promotePeer addr _ env =>
    n.announceMinIntervalMs ≤ env.nowMs addr → env.sendEncryptedLinkMessage addr = .ok ()
  | _ => True

/-! ## One event -/

section Step

variable {o : Observed SecretKey PublicKey Signature F} {e : TreeEvent PublicKey Signature F}

omit [SigningKey SecretKey Signature] [VerifyingKey PublicKey Signature] [LinkCost F] in
theorem mem_stillInformed {informed before after : List NodeAddr} {p : NodeAddr}
    (hp : p ∈ informed) (hpath : after = before)
    (he : ∀ addr pubkey env, e ≠ .promotePeer addr pubkey env) :
    p ∈ stillInformed informed before after e := by
  unfold stillInformed
  rw [if_pos hpath]
  cases e with
  | promotePeer addr pubkey env => exact absurd rfl (he addr pubkey env)
  | _ => exact hp

/-- An event that sends its announces to all peers. -/
theorem owed_of_sendsAll {m : TreeNode SecretKey PublicKey Signature F} {env : SendEnv}
    (h : SendsAll m env (o.node.step e)) (hsigned : m.treeState.myDeclaration.isSigned)
    (hreach : m.SendsReach env) : (o.next e).Owed := by
  intro p peer' hp
  refine (h.reaches hsigned hreach hp).imp_right fun hsent => List.mem_append_left _ ?_
  refine mem_told hsent ?_
  unfold path
  rw [h.treeState]
  rfl

/-- An event that keeps the path, and at each peer the flag, unless it sends to it or flags it. -/
theorem owed_of_samePath (howed : o.Owed) (hpath : path (o.node.step e).1 = path o.node)
    (he : ∀ addr pubkey env, e ≠ .promotePeer addr pubkey env)
    (hpeers : ∀ p peer', (o.node.step e).1.peers.lookup p = some peer' →
      peer'.pendingTreeAnnounce = true ∨
      p ∈ told (path (o.node.step e).1) (o.node.step e).2 ∨
      ∃ peer, o.node.peers.lookup p = some peer ∧
        peer'.pendingTreeAnnounce = peer.pendingTreeAnnounce) : (o.next e).Owed := by
  intro p peer' hp
  rcases hpeers p peer' hp with hflag | hsent | ⟨peer, hl, hsame⟩
  · exact .inl hflag
  · exact .inr (List.mem_append_left _ hsent)
  · rw [hsame]
    exact (howed p peer hl).imp_right fun hi =>
      List.mem_append_right _ (mem_stillInformed hi hpath he)

/-- An event that touches neither the peers nor the coordinates. -/
theorem owed_of_samePeers (howed : o.Owed)
    (hpeers : (o.node.step e).1.peers = o.node.peers)
    (hcoords : (o.node.step e).1.treeState.myCoords = o.node.treeState.myCoords)
    (he : ∀ addr pubkey env, e ≠ .promotePeer addr pubkey env) : (o.next e).Owed := by
  refine owed_of_samePath howed (congrArg TreeCoordinate.nodeAddrs hcoords) he fun p peer' hp => ?_
  rw [hpeers] at hp
  exact .inr (.inr ⟨peer', hp, rfl⟩)

omit [SigningKey SecretKey Signature] [VerifyingKey PublicKey Signature] [LinkCost F] in
/-- The announce slots are those of before the announce was recorded. -/
theorem peers_of_recorded {n : TreeNode SecretKey PublicKey Signature F}
    {out : TreeNode SecretKey PublicKey Signature F × List (TreeEffect Signature)}
    {source : NodeAddr} {announce : TreeAnnounce Signature} {told : List NodeAddr}
    (hout : out.1.peers = (n.recordAnnounce source announce).1.peers) :
    ∀ p peer', out.1.peers.lookup p = some peer' → peer'.pendingTreeAnnounce = true ∨ p ∈ told ∨
      ∃ peer, n.peers.lookup p = some peer ∧
        peer'.pendingTreeAnnounce = peer.pendingTreeAnnounce := by
  intro p peer' hp
  rw [hout] at hp
  obtain ⟨peer, hl, hsame, -⟩ := recordAnnounce_peer hp
  exact .inr (.inr ⟨peer, hl, hsame⟩)

/-- **One announce.** -/
theorem owed_announce (hplaced : o.node.Placed) (howed : o.Owed)
    {source : NodeAddr} {announce : TreeAnnounce Signature} {peerCosts : Map NodeAddr F}
    {clock lostClock : Clock} {env : SendEnv}
    (hc : DeliversPath o.node (.announce source announce peerCosts clock lostClock env)) :
    (o.next (.announce source announce peerCosts clock lostClock env)).Owed := by
  have hout := handleTreeAnnounce_outcome hplaced.identity source announce peerCosts clock
    lostClock env
  have hnot : ∀ addr (pubkey : PublicKey) env', TreeEvent.announce source announce peerCosts clock
      lostClock env ≠ .promotePeer addr pubkey env' := by
    intro _ _ _ h
    cases h
  -- a round of announces after the announce was recorded
  have hsend : ∀ s' : TreeState Signature F, s'.myDeclaration.isSigned →
      SendsAll { (o.node.recordAnnounce source announce).1 with treeState := s' } env
        (o.node.step (.announce source announce peerCosts clock lostClock env)) →
      o.node.SendsReach env →
      (o.next (.announce source announce peerCosts clock lostClock env)).Owed := by
    intro s' hsigned hout hreach
    refine owed_of_sendsAll hout hsigned fun p peer' hp => ?_
    obtain ⟨peer, hl, -, hr⟩ := recordAnnounce_peer hp
    exact hr env (hreach p peer hl)
  have hme : (o.node.recordAnnounce source announce).1.treeState.myNodeAddr =
      o.node.treeState.myNodeAddr := TreeState.updatePeer_myNodeAddr ..
  have hpath : (o.node.recordAnnounce source announce).1.treeState.myCoords =
      o.node.treeState.myCoords := TreeState.updatePeer_myCoords ..
  cases hout with
  | unadmitted h hout =>
    exact owed_of_samePeers howed (congrArg TreeNode.peers hout)
      (congrArg (fun n => n.treeState.myCoords) hout) hnot
  | stale h hout =>
    refine owed_of_samePath howed ?_ hnot (peers_of_recorded (congrArg _ hout))
    exact (congrArg path hout).trans (congrArg TreeCoordinate.nodeAddrs hpath)
  | switched hadm hacc p s' hp hm hsigned hout =>
    exact hsend s' hsigned hout ((hc hadm hacc).1 (.inl ⟨p, hp⟩))
  | looping hadm hacc hno hchild hloop s' hlost hsigned hout =>
    exact hsend s' hsigned hout ((hc hadm hacc).1 (.inr ⟨hchild, .inl hloop⟩))
  | refreshed hadm hacc hno hchild hloop s' hm hsigned hout =>
    have hrec : (o.node.recordAnnounce source announce).1.treeState.peerAncestry.lookup source =
        some announce.ancestry := lookup_recordAnnounce hadm hacc
    have hne : source ≠ o.node.treeState.myNodeAddr := hchild.2 ▸ hplaced.parent_ne hchild.1
    obtain ⟨hroot, hdepth, hnew⟩ := hm.position (hme ▸ hne) hrec
    rw [hroot, hdepth] at hout
    by_cases hchanged : announce.ancestry.rootId ≠ o.node.treeState.root ∨
        announce.ancestry.depth + 1 ≠ o.node.treeState.myCoords.depth
    · rw [if_pos hchanged] at hout
      exact hsend s' hsigned hout ((hc hadm hacc).1 (.inr ⟨hchild, .inr hchanged⟩))
    · rw [if_neg hchanged] at hout
      -- no announce: the condition says that the path is the old one or all peers are flagged
      have hquiet : ¬ Announces o.node source announce peerCosts clock := by
        rintro (hsw | ⟨-, hl | hch⟩)
        · exact hno hsw
        · exact hloop hl
        · exact hchanged hch
      have hpeers : (o.node.step (.announce source announce peerCosts clock lostClock env)).1.peers =
          (o.node.recordAnnounce source announce).1.peers := by
        have h := congrArg TreeNode.peers hout
        exact h
      rcases (hc hadm hacc).2 hquiet hchild.1 hchild.2 with hold | hall
      swap
      · intro p peer' hp
        change (o.node.step _).1.peers.lookup p = _ at hp
        rw [hpeers] at hp
        obtain ⟨peer, hl, hsame, -⟩ := recordAnnounce_peer hp
        exact .inl (hsame.trans (hall p peer hl))
      refine owed_of_samePath howed ?_ hnot (peers_of_recorded hpeers)
      refine (congrArg path hout).trans ?_
      show s'.myCoords.nodeAddrs = _
      rw [hnew, hme, hold]
  | recorded hadm hacc hno hchild hout =>
    refine owed_of_samePath howed ?_ hnot (peers_of_recorded (congrArg _ hout))
    exact (congrArg path hout).trans (congrArg TreeCoordinate.nodeAddrs hpath)

omit [VerifyingKey PublicKey Signature] in
/-- A re-evaluation by a node that announces the switch. -/
theorem reevaluateParent_sends {n : TreeNode SecretKey PublicKey Signature F} (hplaced : n.Placed)
    {peerCosts : Map NodeAddr F} {clock : Clock} (env : SendEnv)
    (hc : n.treeState.Switches peerCosts clock.instant → n.SendsReach env) :
    (∃ m : TreeNode SecretKey PublicKey Signature F, m.treeState.myDeclaration.isSigned ∧
      m.SendsReach env ∧ SendsAll m env (n.reevaluateParent peerCosts clock env)) ∨
    n.reevaluateParent peerCosts clock env = (n, []) := by
  rcases reevaluateParent_cases hplaced.identity peerCosts clock env with
    ⟨p, s', hp, -, hsigned, hout⟩ | hout
  · exact .inl ⟨{ n with treeState := s' }, hsigned, hc ⟨p, hp⟩, hout⟩
  · exact .inr hout

/-- A promoted peer gets the initial announce; the others are as informed as before. -/
theorem owed_promotePeer (hsigned : o.node.treeState.myDeclaration.isSigned) (howed : o.Owed)
    {addr : NodeAddr} {pubkey : PublicKey} {env : SendEnv}
    (hc : o.node.announceMinIntervalMs ≤ env.nowMs addr →
      env.sendEncryptedLinkMessage addr = .ok ()) :
    (o.next (.promotePeer addr pubkey env)).Owed := by
  have hts : (o.node.promotePeer addr pubkey env).1.treeState = o.node.treeState :=
    o.node.promotePeer_treeState env addr pubkey
  intro p peer' hp
  obtain ⟨peer, hl, hne, heq⟩ := sendTreeAnnounceToPeer_peer (n := { o.node with
    peers := o.node.peers.insert addr
      { pubkey, treeAnnounceMinIntervalMs := o.node.announceMinIntervalMs } }) hsigned hp
  change (o.node.peers.insert addr _).lookup p = _ at hl
  rw [Map.lookup_insert'] at hl
  by_cases hpa : p = addr
  · rw [if_pos hpa] at hl
    obtain rfl := Option.some.inj hl
    subst hpa
    have hreach : SendReaches env p ({ pubkey, treeAnnounceMinIntervalMs :=
        o.node.announceMinIntervalMs } : TreePeer PublicKey Signature) := by
      refine .inr fun hcan => hc ?_
      simpa [TreePeer.canSendTreeAnnounce] using hcan
    refine (heq rfl hreach).imp_right fun hsent => List.mem_append_left _ ?_
    refine mem_told (List.mem_append_left _ hsent) ?_
    unfold path TreeNode.step
    rw [hts]
    rfl
  · rw [if_neg hpa] at hl
    rw [hne hpa]
    refine (howed p peer hl).imp_right fun hi => List.mem_append_right _ ?_
    unfold stillInformed path TreeNode.step
    simp only [hts, if_true, List.mem_filter, hi, true_and, decide_eq_true_eq]
    exact hpa

/-- **One event** that meets the condition leaves every peer informed or flagged. -/
theorem owed_next (hplaced : o.node.Placed) (hsigned : o.node.treeState.myDeclaration.isSigned)
    (howed : o.Owed) (hc : DeliversPath o.node e) : (o.next e).Owed := by
  cases e with
  | announce source announce peerCosts clock lostClock env => exact owed_announce hplaced howed hc
  | periodicReeval peerCosts clock env =>
    rcases o.node.checkPeriodicParentReeval_cases peerCosts clock env with hout | ⟨hdue, hout⟩
    · exact owed_of_samePeers howed (congrArg (fun out => out.1.peers) hout)
        (congrArg (fun out => out.1.treeState.myCoords) hout) fun _ _ _ h => by cases h
    · rcases reevaluateParent_sends
          (n := { o.node with lastParentReeval := some clock.instant })
          ⟨hplaced.identity, hplaced.anchored⟩ env (hc hdue) with
        ⟨m, hsigned', hreach, hsend⟩ | hout'
      · rw [← hout] at hsend
        exact owed_of_sendsAll hsend hsigned' hreach
      · have hout'' := hout.trans hout'
        exact owed_of_samePeers howed (congrArg (fun out => out.1.peers) hout'')
          (congrArg (fun out => out.1.treeState.myCoords) hout'') fun _ _ _ h => by cases h
  | firstRtt peerCosts clock env =>
    rcases reevaluateParent_sends hplaced env hc with
      ⟨m, hsigned', hreach, hsend⟩ | hout
    · exact owed_of_sendsAll hsend hsigned' hreach
    · exact owed_of_samePeers howed (congrArg (fun out => out.1.peers) hout)
        (congrArg (fun out => out.1.treeState.myCoords) hout) fun _ _ _ h => by cases h
  | removePeer addr peerCosts clock =>
    by_cases haddr : addr ∈ o.node.peers
    · rcases removeActivePeer_cases hplaced.identity haddr peerCosts clock with
        ⟨s', -, -, -, -, hout⟩ | ⟨-, hout⟩
      · -- the parent was lost: every remaining peer is flagged
        intro p peer' hp
        have hp' := hp
        change (o.node.removeActivePeer addr peerCosts clock).1.peers.lookup p = _ at hp'
        rw [hout] at hp'
        change (Map.mapVals (fun _ p => p.markTreeAnnouncePending)
          (o.node.peers.erase addr)).lookup p = _ at hp'
        rw [Map.lookup_mapVals, Option.map_eq_some_iff] at hp'
        obtain ⟨peer, -, rfl⟩ := hp'
        exact .inl rfl
      · have hpath : path (o.node.step (.removePeer addr peerCosts clock)).1 = path o.node := by
          have h := congrArg path hout
          exact h
        refine owed_of_samePath howed hpath (fun _ _ _ h => by cases h) fun p peer' hp => ?_
        change (o.node.removeActivePeer addr peerCosts clock).1.peers.lookup p = _ at hp
        rw [hout] at hp
        change (o.node.peers.erase addr).lookup p = _ at hp
        rw [Map.lookup_erase'] at hp
        split_ifs at hp
        exact .inr (.inr ⟨peer', hp, rfl⟩)
    · have hout : o.node.removeActivePeer addr peerCosts clock = (o.node, []) := by
        unfold removeActivePeer
        rw [if_pos haddr]
      exact owed_of_samePeers howed (congrArg (fun out => out.1.peers) hout)
        (congrArg (fun out => out.1.treeState.myCoords) hout) fun _ _ _ h => by cases h
  | sendPending nowMs env =>
    have hts : (o.node.step (.sendPending nowMs env)).1.treeState = o.node.treeState :=
      sendTreeAnnounces_treeState ..
    refine owed_of_samePath howed (congrArg (fun s => s.myCoords.nodeAddrs) hts)
      (fun _ _ _ h => by cases h) fun p peer' hp => ?_
    have hnodup : (o.node.readyPeers nowMs).Nodup :=
      o.node.peers.keys_nodup.sublist (List.filter_sublist.map _)
    obtain ⟨peer, hl, hout, hin⟩ := sendTreeAnnounces_peer hnodup hsigned hp
    by_cases hready : p ∈ o.node.readyPeers nowMs
    · -- a ready peer is flagged, so a failed send leaves it flagged
      have hflag : peer.pendingTreeAnnounce = true := by
        obtain ⟨⟨q, peer₀⟩, hmem, rfl⟩ := List.mem_map.mp hready
        rw [List.mem_filter, Map.mem_entries_iff, hl] at hmem
        obtain ⟨hsome, hflags⟩ := hmem
        rw [Option.some.inj hsome]
        exact (Bool.and_eq_true_iff.mp hflags).1
      refine (hin hready (.inl hflag)).imp_right fun hsent => .inl (mem_told hsent ?_)
      unfold path
      rw [hts]
      rfl
    · exact .inr (.inr ⟨peer, hl, congrArg _ (hout hready)⟩)
  | promotePeer addr pubkey env => exact owed_promotePeer hsigned howed hc
  | rehash ancestry =>
    refine owed_of_samePeers howed ?_ ?_ fun _ _ _ h => by cases h
    · unfold TreeNode.step
      simp only
      split_ifs <;> rfl
    · unfold TreeNode.step
      simp only
      split_ifs <;> rfl

end Step

/-! ## Runs -/

/-- The invariant of a run whose events all meet the condition. -/
structure Inv (o : Observed SecretKey PublicKey Signature F) : Prop where
  placed : o.node.Placed
  signed : o.node.treeState.myDeclaration.isSigned
  owed : o.Owed

theorem inv_next {o : Observed SecretKey PublicKey Signature F} (h : o.Inv)
    {e : TreeEvent PublicKey Signature F} (hc : DeliversPath o.node e) : (o.next e).Inv :=
  ⟨h.placed.next e, next_isSigned h.placed h.signed e, owed_next h.placed h.signed h.owed hc⟩

/-- **No lost tree announcement.** In every run from a new node whose events all meet
`DeliversPath`, after each event every active peer was sent the current address path since it last
changed or has its pending flag set. -/
theorem owed_of_deliversPath (identity : Identity SecretKey) (timestamp : Nat)
    (hysteresis : F) (holdDownSecs flapThreshold flapWindowSecs flapDampeningSecs
      reevalIntervalSecs announceMinIntervalMs : Nat)
    (events : List (TreeEvent PublicKey Signature F))
    (h : EventRun.Along next (fun o => DeliversPath o.node)
      ⟨.new identity timestamp hysteresis holdDownSecs flapThreshold flapWindowSecs
        flapDampeningSecs reevalIntervalSecs announceMinIntervalMs, []⟩ events) :
    EventRun.Always next Owed
      ⟨.new identity timestamp hysteresis holdDownSecs flapThreshold flapWindowSecs
        flapDampeningSecs reevalIntervalSecs announceMinIntervalMs, []⟩ events := by
  obtain ⟨hinv, hsigned⟩ := new_signed identity timestamp hysteresis holdDownSecs flapThreshold
    flapWindowSecs flapDampeningSecs reevalIntervalSecs announceMinIntervalMs
    (.new identity timestamp hysteresis holdDownSecs flapThreshold flapWindowSecs
      flapDampeningSecs reevalIntervalSecs announceMinIntervalMs :
      TreeNode SecretKey PublicKey Signature F) rfl
  refine EventRun.Always.mono (fun _ ho => Inv.owed ho)
    (EventRun.Always.of_along (fun _ _ ho hc => inv_next ho hc) ⟨hinv.toPlaced, hsigned, ?_⟩ h)
  intro p peer hp
  cases hp

/-! ## Two runs of node 5

The sends all succeed and none is rate limited. -/

section Runs

open RootElection (start)

/-- Every send succeeds, at time `now` (ms). -/
def sendsAt (now : Nat) : SendEnv := ⟨fun _ => now, fun _ => .ok ()⟩

/-- Peer 7 under root 3 through `parent`, in its declaration number `seq`. -/
def announceVia (parent : NodeAddr) (seq now : Nat) : TreeEvent Unit Unit (Option Nat) :=
  .announce 7 ⟨⟨7, parent, seq, 0, some ()⟩,
      ⟨[⟨7, seq, 0⟩, ⟨parent, 1, 0⟩, ⟨3, 1, 0⟩], List.cons_ne_nil _ _⟩⟩ ∅
    ⟨1, 1000, 1⟩ ⟨1, 1000, 1⟩ (sendsAt now)

/-- Peers 7 and 8 join and node 5 moves under peer 7. -/
def joins : List (TreeEvent Unit Unit (Option Nat)) :=
  [.promotePeer 7 () (sendsAt 1000), .promotePeer 8 () (sendsAt 1000), announceVia 4 1 2000]

theorem owed_of_joins : EventRun.Always next Owed ⟨start, []⟩ joins := by
  refine owed_of_deliversPath _ _ _ _ _ _ _ _ _ joins ⟨fun _ => rfl, fun _ => rfl, ?_, trivial⟩
  exact fun _ _ => ⟨fun _ p peer _ => .inr fun _ => rfl, fun _ hroot => absurd (by decide) hroot⟩

/-- Then peer 7 moves from parent 4 to parent 6, still under root 3 and at depth 2: node 5's path
changes and neither peer hears of it. -/
theorem refresh_reaches_nobody :
    ¬ ∀ events : List (TreeEvent Unit Unit (Option Nat)),
      EventRun.Always next Owed ⟨start, []⟩ events := by
  intro h
  have hend := (h (joins ++ [announceVia 6 2 3000])).exec
  have hpeer : ∃ peer, (EventRun.exec next ⟨start, []⟩
      (joins ++ [announceVia 6 2 3000])).node.peers.lookup 8 = some peer ∧
        peer.pendingTreeAnnounce = false := ⟨_, rfl, rfl⟩
  obtain ⟨peer, hl, hflag⟩ := hpeer
  rcases hend 8 peer hl with hp | hi
  · rw [hflag] at hp
    cases hp
  · revert hi
    decide

end Runs

end Observed

end Fips
