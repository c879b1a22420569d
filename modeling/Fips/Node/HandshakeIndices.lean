import Fips.Node.IndexInvariant

/-!
# Connections and promotions keep the index books

Every path of `start_handshake` and its callers and of `promote_connection`, errors included, against
`LinkNode.Inv`. An index just taken is no one's until the node writes it to a connection or to a
slot; the paths that fail in between give it back.

## Results

* `inv_initiateConnection`, `inv_completeConnect`, `inv_cleanupStaleConnection`: connections.
* `promoteConnection_spec`, `inv_promoteConnection`: promotion, of a new peer and of any.
* `inv_abandonRekey`: a rekey given up.
-/

open Checked

namespace Fips

open Function (update update_self update_of_ne)

namespace LinkNode

variable {SecretKey PublicKey ν μ : Type} {ε : Type}

section Links

variable {n : LinkNode SecretKey PublicKey ν μ}

/-- The next link id is used up. -/
theorem Inv.countLink (h : n.Inv) : Inv { n with nextLinkId := n.nextLinkId + 1 } :=
  ⟨h.books, h.peers, h.connections, fun l hl => h.fresh l (Nat.le_of_succ_le hl),
    fun pc hpc => ⟨(h.waiting pc hpc).1, Nat.lt_succ_of_lt (h.waiting pc hpc).2⟩, h.once⟩

/-- Links are no part of the books. -/
theorem Inv.withLinks (h : n.Inv) (links : Map LinkId Link)
    (addrToLink : Map (TransportId × TransportAddr) LinkId) :
    Inv { n with links := links, addrToLink := addrToLink } := h.congr rfl rfl rfl rfl rfl rfl

theorem removeLink_eq (l : LinkId) (n : LinkNode SecretKey PublicKey ν μ) :
    ∃ links addrToLink, n.removeLink l = { n with links := links, addrToLink := addrToLink } := by
  unfold LinkNode.removeLink
  cases n.links.lookup l with
  | none => exact ⟨n.links, n.addrToLink, rfl⟩
  | some link => exact ⟨_, _, rfl⟩

theorem Inv.removeLink (h : n.Inv) (l : LinkId) : (n.removeLink l).Inv := by
  obtain ⟨links, addrToLink, heq⟩ := removeLink_eq l n
  rw [heq]
  exact h.withLinks links addrToLink

theorem closeLinks_eq (effects : List (Effect PublicKey)) (n : LinkNode SecretKey PublicKey ν μ) :
    ∃ links addrToLink,
      closeLinks effects n = { n with links := links, addrToLink := addrToLink } := by
  unfold LinkNode.closeLinks
  induction effects generalizing n with
  | nil => exact ⟨n.links, n.addrToLink, rfl⟩
  | cons e es ih =>
    rw [List.foldl_cons]
    cases e with
    | removeLink l =>
      obtain ⟨links, addrToLink, heq⟩ := removeLink_eq l n
      obtain ⟨links', addrToLink', heq'⟩ := ih (n.removeLink l)
      exact ⟨links', addrToLink', by rw [heq', heq]⟩
    | _ => exact ih n

/-- A method of the data plane, with what its effects do to the links. -/
theorem onNode_eq {α : Type} (m : Node.M SecretKey PublicKey ν μ ε α)
    (n : LinkNode SecretKey PublicKey ν μ) :
    ∃ links addrToLink, onNode m n =
      ({ n with toNode := (m n.toNode).1, links := links, addrToLink := addrToLink },
        (m n.toNode).2) := by
  obtain ⟨links, addrToLink, heq⟩ := closeLinks_eq ((m n.toNode).1.effects.drop n.effects.length)
    { n with toNode := (m n.toNode).1 }
  exact ⟨links, addrToLink, congrArg (·, (m n.toNode).2) heq⟩

theorem Inv.mapConnection (h : n.Inv) (l : LinkId)
    {f : PeerConnection SecretKey PublicKey → PeerConnection SecretKey PublicKey}
    (hf : ∀ c, (f c).ourIndex = c.ourIndex ∧ (f c).transportId = c.transportId) :
    Inv { n with connections := n.connections.modify l f } := by
  unfold Map.modify
  cases hc : n.connections.lookup l with
  | none => exact h
  | some c => exact h.modifyConnection hc (hf c).1 (hf c).2

theorem Inv.mapPeer (h : n.Inv) (a : NodeAddr)
    {f : ActivePeer SecretKey PublicKey ν → ActivePeer SecretKey PublicKey ν}
    (hf : ∀ p, (f p).book = p.book) : Inv { n with peers := n.peers.modify a f } := by
  unfold Map.modify
  cases hp : n.peers.lookup a with
  | none => exact h
  | some p =>
    exact h.insertPeer hp (ActivePeer.held_of_book (hf p)) ((h.peers a p hp).of_book (hf p))

end Links

/-! ## Primitives -/

section Primitives

variable {n : LinkNode SecretKey PublicKey ν μ} (env : LinkEnv SecretKey)

theorem wp_allocate_iff {Q : SessionIndex → LinkNode SecretKey PublicKey ν μ → Prop}
    {E : Fail IndexError → LinkNode SecretKey PublicKey ν μ → Prop} :
    wp (allocate env) Q E n ↔
      (∀ i, allocateFrom env.draws n.allocatedIndices = some i →
        Q i { n with allocatedIndices := i :: n.allocatedIndices }) ∧
      (allocateFrom env.draws n.allocatedIndices = none → E (.error .exhausted) n) := by
  unfold allocate
  rw [wp_bind_iff, wp_read_iff, wp_bind_iff, wp_orElse_iff]
  exact Iff.rfl

/-- A transmission changes the outbox only. -/
theorem wp_transmit {transportId : TransportId} {remoteAddr : TransportAddr} {data : Bytes}
    {Q : Bool → LinkNode SecretKey PublicKey ν μ → Prop}
    {E : Fail ε → LinkNode SecretKey PublicKey ν μ → Prop}
    (h : ∀ sent outbox, Q sent { n with outbox := outbox }) :
    wp (transmit env transportId remoteAddr data) Q E n := by
  unfold transmit
  cases env.send transportId remoteAddr data with
  | sent => exact h true _
  | failed => exact h false n.outbox
  | noTransport => exact h true n.outbox

end Primitives

/-! ## Initiation -/

section Initiation

variable [Sha256] [HkdfSha256] [ChaCha20Poly1305] [Secp256k1 SecretKey PublicKey]
variable (env : LinkEnv SecretKey)
variable {n : LinkNode SecretKey PublicKey ν μ} {l : LinkId}

/-- A failed start gives its index back, a started one keeps it in the connection. -/
theorem inv_startHandshake (h : n.Inv) (hl : n.connections.lookup l = none) (hnext : l < n.nextLinkId)
    (hwaiting : ∀ pc ∈ n.pendingConnects, pc.linkId ≠ l) (transportId : TransportId)
    (remoteAddr : TransportAddr) (peerIdentity : PeerIdentity PublicKey) :
    wp (startHandshake env l transportId remoteAddr peerIdentity) (fun _ n' => n'.Inv)
      (fun _ n' => n'.Inv) n := by
  unfold startHandshake
  rw [wp_bind_iff, wp_attempt_iff, wp_allocate_iff]
  refine ⟨fun i hi => ?_, fun _ => h.withLinks _ _⟩
  have hfree := not_mem_of_allocateFrom hi
  have hback : Inv { n with allocatedIndices := (i :: n.allocatedIndices).erase i } :=
    h.congr rfl rfl (List.erase_cons_head ..) rfl rfl rfl
  rw [wp_bind_iff, wp_read_iff, wp_bind_iff, wp_attempt_iff, wp_pureCall_iff]
  refine ⟨fun started _ => ?_, fun e he => ?_⟩
  · obtain ⟨noiseMsg1, c⟩ := started
    refine wp_bind_iff.mpr ?_
    have hadded := h.addConnection hl hnext hwaiting hfree (c := { c with
      ourIndex := some i
      transportId := some transportId
      sourceAddr := some remoteAddr }.setHandshakeMsg1 (buildMsg1 i noiseMsg1)
        (env.nowMs + n.config.handshakeResendIntervalMs)) rfl rfl
    rw [wp_write_iff, wp_bind_iff]
    refine wp_transmit env fun sent outbox => ?_
    cases sent with
    | true => exact hadded.congr rfl rfl rfl rfl rfl rfl
    | false =>
      have hfailed := hadded.mapConnection l (f := (·.markFailed)) fun c => ⟨rfl, rfl⟩
      exact hfailed.congr rfl rfl rfl rfl rfl rfl
  · cases e with
    | error e => exact hback.withLinks _ _
    | panic => exact absurd he (PeerConnection.noPanic_startHandshake _ _ _ _ _ _)

theorem inv_initiateConnection (h : n.Inv) (transportId : TransportId) (remoteAddr : TransportAddr)
    (peerIdentity : PeerIdentity PublicKey) :
    (initiateConnection env transportId remoteAddr peerIdentity n).1.Inv := by
  refine fst_of_wp ?_
  have hfresh := h.fresh n.nextLinkId le_rfl
  have hne : ∀ pc ∈ n.pendingConnects, pc.linkId ≠ n.nextLinkId :=
    fun pc hpc => Nat.ne_of_lt (h.waiting pc hpc).2
  unfold initiateConnection allocateLinkId addLink
  simp only [wp_bind_iff, wp_read_iff, wp_write_iff, wp_pure_iff]
  have hlinked := h.countLink.withLinks (n.links.insert n.nextLinkId
    ⟨n.nextLinkId, transportId, remoteAddr, .outbound⟩)
    (n.addrToLink.insert (transportId, remoteAddr) n.nextLinkId)
  split_ifs with horiented
  · cases env.connect transportId remoteAddr with
    | sent =>
      refine ⟨hlinked.books, hlinked.peers, hlinked.connections, hlinked.fresh, ?_, ?_⟩
      · intro pc hpc
        rcases List.mem_append.mp hpc with hold | hnew
        · exact hlinked.waiting pc hold
        · rw [List.mem_singleton.mp hnew]
          exact ⟨hfresh, Nat.lt_succ_self _⟩
      · simp only [List.map_append, List.map_cons, List.map_nil]
        refine List.nodup_append.mpr ⟨h.once, List.nodup_singleton _, fun l hl l' hl' => ?_⟩
        obtain ⟨pc, hpc, rfl⟩ := List.mem_map.mp hl
        rw [List.mem_singleton.mp hl']
        exact hne pc hpc
    | failed => exact hlinked.withLinks _ _
    | noTransport => exact hlinked
  · exact inv_startHandshake env hlinked hfresh (Nat.lt_succ_self _) hne transportId remoteAddr
      peerIdentity

omit [Sha256] [HkdfSha256] [ChaCha20Poly1305] [Secp256k1 SecretKey PublicKey] in
/-- A connect under way is done with. -/
theorem Inv.eraseWaiting (h : n.Inv) {i : Nat} {pc : PendingConnect PublicKey}
    (hi : n.pendingConnects[i]? = some pc) :
    Inv { n with pendingConnects := n.pendingConnects.eraseIdx i } ∧
      ∀ pc' ∈ n.pendingConnects.eraseIdx i, pc'.linkId ≠ pc.linkId := by
  have hsub : ∀ pc' ∈ n.pendingConnects.eraseIdx i, pc' ∈ n.pendingConnects :=
    fun _ hpc' => List.mem_of_mem_eraseIdx hpc'
  refine ⟨⟨h.books, h.peers, h.connections, h.fresh, fun pc' hpc' => h.waiting pc' (hsub pc' hpc'),
    ?_⟩, fun pc' hpc' heq => ?_⟩
  · change ((n.pendingConnects.eraseIdx i).map (·.linkId)).Nodup
    exact h.once.sublist ((List.eraseIdx_sublist ..).map _)
  · obtain ⟨j, hji, hj⟩ := List.mem_eraseIdx_iff_getElem?.mp hpc'
    refine hji ((List.getElem?_inj ?_ h.once).mp ?_)
    · rw [List.length_map]
      exact (List.getElem?_eq_some_iff.mp hj).1
    · rw [List.getElem?_map, List.getElem?_map, hi, hj]
      exact congrArg some heq

theorem inv_completeConnect (h : n.Inv) (i : Nat) (connected : Bool) :
    (completeConnect env i connected n).1.Inv := by
  refine fst_of_wp (wp_body_of_wp ?_)
  rw [wp_bind_iff, wp_read_iff, wp_bind_iff, wp_orElse_iff]
  refine ⟨fun pc hpc => ?_, fun _ => h⟩
  obtain ⟨herased, hne⟩ := h.eraseWaiting hpc
  have hwait := h.waiting pc (List.mem_of_getElem? hpc)
  rw [wp_bind_iff, wp_write_iff]
  cases connected with
  | false => exact herased.removeLink pc.linkId
  | true =>
    change wp (attempt _ >>= _) _ _ _
    rw [wp_bind_iff, wp_attempt_iff]
    refine wp_mono (fun _ _ hstarted => hstarted) (fun e n' hstarted => ?_)
      (inv_startHandshake env herased hwait.1 hwait.2 hne pc.transportId pc.remoteAddr
        pc.peerIdentity)
    cases e with
    | error e => exact hstarted.removeLink pc.linkId
    | panic => exact hstarted

omit [Sha256] [HkdfSha256] [ChaCha20Poly1305] [Secp256k1 SecretKey PublicKey] in
theorem inv_cleanupStaleConnection (h : n.Inv) (l : LinkId) :
    (cleanupStaleConnection l n).1.Inv := by
  refine fst_of_wp (wp_body_of_wp ?_)
  rw [wp_bind_iff, wp_read_iff, wp_bind_iff, wp_orElse_iff]
  refine ⟨fun c hc => ?_, fun _ => h⟩
  obtain ⟨hindex, htid⟩ := h.connections l c hc
  obtain ⟨index, hindex⟩ := Option.isSome_iff_exists.mp hindex
  obtain ⟨tid, htid⟩ := Option.isSome_iff_exists.mp htid
  simp only [hindex, htid, dropConnection, forgetOutbound, free, wp_bind_iff, wp_write_iff]
  have hdropped := h.dropConnection hc hindex
  refine Inv.removeLink ?_ l
  exact hdropped.congr rfl rfl rfl rfl rfl rfl

end Initiation

/-! ## Promotion -/

section Promotion

variable {n : LinkNode SecretKey PublicKey ν μ} {l : LinkId} {a : NodeAddr}
  {c : PeerConnection SecretKey PublicKey} {p : Promotion PublicKey}

theorem extractPromotion_eq_ok (h : extractPromotion l c = .ok p) : c.ourIndex = some p.ourIndex := by
  unfold extractPromotion at h
  split_ifs at h
  simp only [bind_eq_ok, okOr_eq_ok] at h
  obtain ⟨_, -, ourIndex, hour, _, -, _, -, _, -, h⟩ := h
  cases h
  rw [← hour]
  unfold PeerConnection.takeSession
  split_ifs <;> rfl

/-- A complete handshake brings what a promotion needs. -/
theorem extractPromotion_of_complete (hsession : c.hasSession) (hour : c.ourIndex.isSome)
    (htheir : c.theirIndex.isSome) (htid : c.transportId.isSome) (haddr : c.sourceAddr.isSome) :
    ∃ p, extractPromotion l c = .ok p := by
  obtain ⟨hstate, hsome⟩ := Bool.and_eq_true_iff.mp hsession
  obtain ⟨session, hsome⟩ := Option.isSome_iff_exists.mp hsome
  obtain ⟨ourIndex, hour⟩ := Option.isSome_iff_exists.mp hour
  obtain ⟨theirIndex, htheir⟩ := Option.isSome_iff_exists.mp htheir
  obtain ⟨tid, htid⟩ := Option.isSome_iff_exists.mp htid
  obtain ⟨addr, haddr⟩ := Option.isSome_iff_exists.mp haddr
  unfold extractPromotion PeerConnection.takeSession
  rw [hsession, if_pos hstate]
  simp only [hsome, hour, htheir, htid, haddr]
  exact ⟨_, rfl⟩

section New

variable [Mmp ν]

theorem held_withSession (addr : NodeAddr) (linkId : LinkId) (authenticatedAt : Nat)
    (isInitiator : Bool) (now : Nat) :
    (ActivePeer.withSession addr linkId authenticatedAt p.noiseSession p.ourIndex p.theirIndex
      p.transportId p.currentAddr p.linkStats isInitiator p.remoteEpoch now :
      ActivePeer SecretKey PublicKey ν).held = update (fun _ => none) .current (some p.ourIndex) := by
  refine funext fun s => ?_
  cases s <;> rfl

theorem tidy_withSession (addr : NodeAddr) (linkId : LinkId) (authenticatedAt : Nat)
    (isInitiator : Bool) (now : Nat) :
    (ActivePeer.withSession addr linkId authenticatedAt p.noiseSession p.ourIndex p.theirIndex
      p.transportId p.currentAddr p.linkStats isInitiator p.remoteEpoch now :
      ActivePeer SecretKey PublicKey ν).Tidy :=
  ⟨rfl, (fun h => by cases h), (fun h => by cases h), (fun h => by cases h)⟩

end New

variable [Sha256] [Secp256k1 SecretKey PublicKey] [Mmp ν]

/-- The index of a connection settles with the peer it becomes. -/
theorem inv_insertPeer (h : n.Inv) (hc : n.connections.lookup l = some c)
    (hp : extractPromotion l c = .ok p) {identity : PeerIdentity PublicKey}
    (hnone : n.books.slots (identity.nodeAddr SecretKey) = fun _ => none) (currentTimeMs now : Nat) :
    wp (insertPeer l identity currentTimeMs now p : M SecretKey PublicKey ν μ ε Unit)
      (fun _ n' => n'.Inv) (fun _ _ => False) { n with connections := n.connections.erase l } := by
  have hsettled := h.settle hc (extractPromotion_eq_ok hp) (congrFun hnone .current)
    (hnone.symm ▸ held_withSession (identity.nodeAddr SecretKey) l currentTimeMs p.isOutbound now)
    (tidy_withSession (identity.nodeAddr SecretKey) l currentTimeMs p.isOutbound now) p.transportId
  unfold insertPeer emit
  rw [wp_bind_iff, wp_write_iff, wp_write_iff]
  exact hsettled.congr rfl rfl rfl rfl rfl rfl

/-- **Promotion** of a connection whose peer is not active: one that fails has given its index back,
so the caller's second `free` finds nothing. -/
theorem promoteConnection_spec (h : n.Inv) (hc : n.connections.lookup l = some c)
    (hp : extractPromotion l c = .ok p) {identity : PeerIdentity PublicKey}
    (hnone : n.peers.lookup (identity.nodeAddr SecretKey) = none) (currentTimeMs now : Nat) :
    wp (promoteConnection l identity currentTimeMs now) (fun _ n' => n'.Inv)
      (fun _ n' => n'.Inv ∧ p.ourIndex ∉ n'.allocatedIndices) n := by
  have hindex := extractPromotion_eq_ok hp
  unfold promoteConnection dropConnection
  rw [wp_bind_iff, wp_read_iff, hc, wp_bind_iff, wp_orElse_some, wp_bind_iff, wp_write_iff, hp,
    wp_bind_iff, wp_pureCall_iff]
  refine ⟨fun p' hp' => ?_, fun e he => by cases he⟩
  cases hp'
  rw [wp_bind_iff, wp_read_iff]
  simp only [hnone, wp_bind_iff, wp_read_iff]
  split_ifs with hfull
  · have hdropped := h.dropConnection hc hindex
    simp only [free, wp_bind_iff, wp_write_iff, wp_stop_iff]
    refine ⟨hdropped, fun hmem => ?_⟩
    exact (h.books.balanced.nodup.mem_erase_iff.mp hmem).1 rfl
  · rw [wp_bind_iff]
    exact wp_mono (fun _ _ hkept => hkept) (fun _ _ hF => hF.elim)
      (inv_insertPeer h hc hp (slots_books_of_none hnone) currentTimeMs now)

/-- The peer keeps its indices under its own transport only. -/
def Homed (n : LinkNode SecretKey PublicKey ν μ) (q : ActivePeer SecretKey PublicKey ν) : Prop :=
  ∀ tid, q.transportId = some tid → n.PeerOnlyUnder q tid

/-- The connection is complete, and a peer it replaces holds its current index only, registered where
the promotion looks for it. -/
def PromotesCleanly (n : LinkNode SecretKey PublicKey ν μ) (l : LinkId)
    (identity : PeerIdentity PublicKey) : Prop :=
  ∀ c, n.connections.lookup l = some c → ∃ p, extractPromotion l c = .ok p ∧
    ∀ q, n.peers.lookup (identity.nodeAddr SecretKey) = some q →
      crossConnectionWinner n.nodeAddr (identity.nodeAddr SecretKey) p.isOutbound = true →
      (∀ s, s ≠ .current → q.held s = none) ∧ n.Homed q

omit [Secp256k1 SecretKey PublicKey] [Sha256] [Mmp ν] in
/-- The replaced peer gives back what it holds. By then its successor has left the table of
connections, which the step does not read. -/
theorem inv_replacePeer (h : n.Inv) {q : ActivePeer SecretKey PublicKey ν}
    (hq : n.peers.lookup a = some q) (hothers : ∀ s, s ≠ .current → q.held s = none)
    (hhomed : n.Homed q) (cs : Map LinkId (PeerConnection SecretKey PublicKey)) :
    wp (replacePeer a q : M SecretKey PublicKey ν μ ε Unit)
      (fun _ n' => ∃ m : LinkNode SecretKey PublicKey ν μ, m.Inv ∧ m.connections = n.connections ∧
        m.peers.lookup a = none ∧ n' = { m with connections := cs })
      (fun _ _ => False) { n with connections := cs } := by
  obtain ⟨tid, htid⟩ := Option.isSome_iff_exists.mp (h.peers a q hq).transport
  have hgone : (n.peers.erase a).lookup a = none := by rw [Map.lookup_erase', if_pos rfl]
  unfold replacePeer
  rw [wp_bind_iff, wp_write_iff, htid]
  cases hi : q.ourIndex with
  | none =>
    have hnone : n.books.slots a = fun _ => none := by
      refine (slots_books hq).trans (funext fun s => ?_)
      by_cases hs : s = .current
      · rw [hs]
        exact hi
      · exact hothers s hs
    exact ⟨_, h.erasePeer hnone, rfl, hgone, rfl⟩
  | some i => exact ⟨_, h.dropPeer hq hi hothers (hhomed tid htid .current i hi), rfl, hgone, rfl⟩

theorem inv_promoteConnection (h : n.Inv) {identity : PeerIdentity PublicKey}
    (hclean : n.PromotesCleanly l identity) (currentTimeMs now : Nat) :
    (promoteConnection l identity currentTimeMs now n).1.Inv := by
  refine fst_of_wp ?_
  cases hc : n.connections.lookup l with
  | none =>
    unfold promoteConnection
    rw [wp_bind_iff, wp_read_iff, hc, wp_bind_iff, wp_orElse_none]
    exact h
  | some c =>
    obtain ⟨p, hp, hreplaces⟩ := hclean c hc
    cases hq : n.peers.lookup (identity.nodeAddr SecretKey) with
    | none =>
      exact wp_mono (fun _ _ hkept => hkept) (fun _ _ hkept => hkept.1)
        (promoteConnection_spec h hc hp hq currentTimeMs now)
    | some q =>
      unfold promoteConnection dropConnection
      rw [wp_bind_iff, wp_read_iff, hc, wp_bind_iff, wp_orElse_some, wp_bind_iff, wp_write_iff, hp,
        wp_bind_iff, wp_pureCall_iff]
      refine ⟨fun p' hp' => ?_, fun e he => by cases he⟩
      cases hp'
      rw [wp_bind_iff, wp_read_iff]
      simp only [hq, wp_bind_iff, wp_read_iff]
      split_ifs with hwins
      · obtain ⟨hothers, hhomed⟩ := hreplaces q hq hwins
        rw [wp_bind_iff]
        refine wp_mono (fun _ n' hreplaced => ?_) (fun _ _ hF => hF.elim)
          (inv_replacePeer h hq hothers hhomed (n.connections.erase l))
        obtain ⟨m, hm, hconnections, hnone, rfl⟩ := hreplaced
        rw [wp_bind_iff, ← hconnections]
        exact wp_mono (fun _ _ hkept => hkept) (fun _ _ hF => hF.elim)
          (inv_insertPeer hm (hconnections.symm ▸ hc) hp (slots_books_of_none hnone) currentTimeMs
            now)
      · simp only [free, wp_bind_iff, wp_write_iff, wp_pure_iff]
        exact h.dropConnection hc (extractPromotion_eq_ok hp)

end Promotion

/-! ## Rekeys -/

section Rekey

variable {n : LinkNode SecretKey PublicKey ν μ} {l : LinkId} {a : NodeAddr}
  {p : ActivePeer SecretKey PublicKey ν}

theorem ActivePeer.Tidy.pendingOurIndex_eq_none (hp : p.Tidy) (h : p.pendingNewSession = none) :
    p.pendingOurIndex = none := by
  by_contra hne
  have hsome := hp.pending (Option.isSome_iff_ne_none.mpr hne)
  rw [h] at hsome
  cases hsome

theorem ActivePeer.Tidy.rekeyOurIndex_eq_none (hp : p.Tidy) (h : p.rekeyInProgress = false) :
    p.rekeyOurIndex = none := by
  by_contra hne
  have htrue := hp.rekey (Option.isSome_iff_ne_none.mpr hne)
  rw [h] at htrue
  cases htrue

theorem ActivePeer.held_setPendingSession (p : ActivePeer SecretKey PublicKey ν)
    (session : NoiseSession PublicKey) (ourIndex theirIndex : SessionIndex) :
    (p.setPendingSession session ourIndex theirIndex).held =
      update (update p.held .rekey none) .pending (some ourIndex) := by
  refine funext fun s => ?_
  cases s <;> rfl

theorem ActivePeer.tidy_setPendingSession (hp : p.Tidy) (session : NoiseSession PublicKey)
    (ourIndex theirIndex : SessionIndex) : (p.setPendingSession session ourIndex theirIndex).Tidy :=
  ⟨hp.transport, (fun _ => rfl), (fun h => by cases h), (fun h => by cases h)⟩

/-- What is left of a peer whose rekey is abandoned. -/
theorem ActivePeer.abandonRekey_spec (hp : p.Tidy) (hprogress : p.rekeyInProgress = true) :
    p.abandonRekey.2 = p.rekeyOurIndex ∧ p.abandonRekey.1.held = update p.held .rekey none ∧
      p.abandonRekey.1.Tidy ∧ p.abandonRekey.1.transportId = p.transportId ∧
      p.abandonRekey.1.rekeyInProgress = false ∧ p.abandonRekey.1.pendingNewSession = none := by
  have hsession := hp.exclusive hprogress
  have hpending := ActivePeer.Tidy.pendingOurIndex_eq_none hp hsession
  unfold ActivePeer.abandonRekey
  cases hrekey : p.rekeyOurIndex with
  | none =>
    refine ⟨hpending, funext fun s => ?_, ⟨hp.transport, (fun h => by cases h),
      (fun h => by cases h), (fun h => by cases h)⟩, rfl, rfl, rfl⟩
    cases s with
    | pending => exact hpending.symm
    | _ => rfl
  | some i =>
    refine ⟨rfl, funext fun s => ?_, ⟨hp.transport, hp.pending, (fun h => by cases h),
      (fun h => by cases h)⟩, rfl, rfl, hsession⟩
    cases s <;> rfl

/-- **An abandoned rekey** gives its index back; it was not registered yet. -/
theorem inv_abandonRekey (h : n.Inv) (hp : n.peers.lookup a = some p)
    (hprogress : p.rekeyInProgress = true) :
    wp (abandonRekey a : M SecretKey PublicKey ν μ ε Unit)
      (fun _ n' => n'.Inv ∧ n'.peers.lookup a = some p.abandonRekey.1 ∧
        n'.connections = n.connections) (fun _ _ => False) n := by
  obtain ⟨tid, htid⟩ := Option.isSome_iff_exists.mp (h.peers a p hp).transport
  obtain ⟨hindex, hheld, htidy, -⟩ := ActivePeer.abandonRekey_spec (h.peers a p hp) hprogress
  have hlookup : (n.peers.insert a p.abandonRekey.1).lookup a = some p.abandonRekey.1 :=
    AList.lookup_insert _
  unfold abandonRekey
  rw [wp_write_iff, hp]
  simp only [hindex]
  cases hrekey : p.rekeyOurIndex with
  | none =>
    have hsame : p.abandonRekey.1.held = p.held := by
      have hnone : p.held .rekey = none := hrekey
      rw [hheld, ← hnone, Function.update_eq_self]
    exact ⟨h.insertPeer hp hsame htidy, hlookup, rfl⟩
  | some i =>
    simp only [htid]
    have honly : n.OnlyUnder i tid := fun tid' hreg =>
      absurd (h.books.unregistered a i tid' ((congrFun (slots_books hp) .rekey).trans hrekey)) hreg
    exact ⟨h.releaseSlot hp (s := .rekey) hrekey hheld htidy honly, hlookup, trivial⟩

/-- A connection that was never stored is discarded. -/
theorem Inv.discard (h : n.Inv) (hl : n.connections.lookup l = none) (links : Map LinkId Link) :
    Inv { n with connections := n.connections.erase l, links := links } := by
  have hsame : update n.books.held (.connection l) none = n.books.held := by
    have hheld : n.books.held (.connection l) = none := by
      change (n.connections.lookup l).bind _ = none
      rw [hl]
      rfl
    rw [← hheld, Function.update_eq_self]
  have herased := h.of_eraseConnection n (l := l) (by
    rw [books_eraseConnection, hsame]
    exact h.books) h.peers rfl rfl
  exact herased.congr rfl rfl rfl rfl rfl rfl

end Rekey

end LinkNode

end Fips
