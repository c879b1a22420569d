import Fips.Node.HandshakeIndices

/-!
# The handshake messages keep the index books

`handle_msg1` and `handle_msg2`, every path and error of them, against `LinkNode.Inv`. Each frees an
index on one path: msg1 of a restarted peer removes the peer, msg2 of a cross-connection that won
replaces its current index. There the entry of the index has to be where the node looks for it.

## Results

* `inv_respondRekey`, `inv_completeRekey`: the two ends of a rekey.
* `inv_handleMsg1`, `inv_handleMsg2`: the handlers.
-/

open Checked

namespace Fips

open Function (update update_self update_of_ne)

namespace LinkNode

variable {SecretKey PublicKey ν μ : Type} {ε : Type}

section Message1

variable {n : LinkNode SecretKey PublicKey ν μ} {l : LinkId} {a : NodeAddr}
  {p : ActivePeer SecretKey PublicKey ν}

variable (env : LinkEnv SecretKey)

/-- The responder of a rekey: a slot takes the new index, which is registered under the transport of
msg1. -/
theorem inv_respondRekey (h : n.Inv) (hp : n.peers.lookup a = some p)
    {conn : PeerConnection SecretKey PublicKey} (hl : n.connections.lookup conn.linkId = none)
    (packet : ReceivedPacket) (senderIdx : SessionIndex) (msg2Response : Bytes) :
    wp (respondRekey env packet senderIdx conn msg2Response a p) (fun _ n' => n'.Inv)
      (fun _ n' => n'.Inv) n := by
  have hdiscard := h.discard hl (n.links.erase conn.linkId)
  unfold respondRekey
  rw [wp_bind_iff, wp_read_iff]
  by_cases hpending : p.pendingNewSession.isSome
  · rw [if_pos hpending]
    exact hdiscard
  rw [if_neg hpending]
  by_cases hours : (p.rekeyInProgress && decide (n.nodeAddr < a)) = true
  · rw [if_pos hours]
    exact hdiscard
  rw [if_neg hours]
  have hsession := Option.not_isSome_iff_eq_none.mp hpending
  -- what is done once the peer's own rekey, if there is one, is abandoned
  extract_lets answer
  have hanswer : ∀ (q : ActivePeer SecretKey PublicKey ν) (m : LinkNode SecretKey PublicKey ν μ),
      m.Inv → m.peers.lookup a = some q → q.rekeyInProgress = false →
      q.pendingNewSession = none → m.connections.lookup conn.linkId = none →
      wp (answer ()) (fun _ n' => n'.Inv) (fun _ n' => n'.Inv) m := by
    intro q m hm hq hidle hnone hml
    have htidy := hm.peers a q hq
    have hslot := ActivePeer.Tidy.pendingOurIndex_eq_none htidy hnone
    have hrekey := ActivePeer.Tidy.rekeyOurIndex_eq_none htidy hidle
    change wp (attempt (allocate env) >>= _) _ _ m
    rw [wp_bind_iff, wp_attempt_iff, wp_allocate_iff]
    refine ⟨fun i hi => ?_, fun _ => hm⟩
    have hfree := not_mem_of_allocateFrom hi
    have hback : Inv { m with allocatedIndices := (i :: m.allocatedIndices).erase i } :=
      hm.congr rfl rfl (List.erase_cons_head ..) rfl rfl rfl
    cases conn.takeSession.2 with
    | none => exact hback
    | some session =>
      refine wp_bind_iff.mpr (wp_transmit env fun sent outbox => ?_)
      cases sent with
      | false => exact hback.congr rfl rfl rfl rfl rfl rfl
      | true =>
        have hnorekey : q.held .rekey = none := hrekey
        let answered := (q.setPendingSession session i senderIdx).recordPeerRekey env.instant
        have hheld : answered.held = update q.held .pending (some i) := by
          refine (ActivePeer.held_setPendingSession q session i senderIdx).trans ?_
          rw [← hnorekey, Function.update_eq_self]
        have htaken := hm.takeSlot hq (s := .pending) (q := answered) hslot hheld
          ((ActivePeer.tidy_setPendingSession htidy session i senderIdx).of_book rfl) hfree
        have hregistered := htaken.registerIndex (a := a) (s := .pending) (i := i)
          (AList.lookup_insert _) rfl (by decide) packet.transportId
        have hdone := hregistered.discard hml (m.links.erase conn.linkId)
        refine Inv.congr hdone (Map.modify_eq_insert hq _) rfl rfl rfl rfl rfl
  split_ifs with hprogress
  · obtain ⟨-, -, -, htid, hidle, hnone⟩ :=
      ActivePeer.abandonRekey_spec (h.peers a p hp) hprogress
    refine wp_bind_iff.mpr ?_
    unfold yieldRekey
    refine wp_bind_iff.mpr (wp_mono (fun _ m hm => ?_) (fun _ _ hF => hF.elim)
      (inv_abandonRekey h hp hprogress))
    obtain ⟨hm, hq, hconnections⟩ := hm
    have hml := hconnections.symm ▸ hl
    split
    · refine hanswer p.abandonRekey.1 _ ?_ hq hidle hnone hml
      exact hm.congr rfl rfl rfl rfl rfl rfl
    · exact hanswer p.abandonRekey.1 m hm hq hidle hnone hml
  · exact hanswer p n h hp (Bool.not_eq_true _ ▸ hprogress) hsession hl

variable [Sha256] [HkdfSha256] [ChaCha20Poly1305] [Secp256k1 SecretKey PublicKey] [Mmp ν]

omit [Sha256] [HkdfSha256] [ChaCha20Poly1305] [Secp256k1 SecretKey PublicKey] [Mmp ν] in
/-- A new inbound connection holds its index, or its msg2 was not sent and the index is free. -/
theorem inv_openInbound (h : n.Inv) {conn : PeerConnection SecretKey PublicKey}
    (hl : n.connections.lookup conn.linkId = none) (hnext : conn.linkId < n.nextLinkId)
    (hwaiting : ∀ pc ∈ n.pendingConnects, pc.linkId ≠ conn.linkId)
    (htid : conn.transportId.isSome) (packet : ReceivedPacket) (senderIdx : SessionIndex)
    (msg2Response : Bytes) :
    wp (openInbound env packet senderIdx conn msg2Response)
      (fun r n' => n'.Inv ∧ n'.peers = n.peers ∧
        n'.connections.lookup conn.linkId = some
          ({ conn with ourIndex := some r.1, theirIndex := some senderIdx }.setHandshakeMsg2 r.2))
      (fun _ n' => n'.Inv) n := by
  unfold openInbound addLink
  rw [wp_bind_iff, wp_attempt_iff, wp_allocate_iff]
  refine ⟨fun i hi => ?_, fun _ => h⟩
  have hfree := not_mem_of_allocateFrom hi
  let opened := { conn with ourIndex := some i, theirIndex := some senderIdx }.setHandshakeMsg2
    (buildMsg2 i senderIdx msg2Response)
  have hadded := h.addConnection (c := opened) hl hnext hwaiting hfree rfl htid
  simp only [wp_bind_iff, wp_write_iff]
  refine wp_transmit env fun sent outbox => ?_
  cases sent with
  | true =>
    refine ⟨hadded.congr rfl rfl rfl rfl rfl rfl, rfl, ?_⟩
    exact AList.lookup_insert _
  | false =>
    have hdropped := hadded.dropConnection (c := opened) (AList.lookup_insert _) rfl
    exact hdropped.congr rfl rfl rfl rfl rfl rfl

omit [HkdfSha256] [ChaCha20Poly1305] in
/-- A new inbound connection becomes a peer, or gives its index back. -/
theorem inv_acceptConnection (h : n.Inv) {conn : PeerConnection SecretKey PublicKey}
    (hl : n.connections.lookup conn.linkId = none) (hnext : conn.linkId < n.nextLinkId)
    (hwaiting : ∀ pc ∈ n.pendingConnects, pc.linkId ≠ conn.linkId)
    (hsession : conn.hasSession) (htid : conn.transportId.isSome) (haddr : conn.sourceAddr.isSome)
    {identity : PeerIdentity PublicKey}
    (hnone : n.peers.lookup (identity.nodeAddr SecretKey) = none)
    (packet : ReceivedPacket) (senderIdx : SessionIndex) (msg2Response : Bytes) :
    wp (acceptConnection env packet senderIdx conn msg2Response identity) (fun _ n' => n'.Inv)
      (fun _ n' => n'.Inv) n := by
  unfold acceptConnection
  rw [wp_bind_iff]
  refine wp_mono (fun r m hm => ?_) (fun _ _ hkept => hkept)
    (inv_openInbound env h hl hnext hwaiting htid packet senderIdx msg2Response)
  obtain ⟨hm, hpeers, hopened⟩ := hm
  obtain ⟨p, hp⟩ := extractPromotion_of_complete (l := conn.linkId)
    (c := { conn with ourIndex := some r.1, theirIndex := some senderIdx }.setHandshakeMsg2 r.2)
    hsession rfl rfl htid haddr
  have hindex := extractPromotion_eq_ok hp
  have hnone : m.peers.lookup (identity.nodeAddr SecretKey) = none := by rw [hpeers, hnone]
  rw [wp_bind_iff, wp_attempt_iff]
  refine wp_mono (fun result n' hkept => ?_) (fun e n' hkept => ?_)
    (promoteConnection_spec hm hopened hp hnone packet.timestampMs env.instant)
  · cases result with
    | promoted addr => exact hkept.mapPeer addr fun _ => rfl
    | crossConnectionWon loser addr =>
      refine Inv.removeLink ?_ loser
      exact hkept.mapPeer addr fun _ => rfl
    | crossConnectionLost winner => exact (hkept.removeLink conn.linkId).withLinks _ _
  · cases e with
    | panic => exact hkept.1
    | error e =>
      obtain ⟨hkept, hgone⟩ := hkept
      obtain ⟨links, addrToLink, hremoved⟩ := removeLink_eq conn.linkId n'
      have hfreed : n'.allocatedIndices.erase r.1 = n'.allocatedIndices := by
        rw [Option.some.inj hindex]
        exact List.erase_of_not_mem hgone
      simp only [free, wp_bind_iff, wp_write_iff, hremoved]
      exact (hkept.withLinks links addrToLink).congr rfl rfl hfreed rfl rfl rfl

omit [Sha256] [HkdfSha256] [ChaCha20Poly1305] [Secp256k1 SecretKey PublicKey] [Mmp ν] in
/-- A removed peer whose indices are registered under its transport only. -/
theorem inv_removeActivePeer (h : n.Inv) (hp : n.peers.lookup a = some p) (hhomed : n.Homed p) :
    wp (removeActivePeer a : M SecretKey PublicKey ν μ ε Unit)
      (fun _ n' => n'.Inv ∧ n'.connections = n.connections ∧ n'.nextLinkId = n.nextLinkId ∧
        n'.pendingConnects = n.pendingConnects ∧ n'.peers.lookup a = none) (fun _ _ => False) n := by
  obtain ⟨tid, htid⟩ := Option.isSome_iff_exists.mp (h.peers a p hp).transport
  have hremoved := h.removePeer hp htid (hhomed tid htid)
  have hgone : (Node.removeActivePeer a n.toNode).peers.lookup a = none := by
    rw [peers_removeActivePeer hp, Map.lookup_erase', if_pos rfl]
  obtain ⟨links, addrToLink, heq⟩ :=
    onNode_eq (write (Node.removeActivePeer a) : Node.M SecretKey PublicKey ν μ ε Unit) n
  unfold wp removeActivePeer
  rw [heq]
  exact ⟨hremoved.withLinks links addrToLink, rfl, rfl, rfl, hgone⟩

/-- The packet comes from the address of an inbound link that no peer is active on yet. -/
def PendingInbound (packet : ReceivedPacket) (n : LinkNode SecretKey PublicKey ν μ) : Prop :=
  ∃ l link, n.addrToLink.lookup (packet.transportId, packet.remoteAddr) = some l ∧
    n.links.lookup l = some link ∧ link.direction = .inbound ∧
    ∀ e ∈ n.peers.entries, e.2.linkId ≠ l

/-- The msg1 comes from a restarted run of the active peer `p`, and none of what the handler looks at
before the peer's epoch ends it: the limiter, the transport and the address. -/
def RestartsPeer (packet : ReceivedPacket) (n : LinkNode SecretKey PublicKey ν μ)
    (p : ActivePeer SecretKey PublicKey ν) : Prop :=
  env.msg1Allowed = true ∧ env.acceptsConnections packet.transportId = true ∧
    ¬n.PendingInbound packet ∧
  ∃ header noiseMsg1 msg2 conn identity, Msg1Header.parse packet.data = .ok header ∧
    (sliceFrom packet.data header.noiseMsg1Offset : Result Unit Bytes) = .ok noiseMsg1 ∧
    call (PeerConnection.receiveHandshakeInit n.identity.secretKey n.startupEpoch env.ephemeral
      noiseMsg1 packet.timestampMs) (PeerConnection.inboundWithTransport n.nextLinkId
        packet.transportId packet.remoteAddr packet.timestampMs) = .ok (msg2, conn) ∧
    conn.expectedIdentity = some identity ∧
    n.peers.lookup (identity.nodeAddr SecretKey) = some p ∧
    epochMismatch p.remoteEpoch conn.remoteEpoch = true

omit [HkdfSha256] [ChaCha20Poly1305] in
/-- What is done with a msg1 that could be read. -/
theorem inv_receiveMsg1 (h : n.Inv) {conn : PeerConnection SecretKey PublicKey}
    (hl : n.connections.lookup conn.linkId = none) (hnext : conn.linkId < n.nextLinkId)
    (hwaiting : ∀ pc ∈ n.pendingConnects, pc.linkId ≠ conn.linkId)
    (hsession : conn.hasSession) (htid : conn.transportId.isSome) (haddr : conn.sourceAddr.isSome)
    {identity : PeerIdentity PublicKey}
    (hrestart : ∀ p, n.peers.lookup (identity.nodeAddr SecretKey) = some p →
      epochMismatch p.remoteEpoch conn.remoteEpoch = true → n.Homed p)
    (packet : ReceivedPacket) (senderIdx : SessionIndex) (msg2Response : Bytes)
    (possibleRestart : Bool) :
    wp (receiveMsg1 env packet senderIdx conn msg2Response identity possibleRestart)
      (fun _ n' => n'.Inv) (fun _ n' => n'.Inv) n := by
  unfold receiveMsg1
  rw [wp_bind_iff, wp_read_iff]
  cases hp : n.peers.lookup (identity.nodeAddr SecretKey) with
  | none =>
    simp only [ite_self]
    exact inv_acceptConnection env h hl hnext hwaiting hsession htid haddr hp packet senderIdx
      msg2Response
  | some p =>
    simp only [Option.isSome_some, Bool.or_true, if_true, wp_bind_iff, wp_read_iff]
    split_ifs with hmismatch hrekey
    · rw [wp_bind_iff]
      refine wp_mono (fun _ m hm => ?_) (fun _ _ hF => hF.elim)
        (inv_removeActivePeer h hp (hrestart p hp hmismatch))
      obtain ⟨hm, hconnections, hnextLinkId, hconnects, hnone⟩ := hm
      have hemitted : Inv { m with effects := m.effects ++
        [.scheduleReconnect (identity.nodeAddr SecretKey)] } := hm.congr rfl rfl rfl rfl rfl rfl
      rw [wp_bind_iff]
      refine inv_acceptConnection env hemitted ?_ ?_ ?_ hsession htid haddr hnone packet senderIdx
        msg2Response
      · exact hconnections.symm ▸ hl
      · exact lt_of_lt_of_eq hnext hnextLinkId.symm
      · exact hconnects.symm ▸ hwaiting
    · exact inv_respondRekey env h hp hl packet senderIdx msg2Response
    · unfold resendMsg2
      cases p.handshakeMsg2 with
      | none => exact h
      | some msg2 =>
        rw [wp_bind_iff]
        exact wp_transmit env fun _ _ => h.congr rfl rfl rfl rfl rfl rfl

omit [Sha256] [HkdfSha256] [ChaCha20Poly1305] [Secp256k1 SecretKey PublicKey] [Mmp ν] in
/-- A look at the address: of a handshake still pending nothing but the outbox changes, and anything
else changes nothing. -/
theorem wp_checkAddress {Q : Bool → LinkNode SecretKey PublicKey ν μ → Prop}
    {E : Fail Unit → LinkNode SecretKey PublicKey ν μ → Prop} (packet : ReceivedPacket)
    (hQ : ¬n.PendingInbound packet → ∀ possibleRestart, Q possibleRestart n)
    (hE : n.PendingInbound packet → ∀ outbox, E (.error ()) { n with outbox := outbox }) :
    wp (checkAddress env packet) Q E n := by
  unfold checkAddress
  rw [wp_bind_iff, wp_read_iff]
  cases hkey : n.addrToLink.lookup (packet.transportId, packet.remoteAddr) with
  | none =>
    refine hQ ?_ false
    rintro ⟨l, -, hl, -⟩
    cases hkey.symm.trans hl
  | some l =>
    rw [wp_bind_iff, wp_read_iff]
    cases hlink : n.links.lookup l with
    | none =>
      refine hQ ?_ false
      rintro ⟨l', _, hl', hlink', -⟩
      obtain rfl := Option.some.inj (hkey.symm.trans hl')
      cases hlink.symm.trans hlink'
    | some link =>
      rw [wp_bind_iff, wp_read_iff]
      split_ifs with hactive hinbound
      · refine hQ ?_ true
        rintro ⟨l', _, hl', -, -, hidle⟩
        obtain rfl := Option.some.inj (hkey.symm.trans hl')
        obtain ⟨e, he, hl⟩ := List.any_eq_true.mp hactive
        exact hidle e he (beq_iff_eq.mp hl)
      · have hpending : n.PendingInbound packet :=
          ⟨l, link, hkey, hlink, beq_iff_eq.mp hinbound, fun e he hl =>
            hactive (List.any_eq_true.mpr ⟨e, he, beq_iff_eq.mpr hl⟩)⟩
        rw [wp_bind_iff, wp_read_iff, wp_bind_iff]
        unfold resendMsg2
        cases findStoredMsg2 l n with
        | none => exact hE hpending n.outbox
        | some msg2 =>
          rw [wp_bind_iff]
          exact wp_transmit env fun _ outbox => hE hpending outbox
      · refine hQ ?_ false
        rintro ⟨l', link', hl', hlink', hdirection, -⟩
        obtain rfl := Option.some.inj (hkey.symm.trans hl')
        obtain rfl := Option.some.inj (hlink.symm.trans hlink')
        exact hinbound (beq_iff_eq.mpr hdirection)

/-- **Message 1**, unless it makes the node remove a peer whose indices are registered elsewhere. -/
theorem inv_handleMsg1 (h : n.Inv) (packet : ReceivedPacket)
    (hrestart : ∀ p, RestartsPeer env packet n p → n.Homed p) :
    (handleMsg1 env packet n).1.Inv := by
  refine fst_of_wp (wp_body_of_wp ?_)
  split_ifs with hlimited hrefuses
  · exact h
  · exact h
  · rw [Bool.not_eq_true, Bool.not_eq_false'] at hlimited hrefuses
    rw [wp_bind_iff, wp_orReturn_iff]
    refine ⟨fun header hparse => ?_, fun _ => h, fun _ => h⟩
    rw [wp_bind_iff]
    refine wp_checkAddress env packet (fun hsettled possibleRestart => ?_) fun _ outbox =>
      h.congr rfl rfl rfl rfl rfl rfl
    have hcounted := h.countLink
    have hfresh := h.fresh n.nextLinkId le_rfl
    have hne : ∀ pc ∈ n.pendingConnects, pc.linkId ≠ n.nextLinkId :=
      fun pc hpc => Nat.ne_of_lt (h.waiting pc hpc).2
    unfold allocateLinkId
    simp only [wp_bind_iff, wp_read_iff, wp_write_iff, wp_pure_iff]
    rw [wp_orReturn_iff]
    refine ⟨fun noiseMsg1 hslice => ?_, fun _ => hcounted, fun _ => hcounted⟩
    rw [wp_bind_iff, wp_orReturn_iff]
    refine ⟨fun received hreceived => ?_, fun _ => hcounted, fun _ => hcounted⟩
    obtain ⟨msg2, conn⟩ := received
    obtain ⟨hsame, hsession, -⟩ := PeerConnection.receiveHandshakeInit_spec hreceived
    rw [wp_bind_iff, wp_orElse_iff]
    refine ⟨fun identity hidentity => ?_, fun _ => hcounted⟩
    refine inv_receiveMsg1 env hcounted ?_ ?_ ?_ hsession ?_ ?_ (fun p hp hmismatch => ?_) packet
      header.senderIdx msg2 possibleRestart
    · rw [hsame.linkId]
      exact hfresh
    · rw [hsame.linkId]
      exact Nat.lt_succ_self _
    · rw [hsame.linkId]
      exact hne
    · rw [hsame.transportId]
      rfl
    · rw [hsame.sourceAddr]
      rfl
    · exact hrestart p ⟨hlimited, hrefuses, hsettled, header, noiseMsg1, msg2, conn, identity, hparse,
        hslice, hreceived, hidentity, hp, hmismatch⟩

end Message1

/-! ## Message 2 -/

section Calls

variable {n : LinkNode SecretKey PublicKey ν μ} {l : LinkId} {a : NodeAddr} {α : Type}

theorem wp_onPeer_iff {p : ActivePeer SecretKey PublicKey ν} (hp : n.peers.lookup a = some p)
    {m : Method (ActivePeer SecretKey PublicKey ν) ε α}
    {Q : α → LinkNode SecretKey PublicKey ν μ → Prop}
    {E : Fail ε → LinkNode SecretKey PublicKey ν μ → Prop} :
    wp (onPeer a m) Q E n ↔
      wp m (fun b q => Q b { n with peers := n.peers.insert a q })
        (fun e q => E e { n with peers := n.peers.insert a q }) p := by
  unfold wp onPeer
  rw [hp]
  dsimp only
  rcases m p with ⟨q, r⟩
  cases r <;> exact Iff.rfl

theorem wp_onConnection_iff {c : PeerConnection SecretKey PublicKey}
    (hc : n.connections.lookup l = some c) {m : Method (PeerConnection SecretKey PublicKey) ε α}
    {Q : α → LinkNode SecretKey PublicKey ν μ → Prop}
    {E : Fail ε → LinkNode SecretKey PublicKey ν μ → Prop} :
    wp (onConnection l m) Q E n ↔
      wp m (fun b c' => Q b { n with connections := n.connections.insert l c' })
        (fun e c' => E e { n with connections := n.connections.insert l c' }) c := by
  unfold wp onConnection
  rw [hc]
  dsimp only
  rcases m c with ⟨c', r⟩
  cases r <;> exact Iff.rfl

end Calls

section Message2

variable {n : LinkNode SecretKey PublicKey ν μ} {l : LinkId} {a : NodeAddr}
  {p : ActivePeer SecretKey PublicKey ν} {c : PeerConnection SecretKey PublicKey}

theorem findRekey_eq_some {receiverIdx : SessionIndex} (h : n.findRekey receiverIdx = some a) :
    ∃ p, n.peers.lookup a = some p ∧ p.rekeyInProgress = true ∧
      p.rekeyOurIndex = some receiverIdx := by
  unfold findRekey at h
  obtain ⟨⟨a', p⟩, hmem, hfound⟩ := List.exists_of_findSome?_eq_some h
  split_ifs at hfound with hrekey
  cases hfound
  obtain ⟨hprogress, hindex⟩ := Bool.and_eq_true_iff.mp hrekey
  exact ⟨p, Map.mem_entries_iff.mp hmem, hprogress, eq_of_beq hindex⟩

theorem ActivePeer.held_replaceSession (p : ActivePeer SecretKey PublicKey ν)
    (session : NoiseSession PublicKey) (ourIndex theirIndex : SessionIndex) :
    (p.replaceSession session ourIndex theirIndex).1.held =
      update p.held .current (some ourIndex) := by
  refine funext fun s => ?_
  cases s <;> rfl

/-- The connection made for our own msg1 won: its index replaces the current one. -/
theorem inv_swapSession (h : n.Inv) (hp : n.peers.lookup a = some p)
    (hc : n.connections.lookup l = some c) {i : SessionIndex} (hi : c.ourIndex = some i)
    (honly : ∀ j tid, p.ourIndex = some j → p.transportId = some tid → n.OnlyUnder j tid)
    (session : NoiseSession PublicKey) (theirIndex : SessionIndex) :
    wp (swapSession a session i theirIndex) (fun _ n' => n'.Inv) (fun _ _ => False)
      { n with connections := n.connections.erase l } := by
  have htidy := h.peers a p hp
  obtain ⟨tid, htid⟩ := Option.isSome_iff_exists.mp htidy.transport
  let replaced := (p.replaceSession session i theirIndex).1
  have hreplaced : replaced.Tidy := ⟨htidy.transport, htidy.pending, htidy.rekey, htidy.exclusive⟩
  unfold swapSession
  have hold : (p.replaceSession session i theirIndex).2 = p.ourIndex := rfl
  simp only [wp_bind_iff, wp_read_iff, hp, wp_write_iff, wp_expect_iff, hold]
  refine ⟨fun tid' htid' => ?_, fun hnone => by cases htid.symm.trans hnone⟩
  obtain rfl : tid = tid' := Option.some.inj (htid.symm.trans htid')
  cases hcurrent : p.ourIndex with
  | none =>
    have hslots := slots_books hp
    refine h.settle hc hi ((congrFun hslots .current).trans hcurrent) ?_ hreplaced tid
    rw [hslots]
    exact ActivePeer.held_replaceSession p session i theirIndex
  | some j =>
    -- the old index is given back first, and the new one settles in the empty slot
    let emptied : ActivePeer SecretKey PublicKey ν := { p with ourIndex := none }
    have hreleased := h.releaseSlot hp (s := .current) (q := emptied) hcurrent
      (funext fun s => by cases s <;> rfl)
      ⟨htidy.transport, htidy.pending, htidy.rekey, htidy.exclusive⟩ (honly j tid hcurrent htid)
    have hslots := slots_books (n := { n with
      peers := n.peers.insert a emptied
      allocatedIndices := n.allocatedIndices.erase j
      peersByIndex := n.peersByIndex.erase (tid, j) }) (a := a) (AList.lookup_insert _)
    have hsettled := hreleased.settle (a := a) (q := replaced) hc hi (congrFun hslots .current)
      (by rw [hslots]; exact funext fun s => by cases s <;> rfl) hreplaced tid
    exact hsettled.congr (AList.insert_insert _).symm rfl rfl rfl rfl rfl

/-- **A cross-connection** is resolved: one of the two indices is given back. -/
theorem inv_resolveCrossConnection (h : n.Inv) (hp : n.peers.lookup a = some p)
    (hc : n.connections.lookup l = some c) (hsession : c.hasSession)
    (honly : crossConnectionWinner n.nodeAddr a true = true →
      ∀ j tid, p.ourIndex = some j → p.transportId = some tid → n.OnlyUnder j tid)
    (key : TransportId × SessionIndex) (senderIdx : SessionIndex) :
    wp (resolveCrossConnection key senderIdx l a) (fun _ n' => n'.Inv) (fun _ n' => n'.Inv) n := by
  obtain ⟨i, hi⟩ := Option.isSome_iff_exists.mp (h.connections l c hc).1
  obtain ⟨hstate, hsome⟩ := Bool.and_eq_true_iff.mp hsession
  obtain ⟨session, hsome⟩ := Option.isSome_iff_exists.mp hsome
  have htaken : c.takeSession.2 = some session := by
    unfold PeerConnection.takeSession
    rw [if_pos hstate]
    exact hsome
  unfold resolveCrossConnection dropConnection
  rw [wp_bind_iff, wp_read_iff, wp_bind_iff, wp_read_iff, hc]
  simp only [wp_bind_iff, wp_write_iff]
  split_ifs with hwins
  · rw [htaken, hi]
    simp only [wp_bind_iff]
    refine wp_mono (fun _ m hm => ?_) (fun _ _ hF => hF.elim)
      (inv_swapSession h hp hc hi (honly hwins) session senderIdx)
    refine Inv.removeLink ?_ l
    exact hm.congr rfl rfl rfl rfl rfl rfl
  · rw [hi]
    refine Inv.removeLink ?_ l
    exact (h.dropConnection hc hi).congr rfl rfl rfl rfl rfl rfl

section Rekey

variable [Sha256] [HkdfSha256] [ChaCha20Poly1305] [Secp256k1 SecretKey PublicKey]

theorem ActivePeer.book_completeRekeyMsg2 (p : ActivePeer SecretKey PublicKey ν) (msg2 : Bytes) :
    (p.completeRekeyMsg2 msg2).1.book = p.book := by
  unfold ActivePeer.completeRekeyMsg2
  cases p.rekeyHandshake with
  | none => rfl
  | some hs =>
    dsimp only
    cases Checked.call (HandshakeState.readMessage2 msg2) hs with
    | error e => rfl
    | ok r =>
      dsimp only
      cases r.2.intoSession with
      | error e => rfl
      | ok session => rfl

/-- **A rekey of our own** ends with the index in the pending slot, or given back. -/
theorem inv_completeRekey (h : n.Inv) (hp : n.peers.lookup a = some p)
    (hprogress : p.rekeyInProgress = true) {header : Msg2Header}
    (hindex : p.rekeyOurIndex = some header.receiverIdx) (noiseMsg2 : Bytes) :
    wp (completeRekey header noiseMsg2 a) (fun _ n' => n'.Inv) (fun _ n' => n'.Inv) n := by
  have hbook : wp (fun p : ActivePeer SecretKey PublicKey ν => p.completeRekeyMsg2 noiseMsg2)
      (fun _ q => q.book = p.book) (fun _ q => q.book = p.book) p :=
    wp_of_fst (ActivePeer.book_completeRekeyMsg2 p noiseMsg2)
  -- the peer is as the bookkeeping knew it
  have hread : ∀ q : ActivePeer SecretKey PublicKey ν, q.book = p.book →
      Inv { n with peers := n.peers.insert a q } ∧ (n.peers.insert a q).lookup a = some q ∧
        q.rekeyInProgress = true ∧ q.rekeyOurIndex = some header.receiverIdx := by
    intro q hq
    refine ⟨h.insertPeer hp (ActivePeer.held_of_book hq) ((h.peers a p hp).of_book hq),
      AList.lookup_insert _, ?_, ?_⟩
    · unfold ActivePeer.book at hq
      simp only [Prod.mk.injEq] at hq
      exact hq.2.2.2.2.2.1.trans hprogress
    · exact (congrFun (ActivePeer.held_of_book hq) .rekey).trans hindex
  unfold completeRekey
  rw [wp_bind_iff, wp_attempt_iff]
  refine (wp_onPeer_iff hp).mpr (wp_mono (fun session q hq => ?_) (fun e q hq => ?_) hbook)
  · obtain ⟨hm, hq, hqprogress, hqindex⟩ := hread q hq
    have htidy := hm.peers a q hq
    obtain ⟨tid, htid⟩ := Option.isSome_iff_exists.mp htidy.transport
    have hslot : q.held .pending = none :=
      ActivePeer.Tidy.pendingOurIndex_eq_none htidy (htidy.exclusive hqprogress)
    have hheld : (q.setPendingSession session header.receiverIdx header.senderIdx).held =
        update (update q.held .rekey none) .pending (q.held .rekey) := by
      have hrekey : q.held .rekey = some header.receiverIdx := hqindex
      rw [hrekey]
      exact ActivePeer.held_setPendingSession q session header.receiverIdx header.senderIdx
    have hmoved := hm.moveSlot hq (s := .rekey) hslot (by decide) hheld
      (ActivePeer.tidy_setPendingSession htidy session header.receiverIdx header.senderIdx)
    have hregistered := hmoved.registerIndex (a := a) (s := .pending) (i := header.receiverIdx)
      (AList.lookup_insert _) rfl (by decide) tid
    rw [wp_write_iff]
    simp only [hq, hqindex, Option.getD_some, htid]
    exact hregistered
  · obtain ⟨hm, hq, hqprogress, -⟩ := hread q hq
    cases e with
    | panic => exact hm
    | error e =>
      exact wp_mono (fun _ _ hkept => hkept.1) (fun _ _ hF => hF.elim)
        (inv_abandonRekey hm hq hqprogress)

variable [Mmp ν] (env : LinkEnv SecretKey)

omit [HkdfSha256] [ChaCha20Poly1305] in
/-- The peer of our own msg1 becomes active. -/
theorem inv_promoteOutbound (h : n.Inv) (hc : n.connections.lookup l = some c)
    (hsession : c.hasSession) (htheir : c.theirIndex.isSome) (haddr : c.sourceAddr.isSome)
    {identity : PeerIdentity PublicKey}
    (hnone : n.peers.lookup (identity.nodeAddr SecretKey) = none)
    (packet : ReceivedPacket) (key : TransportId × SessionIndex) :
    wp (promoteOutbound env packet key l identity) (fun _ n' => n'.Inv) (fun _ n' => n'.Inv) n := by
  obtain ⟨hindex, htid⟩ := h.connections l c hc
  obtain ⟨p, hp⟩ := extractPromotion_of_complete (l := l) hsession hindex htheir htid haddr
  unfold promoteOutbound
  rw [wp_bind_iff, wp_attempt_iff]
  refine wp_mono (fun result m hm => ?_) (fun e m hm => ?_)
    (promoteConnection_spec h hc hp hnone packet.timestampMs env.instant)
  · unfold forgetOutbound
    rw [wp_bind_iff, wp_write_iff]
    have hforgot : Inv { m with pendingOutbound := m.pendingOutbound.erase key } :=
      hm.congr rfl rfl rfl rfl rfl rfl
    cases result with
    | promoted addr => exact hforgot
    | crossConnectionWon loser addr => exact (hforgot.removeLink loser).withLinks _ _
    | crossConnectionLost winner => exact (hforgot.removeLink l).withLinks _ _
  · cases e with
    | error e => exact hm.1
    | panic => exact hm.1

/-- The msg2 completes a handshake of our own with the active peer `p`, and that handshake counts. -/
def ReplacesSession (packet : ReceivedPacket) (n : LinkNode SecretKey PublicKey ν μ)
    (p : ActivePeer SecretKey PublicKey ν) : Prop :=
  ∃ header l noiseMsg2 c c' identity, Msg2Header.parse packet.data = .ok header ∧
    n.pendingOutbound.lookup (packet.transportId, header.receiverIdx) = some l ∧
    (sliceFrom packet.data header.noiseMsg2Offset : Result Unit Bytes) = .ok noiseMsg2 ∧
    n.connections.lookup l = some c ∧
    Runs (PeerConnection.completeHandshake noiseMsg2 packet.timestampMs) c () c' ∧
    c.expectedIdentity = some identity ∧
    n.peers.lookup (identity.nodeAddr SecretKey) = some p ∧
    crossConnectionWinner n.nodeAddr (identity.nodeAddr SecretKey) true = true

/-- **Message 2**, unless it replaces an index that is registered elsewhere. -/
theorem inv_handleMsg2 (h : n.Inv) (packet : ReceivedPacket)
    (hreplace : ∀ p, ReplacesSession packet n p →
      ∀ i tid, p.ourIndex = some i → p.transportId = some tid → n.OnlyUnder i tid) :
    (handleMsg2 env packet n).1.Inv := by
  refine fst_of_wp (wp_body_of_wp ?_)
  rw [wp_bind_iff, wp_orReturn_iff]
  refine ⟨fun header hparse => ?_, fun _ => h, fun _ => h⟩
  rw [wp_bind_iff, wp_read_iff, wp_bind_iff, wp_orElse_iff]
  refine ⟨fun l hkey => ?_, fun _ => h⟩
  rw [wp_bind_iff, wp_orReturn_iff]
  refine ⟨fun noiseMsg2 hslice => ?_, fun _ => h, fun _ => h⟩
  rw [wp_bind_iff, wp_read_iff]
  cases hc : n.connections.lookup l with
  | none =>
    change wp (_ >>= _) _ _ n
    rw [wp_bind_iff, wp_read_iff]
    cases hrekey : findRekey header.receiverIdx n with
    | none => exact h.congr rfl rfl rfl rfl rfl rfl
    | some a =>
      obtain ⟨p, hp, hprogress, hindex⟩ := findRekey_eq_some hrekey
      rw [wp_bind_iff]
      exact wp_mono (fun _ _ hm => hm.congr rfl rfl rfl rfl rfl rfl) (fun _ _ hm => hm)
        (inv_completeRekey h hp hprogress hindex noiseMsg2)
  | some c =>
    change wp (attempt _ >>= _) _ _ n
    rw [wp_bind_iff, wp_attempt_iff]
    refine (wp_onConnection_iff hc).mpr (wp_mono (fun _ c' hc' => ?_) (fun e c' hc' => ?_)
      (wp_and_runs (PeerConnection.completeHandshake_spec noiseMsg2 packet.timestampMs c)))
    · obtain ⟨⟨hsame, hexpected, hsession⟩, hruns⟩ := hc'
      let completed := fun c : PeerConnection SecretKey PublicKey =>
        { c with theirIndex := some header.senderIdx, sourceAddr := some packet.remoteAddr }
      have hm := (h.modifyConnection hc hsame.ourIndex hsame.transportId).mapConnection l
        (f := completed) fun _ => ⟨rfl, rfl⟩
      have hcompleted : (Map.modify l completed (n.connections.insert l c')).lookup l =
          some (completed c') := Map.lookup_modify_self (AList.lookup_insert _) _
      refine wp_bind_iff.mpr (wp_write_iff.mpr (wp_bind_iff.mpr (wp_expect_iff.mpr
        ⟨fun conn hconn => ?_, fun hnone => by cases hcompleted.symm.trans hnone⟩)))
      obtain rfl : completed c' = conn := Option.some.inj (hcompleted.symm.trans hconn)
      rw [wp_bind_iff, wp_orElse_iff]
      refine ⟨fun identity hidentity => ?_, fun _ => hm⟩
      have hidentity : c.expectedIdentity = some identity := hexpected.symm.trans hidentity
      rw [wp_bind_iff, wp_read_iff]
      cases hp : n.peers.lookup (identity.nodeAddr SecretKey) with
      | none =>
        exact inv_promoteOutbound env hm hcompleted hsession rfl rfl hp packet _
      | some p =>
        exact inv_resolveCrossConnection hm hp hcompleted hsession (fun hwins =>
          hreplace p ⟨header, l, noiseMsg2, c, c', identity, hparse, hkey, hslice, hc, hruns,
            hidentity, hp, hwins⟩) _ _
    · have hm := h.modifyConnection hc hc'.ourIndex hc'.transportId
      cases e with
      | panic => exact hm
      | error e => exact hm.mapConnection l fun _ => ⟨rfl, rfl⟩

end Rekey

end Message2

end LinkNode

end Fips
