import Fips.Lib.Run
import Fips.Node.MessageIndices

/-!
# Rekeys and frames keep the index books

`check_rekey` and the encrypted frames against `LinkNode.Inv`. A cutover needs an empty place for the
index that begins to drain; the end of a drain and a removal need the entries they look for.

## Results

* `inv_initiateRekey`, `inv_checkRekey`, `inv_resendRekey`: the ticks.
* `inv_handleEncryptedFrame`: the frames.
-/

open Checked

namespace Fips

open Function (update update_self update_of_ne)

namespace LinkNode

variable {SecretKey PublicKey ν μ : Type} {ε : Type}

section Tick

variable {n n' : LinkNode SecretKey PublicKey ν μ} {a b : NodeAddr}
  {p : ActivePeer SecretKey PublicKey ν}

theorem mem_peersWhere_iff {want : ActivePeer SecretKey PublicKey ν → Bool} :
    a ∈ n.peersWhere want ↔ ∃ p, n.peers.lookup a = some p ∧ want p = true := by
  unfold peersWhere
  rw [List.mem_map]
  constructor
  · rintro ⟨⟨a', p⟩, hmem, rfl⟩
    obtain ⟨hmem, hwant⟩ := List.mem_filter.mp hmem
    exact ⟨p, Map.mem_entries_iff.mp hmem, hwant⟩
  · rintro ⟨p, hp, hwant⟩
    exact ⟨⟨a, p⟩, List.mem_filter.mpr ⟨Map.mem_entries_iff.mpr hp, hwant⟩, rfl⟩

theorem nodup_peersWhere (want : ActivePeer SecretKey PublicKey ν → Bool) :
    (n.peersWhere want).Nodup :=
  List.Nodup.sublist (List.filter_sublist.map _) n.peers.keys_nodup

theorem not_wantsCutover_of_wantsDrain {now : Nat} (h : wantsDrain now p = true) :
    wantsCutover p = false := by
  unfold wantsDrain at h
  simp only [Bool.and_eq_true, Bool.not_eq_true'] at h
  exact h.1.1.2

/-- A peer gets a new rekey only where it has none. -/
theorem idle_of_wantsRekey {config : NodeConfig} {now : Nat} (h : wantsRekey config now p = true) :
    wantsCutover p = false ∧ p.rekeyInProgress = false ∧ p.pendingNewSession = none := by
  unfold wantsRekey at h
  simp only [Bool.and_eq_true, Bool.not_eq_true'] at h
  obtain ⟨⟨⟨⟨⟨hsession, hhealthy⟩, hcutover⟩, hidle⟩, -⟩, -⟩ := h
  refine ⟨hcutover, hidle, ?_⟩
  unfold wantsCutover at hcutover
  rw [hsession, hhealthy, hidle] at hcutover
  simpa using hcutover

/-! ### Cutovers -/

/-- A cutover of the peer would not overwrite an index that drains. -/
def CutsCleanly (n : LinkNode SecretKey PublicKey ν μ) (a : NodeAddr) : Prop :=
  ∀ p, n.peers.lookup a = some p → p.pendingNewSession.isSome → p.previousOurIndex = none

theorem inv_cutover [Mmp ν] (now : Nat) (h : n.Inv) (hclean : n.CutsCleanly a) :
    (cutover now n a).Inv := by
  unfold LinkNode.cutover
  cases hp : n.peers.lookup a with
  | none =>
    unfold Map.modify
    rw [hp]
    exact h
  | some p =>
    rw [Map.modify_eq_insert hp]
    exact h.cutover hp (hclean p hp) now

theorem inv_cutovers [Mmp ν] (now : Nat) (h : n.Inv) {addrs : List NodeAddr} (hnodup : addrs.Nodup)
    (hclean : ∀ a ∈ addrs, n.CutsCleanly a) : (addrs.foldl (cutover now) n).Inv := by
  have halong : EventRun.Along (cutover now) CutsCleanly n addrs := by
    refine EventRun.along_of_nodup (fun m a b hab _ hb p hp => ?_) hnodup hclean
    refine hb p ?_
    rw [← hp]
    exact (Map.lookup_modify_ne m.peers (Ne.symm hab) _).symm
  exact (EventRun.Always.of_along (fun _ _ hm hC => inv_cutover now hm hC) h halong).exec

/-- A cutover is of the peers it names. -/
theorem lookup_cutovers [Mmp ν] (now : Nat) {addrs : List NodeAddr} (ha : a ∉ addrs) :
    (addrs.foldl (cutover now) n).peers.lookup a = n.peers.lookup a := by
  change (EventRun.exec (cutover now) n addrs).peers.lookup a = _
  refine EventRun.exec_frames (fun m : LinkNode SecretKey PublicKey ν μ => m.peers.lookup a) fun m b hb => ?_
  refine Map.lookup_modify_ne m.peers ?_ _
  rintro rfl
  exact ha hb

theorem peersByIndex_cutovers [Mmp ν] (now : Nat) (addrs : List NodeAddr) :
    (addrs.foldl (cutover now) n).peersByIndex = n.peersByIndex := by
  change (EventRun.exec (cutover now) n addrs).peersByIndex = _
  exact EventRun.exec_frames (fun m : LinkNode SecretKey PublicKey ν μ => m.peersByIndex) fun _ _ _ => rfl

/-! ### Drains -/

/-- The draining index of the peer is registered under its transport only. -/
def DrainsCleanly (n : LinkNode SecretKey PublicKey ν μ) (a : NodeAddr) : Prop :=
  ∀ p i tid, n.peers.lookup a = some p → p.previousOurIndex = some i → p.transportId = some tid →
    n.OnlyUnder i tid

theorem inv_drain (h : n.Inv) (hclean : n.DrainsCleanly a) : (drain n a).Inv := by
  unfold drain
  cases hp : n.peers.lookup a with
  | none => exact h
  | some p =>
    have htidy := h.peers a p hp
    obtain ⟨tid, htid⟩ := Option.isSome_iff_exists.mp htidy.transport
    have hdrained : p.completeDrain.1.Tidy :=
      ⟨htidy.transport, htidy.pending, htidy.rekey, htidy.exclusive⟩
    have hheld : p.completeDrain.1.held = update p.held .previous none := by
      refine funext fun s => ?_
      cases s <;> rfl
    have hold : p.completeDrain.2 = p.previousOurIndex := rfl
    have hdrainedTid : p.completeDrain.1.transportId = some tid := htid
    simp only [hold, hdrainedTid]
    cases hprevious : p.previousOurIndex with
    | none =>
      refine h.insertPeer hp (hheld.trans ?_) hdrained
      have hnone : p.held .previous = none := hprevious
      rw [← hnone, Function.update_eq_self]
    | some i =>
      exact h.releaseSlot hp (s := .previous) hprevious hheld hdrained (hclean p i tid hp hprevious htid)

/-- What the end of a drain writes: the peer, and no new entry of the index. -/
theorem drain_eq (hp : n.peers.lookup a = some p) : ∃ index allocated, drain n a =
    { n with
      peers := n.peers.insert a p.completeDrain.1
      peersByIndex := index
      allocatedIndices := allocated } ∧
    ∀ k c, index.lookup k = some c → n.peersByIndex.lookup k = some c := by
  unfold drain
  rw [hp]
  dsimp only
  cases p.completeDrain.2 with
  | none => exact ⟨_, _, rfl, fun _ _ hk => hk⟩
  | some i =>
    cases p.completeDrain.1.transportId with
    | none => exact ⟨_, _, rfl, fun _ _ hk => hk⟩
    | some tid => exact ⟨_, _, rfl, fun k c hk => lookup_of_eraseIndex _ _ k c hk⟩

theorem drain_of_none (hp : n.peers.lookup a = none) : drain n a = n := by
  unfold drain
  rw [hp]

/-- It adds no entry of the index. -/
theorem lookup_of_drain {k : TransportId × SessionIndex} {c : NodeAddr}
    (hk : (drain n a).peersByIndex.lookup k = some c) : n.peersByIndex.lookup k = some c := by
  cases hp : n.peers.lookup a with
  | none => exact drain_of_none hp ▸ hk
  | some p =>
    obtain ⟨index, allocated, heq, hindex⟩ := drain_eq hp
    rw [heq] at hk
    exact hindex k c hk

/-- It changes one peer, and what that peer does about a rekey is as before. -/
theorem lookup_drain {q : ActivePeer SecretKey PublicKey ν}
    (hq : (drain n a).peers.lookup b = some q) :
    (a ≠ b → n.peers.lookup b = some q) ∧ ∃ p, n.peers.lookup b = some p ∧
      q.rekeyInProgress = p.rekeyInProgress ∧ q.pendingNewSession = p.pendingNewSession := by
  cases hp : n.peers.lookup a with
  | none =>
    rw [drain_of_none hp] at hq
    exact ⟨fun _ => hq, q, hq, rfl, rfl⟩
  | some p =>
    obtain ⟨index, allocated, heq, -⟩ := drain_eq hp
    rw [heq] at hq
    change (n.peers.insert a p.completeDrain.1).lookup b = some q at hq
    rw [Map.lookup_insert'] at hq
    split_ifs at hq with hba
    · cases hq
      exact ⟨fun hab => absurd hba.symm hab, p, hba ▸ hp, rfl, rfl⟩
    · exact ⟨fun _ => hq, q, hq, rfl, rfl⟩

theorem inv_drains (h : n.Inv) {addrs : List NodeAddr} (hnodup : addrs.Nodup)
    (hclean : ∀ a ∈ addrs, n.DrainsCleanly a) : (addrs.foldl drain n).Inv := by
  have halong : EventRun.Along drain DrainsCleanly n addrs := by
    refine EventRun.along_of_nodup (fun m a b hab _ hb q i tid hq hi htid => ?_) hnodup hclean
    intro tid' hreg
    refine hb q i tid ((lookup_drain hq).1 hab) hi htid tid' fun hnone => hreg ?_
    refine Option.eq_none_iff_forall_ne_some.mpr fun c hc => ?_
    cases hnone.symm.trans (lookup_of_drain hc)
  exact (EventRun.Always.of_along (fun _ _ hm hC => inv_drain hm hC) h halong).exec

/-! ### New rekeys -/

/-- The peer neither has a rekey of its own under way nor one that waits for its cutover. -/
def StartsCleanly (n : LinkNode SecretKey PublicKey ν μ) (a : NodeAddr) : Prop :=
  ∀ p, n.peers.lookup a = some p → p.rekeyInProgress = false ∧ p.pendingNewSession = none

theorem startsCleanly_drains (addrs : List NodeAddr) (h : n.StartsCleanly a) :
    (addrs.foldl drain n).StartsCleanly a := by
  have hstep : ∀ (m : LinkNode SecretKey PublicKey ν μ) (b : NodeAddr),
      m.StartsCleanly a → (drain m b).StartsCleanly a := by
    intro m b hm q hq
    obtain ⟨-, p, hp, hprogress, hpending⟩ := lookup_drain hq
    rw [hprogress, hpending]
    exact hm p hp
  exact (EventRun.Always.of_step hstep h).exec

theorem ActivePeer.held_setRekeyState (p : ActivePeer SecretKey PublicKey ν)
    (handshake : HandshakeState SecretKey PublicKey) (ourIndex : SessionIndex) (wireMsg1 : Bytes)
    (nextResendMs : Nat) :
    (p.setRekeyState handshake ourIndex wireMsg1 nextResendMs).held =
      update p.held .rekey (some ourIndex) := by
  refine funext fun s => ?_
  cases s <;> rfl

section Crypto

variable [Sha256] [HkdfSha256] [ChaCha20Poly1305] [Secp256k1 SecretKey PublicKey] [Mmp ν]

omit [Mmp ν] in
/-- **A rekey of our own** takes an index, or gives it back. Other peers are as they were. -/
theorem initiateRekey_spec (env : LinkEnv SecretKey) (h : n.Inv) (hclean : n.StartsCleanly a) :
    wp (initiateRekey env a : M SecretKey PublicKey ν μ ε Unit)
      (fun _ n' => n'.Inv ∧ ∀ b, a ≠ b → n'.peers.lookup b = n.peers.lookup b)
      (fun _ n' => n'.Inv ∧ ∀ b, a ≠ b → n'.peers.lookup b = n.peers.lookup b) n := by
  have hsame : n.Inv ∧ ∀ b, a ≠ b → n.peers.lookup b = n.peers.lookup b := ⟨h, fun _ _ => rfl⟩
  unfold initiateRekey
  refine wp_body_of_wp (P := fun n' : LinkNode SecretKey PublicKey ν μ =>
    n'.Inv ∧ ∀ b, a ≠ b → n'.peers.lookup b = n.peers.lookup b) ?_
  rw [wp_bind_iff, wp_read_iff, wp_bind_iff, wp_orElse_iff]
  refine ⟨fun p hp => ?_, fun _ => hsame⟩
  rw [wp_bind_iff, wp_orElse_iff]
  refine ⟨fun tid _ => ?_, fun _ => hsame⟩
  rw [wp_bind_iff, wp_orElse_iff]
  refine ⟨fun remoteAddr _ => ?_, fun _ => hsame⟩
  rw [wp_bind_iff, wp_read_iff, wp_bind_iff, wp_orElse_iff]
  refine ⟨fun pubkey _ => ?_, fun _ => hsame⟩
  rw [wp_bind_iff, wp_attempt_iff, wp_allocate_iff]
  refine ⟨fun i hi => ?_, fun _ => hsame⟩
  have hfree := not_mem_of_allocateFrom hi
  have hback : Inv { n with allocatedIndices := (i :: n.allocatedIndices).erase i } :=
    h.congr rfl rfl (List.erase_cons_head ..) rfl rfl rfl
  rw [wp_bind_iff, wp_read_iff, wp_bind_iff, wp_attempt_iff, wp_pureCall_iff]
  refine ⟨fun started _ => ?_, fun e he => ?_⟩
  · obtain ⟨noiseMsg1, hs⟩ := started
    refine wp_bind_iff.mpr (wp_transmit env fun sent outbox => ?_)
    cases sent with
    | false => exact ⟨hback.congr rfl rfl rfl rfl rfl rfl, fun _ _ => rfl⟩
    | true =>
      obtain ⟨hidle, hnone⟩ := hclean p hp
      have htidy := h.peers a p hp
      have hslot : p.held .rekey = none := ActivePeer.Tidy.rekeyOurIndex_eq_none htidy hidle
      let started := p.setRekeyState hs i (buildMsg1 i noiseMsg1)
        (env.nowMs + n.config.handshakeResendIntervalMs)
      have htaken := h.takeSlot hp (s := .rekey) (q := started) hslot
        (ActivePeer.held_setRekeyState p hs i _ _)
        ⟨htidy.transport, htidy.pending, (fun _ => rfl), (fun _ => hnone)⟩ hfree
      refine ⟨htaken.congr (Map.modify_eq_insert hp _) rfl rfl rfl rfl rfl, fun b hab => ?_⟩
      exact Map.lookup_modify_ne n.peers (Ne.symm hab) _
  · cases e with
    | error e => exact ⟨hback, fun _ _ => rfl⟩
    | panic =>
      refine absurd he (noPanic_call ?_)
      exact HandshakeState.wp_writeMessage1 env.ephemeral rfl rfl

omit [Mmp ν] in
theorem inv_initiateRekeys (env : NodeAddr → LinkEnv SecretKey) (h : n.Inv) {addrs : List NodeAddr}
    (hnodup : addrs.Nodup) (hclean : ∀ a ∈ addrs, n.StartsCleanly a) :
    wp (initiateRekeys env addrs : M SecretKey PublicKey ν μ ε Unit) (fun _ n' => n'.Inv)
      (fun _ n' => n'.Inv) n := by
  induction addrs generalizing n with
  | nil => exact h
  | cons a addrs ih =>
    obtain ⟨ha, hnodup⟩ := List.nodup_cons.mp hnodup
    unfold initiateRekeys
    rw [wp_bind_iff]
    refine wp_mono (fun _ m hm => ?_) (fun _ _ hm => hm.1)
      (initiateRekey_spec (env a) h (hclean a List.mem_cons_self))
    obtain ⟨hm, hothers⟩ := hm
    refine ih hm hnodup fun b hb p hp => ?_
    refine hclean b (List.mem_cons_of_mem a hb) p ?_
    rw [← hothers b (fun heq => ha (heq ▸ hb))]
    exact hp

/-- **The tick**, where its cutovers and its drains find the index as they need it. -/
theorem inv_checkRekey (now : Nat) (env : NodeAddr → LinkEnv SecretKey) (h : n.Inv)
    (hcut : n.config.rekeyEnabled = true → ∀ a ∈ n.peersWhere wantsCutover, n.CutsCleanly a)
    (hdrain : n.config.rekeyEnabled = true →
      ∀ a ∈ n.peersWhere (wantsDrain now), n.DrainsCleanly a) :
    (checkRekey now env n : _ × Result ε Unit).1.Inv := by
  refine fst_of_wp ?_
  unfold checkRekey
  rw [wp_bind_iff, wp_read_iff]
  split_ifs with henabled
  · rw [wp_bind_iff, wp_write_iff, wp_bind_iff, wp_write_iff]
    have hwants : ∀ (want : ActivePeer SecretKey PublicKey ν → Bool) (a : NodeAddr),
        (∀ p, want p = true → wantsCutover p = false) → a ∈ n.peersWhere want →
        a ∉ n.peersWhere wantsCutover := by
      intro want a hwant ha hcut
      obtain ⟨p, hp, hwanted⟩ := mem_peersWhere_iff.mp ha
      obtain ⟨p', hp', hcutover⟩ := mem_peersWhere_iff.mp hcut
      obtain rfl : p = p' := Option.some.inj (hp.symm.trans hp')
      rw [hwant p hwanted] at hcutover
      cases hcutover
    have hcuts := inv_cutovers now h (nodup_peersWhere wantsCutover) (hcut henabled)
    have hdrains := inv_drains hcuts (nodup_peersWhere (n := n) (wantsDrain now)) fun a ha => by
      have hout := hwants (wantsDrain now) a (fun _ => not_wantsCutover_of_wantsDrain) ha
      intro p i tid hp
      rw [lookup_cutovers now hout] at hp
      intro hi htid tid' hreg
      rw [peersByIndex_cutovers] at hreg
      exact hdrain henabled a ha p i tid hp hi htid tid' hreg
    refine inv_initiateRekeys env hdrains (nodup_peersWhere _) fun a ha => ?_
    have hout := hwants (wantsRekey n.config now) a 
      (fun _ hwanted => (idle_of_wantsRekey hwanted).1) ha
    refine startsCleanly_drains _ fun p hp => ?_
    rw [lookup_cutovers now hout] at hp
    obtain ⟨p', hp', hwanted⟩ := mem_peersWhere_iff.mp ha
    obtain rfl : p = p' := Option.some.inj (hp.symm.trans hp')
    exact (idle_of_wantsRekey hwanted).2
  · exact h

omit [Sha256] [HkdfSha256] [ChaCha20Poly1305] [Secp256k1 SecretKey PublicKey] [Mmp ν] in
theorem inv_resendRekey (env : LinkEnv SecretKey) (h : n.Inv) (a : NodeAddr) :
    (resendRekey env a n : _ × Result ε Unit).1.Inv := by
  refine fst_of_wp (wp_body_of_wp ?_)
  rw [wp_bind_iff, wp_read_iff, wp_bind_iff, wp_orElse_iff]
  refine ⟨fun p hp => ?_, fun _ => h⟩
  rw [wp_bind_iff, wp_read_iff]
  split_ifs with hdue
  · exact h
  · rw [wp_bind_iff, wp_orElse_iff]
    refine ⟨fun msg1 _ => ?_, fun _ => h⟩
    rw [wp_bind_iff, wp_orElse_iff]
    refine ⟨fun tid _ => ?_, fun _ => h⟩
    rw [wp_bind_iff, wp_orElse_iff]
    refine ⟨fun remoteAddr _ => ?_, fun _ => h⟩
    split
    · rw [wp_bind_iff, wp_write_iff]
      have hmapped := h.mapPeer a (f := fun p => p.setMsg1NextResend
        (env.nowMs + n.config.handshakeResendIntervalMs)) fun _ => rfl
      exact hmapped.congr rfl rfl rfl rfl rfl rfl
    · exact h

end Crypto

end Tick

/-! ## Frames -/

section Frames

variable [ChaCha20Poly1305] [Mmp ν]
variable {n : LinkNode SecretKey PublicKey ν μ} {a : NodeAddr} {p : ActivePeer SecretKey PublicKey ν}
  {env : Env SecretKey} {packet : ReceivedPacket} {header : EncryptedHeader}

/-- What a frame needs of the books where it makes the node promote or remove a peer. A disconnect
gives the peer the transport of the frame first. -/
structure FrameClean (env : Env SecretKey) (packet : ReceivedPacket)
    (n : LinkNode SecretKey PublicKey ν μ) : Prop where
  flip : ∀ header a p, n.Names packet header a p →
    Node.flips (hasFlag header.flags FLAG_KEY_EPOCH) p.currentKBit p.pendingNewSession = true →
      p.previousOurIndex = none
  failed : ∀ header a p e, n.Names packet header a p → Node.LastFailure p →
    Node.opened (Node.followed env header p) (Node.linkFrame packet header) = some (.error e) →
      n.Homed p
  disconnected : ∀ header a p plaintext timestamp message, n.Names packet header a p →
    Node.opened (Node.followed env header p) (Node.linkFrame packet header) = some (.ok plaintext) →
    stripInnerHeader plaintext = .ok (timestamp, message) → Node.IsDisconnect message →
      n.PeerOnlyUnder p packet.transportId

omit [ChaCha20Poly1305] in
/-- Following the K-bit moves indices within the peer. -/
theorem held_followed {s : Slot} {i : SessionIndex} (h : (Node.followed env header p).held s = some i) :
    ∃ s', p.held s' = some i := by
  unfold Node.followed Node.kBitFollowed ActivePeer.handlePeerKbitFlip at h
  split_ifs at h
  · cases hpending : p.pendingNewSession with
    | none =>
      rw [hpending] at h
      exact ⟨s, h⟩
    | some session =>
      rw [hpending] at h
      cases s with
      | current => exact ⟨.pending, h⟩
      | rekey => exact ⟨.rekey, h⟩
      | pending => cases h
      | previous => exact ⟨.current, h⟩
  · exact ⟨s, h⟩

omit [ChaCha20Poly1305] in
theorem transportId_followed : (Node.followed env header p).transportId = p.transportId := by
  unfold Node.followed Node.kBitFollowed ActivePeer.handlePeerKbitFlip
  split_ifs
  · cases p.pendingNewSession <;> rfl
  · rfl

omit [ChaCha20Poly1305] in
theorem inv_followed (h : n.Inv) (hp : n.peers.lookup a = some p)
    (hflip : Node.flips (hasFlag header.flags FLAG_KEY_EPOCH) p.currentKBit p.pendingNewSession =
      true → p.previousOurIndex = none) :
    Inv { n with toNode := n.toNode.withPeer a (Node.followed env header p) } := by
  unfold Node.followed Node.kBitFollowed
  split_ifs with hflips
  · rw [← ActivePeer.cutoverToNewSession_eq]
    exact h.cutover hp (fun _ => hflip hflips) env.instant
  · exact h.insertPeer hp rfl (h.peers a p hp)

omit [ChaCha20Poly1305] in
/-- The transport an authentic frame came over becomes the peer's. -/
theorem inv_received (h : n.Inv) (hp : n.peers.lookup a = some p)
    (hflip : Node.flips (hasFlag header.flags FLAG_KEY_EPOCH) p.currentKBit p.pendingNewSession =
      true → p.previousOurIndex = none) (tid : TransportId) (addr : TransportAddr) :
    Inv { n with
      toNode := n.toNode.withPeer a ((Node.followed env header p).setCurrentAddr tid addr) } := by
  have hfollowed : Inv { n with toNode := n.toNode.withPeer a (Node.followed env header p) } :=
    inv_followed h hp hflip
  have htidy := hfollowed.peers a _ (AList.lookup_insert _)
  have hwritten := hfollowed.insertPeer (a := a)
    (q := (Node.followed env header p).setCurrentAddr tid addr) (AList.lookup_insert _)
    (funext fun s => by cases s <;> rfl) ⟨rfl, htidy.pending, htidy.rekey, htidy.exclusive⟩
  exact hwritten.congr (AList.insert_insert _).symm rfl rfl rfl rfl rfl

omit [ChaCha20Poly1305] [Mmp ν] in
/-- A peer that was written is removed. -/
theorem Inv.removeWritten {q : ActivePeer SecretKey PublicKey ν} {tid : TransportId}
    (h : Inv { n with toNode := n.toNode.withPeer a q }) {m : Node SecretKey PublicKey ν μ}
    (hm : (n.toNode.withPeer a q).SameBooks m) (htid : q.transportId = some tid)
    (honly : n.PeerOnlyUnder q tid) : Inv { n with toNode := Node.removeActivePeer a m } := by
  obtain ⟨q', hq', hbook⟩ := hm.lookup (AList.lookup_insert _)
  have htid' : q'.transportId = some tid := by
    unfold ActivePeer.book at hbook
    simp only [Prod.mk.injEq] at hbook
    exact hbook.2.2.2.2.1.trans htid
  refine (h.of_sameBooks hm).removePeer hq' htid' fun s i hi tid' hreg => ?_
  rw [ActivePeer.held_of_book hbook] at hi
  refine honly s i hi tid' ?_
  change m.peersByIndex.lookup (tid', i) ≠ none at hreg
  rw [hm.peersByIndex] at hreg
  exact hreg

variable [Sha256] [HkdfSha256] [Secp256k1 SecretKey PublicKey] [SessionMmp μ] (Signature : Type)
  [SchnorrSignature Signature]

/-- **Encrypted frames**, where the K-bit and a removal find the indices as they need them. -/
theorem inv_handleEncryptedFrame (env : Env SecretKey) (packet : ReceivedPacket) (h : n.Inv)
    (hclean : FrameClean env packet n) :
    (onNode (Node.handleEncryptedFrame env Signature packet) n).1.Inv := by
  obtain ⟨links, addrToLink, heq⟩ := onNode_eq (Node.handleEncryptedFrame env Signature packet) n
  rw [heq]
  refine Inv.withLinks (n := { n with
    toNode := (Node.handleEncryptedFrame env Signature packet n.toNode).1 }) ?_ links addrToLink
  have houtcome : Node.FrameOutcome env packet n.toNode
      (Node.handleEncryptedFrame env Signature packet n.toNode).1 :=
    Node.handleEncryptedFrame_outcome env Signature
  cases houtcome with
  | unread same => exact h.of_sameBooks same
  | forgotten key addr index gone same =>
    -- an index registered for a peer is held by it
    obtain ⟨s, hs⟩ := h.books.registered key.1 key.2 addr index
    cases (congrFun (slots_books_of_none gone) s).symm.trans hs
  | refused header addr p names same =>
    exact (inv_followed h names.peer (hclean.flip header addr p names)).of_sameBooks same
  | failed header addr p names last e closed m before same =>
    obtain ⟨tid, htid⟩ := Option.isSome_iff_exists.mp (h.peers addr p names.peer).transport
    have hhomed := hclean.failed header addr p e names last closed tid htid
    have hremoved := (inv_followed h names.peer (hclean.flip header addr p names)).removeWritten
      before (transportId_followed.trans htid) fun s i hi => by
        obtain ⟨s', hs'⟩ := held_followed hi
        exact hhomed s' i hs'
    exact hremoved.of_sameBooks same
  | received header addr p names same =>
    exact (inv_received h names.peer (hclean.flip header addr p names) _ _).of_sameBooks same
  | disconnected header addr p names plaintext timestamp message opens inner isDisconnect m before
      same =>
    have honly := hclean.disconnected header addr p plaintext timestamp message names opens inner
      isDisconnect
    have hremoved := (inv_received h names.peer (hclean.flip header addr p names)
      packet.transportId packet.remoteAddr).removeWritten before rfl fun s i hi => by
        obtain ⟨s', hs'⟩ := held_followed (s := s) (by cases s <;> exact hi)
        exact honly s' i hs'
    exact hremoved.of_sameBooks same

end Frames

end LinkNode

end Fips
