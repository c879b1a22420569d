import Fips.Node.Sample

/-!
# Frames that no session opens

Both frame handlers read the K-bit from the header, which nothing authenticates, and promote a
pending session before they decrypt. This module says what a frame that the AEAD refuses under every
session of the peer it names leaves behind.

## Results

* `handleEncryptedFrame_refused`, `handleEncryptedSessionMsg_refused`: the state after such a frame.
* `refused_frame_moves_nothing_iff`: it leaves the peer, or the session entry, as it was exactly when
  it does not flip the K-bit of a peer that holds a pending session. A link frame may also be the
  one that removes the peer.
* `flip_without_authentication`: one forged frame at each layer replaces the current session.
-/

open Checked

namespace Fips

/-! ## What a refused frame may change -/

/-- No session of the peer opens the frame. -/
def ActivePeer.RefusesAll {SecretKey PublicKey μ : Type} [ChaCha20Poly1305]
    (p : ActivePeer SecretKey PublicKey μ) (f : NoiseSession.Frame) : Prop :=
  (∀ s ∈ p.noiseSession, s.Refuses f) ∧ (∀ s ∈ p.pendingNewSession, s.Refuses f) ∧
    ∀ s ∈ p.previousSession, s.Refuses f

/-- No session of the entry opens the frame. -/
def SessionEntry.RefusesAll {SecretKey PublicKey μ : Type} [ChaCha20Poly1305]
    (e : SessionEntry SecretKey PublicKey μ) (f : NoiseSession.Frame) : Prop :=
  (∀ s ∈ e.current, s.Refuses f) ∧ (∀ s ∈ e.pendingNewSession, s.Refuses f) ∧
    ∀ s ∈ e.previousNoiseSession, s.Refuses f

/-- `p'` is `p` up to the counters of failures. -/
def ActivePeer.OnlyCounted {SecretKey PublicKey μ : Type}
    (p p' : ActivePeer SecretKey PublicKey μ) : Prop :=
  p' = { p with
    replaySuppressedCount := p'.replaySuppressedCount
    consecutiveDecryptFailures := p'.consecutiveDecryptFailures }

theorem ActivePeer.OnlyCounted.currentKBit {SecretKey PublicKey μ : Type}
    {p p' : ActivePeer SecretKey PublicKey μ} (h : p.OnlyCounted p') :
    p'.currentKBit = p.currentKBit := by
  unfold OnlyCounted at h
  rw [h]

namespace Node

variable {SecretKey PublicKey ν μ : Type}

/-- One more failure removes the peer. -/
def LastFailure (p : ActivePeer SecretKey PublicKey ν) : Prop :=
  DECRYPT_FAILURE_THRESHOLD ≤ p.consecutiveDecryptFailures + 1

/-- What is left of the peer `p` under its address: `p` up to the counters of failures, or nothing if
this was the failure that removes it. -/
def Unmoved (p : ActivePeer SecretKey PublicKey ν) :
    Option (ActivePeer SecretKey PublicKey ν) → Prop
  | some p' => p.OnlyCounted p'
  | none => LastFailure p

/-! ## The link layer -/

section Link

variable {n : Node SecretKey PublicKey ν μ} {addr : NodeAddr}
  {p : ActivePeer SecretKey PublicKey ν} {f : NoiseSession.Frame}

theorem peers_releaseIndex (n : Node SecretKey PublicKey ν μ) (tid : TransportId)
    (index : Option SessionIndex) : (n.releaseIndex tid index).peers = n.peers := by
  cases index <;> rfl

theorem peers_releaseIndices (n : Node SecretKey PublicKey ν μ)
    (peer : ActivePeer SecretKey PublicKey ν) : (n.releaseIndices peer).peers = n.peers := by
  unfold releaseIndices
  cases peer.transportId with
  | none => rfl
  | some tid =>
    simp only [peers_releaseIndex]
    cases peer.rekeyOurIndex <;> simp only [peers_releaseIndex]

theorem lookup_removeActivePeer (addr : NodeAddr) (n : Node SecretKey PublicKey ν μ) :
    (removeActivePeer addr n).peers.lookup addr = none := by
  unfold removeActivePeer
  cases h : n.peers.lookup addr with
  | none => exact h
  | some peer =>
    change ((Node.releaseIndices _ peer).peers).lookup addr = none
    rw [peers_releaseIndices]
    exact AList.lookup_erase addr n.peers

/-- One more failure on the books, or the end of the peer. -/
theorem handleDecryptFailure_counts (hp : n.peers.lookup addr = some p) :
    wp (handleDecryptFailure addr) (fun _ n' =>
      (LastFailure p → n'.peers.lookup addr = none) ∧
        (¬ LastFailure p → n'.peers.lookup addr = some p.incrementDecryptFailures))
      (fun _ _ => False) n := by
  have hcounted : (n.peers.modify addr (·.incrementDecryptFailures)).lookup addr =
      some p.incrementDecryptFailures := Map.lookup_modify_self hp _
  unfold handleDecryptFailure modifyPeer
  simp only [wp_bind_iff, wp_write_iff, wp_read_iff, hcounted]
  change wp (if DECRYPT_FAILURE_THRESHOLD ≤ p.consecutiveDecryptFailures + 1 then _ else _) _ _ _
  split_ifs with h
  · simp only [wp_bind_iff, wp_write_iff, emit]
    exact ⟨fun _ => lookup_removeActivePeer addr _, fun hn => absurd h hn⟩
  · exact ⟨fun hl => absurd hl h, fun _ => hcounted⟩

/-- The log of a failure is a counter. -/
theorem logDecryptFailure_counts (hp : n.peers.lookup addr = some p) (e : NoiseError) :
    wp (logDecryptFailure addr e) (fun _ n' => ∃ k,
      n'.peers.lookup addr = some { p with replaySuppressedCount := k }) (fun _ _ => False) n := by
  unfold logDecryptFailure
  split
  · refine ⟨p.replaySuppressedCount + 1, ?_⟩
    exact Map.lookup_modify_self hp _
  · exact ⟨p.replaySuppressedCount, hp⟩

variable [ChaCha20Poly1305]

/-- A peer whose current and draining sessions refuse the frame has one more failure. -/
theorem openLinkFrame_refused (hp : n.peers.lookup addr = some p)
    (hcurrent : ∀ s ∈ p.noiseSession, s.Refuses f)
    (hprevious : ∀ s ∈ p.previousSession, s.Refuses f) :
    wp (openLinkFrame addr f) (fun _ _ => False) (fun e n' => e = .error () ∧
      Unmoved p (n'.peers.lookup addr) ∧
        (p.noiseSession.isSome → LastFailure p → n'.peers.lookup addr = none)) n := by
  unfold openLinkFrame
  rw [wp_bind_iff, wp_expect_iff]
  refine ⟨fun p' hp' => ?_, fun hnone => absurd (hp.symm.trans hnone) (by simp)⟩
  obtain rfl : p = p' := Option.some.inj (hp.symm.trans hp')
  rw [wp_bind_iff, wp_orElse_iff]
  refine ⟨fun s hs => ?_, fun hnone => ⟨rfl, ?_, ?_⟩⟩
  · obtain ⟨e, hdec⟩ :=
      NoiseSession.decryptWithFallback_of_refuses (hcurrent s hs) hprevious
    rw [hdec]
    -- neither session moved, so the write is of the peer as it was
    have hsame : (n.peers.modify addr fun q =>
        { q with noiseSession := some s, previousSession := p.previousSession }).lookup addr =
        some p := by
      rw [Map.lookup_modify_self hp, ← hs]
    unfold modifyPeer
    simp only [wp_bind_iff, wp_write_iff]
    refine wp_mono (fun _ n₁ hcount => ?_) (fun _ _ h => h.elim)
      (logDecryptFailure_counts hsame e)
    obtain ⟨k, hk⟩ := hcount
    rw [wp_bind_iff]
    refine wp_mono (fun _ n₂ hfail => ?_) (fun _ _ h => h.elim)
      (handleDecryptFailure_counts hk)
    obtain ⟨hlast, hnot⟩ := hfail
    refine ⟨rfl, ?_, fun _ => hlast⟩
    by_cases h : LastFailure p
    · rw [hlast h]
      exact h
    · rw [hnot h]
      rfl
  · rw [hp]
    rfl
  · intro hsome
    rw [hnone] at hsome
    cases hsome

variable [Mmp ν]

/-- The peer after the K-bit of a frame was followed. -/
def kBitFollowed (p : ActivePeer SecretKey PublicKey ν) (kBit : Bool) (now : Nat) :
    ActivePeer SecretKey PublicKey ν :=
  if flips kBit p.currentKBit p.pendingNewSession then (p.handlePeerKbitFlip now).1 else p

omit [ChaCha20Poly1305] in
theorem followKBit_spec (env : Env SecretKey) (kBit : Bool) (hp : n.peers.lookup addr = some p) :
    wp (followKBit env addr kBit) (fun _ n' =>
      n'.peers.lookup addr = some (kBitFollowed p kBit env.instant)) (fun _ _ => False) n := by
  unfold followKBit
  rw [wp_bind_iff, wp_expect_iff]
  refine ⟨fun p' hp' => ?_, fun hnone => absurd (hp.symm.trans hnone) (by simp)⟩
  obtain rfl : p = p' := Option.some.inj (hp.symm.trans hp')
  unfold kBitFollowed
  split_ifs with h
  · rw [wp_bind_iff, wp_expect_iff]
    exact ⟨fun _ _ => Map.lookup_modify_self hp _,
      fun hnone => absurd (hp.symm.trans hnone) (by simp)⟩
  · exact hp

/-- A flip puts the pending session in front of the current one. -/
theorem kBitFollowed_refuses (kBit : Bool) (now : Nat) (h : p.RefusesAll f) :
    (∀ s ∈ (kBitFollowed p kBit now).noiseSession, s.Refuses f) ∧
      ∀ s ∈ (kBitFollowed p kBit now).previousSession, s.Refuses f := by
  obtain ⟨hcurrent, hpending, hprevious⟩ := h
  unfold kBitFollowed ActivePeer.handlePeerKbitFlip
  split_ifs with hflip
  · cases hp : p.pendingNewSession with
    | none => exact ⟨hcurrent, hprevious⟩
    | some s =>
      rw [hp] at hpending
      exact ⟨hpending, hcurrent⟩
  · exact ⟨hcurrent, hprevious⟩

omit [ChaCha20Poly1305] in
/-- A flip shows, and leaves a session to decrypt with. -/
theorem kBitFollowed_of_flips {kBit : Bool} (now : Nat)
    (h : flips kBit p.currentKBit p.pendingNewSession = true) :
    (kBitFollowed p kBit now).currentKBit = !p.currentKBit ∧
      (kBitFollowed p kBit now).noiseSession.isSome ∧
      (kBitFollowed p kBit now).consecutiveDecryptFailures = p.consecutiveDecryptFailures := by
  unfold kBitFollowed ActivePeer.handlePeerKbitFlip
  rw [if_pos h]
  cases hp : p.pendingNewSession with
  | none =>
    rw [hp] at h
    simp [flips] at h
  | some s => exact ⟨rfl, rfl, rfl⟩

end Link

/-- The frame names the peer `p`, by the receiver index of its header. -/
structure Names (n : Node SecretKey PublicKey ν μ) (packet : ReceivedPacket)
    (header : EncryptedHeader) (addr : NodeAddr) (p : ActivePeer SecretKey PublicKey ν) : Prop where
  parse : EncryptedHeader.parse packet.data = .ok header
  index : n.peersByIndex.lookup (packet.transportId, header.receiverIdx) = some addr
  peer : n.peers.lookup addr = some p

/-- What the sessions of the peer are asked to open. -/
def linkFrame (packet : ReceivedPacket) (header : EncryptedHeader) : NoiseSession.Frame :=
  ⟨packet.data.drop header.ciphertextOffset, header.counter, header.headerBytes⟩

section Frame

variable {n : Node SecretKey PublicKey ν μ} {addr : NodeAddr}
  {p : ActivePeer SecretKey PublicKey ν} {packet : ReceivedPacket} {header : EncryptedHeader}
variable [Sha256] [HkdfSha256] [ChaCha20Poly1305] [Secp256k1 SecretKey PublicKey] [Mmp ν]
  [SessionMmp μ] (Signature : Type) [SchnorrSignature Signature] (env : Env SecretKey)

/-- **A refused link frame.** The K-bit is followed; nothing else changes but the failures. -/
theorem handleEncryptedFrame_refused (h : n.Names packet header addr p)
    (hrefused : p.RefusesAll (linkFrame packet header)) :
    wp (handleEncryptedFrame env Signature packet) (fun _ n' =>
      let q := kBitFollowed p (hasFlag header.flags FLAG_KEY_EPOCH) env.instant
      Unmoved q (n'.peers.lookup addr) ∧
        (q.noiseSession.isSome → LastFailure q → n'.peers.lookup addr = none))
      (fun _ _ => False) n := by
  have hlen : header.ciphertextOffset ≤ packet.data.length :=
    le_trans (show 16 ≤ 32 by decide) (EncryptedHeader.length_of_parse h.parse)
  unfold handleEncryptedFrame
  rw [wp_body_iff, wp_bind_iff, h.parse, wp_orReturn_ok, wp_bind_iff, wp_read_iff, h.index,
    wp_bind_iff, wp_orElse_some, wp_bind_iff, wp_read_iff, h.peer]
  change wp (followKBit env addr _ >>= _) _ _ n
  rw [wp_bind_iff]
  refine wp_mono (fun _ n₁ hn₁ => ?_) (fun _ _ hf => hf.elim) (followKBit_spec env _ h.peer)
  rw [sliceFrom_of_le hlen, wp_bind_iff, wp_orReturn_ok, wp_bind_iff]
  obtain ⟨hcurrent, hprevious⟩ :=
    kBitFollowed_refuses (hasFlag header.flags FLAG_KEY_EPOCH) env.instant hrefused
  refine wp_mono (fun _ _ hf => hf.elim) (fun e n₂ ⟨he, hn₂⟩ => ?_)
    (openLinkFrame_refused hn₁ hcurrent hprevious)
  rw [he]
  exact hn₂

/-- A refused link frame leaves the peer as it was unless it flips its K-bit. -/
theorem unmoved_iff (h : n.Names packet header addr p)
    (hrefused : p.RefusesAll (linkFrame packet header)) :
    Unmoved p ((handleEncryptedFrame env Signature packet n).1.peers.lookup addr) ↔
      flips (hasFlag header.flags FLAG_KEY_EPOCH) p.currentKBit p.pendingNewSession = false ∨
        LastFailure p := by
  obtain ⟨hunmoved, hlast⟩ :=
    fst_of_wp_returns (handleEncryptedFrame_refused Signature env h hrefused)
  cases hflip : flips (hasFlag header.flags FLAG_KEY_EPOCH) p.currentKBit p.pendingNewSession with
  | false =>
    have hsame : kBitFollowed p (hasFlag header.flags FLAG_KEY_EPOCH) env.instant = p := by
      unfold kBitFollowed
      rw [hflip]
      rfl
    rw [hsame] at hunmoved
    exact iff_of_true hunmoved (.inl rfl)
  | true =>
    obtain ⟨hbit, hsome, hcount⟩ := kBitFollowed_of_flips env.instant hflip
    have hiff : LastFailure (kBitFollowed p (hasFlag header.flags FLAG_KEY_EPOCH) env.instant) ↔
        LastFailure p := by
      unfold LastFailure
      rw [hcount]
    by_cases hl : LastFailure p
    · rw [hlast hsome (hiff.mpr hl)]
      exact iff_of_true hl (.inr hl)
    · refine iff_of_false (fun hp => ?_) (by simp [hl])
      cases hlook : (handleEncryptedFrame env Signature packet n).1.peers.lookup addr with
      | none =>
        rw [hlook] at hunmoved
        exact hl (hiff.mp hunmoved)
      | some p' =>
        -- the K-bit of what is left cannot be both the old and the flipped one
        rw [hlook] at hunmoved hp
        have hnew : p'.currentKBit = !p.currentKBit :=
          (ActivePeer.OnlyCounted.currentKBit hunmoved).trans hbit
        rw [ActivePeer.OnlyCounted.currentKBit hp] at hnew
        simp at hnew

end Frame

/-! ## The session layer -/

section Session

variable {n : Node SecretKey PublicKey ν μ} {src : NodeAddr}
  {e : SessionEntry SecretKey PublicKey μ} {f : NoiseSession.Frame}

/-- The K-bit of an encrypted message and what the sessions of the entry are asked to open, where
header and coordinates parse. -/
def sessionFrame (payload : Bytes) : Option (Bool × NoiseSession.Frame) :=
  match FspEncryptedHeader.parse payload with
  | .error _ => none
  | .ok header =>
    match sessionCiphertext header payload with
    | .error _ => none
    | .ok (_, _, ciphertext) =>
      some (hasFlag header.flags FSP_FLAG_K, ⟨ciphertext, header.counter, header.headerBytes⟩)

variable [SessionMmp μ]

/-- The entry after the K-bit of a message was followed. -/
def entryFollowed (e : SessionEntry SecretKey PublicKey μ) (kBit : Bool) (nowMs instant : Nat) :
    SessionEntry SecretKey PublicKey μ :=
  if flips kBit e.currentKBit e.pendingNewSession then (e.handlePeerKbitFlip nowMs instant).1 else e

/-- An established entry has a session after a flip too, and both it and the one it drains refuse
what all three sessions refused. -/
theorem entryFollowed_refuses [ChaCha20Poly1305] (kBit : Bool) (nowMs instant : Nat)
    (hest : e.isEstablished = true) (h : e.RefusesAll f) :
    ∃ session, (entryFollowed e kBit nowMs instant).state = some (.established session) ∧
      session.Refuses f ∧
      ∀ s ∈ (entryFollowed e kBit nowMs instant).previousNoiseSession, s.Refuses f := by
  obtain ⟨hcurrent, hpending, hprevious⟩ := h
  obtain ⟨session, hstate⟩ := SessionEntry.isEstablished_iff.mp hest
  have hcur : e.current = some session := by
    unfold SessionEntry.current
    rw [hstate]
  unfold entryFollowed
  split_ifs with hflip
  · cases hp : e.pendingNewSession with
    | none =>
      rw [SessionEntry.handlePeerKbitFlip_of_none hp]
      exact ⟨session, hstate, hcurrent _ hcur, hprevious⟩
    | some s =>
      rw [SessionEntry.handlePeerKbitFlip_of_some hp]
      refine ⟨s, rfl, hpending s hp, ?_⟩
      change ∀ s ∈ e.current.or e.previousNoiseSession, s.Refuses f
      rw [hcur]
      intro s hs
      exact hcurrent s (hcur.trans hs)
  · exact ⟨session, hstate, hcurrent _ hcur, hprevious⟩

theorem entryFollowed_of_flips {kBit : Bool} (nowMs instant : Nat)
    (h : flips kBit e.currentKBit e.pendingNewSession = true) :
    (entryFollowed e kBit nowMs instant).currentKBit = !e.currentKBit := by
  unfold entryFollowed
  rw [if_pos h]
  cases hp : e.pendingNewSession with
  | none =>
    rw [hp] at h
    simp [flips] at h
  | some s =>
    rw [SessionEntry.handlePeerKbitFlip_of_some hp]
    rfl

variable [ChaCha20Poly1305] (env : Env SecretKey)

/-- What `openSessionFrame` does once the K-bit is followed. -/
def openTakenSession (src : NodeAddr) (f : NoiseSession.Frame) : Handler SecretKey PublicKey ν μ Bytes := do
  let entry ← takeSession src
  match entry.state with
  | none => crash
  | some (.established session) => do
    let (session, previous, plaintext) :=
      session.decryptWithFallback entry.previousNoiseSession f
    putSession src
      { entry with state := some (.established session), previousNoiseSession := previous }
    orReturn (ofExcept plaintext)
  | some _ => do
    putSession src entry
    stop ()

/-- An established entry whose sessions refuse the frame. -/
theorem openSessionFrame_refused (kBit : Bool) (he : n.sessions.lookup src = some e)
    (hrefused : e.RefusesAll f) :
    wp (openSessionFrame env src kBit f) (fun _ _ => False) (fun err n' => err = .error () ∧
      n'.sessions.lookup src =
        some (if e.isEstablished then entryFollowed e kBit env.nowMs env.instant else e)) n := by
  unfold openSessionFrame
  rw [wp_bind_iff, wp_read_iff, he, wp_bind_iff, wp_orElse_some]
  cases hest : e.isEstablished with
  | false => exact ⟨rfl, he⟩
  | true =>
    change wp (expect _ >>= _) _ _ n
    rw [wp_bind_iff, wp_expect_iff]
    refine ⟨fun e' he' => ?_, fun hnone => absurd (he.symm.trans hnone) (by simp)⟩
    obtain rfl : e = e' := Option.some.inj (he.symm.trans he')
    obtain ⟨session, hstate, hsession, hprevious⟩ :=
      entryFollowed_refuses kBit env.nowMs env.instant hest hrefused
    set q := entryFollowed e kBit env.nowMs env.instant with hq
    -- the rest runs from a state that holds the followed entry
    have hrest : ∀ n₁ : Node SecretKey PublicKey ν μ, n₁.sessions.lookup src = some q →
        wp (openTakenSession src f : Handler SecretKey PublicKey ν μ Bytes) (fun _ _ => False)
          (fun err n' => err = .error () ∧ n'.sessions.lookup src = some q) n₁ := by
      intro n₁ hn₁
      unfold openTakenSession
      rw [wp_bind_iff, wp_takeSession_iff]
      refine ⟨fun q' hq' => ?_, fun hnone => absurd (hn₁.symm.trans hnone) (by simp)⟩
      obtain rfl : q = q' := Option.some.inj (hn₁.symm.trans hq')
      obtain ⟨err, hdec⟩ := NoiseSession.decryptWithFallback_of_refuses hsession hprevious
      rw [hstate]
      change wp (let r := session.decryptWithFallback q.previousNoiseSession f
        (do
          putSession src { q with state := some (.established r.1), previousNoiseSession := r.2.1 }
          orReturn (ofExcept r.2.2) : Handler SecretKey PublicKey ν μ Bytes)) _ _ _
      rw [hdec]
      change wp (putSession src _ >>= _) _ _ _
      rw [wp_bind_iff, wp_putSession_iff, ← hstate]
      exact ⟨rfl, AList.lookup_insert _⟩
    by_cases hflip : flips kBit e.currentKBit e.pendingNewSession = true
    · rw [if_pos hflip, wp_bind_iff, wp_expect_iff]
      refine ⟨fun _ _ => hrest _ ?_, fun hnone => absurd (he.symm.trans hnone) (by simp)⟩
      rw [hq, entryFollowed, if_pos hflip]
      exact Map.lookup_modify_self he _
    · rw [if_neg hflip]
      refine hrest _ ?_
      rw [hq, entryFollowed, if_neg hflip]
      exact he

/-- **A refused session message.** The K-bit of an established entry is followed; nothing else
changes. -/
theorem handleEncryptedSessionMsg_refused {payload : Bytes} (pathMtu : Nat) (ceFlag : Bool)
    (he : n.sessions.lookup src = some e)
    (hrefused : ∀ r ∈ sessionFrame payload, e.RefusesAll r.2) :
    wp (handleEncryptedSessionMsg env src payload pathMtu ceFlag) (fun _ n' =>
      n'.sessions.lookup src = some (match sessionFrame payload with
        | none => e
        | some (kBit, _) =>
          if e.isEstablished then entryFollowed e kBit env.nowMs env.instant else e))
      (fun _ _ => False) n := by
  unfold handleEncryptedSessionMsg
  rw [wp_body_iff, wp_bind_iff]
  cases hparse : FspEncryptedHeader.parse payload with
  | error err =>
    have hframe : sessionFrame payload = none := by
      unfold sessionFrame
      rw [hparse]
    rw [hframe]
    cases err with
    | error _ => exact he
    | panic => exact FspEncryptedHeader.noPanic_parse payload hparse
  | ok header =>
    rw [wp_orReturn_ok, wp_bind_iff]
    cases hct : sessionCiphertext header payload with
    | error err =>
      have hframe : sessionFrame payload = none := by
        unfold sessionFrame
        rw [hparse]
        simp only [hct]
      rw [hframe]
      cases err with
      | error _ => exact he
      | panic => exact noPanic_sessionCiphertext hparse hct
    | ok r =>
      obtain ⟨srcCoords, destCoords, ciphertext⟩ := r
      have hframe : sessionFrame payload = some (hasFlag header.flags FSP_FLAG_K,
          ⟨ciphertext, header.counter, header.headerBytes⟩) := by
        unfold sessionFrame
        rw [hparse]
        simp only [hct]
      rw [hframe, wp_orReturn_ok]
      simp only [wp_bind_iff, wp_read_iff, wp_cacheCoords_iff]
      refine wp_mono (fun _ _ hf => hf.elim) (fun err n' hopened => ?_)
        (openSessionFrame_refused (n := { n with effects := _ }) env
          (hasFlag header.flags FSP_FLAG_K) he (hrefused _ hframe))
      obtain ⟨herr, hn'⟩ := hopened
      rw [herr]
      exact hn'

/-- A refused session message leaves the entry as it was unless it flips its K-bit. -/
theorem entry_unmoved_iff {payload : Bytes} (pathMtu : Nat) (ceFlag : Bool)
    (he : n.sessions.lookup src = some e)
    (hrefused : ∀ r ∈ sessionFrame payload, e.RefusesAll r.2) :
    (handleEncryptedSessionMsg env src payload pathMtu ceFlag n).1.sessions.lookup src = some e ↔
      ∀ r ∈ sessionFrame payload, e.isEstablished = true →
        flips r.1 e.currentKBit e.pendingNewSession = false := by
  rw [fst_of_wp_returns (handleEncryptedSessionMsg_refused env pathMtu ceFlag he hrefused)]
  cases sessionFrame payload with
  | none => simp
  | some r =>
    obtain ⟨kBit, f⟩ := r
    change some (if e.isEstablished then entryFollowed e kBit env.nowMs env.instant else e) =
      some e ↔ _
    simp only [Option.mem_some_iff, forall_eq']
    cases e.isEstablished with
    | false => simp
    | true =>
      rw [if_pos rfl]
      cases hflip : flips kBit e.currentKBit e.pendingNewSession with
      | false =>
        unfold entryFollowed
        rw [hflip]
        simp
      | true =>
        refine iff_of_false (fun heq => ?_) (by simp)
        have hbit := entryFollowed_of_flips env.nowMs env.instant hflip
        rw [Option.some.inj heq] at hbit
        simp at hbit

end Session

/-! ## Both layers -/

section Both

variable [Sha256] [HkdfSha256] [ChaCha20Poly1305] [Secp256k1 SecretKey PublicKey] [Mmp ν]
  [SessionMmp μ]

/-- **Which refused frames move nothing.** A link frame that no session of the peer it names opens
leaves the peer as it was, up to the failure counters and its removal at the threshold, exactly when
it does not flip the K-bit against a pending session or is the failure that removes the peer. A
session message that no session of the entry opens leaves the entry as it was exactly when it does
not flip the K-bit of an established entry against a pending session. -/
theorem refused_frame_moves_nothing_iff (Signature : Type) [SchnorrSignature Signature]
    (n : Node SecretKey PublicKey ν μ) (env : Env SecretKey) :
    (∀ packet header addr p, n.Names packet header addr p →
      p.RefusesAll (linkFrame packet header) →
      (Unmoved p ((handleEncryptedFrame env Signature packet n).1.peers.lookup addr) ↔
        flips (hasFlag header.flags FLAG_KEY_EPOCH) p.currentKBit p.pendingNewSession = false ∨
          LastFailure p)) ∧
    ∀ src payload pathMtu ceFlag e, n.sessions.lookup src = some e →
      (∀ r ∈ sessionFrame payload, e.RefusesAll r.2) →
      ((handleEncryptedSessionMsg env src payload pathMtu ceFlag n).1.sessions.lookup src = some e ↔
        ∀ r ∈ sessionFrame payload, e.isEstablished = true →
          flips r.1 e.currentKBit e.pendingNewSession = false) :=
  ⟨fun _ _ _ _ hnames hrefused => unmoved_iff Signature env hnames hrefused,
    fun _ _ pathMtu ceFlag _ he hrefused => entry_unmoved_iff env pathMtu ceFlag he hrefused⟩

end Both

end Node

/-! ## One forged frame -/

section Forged

open Sample Node

/-- A link frame with the K-bit set and an empty ciphertext under a tag of zeros. -/
def forgedFrame : ReceivedPacket where
  transportId := 0
  remoteAddr := []
  data := buildEstablishedHeader 5 0 FLAG_KEY_EPOCH 0 ++ List.replicate 16 0
  timestampMs := 0

/-- A session message of the same kind. -/
def forgedMessage : Bytes := buildFspHeader 0 FSP_FLAG_K 0 ++ List.replicate 16 0

/-- The peer holds a session of a rekey it has not cut over to. -/
def rekeyedPeer : ActivePeer Scalar Point Unit :=
  (peer 2 5 6 (session .responder 1 2 ⟨9⟩)).setPendingSession (session .responder 3 4 ⟨9⟩) 7 8

/-- A session whose rekey waits for the peer's cutover. -/
def rekeyedEntry : SessionEntry Scalar Point Unit :=
  (SessionEntry.new (addr 2) ⟨9⟩ (.established (session .responder 1 2 ⟨9⟩)) 0 false).setPendingSession
    (session .responder 3 4 ⟨9⟩)

/-- A node whose link and session with node 2 both have a pending key. -/
def rekeyedNode : Node Scalar Point Unit Unit :=
  { node 1 ⟨5⟩ with
    peers := AList.singleton (addr 2) rekeyedPeer
    peersByIndex := AList.singleton (0, 5) (addr 2)
    sessions := AList.singleton (addr 2) rekeyedEntry }

/-- The header of a frame that anyone can write: only its K-bit differs from what the peer would
send. -/
def forgedHeader : EncryptedHeader where
  flags := FLAG_KEY_EPOCH
  payloadLen := 0
  receiverIdx := 5
  counter := 0
  headerBytes := buildEstablishedHeader 5 0 FLAG_KEY_EPOCH 0

theorem forged_names : rekeyedNode.Names forgedFrame forgedHeader (addr 2) rekeyedPeer where
  parse := by decide
  index := by decide
  peer := rfl

theorem forged_refused : rekeyedPeer.RefusesAll (linkFrame forgedFrame forgedHeader) := by
  refine ⟨?_, ?_, ?_⟩
  · rintro _ ⟨⟩
    exact ⟨.decryptionFailed, by decide +kernel⟩
  · rintro _ ⟨⟩
    exact ⟨.decryptionFailed, by decide +kernel⟩
  · rintro _ ⟨⟩

theorem forged_session_refused : ∀ r ∈ sessionFrame forgedMessage, rekeyedEntry.RefusesAll r.2 := by
  have hframe : sessionFrame forgedMessage =
      some (true, ⟨List.replicate 16 0, 0, buildFspHeader 0 FSP_FLAG_K 0⟩) := by
    decide +kernel
  rw [hframe]
  rintro _ ⟨⟩
  refine ⟨?_, ?_, ?_⟩
  · rintro _ ⟨⟩
    exact ⟨.decryptionFailed, by decide +kernel⟩
  · rintro _ ⟨⟩
    exact ⟨.decryptionFailed, by decide +kernel⟩
  · rintro _ ⟨⟩

theorem forged_entry : rekeyedNode.sessions.lookup (addr 2) = some rekeyedEntry := rfl

theorem forged_flips : flips true rekeyedPeer.currentKBit rekeyedPeer.pendingNewSession = true := rfl

theorem forged_not_last : ¬ LastFailure rekeyedPeer := by
  unfold LastFailure DECRYPT_FAILURE_THRESHOLD
  change ¬ 20 ≤ 0 + 1
  decide

theorem forged_session_flips :
    ∃ r ∈ sessionFrame forgedMessage, rekeyedEntry.isEstablished = true ∧
      flips r.1 rekeyedEntry.currentKBit rekeyedEntry.pendingNewSession = true :=
  ⟨(true, ⟨List.replicate 16 0, 0, buildFspHeader 0 FSP_FLAG_K 0⟩), by decide +kernel, rfl, rfl⟩

/-- The two statements about the node that holds a pending session, a forged frame at each layer. -/
theorem refused_frame_moves_nothing_iff_forged :
    (Unmoved rekeyedPeer
        ((handleEncryptedFrame (env 1 1000 ⟨3⟩) Unit forgedFrame rekeyedNode).1.peers.lookup
          (addr 2)) ↔
      flips true false rekeyedPeer.pendingNewSession = false ∨ LastFailure rekeyedPeer) ∧
    ((handleEncryptedSessionMsg (env 1 1000 ⟨3⟩) (addr 2) forgedMessage 1280 false
        rekeyedNode).1.sessions.lookup (addr 2) = some rekeyedEntry ↔
      ∀ r ∈ sessionFrame forgedMessage, rekeyedEntry.isEstablished = true →
        flips r.1 rekeyedEntry.currentKBit rekeyedEntry.pendingNewSession = false) :=
  have h := refused_frame_moves_nothing_iff Unit rekeyedNode (env 1 1000 ⟨3⟩)
  ⟨h.1 _ _ _ _ forged_names forged_refused, h.2 _ _ _ _ _ forged_entry forged_session_refused⟩

/-- **A forged frame moves the sessions.** Nothing in it is authentic: no session of the peer opens
it, at either layer. -/
theorem flip_without_authentication :
    (rekeyedPeer.RefusesAll (linkFrame forgedFrame forgedHeader) ∧
      ¬ Unmoved rekeyedPeer
        ((handleEncryptedFrame (env 1 1000 ⟨3⟩) Unit forgedFrame rekeyedNode).1.peers.lookup
          (addr 2))) ∧
    (∀ r ∈ sessionFrame forgedMessage, rekeyedEntry.RefusesAll r.2) ∧
      (handleEncryptedSessionMsg (env 1 1000 ⟨3⟩) (addr 2) forgedMessage 1280 false
        rekeyedNode).1.sessions.lookup (addr 2) ≠ some rekeyedEntry := by
  refine ⟨⟨forged_refused, ?_⟩, forged_session_refused, ?_⟩
  · refine mt (unmoved_iff Unit _ forged_names forged_refused).mp (not_or.mpr ⟨?_, forged_not_last⟩)
    exact fun hflip => Bool.false_ne_true (hflip.symm.trans forged_flips)
  · refine mt (entry_unmoved_iff _ _ _ forged_entry forged_session_refused).mp fun hnot => ?_
    obtain ⟨r, hr, hest, hflip⟩ := forged_session_flips
    exact Bool.false_ne_true ((hnot r hr hest).symm.trans hflip)

end Forged

end Fips
