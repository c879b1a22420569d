import Fips.Node.LinkTables
import Fips.Node.RefusedFrame

/-!
# What an encrypted link frame does to the index bookkeeping

`handle_encrypted_frame` touches the link tables in few ways: it follows the K-bit of the peer the
frame names, takes the peer's address from an authentic frame, and removes the peer after the
twentieth failure or on a disconnect. `FrameOutcome` lists them; everything else a frame does leaves
the bookkeeping as it was (`SameBooks`).

## Results

* `handleEncryptedFrame_outcome`: every frame ends in one of the outcomes.
-/

open Checked

namespace Fips

/-- What the bookkeeping reads of a peer. -/
def ActivePeer.book {SecretKey PublicKey ν : Type} (p : ActivePeer SecretKey PublicKey ν) :=
  (p.ourIndex, p.rekeyOurIndex, p.pendingOurIndex, p.previousOurIndex, p.transportId,
    p.rekeyInProgress, p.pendingNewSession.isSome)

namespace Node

variable {SecretKey PublicKey ν μ : Type} {ε : Type}

/-- The bookkeeping of `n'` is that of `n`. -/
structure SameBooks (n n' : Node SecretKey PublicKey ν μ) : Prop where
  peers : ∀ a, (n'.peers.lookup a).map ActivePeer.book = (n.peers.lookup a).map ActivePeer.book
  peersByIndex : n'.peersByIndex = n.peersByIndex
  allocatedIndices : n'.allocatedIndices = n.allocatedIndices

section SameBooks

variable {n n' n'' : Node SecretKey PublicKey ν μ}

theorem SameBooks.refl (n : Node SecretKey PublicKey ν μ) : SameBooks n n := ⟨fun _ => rfl, rfl, rfl⟩

theorem SameBooks.trans (h : SameBooks n n') (h' : SameBooks n' n'') : SameBooks n n'' :=
  ⟨fun a => (h'.peers a).trans (h.peers a), h'.peersByIndex.trans h.peersByIndex,
    h'.allocatedIndices.trans h.allocatedIndices⟩

theorem sessionBlind_sameBooks (n : Node SecretKey PublicKey ν μ) : SessionBlind (SameBooks n) where
  sessions _ _ hn := ⟨hn.peers, hn.peersByIndex, hn.allocatedIndices⟩
  queues _ _ hn := ⟨hn.peers, hn.peersByIndex, hn.allocatedIndices⟩
  pings _ _ hn := ⟨hn.peers, hn.peersByIndex, hn.allocatedIndices⟩
  effect _ _ _ hn := ⟨hn.peers, hn.peersByIndex, hn.allocatedIndices⟩

/-- A change of a peer the bookkeeping does not read. -/
theorem sameBooks_modifyPeer (addr : NodeAddr)
    {f : ActivePeer SecretKey PublicKey ν → ActivePeer SecretKey PublicKey ν}
    (hf : ∀ p, (f p).book = p.book) :
    SameBooks n { n with peers := n.peers.modify addr f } := by
  refine ⟨fun a => ?_, rfl, rfl⟩
  change ((n.peers.modify addr f).lookup a).map ActivePeer.book = _
  rw [Map.lookup_modify]
  split_ifs with ha
  · cases n.peers.lookup a with
    | none => rfl
    | some p => exact congrArg some (hf p)
  · rfl

end SameBooks

/-- `peers.insert`. -/
def withPeer (n : Node SecretKey PublicKey ν μ) (addr : NodeAddr)
    (p : ActivePeer SecretKey PublicKey ν) : Node SecretKey PublicKey ν μ :=
  { n with peers := n.peers.insert addr p }

section WithPeer

variable {n m : Node SecretKey PublicKey ν μ} {addr : NodeAddr}
  {p q : ActivePeer SecretKey PublicKey ν}

/-- The last write counts. -/
theorem SameBooks.overwrite {p' : ActivePeer SecretKey PublicKey ν}
    (h : SameBooks (n.withPeer addr p') m) : SameBooks (n.withPeer addr p) (m.withPeer addr p) := by
  refine ⟨fun a => ?_, h.peersByIndex, h.allocatedIndices⟩
  have hsame := h.peers a
  unfold Node.withPeer at hsame ⊢
  simp only [Map.lookup_insert'] at hsame ⊢
  split_ifs at hsame ⊢
  · rfl
  · exact hsame

theorem SameBooks.lookup (h : SameBooks n m) (hp : n.peers.lookup addr = some p) :
    ∃ q, m.peers.lookup addr = some q ∧ q.book = p.book := by
  have hsame := h.peers addr
  rw [hp] at hsame
  exact Option.map_eq_some_iff.mp hsame

/-- Writing back what is there. -/
theorem sameBooks_withPeer (hp : n.peers.lookup addr = some p) : SameBooks (n.withPeer addr p) n := by
  refine ⟨fun a => ?_, rfl, rfl⟩
  unfold Node.withPeer
  rw [Map.lookup_insert']
  split_ifs with ha
  · rw [ha, hp]
  · rfl

/-- A change of one peer is a write of the changed peer. -/
theorem sameBooks_modify (hp : n.peers.lookup addr = some p)
    {f : ActivePeer SecretKey PublicKey ν → ActivePeer SecretKey PublicKey ν}
    (hf : (f p).book = q.book) :
    SameBooks (n.withPeer addr q) { n with peers := n.peers.modify addr f } := by
  refine ⟨fun a => ?_, rfl, rfl⟩
  unfold Node.withPeer
  simp only [Map.lookup_modify, Map.lookup_insert']
  split_ifs with ha
  · rw [ha, hp]
    exact congrArg some hf
  · rfl

end WithPeer

/-! ## Messages -/

/-- A well-formed disconnect. -/
def IsDisconnect (message : Bytes) : Prop :=
  ∃ payload d, message = 0x50 :: payload ∧ Disconnect.decode payload = .ok d

section Dispatch

variable (env : Env SecretKey) (Signature : Type) [SchnorrSignature Signature]

variable {I : Node SecretKey PublicKey ν μ → Prop}

theorem SessionBlind.keeps_handleAnnounce (h : SessionBlind I) {α : Type}
    (decode : Bytes → Result ProtocolError α) (src : NodeAddr) (msgType : UInt8) (payload : Bytes) :
    Keeps I (handleAnnounce decode src msgType payload : Handler SecretKey PublicKey ν μ Unit) :=
  Keeps.body <| (keeps_orReturn _).bind fun _ => h.keeps_emit rfl

theorem SessionBlind.keeps_handleLookupResponse (h : SessionBlind I) (src : NodeAddr)
    (payload : Bytes) :
    Keeps I (handleLookupResponse env Signature src payload :
      Handler SecretKey PublicKey ν μ Unit) :=
  Keeps.body <| (keeps_orReturn _).bind fun _ => Keeps.bind (h.keeps_emit rfl) fun _ =>
    Keeps.ite ((keeps_read _).bind fun _ => h.keeps_modifySession _ _) (keeps_pure _)

variable [Sha256] [HkdfSha256] [ChaCha20Poly1305] [Secp256k1 SecretKey PublicKey] [Mmp ν]
  [SessionMmp μ]

/-- A link message keeps what is blind to sessions and measurements, or is a disconnect. -/
theorem SessionBlind.dispatchLinkMessage_outcome (h : SessionBlind I)
    (hmeasured : ∀ n addr (g : ActivePeer SecretKey PublicKey ν → ν → ν), I n →
      I { n with peers := n.peers.modify addr fun p => p.mapMmp (g p) })
    (src : NodeAddr) (message : Bytes) (ceFlag : Bool) {n : Node SecretKey PublicKey ν μ}
    (hn : I n) :
    let n' := (dispatchLinkMessage env Signature src message ceFlag n).1
    I n' ∨ IsDisconnect message ∧ n' = removeActivePeer src n := by
  refine fst_of_wp (P := fun n' => I n' ∨ IsDisconnect message ∧ n' = removeActivePeer src n) ?_
  have hkept : ∀ {m : Handler SecretKey PublicKey ν μ Unit}, Keeps I m →
      wp m (fun _ n' => I n' ∨ IsDisconnect message ∧ n' = removeActivePeer src n)
        (fun _ n' => I n' ∨ IsDisconnect message ∧ n' = removeActivePeer src n) n :=
    fun hm => wp_of_fst (.inl (hm n hn))
  unfold dispatchLinkMessage
  refine wp_body_of_wp ?_
  cases message with
  | nil => exact .inl hn
  | cons msgType payload =>
    simp only [List.isEmpty_cons, Bool.false_eq_true, if_false]
    rw [wp_bind_iff, show (index (msgType :: payload) 0 : Result Unit UInt8) = .ok msgType from rfl,
      wp_orReturn_ok, wp_bind_iff, show (sliceFrom (msgType :: payload) 1 : Result Unit Bytes) =
        .ok payload by simp [sliceFrom], wp_orReturn_ok]
    split_ifs with h0 h1 h2 h3 h4 h5 h6 h7
    · exact hkept (h.keeps_handleSessionDatagram env _ _)
    · exact hkept (Keeps.body ((keeps_orReturn _).bind fun _ => keeps_pure _))
    · exact hkept (Keeps.body ((keeps_orReturn _).bind fun _ n hn => hmeasured n src _ hn))
    · exact hkept (h.keeps_handleAnnounce _ _ _ _)
    · exact hkept (h.keeps_handleAnnounce _ _ _ _)
    · exact hkept (h.keeps_handleAnnounce _ _ _ _)
    · exact hkept (h.keeps_handleLookupResponse env Signature _ _)
    · refine wp_body_of_wp ?_
      rw [wp_bind_iff, wp_orReturn_iff]
      refine ⟨fun d hd => .inr ⟨⟨payload, d, ?_, hd⟩, rfl⟩, fun _ => .inl hn, fun _ => .inl hn⟩
      rw [eq_of_beq h7]
    · exact .inl hn

/-- A link message leaves the bookkeeping alone, or is a disconnect. -/
theorem dispatchLinkMessage_outcome (src : NodeAddr) (message : Bytes) (ceFlag : Bool)
    (n : Node SecretKey PublicKey ν μ) :
    let n' := (dispatchLinkMessage env Signature src message ceFlag n).1
    SameBooks n n' ∨ IsDisconnect message ∧ n' = removeActivePeer src n :=
  (sessionBlind_sameBooks n).dispatchLinkMessage_outcome env Signature
    (fun _ addr _ hn => hn.trans (sameBooks_modifyPeer addr fun _ => rfl)) src message ceFlag
    (.refl n)

end Dispatch

/-! ## Frames -/

section Outcome

variable [ChaCha20Poly1305] [Mmp ν]

/-- What the sessions of a peer make of a frame. -/
def opened (p : ActivePeer SecretKey PublicKey ν) (f : NoiseSession.Frame) :
    Option (Except NoiseError Bytes) :=
  p.noiseSession.map fun s => (s.decryptWithFallback p.previousSession f).2.2

/-- The peer whose K-bit the frame was asked to follow. -/
def followed (env : Env SecretKey) (header : EncryptedHeader) (p : ActivePeer SecretKey PublicKey ν) :
    ActivePeer SecretKey PublicKey ν :=
  kBitFollowed p (hasFlag header.flags FLAG_KEY_EPOCH) env.instant

/-- What a frame may leave of the bookkeeping. -/
inductive FrameOutcome (env : Env SecretKey) (packet : ReceivedPacket)
    (n n' : Node SecretKey PublicKey ν μ) : Prop
  | unread (same : SameBooks n n')
  | forgotten (key : TransportId × SessionIndex) (addr : NodeAddr)
      (index : n.peersByIndex.lookup key = some addr) (gone : n.peers.lookup addr = none)
      (same : SameBooks { n with peersByIndex := n.peersByIndex.erase key } n')
  | refused (header : EncryptedHeader) (addr : NodeAddr) (p : ActivePeer SecretKey PublicKey ν)
      (names : n.Names packet header addr p)
      (same : SameBooks (n.withPeer addr (followed env header p)) n')
  | failed (header : EncryptedHeader) (addr : NodeAddr) (p : ActivePeer SecretKey PublicKey ν)
      (names : n.Names packet header addr p) (last : LastFailure p) (e : NoiseError)
      (closed : opened (followed env header p) (linkFrame packet header) = some (.error e))
      (m : Node SecretKey PublicKey ν μ)
      (before : SameBooks (n.withPeer addr (followed env header p)) m)
      (same : SameBooks (removeActivePeer addr m) n')
  | received (header : EncryptedHeader) (addr : NodeAddr) (p : ActivePeer SecretKey PublicKey ν)
      (names : n.Names packet header addr p)
      (same : SameBooks (n.withPeer addr
        ((followed env header p).setCurrentAddr packet.transportId packet.remoteAddr)) n')
  | disconnected (header : EncryptedHeader) (addr : NodeAddr)
      (p : ActivePeer SecretKey PublicKey ν) (names : n.Names packet header addr p)
      (plaintext : Bytes) (timestamp : Nat) (message : Bytes)
      (opens : opened (followed env header p) (linkFrame packet header) = some (.ok plaintext))
      (inner : stripInnerHeader plaintext = .ok (timestamp, message))
      (isDisconnect : IsDisconnect message) (m : Node SecretKey PublicKey ν μ)
      (before : SameBooks (n.withPeer addr
        ((followed env header p).setCurrentAddr packet.transportId packet.remoteAddr)) m)
      (same : SameBooks (removeActivePeer addr m) n')

end Outcome

section Frame

variable (env : Env SecretKey)
variable {n : Node SecretKey PublicKey ν μ} {packet : ReceivedPacket} {header : EncryptedHeader}
  {addr : NodeAddr} {p : ActivePeer SecretKey PublicKey ν}

theorem lastFailure_followed [Mmp ν] : LastFailure (followed env header p) ↔ LastFailure p := by
  unfold LastFailure followed kBitFollowed ActivePeer.handlePeerKbitFlip
  split_ifs
  · cases p.pendingNewSession <;> exact Iff.rfl
  · exact Iff.rfl

/-- Following the K-bit. -/
theorem followKBit_outcome [Mmp ν] (hp : n.peers.lookup addr = some p) :
    wp (followKBit env addr (hasFlag header.flags FLAG_KEY_EPOCH)) (fun _ n' =>
      n'.peers.lookup addr = some (followed env header p) ∧
        SameBooks (n.withPeer addr (followed env header p)) n') (fun _ _ => False) n := by
  unfold followKBit
  rw [wp_bind_iff, wp_expect_iff]
  refine ⟨fun p' hp' => ?_, fun hnone => absurd (hp.symm.trans hnone) (by simp)⟩
  obtain rfl : p = p' := Option.some.inj (hp.symm.trans hp')
  unfold followed kBitFollowed
  split_ifs with h
  · rw [wp_bind_iff, wp_expect_iff]
    refine ⟨fun _ _ => ⟨Map.lookup_modify_self hp _, sameBooks_modify hp rfl⟩, fun hnone => ?_⟩
    exact absurd (hp.symm.trans hnone) (by simp)
  · exact ⟨hp, sameBooks_withPeer hp⟩

/-- One more failure: counted, or the end of the peer. -/
theorem handleDecryptFailure_outcome (hp : n.peers.lookup addr = some p) :
    wp (handleDecryptFailure addr) (fun _ n' => SameBooks n n' ∨ LastFailure p ∧
      ∃ m, SameBooks n m ∧ SameBooks (removeActivePeer addr m) n') (fun _ _ => False) n := by
  have hcounted : (n.peers.modify addr (·.incrementDecryptFailures)).lookup addr =
      some p.incrementDecryptFailures := Map.lookup_modify_self hp _
  have hsame : SameBooks n { n with peers := n.peers.modify addr (·.incrementDecryptFailures) } :=
    sameBooks_modifyPeer addr fun p => rfl
  unfold handleDecryptFailure modifyPeer
  simp only [wp_bind_iff, wp_write_iff, wp_read_iff, hcounted]
  change wp (if DECRYPT_FAILURE_THRESHOLD ≤ p.consecutiveDecryptFailures + 1 then _ else _) _ _ _
  split_ifs with h
  · simp only [wp_bind_iff, wp_write_iff, emit]
    exact .inr ⟨h, _, hsame, ⟨fun a => rfl, rfl, rfl⟩⟩
  · exact .inl hsame

theorem logDecryptFailure_outcome (hp : n.peers.lookup addr = some p) (e : NoiseError) :
    wp (logDecryptFailure addr e) (fun _ n' => SameBooks n n' ∧
      ∃ k, n'.peers.lookup addr = some { p with replaySuppressedCount := k })
      (fun _ _ => False) n := by
  unfold logDecryptFailure
  split
  · exact ⟨sameBooks_modifyPeer addr fun p => rfl, _, Map.lookup_modify_self hp _⟩
  · exact ⟨.refl n, p.replaySuppressedCount, hp⟩

variable [ChaCha20Poly1305]

/-- Decrypting: the plaintext is what the sessions open, and a failure is counted. -/
theorem openLinkFrame_outcome (hp : n.peers.lookup addr = some p) (f : NoiseSession.Frame) :
    wp (openLinkFrame addr f)
      (fun plaintext n' => opened p f = some (.ok plaintext) ∧ SameBooks n n')
      (fun _ n' => SameBooks n n' ∨ LastFailure p ∧ (∃ e, opened p f = some (.error e)) ∧
        ∃ m, SameBooks n m ∧ SameBooks (removeActivePeer addr m) n') n := by
  unfold openLinkFrame
  rw [wp_bind_iff, wp_expect_iff]
  refine ⟨fun p' hp' => ?_, fun hnone => absurd (hp.symm.trans hnone) (by simp)⟩
  obtain rfl : p = p' := Option.some.inj (hp.symm.trans hp')
  rw [wp_bind_iff, wp_orElse_iff]
  refine ⟨fun s hs => ?_, fun _ => .inl (.refl n)⟩
  have hopened : opened p f = some (s.decryptWithFallback p.previousSession f).2.2 := by
    unfold opened
    rw [hs]
    rfl
  rw [hopened]
  rcases s.decryptWithFallback p.previousSession f with ⟨current, previous, plaintext⟩
  -- only the two sessions are written
  let written : ActivePeer SecretKey PublicKey ν :=
    { p with noiseSession := some current, previousSession := previous }
  have hwritten : (n.peers.modify addr fun q =>
      { q with noiseSession := some current, previousSession := previous }).lookup addr =
      some written :=
    Map.lookup_modify_self hp _
  have hsame : SameBooks n { n with peers := n.peers.modify addr fun q =>
      { q with noiseSession := some current, previousSession := previous } } :=
    sameBooks_modifyPeer addr fun p => rfl
  unfold modifyPeer
  rw [wp_bind_iff, wp_write_iff]
  cases plaintext with
  | ok plaintext =>
    exact ⟨rfl, hsame.trans (sameBooks_modifyPeer addr fun p => rfl)⟩
  | error e =>
    rw [wp_bind_iff]
    refine wp_mono (fun _ n₁ hlog => ?_) (fun _ _ h => h.elim) (logDecryptFailure_outcome hwritten e)
    obtain ⟨hlogged, k, hk⟩ := hlog
    rw [wp_bind_iff]
    have hlast : LastFailure { written with replaySuppressedCount := k } ↔ LastFailure p := Iff.rfl
    refine wp_mono (fun _ n₂ hfail => ?_) (fun _ _ h => h.elim) (handleDecryptFailure_outcome hk)
    rw [hlast] at hfail
    rw [wp_stop_iff]
    refine hfail.imp (fun h => (hsame.trans hlogged).trans h) fun h => ?_
    obtain ⟨hlast, m, hm, hremoved⟩ := h
    exact ⟨hlast, ⟨e, rfl⟩, m, (hsame.trans hlogged).trans hm, hremoved⟩

variable [Sha256] [HkdfSha256] [Secp256k1 SecretKey PublicKey] [Mmp ν] [SessionMmp μ]
  (Signature : Type) [SchnorrSignature Signature]

/-- **What a frame does to the bookkeeping.** -/
theorem handleEncryptedFrame_outcome :
    FrameOutcome env packet n (handleEncryptedFrame env Signature packet n).1 := by
  refine fst_of_wp (P := FrameOutcome env packet n) ?_
  unfold handleEncryptedFrame
  refine wp_body_of_wp ?_
  rw [wp_bind_iff, wp_orReturn_iff]
  refine ⟨fun header hparse => ?_, fun _ => .unread (.refl n), fun _ => .unread (.refl n)⟩
  rw [wp_bind_iff, wp_read_iff, wp_bind_iff, wp_orElse_iff]
  refine ⟨fun addr hindex => ?_, fun _ => .unread (.refl n)⟩
  rw [wp_bind_iff, wp_read_iff]
  cases hp : n.peers.lookup addr with
  | none => exact .forgotten _ addr hindex hp (.refl _)
  | some p =>
    have hnames : n.Names packet header addr p := ⟨hparse, hindex, hp⟩
    change wp (followKBit env addr _ >>= _) _ _ n
    rw [wp_bind_iff]
    refine wp_mono (fun _ n₁ hn₁ => ?_) (fun _ _ h => h.elim) (followKBit_outcome env hp)
    obtain ⟨hp₁, hfollowed⟩ := hn₁
    have hlen : header.ciphertextOffset ≤ packet.data.length :=
      le_trans (show 16 ≤ 32 by decide) (EncryptedHeader.length_of_parse hparse)
    rw [sliceFrom_of_le hlen, wp_bind_iff, wp_orReturn_ok, wp_bind_iff]
    refine wp_mono (fun plaintext n₂ hn₂ => ?_) (fun _ n₂ hn₂ => ?_)
      (openLinkFrame_outcome hp₁ (linkFrame packet header))
    · obtain ⟨hopens, hopen⟩ := hn₂
      rw [wp_bind_iff, wp_orReturn_iff]
      refine ⟨fun inner hinner => ?_, fun _ => .refused header addr p hnames (hfollowed.trans hopen),
        fun _ => .refused header addr p hnames (hfollowed.trans hopen)⟩
      obtain ⟨timestamp, message⟩ := inner
      obtain ⟨p₂, hp₂, hbook⟩ := hopen.lookup hp₁
      have hrecord : (recordFrame packet header timestamp env.instant p₂).book =
          ((followed env header p).setCurrentAddr packet.transportId packet.remoteAddr).book := by
        unfold ActivePeer.book at hbook ⊢
        simp only [Prod.mk.injEq] at hbook ⊢
        exact ⟨hbook.1, hbook.2.1, hbook.2.2.1, hbook.2.2.2.1, rfl, hbook.2.2.2.2.2⟩
      have hreceived : SameBooks
          (n.withPeer addr
            ((followed env header p).setCurrentAddr packet.transportId packet.remoteAddr))
          { n₂ with peers :=
              n₂.peers.modify addr (recordFrame packet header timestamp env.instant) } :=
        (hfollowed.trans hopen).overwrite.trans (sameBooks_modify hp₂ hrecord)
      refine wp_of_fst ?_
      rcases dispatchLinkMessage_outcome env Signature addr message (hasFlag header.flags FLAG_CE)
        { n₂ with peers := n₂.peers.modify addr (recordFrame packet header timestamp env.instant) }
        with hsame | ⟨hdisconnect, hremoved⟩
      · exact .received header addr p hnames (hreceived.trans hsame)
      · refine .disconnected header addr p hnames plaintext timestamp message hopens hinner
          hdisconnect _ hreceived ?_
        rw [← hremoved]
        exact .refl _
    · rcases hn₂ with hsame | ⟨hlast, ⟨e, he⟩, m, hm, hremoved⟩
      · exact .refused header addr p hnames (hfollowed.trans hsame)
      · exact .failed header addr p hnames ((lastFailure_followed env).mp hlast) e he m
          (hfollowed.trans hm) hremoved

end Frame

end Node

end Fips
