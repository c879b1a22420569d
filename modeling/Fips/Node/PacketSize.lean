import Fips.Node.PendingPackets
import Fips.Node.Sample
import Fips.Node.SessionRules
import Fips.Wire.CoordCodec

/-!
# The size of the frames of a packet

A packet from the TUN device becomes at most two link frames: a standalone warmup and the frame that
carries it, in front of whose ciphertext the coordinates may stand. `FIPS_OVERHEAD` is what the five
encoders on the way add to a message without coordinates; here it is computed from them.

`handle_tun_outbound` compares the packet with the path MTU of its session. The coordinates are
compared with the MTU of the node's transports (`session.rs:1300-1306`), and those of a standalone
warmup with nothing.

## Results

* `length_linkFrame`, `fitsIn_iff`: the size of a frame, from the encoders.
* `tunOutbound_fits_iff`: the frames of a packet keep within the path MTU exactly when the
  coordinates that go out with it do.
-/

open Checked

namespace Fips

variable {SecretKey PublicKey ν μ : Type}

/-! ## Encoders -/

@[simp] theorem length_buildEstablishedHeader (receiverIdx : SessionIndex) (counter : Nat)
    (flags : UInt8) (payloadLen : Nat) :
    (buildEstablishedHeader receiverIdx counter flags payloadLen).length =
      ESTABLISHED_HEADER_SIZE := by
  simp [buildEstablishedHeader, ESTABLISHED_HEADER_SIZE]

@[simp] theorem length_buildFspHeader (counter : Nat) (flags : UInt8) (payloadLen : Nat) :
    (buildFspHeader counter flags payloadLen).length = FSP_HEADER_SIZE := by
  simp [buildFspHeader, FSP_HEADER_SIZE]

@[simp] theorem length_fspPrependInnerHeader (timestampMs : Nat) (msgType innerFlags : UInt8)
    (payload : Bytes) : (fspPrependInnerHeader timestampMs msgType innerFlags payload).length =
      FSP_INNER_HEADER_SIZE + payload.length := by
  simp only [fspPrependInnerHeader, FSP_INNER_HEADER_SIZE, List.length_append, List.length_cons,
    List.length_nil, length_leBytes]

/-- The bytes in front of the payload of a datagram. -/
def SESSION_DATAGRAM_OVERHEAD : Nat := 36

theorem SessionDatagram.length_encode (d : SessionDatagram) :
    d.encode.length = SESSION_DATAGRAM_OVERHEAD + d.payload.length := by
  simp only [encode, List.length_append, List.length_cons, List.length_nil, length_leBytes,
    NodeAddr.length_bytes, SESSION_DATAGRAM_OVERHEAD]

/-- A compressed packet: 7 bytes for the 40 of the header. -/
theorem length_of_compressIpv6 {packet compressed : Bytes}
    (h : compressIpv6 packet = .ok compressed) : compressed.length + 33 = packet.length := by
  unfold compressIpv6 at h
  obtain ⟨_, hlen, h⟩ := bind_eq_ok.mp h
  obtain ⟨_, -, h⟩ := bind_eq_ok.mp h
  obtain ⟨_, -, h⟩ := bind_eq_ok.mp h
  obtain ⟨upper, hupper, h⟩ := bind_eq_ok.mp h
  obtain ⟨verTcFlow, hver, h⟩ := bind_eq_ok.mp h
  obtain ⟨nextHeader, -, h⟩ := bind_eq_ok.mp h
  obtain ⟨hopLimit, -, h⟩ := bind_eq_ok.mp h
  cases h
  obtain ⟨-, rfl⟩ := sliceFrom_eq_ok.mp hupper
  obtain ⟨-, hfour, rfl⟩ := slice_eq_ok.mp hver
  have hforty : 40 ≤ packet.length := atLeast_eq_ok.mp hlen
  simp only [List.length_append, List.length_cons, List.length_nil, List.length_take,
    List.length_drop, IPV6_HEADER_SIZE]
  omega

section Ciphers

variable [ChaCha20Poly1305]

/-- A cipher with a key adds the tag, and takes no more than a message may have. -/
theorem CipherState.length_of_encryptWithAad (haead : ChaCha20Poly1305.Lawful) {c : CipherState}
    (hkey : c.hasKey = true) {plaintext aad ciphertext : Bytes}
    (h : (c.encryptWithAad plaintext aad).2 = .ok ciphertext) :
    plaintext.length ≤ MAX_MESSAGE_SIZE - TAG_SIZE ∧
      ciphertext.length = plaintext.length + TAG_SIZE := by
  unfold encryptWithAad at h
  rw [if_neg (by simp [hkey])] at h
  by_cases hlen : MAX_MESSAGE_SIZE - TAG_SIZE < plaintext.length
  · rw [if_pos hlen] at h
    cases h
  · rw [if_neg hlen] at h
    refine ⟨Nat.not_lt.mp hlen, ?_⟩
    unfold nextNonce at h
    by_cases hnonce : c.nonce = U64_MAX
    · rw [if_pos hnonce] at h
      cases h
    · rw [if_neg hnonce] at h
      obtain ⟨c', hc', hlength, -⟩ := haead.decrypt_encrypt c.key (counterToNonce c.nonce) aad
        plaintext (Nat.not_lt.mp hlen)
      simp only [hc'] at h
      cases h
      exact hlength

end Ciphers

/-! ## Link frames -/

/-- `prepend_inner_header`. -/
def prependInnerHeader (timestampMs : Nat) (plaintext : Bytes) : Bytes :=
  leBytes 4 timestampMs ++ plaintext

theorem ok_of_mapError {ε ε' α : Type} {f : ε → ε'} {x : Except ε α} {a : α}
    (h : x.mapError f = .ok a) : x = .ok a := by
  cases x with
  | error e => cases h
  | ok b =>
    cases h
    rfl

section Frames

variable [ChaCha20Poly1305] [Mmp ν]

/-- The flag byte of a frame. -/
def linkFlags (peer : ActivePeer SecretKey PublicKey ν) (ceFlag : Bool) : UInt8 :=
  (if peer.mmp.any Mmp.txBit then FLAG_SP else 0) ||| (if ceFlag then FLAG_CE else 0) |||
    (if peer.currentKBit then FLAG_KEY_EPOCH else 0)

/-- `send_encrypted_link_message_with_ce` up to the transport: the frame for a peer. -/
def linkFrame (nodeAddr : NodeAddr) (peer : ActivePeer SecretKey PublicKey ν) (now : Nat)
    (plaintext : Bytes) (ceFlag : Bool) :
    Result SendError (TransportId × TransportAddr × Bytes) := do
  let theirIndex ← okOr (.sendFailed nodeAddr "no their_index") peer.theirIndex
  let transportId ← okOr (.sendFailed nodeAddr "no transport_id") peer.transportId
  let remoteAddr ← okOr (.sendFailed nodeAddr "no current_addr") peer.currentAddr
  let timestampMs := peer.sessionElapsedMs now
  let session ← okOr (.sendFailed nodeAddr "no noise session") peer.noiseSession
  let innerPlaintext := prependInnerHeader timestampMs plaintext
  let header := buildEstablishedHeader theirIndex session.currentSendCounter
    (linkFlags peer ceFlag) innerPlaintext.length
  let ciphertext ← Checked.ofExcept <|
    (session.encryptWithAad innerPlaintext header).2.mapError fun e =>
      SendError.sendFailed nodeAddr ("encryption failed: " ++ Node.noiseErrorText e)
  pure (transportId, remoteAddr, buildEncrypted header ciphertext)

/-- The peer has a link session with a key. -/
def ActivePeer.Keyed (peer : ActivePeer SecretKey PublicKey ν) : Prop :=
  ∃ session, peer.noiseSession = some session ∧ session.sendCipher.hasKey = true

/-- What a frame takes beside its message. -/
def LINK_OVERHEAD : Nat := ESTABLISHED_HEADER_SIZE + 4 + TAG_SIZE

theorem length_linkFrame (haead : ChaCha20Poly1305.Lawful) {nodeAddr : NodeAddr}
    {peer : ActivePeer SecretKey PublicKey ν} {now : Nat} {plaintext : Bytes} {ceFlag : Bool}
    {transportId : TransportId} {remoteAddr : TransportAddr} {frame : Bytes} (hkeyed : peer.Keyed)
    (h : linkFrame nodeAddr peer now plaintext ceFlag = .ok (transportId, remoteAddr, frame)) :
    frame.length = LINK_OVERHEAD + plaintext.length := by
  obtain ⟨session, hsession, hkey⟩ := hkeyed
  unfold linkFrame at h
  rw [hsession] at h
  obtain ⟨_, -, h⟩ := bind_eq_ok.mp h
  obtain ⟨_, -, h⟩ := bind_eq_ok.mp h
  obtain ⟨_, -, h⟩ := bind_eq_ok.mp h
  obtain ⟨_, hsome, h⟩ := bind_eq_ok.mp h
  cases hsome
  obtain ⟨ciphertext, hsealed, h⟩ := bind_eq_ok.mp h
  cases h
  have hlength := (CipherState.length_of_encryptWithAad haead hkey
    (ok_of_mapError (ofExcept_eq_ok.mp hsealed))).2
  rw [prependInnerHeader, List.length_append, length_leBytes] at hlength
  rw [buildEncrypted, List.length_append, length_buildEstablishedHeader, hlength, LINK_OVERHEAD]
  omega

/-- A message of any size that the cipher takes has a frame. -/
theorem exists_linkFrame (haead : ChaCha20Poly1305.Lawful) {nodeAddr : NodeAddr}
    {peer : ActivePeer SecretKey PublicKey ν} {session : NoiseSession PublicKey}
    {theirIndex : SessionIndex} {transportId : TransportId} {remoteAddr : TransportAddr}
    (hindex : peer.theirIndex = some theirIndex) (htransport : peer.transportId = some transportId)
    (haddr : peer.currentAddr = some remoteAddr) (hsession : peer.noiseSession = some session)
    (hkey : session.sendCipher.hasKey = true) (hnonce : session.sendCipher.nonce ≠ U64_MAX)
    (now : Nat) {plaintext : Bytes} (hlen : 4 + plaintext.length ≤ MAX_MESSAGE_SIZE - TAG_SIZE)
    (ceFlag : Bool) : ∃ frame, linkFrame nodeAddr peer now plaintext ceFlag =
      .ok (transportId, remoteAddr, frame) := by
  have hinner : (prependInnerHeader (peer.sessionElapsedMs now) plaintext).length ≤
      MAX_MESSAGE_SIZE - TAG_SIZE := by
    rwa [prependInnerHeader, List.length_append, length_leBytes]
  have hseal : ∀ aad, ∃ ciphertext, (session.encryptWithAad
      (prependInnerHeader (peer.sessionElapsedMs now) plaintext) aad).2 = .ok ciphertext := by
    intro aad
    obtain ⟨ciphertext, hciphertext, -⟩ := haead.decrypt_encrypt session.sendCipher.key
      (CipherState.counterToNonce session.sendCipher.nonce) aad _ hinner
    refine ⟨ciphertext, ?_⟩
    unfold NoiseSession.encryptWithAad CipherState.encryptWithAad CipherState.nextNonce
    rw [if_neg (by simp [hkey]), if_neg (Nat.not_lt.mpr hinner), if_neg hnonce]
    simp only [hciphertext]
  unfold linkFrame
  rw [hindex, htransport, haddr, hsession]
  obtain ⟨ciphertext, hciphertext⟩ := hseal (buildEstablishedHeader theirIndex
    session.currentSendCounter (linkFlags peer ceFlag)
    (prependInnerHeader (peer.sessionElapsedMs now) plaintext).length)
  refine ⟨buildEncrypted (buildEstablishedHeader theirIndex session.currentSendCounter
    (linkFlags peer ceFlag) (prependInnerHeader (peer.sessionElapsedMs now) plaintext).length)
    ciphertext, ?_⟩
  refine bind_eq_ok.mpr ⟨_, rfl, bind_eq_ok.mpr ⟨_, rfl, bind_eq_ok.mpr ⟨_, rfl, ?_⟩⟩⟩
  refine bind_eq_ok.mpr ⟨_, rfl, bind_eq_ok.mpr ⟨ciphertext, ?_, rfl⟩⟩
  rw [hciphertext]
  rfl

/-- A frame that the link may carry this message in. -/
def IsLinkFrame (ν : Type) [Mmp ν] (SecretKey PublicKey : Type) (message frame : Bytes) : Prop :=
  ∃ (nodeAddr : NodeAddr) (peer : ActivePeer SecretKey PublicKey ν) (now : Nat) (ceFlag : Bool)
    (transportId : TransportId) (remoteAddr : TransportAddr), peer.Keyed ∧
      linkFrame nodeAddr peer now message ceFlag = .ok (transportId, remoteAddr, frame)

/-- A message that is sent was put into a frame for a peer with a keyed session. -/
def SendsFrames (ν : Type) [Mmp ν] (PublicKey : Type) (env : Env SecretKey) : Prop :=
  ∀ nextHop message, env.sendLinkMessage nextHop message = .ok () →
    ∃ frame, IsLinkFrame ν SecretKey PublicKey message frame

/-- The frames of a message of the session layer have at most `m` bytes, and the lengths that the
two encoders cast to 16 bits are within them. -/
structure FitsIn (ν : Type) [Mmp ν] (SecretKey PublicKey : Type) (m : Nat) (message : Bytes) : Prop
    where
  size : ∀ frame, IsLinkFrame ν SecretKey PublicKey message frame → frame.length ≤ m
  linkLength : 4 + message.length ≤ U16_MAX
  sessionLength : ∃ (d : SessionDatagram) (counter : Nat) (flags : UInt8) (payloadLen : Nat)
    (coords ciphertext : Bytes), message = d.encode ∧
      d.payload = buildFspHeader counter flags payloadLen ++ coords ++ ciphertext ∧
      ciphertext.length = payloadLen + TAG_SIZE ∧ payloadLen ≤ U16_MAX

/-- **The overhead** is what the encoders add: a frame within `m` is one whose body and coordinates
leave room for it. -/
theorem fitsIn_iff (haead : ChaCha20Poly1305.Lawful) {m : Nat} (hm : m ≤ U16_MAX)
    {d : SessionDatagram} {counter timestamp : Nat} {flags msgType innerFlags : UInt8}
    {coords body ciphertext : Bytes}
    (hframe : ∃ frame, IsLinkFrame ν SecretKey PublicKey d.encode frame)
    (hpayload : d.payload = buildFspHeader counter flags
      (fspPrependInnerHeader timestamp msgType innerFlags body).length ++ coords ++ ciphertext)
    (hcipher : ciphertext.length =
      (fspPrependInnerHeader timestamp msgType innerFlags body).length + TAG_SIZE)
    (hmax : (fspPrependInnerHeader timestamp msgType innerFlags body).length ≤ U16_MAX) :
    FitsIn ν SecretKey PublicKey m d.encode ↔
      Node.FIPS_OVERHEAD + coords.length + body.length ≤ m := by
  have hmessage : LINK_OVERHEAD + d.encode.length =
      Node.FIPS_OVERHEAD + coords.length + body.length := by
    rw [d.length_encode, hpayload, List.length_append, List.length_append, hcipher,
      length_buildFspHeader, length_fspPrependInnerHeader]
    unfold LINK_OVERHEAD SESSION_DATAGRAM_OVERHEAD ESTABLISHED_HEADER_SIZE FSP_HEADER_SIZE
      FSP_INNER_HEADER_SIZE TAG_SIZE Node.FIPS_OVERHEAD
    omega
  have hsize : ∀ frame, IsLinkFrame ν SecretKey PublicKey d.encode frame →
      frame.length = Node.FIPS_OVERHEAD + coords.length + body.length := by
    rintro frame ⟨_, _, _, _, _, _, hkeyed, hlink⟩
    exact (length_linkFrame haead hkeyed hlink).trans hmessage
  constructor
  · intro h
    obtain ⟨frame, hlink⟩ := hframe
    exact hsize frame hlink ▸ h.size frame hlink
  · intro h
    refine ⟨fun frame hlink => (hsize frame hlink).trans_le h, ?_, d, counter, flags, _, coords,
      ciphertext, rfl, hpayload, hcipher, hmax⟩
    unfold LINK_OVERHEAD ESTABLISHED_HEADER_SIZE at hmessage
    omega

end Frames

namespace Node

variable [ChaCha20Poly1305] [Mmp ν] [SessionMmp μ]

/-! ## What a sender adds -/

/-- The session with `dest` is established and has a key. -/
def KeyedAt (dest : NodeAddr) (n : Node SecretKey PublicKey ν μ) : Prop :=
  ∃ e session, n.sessions.lookup dest = some e ∧ e.state = some (.established session) ∧
    session.sendCipher.hasKey = true

omit [Mmp ν] in
theorem sendRules_keyedAt (dest : NodeAddr) :
    SendRules (fun _ _ => True) (KeyedAt dest : Node SecretKey PublicKey ν μ → Prop) where
  note n addr f hf := by
    rintro ⟨e, session, he, hstate, hkey⟩
    by_cases haddr : dest = addr
    · subst haddr
      exact ⟨f e, session, Map.lookup_modify_self he f, (hf e).state.trans hstate, hkey⟩
    · exact ⟨e, session, (Map.lookup_modify_ne _ haddr f).trans he, hstate, hkey⟩
  advance n addr e session inner header he hstate := by
    rintro ⟨e', session', he', hstate', hkey⟩
    by_cases haddr : dest = addr
    · subst haddr
      cases he.symm.trans he'
      cases hstate.symm.trans hstate'
      exact ⟨_, _, AList.lookup_insert _, rfl, (CipherState.hasKey_encryptWithAad _ _ _).trans hkey⟩
    · exact ⟨e', session', (AList.lookup_insert_ne haddr).trans he', hstate', hkey⟩
  frame n nextHop d e counter flags len tail he hestablished hpayload hflags h := h

/-- From `n` to `n'` messages were sent, and all of them fit `m` exactly under `cond`. -/
def SentFitsIff (m : Nat) (cond : Prop) (n n' : Node SecretKey PublicKey ν μ) : Prop :=
  ∃ new, n'.effects = n.effects ++ new ∧
    ((∀ nextHop message ceFlag, Effect.sentLinkMessage nextHop message ceFlag ∈ new →
      FitsIn ν SecretKey PublicKey m message) ↔ cond)

section Adding

variable {m : Nat} {c c' : Prop} {n n' n'' : Node SecretKey PublicKey ν μ}

omit [SessionMmp μ] in
theorem sentFitsIff_nothing (heffects : n'.effects = n.effects) (hc : c) : SentFitsIff m c n n' :=
  ⟨[], heffects.trans (List.append_nil _).symm,
    ⟨fun _ => hc, fun _ _ _ _ hmem => absurd hmem List.not_mem_nil⟩⟩

omit [SessionMmp μ] in
theorem sentFitsIff_one {nextHop : NodeAddr} {message : Bytes} {ceFlag : Bool}
    (heffects : n'.effects = n.effects ++ [.sentLinkMessage nextHop message ceFlag])
    (hc : FitsIn ν SecretKey PublicKey m message ↔ c) : SentFitsIff m c n n' := by
  refine ⟨_, heffects, fun hall => hc.mp (hall _ _ _ (List.mem_singleton.mpr rfl)), ?_⟩
  intro h _ _ _ hmem
  cases List.mem_singleton.mp hmem
  exact hc.mpr h

omit [SessionMmp μ] in
theorem SentFitsIff.trans (h : SentFitsIff m c n n') (h' : SentFitsIff m c' n' n'') :
    SentFitsIff m (c ∧ c') n n'' := by
  obtain ⟨new, heffects, hiff⟩ := h
  obtain ⟨new', heffects', hiff'⟩ := h'
  refine ⟨new ++ new', by rw [heffects', heffects, List.append_assoc], ?_, ?_⟩
  · intro hall
    refine ⟨hiff.mp fun hop msg ce hmem => ?_, hiff'.mp fun hop msg ce hmem => ?_⟩
    · exact hall hop msg ce (List.mem_append_left _ hmem)
    · exact hall hop msg ce (List.mem_append_right _ hmem)
  · rintro ⟨hc, hc'⟩ hop msg ce hmem
    rcases List.mem_append.mp hmem with hnew | hnew
    · exact hiff.mpr hc hop msg ce hnew
    · exact hiff'.mpr hc' hop msg ce hnew

omit [SessionMmp μ] in
theorem SentFitsIff.of_iff (h : SentFitsIff m c n n') (hc : c ↔ c') : SentFitsIff m c' n n' := by
  obtain ⟨new, heffects, hiff⟩ := h
  exact ⟨new, heffects, hiff.trans hc⟩

end Adding

section Sending

variable (env : Env SecretKey) {m : Nat} {n : Node SecretKey PublicKey ν μ} {dest : NodeAddr}

/-- **One sealed frame** fits if it goes out at all and its coordinates and body leave room for the
overhead. -/
theorem wp_sendSealed_fits (haead : ChaCha20Poly1305.Lawful) (hframes : SendsFrames ν PublicKey env)
    (hm : m ≤ U16_MAX) (hkeyed : KeyedAt dest n) {flags msgType innerFlags : UInt8}
    {timestamp : Nat} {coords body : Bytes} {P : Node SecretKey PublicKey ν μ → Prop}
    (hP : ∀ n', SentFitsIff m (SealedGoesOut env n dest flags coords
      (fspPrependInnerHeader timestamp msgType innerFlags body) →
        FIPS_OVERHEAD + coords.length + body.length ≤ m) n n' → P n') :
    wp (sendSealed env dest flags timestamp coords
        (fspPrependInnerHeader timestamp msgType innerFlags body) :
        M SecretKey PublicKey ν μ SendError Unit) (fun _ => P) (fun _ => P) n := by
  obtain ⟨e, session, he, hstate, hkey⟩ := hkeyed
  refine wp_mono (fun _ n' hn' => hP n' ?_) (fun _ n' hn' => hP n' ?_)
    (wp_sendSealed_effects env dest flags timestamp coords _)
  · obtain ⟨payload, nextHop, d, hpayload, hreaches, -, -, rfl, hsend, heffects⟩ := hn'
    have hout : SealedGoesOut env n dest flags coords _ := ⟨_, hpayload, hreaches⟩
    rw [sealedPayload_eq he hstate] at hpayload
    obtain ⟨ciphertext, hsealed, hd⟩ := Option.map_eq_some_iff.mp hpayload
    have hlength := CipherState.length_of_encryptWithAad haead hkey (ok_of_toOption hsealed)
    refine sentFitsIff_one heffects ?_
    rw [fitsIn_iff haead hm (hframes _ _ hsend) hd.symm hlength.2 ?_]
    · exact ⟨fun h _ => h, fun h => h hout⟩
    · exact hlength.1.trans (Nat.sub_le _ _)
  · exact sentFitsIff_nothing hn'.1 fun hout => absurd hout hn'.2

/-- What a data packet seals. -/
def dataInner (env : Env SecretKey) (e : SessionEntry SecretKey PublicKey μ) (srcPort dstPort : Nat)
    (payload : Bytes) : Bytes :=
  fspPrependInnerHeader (e.sessionTimestamp env.nowMs) SessionMessageType.dataPacket.toByte
    (spinFlags e) (leBytes 2 srcPort ++ leBytes 2 dstPort ++ payload)

/-- The coordinates that go out with a data packet leave room for it in frames of `m` bytes: those
in its own frame, and those of the standalone warmup before it. -/
structure WarmupFits (env : Env SecretKey) (m : Nat) (n : Node SecretKey PublicKey ν μ)
    (dest : NodeAddr) (e : SessionEntry SecretKey PublicKey μ) (srcPort dstPort : Nat)
    (payload : Bytes) : Prop where
  piggybacked : 0 < e.coordsWarmupRemaining → dataSize env dest payload ≤ env.transportMtu →
    SealedGoesOut env n dest (FSP_FLAG_CP ||| (if e.currentKBit then FSP_FLAG_K else 0))
      (coordPair env dest) (dataInner env e srcPort dstPort payload) → dataSize env dest payload ≤ m
  standalone : 0 < e.coordsWarmupRemaining → env.transportMtu < dataSize env dest payload →
    WarmupGoesOut env n dest →
    FIPS_OVERHEAD + (coordsWireSize env.myCoords + coordsWireSize (env.destCoords dest)) ≤ m

omit [Mmp ν] [SessionMmp μ] in
/-- What a sealed frame is and where it goes depends on the session alone. -/
theorem sealedGoesOut_modify {e : SessionEntry SecretKey PublicKey μ}
    {f : SessionEntry SecretKey PublicKey μ → SessionEntry SecretKey PublicKey μ}
    (he : n.sessions.lookup dest = some e) (hf : (f e).state = e.state) (flags : UInt8)
    (coords inner : Bytes) :
    SealedGoesOut env { n with sessions := n.sessions.modify dest f } dest flags coords inner ↔
      SealedGoesOut env n dest flags coords inner := by
  have hpayload : sealedPayload { n with sessions := n.sessions.modify dest f } dest flags coords
      inner = sealedPayload n dest flags coords inner := by
    unfold sealedPayload SessionEntry.current
    rw [Map.lookup_modify_self he f, he, Option.bind_eq_bind, Option.bind_some,
      Option.bind_eq_bind, Option.bind_some, hf]
  unfold SealedGoesOut
  rw [hpayload]
  rfl

/-- A standalone warmup fits if it goes out at all and the coordinates leave room for the
overhead. -/
theorem wp_sendCoordsWarmup_fits (haead : ChaCha20Poly1305.Lawful)
    (hframes : SendsFrames ν PublicKey env) (hm : m ≤ U16_MAX) (hkeyed : KeyedAt dest n)
    {P : Node SecretKey PublicKey ν μ → Prop}
    (hP : ∀ n', SentFitsIff m (WarmupGoesOut env n dest → FIPS_OVERHEAD +
      (coordsWireSize env.myCoords + coordsWireSize (env.destCoords dest)) ≤ m) n n' → P n') :
    wp (sendCoordsWarmup env dest : M SecretKey PublicKey ν μ SendError Unit) (fun _ => P)
      (fun _ => P) n := by
  obtain ⟨e, session, he, hstate, hkey⟩ := hkeyed
  have hout : WarmupGoesOut env n dest ↔ SealedGoesOut env n dest FSP_FLAG_CP (coordPair env dest)
      (fspPrependInnerHeader (e.sessionTimestamp env.nowMs) SessionMessageType.coordsWarmup.toByte
        (spinFlags e) []) := by
    unfold WarmupGoesOut warmupFrame
    rw [he]
    exact Iff.rfl
  have hlength : FIPS_OVERHEAD + (coordPair env dest).length + ([] : Bytes).length = FIPS_OVERHEAD +
      (coordsWireSize env.myCoords + coordsWireSize (env.destCoords dest)) := by
    rw [coordPair, List.length_append, length_encodeCoords, length_encodeCoords]
    rfl
  rw [hout, ← hlength] at hP
  unfold sendCoordsWarmup
  rw [wp_bind_iff, wp_read_iff, wp_bind_iff, he, wp_orElse_some]
  exact wp_sendSealed_fits env haead hframes hm ⟨e, session, he, hstate, hkey⟩ hP

/-- **The frames of a payload** whose own size leaves room for the overhead fit exactly when the
coordinates that go out with it do. -/
theorem wp_sendSessionData_fits (haead : ChaCha20Poly1305.Lawful)
    (hframes : SendsFrames ν PublicKey env) (hm : m ≤ U16_MAX) (hkeyed : KeyedAt dest n)
    {e : SessionEntry SecretKey PublicKey μ} (he : n.sessions.lookup dest = some e)
    (hestablished : e.isEstablished = true) (srcPort dstPort : Nat) {payload : Bytes}
    (hroom : FIPS_OVERHEAD + FSP_PORT_HEADER_SIZE + payload.length ≤ m)
    {P : Node SecretKey PublicKey ν μ → Prop}
    (hP : ∀ n', SentFitsIff m (WarmupFits env m n dest e srcPort dstPort payload) n n' → P n') :
    wp (sendSessionData env dest srcPort dstPort payload : M SecretKey PublicKey ν μ SendError Unit)
      (fun _ => P) (fun _ => P) n := by
  have hkeeps : SendRules (fun _ _ => True) (KeyedAt dest : Node SecretKey PublicKey ν μ → Prop) :=
    sendRules_keyedAt dest
  unfold sendSessionData
  rw [wp_bind_iff, wp_read_iff, wp_bind_iff, he, wp_orElse_some]
  extract_lets wantsCoords timestamp spin portPayload inner coordsSize fits includeCoords coords
    send countDown
  rw [if_neg (by simpa using hestablished)]
  have hbody : portPayload.length = FSP_PORT_HEADER_SIZE + payload.length := by
    simp only [portPayload, List.length_append, length_leBytes, FSP_PORT_HEADER_SIZE]
  have hsend : ∀ u n' c, KeyedAt dest n' → SentFitsIff m c n n' →
      (∀ n'', SentFitsIff m (c ∧ (SealedGoesOut env n' dest
        ((if includeCoords then FSP_FLAG_CP else 0) |||
          (if (n'.sessions.lookup dest).any (·.currentKBit) then FSP_FLAG_K else 0)) coords inner →
            FIPS_OVERHEAD + coords.length + portPayload.length ≤ m)) n n'' → P n'') →
      wp (send u) (fun _ => P) (fun _ => P) n' := by
    intro u n' c hkeyed' hsofar hn''
    simp only [send]
    rw [wp_bind_iff, wp_read_iff, wp_bind_iff]
    exact wp_mono (fun _ n'' h => hn'' _ h) (fun _ n'' h => hn'' n'' h)
      (wp_sendSealed_fits env haead hframes hm hkeyed' fun n'' h => hsofar.trans h)
  have hsilent : ∀ u n', includeCoords = false → KeyedAt dest n' →
      SentFitsIff m (WarmupFits env m n dest e srcPort dstPort payload) n n' →
      wp (send u) (fun _ => P) (fun _ => P) n' := by
    intro u n' hinclude hkeyed' hsofar
    refine hsend u n' _ hkeyed' hsofar fun n'' h => hP n'' (h.of_iff (and_iff_left fun _ => ?_))
    have hcoords : coords.length = 0 := by simp only [coords, hinclude]; rfl
    omega
  by_cases hwants : 0 < e.coordsWarmupRemaining
  · have hcount : ∀ u n',
        (∀ f, (∀ e : SessionEntry SecretKey PublicKey μ, SessionEntry.Notes e (f e)) →
        wp (send ()) (fun _ => P) (fun _ => P) { n' with sessions := n'.sessions.modify dest f }) →
        wp (countDown u) (fun _ => P) (fun _ => P) n' := by
      intro u n' h
      have hwantsCoords : wantsCoords = true := decide_eq_true hwants
      simp only [countDown]
      rw [if_pos hwantsCoords, wp_bind_iff, wp_modifySession_iff]
      exact h _ fun e => SessionEntry.notes_setCoordsWarmupRemaining _
    by_cases hfits : dataSize env dest payload ≤ env.transportMtu
    · -- the coordinates go with the packet
      have hfits' : fits = true := decide_eq_true hfits
      have hinclude : includeCoords = true := by
        simp only [includeCoords, wantsCoords, Bool.and_eq_true, decide_eq_true_eq]
        exact ⟨hwants, hfits'⟩
      have hcoords : coords = coordPair env dest := by
        simp only [coords, hinclude]
        rfl
      rw [if_neg (by simp [hfits'])]
      refine hcount () n fun f hf => hsend () _ True (hkeeps.note n dest f hf hkeyed)
        (sentFitsIff_nothing rfl trivial) fun n'' h => hP n'' (h.of_iff ?_)
      have hkBit : ((n.sessions.modify dest f).lookup dest).any (·.currentKBit) =
          e.currentKBit := by
        rw [Map.lookup_modify_self he f]
        exact (hf e).currentKBit
      have hsize : FIPS_OVERHEAD + coords.length + portPayload.length =
          dataSize env dest payload := by
        rw [hcoords, hbody, coordPair, List.length_append, length_encodeCoords, length_encodeCoords,
          dataSize]
        omega
      rw [sealedGoesOut_modify env he (hf e).state, hkBit, if_pos hinclude, hsize, hcoords,
        true_and]
      exact ⟨fun h => ⟨fun _ _ => h, fun _ hlt => absurd hfits (Nat.not_le.mpr hlt)⟩,
        fun h => h.piggybacked hwants hfits⟩
    · -- the coordinates go ahead of the packet
      have hfits' : fits = false := decide_eq_false hfits
      have hinclude : includeCoords = false := by simp only [includeCoords, hfits', Bool.and_false]
      have hwantsCoords : wantsCoords = true := decide_eq_true hwants
      rw [if_pos (by simp [hwantsCoords, hfits']), wp_bind_iff, wp_attempt_iff]
      have hiff : (WarmupGoesOut env n dest → FIPS_OVERHEAD + (coordsWireSize env.myCoords +
          coordsWireSize (env.destCoords dest)) ≤ m) ↔
          WarmupFits env m n dest e srcPort dstPort payload :=
        ⟨fun h => ⟨fun _ hle => absurd hle hfits, fun _ _ => h⟩,
          fun h => h.standalone hwants (Nat.not_le.mp hfits)⟩
      have hnext : ∀ n', SentFitsIff m (WarmupFits env m n dest e srcPort dstPort payload) n n' ∧
          KeyedAt dest n' → wp (countDown ()) (fun _ => P) (fun _ => P) n' := by
        rintro n' ⟨hsofar, hkeyed'⟩
        exact hcount () n' fun f hf =>
          hsilent () _ hinclude (hkeeps.note n' dest f hf hkeyed') hsofar
      refine wp_mono (fun _ n' => hnext n') (fun failed n' hn' => ?_)
        (wp_and (wp_sendCoordsWarmup_fits env haead hframes hm hkeyed fun n' h => h.of_iff hiff)
          (hkeeps.wp_sendCoordsWarmup env hkeyed fun _ _ => trivial))
      cases failed with
      | error failed => exact hnext n' hn'
      | panic => exact hP n' hn'.1
  · -- no coordinates
    have hwantsCoords : wantsCoords = false := decide_eq_false hwants
    have hinclude : includeCoords = false := by
      simp only [includeCoords, hwantsCoords, Bool.false_and]
    rw [if_neg (by simp [hwantsCoords])]
    simp only [countDown]
    rw [if_neg (by simp [hwantsCoords])]
    exact hsilent () n hinclude hkeyed (sentFitsIff_nothing rfl
      ⟨fun h => absurd h hwants, fun h => absurd h hwants⟩)

end Sending

end Node

namespace LookupNode

/-! ## A packet from the TUN device -/

section Sizes

variable [PathMtu μ]

/-- A packet that `handle_tun_outbound` sends on the established session of its target. -/
structure TunSends (env : LookupEnv SecretKey PublicKey) (n : LookupNode SecretKey PublicKey ν μ)
    (packet : Bytes) (dest : NodeAddr) (e : SessionEntry SecretKey PublicKey μ) : Prop where
  length : IPV6_HEADER_SIZE ≤ packet.length
  version : packet.head?.any (fun first : UInt8 => first >>> 4 == 6) = true
  target : ∃ destPubkey, env.lookupByFipsPrefix ((packet.drop 25).take 15) = some (dest, destPubkey)
  lookup : n.sessions.lookup dest = some e
  keyed : Node.KeyedAt dest n.toNode
  fitsTransport : packet.length ≤ effectiveIpv6Mtu env.transportMtu
  fitsPath : exceedsPath env.transportMtu packet.length e = false

variable {env : LookupEnv SecretKey PublicKey} {n : LookupNode SecretKey PublicKey ν μ}
  {packet : Bytes} {dest : NodeAddr} {e : SessionEntry SecretKey PublicKey μ}

theorem TunSends.compressed (h : TunSends env n packet dest e) :
    ∃ compressed, compressIpv6 packet = .ok compressed := by
  have hlen : 40 ≤ packet.length := h.length
  obtain ⟨first, hfirst, hversion⟩ := (Option.any_eq_true _ _).mp h.version
  have hindex : ∀ i < packet.length, ∃ b, (index packet i : Result Unit UInt8) = .ok b :=
    fun i hi => ⟨packet[i], unwrap_eq_ok.mpr (List.getElem?_eq_getElem hi)⟩
  obtain ⟨nextHeader, hnext⟩ := hindex 6 (by omega)
  obtain ⟨hopLimit, hhop⟩ := hindex 7 (by omega)
  have hzero : (index packet 0 : Result Unit UInt8) = .ok first :=
    unwrap_eq_ok.mpr (List.head?_eq_getElem? ▸ hfirst)
  refine ⟨[IPV6_SHIM_FORMAT_COMPRESSED] ++ (packet.drop 0).take (4 - 0) ++ [nextHeader, hopLimit] ++
    packet.drop IPV6_HEADER_SIZE, ?_⟩
  refine bind_eq_ok.mpr ⟨(), atLeast_eq_ok.mpr hlen, bind_eq_ok.mpr ⟨first, hzero, ?_⟩⟩
  refine bind_eq_ok.mpr ⟨(), check_eq_ok.mpr hversion, ?_⟩
  refine bind_eq_ok.mpr ⟨_, sliceFrom_of_le h.length, ?_⟩
  refine bind_eq_ok.mpr ⟨_, slice_eq_ok.mpr ⟨Nat.zero_le 4, by omega, rfl⟩, ?_⟩
  exact bind_eq_ok.mpr ⟨_, hnext, bind_eq_ok.mpr ⟨_, hhop, rfl⟩⟩

/-- The guards leave room for a packet without coordinates. -/
theorem TunSends.room (h : TunSends env n packet dest e) {m : Nat}
    (hmtu : e.mmp.map PathMtu.currentMtu = some m) : packet.length + FIPS_IPV6_OVERHEAD ≤ m := by
  obtain ⟨mmp, hmmp, rfl⟩ := Option.map_eq_some_iff.mp hmtu
  have hlen : 40 ≤ packet.length := h.length
  have htransport := h.fitsTransport
  have hpath := h.fitsPath
  unfold exceedsPath at hpath
  rw [hmmp, Option.any_some, Bool.and_eq_false_iff, decide_eq_false_iff_not,
    decide_eq_false_iff_not] at hpath
  unfold effectiveIpv6Mtu FIPS_IPV6_OVERHEAD at *
  omega

variable [Sha256] [HkdfSha256] [ChaCha20Poly1305] [Secp256k1 SecretKey PublicKey] [Mmp ν]
  [SessionMmp μ]

/-- What `handle_tun_outbound` hands to links. -/
def tunMessages (env : LookupEnv SecretKey PublicKey) (n : LookupNode SecretKey PublicKey ν μ)
    (packet : Bytes) : List (Effect PublicKey) :=
  (handleTunOutbound env packet n).1.effects.drop n.effects.length

/-- **The path MTU**: every frame that a packet leads to has at most `m` bytes, and no length on the
way is cut, exactly when the coordinates that go out with it leave room for it. -/
theorem tunOutbound_fits_iff (haead : ChaCha20Poly1305.Lawful)
    (hframes : SendsFrames ν PublicKey env.toEnv) {m : Nat} (hm : m ≤ U16_MAX)
    (h : TunSends env n packet dest e) (hmtu : e.mmp.map PathMtu.currentMtu = some m)
    {compressed : Bytes} (hcompressed : compressIpv6 packet = .ok compressed) :
    (∀ nextHop message ceFlag, Effect.sentLinkMessage nextHop message ceFlag ∈
      tunMessages env n packet → FitsIn ν SecretKey PublicKey m message) ↔
      Node.WarmupFits env.toEnv m n.toNode dest e FSP_PORT_IPV6_SHIM FSP_PORT_IPV6_SHIM
        compressed := by
  have hroom := h.room hmtu
  have hcompressedLen := length_of_compressIpv6 hcompressed
  have hlen : 40 ≤ packet.length := h.length
  obtain ⟨first, hfirst, hversion⟩ := (Option.any_eq_true _ _).mp h.version
  obtain ⟨destPubkey, htarget⟩ := h.target
  obtain ⟨e', session, he', hstate, hkey⟩ := h.keyed
  cases h.lookup.symm.trans he'
  have hestablished : e.isEstablished = true := by
    unfold SessionEntry.isEstablished
    rw [hstate]
    rfl
  have hsent : Node.SentFitsIff m (Node.WarmupFits env.toEnv m n.toNode dest e FSP_PORT_IPV6_SHIM
      FSP_PORT_IPV6_SHIM compressed) n.toNode (handleTunOutbound env packet n).1.toNode := by
    refine fst_of_wp (P := fun n' : LookupNode SecretKey PublicKey ν μ =>
      Node.SentFitsIff m _ n.toNode n'.toNode) (wp_body_of_wp ?_)
    rw [wp_bind_iff, hfirst, wp_orElse_some, if_neg (by simpa [hlen] using hversion),
      if_neg (Nat.not_lt.mpr h.fitsTransport), wp_bind_iff, htarget, wp_orElse_some,
      wp_bind_iff, wp_read_iff, h.lookup]
    dsimp only
    rw [if_pos hestablished, if_neg (by simp [h.fitsPath]), wp_bind_iff, wp_attempt_iff,
      wp_onNode_iff]
    have hpacket : ∀ P : Node SecretKey PublicKey ν μ → Prop,
        (∀ n', Node.SentFitsIff m (Node.WarmupFits env.toEnv m n.toNode dest e FSP_PORT_IPV6_SHIM
          FSP_PORT_IPV6_SHIM compressed) n.toNode n' → P n') →
        wp (Node.sendIpv6Packet env.toEnv dest packet :
          Node.M SecretKey PublicKey ν μ SendError Unit) (fun _ => P) (fun _ => P) n.toNode := by
      intro P hP
      unfold Node.sendIpv6Packet
      rw [wp_bind_iff, wp_attempt_iff, wp_pureCall_iff]
      refine ⟨fun compressed' hok => ?_, fun failed herror => ?_⟩
      · cases hcompressed.symm.trans hok
        refine Node.wp_sendSessionData_fits env.toEnv haead hframes hm h.keyed h.lookup
          hestablished _ _ ?_ hP
        unfold Node.FIPS_OVERHEAD FSP_PORT_HEADER_SIZE
        unfold FIPS_IPV6_OVERHEAD at hroom
        omega
      · cases hcompressed.symm.trans herror
    refine wp_mono (fun _ n' hn' => hn') (fun failed n' hn' => ?_) (hpacket _ fun n' hn' => hn')
    cases failed with
    | error failed => exact hn'
    | panic => exact hn'
  obtain ⟨new, heffects, hiff⟩ := hsent
  unfold tunMessages
  rw [heffects, List.drop_left]
  exact hiff

end Sizes

/-! ### Coordinates beyond the path MTU -/

open Sample

/-- Transports that take 1400 bytes. -/
def wideEnv : LookupEnv Scalar Point :=
  { lookupEnv 1 0 7 (fun _ => true) with
    transportMtu := 1400
    linkMtu := fun _ => 1400
    sendLinkMessage := fun nextHop message =>
      if LINK_OVERHEAD + message.length ≤ 1400 then .ok ()
      else .error (.mtuExceeded nextHop (LINK_OVERHEAD + message.length) 1400) }

/-- An established session whose coordinates are still to be announced. Its path takes 1280
bytes. -/
def wideEntry : SessionEntry Scalar Point Unit :=
  let entry : SessionEntry Scalar Point Unit :=
    .new (addr 3) ⟨3⟩ (.established (Sample.session .initiator 1 2 ⟨3⟩)) 0 true
  { entry with mmp := some (), coordsWarmupRemaining := 5 }

/-- Node 1 in a session with node 3. -/
def wideNode : LookupNode Scalar Point Unit Unit :=
  let n : LookupNode Scalar Point Unit Unit :=
    new ⟨addr 1, ⟨1⟩⟩ startupEpoch config Sample.lookupConfig 0
  { n with
    sessions := (∅ : Map NodeAddr (SessionEntry Scalar Point Unit)).insert (addr 3) wideEntry }

/-- An IPv6 packet of this length. -/
def packetOf (length : Nat) : Bytes := 0x60 :: List.replicate (length - 1) 0

theorem length_packetOf {length : Nat} (h : 0 < length) : (packetOf length).length = length := by
  rw [packetOf, List.length_cons, List.length_replicate]
  omega

theorem exists_frame_of_length {message : Bytes} (hlen : LINK_OVERHEAD + message.length ≤ 1400) :
    ∃ frame, IsLinkFrame Unit Scalar Point message frame := by
  have hframe : ∃ frame, linkFrame (addr 3) (Sample.peer 3 1 1 (Sample.session .initiator 1 2 ⟨3⟩))
      0 message false = .ok (0, [], frame) := by
    refine exists_linkFrame aead_lawful rfl rfl rfl rfl rfl (by decide) 0 ?_ false
    unfold LINK_OVERHEAD ESTABLISHED_HEADER_SIZE at hlen
    unfold MAX_MESSAGE_SIZE TAG_SIZE
    omega
  obtain ⟨frame, hframe⟩ := hframe
  exact ⟨frame, _, _, _, _, _, _, ⟨_, rfl, rfl⟩, hframe⟩

theorem wideEnv_sendsFrames : SendsFrames Unit Point wideEnv.toEnv := by
  intro nextHop message hsend
  refine exists_frame_of_length ?_
  by_contra hlong
  simp only [wideEnv, if_neg hlong] at hsend
  cases hsend

theorem tunSends_wide {length : Nat} (hlen : 40 ≤ length) (hfits : length ≤ 1203) :
    TunSends wideEnv wideNode (packetOf length) (addr 3) wideEntry := by
  have hpacket := length_packetOf (Nat.lt_of_lt_of_le (by decide) hlen)
  have hentry : wideNode.sessions.lookup (addr 3) = some wideEntry := AList.lookup_insert _
  refine ⟨hpacket.symm ▸ hlen, rfl, ⟨_, rfl⟩, hentry, ⟨_, _, hentry, rfl, rfl⟩, ?_, ?_⟩
  · rw [hpacket]
    exact hfits.trans (by decide)
  · rw [hpacket]
    have hpath : ¬ 1203 < length := Nat.not_lt.mpr hfits
    have hmmp : wideEntry.mmp = some () := rfl
    have hmtu : effectiveIpv6Mtu (PathMtu.currentMtu ()) = 1203 := rfl
    rw [exceedsPath, hmmp, Option.any_some]
    simp only [hmtu, decide_eq_false hpath, Bool.and_false]

/-- The length of a message handed to a link. -/
def messageLength : Effect PublicKey → Option Nat
  | .sentLinkMessage _ message _ => some message.length
  | _ => none

theorem exists_of_messageLength {effects : List (Effect PublicKey)} {length : Nat}
    (h : length ∈ effects.filterMap messageLength) : ∃ nextHop message ceFlag,
      Effect.sentLinkMessage nextHop message ceFlag ∈ effects ∧ message.length = length := by
  obtain ⟨effect, hmem, hlength⟩ := List.mem_filterMap.mp h
  cases effect with
  | sentLinkMessage nextHop message ceFlag =>
    cases hlength
    exact ⟨nextHop, message, ceFlag, hmem, rfl⟩
  | _ => cases hlength

/-- **A packet that fits the path** goes out in a frame of 1316 bytes on a path that takes 1280: the
coordinates are compared with what the transports take. -/
theorem tunOutbound_exceeds_path : ¬ ∀ nextHop message ceFlag,
    Effect.sentLinkMessage nextHop message ceFlag ∈ tunMessages wideEnv wideNode (packetOf 1203) →
      FitsIn Unit Scalar Point 1280 message := by
  intro hall
  have hlengths :
      (tunMessages wideEnv wideNode (packetOf 1203)).filterMap messageLength = [1280] := by
    decide +kernel
  obtain ⟨nextHop, message, ceFlag, hmem, hlength⟩ :=
    exists_of_messageLength (hlengths ▸ List.mem_singleton.mpr rfl)
  have hlen : LINK_OVERHEAD + message.length ≤ 1400 := by
    rw [hlength]
    decide
  obtain ⟨frame, _, _, _, _, _, _, hkeyed, hlink⟩ := exists_frame_of_length hlen
  have hsize := (hall nextHop message ceFlag hmem).size frame ⟨_, _, _, _, _, _, hkeyed, hlink⟩
  rw [length_linkFrame aead_lawful hkeyed hlink, hlength] at hsize
  exact absurd hsize (by decide)

/-- A packet shorter by the coordinates keeps within the path. -/
theorem tunOutbound_fits_short : (tunMessages wideEnv wideNode (packetOf 1167)).length = 1 ∧
    ∀ nextHop message ceFlag,
      Effect.sentLinkMessage nextHop message ceFlag ∈ tunMessages wideEnv wideNode (packetOf 1167) →
        FitsIn Unit Scalar Point 1280 message := by
  have hsends : TunSends wideEnv wideNode (packetOf 1167) (addr 3) wideEntry :=
    tunSends_wide (by decide) (by decide)
  obtain ⟨compressed, hcompressed⟩ := hsends.compressed
  have hlength := length_of_compressIpv6 hcompressed
  rw [length_packetOf (by decide)] at hlength
  have hmtu : wideEntry.mmp.map PathMtu.currentMtu = some 1280 := rfl
  refine ⟨by decide +kernel, (tunOutbound_fits_iff aead_lawful wideEnv_sendsFrames (by decide)
    hsends hmtu hcompressed).mpr ⟨fun _ _ _ => ?_, fun _ _ _ => by decide⟩⟩
  have hcoords : Node.FIPS_OVERHEAD + FSP_PORT_HEADER_SIZE + (coordsWireSize wideEnv.myCoords +
      coordsWireSize (wideEnv.destCoords (addr 3))) = 146 := by decide
  rw [Node.dataSize, hcoords]
  omega

end LookupNode

end Fips
