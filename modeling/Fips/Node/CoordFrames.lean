import Fips.Node.Forwarding
import Fips.Node.Sample
import Fips.Node.SessionRules
import Fips.Wire.CoordCodec

/-!
# Coordinates in sealed frames

`send_session_data` and `send_coords_warmup` put two coordinates in clear between the header of a
frame and its ciphertext. `try_warm_coord_cache` of every transit node and
`handle_encrypted_session_msg` of the receiver look for them there, each with offsets of its own.

A frame is a `CoordFrame`, whose parts the senders choose and the readers have to find: the header,
which is also the additional data, the coordinates and the ciphertext.

## Results

* `wp_sendCoordsWarmup_frames`, `wp_sendSessionData_frames`: what the senders write.
* `CoordFrame.readBy`: what the readers find in a frame with coordinates.
* `notRead_of_no_coords`: they find no coordinates in a frame without the flag.
* `coordFrames_agree`: both sides agree.
-/

open Checked

namespace Fips

variable {SecretKey PublicKey ν μ : Type}

/-- A frame of the session layer by its parts. -/
structure CoordFrame where
  counter : Nat
  flags : UInt8
  payloadLen : Nat
  coords : Option (TreeCoordinate × TreeCoordinate)
  ciphertext : Bytes

namespace CoordFrame

/-- The FSP header of the frame, which is the cipher's associated data. -/
def header (f : CoordFrame) : Bytes := buildFspHeader f.counter f.flags f.payloadLen

/-- The coordinates of the source and of the destination. -/
def coordBytes (f : CoordFrame) : Bytes :=
  match f.coords with
  | some (src, dest) => encodeCoords src ++ encodeCoords dest
  | none => []

/-- The frame as it is sent: the coordinates stand in clear between header and ciphertext. -/
def bytes (f : CoordFrame) : Bytes := f.header ++ f.coordBytes ++ f.ciphertext

/-- The flags of a frame say what is in it. -/
structure Marked (f : CoordFrame) : Prop where
  encrypted : hasFlag f.flags FSP_FLAG_U = false
  coords : hasFlag f.flags FSP_FLAG_CP = f.coords.isSome

/-- The header as it is parsed: the counter and the length have 64 and 16 bits. -/
def parsed (f : CoordFrame) : FspEncryptedHeader :=
  ⟨f.flags, f.payloadLen % 256 ^ 2, f.counter % 256 ^ 8, f.header⟩

theorem length_header (f : CoordFrame) : f.header.length = FSP_HEADER_SIZE := by
  unfold header buildFspHeader
  rw [List.length_append, List.length_append, length_leBytes, length_leBytes]
  rfl

/-- The rest of a frame behind the header. -/
theorem bytes_eq (f : CoordFrame) : f.bytes = f.header ++ (f.coordBytes ++ f.ciphertext) :=
  List.append_assoc ..

theorem parse_prefix (f : CoordFrame) :
    FspCommonPrefix.parse f.bytes = .ok ⟨0, FSP_PHASE_ESTABLISHED, f.flags, f.payloadLen % 256 ^ 2⟩ := by
  have hbytes : f.bytes = 0x00 :: f.flags :: UInt8.ofNat f.payloadLen ::
      UInt8.ofNat (f.payloadLen / 256) :: (leBytes 8 f.counter ++ f.coordBytes ++ f.ciphertext) := rfl
  have hlen : leNat [UInt8.ofNat f.payloadLen, UInt8.ofNat (f.payloadLen / 256)] =
      f.payloadLen % 256 ^ 2 := leNat_leBytes_mod 2 f.payloadLen
  rw [hbytes, FspCommonPrefix.parse_cons, hlen]
  rfl

theorem parse_bytes {f : CoordFrame} (hflag : hasFlag f.flags FSP_FLAG_U = false)
    (hlen : FSP_ENCRYPTED_MIN_SIZE ≤ f.bytes.length) :
    FspEncryptedHeader.parse f.bytes = .ok f.parsed := by
  have htwo : ([0x00, f.flags] : Bytes).length = 2 := rfl
  have hfour : ([0x00, f.flags] ++ leBytes 2 f.payloadLen).length = 4 := rfl
  have hlength : (leAt f.bytes 2 2 : Result Unit Nat) = .ok (f.payloadLen % 256 ^ 2) := by
    unfold bytes header buildFspHeader
    simp only [List.append_assoc]
    exact leAt_append_mod htwo _
  have hcounter : (leAt f.bytes 4 8 : Result Unit Nat) = .ok (f.counter % 256 ^ 8) := by
    unfold bytes header buildFspHeader
    rw [List.append_assoc, List.append_assoc]
    exact leAt_append_mod hfour _
  have hheader : (slice f.bytes 0 FSP_HEADER_SIZE : Result Unit Bytes) = .ok f.header := by
    rw [bytes_eq]
    exact slice_append_left f.length_header
  have hindex : (index f.bytes 0 : Result Unit UInt8) = .ok 0x00 := rfl
  have hflags : (index f.bytes 1 : Result Unit UInt8) = .ok f.flags := rfl
  unfold FspEncryptedHeader.parse
  refine bind_eq_ok.mpr ⟨(), atLeast_eq_ok.mpr hlen, bind_eq_ok.mpr ⟨_, hindex, ?_⟩⟩
  refine bind_eq_ok.mpr ⟨(), by decide, bind_eq_ok.mpr ⟨_, hflags, ?_⟩⟩
  refine bind_eq_ok.mpr ⟨(), check_eq_ok.mpr (by rw [hflag]; rfl), bind_eq_ok.mpr ⟨_, hlength, ?_⟩⟩
  exact bind_eq_ok.mpr ⟨_, hcounter, bind_eq_ok.mpr ⟨_, hheader, rfl⟩⟩

theorem min_le_length {f : CoordFrame} (h : f.coords.isSome = true) :
    FSP_ENCRYPTED_MIN_SIZE ≤ f.bytes.length := by
  obtain ⟨⟨src, dest⟩, hcoords⟩ := Option.isSome_iff_exists.mp h
  have hsrc : 0 < src.entries.length := List.length_pos_iff.mpr src.nonempty
  have hdest : 0 < dest.entries.length := List.length_pos_iff.mpr dest.nonempty
  unfold bytes coordBytes
  rw [hcoords]
  simp only [List.length_append, length_header, length_encodeCoords]
  unfold coordsWireSize FSP_ENCRYPTED_MIN_SIZE FSP_HEADER_SIZE TAG_SIZE
  omega

end CoordFrame

namespace Node

section Reading

/-- The transit nodes write these coordinates into their caches, and nothing else. -/
def WarmsWith (SecretKey PublicKey ν μ : Type) (payload : Bytes) (src dest : TreeCoordinate) : Prop :=
  ∀ (datagram : SessionDatagram) (n : Node SecretKey PublicKey ν μ), datagram.payload = payload →
    tryWarmCoordCache datagram n = ({ n with effects := n.effects ++
      [.cacheCoords datagram.srcAddr src, .cacheCoords datagram.destAddr dest] }, .ok ())

theorem warmsWith_bytes {f : CoordFrame} (hmarked : f.Marked) {src dest : TreeCoordinate}
    (hcoords : f.coords = some (src, dest)) (hsrc : src.entries.length ≤ 65535)
    (hdest : dest.entries.length ≤ 65535) :
    WarmsWith SecretKey PublicKey ν μ f.bytes src.addrsOnly dest.addrsOnly := by
  intro datagram n hpayload
  have hcp : hasFlag f.flags FSP_FLAG_CP = true := by rw [hmarked.coords, hcoords]; rfl
  have hlong : FSP_HEADER_SIZE ≤ f.bytes.length :=
    le_trans (by decide) (CoordFrame.min_le_length (by rw [hcoords]; rfl))
  have hrest : (sliceFrom f.bytes FSP_HEADER_SIZE : Result Unit Bytes) =
      .ok (encodeCoords src ++ encodeCoords dest ++ f.ciphertext) := by
    rw [f.bytes_eq, CoordFrame.coordBytes, hcoords]
    exact sliceFrom_append f.length_header
  have hinner : (sliceFrom f.bytes FSP_COMMON_PREFIX_SIZE : Result Unit Bytes) =
      .ok (f.bytes.drop FSP_COMMON_PREFIX_SIZE) := sliceFrom_of_le (le_trans (by decide) hlong)
  have hflag : (FSP_PHASE_ESTABLISHED == FSP_PHASE_ESTABLISHED && FspCommonPrefix.hasCoords
      ⟨0, FSP_PHASE_ESTABLISHED, f.flags, f.payloadLen % 256 ^ 2⟩) = true := hcp
  unfold tryWarmCoordCache
  rw [hpayload, f.parse_prefix, hinner, hrest]
  simp only [orReturn_ok_bind, parseEncryptedCoords_append hsrc hdest]
  rw [if_neg (by decide), if_neg (by decide), if_pos hflag, List.append_cons]
  rfl

/-- What the receiver does with the parts of a frame. -/
def openParts [Sha256] [HkdfSha256] [ChaCha20Poly1305] [Secp256k1 SecretKey PublicKey]
    [SessionMmp μ] (env : Env SecretKey) (src : NodeAddr) (pathMtu : Nat) (ceFlag : Bool)
    (srcCoords destCoords : Option TreeCoordinate) (flags : UInt8) (frame : NoiseSession.Frame) :
    Handler SecretKey PublicKey ν μ Unit := body do
  let my ← read Node.nodeAddr
  cacheCoords src srcCoords
  cacheCoords my destCoords
  let plaintext ← openSessionFrame env src (hasFlag flags FSP_FLAG_K) frame
  let message ← orReturn (fspStripInnerHeader plaintext)
  processSessionMessage env src frame.counter plaintext.length pathMtu ceFlag message

/-- The receiver finds these coordinates, and decrypts this ciphertext with this header. -/
def OpensWith (SecretKey PublicKey ν μ : Type) [Sha256] [HkdfSha256] [ChaCha20Poly1305]
    [Secp256k1 SecretKey PublicKey] [SessionMmp μ] (payload : Bytes)
    (srcCoords destCoords : Option TreeCoordinate) (flags : UInt8) (frame : NoiseSession.Frame) :
    Prop :=
  ∀ (env : Env SecretKey) (src : NodeAddr) (pathMtu : Nat) (ceFlag : Bool),
    (handleEncryptedSessionMsg env src payload pathMtu ceFlag : Handler SecretKey PublicKey ν μ Unit) =
      openParts env src pathMtu ceFlag srcCoords destCoords flags frame

variable [Sha256] [HkdfSha256] [ChaCha20Poly1305] [Secp256k1 SecretKey PublicKey] [SessionMmp μ]

variable (SecretKey PublicKey ν μ) in
theorem opensWith_of_split {payload : Bytes} {h : FspEncryptedHeader}
    {srcCoords destCoords : Option TreeCoordinate} {ciphertext : Bytes}
    (hparse : FspEncryptedHeader.parse payload = .ok h)
    (hsplit : sessionCiphertext h payload = .ok (srcCoords, destCoords, ciphertext)) :
    OpensWith SecretKey PublicKey ν μ payload srcCoords destCoords h.flags
      ⟨ciphertext, h.counter, h.headerBytes⟩ := by
  intro env src pathMtu ceFlag
  unfold handleEncryptedSessionMsg openParts
  rw [hparse]
  simp only [orReturn_ok_bind, hsplit]

theorem opensWith_bytes {f : CoordFrame} (hmarked : f.Marked) {src dest : TreeCoordinate}
    (hcoords : f.coords = some (src, dest)) (hsrc : src.entries.length ≤ 65535)
    (hdest : dest.entries.length ≤ 65535) :
    OpensWith SecretKey PublicKey ν μ f.bytes (some src.addrsOnly) (some dest.addrsOnly) f.flags
      ⟨f.ciphertext, f.parsed.counter, f.header⟩ := by
  have hcp : f.parsed.hasCoords = true := hmarked.coords.trans (by rw [hcoords]; rfl)
  have hlong := CoordFrame.min_le_length (f := f) (by rw [hcoords]; rfl)
  have hbytes : f.bytes = f.header ++ (encodeCoords src ++ encodeCoords dest) ++ f.ciphertext := by
    rw [CoordFrame.bytes, CoordFrame.coordBytes, hcoords]
  have hrest : (sliceFrom f.bytes FSP_HEADER_SIZE : Result ProtocolError Bytes) =
      .ok (encodeCoords src ++ encodeCoords dest ++ f.ciphertext) := by
    rw [hbytes, List.append_assoc]
    exact sliceFrom_append f.length_header
  have hciphertext : (sliceFrom f.bytes (FSP_HEADER_SIZE + (coordsWireSize src + coordsWireSize dest)) :
      Result ProtocolError Bytes) = .ok f.ciphertext := by
    rw [hbytes]
    refine sliceFrom_append ?_
    rw [List.length_append, List.length_append, f.length_header, length_encodeCoords,
      length_encodeCoords]
  have hsplit : sessionCiphertext f.parsed f.bytes =
      .ok (some src.addrsOnly, some dest.addrsOnly, f.ciphertext) := by
    unfold sessionCiphertext
    rw [if_pos hcp, hrest]
    refine bind_eq_ok.mpr ⟨_, rfl, bind_eq_ok.mpr ⟨_, parseEncryptedCoords_append hsrc hdest _, ?_⟩⟩
    exact bind_eq_ok.mpr ⟨_, hciphertext, rfl⟩
  have hparse : FspEncryptedHeader.parse f.bytes = .ok f.parsed :=
    CoordFrame.parse_bytes hmarked.encrypted hlong
  have hopens := opensWith_of_split SecretKey PublicKey ν μ hparse hsplit
  exact hopens

/-- The readers find no coordinates in a payload. -/
structure NotRead (SecretKey PublicKey ν μ : Type) [Sha256] [HkdfSha256] [ChaCha20Poly1305]
    [Secp256k1 SecretKey PublicKey] [SessionMmp μ] (payload : Bytes) : Prop where
  transit : ∀ (datagram : SessionDatagram) (n : Node SecretKey PublicKey ν μ),
    datagram.payload = payload → tryWarmCoordCache datagram n = (n, .ok ())
  receiver : ∀ h, FspEncryptedHeader.parse payload = .ok h →
    OpensWith SecretKey PublicKey ν μ payload none none h.flags
      ⟨payload.drop FSP_HEADER_SIZE, h.counter, h.headerBytes⟩
  refused : ∀ (env : Env SecretKey) (src : NodeAddr) (pathMtu : Nat) (ceFlag : Bool)
    (n : Node SecretKey PublicKey ν μ), (∀ h, FspEncryptedHeader.parse payload ≠ .ok h) →
    handleEncryptedSessionMsg env src payload pathMtu ceFlag n = (n, .ok ())

omit [Sha256] [HkdfSha256] [ChaCha20Poly1305] in
theorem flags_of_parse {payload : Bytes} {pre : FspCommonPrefix} {h : FspEncryptedHeader}
    (hpre : FspCommonPrefix.parse payload = .ok pre)
    (hparse : FspEncryptedHeader.parse payload = .ok h) : h.flags = pre.flags := by
  unfold FspCommonPrefix.parse at hpre
  unfold FspEncryptedHeader.parse at hparse
  simp only [bind_eq_ok] at hpre hparse
  obtain ⟨_, -, _, -, flags, hflags, _, -, hpre⟩ := hpre
  obtain ⟨_, -, _, -, _, -, flags', hflags', _, -, _, -, _, -, _, -, hh⟩ := hparse
  cases hpre
  cases hh
  exact Except.ok.inj (hflags'.symm.trans hflags)

/-- **No coordinates** are read in a frame without the flag. -/
theorem notRead_of_no_coords {payload : Bytes} {pre : FspCommonPrefix}
    (hpre : FspCommonPrefix.parse payload = .ok pre) (hphase : pre.phase = FSP_PHASE_ESTABLISHED)
    (hcoords : pre.hasCoords = false) : NotRead SecretKey PublicKey ν μ payload where
  transit datagram n hpayload := by
    have hinner := sliceFrom_of_le (ε := Unit) (FspCommonPrefix.length_of_parse hpre)
    unfold tryWarmCoordCache
    rw [hpayload, hpre, hinner]
    simp only [orReturn_ok_bind, hphase, hcoords, Bool.and_false]
    rw [if_neg (by decide), if_neg (by decide), if_neg (by decide)]
    rfl
  receiver h hparse := by
    have hcp : h.hasCoords = false := by
      rw [FspEncryptedHeader.hasCoords, flags_of_parse hpre hparse]
      exact hcoords
    have hlen : FSP_HEADER_SIZE ≤ payload.length :=
      le_trans (by decide) (FspEncryptedHeader.length_of_parse hparse)
    refine opensWith_of_split SecretKey PublicKey ν μ hparse ?_
    unfold sessionCiphertext
    rw [if_neg (by rw [hcp]; decide)]
    exact bind_eq_ok.mpr ⟨_, sliceFrom_of_le hlen, rfl⟩
  refused env src pathMtu ceFlag n hnone := by
    unfold handleEncryptedSessionMsg
    cases hparse : FspEncryptedHeader.parse payload with
    | ok h => exact absurd hparse (hnone h)
    | error e =>
      cases e with
      | error e => rfl
      | panic => exact absurd hparse (FspEncryptedHeader.noPanic_parse payload)

end Reading

/-! ## Writing -/

section Writing

variable [ChaCha20Poly1305] {n n' : Node SecretKey PublicKey ν μ} {dest : NodeAddr} {key : Bytes}
  {allowed : Option (TreeCoordinate × TreeCoordinate) → Prop}

/-- The session with `dest` is established and sends under `key`. -/
def SendsUnder (key : Bytes) (dest : NodeAddr) (n : Node SecretKey PublicKey ν μ) : Prop :=
  ∃ e session, n.sessions.lookup dest = some e ∧ e.state = some (.established session) ∧
    session.sendCipher.key = key

/-- A frame sealed under `key` that says what is in it, with coordinates that are `allowed`. -/
structure Writes (PublicKey : Type) (allowed : Option (TreeCoordinate × TreeCoordinate) → Prop)
    (key : Bytes) (f : CoordFrame) : Prop where
  marked : f.Marked
  coords : allowed f.coords
  sealed : ∃ (session : NoiseSession PublicKey) (inner : Bytes), session.sendCipher.key = key ∧
    session.currentSendCounter = f.counter ∧ (session.encryptWithAad inner f.header).2 = .ok f.ciphertext

/-- From `n` to `n'` only such frames were sent. -/
def WroteFrames (allowed : Option (TreeCoordinate × TreeCoordinate) → Prop) (key : Bytes)
    (n n' : Node SecretKey PublicKey ν μ) : Prop :=
  ∃ new, n'.effects = n.effects ++ new ∧ ∀ e ∈ new, ∃ nextHop d f,
    e = .sentLinkMessage nextHop (SessionDatagram.encode d) false ∧
      d.payload = CoordFrame.bytes f ∧ Writes PublicKey allowed key f

theorem sendRules_sendsUnder [SessionMmp μ] (key : Bytes) (dest : NodeAddr) :
    SendRules (fun _ _ => True) (SendsUnder key dest : Node SecretKey PublicKey ν μ → Prop) where
  note n addr f hf := by
    rintro ⟨e, session, he, hstate, hkey⟩
    by_cases haddr : dest = addr
    · subst haddr
      exact ⟨f e, session, Map.lookup_modify_self he f, (hf e).state.trans hstate, hkey⟩
    · exact ⟨e, session, (Map.lookup_modify_ne _ haddr f).trans he, hstate, hkey⟩
  advance n addr e session inner header he hstate := by
    rintro ⟨e', session', he', hstate', hkey⟩
    by_cases haddr : dest = addr
    · subst haddr
      cases he.symm.trans he'
      cases hstate.symm.trans hstate'
      exact ⟨_, _, AList.lookup_insert _, rfl, (CipherState.key_encryptWithAad _ _ _).trans hkey⟩
    · exact ⟨e', session', (AList.lookup_insert_ne haddr).trans he', hstate', hkey⟩
  frame n nextHop d e counter flags len tail he hestablished hpayload hflags h := h

theorem WroteFrames.nothing (h : n'.effects = n.effects) :
    WroteFrames allowed key n n' :=
  ⟨[], h.trans (List.append_nil _).symm, List.forall_mem_nil _⟩

theorem WroteFrames.trans {n'' : Node SecretKey PublicKey ν μ}
    (h : WroteFrames allowed key n n') (h' : WroteFrames allowed key n' n'') :
    WroteFrames allowed key n n'' := by
  obtain ⟨new, heffects, hnew⟩ := h
  obtain ⟨new', heffects', hnew'⟩ := h'
  refine ⟨new ++ new', ?_, List.forall_mem_append.mpr ⟨hnew, hnew'⟩⟩
  rw [heffects', heffects, List.append_assoc]

variable [SessionMmp μ] (env : Env SecretKey)

/-- A frame is sealed as its flags say. -/
theorem wp_sendSealed_frames {flags : UInt8} {coords : Option (TreeCoordinate × TreeCoordinate)}
    (hcoords : allowed coords)
    (hmarked : ∀ counter len ciphertext, CoordFrame.Marked ⟨counter, flags, len, coords, ciphertext⟩)
    (hn : SendsUnder key dest n) (timestamp : Nat) (inner : Bytes) {coordBytes : Bytes}
    (hbytes : ∀ counter len ciphertext,
      CoordFrame.coordBytes ⟨counter, flags, len, coords, ciphertext⟩ = coordBytes)
    {P : Node SecretKey PublicKey ν μ → Prop}
    (hP : ∀ n', WroteFrames allowed key n n' ∧ SendsUnder key dest n' → P n') :
    wp (sendSealed env dest flags timestamp coordBytes inner :
      M SecretKey PublicKey ν μ SendError Unit) (fun _ => P) (fun _ => P) n := by
  have hkept : wp (sendSealed env dest flags timestamp coordBytes inner :
      M SecretKey PublicKey ν μ SendError Unit) (fun _ => SendsUnder key dest)
      (fun _ => SendsUnder key dest) n :=
    (sendRules_sendsUnder key dest).wp_sendSealed env timestamp coordBytes inner hn fun _ _ => trivial
  obtain ⟨e, session, he, hstate, hkey⟩ := hn
  refine wp_mono (fun _ n' hn' => hP n' ⟨?_, hn'.2⟩) (fun _ n' hn' => hP n' ⟨?_, hn'.2⟩)
    (wp_and (wp_sendSealed_effects env dest flags timestamp coordBytes inner) hkept)
  · obtain ⟨⟨payload, nextHop, d, hpayload, -, -, -, rfl, -, heffects⟩, -⟩ := hn'
    rw [sealedPayload_eq he hstate] at hpayload
    obtain ⟨ciphertext, hsealed, hd⟩ := Option.map_eq_some_iff.mp hpayload
    refine ⟨_, heffects, List.forall_mem_singleton.mpr ⟨nextHop, d,
      ⟨session.currentSendCounter, flags, inner.length, coords, ciphertext⟩, rfl, ?_, ?_⟩⟩
    · rw [CoordFrame.bytes, hbytes]
      exact hd.symm
    · exact ⟨hmarked _ _ _, hcoords, session, inner, hkey, rfl, ok_of_toOption hsealed⟩
  · exact .nothing hn'.1.1

/-- A standalone warmup is a frame with coordinates. -/
theorem wp_sendCoordsWarmup_frames (hcoords : allowed (some (env.myCoords, env.destCoords dest)))
    (hn : SendsUnder key dest n)
    {P : Node SecretKey PublicKey ν μ → Prop}
    (hP : ∀ n', WroteFrames allowed key n n' ∧ SendsUnder key dest n' → P n') :
    wp (sendCoordsWarmup env dest : M SecretKey PublicKey ν μ SendError Unit) (fun _ => P)
      (fun _ => P) n := by
  have hmarked : ∀ counter len ciphertext,
      CoordFrame.Marked ⟨counter, FSP_FLAG_CP, len, some (env.myCoords, env.destCoords dest),
        ciphertext⟩ := fun _ _ _ =>
    ⟨(by decide : hasFlag FSP_FLAG_CP FSP_FLAG_U = false),
      (by decide : hasFlag FSP_FLAG_CP FSP_FLAG_CP = true)⟩
  unfold sendCoordsWarmup
  rw [wp_bind_iff, wp_read_iff, wp_bind_iff, wp_orElse_iff]
  refine ⟨fun e he => ?_, fun _ => hP n ⟨.nothing rfl, hn⟩⟩
  exact wp_sendSealed_frames env hcoords hmarked hn _ _
    (fun _ _ _ => rfl) hP

omit [ChaCha20Poly1305] in
theorem hasFlag_frame_u (cp kBit : Bool) : hasFlag
    ((if cp then FSP_FLAG_CP else 0) ||| (if kBit then FSP_FLAG_K else 0)) FSP_FLAG_U = false := by
  cases cp <;> cases kBit <;> decide

omit [ChaCha20Poly1305] in
theorem hasFlag_frame_cp (cp kBit : Bool) : hasFlag
    ((if cp then FSP_FLAG_CP else 0) ||| (if kBit then FSP_FLAG_K else 0)) FSP_FLAG_CP = cp := by
  cases cp <;> cases kBit <;> decide

/-- The frames of a data packet. -/
theorem wp_sendSessionData_frames (hcoords : allowed (some (env.myCoords, env.destCoords dest)))
    (hnone : allowed none) (hn : SendsUnder key dest n) (srcPort dstPort : Nat)
    (payload : Bytes) :
    wp (sendSessionData env dest srcPort dstPort payload :
      M SecretKey PublicKey ν μ SendError Unit) (fun _ => WroteFrames allowed key n)
      (fun _ => WroteFrames allowed key n) n := by
  have hrules : SendRules (fun _ _ => True)
      (SendsUnder key dest : Node SecretKey PublicKey ν μ → Prop) := sendRules_sendsUnder key dest
  unfold sendSessionData
  rw [wp_bind_iff, wp_read_iff, wp_bind_iff, wp_orElse_iff]
  refine ⟨fun e he => ?_, fun _ => .nothing rfl⟩
  extract_lets wantsCoords timestamp spin portPayload inner coordsSize fits includeCoords coords
    send countDown
  have hmarked : ∀ (kBit : Bool) counter len ciphertext, CoordFrame.Marked
      ⟨counter, (if includeCoords then FSP_FLAG_CP else 0) ||| (if kBit then FSP_FLAG_K else 0), len,
        if includeCoords then some (env.myCoords, env.destCoords dest) else none, ciphertext⟩ := by
    intro kBit counter len ciphertext
    refine ⟨hasFlag_frame_u includeCoords kBit, (hasFlag_frame_cp includeCoords kBit).trans ?_⟩
    cases includeCoords <;> rfl
  have hallowed :
      allowed (if includeCoords then some (env.myCoords, env.destCoords dest) else none) := by
    split_ifs
    · exact hcoords
    · exact hnone
  have hbytes : ∀ (flags : UInt8) counter len ciphertext, CoordFrame.coordBytes
      ⟨counter, flags, len, if includeCoords then some (env.myCoords, env.destCoords dest) else none,
        ciphertext⟩ = coords := by
    intro flags counter len ciphertext
    simp only [coords]
    cases includeCoords <;> rfl
  have hsend : ∀ u n', WroteFrames allowed key n n' ∧ SendsUnder key dest n' →
      wp (send u) (fun _ => WroteFrames allowed key n) (fun _ => WroteFrames allowed key n) n' := by
    intro u n' hn'
    simp only [send]
    rw [wp_bind_iff, wp_read_iff, wp_bind_iff]
    have hframes : ∀ n'', WroteFrames allowed key n' n'' ∧ SendsUnder key dest n'' →
        WroteFrames allowed key n n'' := fun _ h => hn'.1.trans h.1
    exact wp_mono (fun _ _ h => h) (fun _ _ h => h)
      (wp_sendSealed_frames env hallowed (hmarked _) hn'.2 _ _ (hbytes _) hframes)
  have hcount : ∀ u n', WroteFrames allowed key n n' ∧ SendsUnder key dest n' →
      wp (countDown u) (fun _ => WroteFrames allowed key n) (fun _ => WroteFrames allowed key n)
        n' := by
    intro u n' hn'
    simp only [countDown]
    split_ifs
    · rw [wp_bind_iff, wp_modifySession_iff]
      exact hsend () _ ⟨hn'.1, hrules.note n' dest _
        (fun _ => SessionEntry.notes_setCoordsWarmupRemaining _) hn'.2⟩
    · exact hsend () n' hn'
  split_ifs with hestablished hahead
  · exact .nothing rfl
  · -- the coordinates go ahead of the packet
    rw [wp_bind_iff, wp_attempt_iff]
    refine wp_mono (fun _ n' => hcount () n') (fun failed n' hn' => ?_)
      (wp_sendCoordsWarmup_frames env hcoords hn fun _ h => h)
    cases failed with
    | error failed => exact hcount () n' hn'
    | panic => exact hn'.1
  · exact hcount () n ⟨.nothing rfl, hn⟩

omit [SessionMmp μ] in
/-- A session that is not established seals nothing. -/
theorem sealedPayload_eq_none (hnone : ∀ key, ¬ SendsUnder key dest n) (flags : UInt8)
    (coords inner : Bytes) : sealedPayload n dest flags coords inner = none := by
  cases he : n.sessions.lookup dest with
  | none =>
    unfold sealedPayload
    rw [he]
    rfl
  | some e =>
    exact sealedPayload_of_not_established he
      (fun session hstate => hnone _ ⟨e, session, he, hstate, rfl⟩) flags coords inner

end Writing

/-! ## Agreement -/

section Agreement

variable [Sha256] [HkdfSha256] [ChaCha20Poly1305] [Secp256k1 SecretKey PublicKey] [SessionMmp μ]

/-- A frame is read as it was written: with the coordinates of its sender, or with none. -/
structure ReadBack (SecretKey PublicKey ν μ : Type) [Sha256] [HkdfSha256] [ChaCha20Poly1305]
    [Secp256k1 SecretKey PublicKey] [SessionMmp μ] (env : Env SecretKey) (dest : NodeAddr)
    (f : CoordFrame) : Prop where
  sender : ∀ p ∈ f.coords, p = (env.myCoords, env.destCoords dest)
  transit : ∀ p ∈ f.coords,
    WarmsWith SecretKey PublicKey ν μ f.bytes p.1.addrsOnly p.2.addrsOnly
  receiver : ∀ p ∈ f.coords, OpensWith SecretKey PublicKey ν μ f.bytes (some p.1.addrsOnly)
    (some p.2.addrsOnly) f.flags ⟨f.ciphertext, f.parsed.counter, f.header⟩
  without : f.coords = none → NotRead SecretKey PublicKey ν μ f.bytes

/-- From `n` to `n'` only frames were sent that the session of `n` with `dest` sealed, with
coordinates that are `allowed`, and that are read as they were written. -/
def FramesAgree (env : Env SecretKey) (dest : NodeAddr)
    (allowed : Option (TreeCoordinate × TreeCoordinate) → Prop)
    (n n' : Node SecretKey PublicKey ν μ) : Prop :=
  ∃ new, n'.effects = n.effects ++ new ∧ ∀ e ∈ new, ∃ nextHop d f key,
    e = .sentLinkMessage nextHop (SessionDatagram.encode d) false ∧
      d.payload = CoordFrame.bytes f ∧ SendsUnder key dest n ∧ Writes PublicKey allowed key f ∧
      ReadBack SecretKey PublicKey ν μ env dest f

/-- The coordinates of the sender and of `dest`. -/
def OwnPair (env : Env SecretKey) (dest : NodeAddr)
    (coords : Option (TreeCoordinate × TreeCoordinate)) : Prop :=
  coords = some (env.myCoords, env.destCoords dest)

variable {env : Env SecretKey} {dest : NodeAddr} {n n' : Node SecretKey PublicKey ν μ} {key : Bytes}
  {allowed : Option (TreeCoordinate × TreeCoordinate) → Prop} {f : CoordFrame}

/-- **A written frame is read back.** -/
theorem readBack_of_writes (hown : env.myCoords.entries.length ≤ 65535)
    (hdest : (env.destCoords dest).entries.length ≤ 65535)
    (hallowed : ∀ coords, allowed coords → OwnPair env dest coords ∨ coords = none)
    (h : Writes PublicKey allowed key f) : ReadBack SecretKey PublicKey ν μ env dest f := by
  have hmarked := h.marked
  rcases hallowed f.coords h.coords with hcoords | hcoords
  · have hpair : ∀ p ∈ f.coords, p = (env.myCoords, env.destCoords dest) := fun p hp =>
      Option.some.inj (hp.symm.trans hcoords)
    refine ⟨hpair, fun p hp => ?_, fun p hp => ?_, fun hnone => ?_⟩
    · obtain rfl := hpair p hp
      exact warmsWith_bytes hmarked hcoords hown hdest
    · obtain rfl := hpair p hp
      exact opensWith_bytes hmarked hcoords hown hdest
    · cases hcoords.symm.trans hnone
  · have hnever : ∀ p, p ∉ f.coords := fun p hp => by
      rw [hcoords] at hp
      cases hp
    refine ⟨fun p hp => absurd hp (hnever p), fun p hp => absurd hp (hnever p),
      fun p hp => absurd hp (hnever p), fun _ => ?_⟩
    refine notRead_of_no_coords f.parse_prefix rfl ?_
    exact hmarked.coords.trans (by rw [hcoords]; rfl)

theorem WroteFrames.framesAgree (hown : env.myCoords.entries.length ≤ 65535)
    (hdest : (env.destCoords dest).entries.length ≤ 65535)
    (hallowed : ∀ coords, allowed coords → OwnPair env dest coords ∨ coords = none)
    (hn : SendsUnder key dest n) (h : WroteFrames allowed key n n') :
    FramesAgree env dest allowed n n' := by
  obtain ⟨new, heffects, hnew⟩ := h
  refine ⟨new, heffects, fun e he => ?_⟩
  obtain ⟨nextHop, d, f, rfl, hpayload, hwrites⟩ := hnew e he
  exact ⟨nextHop, d, f, key, rfl, hpayload, hn, hwrites,
    readBack_of_writes hown hdest hallowed hwrites⟩

/-- Nothing is sent without an established session. -/
theorem wp_sendCoordsWarmup_nothing (hnone : ∀ key, ¬ SendsUnder key dest n) :
    wp (sendCoordsWarmup env dest : M SecretKey PublicKey ν μ SendError Unit)
      (fun _ => FramesAgree env dest allowed n) (fun _ => FramesAgree env dest allowed n) n := by
  unfold sendCoordsWarmup
  rw [wp_bind_iff, wp_read_iff, wp_bind_iff, wp_orElse_iff]
  refine ⟨fun e he => ?_, fun _ => ⟨[], (List.append_nil _).symm, List.forall_mem_nil _⟩⟩
  refine wp_mono (fun _ n' hn' => ?_) (fun _ n' hn' => ?_)
    (wp_sendSealed_effects env dest FSP_FLAG_CP _ _ _)
  · obtain ⟨payload, -, -, hpayload, -⟩ := hn'
    rw [sealedPayload_eq_none hnone] at hpayload
    cases hpayload
  · exact ⟨[], hn'.1.trans (List.append_nil _).symm, List.forall_mem_nil _⟩

theorem wp_sendSessionData_nothing (hnone : ∀ key, ¬ SendsUnder key dest n) (srcPort dstPort : Nat)
    (payload : Bytes) :
    wp (sendSessionData env dest srcPort dstPort payload : M SecretKey PublicKey ν μ SendError Unit)
      (fun _ => FramesAgree env dest allowed n) (fun _ => FramesAgree env dest allowed n) n := by
  have hsame : FramesAgree env dest allowed n n :=
    ⟨[], (List.append_nil _).symm, List.forall_mem_nil _⟩
  unfold sendSessionData
  rw [wp_bind_iff, wp_read_iff, wp_bind_iff, wp_orElse_iff]
  refine ⟨fun e he => ?_, fun _ => hsame⟩
  extract_lets
  rw [if_pos ?_]
  · exact hsame
  · rw [Bool.not_eq_true', ← Bool.not_eq_true]
    intro hestablished
    obtain ⟨session, hstate⟩ := SessionEntry.isEstablished_iff.mp hestablished
    exact hnone _ ⟨e, session, he, hstate, rfl⟩

/-- **The layout of frames with coordinates**: every frame that carries coordinates is read by the
transit nodes and by the receiver as its sender wrote it, and no coordinates are read in a frame
without the flag. -/
theorem coordFrames_agree (env : Env SecretKey) (dest : NodeAddr)
    (hown : env.myCoords.entries.length ≤ 65535)
    (hdest : (env.destCoords dest).entries.length ≤ 65535) :
    (∀ n : Node SecretKey PublicKey ν μ,
      wp (sendCoordsWarmup env dest) (fun _ => FramesAgree env dest (OwnPair env dest) n)
        (fun _ => FramesAgree env dest (OwnPair env dest) n) n) ∧
    (∀ (n : Node SecretKey PublicKey ν μ) (srcPort dstPort : Nat) (payload : Bytes),
      wp (sendSessionData env dest srcPort dstPort payload)
        (fun _ => FramesAgree env dest (fun coords => OwnPair env dest coords ∨ coords = none) n)
        (fun _ => FramesAgree env dest (fun coords => OwnPair env dest coords ∨ coords = none) n)
        n) ∧
    (∀ d : SessionDatagram, ∃ pathMtu,
      SessionDatagram.decode d.encode.tail = .ok { d with pathMtu := pathMtu }) ∧
    ∀ (payload : Bytes) (pre : FspCommonPrefix), FspCommonPrefix.parse payload = .ok pre →
      pre.phase = FSP_PHASE_ESTABLISHED → pre.hasCoords = false →
      NotRead SecretKey PublicKey ν μ payload := by
  refine ⟨fun n => ?_, fun n srcPort dstPort payload => ?_,
    fun d => ⟨_, SessionDatagram.decode_encode d⟩, fun _ _ => notRead_of_no_coords⟩
  · by_cases hn : ∃ key, SendsUnder key dest n
    · obtain ⟨key, hn⟩ := hn
      have hpair : OwnPair env dest (some (env.myCoords, env.destCoords dest)) := rfl
      exact wp_sendCoordsWarmup_frames env hpair hn fun n' h =>
        h.1.framesAgree hown hdest (fun _ h => .inl h) hn
    · exact wp_sendCoordsWarmup_nothing fun key h => hn ⟨key, h⟩
  · by_cases hn : ∃ key, SendsUnder key dest n
    · obtain ⟨key, hn⟩ := hn
      have hagree : ∀ n', WroteFrames (fun coords => OwnPair env dest coords ∨ coords = none) key n n' →
          FramesAgree env dest (fun coords => OwnPair env dest coords ∨ coords = none) n n' :=
        fun _ h => h.framesAgree hown hdest (fun _ h => h) hn
      exact wp_mono (fun _ => hagree) (fun _ => hagree)
        (wp_sendSessionData_frames env (.inl rfl) (.inr rfl) hn srcPort dstPort payload)
    · exact wp_sendSessionData_nothing (fun key h => hn ⟨key, h⟩) srcPort dstPort payload

end Agreement

end Node

/-! ## A small session -/

section Sample

open Sample

/-- Node 1, three steps below the root, and its session with node 2, two steps below. -/
def warmEnv : Env Scalar :=
  { Sample.env 1 0 ⟨7⟩ with
    myCoords := coordsBelow 1 [5, 4, 3]
    destCoords := fun _ => coordsBelow 2 [6, 3] }

/-- Node 1 in a session with node 2 that still owes a warmup. -/
def warmNode : Node Scalar Point Unit Unit := inSession 1 2 .initiator 5 6 1

/-- A warmup and a data packet with the coordinates in front, one frame each. -/
theorem coordFrames_agree_warmNode :
    ((Node.sendCoordsWarmup warmEnv (addr 2) warmNode).1.effects.length = 1 ∧
      Node.FramesAgree warmEnv (addr 2) (Node.OwnPair warmEnv (addr 2)) warmNode
        (Node.sendCoordsWarmup warmEnv (addr 2) warmNode).1) ∧
    (Node.sendSessionData warmEnv (addr 2) 0 0 [1, 2, 3] warmNode).1.effects.length = 1 ∧
      Node.FramesAgree warmEnv (addr 2)
        (fun coords => Node.OwnPair warmEnv (addr 2) coords ∨ coords = none) warmNode
        (Node.sendSessionData warmEnv (addr 2) 0 0 [1, 2, 3] warmNode).1 := by
  have hwarmup := (Node.coordFrames_agree warmEnv (addr 2) (by decide) (by decide)).1 warmNode
  have hdata :=
    (Node.coordFrames_agree warmEnv (addr 2) (by decide) (by decide)).2.1 warmNode 0 0 [1, 2, 3]
  exact ⟨⟨by decide +kernel, fst_of_wp hwarmup⟩, by decide +kernel, fst_of_wp hdata⟩

end Sample

end Fips
