import Fips.Noise.Cipher

/-!
# Frame headers

Model of the parts of `node/wire.rs` (link frames, FMP) and `node/session_wire.rs` (session
messages, FSP) that handlers parse and build. A parser returns `None` for a malformed frame, which
is `.error ()` here; every other stop of a parser would be an index out of bounds, and
`noPanic_parse` shows for each of them that there is none.

## Results

* `EncryptedHeader.noPanic_parse`, `FspCommonPrefix.noPanic_parse`,
  `FspEncryptedHeader.noPanic_parse`, `Msg1Header.noPanic_parse`, `noPanic_fspStripInnerHeader`: no
  parser stops the program.
* `Msg1Header.parse_buildMsg1`, `Msg2Header.parse_buildMsg2`: a handshake frame parses as it was built.
-/

open Checked

namespace Fips

/-- `len() < n` returns `None`. -/
def atLeast {ε : Type} (n : Nat) (data : Bytes) (e : ε) : Result ε Unit :=
  if data.length < n then .error (.error e) else .ok ()

theorem noPanic_atLeast {ε : Type} (n : Nat) (data : Bytes) (e : ε) :
    NoPanic (atLeast n data e) := by
  unfold atLeast
  split_ifs
  · exact noPanic_error e
  · exact noPanic_ok ()

@[simp] theorem atLeast_eq_ok {ε : Type} {n : Nat} {data : Bytes} {e : ε} {u : Unit} :
    atLeast n data e = .ok u ↔ n ≤ data.length := by
  unfold atLeast
  split_ifs with h
  · simp [h]
  · simp [Nat.not_lt.mp h]

/-- A check that returns early with `e`. -/
def check {ε : Type} (p : Bool) (e : ε) : Result ε Unit := if p then .ok () else .error (.error e)

theorem noPanic_check {ε : Type} (p : Bool) (e : ε) : NoPanic (check p e) := by
  unfold check
  split_ifs
  · exact noPanic_ok ()
  · exact noPanic_error e

@[simp] theorem check_eq_ok {ε : Type} {p : Bool} {e : ε} {u : Unit} :
    check p e = .ok u ↔ p = true := by
  unfold check
  split_ifs with h <;> simp [h]

/-! ## Link frames -/

/-- The version in the high nibble of a link frame. -/
def FMP_VERSION : UInt8 := 0

/-- The phase in the low nibble: an encrypted frame. -/
def PHASE_ESTABLISHED : UInt8 := 0x0

/-- Prefix, receiver index and counter. -/
def ESTABLISHED_HEADER_SIZE : Nat := 16

/-- A frame that holds a tag and nothing else. -/
def ENCRYPTED_MIN_SIZE : Nat := ESTABLISHED_HEADER_SIZE + TAG_SIZE

/-- The timestamp and the type byte that every plaintext begins with. -/
def INNER_HEADER_SIZE : Nat := 5

/-- The K-bit: the key the frame is under. -/
def FLAG_KEY_EPOCH : UInt8 := 0x01

/-- Congestion was experienced on the way. -/
def FLAG_CE : UInt8 := 0x02

/-- The spin bit. -/
def FLAG_SP : UInt8 := 0x04

/-- A session index (`utils/index.rs`), a `u32`. -/
abbrev SessionIndex := Nat

/-- `node/wire.rs:127-143`. -/
structure EncryptedHeader where
  flags : UInt8
  payloadLen : Nat
  receiverIdx : SessionIndex
  counter : Nat
  headerBytes : Bytes
  deriving DecidableEq

namespace EncryptedHeader

/-- `EncryptedHeader::parse`. A frame of another version or phase is no encrypted frame. -/
def parse (data : Bytes) : Result Unit EncryptedHeader := do
  atLeast ENCRYPTED_MIN_SIZE data ()
  let verPhase ← index data 0
  check (verPhase >>> 4 == FMP_VERSION && verPhase &&& 0x0F == PHASE_ESTABLISHED) ()
  let flags ← index data 1
  let payloadLen ← leAt data 2 2
  let receiverIdx ← leAt data 4 4
  let counter ← leAt data 8 8
  let headerBytes ← slice data 0 ESTABLISHED_HEADER_SIZE
  pure ⟨flags, payloadLen, receiverIdx, counter, headerBytes⟩

/-- `EncryptedHeader::ciphertext_offset`. -/
def ciphertextOffset (_ : EncryptedHeader) : Nat := ESTABLISHED_HEADER_SIZE

theorem noPanic_parse (data : Bytes) : NoPanic (parse data) := by
  unfold parse
  refine noPanic_bind (noPanic_atLeast _ _ _) fun _ h => ?_
  have hlen : 32 ≤ data.length := atLeast_eq_ok.mp h
  refine noPanic_bind (noPanic_index (by omega)) fun _ _ => ?_
  refine noPanic_bind (noPanic_check _ _) fun _ _ => ?_
  refine noPanic_bind (noPanic_index (by omega)) fun _ _ => ?_
  refine noPanic_bind (noPanic_leAt (by omega)) fun _ _ => ?_
  refine noPanic_bind (noPanic_leAt (by omega)) fun _ _ => ?_
  refine noPanic_bind (noPanic_leAt (by omega)) fun _ _ => ?_
  refine noPanic_bind (noPanic_slice (by omega) (by unfold ESTABLISHED_HEADER_SIZE; omega))
    fun _ _ => ?_
  exact noPanic_pure _

theorem length_of_parse {data : Bytes} {h : EncryptedHeader} (hparse : parse data = .ok h) :
    ENCRYPTED_MIN_SIZE ≤ data.length := by
  unfold parse at hparse
  obtain ⟨_, hlen, -⟩ := bind_eq_ok.mp hparse
  exact atLeast_eq_ok.mp hlen

end EncryptedHeader

/-- `build_established_header`. -/
def buildEstablishedHeader (receiverIdx : SessionIndex) (counter : Nat) (flags : UInt8)
    (payloadLen : Nat) : Bytes :=
  [0x00, flags] ++ leBytes 2 payloadLen ++ leBytes 4 receiverIdx ++ leBytes 8 counter

/-- `build_encrypted`. -/
def buildEncrypted (header ciphertext : Bytes) : Bytes := header ++ ciphertext

/-- `strip_inner_header`: the timestamp and the link message. -/
def stripInnerHeader (plaintext : Bytes) : Result Unit (Nat × Bytes) := do
  atLeast INNER_HEADER_SIZE plaintext ()
  let timestamp ← leAt plaintext 0 4
  let message ← sliceFrom plaintext 4
  pure (timestamp, message)

/-! ### Handshake frames -/

/-- The phase of a first handshake message. -/
def PHASE_MSG1 : UInt8 := 0x1

/-- The phase of a second handshake message. -/
def PHASE_MSG2 : UInt8 := 0x2

/-- Version and phase, flags and payload length. -/
def COMMON_PREFIX_SIZE : Nat := 4

/-- Prefix, sender index and Noise message. -/
def MSG1_WIRE_SIZE : Nat := COMMON_PREFIX_SIZE + 4 + HANDSHAKE_MSG1_SIZE

/-- Prefix, sender index, receiver index and Noise message. -/
def MSG2_WIRE_SIZE : Nat := COMMON_PREFIX_SIZE + 4 + 4 + HANDSHAKE_MSG2_SIZE

/-- `node/wire.rs:205-210`. -/
structure Msg1Header where
  senderIdx : SessionIndex
  noiseMsg1Offset : Nat
  deriving DecidableEq

/-- `node/wire.rs:259-266`. -/
structure Msg2Header where
  senderIdx : SessionIndex
  receiverIdx : SessionIndex
  noiseMsg2Offset : Nat
  deriving DecidableEq

/-- The checks common to the two parsers: the exact size, version and phase, no flags. -/
def checkHandshakeFrame (size : Nat) (phase : UInt8) (data : Bytes) : Result Unit Unit := do
  check (data.length == size) ()
  let verPhase ← index data 0
  check (verPhase >>> 4 == FMP_VERSION && verPhase &&& 0x0F == phase) ()
  let flags ← index data 1
  check (flags == 0) ()

/-- `Msg1Header::parse`, of a frame of exactly the size of a msg1. -/
def Msg1Header.parse (data : Bytes) : Result Unit Msg1Header := do
  checkHandshakeFrame MSG1_WIRE_SIZE PHASE_MSG1 data
  let senderIdx ← leAt data 4 4
  pure ⟨senderIdx, COMMON_PREFIX_SIZE + 4⟩

/-- `Msg2Header::parse`, of a frame of exactly the size of a msg2. -/
def Msg2Header.parse (data : Bytes) : Result Unit Msg2Header := do
  checkHandshakeFrame MSG2_WIRE_SIZE PHASE_MSG2 data
  let senderIdx ← leAt data 4 4
  let receiverIdx ← leAt data 8 4
  pure ⟨senderIdx, receiverIdx, COMMON_PREFIX_SIZE + 4 + 4⟩

theorem noPanic_checkHandshakeFrame {size : Nat} (hsize : 2 ≤ size) (phase : UInt8) (data : Bytes) :
    NoPanic (checkHandshakeFrame size phase data) := by
  unfold checkHandshakeFrame
  refine noPanic_bind (noPanic_check _ _) fun _ h => ?_
  have hlen : data.length = size := by simpa using check_eq_ok.mp h
  refine noPanic_bind (noPanic_index (by omega)) fun _ _ => ?_
  refine noPanic_bind (noPanic_check _ _) fun _ _ => ?_
  exact noPanic_bind (noPanic_index (by omega)) fun _ _ => noPanic_check _ _

theorem length_of_checkHandshakeFrame {size : Nat} {phase : UInt8} {data : Bytes}
    (h : checkHandshakeFrame size phase data = .ok ()) : data.length = size := by
  unfold checkHandshakeFrame at h
  obtain ⟨_, hlen, -⟩ := bind_eq_ok.mp h
  simpa using check_eq_ok.mp hlen

theorem Msg1Header.noPanic_parse (data : Bytes) : NoPanic (Msg1Header.parse data) := by
  unfold Msg1Header.parse
  refine noPanic_bind (noPanic_checkHandshakeFrame (by decide) _ _) fun _ h => ?_
  have hlen : data.length = 114 := length_of_checkHandshakeFrame h
  exact noPanic_bind (noPanic_leAt (by omega)) fun _ _ => noPanic_pure _

/-- The Noise message lies in the frame. -/
theorem Msg1Header.offset_le_of_parse {data : Bytes} {header : Msg1Header}
    (h : Msg1Header.parse data = .ok header) : header.noiseMsg1Offset ≤ data.length := by
  unfold Msg1Header.parse at h
  obtain ⟨_, hframe, h⟩ := bind_eq_ok.mp h
  obtain ⟨_, -, h⟩ := bind_eq_ok.mp h
  have hlen : data.length = 114 := length_of_checkHandshakeFrame hframe
  have hoffset : COMMON_PREFIX_SIZE + 4 ≤ 114 := by decide
  cases h
  rw [hlen]
  exact hoffset

/-- `build_msg1`. -/
def buildMsg1 (senderIdx : SessionIndex) (noiseMsg1 : Bytes) : Bytes :=
  [PHASE_MSG1, 0x00] ++ leBytes 2 (4 + noiseMsg1.length) ++ leBytes 4 senderIdx ++ noiseMsg1

/-- `build_msg2`. -/
def buildMsg2 (senderIdx receiverIdx : SessionIndex) (noiseMsg2 : Bytes) : Bytes :=
  [PHASE_MSG2, 0x00] ++ leBytes 2 (4 + 4 + noiseMsg2.length) ++ leBytes 4 senderIdx ++
    leBytes 4 receiverIdx ++ noiseMsg2

theorem checkHandshakeFrame_append {size : Nat} {phase : UInt8} {rest : Bytes}
    (hsize : rest.length + 2 = size)
    (hphase : phase >>> 4 == FMP_VERSION && phase &&& 0x0F == phase) :
    checkHandshakeFrame size phase ([phase, 0x00] ++ rest) = .ok () := by
  have hlen : ([phase, 0x00] ++ rest).length = size := by
    rw [List.length_append]
    exact (Nat.add_comm 2 _).trans hsize
  unfold checkHandshakeFrame
  simp only [bind_eq_ok, check_eq_ok, beq_iff_eq]
  exact ⟨(), hlen, phase, rfl, (), hphase, 0, rfl, rfl⟩

/-- A msg1 parses as it was built. -/
theorem Msg1Header.parse_buildMsg1 {senderIdx : SessionIndex} {noiseMsg1 : Bytes}
    (hindex : senderIdx < 256 ^ 4) (hlen : noiseMsg1.length = HANDSHAKE_MSG1_SIZE) :
    Msg1Header.parse (buildMsg1 senderIdx noiseMsg1) = .ok ⟨senderIdx, COMMON_PREFIX_SIZE + 4⟩ ∧
      (sliceFrom (buildMsg1 senderIdx noiseMsg1) (COMMON_PREFIX_SIZE + 4) : Result Unit Bytes) =
        .ok noiseMsg1 := by
  have hframe : buildMsg1 senderIdx noiseMsg1 = [PHASE_MSG1, 0x00] ++
      (leBytes 2 (4 + noiseMsg1.length) ++ leBytes 4 senderIdx ++ noiseMsg1) := by
    simp only [buildMsg1, List.append_assoc]
  have hcheck : checkHandshakeFrame MSG1_WIRE_SIZE PHASE_MSG1 (buildMsg1 senderIdx noiseMsg1) = .ok () := by
    rw [hframe]
    refine checkHandshakeFrame_append ?_ (by decide)
    rw [List.length_append, List.length_append, length_leBytes, length_leBytes, hlen]
    rfl
  refine ⟨?_, sliceFrom_append (by simp [COMMON_PREFIX_SIZE])⟩
  have hsender : (leAt (buildMsg1 senderIdx noiseMsg1) 4 4 : Result Unit Nat) = .ok senderIdx :=
    leAt_append (by simp) hindex
  unfold Msg1Header.parse
  rw [hcheck, ok_bind, hsender, ok_bind]
  rfl

/-- A msg2 parses as it was built. -/
theorem Msg2Header.parse_buildMsg2 {senderIdx receiverIdx : SessionIndex} {noiseMsg2 : Bytes}
    (hsender : senderIdx < 256 ^ 4) (hreceiver : receiverIdx < 256 ^ 4)
    (hlen : noiseMsg2.length = HANDSHAKE_MSG2_SIZE) :
    Msg2Header.parse (buildMsg2 senderIdx receiverIdx noiseMsg2) =
        .ok ⟨senderIdx, receiverIdx, COMMON_PREFIX_SIZE + 4 + 4⟩ ∧
      (sliceFrom (buildMsg2 senderIdx receiverIdx noiseMsg2) (COMMON_PREFIX_SIZE + 4 + 4) :
        Result Unit Bytes) = .ok noiseMsg2 := by
  have hframe : buildMsg2 senderIdx receiverIdx noiseMsg2 = [PHASE_MSG2, 0x00] ++
      (leBytes 2 (4 + 4 + noiseMsg2.length) ++ leBytes 4 senderIdx ++ leBytes 4 receiverIdx ++
        noiseMsg2) := by
    simp only [buildMsg2, List.append_assoc]
  have hcheck : checkHandshakeFrame MSG2_WIRE_SIZE PHASE_MSG2
      (buildMsg2 senderIdx receiverIdx noiseMsg2) = .ok () := by
    rw [hframe]
    refine checkHandshakeFrame_append ?_ (by decide)
    simp only [List.length_append, length_leBytes, hlen]
    rfl
  refine ⟨?_, sliceFrom_append (by simp [COMMON_PREFIX_SIZE])⟩
  have hfirst : (leAt (buildMsg2 senderIdx receiverIdx noiseMsg2) 4 4 : Result Unit Nat) =
      .ok senderIdx := by
    unfold buildMsg2
    rw [List.append_assoc (_ ++ leBytes 4 senderIdx)]
    exact leAt_append (by simp) hsender
  have hsecond : (leAt (buildMsg2 senderIdx receiverIdx noiseMsg2) 8 4 : Result Unit Nat) =
      .ok receiverIdx := leAt_append (by simp) hreceiver
  unfold Msg2Header.parse
  rw [hcheck, ok_bind, hfirst, ok_bind, hsecond, ok_bind]
  rfl

/-! ## Session messages -/

/-- The version in the high nibble of a session message. -/
def FSP_VERSION : UInt8 := 0

/-- The phase in the low nibble: an encrypted frame, or an error signal in clear. -/
def FSP_PHASE_ESTABLISHED : UInt8 := 0x0

/-- The phase of a `SessionSetup`. -/
def FSP_PHASE_MSG1 : UInt8 := 0x1

/-- The phase of a `SessionAck`. -/
def FSP_PHASE_MSG2 : UInt8 := 0x2

/-- The phase of a `SessionMsg3`. -/
def FSP_PHASE_MSG3 : UInt8 := 0x3

/-- Version and phase, flags and payload length. -/
def FSP_COMMON_PREFIX_SIZE : Nat := 4

/-- Prefix and counter, which are the additional data of a frame. -/
def FSP_HEADER_SIZE : Nat := 12

/-- The timestamp, the type and the flags that every plaintext begins with. -/
def FSP_INNER_HEADER_SIZE : Nat := 6

/-- A frame that holds a tag and nothing else. -/
def FSP_ENCRYPTED_MIN_SIZE : Nat := FSP_HEADER_SIZE + TAG_SIZE

/-- The two ports in front of the payload of a data packet. -/
def FSP_PORT_HEADER_SIZE : Nat := 4

/-- The port of the IPv6 shim. -/
def FSP_PORT_IPV6_SHIM : Nat := 256

/-- Coordinates stand between the header and the ciphertext. -/
def FSP_FLAG_CP : UInt8 := 0x01

/-- The K-bit of the session. -/
def FSP_FLAG_K : UInt8 := 0x02

/-- The message is not encrypted. -/
def FSP_FLAG_U : UInt8 := 0x04

/-- `node/session_wire.rs:104-118`. The version is parsed and not looked at. -/
structure FspCommonPrefix where
  version : UInt8
  phase : UInt8
  flags : UInt8
  payloadLen : Nat
  deriving DecidableEq

namespace FspCommonPrefix

/-- `FspCommonPrefix::parse`. Any version and phase is taken. -/
def parse (data : Bytes) : Result Unit FspCommonPrefix := do
  atLeast FSP_COMMON_PREFIX_SIZE data ()
  let verPhase ← index data 0
  let flags ← index data 1
  let payloadLen ← leAt data 2 2
  pure ⟨verPhase >>> 4, verPhase &&& 0x0F, flags, payloadLen⟩

/-- `FspCommonPrefix::is_unencrypted`. -/
def isUnencrypted (p : FspCommonPrefix) : Bool := hasFlag p.flags FSP_FLAG_U

/-- `FspCommonPrefix::has_coords`. -/
def hasCoords (p : FspCommonPrefix) : Bool := hasFlag p.flags FSP_FLAG_CP

theorem noPanic_parse (data : Bytes) : NoPanic (parse data) := by
  unfold parse
  refine noPanic_bind (noPanic_atLeast _ _ _) fun _ h => ?_
  have hlen : 4 ≤ data.length := atLeast_eq_ok.mp h
  refine noPanic_bind (noPanic_index (by omega)) fun _ _ => ?_
  refine noPanic_bind (noPanic_index (by omega)) fun _ _ => ?_
  refine noPanic_bind (noPanic_leAt (by omega)) fun _ _ => ?_
  exact noPanic_pure _

theorem length_of_parse {data : Bytes} {p : FspCommonPrefix} (hparse : parse data = .ok p) :
    FSP_COMMON_PREFIX_SIZE ≤ data.length := by
  unfold parse at hparse
  obtain ⟨_, hlen, -⟩ := bind_eq_ok.mp hparse
  exact atLeast_eq_ok.mp hlen

end FspCommonPrefix

/-- `node/session_wire.rs:176-189`. -/
structure FspEncryptedHeader where
  flags : UInt8
  payloadLen : Nat
  counter : Nat
  headerBytes : Bytes
  deriving DecidableEq

namespace FspEncryptedHeader

/-- `FspEncryptedHeader::parse`, which takes no message in clear. -/
def parse (data : Bytes) : Result Unit FspEncryptedHeader := do
  atLeast FSP_ENCRYPTED_MIN_SIZE data ()
  let verPhase ← index data 0
  check (verPhase >>> 4 == FSP_VERSION && verPhase &&& 0x0F == FSP_PHASE_ESTABLISHED) ()
  let flags ← index data 1
  check (!hasFlag flags FSP_FLAG_U) ()
  let payloadLen ← leAt data 2 2
  let counter ← leAt data 4 8
  let headerBytes ← slice data 0 FSP_HEADER_SIZE
  pure ⟨flags, payloadLen, counter, headerBytes⟩

/-- `FspEncryptedHeader::has_coords`. -/
def hasCoords (h : FspEncryptedHeader) : Bool := hasFlag h.flags FSP_FLAG_CP

theorem noPanic_parse (data : Bytes) : NoPanic (parse data) := by
  unfold parse
  refine noPanic_bind (noPanic_atLeast _ _ _) fun _ h => ?_
  have hlen : 28 ≤ data.length := atLeast_eq_ok.mp h
  refine noPanic_bind (noPanic_index (by omega)) fun _ _ => ?_
  refine noPanic_bind (noPanic_check _ _) fun _ _ => ?_
  refine noPanic_bind (noPanic_index (by omega)) fun _ _ => ?_
  refine noPanic_bind (noPanic_check _ _) fun _ _ => ?_
  refine noPanic_bind (noPanic_leAt (by omega)) fun _ _ => ?_
  refine noPanic_bind (noPanic_leAt (by omega)) fun _ _ => ?_
  refine noPanic_bind (noPanic_slice (by omega) (by unfold FSP_HEADER_SIZE; omega)) fun _ _ => ?_
  exact noPanic_pure _

theorem length_of_parse {data : Bytes} {h : FspEncryptedHeader} (hparse : parse data = .ok h) :
    FSP_ENCRYPTED_MIN_SIZE ≤ data.length := by
  unfold parse at hparse
  obtain ⟨_, hlen, -⟩ := bind_eq_ok.mp hparse
  exact atLeast_eq_ok.mp hlen

end FspEncryptedHeader

/-- `build_fsp_header`. -/
def buildFspHeader (counter : Nat) (flags : UInt8) (payloadLen : Nat) : Bytes :=
  [0x00, flags] ++ leBytes 2 payloadLen ++ leBytes 8 counter

/-- `fsp_prepend_inner_header`. -/
def fspPrependInnerHeader (timestampMs : Nat) (msgType innerFlags : UInt8) (payload : Bytes) :
    Bytes :=
  leBytes 4 timestampMs ++ [msgType, innerFlags] ++ payload

/-- What `fsp_strip_inner_header` returns. -/
structure FspInner where
  timestamp : Nat
  msgType : UInt8
  innerFlags : UInt8
  rest : Bytes

/-- `fsp_strip_inner_header`: the parts of a plaintext. -/
def fspStripInnerHeader (plaintext : Bytes) : Result Unit FspInner := do
  atLeast FSP_INNER_HEADER_SIZE plaintext ()
  let timestamp ← leAt plaintext 0 4
  let msgType ← index plaintext 4
  let innerFlags ← index plaintext 5
  let rest ← sliceFrom plaintext FSP_INNER_HEADER_SIZE
  pure ⟨timestamp, msgType, innerFlags, rest⟩

theorem noPanic_fspStripInnerHeader (plaintext : Bytes) :
    NoPanic (fspStripInnerHeader plaintext) := by
  unfold fspStripInnerHeader
  refine noPanic_bind (noPanic_atLeast _ _ _) fun _ h => ?_
  have hlen : 6 ≤ plaintext.length := atLeast_eq_ok.mp h
  refine noPanic_bind (noPanic_leAt (by omega)) fun _ _ => ?_
  refine noPanic_bind (noPanic_index (by omega)) fun _ _ => ?_
  refine noPanic_bind (noPanic_index (by omega)) fun _ _ => ?_
  refine noPanic_bind (noPanic_sliceFrom (by unfold FSP_INNER_HEADER_SIZE; omega)) fun _ _ => ?_
  exact noPanic_pure _

end Fips
