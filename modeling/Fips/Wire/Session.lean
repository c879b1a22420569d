import Fips.Tree.Coordinate
import Fips.Wire.Header

/-!
# Session-layer messages

Model of `protocol/session.rs` and of the `SessionDatagram` envelope (`protocol/link.rs:262-371`).
A decoder returns the source's `ProtocolError`, or stops the program where one of its reads leaves
the message.

An address on the wire is 16 bytes in big-endian order. Coordinates travel as addresses only; a
decoded coordinate has sequence and timestamp 0.

## Results

* `noPanic_decodeCoords`, `noPanic_parseEncryptedCoords` and `noPanic_decode` of every message: no
  decoder stops the program, whatever the bytes.
* `SessionDatagram.decode_eq`: when a datagram decodes, and to what.
-/

open Checked

namespace Fips

/-- `protocol/error.rs`. -/
inductive ProtocolError
  | messageTooShort (expected got : Nat)
  | invalidSignature
  | unsupportedVersion (version : UInt8)
  | malformed (reason : String)
  deriving DecidableEq, Repr

/-- `len() < n` returns `MessageTooShort`. -/
def longEnough (n : Nat) (data : Bytes) : Result ProtocolError Unit :=
  atLeast n data (.messageTooShort n data.length)

theorem noPanic_longEnough (n : Nat) (data : Bytes) : NoPanic (longEnough n data) :=
  noPanic_atLeast _ _ _

@[simp] theorem longEnough_eq_ok {n : Nat} {data : Bytes} {u : Unit} :
    longEnough n data = .ok u ↔ n ≤ data.length := atLeast_eq_ok

/-- `NodeAddr::from_bytes`. -/
def NodeAddr.fromBytes (bytes : Bytes) : NodeAddr := ⟨BitVec.ofNat 128 (leNat bytes.reverse)⟩

/-- The address at offset `i`. -/
def addrAt {ε : Type} (data : Bytes) (i : Nat) : Result ε NodeAddr := do
  let bytes ← slice data i (i + 16)
  pure (NodeAddr.fromBytes bytes)

theorem noPanic_addrAt {ε : Type} {data : Bytes} {i : Nat} (h : i + 16 ≤ data.length) :
    NoPanic (addrAt data i : Result ε NodeAddr) :=
  noPanic_bind (noPanic_slice (Nat.le_add_right i 16) h) fun _ _ => noPanic_pure _

/-! ## Coordinates -/

/-- `CoordEntry::addr_only`: an entry without sequence number and timestamp, which is all the wire
carries. -/
def CoordEntry.addrOnly (addr : NodeAddr) : CoordEntry := ⟨addr, 0, 0⟩

/-- `TreeCoordinate::from_addrs`, which fails on no addresses. -/
def TreeCoordinate.fromAddrs (addrs : List NodeAddr) : Except TreeError TreeCoordinate :=
  TreeCoordinate.new (addrs.map CoordEntry.addrOnly)

/-- `coords_wire_size`: a two-byte count and 16 bytes for each address. -/
def coordsWireSize (coords : TreeCoordinate) : Nat := 2 + coords.entries.length * 16

/-- `encode_coords`. The count is cast to 16 bits, the addresses are all written. -/
def encodeCoords (coords : TreeCoordinate) : Bytes :=
  leBytes 2 coords.nodeAddrs.length ++ (coords.nodeAddrs.map NodeAddr.bytes).flatten

/-- The loop of the decoders: `n` addresses from `offset` on. -/
def coordAddrs {ε : Type} (data : Bytes) : Nat → Nat → Result ε (List NodeAddr)
  | 0, _ => pure []
  | n + 1, offset => do
    let addr ← addrAt data offset
    let addrs ← coordAddrs data n (offset + 16)
    pure (addr :: addrs)

theorem noPanic_coordAddrs {ε : Type} {data : Bytes} (n : Nat) {offset : Nat}
    (h : offset + n * 16 ≤ data.length) :
    NoPanic (coordAddrs data n offset : Result ε (List NodeAddr)) := by
  induction n generalizing offset with
  | zero => exact noPanic_pure _
  | succ n ih =>
    refine noPanic_bind (noPanic_addrAt (by omega)) fun _ _ => ?_
    refine noPanic_bind (ih (by omega)) fun _ _ => ?_
    exact noPanic_pure _

/-- The coordinate of `count` addresses. The text is that of the one error `TreeCoordinate::new`
returns. -/
def coordsOf (data : Bytes) (count : Nat) : Result ProtocolError TreeCoordinate := do
  let addrs ← coordAddrs data count 2
  Checked.ofExcept ((TreeCoordinate.fromAddrs addrs).mapError fun _ =>
    ProtocolError.malformed "invalid tree coordinate: empty path")

theorem noPanic_coordsOf {data : Bytes} {count : Nat} (h : 2 + count * 16 ≤ data.length) :
    NoPanic (coordsOf data count) :=
  noPanic_bind (noPanic_coordAddrs count h) fun _ _ => noPanic_ofExcept _

/-- `decode_coords`: the coordinates and how many bytes they took. No addresses is an error. -/
def decodeCoords (data : Bytes) : Result ProtocolError (TreeCoordinate × Nat) := do
  longEnough 2 data
  let count ← leAt data 0 2
  let needed := 2 + count * 16
  longEnough needed data
  check (count != 0) (.malformed "coordinate with zero entries")
  let coord ← coordsOf data count
  pure (coord, needed)

theorem noPanic_decodeCoords (data : Bytes) : NoPanic (decodeCoords data) := by
  unfold decodeCoords
  refine noPanic_bind (noPanic_longEnough _ _) fun _ h => ?_
  refine noPanic_bind (noPanic_leAt (longEnough_eq_ok.mp h)) fun count _ => ?_
  refine noPanic_bind (noPanic_longEnough _ _) fun _ h => ?_
  refine noPanic_bind (noPanic_check _ _) fun _ _ => ?_
  refine noPanic_bind (noPanic_coordsOf (longEnough_eq_ok.mp h)) fun _ _ => ?_
  exact noPanic_pure _

/-- What a coordinate took lies inside the data. -/
theorem le_length_of_decodeCoords {data : Bytes} {coord : TreeCoordinate} {consumed : Nat}
    (h : decodeCoords data = .ok (coord, consumed)) : consumed ≤ data.length := by
  unfold decodeCoords at h
  obtain ⟨_, -, h⟩ := bind_eq_ok.mp h
  obtain ⟨count, -, h⟩ := bind_eq_ok.mp h
  obtain ⟨_, hlen, h⟩ := bind_eq_ok.mp h
  obtain ⟨_, -, h⟩ := bind_eq_ok.mp h
  obtain ⟨_, -, h⟩ := bind_eq_ok.mp h
  cases h
  exact longEnough_eq_ok.mp hlen

/-- `decode_optional_coords`: a count of zero stands for no coordinates. -/
def decodeOptionalCoords (data : Bytes) : Result ProtocolError (Option TreeCoordinate × Nat) := do
  longEnough 2 data
  let count ← leAt data 0 2
  let needed := 2 + count * 16
  longEnough needed data
  if count == 0 then pure (none, 2)
  else do
    let coord ← coordsOf data count
    pure (some coord, needed)

theorem noPanic_decodeOptionalCoords (data : Bytes) : NoPanic (decodeOptionalCoords data) := by
  unfold decodeOptionalCoords
  refine noPanic_bind (noPanic_longEnough _ _) fun _ h => ?_
  refine noPanic_bind (noPanic_leAt (longEnough_eq_ok.mp h)) fun count _ => ?_
  refine noPanic_bind (noPanic_longEnough _ _) fun _ h => ?_
  split_ifs
  · exact noPanic_pure _
  · refine noPanic_bind (noPanic_coordsOf (longEnough_eq_ok.mp h)) fun _ _ => ?_
    exact noPanic_pure _

theorem le_length_of_decodeOptionalCoords {data : Bytes} {coord : Option TreeCoordinate}
    {consumed : Nat} (h : decodeOptionalCoords data = .ok (coord, consumed)) :
    consumed ≤ data.length := by
  unfold decodeOptionalCoords at h
  obtain ⟨_, htwo, h⟩ := bind_eq_ok.mp h
  obtain ⟨count, -, h⟩ := bind_eq_ok.mp h
  obtain ⟨_, hlen, h⟩ := bind_eq_ok.mp h
  split_ifs at h
  · cases h
    exact longEnough_eq_ok.mp htwo
  · obtain ⟨_, -, h⟩ := bind_eq_ok.mp h
    cases h
    exact longEnough_eq_ok.mp hlen

/-- `parse_encrypted_coords`. -/
def parseEncryptedCoords (data : Bytes) :
    Result ProtocolError (Option TreeCoordinate × Option TreeCoordinate × Nat) := do
  let (srcCoords, srcConsumed) ← decodeOptionalCoords data
  let rest ← sliceFrom data srcConsumed
  let (destCoords, destConsumed) ← decodeOptionalCoords rest
  pure (srcCoords, destCoords, srcConsumed + destConsumed)

theorem noPanic_parseEncryptedCoords (data : Bytes) : NoPanic (parseEncryptedCoords data) := by
  unfold parseEncryptedCoords
  refine noPanic_bind (noPanic_decodeOptionalCoords data) fun src h => ?_
  have hsrc : src.2 ≤ data.length := le_length_of_decodeOptionalCoords h
  refine noPanic_bind (noPanic_sliceFrom hsrc) fun _ _ => ?_
  refine noPanic_bind (noPanic_decodeOptionalCoords _) fun _ _ => ?_
  exact noPanic_pure _

theorem le_length_of_parseEncryptedCoords {data : Bytes} {src dest : Option TreeCoordinate}
    {consumed : Nat} (h : parseEncryptedCoords data = .ok (src, dest, consumed)) :
    consumed ≤ data.length := by
  unfold parseEncryptedCoords at h
  obtain ⟨⟨src', n⟩, -, h⟩ := bind_eq_ok.mp h
  obtain ⟨rest, hrest, h⟩ := bind_eq_ok.mp h
  obtain ⟨⟨dest', m⟩, hdest, h⟩ := bind_eq_ok.mp h
  have hm : m ≤ rest.length := le_length_of_decodeOptionalCoords hdest
  cases h
  unfold sliceFrom at hrest
  split_ifs at hrest with hn
  cases hrest
  rw [List.length_drop] at hm
  omega

/-! ## Handshake messages -/

/-- `protocol/session.rs:186-232`. -/
structure SessionFlags where
  requestAck : Bool
  bidirectional : Bool
  deriving DecidableEq, Repr

namespace SessionFlags

/-- `SessionFlags::new`. -/
def new : SessionFlags := ⟨false, false⟩

/-- `SessionFlags::to_byte`. -/
def toByte (f : SessionFlags) : UInt8 :=
  (if f.requestAck then 0x01 else 0) ||| (if f.bidirectional then 0x02 else 0)

/-- `SessionFlags::from_byte`, which ignores the other six bits. -/
def fromByte (byte : UInt8) : SessionFlags := ⟨hasFlag byte 0x01, hasFlag byte 0x02⟩

end SessionFlags

/-- The length-prefixed Noise payload at the end of the three handshake messages. -/
def handshakeAt (payload : Bytes) (offset : Nat) : Result ProtocolError Bytes := do
  longEnough (offset + 2) payload
  let hsLen ← leAt payload offset 2
  longEnough (offset + 2 + hsLen) payload
  slice payload (offset + 2) (offset + 2 + hsLen)

theorem noPanic_handshakeAt (payload : Bytes) (offset : Nat) :
    NoPanic (handshakeAt payload offset) := by
  unfold handshakeAt
  refine noPanic_bind (noPanic_longEnough _ _) fun _ h => ?_
  refine noPanic_bind (noPanic_leAt (longEnough_eq_ok.mp h)) fun hsLen _ => ?_
  refine noPanic_bind (noPanic_longEnough _ _) fun _ h => ?_
  exact noPanic_slice (by omega) (longEnough_eq_ok.mp h)

/-- The two coordinates after the flags byte of a setup or an ack, and the offset behind them. -/
def coordPairAt (payload : Bytes) :
    Result ProtocolError (TreeCoordinate × TreeCoordinate × Nat) := do
  let rest ← sliceFrom payload 1
  let (srcCoords, srcConsumed) ← decodeCoords rest
  let rest ← sliceFrom payload (1 + srcConsumed)
  let (destCoords, destConsumed) ← decodeCoords rest
  pure (srcCoords, destCoords, 1 + srcConsumed + destConsumed)

theorem noPanic_coordPairAt {payload : Bytes} (h : 1 ≤ payload.length) :
    NoPanic (coordPairAt payload) := by
  unfold coordPairAt
  refine noPanic_bind (noPanic_sliceFrom h) fun rest hrest => ?_
  refine noPanic_bind (noPanic_decodeCoords _) fun src hsrc => ?_
  have hle : src.2 ≤ rest.length := le_length_of_decodeCoords hsrc
  have hlen : rest.length = payload.length - 1 := by
    unfold sliceFrom at hrest
    rw [if_pos h] at hrest
    cases hrest
    exact List.length_drop
  refine noPanic_bind (noPanic_sliceFrom (by omega)) fun _ _ => ?_
  refine noPanic_bind (noPanic_decodeCoords _) fun _ _ => ?_
  exact noPanic_pure _

/-- The four-byte prefix of a message of one phase in front of its body. -/
def withPrefix (phase flags : UInt8) (body : Bytes) : Bytes :=
  [phase, flags] ++ leBytes 2 body.length ++ body

/-- A handshake message behind its two-byte length, as all three session messages end. -/
def lengthPrefixed (handshakePayload : Bytes) : Bytes :=
  leBytes 2 handshakePayload.length ++ handshakePayload

/-- `protocol/session.rs:340-350`. -/
structure SessionSetup where
  srcCoords : TreeCoordinate
  destCoords : TreeCoordinate
  flags : SessionFlags
  handshakePayload : Bytes
  deriving DecidableEq

namespace SessionSetup

/-- `SessionSetup::new`. -/
def new (srcCoords destCoords : TreeCoordinate) : SessionSetup :=
  ⟨srcCoords, destCoords, SessionFlags.new, []⟩

/-- `SessionSetup::with_handshake`. -/
def withHandshake (s : SessionSetup) (payload : Bytes) : SessionSetup :=
  { s with handshakePayload := payload }

/-- `SessionSetup::encode`. -/
def encode (s : SessionSetup) : Bytes :=
  withPrefix FSP_PHASE_MSG1 0x00 ([s.flags.toByte] ++ encodeCoords s.srcCoords ++
    encodeCoords s.destCoords ++ lengthPrefixed s.handshakePayload)

/-- `SessionSetup::decode`, of what follows the common prefix. -/
def decode (payload : Bytes) : Result ProtocolError SessionSetup := do
  longEnough 1 payload
  let flags ← index payload 0
  let (srcCoords, destCoords, offset) ← coordPairAt payload
  let handshakePayload ← handshakeAt payload offset
  pure ⟨srcCoords, destCoords, SessionFlags.fromByte flags, handshakePayload⟩

theorem noPanic_decode (payload : Bytes) : NoPanic (decode payload) := by
  unfold decode
  refine noPanic_bind (noPanic_longEnough _ _) fun _ h => ?_
  have hlen : 1 ≤ payload.length := longEnough_eq_ok.mp h
  refine noPanic_bind (noPanic_index (by omega)) fun _ _ => ?_
  refine noPanic_bind (noPanic_coordPairAt hlen) fun _ _ => ?_
  refine noPanic_bind (noPanic_handshakeAt _ _) fun _ _ => ?_
  exact noPanic_pure _

end SessionSetup

/-- `protocol/session.rs:459-469`. -/
structure SessionAck where
  srcCoords : TreeCoordinate
  destCoords : TreeCoordinate
  flags : UInt8
  handshakePayload : Bytes
  deriving DecidableEq

namespace SessionAck

/-- `SessionAck::new`. -/
def new (srcCoords destCoords : TreeCoordinate) : SessionAck := ⟨srcCoords, destCoords, 0, []⟩

/-- `SessionAck::with_handshake`. -/
def withHandshake (a : SessionAck) (payload : Bytes) : SessionAck :=
  { a with handshakePayload := payload }

/-- `SessionAck::encode`. -/
def encode (a : SessionAck) : Bytes :=
  withPrefix FSP_PHASE_MSG2 0x00 ([a.flags] ++ encodeCoords a.srcCoords ++
    encodeCoords a.destCoords ++ lengthPrefixed a.handshakePayload)

/-- `SessionAck::decode`, of what follows the common prefix. -/
def decode (payload : Bytes) : Result ProtocolError SessionAck := do
  longEnough 1 payload
  let flags ← index payload 0
  let (srcCoords, destCoords, offset) ← coordPairAt payload
  let handshakePayload ← handshakeAt payload offset
  pure ⟨srcCoords, destCoords, flags, handshakePayload⟩

theorem noPanic_decode (payload : Bytes) : NoPanic (decode payload) := by
  unfold decode
  refine noPanic_bind (noPanic_longEnough _ _) fun _ h => ?_
  have hlen : 1 ≤ payload.length := longEnough_eq_ok.mp h
  refine noPanic_bind (noPanic_index (by omega)) fun _ _ => ?_
  refine noPanic_bind (noPanic_coordPairAt hlen) fun _ _ => ?_
  refine noPanic_bind (noPanic_handshakeAt _ _) fun _ _ => ?_
  exact noPanic_pure _

end SessionAck

/-- `protocol/session.rs:586-592`. -/
structure SessionMsg3 where
  flags : UInt8
  handshakePayload : Bytes
  deriving DecidableEq

namespace SessionMsg3

/-- `SessionMsg3::new`. -/
def new (handshakePayload : Bytes) : SessionMsg3 := ⟨0, handshakePayload⟩

/-- `SessionMsg3::encode`. -/
def encode (m : SessionMsg3) : Bytes :=
  withPrefix FSP_PHASE_MSG3 0x00 ([m.flags] ++ lengthPrefixed m.handshakePayload)

/-- `SessionMsg3::decode`, of what follows the common prefix. -/
def decode (payload : Bytes) : Result ProtocolError SessionMsg3 := do
  longEnough 1 payload
  let flags ← index payload 0
  let handshakePayload ← handshakeAt payload 1
  pure ⟨flags, handshakePayload⟩

theorem noPanic_decode (payload : Bytes) : NoPanic (decode payload) := by
  unfold decode
  refine noPanic_bind (noPanic_longEnough _ _) fun _ h => ?_
  have hlen : 1 ≤ payload.length := longEnough_eq_ok.mp h
  refine noPanic_bind (noPanic_index (by omega)) fun _ _ => ?_
  refine noPanic_bind (noPanic_handshakeAt _ _) fun _ _ => ?_
  exact noPanic_pure _

end SessionMsg3

/-! ## Messages inside a session -/

/-- `protocol/session.rs:22-52`. -/
inductive SessionMessageType
  | sessionSetup
  | sessionAck
  | dataPacket
  | senderReport
  | receiverReport
  | pathMtuNotification
  | coordsWarmup
  | coordsRequired
  | pathBroken
  | mtuExceeded
  deriving DecidableEq, Repr

namespace SessionMessageType

/-- `SessionMessageType::to_byte`. -/
def toByte : SessionMessageType → UInt8
  | .sessionSetup => 0x00
  | .sessionAck => 0x01
  | .dataPacket => 0x10
  | .senderReport => 0x11
  | .receiverReport => 0x12
  | .pathMtuNotification => 0x13
  | .coordsWarmup => 0x14
  | .coordsRequired => 0x20
  | .pathBroken => 0x21
  | .mtuExceeded => 0x22

/-- `SessionMessageType::from_byte`: the type with this byte, if there is one. -/
def fromByte (b : UInt8) : Option SessionMessageType :=
  [.sessionSetup, .sessionAck, .dataPacket, .senderReport, .receiverReport, .pathMtuNotification,
    .coordsWarmup, .coordsRequired, .pathBroken, .mtuExceeded].find? (·.toByte == b)

theorem fromByte_toByte (t : SessionMessageType) : fromByte t.toByte = some t := by
  cases t <;> decide

end SessionMessageType

/-- The numbers a sender report carries, link or session layer. -/
structure SenderReport where
  intervalStartCounter : Nat
  intervalEndCounter : Nat
  intervalStartTimestamp : Nat
  intervalEndTimestamp : Nat
  intervalBytesSent : Nat
  cumulativePacketsSent : Nat
  cumulativeBytesSent : Nat
  deriving DecidableEq, Repr

namespace SenderReport

/-- The fields from `reserved` bytes on, in a body of at least `size` bytes. -/
def decodeFields (size reserved : Nat) (body : Bytes) : Result ProtocolError SenderReport := do
  longEnough size body
  let p ← sliceFrom body reserved
  let intervalStartCounter ← leAt p 0 8
  let intervalEndCounter ← leAt p 8 8
  let intervalStartTimestamp ← leAt p 16 4
  let intervalEndTimestamp ← leAt p 20 4
  let intervalBytesSent ← leAt p 24 4
  let cumulativePacketsSent ← leAt p 28 8
  let cumulativeBytesSent ← leAt p 36 8
  pure ⟨intervalStartCounter, intervalEndCounter, intervalStartTimestamp, intervalEndTimestamp,
    intervalBytesSent, cumulativePacketsSent, cumulativeBytesSent⟩

theorem noPanic_decodeFields {size reserved : Nat} (h : reserved + 44 ≤ size) (body : Bytes) :
    NoPanic (decodeFields size reserved body) := by
  unfold decodeFields
  refine noPanic_bind (noPanic_longEnough _ _) fun _ hsize => ?_
  have hsize : size ≤ body.length := longEnough_eq_ok.mp hsize
  refine noPanic_bind (noPanic_sliceFrom (by omega)) fun p hp => ?_
  have hlen : 44 ≤ p.length := by
    unfold sliceFrom at hp
    split_ifs at hp
    cases hp
    rw [List.length_drop]
    omega
  refine noPanic_bind (noPanic_leAt (by omega)) fun _ _ => ?_
  refine noPanic_bind (noPanic_leAt (by omega)) fun _ _ => ?_
  refine noPanic_bind (noPanic_leAt (by omega)) fun _ _ => ?_
  refine noPanic_bind (noPanic_leAt (by omega)) fun _ _ => ?_
  refine noPanic_bind (noPanic_leAt (by omega)) fun _ _ => ?_
  refine noPanic_bind (noPanic_leAt (by omega)) fun _ _ => ?_
  refine noPanic_bind (noPanic_leAt (by omega)) fun _ _ => ?_
  exact noPanic_pure _

end SenderReport

/-- The numbers a receiver report carries, link or session layer. The trend is an `i32` in two's
complement; it is kept as the word. -/
structure ReceiverReport where
  highestCounter : Nat
  cumulativePacketsRecv : Nat
  cumulativeBytesRecv : Nat
  timestampEcho : Nat
  dwellTime : Nat
  maxBurstLoss : Nat
  meanBurstLoss : Nat
  jitter : Nat
  ecnCeCount : Nat
  owdTrend : Nat
  burstLossCount : Nat
  cumulativeReorderCount : Nat
  intervalPacketsRecv : Nat
  intervalBytesRecv : Nat
  deriving DecidableEq, Repr

namespace ReceiverReport

/-- The fields from `reserved` bytes on, in a body of at least `size` bytes. -/
def decodeFields (size reserved : Nat) (body : Bytes) : Result ProtocolError ReceiverReport := do
  longEnough size body
  let p ← sliceFrom body reserved
  let highestCounter ← leAt p 0 8
  let cumulativePacketsRecv ← leAt p 8 8
  let cumulativeBytesRecv ← leAt p 16 8
  let timestampEcho ← leAt p 24 4
  let dwellTime ← leAt p 28 2
  let maxBurstLoss ← leAt p 30 2
  let meanBurstLoss ← leAt p 32 2
  let jitter ← leAt p 36 4
  let ecnCeCount ← leAt p 40 4
  let owdTrend ← leAt p 44 4
  let burstLossCount ← leAt p 48 4
  let cumulativeReorderCount ← leAt p 52 4
  let intervalPacketsRecv ← leAt p 56 4
  let intervalBytesRecv ← leAt p 60 4
  pure ⟨highestCounter, cumulativePacketsRecv, cumulativeBytesRecv, timestampEcho, dwellTime,
    maxBurstLoss, meanBurstLoss, jitter, ecnCeCount, owdTrend, burstLossCount,
    cumulativeReorderCount, intervalPacketsRecv, intervalBytesRecv⟩

theorem noPanic_decodeFields {size reserved : Nat} (h : reserved + 64 ≤ size) (body : Bytes) :
    NoPanic (decodeFields size reserved body) := by
  unfold decodeFields
  refine noPanic_bind (noPanic_longEnough _ _) fun _ hsize => ?_
  have hsize : size ≤ body.length := longEnough_eq_ok.mp hsize
  refine noPanic_bind (noPanic_sliceFrom (by omega)) fun p hp => ?_
  have hlen : 64 ≤ p.length := by
    unfold sliceFrom at hp
    split_ifs at hp
    cases hp
    rw [List.length_drop]
    omega
  iterate 14 refine noPanic_bind (noPanic_leAt (by omega)) fun _ _ => ?_
  exact noPanic_pure _

end ReceiverReport

/-- The body of a sender report: two reserved bytes, then the fields of the link report. -/
def SESSION_SENDER_REPORT_SIZE : Nat := 46

/-- The body of a receiver report. -/
def SESSION_RECEIVER_REPORT_SIZE : Nat := 66

/-- `SessionSenderReport::decode`: the link report behind two bytes instead of three. -/
def SessionSenderReport.decode (body : Bytes) : Result ProtocolError SenderReport :=
  SenderReport.decodeFields SESSION_SENDER_REPORT_SIZE 2 body

/-- `SessionReceiverReport::decode`. -/
def SessionReceiverReport.decode (body : Bytes) : Result ProtocolError ReceiverReport :=
  ReceiverReport.decodeFields SESSION_RECEIVER_REPORT_SIZE 2 body

theorem SessionSenderReport.noPanic_decode (body : Bytes) :
    NoPanic (SessionSenderReport.decode body) := SenderReport.noPanic_decodeFields (by decide) body

theorem SessionReceiverReport.noPanic_decode (body : Bytes) :
    NoPanic (SessionReceiverReport.decode body) :=
  ReceiverReport.noPanic_decodeFields (by decide) body

/-- The body of a path MTU notification. -/
def PATH_MTU_NOTIFICATION_SIZE : Nat := 2

/-- The new path MTU. -/
def PathMtuNotification.decode (body : Bytes) : Result ProtocolError Nat := do
  longEnough PATH_MTU_NOTIFICATION_SIZE body
  leAt body 0 2

theorem PathMtuNotification.noPanic_decode (body : Bytes) :
    NoPanic (PathMtuNotification.decode body) :=
  noPanic_bind (noPanic_longEnough _ _) fun _ h => noPanic_leAt (longEnough_eq_ok.mp h)

/-! ## Error signals -/

/-- `protocol/session.rs:880-886`. -/
structure CoordsRequired where
  destAddr : NodeAddr
  reporter : NodeAddr
  deriving DecidableEq

namespace CoordsRequired

/-- `CoordsRequired::encode`. An error signal is not encrypted, which the flag U says. -/
def encode (m : CoordsRequired) : Bytes :=
  withPrefix 0x00 FSP_FLAG_U
    ([SessionMessageType.coordsRequired.toByte, 0x00] ++ m.destAddr.bytes ++ m.reporter.bytes)

/-- `CoordsRequired::decode`, of what follows the type byte. -/
def decode (payload : Bytes) : Result ProtocolError CoordsRequired := do
  longEnough 33 payload
  let destAddr ← addrAt payload 1
  let reporter ← addrAt payload 17
  pure ⟨destAddr, reporter⟩

theorem noPanic_decode (payload : Bytes) : NoPanic (decode payload) := by
  unfold decode
  refine noPanic_bind (noPanic_longEnough _ _) fun _ h => ?_
  have hlen : 33 ≤ payload.length := longEnough_eq_ok.mp h
  refine noPanic_bind (noPanic_addrAt (by omega)) fun _ _ => ?_
  refine noPanic_bind (noPanic_addrAt (by omega)) fun _ _ => ?_
  exact noPanic_pure _

end CoordsRequired

/-- `protocol/session.rs:965-972`. -/
structure PathBroken where
  destAddr : NodeAddr
  reporter : NodeAddr
  lastKnownCoords : Option TreeCoordinate
  deriving DecidableEq

namespace PathBroken

/-- `PathBroken::encode`. Unknown coordinates are a count of zero. -/
def encode (m : PathBroken) : Bytes :=
  withPrefix 0x00 FSP_FLAG_U
    ([SessionMessageType.pathBroken.toByte, 0x00] ++ m.destAddr.bytes ++ m.reporter.bytes ++
      match m.lastKnownCoords with
      | some coords => encodeCoords coords
      | none => leBytes 2 0)

/-- `PathBroken::decode`, of what follows the type byte. -/
def decode (payload : Bytes) : Result ProtocolError PathBroken := do
  longEnough 35 payload
  let destAddr ← addrAt payload 1
  let reporter ← addrAt payload 17
  let rest ← sliceFrom payload 33
  let (lastKnownCoords, _) ← decodeOptionalCoords rest
  pure ⟨destAddr, reporter, lastKnownCoords⟩

theorem noPanic_decode (payload : Bytes) : NoPanic (decode payload) := by
  unfold decode
  refine noPanic_bind (noPanic_longEnough _ _) fun _ h => ?_
  have hlen : 35 ≤ payload.length := longEnough_eq_ok.mp h
  refine noPanic_bind (noPanic_addrAt (by omega)) fun _ _ => ?_
  refine noPanic_bind (noPanic_addrAt (by omega)) fun _ _ => ?_
  refine noPanic_bind (noPanic_sliceFrom (by omega)) fun _ _ => ?_
  refine noPanic_bind (noPanic_decodeOptionalCoords _) fun _ _ => ?_
  exact noPanic_pure _

end PathBroken

/-- `protocol/session.rs:1079-1087`. -/
structure MtuExceeded where
  destAddr : NodeAddr
  reporter : NodeAddr
  mtu : Nat
  deriving DecidableEq

namespace MtuExceeded

/-- `MtuExceeded::encode`. -/
def encode (m : MtuExceeded) : Bytes :=
  withPrefix 0x00 FSP_FLAG_U
    ([SessionMessageType.mtuExceeded.toByte, 0x00] ++ m.destAddr.bytes ++ m.reporter.bytes ++
      leBytes 2 m.mtu)

/-- `MtuExceeded::decode`, of what follows the type byte. -/
def decode (payload : Bytes) : Result ProtocolError MtuExceeded := do
  longEnough 35 payload
  let destAddr ← addrAt payload 1
  let reporter ← addrAt payload 17
  let mtu ← leAt payload 33 2
  pure ⟨destAddr, reporter, mtu⟩

theorem noPanic_decode (payload : Bytes) : NoPanic (decode payload) := by
  unfold decode
  refine noPanic_bind (noPanic_longEnough _ _) fun _ h => ?_
  have hlen : 35 ≤ payload.length := longEnough_eq_ok.mp h
  refine noPanic_bind (noPanic_addrAt (by omega)) fun _ _ => ?_
  refine noPanic_bind (noPanic_addrAt (by omega)) fun _ _ => ?_
  refine noPanic_bind (noPanic_leAt (by omega)) fun _ _ => ?_
  exact noPanic_pure _

end MtuExceeded

/-! ## The envelope -/

/-- `protocol/link.rs:285-302`. -/
structure SessionDatagram where
  srcAddr : NodeAddr
  destAddr : NodeAddr
  ttl : UInt8
  pathMtu : Nat
  payload : Bytes
  deriving DecidableEq

/-- The path MTU of a datagram that no link has lowered yet. -/
def U16_MAX : Nat := 65535

namespace SessionDatagram

/-- `SessionDatagram::new`: a hop limit of 64 and no path MTU yet. -/
def new (srcAddr destAddr : NodeAddr) (payload : Bytes) : SessionDatagram :=
  ⟨srcAddr, destAddr, 64, U16_MAX, payload⟩

/-- `SessionDatagram::with_ttl`. -/
def withTtl (d : SessionDatagram) (ttl : UInt8) : SessionDatagram := { d with ttl := ttl }

/-- `decrement_ttl`: `none` if it is exhausted. -/
def decrementTtl (d : SessionDatagram) : Option SessionDatagram :=
  if 0 < d.ttl then some { d with ttl := d.ttl - 1 } else none

/-- `SessionDatagram::encode`, with the type byte in front. -/
def encode (d : SessionDatagram) : Bytes :=
  [0x00, d.ttl] ++ leBytes 2 d.pathMtu ++ d.srcAddr.bytes ++ d.destAddr.bytes ++ d.payload

/-- `SessionDatagram::decode`, of what follows the type byte. -/
def decode (payload : Bytes) : Result ProtocolError SessionDatagram := do
  longEnough 35 payload
  let ttl ← index payload 0
  let pathMtu ← leAt payload 1 2
  let srcAddr ← addrAt payload 3
  let destAddr ← addrAt payload 19
  let innerPayload ← sliceFrom payload 35
  pure ⟨srcAddr, destAddr, ttl, pathMtu, innerPayload⟩

/-- A datagram decodes exactly when it has its 35 bytes of header; its payload is the rest. -/
theorem decode_eq (payload : Bytes) :
    (payload.length < 35 ∧ decode payload = .error (.error (.messageTooShort 35 payload.length))) ∨
    (35 ≤ payload.length ∧ ∃ d, decode payload = .ok d ∧ payload.head? = some d.ttl ∧
      d.payload = payload.drop 35) := by
  rcases Nat.lt_or_ge payload.length 35 with h | h
  · refine .inl ⟨h, ?_⟩
    unfold decode longEnough atLeast
    rw [if_pos h]
    rfl
  · refine .inr ⟨h, ?_⟩
    obtain ⟨ttl, rest, rfl⟩ := List.exists_cons_of_length_pos (show 0 < payload.length by omega)
    generalize hp : ttl :: rest = p at h
    have hslice : ∀ i n, i + n ≤ 35 → (slice p i (i + n) : Result ProtocolError Bytes) =
        .ok ((p.drop i).take n) := fun i n hin => by
      unfold slice
      rw [if_pos ⟨Nat.le_add_right i n, by omega⟩, Nat.add_sub_cancel_left]
    refine ⟨⟨NodeAddr.fromBytes ((p.drop 3).take 16), NodeAddr.fromBytes ((p.drop 19).take 16),
      ttl, leNat ((p.drop 1).take 2), p.drop 35⟩, ?_, by rw [← hp]; rfl, rfl⟩
    have hfrom : (sliceFrom p 35 : Result ProtocolError Bytes) = .ok (p.drop 35) := by
      unfold sliceFrom
      rw [if_pos h]
    have hindex : (index p 0 : Result ProtocolError UInt8) = .ok ttl := by
      rw [← hp]
      rfl
    have hlong : longEnough 35 p = .ok () := longEnough_eq_ok.mpr h
    unfold decode leAt addrAt
    rw [hlong, hindex, hslice 1 2 (by decide), hslice 3 16 (by decide), hslice 19 16 (by decide),
      hfrom]
    rfl

end SessionDatagram

end Fips
