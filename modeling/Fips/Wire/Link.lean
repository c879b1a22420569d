import Fips.Bloom.Filter
import Fips.Wire.Session

/-!
# Link-layer messages

Model of the messages `dispatch_link_message` decodes: `TreeAnnounce` (`protocol/tree.rs`),
`FilterAnnounce` (`protocol/filter.rs`), `LookupRequest` and `LookupResponse`
(`protocol/discovery.rs`), `Disconnect` (`protocol/link.rs`), the link reports (`mmp/report.rs`),
and of the IPv6 header compression inside a session (`upper/ipv6_shim.rs`).

Parsing a Schnorr signature (`secp256k1` crate) is a parameter.

## Results

* `noPanic_decode` of every message, `noPanic_decompressIpv6`, `noPanic_compressIpv6`: no decoder
  stops the program, whatever the bytes.
-/

open Checked

namespace Fips

/-- `Signature::from_slice` of the `secp256k1` crate. -/
class SchnorrSignature (Signature : Type) where
  fromSlice : Bytes → Option Signature

/-- A signature on the wire (`Signature::as_ref`). -/
class SchnorrEncoding (Signature : Type) extends SchnorrSignature Signature where
  asRef : Signature → Bytes

/-! ## Tree announces -/

/-- `TreeAnnounce::VERSION_1`, the only version that a decoder accepts. -/
def TreeAnnounce.VERSION_1 : UInt8 := 0x01

/-- `TreeAnnounce::MIN_PAYLOAD_SIZE`: the fixed fields and the signature, without any ancestry entry. -/
def TreeAnnounce.MIN_PAYLOAD_SIZE : Nat := 99

/-- `CoordEntry::WIRE_SIZE`: address, sequence number and timestamp. -/
def CoordEntry.WIRE_SIZE : Nat := 32

/-- The loop over the ancestry entries. -/
def ancestryAt (payload : Bytes) : Nat → Nat → Result ProtocolError (List CoordEntry)
  | 0, _ => pure []
  | n + 1, pos => do
    let nodeAddr ← addrAt payload pos
    let sequence ← leAt payload (pos + 16) 8
    let timestamp ← leAt payload (pos + 24) 8
    let entries ← ancestryAt payload n (pos + 32)
    pure (⟨nodeAddr, sequence, timestamp⟩ :: entries)

theorem noPanic_ancestryAt {payload : Bytes} (n : Nat) {pos : Nat}
    (h : pos + n * 32 ≤ payload.length) : NoPanic (ancestryAt payload n pos) := by
  induction n generalizing pos with
  | zero => exact noPanic_pure _
  | succ n ih =>
    refine noPanic_bind (noPanic_addrAt (by omega)) fun _ _ => ?_
    refine noPanic_bind (noPanic_leAt (by omega)) fun _ _ => ?_
    refine noPanic_bind (noPanic_leAt (by omega)) fun _ _ => ?_
    refine noPanic_bind (ih (by omega)) fun _ _ => ?_
    exact noPanic_pure _

section Signed

variable {Signature : Type} [SchnorrSignature Signature]

/-- The signature at `pos`. -/
def signatureAt (payload : Bytes) (pos : Nat) (e : ProtocolError) :
    Result ProtocolError Signature := do
  let bytes ← slice payload pos (pos + 64)
  okOr e (SchnorrSignature.fromSlice bytes)

theorem noPanic_signatureAt {payload : Bytes} {pos : Nat} (h : pos + 64 ≤ payload.length)
    (e : ProtocolError) : NoPanic (signatureAt payload pos e : Result ProtocolError Signature) :=
  noPanic_bind (noPanic_slice (Nat.le_add_right pos 64) h) fun _ _ => noPanic_okOr _ _

/-- `protocol/tree.rs:82-190`. -/
def TreeAnnounce.decode (payload : Bytes) : Result ProtocolError (TreeAnnounce Signature) := do
  longEnough TreeAnnounce.MIN_PAYLOAD_SIZE payload
  let version ← index payload 0
  check (version == TreeAnnounce.VERSION_1) (.unsupportedVersion version)
  let sequence ← leAt payload 1 8
  let timestamp ← leAt payload 9 8
  let parent ← addrAt payload 17
  let ancestryCount ← leAt payload 33 2
  let expectedRemaining := ancestryCount * CoordEntry.WIRE_SIZE + 64
  let remaining ← sub payload.length 35
  check (decide (expectedRemaining ≤ remaining))
    (.messageTooShort (35 + expectedRemaining) payload.length)
  let entries ← ancestryAt payload ancestryCount 35
  let signature ← signatureAt payload (35 + ancestryCount * CoordEntry.WIRE_SIZE) .invalidSignature
  check (!entries.isEmpty) (.malformed "ancestry must have at least one entry")
  let first ← index entries 0
  let ancestry ← Checked.ofExcept ((TreeCoordinate.new entries).mapError fun _ =>
    ProtocolError.malformed "bad ancestry: invalid tree coordinate: empty path")
  pure ⟨⟨first.nodeAddr, parent, sequence, timestamp, some signature⟩, ancestry⟩

theorem TreeAnnounce.noPanic_decode (payload : Bytes) :
    NoPanic (TreeAnnounce.decode payload : Result ProtocolError (TreeAnnounce Signature)) := by
  unfold TreeAnnounce.decode
  refine noPanic_bind (noPanic_longEnough _ _) fun _ h => ?_
  have hlen : 99 ≤ payload.length := longEnough_eq_ok.mp h
  refine noPanic_bind (noPanic_index (by omega)) fun _ _ => ?_
  refine noPanic_bind (noPanic_check _ _) fun _ _ => ?_
  refine noPanic_bind (noPanic_leAt (by omega)) fun _ _ => ?_
  refine noPanic_bind (noPanic_leAt (by omega)) fun _ _ => ?_
  refine noPanic_bind (noPanic_addrAt (by omega)) fun _ _ => ?_
  refine noPanic_bind (noPanic_leAt (by omega)) fun count _ => ?_
  refine noPanic_bind (noPanic_sub (by omega)) fun remaining hrem => ?_
  refine noPanic_bind (noPanic_check _ _) fun _ hfit => ?_
  have hfit : 35 + (count * 32 + 64) ≤ payload.length := by
    unfold sub at hrem
    rw [if_pos (by omega)] at hrem
    cases hrem
    have hle := of_decide_eq_true (check_eq_ok.mp hfit)
    unfold CoordEntry.WIRE_SIZE at hle
    omega
  refine noPanic_bind (noPanic_ancestryAt count (by omega)) fun entries _ => ?_
  refine noPanic_bind (noPanic_signatureAt (by unfold CoordEntry.WIRE_SIZE; omega) _) fun _ _ => ?_
  refine noPanic_bind (noPanic_check _ _) fun _ hne => ?_
  have hne : 0 < entries.length := by
    rw [List.length_pos_iff]
    simpa using check_eq_ok.mp hne
  refine noPanic_bind (noPanic_index hne) fun _ _ => ?_
  refine noPanic_bind (noPanic_ofExcept _) fun _ _ => ?_
  exact noPanic_pure _

/-- The decoder takes the declaring address from the first entry. -/
theorem TreeAnnounce.ownHead_of_decode {payload : Bytes} {a : TreeAnnounce Signature}
    (h : TreeAnnounce.decode payload = .ok a) : a.OwnHead := by
  unfold TreeAnnounce.decode at h
  simp only [bind_eq_ok] at h
  obtain ⟨_, -, _, -, _, -, _, -, _, -, _, -, _, -, _, -, _, -, entries, -, _, -, _, -,
    first, hfirst, ancestry, hancestry, h⟩ := h
  cases h
  rw [ofExcept_eq_ok] at hancestry
  unfold index at hfirst
  rw [unwrap_eq_ok] at hfirst
  unfold TreeCoordinate.new at hancestry
  split_ifs at hancestry with hempty
  · cases hancestry
  · cases hancestry
    cases entries with
    | nil => cases hfirst
    | cons e rest =>
      cases hfirst
      rfl

end Signed

/-! ## Filter announces -/

/-- `protocol/filter.rs:20-31`. -/
structure FilterAnnounce where
  filter : BloomFilter
  sequence : Nat
  hashCount : UInt8
  sizeClass : UInt8
  deriving DecidableEq

namespace FilterAnnounce

/-- `FilterAnnounce::MIN_PAYLOAD_SIZE`: sequence, hash count and size class. -/
def MIN_PAYLOAD_SIZE : Nat := 10

/-- `MAX_SIZE_CLASS`: filters of 4096 bytes. -/
def MAX_SIZE_CLASS : UInt8 := 3

/-- `V1_SIZE_CLASS`: filters of 1024 bytes. -/
def V1_SIZE_CLASS : UInt8 := 1

/-- `FilterAnnounce::filter_size_bytes`: each class doubles the one before. -/
def filterSizeBytes (a : FilterAnnounce) : Nat := 512 <<< a.sizeClass.toNat

/-- The filter matches the declared size and hash count. -/
def isValid (a : FilterAnnounce) : Bool :=
  a.filter.numBytes == a.filterSizeBytes && a.filter.hashCount == a.hashCount

/-- `FilterAnnounce::is_v1_compliant`. -/
def isV1Compliant (a : FilterAnnounce) : Bool := a.sizeClass == V1_SIZE_CLASS

/-- The v1 announce of a filter. -/
def new (filter : BloomFilter) (sequence : Nat) : FilterAnnounce :=
  ⟨filter, sequence, filter.hashCount, V1_SIZE_CLASS⟩

/-- `FilterAnnounce::encode`, which refuses a filter whose length is not that of its class. -/
def encode (a : FilterAnnounce) : Except ProtocolError Bytes :=
  if ¬ a.isValid then .error (.malformed "filter size does not match size_class")
  else .ok (0x20 :: leBytes 8 a.sequence ++ a.hashCount :: a.sizeClass :: a.filter.bits)

/-- `FilterAnnounce::decode`: only the size class of version 1 is accepted, with exactly its bytes. -/
def decode (payload : Bytes) : Result ProtocolError FilterAnnounce := do
  longEnough MIN_PAYLOAD_SIZE payload
  let sequence ← leAt payload 0 8
  let hashCount ← index payload 8
  let sizeClass ← index payload 9
  check (decide (sizeClass ≤ MAX_SIZE_CLASS))
    (.malformed s!"invalid size_class: {sizeClass} (max {MAX_SIZE_CLASS})")
  check (sizeClass == V1_SIZE_CLASS)
    (.malformed s!"unsupported size_class: {sizeClass} (v1 requires {V1_SIZE_CLASS})")
  let expectedFilterBytes := 512 <<< sizeClass.toNat
  let remaining ← sub payload.length 10
  check (remaining == expectedFilterBytes)
    (.messageTooShort (MIN_PAYLOAD_SIZE + expectedFilterBytes) payload.length)
  let bytes ← sliceFrom payload 10
  let filter ← Checked.ofExcept ((BloomFilter.fromSlice bytes hashCount).mapError fun e =>
    ProtocolError.malformed ("invalid bloom filter: " ++ e))
  pure ⟨filter, sequence, hashCount, sizeClass⟩

theorem noPanic_decode (payload : Bytes) : NoPanic (decode payload) := by
  unfold decode
  refine noPanic_bind (noPanic_longEnough _ _) fun _ h => ?_
  have hlen : 10 ≤ payload.length := longEnough_eq_ok.mp h
  refine noPanic_bind (noPanic_leAt (by omega)) fun _ _ => ?_
  refine noPanic_bind (noPanic_index (by omega)) fun _ _ => ?_
  refine noPanic_bind (noPanic_index (by omega)) fun _ _ => ?_
  refine noPanic_bind (noPanic_check _ _) fun _ _ => ?_
  refine noPanic_bind (noPanic_check _ _) fun _ _ => ?_
  refine noPanic_bind (noPanic_sub (by omega)) fun _ _ => ?_
  refine noPanic_bind (noPanic_check _ _) fun _ _ => ?_
  refine noPanic_bind (noPanic_sliceFrom (by omega)) fun _ _ => ?_
  refine noPanic_bind (noPanic_ofExcept _) fun _ _ => ?_
  exact noPanic_pure _

/-- A decoded announce is valid and its filter has the default size. -/
theorem of_decode {payload : Bytes} {a : FilterAnnounce} (h : decode payload = .ok a) :
    a.isValid = true ∧ a.isV1Compliant = true ∧
      a.filter.numBits = BloomFilter.DEFAULT_FILTER_SIZE_BITS := by
  unfold decode at h
  simp only [bind_eq_ok] at h
  obtain ⟨_, -, _, -, hashCount, -, sizeClass, -, _, -, _, hclass, remaining, hrem, _, hsize, bytes,
    hbytes, filter, hfilter, h⟩ := h
  cases h
  rw [check_eq_ok] at hclass hsize
  obtain rfl := beq_iff_eq.mp hclass
  obtain ⟨hle, rfl⟩ := sub_eq_ok.mp hrem
  obtain ⟨-, rfl⟩ := sliceFrom_eq_ok.mp hbytes
  obtain rfl : filter = ⟨payload.drop 10, hashCount⟩ := by
    cases hf : BloomFilter.fromSlice (payload.drop 10) hashCount with
    | error e =>
      rw [hf] at hfilter
      cases hfilter
    | ok f =>
      rw [hf] at hfilter
      cases hfilter
      exact BloomFilter.fromSlice_eq_ok hf
  have hlen : (payload.drop 10).length = 1024 := by
    rw [List.length_drop]
    exact beq_iff_eq.mp hsize
  refine ⟨?_, rfl, ?_⟩
  · unfold isValid BloomFilter.numBytes
    rw [hlen]
    simp [filterSizeBytes, V1_SIZE_CLASS]
  · unfold BloomFilter.numBits
    rw [hlen]
    rfl

end FilterAnnounce

/-! ## Discovery -/

/-- `protocol/discovery.rs:15-30`. -/
structure LookupRequest where
  requestId : Nat
  target : NodeAddr
  origin : NodeAddr
  originCoords : TreeCoordinate
  ttl : UInt8
  minMtu : Nat
  deriving DecidableEq

namespace LookupRequest

/-- `forward`: `None` where the source returns `false`. -/
def forward (r : LookupRequest) : Option LookupRequest :=
  if r.ttl = 0 then none else some { r with ttl := r.ttl - 1 }

/-- `LookupRequest::can_forward`. -/
def canForward (r : LookupRequest) : Bool := 0 < r.ttl

/-- `LookupRequest::encode`. -/
def encode (r : LookupRequest) : Bytes :=
  [0x30] ++ leBytes 8 r.requestId ++ r.target.bytes ++ r.origin.bytes ++ [r.ttl] ++
    leBytes 2 r.minMtu ++ encodeCoords r.originCoords

end LookupRequest

/-- `LookupRequest::decode`. Bytes behind the coordinates are ignored. -/
def LookupRequest.decode (payload : Bytes) : Result ProtocolError LookupRequest := do
  longEnough 45 payload
  let requestId ← leAt payload 0 8
  let target ← addrAt payload 8
  let origin ← addrAt payload 24
  let ttl ← index payload 40
  let minMtu ← leAt payload 41 2
  let rest ← sliceFrom payload 43
  let (originCoords, _) ← decodeCoords rest
  pure ⟨requestId, target, origin, originCoords, ttl, minMtu⟩

theorem LookupRequest.noPanic_decode (payload : Bytes) : NoPanic (LookupRequest.decode payload) := by
  unfold LookupRequest.decode
  refine noPanic_bind (noPanic_longEnough _ _) fun _ h => ?_
  have hlen : 45 ≤ payload.length := longEnough_eq_ok.mp h
  refine noPanic_bind (noPanic_leAt (by omega)) fun _ _ => ?_
  refine noPanic_bind (noPanic_addrAt (by omega)) fun _ _ => ?_
  refine noPanic_bind (noPanic_addrAt (by omega)) fun _ _ => ?_
  refine noPanic_bind (noPanic_index (by omega)) fun _ _ => ?_
  refine noPanic_bind (noPanic_leAt (by omega)) fun _ _ => ?_
  refine noPanic_bind (noPanic_sliceFrom (by omega)) fun _ _ => ?_
  refine noPanic_bind (noPanic_decodeCoords _) fun _ _ => ?_
  exact noPanic_pure _

/-- `protocol/discovery.rs:150-166`. -/
structure LookupResponse (Signature : Type) where
  requestId : Nat
  target : NodeAddr
  pathMtu : Nat
  targetCoords : TreeCoordinate
  proof : Signature

section Signed

variable {Signature : Type} [SchnorrSignature Signature]

namespace LookupResponse

omit [SchnorrSignature Signature] in
/-- The path MTU starts at the maximum. -/
def new (requestId : Nat) (target : NodeAddr) (targetCoords : TreeCoordinate) (proof : Signature) :
    LookupResponse Signature := ⟨requestId, target, U16_MAX, targetCoords, proof⟩

/-- `LookupResponse::proof_bytes`: what the target signs. The path MTU is left out, since every hop
may lower it. -/
def proofBytes (requestId : Nat) (target : NodeAddr) (targetCoords : TreeCoordinate) : Bytes :=
  leBytes 8 requestId ++ target.bytes ++ encodeCoords targetCoords

end LookupResponse

/-- `LookupResponse::decode`. -/
def LookupResponse.decode (payload : Bytes) :
    Result ProtocolError (LookupResponse Signature) := do
  longEnough 92 payload
  let requestId ← leAt payload 0 8
  let target ← addrAt payload 8
  let pathMtu ← leAt payload 24 2
  let rest ← sliceFrom payload 26
  let (targetCoords, consumed) ← decodeCoords rest
  let pos := 26 + consumed
  longEnough (pos + 64) payload
  let proof ← signatureAt payload pos (.malformed "bad proof signature")
  pure ⟨requestId, target, pathMtu, targetCoords, proof⟩

theorem LookupResponse.noPanic_decode (payload : Bytes) :
    NoPanic (LookupResponse.decode payload : Result ProtocolError (LookupResponse Signature)) := by
  unfold LookupResponse.decode
  refine noPanic_bind (noPanic_longEnough _ _) fun _ h => ?_
  have hlen : 92 ≤ payload.length := longEnough_eq_ok.mp h
  refine noPanic_bind (noPanic_leAt (by omega)) fun _ _ => ?_
  refine noPanic_bind (noPanic_addrAt (by omega)) fun _ _ => ?_
  refine noPanic_bind (noPanic_leAt (by omega)) fun _ _ => ?_
  refine noPanic_bind (noPanic_sliceFrom (by omega)) fun _ _ => ?_
  refine noPanic_bind (noPanic_decodeCoords _) fun _ _ => ?_
  refine noPanic_bind (noPanic_longEnough _ _) fun _ h => ?_
  refine noPanic_bind (noPanic_signatureAt (longEnough_eq_ok.mp h) _) fun _ _ => ?_
  exact noPanic_pure _

end Signed

/-- `LookupResponse::encode`. -/
def LookupResponse.encode {Signature : Type} [SchnorrEncoding Signature]
    (r : LookupResponse Signature) : Bytes :=
  [0x31] ++ leBytes 8 r.requestId ++ r.target.bytes ++ leBytes 2 r.pathMtu ++
    encodeCoords r.targetCoords ++ SchnorrEncoding.asRef r.proof

/-! ### Request ids -/

/-- The id of a lookup message is its first eight bytes after the type. -/
theorem leAt_requestId {requestId : Nat} (h : requestId < 256 ^ 8) (rest : Bytes) :
    (leAt (leBytes 8 requestId ++ rest) 0 8 : Result ProtocolError Nat) = .ok requestId := by
  have hnil : ([] : Bytes).length = 0 := rfl
  exact leAt_append hnil h

theorem LookupRequest.requestId_of_decode {payload : Bytes} {r : LookupRequest}
    (h : LookupRequest.decode payload = .ok r) :
    (leAt payload 0 8 : Result ProtocolError Nat) = .ok r.requestId := by
  unfold LookupRequest.decode at h
  obtain ⟨_, -, h⟩ := bind_eq_ok.mp h
  obtain ⟨requestId, hid, h⟩ := bind_eq_ok.mp h
  simp only [bind_eq_ok] at h
  obtain ⟨_, -, _, -, _, -, _, -, _, -, _, -, h⟩ := h
  cases h
  exact hid

theorem LookupRequest.requestId_of_encode {r r' : LookupRequest} {payload : Bytes}
    (hid : r.requestId < 256 ^ 8) (hp : 0x30 :: payload = r.encode)
    (h : LookupRequest.decode payload = .ok r') : r'.requestId = r.requestId := by
  have hpayload : payload = leBytes 8 r.requestId ++ (r.target.bytes ++ r.origin.bytes ++ [r.ttl] ++
      leBytes 2 r.minMtu ++ encodeCoords r.originCoords) := by
    simpa [LookupRequest.encode] using hp
  have hread := requestId_of_decode h
  rw [hpayload, leAt_requestId hid] at hread
  exact (Except.ok.inj hread).symm

section Signed

variable {Signature : Type}

theorem LookupResponse.requestId_of_decode [SchnorrSignature Signature] {payload : Bytes}
    {r : LookupResponse Signature} (h : LookupResponse.decode payload = .ok r) :
    (leAt payload 0 8 : Result ProtocolError Nat) = .ok r.requestId := by
  unfold LookupResponse.decode at h
  obtain ⟨_, -, h⟩ := bind_eq_ok.mp h
  obtain ⟨requestId, hid, h⟩ := bind_eq_ok.mp h
  simp only [bind_eq_ok] at h
  obtain ⟨_, -, _, -, _, -, _, -, _, -, _, -, h⟩ := h
  cases h
  exact hid

theorem LookupResponse.requestId_of_encode [SchnorrEncoding Signature]
    {r r' : LookupResponse Signature} {payload : Bytes} (hid : r.requestId < 256 ^ 8)
    (hp : 0x31 :: payload = r.encode) (h : LookupResponse.decode payload = .ok r') :
    r'.requestId = r.requestId := by
  have hpayload : payload = leBytes 8 r.requestId ++ (r.target.bytes ++ leBytes 2 r.pathMtu ++
      encodeCoords r.targetCoords ++ SchnorrEncoding.asRef r.proof) := by
    simpa [LookupResponse.encode] using hp
  have hread := requestId_of_decode h
  rw [hpayload, leAt_requestId hid] at hread
  exact (Except.ok.inj hread).symm

end Signed

/-! ## Disconnect and reports -/

/-- `protocol/link.rs:147-168`. -/
inductive DisconnectReason
  | shutdown
  | restart
  | protocolError
  | transportFailure
  | resourceExhaustion
  | securityViolation
  | configurationChange
  | timeout
  | other
  deriving DecidableEq, Repr

/-- `from_byte(..).unwrap_or(Other)`. -/
def DisconnectReason.ofByte (b : UInt8) : DisconnectReason :=
  ([.shutdown, .restart, .protocolError, .transportFailure, .resourceExhaustion,
    .securityViolation, .configurationChange, .timeout] : List DisconnectReason)[b.toNat]?.getD
    .other

/-- `Disconnect::decode`: any byte that names no reason is read as `Other`. -/
def Disconnect.decode (payload : Bytes) : Result ProtocolError DisconnectReason := do
  longEnough 1 payload
  let reason ← index payload 0
  pure (DisconnectReason.ofByte reason)

theorem Disconnect.noPanic_decode (payload : Bytes) : NoPanic (Disconnect.decode payload) := by
  unfold Disconnect.decode
  refine noPanic_bind (noPanic_longEnough _ _) fun _ h => ?_
  have hlen : 1 ≤ payload.length := longEnough_eq_ok.mp h
  refine noPanic_bind (noPanic_index (by omega)) fun _ _ => ?_
  exact noPanic_pure _

/-- `SENDER_REPORT_BODY_SIZE`: three reserved bytes and the fields. -/
def SENDER_REPORT_BODY_SIZE : Nat := 47

/-- `RECEIVER_REPORT_BODY_SIZE`: three reserved bytes and the fields. -/
def RECEIVER_REPORT_BODY_SIZE : Nat := 67

/-- `SenderReport::decode`. -/
def SenderReport.decode (payload : Bytes) : Result ProtocolError SenderReport :=
  SenderReport.decodeFields SENDER_REPORT_BODY_SIZE 3 payload

/-- `ReceiverReport::decode`. -/
def ReceiverReport.decode (payload : Bytes) : Result ProtocolError ReceiverReport :=
  ReceiverReport.decodeFields RECEIVER_REPORT_BODY_SIZE 3 payload

theorem SenderReport.noPanic_decode (payload : Bytes) : NoPanic (SenderReport.decode payload) :=
  SenderReport.noPanic_decodeFields (by decide) payload

theorem ReceiverReport.noPanic_decode (payload : Bytes) : NoPanic (ReceiverReport.decode payload) :=
  ReceiverReport.noPanic_decodeFields (by decide) payload

/-! ## The IPv6 shim -/

/-- `IPV6_SHIM_FORMAT_COMPRESSED`, the only format of the shim. -/
def IPV6_SHIM_FORMAT_COMPRESSED : UInt8 := 0x00

/-- `IPV6_SHIM_RESIDUAL_SIZE`: what of the IPv6 header travels, traffic class, flow label, next
header and hop limit. -/
def IPV6_SHIM_RESIDUAL_SIZE : Nat := 6

/-- The length of the fixed IPv6 header. -/
def IPV6_HEADER_SIZE : Nat := 40

/-- `compress_ipv6`. -/
def compressIpv6 (packet : Bytes) : Result Unit Bytes := do
  atLeast IPV6_HEADER_SIZE packet ()
  let first ← index packet 0
  check (first >>> 4 == 6) ()
  let upperPayload ← sliceFrom packet IPV6_HEADER_SIZE
  let verTcFlow ← slice packet 0 4
  let nextHeader ← index packet 6
  let hopLimit ← index packet 7
  pure ([IPV6_SHIM_FORMAT_COMPRESSED] ++ verTcFlow ++ [nextHeader, hopLimit] ++ upperPayload)

theorem noPanic_compressIpv6 (packet : Bytes) : NoPanic (compressIpv6 packet) := by
  unfold compressIpv6
  refine noPanic_bind (noPanic_atLeast _ _ _) fun _ h => ?_
  have hlen : 40 ≤ packet.length := atLeast_eq_ok.mp h
  refine noPanic_bind (noPanic_index (by omega)) fun _ _ => ?_
  refine noPanic_bind (noPanic_check _ _) fun _ _ => ?_
  refine noPanic_bind (noPanic_sliceFrom hlen) fun _ _ => ?_
  refine noPanic_bind (noPanic_slice (by omega) (by omega)) fun _ _ => ?_
  refine noPanic_bind (noPanic_index (by omega)) fun _ _ => ?_
  refine noPanic_bind (noPanic_index (by omega)) fun _ _ => ?_
  exact noPanic_pure _

/-- `decompress_ipv6`. -/
def decompressIpv6 (shimPayload srcIpv6 dstIpv6 : Bytes) : Result Unit Bytes := do
  atLeast (1 + IPV6_SHIM_RESIDUAL_SIZE) shimPayload ()
  let format ← index shimPayload 0
  check (format == IPV6_SHIM_FORMAT_COMPRESSED) ()
  let residual ← slice shimPayload 1 (1 + IPV6_SHIM_RESIDUAL_SIZE)
  let upperPayload ← sliceFrom shimPayload (1 + IPV6_SHIM_RESIDUAL_SIZE)
  let first ← index residual 0
  let tcFlow ← slice residual 1 4
  let nextHeader ← index residual 4
  let hopLimit ← index residual 5
  pure ([first &&& 0x0F ||| 0x60] ++ tcFlow ++ (leBytes 2 upperPayload.length).reverse ++
    [nextHeader, hopLimit] ++ srcIpv6 ++ dstIpv6 ++ upperPayload)

theorem noPanic_decompressIpv6 (shimPayload srcIpv6 dstIpv6 : Bytes) :
    NoPanic (decompressIpv6 shimPayload srcIpv6 dstIpv6) := by
  unfold decompressIpv6
  refine noPanic_bind (noPanic_atLeast _ _ _) fun _ h => ?_
  have hlen : 7 ≤ shimPayload.length := atLeast_eq_ok.mp h
  refine noPanic_bind (noPanic_index (by omega)) fun _ _ => ?_
  refine noPanic_bind (noPanic_check _ _) fun _ _ => ?_
  refine noPanic_bind (noPanic_slice (by omega) hlen) fun residual hres => ?_
  have hsix : residual.length = 6 := by
    obtain ⟨-, -, rfl⟩ := slice_eq_ok.mp hres
    rw [List.length_take, List.length_drop]
    change min 6 (shimPayload.length - 1) = 6
    omega
  refine noPanic_bind (noPanic_sliceFrom hlen) fun _ _ => ?_
  refine noPanic_bind (noPanic_index (by omega)) fun _ _ => ?_
  refine noPanic_bind (noPanic_slice (by omega) (by omega)) fun _ _ => ?_
  refine noPanic_bind (noPanic_index (by omega)) fun _ _ => ?_
  refine noPanic_bind (noPanic_index (by omega)) fun _ _ => ?_
  exact noPanic_pure _

end Fips
