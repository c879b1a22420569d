import Fips.Wire.Ipv6

/-!
# ICMPv6 errors

Model of the error messages of `upper/icmp.rs`: `should_send_icmp_error`, `build_dest_unreachable`,
`build_packet_too_big` and `icmpv6_checksum`. The two builders write the same packet field by field
into a zeroed buffer, with another type, another code, and the MTU in one of them.

## Results

* `icmpv6Checksum_eq`: the checksum routine adds up the message with its checksum field zeroed.
* `buildErrorPacket_eq`: the packet that is built, by its fields.
* `buildersSound_direct`: what both builders promise.
-/

namespace Fips

open Checked Buffer OnesComplement

/-! ## Addresses -/

/-- `std::net::Ipv6Addr`. -/
structure Ipv6Addr where
  octets : Bytes
  length_octets : octets.length = 16

namespace Ipv6Addr

/-- `<[u8; 16]>::try_from(bytes)`. -/
def tryFrom (bytes : Bytes) : Option Ipv6Addr :=
  if h : bytes.length = 16 then some ⟨bytes, h⟩ else none

/-- `Ipv6Addr::is_unspecified`, the address `::`. -/
def isUnspecified (addr : Ipv6Addr) : Bool := addr.octets == List.replicate 16 0

end Ipv6Addr

/-- The address in 16 bytes of a packet. -/
def addressAt (packet : Bytes) (i j : Nat) : Result Empty Ipv6Addr := do
  let bytes ← slice packet i j
  unwrap (Ipv6Addr.tryFrom bytes)

/-! ## The messages -/

/-- `Icmpv6Type`. -/
inductive Icmpv6Type
  | destinationUnreachable
  | packetTooBig
  | timeExceeded
  | parameterProblem
  | echoRequest
  | echoReply
  deriving DecidableEq, Repr

/-- The discriminant of an `Icmpv6Type`. -/
def Icmpv6Type.toByte : Icmpv6Type → UInt8
  | .destinationUnreachable => 1
  | .packetTooBig => 2
  | .timeExceeded => 3
  | .parameterProblem => 4
  | .echoRequest => 128
  | .echoReply => 129

/-- `DestUnreachableCode`. -/
inductive DestUnreachableCode
  | noRoute
  | adminProhibited
  | beyondScope
  | addressUnreachable
  | portUnreachable
  | sourcePolicy
  | rejectRoute
  deriving DecidableEq, Repr

/-- The discriminant of a `DestUnreachableCode`. -/
def DestUnreachableCode.toByte : DestUnreachableCode → UInt8
  | .noRoute => 0
  | .adminProhibited => 1
  | .beyondScope => 2
  | .addressUnreachable => 3
  | .portUnreachable => 4
  | .sourcePolicy => 5
  | .rejectRoute => 6

/-- `IPPROTO_ICMPV6`, the next header value. -/
def IPPROTO_ICMPV6 : UInt8 := 58

/-- `MIN_IPV6_MTU`, the size that every IPv6 link carries. -/
def MIN_IPV6_MTU : Nat := 1280

/-- `IPV6_HEADER_LEN`. -/
def IPV6_HEADER_LEN : Nat := 40

/-- `ICMPV6_HEADER_LEN`. -/
def ICMPV6_HEADER_LEN : Nat := 8

/-- `MAX_ORIGINAL_PACKET`: how much of the packet an error quotes. -/
def MAX_ORIGINAL_PACKET : Nat := MIN_IPV6_MTU - IPV6_HEADER_LEN - ICMPV6_HEADER_LEN

/-- The check for an ICMPv6 error, which `should_send_icmp_error` and `build_packet_too_big` share. -/
def followsIcmpError (packet : Bytes) : Result Empty Bool := do
  let nextHeader ← index packet 6
  if nextHeader == IPPROTO_ICMPV6 && decide (IPV6_HEADER_LEN < packet.length) then do
    let icmpType ← index packet IPV6_HEADER_LEN
    pure (decide (icmpType < 128))
  else pure false

/-- `should_send_icmp_error`: nothing answers a packet from an unspecified or multicast source, one to a
multicast destination, or another ICMPv6 error. -/
def shouldSendIcmpError (packet : Bytes) : Result Empty Bool :=
  if packet.length < IPV6_HEADER_LEN then pure false
  else do
    let first ← index packet 0
    if first >>> 4 != 6 then pure false
    else do
      let src ← addressAt packet 8 24
      let srcFirst ← index src.octets 0
      if src.isUnspecified then pure false
      else if srcFirst == 0xff then pure false
      else do
        let dst ← addressAt packet 24 40
        let dstFirst ← index dst.octets 0
        if dstFirst == 0xff then pure false
        else do
          let error ← followsIcmpError packet
          pure !error

/-! ## The checksum -/

/-- The loop over the message from offset `i`, and its odd last byte. -/
def sumMessage (i sum : Nat) : Bytes → Result Empty Nat
  | a :: b :: rest =>
    -- the checksum field
    if i = 2 then sumMessage (i + 2) sum rest
    else do
      let sum ← addU32 sum (beWord a b)
      sumMessage (i + 2) sum rest
  | [a] => addU32 sum (a.toNat <<< 8)
  | [] => pure sum

/-- `icmpv6_checksum`, over the pseudo-header and the message. -/
def icmpv6Checksum (icmpv6Message : Bytes) (src dst : Ipv6Addr) : Result Empty Nat := do
  let sum ← addAll 0 (words src.octets)
  let sum ← addAll sum (words dst.octets)
  let len := icmpv6Message.length % 4294967296
  let sum ← addU32 sum (len / 65536)
  let sum ← addU32 sum (len % 65536)
  let sum ← addU32 sum IPPROTO_ICMPV6.toNat
  let sum ← sumMessage 0 sum icmpv6Message
  pure (checksum sum)

/-! ## The builders -/

/-- What the two builders share: `data` is what is written behind the checksum, if anything. -/
def buildErrorPacket (icmpType : Icmpv6Type) (code : UInt8) (data : Option Bytes)
    (originalPacket : Bytes) (ourAddr destAddr : Ipv6Addr) : Result Empty Bytes := do
  let originalLen := min originalPacket.length MAX_ORIGINAL_PACKET
  let icmpv6Len := ICMPV6_HEADER_LEN + originalLen
  let totalLen := IPV6_HEADER_LEN + icmpv6Len
  let response := List.replicate totalLen 0
  let response ← set response 0 0x60
  let payloadLen := icmpv6Len % 65536
  let response ← copyFromSlice response 4 6 (beBytes payloadLen)
  let response ← set response 6 IPPROTO_ICMPV6
  let response ← set response 7 64
  let response ← copyFromSlice response 8 24 ourAddr.octets
  let response ← copyFromSlice response 24 40 destAddr.octets
  let icmpStart := IPV6_HEADER_LEN
  let response ← set response icmpStart icmpType.toByte
  let response ← set response (icmpStart + 1) code
  let response ← match data with
    | some data => copyFromSlice response (icmpStart + 4) (icmpStart + 8) data
    | none => pure response
  let quoted ← slice originalPacket 0 originalLen
  let response ← copyFromSlice response (icmpStart + ICMPV6_HEADER_LEN) response.length quoted
  let message ← sliceFrom response icmpStart
  let checksum ← icmpv6Checksum message ourAddr destAddr
  copyFromSlice response (icmpStart + 2) (icmpStart + 4) (beBytes checksum)

/-- `build_dest_unreachable`. -/
def buildDestUnreachable (originalPacket : Bytes) (code : DestUnreachableCode)
    (ourAddr : Ipv6Addr) : Result Empty (Option Bytes) :=
  if originalPacket.length < IPV6_HEADER_LEN then pure none
  else do
    let destAddr ← addressAt originalPacket 8 24
    let response ← buildErrorPacket .destinationUnreachable code.toByte none originalPacket ourAddr
      destAddr
    pure (some response)

/-- `build_packet_too_big`. -/
def buildPacketTooBig (originalPacket : Bytes) (mtu : UInt32) (ourAddr : Ipv6Addr) :
    Result Empty (Option Bytes) :=
  if originalPacket.length < IPV6_HEADER_LEN then pure none
  else do
    let first ← index originalPacket 0
    if first >>> 4 != 6 then pure none
    else do
      let srcAddr ← addressAt originalPacket 8 24
      let srcFirst ← index srcAddr.octets 0
      if srcAddr.isUnspecified || srcFirst == 0xff then pure none
      else do
        let error ← followsIcmpError originalPacket
        if error then pure none
        else do
          let response ← buildErrorPacket .packetTooBig 0 (some (leBytes 4 mtu.toNat).reverse)
            originalPacket ourAddr srcAddr
          pure (some response)

/-! ## The checksum routine -/

section Checksum

/-- The pseudo-header of an ICMPv6 message of this length. -/
def pseudoHeader (src dst : Bytes) (len : Nat) : Bytes :=
  src ++ (dst ++ (beBytes (len / 65536) ++ (beBytes (len % 65536) ++ [0, 0, 0, IPPROTO_ICMPV6])))

theorem length_pseudoHeader (src dst : Ipv6Addr) (len : Nat) :
    (pseudoHeader src.octets dst.octets len).length = 40 := by
  simp only [pseudoHeader, List.length_append, src.length_octets, dst.length_octets]
  rfl

theorem sum_words_pseudoHeader (src dst : Ipv6Addr) {len : Nat} (h : len < 4294967296) :
    (words (pseudoHeader src.octets dst.octets len)).sum =
      (words src.octets).sum + (words dst.octets).sum + len / 65536 + len % 65536 +
        IPPROTO_ICMPV6.toNat := by
  have hsrc : src.octets.length % 2 = 0 := by rw [src.length_octets]
  have hdst : dst.octets.length % 2 = 0 := by rw [dst.length_octets]
  have hhi : words (beBytes (len / 65536)) = [len / 65536] := by
    rw [beBytes, words, beWord_beBytes (by omega)]
    rfl
  have hlo : words (beBytes (len % 65536)) = [len % 65536] := by
    rw [beBytes, words, beWord_beBytes (by omega)]
    rfl
  have hnext : words [0, 0, 0, IPPROTO_ICMPV6] = [0, IPPROTO_ICMPV6.toNat] := rfl
  have heven : ∀ n, (beBytes n).length % 2 = 0 := fun n => by
    simp only [beBytes, List.length_cons, List.length_nil]
  rw [pseudoHeader, words_append hsrc, words_append hdst, words_append (heven _),
    words_append (heven _), hhi, hlo, hnext]
  simp only [List.sum_append, List.sum_cons, List.sum_nil]
  omega

/-- Behind the checksum field the loop adds up all words. -/
theorem sumMessage_eq_addAll : ∀ {i : Nat} (_ : 2 < i) (sum : Nat) (rest : Bytes),
    sumMessage i sum rest = addAll sum (words rest)
  | _, _, _, [] => rfl
  | i, h, sum, [a] => by
    have hword : a.toNat <<< 8 = beWord a 0 := by
      rw [Nat.shiftLeft_eq, beWord]
      exact Nat.mul_comm _ _
    rw [sumMessage, words, addAll, hword]
    cases addU32 sum (beWord a 0) <;> rfl
  | i, h, sum, a :: b :: rest => by
    rw [sumMessage, if_neg (by omega), words, addAll]
    cases addU32 sum (beWord a b) with
    | error e => rfl
    | ok sum => exact sumMessage_eq_addAll (by omega) sum rest

theorem sumMessage_eq {sum : Nat} {a b c d : UInt8} {rest : Bytes}
    (h : sum + (words (a :: b :: 0 :: 0 :: rest)).sum < 4294967296) :
    sumMessage 0 sum (a :: b :: c :: d :: rest) =
      .ok (sum + (words (a :: b :: 0 :: 0 :: rest)).sum) := by
  have hzero : beWord 0 0 = 0 := rfl
  simp only [words, List.sum_cons, hzero, Nat.zero_add] at h ⊢
  rw [← Nat.add_assoc] at h ⊢
  rw [sumMessage, if_neg (by decide), addU32_eq (by omega), ok_bind, sumMessage, if_pos rfl,
    sumMessage_eq_addAll (by decide), addAll_eq h]

/-- **The checksum routine** adds up pseudo-header and message, the checksum field taken as zero. -/
theorem icmpv6Checksum_eq (a b c d : UInt8) {rest : Bytes} (src dst : Ipv6Addr)
    (hlen : rest.length ≤ 65531) :
    icmpv6Checksum (a :: b :: c :: d :: rest) src dst =
      .ok (checksum (words (pseudoHeader src.octets dst.octets (rest.length + 4) ++
        a :: b :: 0 :: 0 :: rest)).sum) := by
  have hsrc := sum_words_le src.octets
  have hdst := sum_words_le dst.octets
  have hmessage := sum_words_le (a :: b :: 0 :: 0 :: rest)
  simp only [List.length_cons, src.length_octets, dst.length_octets] at hsrc hdst hmessage
  have hpseudo := sum_words_pseudoHeader src dst (Nat.lt_of_le_of_lt (Nat.add_le_add_right hlen 4)
    (by decide : 65531 + 4 < 4294967296))
  have hnext : IPPROTO_ICMPV6.toNat = 58 := rfl
  rw [words_append (by rw [length_pseudoHeader]), List.sum_append, hpseudo, hnext]
  unfold icmpv6Checksum
  have hlength : (a :: b :: c :: d :: rest).length % 4294967296 = rest.length + 4 := by
    simp only [List.length_cons]
    omega
  simp only [hlength, hnext]
  rw [addAll_eq (by omega), ok_bind, addAll_eq (by omega), ok_bind, addU32_eq (by omega), ok_bind,
    addU32_eq (by omega), ok_bind, addU32_eq (by omega), ok_bind, sumMessage_eq (by omega), ok_bind,
    Nat.zero_add]
  rfl

end Checksum

/-! ## The packet that is built -/

section Building

/-- The fields of an error message. -/
def errorFields (first : UInt8) (payloadLen : Bytes) (nextHeader hopLimit : UInt8) (src dst : Bytes)
    (icmpType code : UInt8) (checksum data quoted : Bytes) : List Bytes :=
  [[first], [0, 0, 0], payloadLen, [nextHeader], [hopLimit], src, dst, [icmpType], [code], checksum, data,
    quoted]

/-- As much of a packet as an error message may quote. -/
def quotedFrom (original : Bytes) : Bytes := original.take (min original.length MAX_ORIGINAL_PACKET)

theorem length_quotedFrom (original : Bytes) :
    (quotedFrom original).length = min original.length MAX_ORIGINAL_PACKET :=
  List.length_take_of_le (Nat.min_le_left _ _)

/-- What the checksum of an error message is computed from. -/
def errorSum (src dst : Bytes) (icmpType code : UInt8) (data quoted : Bytes) : Nat :=
  (words (pseudoHeader src dst ((data ++ quoted).length + 4) ++
    icmpType :: code :: 0 :: 0 :: (data ++ quoted))).sum

/-- The fields of the packet that is built. -/
def builtFields (icmpType : Icmpv6Type) (code : UInt8) (data : Bytes) (original src dst : Bytes) :
    List Bytes :=
  errorFields 0x60 (beBytes (ICMPV6_HEADER_LEN + (quotedFrom original).length)) IPPROTO_ICMPV6 64 src dst
    icmpType.toByte code
    (beBytes (checksum (errorSum src dst icmpType.toByte code data (quotedFrom original)))) data
    (quotedFrom original)

/-- Where the fields from the destination on begin, and where the last one ends. -/
structure Offsets (fields : List Bytes) (quoted : Bytes) : Prop where
  dst : (fields.take 6).flatten.length = 24
  icmpType : (fields.take 7).flatten.length = 40
  code : (fields.take 8).flatten.length = 41
  checksum : (fields.take 9).flatten.length = 42
  data : (fields.take 10).flatten.length = 44
  body : (fields.take 11).flatten.length = 48
  total : fields.flatten.length = 48 + quoted.length

theorem offsets_errorFields (first : UInt8) (payloadLen : Bytes) (nextHeader hopLimit : UInt8)
    (src dst : Bytes) (icmpType code : UInt8) (checksum data quoted : Bytes)
    (hpayload : payloadLen.length = 2) (hsrc : src.length = 16) (hdst : dst.length = 16)
    (hchecksum : checksum.length = 2) (hdata : data.length = 4) :
    Offsets (errorFields first payloadLen nextHeader hopLimit src dst icmpType code checksum data quoted)
      quoted := by
  constructor <;> simp [errorFields, hpayload, hsrc, hdst, hchecksum, hdata]
  omega

theorem replicate_eq_flatten (n : Nat) :
    List.replicate (IPV6_HEADER_LEN + (ICMPV6_HEADER_LEN + n)) (0 : UInt8) =
      (errorFields 0 [0, 0] 0 0 (List.replicate 16 0) (List.replicate 16 0) 0 0 [0, 0] [0, 0, 0, 0]
        (List.replicate n 0)).flatten := by
  rw [← Nat.add_assoc, ← List.replicate_append_replicate]
  simp only [errorFields, List.flatten_cons, List.flatten_nil, List.append_nil, ← List.append_assoc]
  rfl

/-- The last steps of both builders: the quoted packet and the checksum. -/
theorem quoteAndSum_eq (icmpType : Icmpv6Type) (code : UInt8) {data : Bytes} (hdata : data.length = 4)
    (original : Bytes) (src dst : Ipv6Addr) :
    (do
      let response := (errorFields 0x60 (beBytes (ICMPV6_HEADER_LEN + (quotedFrom original).length))
        IPPROTO_ICMPV6 64 src.octets dst.octets icmpType.toByte code [0, 0] data
        (List.replicate (quotedFrom original).length 0)).flatten
      let quoted ← slice original 0 (quotedFrom original).length
      let response ← copyFromSlice response (IPV6_HEADER_LEN + ICMPV6_HEADER_LEN) response.length quoted
      let message ← sliceFrom response IPV6_HEADER_LEN
      let checksum ← icmpv6Checksum message src dst
      copyFromSlice response (IPV6_HEADER_LEN + 2) (IPV6_HEADER_LEN + 4) (beBytes checksum) :
        Result Empty Bytes) =
      .ok (builtFields icmpType code data original src.octets dst.octets).flatten := by
  have hquoted := length_quotedFrom original
  have hmax : MAX_ORIGINAL_PACKET = 1232 := rfl
  have hslice : (slice original 0 (quotedFrom original).length : Result Empty Bytes) =
      .ok (quotedFrom original) := by
    refine slice_eq_ok.mpr ⟨Nat.zero_le _, by omega, ?_⟩
    rw [hquoted]
    rfl
  have hoffsets := fun quoted => offsets_errorFields 0x60
    (beBytes (ICMPV6_HEADER_LEN + (quotedFrom original).length)) IPPROTO_ICMPV6 64 src.octets dst.octets
    icmpType.toByte code [0, 0] data quoted rfl src.length_octets dst.length_octets rfl hdata
  have hzeros := hoffsets (List.replicate (quotedFrom original).length 0)
  have hfields := hoffsets (quotedFrom original)
  have hmessage : (sliceFrom (errorFields 0x60 (beBytes (ICMPV6_HEADER_LEN + (quotedFrom original).length))
      IPPROTO_ICMPV6 64 src.octets dst.octets icmpType.toByte code [0, 0] data
      (quotedFrom original)).flatten IPV6_HEADER_LEN : Result Empty Bytes) =
      .ok (icmpType.toByte :: code :: 0 :: 0 :: (data ++ quotedFrom original)) := by
    have hle : IPV6_HEADER_LEN ≤ 48 + (quotedFrom original).length := by
      unfold IPV6_HEADER_LEN
      omega
    rw [sliceFrom_of_le (hfields.total.symm ▸ hle)]
    refine congrArg Except.ok ((drop_flatten hfields.icmpType).trans ?_)
    simp [errorFields]
  have hshort : (data ++ quotedFrom original).length ≤ 65531 := by
    rw [List.length_append]
    omega
  have hchecksum := icmpv6Checksum_eq icmpType.toByte code 0 0 src dst hshort
  refine bind_eq_ok.mpr ⟨_, hslice, ?_⟩
  refine bind_eq_ok.mpr ⟨_, copyFromSlice_flatten (k := 11) rfl hzeros.body ?_ ?_, ?_⟩
  · exact hzeros.total.symm
  · exact List.length_replicate.symm
  refine bind_eq_ok.mpr ⟨_, hmessage, bind_eq_ok.mpr ⟨_, hchecksum, ?_⟩⟩
  exact copyFromSlice_flatten (k := 9) rfl hfields.checksum rfl rfl

theorem buildErrorPacket_eq (icmpType : Icmpv6Type) (code : UInt8) {data : Option Bytes}
    (hdata : ∀ d ∈ data, d.length = 4) (original : Bytes) (src dst : Ipv6Addr) :
    buildErrorPacket icmpType code data original src dst =
      .ok (builtFields icmpType code (data.getD [0, 0, 0, 0]) original src.octets dst.octets).flatten := by
  have hlen := length_quotedFrom original
  unfold buildErrorPacket
  rw [← hlen]
  extract_lets originalLen icmpv6Len totalLen response payloadLen icmpStart finish
  have hresponse : response = _ := replicate_eq_flatten originalLen
  have hpayload : payloadLen = ICMPV6_HEADER_LEN + (quotedFrom original).length := by
    have hmax : MAX_ORIGINAL_PACKET = 1232 := rfl
    refine Nat.mod_eq_of_lt ?_
    simp only [icmpv6Len, originalLen, hlen, hmax, ICMPV6_HEADER_LEN]
    omega
  rw [hresponse, hpayload]
  -- the writes in their order, each of a whole field
  refine bind_eq_ok.mpr ⟨_, set_flatten (k := 0) rfl rfl, ?_⟩
  refine bind_eq_ok.mpr ⟨_, copyFromSlice_flatten (k := 2) rfl rfl rfl rfl, ?_⟩
  refine bind_eq_ok.mpr ⟨_, set_flatten (k := 3) rfl rfl, ?_⟩
  refine bind_eq_ok.mpr ⟨_, set_flatten (k := 4) rfl rfl, ?_⟩
  refine bind_eq_ok.mpr ⟨_, copyFromSlice_flatten (k := 5) rfl rfl rfl src.length_octets, ?_⟩
  refine bind_eq_ok.mpr ⟨_, copyFromSlice_flatten (k := 6) rfl ?_ rfl dst.length_octets, ?_⟩
  · exact (offsets_errorFields 0x60 _ IPPROTO_ICMPV6 64 src.octets _ 0 0 _ _ _ rfl src.length_octets rfl
      rfl rfl).dst
  refine bind_eq_ok.mpr ⟨_, set_flatten (k := 7) rfl ?_, ?_⟩
  · exact (offsets_errorFields 0x60 _ IPPROTO_ICMPV6 64 src.octets dst.octets 0 0 _ _ _ rfl
      src.length_octets dst.length_octets rfl rfl).icmpType
  refine bind_eq_ok.mpr ⟨_, set_flatten (k := 8) rfl ?_, ?_⟩
  · exact (offsets_errorFields 0x60 _ IPPROTO_ICMPV6 64 src.octets dst.octets icmpType.toByte 0 _ _ _
      rfl src.length_octets dst.length_octets rfl rfl).code
  cases data with
  | none => exact quoteAndSum_eq icmpType code rfl original src dst
  | some d =>
    refine bind_eq_ok.mpr ⟨_, copyFromSlice_flatten (k := 10) rfl ?_ rfl (hdata d rfl), ?_⟩
    · exact (offsets_errorFields 0x60 _ IPPROTO_ICMPV6 64 src.octets dst.octets icmpType.toByte code _ _ _
        rfl src.length_octets dst.length_octets rfl rfl).data
    exact quoteAndSum_eq icmpType code (hdata d rfl) original src dst

end Building

/-! ## What the builders promise -/

/-- A response that is well formed, whoever reads it. -/
structure WellFormedError (original : Bytes) (ourAddr : Ipv6Addr) (response : Bytes) : Prop where
  size : response.length ≤ MIN_IPV6_MTU
  payloadLength : IPV6_HEADER_LEN + wordAt response 4 = response.length
  quotes : response.drop (IPV6_HEADER_LEN + ICMPV6_HEADER_LEN) <+: original
  longest : ∀ n ≤ original.length, IPV6_HEADER_LEN + ICMPV6_HEADER_LEN + n ≤ MIN_IPV6_MTU →
    n ≤ (response.drop (IPV6_HEADER_LEN + ICMPV6_HEADER_LEN)).length
  source : ipv6Source response = ourAddr.octets
  destination : ipv6Destination response = ipv6Source original
  verifies : ∃ sum, (addAll 0 (words (pseudoHeader (ipv6Source response) (ipv6Destination response)
    (wordAt response 4) ++ response.drop IPV6_HEADER_LEN)) : Result Empty Nat) = .ok sum ∧
      fold sum = 0xFFFF

/-- A response that may be sent, for a notion of what an ICMPv6 error is. -/
structure MayBeSent (IsError : Bytes → Prop) (original response : Bytes) : Prop where
  unicast : byteAt response 24 ≠ 0xff
  specified : ipv6Destination response ≠ List.replicate 16 0
  notError : ¬ IsError original

/-- Both builders return, without an overflow. What `build_dest_unreachable` returns is well formed
and may be sent once `should_send_icmp_error` has passed; what `build_packet_too_big` returns is well
formed and may be sent. -/
def BuildersSound (IsError : Bytes → Prop) : Prop :=
  ∀ (original : Bytes) (ourAddr : Ipv6Addr),
    (∀ code, ∃ result, buildDestUnreachable original code ourAddr = .ok result ∧
      ∀ response ∈ result, WellFormedError original ourAddr response ∧
        (shouldSendIcmpError original = .ok true → MayBeSent IsError original response)) ∧
    ∀ mtu, ∃ result, buildPacketTooBig original mtu ourAddr = .ok result ∧
      ∀ response ∈ result, WellFormedError original ourAddr response ∧
        MayBeSent IsError original response

/-- An ICMPv6 error message directly behind the IPv6 header. -/
structure IsDirectIcmpError (packet : Bytes) : Prop where
  nextHeader : byteAt packet 6 = IPPROTO_ICMPV6
  length : IPV6_HEADER_LEN < packet.length
  icmpType : byteAt packet IPV6_HEADER_LEN < 128

/-- What follows a header with this next-header field is an ICMPv6 error message, perhaps behind
hop-by-hop options, a routing header or destination options. -/
inductive IcmpErrorBehind : UInt8 → Bytes → Prop
  | message {icmpType : UInt8} {rest : Bytes} (error : icmpType < 128) :
      IcmpErrorBehind IPPROTO_ICMPV6 (icmpType :: rest)
  | extension {kind nextHeader length : UInt8} {body rest : Bytes} (kind_mem : kind ∈ [0, 43, 60])
      (length_body : body.length = 8 * length.toNat + 6) (behind : IcmpErrorBehind nextHeader rest) :
      IcmpErrorBehind kind (nextHeader :: length :: (body ++ rest))

/-- An ICMPv6 error message, with or without extension headers. -/
def IsIcmpError (packet : Bytes) : Prop :=
  IcmpErrorBehind (byteAt packet 6) (packet.drop IPV6_HEADER_LEN)

section Promises

variable {original response : Bytes} {src dst ourAddr : Ipv6Addr}

/-- **The checksum verifies** over pseudo-header and message. -/
theorem fold_errorSum (src dst : Ipv6Addr) (icmpType code : UInt8) (rest : Bytes) {sum : Nat}
    (hsum : sum = (words (pseudoHeader src.octets dst.octets (rest.length + 4) ++
      icmpType :: code :: 0 :: 0 :: rest)).sum) :
    fold (words (pseudoHeader src.octets dst.octets (rest.length + 4) ++
      icmpType :: code :: (beBytes (checksum sum) ++ rest))).sum = 0xFFFF := by
  have heven : (pseudoHeader src.octets dst.octets (rest.length + 4) ++ [icmpType, code]).length % 2 =
      0 := by
    rw [List.length_append, length_pseudoHeader, List.length_cons, List.length_singleton]
  have hwords := sum_words_cons_cons heven (UInt8.ofNat (checksum sum / 256))
    (UInt8.ofNat (checksum sum)) rest
  rw [beWord_beBytes (checksum_lt sum), List.append_assoc, List.append_assoc] at hwords
  have hfold := fold_add_checksum sum
  rw [hsum] at hfold hwords ⊢
  exact (congrArg fold hwords).trans hfold

theorem wellFormedError_built (icmpType : Icmpv6Type) (code : UInt8) {data : Bytes}
    (hdata : data.length = 4) (hdst : dst.octets = ipv6Source original) :
    WellFormedError original ourAddr
      (builtFields icmpType code data original ourAddr.octets dst.octets).flatten := by
  have hmax : MAX_ORIGINAL_PACKET = 1232 := rfl
  have hquoted := length_quotedFrom original
  have hoffsets : Offsets (builtFields icmpType code data original ourAddr.octets dst.octets)
      (quotedFrom original) := offsets_errorFields _ _ _ _ _ _ _ _ _ _ _ rfl ourAddr.length_octets
    dst.length_octets rfl hdata
  have hword : wordAt (builtFields icmpType code data original ourAddr.octets dst.octets).flatten 4 =
      ICMPV6_HEADER_LEN + (quotedFrom original).length := by
    refine Eq.trans rfl (beWord_beBytes (n := ICMPV6_HEADER_LEN + (quotedFrom original).length) ?_)
    unfold ICMPV6_HEADER_LEN
    omega
  have hsource : ipv6Source (builtFields icmpType code data original ourAddr.octets
      dst.octets).flatten = ourAddr.octets :=
    take_drop_flatten (k := 5) rfl rfl ourAddr.length_octets
  have hdestination : ipv6Destination (builtFields icmpType code data original ourAddr.octets
      dst.octets).flatten = dst.octets :=
    take_drop_flatten (k := 6) rfl hoffsets.dst dst.length_octets
  have hbody : (builtFields icmpType code data original ourAddr.octets dst.octets).flatten.drop
      (IPV6_HEADER_LEN + ICMPV6_HEADER_LEN) = quotedFrom original :=
    (drop_flatten hoffsets.body).trans (List.append_nil _)
  refine ⟨?_, ?_, ?_, ?_, hsource, hdestination.trans hdst, ?_⟩
  · rw [hoffsets.total, MIN_IPV6_MTU]
    omega
  · rw [hword, hoffsets.total]
    unfold IPV6_HEADER_LEN ICMPV6_HEADER_LEN
    omega
  · rw [hbody]
    exact List.take_prefix _ _
  · intro n hn hfits
    rw [hbody, hquoted]
    unfold IPV6_HEADER_LEN ICMPV6_HEADER_LEN MIN_IPV6_MTU at hfits
    omega
  · have hmessage : (builtFields icmpType code data original ourAddr.octets dst.octets).flatten.drop
        IPV6_HEADER_LEN = icmpType.toByte :: code :: (beBytes (checksum (errorSum ourAddr.octets
          dst.octets icmpType.toByte code data (quotedFrom original))) ++
            (data ++ quotedFrom original)) := by
      refine (drop_flatten hoffsets.icmpType).trans ?_
      simp [builtFields, errorFields]
    have hlength : ICMPV6_HEADER_LEN + (quotedFrom original).length =
        (data ++ quotedFrom original).length + 4 := by
      rw [List.length_append, hdata, ICMPV6_HEADER_LEN]
      omega
    have hbound : (words (pseudoHeader ourAddr.octets dst.octets ((data ++ quotedFrom original).length +
        4) ++ (builtFields icmpType code data original ourAddr.octets dst.octets).flatten.drop
          IPV6_HEADER_LEN)).sum < 4294967296 := by
      refine Nat.lt_of_le_of_lt (sum_words_le _) ?_
      rw [List.length_append, length_pseudoHeader, List.length_drop, hoffsets.total]
      omega
    rw [hword, hsource, hdestination, hlength]
    refine ⟨_, addAll_eq (Nat.zero_add _ ▸ hbound), ?_⟩
    rw [Nat.zero_add, hmessage]
    exact fold_errorSum ourAddr dst icmpType.toByte code (data ++ quotedFrom original) rfl

theorem byteAt_address (packet : Bytes) (i : Nat) :
    byteAt ((packet.drop i).take 16) 0 = byteAt packet i := by
  simp [byteAt, List.getD_eq_getElem?_getD]

theorem addressAt_eq (packet : Bytes) {i j : Nat} (hij : i + 16 = j) (hj : j ≤ packet.length) :
    ∃ addr : Ipv6Addr, addressAt packet i j = .ok addr ∧ addr.octets = (packet.drop i).take 16 ∧
      (index addr.octets 0 : Result Empty UInt8) = .ok (byteAt packet i) := by
  subst hij
  have hlen : ((packet.drop i).take 16).length = 16 := by
    rw [List.length_take, List.length_drop]
    omega
  have hslice : (slice packet i (i + 16) : Result Empty Bytes) = .ok ((packet.drop i).take 16) := by
    refine slice_eq_ok.mpr ⟨Nat.le_add_right i 16, hj, ?_⟩
    rw [Nat.add_sub_cancel_left]
  refine ⟨⟨_, hlen⟩, ?_, rfl, ?_⟩
  · unfold addressAt Ipv6Addr.tryFrom
    rw [hslice, ok_bind, dif_pos hlen]
    rfl
  · rw [← byteAt_address packet i]
    exact index_eq_byteAt (by rw [hlen]; decide)

theorem followsIcmpError_eq (h : IPV6_HEADER_LEN ≤ original.length) :
    ∃ error, followsIcmpError original = .ok error ∧ (error = true ↔ IsDirectIcmpError original) := by
  have hlen : 40 ≤ original.length := h
  unfold followsIcmpError
  rw [index_eq_byteAt (by omega), ok_bind]
  by_cases hguard : (byteAt original 6 == IPPROTO_ICMPV6 &&
      decide (IPV6_HEADER_LEN < original.length)) = true
  · rw [if_pos hguard]
    rw [Bool.and_eq_true, beq_iff_eq, decide_eq_true_eq] at hguard
    rw [index_eq_byteAt hguard.2, ok_bind]
    refine ⟨_, rfl, ?_⟩
    rw [decide_eq_true_eq]
    exact ⟨fun herror => ⟨hguard.1, hguard.2, herror⟩, fun herror => herror.icmpType⟩
  · rw [if_neg hguard]
    refine ⟨false, rfl, fun hfalse => (Bool.false_ne_true hfalse).elim, fun herror => absurd ?_ hguard⟩
    rw [Bool.and_eq_true, beq_iff_eq, decide_eq_true_eq]
    exact ⟨herror.nextHeader, herror.length⟩

/-- What the check before a Destination Unreachable asks for. -/
theorem shouldSendIcmpError_eq_true (h : shouldSendIcmpError original = .ok true) :
    byteAt original 8 ≠ 0xff ∧ ipv6Source original ≠ List.replicate 16 0 ∧
      ¬ IsDirectIcmpError original := by
  unfold shouldSendIcmpError at h
  by_cases hshort : original.length < IPV6_HEADER_LEN
  · rw [if_pos hshort] at h
    cases h
  have hlen : 40 ≤ original.length := Nat.le_of_not_lt hshort
  obtain ⟨src, hsrc, hoctets, hfirst⟩ := addressAt_eq original (i := 8) rfl (by omega)
  obtain ⟨dst, hdst, -, hdstFirst⟩ := addressAt_eq original (i := 24) rfl hlen
  obtain ⟨error, herror, hiff⟩ := followsIcmpError_eq hlen
  rw [if_neg hshort, index_eq_byteAt (by omega), ok_bind] at h
  by_cases hversion : (byteAt original 0 >>> 4 != 6) = true
  · rw [if_pos hversion] at h
    cases h
  rw [if_neg hversion, hsrc, ok_bind, hfirst, ok_bind] at h
  by_cases hunspecified : src.isUnspecified = true
  · rw [if_pos hunspecified] at h
    cases h
  rw [if_neg hunspecified] at h
  by_cases hmulticast : (byteAt original 8 == 0xff) = true
  · rw [if_pos hmulticast] at h
    cases h
  rw [if_neg hmulticast, hdst, ok_bind, hdstFirst, ok_bind] at h
  by_cases hdstMulticast : (byteAt original 24 == 0xff) = true
  · rw [if_pos hdstMulticast] at h
    cases h
  rw [if_neg hdstMulticast, herror, ok_bind] at h
  refine ⟨fun hff => hmulticast (beq_iff_eq.mpr hff), fun hzero => hunspecified ?_, fun hdirect => ?_⟩
  · rw [Ipv6Addr.isUnspecified, hoctets]
    exact beq_iff_eq.mpr hzero
  · rw [hiff.mpr hdirect] at h
    cases h

/-- A packet that is too short is not answered, any other one is. -/
theorem buildDestUnreachable_eq (original : Bytes) (code : DestUnreachableCode) (ourAddr : Ipv6Addr) :
    ∃ result, buildDestUnreachable original code ourAddr = .ok result ∧
      (result = none → original.length < IPV6_HEADER_LEN) ∧
      ∀ response ∈ result, WellFormedError original ourAddr response := by
  unfold buildDestUnreachable
  by_cases hshort : original.length < IPV6_HEADER_LEN
  · rw [if_pos hshort]
    exact ⟨none, rfl, fun _ => hshort, fun response hresponse => by cases hresponse⟩
  have hlen : 40 ≤ original.length := Nat.le_of_not_lt hshort
  obtain ⟨dst, hdst, hoctets, -⟩ := addressAt_eq original (i := 8) rfl (by omega)
  rw [if_neg hshort, hdst, ok_bind, buildErrorPacket_eq _ _ (by simp), ok_bind]
  refine ⟨_, rfl, fun hnone => absurd hnone (Option.some_ne_none _), fun response hresponse => ?_⟩
  cases hresponse
  exact wellFormedError_built _ _ rfl hoctets

/-- What `build_packet_too_big` answers. -/
theorem buildPacketTooBig_eq (original : Bytes) (mtu : UInt32) (ourAddr : Ipv6Addr) :
    ∃ result, buildPacketTooBig original mtu ourAddr = .ok result ∧
      ∀ response ∈ result, WellFormedError original ourAddr response ∧ byteAt original 8 ≠ 0xff ∧
        ipv6Source original ≠ List.replicate 16 0 ∧ ¬ IsDirectIcmpError original := by
  have hnothing : ∃ result, (.ok none : Result Empty (Option Bytes)) = .ok result ∧
      ∀ response ∈ result, WellFormedError original ourAddr response ∧ byteAt original 8 ≠ 0xff ∧
        ipv6Source original ≠ List.replicate 16 0 ∧ ¬ IsDirectIcmpError original :=
    ⟨none, rfl, fun response hresponse => by cases hresponse⟩
  unfold buildPacketTooBig
  by_cases hshort : original.length < IPV6_HEADER_LEN
  · rw [if_pos hshort]
    exact hnothing
  have hlen : 40 ≤ original.length := Nat.le_of_not_lt hshort
  obtain ⟨src, hsrc, hoctets, hfirst⟩ := addressAt_eq original (i := 8) rfl (by omega)
  obtain ⟨error, herror, hiff⟩ := followsIcmpError_eq hlen
  rw [if_neg hshort, index_eq_byteAt (by omega), ok_bind]
  by_cases hversion : (byteAt original 0 >>> 4 != 6) = true
  · rw [if_pos hversion]
    exact hnothing
  rw [if_neg hversion, hsrc, ok_bind, hfirst, ok_bind]
  by_cases hsource : (src.isUnspecified || byteAt original 8 == 0xff) = true
  · rw [if_pos hsource]
    exact hnothing
  rw [if_neg hsource, herror, ok_bind]
  by_cases hloop : error = true
  · rw [if_pos hloop]
    exact hnothing
  have hmtu : ∀ d ∈ some (leBytes 4 mtu.toNat).reverse, d.length = 4 := by
    intro d hd
    cases hd
    rw [List.length_reverse, length_leBytes]
  rw [if_neg hloop, buildErrorPacket_eq _ _ hmtu, ok_bind]
  refine ⟨_, rfl, fun response hresponse => ?_⟩
  cases hresponse
  rw [Bool.or_eq_true, not_or] at hsource
  refine ⟨wellFormedError_built _ _ (hmtu _ rfl) hoctets, fun hff => hsource.2 (beq_iff_eq.mpr hff),
    fun hzero => hsource.1 ?_, fun hdirect => hloop (hiff.mpr hdirect)⟩
  rw [Ipv6Addr.isUnspecified, hoctets]
  exact beq_iff_eq.mpr hzero

/-- A response goes where the original came from. -/
theorem mayBeSent_of_source {IsError : Bytes → Prop} (h : WellFormedError original ourAddr response)
    (hmulticast : byteAt original 8 ≠ 0xff) (hspecified : ipv6Source original ≠ List.replicate 16 0)
    (herror : ¬ IsError original) : MayBeSent IsError original response := by
  have hbyte : byteAt response 24 = byteAt original 8 :=
    (byteAt_address response 24).symm.trans
      ((congrArg (byteAt · 0) h.destination).trans (byteAt_address original 8))
  exact ⟨hbyte ▸ hmulticast, h.destination ▸ hspecified, herror⟩

end Promises

/-- **ICMPv6 errors are well formed**, and none answers another one that follows the IPv6 header. -/
theorem buildersSound_direct : BuildersSound IsDirectIcmpError := by
  intro original ourAddr
  refine ⟨fun code => ?_, fun mtu => ?_⟩
  · obtain ⟨result, hresult, -, hformed⟩ := buildDestUnreachable_eq original code ourAddr
    refine ⟨result, hresult, fun response hresponse => ⟨hformed response hresponse, fun hshould => ?_⟩⟩
    obtain ⟨hmulticast, hspecified, herror⟩ := shouldSendIcmpError_eq_true hshould
    exact mayBeSent_of_source (hformed response hresponse) hmulticast hspecified herror
  · obtain ⟨result, hresult, hformed⟩ := buildPacketTooBig_eq original mtu ourAddr
    refine ⟨result, hresult, fun response hresponse => ?_⟩
    obtain ⟨hwell, hmulticast, hspecified, herror⟩ := hformed response hresponse
    exact ⟨hwell, mayBeSent_of_source hwell hmulticast hspecified herror⟩

/-! ## Extension headers -/

/-- A Destination Unreachable behind destination options. -/
def extendedIcmpError : Bytes :=
  [0x60, 0, 0, 0, 0, 16, 60, 64] ++ (0xfd :: List.replicate 15 1) ++ (0xfd :: List.replicate 15 2) ++
    [58, 0, 1, 4, 0, 0, 0, 0] ++ [1, 0, 0, 0, 0, 0, 0, 0]

theorem isIcmpError_extended : IsIcmpError extendedIcmpError := by
  have hmessage : IcmpErrorBehind 58 [1, 0, 0, 0, 0, 0, 0, 0] := .message (by decide)
  have hbody : ([1, 4, 0, 0, 0, 0] : Bytes).length = 8 * (0 : UInt8).toNat + 6 := rfl
  have hbehind := IcmpErrorBehind.extension (by decide : (60 : UInt8) ∈ [0, 43, 60]) hbody hmessage
  exact hbehind

/-- It passes the check and is answered. -/
theorem buildersSound_fails_extended : ¬ BuildersSound IsIcmpError := by
  intro h
  have hours : (0xfd :: List.replicate 15 2 : Bytes).length = 16 := rfl
  obtain ⟨result, hresult, hanswered, -⟩ :=
    buildDestUnreachable_eq extendedIcmpError .noRoute ⟨_, hours⟩
  obtain ⟨result', hresult', hall⟩ := (h extendedIcmpError ⟨_, hours⟩).1 .noRoute
  cases hresult.symm.trans hresult'
  cases result with
  | none => exact absurd (hanswered rfl) (by decide)
  | some response =>
    exact ((hall response rfl).2 (by decide)).notError isIcmpError_extended

end Fips
