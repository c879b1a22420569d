import Fips.Wire.Ipv6

/-!
# TCP MSS clamping

Model of `upper/tcp_mss.rs`: `clamp_tcp_mss` walks the options of a TCP SYN segment and lowers the
first MSS option to a maximum, `recalculate_tcp_checksum` then computes the checksum anew. Both
work in place on a packet from the network or from the TUN device.

## Results

* `clampTcpMss_eq`: which packets are changed, and by which writes.
* `recalculateTcpChecksum_eq`: the checksum routine slices by the payload-length field, which no
  guard has compared with the packet.
* `clampSafe_iff`: the packets on which clamping is safe.
-/

namespace Fips

open Checked Buffer OnesComplement

/-! ## The packet -/

/-- `TCP_HEADER_MIN_LEN`: a header without options. -/
def TCP_HEADER_MIN_LEN : Nat := 20

/-- `TCP_OPT_MSS`, the option's kind. -/
def TCP_OPT_MSS : UInt8 := 2

/-- `TCP_OPT_MSS_LEN`, the option's length with kind and length bytes. -/
def TCP_OPT_MSS_LEN : UInt8 := 4

/-- `TCP_FLAGS_OFFSET`. -/
def TCP_FLAGS_OFFSET : Nat := 13

/-- `TCP_FLAG_SYN`. -/
def TCP_FLAG_SYN : UInt8 := 0x02

/-- `is_tcp_syn`, which is true of a SYN-ACK too. -/
def isTcpSyn (tcpHeader : Bytes) : Result Empty Bool :=
  if tcpHeader.length < TCP_HEADER_MIN_LEN then pure false
  else do
    let flags ← index tcpHeader TCP_FLAGS_OFFSET
    pure (flags &&& TCP_FLAG_SYN != 0)

/-- The header length in bytes. -/
def getTcpDataOffset (tcpHeader : Bytes) : Result Empty Nat :=
  if tcpHeader.length < TCP_HEADER_MIN_LEN then pure 0
  else do
    let offset ← index tcpHeader 12
    pure ((offset >>> 4).toNat * 4)

/-- `recalculate_tcp_checksum`: the segment's length is read from the IPv6 header. -/
def recalculateTcpChecksum (packet : Bytes) (tcpStart : Nat) : Result Empty Bytes := do
  let packet ← set packet (tcpStart + 16) 0
  let packet ← set packet (tcpStart + 17) 0
  let src ← slice packet 8 24
  let dst ← slice packet 24 40
  let hi ← index packet 4
  let lo ← index packet 5
  let payloadLen := beWord hi lo
  let tcpSegment ← slice packet tcpStart (tcpStart + payloadLen)
  let sum ← addAll 0 (words src)
  let sum ← addAll sum (words dst)
  let sum ← addU32 sum payloadLen
  let sum ← addU32 sum 6
  let sum ← addAll sum (words tcpSegment)
  copyFromSlice packet (tcpStart + 16) (tcpStart + 18) (beBytes (checksum sum))

/-- The loop over the options from offset `i`. -/
def clampOptions (tcpStart optionsEnd : Nat) (maxMss : UInt16) (packet : Bytes) (i : Nat) :
    Result Empty (Bool × Bytes) :=
  if i < optionsEnd then do
    let kind ← index packet i
    -- end of options
    if kind = 0 then pure (false, packet)
    -- padding
    else if kind = 1 then clampOptions tcpStart optionsEnd maxMss packet (i + 1)
    else if optionsEnd ≤ i + 1 then pure (false, packet)
    else do
      let length ← index packet (i + 1)
      if length.toNat < 2 ∨ optionsEnd < i + length.toNat then pure (false, packet)
      else if kind = TCP_OPT_MSS ∧ length = TCP_OPT_MSS_LEN then do
        let hi ← index packet (i + 2)
        let lo ← index packet (i + 3)
        if maxMss.toNat < beWord hi lo then do
          let packet ← copyFromSlice packet (i + 2) (i + 4) (beBytes maxMss.toNat)
          let packet ← recalculateTcpChecksum packet tcpStart
          pure (true, packet)
        else pure (false, packet)
      else clampOptions tcpStart optionsEnd maxMss packet (i + length.toNat)
  else pure (false, packet)
termination_by optionsEnd - i

/-- Whether the packet was modified, and the packet. -/
def clampTcpMss (packet : Bytes) (maxMss : UInt16) : Result Empty (Bool × Bytes) :=
  if packet.length < 40 then pure (false, packet)
  else do
    let first ← index packet 0
    if first >>> 4 ≠ 6 then pure (false, packet)
    else do
      let nextHeader ← index packet 6
      if nextHeader ≠ 6 then pure (false, packet)
      else if packet.length < 40 + TCP_HEADER_MIN_LEN then pure (false, packet)
      else do
        let tcpHeader ← sliceFrom packet 40
        let syn ← isTcpSyn tcpHeader
        if !syn then pure (false, packet)
        else do
          let tcpHeaderLen ← getTcpDataOffset tcpHeader
          if tcpHeaderLen < TCP_HEADER_MIN_LEN ∨ tcpHeader.length < tcpHeaderLen then
            pure (false, packet)
          else if packet.length < 40 + tcpHeaderLen then pure (false, packet)
          else clampOptions 40 (40 + tcpHeaderLen) maxMss packet (40 + TCP_HEADER_MIN_LEN)

/-! ## What is clamped -/

/-- The header length field of the TCP header behind an IPv6 header, in bytes. -/
def tcpHeaderLenOf (packet : Bytes) : Nat := (byteAt packet 52 >>> 4).toNat * 4

/-- From offset `i`, the first MSS option (of the length four that option has) is at offset `m`.
The options before it lie within the header, and none of them ends the list. -/
inductive FirstMss (packet : Bytes) (optionsEnd : Nat) : Nat → Nat → Prop
  | here {i : Nat} (kind : byteAt packet i = TCP_OPT_MSS)
      (length : byteAt packet (i + 1) = TCP_OPT_MSS_LEN) (fits : i + 4 ≤ optionsEnd) :
      FirstMss packet optionsEnd i i
  | padding {i m : Nat} (kind : byteAt packet i = 1) (fits : i < optionsEnd)
      (rest : FirstMss packet optionsEnd (i + 1) m) : FirstMss packet optionsEnd i m
  | other {i m : Nat} (notEnd : byteAt packet i ≠ 0) (notPadding : byteAt packet i ≠ 1)
      (notMss : ¬ (byteAt packet i = TCP_OPT_MSS ∧ byteAt packet (i + 1) = TCP_OPT_MSS_LEN))
      (length : 2 ≤ (byteAt packet (i + 1)).toNat)
      (fits : i + (byteAt packet (i + 1)).toNat ≤ optionsEnd)
      (rest : FirstMss packet optionsEnd (i + (byteAt packet (i + 1)).toNat) m) :
      FirstMss packet optionsEnd i m

/-- A TCP SYN segment over IPv6 whose first MSS option, at offset `m`, is above the maximum. -/
structure Clamps (packet : Bytes) (maxMss : UInt16) (m : Nat) : Prop where
  length : 60 ≤ packet.length
  version : byteAt packet 0 >>> 4 = 6
  nextHeader : byteAt packet 6 = 6
  syn : byteAt packet 53 &&& TCP_FLAG_SYN ≠ 0
  headerMin : TCP_HEADER_MIN_LEN ≤ tcpHeaderLenOf packet
  headerFits : 40 + tcpHeaderLenOf packet ≤ packet.length
  first : FirstMss packet (40 + tcpHeaderLenOf packet) 60 m
  above : maxMss.toNat < wordAt packet (m + 2)

/-- The sum that a TCP checksum is computed from and verified with: pseudo-header and segment. -/
def tcpSum (packet : Bytes) : Nat :=
  (words ((packet.drop 8).take 16)).sum + (words ((packet.drop 24).take 16)).sum +
    (packet.length - 40) + 6 + (words (packet.drop 40)).sum

/-- **Safe clamping.** The call returns; if it reports no change there is none; if it reports one,
only the value of the first MSS option and the checksum may differ, the value went down to the
maximum, and the checksum verifies if the packet's length field is right. -/
def ClampSafe (packet : Bytes) (maxMss : UInt16) : Prop :=
  ∃ modified packet', clampTcpMss packet maxMss = .ok (modified, packet') ∧
    (modified = false → packet' = packet) ∧
    (modified = true → ∃ m, FirstMss packet (40 + tcpHeaderLenOf packet) 60 m ∧
      packet'.length = packet.length ∧
      (∀ k, k ∉ [m + 2, m + 3, 56, 57] → packet'[k]? = packet[k]?) ∧
      wordAt packet' (m + 2) = maxMss.toNat ∧ maxMss.toNat < wordAt packet (m + 2) ∧
      (wordAt packet 4 = packet.length - 40 → fold (tcpSum packet') = 65535))

/-! ## The checksum -/

section Checksum

variable {packet : Bytes}

/-- The numbers the routine adds up, for a segment of `payloadLen` bytes. -/
def checksumInput (packet : Bytes) (payloadLen : Nat) : Nat :=
  (words ((packet.drop 8).take 16)).sum + (words ((packet.drop 24).take 16)).sum +
    payloadLen + 6 + (words ((packet.drop 40).take payloadLen)).sum

/-- No sum overflows 32 bits. -/
theorem checksumInput_lt (packet : Bytes) {payloadLen : Nat} (h : payloadLen < 65536) :
    checksumInput packet payloadLen < 4294967296 := by
  have hsrc := sum_words_le ((packet.drop 8).take 16)
  have hdst := sum_words_le ((packet.drop 24).take 16)
  have hsegment := sum_words_le ((packet.drop 40).take payloadLen)
  have hlsrc := List.length_take_le 16 (packet.drop 8)
  have hldst := List.length_take_le 16 (packet.drop 24)
  have hlsegment := List.length_take_le payloadLen (packet.drop 40)
  unfold checksumInput
  omega

theorem tcpSum_eq (packet : Bytes) : tcpSum packet = checksumInput packet (packet.length - 40) := by
  have hall : (packet.drop 40).take (packet.length - 40) = packet.drop 40 :=
    List.take_of_length_le (by simp)
  rw [tcpSum, checksumInput, hall]

/-- **The checksum routine.** It stops the program when the length field exceeds the packet. -/
theorem recalculateTcpChecksum_eq (h : 60 ≤ packet.length) :
    recalculateTcpChecksum packet 40 =
      if 40 + wordAt packet 4 ≤ packet.length then
        .ok (splice packet 56
          (beBytes (checksum (checksumInput (splice packet 56 [0, 0]) (wordAt packet 4)))))
      else .error .panic := by
  have hzero : (set packet 56 0 : Result Empty Bytes) = .ok (splice packet 56 [0]) := set_eq (by omega)
  have hlen1 : (splice packet 56 ([0] : Bytes)).length = packet.length :=
    length_splice (by rw [List.length_singleton]; omega)
  have hzeros : (set (splice packet 56 [0]) 57 0 : Result Empty Bytes) =
      .ok (splice packet 56 [0, 0]) := by
    rw [set_eq (by omega), splice_splice_succ (by omega)]
  have hfit : 56 + ([0, 0] : Bytes).length ≤ packet.length := by
    simp only [List.length_cons, List.length_nil]
    omega
  have hlen : (splice packet 56 ([0, 0] : Bytes)).length = packet.length := length_splice hfit
  have hword : wordAt (splice packet 56 [0, 0]) 4 = wordAt packet 4 :=
    wordAt_splice_of_ne hfit (.inl (by decide))
  have hwrite : ∀ n, (copyFromSlice (splice packet 56 [0, 0]) 56 58 (beBytes n) :
      Result Empty Bytes) = .ok (splice packet 56 (beBytes n)) := by
    intro n
    have hend : 56 + (beBytes n).length = 58 := rfl
    have hlast : (beBytes n).length = ([0, 0] : Bytes).length := rfl
    rw [copyFromSlice_eq hend (by omega), splice_splice hfit hlast]
  unfold recalculateTcpChecksum
  rw [hzero, ok_bind, hzeros, ok_bind]
  generalize splice packet 56 ([0, 0] : Bytes) = zeroed at hlen hword hwrite ⊢
  have hsrc : (slice zeroed 8 24 : Result Empty Bytes) = .ok ((zeroed.drop 8).take 16) :=
    if_pos ⟨by decide, by omega⟩
  have hdst : (slice zeroed 24 40 : Result Empty Bytes) = .ok ((zeroed.drop 24).take 16) :=
    if_pos ⟨by decide, by omega⟩
  rw [hsrc, ok_bind, hdst, ok_bind, index_eq_byteAt (by omega), ok_bind, index_eq_byteAt (by omega),
    ok_bind]
  have hpayload : beWord (byteAt zeroed 4) (byteAt zeroed 5) = wordAt packet 4 := hword
  have hlt : wordAt packet 4 < 65536 := beWord_lt _ _
  simp only [hpayload]
  generalize wordAt packet 4 = payloadLen at hlt ⊢
  by_cases hle : 40 + payloadLen ≤ packet.length
  · have hsegment : (slice zeroed 40 (40 + payloadLen) : Result Empty Bytes) =
        .ok ((zeroed.drop 40).take payloadLen) := by
      rw [slice, if_pos ⟨Nat.le_add_right _ _, by omega⟩, Nat.add_sub_cancel_left]
    have hsum := checksumInput_lt zeroed hlt
    have hinput : checksumInput zeroed payloadLen = 0 + (words ((zeroed.drop 8).take 16)).sum +
        (words ((zeroed.drop 24).take 16)).sum + payloadLen + 6 +
        (words ((zeroed.drop 40).take payloadLen)).sum := by
      rw [checksumInput, Nat.zero_add]
    rw [hsegment, ok_bind, if_pos hle]
    rw [hinput] at hsum ⊢
    rw [addAll_eq (by omega), ok_bind, addAll_eq (by omega), ok_bind, addU32_eq (by omega), ok_bind,
      addU32_eq (by omega), ok_bind, addAll_eq hsum, ok_bind]
    exact hwrite _
  · have hpanic : (slice zeroed 40 (40 + payloadLen) : Result Empty Bytes) = .error .panic :=
      if_neg fun h => hle (by omega)
    rw [hpanic, panic_bind, if_neg hle]

/-- What the checksum field adds to the sum over its packet. -/
theorem tcpSum_splice (h : 60 ≤ packet.length) (a b : UInt8) :
    tcpSum (splice packet 56 [a, b]) = tcpSum (splice packet 56 [0, 0]) + beWord a b := by
  have hsplit : ∀ a b : UInt8, tcpSum (splice packet 56 [a, b]) =
      (words ((packet.drop 8).take 16)).sum + (words ((packet.drop 24).take 16)).sum +
        (packet.length - 40) + 6 +
        (words ((packet.drop 40).take 16 ++ a :: b :: (packet.drop 40).drop 18)).sum := by
    intro a b
    have hlen : (splice packet 56 [a, b]).length = packet.length := length_splice (by
      simp only [List.length_cons, List.length_nil]
      omega)
    have hsegment : (splice packet 56 [a, b]).drop 40 =
        (packet.drop 40).take 16 ++ a :: b :: (packet.drop 40).drop 18 := by
      rw [drop_splice (by decide) (by omega), splice, List.append_assoc]
      rfl
    have hlong : ∀ n, n ≤ 40 → 56 - n ≤ (packet.drop n).length := by
      intro n hn
      rw [List.length_drop]
      omega
    rw [tcpSum, hlen, hsegment, drop_splice (by decide) (by omega), drop_splice (by decide) (by omega),
      take_splice (by decide) (hlong 8 (by decide)), take_splice (by decide) (hlong 24 (by decide))]
  have heven : ((packet.drop 40).take 16).length % 2 = 0 := by
    rw [List.length_take_of_le (by rw [List.length_drop]; omega)]
  rw [hsplit, hsplit, sum_words_cons_cons heven]
  omega

/-- A checksum that covers the whole segment verifies. -/
theorem fold_tcpSum_splice (h : 60 ≤ packet.length) :
    fold (tcpSum (splice packet 56 (beBytes (checksum
      (checksumInput (splice packet 56 [0, 0]) (packet.length - 40)))))) = 65535 := by
  have hlen : (splice packet 56 ([0, 0] : Bytes)).length = packet.length := length_splice (by
    simp only [List.length_cons, List.length_nil]
    omega)
  rw [← hlen, ← tcpSum_eq, beBytes, tcpSum_splice h, beWord_beBytes (checksum_lt _)]
  exact fold_add_checksum _

end Checksum

/-! ## The options -/

section Options

variable {packet : Bytes} {optionsEnd i m : Nat}

theorem FirstMss.le (h : FirstMss packet optionsEnd i m) : i ≤ m ∧ m + 4 ≤ optionsEnd := by
  induction h with
  | here _ _ fits => exact ⟨Nat.le_refl _, fits⟩
  | padding _ _ _ ih => exact ⟨by omega, ih.2⟩
  | other _ _ _ _ _ _ ih => exact ⟨by omega, ih.2⟩

/-- What happens at an MSS option that is too large. -/
def clampAt (maxMss : UInt16) (packet : Bytes) (m : Nat) : Result Empty (Bool × Bytes) := do
  let packet ← copyFromSlice packet (m + 2) (m + 4) (beBytes maxMss.toNat)
  let packet ← recalculateTcpChecksum packet 40
  pure (true, packet)

/-- **The option loop.** It clamps the first MSS option if that is too large, and nothing else. -/
theorem clampOptions_eq (maxMss : UInt16) (i : Nat) (hend : optionsEnd ≤ packet.length) :
    (∃ m, FirstMss packet optionsEnd i m ∧ maxMss.toNat < wordAt packet (m + 2) ∧
      clampOptions 40 optionsEnd maxMss packet i = clampAt maxMss packet m) ∨
    ((∀ m, FirstMss packet optionsEnd i m → wordAt packet (m + 2) ≤ maxMss.toNat) ∧
      clampOptions 40 optionsEnd maxMss packet i = .ok (false, packet)) := by
  induction hn : optionsEnd - i using Nat.strongRecOn generalizing i with
  | ind n ih =>
    unfold clampOptions
    by_cases hi : optionsEnd ≤ i
    · rw [if_neg (Nat.not_lt.mpr hi)]
      refine .inr ⟨fun m hm => ?_, rfl⟩
      have hle := hm.le
      omega
    have hi := Nat.not_le.mp hi
    rw [if_pos hi, index_eq_byteAt (by omega), ok_bind]
    by_cases hstop : byteAt packet i = 0
    · rw [if_pos hstop]
      refine .inr ⟨fun m hm => ?_, rfl⟩
      cases hm with
      | here kind _ _ => exact absurd (hstop.symm.trans kind) (by decide)
      | padding kind _ _ => exact absurd (hstop.symm.trans kind) (by decide)
      | other notEnd _ _ _ _ _ => exact absurd hstop notEnd
    by_cases hpad : byteAt packet i = 1
    · rw [if_neg hstop, if_pos hpad]
      obtain ⟨m, hm, habove, heq⟩ | ⟨hnone, heq⟩ := ih (optionsEnd - (i + 1)) (by omega) (i + 1) rfl
      · exact .inl ⟨m, .padding hpad hi hm, habove, heq⟩
      · refine .inr ⟨fun m hm => ?_, heq⟩
        cases hm with
        | here kind _ _ => exact absurd (hpad.symm.trans kind) (by decide)
        | padding _ _ rest => exact hnone m rest
        | other _ notPadding _ _ _ _ => exact absurd hpad notPadding
    rw [if_neg hstop, if_neg hpad]
    -- every other option has a length byte, which must lie within the header as well
    by_cases hlength : optionsEnd ≤ i + 1
    · rw [if_pos hlength]
      refine .inr ⟨fun m hm => ?_, rfl⟩
      cases hm with
      | here _ _ fits => omega
      | padding kind _ _ => exact absurd kind hpad
      | other _ _ _ length fits _ => omega
    rw [if_neg hlength, index_eq_byteAt (by omega), ok_bind]
    by_cases hbad : (byteAt packet (i + 1)).toNat < 2 ∨
        optionsEnd < i + (byteAt packet (i + 1)).toNat
    · rw [if_pos hbad]
      refine .inr ⟨fun m hm => ?_, rfl⟩
      cases hm with
      | here _ length fits =>
        rw [length] at hbad
        have hfour : TCP_OPT_MSS_LEN.toNat = 4 := rfl
        omega
      | padding kind _ _ => exact absurd kind hpad
      | other _ _ _ length fits _ => omega
    rw [if_neg hbad]
    by_cases hmss : byteAt packet i = TCP_OPT_MSS ∧ byteAt packet (i + 1) = TCP_OPT_MSS_LEN
    · have hfour : (byteAt packet (i + 1)).toNat = 4 := congrArg UInt8.toNat hmss.2
      rw [if_pos hmss, index_eq_byteAt (by omega), ok_bind, index_eq_byteAt (by omega), ok_bind]
      by_cases habove : maxMss.toNat < wordAt packet (i + 2)
      · refine .inl ⟨i, .here hmss.1 hmss.2 (by omega), habove, ?_⟩
        exact if_pos habove
      · refine .inr ⟨fun m hm => ?_, if_neg habove⟩
        cases hm with
        | here _ _ _ => exact Nat.not_lt.mp habove
        | padding kind _ _ => exact absurd kind hpad
        | other _ _ notMss _ _ _ => exact absurd hmss notMss
    · rw [if_neg hmss]
      obtain ⟨m, hm, habove, heq⟩ | ⟨hnone, heq⟩ :=
        ih (optionsEnd - (i + (byteAt packet (i + 1)).toNat)) (by omega) _ rfl
      · exact .inl ⟨m, .other hstop hpad hmss (by omega) (by omega) hm, habove, heq⟩
      · refine .inr ⟨fun m hm => ?_, heq⟩
        cases hm with
        | here kind length _ => exact absurd ⟨kind, length⟩ hmss
        | padding kind _ _ => exact absurd kind hpad
        | other _ _ _ _ _ rest => exact hnone m rest

end Options

/-! ## Safe clamping -/

section Clamp

variable {packet : Bytes} {maxMss : UInt16} {m : Nat}

/-- **What the call does.** It writes exactly where a SYN segment has too large an MSS. -/
theorem clampTcpMss_eq (packet : Bytes) (maxMss : UInt16) :
    (∃ m, Clamps packet maxMss m ∧ clampTcpMss packet maxMss = clampAt maxMss packet m) ∨
    ((∀ m, ¬ Clamps packet maxMss m) ∧ clampTcpMss packet maxMss = .ok (false, packet)) := by
  unfold clampTcpMss
  by_cases hshort : packet.length < 40
  · rw [if_pos hshort]
    exact .inr ⟨fun m hm => by have h := hm.length; omega, rfl⟩
  rw [if_neg hshort, index_eq_byteAt (by omega), ok_bind]
  by_cases hversion : byteAt packet 0 >>> 4 ≠ 6
  · rw [if_pos hversion]
    exact .inr ⟨fun m hm => hversion hm.version, rfl⟩
  rw [if_neg hversion, index_eq_byteAt (by omega), ok_bind]
  by_cases hnext : byteAt packet 6 ≠ 6
  · rw [if_pos hnext]
    exact .inr ⟨fun m hm => hnext hm.nextHeader, rfl⟩
  rw [if_neg hnext]
  by_cases hheader : packet.length < 40 + TCP_HEADER_MIN_LEN
  · rw [if_pos hheader]
    exact .inr ⟨fun m hm => Nat.not_le.mpr hheader hm.length, rfl⟩
  have hlen : 60 ≤ packet.length := Nat.not_lt.mp hheader
  have hdrop : ¬ (packet.drop 40).length < TCP_HEADER_MIN_LEN := by
    rw [List.length_drop]
    change ¬ packet.length - 40 < 20
    omega
  have hsyn : isTcpSyn (packet.drop 40) = .ok (byteAt packet 53 &&& TCP_FLAG_SYN != 0) := by
    rw [isTcpSyn, if_neg hdrop, index_eq_byteAt (by rw [List.length_drop]; change 13 < _; omega),
      byteAt_drop]
    rfl
  have hoffset : getTcpDataOffset (packet.drop 40) = .ok (tcpHeaderLenOf packet) := by
    rw [getTcpDataOffset, if_neg hdrop, index_eq_byteAt (by rw [List.length_drop]; omega),
      byteAt_drop]
    rfl
  rw [if_neg hheader, sliceFrom_of_le (by omega), ok_bind, hsyn, ok_bind]
  by_cases hflag : byteAt packet 53 &&& TCP_FLAG_SYN = 0
  · rw [if_pos (by simp [hflag])]
    exact .inr ⟨fun m hm => hm.syn hflag, rfl⟩
  rw [if_neg (by simp [hflag]), hoffset, ok_bind]
  by_cases hrange : tcpHeaderLenOf packet < TCP_HEADER_MIN_LEN ∨
      (packet.drop 40).length < tcpHeaderLenOf packet
  · rw [if_pos hrange]
    refine .inr ⟨fun m hm => ?_, rfl⟩
    have hmin := hm.headerMin
    have hfits := hm.headerFits
    rw [List.length_drop] at hrange
    omega
  have hfits : ¬ packet.length < 40 + tcpHeaderLenOf packet := by
    rw [List.length_drop] at hrange
    omega
  rw [if_neg hrange, if_neg hfits]
  obtain ⟨m, hfirst, habove, heq⟩ | ⟨hnone, heq⟩ :=
    clampOptions_eq maxMss 60 (Nat.not_lt.mp hfits)
  · refine .inl ⟨m, ⟨hlen, Decidable.not_not.mp hversion, Decidable.not_not.mp hnext, hflag, ?_,
      Nat.not_lt.mp hfits, hfirst, habove⟩, heq⟩
    exact Nat.not_lt.mp fun h => hrange (.inl h)
  · exact .inr ⟨fun m hm => Nat.not_lt.mpr (hnone m hm.first) hm.above, heq⟩

theorem Clamps.range (h : Clamps packet maxMss m) : 60 ≤ m ∧ m + 4 ≤ packet.length := by
  have hle := h.first.le
  have hfits := h.headerFits
  omega

/-- **The two writes.** They stop the program when the length field exceeds the packet. -/
theorem Clamps.clampAt_eq (h : Clamps packet maxMss m) :
    clampAt maxMss packet m =
      if 40 + wordAt packet 4 ≤ packet.length then
        .ok (true, splice (splice packet (m + 2) (beBytes maxMss.toNat)) 56
          (beBytes (checksum (checksumInput
            (splice (splice packet (m + 2) (beBytes maxMss.toNat)) 56 [0, 0]) (wordAt packet 4)))))
      else .error .panic := by
  obtain ⟨hm, hlen⟩ := h.range
  have hend : m + 2 + (beBytes maxMss.toNat).length = m + 4 := rfl
  have hkept : (splice packet (m + 2) (beBytes maxMss.toNat)).length = packet.length :=
    length_splice (by omega)
  have hword : wordAt (splice packet (m + 2) (beBytes maxMss.toNat)) 4 = wordAt packet 4 :=
    wordAt_splice_of_ne (by omega) (.inl (by omega))
  rw [clampAt, copyFromSlice_eq hend hlen, ok_bind, recalculateTcpChecksum_eq (by omega), hkept, hword]
  split_ifs
  · rfl
  · rfl

/-- **When clamping is safe.** Unless a segment is to be clamped whose length field exceeds its
packet. -/
theorem clampSafe_iff (packet : Bytes) (maxMss : UInt16) :
    ClampSafe packet maxMss ↔
      ¬ ((∃ m, Clamps packet maxMss m) ∧ packet.length < 40 + wordAt packet 4) := by
  obtain ⟨m, hm, heq⟩ | ⟨hnone, heq⟩ := clampTcpMss_eq packet maxMss
  · rw [hm.clampAt_eq] at heq
    constructor
    · rintro ⟨modified, packet', hok, -⟩ ⟨-, hlong⟩
      rw [heq, if_neg (Nat.not_le.mpr hlong)] at hok
      cases hok
    · intro hfit
      have hle : 40 + wordAt packet 4 ≤ packet.length :=
        Nat.not_lt.mp fun hlong => hfit ⟨⟨m, hm⟩, hlong⟩
      rw [if_pos hle] at heq
      obtain ⟨hm60, hlen⟩ := hm.range
      have hmss : m + 2 + (beBytes maxMss.toNat).length ≤ packet.length := hlen
      have hkept : (splice packet (m + 2) (beBytes maxMss.toNat)).length = packet.length :=
        length_splice hmss
      have hsum : ∀ n, 56 + (beBytes n).length ≤
          (splice packet (m + 2) (beBytes maxMss.toNat)).length := fun n => by
        rw [hkept]
        change 58 ≤ packet.length
        omega
      refine ⟨true, _, heq, nofun, fun _ => ⟨m, hm.first, ?_, ?_, ?_, hm.above, ?_⟩⟩
      · rw [length_splice (hsum _), hkept]
      · intro k hk
        simp only [List.mem_cons, List.not_mem_nil, or_false, not_or] at hk
        have hk56 : k < 56 ∨ 56 + 2 ≤ k := by omega
        have hkm : k < m + 2 ∨ m + 2 + 2 ≤ k := by omega
        rw [getElem?_splice_of_ne (hsum _) hk56, getElem?_splice_of_ne hmss hkm]
      · have hbehind : 56 + 2 ≤ m + 2 := by omega
        rw [wordAt_splice_of_ne (hsum _) (.inr hbehind),
          wordAt_splice_beBytes (by omega) maxMss.toNat_lt]
      · intro hfield
        rw [hfield, ← hkept]
        exact fold_tcpSum_splice (by omega)
  · refine iff_of_true ⟨false, packet, heq, fun _ => rfl, nofun⟩ fun h => ?_
    obtain ⟨m, hm⟩ := h.1
    exact hnone m hm

end Clamp

/-! ## A length field beyond the packet -/

namespace MssSample

/-- A SYN segment of 64 bytes with an MSS of 1460 whose length field is `payloadLen`. -/
def syn (payloadLen : Nat) : Bytes :=
  [0x60, 0, 0, 0] ++ beBytes payloadLen ++ [6, 64] ++ List.replicate 32 0xfd ++
    [0x1f, 0x90, 0, 80, 0, 0, 0, 1, 0, 0, 0, 0, 0x60, 0x02, 0xff, 0xff, 0, 0, 0, 0] ++
    [2, 4, 0x05, 0xb4]

theorem clamps_syn : Clamps (syn 25) 1200 60 where
  length := by decide
  version := by decide
  nextHeader := by decide
  syn := by decide
  headerMin := by decide
  headerFits := by decide
  first := .here (by decide) (by decide) (by decide)
  above := by decide

/-- One byte too many in the length field stops the program. -/
theorem long_field_stops :
    clampTcpMss (syn 25) 1200 = .error .panic ∧ ¬ ClampSafe (syn 25) 1200 := by
  have hlong : ¬ 40 + wordAt (syn 25) 4 ≤ (syn 25).length := by decide
  have hpanic : clampTcpMss (syn 25) 1200 = .error .panic := by
    obtain ⟨m, hm, heq⟩ | ⟨hnone, -⟩ := clampTcpMss_eq (syn 25) 1200
    · rw [heq, hm.clampAt_eq, if_neg hlong]
    · exact absurd clamps_syn (hnone 60)
  refine ⟨hpanic, ?_⟩
  rintro ⟨modified, packet', hok, -⟩
  rw [hpanic] at hok
  cases hok

end MssSample

end Fips
