import Fips.Lib.Codec
import Fips.Wire.CoordCodec
import Fips.Wire.TreeCodec

/-!
# The codecs of session and discovery messages

`SessionSetup`, `SessionAck`, `SessionMsg3` (`protocol/session.rs:386-657`), `PathBroken`
(`protocol/session.rs:1008-1053`), `LookupRequest`, `LookupResponse` (`protocol/discovery.rs:84-274`)
and `SessionDatagram` (`protocol/link.rs:343-378`). A decoder gets what follows the common prefix or
the type byte; a body is what it consumes of that. Two bodies have reserved flag bits, which the
decoders ignore and the encoders clear.

## Results

* `SessionSetup.parses` and its siblings: what each decoder accepts.
* `codecs_agree`: the decoders invert the encoders, reject every strict prefix of a body, and are
  undone by encoding again.
-/

open Checked Codec

namespace Fips

open TreeCoordinate

variable {ε : Type} {data rest xs : Bytes} {i n : Nat}

/-! ## Reading on -/

/-- A word that is read behind `xs` stands there, and something behind it. -/
theorem leAt_next {v : Nat} (hdata : data = xs ++ rest) (hi : xs.length = i)
    (h : (leAt data i n : Result ε Nat) = .ok v) :
    v < 256 ^ n ∧ ∃ ys, data = xs ++ leBytes n v ++ ys := by
  subst hdata
  obtain ⟨hv, ys, rfl⟩ := (leAt_append_iff hi).mp h
  exact ⟨hv, ys, (List.append_assoc ..).symm⟩

/-- An address that is read behind `xs` stands there. -/
theorem addrAt_next {a : NodeAddr} (hdata : data = xs ++ rest) (hi : xs.length = i)
    (h : (addrAt data i : Result ε NodeAddr) = .ok a) : ∃ ys, data = xs ++ a.bytes ++ ys := by
  subst hdata
  obtain ⟨ys, rfl⟩ := (addrAt_append_iff hi).mp h
  exact ⟨ys, (List.append_assoc ..).symm⟩

/-- A byte that is read behind `xs` stands there. -/
theorem index_next {b : UInt8} (hdata : data = xs ++ rest) (hi : xs.length = i)
    (h : (index data i : Result ε UInt8) = .ok b) : ∃ ys, data = xs ++ [b] ++ ys := by
  subst hdata
  obtain ⟨ys, rfl⟩ := (index_append_iff hi).mp h
  exact ⟨ys, by rw [List.append_assoc]; rfl⟩

/-- What is read from behind `xs` is all of the rest. -/
theorem sliceFrom_next {bytes : Bytes} (hdata : data = xs ++ rest) (hi : xs.length = i)
    (h : (sliceFrom data i : Result ε Bytes) = .ok bytes) : bytes = rest := by
  subst hdata
  rw [sliceFrom_append hi] at h
  exact (Except.ok.inj h).symm

/-- A handshake payload that is read behind `xs` stands there with its length before it. -/
theorem handshakeAt_next {hs : Bytes} (hdata : data = xs ++ rest) (hi : xs.length = i)
    (h : handshakeAt data i = .ok hs) :
    hs.length ≤ 65535 ∧ ∃ ys, data = xs ++ lengthPrefixed hs ++ ys := by
  unfold handshakeAt at h
  obtain ⟨_, -, h⟩ := bind_eq_ok.mp h
  obtain ⟨hsLen, hlen, h⟩ := bind_eq_ok.mp h
  obtain ⟨_, -, h⟩ := bind_eq_ok.mp h
  obtain ⟨hlt, rest', hrest'⟩ := leAt_next hdata hi hlen
  have hnext : (xs ++ leBytes 2 hsLen).length = i + 2 := by
    rw [List.length_append, hi, length_leBytes]
  rw [hrest'] at h
  obtain ⟨hlength, ys, rfl⟩ := (slice_append_iff hnext).mp h
  refine ⟨hlength ▸ Nat.le_of_lt_succ hlt, ys, ?_⟩
  rw [hrest', lengthPrefixed, hlength]
  simp only [List.append_assoc]

/-- The length-prefixed payload comes back, whatever follows it. -/
theorem handshakeAt_append {hs : Bytes} (hi : xs.length = i) (hhs : hs.length ≤ 65535)
    (ys : Bytes) : handshakeAt (xs ++ lengthPrefixed hs ++ ys) i = .ok hs := by
  have hlen : (xs ++ lengthPrefixed hs ++ ys).length = i + (2 + hs.length) + ys.length := by
    rw [lengthPrefixed, List.length_append, List.length_append, List.length_append, hi,
      length_leBytes]
  have hnext : (xs ++ leBytes 2 hs.length).length = i + 2 := by
    rw [List.length_append, hi, length_leBytes]
  have hsplit : xs ++ lengthPrefixed hs ++ ys = xs ++ (leBytes 2 hs.length ++ (hs ++ ys)) := by
    rw [lengthPrefixed]
    simp only [List.append_assoc]
  unfold handshakeAt
  refine bind_eq_ok.mpr ⟨(), longEnough_eq_ok.mpr (by omega), bind_eq_ok.mpr ⟨hs.length, ?_, ?_⟩⟩
  · exact leAt_of_split xs hsplit hi (Nat.lt_succ_of_le hhs)
  refine bind_eq_ok.mpr ⟨(), longEnough_eq_ok.mpr (by omega), ?_⟩
  rw [hsplit, ← List.append_assoc]
  exact (slice_append_iff hnext).mpr ⟨rfl, ys, rfl⟩

/-- A signature that is read behind `xs` stands there. -/
theorem signatureAt_next {Signature : Type} [SchnorrEncoding Signature] [LawfulSchnorr Signature]
    {sig : Signature} {e : ProtocolError} (hdata : data = xs ++ rest) (hi : xs.length = i)
    (h : signatureAt data i e = .ok sig) :
    ∃ ys, data = xs ++ SchnorrEncoding.asRef sig ++ ys := by
  have hbytes := bytes_of_signatureAt h
  rw [hdata, List.drop_left' hi] at hbytes
  refine ⟨rest.drop 64, ?_⟩
  rw [hdata, ← hbytes, List.append_assoc, List.take_append_drop]

/-- Reading a byte where the bytes before it are known. -/
theorem index_of_split {b : UInt8} (xs : Bytes) (hdata : data = xs ++ ([b] ++ rest))
    (hi : xs.length = i) : (index data i : Result ε UInt8) = .ok b := by
  rw [hdata]
  exact (index_append_iff hi).mpr ⟨rest, rfl⟩

/-- The rest where the bytes before it are known. -/
theorem sliceFrom_of_split (xs : Bytes) (hdata : data = xs ++ rest) (hi : xs.length = i) :
    (sliceFrom data i : Result ε Bytes) = .ok rest := by
  rw [hdata]
  exact sliceFrom_append hi

/-- A body whose first byte keeps the bits of `mask` only. -/
def maskHead (mask : UInt8) : Bytes → Bytes
  | [] => []
  | b :: bs => (b &&& mask) :: bs

theorem length_maskHead (mask : UInt8) (bs : Bytes) : (maskHead mask bs).length = bs.length := by
  cases bs <;> rfl

/-! ## Handshake messages -/

/-- The body of a setup or an ack. -/
def pairBody (flags : UInt8) (src dest : TreeCoordinate) (handshakePayload : Bytes) : Bytes :=
  [flags] ++ encodeCoords src ++ encodeCoords dest ++ lengthPrefixed handshakePayload

/-- Behind the flags two paths are read, neither of them empty. -/
theorem coordPairAt_cons_iff {flags : UInt8} {src dest : TreeCoordinate} {offset : Nat} :
    coordPairAt (flags :: rest) = .ok (src, dest, offset) ↔ src.OnWire ∧ dest.OnWire ∧
      offset = 1 + coordsWireSize src + coordsWireSize dest ∧
      ∃ ys, rest = encodeCoords src ++ encodeCoords dest ++ ys := by
  have hfirst : (sliceFrom (flags :: rest) 1 : Result ProtocolError Bytes) = .ok rest :=
    sliceFrom_append (rfl : [flags].length = 1)
  have hsecond : ∀ (c : TreeCoordinate) (ys : Bytes),
      (sliceFrom (flags :: (encodeCoords c ++ ys)) (1 + coordsWireSize c) :
        Result ProtocolError Bytes) = .ok ys := fun c ys => by
    have hlength : (flags :: encodeCoords c).length = 1 + coordsWireSize c := by
      rw [List.length_cons, length_encodeCoords, Nat.add_comm]
    exact sliceFrom_append hlength
  unfold coordPairAt
  rw [hfirst]
  constructor
  · intro h
    obtain ⟨_, hrest, h⟩ := bind_eq_ok.mp h
    cases hrest
    obtain ⟨⟨src', consumed⟩, hsrc, h⟩ := bind_eq_ok.mp h
    obtain ⟨rest', hrest', h⟩ := bind_eq_ok.mp h
    obtain ⟨⟨dest', consumed'⟩, hdest, h⟩ := bind_eq_ok.mp h
    cases h
    obtain ⟨hsrcWire, rfl, ys, rfl⟩ := decodeCoords_iff.mp hsrc
    rw [hsecond] at hrest'
    cases hrest'
    obtain ⟨hdestWire, rfl, zs, rfl⟩ := decodeCoords_iff.mp hdest
    exact ⟨hsrcWire, hdestWire, rfl, zs, (List.append_assoc ..).symm⟩
  · rintro ⟨hsrc, hdest, rfl, ys, rfl⟩
    rw [List.append_assoc]
    refine bind_eq_ok.mpr ⟨_, rfl, bind_eq_ok.mpr ⟨_, decodeCoords_iff.mpr ⟨hsrc, rfl, _, rfl⟩, ?_⟩⟩
    refine bind_eq_ok.mpr ⟨_, hsecond src _, ?_⟩
    exact bind_eq_ok.mpr ⟨_, decodeCoords_iff.mpr ⟨hdest, rfl, ys, rfl⟩, rfl⟩

/-- What the decoders of setups and acks read. -/
theorem pair_iff {flags : UInt8} {src dest : TreeCoordinate} {hs : Bytes} :
    (longEnough 1 data = .ok () ∧ (index data 0 : Result ProtocolError UInt8) = .ok flags ∧
      ∃ offset, coordPairAt data = .ok (src, dest, offset) ∧ handshakeAt data offset = .ok hs) ↔
    (src.OnWire ∧ dest.OnWire ∧ hs.length ≤ 65535) ∧ ∃ ys, data = pairBody flags src dest hs ++ ys := by
  have hlength : ∀ c c' : TreeCoordinate, ([flags] ++ encodeCoords c ++ encodeCoords c').length =
      1 + coordsWireSize c + coordsWireSize c' := fun c c' => by
    rw [List.length_append, List.length_append, length_encodeCoords, length_encodeCoords]
    rfl
  constructor
  · rintro ⟨-, hflags, offset, hpair, hhs⟩
    obtain ⟨rest, rfl⟩ := (index_append_iff (rfl : ([] : Bytes).length = 0)).mp hflags
    obtain ⟨hsrc, hdest, rfl, ys, rfl⟩ := coordPairAt_cons_iff.mp hpair
    have hdata : flags :: (encodeCoords src ++ encodeCoords dest ++ ys) =
        [flags] ++ encodeCoords src ++ encodeCoords dest ++ ys := by
      simp only [List.append_assoc, List.cons_append, List.nil_append]
    obtain ⟨hlen, zs, hzs⟩ := handshakeAt_next hdata (hlength src dest) hhs
    exact ⟨⟨hsrc, hdest, hlen⟩, zs, hzs⟩
  · rintro ⟨⟨hsrc, hdest, hlen⟩, ys, rfl⟩
    have hcons : pairBody flags src dest hs ++ ys =
        flags :: (encodeCoords src ++ encodeCoords dest ++ (lengthPrefixed hs ++ ys)) := by
      rw [pairBody]
      simp only [List.append_assoc, List.cons_append, List.nil_append]
    refine ⟨longEnough_eq_ok.mpr (by rw [hcons]; exact Nat.le_add_left 1 _), by rw [hcons]; rfl,
      1 + coordsWireSize src + coordsWireSize dest, ?_, ?_⟩
    · rw [hcons]
      exact coordPairAt_cons_iff.mpr ⟨hsrc, hdest, rfl, _, rfl⟩
    · exact handshakeAt_append (hlength src dest) hlen ys

namespace SessionFlags

theorem fromByte_toByte (f : SessionFlags) : fromByte f.toByte = f := by
  obtain ⟨requestAck, bidirectional⟩ := f
  cases requestAck <;> cases bidirectional <;> decide

/-- The decoder keeps the two flags of the byte. -/
theorem toByte_fromByte (b : UInt8) : (fromByte b).toByte = b &&& 0x03 := by
  obtain ⟨⟨b⟩⟩ := b
  revert b
  decide +kernel

end SessionFlags

namespace SessionSetup

/-- The setups the wire carries. -/
structure InRange (s : SessionSetup) : Prop where
  src : s.srcCoords.entries.length ≤ 65535
  dest : s.destCoords.entries.length ≤ 65535
  handshake : s.handshakePayload.length ≤ 65535

/-- The setup without the metadata of its coordinates. -/
def addrsOnly (s : SessionSetup) : SessionSetup :=
  { s with srcCoords := s.srcCoords.addrsOnly, destCoords := s.destCoords.addrsOnly }

/-- What follows the prefix. -/
def body (s : SessionSetup) : Bytes := s.encode.drop 4

/-- A body of the setup: the other bits of its flag byte may be set. -/
def Body (s : SessionSetup) (body : Bytes) : Prop :=
  (s.srcCoords.OnWire ∧ s.destCoords.OnWire ∧ s.handshakePayload.length ≤ 65535) ∧
    ∃ flags, SessionFlags.fromByte flags = s.flags ∧
      body = pairBody flags s.srcCoords s.destCoords s.handshakePayload

theorem parses : Parses decode Body := by
  intro data s
  unfold decode Body
  simp only [bind_eq_ok]
  constructor
  · rintro ⟨_, hlong, flags, hflags, ⟨src, dest, offset⟩, hpair, hs, hhs, h⟩
    cases h
    obtain ⟨hwire, ys, hdata⟩ := pair_iff.mp ⟨hlong, hflags, offset, hpair, hhs⟩
    exact ⟨_, ys, ⟨hwire, flags, rfl, rfl⟩, hdata⟩
  · rintro ⟨_, ys, ⟨hwire, flags, hflags, rfl⟩, hdata⟩
    obtain ⟨hlong, hindex, offset, hpair, hhs⟩ := pair_iff.mpr ⟨hwire, ys, hdata⟩
    refine ⟨(), hlong, flags, hindex, _, hpair, _, hhs, ?_⟩
    rw [hflags]
    rfl

/-- A setup comes back without the sequence numbers of its coordinates. The reserved flag bits of a
body are not kept. -/
theorem agrees : Agrees decode body InRange addrsOnly (maskHead 0x03) := by
  refine parses.agrees noPanic_decode (fun s h => ?_) ?_ (length_maskHead 0x03)
  · refine ⟨⟨onWire_addrsOnly h.src, onWire_addrsOnly h.dest, h.handshake⟩, s.flags.toByte,
      s.flags.fromByte_toByte, ?_⟩
    unfold pairBody addrsOnly
    rw [encodeCoords_addrsOnly, encodeCoords_addrsOnly]
    rfl
  · rintro s _ ⟨-, flags, hflags, rfl⟩
    have hhead := SessionFlags.toByte_fromByte flags
    rw [hflags] at hhead
    change (flags &&& 0x03) :: _ = s.flags.toByte :: _
    rw [hhead]

end SessionSetup

namespace SessionAck

/-- The acks the wire carries. -/
structure InRange (a : SessionAck) : Prop where
  src : a.srcCoords.entries.length ≤ 65535
  dest : a.destCoords.entries.length ≤ 65535
  handshake : a.handshakePayload.length ≤ 65535

/-- The ack without the metadata of its coordinates. -/
def addrsOnly (a : SessionAck) : SessionAck :=
  { a with srcCoords := a.srcCoords.addrsOnly, destCoords := a.destCoords.addrsOnly }

/-- What follows the prefix. -/
def body (a : SessionAck) : Bytes := a.encode.drop 4

/-- The body of the ack. -/
def Body (a : SessionAck) (body : Bytes) : Prop :=
  (a.srcCoords.OnWire ∧ a.destCoords.OnWire ∧ a.handshakePayload.length ≤ 65535) ∧
    body = pairBody a.flags a.srcCoords a.destCoords a.handshakePayload

theorem parses : Parses decode Body := by
  intro data a
  unfold decode Body
  simp only [bind_eq_ok]
  constructor
  · rintro ⟨_, hlong, flags, hflags, ⟨src, dest, offset⟩, hpair, hs, hhs, h⟩
    cases h
    obtain ⟨hwire, ys, hdata⟩ := pair_iff.mp ⟨hlong, hflags, offset, hpair, hhs⟩
    exact ⟨_, ys, ⟨hwire, rfl⟩, hdata⟩
  · rintro ⟨_, ys, ⟨hwire, rfl⟩, hdata⟩
    obtain ⟨hlong, hindex, offset, hpair, hhs⟩ := pair_iff.mpr ⟨hwire, ys, hdata⟩
    exact ⟨(), hlong, a.flags, hindex, _, hpair, _, hhs, rfl⟩

/-- An ack comes back without the sequence numbers of its coordinates. -/
theorem agrees : Agrees decode body InRange addrsOnly id := by
  refine parses.agrees noPanic_decode (fun a h => ?_) ?_ fun _ => rfl
  · refine ⟨⟨onWire_addrsOnly h.src, onWire_addrsOnly h.dest, h.handshake⟩, ?_⟩
    unfold pairBody addrsOnly
    rw [encodeCoords_addrsOnly, encodeCoords_addrsOnly]
    rfl
  · rintro a _ ⟨-, rfl⟩
    rfl

end SessionAck

namespace SessionMsg3

/-- What follows the prefix. -/
def body (m : SessionMsg3) : Bytes := m.encode.drop 4

/-- The body of the message. -/
def Body (m : SessionMsg3) (body : Bytes) : Prop :=
  m.handshakePayload.length ≤ 65535 ∧ body = [m.flags] ++ lengthPrefixed m.handshakePayload

theorem parses : Parses decode Body := by
  intro data m
  have hone : [m.flags].length = 1 := rfl
  unfold decode Body
  simp only [bind_eq_ok]
  constructor
  · rintro ⟨_, -, flags, hflags, hs, hhs, h⟩
    cases h
    obtain ⟨rest, rfl⟩ := (index_append_iff (rfl : ([] : Bytes).length = 0)).mp hflags
    obtain ⟨hlen, ys, hdata⟩ := handshakeAt_next (rfl : flags :: rest = [flags] ++ rest) hone hhs
    exact ⟨_, ys, ⟨hlen, rfl⟩, hdata⟩
  · rintro ⟨_, ys, ⟨hlen, rfl⟩, rfl⟩
    refine ⟨(), longEnough_eq_ok.mpr (Nat.le_add_left 1 _), m.flags, rfl, m.handshakePayload, ?_, rfl⟩
    exact handshakeAt_append hone hlen ys

theorem agrees :
    Agrees decode body (fun m => m.handshakePayload.length ≤ 65535) id id :=
  parses.agrees noPanic_decode (fun _ h => ⟨h, rfl⟩) (fun _ _ h => h.2) fun _ => rfl

end SessionMsg3

/-! ## Path signals -/

namespace PathBroken

/-- The signals the wire carries. -/
def InRange (m : PathBroken) : Prop := ∀ c ∈ m.lastKnownCoords, c.entries.length ≤ 65535

/-- The signal without the metadata of its coordinate. -/
def addrsOnly (m : PathBroken) : PathBroken :=
  { m with lastKnownCoords := m.lastKnownCoords.map TreeCoordinate.addrsOnly }

/-- What follows the prefix and the message type. -/
def body (m : PathBroken) : Bytes := m.encode.drop 5

/-- A body of the signal: its flag byte is not read. -/
def Body (m : PathBroken) (body : Bytes) : Prop :=
  (∀ c ∈ m.lastKnownCoords, c.OnWire) ∧ ∃ flags : UInt8,
    body = [flags] ++ m.destAddr.bytes ++ m.reporter.bytes ++ encodeOptionalCoords m.lastKnownCoords

theorem body_eq (m : PathBroken) : m.body =
    [0x00] ++ m.destAddr.bytes ++ m.reporter.bytes ++ encodeOptionalCoords m.lastKnownCoords := rfl

theorem parses : Parses decode Body := by
  intro data m
  have hseventeen : ∀ (flags : UInt8) (a : NodeAddr), ([flags] ++ a.bytes).length = 17 :=
    fun flags a => by rw [List.length_append, a.length_bytes]; rfl
  have hthirtyThree : ∀ (flags : UInt8) (a b : NodeAddr),
      ([flags] ++ a.bytes ++ b.bytes).length = 33 := fun flags a b => by
    rw [List.length_append, hseventeen, b.length_bytes]
  unfold decode Body
  simp only [bind_eq_ok]
  constructor
  · rintro ⟨_, hlong, dest, hdest, reporter, hreporter, rest, hrest, ⟨coords, n⟩, hcoords, h⟩
    cases h
    have hpos : 0 < data.length := lt_of_lt_of_le (by decide) (longEnough_eq_ok.mp hlong)
    obtain ⟨flags, tail, rfl⟩ := List.exists_cons_of_length_pos hpos
    obtain ⟨ys, hys⟩ := addrAt_next (rfl : flags :: tail = [flags] ++ tail) (rfl : [flags].length = 1) hdest
    obtain ⟨zs, hzs⟩ := addrAt_next hys (hseventeen flags dest) hreporter
    obtain rfl := sliceFrom_next hzs (hthirtyThree flags dest reporter) hrest
    obtain ⟨hwire, -, ws, rfl⟩ := decodeOptionalCoords_iff.mp hcoords
    exact ⟨_, ws, ⟨hwire, flags, rfl⟩, hzs.trans (List.append_assoc ..).symm⟩
  · rintro ⟨_, ys, ⟨hwire, flags, rfl⟩, hdata⟩
    have haddrs := hthirtyThree flags m.destAddr m.reporter
    have htwo : 2 ≤ (encodeOptionalCoords m.lastKnownCoords).length := by
      cases m.lastKnownCoords with
      | none => exact (length_leBytes 2 0).ge
      | some c =>
        rw [encodeOptionalCoords, length_encodeCoords]
        exact Nat.le_add_right 2 _
    have h₃ := hdata.trans (List.append_assoc _ (encodeOptionalCoords m.lastKnownCoords) ys)
    have h₂ := h₃.trans (List.append_assoc _ m.reporter.bytes _)
    have h₁ := h₂.trans (List.append_assoc _ m.destAddr.bytes _)
    refine ⟨(), longEnough_eq_ok.mpr ?_, m.destAddr, addrAt_of_split _ h₁ rfl, m.reporter,
      addrAt_of_split _ h₂ (hseventeen flags m.destAddr), _, sliceFrom_of_split _ h₃ haddrs, _,
      decodeOptionalCoords_iff.mpr ⟨hwire, rfl, ys, rfl⟩, rfl⟩
    rw [h₃, List.length_append, haddrs, List.length_append]
    omega

/-- A `PathBroken` comes back without the sequence numbers of its coordinates. The flags of a body are
not kept. -/
theorem agrees : Agrees decode body InRange addrsOnly (maskHead 0x00) := by
  refine parses.agrees noPanic_decode (fun m h => ?_) ?_ (length_maskHead 0x00)
  · obtain ⟨dest, reporter, coords⟩ := m
    cases coords with
    | none => exact ⟨fun _ hnever => absurd hnever (by simp [addrsOnly]), 0x00, rfl⟩
    | some c =>
      refine ⟨fun c' hc' => ?_, 0x00, ?_⟩
      · obtain rfl := Option.some.inj hc'
        exact onWire_addrsOnly (h c rfl)
      · rw [body_eq]
        simp only [addrsOnly, Option.map_some, encodeOptionalCoords, encodeCoords_addrsOnly]
  · rintro m _ ⟨-, flags, rfl⟩
    have hzero : flags &&& 0x00 = 0x00 := by simp
    rw [body_eq]
    change (flags &&& 0x00) :: _ = 0x00 :: _
    rw [hzero]

end PathBroken

/-! ## Discovery -/

namespace LookupRequest

/-- The requests the wire carries: the numbers are `u64` and `u16`. -/
structure InRange (r : LookupRequest) : Prop where
  requestId : r.requestId < 256 ^ 8
  minMtu : r.minMtu < 256 ^ 2
  coords : r.originCoords.entries.length ≤ 65535

/-- The request without the metadata of its coordinate. -/
def addrsOnly (r : LookupRequest) : LookupRequest :=
  { r with originCoords := r.originCoords.addrsOnly }

/-- What follows the message type. -/
def body (r : LookupRequest) : Bytes := r.encode.drop 1

/-- The body of the request. -/
def Body (r : LookupRequest) (body : Bytes) : Prop :=
  (r.requestId < 256 ^ 8 ∧ r.minMtu < 256 ^ 2 ∧ r.originCoords.OnWire) ∧ body = r.body

/-- The body field by field. -/
theorem body_eq (r : LookupRequest) : r.body =
    [] ++ leBytes 8 r.requestId ++ r.target.bytes ++ r.origin.bytes ++ [r.ttl] ++ leBytes 2 r.minMtu ++
      encodeCoords r.originCoords := rfl

section Offsets

variable (requestId : Nat) (target origin : NodeAddr) (ttl : UInt8) (minMtu : Nat)

theorem length_target : ([] ++ leBytes 8 requestId : Bytes).length = 8 :=
  length_leBytes 8 requestId

theorem length_origin : ([] ++ leBytes 8 requestId ++ target.bytes).length = 24 := by
  rw [List.length_append, length_target, target.length_bytes]

theorem length_ttl : ([] ++ leBytes 8 requestId ++ target.bytes ++ origin.bytes).length = 40 := by
  rw [List.length_append, length_origin, origin.length_bytes]

theorem length_minMtu :
    ([] ++ leBytes 8 requestId ++ target.bytes ++ origin.bytes ++ [ttl]).length = 41 := by
  rw [List.length_append, length_ttl, List.length_singleton]

theorem length_coords : ([] ++ leBytes 8 requestId ++ target.bytes ++ origin.bytes ++ [ttl] ++
    leBytes 2 minMtu).length = 43 := by
  rw [List.length_append, length_minMtu, length_leBytes]

end Offsets

/-- The decoder of requests accepts what begins with the body of one. -/
theorem parses : Parses decode Body := by
  intro data r
  unfold decode Body
  simp only [bind_eq_ok]
  constructor
  · rintro ⟨_, -, requestId, hid, target, htarget, origin, horigin, ttl, httl, minMtu, hmtu, rest,
      hrest, ⟨coords, n⟩, hcoords, h⟩
    cases h
    obtain ⟨hidLt, _, h₁⟩ := leAt_next (List.nil_append data).symm (rfl : ([] : Bytes).length = 0) hid
    obtain ⟨_, h₂⟩ := addrAt_next h₁ (length_target requestId) htarget
    obtain ⟨_, h₃⟩ := addrAt_next h₂ (length_origin requestId target) horigin
    obtain ⟨_, h₄⟩ := index_next h₃ (length_ttl requestId target origin) httl
    obtain ⟨hmtuLt, _, h₅⟩ := leAt_next h₄ (length_minMtu requestId target origin ttl) hmtu
    obtain rfl := sliceFrom_next h₅ (length_coords requestId target origin ttl minMtu) hrest
    obtain ⟨hwire, -, ys, rfl⟩ := decodeCoords_iff.mp hcoords
    refine ⟨_, ys, ⟨⟨hidLt, hmtuLt, hwire⟩, rfl⟩, ?_⟩
    rw [h₅, body_eq, ← List.append_assoc]
  · rintro ⟨_, ys, ⟨⟨hid, hmtu, hwire⟩, rfl⟩, hdata⟩
    rw [body_eq] at hdata
    -- the data behind each field, from the last field to the first
    have h₅ := hdata.trans (List.append_assoc _ (encodeCoords r.originCoords) ys)
    have h₄ := h₅.trans (List.append_assoc _ (leBytes 2 r.minMtu) _)
    have h₃ := h₄.trans (List.append_assoc _ [r.ttl] _)
    have h₂ := h₃.trans (List.append_assoc _ r.origin.bytes _)
    have h₁ := h₂.trans (List.append_assoc _ r.target.bytes _)
    have hcoordsLen := length_coords r.requestId r.target r.origin r.ttl r.minMtu
    refine ⟨(), longEnough_eq_ok.mpr ?_, r.requestId,
      leAt_of_split [] (h₁.trans (List.append_assoc _ (leBytes 8 r.requestId) _)) rfl hid, r.target,
      addrAt_of_split _ h₁ (length_target r.requestId), r.origin,
      addrAt_of_split _ h₂ (length_origin r.requestId r.target), r.ttl,
      index_of_split _ h₃ (length_ttl r.requestId r.target r.origin), r.minMtu,
      leAt_of_split _ h₄ (length_minMtu r.requestId r.target r.origin r.ttl) hmtu, _,
      sliceFrom_of_split _ h₅ hcoordsLen, _, decodeCoords_iff.mpr ⟨hwire, rfl, ys, rfl⟩, rfl⟩
    rw [h₅, List.length_append, hcoordsLen, List.length_append, length_encodeCoords, coordsWireSize]
    omega

/-- A request comes back without the sequence numbers of its coordinates. -/
theorem agrees : Agrees decode body InRange addrsOnly id := by
  refine parses.agrees noPanic_decode (fun r h => ?_) (fun _ _ h => h.2) fun _ => rfl
  refine ⟨⟨h.requestId, h.minMtu, onWire_addrsOnly h.coords⟩, ?_⟩
  rw [body_eq, body_eq, addrsOnly, encodeCoords_addrsOnly]

end LookupRequest

namespace LookupResponse

section Signed

variable {Signature : Type} [SchnorrEncoding Signature]

/-- The responses the wire carries: the numbers are `u64` and `u16`. -/
structure InRange (r : LookupResponse Signature) : Prop where
  requestId : r.requestId < 256 ^ 8
  pathMtu : r.pathMtu < 256 ^ 2
  coords : r.targetCoords.entries.length ≤ 65535

/-- The response without the metadata of its coordinate. -/
def addrsOnly (r : LookupResponse Signature) : LookupResponse Signature :=
  { r with targetCoords := r.targetCoords.addrsOnly }

/-- What follows the message type. -/
def body (r : LookupResponse Signature) : Bytes := r.encode.drop 1

/-- The body of the response. -/
def Body (r : LookupResponse Signature) (body : Bytes) : Prop :=
  (r.requestId < 256 ^ 8 ∧ r.pathMtu < 256 ^ 2 ∧ r.targetCoords.OnWire) ∧ body = r.body

/-- The body field by field. -/
theorem body_eq (r : LookupResponse Signature) : r.body =
    [] ++ leBytes 8 r.requestId ++ r.target.bytes ++ leBytes 2 r.pathMtu ++
      encodeCoords r.targetCoords ++ SchnorrEncoding.asRef r.proof := rfl

theorem length_pathMtu (requestId : Nat) (target : NodeAddr) :
    ([] ++ leBytes 8 requestId ++ target.bytes).length = 24 :=
  LookupRequest.length_origin requestId target

theorem length_coords (requestId : Nat) (target : NodeAddr) (pathMtu : Nat) :
    ([] ++ leBytes 8 requestId ++ target.bytes ++ leBytes 2 pathMtu).length = 26 := by
  rw [List.length_append, length_pathMtu, length_leBytes]

theorem length_proof (requestId : Nat) (target : NodeAddr) (pathMtu : Nat) (c : TreeCoordinate) :
    ([] ++ leBytes 8 requestId ++ target.bytes ++ leBytes 2 pathMtu ++ encodeCoords c).length =
      26 + coordsWireSize c := by
  rw [List.length_append, length_coords, length_encodeCoords]

/-- The path MTU of an encoded response, cast to its 16 bits. -/
theorem pathMtu_of_encode {r r' : LookupResponse Signature} {payload : Bytes}
    (hp : 0x31 :: payload = r.encode) (h : decode payload = .ok r') :
    r'.pathMtu = r.pathMtu % 65536 := by
  have hpayload : payload = ([] ++ leBytes 8 r.requestId ++ r.target.bytes) ++
      (leBytes 2 r.pathMtu ++ (encodeCoords r.targetCoords ++ SchnorrEncoding.asRef r.proof)) := by
    simpa [encode] using hp
  unfold decode at h
  simp only [bind_eq_ok] at h
  obtain ⟨_, -, _, -, _, -, pathMtu, hmtu, _, -, _, -, _, -, _, -, h⟩ := h
  cases h
  rw [hpayload, leAt_append_mod (length_pathMtu r.requestId r.target)] at hmtu
  exact (Except.ok.inj hmtu).symm

/-- The decoder of responses accepts what begins with the body of one. -/
theorem parses [LawfulSchnorr Signature] :
    Parses (decode : Bytes → Result ProtocolError (LookupResponse Signature)) Body := by
  intro data r
  unfold decode Body
  simp only [bind_eq_ok]
  constructor
  · rintro ⟨_, -, requestId, hid, target, htarget, pathMtu, hmtu, rest, hrest, ⟨coords, n⟩, hcoords,
      _, -, proof, hproof, h⟩
    cases h
    obtain ⟨hidLt, _, h₁⟩ := leAt_next (List.nil_append data).symm (rfl : ([] : Bytes).length = 0) hid
    obtain ⟨_, h₂⟩ := addrAt_next h₁ (LookupRequest.length_target requestId) htarget
    obtain ⟨hmtuLt, _, h₃⟩ := leAt_next h₂ (length_pathMtu requestId target) hmtu
    obtain rfl := sliceFrom_next h₃ (length_coords requestId target pathMtu) hrest
    obtain ⟨hwire, rfl, ys, rfl⟩ := decodeCoords_iff.mp hcoords
    have h₄ := h₃.trans (List.append_assoc ..).symm
    obtain ⟨zs, h₅⟩ := signatureAt_next h₄ (length_proof requestId target pathMtu coords) hproof
    exact ⟨_, zs, ⟨⟨hidLt, hmtuLt, hwire⟩, rfl⟩, h₅⟩
  · rintro ⟨_, ys, ⟨⟨hid, hmtu, hwire⟩, rfl⟩, hdata⟩
    rw [body_eq] at hdata
    -- the data behind each field, from the last field to the first
    have h₄ := hdata.trans (List.append_assoc _ (SchnorrEncoding.asRef r.proof) ys)
    have h₃ := h₄.trans (List.append_assoc _ (encodeCoords r.targetCoords) _)
    have h₂ := h₃.trans (List.append_assoc _ (leBytes 2 r.pathMtu) _)
    have h₁ := h₂.trans (List.append_assoc _ r.target.bytes _)
    have hproofLen := length_proof r.requestId r.target r.pathMtu r.targetCoords
    have hlength : 26 + coordsWireSize r.targetCoords + 64 ≤ data.length := by
      rw [h₄, List.length_append, hproofLen, List.length_append, LawfulSchnorr.length_asRef]
      omega
    have hcoords : 18 ≤ coordsWireSize r.targetCoords := by
      have hpos : 0 < r.targetCoords.entries.length := List.length_pos_iff.mpr r.targetCoords.nonempty
      unfold coordsWireSize
      omega
    exact ⟨(), longEnough_eq_ok.mpr (by omega), r.requestId,
      leAt_of_split [] (h₁.trans (List.append_assoc _ (leBytes 8 r.requestId) _)) rfl hid, r.target,
      addrAt_of_split _ h₁ (LookupRequest.length_target r.requestId), r.pathMtu,
      leAt_of_split _ h₂ (length_pathMtu r.requestId r.target) hmtu, _,
      sliceFrom_of_split _ h₃ (length_coords r.requestId r.target r.pathMtu), _,
      decodeCoords_iff.mpr ⟨hwire, rfl, _, rfl⟩, (), longEnough_eq_ok.mpr hlength, r.proof,
      signatureAt_of_split _ ys h₄ hproofLen, rfl⟩

/-- A response comes back without the sequence numbers of its coordinates. -/
theorem agrees [LawfulSchnorr Signature] :
    Agrees (decode : Bytes → Result ProtocolError (LookupResponse Signature)) body InRange addrsOnly
      id := by
  refine parses.agrees noPanic_decode (fun r h => ?_) (fun _ _ h => h.2) fun _ => rfl
  refine ⟨⟨h.requestId, h.pathMtu, onWire_addrsOnly h.coords⟩, ?_⟩
  rw [body_eq, body_eq, addrsOnly, encodeCoords_addrsOnly]

end Signed

end LookupResponse

/-! ## The envelope -/

namespace SessionDatagram

/-- Encoding inverts decoding: an envelope is read to its end. -/
theorem encode_decode {d : SessionDatagram} (h : decode data = .ok d) : d.encode.tail = data := by
  unfold decode at h
  simp only [bind_eq_ok] at h
  obtain ⟨_, -, ttl, httl, pathMtu, hmtu, src, hsrc, dest, hdest, rest, hrest, h⟩ := h
  cases h
  obtain ⟨_, h₁⟩ := index_next (List.nil_append data).symm (rfl : ([] : Bytes).length = 0) httl
  obtain ⟨-, _, h₂⟩ := leAt_next h₁ rfl hmtu
  have hthree : ([] ++ [ttl] ++ leBytes 2 pathMtu).length = 3 := rfl
  obtain ⟨_, h₃⟩ := addrAt_next h₂ hthree hsrc
  have hnineteen : ([] ++ [ttl] ++ leBytes 2 pathMtu ++ src.bytes).length = 19 := by
    rw [List.length_append, hthree, src.length_bytes]
  obtain ⟨_, h₄⟩ := addrAt_next h₃ hnineteen hdest
  have hthirtyFive : ([] ++ [ttl] ++ leBytes 2 pathMtu ++ src.bytes ++ dest.bytes).length = 35 := by
    rw [List.length_append, hnineteen, dest.length_bytes]
  obtain rfl := sliceFrom_next h₄ hthirtyFive hrest
  exact h₄.symm

end SessionDatagram

/-- **The codecs agree**: each decoder returns what was encoded, without the metadata of its
coordinates, rejects every strict prefix of a body and is undone by encoding again up to reserved
flag bits; an envelope comes back whole, whatever its payload. -/
theorem codecs_agree (Signature : Type) [SchnorrEncoding Signature] [LawfulSchnorr Signature] :
    Agrees SessionSetup.decode SessionSetup.body SessionSetup.InRange SessionSetup.addrsOnly
      (maskHead 0x03) ∧
    Agrees SessionAck.decode SessionAck.body SessionAck.InRange SessionAck.addrsOnly id ∧
    Agrees SessionMsg3.decode SessionMsg3.body (fun m => m.handshakePayload.length ≤ 65535) id id ∧
    Agrees PathBroken.decode PathBroken.body PathBroken.InRange PathBroken.addrsOnly
      (maskHead 0x00) ∧
    Agrees LookupRequest.decode LookupRequest.body LookupRequest.InRange LookupRequest.addrsOnly id ∧
    Agrees (LookupResponse.decode : Bytes → Result ProtocolError (LookupResponse Signature))
      LookupResponse.body LookupResponse.InRange LookupResponse.addrsOnly id ∧
    (∀ d : SessionDatagram, d.pathMtu ≤ U16_MAX → SessionDatagram.decode d.encode.tail = .ok d) ∧
    ∀ (data : Bytes) (d : SessionDatagram), SessionDatagram.decode data = .ok d →
      d.encode.tail = data := by
  refine ⟨SessionSetup.agrees, SessionAck.agrees, SessionMsg3.agrees, PathBroken.agrees,
    LookupRequest.agrees, LookupResponse.agrees, fun d hd => ?_, fun _ _ => ?_⟩
  · have hmod : d.pathMtu % 65536 = d.pathMtu := Nat.mod_eq_of_lt (Nat.lt_succ_of_le hd)
    rw [SessionDatagram.decode_encode, hmod]
  · exact SessionDatagram.encode_decode

/-- Signatures of 64 bytes. -/
theorem codecs_agree_schnorrBytes :
    Agrees (LookupResponse.decode : Bytes → Result ProtocolError (LookupResponse SchnorrBytes))
      LookupResponse.body LookupResponse.InRange LookupResponse.addrsOnly id :=
  (codecs_agree SchnorrBytes).2.2.2.2.2.1

end Fips
