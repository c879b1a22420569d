import Fips.Tree.State
import Fips.Wire.Codec
import Fips.Wire.Link

/-!
# The codec of tree announces

`TreeAnnounce::encode` (`protocol/tree.rs:49-80`) and `decode` (`protocol/tree.rs:82-190`). The
encoder casts the number of ancestry entries to 16 bits, writes all of them, and leaves the
declaring address out: the decoder takes it from the first entry.

The count field holds 65535 entries, so longer announces would not come back. How long an ancestry
gets is a matter of the packets that bring it (`Node/AncestryLength`).

## Results

* `TreeAnnounce.decode_encode`: an announce of at most 65535 entries comes back.
* `TreeAnnounce.count_of_decode`: the decoder returns as many entries as the count field says.
* `TreeAnnounce.encode_decode`: re-encoding what was decoded gives the bytes that were consumed.
* `TreeAnnounce.codec_iff`: the announces that come back are those of at most 65535 entries, and
  every accepted payload is reproduced.
-/

open Checked

namespace Fips

variable {ε : Type}

/-! ## Bytes read and written again -/

/-- The bytes an integer was read from. -/
theorem bytes_of_leAt {data : Bytes} {i n v : Nat} (h : (leAt data i n : Result ε Nat) = .ok v) :
    (data.drop i).take n = leBytes n v := by
  obtain ⟨bytes, hslice, heq⟩ := bind_eq_ok.mp h
  obtain ⟨-, hlen, rfl⟩ := slice_eq_ok.mp hslice
  cases heq
  rw [Nat.add_sub_cancel_left]
  have hback := leBytes_leNat ((data.drop i).take n)
  rw [List.length_take, List.length_drop, Nat.min_eq_left (by omega)] at hback
  exact hback.symm

/-- The bytes an address was read from. -/
theorem bytes_of_addrAt {data : Bytes} {i : Nat} {a : NodeAddr}
    (h : (addrAt data i : Result ε NodeAddr) = .ok a) : (data.drop i).take 16 = a.bytes := by
  obtain ⟨bytes, hslice, heq⟩ := bind_eq_ok.mp h
  obtain ⟨-, hlen, rfl⟩ := slice_eq_ok.mp hslice
  cases heq
  rw [Nat.add_sub_cancel_left]
  refine (NodeAddr.bytes_fromBytes ?_).symm
  rw [List.length_take, List.length_drop]
  omega

/-- Reading an integer where the bytes before it are known. -/
theorem leAt_of_split {data ys : Bytes} {n v : Nat} (xs : Bytes)
    (hdata : data = xs ++ (leBytes n v ++ ys)) {i : Nat} (hi : xs.length = i)
    (hv : v < 256 ^ n) : (leAt data i n : Result ε Nat) = .ok v := by
  rw [hdata, ← List.append_assoc]
  exact leAt_append hi hv

/-- Reading an address where the bytes before it are known. -/
theorem addrAt_of_split {data ys : Bytes} {a : NodeAddr} (xs : Bytes)
    (hdata : data = xs ++ (a.bytes ++ ys)) {i : Nat} (hi : xs.length = i) :
    (addrAt data i : Result ε NodeAddr) = .ok a := by
  rw [hdata, ← List.append_assoc]
  exact addrAt_append a hi

/-! ## Ancestry entries -/

namespace CoordEntry

/-- One entry: `node_addr (16) || sequence (8) || timestamp (8)`. -/
def bytes (e : CoordEntry) : Bytes := e.nodeAddr.bytes ++ leBytes 8 e.sequence ++ leBytes 8 e.timestamp

theorem length_bytes (e : CoordEntry) : e.bytes.length = 32 := by
  unfold bytes
  simp [NodeAddr.length_bytes]

/-- The numbers are `u64`. -/
def InRange (e : CoordEntry) : Prop := e.sequence < 256 ^ 8 ∧ e.timestamp < 256 ^ 8

instance (e : CoordEntry) : Decidable e.InRange := inferInstanceAs (Decidable (_ ∧ _))

end CoordEntry

theorem length_flatMap_bytes (entries : List CoordEntry) :
    (entries.flatMap CoordEntry.bytes).length = entries.length * 32 := by
  induction entries with
  | nil => rfl
  | cons e entries ih =>
    rw [List.flatMap_cons, List.length_append, ih, e.length_bytes, List.length_cons]
    omega

/-- Reading back entries that were written at this offset. -/
theorem ancestryAt_of_split {data ys : Bytes} {entries : List CoordEntry} (xs : Bytes)
    (hdata : data = xs ++ (entries.flatMap CoordEntry.bytes ++ ys)) {i : Nat}
    (hi : xs.length = i) (hrange : ∀ e ∈ entries, e.InRange) :
    ancestryAt data entries.length i = .ok entries := by
  induction entries generalizing xs i with
  | nil => rfl
  | cons e entries ih =>
    obtain ⟨hseq, hts⟩ := hrange e List.mem_cons_self
    rw [List.flatMap_cons, CoordEntry.bytes] at hdata
    simp only [List.append_assoc] at hdata
    have haddr : (addrAt data i : Result ProtocolError NodeAddr) = .ok e.nodeAddr :=
      addrAt_of_split xs hdata hi
    have hsequence : (leAt data (i + 16) 8 : Result ProtocolError Nat) = .ok e.sequence :=
      leAt_of_split (xs ++ e.nodeAddr.bytes) (hdata.trans (List.append_assoc ..).symm)
        (by rw [List.length_append, e.nodeAddr.length_bytes, hi]) hseq
    have htimestamp : (leAt data (i + 24) 8 : Result ProtocolError Nat) = .ok e.timestamp :=
      leAt_of_split (xs ++ e.nodeAddr.bytes ++ leBytes 8 e.sequence)
        (hdata.trans (by simp only [List.append_assoc]; rfl))
        (by simp only [List.length_append, e.nodeAddr.length_bytes, length_leBytes, hi]) hts
    have hrest : ancestryAt data entries.length (i + 32) = .ok entries := by
      refine ih (xs ++ e.bytes) ?_ ?_ fun e' he => hrange e' (List.mem_cons_of_mem e he)
      · rw [hdata, CoordEntry.bytes]
        simp only [List.append_assoc]
      · rw [List.length_append, e.length_bytes, hi]
    rw [List.length_cons, ancestryAt, haddr, hsequence, htimestamp, hrest]
    rfl

/-- As many entries as asked for. -/
theorem length_of_ancestryAt {data : Bytes} {n i : Nat} {entries : List CoordEntry}
    (h : ancestryAt data n i = .ok entries) : entries.length = n := by
  induction n generalizing i entries with
  | zero =>
    cases h
    rfl
  | succ n ih =>
    simp only [ancestryAt, bind_eq_ok] at h
    obtain ⟨_, -, _, -, _, -, rest, hrest, h⟩ := h
    cases h
    rw [List.length_cons, ih hrest]

/-- The bytes the entries were read from. -/
theorem bytes_of_ancestryAt {data : Bytes} {n i : Nat} {entries : List CoordEntry}
    (h : ancestryAt data n i = .ok entries) :
    (data.drop i).take (n * 32) = entries.flatMap CoordEntry.bytes := by
  induction n generalizing i entries with
  | zero =>
    cases h
    rw [Nat.zero_mul, List.take_zero]
    rfl
  | succ n ih =>
    simp only [ancestryAt, bind_eq_ok] at h
    obtain ⟨nodeAddr, haddr, sequence, hseq, timestamp, hts, rest, hrest, h⟩ := h
    cases h
    have hsplit : (n + 1) * 32 = 16 + (8 + (8 + n * 32)) := by omega
    rw [hsplit, List.take_add, List.take_add, List.take_add, List.drop_drop, List.drop_drop,
      List.drop_drop, bytes_of_addrAt haddr, bytes_of_leAt hseq, bytes_of_leAt hts, ih hrest,
      List.flatMap_cons, CoordEntry.bytes]
    simp only [List.append_assoc]

/-! ## Signatures -/

/-- What the `secp256k1` crate documents of a Schnorr signature: it is 64 bytes, which it is parsed
from and shown as. -/
class LawfulSchnorr (Signature : Type) [SchnorrEncoding Signature] : Prop where
  length_asRef : ∀ sig : Signature, (SchnorrEncoding.asRef sig).length = 64
  fromSlice_asRef : ∀ sig : Signature,
    SchnorrSignature.fromSlice (SchnorrEncoding.asRef sig) = some sig
  asRef_fromSlice : ∀ (bytes : Bytes) (sig : Signature),
    SchnorrSignature.fromSlice bytes = some sig → SchnorrEncoding.asRef sig = bytes

section Signatures

variable {Signature : Type} [SchnorrEncoding Signature] [LawfulSchnorr Signature] {data : Bytes}
  {i : Nat} {sig : Signature} {e : ProtocolError}

theorem signatureAt_of_split (xs ys : Bytes)
    (hdata : data = xs ++ (SchnorrEncoding.asRef sig ++ ys)) (hi : xs.length = i) :
    signatureAt data i e = .ok sig := by
  have hslice : (slice data i (i + 64) : Result ProtocolError Bytes) =
      .ok (SchnorrEncoding.asRef sig) := by
    rw [hdata, ← List.append_assoc]
    exact slice_append_mid hi (by rw [LawfulSchnorr.length_asRef])
  exact bind_eq_ok.mpr ⟨_, hslice, okOr_eq_ok.mpr (LawfulSchnorr.fromSlice_asRef sig)⟩

theorem bytes_of_signatureAt (h : signatureAt data i e = .ok sig) :
    (data.drop i).take 64 = SchnorrEncoding.asRef sig := by
  obtain ⟨bytes, hslice, hsig⟩ := bind_eq_ok.mp h
  obtain ⟨-, -, rfl⟩ := slice_eq_ok.mp hslice
  rw [Nat.add_sub_cancel_left] at hsig
  exact (LawfulSchnorr.asRef_fromSlice _ sig (okOr_eq_ok.mp hsig)).symm

end Signatures

/-! ## Announces -/

namespace TreeAnnounce

section Decoder

variable {Signature : Type} [SchnorrSignature Signature] {payload : Bytes}
  {a : TreeAnnounce Signature}

/-- What the decoder reads, field by field. -/
structure Decodes (payload : Bytes) (a : TreeAnnounce Signature) : Prop where
  version : (index payload 0 : Result ProtocolError UInt8) = .ok VERSION_1
  sequence : (leAt payload 1 8 : Result ProtocolError Nat) = .ok a.declaration.sequence
  timestamp : (leAt payload 9 8 : Result ProtocolError Nat) = .ok a.declaration.timestamp
  parent : (addrAt payload 17 : Result ProtocolError NodeAddr) = .ok a.declaration.parentId
  count : (leAt payload 33 2 : Result ProtocolError Nat) = .ok a.ancestry.entries.length
  fits : 99 + a.ancestry.entries.length * 32 ≤ payload.length
  entries : ancestryAt payload a.ancestry.entries.length 35 = .ok a.ancestry.entries
  signature : ∃ sig : Signature, a.declaration.signature = some sig ∧
    signatureAt payload (35 + a.ancestry.entries.length * 32) .invalidSignature = .ok sig
  ownHead : a.OwnHead

/-- **What the decoder accepts.** -/
theorem decode_eq_ok_iff : decode payload = .ok a ↔ Decodes payload a := by
  unfold decode
  constructor
  · intro h
    have hhead := ownHead_of_decode h
    simp only [bind_eq_ok, check_eq_ok] at h
    obtain ⟨_, -, version, hversion, _, hone, sequence, hseq, timestamp, hts, parent, hparent,
      count, hcount, remaining, hremaining, _, hfits, entries, hentries, sig, hsig, _, -, first,
      hfirst, ancestry, hancestry, h⟩ := h
    cases h
    rw [ofExcept_eq_ok] at hancestry
    have hlist : ancestry.entries = entries := by
      unfold TreeCoordinate.new at hancestry
      split_ifs at hancestry
      · cases hancestry
      · cases hancestry
        rfl
    have hlen := length_of_ancestryAt hentries
    obtain rfl := beq_iff_eq.mp hone
    obtain ⟨hle, rfl⟩ := sub_eq_ok.mp hremaining
    have hroom := of_decide_eq_true hfits
    unfold CoordEntry.WIRE_SIZE at hroom hsig
    rw [← hlen] at hcount hentries hsig hroom
    refine ⟨hversion, hseq, hts, hparent, ?_, ?_, ?_, ⟨sig, rfl, ?_⟩, hhead⟩
    · rw [hlist]
      exact hcount
    · rw [hlist]
      omega
    · rw [hlist]
      exact hentries
    · rw [hlist]
      exact hsig
  · intro h
    have hfits := h.fits
    obtain ⟨sig, hsome, hsig⟩ := h.signature
    have hne := a.ancestry.nonempty
    refine bind_eq_ok.mpr ⟨(), longEnough_eq_ok.mpr ?_, ?_⟩
    · unfold MIN_PAYLOAD_SIZE
      omega
    refine bind_eq_ok.mpr ⟨_, h.version, bind_eq_ok.mpr ⟨(), check_eq_ok.mpr (beq_self_eq_true _), ?_⟩⟩
    refine bind_eq_ok.mpr ⟨_, h.sequence, bind_eq_ok.mpr ⟨_, h.timestamp, ?_⟩⟩
    refine bind_eq_ok.mpr ⟨_, h.parent, bind_eq_ok.mpr ⟨_, h.count, ?_⟩⟩
    refine bind_eq_ok.mpr ⟨_, sub_eq_ok.mpr ⟨by omega, rfl⟩, ?_⟩
    refine bind_eq_ok.mpr ⟨(), check_eq_ok.mpr (decide_eq_true ?_), ?_⟩
    · unfold CoordEntry.WIRE_SIZE
      omega
    refine bind_eq_ok.mpr ⟨_, h.entries, bind_eq_ok.mpr ⟨_, hsig, ?_⟩⟩
    refine bind_eq_ok.mpr ⟨(), check_eq_ok.mpr (by simpa using hne), ?_⟩
    refine bind_eq_ok.mpr ⟨a.ancestry.entries.head hne, ?_, ?_⟩
    · unfold index
      rw [unwrap_eq_ok, ← List.head?_eq_getElem?, List.head?_eq_some_head hne]
    refine bind_eq_ok.mpr ⟨a.ancestry, ?_, ?_⟩
    · rw [ofExcept_eq_ok]
      unfold TreeCoordinate.new
      rw [dif_neg hne]
      rfl
    · have hhead : (a.ancestry.entries.head hne).nodeAddr = a.declaration.nodeAddr := h.ownHead
      rw [hhead, ← hsome]
      rfl

/-- The decoder returns as many entries as the count field says. -/
theorem count_of_decode (h : decode payload = .ok a) :
    (leAt payload 33 2 : Result ProtocolError Nat) = .ok a.ancestry.entries.length :=
  (decode_eq_ok_iff.mp h).count

end Decoder

section Codec

variable {Signature : Type} [SchnorrEncoding Signature]

/-- `TreeAnnounce::encode`. The number of entries is cast to 16 bits (`as u16`). -/
def encode (a : TreeAnnounce Signature) : Except ProtocolError Bytes :=
  match a.declaration.signature with
  | none => .error .invalidSignature
  | some signature =>
    let entries := a.ancestry.entries
    let ancestryCount := entries.length % 65536
    .ok (0x10 :: VERSION_1 ::
      (leBytes 8 a.declaration.sequence ++ leBytes 8 a.declaration.timestamp ++
        a.declaration.parentId.bytes ++ leBytes 2 ancestryCount ++
        entries.flatMap CoordEntry.bytes ++ SchnorrEncoding.asRef signature))

/-- The numbers are `u64`. -/
structure InRange (a : TreeAnnounce Signature) : Prop where
  sequence : a.declaration.sequence < 256 ^ 8
  timestamp : a.declaration.timestamp < 256 ^ 8
  entries : ∀ e ∈ a.ancestry.entries, e.InRange

/-- The announce can be encoded, and decoding the bytes after the type byte gives it back. -/
def RoundTrips (a : TreeAnnounce Signature) : Prop :=
  ∃ bytes, a.encode = .ok bytes ∧ decode bytes.tail = .ok a

variable {a : TreeAnnounce Signature} {sig : Signature}

/-- The bytes after the type byte. -/
def payload (a : TreeAnnounce Signature) (sig : Signature) : Bytes :=
  VERSION_1 :: (leBytes 8 a.declaration.sequence ++ leBytes 8 a.declaration.timestamp ++
    a.declaration.parentId.bytes ++ leBytes 2 (a.ancestry.entries.length % 65536) ++
    a.ancestry.entries.flatMap CoordEntry.bytes ++ SchnorrEncoding.asRef sig)

theorem encode_of_signature (h : a.declaration.signature = some sig) :
    a.encode = .ok (0x10 :: a.payload sig) := by
  unfold encode
  rw [h]
  rfl

/-- The payload field by field. -/
theorem payload_eq (a : TreeAnnounce Signature) (sig : Signature) :
    a.payload sig = [VERSION_1] ++ (leBytes 8 a.declaration.sequence ++
      (leBytes 8 a.declaration.timestamp ++ (a.declaration.parentId.bytes ++
      (leBytes 2 (a.ancestry.entries.length % 65536) ++
      (a.ancestry.entries.flatMap CoordEntry.bytes ++ SchnorrEncoding.asRef sig))))) := by
  unfold payload
  simp only [List.append_assoc, List.singleton_append]

theorem length_payload [LawfulSchnorr Signature] (a : TreeAnnounce Signature) (sig : Signature) :
    (a.payload sig).length = 99 + a.ancestry.entries.length * 32 := by
  rw [payload_eq]
  simp only [List.length_append, List.length_singleton, length_leBytes, NodeAddr.length_bytes,
    length_flatMap_bytes, LawfulSchnorr.length_asRef]
  omega

theorem count_payload (a : TreeAnnounce Signature) (sig : Signature) :
    (leAt (a.payload sig) 33 2 : Result ε Nat) = .ok (a.ancestry.entries.length % 65536) :=
  leAt_of_split ([VERSION_1] ++ (leBytes 8 a.declaration.sequence ++
      (leBytes 8 a.declaration.timestamp ++ a.declaration.parentId.bytes)))
    ((payload_eq a sig).trans (by simp only [List.append_assoc]; rfl))
    (by simp [NodeAddr.length_bytes]) (Nat.mod_lt _ (by decide))

/-- **Decoding inverts encoding** where the count field holds the number of entries. -/
theorem decode_encode [LawfulSchnorr Signature] (hsigned : a.declaration.isSigned = true)
    (hhead : a.OwnHead) (hrange : a.InRange) (hlen : a.ancestry.entries.length ≤ 65535) :
    a.RoundTrips := by
  obtain ⟨sig, hsig⟩ := Option.isSome_iff_exists.mp hsigned
  refine ⟨_, encode_of_signature hsig, decode_eq_ok_iff.mpr ?_⟩
  have hpayload := payload_eq a sig
  have hcount := count_payload (ε := ProtocolError) a sig
  have hmod : a.ancestry.entries.length % 65536 = a.ancestry.entries.length :=
    Nat.mod_eq_of_lt (by omega)
  rw [hmod] at hcount
  refine ⟨rfl, ?_, ?_, ?_, hcount, (length_payload a sig).ge, ?_, ⟨sig, hsig, ?_⟩, hhead⟩
  · exact leAt_of_split [VERSION_1] hpayload rfl hrange.sequence
  · exact leAt_of_split ([VERSION_1] ++ leBytes 8 a.declaration.sequence)
      (hpayload.trans (by simp only [List.append_assoc]; rfl)) (by simp) hrange.timestamp
  · exact addrAt_of_split ([VERSION_1] ++ (leBytes 8 a.declaration.sequence ++
        leBytes 8 a.declaration.timestamp))
      (hpayload.trans (by simp only [List.append_assoc]; rfl)) (by simp)
  · exact ancestryAt_of_split ([VERSION_1] ++ (leBytes 8 a.declaration.sequence ++
        (leBytes 8 a.declaration.timestamp ++ (a.declaration.parentId.bytes ++
        leBytes 2 (a.ancestry.entries.length % 65536)))))
      (hpayload.trans (by simp only [List.append_assoc]; rfl)) (by simp [NodeAddr.length_bytes])
      hrange.entries
  · exact signatureAt_of_split ([VERSION_1] ++ (leBytes 8 a.declaration.sequence ++
        (leBytes 8 a.declaration.timestamp ++ (a.declaration.parentId.bytes ++
        (leBytes 2 (a.ancestry.entries.length % 65536) ++
        a.ancestry.entries.flatMap CoordEntry.bytes))))) []
      (hpayload.trans (by simp only [List.append_assoc, List.append_nil]))
      (by
        simp only [List.length_append, List.length_singleton, length_leBytes,
          NodeAddr.length_bytes, length_flatMap_bytes]
        omega)

/-- An announce that comes back has as many entries as the count field can say. -/
theorem RoundTrips.length_le (h : a.RoundTrips) : a.ancestry.entries.length ≤ 65535 := by
  obtain ⟨bytes, hencode, hdecode⟩ := h
  obtain ⟨sig, hsig, -⟩ := (decode_eq_ok_iff.mp hdecode).signature
  rw [encode_of_signature hsig] at hencode
  cases hencode
  have hcount := (count_payload a sig).symm.trans (count_of_decode hdecode)
  have hmod := Except.ok.inj hcount
  omega

/-- **Encoding inverts decoding**: the bytes that were consumed. -/
theorem encode_decode [LawfulSchnorr Signature] {bytes : Bytes} (h : decode bytes = .ok a) :
    a.encode = .ok (0x10 :: bytes.take (99 + a.ancestry.entries.length * 32)) := by
  have hreads := decode_eq_ok_iff.mp h
  obtain ⟨sig, hsig, hat⟩ := hreads.signature
  rw [encode_of_signature hsig, payload_eq]
  have hlt := lt_of_leAt hreads.count
  have hmod : a.ancestry.entries.length % 65536 = a.ancestry.entries.length := Nat.mod_eq_of_lt hlt
  have hversion : bytes.take 1 = [VERSION_1] := by
    have hget := unwrap_eq_ok.mp hreads.version
    cases bytes with
    | nil => cases hget
    | cons b bytes =>
      cases hget
      rfl
  have hsplit : 99 + a.ancestry.entries.length * 32 =
      1 + (8 + (8 + (16 + (2 + (a.ancestry.entries.length * 32 + 64))))) := by omega
  rw [hmod, hsplit]
  simp only [List.take_add, List.drop_drop]
  rw [hversion, bytes_of_leAt hreads.sequence, bytes_of_leAt hreads.timestamp,
    bytes_of_addrAt hreads.parent, bytes_of_leAt hreads.count, bytes_of_ancestryAt hreads.entries,
    bytes_of_signatureAt hat]

/-- **The codec.** The signed announces of a declaring node that come back are those of at most
65535 ancestry entries, and re-encoding an accepted payload gives the bytes that were consumed. -/
theorem codec_iff (Signature : Type) [SchnorrEncoding Signature] [LawfulSchnorr Signature] :
    (∀ a : TreeAnnounce Signature, a.declaration.isSigned = true → a.OwnHead → a.InRange →
      (a.RoundTrips ↔ a.ancestry.entries.length ≤ 65535)) ∧
    ∀ (bytes : Bytes) (a : TreeAnnounce Signature), decode bytes = .ok a →
      a.encode = .ok (0x10 :: bytes.take (99 + a.ancestry.entries.length * 32)) :=
  ⟨fun _ hsigned hhead hrange => ⟨RoundTrips.length_le, decode_encode hsigned hhead hrange⟩,
    fun _ _ => encode_decode⟩

end Codec

end TreeAnnounce

/-! ## A signature encoding -/

section SchnorrBytes

/-- A Schnorr signature as its 64 bytes. -/
structure SchnorrBytes where
  bytes : Bytes
  length : bytes.length = 64

instance : SchnorrEncoding SchnorrBytes where
  fromSlice bytes := if h : bytes.length = 64 then some ⟨bytes, h⟩ else none
  asRef sig := sig.bytes

instance : LawfulSchnorr SchnorrBytes where
  length_asRef sig := sig.length
  fromSlice_asRef sig := dif_pos sig.length
  asRef_fromSlice bytes sig h := by
    change (if h : bytes.length = 64 then some (SchnorrBytes.mk bytes h) else none) = some sig at h
    split_ifs at h
    cases h
    rfl

/-- The signature of the samples. -/
def zeroSignature : SchnorrBytes := ⟨List.replicate 64 0, List.length_replicate⟩

end SchnorrBytes

end Fips
