import Fips.Wire.Codec

/-!
# The codec of coordinates

`encode_coords`, `decode_coords` and `decode_optional_coords` (`protocol/session.rs:97-189`): a count
of 16 bits and so many addresses. Sequence numbers and timestamps do not go over the wire, so a
coordinate comes back as `addrsOnly` of what was sent.

## Results

* `decodeCoords_iff`, `decodeOptionalCoords_iff`: the decoders accept exactly what begins with the
  encoding of a coordinate that the wire carries.
* `parseEncryptedCoords_append`: the pair of an encrypted message, whatever follows it.
-/

open Checked

namespace Fips

variable {ε : Type}

namespace TreeCoordinate

theorem map_addrOnly_ne_nil (c : TreeCoordinate) : c.nodeAddrs.map CoordEntry.addrOnly ≠ [] :=
  fun h => c.nonempty (List.map_eq_nil_iff.mp (List.map_eq_nil_iff.mp h))

/-- The coordinate without its metadata. -/
def addrsOnly (c : TreeCoordinate) : TreeCoordinate :=
  ⟨c.nodeAddrs.map CoordEntry.addrOnly, c.map_addrOnly_ne_nil⟩

theorem map_nodeAddr_addrOnly (addrs : List NodeAddr) :
    (addrs.map CoordEntry.addrOnly).map CoordEntry.nodeAddr = addrs := by
  rw [List.map_map]
  exact List.map_id addrs

@[simp] theorem nodeAddrs_addrsOnly (c : TreeCoordinate) : c.addrsOnly.nodeAddrs = c.nodeAddrs :=
  map_nodeAddr_addrOnly _

@[simp] theorem length_addrsOnly (c : TreeCoordinate) :
    c.addrsOnly.entries.length = c.entries.length := by
  unfold addrsOnly nodeAddrs
  rw [List.length_map, List.length_map]

/-- What the wire carries: addresses without metadata, and as many as the count can say. -/
structure OnWire (c : TreeCoordinate) : Prop where
  addrs : c.addrsOnly = c
  length : c.entries.length ≤ 65535

theorem onWire_addrsOnly {c : TreeCoordinate} (h : c.entries.length ≤ 65535) :
    c.addrsOnly.OnWire := by
  refine ⟨?_, by rwa [length_addrsOnly]⟩
  rw [addrsOnly, TreeCoordinate.mk.injEq, nodeAddrs_addrsOnly]
  rfl

end TreeCoordinate

@[simp] theorem encodeCoords_addrsOnly (c : TreeCoordinate) :
    encodeCoords c.addrsOnly = encodeCoords c := by
  unfold encodeCoords
  rw [TreeCoordinate.nodeAddrs_addrsOnly]

@[simp] theorem length_encodeCoords (coords : TreeCoordinate) :
    (encodeCoords coords).length = coordsWireSize coords := by
  have hflat : ∀ addrs : List NodeAddr,
      (addrs.map NodeAddr.bytes).flatten.length = addrs.length * 16 := by
    intro addrs
    induction addrs with
    | nil => rfl
    | cons a addrs ih =>
      rw [List.map_cons, List.flatten_cons, List.length_append, ih, NodeAddr.length_bytes,
        List.length_cons]
      omega
  rw [encodeCoords, List.length_append, hflat, length_leBytes, TreeCoordinate.nodeAddrs,
    List.length_map, coordsWireSize]

/-! ## Reading -/

/-- `n` addresses behind `xs`. -/
theorem coordAddrs_append_iff {xs rest : Bytes} {n i : Nat} {addrs : List NodeAddr}
    (hi : xs.length = i) : (coordAddrs (xs ++ rest) n i : Result ε (List NodeAddr)) = .ok addrs ↔
      addrs.length = n ∧ ∃ ys, rest = (addrs.map NodeAddr.bytes).flatten ++ ys := by
  induction n generalizing xs rest i addrs with
  | zero =>
    constructor
    · intro h
      cases h
      exact ⟨rfl, rest, rfl⟩
    · rintro ⟨hlength, -⟩
      rw [List.length_eq_zero_iff.mp hlength]
      rfl
  | succ n ih =>
    have hnext : ∀ a : NodeAddr, (xs ++ a.bytes).length = i + 16 := fun a => by
      rw [List.length_append, hi, a.length_bytes]
    rw [coordAddrs, bind_eq_ok]
    constructor
    · rintro ⟨a, haddr, hrest⟩
      obtain ⟨ys, rfl⟩ := (addrAt_append_iff hi).mp haddr
      obtain ⟨tail, htail, h⟩ := bind_eq_ok.mp hrest
      rw [← List.append_assoc] at htail
      obtain ⟨hlength, zs, rfl⟩ := (ih (hnext a)).mp htail
      cases h
      exact ⟨congrArg (· + 1) hlength, zs, (List.append_assoc ..).symm⟩
    · rintro ⟨hlength, ys, rfl⟩
      obtain ⟨a, tail, rfl⟩ := List.exists_cons_of_length_eq_add_one hlength
      rw [List.map_cons, List.flatten_cons, List.append_assoc]
      refine ⟨a, (addrAt_append_iff hi).mpr ⟨_, rfl⟩, bind_eq_ok.mpr ⟨tail, ?_, rfl⟩⟩
      rw [← List.append_assoc]
      exact (ih (hnext a)).mpr ⟨Nat.succ.inj hlength, ys, rfl⟩

/-- The addresses behind a count. -/
theorem coordsOf_iff {rest : Bytes} {count : Nat} {c : TreeCoordinate} :
    coordsOf (leBytes 2 count ++ rest) count = .ok c ↔ c.addrsOnly = c ∧ c.entries.length = count ∧
      ∃ ys, rest = (c.nodeAddrs.map NodeAddr.bytes).flatten ++ ys := by
  have htwo : (leBytes 2 count).length = 2 := length_leBytes 2 count
  unfold coordsOf
  rw [bind_eq_ok]
  constructor
  · rintro ⟨addrs, haddrs, hc⟩
    obtain ⟨hlength, ys, rfl⟩ := (coordAddrs_append_iff htwo).mp haddrs
    rw [ofExcept_eq_ok] at hc
    unfold TreeCoordinate.fromAddrs TreeCoordinate.new at hc
    split_ifs at hc with hnil
    · cases hc
    · cases hc
      have haddrs : TreeCoordinate.nodeAddrs ⟨addrs.map CoordEntry.addrOnly, hnil⟩ = addrs :=
        TreeCoordinate.map_nodeAddr_addrOnly addrs
      refine ⟨?_, by rw [List.length_map, hlength], ys, by rw [haddrs]⟩
      rw [TreeCoordinate.addrsOnly, TreeCoordinate.mk.injEq, haddrs]
  · rintro ⟨hc, hlength, ys, rfl⟩
    refine ⟨c.nodeAddrs, (coordAddrs_append_iff htwo).mpr ⟨?_, ys, rfl⟩, ?_⟩
    · rw [TreeCoordinate.nodeAddrs, List.length_map, hlength]
    · rw [ofExcept_eq_ok]
      unfold TreeCoordinate.fromAddrs TreeCoordinate.new
      rw [dif_neg c.map_addrOnly_ne_nil]
      exact congrArg Except.ok hc

theorem encodeCoords_append (c : TreeCoordinate) (ys : Bytes) : encodeCoords c ++ ys =
    leBytes 2 c.entries.length ++ ((c.nodeAddrs.map NodeAddr.bytes).flatten ++ ys) := by
  rw [encodeCoords, TreeCoordinate.nodeAddrs, List.length_map, List.append_assoc]

/-- **A coordinate is read** exactly where its encoding stands. -/
theorem decodeCoords_iff {data : Bytes} {c : TreeCoordinate} {n : Nat} :
    decodeCoords data = .ok (c, n) ↔
      c.OnWire ∧ n = coordsWireSize c ∧ ∃ ys, data = encodeCoords c ++ ys := by
  have hzero : ([] : Bytes).length = 0 := rfl
  unfold decodeCoords
  constructor
  · intro h
    obtain ⟨_, -, h⟩ := bind_eq_ok.mp h
    obtain ⟨count, hcount, h⟩ := bind_eq_ok.mp h
    obtain ⟨_, -, h⟩ := bind_eq_ok.mp h
    obtain ⟨_, -, h⟩ := bind_eq_ok.mp h
    obtain ⟨c', hc, h⟩ := bind_eq_ok.mp h
    cases h
    obtain ⟨hlt, rest, rfl⟩ := (leAt_append_iff hzero).mp hcount
    obtain ⟨haddrs, rfl, ys, rfl⟩ := coordsOf_iff.mp hc
    exact ⟨⟨haddrs, Nat.le_of_lt_succ hlt⟩, rfl, ys, (encodeCoords_append c ys).symm⟩
  · rintro ⟨⟨haddrs, hlength⟩, rfl, ys, rfl⟩
    have hlong : coordsWireSize c ≤ (encodeCoords c ++ ys).length := by
      rw [List.length_append, length_encodeCoords]
      exact Nat.le_add_right _ _
    have hpos : 0 < c.entries.length := List.length_pos_iff.mpr c.nonempty
    refine bind_eq_ok.mpr ⟨(), longEnough_eq_ok.mpr ((Nat.le_add_right 2 _).trans hlong), ?_⟩
    refine bind_eq_ok.mpr ⟨c.entries.length, ?_, ?_⟩
    · rw [encodeCoords_append]
      exact (leAt_append_iff hzero).mpr ⟨Nat.lt_succ_of_le hlength, _, rfl⟩
    refine bind_eq_ok.mpr ⟨(), longEnough_eq_ok.mpr hlong, ?_⟩
    refine bind_eq_ok.mpr ⟨(), check_eq_ok.mpr (bne_iff_ne.mpr (Nat.ne_of_gt hpos)), ?_⟩
    refine bind_eq_ok.mpr ⟨c, ?_, rfl⟩
    rw [encodeCoords_append]
    exact coordsOf_iff.mpr ⟨haddrs, rfl, ys, rfl⟩

/-- `encode_coords` or `encode_empty_coords`. -/
def encodeOptionalCoords : Option TreeCoordinate → Bytes
  | some coords => encodeCoords coords
  | none => leBytes 2 0

/-- An optional coordinate is read exactly where its encoding stands. -/
theorem decodeOptionalCoords_iff {data : Bytes} {o : Option TreeCoordinate} {n : Nat} :
    decodeOptionalCoords data = .ok (o, n) ↔ (∀ c ∈ o, c.OnWire) ∧
      n = (encodeOptionalCoords o).length ∧ ∃ ys, data = encodeOptionalCoords o ++ ys := by
  have hzero : ([] : Bytes).length = 0 := rfl
  unfold decodeOptionalCoords
  constructor
  · intro h
    obtain ⟨_, -, h⟩ := bind_eq_ok.mp h
    obtain ⟨count, hcount, h⟩ := bind_eq_ok.mp h
    obtain ⟨_, -, h⟩ := bind_eq_ok.mp h
    obtain ⟨hlt, rest, hdata⟩ := (leAt_append_iff hzero).mp hcount
    split_ifs at h with hnone
    · cases h
      rw [beq_iff_eq.mp hnone] at hdata
      exact ⟨fun _ hnever => absurd hnever (by simp), rfl, rest, hdata⟩
    · obtain ⟨c, hc, h⟩ := bind_eq_ok.mp h
      cases h
      rw [hdata] at hc
      obtain ⟨haddrs, rfl, ys, rfl⟩ := coordsOf_iff.mp hc
      refine ⟨fun c' hc' => ?_, (length_encodeCoords c).symm, ys, ?_⟩
      · obtain rfl := Option.some.inj hc'
        exact ⟨haddrs, Nat.le_of_lt_succ hlt⟩
      · rw [hdata, encodeOptionalCoords, encodeCoords_append]
  · rintro ⟨hwire, rfl, ys, rfl⟩
    cases o with
    | none =>
      have hlong : 2 ≤ (encodeOptionalCoords none ++ ys).length := by
        rw [encodeOptionalCoords, List.length_append, length_leBytes]
        exact Nat.le_add_right _ _
      refine bind_eq_ok.mpr ⟨(), longEnough_eq_ok.mpr hlong, bind_eq_ok.mpr ⟨0, ?_, ?_⟩⟩
      · exact (leAt_append_iff hzero).mpr ⟨by decide, ys, rfl⟩
      · exact bind_eq_ok.mpr ⟨(), longEnough_eq_ok.mpr hlong, rfl⟩
    | some c =>
      obtain ⟨haddrs, hlength⟩ := hwire c rfl
      rw [encodeOptionalCoords]
      have hlong : coordsWireSize c ≤ (encodeCoords c ++ ys).length := by
        rw [List.length_append, length_encodeCoords]
        exact Nat.le_add_right _ _
      have hpos : c.entries.length ≠ 0 := List.length_pos_iff.mpr c.nonempty |>.ne'
      refine bind_eq_ok.mpr ⟨(), longEnough_eq_ok.mpr ((Nat.le_add_right 2 _).trans hlong), ?_⟩
      refine bind_eq_ok.mpr ⟨c.entries.length, ?_, ?_⟩
      · rw [encodeCoords_append]
        exact (leAt_append_iff hzero).mpr ⟨Nat.lt_succ_of_le hlength, _, rfl⟩
      refine bind_eq_ok.mpr ⟨(), longEnough_eq_ok.mpr hlong, ?_⟩
      rw [if_neg (by simpa using hpos)]
      refine bind_eq_ok.mpr ⟨c, ?_, by rw [length_encodeCoords]; rfl⟩
      rw [encodeCoords_append]
      exact coordsOf_iff.mpr ⟨haddrs, rfl, ys, rfl⟩

/-- The pair of an encrypted message comes back without its metadata, and the parser stops behind
it. -/
theorem parseEncryptedCoords_append {src dest : TreeCoordinate} (hsrc : src.entries.length ≤ 65535)
    (hdest : dest.entries.length ≤ 65535) (rest : Bytes) :
    parseEncryptedCoords (encodeCoords src ++ encodeCoords dest ++ rest) =
      .ok (some src.addrsOnly, some dest.addrsOnly, coordsWireSize src + coordsWireSize dest) := by
  have hone : ∀ (c : TreeCoordinate) (ys : Bytes), c.entries.length ≤ 65535 →
      decodeOptionalCoords (encodeCoords c ++ ys) = .ok (some c.addrsOnly, coordsWireSize c) := by
    intro c ys hc
    refine decodeOptionalCoords_iff.mpr ⟨fun c' hc' => ?_, ?_, ys, ?_⟩
    · obtain rfl := Option.some.inj hc'
      exact TreeCoordinate.onWire_addrsOnly hc
    · rw [encodeOptionalCoords, encodeCoords_addrsOnly, length_encodeCoords]
    · rw [encodeOptionalCoords, encodeCoords_addrsOnly]
  have hrest : (sliceFrom (encodeCoords src ++ (encodeCoords dest ++ rest)) (coordsWireSize src) :
      Result ProtocolError Bytes) = .ok (encodeCoords dest ++ rest) :=
    sliceFrom_append (length_encodeCoords src)
  unfold parseEncryptedCoords
  rw [List.append_assoc, hone src _ hsrc]
  exact bind_eq_ok.mpr ⟨_, rfl, bind_eq_ok.mpr ⟨_, hrest, bind_eq_ok.mpr ⟨_, hone dest _ hdest, rfl⟩⟩⟩

end Fips
