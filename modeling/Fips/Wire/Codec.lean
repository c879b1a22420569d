import Fips.Wire.Session

/-!
# Reading back what was written

Decoding inverts encoding: integers up to their width, addresses, and the datagram envelope. An
encoder casts to the width of its field, so a longer value comes back reduced.

The readers at an offset are described by what stands there: `leAt_append_iff` and its siblings say
of `xs ++ rest` that a reader behind `xs` returns a value exactly when `rest` begins with the bytes
of this value.

## Results

* `leBytes_leNat`, `NodeAddr.bytes_fromBytes`: encoding inverts decoding.
* `NodeAddr.fromBytes_bytes`, `addrAt_append`: addresses.
* `FspCommonPrefix.parse_cons`: the prefix of a session payload.
* `SessionDatagram.decode_encode`: the envelope, after its type byte.
-/

open Checked

namespace Fips

variable {ε : Type}

theorem leNat_leBytes_mod (n v : Nat) : leNat (leBytes n v) = v % 256 ^ n := by
  induction n generalizing v with
  | zero =>
    rw [Nat.pow_zero, Nat.mod_one]
    rfl
  | succ n ih =>
    have hlast : (UInt8.ofNat v).toNat = v % 256 := UInt8.toNat_ofNat'
    rw [leBytes, leNat, ih, hlast, Nat.pow_succ, Nat.mul_comm (256 ^ n)]
    exact Nat.mod_mul.symm

theorem leBytes_leNat (bs : Bytes) : leBytes bs.length (leNat bs) = bs := by
  induction bs with
  | nil => rfl
  | cons b bs ih =>
    have hlow : UInt8.ofNat (b.toNat + 256 * leNat bs) = b := by
      refine UInt8.toNat_inj.mp ?_
      have hb := b.toNat_lt
      rw [UInt8.toNat_ofNat']
      omega
    have hhigh : (b.toNat + 256 * leNat bs) / 256 = leNat bs := by
      have hb := b.toNat_lt
      omega
    rw [List.length_cons, leNat, leBytes, hlow, hhigh, ih]

theorem NodeAddr.length_bytes (a : NodeAddr) : a.bytes.length = 16 := by
  rw [NodeAddr.bytes, List.length_reverse, length_leBytes]

theorem NodeAddr.fromBytes_bytes (a : NodeAddr) : NodeAddr.fromBytes a.bytes = a := by
  have hlt : a.toNat < 256 ^ 16 := a.value.isLt
  unfold NodeAddr.fromBytes NodeAddr.bytes
  rw [List.reverse_reverse, leNat_leBytes hlt]
  have hvalue : BitVec.ofNat 128 a.value.toNat = a.value := by simp
  exact congrArg NodeAddr.mk hvalue

theorem NodeAddr.bytes_fromBytes {bs : Bytes} (h : bs.length = 16) :
    (NodeAddr.fromBytes bs).bytes = bs := by
  have hlt : leNat bs.reverse < 2 ^ 128 := by
    have hlt := leNat_lt bs.reverse
    rwa [List.length_reverse, h] at hlt
  have hnat : (NodeAddr.fromBytes bs).toNat = leNat bs.reverse :=
    Nat.mod_eq_of_lt hlt
  have hback := leBytes_leNat bs.reverse
  rw [List.length_reverse, h] at hback
  unfold NodeAddr.bytes
  rw [hnat, hback, List.reverse_reverse]

/-- Reading back an address that was written at this offset. -/
theorem addrAt_append {xs ys : Bytes} {i : Nat} (a : NodeAddr) (hi : xs.length = i) :
    (addrAt (xs ++ a.bytes ++ ys) i : Result ε NodeAddr) = .ok a := by
  have hslice : (slice (xs ++ a.bytes ++ ys) i (i + 16) : Result ε Bytes) = .ok a.bytes :=
    slice_append_mid hi (by rw [a.length_bytes])
  unfold addrAt
  rw [hslice]
  change Except.ok (NodeAddr.fromBytes a.bytes) = _
  rw [a.fromBytes_bytes]

/-- An integer behind `xs`. -/
theorem leAt_append_iff {xs rest : Bytes} {i n v : Nat} (hi : xs.length = i) :
    (leAt (xs ++ rest) i n : Result ε Nat) = .ok v ↔
      v < 256 ^ n ∧ ∃ ys, rest = leBytes n v ++ ys := by
  constructor
  · intro h
    have hlt := lt_of_leAt h
    obtain ⟨bytes, hslice, heq⟩ := bind_eq_ok.mp h
    obtain ⟨hlength, ys, rfl⟩ := (slice_append_iff hi).mp hslice
    cases heq
    exact ⟨hlt, ys, by rw [← hlength, leBytes_leNat]⟩
  · rintro ⟨hv, ys, rfl⟩
    rw [← List.append_assoc]
    exact leAt_append hi hv

/-- An integer that was cast to the width of its field. -/
theorem leAt_append_mod {xs ys : Bytes} {i n : Nat} (hi : xs.length = i) (v : Nat) :
    (leAt (xs ++ (leBytes n v ++ ys)) i n : Result ε Nat) = .ok (v % 256 ^ n) := by
  have hslice : (slice (xs ++ (leBytes n v ++ ys)) i (i + n) : Result ε Bytes) =
      .ok (leBytes n v) := by
    rw [← List.append_assoc]
    exact slice_append_mid hi (by rw [length_leBytes])
  exact bind_eq_ok.mpr ⟨_, hslice, congrArg Except.ok (leNat_leBytes_mod n v)⟩

/-- An address behind `xs`. -/
theorem addrAt_append_iff {xs rest : Bytes} {i : Nat} {a : NodeAddr} (hi : xs.length = i) :
    (addrAt (xs ++ rest) i : Result ε NodeAddr) = .ok a ↔ ∃ ys, rest = a.bytes ++ ys := by
  constructor
  · intro h
    obtain ⟨bytes, hslice, heq⟩ := bind_eq_ok.mp h
    obtain ⟨hlength, ys, rfl⟩ := (slice_append_iff hi).mp hslice
    cases heq
    exact ⟨ys, by rw [NodeAddr.bytes_fromBytes hlength]⟩
  · rintro ⟨ys, rfl⟩
    rw [← List.append_assoc]
    exact addrAt_append a hi

theorem FspCommonPrefix.parse_cons (a b c d : UInt8) (rest : Bytes) :
    FspCommonPrefix.parse (a :: b :: c :: d :: rest) =
      .ok ⟨a >>> 4, a &&& 0x0F, b, leNat [c, d]⟩ := by
  have hlong : (atLeast FSP_COMMON_PREFIX_SIZE (a :: b :: c :: d :: rest) () : Result Unit Unit) =
      .ok () := atLeast_eq_ok.mpr (by simp [FSP_COMMON_PREFIX_SIZE])
  have hslice : (slice ([a, b] ++ [c, d] ++ rest) 2 (2 + 2) : Result Unit Bytes) = .ok [c, d] :=
    slice_append_mid rfl rfl
  unfold FspCommonPrefix.parse leAt
  rw [hlong, show a :: b :: c :: d :: rest = [a, b] ++ [c, d] ++ rest from rfl, hslice]
  rfl

namespace SessionDatagram

/-- **The envelope** comes back with its path MTU cast to 16 bits. -/
theorem decode_encode (d : SessionDatagram) :
    decode d.encode.tail = .ok { d with pathMtu := d.pathMtu % 65536 } := by
  have hsplit : d.encode.tail = [d.ttl] ++ leBytes 2 d.pathMtu ++ d.srcAddr.bytes ++
      d.destAddr.bytes ++ d.payload := rfl
  have hlen : 35 ≤ d.encode.tail.length := by
    rw [hsplit]
    simp only [List.length_cons, List.length_append, length_leBytes, NodeAddr.length_bytes]
    omega
  have hmtu : (leAt d.encode.tail 1 2 : Result ProtocolError Nat) = .ok (d.pathMtu % 65536) := by
    have hslice : (slice d.encode.tail 1 (1 + 2) : Result ProtocolError Bytes) =
        .ok (leBytes 2 d.pathMtu) := by
      rw [hsplit, List.append_assoc, List.append_assoc]
      exact slice_append_mid rfl rfl
    unfold leAt
    rw [hslice]
    exact congrArg Except.ok (leNat_leBytes_mod 2 d.pathMtu)
  have hsrc : (addrAt d.encode.tail 3 : Result ProtocolError NodeAddr) = .ok d.srcAddr := by
    rw [hsplit, List.append_assoc]
    exact addrAt_append _ rfl
  have hdest : (addrAt d.encode.tail 19 : Result ProtocolError NodeAddr) = .ok d.destAddr := by
    rw [hsplit]
    exact addrAt_append _ (by simp [NodeAddr.length_bytes])
  have hrest : (sliceFrom d.encode.tail 35 : Result ProtocolError Bytes) = .ok d.payload := by
    rw [hsplit]
    exact sliceFrom_append (by simp [NodeAddr.length_bytes])
  have hlong : longEnough 35 d.encode.tail = .ok () := longEnough_eq_ok.mpr hlen
  unfold decode
  rw [hlong, hmtu, hsrc, hdest, hrest]
  rfl

/-- The path MTU field has 16 bits. -/
theorem pathMtu_le {payload : Bytes} {d : SessionDatagram} (h : decode payload = .ok d) :
    d.pathMtu ≤ U16_MAX := by
  unfold decode at h
  simp only [bind_eq_ok] at h
  obtain ⟨_, -, _, -, pathMtu, hmtu, _, -, _, -, _, -, h⟩ := h
  cases h
  exact Nat.le_of_lt_succ (lt_of_leAt hmtu)

end SessionDatagram

end Fips
