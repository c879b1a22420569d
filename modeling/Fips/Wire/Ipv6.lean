import Fips.Lib.Buffer
import Fips.Lib.OnesComplement
import Fips.Wire.Bytes

/-!
# Fields of an IPv6 packet

The bytes and the big-endian words of a packet by their offsets, and its two addresses.
-/

namespace Fips

open Checked Buffer OnesComplement

/-- A byte of a packet, zero behind its end. -/
def byteAt (packet : Bytes) (i : Nat) : UInt8 := packet.getD i 0

/-- A big-endian word of a packet. -/
def wordAt (packet : Bytes) (i : Nat) : Nat := beWord (byteAt packet i) (byteAt packet (i + 1))

/-- The source address of an IPv6 header. -/
def ipv6Source (packet : Bytes) : Bytes := (packet.drop 8).take 16

/-- The destination address of an IPv6 header. -/
def ipv6Destination (packet : Bytes) : Bytes := (packet.drop 24).take 16

/-! ## Reading -/

section Reading

variable {ε : Type} {packet ys : Bytes} {i j n : Nat}

theorem index_eq_byteAt (h : i < packet.length) :
    (index packet i : Result ε UInt8) = .ok (byteAt packet i) := by
  unfold index byteAt
  rw [List.getD_eq_getElem?_getD, List.getElem?_eq_getElem h]
  rfl

theorem byteAt_drop (packet : Bytes) (n i : Nat) : byteAt (packet.drop n) i = byteAt packet (n + i) := by
  simp [byteAt, List.getD_eq_getElem?_getD]

theorem byteAt_splice_of_ne (h : i + ys.length ≤ packet.length) (hj : j < i ∨ i + ys.length ≤ j) :
    byteAt (splice packet i ys) j = byteAt packet j := by
  unfold byteAt
  rw [List.getD_eq_getElem?_getD, getElem?_splice_of_ne h hj, ← List.getD_eq_getElem?_getD]

theorem wordAt_splice_of_ne (h : i + ys.length ≤ packet.length)
    (hj : j + 1 < i ∨ i + ys.length ≤ j) : wordAt (splice packet i ys) j = wordAt packet j := by
  unfold wordAt
  rw [byteAt_splice_of_ne h (by omega), byteAt_splice_of_ne h (by omega)]

theorem wordAt_splice_beBytes (h : i + 2 ≤ packet.length) (hn : n < 65536) :
    wordAt (splice packet i (beBytes n)) i = n := by
  have hfirst : (splice packet i (beBytes n))[i]? = some (UInt8.ofNat (n / 256)) :=
    getElem?_splice_mid (k := 0) (by omega) Nat.zero_lt_two
  have hsecond : (splice packet i (beBytes n))[i + 1]? = some (UInt8.ofNat n) :=
    getElem?_splice_mid (k := 1) (by omega) Nat.one_lt_two
  simp only [wordAt, byteAt, List.getD_eq_getElem?_getD, hfirst, hsecond, Option.getD_some]
  exact beWord_beBytes hn

end Reading

end Fips
