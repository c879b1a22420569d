import Mathlib.Algebra.Group.Nat.Defs
import Mathlib.Order.Basic
import Fips.Lib.Checked

/-!
# Byte strings

Messages, keys and ciphertexts are lists of bytes; a fixed-size array of the source is a list as
well. Integers on the wire are little endian (`to_le_bytes`, `from_le_bytes`). A read beyond the
end of a string stops the program, as an index or a slice does.
-/

open Checked

namespace Fips

/-- `Vec<u8>` and `&[u8]`. -/
abbrev Bytes := List UInt8

/-- `n` bytes of `v`, the least significant first (`to_le_bytes`). -/
def leBytes : Nat → Nat → Bytes
  | 0, _ => []
  | n + 1, v => UInt8.ofNat v :: leBytes n (v / 256)

@[simp] theorem length_leBytes (n v : Nat) : (leBytes n v).length = n := by
  induction n generalizing v with
  | zero => rfl
  | succ n ih => rw [leBytes, List.length_cons, ih]

/-- The number these bytes spell, the least significant first (`from_le_bytes`). -/
def leNat : Bytes → Nat
  | [] => 0
  | b :: bs => b.toNat + 256 * leNat bs

theorem leNat_leBytes {n v : Nat} (h : v < 256 ^ n) : leNat (leBytes n v) = v := by
  induction n generalizing v with
  | zero =>
    rw [Nat.pow_zero] at h
    rw [Nat.lt_one_iff.mp h]
    rfl
  | succ n ih =>
    have hdiv : v / 256 < 256 ^ n := by
      rw [Nat.pow_succ] at h
      exact Nat.div_lt_of_lt_mul (by rwa [Nat.mul_comm] at h)
    rw [leBytes, leNat, ih hdiv, UInt8.toNat_ofNat']
    exact Nat.mod_add_div v 256

theorem leNat_lt (bs : Bytes) : leNat bs < 256 ^ bs.length := by
  induction bs with
  | nil => exact Nat.one_pos
  | cons b bs ih =>
    have hb := b.toNat_lt
    rw [leNat, List.length_cons, Nat.pow_succ]
    omega

/-- The `sha2` crate. -/
class Sha256 where
  digest : Bytes → Bytes

/-! ## Reading from a string -/

variable {ε : Type}

/-- The `n`-byte integer at offset `i`. -/
def leAt (data : Bytes) (i n : Nat) : Result ε Nat := do
  let bytes ← slice data i (i + n)
  pure (leNat bytes)

theorem noPanic_leAt {data : Bytes} {i n : Nat} (h : i + n ≤ data.length) :
    NoPanic (leAt data i n : Result ε Nat) :=
  noPanic_bind (noPanic_slice (Nat.le_add_right i n) h) fun _ _ => noPanic_pure _

theorem lt_of_leAt {data : Bytes} {i n v : Nat} (h : (leAt data i n : Result ε Nat) = .ok v) :
    v < 256 ^ n := by
  obtain ⟨bytes, hslice, heq⟩ := bind_eq_ok.mp h
  obtain ⟨-, hlen, rfl⟩ := slice_eq_ok.mp hslice
  cases heq
  rw [Nat.add_sub_cancel_left]
  have hlt := leNat_lt ((data.drop i).take n)
  rwa [List.length_take, List.length_drop, Nat.min_eq_left (by omega)] at hlt

/-- Reading back an integer that was written at this offset. -/
theorem leAt_append {xs ys : Bytes} {i n v : Nat} (hi : xs.length = i) (hv : v < 256 ^ n) :
    (leAt (xs ++ leBytes n v ++ ys) i n : Result ε Nat) = .ok v := by
  have hslice : (slice (xs ++ leBytes n v ++ ys) i (i + n) : Result ε Bytes) =
      .ok (leBytes n v) := slice_append_mid hi (by rw [length_leBytes])
  unfold leAt
  rw [hslice]
  change Except.ok (leNat (leBytes n v)) = _
  rw [leNat_leBytes hv]

/-- The bits of `mask` that are set in a flag byte. -/
def hasFlag (flags mask : UInt8) : Bool := flags &&& mask != 0

end Fips
