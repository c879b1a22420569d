import Mathlib.Order.Basic
import Fips.Lib.Checked
import Mathlib.Algebra.GroupWithZero.Nat

/-!
# One's-complement checksums

The checksum of the internet protocols: the complement of the one's-complement sum of 16-bit words,
added up in 32 bits and folded at the end. A sum that does not fit 32 bits stops the program.

## Results

* `addAll_eq`: a sum of words is the sum of the numbers while it fits.
* `fold_eq`: folding is reduction modulo `65535`, with `65535` for the multiples of it.
* `fold_add_checksum`: a sum with its own checksum added folds to `0xFFFF`.
-/

open Checked

namespace OnesComplement

variable {ε : Type}

/-! ## Words -/

/-- The big-endian 16-bit number of two bytes (`u16::from_be_bytes`). -/
def beWord (hi lo : UInt8) : Nat := 256 * hi.toNat + lo.toNat

/-- The bytes of a 16-bit number (`to_be_bytes`). -/
def beBytes (n : Nat) : List UInt8 := [UInt8.ofNat (n / 256), UInt8.ofNat n]

/-- The words of a byte string; an odd last byte is the high byte of its word. -/
def words : List UInt8 → List Nat
  | a :: b :: rest => beWord a b :: words rest
  | [a] => [beWord a 0]
  | [] => []

theorem beWord_lt (hi lo : UInt8) : beWord hi lo < 65536 := by
  have hhi := hi.toNat_lt
  have hlo := lo.toNat_lt
  unfold beWord
  omega

theorem beWord_beBytes {n : Nat} (h : n < 65536) :
    beWord (UInt8.ofNat (n / 256)) (UInt8.ofNat n) = n := by
  simp only [beWord, UInt8.toNat_ofNat']
  omega

theorem beBytes_beWord (hi lo : UInt8) : beBytes (beWord hi lo) = [hi, lo] := by
  have hlo := lo.toNat_lt
  have hdiv : beWord hi lo / 256 = hi.toNat := by
    unfold beWord
    omega
  have hmod : UInt8.ofNat (beWord hi lo) = lo := by
    apply UInt8.toNat_inj.mp
    rw [UInt8.toNat_ofNat', beWord]
    omega
  rw [beBytes, hdiv, hmod, UInt8.ofNat_toNat]

/-- Words of an even number of bytes end where those bytes do. -/
theorem words_append : ∀ {xs : List UInt8} (_ : xs.length % 2 = 0) (ys : List UInt8),
    words (xs ++ ys) = words xs ++ words ys
  | [], _, _ => rfl
  | [_], h, _ => nomatch h
  | a :: b :: xs, h, ys => by
    have htail : xs.length % 2 = 0 := by
      simp only [List.length_cons] at h
      omega
    rw [List.cons_append, List.cons_append, words, words, words_append htail ys, List.cons_append]

theorem sum_words_le : ∀ bytes : List UInt8, (words bytes).sum ≤ 32768 * (bytes.length + 1)
  | [] => Nat.zero_le _
  | [a] => by
    have h := beWord_lt a 0
    simp only [words, List.sum_cons, List.sum_nil, List.length_cons, List.length_nil]
    omega
  | a :: b :: rest => by
    have h := beWord_lt a b
    have ih := sum_words_le rest
    simp only [words, List.sum_cons, List.length_cons]
    omega

/-- What two bytes at an even position add to the words. -/
theorem sum_words_cons_cons {xs : List UInt8} (h : xs.length % 2 = 0) (a b : UInt8)
    (ys : List UInt8) :
    (words (xs ++ a :: b :: ys)).sum = (words (xs ++ 0 :: 0 :: ys)).sum + beWord a b := by
  have hzero : beWord 0 0 = 0 := rfl
  simp only [words_append h, words, List.sum_append, List.sum_cons, hzero]
  omega

/-! ## Sums -/

/-- `for word in words { sum += word }`. -/
def addAll (sum : Nat) : List Nat → Result ε Nat
  | [] => pure sum
  | w :: ws => do
    let sum ← addU32 sum w
    addAll sum ws

theorem addAll_eq {sum : Nat} {ws : List Nat} (h : sum + ws.sum < 4294967296) :
    (addAll sum ws : Result ε Nat) = .ok (sum + ws.sum) := by
  induction ws generalizing sum with
  | nil => rfl
  | cons w ws ih =>
    rw [List.sum_cons, ← Nat.add_assoc] at h ⊢
    rw [addAll, addU32_eq (Nat.lt_of_le_of_lt (Nat.le_add_right _ _) h)]
    exact ih h

/-! ## Folding -/

/-- `while sum >> 16 != 0 { sum = (sum & 0xffff) + (sum >> 16) }`. -/
def fold (sum : Nat) : Nat :=
  if sum / 65536 = 0 then sum else fold (sum % 65536 + sum / 65536)
termination_by sum
decreasing_by omega

/-- The complement of the low 16 bits of a folded sum. -/
def checksum (sum : Nat) : Nat := 65535 - fold sum % 65536

theorem fold_eq (sum : Nat) :
    fold sum = if sum = 0 then 0 else (sum - 1) % 65535 + 1 := by
  fun_induction fold sum with
  | case1 sum h => split_ifs <;> omega
  | case2 sum _ ih =>
    rw [ih]
    split_ifs <;> omega

theorem checksum_lt (sum : Nat) : checksum sum < 65536 := by
  unfold checksum
  omega

/-- **A checksum verifies.** Adding it to the sum it was computed from gives `0xFFFF`. -/
theorem fold_add_checksum (sum : Nat) : fold (sum + checksum sum) = 65535 := by
  unfold checksum
  rw [fold_eq, fold_eq]
  split_ifs <;> omega

end OnesComplement
