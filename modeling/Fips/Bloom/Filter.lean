import Fips.Tree.Coordinate

/-!
# Bloom filters

Model of `BloomFilter` (`bloom/filter.rs:8-213`). The bits are packed into bytes; `num_bits` is eight
for each byte in every filter the constructors build, so it is computed. SHA-256 is an arbitrary
function.

## Results

* `getBit_setBit`, `getBit_insert`, `getBit_merge`: the bits after an insertion or a merge.
* `contains_iff`: membership is a question about the first `hash_count` probes.
* `contains_insert`: an inserted address is a member.
* `contains_of_merge_left`, `contains_merge_iff`: a merge keeps the members of the filter merged
  into; a member of the other filter stays one exactly when its probes beyond that filter's own
  hash count hit set bits.
-/

namespace Fips

/-- `bloom/filter.rs:11-22`: eight bits for each byte. -/
structure BloomFilter where
  bits : Bytes
  hashCount : UInt8
  deriving DecidableEq

/-- The variant of `BloomError` that a merge returns. -/
inductive BloomError
  | invalidSize (expected got : Nat)
  deriving DecidableEq, Repr

namespace BloomFilter

/-- `DEFAULT_FILTER_SIZE_BITS`: one kilobyte. -/
def DEFAULT_FILTER_SIZE_BITS : Nat := 8192

/-- `DEFAULT_HASH_COUNT`. -/
def DEFAULT_HASH_COUNT : UInt8 := 5

/-- The empty filter with default parameters. -/
def new : BloomFilter := ⟨List.replicate (DEFAULT_FILTER_SIZE_BITS / 8) 0, DEFAULT_HASH_COUNT⟩

/-- `BloomFilter::from_slice`. -/
def fromSlice (bytes : Bytes) (hashCount : UInt8) : Except String BloomFilter :=
  if hashCount == 0 then .error "hash count must be positive"
  else if bytes.isEmpty then .error "filter size must be a multiple of 8, got 0"
  else .ok ⟨bytes, hashCount⟩

/-- `BloomFilter::num_bits`. -/
def numBits (f : BloomFilter) : Nat := 8 * f.bits.length

/-- `BloomFilter::num_bytes`. -/
def numBytes (f : BloomFilter) : Nat := f.bits.length

/-- `BloomFilter::get_bit`; a bit outside of the filter is not set. -/
def getBit (f : BloomFilter) (index : Nat) : Bool :=
  (f.bits.getD (index / 8) 0).toNat.testBit (index % 8)

/-- `BloomFilter::set_bit`; a bit outside of the filter changes nothing. -/
def setBit (f : BloomFilter) (index : Nat) : BloomFilter :=
  { f with bits := f.bits.modify (index / 8) (· ||| 1 <<< UInt8.ofNat (index % 8)) }

/-- The or of all bits, if the sizes agree. -/
def merge (f other : BloomFilter) : Except BloomError BloomFilter :=
  if f.numBits ≠ other.numBits then .error (.invalidSize f.numBits other.numBits)
  else .ok { f with bits := f.bits.zipWith (· ||| ·) other.bits }

/-- `BloomFilter::union`. -/
def union (f other : BloomFilter) : Except BloomError BloomFilter := f.merge other

section Hash

variable [Sha256]

/-- Double hashing: `h1 + k * h2` in 64 bits, modulo the size. -/
def hash (f : BloomFilter) (data : Bytes) (k : Nat) : Nat :=
  let digest := Sha256.digest data
  let h1 := leNat (digest.take 8)
  let h2 := leNat ((digest.drop 8).take 8)
  (h1 + k * h2) % UInt64.size % f.numBits

/-- `BloomFilter::insert`: one bit for each hash function. -/
def insert (f : BloomFilter) (nodeAddr : NodeAddr) : BloomFilter :=
  (List.range f.hashCount.toNat).foldl (fun f i => f.setBit (f.hash nodeAddr.bytes i)) f

/-- `BloomFilter::contains`: all of them are set. -/
def contains (f : BloomFilter) (nodeAddr : NodeAddr) : Bool :=
  (List.range f.hashCount.toNat).all fun i => f.getBit (f.hash nodeAddr.bytes i)

end Hash

/-! ## Bits -/

variable {f g h : BloomFilter}

@[simp] theorem numBits_new : new.numBits = 8192 := by
  unfold numBits new
  rw [List.length_replicate]
  rfl

@[simp] theorem numBits_setBit (i : Nat) : (f.setBit i).numBits = f.numBits := by
  simp [setBit, numBits]

@[simp] theorem hashCount_setBit (i : Nat) : (f.setBit i).hashCount = f.hashCount := rfl

theorem fromSlice_eq_ok {bytes : Bytes} {hashCount : UInt8} (h : fromSlice bytes hashCount = .ok f) :
    f = ⟨bytes, hashCount⟩ := by
  unfold fromSlice at h
  split_ifs at h
  exact (Except.ok.inj h).symm

theorem testBit_one_shiftLeft {k m : Nat} (hk : k < 8) (hm : m < 8) :
    ((1 : UInt8) <<< UInt8.ofNat k).toNat.testBit m = decide (m = k) := by
  have hall : ∀ k < 8, ∀ m < 8,
      ((1 : UInt8) <<< UInt8.ofNat k).toNat.testBit m = decide (m = k) := by decide
  exact hall k hk m hm

/-- **Setting a bit.** -/
theorem getBit_setBit {i : Nat} (hi : i < f.numBits) (j : Nat) :
    (f.setBit i).getBit j = (decide (j = i) || f.getBit j) := by
  unfold numBits at hi
  have hlen : i / 8 < f.bits.length := by omega
  unfold getBit setBit
  simp only [List.getD_eq_getElem?_getD, List.getElem?_modify]
  by_cases hdiv : i / 8 = j / 8
  · rw [← hdiv, List.getElem?_eq_getElem hlen]
    simp only [if_true, Option.map_eq_map, Option.map_some, Option.getD_some, UInt8.toNat_or,
      Nat.testBit_or]
    rw [testBit_one_shiftLeft (Nat.mod_lt _ (by decide)) (Nat.mod_lt _ (by decide)), Bool.or_comm]
    congr 1
    rw [decide_eq_decide]
    omega
  · have hne : j ≠ i := fun h => hdiv (h ▸ rfl)
    simp [hdiv, hne]

theorem merge_eq_ok : f.merge g = .ok h ↔ f.numBits = g.numBits ∧
    h = { f with bits := f.bits.zipWith (· ||| ·) g.bits } := by
  unfold merge
  split_ifs with hne
  · exact ⟨nofun, fun hok => absurd hok.1 hne⟩
  · exact ⟨fun hok => ⟨not_not.mp hne, (Except.ok.inj hok).symm⟩, fun hok => hok.2 ▸ rfl⟩

theorem numBits_merge (hm : f.merge g = .ok h) : h.numBits = f.numBits := by
  obtain ⟨hsize, rfl⟩ := merge_eq_ok.mp hm
  unfold numBits at hsize ⊢
  rw [List.length_zipWith]
  omega

theorem hashCount_merge (hm : f.merge g = .ok h) : h.hashCount = f.hashCount := by
  obtain ⟨-, rfl⟩ := merge_eq_ok.mp hm
  rfl

/-- **The bits of a merge.** -/
theorem getBit_merge (hm : f.merge g = .ok h) (j : Nat) :
    h.getBit j = (f.getBit j || g.getBit j) := by
  obtain ⟨hsize, rfl⟩ := merge_eq_ok.mp hm
  have hlen : f.bits.length = g.bits.length := by
    unfold numBits at hsize
    omega
  unfold getBit
  simp only [List.getD_eq_getElem?_getD, List.getElem?_zipWith]
  by_cases hj : j / 8 < f.bits.length
  · rw [List.getElem?_eq_getElem hj, List.getElem?_eq_getElem (hlen ▸ hj)]
    simp [Nat.testBit_or]
  · rw [List.getElem?_eq_none (Nat.not_lt.mp hj), List.getElem?_eq_none (hlen ▸ Nat.not_lt.mp hj)]
    simp

/-- A filter is its size, its hash count and its bits. -/
theorem ext_getBit (hsize : f.numBits = g.numBits) (hcount : f.hashCount = g.hashCount)
    (hbit : ∀ j, f.getBit j = g.getBit j) : f = g := by
  obtain ⟨fbits, k⟩ := f
  obtain ⟨gbits, k'⟩ := g
  obtain rfl : k = k' := hcount
  have hlen : fbits.length = gbits.length := Nat.eq_of_mul_eq_mul_left (by decide) hsize
  congr 1
  refine List.ext_getElem hlen fun i hi hi' => UInt8.toNat_inj.mp (Nat.eq_of_testBit_eq fun m => ?_)
  by_cases hm : m < 8
  · have hj := hbit (8 * i + m)
    unfold getBit at hj
    have hdiv : (8 * i + m) / 8 = i := by omega
    have hmod : (8 * i + m) % 8 = m := by omega
    rw [hdiv, hmod] at hj
    simpa [hi, hi'] using hj
  · have hlarge : ∀ b : UInt8, b.toNat.testBit m = false := fun b =>
      Nat.testBit_lt_two_pow (lt_of_lt_of_le (UInt8.toNat_lt b)
        (Nat.pow_le_pow_right (by decide) (Nat.not_lt.mp hm)))
    rw [hlarge, hlarge]

/-! ## Members -/

variable [Sha256] {a : NodeAddr}

theorem hash_congr (hsize : f.numBits = g.numBits) (data : Bytes) (k : Nat) :
    f.hash data k = g.hash data k := by
  unfold hash
  rw [hsize]

theorem hash_lt (hf : 0 < f.numBits) (data : Bytes) (k : Nat) : f.hash data k < f.numBits :=
  Nat.mod_lt _ hf

theorem contains_iff : f.contains a = true ↔
    ∀ i < f.hashCount.toNat, f.getBit (f.hash a.bytes i) = true := by
  simp [contains]

/-- The bits after some probes of `a` have been set. -/
theorem getBit_foldl_setBit (hf : 0 < f.numBits) (ks : List Nat) (j : Nat) :
    let g := ks.foldl (fun f i => f.setBit (f.hash a.bytes i)) f
    g.numBits = f.numBits ∧ g.hashCount = f.hashCount ∧
      (g.getBit j = true ↔ f.getBit j = true ∨ ∃ i ∈ ks, j = f.hash a.bytes i) := by
  induction ks generalizing f with
  | nil => simp
  | cons k ks ih =>
    have hsize : (f.setBit (f.hash a.bytes k)).numBits = f.numBits := numBits_setBit _
    obtain ⟨hn, hc, hbit⟩ := ih (f := f.setBit (f.hash a.bytes k)) (hsize ▸ hf)
    refine ⟨hn.trans hsize, hc, ?_⟩
    rw [List.foldl_cons, hbit, getBit_setBit (hash_lt hf _ _), Bool.or_eq_true, decide_eq_true_iff]
    simp only [hash_congr hsize, List.mem_cons, exists_eq_or_imp]
    rw [or_comm (a := j = _), or_assoc]

theorem numBits_insert (hf : 0 < f.numBits) (a : NodeAddr) : (f.insert a).numBits = f.numBits :=
  (getBit_foldl_setBit hf _ 0).1

theorem hashCount_insert (hf : 0 < f.numBits) (a : NodeAddr) :
    (f.insert a).hashCount = f.hashCount :=
  (getBit_foldl_setBit hf _ 0).2.1

/-- **The bits of an insertion.** -/
theorem getBit_insert (hf : 0 < f.numBits) (a : NodeAddr) (j : Nat) :
    (f.insert a).getBit j = true ↔
      f.getBit j = true ∨ ∃ i < f.hashCount.toNat, j = f.hash a.bytes i := by
  refine (getBit_foldl_setBit hf _ j).2.2.trans ?_
  simp only [List.mem_range]

theorem contains_insert (hf : 0 < f.numBits) (a : NodeAddr) : (f.insert a).contains a = true := by
  rw [contains_iff]
  intro i hi
  rw [hashCount_insert hf] at hi
  rw [hash_congr (numBits_insert hf a), getBit_insert hf]
  exact .inr ⟨i, hi, rfl⟩

/-- The filter merged into keeps its members. -/
theorem contains_of_merge_left (hm : f.merge g = .ok h) (hf : f.contains a = true) :
    h.contains a = true := by
  rw [contains_iff] at hf ⊢
  intro i hi
  rw [hashCount_merge hm] at hi
  rw [hash_congr (numBits_merge hm), getBit_merge hm, hf i hi, Bool.true_or]

/-- **A member of the other filter** stays one exactly when its probes beyond that filter's hash
count, up to the hash count of the result, hit set bits. -/
theorem contains_merge_iff (hm : f.merge g = .ok h) (hg : g.contains a = true) :
    h.contains a = true ↔ ∀ i, g.hashCount.toNat ≤ i → i < f.hashCount.toNat →
      (f.getBit (f.hash a.bytes i) || g.getBit (f.hash a.bytes i)) = true := by
  rw [contains_iff] at hg ⊢
  rw [hashCount_merge hm]
  simp only [hash_congr (numBits_merge hm), getBit_merge hm]
  constructor
  · intro hall i _ hi
    exact hall i hi
  · intro hrest i hi
    by_cases hgi : i < g.hashCount.toNat
    · rw [hash_congr (merge_eq_ok.mp hm).1, hg i hgi, Bool.or_true]
    · exact hrest i (Nat.not_lt.mp hgi) hi

end BloomFilter

end Fips
