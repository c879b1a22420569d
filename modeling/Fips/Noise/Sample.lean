import Fips.Noise.HandshakePanic

/-!
# A small suite

A curve, an AEAD and hash functions that can be evaluated and that satisfy the laws the exchanges
rely on: the additive group modulo 256 with the smaller of `P` and `-P` as the `x` coordinate, a
checksum as the tag, and sums as hashes. Concrete exchanges below are run on it.
-/

namespace Fips

namespace Sample

/-- A secret key of one byte. -/
structure Scalar where
  value : UInt8
  deriving DecidableEq

/-- A public key of one byte. -/
structure Point where
  value : UInt8
  deriving DecidableEq

/-- The smaller of `P` and `-P`. -/
def xCoord (P : UInt8) : UInt8 := if P ≤ -P then P else -P

theorem xCoord_neg (P : UInt8) : xCoord (-P) = xCoord P := by
  unfold xCoord
  rw [UInt8.neg_neg]
  split_ifs with h₁ h₂ h₂
  · exact UInt8.le_antisymm h₁ h₂
  · rfl
  · rfl
  · exact absurd (UInt8.le_of_lt (UInt8.not_le.mp h₁)) h₂

theorem xCoord_eq {P Q : UInt8} (h : xCoord P = xCoord Q) : P = Q ∨ P = -Q := by
  unfold xCoord at h
  split_ifs at h
  · exact .inl h
  · exact .inr h
  · exact .inr (by rw [← h, UInt8.neg_neg])
  · exact .inl (UInt8.neg_inj.mp h)

scoped instance : Secp256k1 Scalar Point where
  publicKey k := ⟨k.value⟩
  serialize P := (if P.value ≤ -P.value then 2 else 3) :: xCoord P.value :: List.replicate 31 0
  fromSlice bytes :=
    match bytes with
    | parity :: x :: rest =>
      if rest.length = 31 then
        if parity = 2 then some ⟨x⟩ else if parity = 3 then some ⟨-x⟩ else none
      else none
    | _ => none
  sharedSecretPoint P k := xCoord (P.value * k.value) :: List.replicate 63 0

theorem curve_lawful : Secp256k1.Lawful Scalar where
  serialize_length _ := rfl
  fromSlice_serialize := by
    rintro ⟨P⟩
    by_cases h : P ≤ -P
    · simp [Secp256k1.serialize, Secp256k1.fromSlice, xCoord, h]
    · simp [Secp256k1.serialize, Secp256k1.fromSlice, xCoord, h]
  shared_comm a b := by
    simp only [Secp256k1.sharedSecretPoint, Secp256k1.publicKey, UInt8.mul_comm a.value]
  shared_sameX := by
    rintro ⟨P⟩ ⟨Q⟩ ⟨k⟩ h
    have hx : xCoord P = xCoord Q := by
      simpa [SameX, Secp256k1.serialize] using h
    have hk : xCoord (P * k) = xCoord (Q * k) := by
      rcases xCoord_eq hx with rfl | rfl
      · rfl
      · rw [UInt8.neg_mul, xCoord_neg]
    simp only [Secp256k1.sharedSecretPoint, hk]

/-- A sum in which the order of the bytes counts. -/
def checksum (bytes : Bytes) : UInt8 := bytes.foldl (fun acc b => acc * 3 + b) 1

/-- A tag that depends on all that the cipher is given. -/
def tag (key nonce aad msg : Bytes) : Bytes :=
  List.replicate TAG_SIZE (checksum (key ++ nonce ++ aad ++ msg))

scoped instance : ChaCha20Poly1305 where
  encrypt key nonce aad msg := some (msg ++ tag key nonce aad msg)
  decrypt key nonce aad ciphertext :=
    let msg := ciphertext.take (ciphertext.length - TAG_SIZE)
    if ciphertext = msg ++ tag key nonce aad msg then some msg else none

theorem aead_lawful : ChaCha20Poly1305.Lawful where
  decrypt_encrypt key nonce aad msg _ := by
    refine ⟨msg ++ tag key nonce aad msg, rfl, by simp [tag], ?_⟩
    simp [ChaCha20Poly1305.decrypt, tag]

theorem aead_sized : ChaCha20Poly1305.Sized where
  decrypt_length key nonce aad ciphertext msg h := by
    unfold ChaCha20Poly1305.decrypt at h
    dsimp only [instChaCha20Poly1305] at h
    split_ifs at h with hcipher
    have hlength := congrArg List.length hcipher
    cases h
    simpa [tag] using hlength

scoped instance : Sha256 := ⟨fun data => List.replicate 32 (checksum data)⟩

scoped instance : HkdfSha256 where
  expand salt ikm :=
    List.replicate 32 (checksum (salt ++ ikm)) ++ List.replicate 32 (checksum (ikm ++ salt))

end Sample

end Fips
