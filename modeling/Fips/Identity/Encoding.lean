import Fips.Lib.AsciiCase
import Fips.Noise.Sample
import Fips.Peer.Connection

/-!
# Npubs

Model of `decode_npub` (`identity/encoding.rs`) and `PeerIdentity::from_npub`. A `&str` is the list
of its characters. The `bech32` crate is a parameter: the human-readable part and the bytes of a
string, or nothing where it returns one of its errors, and the equality of human-readable parts.

`XOnlyPublicKey::from_slice` with `public_key(Parity::Even)` is the key whose compressed form is `02`
and the 32 bytes.
-/

open AsciiCase

namespace Fips

/-- `&str`. -/
abbrev Str := List Char

/-- `bech32::Hrp`. -/
structure Hrp where
  chars : Str
  deriving DecidableEq, Repr

/-- `bech32::decode` and the `PartialEq` of `bech32::Hrp`. -/
class Bech32 where
  decode (s : Str) : Option (Hrp × Bytes)
  hrpEq (x y : Hrp) : Bool

/-- What the crate makes of case. Human-readable parts are compared without it. A string of mixed case
is an error to the decoder, and otherwise the case of the string is that of its human-readable part. -/
structure Bech32.Lawful [Bech32] : Prop where
  hrpEq_iff : ∀ x y : Hrp, hrpEq x y = true ↔ lowercase x.chars = lowercase y.chars
  decode_mixedCase : ∀ s : Str, mixedCase s = true → decode s = none
  decode_lowercase : ∀ s : Str, mixedCase s = false →
    (decode s).map (fun r => (lowercase r.1.chars, r.2)) =
      (decode (lowercase s)).map fun r => (lowercase r.1.chars, r.2)

/-- The variants of `identity::IdentityError` an npub leads to. -/
inductive IdentityError
  | bech32Decode
  | invalidNpubPrefix (hrp : Str)
  | invalidNpubLength (len : Nat)
  | invalidSecretKey
  deriving DecidableEq, Repr

/-- `NPUB_HRP`. -/
def NPUB_HRP : Hrp := ⟨['n', 'p', 'u', 'b']⟩

section Decode

variable (SecretKey : Type) {PublicKey : Type} [Bech32] [Secp256k1 SecretKey PublicKey]

/-- `decode_npub`. -/
def decodeNpub (npub : Str) : Except IdentityError PublicKey :=
  match Bech32.decode npub with
  | none => .error .bech32Decode
  | some (hrp, data) =>
    if !Bech32.hrpEq hrp NPUB_HRP then .error (.invalidNpubPrefix hrp.chars)
    else if data.length ≠ 32 then .error (.invalidNpubLength data.length)
    else
      match Secp256k1.fromSlice SecretKey (0x02 :: data) with
      | none => .error .invalidSecretKey
      | some pubkey => .ok pubkey

/-- `PeerIdentity::from_npub`. -/
def PeerIdentity.fromNpub (npub : Str) : Except IdentityError (PeerIdentity PublicKey) :=
  (decodeNpub SecretKey npub).map PeerIdentity.mk

/-- The identity of an npub, `from_npub(..).ok()`. -/
def npubIdentity (npub : Str) : Option (PeerIdentity PublicKey) :=
  (PeerIdentity.fromNpub SecretKey npub).toOption

/-- A key with the human-readable part of an npub in front, whatever its case. -/
def fromLowered (r : Str × Bytes) : Option (PeerIdentity PublicKey) :=
  if r.1 = lowercase NPUB_HRP.chars ∧ r.2.length = 32 then
    (Secp256k1.fromSlice SecretKey (0x02 :: r.2)).map PeerIdentity.mk
  else none

/-- An npub by what its case leaves of the decoder's answer. -/
theorem npubIdentity_eq (hbech : Bech32.Lawful) (npub : Str) : npubIdentity SecretKey npub =
    ((Bech32.decode npub).map fun r => (lowercase r.1.chars, r.2)).bind (fromLowered SecretKey) := by
  unfold npubIdentity PeerIdentity.fromNpub decodeNpub
  cases Bech32.decode npub with
  | none => rfl
  | some r =>
    obtain ⟨hrp, data⟩ := r
    change _ = fromLowered SecretKey (lowercase hrp.chars, data)
    unfold fromLowered
    by_cases hhrp : lowercase hrp.chars = lowercase NPUB_HRP.chars
    · have heq : Bech32.hrpEq hrp NPUB_HRP = true := (hbech.hrpEq_iff hrp NPUB_HRP).mpr hhrp
      by_cases hlen : data.length = 32
      · rw [if_pos ⟨hhrp, hlen⟩]
        simp only [heq, hlen, Bool.not_true, Bool.false_eq_true, if_false, ne_eq,
          not_true_eq_false]
        cases Secp256k1.fromSlice SecretKey (0x02 :: data) <;> rfl
      · rw [if_neg fun h => hlen h.2]
        simp [heq, hlen, Except.map, Except.toOption]
    · have hne : Bech32.hrpEq hrp NPUB_HRP = false :=
        Bool.eq_false_iff.mpr fun h => hhrp ((hbech.hrpEq_iff hrp NPUB_HRP).mp h)
      rw [if_neg fun h => hhrp h.1]
      simp [hne, Except.map, Except.toOption]

variable {SecretKey}

/-- A string of mixed case is no npub. -/
theorem npubIdentity_of_mixedCase (hbech : Bech32.Lawful) {npub : Str}
    (h : mixedCase npub = true) : npubIdentity SecretKey npub = none := by
  unfold npubIdentity PeerIdentity.fromNpub decodeNpub
  rw [hbech.decode_mixedCase npub h]
  rfl

/-- The case of an npub of one case does not matter. -/
theorem npubIdentity_lowercase (hbech : Bech32.Lawful) {npub : Str}
    (h : mixedCase npub = false) :
    npubIdentity SecretKey npub = npubIdentity SecretKey (lowercase npub) := by
  rw [npubIdentity_eq _ hbech, npubIdentity_eq _ hbech, hbech.decode_lowercase npub h]

/-- A direct npub resolves if it is of one case. -/
theorem npubIdentity_eq_ite (hbech : Bech32.Lawful) (npub : Str) : npubIdentity SecretKey npub =
    if mixedCase npub then none else npubIdentity SecretKey (lowercase npub) := by
  cases hmixed : mixedCase npub with
  | true => exact npubIdentity_of_mixedCase hbech hmixed
  | false => exact npubIdentity_lowercase hbech hmixed

end Decode

namespace Sample

/-- An npub. -/
def npubA : Str := "npub10elfcs4fr0l0r8af98jlmgdh9c8tcxjvz9qkw038js35mp4dma8qzvjptg".toList

/-- Another npub. -/
def npubB : Str := "npub180cvv07tjdrrgpa0j7j7tmnyl2yr6yr7l8j4s3evf6u64th6gkwsyjh6w6".toList

/-- The key of `npubA`. -/
def keyA : Bytes :=
  [126, 126, 156, 66, 169, 27, 254, 241, 159, 169, 41, 229, 253, 161, 183, 46, 14, 188, 26, 76,
   17, 65, 103, 62, 39, 148, 35, 77, 134, 173, 223, 78]

/-- The key of `npubB`. -/
def keyB : Bytes :=
  [59, 240, 198, 63, 203, 147, 70, 52, 7, 175, 151, 165, 229, 238, 100, 250, 136, 61, 16, 126,
   249, 229, 88, 71, 44, 78, 185, 170, 174, 250, 69, 157]

/-- The crate on the two npubs in either case. -/
scoped instance : Bech32 where
  hrpEq x y := lowercase x.chars == lowercase y.chars
  decode s :=
    if mixedCase s then none
    else ([(npubA, keyA), (npubB, keyB)].lookup (lowercase s)).map fun data => (⟨s.take 4⟩, data)

theorem bech32_lawful : Bech32.Lawful where
  hrpEq_iff _ _ := beq_iff_eq
  decode_mixedCase s h := if_pos h
  decode_lowercase s h := by
    have hhrp : lowercase ((lowercase s).take 4) = lowercase (s.take 4) := by
      rw [take_lowercase, lowercase_lowercase]
    simp only [Bech32.decode, h, mixedCase_lowercase, lowercase_lowercase, Option.map_map,
      Function.comp_def, hhrp, Bool.false_eq_true, if_false]

end Sample

end Fips
