import Mathlib.Order.Lattice
import Fips.Wire.Bytes

/-!
# Addresses, tree coordinates and parent declarations

Model of `NodeAddr` (`identity/node_addr.rs`), `CoordEntry` and `TreeCoordinate`
(`tree/coordinate.rs:14-124`), `ParentDeclaration` (`tree/declaration.rs:17-153`) and the
`TreeAnnounce` message (`protocol/tree.rs:15-39`).

A `NodeAddr` is `[u8; 16]` ordered byte by byte; here it is the 128-bit word those bytes spell in
big-endian order, ordered as a number, which orders the same way. A `TreeCoordinate` carries the proof that its path is
not empty, as the private `Vec` of the source does behind `TreeCoordinate::new`. Sequence numbers
and timestamps are `u64`; only their order is read here, so they are natural numbers.

The Schnorr signature scheme (`secp256k1`) is a parameter: keys, signatures, signing and
verification, with no law assumed.
-/

namespace Fips

/-! ## Addresses -/

/-- A 16-byte routing address. -/
structure NodeAddr where
  value : BitVec 128
  deriving DecidableEq, Repr

namespace NodeAddr

/-- The number the bytes spell in big-endian order. -/
def toNat (a : NodeAddr) : Nat := a.value.toNat

theorem toNat_injective : Function.Injective NodeAddr.toNat := by
  rintro ⟨a⟩ ⟨b⟩ h
  exact congrArg NodeAddr.mk (BitVec.eq_of_toNat_eq h)

instance : LinearOrder NodeAddr := LinearOrder.lift' NodeAddr.toNat toNat_injective

instance (n : Nat) : OfNat NodeAddr n := ⟨⟨BitVec.ofNat 128 n⟩⟩

end NodeAddr

/-! ## Coordinates -/

/-- Metadata of one node on a coordinate path. -/
structure CoordEntry where
  nodeAddr : NodeAddr
  sequence : Nat
  timestamp : Nat
  deriving DecidableEq, Repr

/-- The variants of `TreeError` that these functions return. -/
inductive TreeError
  | emptyCoordinate
  | invalidSignature (addr : NodeAddr)
  deriving DecidableEq, Repr

/-- The path from a node to the root, the node first. -/
structure TreeCoordinate where
  entries : List CoordEntry
  nonempty : entries ≠ []
  deriving DecidableEq

namespace TreeCoordinate

/-- `TreeCoordinate::new`. -/
def new (path : List CoordEntry) : Except TreeError TreeCoordinate :=
  if h : path = [] then .error .emptyCoordinate else .ok ⟨path, h⟩

/-- `TreeCoordinate::root_with_meta`. -/
def rootWithMeta (addr : NodeAddr) (sequence timestamp : Nat) : TreeCoordinate :=
  ⟨[⟨addr, sequence, timestamp⟩], List.cons_ne_nil _ _⟩

/-- The coordinate of a child: its own entry in front of the parent's path
(`recompute_coords`, `tree/state.rs:187-194`, where `TreeCoordinate::new` cannot fail). -/
def extend (e : CoordEntry) (c : TreeCoordinate) : TreeCoordinate :=
  ⟨e :: c.entries, List.cons_ne_nil _ _⟩

/-- `TreeCoordinate::node_addr`: the path starts at the node. -/
def nodeAddr (c : TreeCoordinate) : NodeAddr := (c.entries.head c.nonempty).nodeAddr

/-- `TreeCoordinate::root_id`: the path ends at the root. -/
def rootId (c : TreeCoordinate) : NodeAddr := (c.entries.getLast c.nonempty).nodeAddr

/-- The second entry, or the first of a root. -/
def parentId (c : TreeCoordinate) : NodeAddr :=
  match c.entries[1]? with
  | some e => e.nodeAddr
  | none => c.nodeAddr

/-- `TreeCoordinate::depth`: the root has depth zero. -/
def depth (c : TreeCoordinate) : Nat := c.entries.length - 1

/-- `TreeCoordinate::is_root`. -/
def isRoot (c : TreeCoordinate) : Bool := c.entries.length == 1

/-- The address path. -/
def nodeAddrs (c : TreeCoordinate) : List NodeAddr := c.entries.map CoordEntry.nodeAddr

/-- `TreeCoordinate::contains`. -/
def contains (c : TreeCoordinate) (other : NodeAddr) : Bool := c.nodeAddrs.any (· == other)

@[simp] theorem rootId_rootWithMeta (a : NodeAddr) (s t : Nat) : (rootWithMeta a s t).rootId = a :=
  rfl

@[simp] theorem nodeAddrs_rootWithMeta (a : NodeAddr) (s t : Nat) :
    (rootWithMeta a s t).nodeAddrs = [a] := rfl

@[simp] theorem depth_rootWithMeta (a : NodeAddr) (s t : Nat) : (rootWithMeta a s t).depth = 0 :=
  rfl

@[simp] theorem rootId_extend (e : CoordEntry) (c : TreeCoordinate) :
    (extend e c).rootId = c.rootId := by
  simp only [rootId, extend, List.getLast_cons c.nonempty]

@[simp] theorem nodeAddrs_extend (e : CoordEntry) (c : TreeCoordinate) :
    (extend e c).nodeAddrs = e.nodeAddr :: c.nodeAddrs := rfl

@[simp] theorem nodeAddr_extend (e : CoordEntry) (c : TreeCoordinate) :
    (extend e c).nodeAddr = e.nodeAddr := rfl

@[simp] theorem parentId_extend (e : CoordEntry) (c : TreeCoordinate) :
    (extend e c).parentId = c.nodeAddr := by
  unfold parentId extend nodeAddr
  obtain ⟨entries, hne⟩ := c
  cases entries with
  | nil => exact absurd rfl hne
  | cons e' rest => rfl

theorem isRoot_extend (e : CoordEntry) (c : TreeCoordinate) : (extend e c).isRoot = false := by
  have h := List.length_pos_iff.mpr c.nonempty
  simp only [isRoot, extend, List.length_cons, beq_eq_false_iff_ne]
  omega

theorem depth_extend (e : CoordEntry) (c : TreeCoordinate) :
    (extend e c).depth = c.depth + 1 := by
  have h := List.length_pos_iff.mpr c.nonempty
  simp only [depth, extend, List.length_cons]
  omega

theorem contains_iff {c : TreeCoordinate} {a : NodeAddr} :
    c.contains a = true ↔ a ∈ c.nodeAddrs := by
  simp [contains]

theorem rootId_mem (c : TreeCoordinate) : c.rootId ∈ c.nodeAddrs :=
  List.mem_map.mpr ⟨_, List.getLast_mem c.nonempty, rfl⟩

theorem rootId_eq_getLast (c : TreeCoordinate) :
    some c.rootId = c.nodeAddrs.getLast? := by
  rw [nodeAddrs, List.getLast?_map, List.getLast?_eq_some_getLast c.nonempty]
  rfl

end TreeCoordinate

/-! ## Declarations -/

/-- Signing in the `secp256k1` crate (BIP-340). -/
class SigningKey (SecretKey Signature : Type) where
  sign : SecretKey → Bytes → Signature

/-- Verification in the `secp256k1` crate (BIP-340). -/
class VerifyingKey (PublicKey Signature : Type) where
  verify : PublicKey → Signature → Bytes → Bool

/-- The local key with the address it stands for (`identity/local.rs`). -/
structure Identity (SecretKey : Type) where
  nodeAddr : NodeAddr
  secretKey : SecretKey

/-- A node's declaration of its parent; `parentId = nodeAddr` declares a root candidate. -/
structure ParentDeclaration (Signature : Type) where
  nodeAddr : NodeAddr
  parentId : NodeAddr
  sequence : Nat
  timestamp : Nat
  signature : Option Signature
  deriving DecidableEq

/-- The 16 bytes of an address, the most significant first. -/
def NodeAddr.bytes (a : NodeAddr) : Bytes := (leBytes 16 a.toNat).reverse

namespace ParentDeclaration

variable {SecretKey PublicKey Signature : Type}

/-- `ParentDeclaration::new`, unsigned. -/
def new (nodeAddr parentId : NodeAddr) (sequence timestamp : Nat) : ParentDeclaration Signature :=
  ⟨nodeAddr, parentId, sequence, timestamp, none⟩

/-- `ParentDeclaration::self_root`: a node that is its own parent. -/
def selfRoot (nodeAddr : NodeAddr) (sequence timestamp : Nat) : ParentDeclaration Signature :=
  new nodeAddr nodeAddr sequence timestamp

/-- `ParentDeclaration::is_root`. -/
def isRoot (d : ParentDeclaration Signature) : Bool := d.nodeAddr == d.parentId

/-- `ParentDeclaration::is_signed`. -/
def isSigned (d : ParentDeclaration Signature) : Bool := d.signature.isSome

/-- `node_addr (16) || parent_id (16) || sequence (8) || timestamp (8)`. -/
def signingBytes (d : ParentDeclaration Signature) : Bytes :=
  d.nodeAddr.bytes ++ d.parentId.bytes ++ leBytes 8 d.sequence ++ leBytes 8 d.timestamp

/-- `ParentDeclaration::is_fresher_than`: the sequence number alone decides. -/
def isFresherThan (d other : ParentDeclaration Signature) : Bool :=
  decide (other.sequence < d.sequence)

/-- `ParentDeclaration::sign`, which refuses to sign for another node. -/
def sign [SigningKey SecretKey Signature] (d : ParentDeclaration Signature)
    (identity : Identity SecretKey) : Except TreeError (ParentDeclaration Signature) :=
  if identity.nodeAddr ≠ d.nodeAddr then .error (.invalidSignature d.nodeAddr)
  else .ok { d with signature := some (SigningKey.sign identity.secretKey d.signingBytes) }

/-- `ParentDeclaration::verify`. -/
def verify [VerifyingKey PublicKey Signature] (d : ParentDeclaration Signature)
    (pubkey : PublicKey) : Except TreeError Unit :=
  match d.signature with
  | none => .error (.invalidSignature d.nodeAddr)
  | some sig =>
    if VerifyingKey.verify pubkey sig d.signingBytes then .ok ()
    else .error (.invalidSignature d.nodeAddr)

end ParentDeclaration

/-- A spanning-tree announcement: the sender's declaration and its path to the root. -/
structure TreeAnnounce (Signature : Type) where
  declaration : ParentDeclaration Signature
  ancestry : TreeCoordinate
  deriving DecidableEq

/-- The ancestry begins with the declaring node. -/
def TreeAnnounce.OwnHead {Signature : Type} (a : TreeAnnounce Signature) : Prop :=
  a.ancestry.nodeAddr = a.declaration.nodeAddr

end Fips
