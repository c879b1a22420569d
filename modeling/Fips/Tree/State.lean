import Fips.Lib.Map
import Fips.Lib.Select
import Fips.Tree.Coordinate

/-!
# The local spanning-tree state

Model of `TreeState` (`tree/state.rs:14-473`): the node's own declaration and coordinates, its view
of every peer's position, and parent selection.

* `HashMap` is `Map`, whose entry order is the unspecified iteration order.
* Link costs are `f64`. Parent selection only adds, multiplies, subtracts and compares them; the
  class `LinkCost` has these operations and no law, so every result holds for any costs, NaN and
  infinity included.
* `Instant::now()` and `SystemTime::now()` are readings of a `Clock` that the caller passes in.

## Results

* `smallestRoot_eq_some`, `smallestRoot_le`: the first loop finds the smallest announced root.
* `bestPeer_eq_none_iff`, `of_bestPeer_eq_some`: the second loop finds a candidate exactly when
  there is an `Eligible` one, whatever the costs are.
* `evaluateParent_eq_some_iff`, `SwitchesTo.eligible`: exactly when a switch is recommended, and
  what that says about the new parent.
* `setParent_eq`, `recomputeCoords_eq`: what each step of a switch leaves alone.
* `Moved`: a new declaration followed by a recomputation leaves an `Anchored` position
  (`Moved.of_setParent`, `handleParentLost_moved`).

Out of scope here: routing (`find_next_hop`, in `Fips.Tree.Routing`).
-/

namespace Fips

/-- The `f64` operations of parent selection. -/
class LinkCost (F : Type) where
  ofNat : Nat → F
  infinity : F
  add : F → F → F
  sub : F → F → F
  mul : F → F → F
  lt : F → F → Bool
  beq : F → F → Bool

/-- One reading of the clocks: Unix seconds and milliseconds, and the monotonic instant. -/
structure Clock where
  unixSecs : Nat
  unixMs : Nat
  instant : Nat
  deriving DecidableEq, Repr

/-- `TreeState`: the node's own position, and what it recorded of its peers' positions. -/
structure TreeState (Signature F : Type) where
  myNodeAddr : NodeAddr
  myDeclaration : ParentDeclaration Signature
  myCoords : TreeCoordinate
  root : NodeAddr
  peerDeclarations : Map NodeAddr (ParentDeclaration Signature)
  peerAncestry : Map NodeAddr TreeCoordinate
  parentHysteresis : F
  holdDown : Nat
  lastParentSwitch : Option Nat
  flapCount : Nat
  flapWindowStart : Option Nat
  flapDampeningUntil : Option Nat
  flapThreshold : Nat
  flapWindow : Nat
  flapDampeningDuration : Nat

namespace TreeState

variable {Signature F : Type}

/-! ## Construction -/

/-- A node starts as its own root. Durations are in seconds. -/
def new [LinkCost F] (myNodeAddr : NodeAddr) (timestamp : Nat) : TreeState Signature F where
  myNodeAddr := myNodeAddr
  myDeclaration := .selfRoot myNodeAddr 1 timestamp
  myCoords := .rootWithMeta myNodeAddr 1 timestamp
  root := myNodeAddr
  peerDeclarations := ∅
  peerAncestry := ∅
  parentHysteresis := LinkCost.ofNat 0
  holdDown := 0
  lastParentSwitch := none
  flapCount := 0
  flapWindowStart := none
  flapDampeningUntil := none
  flapThreshold := 4
  flapWindow := 60
  flapDampeningDuration := 120

/-- `set_parent_hysteresis`, with `f64::clamp(0.0, 1.0)`. -/
def setParentHysteresis [LinkCost F] (s : TreeState Signature F) (hysteresis : F) : TreeState Signature F :=
  { s with parentHysteresis :=
      if LinkCost.lt hysteresis (LinkCost.ofNat 0) then LinkCost.ofNat 0
      else if LinkCost.lt (LinkCost.ofNat 1) hysteresis then LinkCost.ofNat 1
      else hysteresis }

/-- `TreeState::set_hold_down`. -/
def setHoldDown (s : TreeState Signature F) (secs : Nat) : TreeState Signature F :=
  { s with holdDown := secs }

/-- `TreeState::set_flap_dampening`. -/
def setFlapDampening (s : TreeState Signature F) (threshold windowSecs dampeningSecs : Nat) :
    TreeState Signature F :=
  { s with
    flapThreshold := threshold
    flapWindow := windowSecs
    flapDampeningDuration := dampeningSecs }

/-! ## Peers -/

/-- `TreeState::is_root`. -/
def isRoot (s : TreeState Signature F) : Bool := s.root == s.myNodeAddr

/-- `TreeState::peer_coords`. -/
def peerCoords (s : TreeState Signature F) (peerId : NodeAddr) : Option TreeCoordinate :=
  s.peerAncestry.lookup peerId

/-- `update_peer` reports no update unless there is no declaration of this peer yet or the new
one is fresher. -/
def accepts (s : TreeState Signature F) (declaration : ParentDeclaration Signature) : Bool :=
  match s.peerDeclarations.lookup declaration.nodeAddr with
  | some existing => declaration.isFresherThan existing
  | none => true

/-- `TreeState::update_peer`: declaration and ancestry are recorded together, or neither. -/
def updatePeer (s : TreeState Signature F) (declaration : ParentDeclaration Signature)
    (ancestry : TreeCoordinate) : TreeState Signature F × Bool :=
  if s.accepts declaration then
    ({ s with
      peerDeclarations := s.peerDeclarations.insert declaration.nodeAddr declaration
      peerAncestry := s.peerAncestry.insert declaration.nodeAddr ancestry }, true)
  else (s, false)

/-- `TreeState::remove_peer`. -/
def removePeer (s : TreeState Signature F) (peerId : NodeAddr) : TreeState Signature F :=
  { s with
    peerDeclarations := s.peerDeclarations.erase peerId
    peerAncestry := s.peerAncestry.erase peerId }

/-! ## Switching parents -/

/-- `TreeState::record_parent_switch`. The flag says that dampening was engaged. -/
def recordParentSwitch (s : TreeState Signature F) (now : Nat) : TreeState Signature F × Bool :=
  let running := match s.flapWindowStart with
    | some start => decide (now - start < s.flapWindow)
    | none => false
  let s := if running then { s with flapCount := s.flapCount + 1 }
    else { s with flapWindowStart := some now, flapCount := 1 }
  if s.flapThreshold ≤ s.flapCount ∧ s.flapDampeningUntil = none then
    ({ s with flapDampeningUntil := some (now + s.flapDampeningDuration) }, true)
  else (s, false)

/-- `TreeState::is_flap_dampened`. -/
def isFlapDampened (s : TreeState Signature F) (now : Nat) : Bool :=
  match s.flapDampeningUntil with
  | some until_ => decide (now < until_)
  | none => false

/-- Returns whether flap dampening was engaged by this switch. -/
def setParent (s : TreeState Signature F) (parentId : NodeAddr) (sequence timestamp now : Nat) :
    TreeState Signature F × Bool :=
  let parentChanged := s.isRoot || s.myDeclaration.parentId != parentId
  let s := { s with
    myDeclaration := .new s.myNodeAddr parentId sequence timestamp
    lastParentSwitch := some now }
  if parentChanged then s.recordParentSwitch now else (s, false)

/-- `TreeState::recompute_coords`: a node below a parent extends the ancestry that it has of the
parent, and keeps its coordinates when it has none. -/
def recomputeCoords (s : TreeState Signature F) : TreeState Signature F :=
  if s.myDeclaration.isRoot then
    { s with
      myCoords := .rootWithMeta s.myNodeAddr s.myDeclaration.sequence s.myDeclaration.timestamp
      root := s.myNodeAddr }
  else match s.peerAncestry.lookup s.myDeclaration.parentId with
    | some parentCoords =>
      let coords := TreeCoordinate.extend
        ⟨s.myNodeAddr, s.myDeclaration.sequence, s.myDeclaration.timestamp⟩ parentCoords
      { s with myCoords := coords, root := coords.rootId }
    | none => s

/-- `TreeState::sign_declaration`. -/
def signDeclaration {SecretKey : Type} [SigningKey SecretKey Signature]
    (s : TreeState Signature F) (identity : Identity SecretKey) :
    Except TreeError (TreeState Signature F) :=
  match s.myDeclaration.sign identity with
  | .ok declaration => .ok { s with myDeclaration := declaration }
  | .error e => .error e

/-! ## Parent selection -/

section Selection

variable [LinkCost F]

/-- One round of the search for the smallest root. -/
def smallerRoot (acc : Option NodeAddr) (e : Sigma fun _ : NodeAddr => TreeCoordinate) :
    Option NodeAddr :=
  some (match acc with
    | none => e.2.rootId
    | some current => if e.2.rootId < current then e.2.rootId else current)

/-- The smallest root visible across all peers. -/
def smallestRoot (s : TreeState Signature F) : Option NodeAddr :=
  s.peerAncestry.entries.foldl smallerRoot none

/-- The link cost of a candidate; `none` skips it. Once any peer is measured, only measured peers
count; before that every cost is `1.0`. -/
def candidateCost (peerCosts : Map NodeAddr F) (peerId : NodeAddr) : Option F :=
  match peerCosts.lookup peerId with
  | some c => some c
  | none => if peerCosts.isEmpty then some (LinkCost.ofNat 1) else none

/-- The effective depth of a peer that reaches the smallest root without passing through this
node; `none` for every other peer. -/
def candidate (s : TreeState Signature F) (peerCosts : Map NodeAddr F) (smallest : NodeAddr)
    (e : Sigma fun _ : NodeAddr => TreeCoordinate) : Option (NodeAddr × F) :=
  if e.2.rootId ≠ smallest then none
  else if e.2.contains s.myNodeAddr then none
  else match candidateCost peerCosts e.1 with
    | none => none
    | some cost => some (e.1, LinkCost.add (LinkCost.ofNat e.2.depth) cost)

/-- One round of the search for the lowest effective depth, ties to the smaller address. -/
def betterPeer (s : TreeState Signature F) (peerCosts : Map NodeAddr F) (smallest : NodeAddr)
    (best : Option (NodeAddr × F)) (e : Sigma fun _ : NodeAddr => TreeCoordinate) :
    Option (NodeAddr × F) :=
  match s.candidate peerCosts smallest e with
  | none => best
  | some (peerId, effDepth) =>
    match best with
    | none => some (peerId, effDepth)
    | some (bestId, bestEff) =>
      if LinkCost.lt effDepth bestEff ||
          (LinkCost.beq effDepth bestEff && decide (peerId < bestId)) then
        some (peerId, effDepth)
      else some (bestId, bestEff)

/-- The loop of `evaluate_parent` over the recorded ancestries. -/
def bestPeer (s : TreeState Signature F) (peerCosts : Map NodeAddr F) (smallest : NodeAddr) :
    Option (NodeAddr × F) :=
  s.peerAncestry.entries.foldl (s.betterPeer peerCosts smallest) none

/-- The hold-down after the last switch has not elapsed. -/
def heldDown (s : TreeState Signature F) (now : Nat) : Bool :=
  s.holdDown != 0 && match s.lastParentSwitch with
    | some last => decide (now - last < s.holdDown)
    | none => false

/-- The current parent's link cost; an unmeasured parent is maximally expensive once any peer is
measured. -/
def currentParentCost (s : TreeState Signature F) (peerCosts : Map NodeAddr F) : F :=
  match peerCosts.lookup s.myDeclaration.parentId with
  | some c => c
  | none => if peerCosts.isEmpty then LinkCost.ofNat 1 else LinkCost.infinity

/-- The switch that hold-down and hysteresis do not suppress: the parent is gone, a smaller root
was found, or this node is root and should not be. -/
def mandatorySwitch (s : TreeState Signature F) (smallest : NodeAddr) : Bool :=
  (!s.isRoot && decide (s.myDeclaration.parentId ∉ s.peerAncestry)) ||
  (decide (smallest < s.root) || (s.isRoot && decide (smallest < s.myNodeAddr))) ||
  s.isRoot

/-- The discretionary switch: no hold-down, no dampening, and the candidate is better than the
current parent by the hysteresis factor. -/
def betterByHysteresis (s : TreeState Signature F) (peerCosts : Map NodeAddr F)
    (bestEffDepth : F) (now : Nat) : Bool :=
  if s.heldDown now then false
  else if s.isFlapDampened now then false
  else match s.peerAncestry.lookup s.myDeclaration.parentId with
    | none => true
    | some coords =>
      let currentParentEff :=
        LinkCost.add (LinkCost.ofNat coords.depth) (s.currentParentCost peerCosts)
      LinkCost.lt bestEffDepth (LinkCost.mul currentParentEff
        (LinkCost.sub (LinkCost.ofNat 1) s.parentHysteresis))

/-- Evaluate whether to switch parents; `some` recommends a switch. -/
def evaluateParent (s : TreeState Signature F) (peerCosts : Map NodeAddr F) (now : Nat) :
    Option NodeAddr :=
  if s.peerAncestry.isEmpty then none
  else match s.smallestRoot with
  | none => none
  | some smallest =>
    if s.myNodeAddr ≤ smallest ∧ s.isRoot then none
    else match s.bestPeer peerCosts smallest with
      | none => none
      | some (bestPeerId, bestEffDepth) =>
        if s.myDeclaration.parentId = bestPeerId ∧ ¬ s.isRoot then none
        else if s.mandatorySwitch smallest then some bestPeerId
        else if s.betterByHysteresis peerCosts bestEffDepth now then some bestPeerId
        else none

/-- `handle_parent_lost`: an alternative parent if there is one, else this node becomes its own
root. The tree state always changes, so the `bool` of the source is constantly `true`. -/
def handleParentLost (s : TreeState Signature F) (peerCosts : Map NodeAddr F) (clock : Clock) :
    TreeState Signature F × Bool :=
  let newSeq := s.myDeclaration.sequence + 1
  match s.evaluateParent peerCosts clock.instant with
  | some newParent =>
    ((s.setParent newParent newSeq clock.unixSecs clock.instant).1.recomputeCoords, true)
  | none =>
    ({ s with myDeclaration := .selfRoot s.myNodeAddr newSeq clock.unixSecs }.recomputeCoords, true)

end Selection

/-! ## Frames -/

section Frames

variable (s : TreeState Signature F)

/-- A recorded switch only moves the flap counters. -/
theorem recordParentSwitch_eq (now : Nat) :
    ∃ count start dampened, (s.recordParentSwitch now).1 =
      { s with flapCount := count, flapWindowStart := start, flapDampeningUntil := dampened } := by
  unfold recordParentSwitch
  simp only
  split_ifs <;> exact ⟨_, _, _, rfl⟩

/-- `set_parent` replaces the declaration and the switch bookkeeping, nothing else. -/
theorem setParent_eq (p : NodeAddr) (seq ts now : Nat) :
    ∃ count start dampened, (s.setParent p seq ts now).1 =
      { s with
        myDeclaration := .new s.myNodeAddr p seq ts
        lastParentSwitch := some now
        flapCount := count
        flapWindowStart := start
        flapDampeningUntil := dampened } := by
  unfold setParent
  simp only
  split_ifs
  · obtain ⟨count, start, dampened, h⟩ := recordParentSwitch_eq
      { s with myDeclaration := .new s.myNodeAddr p seq ts, lastParentSwitch := some now } now
    exact ⟨count, start, dampened, h⟩
  · exact ⟨_, _, _, rfl⟩

@[simp] theorem setParent_myNodeAddr (p : NodeAddr) (seq ts now : Nat) :
    (s.setParent p seq ts now).1.myNodeAddr = s.myNodeAddr := by
  obtain ⟨_, _, _, h⟩ := s.setParent_eq p seq ts now
  rw [h]

/-- The new declaration is unsigned. -/
@[simp] theorem setParent_myDeclaration (p : NodeAddr) (seq ts now : Nat) :
    (s.setParent p seq ts now).1.myDeclaration = .new s.myNodeAddr p seq ts := by
  obtain ⟨_, _, _, h⟩ := s.setParent_eq p seq ts now
  rw [h]

/-- The coordinates wait for `recompute_coords`. -/
@[simp] theorem setParent_myCoords (p : NodeAddr) (seq ts now : Nat) :
    (s.setParent p seq ts now).1.myCoords = s.myCoords := by
  obtain ⟨_, _, _, h⟩ := s.setParent_eq p seq ts now
  rw [h]

/-- So does the root. -/
@[simp] theorem setParent_root (p : NodeAddr) (seq ts now : Nat) :
    (s.setParent p seq ts now).1.root = s.root := by
  obtain ⟨_, _, _, h⟩ := s.setParent_eq p seq ts now
  rw [h]

@[simp] theorem setParent_peerAncestry (p : NodeAddr) (seq ts now : Nat) :
    (s.setParent p seq ts now).1.peerAncestry = s.peerAncestry := by
  obtain ⟨_, _, _, h⟩ := s.setParent_eq p seq ts now
  rw [h]

@[simp] theorem setParent_peerDeclarations (p : NodeAddr) (seq ts now : Nat) :
    (s.setParent p seq ts now).1.peerDeclarations = s.peerDeclarations := by
  obtain ⟨_, _, _, h⟩ := s.setParent_eq p seq ts now
  rw [h]

/-- `recompute_coords` replaces coordinates and root, nothing else. -/
theorem recomputeCoords_eq :
    ∃ coords root, s.recomputeCoords = { s with myCoords := coords, root := root } := by
  unfold recomputeCoords
  split_ifs
  · exact ⟨_, _, rfl⟩
  · split
    · exact ⟨_, _, rfl⟩
    · exact ⟨s.myCoords, s.root, rfl⟩

@[simp] theorem recomputeCoords_myNodeAddr : s.recomputeCoords.myNodeAddr = s.myNodeAddr := by
  obtain ⟨_, _, h⟩ := s.recomputeCoords_eq
  rw [h]

@[simp] theorem recomputeCoords_myDeclaration :
    s.recomputeCoords.myDeclaration = s.myDeclaration := by
  obtain ⟨_, _, h⟩ := s.recomputeCoords_eq
  rw [h]

@[simp] theorem recomputeCoords_peerAncestry :
    s.recomputeCoords.peerAncestry = s.peerAncestry := by
  obtain ⟨_, _, h⟩ := s.recomputeCoords_eq
  rw [h]

@[simp] theorem recomputeCoords_peerDeclarations :
    s.recomputeCoords.peerDeclarations = s.peerDeclarations := by
  obtain ⟨_, _, h⟩ := s.recomputeCoords_eq
  rw [h]

end Frames

/-! ## Recording an announce -/

section UpdatePeer

variable {s : TreeState Signature F} {declaration : ParentDeclaration Signature}

/-- A fresh declaration is recorded with its ancestry. -/
theorem updatePeer_eq (h : s.accepts declaration) (ancestry : TreeCoordinate) :
    s.updatePeer declaration ancestry = ({ s with
      peerDeclarations := s.peerDeclarations.insert declaration.nodeAddr declaration
      peerAncestry := s.peerAncestry.insert declaration.nodeAddr ancestry }, true) := by
  unfold updatePeer
  rw [if_pos h]

/-- A stale declaration is not recorded. -/
theorem updatePeer_of_stale (h : ¬ s.accepts declaration) (ancestry : TreeCoordinate) :
    s.updatePeer declaration ancestry = (s, false) := by
  unfold updatePeer
  rw [if_neg h]

theorem updatePeer_myNodeAddr (s : TreeState Signature F)
    (declaration : ParentDeclaration Signature) (ancestry : TreeCoordinate) :
    (s.updatePeer declaration ancestry).1.myNodeAddr = s.myNodeAddr := by
  unfold updatePeer
  split_ifs <;> rfl

theorem updatePeer_myCoords (s : TreeState Signature F)
    (declaration : ParentDeclaration Signature) (ancestry : TreeCoordinate) :
    (s.updatePeer declaration ancestry).1.myCoords = s.myCoords := by
  unfold updatePeer
  split_ifs <;> rfl

theorem updatePeer_myDeclaration (s : TreeState Signature F)
    (declaration : ParentDeclaration Signature) (ancestry : TreeCoordinate) :
    (s.updatePeer declaration ancestry).1.myDeclaration = s.myDeclaration := by
  unfold updatePeer
  split_ifs <;> rfl

end UpdatePeer

/-! ## Coordinates after a recomputation -/

section Recompute

variable {s : TreeState Signature F}

/-- A root's coordinates are its own address. -/
theorem recomputeCoords_of_isRoot (h : s.myDeclaration.isRoot = true) :
    s.recomputeCoords = { s with
      myCoords := .rootWithMeta s.myNodeAddr s.myDeclaration.sequence s.myDeclaration.timestamp
      root := s.myNodeAddr } := by
  unfold recomputeCoords
  rw [if_pos h]

/-- Below a parent they extend the parent's. -/
theorem recomputeCoords_of_parent (h : s.myDeclaration.isRoot = false) {c : TreeCoordinate}
    (hc : s.peerAncestry.lookup s.myDeclaration.parentId = some c) :
    s.recomputeCoords = { s with
      myCoords := .extend
        ⟨s.myNodeAddr, s.myDeclaration.sequence, s.myDeclaration.timestamp⟩ c
      root := c.rootId } := by
  unfold recomputeCoords
  rw [if_neg (by simp [h]), hc]
  simp only [TreeCoordinate.rootId_extend]

end Recompute

/-! ## The smallest root -/

section SmallestRoot

theorem smallerRoot_round :
    Select.Round smallerRoot (fun e : Sigma fun _ : NodeAddr => TreeCoordinate =>
      some e.2.rootId) where
  skip acc a h := nomatch h
  take a b h := h
  contest a b b₀ h := by
    unfold smallerRoot
    obtain rfl := Option.some.inj h
    simp only
    split_ifs
    · exact .inr rfl
    · exact .inl rfl

/-- The first loop of `evaluate_parent` looks for the smallest root. -/
theorem smallerRoot_minimises :
    Select.Minimises smallerRoot (fun e : Sigma fun _ : NodeAddr => TreeCoordinate =>
      some e.2.rootId) id := by
  intro a b b₀ b₁ hb h
  obtain rfl := Option.some.inj hb
  obtain rfl := Option.some.inj h
  simp only [id]
  split_ifs with hlt
  · exact ⟨hlt.le, le_rfl⟩
  · exact ⟨le_rfl, not_lt.mp hlt⟩

variable {s : TreeState Signature F} {r : NodeAddr}

/-- The smallest root was announced by some peer. -/
theorem smallestRoot_eq_some (h : s.smallestRoot = some r) :
    ∃ p c, s.peerAncestry.lookup p = some c ∧ c.rootId = r := by
  obtain ⟨⟨p, c⟩, hmem, hr⟩ := Select.mem_of_foldl_eq_some smallerRoot_round _ h
  exact ⟨p, c, Map.mem_entries_iff.mp hmem, Option.some.inj hr⟩

/-- No peer announced a smaller one. -/
theorem smallestRoot_le (h : s.smallestRoot = some r) {p : NodeAddr} {c : TreeCoordinate}
    (hc : s.peerAncestry.lookup p = some c) : r ≤ c.rootId :=
  (Select.foldl_le smallerRoot_round smallerRoot_minimises _ h).2 ⟨p, c⟩
    (Map.mem_entries_iff.mpr hc) _ rfl

theorem exists_smallestRoot {p : NodeAddr} {c : TreeCoordinate}
    (hc : s.peerAncestry.lookup p = some c) : ∃ r, s.smallestRoot = some r := by
  rw [← Option.ne_none_iff_exists']
  intro h
  have hnone := (Select.foldl_eq_none_iff smallerRoot_round _).mp h
  exact nomatch hnone ⟨p, c⟩ (Map.mem_entries_iff.mpr hc)

end SmallestRoot

/-! ## The best candidate -/

section BestPeer

variable [LinkCost F]

/-- A peer that may become the parent: its ancestry reaches the smallest root, does not pass
through this node, and its cost counts. -/
structure Eligible (s : TreeState Signature F) (peerCosts : Map NodeAddr F) (smallest : NodeAddr)
    (p : NodeAddr) (c : TreeCoordinate) : Prop where
  recorded : s.peerAncestry.lookup p = some c
  reaches : c.rootId = smallest
  loopFree : s.myNodeAddr ∉ c.nodeAddrs
  measured : (candidateCost peerCosts p).isSome

variable {s : TreeState Signature F} {peerCosts : Map NodeAddr F} {smallest p : NodeAddr}

/-- A peer is a candidate when it is eligible. -/
theorem candidate_isSome_iff {c : TreeCoordinate} (hc : s.peerAncestry.lookup p = some c) :
    (s.candidate peerCosts smallest ⟨p, c⟩).isSome ↔ s.Eligible peerCosts smallest p c := by
  unfold candidate
  constructor
  · intro h
    split_ifs at h with hroot hloop
    · cases h
    · cases h
    · have hcost : (candidateCost peerCosts p).isSome := by
        cases hcost : candidateCost peerCosts p with
        | none => simp [hcost] at h
        | some cost => rfl
      exact ⟨hc, not_not.mp hroot, fun hmem => hloop (TreeCoordinate.contains_iff.mpr hmem), hcost⟩
  · rintro ⟨-, hroot, hloop, hcost⟩
    obtain ⟨cost, hcost⟩ := Option.isSome_iff_exists.mp hcost
    have hloop' : ¬ c.contains s.myNodeAddr = true := fun h =>
      hloop (TreeCoordinate.contains_iff.mp h)
    simp [hroot, hloop', hcost]

theorem candidate_fst {e : Sigma fun _ : NodeAddr => TreeCoordinate} {b : NodeAddr × F}
    (h : s.candidate peerCosts smallest e = some b) : b.1 = e.1 := by
  unfold candidate at h
  split_ifs at h
  cases hcost : candidateCost peerCosts e.1 with
  | none => simp [hcost] at h
  | some cost =>
    simp only [hcost, Option.some.injEq] at h
    rw [← h]

theorem betterPeer_round :
    Select.Round (s.betterPeer peerCosts smallest) (s.candidate peerCosts smallest) where
  skip acc a h := by
    unfold betterPeer
    rw [h]
  take a b h := by
    unfold betterPeer
    rw [h]
  contest a b b₀ h := by
    unfold betterPeer
    rw [h]
    simp only
    split_ifs
    · exact .inr rfl
    · exact .inl rfl

/-- The search comes back empty exactly when no peer is eligible. -/
theorem bestPeer_eq_none_iff :
    s.bestPeer peerCosts smallest = none ↔ ∀ p c, ¬ s.Eligible peerCosts smallest p c := by
  unfold bestPeer
  rw [Select.foldl_eq_none_iff betterPeer_round]
  constructor
  · intro h p c hel
    have hsome := (candidate_isSome_iff hel.recorded).mpr hel
    rw [h _ (Map.mem_entries_iff.mpr hel.recorded)] at hsome
    cases hsome
  · rintro h ⟨p, c⟩ hmem
    rw [← Option.not_isSome_iff_eq_none]
    exact fun hsome => h p c ((candidate_isSome_iff (Map.mem_entries_iff.mp hmem)).mp hsome)

/-- The best peer is eligible. -/
theorem of_bestPeer_eq_some {eff : F} (h : s.bestPeer peerCosts smallest = some (p, eff)) :
    ∃ c, s.Eligible peerCosts smallest p c := by
  obtain ⟨⟨p', c⟩, hmem, hval⟩ := Select.mem_of_foldl_eq_some betterPeer_round _ h
  obtain rfl : p = p' := candidate_fst hval
  refine ⟨c, (candidate_isSome_iff (Map.mem_entries_iff.mp hmem)).mp ?_⟩
  rw [hval]
  rfl

end BestPeer

/-! ## Recommended switches -/

section EvaluateParent

variable [LinkCost F]

variable {s : TreeState Signature F} {peerCosts : Map NodeAddr F} {now : Nat} {p : NodeAddr}

/-- Exactly when `evaluate_parent` recommends switching to `p`: `p` is the best candidate that
reaches the smallest root, this node is not a root that should stay one, `p` is not its parent
already, and the switch is mandatory or good enough. -/
def SwitchesTo (s : TreeState Signature F) (peerCosts : Map NodeAddr F) (now : Nat)
    (p : NodeAddr) : Prop :=
  ∃ smallest eff, s.smallestRoot = some smallest ∧
    s.bestPeer peerCosts smallest = some (p, eff) ∧
    ¬ (s.myNodeAddr ≤ smallest ∧ s.isRoot) ∧
    ¬ (s.myDeclaration.parentId = p ∧ ¬ s.isRoot) ∧
    (s.mandatorySwitch smallest ∨ s.betterByHysteresis peerCosts eff now)

/-- Some switch is recommended. -/
def Switches (s : TreeState Signature F) (peerCosts : Map NodeAddr F) (now : Nat) : Prop :=
  ∃ p, s.SwitchesTo peerCosts now p

/-- **When a switch is recommended.** -/
theorem evaluateParent_eq_some_iff :
    s.evaluateParent peerCosts now = some p ↔ s.SwitchesTo peerCosts now p := by
  unfold evaluateParent SwitchesTo
  cases hsr : s.smallestRoot with
  | none => simp
  | some smallest =>
    cases hbp : s.bestPeer peerCosts smallest with
    | none => simp [hbp]
    | some best =>
      obtain ⟨bestId, bestEff⟩ := best
      -- a candidate was found, so the early exit for an empty table is not taken
      obtain ⟨c, hel⟩ := of_bestPeer_eq_some hbp
      have hne : ¬ s.peerAncestry.isEmpty = true := by
        intro h
        have hnone := Map.isEmpty_iff.mp h bestId
        rw [hel.recorded] at hnone
        cases hnone
      simp only [if_neg hne, hbp]
      constructor
      · intro h
        split_ifs at h with hstay hsame hmand hhyst
        · obtain rfl := Option.some.inj h
          exact ⟨smallest, bestEff, rfl, hbp, hstay, hsame, .inl hmand⟩
        · obtain rfl := Option.some.inj h
          exact ⟨smallest, bestEff, rfl, hbp, hstay, hsame, .inr hhyst⟩
      · rintro ⟨smallest', eff, hsr', hbp', hstay, hsame, hsw⟩
        obtain rfl := Option.some.inj hsr'
        rw [hbp] at hbp'
        obtain ⟨rfl, rfl⟩ := Prod.mk.inj (Option.some.inj hbp')
        rw [if_neg hstay, if_neg hsame]
        split_ifs with hmand hhyst
        · rfl
        · rfl
        · exact absurd hsw (not_or.mpr ⟨hmand, hhyst⟩)

/-- No switch is recommended when there is none to make. -/
theorem evaluateParent_eq_none_iff :
    s.evaluateParent peerCosts now = none ↔ ¬ s.Switches peerCosts now := by
  simp only [Option.eq_none_iff_forall_ne_some, Switches, not_exists, ne_eq,
    evaluateParent_eq_some_iff]

/-- **What a switch says.** The new parent is eligible, this node is not a root that should stay
one, and the new parent is not the current one. -/
theorem SwitchesTo.eligible (h : s.SwitchesTo peerCosts now p) :
    ∃ smallest c, s.smallestRoot = some smallest ∧ s.Eligible peerCosts smallest p c ∧
      ¬ (s.myNodeAddr ≤ smallest ∧ s.isRoot) ∧ ¬ (s.myDeclaration.parentId = p ∧ ¬ s.isRoot) := by
  obtain ⟨smallest, eff, hsr, hbp, hstay, hsame, -⟩ := h
  obtain ⟨c, hel⟩ := of_bestPeer_eq_some hbp
  exact ⟨smallest, c, hsr, hel, hstay, hsame⟩

end EvaluateParent

/-! ## Position -/

section Position

/-- The coordinates and the root are those the parent's recorded ancestry gives. -/
inductive Anchored (s : TreeState Signature F) : Prop
  | self (parent : s.myDeclaration.parentId = s.myNodeAddr) (root : s.root = s.myNodeAddr)
      (coords : s.myCoords = .rootWithMeta s.myNodeAddr s.myDeclaration.sequence
        s.myDeclaration.timestamp)
  | child (c : TreeCoordinate) (parent : s.myDeclaration.parentId ≠ s.myNodeAddr)
      (recorded : s.peerAncestry.lookup s.myDeclaration.parentId = some c)
      (root : s.root = c.rootId)
      (coords : s.myCoords = .extend
        ⟨s.myNodeAddr, s.myDeclaration.sequence, s.myDeclaration.timestamp⟩ c)

variable {s s' : TreeState Signature F} {p : NodeAddr}

/-- `s'` is `s` after a new declaration with parent `p` and a recomputation of the coordinates:
the table of ancestries is the same, and if `p` is recorded there the position follows it. -/
structure Moved (s s' : TreeState Signature F) (p : NodeAddr) : Prop where
  myNodeAddr : s'.myNodeAddr = s.myNodeAddr
  peerAncestry : s'.peerAncestry = s.peerAncestry
  peerDeclarations : s'.peerDeclarations = s.peerDeclarations
  declarer : s'.myDeclaration.nodeAddr = s.myNodeAddr
  parentId : s'.myDeclaration.parentId = p
  anchored : p = s.myNodeAddr ∨ (∃ c, s.peerAncestry.lookup p = some c) → s'.Anchored

/-- The position `recompute_coords` leaves. -/
theorem recomputeCoords_anchored (hd : s.myDeclaration.nodeAddr = s.myNodeAddr)
    (hparent : s.myDeclaration.parentId = p)
    (hp : p = s.myNodeAddr ∨ ∃ c, s.peerAncestry.lookup p = some c) :
    s.recomputeCoords.Anchored := by
  subst hparent
  by_cases hself : s.myDeclaration.parentId = s.myNodeAddr
  · have hroot : s.myDeclaration.isRoot = true := by simp [ParentDeclaration.isRoot, hd, hself]
    rw [recomputeCoords_of_isRoot hroot]
    exact .self hself rfl rfl
  · have hroot : s.myDeclaration.isRoot = false := by
      simp only [ParentDeclaration.isRoot, hd, beq_eq_false_iff_ne]
      exact Ne.symm hself
    obtain ⟨c, hc⟩ := hp.resolve_left hself
    rw [recomputeCoords_of_parent hroot hc]
    exact .child c hself hc rfl rfl

/-- A table that keeps the parent's ancestry keeps the position. -/
theorem Anchored.of_lookup (h : s.Anchored) {ancestry : Map NodeAddr TreeCoordinate}
    {declarations : Map NodeAddr (ParentDeclaration Signature)}
    (hl : ancestry.lookup s.myDeclaration.parentId =
      s.peerAncestry.lookup s.myDeclaration.parentId) :
    { s with peerAncestry := ancestry, peerDeclarations := declarations }.Anchored := by
  cases h with
  | self parent root coords => exact .self parent root coords
  | child c parent recorded root coords =>
    exact .child c parent (hl.trans recorded) root coords

/-- Signing keeps the position. -/
theorem Anchored.signed (h : s.Anchored) (sig : Option Signature) :
    { s with myDeclaration := { s.myDeclaration with signature := sig } }.Anchored := by
  cases h with
  | self parent root coords => exact .self parent root coords
  | child c parent recorded root coords => exact .child c parent recorded root coords

/-- A node's own declaration can always be signed. -/
theorem signDeclaration_eq {SecretKey : Type} [SigningKey SecretKey Signature]
    (s : TreeState Signature F) (identity : Identity SecretKey)
    (h : identity.nodeAddr = s.myDeclaration.nodeAddr) :
    ∃ sig : Signature, s.signDeclaration identity =
      .ok { s with myDeclaration := { s.myDeclaration with signature := some sig } } := by
  refine ⟨SigningKey.sign identity.secretKey s.myDeclaration.signingBytes, ?_⟩
  unfold signDeclaration ParentDeclaration.sign
  rw [if_neg (not_not.mpr h)]

/-- Setting the parent, signing and recomputing: the order of the switch flow. -/
theorem Moved.of_setParent (sig : Option Signature) (seq ts now : Nat) :
    Moved s { (s.setParent p seq ts now).1 with
      myDeclaration := { (s.setParent p seq ts now).1.myDeclaration with
        signature := sig } }.recomputeCoords p := by
  refine ⟨by simp, by simp, by simp, by simp [ParentDeclaration.new],
    by simp [ParentDeclaration.new], fun hp => recomputeCoords_anchored (p := p) ?_ ?_ ?_⟩
  · simp [ParentDeclaration.new]
  · simp [ParentDeclaration.new]
  · simpa using hp

/-- A later signature on the new declaration. -/
theorem Moved.signed (h : Moved s s' p) (sig : Option Signature) :
    Moved s { s' with myDeclaration := { s'.myDeclaration with signature := sig } } p :=
  ⟨h.myNodeAddr, h.peerAncestry, h.peerDeclarations, h.declarer, h.parentId,
    fun hp => (h.anchored hp).signed sig⟩

/-- The position under a recorded parent. -/
theorem Moved.position (hm : Moved s s' p) (hne : p ≠ s.myNodeAddr) {c : TreeCoordinate}
    (hc : s.peerAncestry.lookup p = some c) :
    s'.root = c.rootId ∧ s'.myCoords.depth = c.depth + 1 ∧
      s'.myCoords.nodeAddrs = s.myNodeAddr :: c.nodeAddrs := by
  cases hm.anchored (.inr ⟨c, hc⟩) with
  | self parent _ _ =>
    rw [hm.parentId, hm.myNodeAddr] at parent
    exact absurd parent hne
  | child c' _ recorded root coords =>
    rw [hm.parentId, hm.peerAncestry, hc] at recorded
    obtain rfl := Option.some.inj recorded
    rw [root, coords, TreeCoordinate.depth_extend, TreeCoordinate.nodeAddrs_extend, hm.myNodeAddr]
    exact ⟨rfl, rfl, rfl⟩

variable [LinkCost F]

/-- **Losing the parent.** The node moves under an alternative if one is recommended, else it
becomes its own root. -/
theorem handleParentLost_moved (s : TreeState Signature F) (peerCosts : Map NodeAddr F)
    (clock : Clock) :
    (∃ p, s.SwitchesTo peerCosts clock.instant p ∧
      Moved s (s.handleParentLost peerCosts clock).1 p) ∨
    (¬ s.Switches peerCosts clock.instant ∧
      Moved s (s.handleParentLost peerCosts clock).1 s.myNodeAddr) := by
  unfold handleParentLost
  simp only
  cases he : s.evaluateParent peerCosts clock.instant with
  | some p =>
    refine .inl ⟨p, evaluateParent_eq_some_iff.mp he, ?_⟩
    exact Moved.of_setParent ((s.setParent p (s.myDeclaration.sequence + 1) clock.unixSecs
      clock.instant).1.myDeclaration.signature) _ _ _
  | none =>
    refine .inr ⟨evaluateParent_eq_none_iff.mp he, by simp, by simp, by simp, ?_, ?_, fun _ => ?_⟩
    · simp [ParentDeclaration.selfRoot, ParentDeclaration.new]
    · simp [ParentDeclaration.selfRoot, ParentDeclaration.new]
    · exact recomputeCoords_anchored rfl rfl (.inl rfl)

/-- The loss of a parent always changes the state. -/
theorem handleParentLost_changed (s : TreeState Signature F) (peerCosts : Map NodeAddr F)
    (clock : Clock) : (s.handleParentLost peerCosts clock).2 = true := by
  unfold handleParentLost
  simp only
  split <;> rfl

end Position

end TreeState

end Fips
