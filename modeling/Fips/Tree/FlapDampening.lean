import Fips.Tree.State

/-!
# Flap dampening

`TreeState::record_parent_switch` and `is_flap_dampened` (`tree/state.rs:266-294`) over whole runs
of a tree state: the calls that change it, in any order, with the switches that `set_parent`
(`:158-170`) records on the way. `Dampening` says what the detector is for: the switches counted in
windows, the switches at which dampening engages, and the times at which it is active.

Histories are listed newest first. Instants and durations are in one unit. The counter is a `u32`
like its threshold, so it cannot wrap before it first reaches it, and the code never reads it after
that.

## Results

* `Tracks.recordParentSwitch`: what the fields hold after one more switch. The deadline is the one
  of the *first* switch that reached the threshold, for `flap_dampening_until` is never cleared.
* `Dampening.engagements_eq`: the law engages once when every switch that reaches the threshold
  comes before the dampening of every earlier one has elapsed.
* `evaluateParent_of_dampened`: active dampening leaves only the mandatory switches.
* `dampens_iff`: the runs in which the detector obeys the law.
-/

namespace Fips

/-! ## The law -/

/-- The limits of a flap detector. -/
structure Dampening where
  threshold : Nat
  window : Nat
  duration : Nat

namespace Dampening

/-- A window and the switches counted in it. -/
structure Window where
  start : Nat
  count : Nat

variable (d : Dampening)

/-- The window in which the last switch of a history counts. A window starts at the first switch
after the previous one has elapsed. -/
def windowAfter : List Nat → Option Window
  | [] => none
  | now :: earlier =>
    match windowAfter earlier with
    | none => some ⟨now, 1⟩
    | some w => if now - w.start < d.window then some ⟨w.start, w.count + 1⟩ else some ⟨now, 1⟩

/-- The last switch brings the switches counted in its window to the threshold. -/
def reaches (h : List Nat) : Bool :=
  (d.windowAfter h).any fun w => decide (d.threshold ≤ w.count)

/-- The switches of a history that reach the threshold. -/
def reaching : List Nat → List Nat
  | [] => []
  | now :: earlier => if d.reaches (now :: earlier) then now :: reaching earlier else reaching earlier

/-- Dampening engaged at one of the times `es` is active at `t`. -/
def activeAt (es : List Nat) (t : Nat) : Bool :=
  es.any fun e => decide (e ≤ t) && decide (t < e + d.duration)

/-- The switches at which dampening engages: they reach the threshold while none is active. -/
def engagements : List Nat → List Nat
  | [] => []
  | now :: earlier =>
    if d.reaches (now :: earlier) && !d.activeAt (engagements earlier) now then
      now :: engagements earlier
    else engagements earlier

/-- Dampening is active at `t`, after the switches of a history. -/
def active (h : List Nat) (t : Nat) : Bool := d.activeAt (d.engagements h) t

/-- The first switch that reaches the threshold. -/
def first (h : List Nat) : Option Nat := (d.reaching h).getLast?

/-- A switch reaches the threshold only before the dampening of every earlier one that did has
elapsed. -/
def OneSpell (h : List Nat) : Prop :=
  (d.reaching h).Pairwise fun later earlier => later < earlier + d.duration

instance (h : List Nat) : Decidable (d.OneSpell h) := by
  unfold OneSpell
  infer_instance

variable {d} {h : List Nat} {now t : Nat}

theorem reaching_cons_of_reaches (hr : d.reaches (now :: h) = true) :
    d.reaching (now :: h) = now :: d.reaching h := by
  simp [reaching, hr]

theorem reaching_cons_of_not (hr : d.reaches (now :: h) = false) :
    d.reaching (now :: h) = d.reaching h := by
  simp [reaching, hr]

theorem reaching_sublist (h : List Nat) : (d.reaching h).Sublist h := by
  induction h with
  | nil => exact .slnil
  | cons now earlier ih =>
    unfold reaching
    split_ifs
    · exact ih.cons_cons now
    · exact ih.cons now

theorem mem_of_first (hf : d.first h = some now) : now ∈ d.reaching h :=
  List.mem_of_getLast? hf

theorem activeAt_singleton (hle : now ≤ t) :
    d.activeAt [now] t = true ↔ t < now + d.duration := by
  simp [activeAt, hle]

/-- Every switch that reached the threshold came at or after the first that did. -/
theorem first_le (hmono : h.Pairwise fun later earlier => earlier ≤ later) {e : Nat}
    (hf : d.first h = some now) (he : e ∈ d.reaching h) : now ≤ e := by
  have hsorted := hmono.sublist (reaching_sublist (d := d) h)
  obtain ⟨l, hl⟩ := List.getLast?_eq_some_iff.mp hf
  rw [hl] at he hsorted
  obtain he | he := List.mem_append.mp he
  · exact (List.pairwise_append.mp hsorted).2.2 e he now (List.mem_singleton_self now)
  · exact (List.mem_singleton.mp he).ge

theorem OneSpell.tail (hs : d.OneSpell (now :: h)) : d.OneSpell h := by
  unfold OneSpell reaching at hs
  split_ifs at hs
  · exact hs.of_cons
  · exact hs

/-- **One spell, one engagement.** -/
theorem engagements_eq (hmono : h.Pairwise fun later earlier => earlier ≤ later)
    (hs : d.OneSpell h) : d.engagements h = (d.first h).toList := by
  induction h with
  | nil => rfl
  | cons now earlier ih =>
    have ih := ih hmono.of_cons hs.tail
    unfold engagements
    rw [ih]
    cases hr : d.reaches (now :: earlier) with
    | false => simp [first, reaching_cons_of_not hr]
    | true =>
      unfold OneSpell at hs
      rw [reaching_cons_of_reaches hr] at hs
      cases hf : d.first earlier with
      | none =>
        have hnil : d.reaching earlier = [] := List.getLast?_eq_none_iff.mp hf
        simp [first, reaching_cons_of_reaches hr, hnil, activeAt]
      | some e =>
        have hmem := mem_of_first hf
        have hle : e ≤ now :=
          List.rel_of_pairwise_cons hmono ((reaching_sublist earlier).mem hmem)
        have hlt : now < e + d.duration := List.rel_of_pairwise_cons hs hmem
        have hactive := (activeAt_singleton hle).mpr hlt
        unfold first at hf ⊢
        simp [reaching_cons_of_reaches hr, hactive, List.getLast?_cons, hf]

theorem reaching_suffix {h h' : List Nat} (hs : h' <:+ h) : d.reaching h' <:+ d.reaching h := by
  obtain ⟨l, rfl⟩ := hs
  induction l with
  | nil => exact List.suffix_rfl
  | cons now l ih =>
    rw [List.cons_append, reaching]
    split_ifs
    · exact ih.trans (List.suffix_cons now _)
    · exact ih

/-- The first switch to reach the threshold stays the first. -/
theorem first_of_suffix {h h' : List Nat} (hs : h' <:+ h) {e : Nat} (hf : d.first h' = some e) :
    d.first h = some e := by
  obtain ⟨l, hl⟩ := reaching_suffix (d := d) hs
  unfold first at hf ⊢
  rw [← hl, List.getLast?_append, hf, Option.some_or]

/-- Dampening of one spell, or of no duration, is that of the first switch to reach the
threshold. -/
theorem active_iff (hmono : h.Pairwise fun later earlier => earlier ≤ later)
    (hs : d.duration = 0 ∨ d.OneSpell h) (ht : ∀ e ∈ h, e ≤ t) :
    d.active h t = true ↔ ∃ e, d.first h = some e ∧ t < e + d.duration := by
  have hfirst : ∀ e, d.first h = some e → e ≤ t := fun e hf =>
    ht e ((reaching_sublist h).mem (mem_of_first hf))
  obtain h0 | hs := hs
  · constructor
    · intro ha
      simp only [active, activeAt, h0, List.any_eq_true, Bool.and_eq_true, decide_eq_true_eq] at ha
      obtain ⟨e, -, hle, hlt⟩ := ha
      omega
    · rintro ⟨e, hf, hlt⟩
      have hle := hfirst e hf
      omega
  · rw [active, engagements_eq hmono hs]
    cases hf : d.first h with
    | none => simp [activeAt]
    | some e =>
      rw [Option.toList_some, activeAt_singleton (hfirst e hf)]
      simp

/-- A second spell shows at once: the law engages at the switch that starts it. -/
theorem OneSpell.cons (hmono : (now :: h).Pairwise fun later earlier => earlier ≤ later)
    (h0 : d.duration ≠ 0) (hs : d.OneSpell h)
    (hlaw : d.active (now :: h) now = true →
      ∃ e, d.first (now :: h) = some e ∧ now < e + d.duration) : d.OneSpell (now :: h) := by
  cases hr : d.reaches (now :: h) with
  | false =>
    unfold OneSpell
    rw [reaching_cons_of_not hr]
    exact hs
  | true =>
    unfold OneSpell
    rw [reaching_cons_of_reaches hr]
    refine List.pairwise_cons.mpr ⟨fun a ha => ?_, hs⟩
    obtain ⟨e, hf⟩ : ∃ e, d.first h = some e :=
      ⟨_, List.getLast?_eq_some_getLast (List.ne_nil_of_mem ha)⟩
    have hea : e ≤ a := first_le hmono.of_cons hf ha
    have hle : e ≤ now :=
      List.rel_of_pairwise_cons hmono ((reaching_sublist h).mem (mem_of_first hf))
    by_contra hgap
    -- the first dampening has elapsed, so the law engages again at `now`
    have hover : d.activeAt [e] now = false := by
      rw [← Bool.not_eq_true, activeAt_singleton hle]
      omega
    have hengaged : d.engagements (now :: h) = now :: [e] := by
      rw [engagements, engagements_eq hmono.of_cons hs, hf]
      simp [hr, hover]
    have hactive : d.active (now :: h) now = true := by
      rw [active, hengaged]
      simp [activeAt, Nat.pos_of_ne_zero h0]
    obtain ⟨e', hf', hlt⟩ := hlaw hactive
    rw [first_of_suffix (List.suffix_cons now h) hf] at hf'
    obtain rfl := Option.some.inj hf'
    omega

end Dampening

/-! ## Runs -/

/-- The calls that change a tree state after its construction. -/
inductive TreeCall (SecretKey Signature F : Type)
  | updatePeer (declaration : ParentDeclaration Signature) (ancestry : TreeCoordinate)
  | removePeer (peerId : NodeAddr)
  | setParent (parentId : NodeAddr) (sequence timestamp now : Nat)
  | recomputeCoords
  | handleParentLost (peerCosts : Map NodeAddr F) (clock : Clock)
  | signDeclaration (identity : Identity SecretKey)

namespace TreeState

variable {SecretKey Signature F : Type}

/-- The limits set by `set_flap_dampening`. -/
def dampening (s : TreeState Signature F) : Dampening where
  threshold := s.flapThreshold
  window := s.flapWindow
  duration := s.flapDampeningDuration

/-- `set_parent` records a switch only when the parent actually changes. -/
def changesParent (s : TreeState Signature F) (parentId : NodeAddr) : Bool :=
  s.isRoot || s.myDeclaration.parentId != parentId

/-- `record_parent_switch` computes a deadline past the last representable instant, which stops
the program. It returns `true` exactly where it computes one. -/
def Overflows (maxInstant : Nat) (s : TreeState Signature F) (now : Nat) : Prop :=
  (s.recordParentSwitch now).2 = true ∧ maxInstant < now + s.flapDampeningDuration

section Calls

variable [LinkCost F] [SigningKey SecretKey Signature]

/-- The state after a call. -/
def call (s : TreeState Signature F) : TreeCall SecretKey Signature F → TreeState Signature F
  | .updatePeer declaration ancestry => (s.updatePeer declaration ancestry).1
  | .removePeer peerId => s.removePeer peerId
  | .setParent parentId sequence timestamp now => (s.setParent parentId sequence timestamp now).1
  | .recomputeCoords => s.recomputeCoords
  | .handleParentLost peerCosts clock => (s.handleParentLost peerCosts clock).1
  | .signDeclaration identity => (s.signDeclaration identity).toOption.getD s

/-- When a call records a switch. -/
def switchAt (s : TreeState Signature F) : TreeCall SecretKey Signature F → Option Nat
  | .setParent parentId _ _ now => if s.changesParent parentId then some now else none
  | .handleParentLost peerCosts clock =>
    if (s.evaluateParent peerCosts clock.instant).any s.changesParent then some clock.instant
    else none
  | _ => none

/-- The state after a run. -/
def after (s : TreeState Signature F) : List (TreeCall SecretKey Signature F) → TreeState Signature F
  | [] => s
  | c :: earlier => (s.after earlier).call c

/-- The switches recorded in a run. -/
def switches (s : TreeState Signature F) : List (TreeCall SecretKey Signature F) → List Nat
  | [] => []
  | c :: earlier => ((s.after earlier).switchAt c).toList ++ s.switches earlier

/-- **The law of flap dampening** along a run: no deadline is out of range, dampening is active
when the switches so far say so, and while it is, a node that has its parent's ancestry and sees no
smaller root is given no other parent. -/
structure Dampens (maxInstant : Nat) (s : TreeState Signature F)
    (calls : List (TreeCall SecretKey Signature F)) : Prop where
  inRange : ∀ c earlier, c :: earlier <:+ calls → ∀ now ∈ (s.after earlier).switchAt c,
    ¬ (s.after earlier).Overflows maxInstant now
  active : ∀ earlier, earlier <:+ calls → ∀ t, (∀ e ∈ s.switches earlier, e ≤ t) →
    (s.after earlier).isFlapDampened t = s.dampening.active (s.switches earlier) t
  suppresses : ∀ earlier, earlier <:+ calls → ∀ t, (∀ e ∈ s.switches earlier, e ≤ t) →
    s.dampening.active (s.switches earlier) t = true →
    (s.after earlier).myDeclaration.parentId ∈ (s.after earlier).peerAncestry →
    (∀ p c, (s.after earlier).peerAncestry.lookup p = some c →
      (s.after earlier).root ≤ c.rootId) →
    ∀ peerCosts, (s.after earlier).evaluateParent peerCosts t = none

end Calls

/-! ## What active dampening suppresses -/

theorem evaluateParent_of_dampened [LinkCost F] {s : TreeState Signature F} {t : Nat}
    (hd : s.isFlapDampened t = true) (hparent : s.myDeclaration.parentId ∈ s.peerAncestry)
    (hroot : ∀ p c, s.peerAncestry.lookup p = some c → s.root ≤ c.rootId)
    (peerCosts : Map NodeAddr F) : s.evaluateParent peerCosts t = none := by
  rw [evaluateParent_eq_none_iff]
  rintro ⟨p, smallest, eff, hsr, -, hstay, -, hsw⟩
  obtain ⟨q, c, hc, rfl⟩ := smallestRoot_eq_some hsr
  have hle : ¬ c.rootId < s.root := not_lt.mpr (hroot q c hc)
  have hnotRoot : s.isRoot = false := by
    rw [← Bool.not_eq_true]
    intro hr
    have hme : s.root = s.myNodeAddr := by simpa [isRoot] using hr
    exact hstay ⟨hme ▸ hroot q c hc, hr⟩
  obtain hm | hb := hsw
  · simp [mandatorySwitch, hnotRoot, hparent, hle] at hm
  · simp [betterByHysteresis, hd] at hb

/-! ## What the fields hold -/

/-- The fields after the switches of a history: its window, and the deadline of the first switch
that reached the threshold. -/
structure Tracks (d : Dampening) (s : TreeState Signature F) (h : List Nat) : Prop where
  limits : s.dampening = d
  start : s.flapWindowStart = (d.windowAfter h).map Dampening.Window.start
  count : ∀ w, d.windowAfter h = some w → s.flapCount = w.count
  deadline : s.flapDampeningUntil = (d.first h).map (· + d.duration)

section Tracks

variable {d : Dampening} {s : TreeState Signature F} {h : List Nat} {now t : Nat}

theorem Tracks.isFlapDampened_iff (ht : Tracks d s h) :
    s.isFlapDampened t = true ↔ ∃ e, d.first h = some e ∧ t < e + d.duration := by
  unfold isFlapDampened
  rw [ht.deadline]
  cases d.first h <;> simp

/-- The window the law counts a switch in is the one the code counts it in. -/
theorem Tracks.recordParentSwitch_eq (ht : Tracks d s h) (now : Nat) :
    ∃ w, d.windowAfter (now :: h) = some w ∧
      s.recordParentSwitch now =
        if s.flapThreshold ≤ w.count ∧ s.flapDampeningUntil = none then
          ({ s with
            flapWindowStart := some w.start
            flapCount := w.count
            flapDampeningUntil := some (now + s.flapDampeningDuration) }, true)
        else ({ s with flapWindowStart := some w.start, flapCount := w.count }, false) := by
  have hstart := ht.start
  have hwindow : s.flapWindow = d.window := congrArg Dampening.window ht.limits
  unfold TreeState.recordParentSwitch Dampening.windowAfter
  cases hw : d.windowAfter h with
  | none =>
    rw [hw, Option.map_none] at hstart
    exact ⟨⟨now, 1⟩, rfl, by simp [hstart]⟩
  | some w =>
    rw [hw, Option.map_some] at hstart
    have hcount := ht.count w hw
    by_cases hrun : now - w.start < d.window
    · refine ⟨⟨w.start, w.count + 1⟩, by simp [hrun], ?_⟩
      simp [hstart, hwindow, hrun, hcount]
    · refine ⟨⟨now, 1⟩, by simp [hrun], ?_⟩
      simp [hstart, hwindow, hrun]

/-- **One more switch.** It is reported as an engagement when it is the first to reach the
threshold. -/
theorem Tracks.recordParentSwitch (ht : Tracks d s h) (now : Nat) :
    Tracks d (s.recordParentSwitch now).1 (now :: h) ∧
      ((s.recordParentSwitch now).2 = true ↔
        d.reaches (now :: h) = true ∧ d.first h = none) := by
  obtain ⟨w, hw, heq⟩ := ht.recordParentSwitch_eq now
  have hthreshold : s.flapThreshold = d.threshold := congrArg Dampening.threshold ht.limits
  have hduration : s.flapDampeningDuration = d.duration := congrArg Dampening.duration ht.limits
  have hreaches : d.reaches (now :: h) = decide (s.flapThreshold ≤ w.count) := by
    rw [Dampening.reaches, hw, hthreshold]
    rfl
  have hnone : s.flapDampeningUntil = none ↔ d.first h = none := by
    rw [ht.deadline, Option.map_eq_none_iff]
  have hcount : ∀ w', d.windowAfter (now :: h) = some w' → w.count = w'.count := by
    intro w' hw'
    rw [hw] at hw'
    rw [Option.some.inj hw']
  by_cases hthr : s.flapThreshold ≤ w.count
  · have hr : d.reaches (now :: h) = true := by rw [hreaches, decide_eq_true hthr]
    cases hf : d.first h with
    | none =>
      have hnil : d.reaching h = [] := List.getLast?_eq_none_iff.mp hf
      rw [heq, if_pos ⟨hthr, hnone.mpr hf⟩]
      refine ⟨⟨ht.limits, by rw [hw]; rfl, hcount, ?_⟩, by simp [hr]⟩
      simp [Dampening.first, Dampening.reaching_cons_of_reaches hr, hnil, hduration]
    | some e =>
      rw [heq, if_neg fun hn => by simp [hnone.mp hn.2] at hf]
      refine ⟨⟨ht.limits, by rw [hw]; rfl, hcount, ?_⟩, by simp⟩
      unfold Dampening.first at hf
      simp [ht.deadline, Dampening.first, Dampening.reaching_cons_of_reaches hr,
        List.getLast?_cons, hf]
  · have hr : d.reaches (now :: h) = false := by rw [hreaches, decide_eq_false hthr]
    rw [heq, if_neg fun hn => hthr hn.1]
    refine ⟨⟨ht.limits, by rw [hw]; rfl, hcount, ?_⟩, by simp [hr]⟩
    rw [Dampening.first, Dampening.reaching_cons_of_not hr]
    exact ht.deadline

theorem Tracks.setParent (ht : Tracks d s h) (p : NodeAddr) (seq ts now : Nat) :
    Tracks d (s.setParent p seq ts now).1
      ((if s.changesParent p then some now else none).toList ++ h) := by
  have hset : Tracks d { s with
      myDeclaration := .new s.myNodeAddr p seq ts
      lastParentSwitch := some now } h := ⟨ht.limits, ht.start, ht.count, ht.deadline⟩
  unfold TreeState.setParent changesParent
  simp only
  split_ifs
  · exact (hset.recordParentSwitch now).1
  · exact hset

theorem Tracks.recomputeCoords (ht : Tracks d s h) : Tracks d s.recomputeCoords h := by
  obtain ⟨coords, root, heq⟩ := s.recomputeCoords_eq
  rw [heq]
  exact ⟨ht.limits, ht.start, ht.count, ht.deadline⟩

variable [LinkCost F] [SigningKey SecretKey Signature]

/-- Every call leaves the fields of the switches recorded so far. -/
theorem Tracks.call (ht : Tracks d s h) (c : TreeCall SecretKey Signature F) :
    Tracks d (s.call c) ((s.switchAt c).toList ++ h) := by
  cases c with
  | updatePeer declaration ancestry =>
    unfold TreeState.call updatePeer
    simp only
    split_ifs
    · exact ⟨ht.limits, ht.start, ht.count, ht.deadline⟩
    · exact ht
  | removePeer peerId => exact ⟨ht.limits, ht.start, ht.count, ht.deadline⟩
  | setParent parentId sequence timestamp now => exact ht.setParent parentId sequence timestamp now
  | recomputeCoords => exact ht.recomputeCoords
  | handleParentLost peerCosts clock =>
    simp only [TreeState.call, handleParentLost, switchAt]
    cases s.evaluateParent peerCosts clock.instant with
    | none =>
      have hself : Tracks d { s with
          myDeclaration := .selfRoot s.myNodeAddr (s.myDeclaration.sequence + 1) clock.unixSecs } h :=
        ⟨ht.limits, ht.start, ht.count, ht.deadline⟩
      exact hself.recomputeCoords
    | some p =>
      have hset := ht.setParent p (s.myDeclaration.sequence + 1) clock.unixSecs clock.instant
      exact hset.recomputeCoords
  | signDeclaration identity =>
    simp only [TreeState.call, TreeState.signDeclaration]
    cases s.myDeclaration.sign identity with
    | ok declaration => exact ⟨ht.limits, ht.start, ht.count, ht.deadline⟩
    | error e => exact ht

theorem Tracks.after (ht : Tracks d s []) (calls : List (TreeCall SecretKey Signature F)) :
    Tracks d (s.after calls) (s.switches calls) := by
  induction calls with
  | nil => exact ht
  | cons c earlier ih => exact ih.call c

end Tracks

/-! ## The runs that obey the law -/

section Law

variable [LinkCost F] [SigningKey SecretKey Signature]

variable {maxInstant : Nat} {s : TreeState Signature F} {c : TreeCall SecretKey Signature F}
  {calls earlier : List (TreeCall SecretKey Signature F)}

theorem switches_suffix (hs : earlier <:+ calls) : s.switches earlier <:+ s.switches calls := by
  obtain ⟨l, rfl⟩ := hs
  induction l with
  | nil => exact List.suffix_rfl
  | cons c l ih => exact ih.trans (List.suffix_append _ _)

theorem Dampens.tail (hd : Dampens maxInstant s (c :: calls)) : Dampens maxInstant s calls where
  inRange c' earlier he := hd.inRange c' earlier (he.trans (List.suffix_cons c calls))
  active earlier he := hd.active earlier (he.trans (List.suffix_cons c calls))
  suppresses earlier he := hd.suppresses earlier (he.trans (List.suffix_cons c calls))

/-- Exactly the first switch to reach the threshold can overflow. -/
theorem overflows_iff (ht : Tracks s.dampening s []) {now : Nat} :
    (s.after earlier).Overflows maxInstant now ↔
      (s.dampening.reaches (now :: s.switches earlier) = true ∧
        s.dampening.first (s.switches earlier) = none) ∧
      maxInstant < now + s.dampening.duration := by
  have hcur := ht.after earlier
  have hduration : (s.after earlier).flapDampeningDuration = s.dampening.duration :=
    congrArg Dampening.duration hcur.limits
  rw [Overflows, (hcur.recordParentSwitch now).2, hduration]

theorem Dampens.first_le (ht : Tracks s.dampening s []) (hd : Dampens maxInstant s calls) {e : Nat}
    (hf : s.dampening.first (s.switches calls) = some e) :
    e + s.dampening.duration ≤ maxInstant := by
  induction calls with
  | nil => cases hf
  | cons c earlier ih =>
    have ih := ih hd.tail
    cases hsw : (s.after earlier).switchAt c with
    | none =>
      rw [switches, hsw] at hf
      exact ih hf
    | some now =>
      rw [switches, hsw] at hf
      have hrange := hd.inRange c earlier List.suffix_rfl now (by simp [hsw])
      rw [overflows_iff ht] at hrange
      cases hfe : s.dampening.first (s.switches earlier) with
      | some e' =>
        have hsame := Dampening.first_of_suffix (List.suffix_cons now _) hfe
        exact ih (hfe.trans (hsame.symm.trans hf))
      | none =>
        cases hr : s.dampening.reaches (now :: s.switches earlier) with
        | false =>
          rw [Option.toList_some, List.singleton_append, Dampening.first,
            Dampening.reaching_cons_of_not hr] at hf
          exact absurd (hfe.symm.trans hf) (by simp)
        | true =>
          have hnil : s.dampening.reaching (s.switches earlier) = [] :=
            List.getLast?_eq_none_iff.mp hfe
          rw [Option.toList_some, List.singleton_append, Dampening.first,
            Dampening.reaching_cons_of_reaches hr, hnil] at hf
          obtain rfl := Option.some.inj hf
          exact not_lt.mp fun hlt => hrange ⟨⟨hr, hfe⟩, hlt⟩

theorem Dampens.oneSpell (ht : Tracks s.dampening s []) (hd : Dampens maxInstant s calls)
    (hmono : (s.switches calls).Pairwise fun later earlier => earlier ≤ later)
    (h0 : s.dampening.duration ≠ 0) : s.dampening.OneSpell (s.switches calls) := by
  induction calls with
  | nil => exact .nil
  | cons c earlier ih =>
    cases hsw : (s.after earlier).switchAt c with
    | none =>
      rw [switches, hsw] at hmono ⊢
      exact ih hd.tail hmono
    | some now =>
      have hcur := ht.after (c :: earlier)
      have hlaw := hd.active (c :: earlier) List.suffix_rfl now
      rw [switches, hsw, Option.toList_some, List.singleton_append] at hmono hcur hlaw ⊢
      refine .cons hmono h0 (ih hd.tail hmono.of_cons) fun hactive => ?_
      have hle : ∀ e ∈ now :: s.switches earlier, e ≤ now :=
        List.forall_mem_cons.mpr ⟨le_rfl, fun e he => List.rel_of_pairwise_cons hmono he⟩
      exact hcur.isFlapDampened_iff.mp ((hlaw hle).trans hactive)

/-- The runs in which the detector obeys the law, from any state that has recorded no switch. -/
theorem dampens_iff (ht : Tracks s.dampening s [])
    (hmono : (s.switches calls).Pairwise fun later earlier => earlier ≤ later) :
    Dampens maxInstant s calls ↔
      (∀ e, s.dampening.first (s.switches calls) = some e →
        e + s.dampening.duration ≤ maxInstant) ∧
      (s.dampening.duration = 0 ∨ s.dampening.OneSpell (s.switches calls)) := by
  constructor
  · intro hd
    refine ⟨fun e hf => hd.first_le ht hf, ?_⟩
    by_cases h0 : s.dampening.duration = 0
    · exact .inl h0
    · exact .inr (hd.oneSpell ht hmono h0)
  · rintro ⟨hrange, hspell⟩
    have hactive : ∀ earlier, earlier <:+ calls → ∀ t, (∀ e ∈ s.switches earlier, e ≤ t) →
        (s.after earlier).isFlapDampened t = s.dampening.active (s.switches earlier) t := by
      intro earlier he t hle
      have hsuffix := switches_suffix (s := s) he
      have hspell' := hspell.imp_right fun h =>
        h.sublist (Dampening.reaching_suffix hsuffix).sublist
      rw [Bool.eq_iff_iff, (ht.after earlier).isFlapDampened_iff,
        Dampening.active_iff (hmono.sublist hsuffix.sublist) hspell' hle]
    refine ⟨fun c earlier he now hnow hover => ?_, hactive, fun earlier he t hle hact hp hr => ?_⟩
    · obtain ⟨⟨hreaches, hnone⟩, hlt⟩ := (overflows_iff ht).mp hover
      have hnil : s.dampening.reaching (s.switches earlier) = [] :=
        List.getLast?_eq_none_iff.mp hnone
      have hfirst : s.dampening.first (s.switches (c :: earlier)) = some now := by
        rw [switches, Option.mem_def.mp hnow, Option.toList_some, List.singleton_append,
          Dampening.first, Dampening.reaching_cons_of_reaches hreaches, hnil]
        rfl
      exact absurd (hrange now (Dampening.first_of_suffix (switches_suffix he) hfirst))
        (not_le.mpr hlt)
    · exact evaluateParent_of_dampened ((hactive earlier he t hle).trans hact) hp hr

end Law

/-- A node's tree state as `Node::new` configures it (`node/mod.rs:520-527`). -/
def configured [LinkCost F] (myNodeAddr : NodeAddr) (timestamp : Nat) (hysteresis : F)
    (holdDownSecs threshold windowSecs dampeningSecs : Nat) : TreeState Signature F :=
  (((TreeState.new myNodeAddr timestamp).setParentHysteresis hysteresis).setHoldDown
    holdDownSecs).setFlapDampening threshold windowSecs dampeningSecs

/-- **When flap dampening obeys its law.** In a run of a newly configured node: exactly when the
first switch to reach the threshold has a representable deadline, and no switch reaches the
threshold once the dampening of an earlier one that did has elapsed. -/
theorem configured_dampens_iff [LinkCost F] [SigningKey SecretKey Signature]
    (myNodeAddr : NodeAddr) (timestamp : Nat) (hysteresis : F)
    (holdDownSecs threshold windowSecs dampeningSecs maxInstant : Nat)
    (calls : List (TreeCall SecretKey Signature F)) (s : TreeState Signature F)
    (hs : s = configured myNodeAddr timestamp hysteresis holdDownSecs threshold windowSecs
      dampeningSecs)
    (hmono : (s.switches calls).Pairwise fun later earlier => earlier ≤ later) :
    Dampens maxInstant s calls ↔
      (∀ e, (⟨threshold, windowSecs, dampeningSecs⟩ : Dampening).first (s.switches calls) = some e →
        e + dampeningSecs ≤ maxInstant) ∧
      (dampeningSecs = 0 ∨
        (⟨threshold, windowSecs, dampeningSecs⟩ : Dampening).OneSpell (s.switches calls)) := by
  subst hs
  exact dampens_iff ⟨rfl, rfl, nofun, rfl⟩ hmono

end TreeState

/-! ## A second spell -/

namespace FlapSample

instance : LinkCost Nat := ⟨id, 1000000, (· + ·), (· - ·), (· * ·), fun a b => decide (a < b), (· == ·)⟩

/-- Signatures are not read here. -/
instance : SigningKey Unit Nat := ⟨fun _ _ => 0⟩

/-- Node 5 with the default limits: 4 switches in 60 seconds dampen for 120 seconds. -/
def start : TreeState Nat Nat := .configured 5 0 0 0 4 60 120

/-- Parents 7 and 8 take turns, four times at once and four times three minutes later. -/
def twoSpells : List (TreeCall Unit Nat Nat) :=
  [.setParent 8 9 0 203, .setParent 7 8 0 202, .setParent 8 7 0 201, .setParent 7 6 0 200,
    .setParent 8 5 0 3, .setParent 7 4 0 2, .setParent 8 3 0 1, .setParent 7 2 0 0]

/-- The second spell of flapping is not dampened. -/
theorem second_spell_not_dampened :
    start.switches twoSpells = [203, 202, 201, 200, 3, 2, 1, 0] ∧
      start.dampening.active (start.switches twoSpells) 203 = true ∧
      (start.after twoSpells).isFlapDampened 203 = false ∧
      ¬ TreeState.Dampens (2 ^ 63 - 1) start twoSpells := by
  have hactive : start.dampening.active (start.switches twoSpells) 203 = true := by decide
  have hcode : (start.after twoSpells).isFlapDampened 203 = false := by decide
  refine ⟨by decide, hactive, hcode, fun h => ?_⟩
  have hlaw := h.active twoSpells List.suffix_rfl 203 (by decide)
  rw [hactive, hcode] at hlaw
  cases hlaw

/-- The first spell is. -/
theorem first_spell_dampened :
    TreeState.Dampens (2 ^ 63 - 1) start (twoSpells.drop 4) :=
  (TreeState.configured_dampens_iff 5 0 0 0 4 60 120 (2 ^ 63 - 1) (twoSpells.drop 4) start rfl
    (by decide)).mpr ⟨by decide, .inr (by decide)⟩

end FlapSample

end Fips
