import Mathlib.Data.List.Dedup
import Fips.Lib.Run
import Fips.Node.DiscoveryPacing
import Fips.Node.LookupSends
import Fips.Node.Sample
import Fips.Wire.Codec

/-!
# Runs of a node that paces its lookups

Any requests and responses arrive, lookups are started and time out, the topology changes, and the
rest of the node does what it likes in between. The monotonic clock does not run backwards.

## Results

* `passed_handleLookupRequest`: a request that is passed on was let through by the limiter.
* `forwarded_spaced`: the requests passed on for one target are apart.
* `backed_nodeStep`: what the backoff holds is what the failures so far make of it.
* `lookups_back_off`: every lookup of the node's own keeps the pauses.
-/

open Checked EventRun

namespace Fips

namespace PacedNode

variable {SecretKey PublicKey ν μ : Type} {ε α : Type}

/-! ## Requests passed on -/

/-- The targets of the lookup requests among these effects. -/
def requestTargets (effects : List (Effect PublicKey)) : List NodeAddr :=
  effects.filterMap fun
    | .sentLinkMessage _ message _ =>
      if message.head? = some 0x30 then
        match LookupRequest.decode message.tail with
        | .ok request => some request.target
        | .error _ => none
      else none
    | _ => none

/-- A lookup request that is sent is for a target in `P`. -/
def For (P : NodeAddr → Prop) (e : Effect PublicKey) : Prop := ∀ a ∈ requestTargets [e], P a

/-- The targets of the requests among some effects. -/
theorem of_mem_requestTargets {P : NodeAddr → Prop} {effects : List (Effect PublicKey)}
    (h : ∀ e ∈ effects, For P e) : ∀ a ∈ requestTargets effects, P a := by
  intro a ha
  obtain ⟨e, he, hae⟩ := List.mem_filterMap.mp ha
  exact h e he a (List.mem_filterMap.mpr ⟨e, List.mem_singleton_self e, hae⟩)

/-- The target of a request is the same after a round trip. -/
theorem LookupRequest.target_of_encode {r r' : LookupRequest}
    (h : LookupRequest.decode r.encode.tail = .ok r') : r'.target = r.target := by
  have hread : (addrAt r.encode.tail 8 : Result ProtocolError NodeAddr) = .ok r.target := by
    have hsplit : r.encode.tail = leBytes 8 r.requestId ++ (r.target.bytes ++ (r.origin.bytes ++
        [r.ttl] ++ leBytes 2 r.minMtu ++ encodeCoords r.originCoords)) := by
      simp [LookupRequest.encode]
    rw [hsplit]
    exact addrAt_append _ (length_leBytes 8 r.requestId)
  unfold LookupRequest.decode at h
  simp only [bind_eq_ok] at h
  obtain ⟨_, -, _, -, target, htarget, h⟩ := h
  obtain ⟨_, -, _, -, _, -, _, -, _, -, h⟩ := h
  cases h
  exact Except.ok.inj (htarget.symm.trans hread)

/-- A request that goes out is for its target. -/
theorem for_request {P : NodeAddr → Prop} {r : LookupRequest} (h : P r.target) (nextHop : NodeAddr) :
    For P (.sentLinkMessage nextHop r.encode false : Effect PublicKey) := by
  intro a ha
  obtain ⟨e, he, hae⟩ := List.mem_filterMap.mp ha
  obtain rfl := List.mem_singleton.mp he
  have hhead : r.encode.head? = some 0x30 := rfl
  dsimp only at hae
  rw [if_pos hhead] at hae
  cases hdecode : LookupRequest.decode r.encode.tail with
  | ok r' =>
    rw [hdecode] at hae
    cases hae
    rwa [LookupRequest.target_of_encode hdecode]
  | error e =>
    rw [hdecode] at hae
    cases hae

/-- A response is no request. -/
theorem for_response {Signature : Type} [SchnorrEncoding Signature] (P : NodeAddr → Prop)
    (nextHop : NodeAddr) (r : LookupResponse Signature) :
    For P (.sentLinkMessage nextHop r.encode false : Effect PublicKey) := by
  intro a ha
  obtain ⟨e, he, hae⟩ := List.mem_filterMap.mp ha
  obtain rfl := List.mem_singleton.mp he
  have hhead : ¬r.encode.head? = some 0x30 := by simp [LookupResponse.encode]
  dsimp only at hae
  rw [if_neg hhead] at hae
  cases hae

section Request

variable (env : LookupEnv SecretKey PublicKey) {P : NodeAddr → Prop}
  {base : Node SecretKey PublicKey ν μ}

/-- One message to each of these peers. -/
theorem keeps_sendToPeers {message : Bytes}
    (h : ∀ nextHop, For P (.sentLinkMessage nextHop message false : Effect PublicKey))
    (peers : List NodeAddr) :
    Keeps (fun n : LookupNode SecretKey PublicKey ν μ => Node.Grown base (For P) n.toNode)
      (LookupNode.sendToPeers env message peers : LookupNode.M SecretKey PublicKey ν μ ε Unit) := by
  induction peers with
  | nil => exact keeps_pure ()
  | cons peer peers ih =>
    refine Keeps.bind (Keeps.attempt fun n hn => ?_) fun _ => ih
    exact Node.keeps_sendLinkMessage env.toEnv (h peer) n.toNode hn

theorem keeps_forwardLookupRequest {request : LookupRequest} (h : P request.target) :
    Keeps (fun n : LookupNode SecretKey PublicKey ν μ => Node.Grown base (For P) n.toNode)
      (LookupNode.forwardLookupRequest env request :
        LookupNode.Handler SecretKey PublicKey ν μ Unit) := by
  rw [keeps_iff]
  intro n hn
  unfold LookupNode.forwardLookupRequest
  rw [wp_bind_iff, wp_orElse_iff]
  refine ⟨fun forwarded hforwarded => ?_, fun _ => hn⟩
  have htarget : P forwarded.target := by
    unfold LookupRequest.forward at hforwarded
    split_ifs at hforwarded
    cases hforwarded
    exact h
  refine Keeps.wp ((keeps_read _).bind fun m => Keeps.ite ?_ ?_) hn
  · exact keeps_sendToPeers env (for_request htarget) _
  · exact keeps_sendToPeers env (for_request htarget) _

/-- A response is no request. -/
theorem keeps_sendLookupResponse (Signature : Type) [SchnorrEncoding Signature]
    [SigningKey SecretKey Signature] (request : LookupRequest) :
    Keeps (fun n : LookupNode SecretKey PublicKey ν μ => Node.Grown base (For P) n.toNode)
      (LookupNode.sendLookupResponse env Signature request :
        LookupNode.Handler SecretKey PublicKey ν μ Unit) := by
  refine (keeps_read _).bind fun n => (keeps_orElse _ _).bind fun nextHop => ?_
  refine Keeps.bind (Keeps.attempt fun m hm => ?_) fun _ => keeps_pure ()
  exact Node.keeps_sendLinkMessage env.toEnv (for_response P nextHop _) m.toNode hm

/-- What a handled request does: the limiter is not asked or refuses, and nothing is passed on; or it
lets the target through, and only requests for this target are passed on. -/
def Passed (now : Nat) (n n' : PacedNode SecretKey PublicKey ν μ) : Prop :=
  ∃ target : Option NodeAddr,
    (∀ a, target = some a → (n.discoveryForwardLimiter.ask now a).1 = true) ∧
    n'.discoveryForwardLimiter =
      target.elim n.discoveryForwardLimiter (fun a => (n.discoveryForwardLimiter.ask now a).2) ∧
    Node.Grown n.toNode (For fun a => target = some a) n'.toNode

/-- A handler that neither asks the limiter nor forwards passes nothing on. -/
theorem Passed.of_quiet {now : Nat} {n n' : PacedNode SecretKey PublicKey ν μ}
    (hlimiter : n'.discoveryForwardLimiter = n.discoveryForwardLimiter)
    (hsent : Node.Grown n.toNode (For fun _ => False) n'.toNode) : Passed now n n' :=
  ⟨none, fun _ h => (by cases h), hlimiter, hsent.mono fun _ he a ha => (he a ha).elim⟩

/-- The limiter is asked, and what it lets through is passed on. -/
theorem wp_forward {n m : PacedNode SecretKey PublicKey ν μ} (hnode : m.toNode = n.toNode)
    (hlimiter : m.discoveryForwardLimiter = n.discoveryForwardLimiter) (request : LookupRequest) :
    wp (do
        if !(← shouldForward env request.target) then stop ()
        else onLookups (LookupNode.forwardLookupRequest env request) :
          Handler SecretKey PublicKey ν μ Unit)
      (fun _ => Passed env.instant n) (fun _ => Passed env.instant n) m := by
  rw [wp_bind_iff]
  change wp (if !(m.discoveryForwardLimiter.ask env.instant request.target).1 then _ else _) _ _
    { m with discoveryForwardLimiter := (m.discoveryForwardLimiter.ask env.instant request.target).2 }
  rw [hlimiter]
  cases hasked : (n.discoveryForwardLimiter.ask env.instant request.target).1 with
  | false =>
    exact .of_quiet (Gate.ask_of_refused hasked) (hnode ▸ .refl)
  | true =>
    have hpassed : ∀ l : LookupNode SecretKey PublicKey ν μ,
        Node.Grown n.toNode (For fun a => some request.target = some a) l.toNode →
        Passed env.instant n (lookupPart.set { m with
          discoveryForwardLimiter := (n.discoveryForwardLimiter.ask env.instant request.target).2 } l) := by
      intro l hl
      refine ⟨some request.target, fun a ha => ?_, rfl, hl⟩
      rw [← Option.some.inj ha, hasked]
    have hkeeps : Keeps (fun l : LookupNode SecretKey PublicKey ν μ =>
        Node.Grown n.toNode (For fun a => some request.target = some a) l.toNode)
        (LookupNode.forwardLookupRequest env request : LookupNode.Handler SecretKey PublicKey ν μ Unit) :=
      keeps_forwardLookupRequest env rfl
    change wp (onPart lookupPart (LookupNode.forwardLookupRequest env request)) _ _ _
    rw [wp_onPart_iff]
    exact wp_mono (fun _ l hl => hpassed l hl) (fun _ l hl => hpassed l hl) (hkeeps.wp (hnode ▸ .refl))

/-- **A request.** -/
theorem passed_handleLookupRequest {Signature : Type} [SchnorrEncoding Signature]
    [SigningKey SecretKey Signature] (source : NodeAddr) (payload : Bytes)
    (n : PacedNode SecretKey PublicKey ν μ) :
    Passed env.instant n (handleLookupRequest env Signature source payload n).1 := by
  refine fst_of_wp ?_
  unfold handleLookupRequest
  refine wp_body_of_wp ?_
  rw [wp_bind_iff, wp_orReturn_iff]
  refine ⟨fun request _ => ?_, fun _ => .of_quiet rfl .refl, fun _ => .of_quiet rfl .refl⟩
  unfold onLookupRequest
  rw [wp_bind_iff, wp_read_iff]
  by_cases hdup : (n.recentRequests.lookup request.requestId).isSome = true
  · rw [if_pos hdup]
    exact .of_quiet rfl .refl
  · rw [if_neg hdup, wp_bind_iff, wp_onPart_iff, wp_write_iff, wp_bind_iff, wp_onPart_iff, wp_write_iff,
      wp_bind_iff, wp_read_iff]
    split_ifs with htarget hforward
    · rw [wp_onPart_iff]
      exact wp_mono (fun _ _ hl => .of_quiet rfl hl) (fun _ _ hl => .of_quiet rfl hl)
        ((keeps_sendLookupResponse env Signature request).wp .refl)
    · exact wp_forward env rfl rfl request
    · exact .of_quiet rfl .refl

end Request

/-! ## Lookups and their failures -/

/-- The last failure of `target` and how many there were in a row, after one more note. -/
def afterNote (target : NodeAddr) (s : Option (Nat × Nat)) (e : Nat × LookupNote) : Option (Nat × Nat) :=
  match e.2 with
  | .started _ => s
  | .failed a => if a = target then some (e.1, (s.map (·.2)).getD 0 + 1) else s
  | .found a => if a = target then none else s
  | .reset => none

/-- The failures of `target` since it was last found or the topology changed: the instant of the last
one, and how many there are. -/
def streak (target : NodeAddr) (notes : List (Nat × LookupNote)) : Option (Nat × Nat) :=
  notes.foldl (afterNote target) none

/-- How long the `k`th failure in a row keeps lookups back; the count is a `u32`. -/
def pause (base max k : Nat) : Nat := min (base * 2 ^ (k % 2 ^ 32 - 1)) max * 1000

/-- A failure makes the streak longer and starts its pause. -/
theorem afterNote_failed (target a : NodeAddr) (s : Option (Nat × Nat)) (t : Nat) :
    afterNote target s (t, .failed a) =
      if a = target then some (t, (s.map (·.2)).getD 0 + 1) else s := rfl

/-- An answer ends the streak. -/
theorem afterNote_found (target a : NodeAddr) (s : Option (Nat × Nat)) (t : Nat) :
    afterNote target s (t, .found a) = if a = target then none else s := rfl

theorem streak_append (target : NodeAddr) (notes : List (Nat × LookupNote)) (e : Nat × LookupNote) :
    streak target (notes ++ [e]) = afterNote target (streak target notes) e := by
  simp [streak]

/-- The cap is itself a `u64`, so that it hides where the arithmetic saturates. -/
theorem backoffSecs_eq {b : DiscoveryBackoff} (hmax : b.max ≤ DiscoveryBackoff.U64_MAX) (k : Nat) :
    b.backoffSecs k = min (b.base * 2 ^ (k - 1)) b.max := by
  unfold DiscoveryBackoff.backoffSecs DiscoveryBackoff.BACKOFF_MULTIPLIER
  obtain ⟨power, hpower⟩ : ∃ power, power = 2 ^ (k - 1) := ⟨_, rfl⟩
  rw [← hpower]
  rcases Nat.le_total power DiscoveryBackoff.U64_MAX with hle | hle
  · rw [Nat.min_eq_left hle]
    omega
  · rw [Nat.min_eq_right hle]
    rcases Nat.eq_zero_or_pos b.base with hzero | hpos
    · rw [hzero, Nat.zero_mul, Nat.zero_mul]
      omega
    · have hbig : DiscoveryBackoff.U64_MAX ≤ b.base * DiscoveryBackoff.U64_MAX :=
        Nat.le_mul_of_pos_left _ hpos
      have hbigger : b.base * DiscoveryBackoff.U64_MAX ≤ b.base * power := Nat.mul_le_mul_left _ hle
      omega

/-- Every lookup that was started came after the pause of the failures before it. -/
def Honours (base max : Nat) (notes : List (Nat × LookupNote)) : Prop :=
  ∀ earlier t target later, notes = earlier ++ (t, .started target) :: later →
    ∀ failure ∈ streak target earlier, failure.1 + pause base max failure.2 ≤ t

/-- The backoff is what the notes say. -/
structure Backed (base max : Nat) (n : PacedNode SecretKey PublicKey ν μ) : Prop where
  baseSecs : n.discoveryBackoff.base = base
  maxSecs : n.discoveryBackoff.max = max
  entry : ∀ target, n.discoveryBackoff.entries.lookup target = (streak target n.lookups).map
    fun failure => ⟨failure.1 + pause base max failure.2, failure.2 % 2 ^ 32⟩
  honours : Honours base max n.lookups

section Backed

variable {base max : Nat} {n n' : PacedNode SecretKey PublicKey ν μ}

/-- A note that starts no lookup within a pause keeps the schedule. -/
theorem honours_append {notes : List (Nat × LookupNote)} (h : Honours base max notes)
    {e : Nat × LookupNote} (he : ∀ target, e.2 = .started target →
      ∀ failure ∈ streak target notes, failure.1 + pause base max failure.2 ≤ e.1) :
    Honours base max (notes ++ [e]) := by
  intro earlier t target later heq
  rcases List.eq_nil_or_concat later with rfl | ⟨later, last, rfl⟩
  · obtain ⟨rfl, hlast⟩ := List.append_inj' heq rfl
    cases hlast
    exact he target rfl
  · have hsplit : notes ++ [e] = (earlier ++ (t, .started target) :: later) ++ [last] := by
      rw [heq, List.concat_eq_append, List.append_assoc, List.cons_append]
    exact h earlier t target later (List.append_inj' hsplit rfl).1

theorem Backed.congr (h : Backed base max n) (hbackoff : n'.discoveryBackoff = n.discoveryBackoff)
    (hlookups : n'.lookups = n.lookups) : Backed base max n' :=
  ⟨hbackoff ▸ h.baseSecs, hbackoff ▸ h.maxSecs, by rw [hbackoff, hlookups]; exact h.entry,
    hlookups ▸ h.honours⟩

/-- What suppresses a target. -/
theorem Backed.isSuppressed_iff (h : Backed base max n) (now : Nat) (target : NodeAddr) :
    n.discoveryBackoff.isSuppressed now target = true ↔
      ∃ failure ∈ streak target n.lookups, now < failure.1 + pause base max failure.2 := by
  unfold DiscoveryBackoff.isSuppressed
  rw [h.entry target]
  cases streak target n.lookups with
  | none => simp
  | some failure => simp

variable (env : LookupEnv SecretKey PublicKey)

/-- **A failure** counts on top of those before it. -/
theorem Backed.recordFailure (h : Backed base max n) (hmax : max ≤ DiscoveryBackoff.U64_MAX)
    (target : NodeAddr) : Backed base max (recordFailure env target n) where
  baseSecs := h.baseSecs
  maxSecs := h.maxSecs
  entry a := by
    change (AList.insert target _ n.discoveryBackoff.entries).lookup a =
      (streak a (n.lookups ++ [(env.instant, .failed target)])).map _
    rw [Map.lookup_insert', streak_append, afterNote_failed, h.entry a, h.entry target,
      backoffSecs_eq (h.maxSecs ▸ hmax), h.baseSecs, h.maxSecs]
    by_cases ha : a = target
    · subst ha
      rw [if_pos rfl, if_pos rfl]
      cases streak a n.lookups with
      | none => rfl
      | some failure =>
        have hcount : (failure.2 % 2 ^ 32 + 1) % 2 ^ 32 = (failure.2 + 1) % 2 ^ 32 := Nat.mod_add_mod ..
        simp only [Option.map_some, Option.getD_some, pause, hcount]
    · rw [if_neg ha, if_neg (Ne.symm ha)]
  honours := honours_append h.honours fun _ hstarted => by cases hstarted

/-- The backoff forgets a target when its streak ends. -/
theorem Backed.recordSuccess (h : Backed base max n) (target : NodeAddr) :
    Backed base max (recordSuccess env target n) where
  baseSecs := h.baseSecs
  maxSecs := h.maxSecs
  entry a := by
    change (AList.erase target n.discoveryBackoff.entries).lookup a =
      (streak a (n.lookups ++ [(env.instant, .found target)])).map _
    rw [Map.lookup_erase', streak_append, afterNote_found, h.entry a]
    by_cases ha : a = target
    · rw [if_pos ha, if_pos ha.symm]
      rfl
    · rw [if_neg ha, if_neg (Ne.symm ha)]
  honours := honours_append h.honours fun _ hstarted => by cases hstarted

theorem Backed.resetDiscoveryBackoff (h : Backed base max n) :
    Backed base max (resetDiscoveryBackoff env n) where
  baseSecs := h.baseSecs
  maxSecs := h.maxSecs
  entry a := by
    change (∅ : Map NodeAddr BackoffEntry).lookup a = (streak a (n.lookups ++ [_])).map _
    rw [streak_append]
    rfl
  honours := honours_append h.honours fun _ hstarted => by cases hstarted

/-- **A start** that is not suppressed. -/
theorem Backed.started (h : Backed base max n) {target : NodeAddr}
    (hallowed : ¬n.discoveryBackoff.isSuppressed env.instant target = true) :
    Backed base max (note env (.started target) n) where
  baseSecs := h.baseSecs
  maxSecs := h.maxSecs
  entry a := by
    change n.discoveryBackoff.entries.lookup a = (streak a (n.lookups ++ [_])).map _
    rw [streak_append]
    exact h.entry a
  honours := honours_append h.honours fun a hstarted failure hfailure => by
    cases hstarted
    by_contra hearly
    exact hallowed ((h.isSuppressed_iff _ _).mpr ⟨failure, hfailure, Nat.lt_of_not_le hearly⟩)

/-- What runs on the node below touches neither backoff nor notes. -/
theorem keeps_backed_onLookups (m : LookupNode.M SecretKey PublicKey ν μ ε α) :
    Keeps (Backed base max) (onLookups m : M SecretKey PublicKey ν μ ε α) :=
  fun _ hn => hn.congr rfl rfl

theorem keeps_backed_maybeInitiateLookup (hmax : max ≤ DiscoveryBackoff.U64_MAX) (dest : NodeAddr) :
    Keeps (Backed base max) (maybeInitiateLookup env dest : M SecretKey PublicKey ν μ ε Unit) := by
  refine Keeps.body ?_
  rw [keeps_iff]
  intro n hn
  rw [wp_bind_iff, wp_read_iff]
  extract_lets inFlight
  split_ifs with _ hsuppressed
  · exact hn
  · exact hn
  · exact hn.recordFailure env hmax dest
  · rw [wp_bind_iff, wp_write_iff]
    refine Keeps.wp ?_ (hn.started env hsuppressed)
    refine (keeps_backed_onLookups _).bind fun _ => (keeps_backed_onLookups _).bind fun sent => ?_
    refine Keeps.ite ((keeps_backed_onLookups _).bind fun _ => ?_) (keeps_pure ())
    exact keeps_write fun m hm => hm.recordFailure env hmax dest

theorem keeps_backed_checkPendingLookups (hmax : max ≤ DiscoveryBackoff.U64_MAX) :
    Keeps (Backed base max) (checkPendingLookups env : M SecretKey PublicKey ν μ ε Unit) := by
  refine (keeps_read _).bind fun n => (keeps_backed_onLookups _).bind fun _ => ?_
  refine keeps_write fun m hm => ?_
  obtain ⟨targets, htargets⟩ : ∃ targets, targets = n.lookupsWhere (n.lookupTimedOut env.nowMs) :=
    ⟨_, rfl⟩
  rw [← htargets]
  clear htargets
  induction targets generalizing m with
  | nil => exact hm
  | cons target targets ih =>
    have htimedOut : Backed base max
        ({ m with toLookupNode := m.toLookupNode.timeOutLookup target }) := hm.congr rfl rfl
    exact ih _ (htimedOut.recordFailure env hmax target)

variable [Sha256] [HkdfSha256] [Secp256k1 SecretKey PublicKey] [SessionMmp μ]
  {Signature : Type} [SchnorrEncoding Signature]

theorem keeps_backed_handleLookupResponse [VerifyingKey PublicKey Signature] (payload : Bytes) :
    Keeps (Backed base max)
      (handleLookupResponse env Signature payload : Handler SecretKey PublicKey ν μ Unit) := by
  refine Keeps.body ((keeps_orReturn _).bind fun response => (keeps_read _).bind fun recent => ?_)
  cases recent with
  | some recent => exact keeps_backed_onLookups _
  | none =>
    refine (keeps_backed_onLookups _).bind fun _ => (keeps_orElse _ _).bind fun identity => ?_
    refine Keeps.ite (keeps_stop ()) (Keeps.bind ?_ fun _ => keeps_backed_onLookups _)
    exact keeps_write fun m hm => hm.recordSuccess env response.target

omit [Sha256] [HkdfSha256] [Secp256k1 SecretKey PublicKey] [SessionMmp μ] in
theorem keeps_backed_handleLookupRequest [SigningKey SecretKey Signature] (source : NodeAddr)
    (payload : Bytes) : Keeps (Backed base max)
      (handleLookupRequest env Signature source payload : Handler SecretKey PublicKey ν μ Unit) := by
  refine Keeps.body ((keeps_orReturn _).bind fun request => (keeps_read _).bind fun recent => ?_)
  refine Keeps.ite (keeps_stop ()) ((keeps_backed_onLookups _).bind fun _ => ?_)
  refine (keeps_backed_onLookups _).bind fun _ => (keeps_read _).bind fun my => ?_
  refine Keeps.ite (keeps_backed_onLookups _) (Keeps.ite ?_ (keeps_pure ()))
  refine Keeps.bind (fun m hm => hm.congr rfl rfl) fun allowed => ?_
  exact Keeps.ite (keeps_stop ()) (keeps_backed_onLookups _)

end Backed

/-! ### The limiter of requests -/

section Frames

variable (env : LookupEnv SecretKey PublicKey)

/-- The method leaves the limiter alone. -/
abbrev Unasked (m : M SecretKey PublicKey ν μ ε α) : Prop :=
  Frames (fun n : PacedNode SecretKey PublicKey ν μ => n.discoveryForwardLimiter) m

theorem unasked_onLookups (m : LookupNode.M SecretKey PublicKey ν μ ε α) :
    Unasked (onLookups m : M SecretKey PublicKey ν μ ε α) := fun _ => rfl

theorem unasked_maybeInitiateLookup (dest : NodeAddr) :
    Unasked (maybeInitiateLookup env dest : M SecretKey PublicKey ν μ ε Unit) := by
  refine Frames.body ((frames_read _).bind fun n => Frames.ite (frames_stop ()) ?_)
  refine Frames.ite (frames_stop ()) (Frames.ite ?_ ?_)
  · exact Frames.bind (fun _ => rfl) fun _ => frames_stop ()
  · refine Frames.bind (fun _ => rfl) fun _ => (unasked_onLookups _).bind fun _ => ?_
    refine (unasked_onLookups _).bind fun sent => Frames.ite ?_ (frames_pure ())
    exact (unasked_onLookups _).bind fun _ _ => rfl

theorem unasked_checkPendingLookups :
    Unasked (checkPendingLookups env : M SecretKey PublicKey ν μ ε Unit) := by
  refine (frames_read _).bind fun n => (unasked_onLookups _).bind fun _ => frames_write fun m => ?_
  obtain ⟨targets, htargets⟩ : ∃ targets, targets = n.lookupsWhere (n.lookupTimedOut env.nowMs) :=
    ⟨_, rfl⟩
  rw [← htargets]
  clear htargets
  induction targets generalizing m with
  | nil => rfl
  | cons target targets ih => exact ih (timeOutLookup env m target)

theorem unasked_handleLookupResponse [Sha256] [HkdfSha256] [Secp256k1 SecretKey PublicKey]
    [SessionMmp μ] {Signature : Type} [SchnorrEncoding Signature] [VerifyingKey PublicKey Signature]
    (payload : Bytes) :
    Unasked (handleLookupResponse env Signature payload : Handler SecretKey PublicKey ν μ Unit) := by
  refine Frames.body ((frames_orReturn _).bind fun response => (frames_read _).bind fun recent => ?_)
  cases recent with
  | some recent => exact unasked_onLookups _
  | none =>
    refine (unasked_onLookups _).bind fun _ => (frames_orElse _ _).bind fun identity => ?_
    refine Frames.ite (frames_stop ()) ?_
    exact Frames.bind (fun _ => rfl) fun _ => unasked_onLookups _

end Frames

end PacedNode

/-! ## Runs -/

/-- What may happen to a node that paces its lookups. -/
inductive PacedEvent (SecretKey PublicKey ν μ : Type)
  | lookup (env : LookupEnv SecretKey PublicKey) (dest : NodeAddr)
  | checkPendingLookups (env : LookupEnv SecretKey PublicKey)
  | request (env : LookupEnv SecretKey PublicKey) (source : NodeAddr) (payload : Bytes)
  | response (env : LookupEnv SecretKey PublicKey) (payload : Bytes)
  | topologyChange (env : LookupEnv SecretKey PublicKey)
  | rest (n' : LookupNode SecretKey PublicKey ν μ)

/-- When the event happens, if it reads the clock. -/
def PacedEvent.instant {SecretKey PublicKey ν μ : Type} :
    PacedEvent SecretKey PublicKey ν μ → Option Nat
  | .lookup env _ => some env.instant
  | .checkPendingLookups env => some env.instant
  | .request env _ _ => some env.instant
  | .response env _ => some env.instant
  | .topologyChange env => some env.instant
  | .rest _ => none

/-- A node in a run, the time, and the targets of the requests it passed on, each with when. -/
structure PacedRun (SecretKey PublicKey ν μ : Type) where
  node : PacedNode SecretKey PublicKey ν μ
  clock : Nat
  forwarded : List (Nat × NodeAddr)

namespace PacedRun

open PacedNode

variable {SecretKey PublicKey ν μ : Type}

section Step

variable [Sha256] [HkdfSha256] [Secp256k1 SecretKey PublicKey] [SessionMmp μ]
  (Signature : Type) [SchnorrEncoding Signature] [SigningKey SecretKey Signature]
  [VerifyingKey PublicKey Signature]

/-- One event of the node. -/
def nodeStep (n : PacedNode SecretKey PublicKey ν μ) :
    PacedEvent SecretKey PublicKey ν μ → PacedNode SecretKey PublicKey ν μ
  | .lookup env dest => (maybeInitiateLookup env dest n : _ × Result Unit Unit).1
  | .checkPendingLookups env => (checkPendingLookups env n : _ × Result Unit Unit).1
  | .request env source payload => (handleLookupRequest env Signature source payload n).1
  | .response env payload => (handleLookupResponse env Signature payload n).1
  | .topologyChange env => resetDiscoveryBackoff env n
  | .rest n' => { n with toLookupNode := n' }

/-- One event of the run. Requests to several peers for one target count once. -/
def next (s : PacedRun SecretKey PublicKey ν μ) (e : PacedEvent SecretKey PublicKey ν μ) :
    PacedRun SecretKey PublicKey ν μ where
  node := nodeStep Signature s.node e
  clock := e.instant.getD s.clock
  forwarded := match e with
    | .request env _ _ => s.forwarded ++ (requestTargets ((nodeStep Signature s.node e).effects.drop
        s.node.effects.length)).dedup.map fun a => (env.instant, a)
    | _ => s.forwarded

end Step

/-- The clock does not run backwards. -/
def Allowed (s : PacedRun SecretKey PublicKey ν μ) (e : PacedEvent SecretKey PublicKey ν μ) : Prop :=
  ∀ t ∈ e.instant, s.clock ≤ t

/-- The limiter saw all that was passed on. -/
structure Inv (d : Nat) (s : PacedRun SecretKey PublicKey ν μ) : Prop where
  interval : s.node.discoveryForwardLimiter.minInterval = d
  maxAge : s.node.discoveryForwardLimiter.maxAge = FORWARD_MAX_AGE
  sees : ∃ passed, s.node.discoveryForwardLimiter.Sees s.clock passed ∧ s.forwarded.Sublist passed

variable {d base max : Nat} {s : PacedRun SecretKey PublicKey ν μ}

/-- An event that neither asks the limiter nor passes anything on. -/
theorem Inv.quiet (h : s.Inv d) {n' : PacedNode SecretKey PublicKey ν μ} {t : Nat}
    (ht : s.clock ≤ t) (hlimiter : n'.discoveryForwardLimiter = s.node.discoveryForwardLimiter) :
    Inv d ⟨n', t, s.forwarded⟩ := by
  obtain ⟨passed, hsees, hsub⟩ := h.sees
  exact ⟨hlimiter ▸ h.interval, hlimiter ▸ h.maxAge, ⟨passed, hlimiter ▸ hsees.mono ht, hsub⟩⟩

/-- **A request that is handled.** -/
theorem Inv.passed (h : s.Inv d) {n' : PacedNode SecretKey PublicKey ν μ} {now : Nat}
    (hnow : s.clock ≤ now) (hpassed : Passed now s.node n') :
    Inv d ⟨n', now, s.forwarded ++
      (requestTargets (n'.effects.drop s.node.effects.length)).dedup.map fun a => (now, a)⟩ := by
  obtain ⟨target, hasked, hlimiter, hsent⟩ := hpassed
  obtain ⟨new, hnew, hfor⟩ := hsent.effects
  have hdrop : n'.effects.drop s.node.effects.length = new := by
    rw [hnew]
    exact List.drop_left
  have htargets := of_mem_requestTargets hfor
  obtain ⟨passed, hsees, hsub⟩ := h.sees
  rw [hdrop]
  cases target with
  | none =>
    have hnone : requestTargets new = [] :=
      List.eq_nil_iff_forall_not_mem.mpr fun a ha => by cases htargets a ha
    rw [hnone, List.dedup_eq_self.mpr List.nodup_nil, List.map_nil, List.append_nil]
    exact h.quiet hnow hlimiter
  | some target =>
    have hlimiter' : n'.discoveryForwardLimiter =
      (s.node.discoveryForwardLimiter.ask now target).2 := hlimiter
    have hone : (requestTargets new).dedup.Sublist [target] := by
      have hsame : ∀ a ∈ (requestTargets new).dedup, a = target := fun a ha =>
        (Option.some.inj (htargets a (List.mem_dedup.mp ha))).symm
      have hall := List.eq_replicate_of_mem hsame
      have hnodup := (requestTargets new).nodup_dedup
      rw [hall, List.nodup_replicate] at hnodup
      rw [hall]
      exact List.replicate_sublist_replicate target |>.mpr hnodup
    rcases (hsees.mono hnow).ask target with ⟨-, hsees', -⟩ | ⟨hrefused, -, -⟩
    · refine ⟨?_, ?_, ⟨passed ++ [(now, target)], hlimiter' ▸ hsees', ?_⟩⟩
      · rw [hlimiter', Gate.ask_minInterval, h.interval]
      · rw [hlimiter', Gate.ask_maxAge, h.maxAge]
      · exact hsub.append (hone.map fun a => (now, a))
    · rw [hasked target rfl] at hrefused
      cases hrefused

section Runs

variable [Sha256] [HkdfSha256] [Secp256k1 SecretKey PublicKey] [SessionMmp μ]
  {Signature : Type} [SchnorrEncoding Signature] [SigningKey SecretKey Signature]
  [VerifyingKey PublicKey Signature]

/-- **One event** of a run. -/
theorem Inv.next (h : s.Inv d) {e : PacedEvent SecretKey PublicKey ν μ} (he : s.Allowed e) :
    (s.next Signature e).Inv d := by
  cases e with
  | lookup env dest => exact h.quiet (he _ rfl) (unasked_maybeInitiateLookup env dest _)
  | checkPendingLookups env => exact h.quiet (he _ rfl) (unasked_checkPendingLookups env _)
  | request env source payload =>
    exact h.passed (he _ rfl) (passed_handleLookupRequest env source payload s.node)
  | response env payload => exact h.quiet (he _ rfl) (unasked_handleLookupResponse env payload _)
  | topologyChange env => exact h.quiet (he _ rfl) rfl
  | rest n' => exact h.quiet le_rfl rfl

/-- **Requests are paced.** In every run from a node that has passed on nothing, whatever requests
arrive, those passed on for one target are apart by the interval or by the age at which the limiter
forgets, whichever is less; so there are few of them in any stretch of time. -/
theorem forwarded_spaced {n : PacedNode SecretKey PublicKey ν μ} {t : Nat}
    (hlimiter : n.discoveryForwardLimiter = .withInterval d)
    {es : List (PacedEvent SecretKey PublicKey ν μ)}
    (hrun : Along (next Signature) Allowed ⟨n, t, []⟩ es) :
    Spaced (min d FORWARD_MAX_AGE) (exec (next Signature) ⟨n, t, []⟩ es).forwarded ∧
      ∀ target start w, 0 < d →
        ((exec (next Signature) ⟨n, t, []⟩ es).forwarded.filter fun p =>
          decide (p.2 = target ∧ start ≤ p.1 ∧ p.1 ≤ start + w)).length ≤ w / min d FORWARD_MAX_AGE + 1 := by
  have hstart : Inv d (⟨n, t, []⟩ : PacedRun SecretKey PublicKey ν μ) :=
    ⟨by rw [hlimiter]; rfl, by rw [hlimiter]; rfl, [], hlimiter ▸ Gate.sees_new d _ t, .slnil⟩
  have hinv := (Always.of_along (I := Inv d) (fun _ _ hs he => hs.next he) hstart hrun).exec
  obtain ⟨passed, hsees, hsub⟩ := hinv.sees
  have hspaced : Spaced (min d FORWARD_MAX_AGE) (exec (next Signature) ⟨n, t, []⟩ es).forwarded := by
    have hpassed := hsees.spaced
    rw [hinv.interval, hinv.maxAge] at hpassed
    exact hpassed.sublist hsub
  refine ⟨hspaced, fun target start w hd => hspaced.length_le ?_ target start w⟩
  exact Nat.lt_min.mpr ⟨hd, by decide⟩

variable {base max : Nat} {n : PacedNode SecretKey PublicKey ν μ}

/-- **One event.** -/
theorem backed_nodeStep (h : Backed base max n) (hmax : max ≤ DiscoveryBackoff.U64_MAX)
    (e : PacedEvent SecretKey PublicKey ν μ) : Backed base max (nodeStep Signature n e) := by
  cases e with
  | lookup env dest => exact keeps_backed_maybeInitiateLookup env hmax dest n h
  | checkPendingLookups env => exact keeps_backed_checkPendingLookups env hmax n h
  | request env source payload => exact keeps_backed_handleLookupRequest env source payload n h
  | response env payload => exact keeps_backed_handleLookupResponse env payload n h
  | topologyChange env => exact h.resetDiscoveryBackoff env
  | rest n' => exact h.congr rfl rfl

/-- **Lookups back off.** In every run of a node that starts with an empty backoff, a lookup that the
node starts comes after the pause that the failures of its target before it ask for: `base` seconds,
doubled with each failure in a row, at most `max`. Nothing else is suppressed. -/
theorem lookups_back_off (hmax : max ≤ DiscoveryBackoff.U64_MAX)
    (hbackoff : n.discoveryBackoff = .withParams base max) (hlookups : n.lookups = [])
    (es : List (PacedEvent SecretKey PublicKey ν μ)) :
    Always (nodeStep Signature) (fun n => Honours base max n.lookups ∧ ∀ now target,
      n.discoveryBackoff.isSuppressed now target = true ↔
        ∃ failure ∈ streak target n.lookups, now < failure.1 + pause base max failure.2) n es := by
  have hstart : Backed base max n := by
    refine ⟨by rw [hbackoff]; rfl, by rw [hbackoff]; rfl, fun target => ?_, ?_⟩
    · rw [hbackoff, hlookups]
      rfl
    · rw [hlookups]
      intro earlier t target later heq
      exact absurd heq (List.append_ne_nil_of_right_ne_nil earlier (List.cons_ne_nil _ _)).symm
  refine Always.mono (fun m hm => ?_)
    (Always.of_step (I := Backed base max) (fun m e hm => backed_nodeStep hm hmax e) hstart)
  exact ⟨hm.honours, fun now target => hm.isSuppressed_iff now target⟩

end Runs

end PacedRun

namespace Sample

/-- Node 2 as it starts. -/
def transit : LookupNode Scalar Point Unit Unit :=
  .new ⟨addr 2, ⟨5⟩⟩ startupEpoch config lookupConfig 0

/-- Node 2, with links to the nodes 1 and 3. -/
def paced : PacedNode Scalar Point Unit Unit where
  toLookupNode := { transit with
    peers := [1, 3].foldl (fun m p => m.insert (addr p) (peer p 0 0 (session .initiator 1 2 ⟨3⟩))) ∅ }
  discoveryBackoff := .withParams 30 300
  discoveryForwardLimiter := .withInterval 2000
  lookups := []

/-- Node 1 asks for node 3 at `now`. -/
def asksAt (requestId now : Nat) : PacedEvent Scalar Point Unit Unit :=
  .request (lookupEnv 2 now 0 (· == addr 3)) (addr 1)
    (LookupRequest.encode ⟨requestId, addr 3, addr 1, TreeCoordinate.rootWithMeta (addr 1) 1 0, 9, 0⟩).tail

/-- An application wants node 9 at `now`, which a filter contains or not. -/
def wantsAt (now : Nat) (reachable : Bool) : PacedEvent Scalar Point Unit Unit :=
  .lookup (lookupEnv 2 now 5 fun _ => reachable) (addr 9)

end Sample

namespace PacedRun

open PacedNode Sample

/-- The second request comes too soon. -/
theorem forwarded_spaced_twice :
    (exec (next Unit) ⟨paced, 0, []⟩ [asksAt 7 1000, asksAt 8 1500, asksAt 9 3000]).forwarded =
        [(1000, addr 3), (3000, addr 3)] ∧
      Spaced (min 2000 FORWARD_MAX_AGE)
        (exec (next Unit) ⟨paced, 0, []⟩ [asksAt 7 1000, asksAt 8 1500, asksAt 9 3000]).forwarded := by
  have hrun : Along (next Unit) Allowed ⟨paced, 0, []⟩ [asksAt 7 1000, asksAt 8 1500, asksAt 9 3000] := by
    refine ⟨?_, ?_, ?_, trivial⟩
    all_goals
      intro t ht
      obtain rfl := Option.some.inj ht
      decide
  exact ⟨by decide +kernel, (forwarded_spaced rfl hrun).1⟩

/-- The second attempt falls into the pause after the first. -/
theorem lookups_back_off_twice :
    (exec (nodeStep Unit) paced [wantsAt 1000 false, wantsAt 20000 true, wantsAt 31000 true]).lookups =
        [(1000, .failed (addr 9)), (31000, .started (addr 9))] ∧
      Always (nodeStep Unit) (fun n => Honours 30 300 n.lookups ∧ ∀ now target,
        n.discoveryBackoff.isSuppressed now target = true ↔
          ∃ failure ∈ streak target n.lookups, now < failure.1 + pause 30 300 failure.2)
        paced [wantsAt 1000 false, wantsAt 20000 true, wantsAt 31000 true] :=
  ⟨by decide +kernel, lookups_back_off (by decide) rfl rfl _⟩

end PacedRun

end Fips
