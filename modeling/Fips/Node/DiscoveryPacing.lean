import Fips.Lib.RateGate
import Fips.Lib.StatePart
import Fips.Node.Discovery

/-!
# Pacing of discovery

Model of `node/discovery_rate_limit.rs` and of the discovery handlers that ask it. `PacedNode` is
`LookupNode` with the two limiters in place of the answers its environment had: `forwardAllowed` and
`backoffSuppressed` of a `LookupEnv` are not read here. Instants and durations are milliseconds.

`lookups` is not in the source; only statements read it. An instant past the last one there is, which
stops the program, is left out: it takes a configured maximum of centuries.

## Results

* `simulatesFrom_handleLookupRequest`, `simulatesFrom_maybeInitiateLookup`,
  `simulates_checkPendingLookups`, `simulates_handleLookupResponse`: beside its limiters, the node does
  what a `LookupNode` does whose environment has their answers.
-/

open Checked

namespace Fips

/-! ## The limiters -/

/-- `DiscoveryForwardRateLimiter`. -/
abbrev DiscoveryForwardRateLimiter := Gate NodeAddr

/-- `FORWARD_MAX_AGE`: a target that was not forwarded for this long is forgotten. -/
def FORWARD_MAX_AGE : Nat := 60000

namespace DiscoveryForwardRateLimiter

/-- `DiscoveryForwardRateLimiter::with_interval`. -/
def withInterval (minInterval : Nat) : DiscoveryForwardRateLimiter := .new minInterval FORWARD_MAX_AGE

/-- `DiscoveryForwardRateLimiter::should_forward`: a request that passes starts the target's
interval anew. -/
def shouldForward (now : Nat) (target : NodeAddr) (l : DiscoveryForwardRateLimiter) :
    Bool × DiscoveryForwardRateLimiter := l.ask now target

end DiscoveryForwardRateLimiter

/-- `BackoffEntry`. -/
structure BackoffEntry where
  suppressUntil : Nat
  failures : Nat
  deriving DecidableEq, Repr

/-- `base` and `max` are seconds. -/
structure DiscoveryBackoff where
  entries : Map NodeAddr BackoffEntry
  base : Nat
  max : Nat

namespace DiscoveryBackoff

/-- The bound of `checked_mul` and `saturating_sub` on a `u64`. -/
def U64_MAX : Nat := 2 ^ 64 - 1

/-- `BACKOFF_MULTIPLIER`. -/
def BACKOFF_MULTIPLIER : Nat := 2

/-- `DiscoveryBackoff::with_params`. -/
def withParams (baseSecs maxSecs : Nat) : DiscoveryBackoff := ⟨∅, baseSecs, maxSecs⟩

/-- `DiscoveryBackoff::is_suppressed`. -/
def isSuppressed (now : Nat) (target : NodeAddr) (b : DiscoveryBackoff) : Bool :=
  (b.entries.lookup target).any fun e => decide (now < e.suppressUntil)

/-- How long the `failures`th failure in a row suppresses a target: `saturating_mul` of
`saturating_pow`, capped. -/
def backoffSecs (failures : Nat) (b : DiscoveryBackoff) : Nat :=
  min (min (b.base * min (BACKOFF_MULTIPLIER ^ (failures - 1)) U64_MAX) U64_MAX) b.max

/-- `record_failure`; the count is a `u32`. -/
def recordFailure (now : Nat) (target : NodeAddr) (b : DiscoveryBackoff) : DiscoveryBackoff :=
  let failures := (((b.entries.lookup target).map (·.failures)).getD 0 + 1) % 2 ^ 32
  { b with entries := b.entries.insert target ⟨now + b.backoffSecs failures * 1000, failures⟩ }

/-- `DiscoveryBackoff::record_success`: the target starts again from the base. -/
def recordSuccess (target : NodeAddr) (b : DiscoveryBackoff) : DiscoveryBackoff :=
  { b with entries := b.entries.erase target }

/-- `DiscoveryBackoff::reset_all`, called when the topology changes. -/
def resetAll (b : DiscoveryBackoff) : DiscoveryBackoff := { b with entries := ∅ }

end DiscoveryBackoff

/-! ## The handlers -/

/-- What happened to the lookups of a node. -/
inductive LookupNote
  | started (target : NodeAddr)
  | failed (target : NodeAddr)
  | found (target : NodeAddr)
  | reset
  deriving DecidableEq, Repr

/-- A node with its two limiters, and the lookups it made in the order of time. -/
structure PacedNode (SecretKey PublicKey ν μ : Type) extends LookupNode SecretKey PublicKey ν μ where
  discoveryBackoff : DiscoveryBackoff
  discoveryForwardLimiter : DiscoveryForwardRateLimiter
  lookups : List (Nat × LookupNote)

namespace PacedNode

variable {SecretKey PublicKey ν μ : Type} {ε α : Type}

/-- A method of a paced node. -/
abbrev M (SecretKey PublicKey ν μ ε α : Type) := Method (PacedNode SecretKey PublicKey ν μ) ε α

/-- A handler of a paced node. -/
abbrev Handler (SecretKey PublicKey ν μ α : Type) := M SecretKey PublicKey ν μ Unit α

/-- The node beside its limiters. -/
def lookupPart :
    StatePart (PacedNode SecretKey PublicKey ν μ) (LookupNode SecretKey PublicKey ν μ) where
  get := (·.toLookupNode)
  set n lookups := { n with toLookupNode := lookups }
  get_set _ _ := rfl

/-- A method that asks no limiter. -/
abbrev onLookups (m : LookupNode.M SecretKey PublicKey ν μ ε α) : M SecretKey PublicKey ν μ ε α :=
  onPart lookupPart m

variable (env : LookupEnv SecretKey PublicKey)

/-- Notes what became of a lookup. -/
def note (e : LookupNote) (n : PacedNode SecretKey PublicKey ν μ) : PacedNode SecretKey PublicKey ν μ :=
  { n with lookups := n.lookups ++ [(env.instant, e)] }

/-- `record_failure` on the node's backoff. -/
def recordFailure (target : NodeAddr) (n : PacedNode SecretKey PublicKey ν μ) :
    PacedNode SecretKey PublicKey ν μ :=
  note env (.failed target)
    { n with discoveryBackoff := n.discoveryBackoff.recordFailure env.instant target }

/-- `record_success` on the node's backoff. -/
def recordSuccess (target : NodeAddr) (n : PacedNode SecretKey PublicKey ν μ) :
    PacedNode SecretKey PublicKey ν μ :=
  note env (.found target) { n with discoveryBackoff := n.discoveryBackoff.recordSuccess target }

/-- `reset_discovery_backoff`, on topology changes. -/
def resetDiscoveryBackoff (n : PacedNode SecretKey PublicKey ν μ) : PacedNode SecretKey PublicKey ν μ :=
  note env .reset { n with discoveryBackoff := n.discoveryBackoff.resetAll }

/-- `should_forward` on the node's limiter. -/
def shouldForward (target : NodeAddr) : M SecretKey PublicKey ν μ ε Bool := fun n =>
  let r := n.discoveryForwardLimiter.shouldForward env.instant target
  ({ n with discoveryForwardLimiter := r.2 }, .ok r.1)

section Requests

variable {Signature : Type} [SchnorrEncoding Signature] [SigningKey SecretKey Signature]

/-- `handle_lookup_request` after decoding. -/
def onLookupRequest (Signature : Type) [SchnorrEncoding Signature]
    [SigningKey SecretKey Signature] (source : NodeAddr) (request : LookupRequest) :
    Handler SecretKey PublicKey ν μ Unit := do
  if (← read (·.recentRequests.lookup request.requestId)).isSome then stop ()
  else do
    onLookups <| write fun n => { n with
      recentRequests := n.recentRequests.insert request.requestId (.new source env.nowMs) }
    onLookups (write (LookupNode.purgeExpiredRequests env.nowMs))
    let my ← read (·.nodeAddr)
    if request.target == my then onLookups (LookupNode.sendLookupResponse env Signature request)
    else if request.canForward then do
      if !(← shouldForward env request.target) then stop ()
      else onLookups (LookupNode.forwardLookupRequest env request)

/-- `handle_lookup_request`. -/
def handleLookupRequest (Signature : Type) [SchnorrEncoding Signature]
    [SigningKey SecretKey Signature] (source : NodeAddr) (payload : Bytes) :
    Handler SecretKey PublicKey ν μ Unit := body do
  let request ← orReturn (LookupRequest.decode payload)
  onLookupRequest env Signature source request

end Requests

/-- `maybe_initiate_lookup`. -/
def maybeInitiateLookup (dest : NodeAddr) : M SecretKey PublicKey ν μ ε Unit := body do
  let n ← read id
  let inFlight := (n.pendingLookups.lookup dest).any fun entry =>
    decide (env.nowMs - entry.initiatedMs < n.lookupConfig.timeoutSecs * 1000)
  if inFlight then stop ()
  else if n.discoveryBackoff.isSuppressed env.instant dest then stop ()
  else if !(n.peers.entries.any fun e => env.mayReach e.1 dest) then do
    write (recordFailure env dest)
    stop ()
  else do
    write (note env (.started dest))
    onLookups <| write fun n => { n with
      pendingLookups := n.pendingLookups.insert dest (.new env.nowMs) }
    let sent ← onLookups (LookupNode.initiateLookup env dest n.lookupConfig.ttl)
    if sent == 0 then do
      onLookups <| write fun n => { n with pendingLookups := n.pendingLookups.erase dest }
      write (recordFailure env dest)

/-- One timeout of `check_pending_lookups`. -/
def timeOutLookup (n : PacedNode SecretKey PublicKey ν μ) (target : NodeAddr) :
    PacedNode SecretKey PublicKey ν μ :=
  recordFailure env target { n with toLookupNode := n.toLookupNode.timeOutLookup target }

/-- `check_pending_lookups`. -/
def checkPendingLookups : M SecretKey PublicKey ν μ ε Unit := do
  let n ← read id
  onLookups (LookupNode.retryLookups env (n.lookupsWhere (n.lookupWantsRetry env.nowMs)))
  write fun m => (n.lookupsWhere (n.lookupTimedOut env.nowMs)).foldl (timeOutLookup env) m

section Responses

variable [Sha256] [HkdfSha256] [Secp256k1 SecretKey PublicKey] [SessionMmp μ]
variable {Signature : Type} [SchnorrEncoding Signature] [VerifyingKey PublicKey Signature]

/-- `discovery.rs:166-246`: the answer to a lookup of this node. -/
def acceptResponse (response : LookupResponse Signature) : Handler SecretKey PublicKey ν μ Unit := do
  let target := response.target
  let (_, targetPubkey) ← orElse () (env.lookupByFipsPrefix (LookupNode.fipsPrefix target))
  let proofData := LookupResponse.proofBytes response.requestId target response.targetCoords
  if !VerifyingKey.verify targetPubkey response.proof proofData then stop ()
  else do
    write (recordSuccess env target)
    onLookups (LookupNode.acceptResponse env response)

/-- `handle_lookup_response` after decoding. -/
def onLookupResponse (response : LookupResponse Signature) :
    Handler SecretKey PublicKey ν μ Unit := do
  match ← read (·.recentRequests.lookup response.requestId) with
  | some _ => onLookups (LookupNode.onLookupResponse env response)
  | none => do
    onLookups <| write fun n => { n with responses := n.responses ++ [.own response.requestId] }
    acceptResponse env response

/-- `handle_lookup_response`. -/
def handleLookupResponse (Signature : Type) [SchnorrEncoding Signature]
    [VerifyingKey PublicKey Signature] (payload : Bytes) : Handler SecretKey PublicKey ν μ Unit :=
  body do
    let response ← orReturn
      (LookupResponse.decode payload : Result ProtocolError (LookupResponse Signature))
    onLookupResponse env response

end Responses

/-! ## What the limiters answer -/

/-- The environment of a node that has no limiters of its own. -/
def answers (n : PacedNode SecretKey PublicKey ν μ) : LookupEnv SecretKey PublicKey :=
  { env with
    forwardAllowed := fun target => (n.discoveryForwardLimiter.shouldForward env.instant target).1
    backoffSuppressed := fun target => n.discoveryBackoff.isSuppressed env.instant target }

section Simulation

variable {env} {n : PacedNode SecretKey PublicKey ν μ}

theorem simulates_orReturn {ε' : Type} (x : Result ε' α) : Simulates lookupPart
    (orReturn x : Handler SecretKey PublicKey ν μ α) (orReturn x) := by
  cases x with
  | ok a => exact simulates_pure a
  | error e => cases e <;> exact fun _ => rfl

theorem sendToPeers_answers (message : Bytes) (peers : List NodeAddr) :
    (LookupNode.sendToPeers (n.answers env) message peers : LookupNode.M SecretKey PublicKey ν μ ε Unit) =
      LookupNode.sendToPeers env message peers := by
  induction peers with
  | nil => rfl
  | cons peer peers ih =>
    unfold LookupNode.sendToPeers
    rw [ih]
    rfl

theorem forwardLookupRequest_answers (request : LookupRequest) :
    (LookupNode.forwardLookupRequest (n.answers env) request :
      LookupNode.Handler SecretKey PublicKey ν μ Unit) = LookupNode.forwardLookupRequest env request := by
  unfold LookupNode.forwardLookupRequest
  simp only [sendToPeers_answers]
  rfl

theorem initiateLookup_answers (target : NodeAddr) (ttl : UInt8) :
    (LookupNode.initiateLookup (n.answers env) target ttl : LookupNode.M SecretKey PublicKey ν μ ε Nat) =
      LookupNode.initiateLookup env target ttl := by
  unfold LookupNode.initiateLookup
  simp only [sendToPeers_answers]
  rfl

variable {Signature : Type} [SchnorrEncoding Signature] [SigningKey SecretKey Signature]

/-- **Requests**: the node handles them as one whose environment has the limiter's answers. -/
theorem simulatesFrom_handleLookupRequest (source : NodeAddr) (payload : Bytes) :
    SimulatesFrom lookupPart n (handleLookupRequest env Signature source payload)
      (LookupNode.handleLookupRequest (n.answers env) Signature source payload) := by
  refine SimulatesFrom.body (((simulates_orReturn _).at n).bind fun request t' hrun => ?_)
  obtain rfl : n = t' := by
    unfold orReturn at hrun
    cases hdecode : LookupRequest.decode payload with
    | ok r =>
      rw [hdecode] at hrun
      cases hrun
      rfl
    | error e =>
      rw [hdecode] at hrun
      cases e <;> cases hrun
  refine SimulatesFrom.read_bind (SimulatesFrom.ite Iff.rfl (fun _ => rfl) fun _ => ?_)
  refine ((simulates_onPart _).at n).bind fun _ n₁ hrun₁ => ?_
  refine ((simulates_onPart _).at n₁).bind fun _ n₂ hrun₂ => ?_
  have hlimiter : n₂.discoveryForwardLimiter = n.discoveryForwardLimiter := by
    cases hrun₁
    cases hrun₂
    rfl
  refine SimulatesFrom.read_bind (SimulatesFrom.ite Iff.rfl (fun _ => ?_) fun _ => ?_)
  · exact (simulates_onPart _).at n₂
  · refine SimulatesFrom.ite Iff.rfl (fun _ => ?_) fun _ => rfl
    -- the limiter is asked first, which the part does not see
    refine SimulatesFrom.ite (t := (shouldForward env request.target n₂ : _ × Result Unit Bool).1) ?_
      (fun _ => rfl) fun _ => ?_
    · unfold answers
      rw [hlimiter]
    · rw [forwardLookupRequest_answers]
      exact (simulates_onPart _).at _

/-- **Lookups** start as those of a node whose environment has the backoff's answers. -/
theorem simulatesFrom_maybeInitiateLookup (dest : NodeAddr) :
    SimulatesFrom lookupPart n (maybeInitiateLookup env dest : M SecretKey PublicKey ν μ ε Unit)
      (LookupNode.maybeInitiateLookup (n.answers env) dest) := by
  refine SimulatesFrom.body (SimulatesFrom.read_bind ?_)
  refine SimulatesFrom.ite Iff.rfl (fun _ => rfl) fun _ => ?_
  refine SimulatesFrom.ite Iff.rfl (fun _ => rfl) fun _ => ?_
  refine SimulatesFrom.ite Iff.rfl (fun _ => rfl) fun _ => ?_
  rw [initiateLookup_answers]
  refine (Simulates.silent_then (fun _ => rfl) ?_).at n
  refine (simulates_onPart _).bind fun _ => (simulates_onPart _).bind fun sent => ?_
  refine Simulates.ite ?_ (simulates_pure ())
  exact (simulates_onPart _).then_silent fun _ => rfl

theorem timeOutLookups_part (targets : List NodeAddr) (m : PacedNode SecretKey PublicKey ν μ) :
    (targets.foldl (timeOutLookup env) m).toLookupNode =
      targets.foldl LookupNode.timeOutLookup m.toLookupNode := by
  induction targets generalizing m with
  | nil => rfl
  | cons target targets ih => exact ih (timeOutLookup env m target)

theorem simulates_checkPendingLookups : Simulates lookupPart
    (checkPendingLookups env : M SecretKey PublicKey ν μ ε Unit) (LookupNode.checkPendingLookups env) := by
  intro n
  have hrest : Simulates lookupPart (do
      onLookups (LookupNode.retryLookups env (n.lookupsWhere (n.lookupWantsRetry env.nowMs)))
      write fun m => (n.lookupsWhere (n.lookupTimedOut env.nowMs)).foldl (timeOutLookup env) m :
        M SecretKey PublicKey ν μ ε Unit) (do
      LookupNode.retryLookups env (n.lookupsWhere (n.lookupWantsRetry env.nowMs))
      write fun m => (n.lookupsWhere (n.lookupTimedOut env.nowMs)).foldl LookupNode.timeOutLookup m) := by
    refine (simulates_onPart _).bind fun _ m => ?_
    exact congrArg (fun m => (m, (.ok () : Result ε Unit))) (timeOutLookups_part _ m)
  exact hrest n

variable [Sha256] [HkdfSha256] [Secp256k1 SecretKey PublicKey] [SessionMmp μ]
  [VerifyingKey PublicKey Signature]

omit [SchnorrEncoding Signature] [SigningKey SecretKey Signature] in
theorem simulates_acceptResponse (response : LookupResponse Signature) : Simulates lookupPart
    (acceptResponse env response : Handler SecretKey PublicKey ν μ Unit)
    (LookupNode.acceptResponse env response) := by
  intro n
  unfold acceptResponse
  cases hkey : env.lookupByFipsPrefix (LookupNode.fipsPrefix response.target) with
  | none =>
    unfold LookupNode.acceptResponse
    rw [hkey]
    rfl
  | some identity =>
    by_cases hverify : (!VerifyingKey.verify identity.2 response.proof
        (LookupResponse.proofBytes response.requestId response.target response.targetCoords)) = true
    · unfold LookupNode.acceptResponse
      rw [hkey]
      change SimulatesFrom lookupPart n (if _ then _ else _) (if _ then _ else _)
      rw [if_pos hverify, if_pos hverify]
      exact rfl
    · change SimulatesFrom lookupPart n (if _ then _ else _) _
      rw [if_neg hverify]
      exact (Simulates.silent_then (fun _ => rfl) (simulates_onPart _)).at n

omit [SigningKey SecretKey Signature] in
/-- **Responses.** -/
theorem simulates_handleLookupResponse (payload : Bytes) : Simulates lookupPart
    (handleLookupResponse env Signature payload : Handler SecretKey PublicKey ν μ Unit)
    (LookupNode.handleLookupResponse env Signature payload) := by
  refine Simulates.body ((simulates_orReturn _).bind fun response n => ?_)
  cases hrecent : n.recentRequests.lookup response.requestId with
  | some recent =>
    have hpass : onLookupResponse env response n =
        onLookups (LookupNode.onLookupResponse env response) n := by
      change (match n.recentRequests.lookup response.requestId with
        | some _ => onLookups (LookupNode.onLookupResponse env response)
        | none => _) n = _
      rw [hrecent]
    rw [hpass]
    exact simulates_onPart _ n
  | none =>
    refine SimulatesFrom.read_bind (t := n) ?_
    dsimp only [lookupPart]
    rw [hrecent]
    exact ((simulates_onPart _).bind fun _ => simulates_acceptResponse response) n

end Simulation

end PacedNode

end Fips
