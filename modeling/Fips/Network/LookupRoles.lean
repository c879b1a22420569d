import Fips.Lib.Run
import Fips.Node.LookupSends
import Fips.Node.Sample

/-!
# Who a lookup response belongs to

A network of nodes that look each other up. A run delivers any lookup message a node once sent to
the node it was sent to, at any time and any number of times, so messages may be lost, reordered and
duplicated. In between the nodes start lookups of their own, tick, and do anything else that leaves
the recorded ids alone (`rest`). Filters, tree positions, rate limits and the outcome of each send are
those of the events, so any. The clock stays within the expiry window of the recorded ids.

A node that requested an id does not record it, and takes a response whose id it has not recorded as
its own (`node/handlers/discovery.rs:342-345`). A request is passed on to every tree peer whose filter
matches, the sender included, so a copy may come back to the node that asked; that copy is recorded.

## Results

* `Acted.*_step`: what one event of one node does to the ids it knows.
* `Inv.next`: every message in flight carries an id that its sender knows, and a response one that
  its receiver knows, as long as no node is handed an id it requested.
* `rolesKept_of_unreturned`: in every run without such a delivery the nodes take exactly the responses
  to their own requests as theirs, and pass on none of these.
* `rolesLost_returned`: a run with such a delivery in which the node that asked passes the answer on.
-/

open Checked EventRun

namespace Fips

/-- What may happen to the lookups of a node. -/
inductive LookupEvent (SecretKey PublicKey ν μ : Type)
  | lookup (env : LookupEnv SecretKey PublicKey) (dest : NodeAddr)
  | checkPendingLookups (env : LookupEnv SecretKey PublicKey)
  | request (env : LookupEnv SecretKey PublicKey) (source : NodeAddr) (payload : Bytes)
  | response (env : LookupEnv SecretKey PublicKey) (source : NodeAddr) (payload : Bytes)
  | rest (n' : LookupNode SecretKey PublicKey ν μ)

namespace LookupNode

variable {SecretKey PublicKey ν μ : Type}

section Step

variable [Sha256] [HkdfSha256] [Secp256k1 SecretKey PublicKey] [SessionMmp μ]
variable (Signature : Type) [SchnorrEncoding Signature] [SigningKey SecretKey Signature]
  [VerifyingKey PublicKey Signature]

/-- One event. -/
def step (n : LookupNode SecretKey PublicKey ν μ) :
    LookupEvent SecretKey PublicKey ν μ → LookupNode SecretKey PublicKey ν μ
  | .lookup env dest => (maybeInitiateLookup env dest n : _ × Result Unit Unit).1
  | .checkPendingLookups env => (checkPendingLookups env n : _ × Result Unit Unit).1
  | .request env source payload => (handleLookupRequest env Signature source payload n).1
  | .response env _ payload => (handleLookupResponse env Signature payload n).1
  | .rest n' => n'

end Step

/-! ## One event of one node -/

/-- What an event does to the ids a node knows: it may record one id (`learned`), take responses
(`uses`) and request ids of its own (`drawn`). -/
structure Moved (learned : Option (Nat × NodeAddr × Nat)) (uses : List ResponseUse)
    (drawn : Nat → Prop) (n n' : LookupNode SecretKey PublicKey ν μ) : Prop where
  identity : n'.identity = n.identity
  lookupConfig : n'.lookupConfig = n.lookupConfig
  kept : ∀ r o, n.origin r = some o → n'.origin r = some o
  learned : ∀ r o, n'.origin r = some o → n.origin r = some o ∨ learned = some (r, o)
  originated : n.originated ⊆ n'.originated
  drawn : ∀ r ∈ n'.originated, r ∈ n.originated ∨ drawn r
  responses : n'.responses = n.responses ++ uses

/-- A handler besides sends lookup messages, which carry what they may. -/
structure Acted (Signature : Type) [SchnorrEncoding Signature]
    (learned : Option (Nat × NodeAddr × Nat)) (uses : List ResponseUse) (drawn : Nat → Prop)
    (n n' : LookupNode SecretKey PublicKey ν μ) : Prop extends Moved learned uses drawn n n' where
  carries : ∀ nextHop message ce,
    .sentLinkMessage nextHop message ce ∈ n'.effects.drop n.effects.length →
    n'.Carries Signature nextHop message

variable {Signature : Type} [SchnorrEncoding Signature] {drawn : Nat → Prop}
  {n m n' : LookupNode SecretKey PublicKey ν μ}

theorem Acted.refl : Acted Signature none [] drawn n n where
  identity := rfl
  lookupConfig := rfl
  kept _ _ h := h
  learned _ _ h := .inl h
  originated := List.Subset.refl _
  drawn _ hr := .inl hr
  responses := (List.append_nil _).symm
  carries nextHop message ce h := by
    rw [List.drop_length] at h
    cases h

/-- An event that records, and then only sends. -/
theorem Acted.of_sending {learned : Option (Nat × NodeAddr × Nat)} {uses : List ResponseUse}
    (hnode : m.toNode = n.toNode) (hconfig : m.lookupConfig = n.lookupConfig)
    (hkept : ∀ r o, n.origin r = some o → m.origin r = some o)
    (hlearned : ∀ r o, m.origin r = some o → n.origin r = some o ∨ learned = some (r, o))
    (horiginated : m.originated = n.originated) (hresponses : m.responses = n.responses ++ uses)
    (h : Sending Signature drawn m n') : Acted Signature learned uses drawn n n' where
  identity := by rw [h.sent.identity, hnode]
  lookupConfig := h.lookupConfig.trans hconfig
  kept r o ho := by
    unfold origin
    rw [h.recent]
    exact hkept r o ho
  learned r o ho := by
    unfold origin at ho
    rw [h.recent] at ho
    exact hlearned r o ho
  originated := horiginated ▸ h.originated
  drawn := horiginated ▸ h.drawn
  responses := h.responses.trans hresponses
  carries nextHop message ce hmem := by
    obtain ⟨new, hnew, hP⟩ := h.sent.effects
    rw [hnew, hnode, List.drop_left] at hmem
    exact hP _ hmem nextHop message ce rfl

theorem knows_of_origin {r : Nat} {o : NodeAddr × Nat} (h : n.origin r = some o) : n.Knows r := by
  obtain ⟨recent, hrecent, -⟩ := Option.map_eq_some_iff.mp h
  exact .inr (by rw [hrecent]; rfl)

theorem Moved.knows {learned : Option (Nat × NodeAddr × Nat)} {uses : List ResponseUse}
    (h : Moved learned uses drawn n n') {r : Nat} (hr : n.Knows r) : n'.Knows r := by
  rcases hr with hown | hrecent
  · exact .inl (h.originated hown)
  · obtain ⟨recent, hrecent⟩ := Option.isSome_iff_exists.mp hrecent
    exact knows_of_origin (h.kept r (recent.fromPeer, recent.timestampMs)
      (Option.map_eq_some_iff.mpr ⟨recent, hrecent, rfl⟩))

section Steps

variable (env : LookupEnv SecretKey PublicKey)

theorem Acted.lookup_step (dest : NodeAddr) :
    Acted Signature none [] (· = (env.requestId dest).toNat) n
      (maybeInitiateLookup env dest n : _ × Result Unit Unit).1 :=
  .of_sending rfl rfl (fun _ _ h => h) (fun _ _ h => .inl h) rfl (List.append_nil _).symm
    (fst_of_wp (sending_maybeInitiateLookup env dest rfl .refl))

theorem Acted.checkPendingLookups_step :
    Acted Signature none [] (fun r => ∃ target, r = (env.requestId target).toNat) n
      (checkPendingLookups env n : _ × Result Unit Unit).1 :=
  .of_sending rfl rfl (fun _ _ h => h) (fun _ _ h => .inl h) rfl (List.append_nil _).symm
    (fst_of_wp (sending_checkPendingLookups env (fun target => ⟨target, rfl⟩) .refl))

/-- Within the window nothing recorded expires. -/
theorem origin_recorded {source : NodeAddr} {requestId start : Nat}
    (hold : ∀ r o, n.origin r = some o → start ≤ o.2)
    (hwindow : env.nowMs ≤ start + n.lookupConfig.recentExpirySecs * 1000) (r : Nat) :
    (n.recorded env source requestId).origin r =
      if r = requestId then some (source, env.nowMs) else n.origin r := by
  unfold recorded purgeExpiredRequests origin
  rw [Map.lookup_filterMap, Map.lookup_insert']
  split_ifs with hr
  · simp [RecentRequest.isExpired, RecentRequest.new]
  · cases hrecent : n.recentRequests.lookup r with
    | none => rfl
    | some recent =>
      have hstart := hold r (recent.fromPeer, recent.timestampMs)
        (Option.map_eq_some_iff.mpr ⟨recent, hrecent, rfl⟩)
      have hfresh : recent.isExpired env.nowMs (n.lookupConfig.recentExpirySecs * 1000) = false := by
        simp only [RecentRequest.isExpired, decide_eq_false_iff_not, not_lt]
        omega
      simp [hfresh]

variable [SigningKey SecretKey Signature]

/-- What is recorded of a delivered request: its sender, under its id. -/
def LearnedFrom (env : LookupEnv SecretKey PublicKey) (source : NodeAddr) (payload : Bytes)
    (learned : Option (Nat × NodeAddr × Nat)) : Prop :=
  ∀ r o, learned = some (r, o) → o = (source, env.nowMs) ∧
    ∃ request, LookupRequest.decode payload = .ok request ∧ request.requestId = r

/-- A request is a duplicate, malformed, or recorded under its id. -/
theorem Acted.request_step {source : NodeAddr} {payload : Bytes} {start : Nat}
    (hold : ∀ r o, n.origin r = some o → start ≤ o.2)
    (hwindow : env.nowMs ≤ start + n.lookupConfig.recentExpirySecs * 1000) :
    ∃ learned, Acted Signature learned [] (fun _ => False) n
        (handleLookupRequest env Signature source payload n).1 ∧
      LearnedFrom env source payload learned := by
  have hnothing : ∃ learned, Acted Signature learned [] (fun _ => False) n n ∧
      LearnedFrom env source payload learned := ⟨none, .refl, fun r o h => by cases h⟩
  refine fst_of_wp (P := fun n' => ∃ learned, Acted Signature learned [] (fun _ => False) n n' ∧
    LearnedFrom env source payload learned) ?_
  unfold handleLookupRequest
  refine wp_body_of_wp ?_
  rw [wp_bind_iff, wp_orReturn_iff]
  refine ⟨fun request hdecode => ?_, fun _ => hnothing, fun _ => hnothing⟩
  have hid : request.requestId < 256 ^ 8 := lt_of_leAt (LookupRequest.requestId_of_decode hdecode)
  cases hfree : n.recentRequests.lookup request.requestId with
  | some recent =>
    have hdup : wp (onLookupRequest env Signature source request) (fun _ n' => n' = n)
        (fun _ n' => n' = n) n := by
      unfold onLookupRequest
      rw [wp_bind_iff, wp_read_iff, hfree]
      rfl
    refine wp_mono (fun _ n' hn' => ?_) (fun _ n' hn' => ?_) hdup
    · rw [hn']
      exact hnothing
    · rw [hn']
      exact hnothing
  | none =>
    -- recording overwrites nothing: the id was not there
    have hrecorded : ∀ n' : LookupNode SecretKey PublicKey ν μ,
        Sending Signature (fun _ => False) (n.recorded env source request.requestId) n' →
        ∃ learned, Acted Signature learned [] (fun _ => False) n n' ∧
          LearnedFrom env source payload learned := by
      intro n' hn'
      refine ⟨some (request.requestId, source, env.nowMs),
        .of_sending (m := n.recorded env source request.requestId) rfl rfl ?_ ?_ rfl
        (List.append_nil _).symm hn', ?_⟩
      · intro r o ho
        rw [origin_recorded env hold hwindow, if_neg]
        · exact ho
        · rintro rfl
          unfold origin at ho
          rw [hfree] at ho
          cases ho
      · intro r o ho
        rw [origin_recorded env hold hwindow] at ho
        split_ifs at ho with hr
        · subst hr
          exact .inr (by rw [← Option.some.inj ho])
        · exact .inl ho
      · intro r o h
        cases h
        exact ⟨rfl, request, hdecode, rfl⟩
    refine wp_mono (fun _ n' hn' => hrecorded n' hn') (fun _ n' hn' => ?_)
      (onLookupRequest_spec env source hid)
    rcases hn' with ⟨rfl, -⟩ | hn'
    · exact hnothing
    · exact hrecorded n' hn'

end Steps

section Response

variable (env : LookupEnv SecretKey PublicKey)
variable [Sha256] [HkdfSha256] [Secp256k1 SecretKey PublicKey] [SessionMmp μ]
variable [VerifyingKey PublicKey Signature]

/-- How a response is taken: by what is recorded of its id. -/
def TakenAs (Signature : Type) [SchnorrEncoding Signature] (n : LookupNode SecretKey PublicKey ν μ)
    (payload : Bytes) (uses : List ResponseUse) : Prop :=
  ∀ use ∈ uses, ∃ response : LookupResponse Signature, LookupResponse.decode payload = .ok response ∧
    use = if (n.recentRequests.lookup response.requestId).isSome
      then .transit response.requestId else .own response.requestId

/-- A response is malformed, or taken as what the recorded ids say. -/
theorem Acted.response_step (payload : Bytes) :
    ∃ uses, Acted Signature none uses (fun _ => False) n
        (handleLookupResponse env Signature payload n).1 ∧ TakenAs Signature n payload uses := by
  have hnothing : ∃ uses, Acted Signature none uses (fun _ => False) n n ∧
      TakenAs Signature n payload uses := ⟨[], .refl, fun use h => by cases h⟩
  refine fst_of_wp (P := fun n' => ∃ uses, Acted Signature none uses (fun _ => False) n n' ∧
    TakenAs Signature n payload uses) ?_
  unfold handleLookupResponse
  refine wp_body_of_wp ?_
  rw [wp_bind_iff, wp_orReturn_iff]
  refine ⟨fun response hdecode => ?_, fun _ => hnothing, fun _ => hnothing⟩
  have hid : response.requestId < 256 ^ 8 :=
    lt_of_leAt (LookupResponse.requestId_of_decode hdecode)
  have hmoved : ∀ n' : LookupNode SecretKey PublicKey ν μ,
      (∃ m, Took (if (n.recentRequests.lookup response.requestId).isSome
        then .transit response.requestId else .own response.requestId) n m ∧
        Sending Signature (fun _ => False) m n') →
      ∃ uses, Acted Signature none uses (fun _ => False) n n' ∧ TakenAs Signature n payload uses := by
    rintro n' ⟨m, htook, hn'⟩
    refine ⟨_, .of_sending htook.toNode htook.lookupConfig (fun r o ho => ?_) (fun r o ho => .inl ?_)
      htook.originated htook.responses hn', fun use huse => ?_⟩
    · rwa [htook.origin]
    · rwa [htook.origin] at ho
    · rw [List.mem_singleton.mp huse]
      exact ⟨response, hdecode, rfl⟩
  exact wp_mono (fun _ n' hn' => hmoved n' hn') (fun _ n' hn' => hmoved n' hn')
    (onLookupResponse_spec env hid)

end Response

end LookupNode

/-! ## The network -/

/-- Nodes with distinct addresses. -/
structure LookupNetwork (ι SecretKey : Type) where
  identity : ι → Identity SecretKey
  startupEpoch : ι → Epoch
  config : ι → NodeConfig
  lookupConfig : ι → LookupConfig
  timestamp : ι → Nat
  addr_injective : Function.Injective fun i => (identity i).nodeAddr

/-- The nodes, and every link message a lookup event ever sent: its sender, the address it was sent
to, the message. -/
structure LookupNetState (ι SecretKey PublicKey ν μ : Type) where
  nodes : ι → LookupNode SecretKey PublicKey ν μ
  sent : List (ι × NodeAddr × Bytes)

namespace LookupNetwork

variable {ι SecretKey PublicKey ν μ : Type} (net : LookupNetwork ι SecretKey)

/-- The address of a node. -/
def addr (i : ι) : NodeAddr := (net.identity i).nodeAddr

/-- Every node as it starts, and nothing sent. -/
def start : LookupNetState ι SecretKey PublicKey ν μ where
  nodes i := .new (net.identity i) (net.startupEpoch i) (net.config i) (net.lookupConfig i)
    (net.timestamp i)
  sent := []

/-- The clock of an event is within the expiry window that began at `t₀`. -/
def InWindow (t₀ : Nat) (i : ι) (env : LookupEnv SecretKey PublicKey) : Prop :=
  t₀ ≤ env.nowMs ∧ env.nowMs ≤ t₀ + (net.lookupConfig i).recentExpirySecs * 1000

/-- The events a node can meet. Events of the rest of the node leave the recorded ids alone. -/
def Allows (t₀ : Nat) (s : LookupNetState ι SecretKey PublicKey ν μ) (i : ι) :
    LookupEvent SecretKey PublicKey ν μ → Prop
  | .lookup env _ => net.InWindow t₀ i env
  | .checkPendingLookups env => net.InWindow t₀ i env
  | .request env source payload => net.InWindow t₀ i env ∧
    ∃ j, source = net.addr j ∧ (j, net.addr i, 0x30 :: payload) ∈ s.sent
  | .response env source payload => net.InWindow t₀ i env ∧
    ∃ j, source = net.addr j ∧ (j, net.addr i, 0x31 :: payload) ∈ s.sent
  | .rest n' => n'.identity = (s.nodes i).identity ∧
    n'.lookupConfig = (s.nodes i).lookupConfig ∧
    n'.recentRequests = (s.nodes i).recentRequests ∧
    n'.originated = (s.nodes i).originated ∧ n'.responses = (s.nodes i).responses

/-- The node is not handed an id it requested, and requests none it was handed. -/
def Unreturned (s : LookupNetState ι SecretKey PublicKey ν μ) (i : ι) :
    LookupEvent SecretKey PublicKey ν μ → Prop
  | .lookup env dest => (s.nodes i).recentRequests.lookup (env.requestId dest).toNat = none
  | .checkPendingLookups env =>
    ∀ target, (s.nodes i).recentRequests.lookup (env.requestId target).toNat = none
  | .request _ _ payload => ∀ r, LookupRequest.decode payload = .ok r →
    r.requestId ∉ (s.nodes i).originated
  | _ => True

/-- The link messages among the new effects of node `i`. -/
def outgoing (i : ι) (effects : List (Effect PublicKey)) : List (ι × NodeAddr × Bytes) :=
  effects.filterMap fun
    | .sentLinkMessage nextHop message _ => some (i, nextHop, message)
    | _ => none

theorem mem_outgoing {i j : ι} {a : NodeAddr} {message : Bytes} {effects : List (Effect PublicKey)}
    (h : (j, a, message) ∈ outgoing i effects) :
    j = i ∧ ∃ ce, .sentLinkMessage a message ce ∈ effects := by
  obtain ⟨e, he, hm⟩ := List.mem_filterMap.mp h
  cases e with
  | sentLinkMessage nextHop m ce =>
    cases hm
    exact ⟨rfl, ce, he⟩
  | _ => cases hm

section Run

variable [DecidableEq ι]
variable [Sha256] [HkdfSha256] [Secp256k1 SecretKey PublicKey] [SessionMmp μ]
variable (Signature : Type) [SchnorrEncoding Signature] [SigningKey SecretKey Signature]
  [VerifyingKey PublicKey Signature]

/-- Node `i` takes one event. What the rest of the node sends is no lookup message. -/
def next (s : LookupNetState ι SecretKey PublicKey ν μ)
    (e : ι × LookupEvent SecretKey PublicKey ν μ) : LookupNetState ι SecretKey PublicKey ν μ where
  nodes := Function.update s.nodes e.1 ((s.nodes e.1).step Signature e.2)
  sent := match e.2 with
    | .rest _ => s.sent
    | _ => s.sent ++ outgoing e.1 (((s.nodes e.1).step Signature e.2).effects.drop
        (s.nodes e.1).effects.length)

end Run

/-! ## The invariant of a run -/

/-- Ids are known where they have to be. -/
structure Inv (Signature : Type) [SchnorrEncoding Signature] (t₀ : Nat)
    (s : LookupNetState ι SecretKey PublicKey ν μ) : Prop where
  identity : ∀ i, (s.nodes i).identity = net.identity i
  lookupConfig : ∀ i, (s.nodes i).lookupConfig = net.lookupConfig i
  origin : ∀ i r o, (s.nodes i).origin r = some o →
    t₀ ≤ o.2 ∧ ∃ j, o.1 = net.addr j ∧ (s.nodes j).Knows r
  request : ∀ i a payload r, (i, a, 0x30 :: payload) ∈ s.sent →
    LookupRequest.decode payload = .ok r → (s.nodes i).Knows r.requestId
  response : ∀ i a payload (r : LookupResponse Signature), (i, a, 0x31 :: payload) ∈ s.sent →
    LookupResponse.decode payload = .ok r →
    ((s.nodes i).origin r.requestId).isSome ∧
      ∀ j, net.addr j = a → (s.nodes j).Knows r.requestId
  apart : ∀ i, ∀ r ∈ (s.nodes i).originated, (s.nodes i).origin r = none
  own : ∀ i r, .own r ∈ (s.nodes i).responses → r ∈ (s.nodes i).originated
  transit : ∀ i r, .transit r ∈ (s.nodes i).responses → ((s.nodes i).origin r).isSome

section Inv

variable {net} {Signature : Type} [SchnorrEncoding Signature] {t₀ : Nat}
  {s : LookupNetState ι SecretKey PublicKey ν μ} {i : ι}

theorem inv_start : net.Inv Signature t₀ (net.start : LookupNetState ι SecretKey PublicKey ν μ) where
  identity _ := rfl
  lookupConfig _ := rfl
  origin _ _ _ h := by cases h
  request _ _ _ _ h := by cases h
  response _ _ _ _ h := by cases h
  apart _ _ h := by cases h
  own _ _ h := by cases h
  transit _ _ h := by cases h

variable [DecidableEq ι]

/-- **One node moves.** What it records, it was sent under an id the sender knows and that is none
of its own; what it requests, it has not recorded. -/
theorem Inv.moved (h : net.Inv Signature t₀ s) {n' : LookupNode SecretKey PublicKey ν μ}
    {learned : Option (Nat × NodeAddr × Nat)} {uses : List ResponseUse} {drawn : Nat → Prop}
    {out : List (ι × NodeAddr × Bytes)}
    (hm : LookupNode.Moved learned uses drawn (s.nodes i) n')
    (hout : ∀ j a message, (j, a, message) ∈ out → j = i ∧ n'.Carries Signature a message)
    (hlearned : ∀ r o, learned = some (r, o) → t₀ ≤ o.2 ∧
      (∃ j, o.1 = net.addr j ∧ (s.nodes j).Knows r) ∧ r ∉ (s.nodes i).originated ∧ ¬ drawn r)
    (hdrawn : ∀ r, drawn r → (s.nodes i).origin r = none)
    (hown : ∀ r, .own r ∈ uses → r ∈ (s.nodes i).originated)
    (htransit : ∀ r, .transit r ∈ uses → ((s.nodes i).origin r).isSome) :
    net.Inv Signature t₀ ⟨Function.update s.nodes i n', s.sent ++ out⟩ := by
  have hknows : ∀ j r, (s.nodes j).Knows r → (Function.update s.nodes i n' j).Knows r := by
    intro j r hr
    by_cases hj : j = i
    · subst hj
      rw [Function.update_self]
      exact hm.knows hr
    · rwa [Function.update_of_ne hj]
  have hkept : ∀ j r o, (s.nodes j).origin r = some o →
      (Function.update s.nodes i n' j).origin r = some o := by
    intro j r o ho
    by_cases hj : j = i
    · subst hj
      rw [Function.update_self]
      exact hm.kept r o ho
    · rwa [Function.update_of_ne hj]
  have hkeptSome : ∀ j r, ((s.nodes j).origin r).isSome →
      ((Function.update s.nodes i n' j).origin r).isSome := by
    intro j r hr
    obtain ⟨o, ho⟩ := Option.isSome_iff_exists.mp hr
    rw [hkept j r o ho]
    rfl
  have horigin : ∀ j r o, (Function.update s.nodes i n' j).origin r = some o →
      t₀ ≤ o.2 ∧ ∃ k, o.1 = net.addr k ∧ (Function.update s.nodes i n' k).Knows r := by
    intro j r o ho
    have hbefore : t₀ ≤ o.2 ∧ ∃ k, o.1 = net.addr k ∧ (s.nodes k).Knows r := by
      by_cases hj : j = i
      · subst hj
        rw [Function.update_self] at ho
        rcases hm.learned r o ho with hold | hnew
        · exact h.origin j r o hold
        · exact ⟨(hlearned r o hnew).1, (hlearned r o hnew).2.1⟩
      · rw [Function.update_of_ne hj] at ho
        exact h.origin j r o ho
    obtain ⟨ht, k, hk, hknown⟩ := hbefore
    exact ⟨ht, k, hk, hknows k r hknown⟩
  refine ⟨fun j => ?_, fun j => ?_, horigin, fun j a payload r hmem hr => ?_,
    fun j a payload r hmem hr => ?_, fun j r hr => ?_, fun j r hr => ?_, fun j r hr => ?_⟩
  · by_cases hj : j = i
    · subst hj
      simpa using hm.identity.trans (h.identity j)
    · simpa [hj] using h.identity j
  · by_cases hj : j = i
    · subst hj
      simpa using hm.lookupConfig.trans (h.lookupConfig j)
    · simpa [hj] using h.lookupConfig j
  · rcases List.mem_append.mp hmem with hold | hnew
    · exact hknows j _ (h.request j a payload r hold hr)
    · obtain ⟨rfl, hc⟩ := hout j a _ hnew
      simpa using hc.request payload r rfl hr
  · rcases List.mem_append.mp hmem with hold | hnew
    · obtain ⟨hsome, hto⟩ := h.response j a payload r hold hr
      exact ⟨hkeptSome j _ hsome, fun k hk => hknows k _ (hto k hk)⟩
    · obtain ⟨rfl, hc⟩ := hout j a _ hnew
      obtain ⟨recent, hrecent, hhop⟩ := hc.response payload r rfl hr
      have ho : (Function.update s.nodes j n' j).origin r.requestId =
          some (recent.fromPeer, recent.timestampMs) := by
        rw [Function.update_self]
        exact Option.map_eq_some_iff.mpr ⟨recent, hrecent, rfl⟩
      obtain ⟨-, k, hk, hknown⟩ := horigin j _ _ ho
      refine ⟨by rw [ho]; rfl, fun k' hk' => ?_⟩
      have hsame : k' = k := net.addr_injective (hk'.trans (hhop.symm.trans hk))
      rwa [hsame]
  · by_cases hj : j = i
    · subst hj
      simp only [Function.update_self] at hr ⊢
      refine Option.eq_none_iff_forall_ne_some.mpr fun o ho => ?_
      rcases hm.learned r o ho with hold | hnew
      · rcases hm.drawn r hr with hbefore | hdraw
        · rw [h.apart j r hbefore] at hold
          cases hold
        · rw [hdrawn r hdraw] at hold
          cases hold
      · obtain ⟨-, -, hnotOwn, hnotDrawn⟩ := hlearned r o hnew
        exact (hm.drawn r hr).elim hnotOwn hnotDrawn
    · simp only [Function.update_of_ne hj] at hr ⊢
      exact h.apart j r hr
  · by_cases hj : j = i
    · subst hj
      simp only [Function.update_self, hm.responses] at hr ⊢
      exact hm.originated ((List.mem_append.mp hr).elim (h.own j r) (hown r))
    · simp only [Function.update_of_ne hj] at hr ⊢
      exact h.own j r hr
  · refine hkeptSome j r ?_
    by_cases hj : j = i
    · subst hj
      simp only [Function.update_self, hm.responses] at hr
      exact (List.mem_append.mp hr).elim (h.transit j r) (htransit r)
    · simp only [Function.update_of_ne hj] at hr
      exact h.transit j r hr

/-- A handler of node `i` ran. -/
theorem Inv.acted (h : net.Inv Signature t₀ s) {n' : LookupNode SecretKey PublicKey ν μ}
    {learned : Option (Nat × NodeAddr × Nat)} {uses : List ResponseUse} {drawn : Nat → Prop}
    (hm : LookupNode.Acted Signature learned uses drawn (s.nodes i) n')
    (hlearned : ∀ r o, learned = some (r, o) → t₀ ≤ o.2 ∧
      (∃ j, o.1 = net.addr j ∧ (s.nodes j).Knows r) ∧ r ∉ (s.nodes i).originated ∧ ¬ drawn r)
    (hdrawn : ∀ r, drawn r → (s.nodes i).origin r = none)
    (hown : ∀ r, .own r ∈ uses → r ∈ (s.nodes i).originated)
    (htransit : ∀ r, .transit r ∈ uses → ((s.nodes i).origin r).isSome) :
    net.Inv Signature t₀ ⟨Function.update s.nodes i n',
      s.sent ++ outgoing i (n'.effects.drop (s.nodes i).effects.length)⟩ := by
  refine h.moved hm.toMoved (fun j a message hmem => ?_) hlearned hdrawn hown htransit
  obtain ⟨rfl, ce, he⟩ := mem_outgoing hmem
  exact ⟨rfl, hm.carries a message ce he⟩

variable [Sha256] [HkdfSha256] [Secp256k1 SecretKey PublicKey] [SessionMmp μ]
variable [SigningKey SecretKey Signature] [VerifyingKey PublicKey Signature]

/-- **One event** keeps the invariant, unless it hands a node an id it requested. -/
theorem Inv.next (h : net.Inv Signature t₀ s) {e : ι × LookupEvent SecretKey PublicKey ν μ}
    (he : net.Allows t₀ s e.1 e.2) (hret : Unreturned s e.1 e.2) :
    net.Inv Signature t₀ (next Signature s e) := by
  obtain ⟨i, e⟩ := e
  have hnone : ∀ r, (s.nodes i).recentRequests.lookup r = none → (s.nodes i).origin r = none := by
    intro r hr
    unfold LookupNode.origin
    rw [hr]
    rfl
  cases e with
  | lookup env dest =>
    refine h.acted (.lookup_step env dest) (fun r o hr => by cases hr) (fun r hr => ?_)
      (fun r hr => by cases hr) fun r hr => by cases hr
    rw [hr]
    exact hnone _ hret
  | checkPendingLookups env =>
    refine h.acted (.checkPendingLookups_step env) (fun r o hr => by cases hr) (fun r hr => ?_)
      (fun r hr => by cases hr) fun r hr => by cases hr
    obtain ⟨target, rfl⟩ := hr
    exact hnone _ (hret target)
  | request env source payload =>
    obtain ⟨⟨ht, hwindow⟩, j, rfl, hsent⟩ := he
    rw [← h.lookupConfig i] at hwindow
    obtain ⟨learned, hm, hfrom⟩ : ∃ learned, LookupNode.Acted Signature learned [] (fun _ => False)
        (s.nodes i) (LookupNode.handleLookupRequest env Signature (net.addr j) payload
          (s.nodes i)).1 ∧ LookupNode.LearnedFrom env (net.addr j) payload learned :=
      LookupNode.Acted.request_step env (fun r o ho => (h.origin i r o ho).1) hwindow
    refine h.acted hm (fun r o hr => ?_) (fun r hr => hr.elim) (fun r hr => by cases hr)
      fun r hr => by cases hr
    obtain ⟨rfl, request, hdecode, rfl⟩ := hfrom r o hr
    exact ⟨ht, ⟨j, rfl, h.request j _ _ _ hsent hdecode⟩, hret request hdecode, id⟩
  | response env source payload =>
    obtain ⟨-, j, -, hsent⟩ := he
    obtain ⟨uses, hm, htaken⟩ : ∃ uses, LookupNode.Acted Signature none uses (fun _ => False)
        (s.nodes i) (LookupNode.handleLookupResponse env Signature payload (s.nodes i)).1 ∧
        LookupNode.TakenAs Signature (s.nodes i) payload uses :=
      LookupNode.Acted.response_step env payload
    refine h.acted hm (fun r o hr => by cases hr) (fun r hr => hr.elim) (fun r hr => ?_)
      fun r hr => ?_
    · obtain ⟨response, hdecode, huse⟩ := htaken _ hr
      split_ifs at huse with hrecorded
      cases huse
      -- the receiver knows the id and has not recorded it
      exact ((h.response j _ _ _ hsent hdecode).2 i rfl).elim id fun hk => absurd hk hrecorded
    · obtain ⟨response, hdecode, huse⟩ := htaken _ hr
      split_ifs at huse with hrecorded
      cases huse
      unfold LookupNode.origin
      rwa [Option.isSome_map]
  | rest n' =>
    obtain ⟨hidentity, hconfig, hrecent, horiginated, hresponses⟩ := he
    have horigin : n'.origin = (s.nodes i).origin := by
      unfold LookupNode.origin
      rw [hrecent]
    have hm : LookupNode.Moved none [] (fun _ => False) (s.nodes i) n' :=
      ⟨hidentity, hconfig, fun r o ho => by rwa [horigin], fun r o ho => .inl (by rwa [← horigin]),
        horiginated ▸ List.Subset.refl _, fun r hr => .inl (horiginated ▸ hr),
        hresponses.trans (List.append_nil _).symm⟩
    have hmoved : net.Inv Signature t₀ ⟨Function.update s.nodes i n', s.sent ++ []⟩ :=
      h.moved hm (fun _ _ _ hmem => by cases hmem) (fun r o hr => by cases hr)
        (fun r hr => hr.elim) (fun r hr => by cases hr) fun r hr => by cases hr
    rwa [List.append_nil] at hmoved

end Inv

/-! ## Roles -/

/-- Every node takes exactly the responses to its own requests as its own, and sends no response to
one of them. -/
structure RolesKept (Signature : Type) [SchnorrEncoding Signature]
    (s : LookupNetState ι SecretKey PublicKey ν μ) : Prop where
  uses : ∀ i, ∀ use ∈ (s.nodes i).responses, use.isOwn ↔ use.requestId ∈ (s.nodes i).originated
  forwards : ∀ i a payload (r : LookupResponse Signature), (i, a, 0x31 :: payload) ∈ s.sent →
    LookupResponse.decode payload = .ok r → r.requestId ∉ (s.nodes i).originated

variable {net} {Signature : Type} [SchnorrEncoding Signature] {t₀ : Nat}

theorem Inv.rolesKept {s : LookupNetState ι SecretKey PublicKey ν μ} (h : net.Inv Signature t₀ s) :
    RolesKept Signature s where
  uses i use huse := by
    cases use with
    | own r => exact iff_of_true rfl (h.own i r huse)
    | transit r =>
      refine iff_of_false Bool.false_ne_true fun hr => ?_
      have hsome := h.transit i r huse
      rw [h.apart i r hr] at hsome
      cases hsome
  forwards i a payload r hmem hr hown := by
    have hsome := (h.response i a payload r hmem hr).1
    rw [h.apart i _ hown] at hsome
    cases hsome

variable [DecidableEq ι] [Sha256] [HkdfSha256] [Secp256k1 SecretKey PublicKey] [SessionMmp μ]
  [SigningKey SecretKey Signature] [VerifyingKey PublicKey Signature]

/-- **The originator rule** holds in every run in which no node is handed an id it requested. -/
theorem rolesKept_of_unreturned (net : LookupNetwork ι SecretKey) (t₀ : Nat)
    {es : List (ι × LookupEvent SecretKey PublicKey ν μ)}
    (hrun : Along (next Signature) (fun s e => net.Allows t₀ s e.1 e.2) net.start es)
    (hret : Along (next Signature) (fun s e => Unreturned s e.1 e.2) net.start es) :
    Always (next Signature) (RolesKept Signature) net.start es :=
  (Always.of_along (I := net.Inv Signature t₀) (fun _ _ hs he => hs.next he.1 he.2) inv_start
    (hrun.and hret)).mono fun _ hs => hs.rolesKept

end LookupNetwork

/-! ## A request that comes back -/

namespace Sample

/-- Who is in the network below. -/
inductive Station
  | one
  | two
  | three
  deriving DecidableEq

/-- The number of a station's address. -/
def Station.number : Station → Nat
  | .one => 1
  | .two => 2
  | .three => 3

/-- The nodes 1, 2 and 3, of which node 2 has links to the others. -/
def line : LookupNetwork Station Scalar where
  identity i := ⟨addr i.number, ⟨5⟩⟩
  startupEpoch _ := Sample.startupEpoch
  config _ := config
  lookupConfig _ := lookupConfig
  timestamp _ := 0
  addr_injective i j h := by
    cases i <;> cases j <;> first | rfl | exact absurd h (by decide)

/-- The states of the network of three. -/
abbrev LookupState := LookupNetState Station Scalar Point Unit Unit

/-- A step of the network of three. -/
abbrev LookupStep := Station × LookupEvent Scalar Point Unit Unit

/-- Node `i` has links to these nodes. -/
def linked (i : Station) (peers : List Nat) : LookupStep :=
  (i, .rest { (line.start : LookupState).nodes i with
    peers := peers.foldl (fun m p => m.insert (addr p) (peer p 0 0 (session .initiator 1 2 ⟨3⟩))) ∅ })

/-- Node 1 asks for node 3; the request as it is `hops` hops on. -/
def asked (hops : UInt8) : Bytes :=
  (LookupRequest.encode
    ⟨7, addr 3, addr 1, TreeCoordinate.rootWithMeta (addr 1) 1 0, 64 - hops, 0⟩).tail

/-- The answer with this path MTU. -/
def answered (pathMtu : Nat) : Bytes :=
  (LookupResponse.encode
    (⟨7, addr 3, pathMtu, TreeCoordinate.rootWithMeta (addr 3) 1 0, ()⟩ : LookupResponse Unit)).tail

/-- Node 1 asks node 2, which passes the request on to those that `reach` allows. -/
def askThrough (reach : NodeAddr → Bool) : List LookupStep :=
  [linked .one [2], linked .two [1, 3],
    (.one, .lookup (lookupEnv 1 0 7 fun _ => true) (addr 3)),
    (.two, .request (lookupEnv 2 1 0 reach) (addr 1) (asked 0))]

/-- The answer comes back through node 2. -/
def answerThrough : List LookupStep :=
  [(.three, .request (lookupEnv 3 2 0 fun _ => true) (addr 2) (asked 1)),
    (.two, .response (lookupEnv 2 3 0 fun _ => true) (addr 3) (answered 65535)),
    (.one, .response (lookupEnv 1 4 0 fun _ => true) (addr 2) (answered 1280))]

/-- Only node 3 is behind the filters. -/
def direct : List LookupStep := askThrough (· == addr 3) ++ answerThrough

/-- The filter of node 1 matches as well, and the copy it is sent arrives first. -/
def returned : List LookupStep :=
  askThrough (fun _ => true) ++ (.one, .request (lookupEnv 1 2 0 fun _ => true) (addr 2) (asked 1)) ::
    answerThrough

end Sample

namespace LookupNetwork

open Sample

theorem allows_direct : Along (next Unit) (fun s e => line.Allows 0 s e.1 e.2)
    (line.start : LookupState) direct := by
  refine ⟨⟨rfl, rfl, rfl, rfl, rfl⟩, ⟨rfl, rfl, rfl, rfl, rfl⟩, ⟨by decide, by decide⟩,
    ⟨⟨by decide, by decide⟩, .one, rfl, ?_⟩, ⟨⟨by decide, by decide⟩, .two, rfl, ?_⟩,
    ⟨⟨by decide, by decide⟩, .three, rfl, ?_⟩, ⟨⟨by decide, by decide⟩, .two, rfl, ?_⟩, trivial⟩
  all_goals decide +kernel

theorem unreturned_direct : Along (next Unit) (fun s e => Unreturned s e.1 e.2)
    (line.start : LookupState) direct := by
  have hnone : ∀ (n : LookupNode Scalar Point Unit Unit) (payload : Bytes), n.originated = [] →
      ∀ r, LookupRequest.decode payload = .ok r → r.requestId ∉ n.originated := by
    intro n payload h r _
    rw [h]
    exact List.not_mem_nil
  refine ⟨trivial, trivial, ?_, hnone _ _ ?_, hnone _ _ ?_, trivial, trivial, trivial⟩
  · change AList.lookup _ _ = none
    decide +kernel
  · decide +kernel
  · decide +kernel

theorem rolesKept_direct :
    Always (next Unit) (RolesKept Unit) (line.start : LookupState) direct :=
  rolesKept_of_unreturned line 0 allows_direct unreturned_direct

theorem allows_returned : Along (next Unit) (fun s e => line.Allows 0 s e.1 e.2)
    (line.start : LookupState) returned := by
  refine ⟨⟨rfl, rfl, rfl, rfl, rfl⟩, ⟨rfl, rfl, rfl, rfl, rfl⟩, ⟨by decide, by decide⟩,
    ⟨⟨by decide, by decide⟩, .one, rfl, ?_⟩, ⟨⟨by decide, by decide⟩, .two, rfl, ?_⟩,
    ⟨⟨by decide, by decide⟩, .two, rfl, ?_⟩, ⟨⟨by decide, by decide⟩, .three, rfl, ?_⟩,
    ⟨⟨by decide, by decide⟩, .two, rfl, ?_⟩, trivial⟩
  all_goals decide +kernel

/-- Node 1 is handed its own request by node 2, and then passes the answer on to node 2. -/
theorem rolesLost_returned :
    Along (next Unit) (fun s e => line.Allows 0 s e.1 e.2) (line.start : LookupState) returned ∧
      ¬ Always (next Unit) (RolesKept Unit) (line.start : LookupState) returned := by
  refine ⟨allows_returned, fun h => ?_⟩
  have hused : ResponseUse.transit 7 ∈
      ((exec (next Unit) (line.start : LookupState) returned).nodes .one).responses := by
    decide +kernel
  have hasked : 7 ∈ ((exec (next Unit) (line.start : LookupState) returned).nodes .one).originated := by
    decide +kernel
  have hown := (h.exec.uses .one _ hused).mpr hasked
  cases hown

end LookupNetwork

end Fips
