import Fips.Node.Discovery

/-!
# What discovery handlers send

Each handler of `Fips.Node.Discovery` against what one event may do to the request ids of a node:
after the handler has recorded what it was handed, the rest only sends (`Sending`), and every lookup
message it sends carries an id the node knows (`Carries`).

## Results

* `sending_maybeInitiateLookup`, `sending_checkPendingLookups`: lookups of the node's own.
* `onLookupRequest_spec`: a request is dropped as a duplicate, or recorded and then only sent on or
  answered.
* `onLookupResponse_spec`: a response is taken as an answer to a request of the node's own exactly
  if its id was not recorded.
-/

open Checked

namespace Fips

/-! ## Effects of the data plane -/

namespace Node

variable {SecretKey PublicKey ν μ : Type} {ε : Type}

/-- The effects since `base` all satisfy `P`. -/
structure Grown (base : Node SecretKey PublicKey ν μ) (P : Effect PublicKey → Prop)
    (n : Node SecretKey PublicKey ν μ) : Prop where
  identity : n.identity = base.identity
  effects : ∃ new, n.effects = base.effects ++ new ∧ ∀ e ∈ new, P e

section Grown

variable {P : Effect PublicKey → Prop} {base n n' : Node SecretKey PublicKey ν μ}

theorem Grown.refl : Grown n P n :=
  ⟨rfl, [], (List.append_nil _).symm, fun e he => by cases he⟩

/-- The relation is about identity and effects. -/
theorem Grown.congr (h : Grown base P n) (hidentity : n'.identity = n.identity)
    (heffects : n'.effects = n.effects) : Grown base P n' := by
  obtain ⟨new, hnew, hP⟩ := h.effects
  exact ⟨hidentity.trans h.identity, new, heffects.trans hnew, hP⟩

/-- One effect more, if it satisfies `P`. -/
theorem Grown.add (h : Grown base P n) {e : Effect PublicKey} (he : P e)
    (hidentity : n'.identity = n.identity) (heffects : n'.effects = n.effects ++ [e]) :
    Grown base P n' := by
  obtain ⟨new, hnew, hP⟩ := h.effects
  refine ⟨hidentity.trans h.identity, new ++ [e], ?_, fun e' he' => ?_⟩
  · rw [heffects, hnew, List.append_assoc]
  · rcases List.mem_append.mp he' with hold | hlast
    · exact hP e' hold
    · rwa [List.mem_singleton.mp hlast]

theorem Grown.trans (h : Grown base P n) (h' : Grown n P n') :
    Grown base P n' := by
  obtain ⟨new, hnew, hP⟩ := h.effects
  obtain ⟨new', hnew', hP'⟩ := h'.effects
  refine ⟨h'.identity.trans h.identity, new ++ new', ?_, fun e he => ?_⟩
  · rw [hnew', hnew, List.append_assoc]
  · rcases List.mem_append.mp he with hold | hlater
    · exact hP e hold
    · exact hP' e hlater

theorem Grown.mono {Q : Effect PublicKey → Prop} (hPQ : ∀ e, P e → Q e) (h : Grown base P n) :
    Grown base Q n := by
  obtain ⟨new, hnew, hP⟩ := h.effects
  exact ⟨h.identity, new, hnew, fun e he => hPQ e (hP e he)⟩

theorem keeps_emit {e : Effect PublicKey} (he : P e) :
    Keeps (Grown base P) (emit e : M SecretKey PublicKey ν μ ε Unit) := fun _ hn => hn.add he rfl rfl

theorem keeps_modifySession (addr : NodeAddr)
    (f : SessionEntry SecretKey PublicKey μ → SessionEntry SecretKey PublicKey μ) :
    Keeps (Grown base P) (modifySession addr f : M SecretKey PublicKey ν μ ε Unit) :=
  fun _ hn => hn.congr rfl rfl

theorem keeps_putSession (addr : NodeAddr) (entry : SessionEntry SecretKey PublicKey μ) :
    Keeps (Grown base P) (putSession addr entry : M SecretKey PublicKey ν μ ε Unit) :=
  fun _ hn => hn.congr rfl rfl

variable (env : Env SecretKey)

theorem keeps_sendLinkMessage {nextHop : NodeAddr} {message : Bytes} {ceFlag : Bool}
    (h : P (.sentLinkMessage nextHop message ceFlag)) :
    Keeps (Grown base P)
      (sendLinkMessage env nextHop message ceFlag : M SecretKey PublicKey ν μ SendError Unit) := by
  unfold sendLinkMessage
  cases env.sendLinkMessage nextHop message with
  | error e => exact keeps_stop e
  | ok u => exact keeps_emit h

variable [SessionMmp μ]

/-- A session payload is one datagram to the next hop. -/
theorem keeps_sendSessionPayload (dest : NodeAddr) (payload : Bytes)
    (h : ∀ nextHop (d : SessionDatagram), P (.sentLinkMessage nextHop d.encode false)) :
    Keeps (Grown base P)
      (sendSessionPayload env dest payload : M SecretKey PublicKey ν μ SendError Unit) := by
  unfold sendSessionPayload sendSessionDatagram
  refine (keeps_read _).bind fun my => (keeps_read _).bind fun config => ?_
  cases env.findNextHop _ with
  | none => exact keeps_stop _
  | some nextHop => exact (keeps_modifySession _ _).bind fun _ => keeps_sendLinkMessage env (h _ _)

variable [Sha256] [HkdfSha256] [ChaCha20Poly1305] [Secp256k1 SecretKey PublicKey]

omit [ChaCha20Poly1305] in
/-- A session is opened with one datagram and one registration. -/
theorem keeps_initiateSession (dest : NodeAddr) (destPubkey : PublicKey)
    (hsent : ∀ nextHop (d : SessionDatagram), P (.sentLinkMessage nextHop d.encode false))
    (hregister : P (.registerIdentity dest destPubkey)) :
    Keeps (Grown base P)
      (initiateSession env dest destPubkey : M SecretKey PublicKey ν μ SendError Unit) := by
  unfold initiateSession
  refine (keeps_read _).bind fun existing => ?_
  split_ifs
  · exact keeps_pure ()
  · refine (keeps_read _).bind fun n => ?_
    refine (keeps_pureCall _).attempt.bind fun started => ?_
    cases started with
    | error e => exact keeps_stop _
    | ok r =>
      refine (keeps_sendSessionPayload env dest _ hsent).bind fun _ => ?_
      exact (keeps_emit hregister).bind fun _ => keeps_putSession dest _

end Grown

end Node

/-! ## Messages of discovery -/

namespace LookupNode

variable {SecretKey PublicKey ν μ : Type} {ε : Type}

/-- The node sent a request with this id, or recorded one. -/
def Knows (n : LookupNode SecretKey PublicKey ν μ) (requestId : Nat) : Prop :=
  requestId ∈ n.originated ∨ (n.recentRequests.lookup requestId).isSome

/-- A lookup message goes out under an id the node knows, a response to whom the request came
from. -/
structure Carries (Signature : Type) [SchnorrEncoding Signature]
    (n : LookupNode SecretKey PublicKey ν μ) (nextHop : NodeAddr) (message : Bytes) : Prop where
  request : ∀ payload r, message = 0x30 :: payload → LookupRequest.decode payload = .ok r →
    n.Knows r.requestId
  response : ∀ payload (r : LookupResponse Signature), message = 0x31 :: payload →
    LookupResponse.decode payload = .ok r →
    ∃ recent, n.recentRequests.lookup r.requestId = some recent ∧ recent.fromPeer = nextHop

/-- From `base` the node only sent: what it recorded is as it was, new requests of its own have ids
among `drawn`, and every message carries what it may. -/
structure Sending (Signature : Type) [SchnorrEncoding Signature] (drawn : Nat → Prop)
    (base n : LookupNode SecretKey PublicKey ν μ) : Prop where
  lookupConfig : n.lookupConfig = base.lookupConfig
  recent : n.recentRequests = base.recentRequests
  responses : n.responses = base.responses
  originated : base.originated ⊆ n.originated
  drawn : ∀ r ∈ n.originated, r ∈ base.originated ∨ drawn r
  sent : Node.Grown base.toNode (fun e => ∀ nextHop message ce,
    e = .sentLinkMessage nextHop message ce → n.Carries Signature nextHop message) n.toNode

section Carries

variable {Signature : Type} [SchnorrEncoding Signature] {n n' : LookupNode SecretKey PublicKey ν μ}
  {nextHop : NodeAddr}

/-- A message that is carried rightly still is when the node has looked up more. -/
theorem Carries.mono {message : Bytes} (h : n.Carries Signature nextHop message)
    (hrecent : n'.recentRequests = n.recentRequests) (horiginated : n.originated ⊆ n'.originated) :
    n'.Carries Signature nextHop message where
  request payload r hm hr := by
    rcases h.request payload r hm hr with hown | hknown
    · exact .inl (horiginated hown)
    · exact .inr (hrecent ▸ hknown)
  response payload r hm hr := by
    rw [hrecent]
    exact h.response payload r hm hr

/-- A request goes on under an id that the node knows. -/
theorem carries_request {r : LookupRequest} (hid : r.requestId < 256 ^ 8)
    (hknown : n.Knows r.requestId) : n.Carries Signature nextHop r.encode where
  request payload r' hm hr := by
    rw [LookupRequest.requestId_of_encode hid hm.symm hr]
    exact hknown
  response payload r' hm _ := by
    have hhead := congrArg List.head? hm
    simp [LookupRequest.encode] at hhead

/-- A response goes back to the peer that the request came from. -/
theorem carries_response {r : LookupResponse Signature} (hid : r.requestId < 256 ^ 8)
    {recent : RecentRequest} (hrecent : n.recentRequests.lookup r.requestId = some recent)
    (hhop : recent.fromPeer = nextHop) : n.Carries Signature nextHop r.encode where
  request payload r' hm _ := by
    have hhead := congrArg List.head? hm
    simp [LookupResponse.encode] at hhead
  response payload r' hm hr := by
    rw [LookupResponse.requestId_of_encode hid hm.symm hr]
    exact ⟨recent, hrecent, hhop⟩

/-- A datagram is neither request nor response. -/
theorem carries_datagram (d : SessionDatagram) : n.Carries Signature nextHop d.encode where
  request payload r hm _ := by
    have hhead := congrArg List.head? hm
    simp [SessionDatagram.encode] at hhead
  response payload r hm _ := by
    have hhead := congrArg List.head? hm
    simp [SessionDatagram.encode] at hhead

end Carries

section Sending

variable {Signature : Type} [SchnorrEncoding Signature] {drawn : Nat → Prop}
  {base n n' : LookupNode SecretKey PublicKey ν μ}

theorem Sending.refl : Sending Signature drawn n n :=
  ⟨rfl, rfl, rfl, List.Subset.refl _, fun _ hr => .inl hr, .refl⟩

/-- A step that touches neither ids nor effects. -/
theorem Sending.congr (h : Sending Signature drawn base n) (hidentity : n'.identity = n.identity)
    (hconfig : n'.lookupConfig = n.lookupConfig) (hrecent : n'.recentRequests = n.recentRequests)
    (hresponses : n'.responses = n.responses) (horiginated : n'.originated = n.originated)
    (heffects : n'.effects = n.effects) : Sending Signature drawn base n' where
  lookupConfig := hconfig.trans h.lookupConfig
  recent := hrecent.trans h.recent
  responses := hresponses.trans h.responses
  originated := horiginated ▸ h.originated
  drawn := horiginated ▸ h.drawn
  sent := by
    obtain ⟨new, hnew, hP⟩ := h.sent.effects
    refine ⟨hidentity.trans h.sent.identity, new, heffects.trans hnew, ?_⟩
    intro e he nextHop message ce heq
    exact (hP e he nextHop message ce heq).mono hrecent (horiginated ▸ List.Subset.refl _)

theorem Sending.trans {n' : LookupNode SecretKey PublicKey ν μ} (h : Sending Signature drawn base n)
    (h' : Sending Signature drawn n n') : Sending Signature drawn base n' where
  lookupConfig := h'.lookupConfig.trans h.lookupConfig
  recent := h'.recent.trans h.recent
  responses := h'.responses.trans h.responses
  originated := fun _ hr => h'.originated (h.originated hr)
  drawn := fun r hr => (h'.drawn r hr).elim (h.drawn r) .inr
  sent := by
    refine Node.Grown.trans (h.sent.mono fun e he nextHop message ce heq => ?_) h'.sent
    exact (he nextHop message ce heq).mono h'.recent h'.originated

/-- A request of the node's own is about to go out. -/
theorem Sending.originate (h : Sending Signature drawn base n) {requestId : Nat}
    (hdrawn : drawn requestId) :
    Sending Signature drawn base { n with originated := n.originated ++ [requestId] } where
  lookupConfig := h.lookupConfig
  recent := h.recent
  responses := h.responses
  originated := fun _ hr => List.mem_append_left _ (h.originated hr)
  drawn := by
    intro r hr
    rcases List.mem_append.mp hr with hold | hnew
    · exact h.drawn r hold
    · rw [List.mem_singleton.mp hnew]
      exact .inr hdrawn
  sent := by
    refine h.sent.mono fun e he nextHop message ce heq => ?_
    exact (he nextHop message ce heq).mono rfl fun _ hr => List.mem_append_left _ hr

/-- A method of the data plane whose effects carry what they may. -/
theorem Sending.onNode {α : Type} {m : Node.M SecretKey PublicKey ν μ ε α}
    (h : Sending Signature drawn base n)
    (hm : Keeps (Node.Grown base.toNode fun e => ∀ nextHop message ce,
      e = .sentLinkMessage nextHop message ce → n.Carries Signature nextHop message) m) :
    Sending Signature drawn base (onNode m n).1 where
  lookupConfig := h.lookupConfig
  recent := h.recent
  responses := h.responses
  originated := h.originated
  drawn := h.drawn
  sent := by
    obtain ⟨hidentity, new, hnew, hP⟩ := hm n.toNode h.sent
    refine ⟨hidentity, new, hnew, fun e he nextHop message ce heq => ?_⟩
    exact (hP e he nextHop message ce heq).mono rfl (List.Subset.refl _)

/-- One message that carries what it may. -/
theorem Sending.send (env : Env SecretKey) (h : Sending Signature drawn base n) (ce : Bool)
    {nextHop : NodeAddr} {message : Bytes} (hcarries : n.Carries Signature nextHop message) :
    Sending Signature drawn base
      (LookupNode.onNode (Node.sendLinkMessage env nextHop message ce) n).1 := by
  refine h.onNode (Node.keeps_sendLinkMessage env fun nextHop' message' ce' heq => ?_)
  cases heq
  exact hcarries

end Sending

/-! ## The handlers -/

section Handlers

variable {Signature : Type} [SchnorrEncoding Signature] {drawn : Nat → Prop}
  {base n : LookupNode SecretKey PublicKey ν μ} (env : LookupEnv SecretKey PublicKey)

/-- One message to each of these peers. -/
theorem sending_sendToPeers (peers : List NodeAddr) {message : Bytes}
    (hcarries : ∀ peer, base.Carries Signature peer message) (h : Sending Signature drawn base n) :
    wp (sendToPeers env message peers : M SecretKey PublicKey ν μ ε Unit)
      (fun _ => Sending Signature drawn base) (fun _ => Sending Signature drawn base) n := by
  induction peers generalizing n with
  | nil => exact h
  | cons peer peers ih =>
    have hsent := h.send env.toEnv false ((hcarries peer).mono h.recent h.originated)
    unfold sendToPeers
    rw [wp_bind_iff, wp_attempt_iff]
    refine wp_mono (fun _ n' hn' => ih hn') (fun e n' hn' => ?_) (wp_of_fst hsent)
    cases e with
    | error e => exact ih hn'
    | panic => exact hn'

/-- **Initiation.** The request is the node's own before it goes out. -/
theorem sending_initiateLookup (target : NodeAddr) (ttl : UInt8)
    (hdrawn : drawn (env.requestId target).toNat) (h : Sending Signature drawn base n) :
    wp (initiateLookup env target ttl : M SecretKey PublicKey ν μ ε Nat)
      (fun _ => Sending Signature drawn base) (fun _ => Sending Signature drawn base) n := by
  unfold initiateLookup
  rw [wp_bind_iff, wp_read_iff]
  extract_lets request peers
  split_ifs
  · exact h
  · have hid : request.requestId < 256 ^ 8 := (env.requestId target).toNat_lt
    have horiginated := h.originate hdrawn
    rw [wp_bind_iff, wp_write_iff, wp_bind_iff]
    have hsame : Sending Signature drawn { n with originated := n.originated ++ [request.requestId] }
        { n with originated := n.originated ++ [request.requestId] } := .refl
    refine wp_mono (fun _ n' hn' => ?_) (fun _ n' hn' => horiginated.trans hn')
      (sending_sendToPeers env peers (fun peer => carries_request hid ?_) hsame)
    · exact horiginated.trans hn'
    · exact .inl (List.mem_append_right _ (List.mem_singleton_self _))

theorem sending_maybeInitiateLookup (dest : NodeAddr) (hdrawn : drawn (env.requestId dest).toNat)
    (h : Sending Signature drawn base n) :
    wp (maybeInitiateLookup env dest : M SecretKey PublicKey ν μ ε Unit)
      (fun _ => Sending Signature drawn base) (fun _ => Sending Signature drawn base) n := by
  unfold maybeInitiateLookup
  refine wp_body_of_wp ?_
  rw [wp_bind_iff, wp_read_iff]
  extract_lets inFlight
  split_ifs
  · exact h
  · exact h
  · exact h
  · rw [wp_bind_iff, wp_write_iff, wp_bind_iff]
    refine wp_mono (fun sent n' hn' => ?_) (fun _ _ hn' => hn')
      (sending_initiateLookup env dest _ hdrawn (h.congr rfl rfl rfl rfl rfl rfl))
    split_ifs
    · exact hn'.congr rfl rfl rfl rfl rfl rfl
    · exact hn'

theorem sending_retryLookups (targets : List NodeAddr)
    (hdrawn : ∀ target, drawn (env.requestId target).toNat) (h : Sending Signature drawn base n) :
    wp (retryLookups env targets : M SecretKey PublicKey ν μ ε Unit)
      (fun _ => Sending Signature drawn base) (fun _ => Sending Signature drawn base) n := by
  induction targets generalizing n with
  | nil => exact h
  | cons target targets ih =>
    unfold retryLookups retryLookup
    simp only [wp_bind_iff, wp_read_iff, id_eq]
    cases n.pendingLookups.lookup target with
    | none => exact ih h
    | some entry =>
      rw [wp_bind_iff, wp_write_iff, wp_bind_iff]
      exact wp_mono (fun _ n' hn' => ih hn') (fun _ _ hn' => hn')
        (sending_initiateLookup env target _ (hdrawn target) (h.congr rfl rfl rfl rfl rfl rfl))

/-- A lookup that times out touches only its own entry and its queue. -/
theorem timeOutLookups_frames (targets : List NodeAddr) (n : LookupNode SecretKey PublicKey ν μ) :
    ∃ lookups packets, targets.foldl timeOutLookup n =
      { n with pendingLookups := lookups, pendingTunPackets := packets } := by
  induction targets generalizing n with
  | nil => exact ⟨n.pendingLookups, n.pendingTunPackets, rfl⟩
  | cons target targets ih =>
    obtain ⟨lookups, packets, heq⟩ := ih (n.timeOutLookup target)
    exact ⟨lookups, packets, by rw [List.foldl_cons, heq]; rfl⟩

theorem sending_checkPendingLookups (hdrawn : ∀ target, drawn (env.requestId target).toNat)
    (h : Sending Signature drawn base n) :
    wp (checkPendingLookups env : M SecretKey PublicKey ν μ ε Unit)
      (fun _ => Sending Signature drawn base) (fun _ => Sending Signature drawn base) n := by
  unfold checkPendingLookups
  rw [wp_bind_iff, wp_read_iff, wp_bind_iff]
  refine wp_mono (fun _ n' hn' => ?_) (fun _ _ hn' => hn') (sending_retryLookups env _ hdrawn h)
  rw [wp_write_iff]
  obtain ⟨lookups, packets, heq⟩ := timeOutLookups_frames
    ((id n).lookupsWhere ((id n).lookupTimedOut env.nowMs)) n'
  rw [heq]
  exact hn'.congr rfl rfl rfl rfl rfl rfl

/-! ### Requests -/

section Requests

/-- The node as it has recorded a request. -/
def recorded (source : NodeAddr) (requestId : Nat) (n : LookupNode SecretKey PublicKey ν μ) :
    LookupNode SecretKey PublicKey ν μ :=
  purgeExpiredRequests env.nowMs
    { n with recentRequests := n.recentRequests.insert requestId (.new source env.nowMs) }

/-- The request just recorded is not yet expired. -/
theorem lookup_recorded_self (source : NodeAddr) (requestId : Nat)
    (n : LookupNode SecretKey PublicKey ν μ) :
    (n.recorded env source requestId).recentRequests.lookup requestId =
      some (.new source env.nowMs) := by
  unfold recorded purgeExpiredRequests
  rw [Map.lookup_filterMap, AList.lookup_insert]
  simp [RecentRequest.isExpired, RecentRequest.new]

variable [SigningKey SecretKey Signature]

/-- **A request** is dropped as a duplicate, or recorded and then only answered or sent on. -/
theorem onLookupRequest_spec (source : NodeAddr) {request : LookupRequest}
    (hid : request.requestId < 256 ^ 8) :
    wp (onLookupRequest env Signature source request)
      (fun _ => Sending Signature drawn (n.recorded env source request.requestId))
      (fun _ n' => n' = n ∧ (n.recentRequests.lookup request.requestId).isSome ∨
        Sending Signature drawn (n.recorded env source request.requestId) n') n := by
  unfold onLookupRequest
  rw [wp_bind_iff, wp_read_iff]
  by_cases hdup : (n.recentRequests.lookup request.requestId).isSome = true
  · rw [if_pos hdup]
    exact .inl ⟨rfl, hdup⟩
  · rw [if_neg hdup]
    have hself := lookup_recorded_self env source request.requestId n
    rw [wp_bind_iff, wp_write_iff, wp_bind_iff, wp_write_iff, wp_bind_iff, wp_read_iff]
    change wp _ _ _ (n.recorded env source request.requestId)
    obtain ⟨m, hm⟩ : ∃ m, m = n.recorded env source request.requestId := ⟨_, rfl⟩
    rw [← hm] at hself ⊢
    have hsame : Sending Signature drawn m m := .refl
    split_ifs with htarget hforward
    · -- the answer goes back to the peer just recorded
      unfold sendLookupResponse
      rw [wp_bind_iff, wp_read_iff]
      simp only [id_eq, hself, wp_bind_iff, wp_orElse_some, wp_attempt_iff]
      have hanswer : m.Carries Signature source (LookupResponse.new request.requestId request.target
          m.myCoords (SigningKey.sign m.identity.secretKey (LookupResponse.proofBytes
            request.requestId request.target m.myCoords) : Signature)).encode :=
        carries_response hid hself rfl
      refine wp_mono (fun _ _ hn' => hn') (fun e n' hn' => ?_)
        (wp_of_fst (hsame.send env.toEnv false hanswer))
      cases e with
      | error e => exact hn'
      | panic => exact .inr hn'
    · exact .inr hsame
    · unfold forwardLookupRequest
      rw [wp_bind_iff, wp_orElse_iff]
      refine ⟨fun forwarded hforwarded => ?_, fun _ => .inr hsame⟩
      have hsameId : forwarded.requestId = request.requestId := by
        unfold LookupRequest.forward at hforwarded
        split_ifs at hforwarded
        cases hforwarded
        rfl
      have hcarries : ∀ peer, m.Carries Signature peer forwarded.encode := fun peer =>
        carries_request (hsameId ▸ hid) (.inr (by rw [hsameId, hself]; rfl))
      rw [wp_bind_iff, wp_read_iff]
      extract_lets forwardTo
      split_ifs
      · exact wp_mono (fun _ _ hn' => hn') (fun _ _ hn' => .inr hn')
          (sending_sendToPeers env _ hcarries hsame)
      · exact wp_mono (fun _ _ hn' => hn') (fun _ _ hn' => .inr hn')
          (sending_sendToPeers env _ hcarries hsame)
    · exact hsame

end Requests

/-! ### Responses -/

section Responses

variable [Sha256] [HkdfSha256] [ChaCha20Poly1305] [Secp256k1 SecretKey PublicKey] [SessionMmp μ]
variable [VerifyingKey PublicKey Signature]

omit [ChaCha20Poly1305] [VerifyingKey PublicKey Signature] in
theorem sending_retrySessionAfterDiscovery (dest : NodeAddr) (h : Sending Signature drawn base n) :
    wp (retrySessionAfterDiscovery env dest) (fun _ => Sending Signature drawn base)
      (fun _ => Sending Signature drawn base) n := by
  unfold retrySessionAfterDiscovery
  refine wp_body_of_wp ?_
  rw [wp_bind_iff, wp_orElse_iff]
  refine ⟨fun identity _ => ?_, fun _ => h⟩
  rw [wp_bind_iff, wp_read_iff]
  split_ifs
  · exact h
  · have hsent := h.onNode (Node.keeps_initiateSession env.toEnv dest identity.2
      (fun nextHop d nextHop' message ce heq => by cases heq; exact carries_datagram d)
      (fun nextHop message ce heq => by cases heq))
    rw [wp_bind_iff, wp_attempt_iff]
    refine wp_mono (fun _ _ hn' => hn') (fun e n' hn' => ?_) (wp_of_fst hsent)
    cases e with
    | error e => exact hn'
    | panic => exact hn'

omit [ChaCha20Poly1305] in
/-- With a response of its own the node sends what opens a session, and no lookup message. -/
theorem sending_acceptResponse (response : LookupResponse Signature)
    (h : Sending Signature drawn base n) :
    wp (acceptResponse env response) (fun _ => Sending Signature drawn base)
      (fun _ => Sending Signature drawn base) n := by
  unfold acceptResponse
  rw [wp_bind_iff, wp_orElse_iff]
  refine ⟨fun identity _ => ?_, fun _ => h⟩
  obtain ⟨_, targetPubkey⟩ := identity
  dsimp only
  split_ifs
  · exact h
  · rw [wp_bind_iff, wp_write_iff, wp_bind_iff, wp_read_iff, wp_bind_iff]
    have hcleared : Sending Signature drawn base { n with
        coordCache := n.coordCache.insert response.target response.targetCoords
        pendingLookups := n.pendingLookups.erase response.target } := h.congr rfl rfl rfl rfl rfl rfl
    refine wp_mono (fun _ n' hn' => ?_) (fun _ _ hn' => hn')
      (wp_of_fst (hcleared.onNode (Node.keeps_modifySession response.target _)))
    rw [wp_bind_iff, wp_read_iff]
    split_ifs
    · exact sending_retrySessionAfterDiscovery env _ hn'
    · exact hn'

/-- Where each recorded request came from, and when. -/
def origin (n : LookupNode SecretKey PublicKey ν μ) (requestId : Nat) : Option (NodeAddr × Nat) :=
  (n.recentRequests.lookup requestId).map fun r => (r.fromPeer, r.timestampMs)

/-- The node took a response as `use`, and nothing else that counts. -/
structure Took (use : ResponseUse) (n m : LookupNode SecretKey PublicKey ν μ) : Prop where
  toNode : m.toNode = n.toNode
  lookupConfig : m.lookupConfig = n.lookupConfig
  origin : m.origin = n.origin
  originated : m.originated = n.originated
  responses : m.responses = n.responses ++ [use]

omit [ChaCha20Poly1305] in
/-- **A response** is the node's own exactly if its id was not recorded. -/
theorem onLookupResponse_spec {response : LookupResponse Signature}
    (hid : response.requestId < 256 ^ 8) :
    wp (onLookupResponse env response)
      (fun _ n' => ∃ m, Took (if (n.recentRequests.lookup response.requestId).isSome
        then .transit response.requestId else .own response.requestId) n m ∧
        Sending Signature drawn m n')
      (fun _ n' => ∃ m, Took (if (n.recentRequests.lookup response.requestId).isSome
        then .transit response.requestId else .own response.requestId) n m ∧
        Sending Signature drawn m n') n := by
  unfold onLookupResponse
  rw [wp_bind_iff, wp_read_iff]
  cases hrecent : n.recentRequests.lookup response.requestId with
  | none =>
    rw [Option.isSome_none, if_neg Bool.false_ne_true, wp_bind_iff, wp_write_iff]
    have htook : Took (.own response.requestId) n
      { n with responses := n.responses ++ [.own response.requestId] } := ⟨rfl, rfl, rfl, rfl, rfl⟩
    exact wp_mono (fun _ n' hn' => ⟨_, htook, hn'⟩) (fun _ n' hn' => ⟨_, htook, hn'⟩)
      (sending_acceptResponse env response .refl)
  | some recent =>
    rw [Option.isSome_some, if_pos rfl, wp_bind_iff, wp_write_iff]
    split_ifs
    · exact ⟨{ n with responses := n.responses ++ [.transit response.requestId] },
        ⟨rfl, rfl, rfl, rfl, rfl⟩, .refl⟩
    · rw [wp_bind_iff, wp_write_iff]
      obtain ⟨m, hm⟩ : ∃ m : LookupNode SecretKey PublicKey ν μ, m = { n with
        responses := n.responses ++ [.transit response.requestId]
        recentRequests := n.recentRequests.insert response.requestId
          { recent with responseForwarded := true } } := ⟨_, rfl⟩
      have htook : Took (.transit response.requestId) n m := by
        subst hm
        refine ⟨rfl, rfl, funext fun r => ?_, rfl, rfl⟩
        unfold origin
        rw [Map.lookup_insert']
        split_ifs with hr
        · rw [hr, hrecent]
          rfl
        · rfl
      have hself : m.recentRequests.lookup response.requestId =
          some { recent with responseForwarded := true } := by
        rw [hm]
        exact AList.lookup_insert _
      have hsame : Sending Signature drawn m m := .refl
      have hanswer : m.Carries Signature recent.fromPeer (LookupResponse.encode
          { response with pathMtu := min response.pathMtu (env.linkMtu recent.fromPeer) }) :=
        carries_response hid hself rfl
      rw [← hm, wp_bind_iff, wp_attempt_iff]
      refine wp_mono (fun _ n' hn' => ⟨m, htook, hn'⟩) (fun e n' hn' => ?_)
        (wp_of_fst (hsame.send env.toEnv false hanswer))
      cases e with
      | error e => exact ⟨m, htook, hn'⟩
      | panic => exact ⟨m, htook, hn'⟩

end Responses

end Handlers

end LookupNode

end Fips
