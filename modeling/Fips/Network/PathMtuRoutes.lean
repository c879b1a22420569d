import Mathlib.Order.Bounds.Basic
import Fips.Node.ErrorSignals
import Fips.Node.LookupSends
import Fips.Wire.MessageCodec

/-!
# Path MTU annotations along a route

A session datagram carries the least MTU of the links it has crossed, and so does a lookup response.
Every node on the route may be in any state and its outside arbitrary; a route grows by what the
handlers of one more node send on. Of each link it knows the MTU at the sending side.

`send_session_datagram` and the forwarding path apply the MTU of the outgoing link. So does a transit
node to a response. The target does not: a response starts at `u16::MAX`
(`protocol/discovery.rs:155-160`), so the first link of its route does not count.

## Results

* `DatagramRoute.isLeast`: the datagram's path MTU is the minimum over all links.
* `ResponseRoute.isLeast`: the response's is the minimum over all links but the first.
* `pathMtu_isLeast`: both, and that datagrams are delivered with it.
* `first_link_not_counted`: a response over one link.
-/

open Checked

namespace Fips

variable {SecretKey PublicKey ν μ : Type}

theorem mem_cons_least {v m : Nat} {mtus : List Nat} (h : IsLeast {x | x ∈ mtus} v) :
    IsLeast {x | x ∈ m :: mtus} (min v m) := by
  have hset : {x | x ∈ m :: mtus} = insert m {x | x ∈ mtus} := by
    ext x
    exact List.mem_cons
  rw [hset, Nat.min_comm]
  exact h.insert m

namespace Node

/-- What a call sends. -/
def sends {ε α : Type} (m : M SecretKey PublicKey ν μ ε α) (n : Node SecretKey PublicKey ν μ) :
    List (Effect PublicKey) := (m n).1.effects.drop n.effects.length

theorem mem_sends_of_grown {ε α : Type} {m : M SecretKey PublicKey ν μ ε α}
    {n : Node SecretKey PublicKey ν μ} {P : Effect PublicKey → Prop} (h : Grown n P (m n).1)
    {e : Effect PublicKey} (he : e ∈ sends m n) : P e := by
  obtain ⟨new, hnew, hP⟩ := h.effects
  unfold sends at he
  rw [hnew, List.drop_left] at he
  exact hP e he

/-! ## Session datagrams -/

section Datagrams

variable (env : Env SecretKey)

/-- What is passed on of `d` has the outgoing link applied to its path MTU. -/
def AppliesLink (d : SessionDatagram) (e : Effect PublicKey) : Prop :=
  ∀ nextHop message ceFlag sent, e = .sentLinkMessage nextHop message ceFlag →
    sentDatagram e = some sent → PassesOn d sent → sent.pathMtu = min d.pathMtu (env.linkMtu nextHop)

variable {env} {d : SessionDatagram} {base : Node SecretKey PublicKey ν μ}

/-- An error signal is from this node, so it is not what it answers. -/
theorem keeps_sendError (hdest : d.destAddr ≠ base.nodeAddr) {original : SessionDatagram}
    (hsrc : original.srcAddr = d.srcAddr) (signal : Bytes) :
    Keeps (Grown base (AppliesLink env d))
      (sendError env original signal : Handler SecretKey PublicKey ν μ Unit) := by
  rw [keeps_iff]
  intro n hn
  unfold sendError
  rw [wp_bind_iff, wp_read_iff, wp_bind_iff, wp_read_iff, wp_bind_iff]
  refine wp_orElse_iff.mpr ⟨fun back hback => ?_, fun _ => hn⟩
  have hsent : AppliesLink env d (.sentLinkMessage back ((SessionDatagram.new n.nodeAddr
      original.srcAddr signal).withTtl n.config.defaultTtl).encode false : Effect PublicKey) := by
    intro nextHop message ceFlag sent _ hsent hpasses
    rw [sentDatagram_encode] at hsent
    obtain rfl := (Option.some.inj hsent).symm
    have hmine : n.nodeAddr = d.srcAddr := hpasses.1
    have hback : original.srcAddr = d.destAddr := hpasses.2.1
    refine absurd (hback.symm.trans (hsrc.trans hmine.symm)) ?_
    unfold Node.nodeAddr at hdest ⊢
    rwa [hn.identity]
  exact ((keeps_sendLinkMessage env hsent).attempt.bind fun _ => keeps_pure ()).wp hn

theorem keeps_sendRoutingError (hdest : d.destAddr ≠ base.nodeAddr) :
    Keeps (Grown base (AppliesLink env d))
      (sendRoutingError env d : Handler SecretKey PublicKey ν μ Unit) := by
  unfold sendRoutingError
  refine Keeps.body (Keeps.ite (keeps_stop ()) ?_)
  exact (keeps_read _).bind fun my => keeps_sendError hdest rfl _

theorem keeps_sendMtuExceededError (hdest : d.destAddr ≠ base.nodeAddr) {original : SessionDatagram}
    (hsrc : original.srcAddr = d.srcAddr) (mtu : Nat) :
    Keeps (Grown base (AppliesLink env d))
      (sendMtuExceededError env original mtu : Handler SecretKey PublicKey ν μ Unit) := by
  unfold sendMtuExceededError
  refine Keeps.body (Keeps.ite (keeps_stop ()) ?_)
  exact (keeps_read _).bind fun my => keeps_sendError hdest hsrc _

theorem appliesLink_onward (hmtu : d.pathMtu ≤ U16_MAX) (nextHop : NodeAddr) (ceFlag : Bool) :
    AppliesLink env d
      (.sentLinkMessage nextHop (onward env nextHop d).encode ceFlag : Effect PublicKey) := by
  intro nextHop' message ceFlag' sent heq hsent _
  cases heq
  rw [sentDatagram_encode] at hsent
  obtain rfl := (Option.some.inj hsent).symm
  have hle : min d.pathMtu (env.linkMtu nextHop) ≤ 65535 := (Nat.min_le_left ..).trans hmtu
  exact Nat.mod_eq_of_lt (Nat.lt_succ_of_le hle)

theorem keeps_forwardDatagram (hdest : d.destAddr ≠ base.nodeAddr) (hmtu : d.pathMtu ≤ U16_MAX)
    (incomingCe : Bool) : Keeps (Grown base (AppliesLink env d))
      (forwardDatagram env d incomingCe : Handler SecretKey PublicKey ν μ Unit) := by
  unfold forwardDatagram
  cases env.findNextHop d.destAddr with
  | none => exact keeps_sendRoutingError hdest
  | some nextHop =>
    have hsend : ∀ ceFlag, AppliesLink env d
        (.sentLinkMessage nextHop (onward env nextHop d).encode ceFlag : Effect PublicKey) :=
      appliesLink_onward hmtu nextHop
    refine (keeps_sendLinkMessage env (hsend _)).attempt.bind fun result => ?_
    cases result with
    | ok u => exact keeps_pure ()
    | error e =>
      cases e with
      | mtuExceeded addr packetSize mtu => exact keeps_sendMtuExceededError hdest rfl mtu
      | sendFailed addr reason => exact keeps_pure ()
      | peerNotFound addr => exact keeps_pure ()

/-- **One hop**: a node that is not the destination applies its outgoing link. -/
theorem grown_handleSessionDatagram [Sha256] [HkdfSha256] [ChaCha20Poly1305]
    [Secp256k1 SecretKey PublicKey] [SessionMmp μ] {n : Node SecretKey PublicKey ν μ} {payload : Bytes}
    (hdecode : SessionDatagram.decode payload = .ok d) (hdest : d.destAddr ≠ n.nodeAddr)
    (incomingCe : Bool) :
    Grown n (AppliesLink env d) (handleSessionDatagram env payload incomingCe n).1 := by
  have hmtu : d.pathMtu ≤ U16_MAX := SessionDatagram.pathMtu_le hdecode
  refine fst_of_wp ?_
  unfold handleSessionDatagram
  refine wp_body_of_wp ?_
  rw [hdecode, wp_bind_iff, wp_orReturn_ok, wp_bind_iff, wp_orElse_iff]
  refine ⟨fun d' hd' => ?_, fun _ => .refl⟩
  have hpassed : d' = { d with ttl := d.ttl - 1 } := by
    unfold SessionDatagram.decrementTtl at hd'
    split_ifs at hd'
    exact (Option.some.inj hd').symm
  subst hpassed
  rw [wp_bind_iff]
  refine wp_mono (fun _ n₁ hn₁ => ?_) (fun e n₁ hn₁ => ?_) (wp_tryWarmCoordCache _)
  · obtain ⟨-, es, rfl, hes⟩ := hn₁
    have hcached : Grown n (AppliesLink env d) { n with effects := n.effects ++ es } := by
      refine ⟨rfl, es, rfl, fun e he => ?_⟩
      obtain ⟨addr, coords, rfl⟩ := hes e he
      intro nextHop message ceFlag sent heq
      cases heq
    rw [wp_bind_iff, wp_read_iff]
    split_ifs with hmy
    · exact absurd (beq_iff_eq.mp hmy) hdest
    · have hforward : Keeps (Grown n (AppliesLink env { d with ttl := d.ttl - 1 }))
          (forwardDatagram env { d with ttl := d.ttl - 1 } incomingCe :
            Handler SecretKey PublicKey ν μ Unit) :=
        keeps_forwardDatagram (d := { d with ttl := d.ttl - 1 }) hdest hmtu incomingCe
      exact hforward.wp hcached
  · rw [hn₁.2.2]
    exact .refl

/-- **The first hop**: a session datagram goes out with the first link applied. -/
theorem grown_sendSessionDatagram [SessionMmp μ] (n : Node SecretKey PublicKey ν μ) :
    Grown n (fun e => ∃ nextHop, e = .sentLinkMessage nextHop (onward env nextHop d).encode false)
      (sendSessionDatagram env d n).1 := by
  refine fst_of_wp ?_
  unfold sendSessionDatagram
  cases env.findNextHop d.destAddr with
  | none => exact .refl
  | some nextHop =>
    exact ((keeps_modifySession _ _).bind fun _ => keeps_sendLinkMessage env ⟨nextHop, rfl⟩).wp .refl

end Datagrams

/-! ## Routes of datagrams -/

section Routes

variable [Sha256] [HkdfSha256] [ChaCha20Poly1305] [Secp256k1 SecretKey PublicKey] [SessionMmp μ]

/-- A datagram on its way as a link message, and the MTUs of the links it has crossed, the last link
first. It starts as one of the datagrams that `send_session_datagram` is called with. -/
inductive DatagramRoute (SecretKey PublicKey ν μ : Type) [Sha256] [HkdfSha256] [ChaCha20Poly1305]
    [Secp256k1 SecretKey PublicKey] [SessionMmp μ] : Bytes → List Nat → Prop
  | sent (env : Env SecretKey) (n : Node SecretKey PublicKey ν μ) (src dest : NodeAddr)
      (payload : Bytes) (ttl : UInt8) {nextHop : NodeAddr} {message : Bytes} {ceFlag : Bool}
      (hmtu : env.linkMtu nextHop ≤ U16_MAX)
      (hsent : .sentLinkMessage nextHop message ceFlag ∈
        sends (sendSessionDatagram env ((SessionDatagram.new src dest payload).withTtl ttl)) n) :
      DatagramRoute SecretKey PublicKey ν μ message [env.linkMtu nextHop]
  | forwarded (env : Env SecretKey) (n : Node SecretKey PublicKey ν μ) (incomingCe : Bool)
      {nextHop : NodeAddr} {payload message : Bytes} {mtus : List Nat} {ceFlag : Bool}
      {d sent : SessionDatagram} (hmtu : env.linkMtu nextHop ≤ U16_MAX)
      (hroute : DatagramRoute SecretKey PublicKey ν μ (0x00 :: payload) mtus)
      (hdecode : SessionDatagram.decode payload = .ok d) (hdest : d.destAddr ≠ n.nodeAddr)
      (hsent : .sentLinkMessage nextHop message ceFlag ∈
        sends (handleSessionDatagram env payload incomingCe) n)
      (hsame : sentDatagram (.sentLinkMessage nextHop message ceFlag : Effect PublicKey) = some sent)
      (hpasses : PassesOn d sent) :
      DatagramRoute SecretKey PublicKey ν μ message (env.linkMtu nextHop :: mtus)

/-- **The minimum over all links.** -/
theorem DatagramRoute.isLeast {message : Bytes} {mtus : List Nat}
    (h : DatagramRoute SecretKey PublicKey ν μ message mtus) {payload : Bytes}
    (hmessage : message = 0x00 :: payload) {d : SessionDatagram}
    (hdecode : SessionDatagram.decode payload = .ok d) : IsLeast {x | x ∈ mtus} d.pathMtu := by
  induction h generalizing payload d with
  | @sent env n src dest payload' ttl nextHop message ceFlag hmtu hsent =>
    obtain ⟨nextHop', heq⟩ := mem_sends_of_grown (grown_sendSessionDatagram n) hsent
    cases heq
    have htail : payload = (onward env nextHop ((SessionDatagram.new src dest payload').withTtl
        ttl)).encode.tail := by rw [hmessage, List.tail_cons]
    rw [htail, SessionDatagram.decode_encode] at hdecode
    cases hdecode
    have hfirst : min U16_MAX (env.linkMtu nextHop) % 65536 = env.linkMtu nextHop := by
      rw [Nat.min_eq_right hmtu]
      exact Nat.mod_eq_of_lt (Nat.lt_succ_of_le hmtu)
    change IsLeast _ (min U16_MAX (env.linkMtu nextHop) % 65536)
    rw [hfirst]
    exact ⟨List.mem_singleton.mpr rfl, fun x hx => (List.mem_singleton.mp hx).ge⟩
  | @forwarded env n incomingCe nextHop payload' message mtus ceFlag d' sent hmtu hroute hdecode'
      hdest hsent hsame hpasses ih =>
    have happlies := mem_sends_of_grown (grown_handleSessionDatagram hdecode' hdest incomingCe) hsent
    have hpathMtu := happlies nextHop message ceFlag sent rfl hsame hpasses
    have hsent' : sent = d := by
      rw [hmessage, sentDatagram_cons, hdecode] at hsame
      exact (Option.some.inj hsame).symm
    rw [← hsent', hpathMtu]
    exact mem_cons_least (ih rfl hdecode')

/-- At its destination a datagram is handed on with the path MTU it came with. -/
theorem handleSessionDatagram_local {env : Env SecretKey} {n n₁ : Node SecretKey PublicKey ν μ}
    {payload : Bytes} {d d' : SessionDatagram} (hdecode : SessionDatagram.decode payload = .ok d)
    (httl : d.decrementTtl = some d') (hwarm : tryWarmCoordCache d' n = (n₁, .ok ()))
    (hdest : d.destAddr = n₁.nodeAddr) (incomingCe : Bool) :
    handleSessionDatagram env payload incomingCe n =
      body (handleSessionPayload env d.srcAddr d.payload d.pathMtu incomingCe) n₁ := by
  have hpassed : d' = { d with ttl := d.ttl - 1 } := by
    unfold SessionDatagram.decrementTtl at httl
    split_ifs at httl
    exact (Option.some.inj httl).symm
  have hmy : (d'.destAddr == n₁.nodeAddr) = true := by
    rw [hpassed]
    exact beq_iff_eq.mpr hdest
  refine body_congr ?_
  rw [hdecode, orReturn_ok_bind, httl, bind_of_runs (rfl : orElse () (some d') n = (n, .ok d')),
    bind_of_runs hwarm, bind_of_runs (rfl : read Node.nodeAddr n₁ = (n₁, .ok n₁.nodeAddr)),
    if_pos hmy, hpassed]

end Routes

end Node

/-! ## Lookup responses -/

namespace LookupNode

/-- What a call sends. -/
def sends {ε α : Type} (m : M SecretKey PublicKey ν μ ε α) (n : LookupNode SecretKey PublicKey ν μ) :
    List (Effect PublicKey) := (m n).1.effects.drop n.effects.length

section Responses

variable {Signature : Type} [SchnorrEncoding Signature] {n : LookupNode SecretKey PublicKey ν μ}
  {env : LookupEnv SecretKey PublicKey} {nextHop : NodeAddr} {message : Bytes} {ceFlag : Bool}

theorem mem_sends_of_grown {ε α : Type} {m : M SecretKey PublicKey ν μ ε α}
    {P : Effect PublicKey → Prop} (h : Node.Grown n.toNode P (m n).1.toNode) {e : Effect PublicKey}
    (he : e ∈ sends m n) : P e := by
  obtain ⟨new, hnew, hP⟩ := h.effects
  unfold sends at he
  rw [hnew, List.drop_left] at he
  exact hP e he

/-- A message that is handed to a link, if the link takes it. -/
theorem keeps_send {base : Node SecretKey PublicKey ν μ} {P : Effect PublicKey → Prop}
    (h : P (.sentLinkMessage nextHop message false)) :
    Keeps (fun m : LookupNode SecretKey PublicKey ν μ => Node.Grown base P m.toNode) (do
      let _ ← attempt (onNode (Node.sendLinkMessage env.toEnv nextHop message false)) :
        Handler SecretKey PublicKey ν μ Unit) := by
  refine Keeps.bind (Keeps.attempt fun m hm => ?_) fun _ => keeps_pure ()
  exact Node.keeps_sendLinkMessage env.toEnv h m.toNode hm

/-- The target sends its response with the path MTU it starts with. -/
theorem grown_sendLookupResponse [SigningKey SecretKey Signature] (request : LookupRequest) :
    Node.Grown n.toNode (fun e => ∃ (nextHop : NodeAddr) (response : LookupResponse Signature),
        e = .sentLinkMessage nextHop response.encode false ∧ response.pathMtu = U16_MAX)
      (sendLookupResponse env Signature request n).1.toNode := by
  refine fst_of_wp (P := fun n' : LookupNode SecretKey PublicKey ν μ => Node.Grown n.toNode _ n'.toNode)
    ?_
  unfold sendLookupResponse
  rw [wp_bind_iff, wp_read_iff, wp_bind_iff, wp_orElse_iff]
  refine ⟨fun nextHop _ => ?_, fun _ => .refl⟩
  exact (keeps_send ⟨nextHop, _, rfl, rfl⟩).wp .refl

/-- A transit node applies the link it passes the response on. -/
theorem grown_handleLookupResponse [Sha256] [HkdfSha256] [ChaCha20Poly1305]
    [Secp256k1 SecretKey PublicKey] [SessionMmp μ] [VerifyingKey PublicKey Signature]
    {payload : Bytes} {response : LookupResponse Signature} {recent : RecentRequest}
    (hdecode : LookupResponse.decode payload = .ok response)
    (hrecent : n.recentRequests.lookup response.requestId = some recent) :
    Node.Grown n.toNode (fun e => ∃ nextHop, e = .sentLinkMessage nextHop (LookupResponse.encode
        { response with pathMtu := min response.pathMtu (env.linkMtu nextHop) }) false)
      (handleLookupResponse env Signature payload n).1.toNode := by
  refine fst_of_wp (P := fun n' : LookupNode SecretKey PublicKey ν μ => Node.Grown n.toNode _ n'.toNode)
    ?_
  unfold handleLookupResponse
  refine wp_body_of_wp ?_
  rw [hdecode, wp_bind_iff, wp_orReturn_ok]
  unfold onLookupResponse
  rw [wp_bind_iff, wp_read_iff, hrecent]
  rw [wp_bind_iff, wp_write_iff]
  split_ifs
  · exact .refl
  · rw [wp_bind_iff, wp_write_iff]
    exact (keeps_send ⟨recent.fromPeer, rfl⟩).wp .refl

/-! ## Routes of responses -/

variable [Sha256] [HkdfSha256] [ChaCha20Poly1305] [Secp256k1 SecretKey PublicKey] [SessionMmp μ]
  [SigningKey SecretKey Signature] [VerifyingKey PublicKey Signature]

/-- A response on its way as a link message, the MTU of the link that the target sent it on, and
those of the links it has crossed since. -/
inductive ResponseRoute (SecretKey PublicKey ν μ Signature : Type) [Sha256] [HkdfSha256]
    [ChaCha20Poly1305] [Secp256k1 SecretKey PublicKey] [SessionMmp μ] [SchnorrEncoding Signature]
    [SigningKey SecretKey Signature] [VerifyingKey PublicKey Signature] :
    Bytes → Nat → List Nat → Prop
  | sent (env : LookupEnv SecretKey PublicKey) (n : LookupNode SecretKey PublicKey ν μ)
      (request : LookupRequest) {nextHop : NodeAddr} {message : Bytes} {ceFlag : Bool}
      (hmtu : env.linkMtu nextHop ≤ U16_MAX)
      (hsent : .sentLinkMessage nextHop message ceFlag ∈
        sends (sendLookupResponse env Signature request) n) :
      ResponseRoute SecretKey PublicKey ν μ Signature message (env.linkMtu nextHop) []
  | forwarded (env : LookupEnv SecretKey PublicKey) (n : LookupNode SecretKey PublicKey ν μ)
      {payload message : Bytes} {first : Nat} {later : List Nat} {nextHop : NodeAddr} {ceFlag : Bool}
      {response : LookupResponse Signature} (hmtu : env.linkMtu nextHop ≤ U16_MAX)
      (hroute : ResponseRoute SecretKey PublicKey ν μ Signature (0x31 :: payload) first later)
      (hdecode : LookupResponse.decode payload = .ok response)
      (htransit : (n.recentRequests.lookup response.requestId).isSome = true)
      (hsent : .sentLinkMessage nextHop message ceFlag ∈
        sends (handleLookupResponse env Signature payload) n) :
      ResponseRoute SecretKey PublicKey ν μ Signature message first (env.linkMtu nextHop :: later)

/-- **The minimum over all links but the first.** -/
theorem ResponseRoute.isLeast {message : Bytes} {first : Nat} {later : List Nat}
    (h : ResponseRoute SecretKey PublicKey ν μ Signature message first later) {payload : Bytes}
    (hmessage : message = 0x31 :: payload) {response : LookupResponse Signature}
    (hdecode : LookupResponse.decode payload = .ok response) :
    IsLeast {x | x = U16_MAX ∨ x ∈ later} response.pathMtu := by
  induction h generalizing payload response with
  | @sent env n request nextHop message ceFlag hmtu hsent =>
    obtain ⟨nextHop', fresh, heq, hfresh⟩ := mem_sends_of_grown (grown_sendLookupResponse request) hsent
    cases heq
    rw [LookupResponse.pathMtu_of_encode hmessage.symm hdecode, hfresh]
    exact ⟨.inl rfl, fun x hx => hx.elim Eq.ge fun hnever => by cases hnever⟩
  | @forwarded env n payload' message first later nextHop ceFlag response' hmtu hroute hdecode'
      htransit hsent ih =>
    obtain ⟨recent, hrecent⟩ := Option.isSome_iff_exists.mp htransit
    obtain ⟨nextHop', heq⟩ :=
      mem_sends_of_grown (grown_handleLookupResponse hdecode' hrecent) hsent
    cases heq
    have hsmall : min response'.pathMtu (env.linkMtu nextHop) < 65536 :=
      Nat.lt_succ_of_le ((Nat.min_le_right ..).trans hmtu)
    have hpathMtu := LookupResponse.pathMtu_of_encode hmessage.symm hdecode
    rw [hpathMtu, Nat.mod_eq_of_lt hsmall]
    have hset : {x | x = U16_MAX ∨ x ∈ env.linkMtu nextHop :: later} =
        insert (env.linkMtu nextHop) {x | x = U16_MAX ∨ x ∈ later} := by
      ext x
      simp only [List.mem_cons, Set.mem_ofPred_eq, Set.mem_insert_iff]
      exact or_left_comm
    rw [hset, Nat.min_comm]
    exact (ih rfl hdecode').insert _

end Responses

end LookupNode

/-! ## Both annotations -/

/-- **The path MTU annotations**: a session datagram is delivered with the minimum over all links it
crossed; a lookup response arrives with the minimum over all links but the first, or with `u16::MAX`
if there is no other. -/
theorem pathMtu_isLeast (SecretKey PublicKey ν μ Signature : Type) [Sha256] [HkdfSha256]
    [ChaCha20Poly1305] [Secp256k1 SecretKey PublicKey] [SessionMmp μ] [SchnorrEncoding Signature]
    [SigningKey SecretKey Signature] [VerifyingKey PublicKey Signature] :
    (∀ payload mtus d, Node.DatagramRoute SecretKey PublicKey ν μ (0x00 :: payload) mtus →
      SessionDatagram.decode payload = .ok d →
      IsLeast {x | x ∈ mtus} d.pathMtu ∧
      ∀ (env : Env SecretKey) (n n₁ : Node SecretKey PublicKey ν μ) (d' : SessionDatagram)
        (incomingCe : Bool), d.decrementTtl = some d' →
        Node.tryWarmCoordCache d' n = (n₁, .ok ()) → d.destAddr = n₁.nodeAddr →
        Node.handleSessionDatagram env payload incomingCe n =
          body (Node.handleSessionPayload env d.srcAddr d.payload d.pathMtu incomingCe) n₁) ∧
    ∀ payload first later response,
      LookupNode.ResponseRoute SecretKey PublicKey ν μ Signature (0x31 :: payload) first later →
      (LookupResponse.decode payload : Result ProtocolError (LookupResponse Signature)) =
        .ok response →
      IsLeast {x | x = U16_MAX ∨ x ∈ later} response.pathMtu :=
  ⟨fun _ _ _ hroute hdecode => ⟨hroute.isLeast rfl hdecode, fun _ _ _ _ incomingCe httl hwarm hdest =>
      Node.handleSessionDatagram_local hdecode httl hwarm hdest incomingCe⟩,
    fun _ _ _ _ hroute hdecode => hroute.isLeast rfl hdecode⟩

/-! ## Over one link and over two -/

section Line

open Sample

/-- Node `self`, whose links have this MTU. -/
def linkEnv (self mtu : Nat) : Env Scalar := { env self 0 ⟨7⟩ with linkMtu := fun _ => mtu }

/-- What a node of the line reads, with one MTU for all of its links. -/
def lookupLinkEnv (self mtu : Nat) : LookupEnv Scalar Point :=
  { lookupEnv self 0 0 (fun _ => true) with linkMtu := fun _ => mtu }

/-- A datagram from node 1 to node 3 as its second hop reads it. -/
def halfWay (ttl : UInt8) (pathMtu : Nat) : SessionDatagram := ⟨addr 1, addr 3, ttl, pathMtu, []⟩

/-- Node 1 sends it over a link of 1400 bytes, node 2 over one of 1280. -/
theorem route_halfWay :
    Node.DatagramRoute Scalar Point Unit Unit (halfWay 63 1280).encode [1280, 1400] := by
  have hfirst : Node.DatagramRoute Scalar Point Unit Unit (halfWay 64 1400).encode [1400] :=
    .sent (linkEnv 1 1400) (node 1 ⟨3⟩) (addr 1) (addr 3) [] 64 (by decide)
      (List.mem_singleton.mpr rfl)
  have hdecode : ∀ ttl pathMtu, pathMtu < 65536 →
      SessionDatagram.decode (halfWay ttl pathMtu).encode.tail = .ok (halfWay ttl pathMtu) := by
    intro ttl pathMtu h
    rw [SessionDatagram.decode_encode]
    exact congrArg (fun m => Except.ok (halfWay ttl m)) (Nat.mod_eq_of_lt h)
  have hsent : .sentLinkMessage (addr 3) (halfWay 63 1280).encode false ∈ Node.sends
      (Node.handleSessionDatagram (linkEnv 2 1280) (halfWay 64 1400).encode.tail false)
      (node 2 ⟨3⟩) := List.mem_singleton.mpr rfl
  have hsame : sentDatagram (.sentLinkMessage (addr 3) (halfWay 63 1280).encode false :
      Effect Point) = some (halfWay 63 1280) := sentDatagram_encode _ _ _
  exact .forwarded (linkEnv 2 1280) (node 2 ⟨3⟩) false (by decide) hfirst
    (hdecode 64 1400 (by decide)) (by decide) hsent hsame ⟨rfl, rfl, rfl⟩

/-- The answer with this path MTU. -/
def answerWith (pathMtu : Nat) : LookupResponse Unit :=
  ⟨7, addr 3, pathMtu, TreeCoordinate.rootWithMeta (addr 3) 1 0, ()⟩

theorem decode_answerWith {pathMtu : Nat} (h : pathMtu = 1400 ∨ pathMtu = 65535) :
    (LookupResponse.decode (answerWith pathMtu).encode.tail :
      Result ProtocolError (LookupResponse Unit)) = .ok (answerWith pathMtu).addrsOnly := by
  rcases h with rfl | rfl
  · rfl
  · rfl

/-- Node 3 answers over a link of this MTU. -/
theorem route_answer {mtu : Nat} (h : mtu ≤ U16_MAX) :
    LookupNode.ResponseRoute Scalar Point Unit Unit Unit (answerWith 65535).encode mtu [] :=
  .sent (lookupLinkEnv 3 mtu) (.new ⟨addr 3, ⟨5⟩⟩ startupEpoch config lookupConfig 0)
    ⟨7, addr 3, addr 1, TreeCoordinate.rootWithMeta (addr 1) 1 0, 63, 0⟩ h
    (List.mem_singleton.mpr rfl)

/-- Node 2, which passed the request of node 1 on. -/
def between : LookupNode Scalar Point Unit Unit :=
  { LookupNode.new ⟨addr 2, ⟨5⟩⟩ startupEpoch config lookupConfig 0 with
    recentRequests := AList.insert 7 (.new (addr 1) 0) ∅ }

/-- Node 3 answers over a link of 1280 bytes, node 2 passes the answer on over one of 1400. -/
theorem route_passedOn :
    LookupNode.ResponseRoute Scalar Point Unit Unit Unit (answerWith 1400).encode 1280 [1400] := by
  have hsent : .sentLinkMessage (addr 1) (answerWith 1400).encode false ∈ LookupNode.sends
      (LookupNode.handleLookupResponse (lookupLinkEnv 2 1400) Unit (answerWith 65535).encode.tail)
      between := List.mem_singleton.mpr rfl
  exact .forwarded (lookupLinkEnv 2 1400) between (by decide) (route_answer (by decide))
    (decode_answerWith (.inr rfl)) rfl hsent

/-- A datagram and a response over two links: the MTU of the response's first link is not in it. -/
theorem pathMtu_isLeast_line :
    IsLeast {x | x ∈ [1280, 1400]} (halfWay 63 1280).pathMtu ∧
      IsLeast {x | x = U16_MAX ∨ x ∈ [1400]} (answerWith 1400).addrsOnly.pathMtu :=
  ⟨((pathMtu_isLeast Scalar Point Unit Unit Unit).1 _ _ _ route_halfWay
      (halfWay 63 1280).decode_encode).1,
    (pathMtu_isLeast Scalar Point Unit Unit Unit).2 _ _ _ _ route_passedOn
      (decode_answerWith (.inl rfl))⟩

/-- Over one link of 1280 bytes a response arrives with 65535. -/
theorem first_link_not_counted :
    ¬ ∀ payload first later response,
      LookupNode.ResponseRoute Scalar Point Unit Unit Unit (0x31 :: payload) first later →
      (LookupResponse.decode payload : Result ProtocolError (LookupResponse Unit)) = .ok response →
      IsLeast {x | x ∈ first :: later} response.pathMtu := by
  intro h
  have hleast := h _ 1280 [] _ (route_answer (by decide)) (decode_answerWith (.inr rfl))
  have hle : 65535 ≤ 1280 := hleast.2 (List.mem_singleton.mpr rfl)
  exact absurd hle (by decide)

end Line

end Fips
