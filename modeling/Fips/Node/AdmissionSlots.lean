import Fips.Lib.Run
import Fips.Node.Admission
import Fips.Node.LinkSample

/-!
# Handshake slots

Each exit of `handle_msg1` gives the slot of its handshake back, and none of the steps between
panics. So a msg1 leaves the limiter as it found it, and what a flood of them takes from the peers
that come later is tokens, never slots.

The one step that could stop the program is the copy of the decrypted epoch into its array. It fits
because the AEAD takes its tag off a ciphertext and nothing else (`ChaCha20Poly1305.Sized`).

## Results

* `handleMsg1_limiter`: one msg1 leaves the limiter as it was.
* `limiter_receives`: a run of them.
-/

namespace Fips

open Checked

/-! ## No step of the link handshake panics -/

namespace LinkNode

variable {SecretKey PublicKey ν μ ε : Type} (env : LinkEnv SecretKey)

/-- A transport that refuses is reported in the value, not by an exit. -/
theorem returns_transmit (transportId : TransportId) (remoteAddr : TransportAddr) (data : Bytes) :
    Returns (transmit env transportId remoteAddr data : M SecretKey PublicKey ν μ ε Bool) := by
  unfold transmit
  cases env.send transportId remoteAddr data with
  | sent => exact (returns_write _).bind fun _ => returns_pure true
  | failed => exact returns_pure false
  | noTransport => exact returns_pure true

/-- An exhausted allocator is reported in the value, not by an exit. -/
theorem returns_allocate :
    Returns (attempt (allocate env) : M SecretKey PublicKey ν μ ε (Except IndexError SessionIndex)) := by
  refine NeverPanics.attempt ((returns_read _).neverPanics.bind fun inUse => ?_)
  refine (neverPanics_orElse _ _).bind fun index => ?_
  exact ((returns_write _).bind fun _ => returns_pure index).neverPanics

/-- A duplicate is answered or not, and the handler goes on. -/
theorem returns_resendMsg2 (packet : ReceivedPacket) (msg2 : Option Bytes) :
    Returns (resendMsg2 env packet msg2 : M SecretKey PublicKey ν μ ε Unit) := by
  cases msg2 with
  | none => exact returns_pure ()
  | some msg2 => exact (returns_transmit env _ _ _).bind fun _ => returns_pure ()

theorem returns_yieldRekey (addr : NodeAddr) (peer : ActivePeer SecretKey PublicKey ν) :
    Returns (yieldRekey addr peer : M SecretKey PublicKey ν μ ε Unit) := by
  refine (returns_write _).bind fun _ => ?_
  cases peer.abandonRekey.2 with
  | none => exact returns_pure ()
  | some idx =>
    cases peer.transportId with
    | none => exact returns_pure ()
    | some tid => exact returns_write _

theorem returns_removeActivePeer (addr : NodeAddr) :
    Returns (removeActivePeer addr : M SecretKey PublicKey ν μ ε Unit) := by
  intro n
  unfold wp removeActivePeer onNode
  trivial

theorem returns_replacePeer (addr : NodeAddr) (oldPeer : ActivePeer SecretKey PublicKey ν) :
    Returns (replacePeer addr oldPeer : M SecretKey PublicKey ν μ ε Unit) := by
  refine (returns_write _).bind fun _ => ?_
  cases oldPeer.transportId with
  | none => exact returns_pure ()
  | some oldTid =>
    cases oldPeer.ourIndex with
    | none => exact returns_pure ()
    | some oldIdx => exact returns_write _

/-- A promotion that lacks something is an error of its own kind. -/
theorem noPanic_extractPromotion (linkId : LinkId) (connection : PeerConnection SecretKey PublicKey) :
    NoPanic (extractPromotion linkId connection) := by
  unfold extractPromotion
  split_ifs
  · exact noPanic_error _
  · refine noPanic_bind (noPanic_okOr _ _) fun _ _ => noPanic_bind (noPanic_okOr _ _) fun _ _ => ?_
    refine noPanic_bind (noPanic_okOr _ _) fun _ _ => noPanic_bind (noPanic_okOr _ _) fun _ _ => ?_
    exact noPanic_bind (noPanic_okOr _ _) fun _ _ => noPanic_pure _

variable [Sha256] [Secp256k1 SecretKey PublicKey] [Mmp ν]

theorem returns_insertPeer (linkId : LinkId) (verifiedIdentity : PeerIdentity PublicKey)
    (currentTimeMs now : Nat) (p : Promotion PublicKey) :
    Returns (insertPeer linkId verifiedIdentity currentTimeMs now p :
      M SecretKey PublicKey ν μ ε Unit) :=
  (returns_write _).bind fun _ => returns_write _

/-- A promotion may fail, but it does not stop the program. -/
theorem neverPanics_promoteConnection (linkId : LinkId) (verifiedIdentity : PeerIdentity PublicKey)
    (currentTimeMs now : Nat) :
    NeverPanics (promoteConnection linkId verifiedIdentity currentTimeMs now :
      M SecretKey PublicKey ν μ LinkError PromotionResult) := by
  unfold promoteConnection
  refine (returns_read _).neverPanics.bind fun connection => ?_
  refine (neverPanics_orElse _ _).bind fun connection => ?_
  refine (returns_write _).neverPanics.bind fun _ => ?_
  refine (neverPanics_pureCall (noPanic_extractPromotion _ _)).bind fun p => ?_
  refine (returns_read _).neverPanics.bind fun existing => ?_
  cases existing with
  | some existingPeer =>
    refine (returns_read _).neverPanics.bind fun ourAddr => NeverPanics.ite ?_ ?_
    · refine Returns.neverPanics ((returns_replacePeer _ _).bind fun _ => ?_)
      exact (returns_insertPeer _ _ _ _ _).bind fun _ => returns_pure _
    · exact ((returns_write _).bind fun _ => returns_pure _).neverPanics
  | none =>
    refine (returns_read _).neverPanics.bind fun maxPeers => ?_
    refine (returns_read _).neverPanics.bind fun count => NeverPanics.ite ?_ ?_
    · exact (returns_write _).neverPanics.bind fun _ => neverPanics_stop _
    · exact ((returns_insertPeer _ _ _ _ _).bind fun _ => returns_pure _).neverPanics

end LinkNode

/-! ## Every exit gives the slot back -/

namespace HandshakeRateLimiter

/-- What a handshake takes of the limiter. -/
def taken (limiter : HandshakeRateLimiter) : HandshakeRateLimiter :=
  { limiter with pendingCount := limiter.pendingCount + 1 }

/-- A slot that is taken and given back leaves the limiter as it was. -/
theorem completeHandshake_taken (limiter : HandshakeRateLimiter) :
    limiter.taken.completeHandshake = limiter := if_pos (Nat.succ_pos _)

/-- A start takes a slot if it succeeds and nothing otherwise. -/
theorem startHandshake_cases (limiter : HandshakeRateLimiter) (acquired : Bool) :
    limiter.startHandshake acquired = (limiter.taken, true) ∨
      limiter.startHandshake acquired = (limiter, false) := by
  unfold startHandshake
  split_ifs
  · exact .inr rfl
  · exact .inl rfl
  · exact .inr rfl

end HandshakeRateLimiter

namespace AdmittingNode

variable {SecretKey PublicKey ν μ ε α : Type}

/-- The method gives the slot of its handshake back. -/
abbrev Frees (m : M SecretKey PublicKey ν μ ε α) : Prop :=
  Settles (·.msg1RateLimiter) HandshakeRateLimiter.taken m

/-- The method goes on with the slot or gives it back. -/
abbrev KeepsSlot (m : M SecretKey PublicKey ν μ ε α) : Prop :=
  Carries (·.msg1RateLimiter) HandshakeRateLimiter.taken m

/-- `complete_handshake` frees the slot. -/
theorem frees_completeHandshake : Frees (completeHandshake : M SecretKey PublicKey ν μ ε Unit) := by
  intro limiter n hn
  exact (congrArg HandshakeRateLimiter.completeHandshake hn).trans limiter.completeHandshake_taken

/-- What runs on the node below keeps the slot and always comes back. -/
theorem keepsSlot_onLink {m : LinkNode.M SecretKey PublicKey ν μ ε α} (hm : Returns m) :
    KeepsSlot (onLink m) := carries_onPart linkPart (fun _ _ => rfl) hm

/-- Work on the links before the slot is given back. -/
theorem frees_onLink {m : LinkNode.M SecretKey PublicKey ν μ ε Unit} (hm : Returns m) :
    Frees (do onLink m; completeHandshake) :=
  (keepsSlot_onLink hm).settles fun _ => frees_completeHandshake

/-- What is read of the packet, or an exit. -/
theorem frees_orComplete_bind {ε' β : Type} {x : Result ε' α} (hx : NoPanic x)
    {f : α → Handler SecretKey PublicKey ν μ β} (hf : ∀ a, x = .ok a → Frees (f a)) :
    Frees (orComplete x >>= f) := by
  cases x with
  | ok a => exact hf a rfl
  | error e =>
    cases e with
    | error e => exact frees_completeHandshake.exit ()
    | panic => exact absurd rfl hx

variable (env : LinkEnv SecretKey)

theorem keepsSlot_checkAddress (packet : ReceivedPacket) :
    KeepsSlot (checkAddress env packet : Handler SecretKey PublicKey ν μ Bool) := by
  unfold checkAddress
  refine (keepsSlot_onLink (returns_read _)).bind fun existing => ?_
  cases existing with
  | none => exact carries_pure false
  | some existingLinkId =>
    refine (keepsSlot_onLink (returns_read _)).bind fun link => ?_
    cases link with
    | none => exact carries_pure false
    | some link =>
      refine (keepsSlot_onLink (returns_read _)).bind fun isActivePeer => ?_
      refine (carries_pure true).ite (Carries.ite ?_ (carries_pure false))
      refine (keepsSlot_onLink (returns_read _)).bind fun msg2 => ?_
      refine (keepsSlot_onLink (LinkNode.returns_resendMsg2 env _ _)).bind fun _ => ?_
      exact frees_completeHandshake.exit_carries ()

/-- Every exit of a rekey frees the slot. -/
theorem frees_respondRekey (packet : ReceivedPacket) (senderIdx : SessionIndex)
    (conn : PeerConnection SecretKey PublicKey) (msg2Response : Bytes) (addr : NodeAddr)
    (existingPeer : ActivePeer SecretKey PublicKey ν) :
    Frees (respondRekey env packet senderIdx conn msg2Response addr existingPeer :
      Handler SecretKey PublicKey ν μ Unit) := by
  unfold respondRekey
  refine (keepsSlot_onLink (returns_read _)).settles fun ourAddr => ?_
  refine (frees_onLink (returns_write _)).ite ((frees_onLink (returns_write _)).ite ?_)
  refine (keepsSlot_onLink (LinkNode.returns_yieldRekey _ _)).ite_settles fun _ => ?_
  refine (keepsSlot_onLink (LinkNode.returns_allocate env)).settles fun allocated => ?_
  cases allocated with
  | error e => exact frees_completeHandshake
  | ok ourNewIndex =>
    cases conn.takeSession.2 with
    | none => exact frees_onLink (returns_write _)
    | some noiseSession =>
      refine (keepsSlot_onLink (LinkNode.returns_transmit env _ _ _)).settles fun sent => ?_
      refine (frees_onLink (returns_write _)).ite ?_
      refine (keepsSlot_onLink (returns_write _)).settles fun _ => ?_
      exact (keepsSlot_onLink (returns_write _)).settles fun _ => frees_onLink (returns_write _)

/-- An inbound connection is opened, or refused, with the slot still taken. -/
theorem keepsSlot_openInbound (packet : ReceivedPacket) (senderIdx : SessionIndex)
    (conn : PeerConnection SecretKey PublicKey) (msg2Response : Bytes) :
    KeepsSlot (openInbound env packet senderIdx conn msg2Response :
      Handler SecretKey PublicKey ν μ _) := by
  unfold openInbound
  refine (keepsSlot_onLink (LinkNode.returns_allocate env)).bind fun allocated => ?_
  cases allocated with
  | error e => exact frees_completeHandshake.exit_carries ()
  | ok ourIndex =>
    refine (keepsSlot_onLink (returns_write _)).bind fun _ => ?_
    refine (keepsSlot_onLink (returns_write _)).bind fun _ => ?_
    refine (keepsSlot_onLink (LinkNode.returns_transmit env _ _ _)).bind fun sent => ?_
    refine Carries.ite ?_ (carries_pure _)
    refine (keepsSlot_onLink (returns_write _)).bind fun _ => ?_
    refine (keepsSlot_onLink (returns_write _)).bind fun _ => ?_
    exact (keepsSlot_onLink (returns_write _)).bind fun _ => frees_completeHandshake.exit_carries ()

variable [Sha256] [Secp256k1 SecretKey PublicKey] [Mmp ν]

/-- Every exit of an accepted connection frees the slot. -/
theorem frees_acceptConnection (packet : ReceivedPacket) (senderIdx : SessionIndex)
    (conn : PeerConnection SecretKey PublicKey) (msg2Response : Bytes)
    (peerIdentity : PeerIdentity PublicKey) :
    Frees (acceptConnection env packet senderIdx conn msg2Response peerIdentity :
      Handler SecretKey PublicKey ν μ Unit) := by
  unfold acceptConnection
  refine (keepsSlot_openInbound env packet senderIdx conn msg2Response).settles fun opened => ?_
  refine (keepsSlot_onLink (NeverPanics.attempt
    (LinkNode.neverPanics_promoteConnection conn.linkId peerIdentity _ _))).settles fun promotion => ?_
  cases promotion with
  | error e => exact (keepsSlot_onLink (returns_write _)).settles fun _ => frees_onLink (returns_write _)
  | ok result =>
    cases result with
    | promoted addr => exact frees_onLink (returns_write _)
    | crossConnectionWon loserLinkId addr =>
      exact (keepsSlot_onLink (returns_write _)).settles fun _ => frees_onLink (returns_write _)
    | crossConnectionLost winnerLinkId =>
      exact (keepsSlot_onLink (returns_write _)).settles fun _ => frees_onLink (returns_write _)

/-- Every exit behind the checks frees the slot. -/
theorem frees_receiveMsg1 (packet : ReceivedPacket) (senderIdx : SessionIndex)
    (conn : PeerConnection SecretKey PublicKey) (msg2Response : Bytes)
    (peerIdentity : PeerIdentity PublicKey) (possibleRestart : Bool) :
    Frees (receiveMsg1 env packet senderIdx conn msg2Response peerIdentity possibleRestart :
      Handler SecretKey PublicKey ν μ Unit) := by
  unfold receiveMsg1
  have haccept := frees_acceptConnection (ν := ν) (μ := μ) env packet senderIdx conn msg2Response
    peerIdentity
  refine (keepsSlot_onLink (returns_read _)).settles fun existing => ?_
  dsimp only
  cases (if possibleRestart || existing.isSome then existing else none) with
  | none => exact haccept
  | some existingPeer =>
    refine (keepsSlot_onLink (returns_read _)).settles fun config => Settles.ite ?_ (Settles.ite ?_ ?_)
    · refine (keepsSlot_onLink (LinkNode.returns_removeActivePeer _)).settles fun _ => ?_
      exact (keepsSlot_onLink (returns_write _)).settles fun _ => haccept
    · exact frees_respondRekey env packet senderIdx conn msg2Response _ existingPeer
    · exact frees_onLink (LinkNode.returns_resendMsg2 env _ _)

variable [HkdfSha256] [ChaCha20Poly1305]

/-- Whatever becomes of an admitted msg1, its slot is given back. -/
theorem frees_admitted (hsized : ChaCha20Poly1305.Sized) (packet : ReceivedPacket) :
    Frees (admitted env packet : Handler SecretKey PublicKey ν μ Unit) := by
  unfold admitted
  refine (frees_completeHandshake.exit ()).ite ?_
  refine frees_orComplete_bind (Msg1Header.noPanic_parse _) fun header hparse => ?_
  refine (keepsSlot_checkAddress env packet).settles fun possibleRestart => ?_
  refine (keepsSlot_onLink ((returns_read _).bind fun _ => ?_)).settles fun linkId => ?_
  · exact (returns_write _).bind fun _ => returns_pure _
  refine (keepsSlot_onLink (returns_read _)).settles fun n => ?_
  rw [sliceFrom_of_le (Msg1Header.offset_le_of_parse hparse)]
  refine (keepsSlot_onLink (returns_pure _)).settles fun noiseMsg1 => ?_
  refine frees_orComplete_bind (PeerConnection.noPanic_receiveHandshakeInit hsized _ _ _ _ _ _) ?_
  rintro ⟨msg2Response, conn⟩ -
  refine frees_orComplete_bind (noPanic_okOr _ _) fun peerIdentity _ => ?_
  exact frees_receiveMsg1 env packet _ _ _ _ possibleRestart

/-- **One msg1** returns, and the limiter is as it was. -/
theorem handleMsg1_limiter (hsized : ChaCha20Poly1305.Sized)
    (n : AdmittingNode SecretKey PublicKey ν μ) (acquired : Bool) (packet : ReceivedPacket) :
    wp (handleMsg1 env acquired packet : Handler SecretKey PublicKey ν μ Unit)
      (fun _ n' => n'.msg1RateLimiter = n.msg1RateLimiter) (fun _ _ => False) n := by
  unfold wp
  rw [handleMsg1_eq]
  rcases n.msg1RateLimiter.startHandshake_cases acquired with hstart | hstart
  · rw [hstart]
    exact Settles.body (frees_admitted env hsized packet) rfl
  · rw [hstart]
    rfl

/-! ## Runs -/

end AdmittingNode

/-- A msg1 that arrives, and what its handler reads from outside. -/
structure Msg1Arrival (SecretKey : Type) where
  env : LinkEnv SecretKey
  acquired : Bool
  packet : ReceivedPacket

namespace AdmittingNode

variable {SecretKey PublicKey ν μ : Type}
variable [Sha256] [HkdfSha256] [ChaCha20Poly1305] [Secp256k1 SecretKey PublicKey] [Mmp ν]

/-- The handler of an arrival. -/
def receive (arrival : Msg1Arrival SecretKey) : Handler SecretKey PublicKey ν μ Unit :=
  handleMsg1 arrival.env arrival.acquired arrival.packet

/-- The node after one arrival. -/
def afterArrival (n : AdmittingNode SecretKey PublicKey ν μ) (arrival : Msg1Arrival SecretKey) :
    AdmittingNode SecretKey PublicKey ν μ :=
  (receive arrival n).1

/-- **One msg1.** The limiter is after it as before. -/
theorem limiter_afterArrival (hsized : ChaCha20Poly1305.Sized)
    (n : AdmittingNode SecretKey PublicKey ν μ) (arrival : Msg1Arrival SecretKey) :
    (n.afterArrival arrival).msg1RateLimiter = n.msg1RateLimiter :=
  fst_of_wp_returns (handleMsg1_limiter arrival.env hsized n arrival.acquired arrival.packet)

/-- **The run lemma.** -/
theorem limiter_afterArrivals (hsized : ChaCha20Poly1305.Sized)
    (n : AdmittingNode SecretKey PublicKey ν μ) (arrivals : List (Msg1Arrival SecretKey)) :
    (EventRun.exec afterArrival n arrivals).msg1RateLimiter = n.msg1RateLimiter := by
  induction arrivals generalizing n with
  | nil => rfl
  | cons arrival arrivals ih =>
    exact (ih (n.afterArrival arrival)).trans (limiter_afterArrival hsized n arrival)

/-- **Handshake slots never leak.** After any sequence of msg1 packets from any state, every handler
has returned, each with as many handshakes pending as before it, and the limiter admits the next one
exactly if it would have admitted it at the start. -/
theorem handshakeSlots_never_leak (hsized : ChaCha20Poly1305.Sized)
    (n : AdmittingNode SecretKey PublicKey ν μ) (arrivals : List (Msg1Arrival SecretKey)) :
    let n' := EventRun.exec afterArrival n arrivals
    (∀ arrival, (receive arrival n').2 = .ok () ∧
      (n'.afterArrival arrival).msg1RateLimiter.pendingCount =
        n'.msg1RateLimiter.pendingCount) ∧
    n'.msg1RateLimiter.pendingCount = n.msg1RateLimiter.pendingCount ∧
    ∀ acquired, (n'.msg1RateLimiter.startHandshake acquired).2 =
      (n.msg1RateLimiter.startHandshake acquired).2 := by
  intro n'
  have hlimiter : n'.msg1RateLimiter = n.msg1RateLimiter := limiter_afterArrivals hsized n arrivals
  refine ⟨fun arrival => ⟨?_, ?_⟩, ?_, fun acquired => ?_⟩
  · exact result_of_wp_returns
      (handleMsg1_limiter arrival.env hsized n' arrival.acquired arrival.packet)
  · rw [limiter_afterArrival hsized]
  · rw [hlimiter]
  · rw [hlimiter]

end AdmittingNode

namespace Sample

/-- A node with two handshakes pending and room for a third. -/
def gate : AdmittingNode Scalar Point Unit Unit := ⟨linkNode 5 1, ⟨2, 3⟩⟩

/-- The msg1 of node 7. -/
def firstMsg1 : Bytes :=
  lastSent (linkRun (linkNode 7 1)
    [.initiateConnection (linkEnv 1000 9 70) 0 [5] (peerIdentity 5)])

/-- A msg1 from one address, which the limiter's bucket lets pass. -/
def arrival (data : Bytes) : Msg1Arrival Scalar :=
  ⟨linkEnv 2000 11 50, true, ⟨0, [7], data, 2000⟩⟩

/-- A msg1 that makes its sender a peer, a duplicate of it and two frames that are none. -/
def flood : List (Msg1Arrival Scalar) :=
  [arrival firstMsg1, arrival firstMsg1, arrival (firstMsg1.drop 1), arrival []]

end Sample

open Sample in
/-- The flood makes one peer and holds no slot: the limiter admits what it admitted before. -/
theorem handshakeSlots_never_leak_flood :
    (EventRun.exec AdmittingNode.afterArrival gate flood).peers.entries.length = 1 ∧
    (EventRun.exec AdmittingNode.afterArrival gate flood).msg1RateLimiter.pendingCount = 2 ∧
    ∀ acquired, ((EventRun.exec AdmittingNode.afterArrival gate
      flood).msg1RateLimiter.startHandshake acquired).2 = acquired := by
  obtain ⟨-, hcount, hadmits⟩ := AdmittingNode.handshakeSlots_never_leak aead_sized gate flood
  refine ⟨by decide +kernel, hcount, fun acquired => ?_⟩
  rw [hadmits acquired]
  cases acquired <;> rfl

end Fips
