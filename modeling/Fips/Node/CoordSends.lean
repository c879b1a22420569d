import Fips.Node.CoordFrames
import Fips.Node.LookupSends
import Fips.Node.QueueOwners
import Fips.Node.SessionRekey
import Fips.Wire.PlainCoords

/-!
# Whose coordinates a node sends and caches

Every handler that touches session datagrams, against the coordinates it puts into messages and into
the coordinate cache. A payload from `src` for `dest` is `Faithful` if the source coordinates it shows
begin with `src` and the destination coordinates with `dest`, or with `src` where
`get_dest_coords` (`handlers/session.rs:1630-1651`) found nothing cached and took the node's own, or
with a node that is known to have done so (`placed`).

`Speaks` is what a handler keeps: the messages it sends are faithful and are its own or passed on as
they came, the coordinates it caches locate the address they are cached for, and the handshake
messages kept for a resend are faithful.

## Results

* `shows_frame`, `not_shows_frame`: what a sealed frame shows.
* `keeps_speaks_initiateSession`, `keeps_speaks_checkSessionRekey`,
  `keeps_speaks_resendPendingSessionHandshakes`: what a node sends of its own.
* `keeps_speaks_handleSessionDatagram`: what it sends and caches on a faithful datagram.
-/

open Checked

namespace Fips

/-! ## Coordinates of a payload -/

/-- What coordinates for `a` may begin with: `placed a b` says that `b` has sent its own in their
place. -/
structure Locates (placed : NodeAddr → NodeAddr → Prop) (a : NodeAddr) (c : TreeCoordinate) : Prop where
  nodeAddr : c.nodeAddr = a ∨ placed a c.nodeAddr
  length : c.entries.length ≤ 65535

/-- The coordinates that a payload shows are those of its source, and those of its destination or a
placeholder. -/
structure Faithful (placed : NodeAddr → NodeAddr → Prop) (src dest : NodeAddr) (payload : Bytes) :
    Prop where
  source : ∀ s d, Shows payload s d → ∀ c ∈ s, c.nodeAddr = src
  destination : ∀ s d, Shows payload s d → ∀ c ∈ d,
    c.nodeAddr = dest ∨ c.nodeAddr = src ∨ placed dest c.nodeAddr

section Payloads

variable {placed : NodeAddr → NodeAddr → Prop} {src dest : NodeAddr} {payload : Bytes}

/-- Coordinates that locate a node still do when more is placed. -/
theorem Locates.mono {placed' : NodeAddr → NodeAddr → Prop} {c : TreeCoordinate}
    (h : Locates placed dest c) (hmono : ∀ a b, placed a b → placed' a b) : Locates placed' dest c :=
  ⟨h.nodeAddr.imp_right (hmono _ _), h.length⟩

/-- A payload that is faithful still is when more is placed. -/
theorem Faithful.mono {placed' : NodeAddr → NodeAddr → Prop} (h : Faithful placed src dest payload)
    (hmono : ∀ a b, placed a b → placed' a b) : Faithful placed' src dest payload :=
  ⟨h.source, fun s d hshows c hc => (h.destination s d hshows c hc).imp_right (Or.imp_right (hmono _ _))⟩

/-- A payload that shows no coordinates is faithful. -/
theorem faithful_of_not_shows (h : ∀ s d, ¬ Shows payload s d) : Faithful placed src dest payload :=
  ⟨fun s d hshows => absurd hshows (h s d), fun s d hshows => absurd hshows (h s d)⟩

/-- A payload that shows one pair. -/
theorem faithful_of_pair {own other : TreeCoordinate}
    (h : ∀ s d, Shows payload s d → s = some own.addrsOnly ∧ d = some other.addrsOnly)
    (hown : own.nodeAddr = src)
    (hother : other.nodeAddr = dest ∨ other.nodeAddr = src ∨ placed dest other.nodeAddr) :
    Faithful placed src dest payload where
  source s d hshows c hc := by
    obtain ⟨rfl, -⟩ := h s d hshows
    cases hc
    rw [TreeCoordinate.nodeAddr_addrsOnly]
    exact hown
  destination s d hshows c hc := by
    obtain ⟨-, rfl⟩ := h s d hshows
    cases hc
    rw [TreeCoordinate.nodeAddr_addrsOnly]
    exact hother

/-- **A frame with coordinates** shows them. -/
theorem shows_frame {f : CoordFrame} {own other : TreeCoordinate}
    (hcoords : f.coords = some (own, other)) (hown : own.entries.length ≤ 65535)
    (hother : other.entries.length ≤ 65535) {s d : Option TreeCoordinate} (h : Shows f.bytes s d) :
    s = some own.addrsOnly ∧ d = some other.addrsOnly := by
  have hparse := f.parse_prefix
  have hdrop : f.bytes.drop FSP_HEADER_SIZE =
      encodeCoords own ++ encodeCoords other ++ f.ciphertext := by
    rw [f.bytes_eq, CoordFrame.coordBytes, hcoords, ← f.length_header]
    exact List.drop_left
  cases h with
  | setup hpre hphase _ =>
    cases hpre.symm.trans hparse
    cases hphase
  | ack hpre hphase _ =>
    cases hpre.symm.trans hparse
    cases hphase
  | frame _ _ _ hparsed =>
    rw [hdrop, parseEncryptedCoords_append hown hother] at hparsed
    cases hparsed
    exact ⟨rfl, rfl⟩

/-- **A frame without the flag** shows nothing. -/
theorem not_shows_frame {f : CoordFrame} (hflag : hasFlag f.flags FSP_FLAG_CP = false)
    {s d : Option TreeCoordinate} : ¬ Shows f.bytes s d := by
  have hparse := f.parse_prefix
  intro h
  cases h with
  | setup hpre hphase _ =>
    cases hpre.symm.trans hparse
    cases hphase
  | ack hpre hphase _ =>
    cases hpre.symm.trans hparse
    cases hphase
  | frame hpre _ hcoords _ =>
    cases hpre.symm.trans hparse
    exact Bool.false_ne_true (hflag.symm.trans hcoords)

end Payloads

namespace Node

variable {SecretKey PublicKey ν μ ε : Type}

/-! ## What a node knows and says -/

/-- The coordinates of an event: the node's own, and for each destination those it has cached or its
own. -/
structure KnowsCoords (placed : NodeAddr → NodeAddr → Prop) (my : NodeAddr) (env : Env SecretKey) :
    Prop where
  own : env.myCoords.nodeAddr = my
  ownLength : env.myCoords.entries.length ≤ 65535
  dest : ∀ a, (env.destCoords a).nodeAddr = a ∨ (env.destCoords a).nodeAddr = my ∨
    placed a (env.destCoords a).nodeAddr
  destLength : ∀ a, (env.destCoords a).entries.length ≤ 65535

/-- A session datagram is faithful, and if it shows anything it is the node's own or came from its
source (`origin`). What is cached for an address locates it. -/
structure Tells (placed : NodeAddr → NodeAddr → Prop) (origin : NodeAddr → NodeAddr → Bytes → Prop)
    (my : NodeAddr) (e : Effect PublicKey) : Prop where
  sent : ∀ nextHop payload ce d, e = .sentLinkMessage nextHop (0x00 :: payload) ce →
    SessionDatagram.decode payload = .ok d → Faithful placed d.srcAddr d.destAddr d.payload ∧
      ∀ s t, Shows d.payload s t → d.srcAddr = my ∨ origin d.srcAddr d.destAddr d.payload
  cached : ∀ a c, e = .cacheCoords a c → Locates placed a c
  kind : ∀ nextHop message ce, e = .sentLinkMessage nextHop message ce → message.head? = some 0x00

/-- The handshake messages kept for a resend are faithful. -/
def Stored (placed : NodeAddr → NodeAddr → Prop) (my : NodeAddr) (n : Node SecretKey PublicKey ν μ) :
    Prop :=
  ∀ a e payload, n.sessions.lookup a = some e → e.handshakePayload = some payload →
    Faithful placed my a payload

/-- From `base` to `n` only such messages were sent, such coordinates cached and such handshake
messages stored. -/
structure Speaks (placed : NodeAddr → NodeAddr → Prop) (origin : NodeAddr → NodeAddr → Bytes → Prop)
    (base n : Node SecretKey PublicKey ν μ) : Prop where
  grown : Grown base (Tells placed origin base.nodeAddr) n
  stored : Stored placed base.nodeAddr n

variable {placed : NodeAddr → NodeAddr → Prop} {origin : NodeAddr → NodeAddr → Bytes → Prop}
  {base n n' : Node SecretKey PublicKey ν μ} {my : NodeAddr}

/-- An effect that neither sends nor caches tells nothing. -/
theorem tells_of_local {e : Effect PublicKey} (he : Effect.IsLocal e)
    (hcache : ∀ a c, e ≠ .cacheCoords a c) : Tells placed origin my e :=
  ⟨fun _ _ _ _ heq => absurd heq (he _ _ _), fun a c heq => absurd heq (hcache a c),
    fun _ _ _ heq => absurd heq (he _ _ _)⟩

/-- The cache may be told coordinates that locate their node. -/
theorem tells_cacheCoords {a : NodeAddr} {c : TreeCoordinate} (h : Locates placed a c) :
    Tells placed origin my (.cacheCoords a c : Effect PublicKey) where
  sent _ _ _ _ heq := by cases heq
  cached a' c' heq := by
    cases heq
    exact h
  kind _ _ _ heq := by cases heq

/-- A datagram as it was encoded. -/
theorem tells_datagram {nextHop : NodeAddr} {ce : Bool} {d : SessionDatagram}
    (hfaithful : Faithful placed d.srcAddr d.destAddr d.payload)
    (hsrc : ∀ s t, Shows d.payload s t → d.srcAddr = my ∨ origin d.srcAddr d.destAddr d.payload) :
    Tells placed origin my (.sentLinkMessage nextHop d.encode ce : Effect PublicKey) where
  sent nextHop' payload ce' d' heq hdecode := by
    have hpayload : payload = d.encode.tail := by
      injection heq with _ hmessage
      rw [hmessage]
      rfl
    rw [hpayload, SessionDatagram.decode_encode] at hdecode
    cases hdecode
    exact ⟨hfaithful, hsrc⟩
  cached _ _ heq := by cases heq
  kind nextHop' message ce' heq := by
    cases heq
    rfl

/-- Nothing has been said yet. -/
theorem Speaks.refl (h : Stored placed n.nodeAddr n) : Speaks placed origin n n := ⟨.refl, h⟩

theorem Speaks.nodeAddr (h : Speaks placed origin base n) : n.nodeAddr = base.nodeAddr := by
  unfold Node.nodeAddr
  rw [h.grown.identity]

/-- The relation is about the identity, the effects and the sessions. -/
theorem Speaks.congr (h : Speaks placed origin base n) (hidentity : n'.identity = n.identity)
    (heffects : n'.effects = n.effects) (hsessions : n'.sessions = n.sessions) :
    Speaks placed origin base n' :=
  ⟨h.grown.congr hidentity heffects, fun a e payload he => h.stored a e payload (hsessions ▸ he)⟩

/-- An effect that tells the truth. -/
theorem Speaks.add (h : Speaks placed origin base n) {e : Effect PublicKey}
    (he : Tells placed origin base.nodeAddr e) :
    Speaks placed origin base { n with effects := n.effects ++ [e] } :=
  ⟨h.grown.add he rfl rfl, h.stored⟩

/-- An entry whose stored message is faithful. -/
theorem Speaks.put (h : Speaks placed origin base n) {a : NodeAddr}
    {e : SessionEntry SecretKey PublicKey μ}
    (he : ∀ payload, e.handshakePayload = some payload → Faithful placed base.nodeAddr a payload) :
    Speaks placed origin base { n with sessions := n.sessions.insert a e } := by
  refine ⟨h.grown.congr rfl rfl, fun a' e' payload he' hpayload => ?_⟩
  by_cases ha : a' = a
  · subst ha
    cases (AList.lookup_insert _).symm.trans he'
    exact he payload hpayload
  · exact h.stored a' e' payload ((AList.lookup_insert_ne ha).symm.trans he') hpayload

/-- A session may be taken out. -/
theorem Speaks.take (h : Speaks placed origin base n) (a : NodeAddr) :
    Speaks placed origin base { n with sessions := n.sessions.erase a } := by
  refine ⟨h.grown.congr rfl rfl, fun a' e' payload he' hpayload => ?_⟩
  by_cases ha : a' = a
  · subst ha
    cases (AList.lookup_erase _ _).symm.trans he'
  · exact h.stored a' e' payload ((AList.lookup_erase_ne ha).symm.trans he') hpayload

/-- A change that stores no other message. -/
theorem Speaks.modify (h : Speaks placed origin base n) (a : NodeAddr)
    {f : SessionEntry SecretKey PublicKey μ → SessionEntry SecretKey PublicKey μ}
    (hf : ∀ e, (f e).handshakePayload = e.handshakePayload) :
    Speaks placed origin base { n with sessions := n.sessions.modify a f } := by
  refine ⟨h.grown.congr rfl rfl, fun a' e' payload he' hpayload => ?_⟩
  rw [Map.lookup_modify] at he'
  split_ifs at he' with ha
  · obtain ⟨e, he, rfl⟩ := Option.map_eq_some_iff.mp he'
    exact h.stored a' e payload he (hf e ▸ hpayload)
  · exact h.stored a' e' payload he' hpayload

/-- Taking an entry out, where what follows is right for every entry whose message is faithful. -/
theorem keeps_takeSession_bind {α : Type} {a : NodeAddr}
    {f : SessionEntry SecretKey PublicKey μ → Handler SecretKey PublicKey ν μ α}
    (hf : ∀ e, (∀ payload, e.handshakePayload = some payload →
      Faithful placed base.nodeAddr a payload) → Keeps (Speaks placed origin base) (f e)) :
    Keeps (Speaks placed origin base) (takeSession a >>= f) := by
  rw [keeps_iff]
  intro n hn
  rw [wp_bind_iff, wp_takeSession_iff]
  exact ⟨fun e he => (hf e fun payload => hn.stored a e payload he).wp (hn.take a), fun _ => hn⟩

/-- A session may be put in when the payload that it would resend is faithful. -/
theorem keeps_speaks_putSession {a : NodeAddr} {e : SessionEntry SecretKey PublicKey μ}
    (he : ∀ payload, e.handshakePayload = some payload → Faithful placed base.nodeAddr a payload) :
    Keeps (Speaks placed origin base) (putSession a e : M SecretKey PublicKey ν μ ε Unit) :=
  fun _ hn => hn.put he

/-- A change that leaves the payload to be resent is free. -/
theorem keeps_speaks_modifySession (a : NodeAddr)
    {f : SessionEntry SecretKey PublicKey μ → SessionEntry SecretKey PublicKey μ}
    (hf : ∀ e, (f e).handshakePayload = e.handshakePayload) :
    Keeps (Speaks placed origin base) (modifySession a f : M SecretKey PublicKey ν μ ε Unit) :=
  fun _ hn => hn.modify a hf

/-- Coordinates that locate their node may be cached. -/
theorem keeps_speaks_cacheCoords {a : NodeAddr} {c : Option TreeCoordinate}
    (h : ∀ coords ∈ c, Locates placed a coords) :
    Keeps (Speaks placed origin base) (cacheCoords a c : M SecretKey PublicKey ν μ ε Unit) := by
  cases c with
  | none => exact keeps_pure ()
  | some coords => exact fun n hn => hn.add (tells_cacheCoords (h coords rfl))

/-! ## The payloads of a node -/

section Payloads

variable {env : Env SecretKey}

/-- A setup shows the sender's own coordinates and what it knows of the destination's. -/
theorem faithful_setup (hknows : KnowsCoords placed my env) (dest : NodeAddr) (msg1 : Bytes) :
    Faithful placed my dest
      ((SessionSetup.new env.myCoords (env.destCoords dest)).withHandshake msg1).encode :=
  faithful_of_pair (fun _ _ h => shows_setup hknows.ownLength (hknows.destLength dest) h) hknows.own
    (hknows.dest dest)

/-- An ack returns the coordinates of the source of the setup. -/
theorem faithful_ack (hknows : KnowsCoords placed my env) {src : NodeAddr} {srcCoords : TreeCoordinate}
    (hsrc : srcCoords.nodeAddr = src) (hlen : srcCoords.entries.length ≤ 65535) (msg2 : Bytes) :
    Faithful placed my src ((SessionAck.new env.myCoords srcCoords).withHandshake msg2).encode :=
  faithful_of_pair (fun _ _ h => shows_ack hknows.ownLength hlen h) hknows.own (.inl hsrc)

/-- A frame with the coordinates of the event, or without any. -/
theorem faithful_sealed (hknows : KnowsCoords placed my env) (dest : NodeAddr) (withCoords kBit : Bool)
    (counter len : Nat) (ciphertext : Bytes) :
    Faithful placed my dest (buildFspHeader counter
      ((if withCoords then FSP_FLAG_CP else 0) ||| (if kBit then FSP_FLAG_K else 0)) len ++
        (if withCoords then coordPair env dest else []) ++ ciphertext) := by
  cases withCoords with
  | true =>
    refine faithful_of_pair (fun s d hshows => ?_) hknows.own (hknows.dest dest)
    exact shows_frame (f := ⟨counter, _, len, some (env.myCoords, env.destCoords dest), ciphertext⟩) rfl
      hknows.ownLength (hknows.destLength dest) hshows
  | false =>
    refine faithful_of_not_shows fun s d => ?_
    exact not_shows_frame (f := ⟨counter, _, len, none, ciphertext⟩) (hasFlag_frame_cp false kBit)

end Payloads

/-! ## Sending -/

section Sending

variable [SessionMmp μ] (env : Env SecretKey)

/-- A faithful payload of the node's own. -/
theorem keeps_speaks_sendSessionPayload {dest : NodeAddr} {payload : Bytes}
    (h : Faithful placed base.nodeAddr dest payload) :
    Keeps (Speaks placed origin base)
      (sendSessionPayload env dest payload : M SecretKey PublicKey ν μ SendError Unit) := by
  rw [keeps_iff]
  intro n hn
  have hmy := hn.nodeAddr
  unfold sendSessionPayload sendSessionDatagram
  rw [wp_bind_iff, wp_read_iff, wp_bind_iff, wp_read_iff]
  cases env.findNextHop _ with
  | none => exact hn
  | some nextHop =>
    rw [wp_bind_iff, wp_modifySession_iff]
    have hnoted := hn.modify dest fun e => (SessionEntry.notes_mapMmp (e := e)
      (.seedSourceMtu (min 65535 (env.linkMtu nextHop)))).handshakePayload
    unfold sendLinkMessage
    cases env.sendLinkMessage nextHop _ with
    | error e => exact hnoted
    | ok u => exact hnoted.add (tells_datagram (hmy ▸ h) fun _ _ _ => .inl hmy)

/-- A frame without the flag CP shows nothing. -/
theorem receiveRules_speaks [ChaCha20Poly1305] :
    ReceiveRules (fun flags _ => hasFlag flags FSP_FLAG_CP = false)
      (Speaks placed origin base : Node SecretKey PublicKey ν μ → Prop) where
  note n addr f hf h := h.modify addr fun e => (hf e).handshakePayload
  advance n addr e session inner header he hstate h := h.put fun payload hpayload =>
    h.stored addr e payload he hpayload
  frame n nextHop d e counter flags len tail he hestablished hpayload hflags h := by
    have hnothing : ∀ s t, ¬ Shows d.payload s t := fun s t => by
      have hframe := not_shows_frame (f := ⟨counter, flags, len, none, tail⟩) (s := s) (d := t) hflags
      rw [CoordFrame.bytes, CoordFrame.coordBytes, CoordFrame.header, List.append_nil] at hframe
      rwa [hpayload]
    exact h.add (tells_datagram (faithful_of_not_shows hnothing) fun s t hshows =>
      absurd hshows (hnothing s t))
  effect n e he _ hcache h := h.add (tells_of_local he hcache)
  pings n pings h := h.congr rfl rfl rfl

variable [ChaCha20Poly1305] {env}

/-- What a sealed frame shows in clear is the coordinate pair of its sender, if it is to show one. -/
theorem keeps_speaks_sendSealed (hknows : KnowsCoords placed base.nodeAddr env) (dest : NodeAddr)
    (withCoords kBit : Bool) (timestamp : Nat) (inner : Bytes) :
    Keeps (Speaks placed origin base) (sendSealed env dest
      ((if withCoords then FSP_FLAG_CP else 0) ||| (if kBit then FSP_FLAG_K else 0)) timestamp
      (if withCoords then coordPair env dest else []) inner :
        M SecretKey PublicKey ν μ SendError Unit) := by
  rw [keeps_iff]
  intro n hn
  unfold sendSealed
  rw [wp_bind_iff, wp_read_iff, wp_bind_iff, wp_orElse_iff]
  refine ⟨fun e he => ?_, fun _ => hn⟩
  split
  · exact hn
  · rename_i session hstate
    extract_lets counter header
    have hadvanced := receiveRules_speaks.advance n dest e session inner header he hstate hn
    rw [wp_bind_iff, wp_putSession_iff]
    split
    · exact hadvanced
    · refine ((keeps_speaks_sendSessionPayload env
        (faithful_sealed hknows dest withCoords kBit _ _ _)).bind fun _ => ?_).wp hadvanced
      exact keeps_speaks_modifySession dest fun e =>
        (SessionEntry.notes_mapMmp (.recordSent _ _ _)).handshakePayload
  · exact hn

theorem keeps_speaks_sendCoordsWarmup (hknows : KnowsCoords placed base.nodeAddr env)
    (dest : NodeAddr) : Keeps (Speaks placed origin base)
      (sendCoordsWarmup env dest : M SecretKey PublicKey ν μ SendError Unit) :=
  (keeps_read _).bind fun _ => (keeps_orElse _ _).bind fun _ =>
    keeps_speaks_sendSealed hknows dest true false _ _

theorem keeps_speaks_sendSessionData (hknows : KnowsCoords placed base.nodeAddr env) (dest : NodeAddr)
    (srcPort dstPort : Nat) (payload : Bytes) : Keeps (Speaks placed origin base)
      (sendSessionData env dest srcPort dstPort payload : M SecretKey PublicKey ν μ SendError Unit) :=
  keeps_sendSessionData_of_sealed env
    (fun _ hf => keeps_speaks_modifySession dest fun e => (hf e).handshakePayload)
    (keeps_speaks_sendCoordsWarmup hknows dest)
    (keeps_speaks_sendSealed hknows dest) srcPort dstPort payload

theorem keeps_speaks_sendSessionMsg (dest : NodeAddr) (msgType : UInt8) (payload : Bytes) :
    Keeps (Speaks placed origin base)
      (sendSessionMsg env dest msgType payload : M SecretKey PublicKey ν μ SendError Unit) :=
  receiveRules_speaks.keeps_sendSessionMsg env (fun kBit => by cases kBit <;> decide) dest msgType
    payload

theorem keeps_speaks_sendIpv6Packet (hknows : KnowsCoords placed base.nodeAddr env) (dest : NodeAddr)
    (packet : Bytes) : Keeps (Speaks placed origin base)
      (sendIpv6Packet env dest packet : M SecretKey PublicKey ν μ SendError Unit) :=
  keeps_sendIpv6Packet env (keeps_speaks_sendSessionData hknows dest) packet

theorem keeps_speaks_flushPendingPackets (hknows : KnowsCoords placed base.nodeAddr env)
    (dest : NodeAddr) : Keeps (Speaks placed origin base)
      (flushPendingPackets env dest : Handler SecretKey PublicKey ν μ Unit) :=
  keeps_flushPendingPackets env (fun _ hn => hn.congr rfl rfl rfl)
    (keeps_speaks_sendIpv6Packet hknows dest)

end Sending

/-! ## Handshakes -/

section Handshakes

variable [SessionMmp μ] [Sha256] [HkdfSha256] [ChaCha20Poly1305] [Secp256k1 SecretKey PublicKey]
  {env : Env SecretKey}

omit [ChaCha20Poly1305] in
/-- **Initiation** of a session. -/
theorem keeps_speaks_initiateSession (hknows : KnowsCoords placed base.nodeAddr env) (dest : NodeAddr)
    (destPubkey : PublicKey) : Keeps (Speaks placed origin base)
      (initiateSession env dest destPubkey : M SecretKey PublicKey ν μ SendError Unit) := by
  refine (keeps_read _).bind fun existing => Keeps.ite (keeps_pure ()) ?_
  refine (keeps_read _).bind fun n => (keeps_pureCall _).attempt.bind fun started => ?_
  cases started with
  | error e => exact keeps_stop _
  | ok r =>
    have hsetup : Faithful placed base.nodeAddr dest _ := faithful_setup hknows dest r.1
    refine (keeps_speaks_sendSessionPayload env hsetup).bind fun _ => Keeps.bind ?_ fun _ => ?_
    · exact fun n hn => hn.add (tells_of_local (fun _ _ _ heq => by cases heq) fun _ _ heq => by
        cases heq)
    · refine keeps_speaks_putSession fun payload hpayload => ?_
      cases hpayload
      exact hsetup

/-- The ack shows the initiator's coordinates back to it, as the setup brought them. -/
theorem keeps_speaks_acceptSetup (hknows : KnowsCoords placed base.nodeAddr env) {src : NodeAddr}
    {setup : SessionSetup} (hsrc : setup.srcCoords.nodeAddr = src)
    (hlen : setup.srcCoords.entries.length ≤ 65535) : Keeps (Speaks placed origin base)
      (acceptSetup env src setup : Handler SecretKey PublicKey ν μ Unit) := by
  refine (keeps_read _).bind fun n => (keeps_orReturn _).bind fun answer => ?_
  have hack : Faithful placed base.nodeAddr src _ := faithful_ack hknows hsrc hlen answer.2
  refine (keeps_speaks_sendSessionPayload env hack).attempt.bind fun sent => ?_
  cases sent with
  | error e => exact keeps_stop _
  | ok u =>
    refine (keeps_read _).bind fun n => keeps_speaks_putSession fun payload hpayload => ?_
    cases hpayload
    exact hack

theorem keeps_speaks_onSessionSetup (hknows : KnowsCoords placed base.nodeAddr env) {src : NodeAddr}
    {setup : SessionSetup} (hsrc : setup.srcCoords.nodeAddr = src)
    (hlen : setup.srcCoords.entries.length ≤ 65535) : Keeps (Speaks placed origin base)
      (onSessionSetup env src setup : Handler SecretKey PublicKey ν μ Unit) := by
  have haccept : Keeps (Speaks placed origin base)
      (acceptSetup env src setup : Handler SecretKey PublicKey ν μ Unit) :=
    keeps_speaks_acceptSetup hknows hsrc hlen
  rw [keeps_iff]
  intro n hn
  unfold onSessionSetup
  split_ifs
  · exact hn
  · rw [wp_bind_iff, wp_read_iff]
    cases he : n.sessions.lookup src with
    | none => exact haccept.wp hn
    | some existing =>
      rw [wp_bind_iff, wp_read_iff, wp_bind_iff, wp_read_iff]
      split_ifs
      · exact hn
      · exact haccept.wp hn
      · cases hpayload : existing.handshakePayload with
        | none => exact hn
        | some payload =>
          have hstored : Faithful placed base.nodeAddr src payload :=
            hn.stored src existing payload he hpayload
          exact ((keeps_speaks_sendSessionPayload env hstored).attempt.bind fun _ =>
            keeps_pure _).wp hn
      · refine (keeps_acceptRekey env (fun msg2 => ?_) (keeps_speaks_modifySession src fun _ => rfl)
          (fun _ => keeps_speaks_modifySession src fun _ => rfl) existing).wp hn
        exact keeps_speaks_sendSessionPayload env (faithful_ack hknows hsrc hlen msg2)
      · exact haccept.wp hn

/-- The third message shows no coordinates. -/
theorem keeps_speaks_finishAsInitiator (src : NodeAddr) (msg2 : Bytes)
    (handshake : HandshakeState SecretKey PublicKey) : Keeps (Speaks placed origin base)
      (finishAsInitiator env src msg2 handshake :
        Handler SecretKey PublicKey ν μ (NoiseSession PublicKey)) := by
  refine (keeps_orReturn _).bind fun opened => (keeps_orReturn _).bind fun closed => ?_
  have hmsg3 : Faithful placed base.nodeAddr src (SessionMsg3.new closed.1).encode :=
    faithful_of_not_shows fun _ _ => not_shows_msg3 _
  refine (keeps_speaks_sendSessionPayload env hmsg3).attempt.bind fun sent => ?_
  cases sent with
  | error e => exact keeps_stop _
  | ok u => exact keeps_orReturn _

/-- The coordinates that an ack brings are cached under its sender. -/
theorem keeps_speaks_onSessionAck (hknows : KnowsCoords placed base.nodeAddr env) {src : NodeAddr}
    {ack : SessionAck} (hsrc : Locates placed src ack.srcCoords) : Keeps (Speaks placed origin base)
      (onSessionAck env src ack : Handler SecretKey PublicKey ν μ Unit) := by
  refine Keeps.ite (keeps_stop _) (keeps_takeSession_bind fun entry hentry => ?_)
  refine Keeps.ite ?_ (Keeps.ite (keeps_speaks_putSession hentry) ?_)
  · split
    · exact keeps_speaks_putSession hentry
    · refine (keeps_speaks_finishAsInitiator src _ _).attempt.bind fun session => ?_
      cases session with
      | error e => exact keeps_speaks_putSession hentry
      | ok session => exact keeps_speaks_putSession hentry
  · split
    · refine (keeps_speaks_finishAsInitiator src _ _).bind fun session => (keeps_read _).bind fun _ => ?_
      refine (keeps_speaks_putSession fun payload hpayload => by cases hpayload).bind fun _ => ?_
      refine (keeps_speaks_cacheCoords fun coords hcoords => ?_).bind fun _ =>
        keeps_speaks_flushPendingPackets hknows src
      cases hcoords
      exact hsrc
    · exact keeps_crash

theorem keeps_speaks_onSessionMsg3 (hknows : KnowsCoords placed base.nodeAddr env) (src : NodeAddr)
    (msg3 : SessionMsg3) : Keeps (Speaks placed origin base)
      (onSessionMsg3 env src msg3 : Handler SecretKey PublicKey ν μ Unit) := by
  refine Keeps.ite (keeps_stop _) (keeps_takeSession_bind fun entry hentry => ?_)
  refine Keeps.ite ?_ (Keeps.ite (keeps_speaks_putSession hentry) ?_)
  · split
    · exact keeps_speaks_putSession hentry
    · refine (keeps_pureCall _).attempt.bind fun session => ?_
      cases session with
      | error e => exact keeps_speaks_putSession hentry
      | ok session => exact keeps_speaks_putSession hentry
  · split
    · refine (keeps_orReturn _).bind fun closed => (keeps_orElse _ _).bind fun remotePubkey => ?_
      refine Keeps.bind ?_ fun _ => (keeps_orReturn _).bind fun session => (keeps_read _).bind fun _ => ?_
      · exact fun n hn => hn.add (tells_of_local (fun _ _ _ heq => by cases heq) fun _ _ heq => by
          cases heq)
      · exact (keeps_speaks_putSession fun payload hpayload => by cases hpayload).bind fun _ =>
          keeps_speaks_flushPendingPackets hknows src
    · exact keeps_crash

end Handshakes

/-! ## Established sessions and datagrams -/

section Promoted

variable [Mmp μ] (e : SessionEntry SecretKey PublicKey μ) (nowMs instant : Nat)

/-- A flip leaves the payload to be resent. -/
theorem handshakePayload_handlePeerKbitFlip :
    (e.handlePeerKbitFlip nowMs instant).1.handshakePayload = e.handshakePayload := by
  unfold SessionEntry.handlePeerKbitFlip
  split <;> rfl

/-- A cutover leaves the payload to be resent. -/
theorem handshakePayload_cutoverToNewSession :
    (e.cutoverToNewSession nowMs instant).1.handshakePayload = e.handshakePayload := by
  unfold SessionEntry.cutoverToNewSession
  split <;> rfl

end Promoted

section Datagrams

variable [SessionMmp μ] [Sha256] [HkdfSha256] [ChaCha20Poly1305] [Secp256k1 SecretKey PublicKey]
  {env : Env SecretKey}

omit [Sha256] [HkdfSha256] [Secp256k1 SecretKey PublicKey] in
theorem keeps_speaks_openSessionFrame (src : NodeAddr) (kBit : Bool) (frame : NoiseSession.Frame) :
    Keeps (Speaks placed origin base)
      (openSessionFrame env src kBit frame : Handler SecretKey PublicKey ν μ Bytes) := by
  refine (keeps_read _).bind fun _ => (keeps_orElse _ _).bind fun entry => ?_
  refine Keeps.ite (keeps_stop _) ((keeps_expect _).bind fun entry => ?_)
  extract_lets decrypt
  have hdecrypt : ∀ u, Keeps (Speaks placed origin base) (decrypt u) := by
    refine fun u => keeps_takeSession_bind fun entry hentry => ?_
    split
    · exact keeps_crash
    · rename_i session _
      obtain ⟨session, previous, plaintext⟩ :=
        session.decryptWithFallback entry.previousNoiseSession frame
      refine Keeps.bind (keeps_speaks_putSession ?_) fun _ => keeps_orReturn _
      exact hentry
    · exact (keeps_speaks_putSession hentry).bind fun _ => keeps_stop _
  refine Keeps.ite ((keeps_expect _).bind fun _ => Keeps.bind ?_ hdecrypt) (hdecrypt ())
  exact keeps_speaks_modifySession src fun e =>
    handshakePayload_handlePeerKbitFlip e _ _

/-- The coordinates that a payload from `src` for `dest` shows locate them. -/
structure Shown (placed : NodeAddr → NodeAddr → Prop) (src dest : NodeAddr) (payload : Bytes) : Prop
    extends Faithful placed src dest payload where
  placed : ∀ s d, Shows payload s d → ∀ c ∈ d, c.nodeAddr = src → placed dest src

omit [SessionMmp μ] [Sha256] [HkdfSha256] [ChaCha20Poly1305] [Secp256k1 SecretKey PublicKey] in
theorem Shown.locates {src dest : NodeAddr} {payload : Bytes} (h : Shown placed src dest payload)
    {s d : Option TreeCoordinate} (hshows : Shows payload s d) :
    (∀ c ∈ s, Locates placed src c) ∧ ∀ c ∈ d, Locates placed dest c := by
  obtain ⟨hs, hd⟩ := hshows.onWire
  refine ⟨fun c hc => ⟨.inl (h.source s d hshows c hc), (hs c hc).length⟩, fun c hc => ⟨?_, (hd c hc).length⟩⟩
  rcases h.destination s d hshows c hc with hdest | hsrc | hplaced
  · exact .inl hdest
  · exact .inr (hsrc ▸ h.placed s d hshows c hc hsrc)
  · exact .inr hplaced

omit [Sha256] [HkdfSha256] [Secp256k1 SecretKey PublicKey] in
theorem keeps_speaks_handleEncryptedSessionMsg (hknows : KnowsCoords placed base.nodeAddr env)
    {src : NodeAddr} {payload : Bytes} (hshown : Shown placed src base.nodeAddr payload)
    {pre : FspCommonPrefix} (hpre : FspCommonPrefix.parse payload = .ok pre)
    (hphase : pre.phase = FSP_PHASE_ESTABLISHED) (pathMtu : Nat) (ceFlag : Bool) :
    Keeps (Speaks placed origin base)
      (handleEncryptedSessionMsg env src payload pathMtu ceFlag :
        Handler SecretKey PublicKey ν μ Unit) := by
  refine Keeps.body (keeps_orReturn_bind fun header hheader => keeps_orReturn_bind fun parts hparts => ?_)
  obtain ⟨srcCoords, destCoords, ciphertext⟩ := parts
  have hlocates : (∀ c ∈ srcCoords, Locates placed src c) ∧
      ∀ c ∈ destCoords, Locates placed base.nodeAddr c := by
    unfold sessionCiphertext at hparts
    split_ifs at hparts with hcoords
    · obtain ⟨coordData, hdata, hparts⟩ := bind_eq_ok.mp hparts
      obtain ⟨⟨s, d, consumed⟩, hparsed, hparts⟩ := bind_eq_ok.mp hparts
      obtain ⟨rest, -, hparts⟩ := bind_eq_ok.mp hparts
      cases hparts
      rw [← (sliceFrom_eq_ok.mp hdata).2] at hparsed
      refine hshown.locates (.frame hpre hphase ?_ hparsed)
      rw [FspCommonPrefix.hasCoords, ← flags_of_parse hpre hheader]
      exact hcoords
    · obtain ⟨rest, -, hparts⟩ := bind_eq_ok.mp hparts
      cases hparts
      exact ⟨fun c hc => (by cases hc), fun c hc => by cases hc⟩
  rw [keeps_iff]
  intro n hn
  rw [wp_bind_iff, wp_read_iff, hn.nodeAddr]
  refine ((keeps_speaks_cacheCoords hlocates.1).bind fun _ =>
    (keeps_speaks_cacheCoords hlocates.2).bind fun _ =>
    (keeps_speaks_openSessionFrame src _ _).bind fun plaintext => (keeps_orReturn _).bind fun message =>
      ?_).wp hn
  exact receiveRules_speaks.keeps_processSessionMessage env
    (keeps_speaks_flushPendingPackets hknows src) _ _ _ _ _

/-- **A session payload** for this node. -/
theorem keeps_speaks_handleSessionPayload (hknows : KnowsCoords placed base.nodeAddr env)
    {src : NodeAddr} {payload : Bytes} (hshown : Shown placed src base.nodeAddr payload) (pathMtu : Nat)
    (ceFlag : Bool) : Keeps (Speaks placed origin base)
      (handleSessionPayload env src payload pathMtu ceFlag : Handler SecretKey PublicKey ν μ Unit) := by
  have hrules : ReceiveRules (fun flags _ => hasFlag flags FSP_FLAG_CP = false)
      (Speaks placed origin base : Node SecretKey PublicKey ν μ → Prop) := receiveRules_speaks
  have hwarm : ∀ dest, Keeps (Speaks placed origin base)
      (warmUp env dest : Handler SecretKey PublicKey ν μ Unit) :=
    fun dest => keeps_warmUp env (keeps_speaks_sendCoordsWarmup hknows dest)
  refine Keeps.body (keeps_orReturn_bind fun pre hpre => keeps_orReturn_bind fun inner hinner => ?_)
  have hinner := (sliceFrom_eq_ok.mp hinner).2
  split_ifs with hsetup hack hmsg3 hestablished hunencrypted hempty
  · refine Keeps.body (keeps_orReturn_bind fun setup hdecode => ?_)
    rw [← hinner] at hdecode
    have hshows := Shows.setup hpre (beq_iff_eq.mp hsetup) hdecode
    exact keeps_speaks_onSessionSetup hknows (hshown.source _ _ hshows _ rfl)
      (hshows.onWire.1 _ rfl).length
  · refine Keeps.body (keeps_orReturn_bind fun ack hdecode => ?_)
    rw [← hinner] at hdecode
    exact keeps_speaks_onSessionAck hknows
      ((hshown.locates (.ack hpre (beq_iff_eq.mp hack) hdecode)).1 _ rfl)
  · exact Keeps.body ((keeps_orReturn _).bind fun msg3 => keeps_speaks_onSessionMsg3 hknows src msg3)
  · exact keeps_stop _
  · refine (keeps_orReturn _).bind fun _ => (keeps_orReturn _).bind fun errorBody => ?_
    split
    · exact hrules.keeps_handleCoordsRequired env hwarm _
    · exact hrules.keeps_handlePathBroken env hwarm _
    · exact hrules.keeps_handleMtuExceeded env _
    · exact keeps_pure _
  · exact keeps_speaks_handleEncryptedSessionMsg hknows hshown hpre (beq_iff_eq.mp hestablished) _ _
  · exact keeps_pure _

omit [SessionMmp μ] [Sha256] [HkdfSha256] [ChaCha20Poly1305] [Secp256k1 SecretKey PublicKey] in
theorem keeps_speaks_tryWarmCoordCache {datagram : SessionDatagram}
    (hshown : Shown placed datagram.srcAddr datagram.destAddr datagram.payload) :
    Keeps (Speaks placed origin base)
      (tryWarmCoordCache datagram : Handler SecretKey PublicKey ν μ Unit) := by
  have hpair : ∀ s d, Shows datagram.payload s d → Keeps (Speaks placed origin base)
      (warmPair datagram s d : Handler SecretKey PublicKey ν μ Unit) := fun s d hshows =>
    (keeps_speaks_cacheCoords (hshown.locates hshows).1).bind fun _ =>
      keeps_speaks_cacheCoords (hshown.locates hshows).2
  refine Keeps.body (keeps_orReturn_bind fun pre hpre => keeps_orReturn_bind fun inner hinner => ?_)
  have hinner := (sliceFrom_eq_ok.mp hinner).2
  split_ifs with hsetup hack hframe
  · refine keeps_orReturn_bind fun setup hdecode => ?_
    rw [← hinner] at hdecode
    exact hpair _ _ (.setup hpre (beq_iff_eq.mp hsetup) hdecode)
  · refine keeps_orReturn_bind fun ack hdecode => ?_
    rw [← hinner] at hdecode
    exact hpair _ _ (.ack hpre (beq_iff_eq.mp hack) hdecode)
  · refine keeps_orReturn_bind fun coordData hdata => keeps_orReturn_bind fun parsed hparsed => ?_
    rw [← (sliceFrom_eq_ok.mp hdata).2] at hparsed
    rw [Bool.and_eq_true, beq_iff_eq] at hframe
    exact hpair _ _ (.frame hpre hframe.1 hframe.2 hparsed)
  · exact keeps_pure _

section Forward

omit [SessionMmp μ] [Sha256] [HkdfSha256] [ChaCha20Poly1305] [Secp256k1 SecretKey PublicKey]

theorem keeps_speaks_sendLinkMessage {nextHop : NodeAddr} {message : Bytes} {ceFlag : Bool}
    (h : Tells placed origin base.nodeAddr
      (.sentLinkMessage nextHop message ceFlag : Effect PublicKey)) :
    Keeps (Speaks placed origin base)
      (sendLinkMessage env nextHop message ceFlag : M SecretKey PublicKey ν μ SendError Unit) := by
  unfold sendLinkMessage
  cases env.sendLinkMessage nextHop message with
  | error e => exact keeps_stop e
  | ok u => exact fun n hn => hn.add h

/-- An error signal shows nothing. -/
theorem keeps_speaks_sendError (original : SessionDatagram) (body : Bytes) :
    Keeps (Speaks placed origin base) (sendError env original (withPrefix 0x00 FSP_FLAG_U body) :
      Handler SecretKey PublicKey ν μ Unit) := by
  refine (keeps_read _).bind fun my => (keeps_read _).bind fun config => (keeps_orElse _ _).bind
    fun nextHop => (keeps_speaks_sendLinkMessage ?_).attempt.bind fun _ => keeps_pure _
  exact tells_datagram (faithful_of_not_shows fun _ _ => not_shows_withPrefix_u body) fun _ _ hshows =>
    absurd hshows (not_shows_withPrefix_u body)

theorem keeps_speaks_sendRoutingError (original : SessionDatagram) :
    Keeps (Speaks placed origin base)
      (sendRoutingError env original : Handler SecretKey PublicKey ν μ Unit) := by
  refine Keeps.body (Keeps.ite (keeps_stop _) ((keeps_read _).bind fun my => ?_))
  cases env.cachedCoords original.destAddr with
  | some coords => exact keeps_speaks_sendError original _
  | none => exact keeps_speaks_sendError original _

theorem keeps_speaks_sendMtuExceededError (original : SessionDatagram) (bottleneckMtu : Nat) :
    Keeps (Speaks placed origin base)
      (sendMtuExceededError env original bottleneckMtu : Handler SecretKey PublicKey ν μ Unit) :=
  Keeps.body (Keeps.ite (keeps_stop _) ((keeps_read _).bind fun _ => keeps_speaks_sendError original _))

theorem keeps_speaks_forwardDatagram {datagram : SessionDatagram}
    (horigin : ∀ s t, Shows datagram.payload s t →
      origin datagram.srcAddr datagram.destAddr datagram.payload)
    (hfaithful : Faithful placed datagram.srcAddr datagram.destAddr datagram.payload)
    (incomingCe : Bool) : Keeps (Speaks placed origin base)
      (forwardDatagram env datagram incomingCe : Handler SecretKey PublicKey ν μ Unit) := by
  unfold forwardDatagram
  cases env.findNextHop datagram.destAddr with
  | none => exact keeps_speaks_sendRoutingError datagram
  | some nextHop =>
    refine (keeps_speaks_sendLinkMessage ?_).attempt.bind fun sent => ?_
    · exact tells_datagram hfaithful fun s t hshows => .inr (horigin s t hshows)
    · split
      · exact keeps_speaks_sendMtuExceededError _ _
      · exact keeps_pure _
      · exact keeps_pure _

end Forward

/-- **A session datagram**, for this node or another. -/
theorem keeps_speaks_handleSessionDatagram (hknows : KnowsCoords placed base.nodeAddr env)
    {payload : Bytes} (hpayload : ∀ d, SessionDatagram.decode payload = .ok d →
      Shown placed d.srcAddr d.destAddr d.payload ∧
        ∀ s t, Shows d.payload s t → origin d.srcAddr d.destAddr d.payload)
    (incomingCe : Bool) : Keeps (Speaks placed origin base)
      (handleSessionDatagram env payload incomingCe : Handler SecretKey PublicKey ν μ Unit) := by
  refine Keeps.body (keeps_orReturn_bind fun d hd => ?_)
  obtain ⟨hshown, horigin⟩ := hpayload d hd
  rw [keeps_iff]
  intro n hn
  rw [wp_bind_iff, wp_orElse_iff]
  refine ⟨fun datagram hdatagram => ?_, fun _ => hn⟩
  unfold SessionDatagram.decrementTtl at hdatagram
  split_ifs at hdatagram
  cases hdatagram
  refine Keeps.wp ((keeps_speaks_tryWarmCoordCache hshown).bind fun _ => ?_) hn
  rw [keeps_iff]
  intro n hn
  rw [wp_bind_iff, wp_read_iff, hn.nodeAddr]
  split_ifs with hmine
  · have hdest : d.destAddr = base.nodeAddr := beq_iff_eq.mp hmine
    rw [hdest] at hshown
    exact (keeps_speaks_handleSessionPayload hknows hshown _ _).wp hn
  · refine (keeps_speaks_forwardDatagram ?_ ?_ _).wp hn
    · exact horigin
    · exact hshown.toFaithful

/-! ## Ticks -/

omit [ChaCha20Poly1305] in
theorem keeps_speaks_initiateSessionRekey (hknows : KnowsCoords placed base.nodeAddr env)
    (dest : NodeAddr) : Keeps (Speaks placed origin base)
      (initiateSessionRekey env dest : Handler SecretKey PublicKey ν μ Unit) := by
  refine Keeps.body ((keeps_orElse _ _).bind fun _ => (keeps_read _).bind fun _ =>
    (keeps_orElse _ _).bind fun entry => (keeps_read _).bind fun n => (keeps_orReturn _).bind
      fun started => ?_)
  have hsetup : Faithful placed base.nodeAddr dest _ := faithful_setup hknows dest started.1
  refine (keeps_speaks_sendSessionPayload env hsetup).attempt.bind fun sent => ?_
  cases sent with
  | error e => exact keeps_stop _
  | ok u => exact keeps_speaks_modifySession dest fun _ => rfl

omit [ChaCha20Poly1305] in
theorem keeps_speaks_initiateSessionRekeys (hknows : KnowsCoords placed base.nodeAddr env)
    (dests : List NodeAddr) : Keeps (Speaks placed origin base)
      (initiateSessionRekeys env dests : Handler SecretKey PublicKey ν μ Unit) := by
  induction dests with
  | nil => exact keeps_pure ()
  | cons dest dests ih => exact (keeps_speaks_initiateSessionRekey hknows dest).bind fun _ => ih

omit [SessionMmp μ] [Sha256] [HkdfSha256] [ChaCha20Poly1305] [Secp256k1 SecretKey PublicKey] in
theorem Speaks.modifySessions (h : Speaks placed origin base n)
    {f : SessionEntry SecretKey PublicKey μ → SessionEntry SecretKey PublicKey μ}
    (hf : ∀ e, (f e).handshakePayload = e.handshakePayload) (addrs : List NodeAddr) :
    Speaks placed origin base (modifySessions f addrs n) :=
  modifySessions_keeps (I := Speaks placed origin base) (P := fun _ => True)
    (fun _ addr hn _ => Speaks.modify hn addr hf) (fun _ _ => trivial) (fun _ _ _ _ => trivial) h

omit [ChaCha20Poly1305] in
/-- **The rekey tick** of the sessions. -/
theorem keeps_speaks_checkSessionRekey (hknows : KnowsCoords placed base.nodeAddr env) :
    Keeps (Speaks placed origin base)
      (checkSessionRekey env : Handler SecretKey PublicKey ν μ Unit) := by
  refine Keeps.body ((keeps_read _).bind fun n => Keeps.ite (keeps_stop _) ?_)
  refine Keeps.bind ?_ fun _ => Keeps.bind ?_ fun _ => keeps_speaks_initiateSessionRekeys hknows _
  · exact keeps_write fun m hm =>
      hm.modifySessions (fun e => handshakePayload_cutoverToNewSession e env.nowMs env.instant) _
  · exact keeps_write fun m hm => hm.modifySessions
      (fun e => (rfl : e.completeDrain.handshakePayload = e.handshakePayload)) _

omit [Sha256] [HkdfSha256] [ChaCha20Poly1305] [Secp256k1 SecretKey PublicKey] in
theorem keeps_speaks_resendHandshakes (candidates : List (NodeAddr × Bytes))
    (h : ∀ c ∈ candidates, Faithful placed base.nodeAddr c.1 c.2) :
    Keeps (Speaks placed origin base)
      (resendHandshakes env candidates : M SecretKey PublicKey ν μ ε Unit) := by
  induction candidates with
  | nil => exact keeps_pure ()
  | cons c candidates ih =>
    refine Keeps.bind ?_ fun _ => ih fun c' hc' => h c' (List.mem_cons_of_mem c hc')
    refine (keeps_speaks_sendSessionPayload env (h c List.mem_cons_self)).attempt.bind fun sent => ?_
    cases sent with
    | error e => exact keeps_pure ()
    | ok u => exact (keeps_read _).bind fun _ => keeps_speaks_modifySession c.1 fun _ => rfl

omit [SessionMmp μ] [Sha256] [HkdfSha256] [ChaCha20Poly1305] [Secp256k1 SecretKey PublicKey] in
theorem Speaks.forgetSessions (h : Speaks placed origin base n) (addrs : List NodeAddr) :
    Speaks placed origin base (addrs.foldl forgetSession n) := by
  induction addrs generalizing n with
  | nil => exact h
  | cons addr addrs ih => exact ih ((h.take addr).congr rfl rfl rfl)

omit [Sha256] [HkdfSha256] [ChaCha20Poly1305] [Secp256k1 SecretKey PublicKey] in
/-- **The resends** of the tick. -/
theorem keeps_speaks_resendPendingSessionHandshakes : Keeps (Speaks placed origin base)
    (resendPendingSessionHandshakes env : M SecretKey PublicKey ν μ ε Unit) := by
  rw [keeps_iff]
  intro n hn
  unfold resendPendingSessionHandshakes
  rw [wp_bind_iff, wp_write_iff, wp_bind_iff, wp_read_iff]
  have hdropped : Speaks placed origin base (dropTimedOutHandshakes env.nowMs n) :=
    hn.forgetSessions _
  refine (keeps_speaks_resendHandshakes _ fun c hc => ?_).wp hdropped
  obtain ⟨entry, hentry, hpayload⟩ := List.mem_filterMap.mp hc
  obtain ⟨payload, hstored, rfl⟩ := Option.map_eq_some_iff.mp hpayload
  exact hdropped.stored _ _ payload
    (AList.mem_lookup_iff.mpr (List.mem_of_mem_filter hentry)) hstored

end Datagrams

end Node

end Fips
