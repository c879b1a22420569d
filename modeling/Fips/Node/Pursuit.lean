import Fips.Node.LinkIds
import Fips.Node.Retry
import Fips.Node.RekeyIndices

/-!
# Who is still after a peer

A node attends to a peer that is active, or that an outbound connection or a connect under way leads
to. The lemmas say of each function of the link layer which peers it drops, and whether it handed
them to the retries before: `HandsOver a n n'` is about a peer that had one of the three, or an entry
in the retry table, which follows the effects of the step.

## Results

* `wp_initiateConnection_pursues`, `wp_initiatePeerConnection_pursues`: an attempt that succeeds
  leaves something under way, one that fails had nothing it could use.
* `completeConnect_pursues`, `cleanupStaleConnection_pursues`: the ends of an attempt.
-/

open Checked

namespace Fips

namespace LinkNode

variable {SecretKey PublicKey ν μ : Type} {ε : Type}

/-! ## Attending -/

/-- What attending reads. -/
def attendView (n : LinkNode SecretKey PublicKey ν μ) :
    (NodeAddr → Bool) × (LinkId → Option (PeerConnection SecretKey PublicKey)) ×
      List (PendingConnect PublicKey) × List (Effect PublicKey) :=
  (fun a => (n.peers.lookup a).isSome, fun l => n.connections.lookup l, n.pendingConnects, n.effects)

/-- The same with the counter of link ids. -/
def pursuitView (n : LinkNode SecretKey PublicKey ν μ) := (n.attendView, n.nextLinkId)

section View

variable {n n' : LinkNode SecretKey PublicKey ν μ}

theorem attendView_eq (hpeers : ∀ a, (n'.peers.lookup a).isSome = (n.peers.lookup a).isSome)
    (hconnections : ∀ l, n'.connections.lookup l = n.connections.lookup l)
    (hwaiting : n'.pendingConnects = n.pendingConnects) (heffects : n'.effects = n.effects) :
    n'.attendView = n.attendView := by
  unfold attendView
  rw [funext hpeers, funext hconnections, hwaiting, heffects]

/-- What the view shows. -/
theorem attendView_iff : n'.attendView = n.attendView ↔
    (∀ a, (n'.peers.lookup a).isSome = (n.peers.lookup a).isSome) ∧
      (∀ l, n'.connections.lookup l = n.connections.lookup l) ∧
      n'.pendingConnects = n.pendingConnects ∧ n'.effects = n.effects := by
  constructor
  · intro h
    unfold attendView at h
    simp only [Prod.mk.injEq] at h
    exact ⟨congrFun h.1, congrFun h.2.1, h.2.2.1, h.2.2.2⟩
  · rintro ⟨hpeers, hconnections, hwaiting, heffects⟩
    exact attendView_eq hpeers hconnections hwaiting heffects

theorem pursuitView_eq (hpeers : ∀ a, (n'.peers.lookup a).isSome = (n.peers.lookup a).isSome)
    (hconnections : ∀ l, n'.connections.lookup l = n.connections.lookup l)
    (hwaiting : n'.pendingConnects = n.pendingConnects) (heffects : n'.effects = n.effects)
    (hnext : n'.nextLinkId = n.nextLinkId) : n'.pursuitView = n.pursuitView := by
  unfold pursuitView
  rw [attendView_eq hpeers hconnections hwaiting heffects, hnext]

/-- What the view shows besides. -/
theorem pursuitView_iff : n'.pursuitView = n.pursuitView ↔
    n'.attendView = n.attendView ∧ n'.nextLinkId = n.nextLinkId := by
  unfold pursuitView
  rw [Prod.mk.injEq]

theorem LinkIds.of_pursuitView (h : n.LinkIds) (hview : n'.pursuitView = n.pursuitView) :
    n'.LinkIds := by
  obtain ⟨hattend, hnext⟩ := pursuitView_iff.mp hview
  obtain ⟨-, hconnections, hwaiting, -⟩ := attendView_iff.mp hattend
  exact h.congr hconnections hnext hwaiting

theorem Unused.of_pursuitView {l : LinkId} (h : n.Unused l) (hview : n'.pursuitView = n.pursuitView) :
    n'.Unused l := by
  obtain ⟨hattend, hnext⟩ := pursuitView_iff.mp hview
  obtain ⟨-, hconnections, hwaiting, -⟩ := attendView_iff.mp hattend
  exact h.congr hconnections hnext hwaiting

/-- A change of an entry leaves it where it is. -/
theorem isSome_lookup_modify {υ : Type} (m : Map NodeAddr υ) (a b : NodeAddr) (f : υ → υ) :
    ((m.modify a f).lookup b).isSome = (m.lookup b).isSome := by
  rw [Map.lookup_modify]
  split_ifs
  · exact Option.isSome_map
  · rfl

theorem isSome_lookup_insert {υ : Type} {m : Map NodeAddr υ} {a : NodeAddr} {v : υ}
    (hv : m.lookup a = some v) (w : υ) (b : NodeAddr) :
    ((m.insert a w).lookup b).isSome = (m.lookup b).isSome := by
  rw [Map.lookup_insert']
  split_ifs with hb
  · rw [hb, hv]
    rfl
  · rfl

end View

section Attends

variable [Sha256] [Secp256k1 SecretKey PublicKey]

/-- The connection is one of our own to the address. -/
def LeadsTo (c : PeerConnection SecretKey PublicKey) (a : NodeAddr) : Prop :=
  c.isOutbound = true ∧
    ∃ identity, c.expectedIdentity = some identity ∧ identity.nodeAddr SecretKey = a

/-- An outbound connection or a connect under way leads to the address. -/
def Pursues (n : LinkNode SecretKey PublicKey ν μ) (a : NodeAddr) : Prop :=
  (∃ l c, n.connections.lookup l = some c ∧ LeadsTo c a) ∨
    ∃ pc ∈ n.pendingConnects, pc.peerIdentity.nodeAddr SecretKey = a

/-- The peer is active or pursued. -/
def Attends (n : LinkNode SecretKey PublicKey ν μ) (a : NodeAddr) : Prop :=
  (n.peers.lookup a).isSome = true ∨ n.Pursues a

variable {n n' n'' : LinkNode SecretKey PublicKey ν μ} {a : NodeAddr} {l : LinkId}
  {c : PeerConnection SecretKey PublicKey}

/-- Whether a peer is pursued can be seen. -/
theorem pursues_congr (hview : n'.attendView = n.attendView) : n'.Pursues a ↔ n.Pursues a := by
  obtain ⟨-, hconnections, hwaiting, -⟩ := attendView_iff.mp hview
  unfold Pursues
  simp only [hconnections, hwaiting]

/-- Whether a peer is attended to can be seen. -/
theorem attends_congr (hview : n'.attendView = n.attendView) : n'.Attends a ↔ n.Attends a := by
  unfold Attends
  rw [pursues_congr hview, (attendView_iff.mp hview).1 a]

/-- More connections and connects pursue more. -/
theorem Pursues.mono (h : n.Pursues a)
    (hconnections : ∀ l c, n.connections.lookup l = some c → LeadsTo c a →
      ∃ l' c', n'.connections.lookup l' = some c' ∧ LeadsTo c' a)
    (hwaiting : ∀ pc ∈ n.pendingConnects, pc ∈ n'.pendingConnects) : n'.Pursues a := by
  rcases h with ⟨l, c, hc, hleads⟩ | ⟨pc, hpc, haddr⟩
  · exact .inl (hconnections l c hc hleads)
  · exact .inr ⟨pc, hwaiting pc hpc, haddr⟩

/-- A connection under a new id takes no other one's place. -/
theorem Pursues.insert (h : n.Pursues a) (hl : n.connections.lookup l = none) (c) :
    Pursues { n with connections := n.connections.insert l c } a := by
  refine h.mono (fun l' c' hc' hleads => ⟨l', c', ?_, hleads⟩) fun _ hpc => hpc
  change (n.connections.insert l c).lookup l' = some c'
  rw [Map.lookup_insert', if_neg (fun heq => ?_), hc']
  rw [heq, hl] at hc'
  cases hc'

/-- A connection is written back with the peer it leads to. -/
theorem Pursues.put (h : n.Pursues a) (hc : n.connections.lookup l = some c)
    {c' : PeerConnection SecretKey PublicKey} (hleads : LeadsTo c a → LeadsTo c' a) :
    Pursues { n with connections := n.connections.insert l c' } a := by
  refine h.mono (fun l' d hd hd' => ?_) fun _ hpc => hpc
  by_cases heq : l' = l
  · subst heq
    obtain rfl : c = d := Option.some.inj (hc.symm.trans hd)
    exact ⟨l', c', AList.lookup_insert _, hleads hd'⟩
  · refine ⟨l', d, ?_, hd'⟩
    change (n.connections.insert l c').lookup l' = some d
    rw [Map.lookup_insert', if_neg heq, hd]

/-- What becomes of an entry of the retry table, as far as the address has one. -/
def followRetry (a : NodeAddr) (b : Bool) : Effect PublicKey → Bool
  | .registerIdentity addr _ => if addr = a then false else b
  | .scheduleReconnect addr => if addr = a then true else b
  | _ => b

/-- A peer that was attended to or retried still is. -/
def HandsOver (a : NodeAddr) (n n' : LinkNode SecretKey PublicKey ν μ) : Prop :=
  ∃ es, n'.effects = n.effects ++ es ∧
    ∀ b, n.Attends a ∨ b = true → n'.Attends a ∨ es.foldl (followRetry a) b = true

theorem HandsOver.refl (a : NodeAddr) (n : LinkNode SecretKey PublicKey ν μ) : HandsOver a n n :=
  ⟨[], (List.append_nil _).symm, fun _ h => h⟩

/-- Responsibility is handed over step by step. -/
theorem HandsOver.trans (h : HandsOver a n n') (h' : HandsOver a n' n'') : HandsOver a n n'' := by
  obtain ⟨es, heffects, hkept⟩ := h
  obtain ⟨es', heffects', hkept'⟩ := h'
  refine ⟨es ++ es', by rw [heffects', heffects, List.append_assoc], fun b hb => ?_⟩
  rw [List.foldl_append]
  exact hkept' _ (hkept b hb)

/-- A step without effects. -/
theorem handsOver_of_attends (heffects : n'.effects = n.effects) (h : n.Attends a → n'.Attends a) :
    HandsOver a n n' :=
  ⟨[], by rw [heffects, List.append_nil], fun _ hb => hb.imp_left h⟩

theorem handsOver_of_view (hview : n'.attendView = n.attendView) : HandsOver a n n' :=
  handsOver_of_attends (attendView_iff.mp hview).2.2.2 (attends_congr hview).mpr

end Attends

/-! ## Attempts -/

section Attempts

variable [Sha256] [HkdfSha256] [ChaCha20Poly1305] [Secp256k1 SecretKey PublicKey]

/-- What the start of a handshake reads of the node. -/
def startView (n : LinkNode SecretKey PublicKey ν μ) :
    Identity SecretKey × Epoch × List SessionIndex :=
  (n.identity, n.startupEpoch, n.allocatedIndices)

/-- A handshake can be started: an index can be drawn and the first message written. -/
def CanStart (env : LinkEnv SecretKey) (identity : PeerIdentity PublicKey)
    (n : LinkNode SecretKey PublicKey ν μ) : Prop :=
  (allocateFrom env.draws n.allocatedIndices).isSome = true ∧
    ∃ r, call (HandshakeState.writeMessage1 env.ephemeral)
      ((HandshakeState.newInitiator n.identity.secretKey identity.pubkeyFull).setLocalEpoch
        n.startupEpoch) = .ok r

/-- The transport takes a connect, or the handshake can be started. -/
def CanInitiate (env : LinkEnv SecretKey) (transportId : TransportId) (remoteAddr : TransportAddr)
    (identity : PeerIdentity PublicKey) (n : LinkNode SecretKey PublicKey ν μ) : Prop :=
  if env.connectionOriented transportId then env.connect transportId remoteAddr = .sent
  else n.CanStart env identity

/-- What an attempt to connect leaves: nothing is dropped, and what is new is outbound. -/
structure Attempted (n n' : LinkNode SecretKey PublicKey ν μ) : Prop where
  ids : n'.LinkIds
  effects : n'.effects = n.effects
  kept : ∀ a, n.Attends a → n'.Attends a
  outbound : ∀ l c, n'.connections.lookup l = some c →
    n.connections.lookup l = some c ∨ c.isOutbound = true

variable {n n' n'' : LinkNode SecretKey PublicKey ν μ} {l : LinkId} (env : LinkEnv SecretKey)
  {identity : PeerIdentity PublicKey}

omit [HkdfSha256] [ChaCha20Poly1305] in
/-- A step that shows nothing is an attempt. -/
theorem Attempted.of_view (hids : n'.LinkIds) (hview : n'.attendView = n.attendView) :
    Attempted n n' := by
  obtain ⟨-, hconnections, -, heffects⟩ := attendView_iff.mp hview
  exact ⟨hids, heffects, fun a => (attends_congr hview).mpr, fun l c hc => .inl (hconnections l ▸ hc)⟩

omit [HkdfSha256] [ChaCha20Poly1305] in
theorem Attempted.trans (h : Attempted n n') (h' : Attempted n' n'') : Attempted n n'' := by
  refine ⟨h'.ids, h'.effects.trans h.effects, fun a ha => h'.kept a (h.kept a ha), fun l c hc => ?_⟩
  rcases h'.outbound l c hc with hold | hout
  · exact h.outbound l c hold
  · exact .inr hout

/-- Whether an attempt can start depends on what the start reads. -/
theorem canStart_congr (h : n'.startView = n.startView) :
    n'.CanStart env identity ↔ n.CanStart env identity := by
  unfold startView at h
  simp only [Prod.mk.injEq] at h
  obtain ⟨hidentity, hepoch, hallocated⟩ := h
  unfold CanStart
  rw [hidentity, hepoch, hallocated]

theorem canInitiate_congr (h : n'.startView = n.startView) {transportId : TransportId}
    {remoteAddr : TransportAddr} :
    n'.CanInitiate env transportId remoteAddr identity ↔
      n.CanInitiate env transportId remoteAddr identity := by
  unfold CanInitiate
  rw [canStart_congr env h]

/-- The connection of a started handshake leads to its peer. -/
theorem startHandshake_leads {r : Bytes × PeerConnection SecretKey PublicKey} {ourKeypair : SecretKey}
    {epoch : Epoch} {ephemeral : SecretKey} {nowMs : Nat}
    (h : call (PeerConnection.startHandshake ourKeypair epoch ephemeral nowMs)
      (PeerConnection.outbound l identity nowMs) = .ok r) :
    LeadsTo r.2 (identity.nodeAddr SecretKey) := by
  obtain ⟨msg1, c⟩ := r
  rw [call_eq_ok] at h
  unfold PeerConnection.startHandshake PeerConnection.requireDirection PeerConnection.requireState at h
  simp only [runs_bind_iff, runs_require_iff, runs_expect_iff, runs_pureCall_iff, runs_write_iff,
    runs_pure_iff] at h
  obtain ⟨-, -, ⟨-, rfl⟩, -, -, ⟨-, rfl⟩, -, -, ⟨-, rfl⟩, -, -, ⟨-, rfl⟩, -, -, rfl, -, rfl⟩ := h
  exact ⟨rfl, identity, rfl, rfl⟩

/-- The handshake of a new connection starts once its message can be written. -/
theorem startHandshake_of_message {r : Bytes × HandshakeState SecretKey PublicKey}
    {ourKeypair : SecretKey} {epoch : Epoch} {ephemeral : SecretKey} (l : LinkId) (nowMs : Nat)
    (h : call (HandshakeState.writeMessage1 ephemeral)
      ((HandshakeState.newInitiator ourKeypair identity.pubkeyFull).setLocalEpoch epoch) = .ok r) :
    ∃ c, call (PeerConnection.startHandshake ourKeypair epoch ephemeral nowMs)
      (PeerConnection.outbound l identity nowMs) = .ok (r.1, c) := by
  simp only [call_eq_ok]
  unfold PeerConnection.startHandshake PeerConnection.requireDirection PeerConnection.requireState
  simp only [runs_bind_iff, runs_require_iff, runs_expect_iff, runs_pureCall_iff, runs_write_iff,
    runs_pure_iff]
  exact ⟨_, (), _, ⟨rfl, rfl⟩, (), _, ⟨rfl, rfl⟩, identity, _, ⟨rfl, rfl⟩, r, _, ⟨h, rfl⟩, (), _, rfl,
    rfl, rfl⟩

/-- **The start of a handshake** on an unused link id. -/
theorem wp_startHandshake_pursues (h : n.LinkIds) (hl : n.Unused l) (transportId : TransportId)
    (remoteAddr : TransportAddr) :
    wp (startHandshake env l transportId remoteAddr identity)
      (fun _ n' => Attempted n n' ∧ n'.Pursues (identity.nodeAddr SecretKey))
      (fun e n' => e ≠ .panic ∧ ¬n.CanStart env identity ∧ n'.pursuitView = n.pursuitView ∧
        n'.startView = n.startView) n := by
  unfold startHandshake
  rw [wp_bind_iff, wp_attempt_iff, wp_allocate_iff]
  refine ⟨fun i hi => ?_, fun hnone => ⟨(fun he => by cases he), fun hcan => ?_, rfl, rfl⟩⟩
  · rw [wp_bind_iff, wp_read_iff, wp_bind_iff, wp_attempt_iff, wp_pureCall_iff]
    refine ⟨fun started hstarted => ?_, fun e he => ?_⟩
    · have hleads := startHandshake_leads hstarted
      obtain ⟨noiseMsg1, c⟩ := started
      let opened := { c with
        ourIndex := some i
        transportId := some transportId
        sourceAddr := some remoteAddr }.setHandshakeMsg1 (buildMsg1 i noiseMsg1)
          (env.nowMs + n.config.handshakeResendIntervalMs)
      have hids := h.addConnection (c := opened) hl rfl rfl
      have hopened : LeadsTo opened (identity.nodeAddr SecretKey) := hleads
      refine wp_bind_iff.mpr (wp_write_iff.mpr (wp_bind_iff.mpr (wp_transmit env fun sent outbox => ?_)))
      have hmore : ∀ a, n.Attends a →
          Attends { n with connections := n.connections.insert l opened } a :=
        fun a ha => ha.imp_right fun hpursues => hpursues.insert hl.connection opened
      have hnew : ∀ (d : PeerConnection SecretKey PublicKey), d.isOutbound = true → ∀ l' c',
          (n.connections.insert l d).lookup l' = some c' →
          n.connections.lookup l' = some c' ∨ c'.isOutbound = true := by
        intro d hd l' c' hc'
        rw [Map.lookup_insert'] at hc'
        split_ifs at hc'
        · cases hc'
          exact .inr hd
        · exact .inl hc'
      cases sent with
      | true =>
        exact ⟨⟨hids.congr (fun _ => rfl) rfl rfl, rfl, hmore, hnew opened hopened.1⟩,
          .inl ⟨l, opened, AList.lookup_insert _, hopened⟩⟩
      | false =>
        have hlookup : (n.connections.insert l opened).lookup l = some opened :=
          AList.lookup_insert _
        let failed := Map.modify l (·.markFailed) (n.connections.insert l opened)
        have hmodify : ∀ a, Attends { n with connections := n.connections.insert l opened } a →
            Attends { n with connections := failed } a := by
          intro a ha
          unfold failed
          rw [Map.modify_eq_insert hlookup]
          refine ha.imp_right fun hpursues => ?_
          exact hpursues.put (n := { n with connections := n.connections.insert l opened }) hlookup
            fun hleads => hleads
        have hids := hids.mapConnection l (f := (·.markFailed)) fun c => ⟨rfl, rfl⟩
        refine ⟨⟨hids.congr (fun _ => rfl) rfl rfl, rfl, fun a ha => hmodify a (hmore a ha),
          fun l' c' hc' => ?_⟩, .inl ⟨l, opened.markFailed, Map.lookup_modify_self hlookup _, hopened⟩⟩
        change failed.lookup l' = some c' at hc'
        unfold failed at hc'
        rw [Map.modify_eq_insert hlookup, AList.insert_insert] at hc'
        exact hnew opened.markFailed hopened.1 l' c' hc'
    · have hcannot : ¬n.CanStart env identity := by
        rintro ⟨-, r, hr⟩
        obtain ⟨c, hc⟩ := startHandshake_of_message l env.nowMs hr
        cases hc.symm.trans he
      cases e with
      | panic => exact absurd he (PeerConnection.noPanic_startHandshake _ _ _ _ _ _)
      | error e =>
        refine ⟨(fun he => by cases he), hcannot, rfl, ?_⟩
        change (n.identity, n.startupEpoch, (i :: n.allocatedIndices).erase i) = _
        rw [List.erase_cons_head]
        rfl
  · rw [CanStart, hnone] at hcan
    cases hcan.1

/-- **An attempt** over one transport. -/
theorem wp_initiateConnection_pursues (h : n.LinkIds) (hconsistent : env.Consistent)
    (transportId : TransportId) (remoteAddr : TransportAddr) :
    wp (initiateConnection env transportId remoteAddr identity)
      (fun _ n' => Attempted n n' ∧ n'.Pursues (identity.nodeAddr SecretKey))
      (fun e n' => e ≠ .panic ∧ ¬n.CanInitiate env transportId remoteAddr identity ∧ n'.LinkIds ∧
        n'.attendView = n.attendView ∧ n'.startView = n.startView) n := by
  obtain ⟨hcounted, hunused⟩ := h.countLink
  unfold initiateConnection allocateLinkId addLink CanInitiate
  simp only [wp_bind_iff, wp_read_iff, wp_write_iff, wp_pure_iff]
  let linked : LinkNode SecretKey PublicKey ν μ := { n with
    nextLinkId := n.nextLinkId + 1
    links := n.links.insert n.nextLinkId ⟨n.nextLinkId, transportId, remoteAddr, .outbound⟩
    addrToLink := n.addrToLink.insert (transportId, remoteAddr) n.nextLinkId }
  have hlinked : linked.LinkIds := hcounted.congr (fun _ => rfl) rfl rfl
  have hfree : linked.Unused n.nextLinkId := hunused.congr (fun _ => rfl) rfl rfl
  by_cases horiented : env.connectionOriented transportId = true
  · simp only [if_pos horiented]
    cases hconnect : env.connect transportId remoteAddr with
    | sent =>
      refine ⟨⟨hlinked.addWaiting hfree rfl, rfl, fun a ha => ha.imp_right fun hpursues => ?_,
        fun l c hc => .inl hc⟩, .inr ⟨_, List.mem_append_right _ (List.mem_singleton_self _), rfl⟩⟩
      exact hpursues.mono (fun l c hc hleads => ⟨l, c, hc, hleads⟩) fun pc hpc =>
        List.mem_append_left _ hpc
    | failed =>
      refine wp_bind_iff.mpr ⟨(fun he => by cases he), fun hsent => ?_, hlinked.congr (fun _ => rfl) rfl rfl, rfl, rfl⟩
      cases hsent
    | noTransport => exact absurd hconnect (hconsistent transportId remoteAddr horiented)
  · simp only [if_neg horiented]
    have hsame : Attempted n linked := .of_view hlinked rfl
    refine wp_mono (fun _ n' hstarted => ⟨hsame.trans hstarted.1, hstarted.2⟩) (fun e n' hfailed => ?_)
      (wp_startHandshake_pursues env hlinked hfree transportId remoteAddr)
    obtain ⟨he, hcannot, hview, hstart⟩ := hfailed
    refine ⟨he, fun hcan => hcannot ((canStart_congr env rfl).mpr hcan), hlinked.of_pursuitView hview,
      (pursuitView_iff.mp hview).1, hstart⟩

/-! ### Configured peers -/

variable [NpubDecoder PublicKey]

/-- One of the addresses of the peer can be tried. -/
def CanConnect (env : ConnectEnv SecretKey) (pc : PeerConfig) (n : LinkNode SecretKey PublicKey ν μ) :
    Prop :=
  ∃ (identity : PeerIdentity PublicKey) (k : Nat) (addr : PeerAddress) (transportId : TransportId)
    (remoteAddr : TransportAddr), NpubDecoder.fromNpub pc.npub = some identity ∧
    pc.addressesByPriority[k]? = some addr ∧ env.resolve addr = some (transportId, remoteAddr) ∧
    n.CanInitiate (env.link k) transportId remoteAddr identity

omit [NpubDecoder PublicKey] in
/-- The addresses are tried until one works; those tried before it leave nothing. -/
theorem wp_tryAddresses_pursues (env : ConnectEnv SecretKey) (npub : String)
    (addrs : List PeerAddress) (i : Nat) (h : n.LinkIds) :
    wp (tryAddresses env npub identity addrs i)
      (fun _ n' => Attempted n n' ∧ n'.Pursues (identity.nodeAddr SecretKey))
      (fun _ n' => Attempted n n' ∧ ∀ k addr transportId remoteAddr, addrs[k]? = some addr →
        env.resolve addr = some (transportId, remoteAddr) →
        ¬n.CanInitiate (env.link (i + k)) transportId remoteAddr identity) n := by
  induction addrs generalizing n i with
  | nil => exact ⟨.of_view h rfl, fun k addr _ _ haddr => by cases haddr⟩
  | cons addr addrs ih =>
    unfold tryAddresses
    -- the addresses after the first, from a state that reads the same
    have hrest : ∀ m : LinkNode SecretKey PublicKey ν μ, m.LinkIds → m.attendView = n.attendView →
        m.startView = n.startView →
        (∀ transportId remoteAddr, env.resolve addr = some (transportId, remoteAddr) →
          ¬n.CanInitiate (env.link i) transportId remoteAddr identity) →
        wp (tryAddresses env npub identity addrs (i + 1))
          (fun _ n' => Attempted n n' ∧ n'.Pursues (identity.nodeAddr SecretKey))
          (fun _ n' => Attempted n n' ∧ ∀ k addr' transportId remoteAddr,
            (addr :: addrs)[k]? = some addr' →
            env.resolve addr' = some (transportId, remoteAddr) →
            ¬n.CanInitiate (env.link (i + k)) transportId remoteAddr identity) m := by
      intro m hm hview hstart hfirst
      refine wp_mono (fun _ n' hdone => ?_) (fun _ n' hfailed => ?_) (ih (i + 1) hm)
      · exact ⟨(Attempted.of_view hm hview).trans hdone.1, hdone.2⟩
      · refine ⟨(Attempted.of_view hm hview).trans hfailed.1, fun k addr' tid remote hk hresolve => ?_⟩
        cases k with
        | zero =>
          obtain rfl : addr = addr' := Option.some.inj hk
          exact hfirst tid remote hresolve
        | succ k =>
          have hcannot := hfailed.2 k addr' tid remote hk hresolve
          rwa [canInitiate_congr _ hstart, Nat.add_right_comm, Nat.add_assoc] at hcannot
    cases hresolve : env.resolve addr with
    | none => exact hrest n h rfl rfl fun tid remote hsome => by cases hresolve.symm.trans hsome
    | some destination =>
      obtain ⟨transportId, remoteAddr⟩ := destination
      refine wp_bind_iff.mpr (wp_attempt_iff.mpr ?_)
      refine wp_mono (fun _ n' hdone => hdone) (fun e n' hfailed => ?_)
        (wp_initiateConnection_pursues (env.link i) h (env.consistent i) transportId remoteAddr)
      obtain ⟨he, hcannot, hids, hview, hstart⟩ := hfailed
      have hfirst : ∀ tid remote, env.resolve addr = some (tid, remote) →
          ¬n.CanInitiate (env.link i) tid remote identity := by
        intro tid remote hsome
        cases hresolve.symm.trans hsome
        exact hcannot
      cases e with
      | error e => exact hrest n' hids hview hstart hfirst
      | panic => exact absurd rfl he

/-- **An attempt** to connect to a configured peer: one that finds no peer and no connection leaves
something under way, unless no address could be tried. -/
theorem wp_initiatePeerConnection_pursues (env : ConnectEnv SecretKey) (pc : PeerConfig)
    (h : n.LinkIds) :
    wp (initiatePeerConnection env pc)
      (fun _ n' => Attempted n n' ∧ ∀ a, pc.nodeAddr SecretKey PublicKey = some a →
        n'.Attends a ∨ n.isConnecting a = true)
      (fun _ n' => Attempted n n' ∧ ¬n.CanConnect env pc) n := by
  have hsame : Attempted n n := .of_view h rfl
  unfold initiatePeerConnection
  rw [wp_bind_iff, wp_orElse_iff]
  refine ⟨fun identity hidentity => ?_, fun hnone => ⟨hsame, ?_⟩⟩
  · have haddr : ∀ a, pc.nodeAddr SecretKey PublicKey = some a →
        identity.nodeAddr SecretKey = a := by
      intro a ha
      unfold PeerConfig.nodeAddr at ha
      rw [hidentity] at ha
      exact Option.some.inj ha
    rw [wp_bind_iff, wp_read_iff]
    split_ifs with hactive
    · exact ⟨hsame, fun a ha => .inl (.inl (haddr a ha ▸ hactive))⟩
    · rw [wp_bind_iff, wp_read_iff]
      split_ifs with hconnecting
      · exact ⟨hsame, fun a ha => .inr (haddr a ha ▸ hconnecting)⟩
      · refine wp_mono (fun _ n' hdone => ?_) (fun _ n' hfailed => ?_)
          (wp_tryAddresses_pursues env pc.npub pc.addressesByPriority 0 h)
        · exact ⟨hdone.1, fun a ha => .inl (.inr (haddr a ha ▸ hdone.2))⟩
        · refine ⟨hfailed.1, ?_⟩
          rintro ⟨identity', k, addr, tid, remote, hidentity', hk, hresolve, hcan⟩
          cases hidentity.symm.trans hidentity'
          rw [← Nat.zero_add k] at hcan
          exact hfailed.2 k addr tid remote hk hresolve hcan
  · rintro ⟨identity, -, -, -, -, hidentity, -⟩
    cases hnone.symm.trans hidentity

/-! ### The ends of an attempt -/

omit [NpubDecoder PublicKey] in
/-- A connect that is done with: its peer is pursued on if the handshake can be started. -/
theorem completeConnect_pursues (h : n.LinkIds) {i : Nat} {pc : PendingConnect PublicKey}
    (hi : n.pendingConnects[i]? = some pc) (connected : Bool) :
    let erased := { n with pendingConnects := n.pendingConnects.eraseIdx i }
    let n' := (completeConnect env i connected n).1
    Attempted erased n' ∧
      (connected = true → n.CanStart env pc.peerIdentity →
        n'.Pursues (pc.peerIdentity.nodeAddr SecretKey)) := by
  intro erased
  refine fst_of_wp (P := fun n' => Attempted erased n' ∧
    (connected = true → n.CanStart env pc.peerIdentity →
      n'.Pursues (pc.peerIdentity.nodeAddr SecretKey))) (wp_body_of_wp ?_)
  obtain ⟨hids, hunused⟩ := h.eraseWaiting hi
  have hremoved : ∀ m : LinkNode SecretKey PublicKey ν μ, m.LinkIds → m.attendView = erased.attendView →
      Attempted erased (m.removeLink pc.linkId) := by
    intro m hm hview
    obtain ⟨links, addrToLink, heq⟩ := removeLink_eq pc.linkId m
    rw [heq]
    exact .of_view (hm.congr (fun _ => rfl) rfl rfl) hview
  rw [wp_bind_iff, wp_read_iff, hi, wp_bind_iff, wp_orElse_some, wp_bind_iff, wp_write_iff]
  cases connected with
  | false => exact ⟨hremoved erased hids rfl, fun hno => by cases hno⟩
  | true =>
    refine wp_bind_iff.mpr (wp_attempt_iff.mpr ?_)
    refine wp_mono (fun _ n' hstarted => ⟨hstarted.1, fun _ _ => hstarted.2⟩) (fun e n' hfailed => ?_)
      (wp_startHandshake_pursues env hids hunused pc.transportId pc.remoteAddr)
    obtain ⟨he, hcannot, hview, -⟩ := hfailed
    cases e with
    | error e =>
      exact ⟨hremoved n' (hids.of_pursuitView hview) (pursuitView_iff.mp hview).1,
        fun _ hcan => absurd ((canStart_congr env rfl).mpr hcan) hcannot⟩
    | panic => exact absurd rfl he

omit [HkdfSha256] [ChaCha20Poly1305] [NpubDecoder PublicKey] in
/-- Beside its connection the clean-up drops nobody. -/
theorem cleanupStaleConnection_attempted (h : n.LinkIds) (l : LinkId) :
    Attempted { n with connections := n.connections.erase l } (cleanupStaleConnection l n).1 := by
  refine fst_of_wp (P := Attempted { n with connections := n.connections.erase l })
    (wp_body_of_wp ?_)
  have hids := h.eraseConnection l
  have hview : ∀ m : LinkNode SecretKey PublicKey ν μ, m.connections = n.connections.erase l →
      m.nextLinkId = n.nextLinkId → m.pendingConnects = n.pendingConnects → m.peers = n.peers →
      m.effects = n.effects →
      Attempted { n with connections := n.connections.erase l } (m.removeLink l) := by
    intro m hconnections hnext hwaiting hpeers heffects
    obtain ⟨links, addrToLink, heq⟩ := removeLink_eq l m
    rw [heq]
    refine .of_view (hids.congr (fun l' => ?_) hnext hwaiting)
      (attendView_eq (fun a => ?_) (fun l' => ?_) hwaiting heffects)
    · exact congrArg (AList.lookup l') hconnections
    · exact congrArg (fun ps => (AList.lookup a ps).isSome) hpeers
    · exact congrArg (AList.lookup l') hconnections
  rw [wp_bind_iff, wp_read_iff, wp_bind_iff, wp_orElse_iff]
  refine ⟨fun c hc => ?_, fun hnone => ?_⟩
  · unfold dropConnection
    rw [wp_bind_iff, wp_write_iff]
    cases c.ourIndex with
    | none => exact hview _ rfl rfl rfl rfl rfl
    | some index =>
      cases c.transportId with
      | none => exact hview _ rfl rfl rfl rfl rfl
      | some tid => exact hview _ rfl rfl rfl rfl rfl
  · refine .of_view h (attendView_eq (fun _ => rfl) (fun l' => ?_) rfl rfl)
    change n.connections.lookup l' = (n.connections.erase l).lookup l'
    rw [Map.lookup_erase']
    split_ifs with heq
    · rw [heq, hnone]
    · rfl

end Attempts

end LinkNode

end Fips
