import Fips.Node.Handover
import Fips.Node.LinkSample

/-!
# Auto-connect peers are not forgotten

A peer that is configured to be connected to and reconnected to is active, pursued, or in the retry
table. The peer leaves the table when it becomes active, so that whatever ends the connection later
has to put it back. Four paths do not: a failed attempt at start-up is only logged; a handshake that
cannot be started once the transport has connected, a msg2 that finds the table of peers full, and a
disconnect of the peer end without `schedule_retry` and `schedule_reconnect`. The latter looks at the
first configuration of a peer only.

## Results

* `cared_step`: every event outside these paths leaves no peer out.
* `covered_of_keepsPeers`: a run whose steps are outside these paths never abandons a peer.
-/

open Checked EventRun

namespace Fips

/-- One of the auto-connect entries for the peer asks for reconnects. -/
def AutoReconnects (SecretKey PublicKey : Type) [Sha256] [Secp256k1 SecretKey PublicKey]
    [NpubDecoder PublicKey] (peerConfigs : List PeerConfig) (a : NodeAddr) : Prop :=
  ∃ pc ∈ peerConfigs, pc.isAutoConnect = true ∧ pc.autoReconnect = true ∧
    pc.nodeAddr SecretKey PublicKey = some a

namespace RetryNode

variable {SecretKey PublicKey ν μ : Type} {ε : Type}

/-! ## The retry table -/

section Table

variable {n n' n'' : RetryNode SecretKey PublicKey ν μ} {a b : NodeAddr}

/-- The entry asks for unlimited retries. -/
def Reconnecting (n : RetryNode SecretKey PublicKey ν μ) : Prop :=
  ∀ a state, n.retryPending.lookup a = some state → state.reconnect = true

/-- A step of the retry table that forgets no peer. -/
structure Retries (n n' : RetryNode SecretKey PublicKey ν μ) : Prop where
  link : n'.toLinkNode = n.toLinkNode
  peerConfigs : n'.peerConfigs = n.peerConfigs
  retryConfig : n'.retryConfig = n.retryConfig
  reconnecting : n.Reconnecting → n'.Reconnecting
  kept : n.Reconnecting → ∀ b, (n.retryPending.lookup b).isSome = true →
    (n'.retryPending.lookup b).isSome = true

theorem Retries.refl (n : RetryNode SecretKey PublicKey ν μ) : Retries n n :=
  ⟨rfl, rfl, rfl, fun h => h, fun _ _ h => h⟩

/-- Retries are kept over several steps. -/
theorem Retries.trans (h : Retries n n') (h' : Retries n' n'') : Retries n n'' :=
  ⟨h'.link.trans h.link, h'.peerConfigs.trans h.peerConfigs, h'.retryConfig.trans h.retryConfig,
    fun hrec => h'.reconnecting (h.reconnecting hrec),
    fun hrec b hb => h'.kept (h.reconnecting hrec) b (h.kept hrec b hb)⟩

theorem isSome_insert {υ : Type} (m : Map NodeAddr υ) (a : NodeAddr) (v : υ)
    (h : (m.lookup b).isSome = true) : ((m.insert a v).lookup b).isSome = true := by
  rw [Map.lookup_insert']
  split_ifs
  · rfl
  · exact h

/-- A retry that is kept with its `reconnect` flag takes no other one's place. -/
theorem retries_keepRetry (a : NodeAddr) (nowMs : Nat) {state : RetryState}
    (hstate : n.Reconnecting → state.reconnect = true) : Retries n (n.keepRetry a nowMs state) := by
  refine ⟨rfl, rfl, rfl, fun hrec b s hs => ?_, fun _ b hb => isSome_insert _ a _ hb⟩
  change (n.retryPending.insert a _).lookup b = some s at hs
  rw [Map.lookup_insert'] at hs
  split_ifs at hs
  · cases hs
    exact hstate hrec
  · exact hrec b s hs

/-- The retry that is kept is there. -/
theorem isSome_keepRetry (a : NodeAddr) (nowMs : Nat) (state : RetryState) :
    ((n.keepRetry a nowMs state).retryPending.lookup a).isSome = true :=
  Option.isSome_iff_exists.mpr ⟨_, AList.lookup_insert _⟩

variable [Sha256] [Secp256k1 SecretKey PublicKey] [NpubDecoder PublicKey]

/-- The entry that `schedule_reconnect` finds for an address asks for reconnects too. -/
def Agrees (n : RetryNode SecretKey PublicKey ν μ) : Prop :=
  ∀ a pc, AutoReconnects SecretKey PublicKey n.peerConfigs a → n.configOf a = some pc →
    pc.autoReconnect = true

/-- A peer to reconnect to has a configuration. -/
theorem configOf_isSome (h : AutoReconnects SecretKey PublicKey n.peerConfigs a) :
    ∃ pc, n.configOf a = some pc := by
  obtain ⟨pc, hpc, hauto, -, haddr⟩ := h
  unfold configOf autoConnectPeers
  refine Option.isSome_iff_exists.mp (List.find?_isSome.mpr ⟨pc, List.mem_filter.mpr ⟨hpc, hauto⟩, ?_⟩)
  exact decide_eq_true haddr

/-- `schedule_retry` gives up no peer that is to be reconnected to. -/
theorem retries_scheduleRetry (a : NodeAddr) (nowMs : Nat) :
    Retries n (n.scheduleRetry a nowMs) := by
  unfold scheduleRetry
  split_ifs
  · exact .refl n
  · exact .refl n
  · cases hstate : n.retryPending.lookup a with
    | none =>
      dsimp only
      cases n.configOf a with
      | none => exact .refl n
      | some pc => exact retries_keepRetry a nowMs fun _ => rfl
    | some state =>
      dsimp only
      split_ifs with hgivenUp
      · -- no entry is given up
        have hkeeps : n.Reconnecting → False := by
          intro hrec
          rw [hrec a state hstate] at hgivenUp
          cases hgivenUp
        exact ⟨rfl, rfl, rfl, fun hrec => (hkeeps hrec).elim, fun hrec => (hkeeps hrec).elim⟩
      · exact retries_keepRetry a nowMs fun hrec => hrec a state hstate

/-- A configured peer that is not active is retried. -/
theorem isSome_scheduleRetry (nowMs : Nat) (hrec : n.Reconnecting)
    (hretries : 0 < n.retryConfig.maxRetries)
    (h : AutoReconnects SecretKey PublicKey n.peerConfigs a) (hnone : n.peers.lookup a = none) :
    ((n.scheduleRetry a nowMs).retryPending.lookup a).isSome = true := by
  obtain ⟨pc, hpc⟩ := configOf_isSome h
  unfold scheduleRetry
  rw [if_neg (Nat.pos_iff_ne_zero.mp hretries), hnone, if_neg (by simp)]
  cases hstate : n.retryPending.lookup a with
  | none =>
    dsimp only
    rw [hpc]
    exact isSome_keepRetry a nowMs _
  | some state =>
    dsimp only
    rw [hrec a state hstate]
    exact isSome_keepRetry a nowMs _

/-- `schedule_reconnect` drops no retry. -/
theorem retries_scheduleReconnect (a : NodeAddr) (nowMs : Nat) :
    Retries n (n.scheduleReconnect a nowMs) := by
  unfold scheduleReconnect
  cases n.configOf a with
  | none => exact .refl n
  | some pc =>
    dsimp only
    split_ifs
    · exact .refl n
    · cases n.retryPending.lookup a with
      | none => exact retries_keepRetry a nowMs fun _ => rfl
      | some state => exact retries_keepRetry a nowMs fun _ => rfl

/-- After `schedule_reconnect` the peer has a retry, if its configuration asks for one. -/
theorem isSome_scheduleReconnect (nowMs : Nat) (hagrees : n.Agrees)
    (h : AutoReconnects SecretKey PublicKey n.peerConfigs a) :
    ((n.scheduleReconnect a nowMs).retryPending.lookup a).isSome = true := by
  obtain ⟨pc, hpc⟩ := configOf_isSome h
  unfold scheduleReconnect
  rw [hpc]
  dsimp only
  rw [hagrees a pc h hpc]
  cases n.retryPending.lookup a with
  | none => exact isSome_keepRetry a nowMs _
  | some state => exact isSome_keepRetry a nowMs _

/-- Other peers' retries stay. -/
theorem lookup_scheduleReconnect_of_ne (nowMs : Nat) (hb : b ≠ a) :
    (n.scheduleReconnect a nowMs).retryPending.lookup b = n.retryPending.lookup b := by
  have hkeep : ∀ state : RetryState,
      (n.keepRetry a nowMs state).retryPending.lookup b = n.retryPending.lookup b :=
    fun state => (Map.lookup_insert' _ a b _).trans (if_neg hb)
  unfold scheduleReconnect
  cases n.configOf a with
  | none => rfl
  | some pc =>
    dsimp only
    split_ifs
    · rfl
    · cases n.retryPending.lookup a with
      | none => exact hkeep _
      | some state => exact hkeep _

/-- The agreement is about the configuration alone. -/
theorem agrees_congr (h : n'.peerConfigs = n.peerConfigs) (hagrees : n.Agrees) : n'.Agrees := by
  intro a pc ha hpc
  have hconfig : n'.configOf a = n.configOf a := by
    unfold configOf autoConnectPeers
    rw [h]
  rw [hconfig] at hpc
  exact hagrees a pc (h ▸ ha) hpc

end Table

/-! ### Effects -/

section Effects

variable [Sha256] [Secp256k1 SecretKey PublicKey] [NpubDecoder PublicKey]
variable {n : RetryNode SecretKey PublicKey ν μ} {a : NodeAddr}

/-- The peer is active, pursued or to be retried. -/
def Covered (n : RetryNode SecretKey PublicKey ν μ) (a : NodeAddr) : Prop :=
  n.Attends a ∨ (n.retryPending.lookup a).isSome = true

/-- The effects of the data plane add to the table only. -/
theorem retries_followFrames (nowMs : Nat) (es : List (Effect PublicKey)) :
    Retries n (es.foldl (followFrame nowMs) n) := by
  induction es generalizing n with
  | nil => exact .refl n
  | cons e es ih =>
    rw [List.foldl_cons]
    cases e with
    | scheduleReconnect addr => exact (retries_scheduleReconnect addr nowMs).trans ih
    | _ => exact ih

/-- A peer whose link a frame took down has a retry. -/
theorem isSome_followFrames (nowMs : Nat) {es : List (Effect PublicKey)} (hrec : n.Reconnecting)
    (hagrees : n.Agrees) (h : AutoReconnects SecretKey PublicKey n.peerConfigs a)
    (hmem : .scheduleReconnect a ∈ es) :
    ((es.foldl (followFrame nowMs) n).retryPending.lookup a).isSome = true := by
  obtain ⟨es₁, es₂, rfl⟩ := List.append_of_mem hmem
  rw [List.foldl_append, List.foldl_cons]
  have hbefore := retries_followFrames (n := n) nowMs es₁
  have hscheduled : (((es₁.foldl (followFrame nowMs) n).scheduleReconnect a nowMs).retryPending.lookup
      a).isSome = true :=
    isSome_scheduleReconnect nowMs (agrees_congr hbefore.peerConfigs hagrees)
      (hbefore.peerConfigs.symm ▸ h)
  refine (retries_followFrames nowMs es₂).kept ?_ a hscheduled
  exact (retries_scheduleReconnect a nowMs).reconnecting (hbefore.reconnecting hrec)

/-- The effects of a handshake handler, as far as they are about one peer. -/
theorem followHandshakes_spec (nowMs : Nat) (es : List (Effect PublicKey)) (hrec : n.Reconnecting)
    (hagrees : n.Agrees) :
    let n' := es.foldl (followHandshake nowMs) n
    n'.toLinkNode = n.toLinkNode ∧ n'.peerConfigs = n.peerConfigs ∧
      n'.retryConfig = n.retryConfig ∧ n'.Reconnecting ∧
      (AutoReconnects SecretKey PublicKey n.peerConfigs a → (n'.retryPending.lookup a).isSome =
        es.foldl (LinkNode.followRetry a) (n.retryPending.lookup a).isSome) := by
  induction es generalizing n with
  | nil => exact ⟨rfl, rfl, rfl, hrec, fun _ => rfl⟩
  | cons e es ih =>
    simp only [List.foldl_cons]
    cases e with
    | registerIdentity addr pubkey =>
      have herased : Reconnecting { n with retryPending := n.retryPending.erase addr } := by
        intro b state hstate
        change (n.retryPending.erase addr).lookup b = some state at hstate
        rw [Map.lookup_erase'] at hstate
        split_ifs at hstate
        exact hrec b state hstate
      obtain ⟨hlink, hconfigs, hretry, hrec', hfold⟩ :=
        ih (n := { n with retryPending := n.retryPending.erase addr }) herased
          (agrees_congr rfl hagrees)
      refine ⟨hlink, hconfigs, hretry, hrec', fun h => (hfold h).trans
        (congrArg (fun b => es.foldl (LinkNode.followRetry a) b) ?_)⟩
      change ((n.retryPending.erase addr).lookup a).isSome = if addr = a then false else _
      rw [Map.lookup_erase']
      by_cases ha : addr = a
      · rw [if_pos ha, if_pos ha.symm]
        rfl
      · rw [if_neg ha, if_neg (Ne.symm ha)]
    | scheduleReconnect addr =>
      have hstep := retries_scheduleReconnect (n := n) addr nowMs
      obtain ⟨hlink, hconfigs, hretry, hrec', hfold⟩ := ih (n := n.scheduleReconnect addr nowMs)
        (hstep.reconnecting hrec) (agrees_congr hstep.peerConfigs hagrees)
      refine ⟨hlink.trans hstep.link, hconfigs.trans hstep.peerConfigs,
        hretry.trans hstep.retryConfig, hrec', fun h => ?_⟩
      refine (hfold (hstep.peerConfigs.symm ▸ h)).trans
        (congrArg (fun b => es.foldl (LinkNode.followRetry a) b) ?_)
      change _ = if addr = a then true else _
      by_cases ha : addr = a
      · subst ha
        rw [if_pos rfl]
        exact isSome_scheduleReconnect nowMs hagrees h
      · rw [if_neg ha]
        exact congrArg Option.isSome (lookup_scheduleReconnect_of_ne nowMs (Ne.symm ha))
    | _ => exact ih hrec hagrees

end Effects

/-! ## Events -/

section Events

variable [Sha256] [HkdfSha256] [ChaCha20Poly1305] [Secp256k1 SecretKey PublicKey]
  [NpubDecoder PublicKey]
variable {n n' : RetryNode SecretKey PublicKey ν μ} {a : NodeAddr} {peerConfigs : List PeerConfig}

/-- No configured peer is left out. -/
structure Cared (peerConfigs : List PeerConfig) (n : RetryNode SecretKey PublicKey ν μ) : Prop where
  configs : n.peerConfigs = peerConfigs
  retries : 0 < n.retryConfig.maxRetries
  agrees : n.Agrees
  ids : n.LinkIds
  reconnecting : n.Reconnecting
  covered : ∀ a, AutoReconnects SecretKey PublicKey peerConfigs a → n.Covered a

omit [HkdfSha256] [ChaCha20Poly1305] in
/-- Peers that are cared for still are when only retries were added. -/
theorem Cared.of_retries (h : n.Cared peerConfigs) (hstep : Retries n n') : n'.Cared peerConfigs := by
  refine ⟨hstep.peerConfigs.trans h.configs, hstep.retryConfig.symm ▸ h.retries,
    agrees_congr hstep.peerConfigs h.agrees, hstep.link.symm ▸ h.ids, hstep.reconnecting h.reconnecting,
    fun a ha => (h.covered a ha).imp (fun hattends => ?_) (hstep.kept h.reconnecting a)⟩
  rw [hstep.link]
  exact hattends

omit [HkdfSha256] [ChaCha20Poly1305] in
/-- A step of the links after which every configured peer is still covered. -/
theorem Cared.onLink (h : n.Cared peerConfigs) {m : LinkNode SecretKey PublicKey ν μ}
    (hids : m.LinkIds) (hcovered : ∀ a, AutoReconnects SecretKey PublicKey peerConfigs a →
      m.Attends a ∨ (n.retryPending.lookup a).isSome = true) :
    Cared peerConfigs { n with toLinkNode := m } :=
  ⟨h.configs, h.retries, agrees_congr rfl h.agrees, hids, h.reconnecting, hcovered⟩

omit [HkdfSha256] [ChaCha20Poly1305] in
/-- A step below that does not touch connections, links and peers leaves the care. -/
theorem Cared.onView (h : n.Cared peerConfigs) {m : LinkNode SecretKey PublicKey ν μ}
    (hview : m.pursuitView = n.pursuitView) : Cared peerConfigs { n with toLinkNode := m } :=
  h.onLink (h.ids.of_pursuitView hview) fun a ha => (h.covered a ha).imp_left
    (LinkNode.attends_congr (LinkNode.pursuitView_iff.mp hview).1).mpr

omit [HkdfSha256] [ChaCha20Poly1305] in
/-- An attempt to connect drops nobody. -/
theorem Cared.onAttempt (h : n.Cared peerConfigs) {m : LinkNode SecretKey PublicKey ν μ}
    (hattempt : LinkNode.Attempted n.toLinkNode m) : Cared peerConfigs { n with toLinkNode := m } :=
  h.onLink hattempt.ids fun a ha => (h.covered a ha).imp_left (hattempt.kept a)

/-! ### Attempts -/

theorem cared_initiatePeerConnection (h : n.Cared peerConfigs) (env : ConnectEnv SecretKey)
    (pc : PeerConfig) :
    Cared peerConfigs (RetryNode.onLink (LinkNode.initiatePeerConnection env pc) n).1 :=
  h.onAttempt (fst_of_wp (P := LinkNode.Attempted n.toLinkNode) (wp_mono (fun _ _ hdone => hdone.1)
    (fun _ _ hfailed => hfailed.1) (LinkNode.wp_initiatePeerConnection_pursues env pc h.ids)))

omit [NpubDecoder PublicKey] in
/-- An attempt to connect that fails on the way leaves no half of it. -/
theorem attempted_initiateConnection {n : LinkNode SecretKey PublicKey ν μ} (h : n.LinkIds)
    {env : LinkEnv SecretKey} (hconsistent : env.Consistent) (transportId : TransportId)
    (remoteAddr : TransportAddr) (peerIdentity : PeerIdentity PublicKey) :
    LinkNode.Attempted n (LinkNode.initiateConnection env transportId remoteAddr peerIdentity n).1 :=
  fst_of_wp (P := LinkNode.Attempted n) (wp_mono (fun _ _ hdone => hdone.1)
    (fun _ _ hfailed => .of_view hfailed.2.2.1 hfailed.2.2.2.1)
    (LinkNode.wp_initiateConnection_pursues env h hconsistent transportId remoteAddr))

/-! ### Ticks -/

omit [HkdfSha256] [ChaCha20Poly1305] in
/-- A stale connection is retried before it is cleaned up. -/
theorem cared_timeOutConnection (h : n.Cared peerConfigs) (nowMs : Nat) (l : LinkId) :
    Cared peerConfigs (timeOutConnection nowMs n l) := by
  -- what the first part leaves: a peer the connection leads to is active or retried
  have hclean : ∀ m : RetryNode SecretKey PublicKey ν μ, m.Cared peerConfigs →
      (∀ c a, m.connections.lookup l = some c → LinkNode.LeadsTo c a →
        AutoReconnects SecretKey PublicKey peerConfigs a →
        (m.peers.lookup a).isSome = true ∨ (m.retryPending.lookup a).isSome = true) →
      Cared peerConfigs (RetryNode.onLink (LinkNode.cleanupStaleConnection l) m).1 := by
    intro m hm hlast
    have hcleaned := LinkNode.cleanupStaleConnection_attempted hm.ids l
    refine hm.onLink hcleaned.ids fun a ha => ?_
    rcases hm.covered a ha with (hactive | hpursues) | hretry
    · exact .inl (hcleaned.kept a (.inl hactive))
    · cases hc : m.connections.lookup l with
      | none =>
        refine .inl (hcleaned.kept a (.inr (hpursues.mono (fun l' c' hc' hleads =>
          ⟨l', c', ?_, hleads⟩) fun _ hpc => hpc)))
        change (m.connections.erase l).lookup l' = some c'
        rw [Map.lookup_erase', if_neg (fun heq => ?_), hc']
        cases hc.symm.trans (heq ▸ hc')
      | some c =>
        by_cases hleads : LinkNode.LeadsTo c a
        · rcases hlast c a hc hleads ha with hactive | hretry
          · exact .inl (hcleaned.kept a (.inl hactive))
          · exact .inr hretry
        · exact .inl (hcleaned.kept a (.inr (hpursues.without hc hleads)))
    · exact .inr hretry
  unfold timeOutConnection
  cases hc : n.connections.lookup l with
  | none => exact hclean n h fun c a hc' => by cases hc.symm.trans hc'
  | some c =>
    dsimp only
    cases hidentity : c.expectedIdentity with
    | none =>
      refine hclean n h fun c' a hc' hleads => ?_
      obtain rfl := Option.some.inj (hc.symm.trans hc')
      obtain ⟨-, identity, hsome, -⟩ := hleads
      cases hidentity.symm.trans hsome
    | some identity =>
      dsimp only
      by_cases hout : c.isOutbound = true
      · rw [if_pos hout]
        have hstep := retries_scheduleRetry (n := n) (identity.nodeAddr SecretKey) nowMs
        refine hclean _ (h.of_retries hstep) fun c' a hc' hleads ha => ?_
        rw [hstep.link] at hc' ⊢
        obtain rfl := Option.some.inj (hc.symm.trans hc')
        obtain ⟨-, identity', hsome, rfl⟩ := hleads
        obtain rfl := Option.some.inj (hidentity.symm.trans hsome)
        cases hpeer : n.peers.lookup (identity.nodeAddr SecretKey) with
        | some p => exact .inl rfl
        | none =>
          exact .inr (isSome_scheduleRetry nowMs h.reconnecting h.retries (h.configs.symm ▸ ha) hpeer)
      · rw [if_neg hout]
        refine hclean n h fun c' a hc' hleads => ?_
        obtain rfl := Option.some.inj (hc.symm.trans hc')
        exact absurd hleads.1 hout

omit [HkdfSha256] [ChaCha20Poly1305] in
/-- A connection that times out leaves a retry of its peer behind. -/
theorem cared_checkTimeouts (h : n.Cared peerConfigs) (nowMs : Nat) :
    Cared peerConfigs (n.checkTimeouts nowMs) := by
  unfold checkTimeouts
  exact List.foldlRecOn _ _ h fun m hm l _ => cared_timeOutConnection hm nowMs l

omit [HkdfSha256] [ChaCha20Poly1305] in
/-- A dead peer is removed and its reconnect scheduled. -/
theorem cared_removeDeadPeers (h : n.Cared peerConfigs) (nowMs : Nat)
    (isDead : ActivePeer SecretKey PublicKey ν → Bool) :
    Cared peerConfigs (n.removeDeadPeers nowMs isDead) := by
  unfold removeDeadPeers
  refine List.foldlRecOn _ _ h fun m hm addr _ => ?_
  obtain ⟨hids, hothers, -⟩ := LinkNode.removeActivePeer_attends (ε := Unit) addr hm.ids
  let removed : RetryNode SecretKey PublicKey ν μ :=
    { m with toLinkNode := (LinkNode.removeActivePeer (ε := Unit) addr m.toLinkNode).1 }
  have hstep := retries_scheduleReconnect (n := removed) addr nowMs
  have hagrees : removed.Agrees := agrees_congr rfl hm.agrees
  refine ⟨hstep.peerConfigs.trans hm.configs, hstep.retryConfig.symm ▸ hm.retries,
    agrees_congr hstep.peerConfigs hagrees, hstep.link.symm ▸ hids, hstep.reconnecting hm.reconnecting,
    fun a ha => ?_⟩
  by_cases heq : a = addr
  · subst heq
    exact .inr (isSome_scheduleReconnect nowMs hagrees (hm.configs.symm ▸ ha))
  · refine (hm.covered a ha).imp (fun hattends => ?_) (hstep.kept hm.reconnecting a)
    rw [hstep.link]
    exact hothers a heq hattends

/-- An attempt of the table, with what is written to the table after it. -/
theorem cared_retryConnection (h : n.Cared peerConfigs) (nowMs : Nat)
    (env : NodeAddr → ConnectEnv SecretKey) (addr : NodeAddr) :
    Cared peerConfigs (retryConnection nowMs env n addr) := by
  unfold retryConnection
  by_cases hactive : (n.peers.lookup addr).isSome = true
  · rw [if_pos hactive]
    refine ⟨h.configs, h.retries, agrees_congr rfl h.agrees, h.ids, fun b state hstate => ?_,
      fun a ha => ?_⟩
    · change (n.retryPending.erase addr).lookup b = some state at hstate
      rw [Map.lookup_erase'] at hstate
      split_ifs at hstate
      exact h.reconnecting b state hstate
    · by_cases heq : a = addr
      · exact .inl (.inl (heq.symm ▸ hactive))
      · refine (h.covered a ha).imp_right fun hretry => ?_
        change ((n.retryPending.erase addr).lookup a).isSome = true
        rw [Map.lookup_erase', if_neg heq]
        exact hretry
  · rw [if_neg hactive]
    cases hstate : n.retryPending.lookup addr with
    | none => exact h
    | some state =>
      have hattempt := cared_initiatePeerConnection h (env addr) state.peerConfig
      dsimp only
      rcases hrun : RetryNode.onLink (LinkNode.initiatePeerConnection (env addr) state.peerConfig) n
        with ⟨m, r⟩
      rw [hrun] at hattempt
      cases r with
      | ok u =>
        refine hattempt.of_retries ⟨rfl, rfl, rfl, fun hrec b s hs => ?_, fun _ b hb => ?_⟩
        · change (Map.modify addr _ m.retryPending).lookup b = some s at hs
          rw [Map.lookup_modify] at hs
          split_ifs at hs
          · obtain ⟨s', hs', rfl⟩ := Option.map_eq_some_iff.mp hs
            exact hrec b s' hs'
          · exact hrec b s hs
        · exact (LinkNode.isSome_lookup_modify m.retryPending addr b _).trans hb
      | error e => exact hattempt.of_retries (retries_scheduleRetry addr nowMs)

/-- A retry that is due turns into an attempt, or is scheduled again. -/
theorem cared_processPendingRetries (h : n.Cared peerConfigs) (nowMs : Nat)
    (env : NodeAddr → ConnectEnv SecretKey) :
    Cared peerConfigs (n.processPendingRetries nowMs env) := by
  unfold processPendingRetries
  exact List.foldlRecOn _ _ h fun m hm addr _ => cared_retryConnection hm nowMs env addr

omit [HkdfSha256] [ChaCha20Poly1305] [NpubDecoder PublicKey] in
/-- A resend of msg1 counts the resend in its connection. -/
theorem resendHandshake_keeps {n : LinkNode SecretKey PublicKey ν μ} (h : n.LinkIds)
    (env : LinkEnv SecretKey) (l : LinkId) (msg1 : Bytes) :
    (n.resendHandshake env l msg1).LinkIds ∧
      ∀ a, n.Attends a → (n.resendHandshake env l msg1).Attends a := by
  unfold LinkNode.resendHandshake
  cases hc : n.connections.lookup l with
  | none => exact ⟨h, fun _ ha => ha⟩
  | some c =>
    dsimp only
    split
    · split
      · rename_i hsent
        rw [Map.modify_eq_insert hc]
        let resent := c.recordResend (env.nowMs + n.config.resendIntervalMs (c.resendCount + 1))
        have hput : LinkNode.LinkIds { n with connections := n.connections.insert l resent } :=
          h.putConnection hc rfl rfl
        have hleads : ∀ a, LinkNode.LeadsTo c a → LinkNode.LeadsTo resent a := fun _ hleads => hleads
        exact ⟨hput.congr (fun _ => rfl) rfl rfl,
          fun a ha => ha.imp_right fun hpursues => hpursues.put hc (hleads a)⟩
      · exact ⟨h, fun _ ha => ha⟩
    · exact ⟨h, fun _ ha => ha⟩

omit [HkdfSha256] [ChaCha20Poly1305] in
theorem cared_resendPendingHandshakes (h : n.Cared peerConfigs) (env : LinkEnv SecretKey) :
    Cared peerConfigs { n with toLinkNode := n.toLinkNode.resendPendingHandshakes env } := by
  have hall : (n.toLinkNode.resendPendingHandshakes env).LinkIds ∧
      ∀ a, n.Attends a → (n.toLinkNode.resendPendingHandshakes env).Attends a := by
    unfold LinkNode.resendPendingHandshakes
    refine List.foldlRecOn 
      (motive := fun m : LinkNode SecretKey PublicKey ν μ =>
        m.LinkIds ∧ ∀ a, n.Attends a → m.Attends a) _ _
      ⟨h.ids, fun _ ha => ha⟩ fun m hm candidate _ => ?_
    obtain ⟨hids, hattends⟩ := resendHandshake_keeps hm.1 env candidate.1 candidate.2
    exact ⟨hids, fun a ha => hattends a (hm.2 a ha)⟩
  exact h.onLink hall.1 fun a ha => (h.covered a ha).imp_left (hall.2 a)

/-- A completed connect, unless its handshake cannot be started and nothing else is after its
peer. -/
def Finishes (peerConfigs : List PeerConfig) (env : Nat → LinkEnv SecretKey)
    (n : RetryNode SecretKey PublicKey ν μ) (completed : Nat × Bool) : Prop :=
  ∀ pending, n.pendingConnects[completed.1]? = some pending → completed.2 = true →
    AutoReconnects SecretKey PublicKey peerConfigs (pending.peerIdentity.nodeAddr SecretKey) →
    n.CanStart (env completed.1) pending.peerIdentity ∨
      Covered { n with pendingConnects := n.pendingConnects.eraseIdx completed.1 }
        (pending.peerIdentity.nodeAddr SecretKey)

omit [NpubDecoder PublicKey] in
/-- A position that is gone from the list of pending connects changes nothing. -/
theorem completeConnect_none {n : LinkNode SecretKey PublicKey ν μ} {env : LinkEnv SecretKey}
    {i : Nat} (hi : n.pendingConnects[i]? = none) (connected : Bool) :
    (LinkNode.completeConnect env i connected n).1 = n := by
  refine fst_of_wp (P := fun n' => n' = n) (wp_body_of_wp ?_)
  rw [wp_bind_iff, wp_read_iff, hi, wp_bind_iff, wp_orElse_iff]
  exact ⟨fun _ hsome => (by cases hsome), fun _ => rfl⟩

omit [HkdfSha256] [ChaCha20Poly1305] [NpubDecoder PublicKey] in
/-- Without the connect, the node is after every peer but that of the connect. -/
theorem attends_eraseIdx {n : LinkNode SecretKey PublicKey ν μ} {i : Nat}
    {pending : PendingConnect PublicKey} (hi : n.pendingConnects[i]? = some pending)
    (ha : a ≠ pending.peerIdentity.nodeAddr SecretKey) (h : n.Attends a) :
    LinkNode.Attends { n with pendingConnects := n.pendingConnects.eraseIdx i } a := by
  refine h.imp_right fun hpursues => ?_
  rcases hpursues with hconnection | ⟨pc, hpc, rfl⟩
  · exact .inl hconnection
  · refine .inr ⟨pc, ?_, rfl⟩
    obtain ⟨j, hj⟩ := List.mem_iff_getElem?.mp hpc
    refine List.mem_eraseIdx_iff_getElem?.mpr ⟨j, fun hji => ?_, hj⟩
    subst hji
    cases hi.symm.trans hj
    exact ha rfl

theorem cared_finishConnect (h : n.Cared peerConfigs) (env : Nat → LinkEnv SecretKey)
    (completed : Nat × Bool) (hfinishes : n.Finishes peerConfigs env completed) :
    Cared peerConfigs (finishConnect env n completed) := by
  obtain ⟨i, connected⟩ := completed
  unfold finishConnect onLink
  dsimp only
  cases hi : n.pendingConnects[i]? with
  | none => exact h.onView (congrArg LinkNode.pursuitView (completeConnect_none hi connected))
  | some pending =>
    obtain ⟨hattempt, hstarted⟩ := LinkNode.completeConnect_pursues (env i) h.ids hi connected
    have hothers : ∀ a, a ≠ pending.peerIdentity.nodeAddr SecretKey →
        AutoReconnects SecretKey PublicKey peerConfigs a →
        (LinkNode.completeConnect (env i) i connected n.toLinkNode).1.Attends a ∨
          (n.retryPending.lookup a).isSome = true := fun a hne ha =>
      (h.covered a ha).imp_left fun hattends => hattempt.kept a (attends_eraseIdx hi hne hattends)
    dsimp only
    cases connected with
    | true =>
      rw [if_pos rfl]
      refine h.onLink hattempt.ids fun a ha => ?_
      by_cases heq : a = pending.peerIdentity.nodeAddr SecretKey
      · subst heq
        rcases hfinishes pending hi rfl ha with hcan | hbeside
        · exact .inl (.inr (hstarted rfl hcan))
        · exact hbeside.imp_left (hattempt.kept _)
      · exact hothers a heq ha
    | false =>
      rw [if_neg Bool.false_ne_true]
      -- the peer of a failed connect is retried unless it is active
      let done : RetryNode SecretKey PublicKey ν μ :=
        { n with toLinkNode := (LinkNode.completeConnect (env i) i false n.toLinkNode).1 }
      have hstep := retries_scheduleRetry (n := done) (pending.peerIdentity.nodeAddr SecretKey)
        (env i).nowMs
      refine ⟨hstep.peerConfigs.trans h.configs, hstep.retryConfig.symm ▸ h.retries,
        agrees_congr hstep.peerConfigs (agrees_congr rfl h.agrees), hstep.link.symm ▸ hattempt.ids,
        hstep.reconnecting h.reconnecting, fun a ha => ?_⟩
      by_cases heq : a = pending.peerIdentity.nodeAddr SecretKey
      · subst heq
        cases hpeer : done.peers.lookup (pending.peerIdentity.nodeAddr SecretKey) with
        | some p =>
          refine .inl (.inl ?_)
          rw [hstep.link, hpeer]
          rfl
        | none =>
          exact .inr (isSome_scheduleRetry (n := done) (env i).nowMs h.reconnecting h.retries
            (h.configs.symm ▸ ha) hpeer)
      · refine (hothers a heq ha).imp (fun hattends => ?_) (hstep.kept h.reconnecting a)
        rw [hstep.link]
        exact hattends

theorem cared_pollPendingConnects (h : n.Cared peerConfigs) (env : Nat → LinkEnv SecretKey)
    (state : PendingConnect PublicKey → Option Bool)
    (hfinishes : Along (finishConnect env) (Finishes peerConfigs env) n
      (pollPendingConnects.completedConnects state n.pendingConnects)) :
    Cared peerConfigs (n.pollPendingConnects env state) := by
  unfold pollPendingConnects
  exact (Always.of_along (I := Cared peerConfigs)
    (fun m completed hm hcompleted => cared_finishConnect hm env completed hcompleted)
    h hfinishes).exec

/-! ### Messages -/

omit [HkdfSha256] [ChaCha20Poly1305] in
/-- A handler of the link handshake that hands over what it drops. -/
theorem cared_onHandshake {α : Type} (h : n.Cared peerConfigs) (nowMs : Nat)
    {m : LinkNode.M SecretKey PublicKey ν μ ε α} (hids : (m n.toLinkNode).1.LinkIds)
    (hmoves : ∀ a, AutoReconnects SecretKey PublicKey peerConfigs a →
      ∃ es, (m n.toLinkNode).1.effects = n.effects ++ es ∧
        ((m n.toLinkNode).1.Attends a ∨
          es.foldl (LinkNode.followRetry a) (n.retryPending.lookup a).isSome = true)) :
    Cared peerConfigs (onHandshake nowMs m n).1 := by
  unfold onHandshake
  dsimp only
  let handled : RetryNode SecretKey PublicKey ν μ := { n with toLinkNode := (m n.toLinkNode).1 }
  let es := (m n.toLinkNode).1.effects.drop n.effects.length
  have hspec : ∀ a, _ := fun a =>
    followHandshakes_spec (n := handled) (a := a) nowMs es h.reconnecting (agrees_congr rfl h.agrees)
  obtain ⟨hlink, hconfigs, hretry, hrec, -⟩ := hspec n.identity.nodeAddr
  refine ⟨hconfigs.trans h.configs, hretry.symm ▸ h.retries, agrees_congr hconfigs h.agrees,
    hlink.symm ▸ hids, hrec, fun a ha => ?_⟩
  obtain ⟨es', heffects, hkept⟩ := hmoves a ha
  have hes : es = es' := by
    change (m n.toLinkNode).1.effects.drop n.effects.length = es'
    rw [heffects, List.drop_left]
  refine hkept.imp (fun hattends => ?_) fun hretried => ?_
  · rw [hlink]
    exact hattends
  · rw [(hspec a).2.2.2.2 (h.configs.symm ▸ ha), hes]
    exact hretried

/-- A peer that calls us is attended to by its own link, whatever it replaces. -/
theorem cared_handleMsg1 (h : n.Cared peerConfigs) (env : LinkEnv SecretKey)
    (packet : ReceivedPacket) [Mmp ν] :
    Cared peerConfigs (onHandshake env.nowMs (LinkNode.handleMsg1 env packet) n).1 := by
  have hmoved : ∀ a, LinkNode.Moves a n.toLinkNode (LinkNode.handleMsg1 env packet n.toLinkNode).1 :=
    fun a => LinkNode.handleMsg1_handsOver env h.ids packet
  refine cared_onHandshake h env.nowMs (hmoved n.identity.nodeAddr).1 fun a ha => ?_
  obtain ⟨-, es, heffects, hkept⟩ := hmoved a
  exact ⟨es, heffects, hkept _ (h.covered a ha)⟩

/-- An answer that cannot be taken in for want of room is the one case in which nobody is left in
charge. -/
theorem cared_handleMsg2 [Mmp ν] (h : n.Cared peerConfigs) (env : LinkEnv SecretKey)
    (packet : ReceivedPacket)
    (hroom : ∀ l a, AutoReconnects SecretKey PublicKey peerConfigs a →
      LinkNode.OutOfRoom packet n.toLinkNode l a →
      Covered { n with toLinkNode := n.toLinkNode.without l } a) :
    Cared peerConfigs (onHandshake env.nowMs (LinkNode.handleMsg2 env packet) n).1 := by
  have hmoved := fun a => LinkNode.handleMsg2_handsOver (a := a) env h.ids packet
  refine cared_onHandshake h env.nowMs ?_ fun a ha => ?_
  · rcases hmoved n.identity.nodeAddr with hkept | ⟨l, -, hdropped⟩
    · exact hkept.1
    · exact hdropped.1
  · rcases hmoved a with ⟨-, es, heffects, hkept⟩ | ⟨l, hfull, -, es, heffects, hkept⟩
    · exact ⟨es, heffects, hkept _ (h.covered a ha)⟩
    · exact ⟨es, heffects, hkept _ (hroom l a ha hfull)⟩

omit [HkdfSha256] [ChaCha20Poly1305] [NpubDecoder PublicKey] in
/-- What the data plane does is seen in the peers alone. -/
theorem onNode_link {α : Type} (m : Node.M SecretKey PublicKey ν μ ε α)
    (k : LinkNode SecretKey PublicKey ν μ) (hk : k.LinkIds) :
    let k' := (LinkNode.onNode m k).1
    k'.LinkIds ∧ k'.effects = (m k.toNode).1.effects ∧ (∀ a, k'.Pursues a ↔ k.Pursues a) ∧
      ∀ a, k'.peers.lookup a = (m k.toNode).1.peers.lookup a := by
  obtain ⟨links, addrToLink, heq⟩ := LinkNode.onNode_eq m k
  rw [heq]
  exact ⟨hk.congr (fun _ => rfl) rfl rfl, rfl, fun _ => Iff.rfl, fun _ => rfl⟩

/-- A frame that disconnects a peer has it reconnected to. -/
theorem cared_handleEncryptedFrame [Mmp ν] [SessionMmp μ] (Signature : Type)
    [SchnorrSignature Signature] (h : n.Cared peerConfigs) (env : Env SecretKey)
    (packet : ReceivedPacket)
    (hasked : ∀ a, AutoReconnects SecretKey PublicKey peerConfigs a →
      Node.Disconnects env packet n.toNode a →
      n.Pursues a ∨ (n.retryPending.lookup a).isSome = true) :
    Cared peerConfigs (onNode env.nowMs (Node.handleEncryptedFrame env Signature packet) n).1 := by
  unfold onNode
  dsimp only
  obtain ⟨hids, heffects, hpursues, hpeers⟩ :=
    onNode_link (Node.handleEncryptedFrame env Signature packet) n.toLinkNode h.ids
  let handled : RetryNode SecretKey PublicKey ν μ := { n with
    toLinkNode :=
      (LinkNode.onNode (Node.handleEncryptedFrame env Signature packet) n.toLinkNode).1 }
  let es := handled.effects.drop n.effects.length
  have hstep := retries_followFrames (n := handled) env.nowMs es
  have hagrees : handled.Agrees := agrees_congr rfl h.agrees
  refine ⟨hstep.peerConfigs.trans h.configs, hstep.retryConfig.symm ▸ h.retries,
    agrees_congr hstep.peerConfigs hagrees, hstep.link.symm ▸ hids,
    hstep.reconnecting h.reconnecting, fun a ha => ?_⟩
  have hactive : handled.Attends a →
      ((es.foldl (followFrame env.nowMs) handled).toLinkNode).Attends a := fun hattends => by
    rw [hstep.link]
    exact hattends
  have hretry : (n.retryPending.lookup a).isSome = true →
      ((es.foldl (followFrame env.nowMs) handled).retryPending.lookup a).isSome = true :=
    hstep.kept h.reconnecting a
  rcases h.covered a ha with (hpeer | hpursued) | hretried
  · rcases Node.handleEncryptedFrame_asks env Signature hpeer with (hkept | ⟨es', hes', hmem⟩) | hdisc
    · exact .inl (hactive (.inl ((congrArg Option.isSome (hpeers a)).trans hkept)))
    · refine .inr (isSome_followFrames env.nowMs h.reconnecting hagrees (h.configs.symm ▸ ha) ?_)
      change .scheduleReconnect a ∈ handled.effects.drop n.effects.length
      rw [show handled.effects = n.effects ++ es' from heffects.trans hes', List.drop_left]
      exact hmem
    · exact (hasked a ha hdisc).imp (fun hpursued => hactive (.inr ((hpursues a).mpr hpursued))) hretry
  · exact .inl (hactive (.inr ((hpursues a).mpr hpursued)))
  · exact .inr (hretry hretried)

/-! ### The step -/

variable [Mmp ν] [SessionMmp μ]

/-- The event takes none of the paths on which a peer is dropped without a word to the retries. -/
def KeepsPeers (peerConfigs : List PeerConfig) (n : RetryNode SecretKey PublicKey ν μ) :
    RetryEvent SecretKey PublicKey ν μ → Prop
  | .pollPendingConnects env state =>
    Along (finishConnect env) (Finishes peerConfigs env) n
      (pollPendingConnects.completedConnects state n.pendingConnects)
  | .handleMsg2 _ packet => ∀ l a, AutoReconnects SecretKey PublicKey peerConfigs a →
      LinkNode.OutOfRoom packet n.toLinkNode l a →
      Covered { n with toLinkNode := n.toLinkNode.without l } a
  | .handleEncryptedFrame env packet => ∀ a, AutoReconnects SecretKey PublicKey peerConfigs a →
      Node.Disconnects env packet n.toNode a →
      n.Pursues a ∨ (n.retryPending.lookup a).isSome = true
  | _ => True

/-- **The step**: an event outside these paths leaves no peer out. -/
theorem cared_step (Signature : Type) [SchnorrSignature Signature] (h : n.Cared peerConfigs)
    (e : RetryEvent SecretKey PublicKey ν μ) (hkeeps : n.KeepsPeers peerConfigs e) :
    Cared peerConfigs (n.step Signature e) := by
  cases e with
  | connect env pc => exact cared_initiatePeerConnection h env pc
  | discover env hconsistent transportId remoteAddr peerIdentity =>
    exact h.onAttempt (attempted_initiateConnection h.ids hconsistent transportId remoteAddr peerIdentity)
  | checkTimeouts nowMs => exact cared_checkTimeouts h nowMs
  | pollPendingConnects env state => exact cared_pollPendingConnects h env state hkeeps
  | resendPendingHandshakes env => exact cared_resendPendingHandshakes h env
  | processPendingRetries nowMs env => exact cared_processPendingRetries h nowMs env
  | removeDeadPeers nowMs isDead => exact cared_removeDeadPeers h nowMs isDead
  | handleMsg1 env packet => exact cared_handleMsg1 h env packet
  | handleMsg2 env packet => exact cared_handleMsg2 h env packet hkeeps
  | handleEncryptedFrame env packet => exact cared_handleEncryptedFrame Signature h env packet hkeeps
  | checkRekey now env =>
    exact h.onView (LinkNode.framesPursuit_checkRekey (ε := Unit) now env n.toLinkNode)
  | resendRekey env addr =>
    exact h.onView (LinkNode.framesPursuit_resendRekey (ε := Unit) env addr n.toLinkNode)
  | dataPlane m hframes =>
    obtain ⟨hids, -, hpursues, hpeers⟩ := onNode_link m n.toLinkNode h.ids
    refine h.onLink hids fun a ha => (h.covered a ha).imp_left fun hattends => ?_
    refine hattends.imp (fun hactive => ?_) (hpursues a).mpr
    rw [hpeers a, show (m n.toNode).1.peers = n.peers from congrArg Prod.fst (hframes n.toNode)]
    exact hactive

/-! ## Start -/

/-- Everything the node has under way is its own. -/
structure Starting (peerConfigs : List PeerConfig) (n : RetryNode SecretKey PublicKey ν μ) :
    Prop where
  configs : n.peerConfigs = peerConfigs
  retries : 0 < n.retryConfig.maxRetries
  ids : n.LinkIds
  empty : n.retryPending = ∅
  outbound : ∀ l c, n.connections.lookup l = some c → c.isOutbound = true

omit [HkdfSha256] [ChaCha20Poly1305] [NpubDecoder PublicKey] [Mmp ν] [SessionMmp μ] in
/-- Where all connections are outbound, one that is under way pursues its peer. -/
theorem pursues_of_isConnecting {n : LinkNode SecretKey PublicKey ν μ}
    (hout : ∀ l c, n.connections.lookup l = some c → c.isOutbound = true)
    (h : n.isConnecting a = true) : n.Pursues a := by
  obtain ⟨e, he, hidentity⟩ := List.any_eq_true.mp h
  obtain ⟨identity, hsome, haddr⟩ := (Option.any_eq_true _ _).mp hidentity
  have hlookup : n.connections.lookup e.1 = some e.2 := Map.mem_entries_iff.mp he
  exact .inl ⟨e.1, e.2, hlookup, hout e.1 e.2 hlookup, identity, hsome, eq_of_beq haddr⟩

omit [Mmp ν] [SessionMmp μ] in
/-- One peer of the start. -/
theorem startPeer_spec (h : n.Starting peerConfigs) (env : Nat → ConnectEnv SecretKey)
    (p : PeerConfig × Nat) :
    (startPeer env n p).Starting peerConfigs ∧
      (∀ a, n.Attends a → (startPeer env n p).Attends a) ∧
      ∀ a, p.1.nodeAddr SecretKey PublicKey = some a → n.CanConnect (env p.2) p.1 →
        (startPeer env n p).Attends a := by
  let P := fun n' : LinkNode SecretKey PublicKey ν μ => LinkNode.Attempted n.toLinkNode n' ∧
    ∀ a, p.1.nodeAddr SecretKey PublicKey = some a → n.CanConnect (env p.2) p.1 → n'.Attends a
  have hstarted : P (LinkNode.initiatePeerConnection (env p.2) p.1 n.toLinkNode).1 := by
    refine fst_of_wp (P := P) (wp_mono (fun _ n' hdone => ?_) (fun _ n' hfailed => ?_)
      (LinkNode.wp_initiatePeerConnection_pursues (env p.2) p.1 h.ids))
    · refine ⟨hdone.1, fun a ha _ => ?_⟩
      rcases hdone.2 a ha with hattends | hconnecting
      · exact hattends
      · exact hdone.1.kept a (.inr (pursues_of_isConnecting h.outbound hconnecting))
    · exact ⟨hfailed.1, fun a _ hcan => absurd hcan hfailed.2⟩
  obtain ⟨hattempt, hattends⟩ := hstarted
  refine ⟨⟨h.configs, h.retries, hattempt.ids, h.empty, fun l c hc => ?_⟩, hattempt.kept, hattends⟩
  rcases hattempt.outbound l c hc with hold | hout
  · exact h.outbound l c hold
  · exact hout

omit [Mmp ν] [SessionMmp μ] in
theorem startPeers_spec (h : n.Starting peerConfigs) (env : Nat → ConnectEnv SecretKey)
    (ps : List (PeerConfig × Nat)) :
    (exec (startPeer env) n ps).Starting peerConfigs ∧
      ∀ a, n.Attends a → (exec (startPeer env) n ps).Attends a := by
  induction ps generalizing n with
  | nil => exact ⟨h, fun _ ha => ha⟩
  | cons p ps ih =>
    obtain ⟨hstarting, hkept, -⟩ := startPeer_spec h env p
    obtain ⟨hrest, hkept'⟩ := ih hstarting
    exact ⟨hrest, fun a ha => hkept' a (hkept a ha)⟩

/-- At start-up, every peer to be reconnected can be tried when its turn comes. -/
def StartsAll (env : Nat → ConnectEnv SecretKey) (n : RetryNode SecretKey PublicKey ν μ) : Prop :=
  ∀ a, AutoReconnects SecretKey PublicKey n.peerConfigs a →
    ∃ pre p post, n.autoConnectPeers.zipIdx = pre ++ p :: post ∧
      p.1.nodeAddr SecretKey PublicKey = some a ∧
      (exec (startPeer env) n.seedIdentities pre).CanConnect (env p.2) p.1

omit [Mmp ν] [SessionMmp μ] in
/-- **The start** leaves no peer out that could be tried. -/
theorem cared_initiatePeerConnections (h : n.Starting peerConfigs) (hagrees : n.Agrees)
    (env : Nat → ConnectEnv SecretKey) (hstarts : n.StartsAll env) :
    Cared peerConfigs (n.initiatePeerConnections env) := by
  have hseeded : n.seedIdentities.Starting peerConfigs :=
    ⟨h.configs, h.retries, h.ids.congr (fun _ => rfl) rfl rfl, h.empty, h.outbound⟩
  unfold initiatePeerConnections
  obtain ⟨hdone, -⟩ := startPeers_spec hseeded env n.autoConnectPeers.zipIdx
  refine ⟨hdone.configs, hdone.retries, agrees_congr (hdone.configs.trans h.configs.symm) hagrees,
    hdone.ids, fun a state hstate => ?_, fun a ha => .inl ?_⟩
  · rw [hdone.empty] at hstate
    cases hstate
  · obtain ⟨pre, p, post, hsplit, haddr, hcan⟩ := hstarts a (h.configs.symm ▸ ha)
    rw [hsplit, exec_append, exec_cons]
    obtain ⟨hbefore, -⟩ := startPeers_spec hseeded env pre
    obtain ⟨hstarting, -, hattends⟩ := startPeer_spec hbefore env p
    exact (startPeers_spec hstarting env post).2 a (hattends a haddr hcan)

/-! ## Runs -/

/-- **No peer is abandoned** in a run in which every peer could be tried at the start and no event
takes a path that forgets one. -/
theorem covered_of_keepsPeers (Signature : Type) [SchnorrSignature Signature]
    (identity : Identity SecretKey) (startupEpoch : Epoch) (config : NodeConfig) (maxPeers : Nat)
    (peerConfigs : List PeerConfig) (retryConfig : RetryConfig)
    (hretries : 0 < retryConfig.maxRetries) (env : Nat → ConnectEnv SecretKey)
    (es : List (RetryEvent SecretKey PublicKey ν μ)) :
    let n₀ : RetryNode SecretKey PublicKey ν μ :=
      RetryNode.new identity startupEpoch config maxPeers peerConfigs retryConfig
    n₀.Agrees → n₀.StartsAll env →
      Along (step Signature) (KeepsPeers peerConfigs) (n₀.initiatePeerConnections env) es →
      Always (step Signature)
        (fun n => ∀ a, AutoReconnects SecretKey PublicKey peerConfigs a → n.Covered a)
        (n₀.initiatePeerConnections env) es := by
  intro n₀ hagrees hstarts hkeeps
  have hids : n₀.LinkIds :=
    ⟨fun _ _ hc => (by cases hc), fun _ _ => rfl, fun _ hpc => (by cases hpc), List.nodup_nil⟩
  have hstarting : n₀.Starting peerConfigs :=
    ⟨rfl, hretries, hids, rfl, fun _ _ hc => (by cases hc)⟩
  have hcared := cared_initiatePeerConnections hstarting hagrees env hstarts
  have hall : Always (step Signature) (Cared peerConfigs) (n₀.initiatePeerConnections env) es :=
    .of_along (fun _ e hn he => cared_step Signature hn e he) hcared hkeeps
  exact hall.mono fun n hn => hn.covered

end Events

end RetryNode

namespace Sample

/-- One name is known. -/
scoped instance : NpubDecoder Point :=
  ⟨fun npub => if npub = "npub1" then some (peerIdentity 5) else none⟩

/-- A peer to connect to by itself, over UDP. -/
def peerConfig : PeerConfig := ⟨"npub1", [⟨"udp", "10.0.0.5", 0⟩], .autoConnect, true⟩

/-- The defaults of the retry configuration. -/
def retryConfig : RetryConfig := ⟨5, 5, 300⟩

/-- A node with one configured peer. -/
def retryNode : RetryNode Scalar Point Unit Unit :=
  RetryNode.new (identity 1) (epoch 1) config 0 [peerConfig] retryConfig

/-- The outside of an attempt to connect that finds the transport of an address or does not. -/
def connectEnv (transport : Option TransportId) : ConnectEnv Scalar where
  resolve _ := transport.map fun tid => (tid, [])
  link _ := linkEnv 0 9 17
  consistent := fun _ _ _ h => absurd h Bool.false_ne_true

/-- What an event needs of the sample run. -/
theorem autoReconnects_peerConfig {a : NodeAddr} (h : AutoReconnects Scalar Point [peerConfig] a) :
    a = (peerIdentity 5).nodeAddr Scalar := by
  obtain ⟨pc, hpc, -, -, haddr⟩ := h
  rw [List.mem_singleton.mp hpc] at haddr
  exact (Option.some.inj haddr).symm

end Sample

open Sample in
/-- A peer whose handshake times out is retried. -/
theorem covered_of_keepsPeers_timeout :
    0 < retryConfig.maxRetries ∧ Always (RetryNode.step Unit)
      (fun n => ∀ a, AutoReconnects Scalar Point [peerConfig] a → n.Covered a)
      (retryNode.initiatePeerConnections fun _ => connectEnv (some 0)) [.checkTimeouts 40000] := by
  refine ⟨by decide, ?_⟩
  refine RetryNode.covered_of_keepsPeers Unit (identity 1) (epoch 1) config 0 [peerConfig] retryConfig
    (by decide) (fun _ => connectEnv (some 0)) [.checkTimeouts 40000] ?_ ?_ ?_
  · intro a pc _ hpc
    exact (List.mem_singleton.mp (List.mem_filter.mp (List.mem_of_find?_eq_some hpc)).1).symm ▸ rfl
  · intro a ha
    refine ⟨[], (peerConfig, 0), [], rfl, ?_, peerIdentity 5, 0, ⟨"udp", "10.0.0.5", 0⟩, 0, [], rfl, rfl,
      rfl, ?_⟩
    · rw [autoReconnects_peerConfig ha]
      rfl
    · exact ⟨by decide, _, rfl⟩
  · exact ⟨trivial, trivial⟩

open Sample in
/-- A start at which no address of the peer can be used leaves nothing that would try again. -/
theorem startUp_forgets :
    ∃ a, AutoReconnects Scalar Point [peerConfig] a ∧ 0 < retryConfig.maxRetries ∧
      ¬(retryNode.initiatePeerConnections fun _ => connectEnv none).Covered a := by
  refine ⟨(peerIdentity 5).nodeAddr Scalar, ⟨peerConfig, List.mem_singleton_self _, rfl, rfl, rfl⟩,
    by decide, ?_⟩
  rintro ((hactive | ⟨l, c, hc, -⟩ | ⟨pc, hpc, -⟩) | hretry)
  · cases hactive
  · cases hc
  · cases hpc
  · cases hretry

end Fips
