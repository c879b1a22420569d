import Fips.Node.Pursuit
import Fips.Node.QueueOwners

/-!
# Handing peers over

The handlers of link messages and the rekey ticks against `HandsOver`: what they drop becomes active
or is handed to the retries. Two exits drop a peer without that: msg2 of a handshake of our own where
the table of peers is full, and the disconnect of a peer.

## Results

* `handleMsg1_handsOver`: msg1 loses no peer.
* `handleMsg2_handsOver`, `handleEncryptedFrame_handsOver`: msg2 and frames, up to their exits.
-/

open Checked

namespace Fips

namespace LinkNode

variable {SecretKey PublicKey ν μ : Type} {ε : Type}

/-! ## What leaves everything in hand -/

section Quiet

/-- The method leaves alone what shows that a peer is pursued. -/
abbrev FramesPursuit {α : Type} (m : M SecretKey PublicKey ν μ ε α) : Prop := Frames pursuitView m

variable (env : LinkEnv SecretKey)

theorem framesPursuit_allocate :
    FramesPursuit (allocate env : M SecretKey PublicKey ν μ IndexError SessionIndex) :=
  (frames_read _).bind fun _ => (frames_orElse _ _).bind fun _ =>
    Frames.bind (fun _ => rfl) fun _ => frames_pure _

theorem framesPursuit_transmit (transportId : TransportId) (remoteAddr : TransportAddr)
    (data : Bytes) :
    FramesPursuit (transmit env transportId remoteAddr data : M SecretKey PublicKey ν μ ε Bool) := by
  unfold transmit
  cases env.send transportId remoteAddr data with
  | sent => exact Frames.bind (fun _ => rfl) fun _ => frames_pure _
  | failed => exact frames_pure _
  | noTransport => exact frames_pure _

theorem framesPursuit_resendMsg2 (packet : ReceivedPacket) (msg2 : Option Bytes) :
    FramesPursuit (resendMsg2 env packet msg2 : M SecretKey PublicKey ν μ ε Unit) := by
  cases msg2 with
  | none => exact frames_pure _
  | some msg2 => exact (framesPursuit_transmit env _ _ _).bind fun _ => frames_pure _

/-- A change of a peer leaves it a peer. -/
theorem framesPursuit_modifyPeer (addr : NodeAddr)
    (f : ActivePeer SecretKey PublicKey ν → ActivePeer SecretKey PublicKey ν) :
    FramesPursuit (modifyPeer addr f : M SecretKey PublicKey ν μ ε Unit) := fun n =>
  pursuitView_eq (fun b => isSome_lookup_modify n.peers addr b f) (fun _ => rfl) rfl rfl rfl

/-- A peer that is there is written back. -/
theorem pursuitView_putPeer {n : LinkNode SecretKey PublicKey ν μ} {a : NodeAddr}
    {p : ActivePeer SecretKey PublicKey ν} (hp : n.peers.lookup a = some p)
    (q : ActivePeer SecretKey PublicKey ν) :
    pursuitView { n with peers := n.peers.insert a q } = n.pursuitView :=
  pursuitView_eq (isSome_lookup_insert hp q) (fun _ => rfl) rfl rfl rfl

/-- A link that is gone takes no connection and no peer with it. -/
theorem pursuitView_removeLink (l : LinkId) (n : LinkNode SecretKey PublicKey ν μ) :
    (n.removeLink l).pursuitView = n.pursuitView := by
  obtain ⟨links, addrToLink, heq⟩ := removeLink_eq l n
  rw [heq]
  rfl

theorem framesPursuit_abandonRekey (addr : NodeAddr) :
    FramesPursuit (abandonRekey addr : M SecretKey PublicKey ν μ ε Unit) := by
  refine frames_write fun n => ?_
  cases hp : n.peers.lookup addr with
  | none => rfl
  | some peer =>
    refine Eq.trans ?_ (pursuitView_putPeer hp peer.abandonRekey.1)
    dsimp only
    cases peer.abandonRekey.2 with
    | none => rfl
    | some idx =>
      dsimp only
      cases peer.transportId <;> rfl

theorem framesPursuit_yieldRekey (addr : NodeAddr) (peer : ActivePeer SecretKey PublicKey ν) :
    FramesPursuit (yieldRekey addr peer : M SecretKey PublicKey ν μ ε Unit) := by
  refine (framesPursuit_abandonRekey addr).bind fun _ => ?_
  split
  · exact fun _ => rfl
  · exact frames_pure _

/-- Between peers a session may be exchanged for another. -/
theorem framesPursuit_swapSession (addr : NodeAddr) (session : NoiseSession PublicKey)
    (ourIndex theirIndex : SessionIndex) :
    FramesPursuit (swapSession addr session ourIndex theirIndex :
      Handler SecretKey PublicKey ν μ Unit) := by
  refine frames_of_keeps fun v => keeps_iff.mpr fun n hn => ?_
  unfold swapSession
  rw [wp_bind_iff, wp_read_iff]
  cases hp : n.peers.lookup addr with
  | none => exact hn
  | some peer =>
    let replaced := (peer.replaceSession session ourIndex theirIndex).1
    have hput := (pursuitView_putPeer hp replaced).trans hn
    rw [wp_bind_iff, wp_write_iff, wp_bind_iff, wp_expect_iff]
    refine ⟨fun tid _ => ?_, fun _ => hput⟩
    cases (peer.replaceSession session ourIndex theirIndex).2 with
    | none => exact hput
    | some oldIdx => exact hput

section Rekeys

theorem framesPursuit_onPeer {α : Type} (addr : NodeAddr)
    (m : Method (ActivePeer SecretKey PublicKey ν) ε α) :
    FramesPursuit (onPeer addr m : M SecretKey PublicKey ν μ ε α) := by
  intro n
  unfold onPeer
  cases hp : n.peers.lookup addr with
  | none => rfl
  | some peer => exact pursuitView_putPeer hp (m peer).1

variable [Sha256] [HkdfSha256] [ChaCha20Poly1305] [Secp256k1 SecretKey PublicKey]

/-- A rekey is between peers. -/
theorem framesPursuit_completeRekey (header : Msg2Header) (noiseMsg2 : Bytes) (addr : NodeAddr) :
    FramesPursuit (completeRekey header noiseMsg2 addr : Handler SecretKey PublicKey ν μ Unit) := by
  refine (framesPursuit_onPeer addr _).attempt.bind fun completed => ?_
  cases completed with
  | error e => exact framesPursuit_abandonRekey addr
  | ok session =>
    refine frames_write fun n => ?_
    cases hp : n.peers.lookup addr with
    | none => rfl
    | some peer =>
      let ourIndex := peer.rekeyOurIndex.getD header.receiverIdx
      refine Eq.trans ?_
        (pursuitView_putPeer hp (peer.setPendingSession session ourIndex header.senderIdx))
      dsimp only
      cases peer.transportId <;> rfl

theorem framesPursuit_initiateRekey (addr : NodeAddr) :
    FramesPursuit (initiateRekey env addr : M SecretKey PublicKey ν μ ε Unit) := by
  refine Frames.body <| (frames_read _).bind fun _ => (frames_orElse _ _).bind fun peer =>
    (frames_orElse _ _).bind fun tid => (frames_orElse _ _).bind fun remote =>
    (frames_read _).bind fun _ => (frames_orElse _ _).bind fun pubkey =>
    (framesPursuit_allocate env).attempt.bind fun allocated => ?_
  cases allocated with
  | error e => exact frames_pure _
  | ok ourIndex =>
    refine (frames_read _).bind fun n => (frames_pureCall _).attempt.bind fun written => ?_
    cases written with
    | error e => exact fun _ => rfl
    | ok r =>
      refine (framesPursuit_transmit env _ _ _).bind fun sent => Frames.ite (fun _ => rfl) ?_
      exact (framesPursuit_modifyPeer addr _).bind fun _ => fun _ => rfl

theorem framesPursuit_initiateRekeys (env : NodeAddr → LinkEnv SecretKey) (addrs : List NodeAddr) :
    FramesPursuit (initiateRekeys env addrs : M SecretKey PublicKey ν μ ε Unit) := by
  induction addrs with
  | nil => exact frames_pure ()
  | cons addr addrs ih => exact (framesPursuit_initiateRekey (env addr) addr).bind fun _ => ih

variable [Mmp ν]

theorem framesPursuit_checkRekey (now : Nat) (env : NodeAddr → LinkEnv SecretKey) :
    FramesPursuit (checkRekey now env : M SecretKey PublicKey ν μ ε Unit) := by
  refine (frames_read _).bind fun n => Frames.ite ?_ (frames_pure _)
  refine Frames.bind (frames_write fun m => ?_) fun _ =>
    Frames.bind (frames_write fun m => ?_) fun _ => framesPursuit_initiateRekeys env _
  · refine EventRun.exec_frames pursuitView fun m addr _ => ?_
    exact framesPursuit_modifyPeer (ε := Unit) addr _ m
  · refine EventRun.exec_frames pursuitView fun m addr _ => ?_
    unfold drain
    cases hp : m.peers.lookup addr with
    | none => rfl
    | some peer =>
      refine Eq.trans ?_ (pursuitView_putPeer hp peer.completeDrain.1)
      dsimp only
      cases peer.completeDrain.2 with
      | none => rfl
      | some oldIdx =>
        dsimp only
        cases peer.completeDrain.1.transportId <;> rfl

end Rekeys

theorem framesPursuit_resendRekey (addr : NodeAddr) :
    FramesPursuit (resendRekey env addr : M SecretKey PublicKey ν μ ε Unit) := by
  refine Frames.body <| (frames_read _).bind fun _ => (frames_orElse _ _).bind fun peer =>
    (frames_read _).bind fun config => Frames.ite (frames_stop _) ?_
  refine (frames_orElse _ _).bind fun msg1 => (frames_orElse _ _).bind fun tid =>
    (frames_orElse _ _).bind fun remote => ?_
  cases env.send tid remote msg1 with
  | sent => exact Frames.bind (fun _ => rfl) fun _ => framesPursuit_modifyPeer addr _
  | failed => exact frames_pure _
  | noTransport => exact frames_pure _

end Quiet

/-! ## Promotion -/

section Promotion

variable [Sha256] [Secp256k1 SecretKey PublicKey]
variable {n n' : LinkNode SecretKey PublicKey ν μ} {a : NodeAddr} {l : LinkId}
  {c : PeerConnection SecretKey PublicKey}

/-- The connection is gone. -/
def without (n : LinkNode SecretKey PublicKey ν μ) (l : LinkId) : LinkNode SecretKey PublicKey ν μ :=
  { n with connections := n.connections.erase l }

/-- There is no room for another peer. -/
def Full (n : LinkNode SecretKey PublicKey ν μ) : Prop :=
  0 < n.maxPeers ∧ n.maxPeers ≤ n.peers.entries.length

/-- A step that a handler may take. -/
def Moves (a : NodeAddr) (n n' : LinkNode SecretKey PublicKey ν μ) : Prop :=
  n'.LinkIds ∧ HandsOver a n n'

/-- A step that leaves the view moves nobody. -/
theorem moves_of_view (h : n.LinkIds) (hview : n'.pursuitView = n.pursuitView) : Moves a n n' :=
  ⟨h.of_pursuitView hview, handsOver_of_view (pursuitView_iff.mp hview).1⟩

theorem Moves.trans {n'' : LinkNode SecretKey PublicKey ν μ} (h : Moves a n n')
    (h' : Moves a n' n'') : Moves a n n'' := ⟨h'.1, h.2.trans h'.2⟩

theorem Moves.of_frames {α : Type} {m : M SecretKey PublicKey ν μ ε α} (hm : FramesPursuit m)
    (h : Moves a n n') : wp m (fun _ => Moves a n) (fun _ => Moves a n) n' :=
  wp_of_fst (h.trans (moves_of_view h.1 (hm n')))

/-- Another connection than the one that is gone. -/
theorem Pursues.without (h : n.Pursues a) (hc : n.connections.lookup l = some c)
    (hleads : ¬LeadsTo c a) : (n.without l).Pursues a := by
  refine h.mono (fun l' c' hc' hleads' => ⟨l', c', ?_, hleads'⟩) fun _ hpc => hpc
  change (n.connections.erase l).lookup l' = some c'
  rw [Map.lookup_erase', if_neg (fun heq => ?_), hc']
  subst heq
  cases hc.symm.trans hc'
  exact hleads hleads'

/-- A connection to another peer may go. -/
theorem handsOver_without (hc : n.connections.lookup l = some c) (hleads : ¬LeadsTo c a) :
    HandsOver a n (n.without l) :=
  handsOver_of_attends rfl fun ha => ha.imp_right fun hpursues => hpursues.without hc hleads

/-- A connection to a peer that is active anyway. -/
theorem handsOver_drop {addr : NodeAddr} (hc : n.connections.lookup l = some c)
    (hexpected : ∀ b, LeadsTo c b → b = addr) (hactive : (n.peers.lookup addr).isSome = true) :
    HandsOver a n (n.without l) := by
  by_cases hleads : LeadsTo c a
  · refine handsOver_of_attends rfl fun _ => .inl ?_
    rw [hexpected a hleads]
    exact hactive
  · exact handsOver_without hc hleads

variable [Mmp ν] {p : Promotion PublicKey} {identity : PeerIdentity PublicKey}

/-- The peer of a connection is active from now on. -/
theorem wp_insertPeer_moves (h : n.LinkIds) (hc : n.connections.lookup l = some c)
    (hexpected : ∀ b, LeadsTo c b → b = identity.nodeAddr SecretKey) (currentTimeMs now : Nat)
    {m : LinkNode SecretKey PublicKey ν μ} (hview : m.nextLinkId = n.nextLinkId)
    (hconnections : m.connections = n.connections.erase l)
    (hwaiting : m.pendingConnects = n.pendingConnects) (heffects : m.effects = n.effects)
    (hpeers : ∀ b, b ≠ identity.nodeAddr SecretKey →
      (m.peers.lookup b).isSome = (n.peers.lookup b).isSome) :
    wp (insertPeer l identity currentTimeMs now p : M SecretKey PublicKey ν μ ε Unit)
      (fun _ => Moves a n) (fun _ _ => False) m := by
  unfold insertPeer emit
  rw [wp_bind_iff, wp_write_iff, wp_write_iff]
  have hids : (n.without l).LinkIds := h.eraseConnection l
  refine ⟨hids.congr (fun l' => ?_) hview hwaiting, ⟨[.registerIdentity (identity.nodeAddr SecretKey)
    identity.pubkeyFull], ?_, fun b hb => ?_⟩⟩
  · exact congrArg (AList.lookup l') hconnections
  · exact congrArg (· ++ _) heffects
  · by_cases ha : identity.nodeAddr SecretKey = a
    · refine .inl (.inl ?_)
      subst ha
      exact Option.isSome_iff_exists.mpr ⟨_, AList.lookup_insert _⟩
    · refine hb.imp (fun hattends => ?_) fun hb => ?_
      · refine hattends.imp (fun hactive => ?_) fun hpursues => ?_
        · change ((AList.insert _ _ m.peers).lookup a).isSome = true
          rw [Map.lookup_insert', if_neg (Ne.symm ha), hpeers a (Ne.symm ha)]
          exact hactive
        · have hrest := hpursues.without hc fun hleads => ha (hexpected a hleads).symm
          refine hrest.mono (fun l' c' hc' hleads => ⟨l', c', ?_, hleads⟩) fun pc hpc => hwaiting ▸ hpc
          exact (congrArg (AList.lookup l') hconnections).trans hc'
      · simp only [List.foldl_cons, List.foldl_nil, followRetry, if_neg ha]
        exact hb

/-- **Promotion**: the peer of the connection is active, or there was no room for it. -/
theorem wp_promoteConnection_moves (h : n.LinkIds) (hc : n.connections.lookup l = some c)
    (hp : extractPromotion l c = .ok p)
    (hexpected : ∀ b, LeadsTo c b → b = identity.nodeAddr SecretKey) (currentTimeMs now : Nat) :
    wp (promoteConnection l identity currentTimeMs now) (fun _ => Moves a n)
      (fun _ n' => n.peers.lookup (identity.nodeAddr SecretKey) = none ∧ n.Full ∧
        Moves a (n.without l) n') n := by
  have hids : (n.without l).LinkIds := h.eraseConnection l
  unfold promoteConnection dropConnection
  rw [wp_bind_iff, wp_read_iff, hc, wp_bind_iff, wp_orElse_some, wp_bind_iff, wp_write_iff, hp,
    wp_bind_iff, wp_pureCall_iff]
  refine ⟨fun p' hp' => ?_, fun e he => by cases he⟩
  cases hp'
  rw [wp_bind_iff, wp_read_iff]
  cases hpeer : n.peers.lookup (identity.nodeAddr SecretKey) with
  | some existing =>
    simp only [wp_bind_iff, wp_read_iff]
    split_ifs with hwins
    · have hinsert : ∀ m : LinkNode SecretKey PublicKey ν μ, m.nextLinkId = n.nextLinkId →
          m.connections = n.connections.erase l → m.pendingConnects = n.pendingConnects →
          m.effects = n.effects → m.peers = n.peers.erase (identity.nodeAddr SecretKey) →
          wp (insertPeer l identity currentTimeMs now p : M SecretKey PublicKey ν μ LinkError Unit)
            (fun _ => Moves a n) (fun _ _ => False) m := by
        intro m hnext hconnections hwaiting heffects hpeers
        refine wp_insertPeer_moves h hc hexpected currentTimeMs now hnext hconnections hwaiting
          heffects fun b hb => ?_
        rw [hpeers, Map.lookup_erase', if_neg hb]
      unfold replacePeer
      rw [wp_bind_iff, wp_bind_iff, wp_write_iff]
      split
      · rw [wp_write_iff, wp_bind_iff]
        exact wp_mono (fun _ _ hmoved => hmoved) (fun _ _ hF => hF.elim)
          (hinsert _ rfl rfl rfl rfl rfl)
      · rw [wp_pure_iff, wp_bind_iff]
        exact wp_mono (fun _ _ hmoved => hmoved) (fun _ _ hF => hF.elim)
          (hinsert _ rfl rfl rfl rfl rfl)
    · have hactive : (n.peers.lookup (identity.nodeAddr SecretKey)).isSome = true := by
        rw [hpeer]
        rfl
      exact ⟨hids.congr (fun _ => rfl) rfl rfl, (handsOver_drop hc hexpected hactive).trans
        (handsOver_of_view rfl)⟩
  | none =>
    simp only [wp_bind_iff, wp_read_iff]
    split_ifs with hfull
    · obtain ⟨hsome, hle⟩ := Bool.and_eq_true_iff.mp hfull
      exact ⟨trivial, ⟨of_decide_eq_true hsome, of_decide_eq_true hle⟩, moves_of_view hids rfl⟩
    · rw [wp_bind_iff]
      exact wp_mono (fun _ _ hmoved => hmoved) (fun _ _ hF => hF.elim)
        (wp_insertPeer_moves h hc hexpected currentTimeMs now rfl rfl rfl rfl fun _ _ => rfl)

end Promotion

/-! ## Removal -/

section Removal

/-- What a removal says it did changes no retry. -/
theorem effects_removeActivePeer [Sha256] [Secp256k1 SecretKey PublicKey] (addr : NodeAddr)
    (n : Node SecretKey PublicKey ν μ) :
    ∃ es, (Node.removeActivePeer addr n).effects = n.effects ++ es ∧
      ∀ a b, es.foldl (followRetry a) b = b := by
  unfold Node.removeActivePeer
  cases n.peers.lookup addr with
  | none => exact ⟨[], (List.append_nil _).symm, fun _ _ => rfl⟩
  | some peer =>
    refine ⟨[.removeLink peer.linkId, .cleanUpPeer addr], ?_, fun _ _ => rfl⟩
    exact congrArg (· ++ _) (Node.releaseIndices_frames _ peer).2.2

theorem lookup_removeActivePeer_of_ne {addr b : NodeAddr} (hb : b ≠ addr)
    (n : Node SecretKey PublicKey ν μ) :
    (Node.removeActivePeer addr n).peers.lookup b = n.peers.lookup b := by
  cases hp : n.peers.lookup addr with
  | none =>
    unfold Node.removeActivePeer
    rw [hp]
  | some peer => rw [peers_removeActivePeer hp, Map.lookup_erase', if_neg hb]

variable [Sha256] [Secp256k1 SecretKey PublicKey]
variable {n n' : LinkNode SecretKey PublicKey ν μ} {a : NodeAddr}

/-- Who else is attended to stays so. -/
theorem removeActivePeer_attends (addr : NodeAddr) (h : n.LinkIds) :
    let m := (removeActivePeer addr n : _ × Result ε Unit).1
    m.LinkIds ∧ (∀ a, a ≠ addr → n.Attends a → m.Attends a) ∧ (∀ l, n.Unused l → m.Unused l) := by
  obtain ⟨links, addrToLink, heq⟩ :=
    onNode_eq (write (Node.removeActivePeer addr) : Node.M SecretKey PublicKey ν μ ε Unit) n
  unfold removeActivePeer
  rw [heq]
  refine ⟨h.congr (fun _ => rfl) rfl rfl, fun a ha hattends => hattends.imp_left fun hactive => ?_,
    fun l hl => hl.congr (fun _ => rfl) rfl rfl⟩
  change ((Node.removeActivePeer addr n.toNode).peers.lookup a).isSome = true
  rw [lookup_removeActivePeer_of_ne ha]
  exact hactive

/-- A removed peer is handed to the retries where its reconnect is asked for right after. -/
theorem wp_removeActivePeer_moves (addr : NodeAddr) (h : n.LinkIds) :
    wp (removeActivePeer addr : M SecretKey PublicKey ν μ ε Unit)
      (fun _ m => Moves a n { m with effects := m.effects ++ [.scheduleReconnect addr] } ∧
        (∀ l, n.Unused l → m.Unused l) ∧ m.peers.lookup addr = none) (fun _ _ => False) n := by
  obtain ⟨hids, hothers, hunused⟩ := removeActivePeer_attends (ε := ε) addr h
  obtain ⟨links, addrToLink, heq⟩ :=
    onNode_eq (write (Node.removeActivePeer addr) : Node.M SecretKey PublicKey ν μ ε Unit) n
  obtain ⟨es, heffects, hes⟩ := effects_removeActivePeer addr n.toNode
  unfold removeActivePeer at hids hothers hunused
  rw [heq] at hids hothers hunused
  unfold wp removeActivePeer
  rw [heq]
  refine ⟨⟨hids.congr (fun _ => rfl) rfl rfl, es ++ [.scheduleReconnect addr], ?_, fun b hb => ?_⟩,
    hunused, Node.lookup_removeActivePeer addr n.toNode⟩
  · change (Node.removeActivePeer addr n.toNode).effects ++ _ = n.effects ++ (es ++ _)
    rw [heffects, List.append_assoc]
  · rw [List.foldl_append, hes]
    by_cases ha : addr = a
    · exact .inr (by simp [followRetry, ha])
    · refine hb.imp (hothers a (Ne.symm ha)) fun hb => ?_
      simp [followRetry, ha, hb]

end Removal

/-! ## Message 1 -/

section Message1

variable [Sha256] [HkdfSha256] [ChaCha20Poly1305] [Secp256k1 SecretKey PublicKey] [Mmp ν]
variable {n n' : LinkNode SecretKey PublicKey ν μ} {a : NodeAddr} {l : LinkId}
  {conn : PeerConnection SecretKey PublicKey} {identity : PeerIdentity PublicKey}
  (env : LinkEnv SecretKey)

omit [HkdfSha256] [ChaCha20Poly1305] in
/-- An inbound connection leads nowhere. -/
theorem not_leadsTo_inbound (h : conn.direction = .inbound) : ¬LeadsTo conn a := by
  rintro ⟨hout, -⟩
  unfold PeerConnection.isOutbound at hout
  rw [h] at hout
  cases hout

omit [Sha256] [HkdfSha256] [ChaCha20Poly1305] [Secp256k1 SecretKey PublicKey] [Mmp ν] in
/-- A rekey is answered without a connection of its own. -/
theorem wp_respondRekey_view (h : n.Unused conn.linkId) (packet : ReceivedPacket)
    (senderIdx : SessionIndex) (msg2Response : Bytes) (addr : NodeAddr)
    (existingPeer : ActivePeer SecretKey PublicKey ν) :
    wp (respondRekey env packet senderIdx conn msg2Response addr existingPeer)
      (fun _ n' => n'.pursuitView = n.pursuitView) (fun _ n' => n'.pursuitView = n.pursuitView) n := by
  -- the connection was never stored
  have hdiscard : Keeps (fun m => m.pursuitView = n.pursuitView)
      (discard conn.linkId : Handler SecretKey PublicKey ν μ Unit) := by
    refine keeps_write fun m hm => Eq.trans ?_ hm
    refine pursuitView_eq (fun _ => rfl) (fun l' => ?_) rfl rfl rfl
    change (m.connections.erase conn.linkId).lookup l' = m.connections.lookup l'
    rw [Map.lookup_erase']
    split_ifs with heq
    · rw [heq]
      exact (h.of_pursuitView hm).connection.symm
    · rfl
  have hframes : ∀ {ε α : Type} {m : M SecretKey PublicKey ν μ ε α}, FramesPursuit m →
      Keeps (fun m => m.pursuitView = n.pursuitView) m := fun hm => hm.keeps _
  refine Keeps.wp ?_ rfl
  unfold respondRekey
  refine (keeps_read _).bind fun _ => Keeps.ite hdiscard (Keeps.ite hdiscard ?_)
  extract_lets answer
  have hanswer : ∀ u, Keeps (fun m => m.pursuitView = n.pursuitView) (answer u) := by
    refine fun u => (hframes (framesPursuit_allocate env)).attempt.bind fun allocated => ?_
    cases allocated with
    | error e => exact keeps_pure _
    | ok ourNewIndex =>
      cases conn.takeSession.2 with
      | none => exact fun _ hm => hm
      | some session =>
        refine (hframes (framesPursuit_transmit env _ _ _)).bind fun sent =>
          Keeps.ite (fun _ hm => hm) ?_
        exact (hframes (framesPursuit_modifyPeer addr _)).bind fun _ =>
          Keeps.bind (fun _ hm => hm) fun _ => hdiscard
  exact Keeps.ite ((hframes (framesPursuit_yieldRekey addr existingPeer)).bind hanswer) (hanswer ())

omit [HkdfSha256] [ChaCha20Poly1305] [Mmp ν] in
/-- A new inbound connection, or nothing. -/
theorem wp_openInbound_moves (h : n.LinkIds) (hl : n.Unused conn.linkId)
    (htid : conn.transportId.isSome) (packet : ReceivedPacket) (senderIdx : SessionIndex)
    (msg2Response : Bytes) :
    wp (openInbound env packet senderIdx conn msg2Response)
      (fun r n' => Moves a n n' ∧ n'.connections.lookup conn.linkId = some
        ({ conn with ourIndex := some r.1, theirIndex := some senderIdx }.setHandshakeMsg2 r.2))
      (fun _ n' => Moves a n n') n := by
  unfold openInbound addLink
  rw [wp_bind_iff, wp_attempt_iff, wp_allocate_iff]
  refine ⟨fun i hi => ?_, fun _ => ⟨h, .refl a n⟩⟩
  let opened := { conn with ourIndex := some i, theirIndex := some senderIdx }.setHandshakeMsg2
    (buildMsg2 i senderIdx msg2Response)
  have hadded := h.addConnection (c := opened) hl rfl htid
  have hkept : n.Attends a → Attends { n with connections := n.connections.insert conn.linkId opened } a :=
    fun ha => ha.imp_right fun hpursues => hpursues.insert hl.connection opened
  simp only [wp_bind_iff, wp_write_iff]
  refine wp_transmit env fun sent outbox => ?_
  cases sent with
  | true =>
    refine ⟨⟨hadded.congr (fun _ => rfl) rfl rfl, handsOver_of_attends rfl hkept⟩, ?_⟩
    exact AList.lookup_insert _
  | false =>
    refine moves_of_view h (pursuitView_eq (fun _ => rfl) (fun l' => ?_) rfl rfl rfl)
    change ((n.connections.insert conn.linkId opened).erase conn.linkId).lookup l' = _
    rw [Map.lookup_erase', Map.lookup_insert']
    split_ifs with heq
    · rw [heq]
      exact hl.connection.symm
    · rfl

omit [HkdfSha256] [ChaCha20Poly1305] in
/-- A new inbound connection is promoted, which needs no one's place but its own. -/
theorem wp_acceptConnection_moves (h : n.LinkIds) (hl : n.Unused conn.linkId)
    (hinbound : conn.direction = .inbound) (hsession : conn.hasSession) (htid : conn.transportId.isSome)
    (haddr : conn.sourceAddr.isSome) (packet : ReceivedPacket) (senderIdx : SessionIndex)
    (msg2Response : Bytes) :
    wp (acceptConnection env packet senderIdx conn msg2Response identity) (fun _ => Moves a n)
      (fun _ => Moves a n) n := by
  unfold acceptConnection
  rw [wp_bind_iff]
  refine wp_mono (fun r m hm => ?_) (fun _ _ hmoved => hmoved)
    (wp_openInbound_moves (a := a) env h hl htid packet senderIdx msg2Response)
  obtain ⟨hmoved, hopened⟩ := hm
  obtain ⟨p, hp⟩ := extractPromotion_of_complete (l := conn.linkId)
    (c := { conn with ourIndex := some r.1, theirIndex := some senderIdx }.setHandshakeMsg2 r.2)
    hsession rfl rfl htid haddr
  have hnowhere : ∀ b, ¬LeadsTo
      ({ conn with ourIndex := some r.1, theirIndex := some senderIdx }.setHandshakeMsg2 r.2) b :=
    fun b => not_leadsTo_inbound hinbound
  have hview : ∀ {m' m'' : LinkNode SecretKey PublicKey ν μ}, Moves a n m' →
      m''.pursuitView = m'.pursuitView → Moves a n m'' :=
    fun hm' hview => hm'.trans (moves_of_view hm'.1 hview)
  have hpeer : ∀ (addr : NodeAddr) (m' : LinkNode SecretKey PublicKey ν μ),
      pursuitView { m' with peers := m'.peers.modify addr (·.setHandshakeMsg2 r.2) } = m'.pursuitView :=
    fun addr m' => framesPursuit_modifyPeer (ε := Unit) addr _ m'
  rw [wp_bind_iff, wp_attempt_iff]
  refine wp_mono (fun result m' hm' => ?_) (fun e m' hm' => ?_) (wp_promoteConnection_moves (a := a)
    hmoved.1 hopened hp (fun b hb => absurd hb (hnowhere b)) packet.timestampMs env.instant)
  · have hmoved := hmoved.trans hm'
    cases result with
    | promoted addr => exact hview hmoved (hpeer addr m')
    | crossConnectionWon loser addr =>
      exact hview hmoved ((pursuitView_removeLink loser _).trans (hpeer addr m'))
    | crossConnectionLost winner => exact hview hmoved (pursuitView_removeLink conn.linkId m')
  · obtain ⟨-, -, hdropped⟩ := hm'
    have hmoved : Moves a n m' := hmoved.trans
      ⟨hdropped.1, (handsOver_without hopened (hnowhere a)).trans hdropped.2⟩
    cases e with
    | panic => exact hmoved
    | error e => exact hview hmoved (pursuitView_removeLink conn.linkId m')

/-- **Message 1** loses no peer. -/
theorem handleMsg1_handsOver (h : n.LinkIds) (packet : ReceivedPacket) :
    Moves a n (handleMsg1 env packet n).1 := by
  have hsame : Moves a n n := ⟨h, .refl a n⟩
  refine fst_of_wp (P := Moves a n) (wp_body_of_wp ?_)
  split_ifs
  · exact hsame
  · exact hsame
  · rw [wp_bind_iff, wp_orReturn_iff]
    refine ⟨fun header hparse => ?_, fun _ => hsame, fun _ => hsame⟩
    rw [wp_bind_iff]
    refine wp_checkAddress env packet (fun _ possibleRestart => ?_) fun _ outbox => moves_of_view h rfl
    obtain ⟨hids, hunused⟩ := h.countLink
    have hcounted : Moves a n { n with nextLinkId := n.nextLinkId + 1 } :=
      ⟨hids, handsOver_of_view rfl⟩
    unfold allocateLinkId
    simp only [wp_bind_iff, wp_read_iff, wp_write_iff, wp_pure_iff]
    rw [wp_orReturn_iff]
    refine ⟨fun noiseMsg1 hslice => ?_, fun _ => hcounted, fun _ => hcounted⟩
    rw [wp_bind_iff, wp_orReturn_iff]
    refine ⟨fun received hreceived => ?_, fun _ => hcounted, fun _ => hcounted⟩
    obtain ⟨msg2, conn⟩ := received
    obtain ⟨hends, hsession, -⟩ := PeerConnection.receiveHandshakeInit_spec hreceived
    have hinbound : conn.direction = .inbound := hends.direction
    have htid : conn.transportId.isSome := by
      rw [hends.transportId]
      rfl
    have haddr : conn.sourceAddr.isSome := by
      rw [hends.sourceAddr]
      rfl
    have hfree : Unused { n with nextLinkId := n.nextLinkId + 1 } conn.linkId := by
      rw [hends.linkId]
      exact hunused
    rw [wp_bind_iff, wp_orElse_iff]
    refine ⟨fun identity hidentity => ?_, fun _ => hcounted⟩
    refine wp_mono (fun _ _ hmoved => hcounted.trans hmoved) (fun _ _ hmoved => hcounted.trans hmoved) ?_
    unfold receiveMsg1
    rw [wp_bind_iff, wp_read_iff]
    cases hp : n.peers.lookup (identity.nodeAddr SecretKey) with
    | none =>
      simp only [ite_self]
      exact wp_acceptConnection_moves env hids hfree hinbound hsession htid haddr packet _ msg2
    | some existingPeer =>
      simp only [Option.isSome_some, Bool.or_true, if_true, wp_bind_iff, wp_read_iff]
      split_ifs with hmismatch hrekey
      · rw [wp_bind_iff]
        refine wp_mono (fun _ m hm => ?_) (fun _ _ hF => hF.elim)
          (wp_removeActivePeer_moves (a := a) (identity.nodeAddr SecretKey) hids)
        obtain ⟨hmoved, hstill, -⟩ := hm
        unfold emit
        rw [wp_bind_iff, wp_write_iff]
        refine wp_mono (fun _ _ hmoved' => hmoved.trans hmoved')
          (fun _ _ hmoved' => hmoved.trans hmoved') ?_
        exact wp_acceptConnection_moves env hmoved.1 ((hstill _ hfree).congr (fun _ => rfl) rfl rfl)
          hinbound hsession htid haddr packet _ msg2
      · refine wp_mono (fun _ _ hview => moves_of_view hids hview)
          (fun _ _ hview => moves_of_view hids hview) ?_
        exact wp_respondRekey_view env hfree packet _ msg2 _ existingPeer
      · exact Moves.of_frames (framesPursuit_resendMsg2 env packet existingPeer.handshakeMsg2)
          ⟨hids, .refl a _⟩

end Message1

/-! ## Message 2 -/

section Message2

variable [Sha256] [HkdfSha256] [ChaCha20Poly1305] [Secp256k1 SecretKey PublicKey]
variable {n n' : LinkNode SecretKey PublicKey ν μ} {a : NodeAddr} {l : LinkId}
  {c : PeerConnection SecretKey PublicKey} {identity : PeerIdentity PublicKey}
  (env : LinkEnv SecretKey)

omit [HkdfSha256] [ChaCha20Poly1305] in
/-- The connection to a peer that is active anyway is dropped. -/
theorem wp_resolveCrossConnection_moves (h : n.LinkIds) (hc : n.connections.lookup l = some c)
    {addr : NodeAddr} (hexpected : ∀ b, LeadsTo c b → b = addr)
    (hactive : (n.peers.lookup addr).isSome = true) (key : TransportId × SessionIndex)
    (senderIdx : SessionIndex) :
    wp (resolveCrossConnection key senderIdx l addr) (fun _ => Moves a n) (fun _ => Moves a n) n := by
  have hdropped : Moves a n (n.without l) :=
    ⟨h.eraseConnection l, handsOver_drop hc hexpected hactive⟩
  -- nothing after that is read by what pursues a peer
  have hframes : ∀ {m : Handler SecretKey PublicKey ν μ Unit}, FramesPursuit m →
      wp m (fun _ => Moves a n) (fun _ => Moves a n) (n.without l) :=
    fun hm => Moves.of_frames hm hdropped
  have hforget : FramesPursuit (do
      forgetOutbound key
      write (removeLink l) : Handler SecretKey PublicKey ν μ Unit) :=
    Frames.bind (fun _ => rfl) fun _ => frames_write (pursuitView_removeLink l)
  unfold resolveCrossConnection dropConnection
  rw [wp_bind_iff, wp_read_iff, wp_bind_iff, wp_read_iff, hc]
  refine wp_bind_iff.mpr (wp_write_iff.mpr (hframes ?_))
  refine Frames.ite ?_ ?_
  · split
    · exact (framesPursuit_swapSession addr _ _ _).bind fun _ => hforget
    · exact Frames.bind (fun _ => rfl) fun _ => (frames_stop _).bind fun _ => hforget
  · split
    · exact hforget
    · exact Frames.bind (fun _ => rfl) fun _ => hforget

omit env in
/-- The end of a handshake does not change where the connection leads, even if it fails. -/
theorem completeHandshake_leads (message : Bytes) (currentTimeMs : Nat)
    (c : PeerConnection SecretKey PublicKey) :
    wp (PeerConnection.completeHandshake message currentTimeMs)
      (fun _ c' => PeerConnection.SameEnds c c' ∧ c'.expectedIdentity = c.expectedIdentity ∧
        c'.hasSession)
      (fun _ c' => PeerConnection.SameEnds c c' ∧ c'.expectedIdentity = c.expectedIdentity) c := by
  have hframe : Frames PeerConnection.expectedIdentity (PeerConnection.completeHandshake message
      currentTimeMs : PeerConnection.M SecretKey PublicKey Unit) := by
    have hrequire : ∀ (q : PeerConnection SecretKey PublicKey → Bool) e,
        Frames PeerConnection.expectedIdentity
          (require q e : PeerConnection.M SecretKey PublicKey Unit) := by
      intro q e c
      unfold require
      split_ifs <;> rfl
    refine (hrequire _ _).bind fun _ => (frames_expect _).bind fun hs =>
      Frames.bind (fun _ => rfl) fun _ => (frames_pureCall _).bind fun r =>
      Frames.bind (fun _ => rfl) fun _ => (frames_pureCall _).bind fun session => fun _ => rfl
  have hkept : wp (PeerConnection.completeHandshake message currentTimeMs)
      (fun _ c' => c'.expectedIdentity = c.expectedIdentity)
      (fun _ c' => c'.expectedIdentity = c.expectedIdentity) c := wp_of_fst (hframe c)
  refine wp_mono (fun _ _ h => h.1) (fun _ _ h => h)
    (wp_and (PeerConnection.completeHandshake_spec message currentTimeMs c) hkept)

omit [HkdfSha256] [ChaCha20Poly1305] in
/-- A connection is written back with the ends it had. -/
theorem moves_put (h : n.LinkIds) (hc : n.connections.lookup l = some c)
    {c' : PeerConnection SecretKey PublicKey} (hindex : c'.ourIndex = c.ourIndex)
    (htid : c'.transportId = c.transportId) (hdirection : c'.direction = c.direction)
    (hexpected : c'.expectedIdentity = c.expectedIdentity) :
    Moves a n { n with connections := n.connections.insert l c' } := by
  refine ⟨h.putConnection hc hindex htid, handsOver_of_attends rfl fun ha =>
    ha.imp_right fun hpursues => hpursues.put hc ?_⟩
  rintro ⟨hout, identity, hidentity, haddr⟩
  refine ⟨?_, identity, hexpected.trans hidentity, haddr⟩
  unfold PeerConnection.isOutbound at hout ⊢
  rw [hdirection]
  exact hout

omit [HkdfSha256] [ChaCha20Poly1305] in
/-- What is written to a connection does not matter once it is gone. -/
theorem Moves.of_put {d : PeerConnection SecretKey PublicKey}
    (h : Moves a (without { n with connections := n.connections.insert l d } l) n') :
    Moves a (n.without l) n' := by
  refine ⟨h.1, HandsOver.trans (handsOver_of_view ?_) h.2⟩
  refine attendView_eq (fun _ => rfl) (fun l' => ?_) rfl rfl
  change ((n.connections.insert l d).erase l).lookup l' = (n.connections.erase l).lookup l'
  rw [Map.lookup_erase', Map.lookup_erase', Map.lookup_insert']
  split_ifs <;> rfl

variable [Mmp ν]

/-- The msg2 completes the handshake of our own on the link, with a peer there is no room for. -/
def OutOfRoom (packet : ReceivedPacket) (n : LinkNode SecretKey PublicKey ν μ) (l : LinkId)
    (a : NodeAddr) : Prop :=
  ∃ header noiseMsg2 c c' identity, Msg2Header.parse packet.data = .ok header ∧
    n.pendingOutbound.lookup (packet.transportId, header.receiverIdx) = some l ∧
    (sliceFrom packet.data header.noiseMsg2Offset : Result Unit Bytes) = .ok noiseMsg2 ∧
    n.connections.lookup l = some c ∧
    Runs (PeerConnection.completeHandshake noiseMsg2 packet.timestampMs) c () c' ∧
    c.expectedIdentity = some identity ∧ identity.nodeAddr SecretKey = a ∧
    n.peers.lookup a = none ∧ n.Full

omit [HkdfSha256] [ChaCha20Poly1305] in
/-- The peer of our own msg1 becomes active, or there is no room for it. -/
theorem wp_promoteOutbound_moves (h : n.LinkIds) (hc : n.connections.lookup l = some c)
    (hsession : c.hasSession) (htheir : c.theirIndex.isSome) (haddr : c.sourceAddr.isSome)
    (hidentity : c.expectedIdentity = some identity) (packet : ReceivedPacket)
    (key : TransportId × SessionIndex) :
    wp (promoteOutbound env packet key l identity)
      (fun _ n' => Moves a n n' ∨
        n.peers.lookup (identity.nodeAddr SecretKey) = none ∧ n.Full ∧ Moves a (n.without l) n')
      (fun _ n' => Moves a n n' ∨
        n.peers.lookup (identity.nodeAddr SecretKey) = none ∧ n.Full ∧ Moves a (n.without l) n')
      n := by
  obtain ⟨hindex, htid⟩ := h.connections l c hc
  obtain ⟨p, hp⟩ := extractPromotion_of_complete (l := l) hsession hindex htheir htid haddr
  have hexpected : ∀ b, LeadsTo c b → b = identity.nodeAddr SecretKey := by
    rintro b ⟨-, identity', hidentity', rfl⟩
    rw [Option.some.inj (hidentity'.symm.trans hidentity)]
  unfold promoteOutbound
  rw [wp_bind_iff, wp_attempt_iff]
  refine wp_mono (fun result m hm => ?_) (fun e m hm => ?_)
    (wp_promoteConnection_moves (a := a) h hc hp hexpected packet.timestampMs env.instant)
  · have hview : ∀ {m'' : LinkNode SecretKey PublicKey ν μ}, m''.pursuitView = m.pursuitView →
        Moves a n m'' := fun hview => hm.trans (moves_of_view hm.1 hview)
    unfold forgetOutbound
    rw [wp_bind_iff, wp_write_iff]
    cases result with
    | promoted addr => exact .inl (hview rfl)
    | crossConnectionWon loser addr => exact .inl (hview (pursuitView_removeLink loser _))
    | crossConnectionLost winner => exact .inl (hview (pursuitView_removeLink l _))
  · cases e with
    | error e => exact .inr hm
    | panic => exact .inr hm

/-- **Message 2** loses a peer only where there is no room for it. -/
theorem handleMsg2_handsOver (h : n.LinkIds) (packet : ReceivedPacket) :
    let n' := (handleMsg2 env packet n).1
    Moves a n n' ∨ ∃ l, OutOfRoom packet n l a ∧ Moves a (n.without l) n' := by
  have hsame : Moves a n n := ⟨h, .refl a n⟩
  let Q := fun n' : LinkNode SecretKey PublicKey ν μ =>
    Moves a n n' ∨ ∃ l, OutOfRoom packet n l a ∧ Moves a (n.without l) n'
  refine fst_of_wp (P := Q) (wp_body_of_wp ?_)
  rw [wp_bind_iff, wp_orReturn_iff]
  refine ⟨fun header hparse => ?_, fun _ => .inl hsame, fun _ => .inl hsame⟩
  rw [wp_bind_iff, wp_read_iff, wp_bind_iff, wp_orElse_iff]
  refine ⟨fun l hkey => ?_, fun _ => .inl hsame⟩
  rw [wp_bind_iff, wp_orReturn_iff]
  refine ⟨fun noiseMsg2 hslice => ?_, fun _ => .inl hsame, fun _ => .inl hsame⟩
  rw [wp_bind_iff, wp_read_iff]
  cases hc : n.connections.lookup l with
  | none =>
    change wp (_ >>= _) _ _ n
    rw [wp_bind_iff, wp_read_iff]
    cases hrekey : findRekey header.receiverIdx n with
    | none => exact .inl (moves_of_view h rfl)
    | some b =>
      rw [wp_bind_iff]
      have hcompleted := Moves.of_frames (framesPursuit_completeRekey header noiseMsg2 b) hsame
      refine wp_mono (fun _ m hm => .inl ?_) (fun _ _ hm => .inl hm) hcompleted
      exact hm.trans (moves_of_view hm.1 rfl)
  | some c =>
    change wp (attempt _ >>= _) _ _ n
    rw [wp_bind_iff, wp_attempt_iff]
    refine (wp_onConnection_iff hc).mpr (wp_mono (fun _ c' hc' => ?_) (fun e c' hc' => ?_)
      (wp_and_runs (completeHandshake_leads noiseMsg2 packet.timestampMs c)))
    · obtain ⟨⟨hends, hexpected, hsession⟩, hruns⟩ := hc'
      let completed := fun c : PeerConnection SecretKey PublicKey =>
        { c with theirIndex := some header.senderIdx, sourceAddr := some packet.remoteAddr }
      have hcompleted : Map.modify l completed (n.connections.insert l c') =
          n.connections.insert l (completed c') := by
        rw [Map.modify_eq_insert (AList.lookup_insert _), AList.insert_insert]
      let m : LinkNode SecretKey PublicKey ν μ :=
        { n with connections := n.connections.insert l (completed c') }
      have hlookup : m.connections.lookup l = some (completed c') := AList.lookup_insert _
      have hm : Moves a n m := moves_put h hc hends.ourIndex hends.transportId hends.direction hexpected
      refine wp_bind_iff.mpr (wp_write_iff.mpr ?_)
      change wp _ _ _ { n with connections := Map.modify l completed (n.connections.insert l c') }
      rw [hcompleted]
      change wp _ _ _ m
      refine wp_bind_iff.mpr (wp_expect_iff.mpr ⟨fun conn hconn => ?_, fun hnone => ?_⟩)
      · obtain rfl : completed c' = conn := Option.some.inj (hlookup.symm.trans hconn)
        rw [wp_bind_iff, wp_orElse_iff]
        refine ⟨fun identity hidentity => ?_, fun _ => .inl hm⟩
        rw [wp_bind_iff, wp_read_iff]
        have hc'identity : c.expectedIdentity = some identity := hexpected.symm.trans hidentity
        by_cases hactive : (n.peers.lookup (identity.nodeAddr SecretKey)).isSome = true
        · rw [if_pos hactive]
          have hto : ∀ b, LeadsTo (completed c') b → b = identity.nodeAddr SecretKey := by
            rintro b ⟨-, identity', hidentity', rfl⟩
            rw [Option.some.inj (hidentity'.symm.trans hidentity)]
          exact wp_mono (fun _ _ hmoved => .inl (hm.trans hmoved))
            (fun _ _ hmoved => .inl (hm.trans hmoved))
            (wp_resolveCrossConnection_moves hm.1 hlookup hto hactive _ _)
        · rw [if_neg hactive]
          have hroom : ∀ n', (Moves a m n' ∨ m.peers.lookup (identity.nodeAddr SecretKey) = none ∧
              m.Full ∧ Moves a (m.without l) n') → Q n' := by
            rintro n' (hmoved | ⟨hnone, hfull, hmoved⟩)
            · exact .inl (hm.trans hmoved)
            · by_cases ha : identity.nodeAddr SecretKey = a
              · exact .inr ⟨l, ⟨header, noiseMsg2, c, c', identity, hparse, hkey, hslice, hc, hruns,
                  hc'identity, ha, ha ▸ hnone, hfull⟩, hmoved.of_put⟩
              · refine .inl (hm.trans ⟨hmoved.1, (handsOver_without hlookup ?_).trans hmoved.2⟩)
                rintro ⟨-, identity', hidentity', haddr⟩
                rw [Option.some.inj (hidentity'.symm.trans hidentity)] at haddr
                exact ha haddr
          exact wp_mono (fun _ _ hmoved => hroom _ hmoved) (fun _ _ hmoved => hroom _ hmoved)
            (wp_promoteOutbound_moves env hm.1 hlookup hsession rfl rfl hidentity packet _)
      · cases hlookup.symm.trans hnone
    · obtain ⟨hends, hexpected⟩ := hc'
      have hput : ∀ d : PeerConnection SecretKey PublicKey, d.ourIndex = c'.ourIndex →
          d.transportId = c'.transportId → d.direction = c'.direction →
          d.expectedIdentity = c'.expectedIdentity →
          Q { n with connections := n.connections.insert l d } := fun d h₁ h₂ h₃ h₄ =>
        .inl (moves_put h hc (h₁.trans hends.ourIndex) (h₂.trans hends.transportId)
          (h₃.trans hends.direction) (h₄.trans hexpected))
      cases e with
      | panic => exact hput c' rfl rfl rfl rfl
      | error e =>
        change Q { n with connections := Map.modify l (·.markFailed) (n.connections.insert l c') }
        rw [Map.modify_eq_insert (AList.lookup_insert _), AList.insert_insert]
        exact hput c'.markFailed rfl rfl rfl rfl

end Message2

end LinkNode

/-! ## Frames -/

namespace Node

variable {SecretKey PublicKey ν μ : Type} {ε : Type} {n n' : Node SecretKey PublicKey ν μ}
  {packet : ReceivedPacket} {header : EncryptedHeader} {addr a : NodeAddr}
  {p : ActivePeer SecretKey PublicKey ν} (env : Env SecretKey)

theorem SameBooks.isSome (h : SameBooks n n') (a : NodeAddr) :
    (n'.peers.lookup a).isSome = (n.peers.lookup a).isSome := by
  have hbook := congrArg Option.isSome (h.peers a)
  rwa [Option.isSome_map, Option.isSome_map] at hbook

/-- The frame is an authentic disconnect of the peer. -/
def Disconnects [ChaCha20Poly1305] [Mmp ν] (packet : ReceivedPacket)
    (n : Node SecretKey PublicKey ν μ) (a : NodeAddr) : Prop :=
  ∃ header p plaintext timestamp message, n.Names packet header a p ∧
    opened (followed env header p) (linkFrame packet header) = some (.ok plaintext) ∧
    stripInnerHeader plaintext = .ok (timestamp, message) ∧ IsDisconnect message

/-- The peer is active, or its reconnect was asked for. -/
def KeptOrAsked (n n' : Node SecretKey PublicKey ν μ) (a : NodeAddr) : Prop :=
  (n'.peers.lookup a).isSome = true ∨
    ∃ es, n'.effects = n.effects ++ es ∧ .scheduleReconnect a ∈ es

/-- The twentieth failure in a row removes the peer and asks for its reconnect. -/
theorem handleDecryptFailure_asks (hactive : (n.peers.lookup a).isSome = true)
    {m : Node SecretKey PublicKey ν μ} (hpeers : ∀ b, (m.peers.lookup b).isSome =
      (n.peers.lookup b).isSome) (heffects : m.effects = n.effects) :
    wp (handleDecryptFailure addr) (fun _ n' => KeptOrAsked n n' a) (fun _ _ => False) m := by
  have hsame : ∀ b, ((m.peers.modify addr (·.incrementDecryptFailures)).lookup b).isSome =
      (n.peers.lookup b).isSome :=
    fun b => (LinkNode.isSome_lookup_modify m.peers addr b _).trans (hpeers b)
  unfold handleDecryptFailure modifyPeer
  simp only [wp_bind_iff, wp_write_iff, wp_read_iff]
  cases hp : (m.peers.modify addr (·.incrementDecryptFailures)).lookup addr with
  | none => exact .inl ((hsame a).trans hactive)
  | some p =>
    change wp (if _ then _ else _) _ _ _
    split_ifs with hlast
    · let counted : Node SecretKey PublicKey ν μ :=
        { m with peers := m.peers.modify addr (·.incrementDecryptFailures) }
      rw [wp_bind_iff, wp_write_iff, emit, wp_write_iff]
      by_cases ha : a = addr
      · have hremoved : (Node.removeActivePeer addr counted).effects =
            n.effects ++ [.removeLink p.linkId, .cleanUpPeer addr] := by
          unfold Node.removeActivePeer
          rw [show counted.peers.lookup addr = some p from hp, ← heffects]
          exact congrArg (· ++ _) (releaseIndices_frames _ p).2.2
        refine .inr ⟨[.removeLink p.linkId, .cleanUpPeer addr, .scheduleReconnect addr], ?_, ?_⟩
        · change (Node.removeActivePeer addr counted).effects ++ [.scheduleReconnect addr] = _
          rw [hremoved, List.append_assoc]
          rfl
        · rw [ha]
          simp
      · refine .inl ?_
        change ((Node.removeActivePeer addr counted).peers.lookup a).isSome = true
        rw [LinkNode.lookup_removeActivePeer_of_ne ha]
        exact (hsame a).trans hactive
    · exact .inl ((hsame a).trans hactive)

variable [Sha256] [HkdfSha256] [ChaCha20Poly1305] [Secp256k1 SecretKey PublicKey] [Mmp ν]
  [SessionMmp μ] (Signature : Type) [SchnorrSignature Signature]

omit [Sha256] [HkdfSha256] [Secp256k1 SecretKey PublicKey] [Mmp ν] [SessionMmp μ] in
/-- A failure to decrypt drops no peer silently. -/
theorem openLinkFrame_asks (hactive : (n.peers.lookup a).isSome = true)
    {m : Node SecretKey PublicKey ν μ} (hpeers : ∀ b, (m.peers.lookup b).isSome =
      (n.peers.lookup b).isSome) (heffects : m.effects = n.effects) (f : NoiseSession.Frame) :
    wp (openLinkFrame addr f) (fun _ _ => True) (fun _ n' => KeptOrAsked n n' a) m := by
  have hkept : ∀ {m' : Node SecretKey PublicKey ν μ}, (∀ b, (m'.peers.lookup b).isSome =
      (n.peers.lookup b).isSome) → KeptOrAsked n m' a := fun h => .inl ((h a).trans hactive)
  unfold openLinkFrame
  rw [wp_bind_iff, wp_expect_iff]
  refine ⟨fun p hp => ?_, fun _ => hkept hpeers⟩
  rw [wp_bind_iff, wp_orElse_iff]
  refine ⟨fun s hs => ?_, fun _ => hkept hpeers⟩
  rcases s.decryptWithFallback p.previousSession f with ⟨current, previous, plaintext⟩
  have hmodify : ∀ (k : Node SecretKey PublicKey ν μ) g, (∀ b, (k.peers.lookup b).isSome =
      (n.peers.lookup b).isSome) → ∀ b, ((k.peers.modify addr g).lookup b).isSome =
      (n.peers.lookup b).isSome :=
    fun k g h b => (LinkNode.isSome_lookup_modify k.peers addr b g).trans (h b)
  unfold modifyPeer
  rw [wp_bind_iff, wp_write_iff]
  cases plaintext with
  | ok plaintext => trivial
  | error e =>
    rw [wp_bind_iff]
    unfold logDecryptFailure
    split
    · refine wp_write_iff.mpr (wp_bind_iff.mpr ?_)
      refine wp_mono (fun _ _ h => h) (fun _ _ hF => hF.elim) (handleDecryptFailure_asks hactive ?_ ?_)
      · exact hmodify _ _ (hmodify m _ hpeers)
      · exact heffects
    · refine wp_pure_iff.mpr (wp_bind_iff.mpr ?_)
      refine wp_mono (fun _ _ h => h) (fun _ _ hF => hF.elim) (handleDecryptFailure_asks hactive ?_ ?_)
      · exact hmodify m _ hpeers
      · exact heffects

/-- **Frames** drop a peer only when it disconnects, or ask for its reconnect. -/
theorem handleEncryptedFrame_asks (hactive : (n.peers.lookup a).isSome = true) :
    let n' := (handleEncryptedFrame env Signature packet n).1
    KeptOrAsked n n' a ∨ Disconnects env packet n a := by
  refine fst_of_wp (P := fun n' => KeptOrAsked n n' a ∨ Disconnects env packet n a) ?_
  have hsame : KeptOrAsked n n a ∨ Disconnects env packet n a := .inl (.inl hactive)
  unfold handleEncryptedFrame
  refine wp_body_of_wp ?_
  rw [wp_bind_iff, wp_orReturn_iff]
  refine ⟨fun header hparse => ?_, fun _ => hsame, fun _ => hsame⟩
  rw [wp_bind_iff, wp_read_iff, wp_bind_iff, wp_orElse_iff]
  refine ⟨fun addr hindex => ?_, fun _ => hsame⟩
  rw [wp_bind_iff, wp_read_iff]
  cases hp : n.peers.lookup addr with
  | none => exact hsame
  | some p =>
    have hnames : n.Names packet header addr p := ⟨hparse, hindex, hp⟩
    have hframe : wp (followKBit env addr (hasFlag header.flags FLAG_KEY_EPOCH) :
        Handler SecretKey PublicKey ν μ Unit) (fun _ n' => n'.effects = n.effects)
        (fun _ n' => n'.effects = n.effects) n := by
      refine wp_of_fst ((Frames.bind (frames_expect _) fun peer => Frames.ite ?_ ?_ :
        Frames (fun n : Node SecretKey PublicKey ν μ => n.effects) _) n)
      · exact (frames_expect _).bind fun _ => fun _ => rfl
      · exact frames_pure _
    change wp (followKBit env addr _ >>= _) _ _ n
    rw [wp_bind_iff]
    refine wp_mono (fun _ n₁ hn₁ => ?_) (fun _ _ h => h.1.elim)
      (wp_and (followKBit_outcome env hp) hframe)
    obtain ⟨⟨hp₁, hfollowed⟩, heffects⟩ := hn₁
    have hpeers : ∀ b, (n₁.peers.lookup b).isSome = (n.peers.lookup b).isSome := by
      intro b
      rw [hfollowed.isSome b]
      exact LinkNode.isSome_lookup_insert hp _ b
    have hlen : header.ciphertextOffset ≤ packet.data.length :=
      le_trans (show 16 ≤ 32 by decide) (EncryptedHeader.length_of_parse hparse)
    rw [sliceFrom_of_le hlen, wp_bind_iff, wp_orReturn_ok, wp_bind_iff]
    refine wp_mono (fun plaintext n₂ hn₂ => ?_) (fun _ n₂ hn₂ => .inl hn₂.2)
      (wp_and (openLinkFrame_outcome hp₁ (linkFrame packet header))
        (openLinkFrame_asks hactive hpeers heffects (linkFrame packet header)))
    obtain ⟨⟨hopens, hopen⟩, -⟩ := hn₂
    have hpeers₂ : ∀ b, (n₂.peers.lookup b).isSome = (n.peers.lookup b).isSome :=
      fun b => (hopen.isSome b).trans (hpeers b)
    rw [wp_bind_iff, wp_orReturn_iff]
    refine ⟨fun inner hinner => ?_, fun _ => .inl (.inl ((hpeers₂ a).trans hactive)),
      fun _ => .inl (.inl ((hpeers₂ a).trans hactive))⟩
    obtain ⟨timestamp, message⟩ := inner
    let n₃ : Node SecretKey PublicKey ν μ :=
      { n₂ with peers := n₂.peers.modify addr (recordFrame packet header timestamp env.instant) }
    have hactive₃ : (n₃.peers.lookup a).isSome = true :=
      ((LinkNode.isSome_lookup_modify n₂.peers addr a _).trans (hpeers₂ a)).trans hactive
    refine wp_of_fst ?_
    rcases dispatchLinkMessage_outcome env Signature addr message (hasFlag header.flags FLAG_CE) n₃
      with hbooks | ⟨hdisconnect, hremoved⟩
    · exact .inl (.inl ((hbooks.isSome a).trans hactive₃))
    · by_cases ha : a = addr
      · exact .inr ⟨header, p, plaintext, timestamp, message, ha ▸ hnames, hopens, hinner, hdisconnect⟩
      · refine .inl (.inl ?_)
        change ((dispatchLinkMessage env Signature addr message _ n₃).1.peers.lookup a).isSome = true
        rw [hremoved, LinkNode.lookup_removeActivePeer_of_ne ha]
        exact hactive₃

end Node

end Fips
