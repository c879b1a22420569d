import Fips.Node.Consistency
import Fips.Noise.Sample
import Fips.Transport.Tcp
import Fips.Wire.TreeCodec

/-!
# How long an ancestry gets

A tree state holds the ancestries that peers announced, and its own coordinates are one entry longer
than that of its parent. An announce arrives in one packet, and the receive loops bound a packet: UDP
(`transport/udp/mod.rs:321`), Ethernet (`transport/ethernet/mod.rs:378`) and BLE
(`transport/ble/mod.rs:841`) read into a buffer of at most `u16::MAX + 100` bytes, TCP and Tor take
what `read_fmp_packet` returns. On the way to `handle_tree_announce` a packet loses its header, the
inner header and the type byte (`handle_encrypted_frame`, `dispatch_link_message`).

So an ancestry stays far below the 65535 entries of the count field, and every announce that a tree
state gives rise to comes back from its encoding.

## Results

* `length_entries_le`: the ancestries of an announce that was handed over.
* `recorded_next`: the recorded ancestries are those that were announced.
* `codec_of_holdable`: the codec on ancestries of every length a tree state can hold.
-/

open Checked

namespace Fips

/-! ## Packets -/

/-- What the receive loops of the transports hand to the node. -/
inductive HandedOver : Bytes → Prop
  | buffer (mtu : UInt16) (data : Bytes) (fits : data.length ≤ mtu.toNat + 100) : HandedOver data
  | stream (mtu : UInt16) (reader rest : ByteReader) (data : Bytes)
      (read : readFmpPacket mtu reader = .ok (data, rest)) : HandedOver data

/-- `u16::MAX` and the headroom of the buffers. -/
def MAX_PACKET_SIZE : Nat := 65635

/-- The length rule of a frame reads less than its MTU or a handshake message. -/
theorem remaining_le {mtu : UInt16} {phase : UInt8} {payloadLen n : Nat}
    (h : remaining mtu phase payloadLen = .ok n) : n ≤ max 110 (mtu.toNat + 28) := by
  unfold remaining at h
  dsimp only at h
  split_ifs at h with h₁ h₂
  · cases h
    unfold ESTABLISHED_REMAINING_HEADER PREFIX_SIZE AEAD_TAG_SIZE at h₂
    unfold ESTABLISHED_REMAINING_HEADER AEAD_TAG_SIZE
    omega
  · unfold handshakeRemaining MSG1_PAYLOAD_LEN PREFIX_SIZE at h
    split_ifs at h
    cases h
    omega
  · unfold handshakeRemaining MSG2_PAYLOAD_LEN PREFIX_SIZE at h
    split_ifs at h
    cases h
    omega

theorem HandedOver.length_le {data : Bytes} (h : HandedOver data) :
    data.length ≤ MAX_PACKET_SIZE := by
  unfold MAX_PACKET_SIZE
  cases h with
  | buffer mtu _ fits =>
    have hmtu := mtu.toNat_lt
    omega
  | stream mtu reader rest _ read =>
    obtain ⟨head, tail, r₁, n, hhead, hn, htail, rfl⟩ := readFmpPacket_eq_ok read
    have hmtu := mtu.toNat_lt
    have hle := remaining_le hn
    rw [List.length_append, (readBytes_eq_ok hhead).1, (readBytes_eq_ok htail).1]
    unfold PREFIX_SIZE
    omega

/-! ## From the packet to the announce -/

section Frames

variable {PublicKey : Type} [ChaCha20Poly1305]

/-- The payload of the tree announce in a packet, as `handle_encrypted_frame` and
`dispatch_link_message` come to it under a session of the peer. -/
inductive CarriesAnnounce (PublicKey : Type) (data payload : Bytes) : Prop
  | mk (header : EncryptedHeader) (ciphertext : Bytes) (session session' : NoiseSession PublicKey)
      (plaintext : Bytes) (timestamp : Nat) (message : Bytes)
      (parsed : EncryptedHeader.parse data = .ok header)
      (sliced : (sliceFrom data header.ciphertextOffset : Result Unit Bytes) = .ok ciphertext)
      (opened : session.decryptFrame ⟨ciphertext, header.counter, header.headerBytes⟩ =
        (session', .ok plaintext))
      (inner : stripInnerHeader plaintext = .ok (timestamp, message))
      (type : (index message 0 : Result Unit UInt8) = .ok 0x10)
      (rest : (sliceFrom message 1 : Result Unit Bytes) = .ok payload)

/-- Decryption does not lengthen. -/
theorem length_le_of_decryptFrame (hsized : ChaCha20Poly1305.Sized)
    {s s' : NoiseSession PublicKey} {f : NoiseSession.Frame} {plaintext : Bytes}
    (h : s.decryptFrame f = (s', .ok plaintext)) : plaintext.length ≤ f.ciphertext.length := by
  rcases s.decryptFrame_cases f with ⟨-, heq⟩ | ⟨_, -, -, heq⟩ | ⟨pt, -, hopen, heq⟩
  · rw [heq] at h
    cases h
  · rw [heq] at h
    cases h
  · rw [heq] at h
    cases h
    unfold NoiseSession.opens CipherState.decryptWithCounterAndAad at hopen
    split_ifs at hopen
    · cases hopen
      exact le_rfl
    · split at hopen
      · cases hopen
      · next hdec =>
        cases hopen
        rw [hsized.decrypt_length _ _ _ _ _ hdec]
        exact Nat.le_add_right ..

/-- Header, inner header and type byte are gone. -/
theorem CarriesAnnounce.length_le (hsized : ChaCha20Poly1305.Sized) {data payload : Bytes}
    (h : CarriesAnnounce PublicKey data payload) : payload.length + 21 ≤ data.length := by
  obtain ⟨header, ciphertext, session, session', plaintext, timestamp, message, hparse, hcipher,
    hdec, hstrip, htype, hpayload⟩ := h
  have hlong := EncryptedHeader.length_of_parse hparse
  unfold ENCRYPTED_MIN_SIZE at hlong
  obtain ⟨-, rfl⟩ := sliceFrom_eq_ok.mp hcipher
  have hplain := length_le_of_decryptFrame hsized hdec
  obtain ⟨_, hinner, hstrip⟩ := bind_eq_ok.mp hstrip
  obtain ⟨_, -, hstrip⟩ := bind_eq_ok.mp hstrip
  obtain ⟨_, hmessage, hstrip⟩ := bind_eq_ok.mp hstrip
  cases hstrip
  obtain ⟨-, rfl⟩ := sliceFrom_eq_ok.mp hmessage
  obtain ⟨hone, rfl⟩ := sliceFrom_eq_ok.mp hpayload
  unfold EncryptedHeader.ciphertextOffset ESTABLISHED_HEADER_SIZE at hplain
  simp only [List.length_drop] at hplain hone ⊢
  omega

end Frames

/-! ## Recorded ancestries -/

section Records

variable {SecretKey PublicKey Signature F : Type}

/-- Every recorded ancestry satisfies `P`. -/
def TreeState.Recorded (P : TreeCoordinate → Prop) (s : TreeState Signature F) : Prop :=
  ∀ p c, s.peerAncestry.lookup p = some c → P c

/-- The ancestry that the event brings, if it is an announce, satisfies `P`. -/
def TreeEvent.Brings (P : TreeCoordinate → Prop) : TreeEvent PublicKey Signature F → Prop
  | .announce _ received _ _ _ _ => P received.ancestry
  | _ => True

namespace TreeState

open TreeState (Moved)

variable {P : TreeCoordinate → Prop} {s s' : TreeState Signature F}

theorem Recorded.of_eq (h : s.Recorded P) (heq : s'.peerAncestry = s.peerAncestry) :
    s'.Recorded P := by
  intro p c hc
  rw [heq] at hc
  exact h p c hc

theorem Recorded.removePeer (h : s.Recorded P) (addr : NodeAddr) :
    (s.removePeer addr).Recorded P := by
  intro p c hc
  change (s.peerAncestry.erase addr).lookup p = some c at hc
  rw [Map.lookup_erase'] at hc
  split_ifs at hc
  exact h p c hc

/-- An announce that is recorded takes the place of an older one. -/
theorem Recorded.updatePeer (h : s.Recorded P) {declaration : ParentDeclaration Signature}
    {ancestry : TreeCoordinate} (hP : P ancestry) :
    (s.updatePeer declaration ancestry).1.Recorded P := by
  by_cases hacc : s.accepts declaration = true
  · intro p c hc
    rw [updatePeer_eq hacc, Map.lookup_insert'] at hc
    split_ifs at hc
    · cases hc
      exact hP
    · exact h p c hc
  · rw [updatePeer_of_stale hacc]
    exact h

/-- The node's own ancestry is one entry longer than a recorded one, or the entry of a root. -/
theorem Anchored.length_le (h : s.Anchored) {n : Nat}
    (hrecorded : s.Recorded fun c => c.entries.length ≤ n) : s.myCoords.entries.length ≤ n + 1 := by
  cases h with
  | self parent root coords =>
    rw [coords]
    exact Nat.le_add_left 1 n
  | child c parent recorded root coords =>
    rw [coords]
    exact Nat.succ_le_succ (hrecorded _ c recorded)

end TreeState

namespace TreeNode

open TreeState (Recorded)

variable [SigningKey SecretKey Signature] [VerifyingKey PublicKey Signature] [LinkCost F]
variable {P : TreeCoordinate → Prop} {n : TreeNode SecretKey PublicKey Signature F}

omit [SigningKey SecretKey Signature] [VerifyingKey PublicKey Signature] in
theorem LostTo.peerAncestry {s s' : TreeState Signature F} {peerCosts : Map NodeAddr F}
    {clock : Clock} (h : LostTo s s' peerCosts clock) : s'.peerAncestry = s.peerAncestry := by
  rcases h with ⟨p, -, hm⟩ | ⟨-, hm⟩
  · exact hm.peerAncestry
  · exact hm.peerAncestry

omit [SigningKey SecretKey Signature] in
/-- An announce leaves the table as it was or with this announce in it. -/
theorem AnnounceOutcome.keepsRecorded {source : NodeAddr} {announce : TreeAnnounce Signature}
    {peerCosts : Map NodeAddr F} {clock lostClock : Clock} {env : SendEnv}
    {out : TreeNode SecretKey PublicKey Signature F × List (TreeEffect Signature)}
    (hout : AnnounceOutcome n (n.recordAnnounce source announce).1 source announce peerCosts clock
      lostClock env out)
    (h : n.treeState.Recorded P) (hP : P announce.ancestry) : out.1.treeState.Recorded P := by
  have hm : (n.recordAnnounce source announce).1.treeState.Recorded P := h.updatePeer hP
  generalize (n.recordAnnounce source announce).1 = m at hout hm
  cases hout with
  | unadmitted _ hout => exact hout ▸ h
  | stale _ hout => exact hout ▸ hm
  | switched _ _ p s' _ hmoved _ hout => exact hm.of_eq (hout.treeState ▸ hmoved.peerAncestry)
  | looping _ _ _ _ _ s' hlost _ hout => exact hm.of_eq (hout.treeState ▸ hlost.peerAncestry)
  | refreshed _ _ _ _ _ s' hmoved _ hout =>
    split_ifs at hout
    · exact hm.of_eq (hout.treeState ▸ hmoved.peerAncestry)
    · exact hm.of_eq (hout ▸ hmoved.peerAncestry)
  | recorded _ _ _ _ hout => exact hout ▸ hm

omit [VerifyingKey PublicKey Signature] in
theorem peerAncestry_reevaluateParent (hid : n.identity.nodeAddr = n.treeState.myNodeAddr)
    (peerCosts : Map NodeAddr F) (clock : Clock) (env : SendEnv) :
    (n.reevaluateParent peerCosts clock env).1.treeState.peerAncestry =
      n.treeState.peerAncestry := by
  rcases reevaluateParent_cases hid peerCosts clock env with ⟨p, s', -, hm, -, hout⟩ | hout
  · rw [hout.treeState, ← hm.peerAncestry]
  · rw [hout]

/-- **One event** records what it announces and nothing else. -/
theorem recorded_next (hid : n.identity.nodeAddr = n.treeState.myNodeAddr)
    (h : n.treeState.Recorded P) {e : TreeEvent PublicKey Signature F} (he : e.Brings P) :
    (n.next e).treeState.Recorded P := by
  cases e with
  | announce source announce peerCosts clock lostClock env =>
    exact (handleTreeAnnounce_outcome hid source announce peerCosts clock lostClock env).keepsRecorded
      h he
  | periodicReeval peerCosts clock env =>
    show (n.checkPeriodicParentReeval peerCosts clock env).1.treeState.Recorded P
    rcases n.checkPeriodicParentReeval_cases peerCosts clock env with hout | ⟨-, hout⟩
    · rw [hout]
      exact h
    · rw [hout]
      exact h.of_eq (peerAncestry_reevaluateParent
        (n := { n with lastParentReeval := some clock.instant }) hid peerCosts clock env)
  | firstRtt peerCosts clock env =>
    exact h.of_eq (peerAncestry_reevaluateParent hid peerCosts clock env)
  | removePeer addr peerCosts clock =>
    show (n.removeActivePeer addr peerCosts clock).1.treeState.Recorded P
    by_cases haddr : addr ∈ n.peers
    · rcases removeActivePeer_cases hid haddr peerCosts clock with
        ⟨s', -, -, hlost, -, hout⟩ | ⟨-, hout⟩
      · rw [hout]
        exact (h.removePeer addr).of_eq hlost.peerAncestry
      · rw [hout]
        exact h.removePeer addr
    · unfold removeActivePeer
      rw [if_pos haddr]
      exact h
  | sendPending nowMs env => exact h.of_eq (congrArg _ (sendTreeAnnounces_treeState ..))
  | promotePeer addr pubkey env => exact h.of_eq (congrArg _ (n.promotePeer_treeState env addr pubkey))
  | rehash ancestry =>
    unfold next step
    simp only
    split_ifs with hre
    · intro p c hc
      rw [Map.lookup_rehash hre] at hc
      exact h p c hc
    · exact h

end TreeNode

end Records

/-! ## Reachable lengths -/

section Reached

variable {SecretKey PublicKey Signature F : Type}
variable [ChaCha20Poly1305] [SchnorrEncoding Signature]

/-- The most entries of an ancestry that one packet brings. -/
def MAX_RECEIVED_ENTRIES : Nat := 2047

/-- An event of a node on its transports: its announce, if it is one, came in a packet. -/
def TreeEvent.Delivered (e : TreeEvent PublicKey Signature F) : Prop :=
  match e with
  | .announce _ received _ _ _ _ => ∃ data payload, HandedOver data ∧
      CarriesAnnounce PublicKey data payload ∧ TreeAnnounce.decode payload = .ok received
  | _ => True

theorem TreeEvent.Delivered.ownHead {e : TreeEvent PublicKey Signature F} (h : e.Delivered) :
    e.OwnHead := by
  cases e with
  | announce =>
    obtain ⟨_, _, -, -, hdec⟩ := h
    exact TreeAnnounce.ownHead_of_decode hdec
  | _ => exact trivial

/-- The ancestry of an announce has the room of its packet. -/
theorem TreeEvent.Delivered.length_entries_le (hsized : ChaCha20Poly1305.Sized)
    {e : TreeEvent PublicKey Signature F} (h : e.Delivered) :
    e.Brings fun c => c.entries.length ≤ MAX_RECEIVED_ENTRIES := by
  cases e with
  | announce source received =>
    obtain ⟨data, payload, hpacket, hcarries, hdec⟩ := h
    have hfits := (TreeAnnounce.decode_eq_ok_iff.mp hdec).fits
    have hpayload := hcarries.length_le hsized
    have hdata := hpacket.length_le
    unfold MAX_PACKET_SIZE at hdata
    change received.ancestry.entries.length ≤ MAX_RECEIVED_ENTRIES
    unfold MAX_RECEIVED_ENTRIES
    omega
  | _ => exact trivial

variable [SigningKey SecretKey Signature] [VerifyingKey PublicKey Signature] [LinkCost F]

variable (SecretKey PublicKey) in
/-- The tree states of a node: what its runs reach from `Node::new` on. -/
inductive TreeState.Reached : TreeState Signature F → Prop
  | run (identity : Identity SecretKey) (timestamp : Nat) (hysteresis : F)
      (holdDownSecs flapThreshold flapWindowSecs flapDampeningSecs reevalIntervalSecs
        announceMinIntervalMs : Nat)
      (events : List { e : TreeEvent PublicKey Signature F // e.Delivered }) :
      Reached (EventRun.exec (fun n e => TreeNode.next n e.1)
        (TreeNode.new identity timestamp hysteresis holdDownSecs flapThreshold flapWindowSecs
          flapDampeningSecs reevalIntervalSecs announceMinIntervalMs :
          TreeNode SecretKey PublicKey Signature F) events).treeState

/-- **Lengths.** The ancestries that a tree state holds: the recorded ones and its own. -/
theorem TreeState.Reached.length_le (hsized : ChaCha20Poly1305.Sized) {s : TreeState Signature F}
    (h : s.Reached SecretKey PublicKey) :
    (s.Recorded fun c => c.entries.length ≤ MAX_RECEIVED_ENTRIES) ∧
      s.myCoords.entries.length ≤ MAX_RECEIVED_ENTRIES + 1 := by
  obtain ⟨identity, timestamp, hysteresis, holdDownSecs, flapThreshold, flapWindowSecs,
    flapDampeningSecs, reevalIntervalSecs, announceMinIntervalMs, events⟩ := h
  obtain ⟨n, hn⟩ : ∃ n : TreeNode SecretKey PublicKey Signature F, n = .new identity timestamp
    hysteresis holdDownSecs flapThreshold flapWindowSecs flapDampeningSecs reevalIntervalSecs
    announceMinIntervalMs := ⟨_, rfl⟩
  have hinv : n.Inv := by
    rw [hn]
    exact TreeNode.inv_new _ _ _ _ _ _ _ _ _
  have hempty : n.treeState.Recorded fun c => c.entries.length ≤ MAX_RECEIVED_ENTRIES := by
    obtain ⟨sig, hts⟩ := TreeNode.new_treeState identity timestamp hysteresis holdDownSecs
      flapThreshold flapWindowSecs flapDampeningSecs reevalIntervalSecs announceMinIntervalMs n hn
    rw [hts]
    exact nofun
  have hrun : EventRun.Always (fun n (e : { e : TreeEvent PublicKey Signature F // e.Delivered }) =>
      TreeNode.next n e.1)
      (fun n : TreeNode SecretKey PublicKey Signature F => n.Inv ∧
        n.treeState.Recorded fun c => c.entries.length ≤ MAX_RECEIVED_ENTRIES) n events :=
    .of_step (fun n e hn => ⟨hn.1.next e.2.ownHead,
      TreeNode.recorded_next hn.1.identity hn.2 (e.2.length_entries_le hsized)⟩) ⟨hinv, hempty⟩
  rw [← hn]
  obtain ⟨hend, hrecorded⟩ := hrun.exec
  exact ⟨hrecorded, hend.treeState.anchored.length_le hrecorded⟩

variable (SecretKey PublicKey Signature F) in
/-- A length that an ancestry in some tree state has, recorded or its own. -/
def Holdable (n : Nat) : Prop :=
  ∃ s : TreeState Signature F, s.Reached SecretKey PublicKey ∧
    (s.myCoords.entries.length = n ∨ ∃ p c, s.peerAncestry.lookup p = some c ∧ c.entries.length = n)

theorem Holdable.le (hsized : ChaCha20Poly1305.Sized) {n : Nat}
    (h : Holdable SecretKey PublicKey Signature F n) : n ≤ MAX_RECEIVED_ENTRIES + 1 := by
  obtain ⟨s, hs, hn⟩ := h
  obtain ⟨hrecorded, hown⟩ := hs.length_le hsized
  rcases hn with rfl | ⟨p, c, hc, rfl⟩
  · exact hown
  · exact (hrecorded p c hc).trans (Nat.le_succ _)

/-- **The codec.** A signed announce of a declaring node comes back whenever its ancestry has a
length that a tree state can hold, and re-encoding an accepted payload gives the bytes that were
consumed. -/
theorem TreeAnnounce.codec_of_holdable [LawfulSchnorr Signature]
    (hsized : ChaCha20Poly1305.Sized) :
    (∀ a : TreeAnnounce Signature, a.declaration.isSigned = true → a.OwnHead → a.InRange →
      Holdable SecretKey PublicKey Signature F a.ancestry.entries.length → a.RoundTrips) ∧
    ∀ (bytes : Bytes) (a : TreeAnnounce Signature), decode bytes = .ok a →
      a.encode = .ok (0x10 :: bytes.take (99 + a.ancestry.entries.length * 32)) := by
  refine ⟨fun a hsigned hhead hrange hlen => ?_, fun _ _ => encode_decode⟩
  refine decode_encode hsigned hhead hrange ((hlen.le hsized).trans ?_)
  decide

end Reached

namespace Sample

scoped instance : SigningKey Scalar SchnorrBytes := ⟨fun _ _ => zeroSignature⟩

scoped instance : VerifyingKey Point SchnorrBytes := ⟨fun _ _ _ => true⟩

/-- Peer 7 under root 3. -/
def announced : TreeAnnounce SchnorrBytes :=
  ⟨⟨7, 3, 1, 0, some zeroSignature⟩, .extend ⟨7, 1, 0⟩ (.rootWithMeta 3 1 0)⟩

/-- The receiving end of peer 7's session. -/
def receiving : NoiseSession Point :=
  NoiseSession.fromHandshake .responder (CipherState.new (List.replicate 32 8))
    (CipherState.new (List.replicate 32 9)) [] ⟨3⟩

/-- Header and plaintext of the frame that brings the announce. -/
def announceFrame : Bytes × Bytes :=
  (buildEstablishedHeader 9 0 0 (5 + (announced.payload zeroSignature).length),
    leBytes 4 0 ++ 0x10 :: announced.payload zeroSignature)

/-- The plaintext as peer 7 sealed it. -/
def sealedAnnounce : Bytes := announceFrame.2 ++
  tag (List.replicate 32 9) (CipherState.counterToNonce 0) announceFrame.1 announceFrame.2

/-- The frame. -/
def announcePacket : Bytes := announceFrame.1 ++ sealedAnnounce

theorem handedOver_announcePacket : HandedOver announcePacket :=
  .buffer 1280 announcePacket (by decide +kernel)

theorem carriesAnnounce_announcePacket :
    CarriesAnnounce Point announcePacket (announced.payload zeroSignature) := by
  have hopened : (receiving.decryptFrame ⟨sealedAnnounce, 0, announceFrame.1⟩).2 =
      .ok announceFrame.2 := by
    decide +kernel
  exact .mk ⟨0, 5 + (announced.payload zeroSignature).length, 9, 0, announceFrame.1⟩ sealedAnnounce
    receiving _ announceFrame.2 0 (0x10 :: announced.payload zeroSignature) (by decide +kernel)
    (by decide +kernel) (Prod.ext rfl hopened) (by decide +kernel) rfl (by decide +kernel)

theorem decode_announced :
    TreeAnnounce.decode (announced.payload zeroSignature) = .ok announced := by
  have hrange : announced.InRange := ⟨by decide, by decide, by decide⟩
  obtain ⟨bytes, hencode, hdecode⟩ := TreeAnnounce.decode_encode (a := announced) rfl rfl hrange
    (by decide)
  rw [TreeAnnounce.encode_of_signature rfl] at hencode
  cases hencode
  exact hdecode

/-- Node 5 promotes peer 7, and the packet arrives. -/
def deliveries : List { e : TreeEvent Point SchnorrBytes (Option Nat) // e.Delivered } :=
  [⟨.promotePeer 7 ⟨3⟩ RootElection.env, trivial⟩,
    ⟨.announce 7 announced ∅ ⟨1, 1000, 1⟩ ⟨1, 1000, 1⟩ RootElection.env, announcePacket, _,
      handedOver_announcePacket, carriesAnnounce_announcePacket, decode_announced⟩]

/-- Node 5 afterwards. -/
def below7 : TreeState SchnorrBytes (Option Nat) :=
  (EventRun.exec (fun n e => TreeNode.next n e.1)
    (TreeNode.new ⟨5, ⟨5⟩⟩ 0 (some 0) 0 4 60 120 60 500 :
      TreeNode Scalar Point SchnorrBytes (Option Nat)) deliveries).treeState

theorem reached_below7 : below7.Reached Scalar Point := .run _ _ _ _ _ _ _ _ _ deliveries

/-- What node 5 announces below peer 7, three entries long, comes back. -/
theorem codec_of_holdable_below7 :
    below7.myCoords.entries.length = 3 ∧
      TreeAnnounce.RoundTrips ⟨below7.myDeclaration, below7.myCoords⟩ := by
  have hrange : TreeAnnounce.InRange ⟨below7.myDeclaration, below7.myCoords⟩ :=
    ⟨by decide +kernel, by decide +kernel, by decide +kernel⟩
  have hhead : below7.myCoords.nodeAddr = below7.myDeclaration.nodeAddr := by decide +kernel
  have hholdable : Holdable Scalar Point SchnorrBytes (Option Nat) below7.myCoords.entries.length :=
    ⟨below7, reached_below7, .inl rfl⟩
  exact ⟨by decide +kernel,
    (TreeAnnounce.codec_of_holdable aead_sized).1 _ (by decide +kernel) hhead hrange hholdable⟩

end Sample

end Fips
