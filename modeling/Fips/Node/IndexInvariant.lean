import Fips.Node.FrameOutcome
import Fips.Node.IndexBooks

/-!
# The books of a node

`LinkNode.books` reads the index books off a node; `Accounted` is index accounting, `Inv` what the
events of the link layer keep. The lemmas are the changes of the tables those events make, one for
each step of the books: a connection takes or gives back an index, settles as a peer, a slot of a peer
takes, moves or gives back one, a peer is removed.

## Results

* `Inv.addConnection`, `Inv.dropConnection`, `Inv.settle`: connections.
* `Inv.takeSlot`, `Inv.moveSlot`, `Inv.releaseSlot`, `Inv.cutover`, `Inv.removePeer`: peers.
-/

open Checked

namespace Fips

open Function (update update_self update_of_ne update_eq_self)

/-! ## The books of a node -/

/-- The slots of a peer, as far as they exclude each other. -/
structure ActivePeer.Tidy {SecretKey PublicKey ν : Type} (p : ActivePeer SecretKey PublicKey ν) :
    Prop where
  transport : p.transportId.isSome
  pending : p.pendingOurIndex.isSome → p.pendingNewSession.isSome
  rekey : p.rekeyOurIndex.isSome → p.rekeyInProgress = true
  exclusive : p.rekeyInProgress = true → p.pendingNewSession = none

section Peer

variable {SecretKey PublicKey ν : Type} {p q : ActivePeer SecretKey PublicKey ν}

/-- What a peer holds is read off its indices. -/
theorem ActivePeer.held_of_book (h : q.book = p.book) : q.held = p.held := by
  unfold book at h
  simp only [Prod.mk.injEq] at h
  refine funext fun s => ?_
  cases s with
  | current => exact h.1
  | rekey => exact h.2.1
  | pending => exact h.2.2.1
  | previous => exact h.2.2.2.1

theorem ActivePeer.Tidy.of_book (hp : p.Tidy) (h : q.book = p.book) : q.Tidy := by
  unfold book at h
  simp only [Prod.mk.injEq] at h
  obtain ⟨-, hrekey, hpending, -, htransport, hprogress, hsession⟩ := h
  refine ⟨?_, ?_, ?_, ?_⟩
  · rw [htransport]
    exact hp.transport
  · rw [hpending, hsession]
    exact hp.pending
  · rw [hrekey, hprogress]
    exact hp.rekey
  · rw [hprogress]
    intro h
    have hnone := hp.exclusive h
    rw [hnone] at hsession
    exact Option.not_isSome_iff_eq_none.mp (by rw [hsession]; simp)

end Peer

namespace LinkNode

variable {SecretKey PublicKey ν μ : Type}

/-- The books of a node. -/
def books (n : LinkNode SecretKey PublicKey ν μ) : IndexBooks where
  held h :=
    match h with
    | .connection l => (n.connections.lookup l).bind (·.ourIndex)
    | .slot a s => (n.peers.lookup a).bind (·.held s)
  registry := n.peersByIndex.lookup
  allocated := n.allocatedIndices

/-- **Index accounting** of a node. -/
def Accounted (n : LinkNode SecretKey PublicKey ν μ) : Prop := n.books.Accounted

section Books

variable {n : LinkNode SecretKey PublicKey ν μ} {a : NodeAddr}
  {p : ActivePeer SecretKey PublicKey ν}

/-- The books have of a peer what it holds. -/
theorem slots_books (hp : n.peers.lookup a = some p) : n.books.slots a = p.held := by
  refine funext fun s => ?_
  change (n.peers.lookup a).bind _ = _
  rw [hp]
  rfl

theorem slots_books_of_none (hp : n.peers.lookup a = none) : n.books.slots a = fun _ => none := by
  refine funext fun s => ?_
  change (n.peers.lookup a).bind _ = _
  rw [hp]
  rfl

/-- A connection enters the books with its index. -/
theorem books_insertConnection (n : LinkNode SecretKey PublicKey ν μ) (l : LinkId)
    (c : PeerConnection SecretKey PublicKey) :
    books { n with connections := n.connections.insert l c } =
      { n.books with held := update n.books.held (.connection l) c.ourIndex } := by
  refine IndexBooks.ext (funext fun h => ?_) rfl rfl
  cases h with
  | connection l' =>
    change ((n.connections.insert l c).lookup l').bind _ = update n.books.held _ _ (.connection l')
    rw [Map.lookup_insert']
    split_ifs with hl
    · rw [hl, update_self]
      rfl
    · rw [update_of_ne (fun heq => by cases heq; exact hl rfl)]
      rfl
  | slot a s =>
    change n.books.held (.slot a s) = update n.books.held (.connection l) c.ourIndex (.slot a s)
    rw [update_of_ne (fun heq => by cases heq)]

/-- A connection leaves the books with its index. -/
theorem books_eraseConnection (n : LinkNode SecretKey PublicKey ν μ) (l : LinkId) :
    books { n with connections := n.connections.erase l } =
      { n.books with held := update n.books.held (.connection l) none } := by
  refine IndexBooks.ext (funext fun h => ?_) rfl rfl
  cases h with
  | connection l' =>
    change ((n.connections.erase l).lookup l').bind _ = update n.books.held _ _ (.connection l')
    rw [Map.lookup_erase']
    split_ifs with hl
    · rw [hl, update_self]
      rfl
    · rw [update_of_ne (fun heq => by cases heq; exact hl rfl)]
      rfl
  | slot a s =>
    change n.books.held (.slot a s) = update n.books.held (.connection l) none (.slot a s)
    rw [update_of_ne (fun heq => by cases heq)]

/-- A peer enters the books with all of its slots. -/
theorem books_insertPeer (n : LinkNode SecretKey PublicKey ν μ) (a : NodeAddr)
    (p : ActivePeer SecretKey PublicKey ν) :
    books { n with peers := n.peers.insert a p } = n.books.setPeer a p.held := by
  refine IndexBooks.ext (funext fun h => ?_) rfl rfl
  cases h with
  | connection l => rfl
  | slot a' s =>
    change ((n.peers.insert a p).lookup a').bind _ = if a' = a then _ else _
    rw [Map.lookup_insert']
    split_ifs <;> rfl

/-- A peer leaves the books with all of its slots. -/
theorem books_erasePeer (n : LinkNode SecretKey PublicKey ν μ) (a : NodeAddr) :
    books { n with peers := n.peers.erase a } = n.books.setPeer a fun _ => none := by
  refine IndexBooks.ext (funext fun h => ?_) rfl rfl
  cases h with
  | connection l => rfl
  | slot a' s =>
    change ((n.peers.erase a).lookup a').bind _ = if a' = a then _ else _
    rw [Map.lookup_erase']
    split_ifs <;> rfl

theorem registry_insertIndex (m : Map (TransportId × SessionIndex) NodeAddr)
    (k : TransportId × SessionIndex) (a : NodeAddr) :
    (m.insert k a).lookup = update m.lookup k (some a) := by
  refine funext fun k' => ?_
  rw [Map.lookup_insert']
  split_ifs with hk
  · rw [hk, update_self]
  · rw [update_of_ne hk]

end Books

/-! ## The invariant -/

/-- What the events keep. -/
structure Inv (n : LinkNode SecretKey PublicKey ν μ) : Prop where
  books : n.books.Inv
  peers : ∀ a p, n.peers.lookup a = some p → p.Tidy
  connections : ∀ l c, n.connections.lookup l = some c → c.ourIndex.isSome ∧ c.transportId.isSome
  fresh : ∀ l, n.nextLinkId ≤ l → n.connections.lookup l = none
  waiting : ∀ pc ∈ n.pendingConnects,
    n.connections.lookup pc.linkId = none ∧ pc.linkId < n.nextLinkId
  once : (n.pendingConnects.map (·.linkId)).Nodup

section Inv

variable {n n' : LinkNode SecretKey PublicKey ν μ} {a : NodeAddr} {l : LinkId} {i : SessionIndex}
  {p : ActivePeer SecretKey PublicKey ν} {c : PeerConnection SecretKey PublicKey}

/-- The invariant has the books balanced. -/
theorem Inv.accounted (h : n.Inv) : n.Accounted := h.books.toAccounted

/-- The tables the invariant reads. -/
theorem Inv.congr (h : n.Inv) (hpeers : n'.peers = n.peers)
    (hindex : n'.peersByIndex = n.peersByIndex)
    (hallocated : n'.allocatedIndices = n.allocatedIndices)
    (hconnections : n'.connections = n.connections) (hnext : n'.nextLinkId = n.nextLinkId)
    (hwaiting : n'.pendingConnects = n.pendingConnects) : n'.Inv := by
  have hbooks : n'.books = n.books := by
    unfold LinkNode.books
    rw [hpeers, hindex, hallocated, hconnections]
  refine ⟨?_, ?_, ?_, ?_, ?_, ?_⟩
  · rw [hbooks]
    exact h.books
  · rw [hpeers]
    exact h.peers
  · rw [hconnections]
    exact h.connections
  · rw [hconnections, hnext]
    exact h.fresh
  · rw [hconnections, hnext, hwaiting]
    exact h.waiting
  · rw [hwaiting]
    exact h.once

/-- A new connection takes a free index. -/
theorem Inv.addConnection (h : n.Inv) (hl : n.connections.lookup l = none) (hnext : l < n.nextLinkId)
    (hwaiting : ∀ pc ∈ n.pendingConnects, pc.linkId ≠ l) (hi : i ∉ n.allocatedIndices)
    (hindex : c.ourIndex = some i) (htid : c.transportId.isSome) :
    Inv { n with
      allocatedIndices := i :: n.allocatedIndices
      connections := n.connections.insert l c } := by
  have hheld : n.books.held (.connection l) = none := by
    change (n.connections.lookup l).bind _ = none
    rw [hl]
    rfl
  refine ⟨?_, h.peers, fun l' c' hc' => ?_, fun l' hl' => ?_, fun pc hpc => ?_, h.once⟩
  · have htaken := h.books.take hheld hi
    rw [← hindex] at htaken
    have hbooks := books_insertConnection
      { n with allocatedIndices := i :: n.allocatedIndices } l c
    exact hbooks ▸ htaken
  · change (n.connections.insert l c).lookup l' = some c' at hc'
    rw [Map.lookup_insert'] at hc'
    split_ifs at hc' with heq
    · cases hc'
      rw [hindex]
      exact ⟨rfl, htid⟩
    · exact h.connections l' c' hc'
  · have hne : l' ≠ l := Nat.ne_of_gt (Nat.lt_of_lt_of_le hnext hl')
    change (n.connections.insert l c).lookup l' = none
    rw [Map.lookup_insert', if_neg hne]
    exact h.fresh l' hl'
  · refine ⟨?_, (h.waiting pc hpc).2⟩
    change (n.connections.insert l c).lookup pc.linkId = none
    rw [Map.lookup_insert', if_neg (hwaiting pc hpc)]
    exact (h.waiting pc hpc).1

/-- Erasing a connection keeps what is said of the others. -/
theorem Inv.of_eraseConnection (h : n.Inv) (n' : LinkNode SecretKey PublicKey ν μ)
    (hbooks : (LinkNode.books { n' with connections := n.connections.erase l }).Inv)
    (hpeers : ∀ a p, n'.peers.lookup a = some p → p.Tidy) (hnext : n'.nextLinkId = n.nextLinkId)
    (hwaiting : n'.pendingConnects = n.pendingConnects) :
    Inv { n' with connections := n.connections.erase l } := by
  have hlookup : ∀ l', n.connections.lookup l' = none → (n.connections.erase l).lookup l' = none := by
    intro l' hl'
    rw [Map.lookup_erase', hl', ite_self]
  refine ⟨hbooks, hpeers, fun l' c' hc' => ?_, fun l' hl' => ?_, fun pc hpc => ?_, ?_⟩
  · change (n.connections.erase l).lookup l' = some c' at hc'
    rw [Map.lookup_erase'] at hc'
    split_ifs at hc' with heq
    exact h.connections l' c' hc'
  · exact hlookup l' (h.fresh l' (hnext ▸ hl'))
  · have hpc' := h.waiting pc (hwaiting ▸ hpc)
    exact ⟨hlookup pc.linkId hpc'.1, lt_of_lt_of_eq hpc'.2 hnext.symm⟩
  · change (n'.pendingConnects.map (·.linkId)).Nodup
    rw [hwaiting]
    exact h.once

/-- A dropped connection gives its index back. -/
theorem Inv.dropConnection (h : n.Inv) (hc : n.connections.lookup l = some c)
    (hindex : c.ourIndex = some i) :
    Inv { n with
      connections := n.connections.erase l
      allocatedIndices := n.allocatedIndices.erase i } := by
  have hheld : n.books.held (.connection l) = some i := by
    change (n.connections.lookup l).bind _ = some i
    rw [hc]
    exact hindex
  refine h.of_eraseConnection
    { n with allocatedIndices := n.allocatedIndices.erase i } ?_ h.peers rfl rfl
  have hbooks := books_eraseConnection
    { n with allocatedIndices := n.allocatedIndices.erase i } l
  exact hbooks ▸ h.books.releaseConnection hheld

/-- A change of a connection the bookkeeping does not read. -/
theorem Inv.modifyConnection (h : n.Inv)
    (hc : n.connections.lookup l = some c) {c' : PeerConnection SecretKey PublicKey}
    (hindex : c'.ourIndex = c.ourIndex) (htid : c'.transportId = c.transportId) :
    Inv { n with connections := n.connections.insert l c' } := by
  have hheld : n.books.held (.connection l) = c.ourIndex := by
    change (n.connections.lookup l).bind _ = _
    rw [hc]
    rfl
  have hlookup : ∀ l', n.connections.lookup l' = none →
      (n.connections.insert l c').lookup l' = none := by
    intro l' hl'
    rw [Map.lookup_insert', if_neg (fun heq => ?_), hl']
    rw [heq, hc] at hl'
    cases hl'
  refine ⟨?_, h.peers, fun l' c'' hc'' => ?_, fun l' hl' => ?_, fun pc hpc => ?_, h.once⟩
  · rw [books_insertConnection, hindex, ← hheld, update_eq_self]
    exact h.books
  · change (n.connections.insert l c').lookup l' = some c'' at hc''
    rw [Map.lookup_insert'] at hc''
    split_ifs at hc'' with heq
    · cases hc''
      rw [hindex, htid]
      exact h.connections l c hc
    · exact h.connections l' c'' hc''
  · exact hlookup l' (h.fresh l' hl')
  · exact ⟨hlookup pc.linkId (h.waiting pc hpc).1, (h.waiting pc hpc).2⟩

/-! ### One peer -/

variable {q : ActivePeer SecretKey PublicKey ν} {s s' : Slot} {tid : TransportId}

/-- A tidy peer may be inserted. -/
theorem tidy_insert (h : n.Inv) (hq : q.Tidy) :
    ∀ a' p', (n.peers.insert a q).lookup a' = some p' → p'.Tidy := by
  intro a' p' hp'
  rw [Map.lookup_insert'] at hp'
  split_ifs at hp' with ha
  · cases hp'
    exact hq
  · exact h.peers a' p' hp'

/-- A write of one peer whose slots are as they were. -/
theorem Inv.insertPeer (h : n.Inv) (hp : n.peers.lookup a = some p) (hheld : q.held = p.held)
    (hq : q.Tidy) : Inv { n with peers := n.peers.insert a q } := by
  refine ⟨?_, tidy_insert h hq, h.connections, h.fresh, h.waiting, h.once⟩
  rw [books_insertPeer, hheld, ← slots_books hp, IndexBooks.setPeer_slots]
  exact h.books

/-- A slot takes a free index. -/
theorem Inv.takeSlot (h : n.Inv) (hp : n.peers.lookup a = some p) (hs : p.held s = none)
    (hheld : q.held = update p.held s (some i)) (hq : q.Tidy) (hi : i ∉ n.allocatedIndices) :
    Inv { n with
      allocatedIndices := i :: n.allocatedIndices
      peers := n.peers.insert a q } := by
  refine ⟨?_, tidy_insert h hq, h.connections, h.fresh, h.waiting, h.once⟩
  have hfree : n.books.held (.slot a s) = none := (congrFun (slots_books hp) s).trans hs
  have htaken := h.books.take hfree hi
  rw [← IndexBooks.held_setPeer_update, slots_books hp, ← hheld] at htaken
  have hbooks := books_insertPeer { n with allocatedIndices := i :: n.allocatedIndices } a q
  exact hbooks ▸ htaken

/-- The index of one slot goes to another. -/
theorem Inv.moveSlot (h : n.Inv) (hp : n.peers.lookup a = some p) (hs' : p.held s' = none)
    (hrekey : s' ≠ .rekey)
    (hheld : q.held = update (update p.held s none) s' (p.held s)) (hq : q.Tidy) :
    Inv { n with peers := n.peers.insert a q } := by
  refine ⟨?_, tidy_insert h hq, h.connections, h.fresh, h.waiting, h.once⟩
  rw [books_insertPeer, hheld, ← slots_books hp]
  exact h.books.moveSlot ((congrFun (slots_books hp) s').trans hs') hrekey

/-- An index a slot holds is registered. -/
theorem Inv.registerIndex (h : n.Inv) (hp : n.peers.lookup a = some p) (hs : p.held s = some i)
    (hrekey : s ≠ .rekey) (tid : TransportId) :
    Inv { n with peersByIndex := n.peersByIndex.insert (tid, i) a } := by
  refine ⟨?_, h.peers, h.connections, h.fresh, h.waiting, h.once⟩
  have hregistered := h.books.register ((congrFun (slots_books hp) s).trans hs) hrekey tid
  have hbooks : LinkNode.books { n with peersByIndex := n.peersByIndex.insert (tid, i) a } =
      ⟨n.books.held, update n.books.registry (tid, i) (some a), n.books.allocated⟩ :=
    IndexBooks.ext rfl (registry_insertIndex _ _ _) rfl
  rw [hbooks]
  exact hregistered

/-- No entry of the index but under one transport. -/
def OnlyUnder (n : LinkNode SecretKey PublicKey ν μ) (i : SessionIndex) (tid : TransportId) : Prop :=
  ∀ tid', n.peersByIndex.lookup (tid', i) ≠ none → tid' = tid

/-- An index that was registered under one transport only is not registered any more. -/
theorem lookup_eraseIndex (h : n.OnlyUnder i tid) (tid' : TransportId) :
    (n.peersByIndex.erase (tid, i)).lookup (tid', i) = none := by
  rw [Map.lookup_erase']
  split_ifs with heq
  · rfl
  · by_contra hne
    exact heq (congrArg (·, i) (h tid' hne))

theorem lookup_of_eraseIndex (m : Map (TransportId × SessionIndex) NodeAddr)
    (k k' : TransportId × SessionIndex) (b : NodeAddr) (h : (m.erase k).lookup k' = some b) :
    m.lookup k' = some b := by
  rw [Map.lookup_erase'] at h
  split_ifs at h
  exact h

/-- A slot gives its index back, with the one entry of it. -/
theorem Inv.releaseSlot (h : n.Inv) (hp : n.peers.lookup a = some p) (hs : p.held s = some i)
    (hheld : q.held = update p.held s none) (hq : q.Tidy) (honly : n.OnlyUnder i tid) :
    Inv { n with
      peers := n.peers.insert a q
      allocatedIndices := n.allocatedIndices.erase i
      peersByIndex := n.peersByIndex.erase (tid, i) } := by
  refine ⟨?_, tidy_insert h hq, h.connections, h.fresh, h.waiting, h.once⟩
  have hreleased := h.books.release (h := .slot a s) ((congrFun (slots_books hp) s).trans hs)
    (n.peersByIndex.erase (tid, i)).lookup
    (fun k b hk => lookup_of_eraseIndex _ _ k b hk) (lookup_eraseIndex honly)
  rw [← IndexBooks.held_setPeer_update, slots_books hp, ← hheld] at hreleased
  have hbooks := books_insertPeer { n with
    allocatedIndices := n.allocatedIndices.erase i
    peersByIndex := n.peersByIndex.erase (tid, i) } a q
  exact hbooks ▸ hreleased

/-- The index of a connection becomes the current one of a peer. -/
theorem Inv.settle (h : n.Inv) (hc : n.connections.lookup l = some c) (hindex : c.ourIndex = some i)
    (hcurrent : n.books.slots a .current = none)
    (hheld : q.held = update (n.books.slots a) .current (some i)) (hq : q.Tidy) (tid : TransportId) :
    Inv { n with
      connections := n.connections.erase l
      peers := n.peers.insert a q
      peersByIndex := n.peersByIndex.insert (tid, i) a } := by
  have hconn : n.books.held (.connection l) = some i := by
    change (n.connections.lookup l).bind _ = some i
    rw [hc]
    exact hindex
  refine h.of_eraseConnection { n with
    peers := n.peers.insert a q
    peersByIndex := n.peersByIndex.insert (tid, i) a } ?_ (tidy_insert h hq) rfl rfl
  have hmoved := h.books.move (.connection l) (.slot a .current) hcurrent
    (fun a' heq => by cases heq) fun j tid a' hj hreg => by
      obtain ⟨t, ht⟩ := h.books.registered tid j a' hreg
      have hsame := h.books.balanced.unique _ _ j hj ht
      cases hsame
  rw [hconn] at hmoved
  have hregistered := hmoved.register (a := a) (s := .current) (i := i) (update_self ..)
    (fun heq => by cases heq) tid
  convert hregistered using 1
  refine IndexBooks.ext ?_ (registry_insertIndex _ _ _) rfl
  have hbooks := books_insertPeer { n with connections := n.connections.erase l } a q
  have hslots : (LinkNode.books { n with connections := n.connections.erase l }).slots a =
      n.books.slots a := rfl
  change (LinkNode.books
    { n with connections := n.connections.erase l, peers := n.peers.insert a q }).held = _
  rw [hbooks, hheld, ← hslots, IndexBooks.held_setPeer_update, books_eraseConnection]

/-! ### What peers do -/

/-- Methods that touch none of the four tables leave the books. -/
theorem books_congr {n' : LinkNode SecretKey PublicKey ν μ} (hc : n'.connections = n.connections)
    (hsame : n.toNode.SameBooks n'.toNode) : n'.books = n.books := by
  refine IndexBooks.ext (funext fun h => ?_) ?_ hsame.allocatedIndices
  · cases h with
    | connection l =>
      change (n'.connections.lookup l).bind _ = (n.connections.lookup l).bind _
      rw [hc]
    | slot a s =>
      have hbook := hsame.peers a
      change (n'.peers.lookup a).bind _ = (n.peers.lookup a).bind _
      cases hp : n.peers.lookup a with
      | none =>
        rw [hp, Option.map_none, Option.map_eq_none_iff] at hbook
        rw [hbook]
      | some p =>
        obtain ⟨q, hq, hqp⟩ := hsame.lookup hp
        rw [hq]
        exact congrFun (ActivePeer.held_of_book hqp) s
  · change n'.peersByIndex.lookup = n.peersByIndex.lookup
    rw [hsame.peersByIndex]

/-- What leaves the bookkeeping alone keeps the invariant. -/
theorem Inv.of_sameBooks (h : n.Inv) {m : Node SecretKey PublicKey ν μ}
    (hsame : n.toNode.SameBooks m) : Inv { n with toNode := m } := by
  have hbooks : LinkNode.books { n with toNode := m } = n.books := books_congr rfl hsame
  refine ⟨?_, fun a q hq => ?_, h.connections, h.fresh, h.waiting, h.once⟩
  · rw [hbooks]
    exact h.books
  · have hbook := hsame.peers a
    change m.peers.lookup a = some q at hq
    rw [hq] at hbook
    obtain ⟨p, hp, hpq⟩ := Option.map_eq_some_iff.mp hbook.symm
    exact (h.peers a p hp).of_book hpq.symm

/-- A cutover moves the current index to the previous slot and the pending one to the current slot. -/
theorem ActivePeer.held_promote [Mmp ν] (p : ActivePeer SecretKey PublicKey ν)
    (session : NoiseSession PublicKey) (now : Nat) :
    (p.promote session now).held = update (update (update p.held .previous (p.held .current))
      .current (p.held .pending)) .pending none := by
  refine funext fun s => ?_
  cases s <;> simp [ActivePeer.held, ActivePeer.promote, update]

/-- **A cutover**, where no drain is under way. -/
theorem Inv.cutover [Mmp ν] (h : n.Inv) (hp : n.peers.lookup a = some p)
    (hprevious : p.pendingNewSession.isSome → p.previousOurIndex = none) (now : Nat) :
    Inv { n with peers := n.peers.insert a (p.cutoverToNewSession now).1 } := by
  have htidy := h.peers a p hp
  unfold ActivePeer.cutoverToNewSession
  cases hsession : p.pendingNewSession with
  | none => exact h.insertPeer hp rfl htidy
  | some session =>
    rw [hsession] at hprevious
    have hidle : p.rekeyInProgress = false := by
      cases hrekey : p.rekeyInProgress with
      | false => rfl
      | true =>
        rw [htidy.exclusive hrekey] at hsession
        cases hsession
    refine ⟨?_, tidy_insert h ⟨htidy.transport, ?_, ?_, ?_⟩, h.connections, h.fresh, h.waiting,
      h.once⟩
    · rw [books_insertPeer]
      change (n.books.setPeer a (p.promote session now).held).Inv
      rw [ActivePeer.held_promote, ← slots_books hp]
      exact h.books.cutover ((congrFun (slots_books hp) .previous).trans (hprevious rfl))
    · intro hpending
      cases hpending
    · intro hrekey
      exact absurd (htidy.rekey hrekey) (by rw [hidle]; decide)
    · intro hprogress
      cases hprogress

/-! ### Removal -/

/-- Every index of the peer is registered under this transport only. -/
def PeerOnlyUnder (n : LinkNode SecretKey PublicKey ν μ) (p : ActivePeer SecretKey PublicKey ν)
    (tid : TransportId) : Prop :=
  ∀ s i, p.held s = some i → n.OnlyUnder i tid

/-- A release gives the index back. -/
theorem allocatedIndices_releaseIndex (m : Node SecretKey PublicKey ν μ) (tid : TransportId)
    (o : Option SessionIndex) :
    (m.releaseIndex tid o).allocatedIndices = Ledger.giveBack m.allocatedIndices o := by
  cases o <;> rfl

/-- A release takes the index out of the registry, under one transport. -/
theorem lookup_releaseIndex (m : Node SecretKey PublicKey ν μ) (tid : TransportId)
    (o : Option SessionIndex) (k : TransportId × SessionIndex) :
    (m.releaseIndex tid o).peersByIndex.lookup k =
      if o.map (Prod.mk tid) = some k then none else m.peersByIndex.lookup k := by
  cases o with
  | none => simp [Node.releaseIndex]
  | some i =>
    change (m.peersByIndex.erase (tid, i)).lookup k = _
    rw [Map.lookup_erase']
    simp [eq_comm]

/-- A peer that is removed gives back all four of its indices. -/
theorem allocatedIndices_removeActivePeer {m : Node SecretKey PublicKey ν μ}
    (hp : m.peers.lookup a = some p) (htid : p.transportId = some tid) :
    (Node.removeActivePeer a m).allocatedIndices =
      Ledger.giveBack (Ledger.giveBack (Ledger.giveBack (Ledger.giveBack m.allocatedIndices
        p.ourIndex) p.rekeyOurIndex) p.pendingOurIndex) p.previousOurIndex := by
  unfold Node.removeActivePeer Node.releaseIndices
  simp only [hp, htid]
  rw [allocatedIndices_releaseIndex, allocatedIndices_releaseIndex, allocatedIndices_releaseIndex]
  cases p.rekeyOurIndex <;> simp only [allocatedIndices_releaseIndex]

/-- A peer that is removed takes its indices out of the registry, all under its present transport. -/
theorem lookup_peersByIndex_removeActivePeer {m : Node SecretKey PublicKey ν μ}
    (hp : m.peers.lookup a = some p) (htid : p.transportId = some tid)
    (k : TransportId × SessionIndex) :
    (Node.removeActivePeer a m).peersByIndex.lookup k =
      if p.previousOurIndex.map (Prod.mk tid) = some k then none
      else if p.pendingOurIndex.map (Prod.mk tid) = some k then none
      else if p.rekeyOurIndex.map (Prod.mk tid) = some k then none
      else if p.ourIndex.map (Prod.mk tid) = some k then none else m.peersByIndex.lookup k := by
  unfold Node.removeActivePeer Node.releaseIndices
  simp only [hp, htid]
  rw [lookup_releaseIndex, lookup_releaseIndex, lookup_releaseIndex]
  cases p.rekeyOurIndex <;> simp only [lookup_releaseIndex]

/-- A removal adds no entry of the index. -/
theorem lookup_of_removeActivePeer {m : Node SecretKey PublicKey ν μ} {b : NodeAddr}
    {k : TransportId × SessionIndex} (hp : m.peers.lookup a = some p)
    (htid : p.transportId = some tid)
    (hk : (Node.removeActivePeer a m).peersByIndex.lookup k = some b) :
    m.peersByIndex.lookup k = some b := by
  rw [lookup_peersByIndex_removeActivePeer hp htid] at hk
  split_ifs at hk
  exact hk

/-- It removes the entry of every index the peer held. -/
theorem lookup_removeActivePeer_of_held {m : Node SecretKey PublicKey ν μ}
    (hp : m.peers.lookup a = some p) (htid : p.transportId = some tid) (hs : p.held s = some i) :
    (Node.removeActivePeer a m).peersByIndex.lookup (tid, i) = none := by
  rw [lookup_peersByIndex_removeActivePeer hp htid]
  have hheld : (p.held s).map (Prod.mk tid) = some (tid, i) := congrArg (Option.map _) hs
  split_ifs with h₁ h₂ h₃ h₄ <;> try rfl
  cases s with
  | current => exact absurd hheld h₄
  | rekey => exact absurd hheld h₃
  | pending => exact absurd hheld h₂
  | previous => exact absurd hheld h₁

theorem peers_removeActivePeer {m : Node SecretKey PublicKey ν μ}
    (hp : m.peers.lookup a = some p) : (Node.removeActivePeer a m).peers = m.peers.erase a := by
  unfold Node.removeActivePeer
  simp only [hp]
  exact Node.peers_releaseIndices _ p

/-- **A removed peer** gives back its indices, where each is registered under its transport only. -/
theorem Inv.removePeer (h : n.Inv) (hp : n.peers.lookup a = some p) (htid : p.transportId = some tid)
    (honly : n.PeerOnlyUnder p tid) : Inv { n with toNode := Node.removeActivePeer a n.toNode } := by
  refine ⟨?_, fun a' q hq => ?_, h.connections, h.fresh, h.waiting, h.once⟩
  · have hreleased := h.books.releasePeer (a := a)
      (Node.removeActivePeer a n.toNode).peersByIndex.lookup
      (fun _ _ hk => lookup_of_removeActivePeer hp htid hk)
      (fun s i tid' hi => by
        rw [slots_books hp] at hi
        have hgone := lookup_removeActivePeer_of_held hp htid hi
        by_contra hne
        cases hentry : (Node.removeActivePeer a n.toNode).peersByIndex.lookup (tid', i) with
        | none => exact hne hentry
        | some b =>
          have hreg := lookup_of_removeActivePeer hp htid hentry
          obtain rfl := honly s i hi tid' (by rw [hreg]; simp)
          rw [hgone] at hentry
          cases hentry)
    convert hreleased using 1
    refine IndexBooks.ext ?_ rfl ?_
    · rw [← books_erasePeer]
      unfold LinkNode.books
      simp only [peers_removeActivePeer hp]
    · refine (allocatedIndices_removeActivePeer hp htid).trans ?_
      have hslots : ∀ s, n.books.held (.slot a s) = p.held s := congrFun (slots_books hp)
      simp only [IndexBooks.peerHolders, List.foldl_cons, List.foldl_nil, hslots]
      rfl
  · change (Node.removeActivePeer a n.toNode).peers.lookup a' = some q at hq
    rw [peers_removeActivePeer hp, Map.lookup_erase'] at hq
    split_ifs at hq
    exact h.peers a' q hq

/-- A peer that holds nothing is dropped. -/
theorem Inv.erasePeer (h : n.Inv) (hnone : n.books.slots a = fun _ => none) :
    Inv { n with peers := n.peers.erase a } := by
  refine ⟨?_, fun a' q hq => ?_, h.connections, h.fresh, h.waiting, h.once⟩
  · rw [books_erasePeer, ← hnone, IndexBooks.setPeer_slots]
    exact h.books
  · change (n.peers.erase a).lookup a' = some q at hq
    rw [Map.lookup_erase'] at hq
    split_ifs at hq
    exact h.peers a' q hq

/-- A peer that holds its current index only is dropped with it. -/
theorem Inv.dropPeer (h : n.Inv) (hp : n.peers.lookup a = some p) (hi : p.ourIndex = some i)
    (hothers : ∀ s, s ≠ .current → p.held s = none) (honly : n.OnlyUnder i tid) :
    Inv { n with
      peers := n.peers.erase a
      allocatedIndices := n.allocatedIndices.erase i
      peersByIndex := n.peersByIndex.erase (tid, i) } := by
  have hempty : update (n.books.slots a) .current none = fun _ => none := by
    refine funext fun s => ?_
    rw [slots_books hp]
    by_cases hs : s = .current
    · rw [hs, update_self]
    · rw [update_of_ne hs, hothers s hs]
  refine ⟨?_, fun a' q hq => ?_, h.connections, h.fresh, h.waiting, h.once⟩
  · have hreleased := h.books.release (h := .slot a .current)
      ((congrFun (slots_books hp) .current).trans hi) (n.peersByIndex.erase (tid, i)).lookup
      (fun k b hk => lookup_of_eraseIndex _ _ k b hk) (lookup_eraseIndex honly)
    rw [← IndexBooks.held_setPeer_update, hempty] at hreleased
    have hbooks := books_erasePeer { n with
      allocatedIndices := n.allocatedIndices.erase i
      peersByIndex := n.peersByIndex.erase (tid, i) } a
    exact hbooks ▸ hreleased
  · change (n.peers.erase a).lookup a' = some q at hq
    rw [Map.lookup_erase'] at hq
    split_ifs at hq
    exact h.peers a' q hq

end Inv

end LinkNode

end Fips
