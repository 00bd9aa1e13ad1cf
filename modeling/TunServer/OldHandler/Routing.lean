import TunServer.OldHandler.Loop

/-!
# Who gets a packet: `Handler::handleUpStream`

The same packet object is offered to every connection, an answer is written into it, and
`canHandle` looks at its source only.

* `Routed`       a packet goes to one session at most, and only to its own if that is not closed;
* `OneServer`, `NoneBehind`   what rules out the two ways a packet is taken for another's;
* `Sound`        the condition on a step; `run_routed` the result for whole runs;
* `Kept`         no call of the other thread opens a session or moves its ends;
* `Distinct`     open sessions have different clients: a session is opened for a client that has
                 none.
-/

set_option linter.unusedVariables false

namespace TunServer.OldHandler

open Session (Data Shared Packet Incoming Event Fault ClientInput ServerInput SendResult Addressed
  synPacket ackPacket)

/-! ## the property and the condition -/

/-- the packet as it was read has been delivered to one session at most, and to a session that was
not closed only if its ends are those of the packet -/
structure Routed (s : St) : Prop where
  atMostOne : ∀ v ∈ s.delivered, ∀ w ∈ s.delivered, v.session = w.session
  own : ∀ v ∈ s.delivered, v.data.state ≠ .CLOSED →
    s.received.source = v.data.source ∧ s.received.destination = v.data.destination

/-- the packet is for no open session of its client with another server -/
def OneServer (s : St) (p : Packet) : Prop :=
  ∀ d ∈ s.connections, d.state ≠ .CLOSED → d.source = p.source → d.destination = p.destination

/-- the session that is about to get the packet writes an answer into it -/
def Answers (s : St) (i : ClientInput) : Prop :=
  ∃ d ∈ s.connections[s.iterator]?,
    Ends (fun _ => False) (fun t => t.packet.source ≠ s.packet.source)
      ((s.session d s.packet).receiveFromClient i)

/-- no open session behind the one that is about to get the packet has the packet's server for a
client -/
def NoneBehind (s : St) : Prop :=
  ∀ d ∈ s.connections.drop (s.iterator + 1), d.state ≠ .CLOSED → d.source ≠ s.packet.destination

/-- **The condition on a step**: a packet is not read while its client has an open session with
another server, and is not answered by one session while its server is the client of an open session
further back. -/
def Sound (s : St) : Op → Prop
  | .read p => s.pc = .reading → OneServer s p
  | .call i => s.pc = .calling → Answers s i → NoneBehind s
  | _ => True

/-! ## what the other thread keeps -/

/-- the ends are the same, and a closed session is still closed -/
structure Same (d e : Data) : Prop where
  source : e.source = d.source
  destination : e.destination = d.destination
  closed : d.state = .CLOSED → e.state = .CLOSED

theorem Same.refl (d : Data) : Same d d := ⟨rfl, rfl, id⟩

theorem same_of_ends {s t : Session.St} (h : Session.SameEnds s t) : Same s.data t.data :=
  ⟨h.source, h.destination, h.closed⟩

/-- the same connections, each with the same ends, none of them opened -/
def Kept (l l' : List Data) : Prop := List.Forall₂ Same l l'

theorem Kept.refl (l : List Data) : Kept l l := List.forall₂_same.mpr fun d _ => Same.refl d

theorem Kept.set {l : List Data} {k : Nat} {d e : Data} (hk : l[k]? = some d) (h : Same d e) :
    Kept l (l.set k e) := by
  induction l generalizing k with
  | nil => cases hk
  | cons c l ih =>
    cases k with
    | zero =>
      cases hk
      exact .cons h (Kept.refl l)
    | succ k => exact .cons (.refl c) (ih hk)

/-- a connection afterwards is one that was there before -/
theorem Kept.before {l l' : List Data} (h : Kept l l') {k : Nat} {e : Data}
    (he : l'[k]? = some e) : ∃ d, l[k]? = some d ∧ Same d e := by
  induction h generalizing k with
  | nil => cases he
  | @cons c c' l l' hc h ih =>
    cases k with
    | zero =>
      cases he
      exact ⟨c, rfl, hc⟩
    | succ k => exact ih he

theorem Kept.after {l l' : List Data} (h : Kept l l') {k : Nat} {d : Data}
    (hd : l[k]? = some d) : ∃ e, l'[k]? = some e ∧ Same d e := by
  induction h generalizing k with
  | nil => cases hd
  | @cons c c' l l' hc h ih =>
    cases k with
    | zero =>
      cases hd
      exact ⟨c', rfl, hc⟩
    | succ k => exact ih hd

/-- what holds of the client of each open session with a number in `I` -/
def OpenIn (I : Nat → Prop) (P : SockAddr → SockAddr → Prop) (l : List Data) : Prop :=
  ∀ k d, I k → l[k]? = some d → d.state ≠ .CLOSED → P d.source d.destination

theorem OpenIn.kept {I : Nat → Prop} {P : SockAddr → SockAddr → Prop} {l l' : List Data}
    (hk : Kept l l') (h : OpenIn I P l) : OpenIn I P l' := by
  intro k e hI he hopen
  obtain ⟨d, hd, hsame⟩ := hk.before he
  rw [hsame.source, hsame.destination]
  exact h k d hI hd fun hc => hopen (hsame.closed hc)

/-- open sessions have different clients -/
def Distinct (l : List Data) : Prop :=
  ∀ (j k : Nat) (d e : Data), j ≠ k → l[j]? = some d → l[k]? = some e → d.state ≠ .CLOSED →
    e.state ≠ .CLOSED → d.source ≠ e.source

theorem Distinct.kept {l l' : List Data} (hk : Kept l l') (h : Distinct l) : Distinct l' := by
  intro j k d' e' hjk hd' he' hdo heo
  obtain ⟨d, hd, hsd⟩ := hk.before hd'
  obtain ⟨e, he, hse⟩ := hk.before he'
  rw [hsd.source, hse.source]
  exact h j k d e hjk hd he (fun hc => hdo (hsd.closed hc)) fun hc => heo (hse.closed hc)

theorem OpenIn.snoc_init {I : Nat → Prop} {P : SockAddr → SockAddr → Prop} {l : List Data}
    (h : OpenIn I P l) : OpenIn I P (l ++ [Data.init]) := by
  intro k d hI hd hopen
  rcases lt_trichotomy k l.length with hk | rfl | hk
  · rw [List.getElem?_append_left hk] at hd
    exact h k d hI hd hopen
  · rw [List.getElem?_concat_length] at hd
    cases hd
    exact absurd rfl hopen
  · rw [List.getElem?_eq_none (by simpa using hk)] at hd
    cases hd

theorem Distinct.openIn {l : List Data} (h : Distinct l) {k : Nat} {d : Data} (hk : l[k]? = some d)
    (hopen : d.state ≠ .CLOSED) : OpenIn (· ≠ k) (fun a _ => a ≠ d.source) l :=
  fun j e hjk he heo => h j k e d hjk he hk heo hopen

/-- A session may be put in where no other open session has its client. -/
theorem Distinct.set {l : List Data} (h : Distinct l) {k : Nat} {e : Data}
    (hnew : e.state ≠ .CLOSED → OpenIn (· ≠ k) (fun a _ => a ≠ e.source) l) :
    Distinct (l.set k e) := by
  intro i j c d hij hc hd hco hdo
  by_cases hi : k = i
  · subst hi
    obtain ⟨_, rfl⟩ : (∃ x, l[k]? = some x) ∧ e = c := by simpa [List.getElem?_set_self'] using hc
    rw [List.getElem?_set_ne hij] at hd
    exact (hnew hco j d (Ne.symm hij) hd hdo).symm
  · rw [List.getElem?_set_ne hi] at hc
    by_cases hj : k = j
    · subst hj
      obtain ⟨_, rfl⟩ : (∃ x, l[k]? = some x) ∧ e = d := by simpa [List.getElem?_set_self'] using hd
      exact hnew hdo i c (Ne.symm hi) hc hco
    · rw [List.getElem?_set_ne hj] at hd
      exact h i j c d hij hc hd hco hdo

theorem Distinct.snoc_init {l : List Data} (h : Distinct l) : Distinct (l ++ [Data.init]) := by
  intro i j c d hij hc hd hco hdo
  by_cases hi : i < l.length
  · rw [List.getElem?_append_left hi] at hc
    exact (OpenIn.snoc_init (h.openIn hc hco) j d (Ne.symm hij) hd hdo).symm
  · by_cases hj : j < l.length
    · rw [List.getElem?_append_left hj] at hd
      exact OpenIn.snoc_init (h.openIn hd hdo) i c hij hc hco
    · have h1 := (List.getElem?_eq_some_iff.mp hc).1
      have h2 := (List.getElem?_eq_some_iff.mp hd).1
      rw [List.length_append, List.length_singleton] at h1 h2
      omega

/-! ## the invariant of a turn -/

/-- nobody has taken the packet yet -/
structure Unhandled (s : St) : Prop where
  isHandled : s.isHandled = false
  packet : s.packet = s.received
  delivered : s.delivered = []
  closed : ∀ k, s.closedConnection = some k →
    k < s.iterator ∧ ∃ d, s.connections[k]? = some d ∧ d.state = .CLOSED
  server : OpenIn (fun _ => True)
    (fun client server => client = s.packet.source → server = s.packet.destination) s.connections

/-- ... and no open session passed so far has its client -/
structure Passing (s : St) : Prop extends Unhandled s where
  passed : OpenIn (· < s.iterator) (fun client _ => client ≠ s.packet.source) s.connections

/-- the packet is about to go to its session -/
structure Chosen (s : St) : Prop extends Unhandled s where
  chosen : ∃ d, s.connections[s.iterator]? = some d ∧
    d.source = s.packet.source ∧ d.destination = s.packet.destination
  others : OpenIn (· ≠ s.iterator) (fun client _ => client ≠ s.packet.source) s.connections

/-- the packet has been taken, and nobody ahead takes what is in its object now -/
def Taken (s : St) : Prop :=
  OpenIn (s.iterator ≤ ·) (fun client _ => client ≠ s.packet.source) s.connections

structure Inv (s : St) : Prop where
  distinct : Distinct s.connections
  routed : Routed s
  offering : s.pc = .offering → Passing s ∨ s.isHandled = true ∧ Taken s
  calling : s.pc = .calling → Chosen s

/-- between two loops only the connections matter -/
theorem Inv.between {s t : St} (h : Routed s) (hd : Distinct t.connections)
    (hr : t.received = s.received) (hv : t.delivered = s.delivered)
    (hpc : t.pc = .reading ∨ t.pc = .flushing) : Inv t where
  distinct := hd
  routed := ⟨by rw [hv]; exact h.atMostOne, by rw [hv, hr]; exact h.own⟩
  offering ho := by rcases hpc with hpc | hpc <;> rw [hpc] at ho <;> cases ho
  calling hc := by rcases hpc with hpc | hpc <;> rw [hpc] at hc <;> cases hc

/-! ## the other thread -/

/-- the state after a call of the other thread -/
def beside (s : St) (k : Nat) (t : Session.St) (p : Packet) : St := { s.left k t with downPacket := p }

theorem Unhandled.beside {s : St} (h : Unhandled s) {k : Nat} {t : Session.St} (p : Packet)
    (hk : Kept s.connections (s.connections.set k t.data)) : Unhandled (beside s k t p) where
  isHandled := h.isHandled
  packet := h.packet
  delivered := h.delivered
  closed j hj := by
    obtain ⟨hlt, d, hd, hc⟩ := h.closed j hj
    obtain ⟨e, he, hsame⟩ := hk.after hd
    exact ⟨hlt, e, he, hsame.closed hc⟩
  server := h.server.kept hk

theorem inv_beside {s : St} (h : Inv s) {k : Nat} {d : Data} {t : Session.St} (p : Packet)
    (hd : s.connections[k]? = some d) (hs : Same d t.data) : Inv (beside s k t p) where
  distinct := h.distinct.kept (.set hd hs)
  routed := ⟨h.routed.atMostOne, h.routed.own⟩
  offering ho := by
    have hk := Kept.set hd hs
    rcases h.offering ho with hp | ⟨hh, ht⟩
    · exact .inl ⟨hp.toUnhandled.beside p hk, hp.passed.kept hk⟩
    · exact .inr ⟨hh, OpenIn.kept hk ht⟩
  calling hc := by
    have hk := Kept.set hd hs
    have hch := h.calling hc
    obtain ⟨c, hcon, h1, h2⟩ := hch.chosen
    obtain ⟨e, he, hsame⟩ := hk.after hcon
    exact ⟨hch.toUnhandled.beside p hk,
      ⟨e, he, hsame.source.trans h1, hsame.destination.trans h2⟩, hch.others.kept hk⟩

theorem inv_receiveFromServer {s : St} (h : Inv s) {k : Nat} {d : Data} (i : ServerInput)
    (hd : s.connections[k]? = some d) : Ends (fun _ => True) Inv (s.receiveFromServer k d i) := by
  unfold St.receiveFromServer
  split_ifs
  · exact h
  · refine Ends.bind (Session.receiveFromServer_same (s.session d s.downPacket) i) fun r hr => ?_
    exact inv_beside h _ hd (same_of_ends hr)

theorem inv_flushDataToClient {s : St} (h : Inv s) {k : Nat} {d : Data} (now : Int) (turns : Nat)
    (hd : s.connections[k]? = some d) :
    Ends (fun _ => True) Inv (s.flushDataToClient k d now turns) := by
  unfold St.flushDataToClient
  split_ifs
  · exact h
  · refine Ends.bind (Session.flushDataToClient_same (s.session d s.downPacket) now turns) fun t ht => ?_
    exact inv_beside h _ hd (same_of_ends ht)

/-! ## reading and offering -/

theorem inv_read {s : St} (h : Inv s) (p : Incoming) (hone : OneServer s p) : Inv (s.read p) where
  distinct := h.distinct
  routed := by
    constructor
    · intro v hv
      exact absurd hv List.not_mem_nil
    · intro v hv
      exact absurd hv List.not_mem_nil
  offering _ := by
    have hserver : OpenIn (fun _ => True)
        (fun client server => client = p.val.source → server = p.val.destination) s.connections :=
      fun k d _ hd hopen hsrc => hone d (List.mem_of_getElem? hd) hopen hsrc
    exact .inl
      { isHandled := rfl
        packet := rfl
        delivered := rfl
        closed := fun k hk => by cases hk
        server := hserver
        passed := fun k d hlt => absurd hlt (Nat.not_lt_zero k) }
  calling hc := by cases hc

/-- one connection further, which does not take the packet -/
theorem Passing.pass {s : St} (h : Passing s) {d : Data} (hd : s.connections[s.iterator]? = some d)
    (hnot : d.state ≠ .CLOSED → d.source ≠ s.packet.source) :
    OpenIn (· < s.iterator + 1) (fun client _ => client ≠ s.packet.source) s.connections := by
  intro k e hlt he hopen
  rcases Nat.lt_succ_iff_lt_or_eq.mp hlt with hlt | rfl
  · exact h.passed k e hlt he hopen
  · rw [hd] at he
    cases he
    exact hnot hopen

theorem Taken.pass {s : St} (h : Taken s) :
    OpenIn (s.iterator + 1 ≤ ·) (fun client _ => client ≠ s.packet.source) s.connections :=
  fun k e hle he hopen => h k e (by omega) he hopen

theorem canHandle_iff (d : Data) (p : Packet) : canHandle d p = true ↔ d.source = p.source := by
  unfold canHandle isFrom
  rw [decide_eq_true_iff]
  exact eq_comm

theorem inv_offer {s : St} (h : Inv s) (hpc : s.pc = .offering) {d : Data}
    (hd : s.connections[s.iterator]? = some d) : Inv (s.offer d) := by
  unfold St.offer
  split_ifs with hclosed hcan
  · -- a closed connection is passed, and kept in mind if it is the first
    refine ⟨h.distinct, ⟨h.routed.atMostOne, h.routed.own⟩, fun _ => ?_, fun hc => ?_⟩
    · rcases h.offering hpc with hp | ⟨hh, ht⟩
      · refine .inl
          { isHandled := hp.isHandled
            packet := hp.packet
            delivered := hp.delivered
            closed := ?_
            server := hp.server
            passed := hp.pass hd fun ho => absurd hclosed ho }
        intro k hk
        show k < s.iterator + 1 ∧ ∃ d, s.connections[k]? = some d ∧ d.state = .CLOSED
        cases hcc : s.closedConnection with
        | some j =>
          obtain rfl : j = k := by simpa [hcc] using hk
          obtain ⟨hlt, hc⟩ := hp.closed j hcc
          exact ⟨by omega, hc⟩
        | none =>
          obtain rfl : s.iterator = k := by simpa [hcc] using hk
          exact ⟨by omega, d, hd, hclosed⟩
      · exact .inr ⟨hh, ht.pass⟩
    · rw [show s.pc = .calling from hc] at hpc
      cases hpc
  · -- nobody can have taken the packet before
    have hsrc := (canHandle_iff d s.packet).mp hcan
    refine ⟨h.distinct, ⟨h.routed.atMostOne, h.routed.own⟩, fun ho => (by cases ho), fun _ => ?_⟩
    rcases h.offering hpc with hp | ⟨hh, ht⟩
    · refine
        { isHandled := hp.isHandled
          packet := hp.packet
          delivered := hp.delivered
          closed := hp.closed
          server := hp.server
          chosen := ⟨d, hd, hsrc, hp.server _ d trivial hd hclosed hsrc⟩
          others := ?_ }
      have hothers := h.distinct.openIn hd hclosed
      rwa [hsrc] at hothers
    · exact absurd hsrc (ht _ d (le_refl _) hd hclosed)
  · have hsrc : d.source ≠ s.packet.source := fun hs => hcan ((canHandle_iff d s.packet).mpr hs)
    refine ⟨h.distinct, ⟨h.routed.atMostOne, h.routed.own⟩, fun _ => ?_, fun hc => ?_⟩
    · rcases h.offering hpc with hp | ⟨hh, ht⟩
      · exact .inl
          { isHandled := hp.isHandled
            packet := hp.packet
            delivered := hp.delivered
            closed := fun k hk => by
              obtain ⟨hlt, hc⟩ := hp.closed k hk
              exact ⟨Nat.lt_succ_of_lt hlt, hc⟩
            server := hp.server
            passed := hp.pass hd fun _ => hsrc }
      · exact .inr ⟨hh, ht.pass⟩
    · rw [show s.pc = .calling from hc] at hpc
      cases hpc

/-! ## delivering -/

/-- the state after a delivery -/
def deliveredTo (s : St) (k : Nat) (d : Data) (u : Session.St) : St :=
  { s.left k u with packet := u.packet, delivered := s.delivered ++ [⟨k, d, s.packet⟩] }

theorem deliver_ends (s : St) (k : Nat) (d : Data) (i : ClientInput) :
    Ends (fun _ => True) (fun t => ∃ u, t = deliveredTo s k d u ∧ Addressed (s.session d s.packet) u ∧
      (s.session d s.packet).receiveFromClient i = .ok u) (s.deliver k d i) := by
  unfold St.deliver
  have h := Session.receiveFromClient_addressed (s.session d s.packet) i
  cases hr : (s.session d s.packet).receiveFromClient i with
  | ok u => exact ⟨u, rfl, h.ok hr, rfl⟩
  | error e => trivial

/-- the first delivery of a packet, to its session or to a closed one, is as it should be -/
theorem Unhandled.routed {s : St} (h : Unhandled s) {t : St} {k : Nat} {d : Data}
    (hown : d.state ≠ .CLOSED → d.source = s.packet.source ∧ d.destination = s.packet.destination)
    (hr : t.received = s.received) (hv : t.delivered = s.delivered ++ [⟨k, d, s.packet⟩]) :
    Routed t := by
  have hone : ∀ v ∈ t.delivered, v = ⟨k, d, s.packet⟩ := by
    intro v hmem
    rw [hv, h.delivered, List.nil_append] at hmem
    exact List.mem_singleton.mp hmem
  constructor
  · intro v hmem w hmem'
    rw [hone v hmem, hone w hmem']
  · intro v hmem hopen
    rw [hone v hmem] at hopen ⊢
    obtain ⟨h1, h2⟩ := hown hopen
    rw [hr, ← h.packet]
    exact ⟨h1.symm, h2.symm⟩

/-- the session has the packet's client for its own, open or not, and so has nobody else -/
theorem Chosen.distinct {s : St} (h : Chosen s) (hdis : Distinct s.connections) {d : Data}
    (hd : s.connections[s.iterator]? = some d) {u : Session.St}
    (hu : Addressed (s.session d s.packet) u) :
    Distinct (s.connections.set s.iterator u.data) := by
  obtain ⟨c, hc, hsrc, _⟩ := h.chosen
  obtain rfl : d = c := Option.some.inj (hd.symm.trans hc)
  refine hdis.set fun _ => ?_
  have hsource : u.data.source = s.packet.source := by
    rcases hu.ends with ⟨h1, _⟩ | ⟨_, h1, _⟩
    · exact h1.trans hsrc
    · exact h1
  rw [hsource]
  exact h.others

/-- behind the session nobody takes what it has left in the packet object -/
theorem Chosen.taken {s : St} (h : Chosen s) {d : Data} (hd : s.connections[s.iterator]? = some d)
    {i : ClientInput} (hsound : Answers s i → NoneBehind s) {u : Session.St}
    (hr : (s.session d s.packet).receiveFromClient i = .ok u)
    (hu : Addressed (s.session d s.packet) u) :
    OpenIn (s.iterator + 1 ≤ ·) (fun client _ => client ≠ u.packet.source)
      (s.connections.set s.iterator u.data) := by
  intro k e hle he hopen
  have hle : s.iterator + 1 ≤ k := hle
  rw [List.getElem?_set_ne (by omega)] at he
  by_cases hsame : u.packet.source = s.packet.source
  · rw [hsame]
    exact h.others k e (show k ≠ s.iterator by omega) he hopen
  · have hanswers : Answers s i := by
      refine ⟨d, hd, ?_⟩
      rw [hr]
      exact hsame
    have hdest : u.packet.source = s.packet.destination := by
      obtain ⟨c, hc, _, hdst⟩ := h.chosen
      obtain rfl : d = c := Option.some.inj (hd.symm.trans hc)
      rcases hu.packet with h1 | h1 | h1
      · exact absurd h1 hsame
      · exact h1
      · exact h1.trans hdst
    rw [hdest]
    have hmem : e ∈ s.connections.drop (s.iterator + 1) := by
      refine List.mem_of_getElem? (i := k - (s.iterator + 1)) ?_
      rw [List.getElem?_drop, Nat.add_sub_cancel' hle]
      exact he
    exact hsound hanswers e hmem hopen

theorem inv_call {s : St} (h : Inv s) (hpc : s.pc = .calling) {d : Data}
    (hd : s.connections[s.iterator]? = some d) (i : ClientInput)
    (hsound : Answers s i → NoneBehind s) : Ends (fun _ => True) Inv (s.call d i) := by
  have hch := h.calling hpc
  unfold St.call
  refine Ends.bind (deliver_ends s s.iterator d i) ?_
  rintro t ⟨u, rfl, hu, hr⟩
  obtain ⟨c, hc, hown⟩ := hch.chosen
  obtain rfl : d = c := Option.some.inj (hd.symm.trans hc)
  exact
    { distinct := hch.distinct h.distinct hd hu
      routed := hch.toUnhandled.routed (fun _ => hown) rfl rfl
      offering := fun _ => .inr ⟨rfl, hch.taken hd hsound hr hu⟩
      calling := fun hc => by cases hc }

/-! ## after the loop over the connections -/

/-- a closed session that gets a SYN is closed still, or has the client that nobody else has -/
theorem distinct_opened {s : St} (hdis : Distinct s.connections)
    (hnone : OpenIn (fun _ => True) (fun client _ => client ≠ s.packet.source) s.connections)
    {k : Nat} {d : Data} (hclosed : d.state = .CLOSED) {u : Session.St}
    (hu : Addressed (s.session d s.packet) u) : Distinct (s.connections.set k u.data) := by
  refine hdis.set fun hopen => ?_
  rcases hu.ends with ⟨_, _, h1⟩ | ⟨_, h1, _⟩
  · exact absurd (h1 hclosed) hopen
  · rw [h1]
    exact fun j e _ he heo => hnone j e trivial he heo

/-- what a SYN leaves that nobody has taken -/
theorem openConnection_ends {s : St} (h : Unhandled s) (hdis : Distinct s.connections)
    (hnone : OpenIn (fun _ => True) (fun client _ => client ≠ s.packet.source) s.connections)
    (hrouted : Routed s) (i : ClientInput) :
    Ends (fun _ => True) (fun t => Distinct t.connections ∧ Routed t) (s.openConnection i) := by
  unfold St.openConnection
  split
  case h_1 k hk =>
    obtain ⟨_, d, hd, hclosed⟩ := h.closed k hk
    rw [hd]
    refine (deliver_ends s k d i).mono ?_
    rintro t ⟨u, rfl, hu, _⟩
    exact ⟨distinct_opened hdis hnone hclosed hu,
      h.routed (fun hopen => absurd hclosed hopen) rfl rfl⟩
  case h_2 =>
    refine (deliver_ends _ _ _ i).mono ?_
    rintro t ⟨u, rfl, hu, _⟩
    refine ⟨?_, h.routed (fun hopen => absurd rfl hopen) rfl rfl⟩
    exact distinct_opened (s := { s with connections := s.connections ++ [Data.init] })
      hdis.snoc_init hnone.snoc_init rfl hu

theorem finishPacket_ends {s : St} (h : Inv s) (hpc : s.pc = .offering)
    (hend : s.connections[s.iterator]? = none) (i : ClientInput) :
    Ends (fun _ => True) (fun t => Distinct t.connections ∧ Routed t) (s.finishPacket i) := by
  unfold St.finishPacket
  split_ifs with hhandled hsyn
  · exact ⟨h.distinct, h.routed⟩
  · rcases h.offering hpc with hp | ⟨hh, _⟩
    · refine openConnection_ends hp.toUnhandled h.distinct ?_ h.routed i
      intro k d _ hd hopen
      refine hp.passed k d ?_ hd hopen
      have h1 := (List.getElem?_eq_some_iff.mp hd).1
      have h2 := List.getElem?_eq_none_iff.mp hend
      show k < s.iterator
      omega
    · exact absurd hh hhandled
  · exact ⟨h.distinct, h.routed.atMostOne, h.routed.own⟩

theorem inv_afterLoop {s : St} (h : Inv s) (hpc : s.pc = .offering)
    (hend : s.connections[s.iterator]? = none) (i : ClientInput) :
    Ends (fun _ => True) Inv (s.afterLoop i) := by
  unfold St.afterLoop
  refine Ends.bind (finishPacket_ends h hpc hend i) fun t ht => ?_
  exact .between ht.2 ht.1 rfl rfl (.inr rfl)

theorem inv_flush {s : St} (h : Inv s) (hpc : s.pc = .flushing) {d : Data}
    (hd : s.connections[s.iterator]? = some d) (r : SendResult) :
    Ends (fun _ => True) Inv (s.flush d r) := by
  unfold St.flush
  split_ifs
  · exact .between h.routed h.distinct rfl rfl (.inr hpc)
  · refine Ends.bind (Session.flushDataToServer_same (s.session d s.packet) r) fun t ht => ?_
    exact .between h.routed (h.distinct.kept (.set hd (same_of_ends ht))) rfl rfl (.inr hpc)

/-! ## whole runs -/

/-- **One step** that meets the condition. -/
theorem step_inv (s : St) (o : Op) (h : Inv s) (ho : Sound s o) :
    Ends (fun _ => True) Inv (step s o) := by
  cases o with
  | noPacket =>
    unfold step
    split_ifs with hpc
    · exact .between h.routed h.distinct rfl rfl (.inr rfl)
    · exact h
  | read p =>
    unfold step
    split_ifs with hpc
    · exact inv_read h p (ho hpc)
    · exact h
  | offer =>
    unfold step
    dsimp only
    split
    case h_1 d hpc hd => exact inv_offer h hpc hd
    case h_2 => exact h
  | call i =>
    unfold step
    dsimp only
    split
    case h_1 d hpc hd => exact inv_call h hpc hd i (ho hpc)
    case h_2 => exact h
  | afterLoop i =>
    unfold step
    dsimp only
    split
    case h_1 hpc hend => exact inv_afterLoop h hpc hend i
    case h_2 => exact h
  | flush r =>
    unfold step
    dsimp only
    split
    case h_1 d hpc hd => exact inv_flush h hpc hd r
    case h_2 hpc hend => exact .between h.routed h.distinct rfl rfl (.inl rfl)
    case h_3 => exact h
  | receiveFromServer k i =>
    unfold step
    dsimp only
    split
    case h_1 d hd => exact inv_receiveFromServer h i hd
    case h_2 => exact h
  | flushDataToClient k now turns =>
    unfold step
    dsimp only
    split
    case h_1 d hd => exact inv_flushDataToClient h now turns hd
    case h_2 => exact h

theorem inv_init (shared : Shared) (up down : Packet) : Inv (.init shared up down) where
  distinct j k d e hjk hd := by cases hd
  routed := by
    constructor
    · intro v hv
      exact absurd hv List.not_mem_nil
    · intro v hv
      exact absurd hv List.not_mem_nil
  offering ho := by cases ho
  calling hc := by cases hc

/-- **In every run whose steps meet the condition a packet goes to one session at most, and to an
open one only if both ends are its own.** -/
theorem run_routed (shared : Shared) (up down : Packet) (l : List Op)
    (h : AlongM step Sound (.init shared up down) l) :
    Ends (fun _ => True) Routed (runM step (.init shared up down) l) :=
  (runM_ends Inv step_inv (inv_init shared up down) h).mono fun s hs => hs.routed

/-! ## runs -/

instance (s : St) : Decidable (Routed s) :=
  decidable_of_iff
    ((∀ v ∈ s.delivered, ∀ w ∈ s.delivered, v.session = w.session) ∧
      ∀ v ∈ s.delivered, v.data.state ≠ .CLOSED →
        s.received.source = v.data.source ∧ s.received.destination = v.data.destination)
    ⟨fun h => ⟨h.1, h.2⟩, fun h => ⟨h.atMostOne, h.own⟩⟩

instance (s : St) (p : Packet) : Decidable (OneServer s p) :=
  inferInstanceAs (Decidable (∀ d ∈ s.connections, d.state ≠ .CLOSED → d.source = p.source →
    d.destination = p.destination))

instance (s : St) (i : ClientInput) : Decidable (Answers s i) :=
  inferInstanceAs (Decidable (∃ d ∈ s.connections[s.iterator]?, Ends _ _ _))

instance (s : St) : Decidable (NoneBehind s) :=
  inferInstanceAs (Decidable (∀ d ∈ s.connections.drop (s.iterator + 1), d.state ≠ .CLOSED →
    d.source ≠ s.packet.destination))

instance (s : St) : ∀ o, Decidable (Sound s o)
  | .read p => inferInstanceAs (Decidable (s.pc = .reading → OneServer s p))
  | .call i => inferInstanceAs (Decidable (s.pc = .calling → Answers s i → NoneBehind s))
  | .noPacket => .isTrue trivial
  | .offer => .isTrue trivial
  | .afterLoop _ => .isTrue trivial
  | .flush _ => .isTrue trivial
  | .receiveFromServer _ _ => .isTrue trivial
  | .flushDataToClient _ _ _ => .isTrue trivial

def hostA : SockAddr := ⟨0x0a000001, 40000⟩
def hostB : SockAddr := ⟨0x0a000002, 40000⟩
def hostC : SockAddr := ⟨0x01010101, 80⟩

/-- the server is reached at once -/
def reached : ClientInput := ⟨5, 0, false, true, 0, .wouldBlock, .wouldBlock, 0, 0⟩

/-- a handler that has not read a packet yet -/
def fresh : St := .init ⟨∅, ∅, ∅, 0, 0⟩ (synPacket ⟨0, 0⟩ ⟨0, 0⟩ 0 0) (synPacket ⟨0, 0⟩ ⟨0, 0⟩ 0 0)

/-- `client`'s SYN passes `n` connections, and opens connection `n`; all are flushed -/
def opening (client server : SockAddr) (n : Nat) : List Op :=
  .read (synPacket client server 100 1460) :: (List.replicate n .offer ++
    .afterLoop reached :: List.replicate (n + 2) (.flush .wouldBlock))

/-- two clients of one server; the second one ends its handshake -/
theorem run_routed_two_clients : Ends (fun _ => True) Routed (runM step fresh
    (opening hostA hostC 0 ++ opening hostB hostC 1 ++
      [.read (ackPacket hostB hostC false 101 32), .offer, .offer, .call reached])) :=
  run_routed _ _ _ _ (by decide)

/-- **A packet is taken for another's**: a client opens connections to two servers from one port, and
the second SYN goes to the first session; two hosts open connections to each other, and a repeated
SYN of the first one, turned round by the answer, goes to the other session as well. -/
theorem run_misrouted :
    Ends (fun _ => False) (fun s => ¬ Routed s) (runM step fresh
      (opening hostA hostB 0 ++ [.read (synPacket hostA hostC 500 1460), .offer, .call reached])) ∧
    Ends (fun _ => False) (fun s => ¬ Routed s) (runM step fresh
      (opening hostA hostB 0 ++ opening hostB hostA 1 ++
        [.read (synPacket hostA hostB 100 1460), .offer, .call reached, .offer, .call reached])) := by
  constructor
  · decide
  · decide

end TunServer.OldHandler
