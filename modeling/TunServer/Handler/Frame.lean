import TunServer.Handler.Loop
import TunServer.Sessions2.Life

/-!
# What the turns of the loop do to the sessions

* `Ages`          what a call other than `receiveFromClient` does to the life of a session;
* `Worked`        calls of sessions: what they leave alone;
* `SessionTurn`   a turn of the loop over the sessions, `CheckTurn` one of the loop that checks them;
* `Dispatched`    where a packet goes;
* `Turn`          one of these, or a step that leaves the sessions alone; `step_turn` says that every
                  step is one.
-/

set_option linter.unusedVariables false

namespace TunServer.Handler

def Live (d : Sessions2.Data) : Prop := d.state ≠ .CLOSED

instance : DecidablePred Live := fun d => inferInstanceAs (Decidable (d.state ≠ .CLOSED))

/-- a session that is live now was live before, with the same socket and the same ends -/
def Ages (d d' : Sessions2.Data) : Prop :=
  Live d' → Live d ∧ d'.socket = d.socket ∧ d'.clientAddress = d.clientAddress ∧
    d'.serverAddress = d.serverAddress

theorem Ages.refl (d : Sessions2.Data) : Ages d d := fun h => ⟨h, rfl, rfl, rfl⟩

theorem Ages.trans {d d' d'' : Sessions2.Data} (h : Ages d d') (h' : Ages d' d'') : Ages d d'' := by
  intro hd
  obtain ⟨h1, h2, h3, h4⟩ := h' hd
  obtain ⟨h5, h6, h7, h8⟩ := h h1
  exact ⟨h5, h2.trans h6, h3.trans h7, h4.trans h8⟩

theorem ages_of_life {d d' : Sessions2.Data} {op : Sessions2.Op} (h : Sessions2.LifeStep d op d')
    (hop : op.fromClient = none) : Ages d d' := by
  intro hd
  cases h with
  | kept state socket client server => exact ⟨fun hs => hd (state.mpr hs), socket, client, server⟩
  | closed state => exact absurd state hd
  | opened => cases hop

/-- the sessions of `ys` are those of `xs`, grown older -/
abbrev Older (xs ys : List Sessions2.Data) : Prop := List.Forall₂ Ages xs ys

theorem Older.refl (xs : List Sessions2.Data) : Older xs xs := List.forall₂_same.mpr fun d _ => Ages.refl d

theorem Older.trans {xs ys zs : List Sessions2.Data} (h : Older xs ys) (h' : Older ys zs) :
    Older xs zs := by
  induction h generalizing zs with
  | nil => exact h'
  | cons hd _ ih =>
    cases h' with
    | cons hd' ht' => exact .cons (hd.trans hd') (ih ht')

theorem Older.set {xs : List Sessions2.Data} {j : Nat} {d d' : Sessions2.Data} (hd : xs[j]? = some d)
    (h : Ages d d') : Older xs (xs.set j d') := by
  induction xs generalizing j with
  | nil => cases hd
  | cons x xs ih =>
    cases j with
    | zero =>
      cases hd
      exact .cons h (Older.refl xs)
    | succ j => exact .cons (Ages.refl x) (ih hd)

/-- where an older session comes from -/
theorem Older.get {xs ys : List Sessions2.Data} (h : Older xs ys) {k : Nat} {d' : Sessions2.Data}
    (hk : ys[k]? = some d') : ∃ d, xs[k]? = some d ∧ Ages d d' := by
  induction h generalizing k with
  | nil => cases hk
  | cons hd _ ih =>
    cases k with
    | zero =>
      cases hk
      exact ⟨_, rfl, hd⟩
    | succ k => exact ih hk

/-- Calls of sessions: the handler `g` is `h` but for the sessions, what they share, and `count`. -/
def Worked (h g : St) : Prop :=
  ∃ ds x p l b fds n, Older h.tcpSessions ds ∧ g = { h with
    tcpSessions := ds
    shared := x
    tcpPacket := p
    log := l
    hung := b
    handedOut := h.handedOut ++ fds
    count := n }

section
variable {IP_MSS : U16} {h g : St}

theorem Worked.refl (h : St) : Worked h h :=
  ⟨_, _, _, _, _, [], _, Older.refl _, by rw [List.append_nil]⟩

theorem Worked.trans {g' : St} (h1 : Worked h g) (h2 : Worked g g') : Worked h g' := by
  obtain ⟨ds, x, p, l, b, fds, n, hds, rfl⟩ := h1
  obtain ⟨ds', x', p', l', b', fds', n', hds', rfl⟩ := h2
  exact ⟨ds', x', p', l', b', fds ++ fds', n', hds.trans hds', by rw [List.append_assoc]⟩

theorem put_worked {j : Nat} {d : Sessions2.Data} (hd : h.tcpSessions[j]? = some d)
    {s : Sessions2.St} (hs : Ages d s.data) : Worked h (h.put j d s) :=
  ⟨_, _, _, _, _, _, _, Older.set hd hs, rfl⟩

theorem call_worked (IP_MSS : U16) (h : St) (j : Nat) (op : Sessions2.Op)
    (hop : op.fromClient = none) : Worked h (h.call IP_MSS j op) := by
  unfold St.call
  cases hd : h.tcpSessions[j]? with
  | some d => exact put_worked hd (ages_of_life (Sessions2.step_life IP_MSS (h.sessionAt d) op) hop)
  | none => exact .refl h

theorem event_worked (IP_MSS : U16) (h : St) (ready : Bool) (op : Sessions2.Op)
    (hop : op.fromClient = none) : Worked h (h.event IP_MSS ready op) := by
  unfold St.event
  split_ifs
  · have h1 : Worked h { h with count := h.count - 1 } :=
      ⟨_, _, _, _, _, [], _, Older.refl _, by rw [List.append_nil]⟩
    exact h1.trans (call_worked _ _ _ _ hop)
  · exact .refl h

/-- where the iterator stands when an element that is not the last one moved to the end -/
theorem nextIterator_of_lt {k n : Nat} (hk : k + 1 < n) : St.nextIterator k n = k := if_pos hk

section
variable {α : Type*} {xs : List α} {k : Nat} {x y : α}

/-- what stood behind the element that moves to the end is what the iterator comes to -/
theorem ahead_toEnd {j : Nat} (hk : k < xs.length) (hj : xs[j]? = some y) (hlt : k < j) :
    (toEnd xs k x)[j - 1]? = some y ∧ St.nextIterator k xs.length ≤ j - 1 := by
  have hlen := (List.getElem?_eq_some_iff.mp hj).1
  refine ⟨?_, ?_⟩
  · rw [toEnd_get_succ (by omega) (by omega), show j - 1 + 1 = j by omega]
    exact hj
  · rw [nextIterator_of_lt (by omega)]
    omega

/-- and nothing else, but for the element itself -/
theorem of_ahead_toEnd {j : Nat} (hk : k < xs.length) (hj : (toEnd xs k x)[j]? = some y)
    (hle : St.nextIterator k xs.length ≤ j) : k ≤ j ∧ xs[j + 1]? = some y ∨ y = x := by
  have hge : k ≤ St.nextIterator k xs.length := by
    unfold St.nextIterator
    split_ifs
    · exact le_refl k
    · omega
  rcases get_toEnd hk hj with ⟨h1, _⟩ | h1 | ⟨_, h1⟩
  · omega
  · exact .inl h1
  · exact .inr h1

end

/-! ## a turn of the loop over the sessions -/

/-- the first two events of a turn -/
def St.polled (IP_MSS : U16) (h : St) (x : Events) : St :=
  let g := h.event IP_MSS (h.isReady h.rcv) (.receiveFromServer x.received x.nowReceive x.turns)
  if g.hung then g
  else g.event IP_MSS (g.isReady g.snd) (.flushDataToServer x.lastError x.sent x.nowFlush x.nowSynAck)

inductive SessionTurn (IP_MSS : U16) (h : St) (x : Events) : St → Prop where
  | done (hdone : h.remaining = 0 ∨ h.count ≤ 0) : SessionTurn IP_MSS h x { h with pc := .clock }
  | past (hmore : 0 < h.remaining) (hpos : 0 < h.count) (hlen : h.tcpSessions.length ≤ h.iterator) :
      SessionTurn IP_MSS h x { h with pc := .pastSessions }
  | hangs (hmore : 0 < h.remaining) (hpos : 0 < h.count) (hung : (h.polled IP_MSS x).hung = true) :
      SessionTurn IP_MSS h x (h.polled IP_MSS x)
  | stays (hmore : 0 < h.remaining) (hpos : 0 < h.count)
      (hung : (h.polled IP_MSS x).hung = false) (herr : (h.polled IP_MSS x).isReady h.err = false) :
      SessionTurn IP_MSS h x { h.polled IP_MSS x with remaining := h.remaining - 1 }
  | leaves {g : St} {d : Sessions2.Data} (hmore : 0 < h.remaining) (hpos : 0 < h.count)
      (herr : (h.polled IP_MSS x).isReady h.err = true)
      (hw : Worked { h with remaining := h.remaining - 1 } g)
      (hcount : g.count = (h.polled IP_MSS x).count - 1)
      (hd : g.tcpSessions[h.iterator]? = some d) (hclosed : d.state = .CLOSED) :
      SessionTurn IP_MSS h x (g.deactivateSession h.iterator)

theorem polled_worked (h : St) (x : Events) : Worked h (h.polled IP_MSS x) := by
  have h1 := event_worked IP_MSS h (h.isReady h.rcv)
    (.receiveFromServer x.received x.nowReceive x.turns) rfl
  unfold St.polled
  dsimp only
  split_ifs
  · exact h1
  · exact h1.trans (event_worked IP_MSS _ _ _ rfl)

/-- the socket of the session at the iterator is in a set only if there is a session -/
theorem isReady_get {set : Finset Nat} (hr : h.isReady set = true) :
    ∃ d fd, h.tcpSessions[h.iterator]? = some d ∧ d.socket = some fd ∧ fd ∈ set := by
  unfold St.isReady at hr
  cases hd : h.tcpSessions[h.iterator]? with
  | none =>
    rw [hd] at hr
    cases hr
  | some d =>
    rw [hd] at hr
    dsimp only [isSetIn] at hr
    cases hfd : d.socket with
    | none =>
      rw [hfd] at hr
      cases hr
    | some fd =>
      rw [hfd] at hr
      exact ⟨d, fd, rfl, hfd, of_decide_eq_true hr⟩

/-- a call of a session that does not hang -/
theorem call_error (IP_MSS : U16) {h : St} (hh : h.hung = false) {j : Nat} {d : Sessions2.Data}
    (hd : h.tcpSessions[j]? = some d) : ∃ d', (h.call IP_MSS j .onSocketError).tcpSessions[j]? = some d' ∧
      d'.state = .CLOSED := by
  have hlt := (List.getElem?_eq_some_iff.mp hd).1
  unfold St.call
  rw [hd]
  refine ⟨_, List.getElem?_set_self hlt, ?_⟩
  unfold Sessions2.step
  rw [if_neg (show ¬ (h.sessionAt d).hung = true by
    rw [show (h.sessionAt d).hung = h.hung from rfl, hh]
    decide)]
  show (h.sessionAt d).resetClient.data.state = .CLOSED
  unfold Sessions2.St.resetClient
  rw [Sessions2.St.closeSession_data]

theorem event_flush_hung (h : St) (ready : Bool) (lastError : Int) (r : Sessions2.SendResult)
    (now now' : Int) :
    (h.event IP_MSS ready (.flushDataToServer lastError r now now')).hung = h.hung := by
  unfold St.event St.call
  split_ifs
  · dsimp only
    cases h.tcpSessions[h.iterator]? with
    | none => rfl
    | some d =>
      show (Sessions2.step IP_MSS _ _).hung = h.hung
      unfold Sessions2.step
      split_ifs
      · rfl
      · exact Sessions2.flushDataToServer_hung _ _ _ _ _
  · rfl

theorem call_count (h : St) (j : Nat) (op : Sessions2.Op) : (h.call IP_MSS j op).count = h.count := by
  unfold St.call
  cases h.tcpSessions[j]? with
  | some d => rfl
  | none => rfl

/-- what the first two events leave alone -/
theorem polled_loop (h : St) (x : Events) : (h.polled IP_MSS x).iterator = h.iterator ∧
    (h.polled IP_MSS x).err = h.err ∧ (h.polled IP_MSS x).remaining = h.remaining := by
  obtain ⟨_, _, _, _, _, _, _, _, he⟩ := @polled_worked IP_MSS h x
  rw [he]
  exact ⟨rfl, rfl, rfl⟩

/-- the turn by its first two events -/
theorem sessionTurn_eq (h : St) (x : Events) : h.sessionTurn IP_MSS x =
    if h.remaining = 0 ∨ h.count ≤ 0 then { h with pc := .clock }
    else if h.tcpSessions.length ≤ h.iterator then { h with pc := .pastSessions }
    else if (h.polled IP_MSS x).hung then h.polled IP_MSS x
    else if (h.polled IP_MSS x).isReady h.err then
      (({ h.polled IP_MSS x with remaining := h.remaining - 1 } : St).event IP_MSS true
        .onSocketError).deactivateSession h.iterator
    else { h.polled IP_MSS x with remaining := h.remaining - 1 } := by
  unfold St.sessionTurn
  by_cases hdone : h.remaining = 0 ∨ h.count ≤ 0
  · rw [if_pos hdone, if_pos hdone]
  rw [if_neg hdone, if_neg hdone]
  by_cases hlen : h.tcpSessions.length ≤ h.iterator
  · rw [if_pos hlen, if_pos hlen]
  rw [if_neg hlen, if_neg hlen]
  dsimp only
  by_cases hhung : (h.event IP_MSS (h.isReady h.rcv)
      (.receiveFromServer x.received x.nowReceive x.turns)).hung = true
  · have he : h.polled IP_MSS x = h.event IP_MSS (h.isReady h.rcv)
        (.receiveFromServer x.received x.nowReceive x.turns) := if_pos hhung
    rw [if_pos hhung, he, if_pos hhung]
  · have he : h.polled IP_MSS x = _ := if_neg hhung
    have hopen : (h.polled IP_MSS x).hung = false := by
      rw [he, event_flush_hung]
      exact Bool.not_eq_true _ ▸ hhung
    have hw := @polled_worked IP_MSS h x
    rw [if_neg hhung, ← he, if_neg (Bool.eq_false_iff.mp hopen)]
    generalize h.polled IP_MSS x = g at hw
    obtain ⟨_, _, _, _, _, _, _, _, rfl⟩ := hw
    rfl

theorem sessionTurn_turn (h : St) (x : Events) : SessionTurn IP_MSS h x (h.sessionTurn IP_MSS x) := by
  rw [sessionTurn_eq]
  split_ifs with hdone hlen hhung hready
  · exact .done hdone
  all_goals rw [not_or] at hdone
  all_goals have hmore : 0 < h.remaining := by omega
  all_goals have hpos : 0 < h.count := by omega
  · exact .past hmore hpos hlen
  · exact .hangs hmore hpos hhung
  · have hw' : Worked { h with remaining := h.remaining - 1 }
        { h.polled IP_MSS x with remaining := h.remaining - 1 } := by
      obtain ⟨_, _, _, _, _, _, _, hds, hg⟩ := @polled_worked IP_MSS h x
      rw [hg]
      exact ⟨_, _, _, _, _, _, _, hds, rfl⟩
    obtain ⟨d, fd, hd, _, _⟩ := isReady_get hready
    have hrest : ({ h.polled IP_MSS x with
        remaining := h.remaining - 1, count := (h.polled IP_MSS x).count - 1 } : St).hung = false := by
      simpa using hhung
    obtain ⟨d', hd', hclosed⟩ := call_error IP_MSS hrest hd
    have hit := (@polled_loop IP_MSS h x).1
    refine .leaves hmore hpos hready (hw'.trans (event_worked IP_MSS _ true .onSocketError rfl))
      (call_count _ _ _) ?_ hclosed
    rw [← hit]
    exact hd'
  · exact .stays hmore hpos (by simpa using hhung) (by simpa using hready)

/-! ## a turn of the loop that checks the sessions -/

inductive CheckTurn (h : St) : St → Prop where
  | done (hdone : h.remaining = 0) : CheckTurn h { h with pc := .waiting }
  | past (hmore : 0 < h.remaining) (hd : h.tcpSessions[h.iterator]? = none) :
      CheckTurn h { h with pc := .pastSessions }
  | stays {g : St} (hmore : 0 < h.remaining) (hw : Worked { h with remaining := h.remaining - 1 } g) :
      CheckTurn h { g with iterator := h.iterator + 1 }
  | leaves {g : St} {d : Sessions2.Data} (hmore : 0 < h.remaining)
      (hw : Worked { h with remaining := h.remaining - 1 } g)
      (hd : g.tcpSessions[h.iterator]? = some d) (hclosed : d.state = .CLOSED) :
      CheckTurn h (g.deactivateSession h.iterator)

theorem checkSession_turn (h : St) (now now' nowFlush : Int) (turns : Nat) :
    CheckTurn h (h.checkSession IP_MSS now now' nowFlush turns) := by
  unfold St.checkSession
  split_ifs with hdone
  · exact .done hdone
  have hmore : 0 < h.remaining := by omega
  cases hd : h.tcpSessions[h.iterator]? with
  | none => exact .past hmore hd
  | some d =>
    have hlt := (List.getElem?_eq_some_iff.mp hd).1
    have h1 : Worked { h with remaining := h.remaining - 1 }
        { h.put h.iterator d ((h.sessionAt d).checkStatus now now').2 with
          remaining := h.remaining - 1 } :=
      ⟨_, _, _, _, _, _, _, Older.set hd (@ages_of_life _ _ .closeSession
        (Sessions2.checkStatus_life (h.sessionAt d) now now' _) rfl), rfl⟩
    dsimp only
    split_ifs with hopen
    · exact .stays hmore (h1.trans (call_worked _ _ _ _ rfl))
    · refine .leaves hmore h1 (List.getElem?_set_self hlt) ?_
      rcases Sessions2.checkStatus_cases (h.sessionAt d) now now' with ⟨hs, he⟩ | ⟨_, he⟩ | ⟨_, he⟩
      · rw [he]
        exact hs
      · rw [he] at hopen
        exact absurd rfl hopen
      · rw [he, Sessions2.St.closeSession_data]

/-! ## a packet -/

/-- what becomes of a packet that was read from a tunnel -/
inductive Dispatched (IP_MSS : U16) (h : St) (p : Sessions2.Packet) (i : Sessions2.ClientInput) :
    St → Prop where
  | taken {j : Nat} {d : Sessions2.Data} (hd : h.tcpSessions[j]? = some d)
      (hcan : Sessions2.canHandle d p = true)
      (hfirst : ∀ k < j, ∀ d', h.tcpSessions[k]? = some d' → Sessions2.canHandle d' p = false) :
      Dispatched IP_MSS h p i (h.put j d (Sessions2.receiveFromClient IP_MSS (h.sessionAt d) p i).2)
  | created (hnone : ∀ d ∈ h.tcpSessions, Sessions2.canHandle d p = false)
      (hroom : h.tcpSessions.length ≠ MAXIMUM_TCP_SESSIONS) :
      Dispatched IP_MSS h p i (h.createSession IP_MSS p i)
  | dropped (hnone : ∀ d ∈ h.tcpSessions, Sessions2.canHandle d p = false)
      (hfull : h.tcpSessions.length = MAXIMUM_TCP_SESSIONS) : Dispatched IP_MSS h p i h

theorem offers_iff (h : St) (d : Sessions2.Data) (p : Sessions2.Packet) (i : Sessions2.ClientInput) :
    (Sessions2.receiveFromClient IP_MSS (h.sessionAt d) p i).1 = Sessions2.canHandle d p := by
  unfold Sessions2.receiveFromClient
  split_ifs with hcan
  · exact hcan.symm
  · exact (Bool.not_eq_true _ ▸ hcan).symm

theorem offer_some {p : Sessions2.Packet} {i : Sessions2.ClientInput} {ds : List Sessions2.Data}
    {j : Nat} {d : Sessions2.Data} {s : Sessions2.St} (ho : h.offer IP_MSS p i ds = some (j, d, s)) :
    ds[j]? = some d ∧ Sessions2.canHandle d p = true ∧
      s = (Sessions2.receiveFromClient IP_MSS (h.sessionAt d) p i).2 ∧
      ∀ k < j, ∀ d', ds[k]? = some d' → Sessions2.canHandle d' p = false := by
  induction ds generalizing j with
  | nil => cases ho
  | cons e ds ih =>
    unfold St.offer at ho
    dsimp only at ho
    rw [offers_iff] at ho
    split_ifs at ho with hcan
    · cases ho
      exact ⟨rfl, hcan, rfl, fun k hk => absurd hk (Nat.not_lt_zero k)⟩
    · obtain ⟨⟨j', d', s'⟩, hr, he⟩ := Option.map_eq_some_iff.mp ho
      cases he
      obtain ⟨h1, h2, h3, h4⟩ := ih hr
      refine ⟨h1, h2, h3, fun k hk d' hd' => ?_⟩
      cases k with
      | zero =>
        cases hd'
        simpa using hcan
      | succ k => exact h4 k (by omega) d' hd'

theorem offer_none {p : Sessions2.Packet} {i : Sessions2.ClientInput} {ds : List Sessions2.Data}
    (ho : h.offer IP_MSS p i ds = none) : ∀ d ∈ ds, Sessions2.canHandle d p = false := by
  induction ds with
  | nil => exact fun d hd => absurd hd (List.not_mem_nil)
  | cons e ds ih =>
    unfold St.offer at ho
    dsimp only at ho
    rw [offers_iff] at ho
    split_ifs at ho with hcan
    intro d hd
    rcases List.mem_cons.mp hd with rfl | hd
    · simpa using hcan
    · exact ih (Option.map_eq_none_iff.mp ho) d hd

theorem dispatch_dispatched (h : St) (p : Sessions2.Packet) (i : Sessions2.ClientInput) :
    Dispatched IP_MSS h p i (h.dispatch IP_MSS p i) := by
  unfold St.dispatch
  cases ho : h.offer IP_MSS p i h.tcpSessions with
  | some r =>
    obtain ⟨j, d, s⟩ := r
    obtain ⟨hd, hcan, rfl, hfirst⟩ := offer_some ho
    exact .taken hd hcan hfirst
  | none =>
    dsimp only
    split_ifs with hfull
    · exact .dropped (offer_none ho) hfull
    · exact .created (offer_none ho) hfull

/-! ## every step -/

/-- the sessions, their count and what they share are what they were -/
structure Apart (h h' : St) : Prop where
  tcpSessions : h'.tcpSessions = h.tcpSessions
  openTCPSessionsCount : h'.openTCPSessionsCount = h.openTCPSessionsCount
  shared : h'.shared = h.shared

/-- a step that leaves the sessions alone stands still in their loops, is elsewhere, or enters one -/
inductive Loop (h h' : St) : Prop where
  | still (pc : h'.pc = h.pc) (iterator : h'.iterator = h.iterator)
      (remaining : h'.remaining = h.remaining) (count : h'.count = h.count)
  | away (polling : h'.pc ≠ .sessions) (checking : h'.pc ≠ .tickSessions) (past : h'.pc ≠ .pastSessions)
  | enters (iterator : h'.iterator = 0) (remaining : h'.remaining = h'.openTCPSessionsCount)
      (past : h'.pc ≠ .pastSessions)

inductive Turn (IP_MSS : U16) (h : St) : Input → St → Prop where
  | apart {i : Input} {h' : St} (ha : Apart h h') (hl : Loop h h') : Turn IP_MSS h i h'
  | packet {p : Sessions2.Incoming} {i : Sessions2.ClientInput} {h' : St} (hpc : h.pc = .packets)
      (hhung : h.hung = false) (hd : Dispatched IP_MSS h p.val i h') : Turn IP_MSS h (.packet p i) h'
  | session {x : Events} {h' : St} (hpc : h.pc = .sessions) (hhung : h.hung = false)
      (ht : SessionTurn IP_MSS h x h') : Turn IP_MSS h (.session x) h'
  | check {now now' nowFlush : Int} {turns : Nat} {h' : St} (hpc : h.pc = .tickSessions)
      (hhung : h.hung = false) (ht : CheckTurn h h') :
      Turn IP_MSS h (.checkSession now now' nowFlush turns) h'

theorem Apart.refl (h : St) : Apart h h := ⟨rfl, rfl, rfl⟩

theorem Apart.trans {h h' h'' : St} (h1 : Apart h h') (h2 : Apart h' h'') : Apart h h'' :=
  ⟨h2.tcpSessions.trans h1.tcpSessions, h2.openTCPSessionsCount.trans h1.openTCPSessionsCount,
    h2.shared.trans h1.shared⟩

theorem Turn.none (h : St) (i : Input) : Turn IP_MSS h i h :=
  .apart (.refl h) (.still rfl rfl rfl rfl)

/-- the thread is there, or not -/
theorem Turn.ite {c : Prop} [Decidable c] {h h' : St} {i : Input} (ht : c → Turn IP_MSS h i h') :
    Turn IP_MSS h i (if c then h' else h) := iteInduction ht fun _ => .none h i

theorem Loop.of_pc {h h' : St} (pc : Pc) (hpc : h'.pc = pc)
    (hne : pc ≠ .sessions ∧ pc ≠ .tickSessions ∧ pc ≠ .pastSessions) : Loop h h' := by
  rw [← hpc] at hne
  exact .away hne.1 hne.2.1 hne.2.2

theorem activateTunnel_apart (h : St) (c : TunnelCandidate) : Apart h (h.activateTunnel c) := by
  unfold St.activateTunnel
  dsimp only
  split_ifs
  · exact ⟨rfl, rfl, rfl⟩
  · cases h.tunnels[h.openTunnelsCount]? with
    | some t => exact ⟨rfl, rfl, rfl⟩
    | none => exact ⟨rfl, rfl, rfl⟩

theorem activateCandidates_apart (cs : List TunnelCandidate) (h : St) :
    Apart h (St.activateCandidates cs h) := by
  induction cs generalizing h with
  | nil => exact .refl h
  | cons c cs ih =>
    unfold St.activateCandidates
    split_ifs
    · exact .refl h
    · exact ih h
    · exact (activateTunnel_apart h c).trans (ih _)

theorem activate_turn (h : St) (i : Input) : Turn IP_MSS h i h.activate := by
  obtain ⟨h1, h2, h3⟩ := activateCandidates_apart h.tunnelCandidates h
  unfold St.activate
  dsimp only
  split_ifs with hpast
  · exact .apart ⟨h1, h2, h3⟩ (.of_pc .pastTunnels hpast (by decide))
  · exact .apart ⟨h1, h2, h3⟩ (.of_pc .activated rfl (by decide))

theorem onDeleteTunnelRequest_turn (h : St) (id : U32) (i : Input) :
    Turn IP_MSS h i (h.onDeleteTunnelRequest id) := by
  unfold St.onDeleteTunnelRequest
  cases (h.tunnels.take h.openTunnelsCount).findIdx? fun t => t.id = id with
  | some k => exact .apart ⟨rfl, rfl, rfl⟩ (.still rfl rfl rfl rfl)
  | none => exact .ite fun _ => .apart ⟨rfl, rfl, rfl⟩ (.of_pc .pastTunnels rfl (by decide))

theorem tunnelTurn_turn (h : St) (i : Input) : Turn IP_MSS h i h.tunnelTurn := by
  unfold St.tunnelTurn
  split_ifs
  · exact .apart ⟨rfl, rfl, rfl⟩ (.enters rfl rfl Pc.noConfusion)
  · cases h.tunnels[h.iterator]? with
    | some t =>
      dsimp only
      split_ifs
      · exact .apart ⟨rfl, rfl, rfl⟩ (.of_pc .packets rfl (by decide))
      · exact .apart ⟨rfl, rfl, rfl⟩ (.of_pc .tunnelRest rfl (by decide))
    | none => exact .apart ⟨rfl, rfl, rfl⟩ (.of_pc .pastTunnels rfl (by decide))

/-- `count` behind the second event of the tunnel `t` -/
def St.countSent (h : St) (t : Tunnel) : Int := if t.isSetIn h.snd then h.count - 1 else h.count

/-- the rest of a turn for the tunnel `t` -/
theorem tunnelRest_eq {t : Tunnel} (ht : h.tunnels[h.iterator]? = some t) : h.tunnelRest =
    if t.isSetIn h.err then
      ({ h with
        count := h.countSent t - 1, remaining := h.remaining - 1, pc := .tunnels } : St).deactivateTunnel
          h.iterator t.close
    else { h with
      count := h.countSent t
      iterator := h.iterator + 1
      remaining := h.remaining - 1
      pc := .tunnels } := by
  unfold St.tunnelRest St.countSent
  rw [ht]
  by_cases hsnd : t.isSetIn h.snd = true
  · simp only [hsnd, if_true]
  · simp only [hsnd]
    rfl

theorem tunnelRest_turn (h : St) (i : Input) : Turn IP_MSS h i h.tunnelRest := by
  unfold St.tunnelRest
  cases h.tunnels[h.iterator]? with
  | some t =>
    dsimp only
    split_ifs
    all_goals exact .apart ⟨rfl, rfl, rfl⟩ (.of_pc .tunnels rfl (by decide))
  | none => exact .apart ⟨rfl, rfl, rfl⟩ (.of_pc .pastTunnels rfl (by decide))

theorem clockTurn_turn (h : St) (now : Int) (i : Input) : Turn IP_MSS h i (h.clockTurn now) := by
  unfold St.clockTurn
  split_ifs
  · exact .apart ⟨rfl, rfl, rfl⟩ (.of_pc .tickTunnels rfl (by decide))
  · exact .apart ⟨rfl, rfl, rfl⟩ (.of_pc .waiting rfl (by decide))

theorem checkTunnel_turn {h : St} (hpc : h.pc = .tickTunnels) (status : Bool) (i : Input) :
    Turn IP_MSS h i (h.checkTunnel status) := by
  unfold St.checkTunnel
  by_cases hdone : h.remaining = 0
  · rw [if_pos hdone]
    exact .apart ⟨rfl, rfl, rfl⟩ (.enters rfl rfl Pc.noConfusion)
  · rw [if_neg hdone]
    cases h.tunnels[h.iterator]? with
    | some t =>
      cases status with
      | true => exact .apart ⟨rfl, rfl, rfl⟩ (.of_pc .tickTunnels hpc (by decide))
      | false => exact .apart ⟨rfl, rfl, rfl⟩ (.of_pc .tickTunnels hpc (by decide))
    | none => exact .apart ⟨rfl, rfl, rfl⟩ (.of_pc .pastTunnels rfl (by decide))

theorem thread_turn {h : St} (hhung : h.hung = false) (i : Input) :
    Turn IP_MSS h i (h.thread IP_MSS i) := by
  cases i with
  | packet p i => exact .ite fun hpc => .packet hpc hhung (dispatch_dispatched h p.val i)
  | session x => exact .ite fun hpc => .session hpc hhung (sessionTurn_turn h x)
  | checkSession now now' nowFlush turns =>
    exact .ite fun hpc => .check hpc hhung (checkSession_turn h now now' nowFlush turns)
  | activate => exact .ite fun _ => activate_turn h _
  | exit => exact .ite fun _ => .apart ⟨rfl, rfl, rfl⟩ (.of_pc .stopped rfl (by decide))
  | evaluate => exact .ite fun _ => .apart ⟨rfl, rfl, rfl⟩ (.of_pc .selecting rfl (by decide))
  | select rcv snd err count =>
    exact .ite fun _ => .apart ⟨rfl, rfl, rfl⟩ (.of_pc .tunnels rfl (by decide))
  | tunnel => exact .ite fun _ => tunnelTurn_turn h _
  | deleteTunnel id => exact .ite fun _ => onDeleteTunnelRequest_turn h id _
  | packetsDone => exact .ite fun _ => .apart ⟨rfl, rfl, rfl⟩ (.of_pc .tunnelRest rfl (by decide))
  | tunnelRest => exact .ite fun _ => tunnelRest_turn h _
  | clock now => exact .ite fun _ => clockTurn_turn h now _
  | checkTunnel status => exact .ite fun hpc => checkTunnel_turn hpc status _
  | start tcpPacket => exact .none h _
  | addTunnelSocket c => exact .none h _
  | closeTunnel k => exact .none h _

/-- **What a step does to the sessions and their loops.** -/
theorem step_turn (IP_MSS : U16) (h : St) (i : Input) : Turn IP_MSS h i (step IP_MSS h i) := by
  have hthread : Turn IP_MSS h i (if h.hung then h else h.thread IP_MSS i) := by
    split_ifs with hhung
    · exact .none h i
    · exact thread_turn (by simpa using hhung) i
  cases i with
  | start tcpPacket => exact .ite fun _ => .apart ⟨rfl, rfl, rfl⟩ (.of_pc .waiting rfl (by decide))
  | addTunnelSocket c =>
    unfold step St.addTunnelSocket
    dsimp only
    split_ifs
    · exact .none h _
    · exact .apart ⟨rfl, rfl, rfl⟩ (.still rfl rfl rfl rfl)
  | closeTunnel k => exact .apart ⟨rfl, rfl, rfl⟩ (.still rfl rfl rfl rfl)
  | _ => exact hthread

end

end TunServer.Handler
