import TunServer.Handler.Frame

/-!
# The session that a step serves

A step of `handleClient` serves at most one session object, by calls that follow each other on what
the sessions share.

* `Service`, `St.service`   the object that a step serves, the calls, and whether it moves to the end;
* `Serves`                  what a service leaves of the handler;
* `step_served`, `step_unserved`   every step is its service, and touches no other object;
* `service_place`           the object is there, or there is room for a new one.
-/

set_option linter.unusedVariables false

namespace TunServer.Handler

open Sessions2 (Op)

/-! ## what a step serves -/

structure Service where
  place : Nat
  ops : List Op
  /-- the object moves to the end -/
  leaves : Bool
  deriving DecidableEq, Repr

namespace St

/-- the calls of a turn that the first two sets ask for -/
def received (h : St) (x : Events) (d : Sessions2.Data) : List Op :=
  if isSetIn d.socket h.rcv then [Op.receiveFromServer x.received x.nowReceive x.turns] else []

def sent (h : St) (x : Events) (d : Sessions2.Data) : List Op :=
  if isSetIn d.socket h.snd then
    [Op.flushDataToServer x.lastError x.sent x.nowFlush x.nowSynAck] else []

/-- the session `d` behind calls of its own -/
def after (IP_MSS : U16) (h : St) (d : Sessions2.Data) (ops : List Op) : Sessions2.St :=
  run (Sessions2.step IP_MSS) (h.sessionAt d) ops

/-- a turn of the loop over the sessions, for the session `d` -/
def turnService (IP_MSS : U16) (h : St) (x : Events) (d : Sessions2.Data) : Service :=
  let ops := h.received x d
  if (h.after IP_MSS d ops).hung then ⟨h.iterator, ops, false⟩
  else
    let ops := ops ++ h.sent x (h.after IP_MSS d ops).data
    if isSetIn (h.after IP_MSS d ops).data.socket h.err then
      ⟨h.iterator, ops ++ [Op.onSocketError], true⟩
    else ⟨h.iterator, ops, false⟩

/-- a turn of the loop that checks the sessions, for the session `d` -/
def checkService (h : St) (now now' nowFlush : Int) (turns : Nat) (d : Sessions2.Data) : Service :=
  if ((h.sessionAt d).checkStatus now now').1 then
    ⟨h.iterator, [Op.checkStatus now now', Op.flushDataToClient nowFlush turns], false⟩
  else ⟨h.iterator, [Op.checkStatus now now'], true⟩

/-- the object that a step serves; a new one stands behind the others -/
def service (IP_MSS : U16) (h : St) : Input → Option Service
  | .packet p i =>
    if h.hung = false ∧ h.pc = .packets then
      match h.offer IP_MSS p.val i h.tcpSessions with
      | some r => some ⟨r.1, [Op.receiveFromClient p i], false⟩
      | none =>
        if h.tcpSessions.length = MAXIMUM_TCP_SESSIONS then none
        else some ⟨h.tcpSessions.length, [Op.receiveFromClient p i], false⟩
    else none
  | .session x =>
    if h.hung = false ∧ h.pc = .sessions ∧ 0 < h.remaining ∧ 0 < h.count then
      h.tcpSessions[h.iterator]?.map (h.turnService IP_MSS x)
    else none
  | .checkSession now now' nowFlush turns =>
    if h.hung = false ∧ h.pc = .tickSessions ∧ 0 < h.remaining then
      h.tcpSessions[h.iterator]?.map (h.checkService now now' nowFlush turns)
    else none
  | _ => none

/-- the objects there are for the service -/
def seats (IP_MSS : U16) (h : St) (v : Service) : List Sessions2.Data :=
  if v.place = h.tcpSessions.length then h.tcpSessions ++ [.init IP_MSS] else h.tcpSessions

end St

section
variable {IP_MSS : U16} {h h' : St}

/-- The handler `h'` is what the service leaves: the object at its place has made the calls, which were
the only ones to work on what the sessions share. -/
structure Serves (IP_MSS : U16) (h : St) (v : Service) (d : Sessions2.Data) (h' : St) : Prop where
  seat : (h.seats IP_MSS v)[v.place]? = some d
  tcpSessions : h'.tcpSessions =
    if v.leaves then toEnd (h.seats IP_MSS v) v.place (h.after IP_MSS d v.ops).data
    else (h.seats IP_MSS v).set v.place (h.after IP_MSS d v.ops).data
  log : h'.log = (h.after IP_MSS d v.ops).log
  hung : h'.hung = (h.after IP_MSS d v.ops).hung

/-- no session was called -/
structure Unserved (h h' : St) : Prop where
  tcpSessions : h'.tcpSessions = h.tcpSessions
  log : h'.log = h.log
  hung : h'.hung = h.hung

theorem Unserved.refl (h : St) : Unserved h h := ⟨rfl, rfl, rfl⟩

theorem Unserved.trans {h'' : St} (h1 : Unserved h h') (h2 : Unserved h' h'') : Unserved h h'' :=
  ⟨h2.tcpSessions.trans h1.tcpSessions, h2.log.trans h1.log, h2.hung.trans h1.hung⟩

/-! ## calls of the session at the iterator -/

/-- Calls of the session at the iterator, `d` before them: the handler `g` is `h` but for this session
and what the sessions share. -/
structure Called (IP_MSS : U16) (h : St) (d : Sessions2.Data) (ops : List Op) (g : St) : Prop where
  tcpSessions : g.tcpSessions = h.tcpSessions.set h.iterator (h.after IP_MSS d ops).data
  shared : g.sessionAt (h.after IP_MSS d ops).data = h.after IP_MSS d ops
  iterator : g.iterator = h.iterator
  rcv : g.rcv = h.rcv
  snd : g.snd = h.snd
  err : g.err = h.err

theorem Called.get {d : Sessions2.Data} {ops : List Op} {g : St} (hc : Called IP_MSS h d ops g)
    (hd : h.tcpSessions[h.iterator]? = some d) :
    g.tcpSessions[g.iterator]? = some (h.after IP_MSS d ops).data := by
  rw [hc.iterator, hc.tcpSessions, List.getElem?_set_self (List.getElem?_eq_some_iff.mp hd).1]

theorem Called.hung {d : Sessions2.Data} {ops : List Op} {g : St} (hc : Called IP_MSS h d ops g) :
    g.hung = (h.after IP_MSS d ops).hung := by
  rw [← hc.shared]
  rfl

theorem Called.log {d : Sessions2.Data} {ops : List Op} {g : St} (hc : Called IP_MSS h d ops g) :
    g.log = (h.after IP_MSS d ops).log := by
  rw [← hc.shared]
  rfl

theorem Called.trans {d : Sessions2.Data} {ops ops' : List Op} {g g' : St} (hc : Called IP_MSS h d ops g)
    (hc' : Called IP_MSS g (h.after IP_MSS d ops).data ops' g') :
    Called IP_MSS h d (ops ++ ops') g' := by
  have e : h.after IP_MSS d (ops ++ ops') = g.after IP_MSS (h.after IP_MSS d ops).data ops' := by
    show run _ _ _ = run _ (g.sessionAt _) _
    rw [run_append, hc.shared]
    rfl
  refine ⟨?_, ?_, hc'.iterator.trans hc.iterator, hc'.rcv.trans hc.rcv, hc'.snd.trans hc.snd,
    hc'.err.trans hc.err⟩
  · rw [e, hc'.tcpSessions, hc.tcpSessions, hc.iterator, List.set_set]
  · rw [e]
    exact hc'.shared

theorem call_called {d : Sessions2.Data} (hd : h.tcpSessions[h.iterator]? = some d) (op : Op) :
    Called IP_MSS h d [op] (h.call IP_MSS h.iterator op) := by
  unfold St.call
  rw [hd]
  exact ⟨rfl, rfl, rfl, rfl, rfl, rfl⟩

theorem event_called {d : Sessions2.Data} (hd : h.tcpSessions[h.iterator]? = some d) (ready : Bool)
    (op : Op) : Called IP_MSS h d (if ready then [op] else []) (h.event IP_MSS ready op) := by
  unfold St.event
  split_ifs
  · obtain ⟨h1, h2, h3, h4, h5, h6⟩ := @call_called IP_MSS { h with count := h.count - 1 } d hd op
    exact ⟨h1, h2, h3, h4, h5, h6⟩
  · refine ⟨?_, rfl, rfl, rfl, rfl, rfl⟩
    obtain ⟨hlt, rfl⟩ := List.getElem?_eq_some_iff.mp hd
    exact (List.set_getElem_self hlt).symm

theorem isReady_of_get {d : Sessions2.Data} (hd : h.tcpSessions[h.iterator]? = some d)
    (set : Finset Nat) : h.isReady set = isSetIn d.socket set := by
  unfold St.isReady
  rw [hd]

/-! ## the turns -/

/-- the first two events of a turn -/
theorem polled_called {d : Sessions2.Data} (hd : h.tcpSessions[h.iterator]? = some d) (x : Events) :
    if (h.after IP_MSS d (h.received x d)).hung then
      (h.polled IP_MSS x).hung = true ∧ Called IP_MSS h d (h.received x d) (h.polled IP_MSS x)
    else (h.polled IP_MSS x).hung = false ∧ Called IP_MSS h d
      (h.received x d ++ h.sent x (h.after IP_MSS d (h.received x d)).data) (h.polled IP_MSS x) := by
  have h1 : Called IP_MSS h d (h.received x d) (h.event IP_MSS (h.isReady h.rcv)
      (.receiveFromServer x.received x.nowReceive x.turns)) := by
    rw [isReady_of_get hd]
    exact event_called hd _ _
  unfold St.polled
  dsimp only
  rw [← h1.hung]
  split_ifs with hhung
  · exact ⟨hhung, h1⟩
  · refine ⟨?_, h1.trans ?_⟩
    · rw [event_flush_hung]
      simpa using hhung
    · have hd' := h1.get hd
      rw [isReady_of_get hd', h1.snd]
      have h2 := @event_called IP_MSS _ _ hd'
        (isSetIn (h.after IP_MSS d (h.received x d)).data.socket h.snd)
        (.flushDataToServer x.lastError x.sent x.nowFlush x.nowSynAck)
      exact h2

/-- what calls of the session at the iterator leave, as a service -/
theorem Called.serves {d : Sessions2.Data} {ops : List Op} {g : St} (hc : Called IP_MSS h d ops g)
    (hd : h.tcpSessions[h.iterator]? = some d) : Serves IP_MSS h ⟨h.iterator, ops, false⟩ d g := by
  have hseats : h.seats IP_MSS ⟨h.iterator, ops, false⟩ = h.tcpSessions :=
    if_neg (List.getElem?_eq_some_iff.mp hd).1.ne
  refine ⟨?_, ?_, hc.log, hc.hung⟩
  · rw [hseats]
    exact hd
  · rw [hseats]
    exact hc.tcpSessions

/-- and if it moves to the end then -/
theorem Called.leaves {d : Sessions2.Data} {ops : List Op} {g : St} (hc : Called IP_MSS h d ops g)
    (hd : h.tcpSessions[h.iterator]? = some d) :
    Serves IP_MSS h ⟨h.iterator, ops, true⟩ d (g.deactivateSession h.iterator) := by
  have hseats : h.seats IP_MSS ⟨h.iterator, ops, true⟩ = h.tcpSessions :=
    if_neg (List.getElem?_eq_some_iff.mp hd).1.ne
  have hd' := hc.get hd
  rw [hc.iterator] at hd'
  unfold St.deactivateSession
  rw [hd']
  refine ⟨?_, ?_, hc.log, hc.hung⟩
  · rw [hseats]
    exact hd
  · rw [hseats, if_pos rfl]
    show toEnd g.tcpSessions _ _ = _
    rw [hc.tcpSessions, toEnd_set]

theorem sessionTurn_serves {d : Sessions2.Data} (hd : h.tcpSessions[h.iterator]? = some d) (x : Events)
    (hmore : 0 < h.remaining) (hpos : 0 < h.count) :
    Serves IP_MSS h (h.turnService IP_MSS x d) d (h.sessionTurn IP_MSS x) := by
  have hlt := (List.getElem?_eq_some_iff.mp hd).1
  have hp := @polled_called IP_MSS h d hd x
  rw [sessionTurn_eq, if_neg (by omega), if_neg (by omega)]
  unfold St.turnService
  dsimp only
  split_ifs at hp with hhung
  · rw [if_pos hp.1, if_pos hhung]
    exact hp.2.serves hd
  · obtain ⟨hopen, hc⟩ := hp
    have hd' := hc.get hd
    rw [if_neg (Bool.eq_false_iff.mp hopen), if_neg hhung, isReady_of_get hd']
    have hmoved : Called IP_MSS h d (h.received x d ++ h.sent x (h.after IP_MSS d (h.received x d)).data)
        { h.polled IP_MSS x with remaining := h.remaining - 1 } :=
      ⟨hc.tcpSessions, hc.shared, hc.iterator, hc.rcv, hc.snd, hc.err⟩
    split_ifs with herr
    · exact (hmoved.trans (event_called (hmoved.get hd) true .onSocketError)).leaves hd
    · exact hmoved.serves hd

theorem checkSession_serves {d : Sessions2.Data} (hd : h.tcpSessions[h.iterator]? = some d)
    (hhung : h.hung = false) (now now' nowFlush : Int) (turns : Nat) (hmore : 0 < h.remaining) :
    Serves IP_MSS h (h.checkService now now' nowFlush turns d) d
      (h.checkSession IP_MSS now now' nowFlush turns) := by
  have hcheck : Called IP_MSS h d [.checkStatus now now'] { h.put h.iterator d
      ((h.sessionAt d).checkStatus now now').2 with remaining := h.remaining - 1 } := by
    have e : h.after IP_MSS d [.checkStatus now now'] = ((h.sessionAt d).checkStatus now now').2 :=
      if_neg (Bool.eq_false_iff.mp hhung)
    refine ⟨?_, ?_, rfl, rfl, rfl, rfl⟩
    · rw [e]
      rfl
    · rw [e]
      rfl
  have hdone : ¬ h.remaining = 0 := by omega
  unfold St.checkSession St.checkService
  rw [if_neg hdone, hd]
  dsimp only
  split_ifs with hopen
  · obtain ⟨h1, h2, h3, h4, h5, h6⟩ :=
      hcheck.trans (call_called (hcheck.get hd) (.flushDataToClient nowFlush turns))
    obtain ⟨k1, k2, k3, k4⟩ := @Called.serves IP_MSS h d _ _ ⟨h1, h2, h3, h4, h5, h6⟩ hd
    exact ⟨k1, k2, k3, k4⟩
  · exact hcheck.leaves hd

/-! ## a packet -/

/-- the packet for the session at `j` -/
theorem put_serves (hhung : h.hung = false) {j : Nat} {d : Sessions2.Data}
    (hd : h.tcpSessions[j]? = some d) (p : Sessions2.Incoming) (i : Sessions2.ClientInput) :
    Serves IP_MSS h ⟨j, [.receiveFromClient p i], false⟩ d
      (h.put j d (Sessions2.receiveFromClient IP_MSS (h.sessionAt d) p.val i).2) := by
  have hseats : h.seats IP_MSS ⟨j, [.receiveFromClient p i], false⟩ = h.tcpSessions :=
    if_neg (List.getElem?_eq_some_iff.mp hd).1.ne
  have e : h.after IP_MSS d [.receiveFromClient p i] =
      (Sessions2.receiveFromClient IP_MSS (h.sessionAt d) p.val i).2 :=
    if_neg (Bool.eq_false_iff.mp hhung)
  refine ⟨?_, ?_, ?_, ?_⟩
  · rw [hseats]
    exact hd
  · rw [hseats, e]
    rfl
  · rw [e]
    rfl
  · rw [e]
    rfl

/-- the packet for a new session -/
theorem createSession_serves (hhung : h.hung = false) (p : Sessions2.Incoming)
    (i : Sessions2.ClientInput) :
    Serves IP_MSS h ⟨h.tcpSessions.length, [.receiveFromClient p i], false⟩ (.init IP_MSS)
      (h.createSession IP_MSS p.val i) := by
  have hseats : h.seats IP_MSS ⟨h.tcpSessions.length, [.receiveFromClient p i], false⟩ =
      h.tcpSessions ++ [.init IP_MSS] := if_pos rfl
  have e : h.after IP_MSS (.init IP_MSS) [.receiveFromClient p i] =
      (Sessions2.receiveFromClient IP_MSS (h.sessionAt (.init IP_MSS)) p.val i).2 :=
    if_neg (Bool.eq_false_iff.mp hhung)
  have hcreated : Unserved ({ h with tcpSessions := h.tcpSessions ++ [Sessions2.Data.init IP_MSS] }.put
      h.tcpSessions.length (.init IP_MSS)
        (Sessions2.receiveFromClient IP_MSS (h.sessionAt (.init IP_MSS)) p.val i).2)
      (h.createSession IP_MSS p.val i) := by
    unfold St.createSession
    dsimp only
    split_ifs
    · exact ⟨rfl, rfl, rfl⟩
    · exact .refl _
  refine ⟨?_, ?_, ?_, ?_⟩
  · rw [hseats]
    exact List.getElem?_concat_length
  · rw [hcreated.tcpSessions, hseats, e]
    rfl
  · rw [hcreated.log, e]
    rfl
  · rw [hcreated.hung, e]
    rfl

/-! ## the other steps -/

theorem activateTunnel_unserved (h : St) (c : TunnelCandidate) : Unserved h (h.activateTunnel c) := by
  unfold St.activateTunnel
  dsimp only
  split_ifs
  · exact ⟨rfl, rfl, rfl⟩
  · cases h.tunnels[h.openTunnelsCount]? with
    | some t => exact ⟨rfl, rfl, rfl⟩
    | none => exact ⟨rfl, rfl, rfl⟩

theorem activateCandidates_unserved (cs : List TunnelCandidate) (h : St) :
    Unserved h (St.activateCandidates cs h) := by
  induction cs generalizing h with
  | nil => exact .refl h
  | cons c cs ih =>
    unfold St.activateCandidates
    split_ifs
    · exact .refl h
    · exact ih h
    · exact (activateTunnel_unserved h c).trans (ih _)

theorem Unserved.ite {c : Prop} [Decidable c] (ht : c → Unserved h h') :
    Unserved h (if c then h' else h) := iteInduction ht fun _ => .refl h

theorem activate_unserved (h : St) : Unserved h h.activate := by
  have h1 := activateCandidates_unserved h.tunnelCandidates h
  unfold St.activate
  dsimp only
  split_ifs
  · exact h1
  · exact h1.trans ⟨rfl, rfl, rfl⟩

theorem onDeleteTunnelRequest_unserved (h : St) (id : U32) :
    Unserved h (h.onDeleteTunnelRequest id) := by
  unfold St.onDeleteTunnelRequest
  cases (h.tunnels.take h.openTunnelsCount).findIdx? fun t => t.id = id with
  | some k => exact ⟨rfl, rfl, rfl⟩
  | none => exact .ite fun _ => ⟨rfl, rfl, rfl⟩

theorem tunnelTurn_unserved (h : St) : Unserved h h.tunnelTurn := by
  unfold St.tunnelTurn
  split_ifs
  · exact ⟨rfl, rfl, rfl⟩
  · cases h.tunnels[h.iterator]? with
    | some t =>
      dsimp only
      split_ifs
      · exact ⟨rfl, rfl, rfl⟩
      · exact ⟨rfl, rfl, rfl⟩
    | none => exact ⟨rfl, rfl, rfl⟩

theorem tunnelRest_unserved (h : St) : Unserved h h.tunnelRest := by
  unfold St.tunnelRest
  cases h.tunnels[h.iterator]? with
  | some t =>
    dsimp only
    split_ifs
    all_goals exact ⟨rfl, rfl, rfl⟩
  | none => exact ⟨rfl, rfl, rfl⟩

theorem checkTunnel_unserved (h : St) (status : Bool) : Unserved h (h.checkTunnel status) := by
  unfold St.checkTunnel
  by_cases hdone : h.remaining = 0
  · rw [if_pos hdone]
    exact ⟨rfl, rfl, rfl⟩
  · rw [if_neg hdone]
    cases h.tunnels[h.iterator]? with
    | some t =>
      cases status with
      | true => exact ⟨rfl, rfl, rfl⟩
      | false => exact ⟨rfl, rfl, rfl⟩
    | none => exact ⟨rfl, rfl, rfl⟩

theorem clockTurn_unserved (h : St) (now : Int) : Unserved h (h.clockTurn now) := by
  unfold St.clockTurn
  split_ifs
  · exact ⟨rfl, rfl, rfl⟩
  · exact ⟨rfl, rfl, rfl⟩

/-! ## every step -/

/-- **A step that serves an object.** -/
theorem step_served {i : Input} {v : Service} (hv : h.service IP_MSS i = some v) :
    ∃ d, Serves IP_MSS h v d (step IP_MSS h i) := by
  unfold St.service at hv
  cases i with
  | packet p i =>
    obtain ⟨⟨hhung, hpc⟩, hv⟩ := Option.ite_none_right_eq_some.mp hv
    have e : step IP_MSS h (.packet p i) = h.dispatch IP_MSS p.val i :=
      (if_neg (Bool.eq_false_iff.mp hhung)).trans (if_pos hpc)
    rw [e]
    unfold St.dispatch
    cases ho : h.offer IP_MSS p.val i h.tcpSessions with
    | some r =>
      obtain ⟨j, d, s⟩ := r
      obtain ⟨hd, _, rfl, _⟩ := offer_some ho
      rw [ho] at hv
      cases hv
      exact ⟨d, put_serves hhung hd p i⟩
    | none =>
      rw [ho] at hv
      obtain ⟨hroom, hv⟩ := Option.ite_none_left_eq_some.mp hv
      cases hv
      dsimp only
      rw [if_neg hroom]
      exact ⟨_, createSession_serves hhung p i⟩
  | session x =>
    obtain ⟨⟨hhung, hpc, hmore, hpos⟩, hv⟩ := Option.ite_none_right_eq_some.mp hv
    obtain ⟨d, hd, rfl⟩ := Option.map_eq_some_iff.mp hv
    have e : step IP_MSS h (.session x) = h.sessionTurn IP_MSS x :=
      (if_neg (Bool.eq_false_iff.mp hhung)).trans (if_pos hpc)
    rw [e]
    exact ⟨d, sessionTurn_serves hd x hmore hpos⟩
  | checkSession now now' nowFlush turns =>
    obtain ⟨⟨hhung, hpc, hmore⟩, hv⟩ := Option.ite_none_right_eq_some.mp hv
    obtain ⟨d, hd, rfl⟩ := Option.map_eq_some_iff.mp hv
    have e : step IP_MSS h (.checkSession now now' nowFlush turns) =
        h.checkSession IP_MSS now now' nowFlush turns :=
      (if_neg (Bool.eq_false_iff.mp hhung)).trans (if_pos hpc)
    rw [e]
    exact ⟨d, checkSession_serves hd hhung now now' nowFlush turns hmore⟩
  | _ => cases hv

/-- the thread is there and there is nobody to serve -/
theorem thread_unserved {i : Input} (hhung : h.hung = false) (hv : h.service IP_MSS i = none) :
    Unserved h (h.thread IP_MSS i) := by
  cases i with
  | packet p i =>
    refine .ite fun hpc => ?_
    have hv' := hv
    unfold St.service at hv'
    dsimp only at hv'
    rw [if_pos ⟨hhung, hpc⟩] at hv'
    unfold St.dispatch
    cases ho : h.offer IP_MSS p.val i h.tcpSessions with
    | some r =>
      rw [ho] at hv'
      cases hv'
    | none =>
      rw [ho] at hv'
      dsimp only at hv' ⊢
      split_ifs at hv' ⊢ with hfull
      exact .refl h
  | session x =>
    refine .ite fun hpc => ?_
    rw [sessionTurn_eq]
    by_cases hdone : h.remaining = 0 ∨ h.count ≤ 0
    · rw [if_pos hdone]
      exact ⟨rfl, rfl, rfl⟩
    by_cases hlen : h.tcpSessions.length ≤ h.iterator
    · rw [if_neg hdone, if_pos hlen]
      exact ⟨rfl, rfl, rfl⟩
    have hv' := hv
    unfold St.service at hv'
    dsimp only at hv'
    rw [if_pos ⟨hhung, hpc, by omega, by omega⟩, List.getElem?_eq_getElem (by omega)] at hv'
    cases hv'
  | checkSession now now' nowFlush turns =>
    refine .ite fun hpc => ?_
    unfold St.checkSession
    by_cases hdone : h.remaining = 0
    · rw [if_pos hdone]
      exact ⟨rfl, rfl, rfl⟩
    rw [if_neg hdone]
    have hv' := hv
    unfold St.service at hv'
    dsimp only at hv'
    rw [if_pos ⟨hhung, hpc, by omega⟩] at hv'
    cases hd : h.tcpSessions[h.iterator]? with
    | some d =>
      rw [hd] at hv'
      cases hv'
    | none => exact ⟨rfl, rfl, rfl⟩
  | activate => exact .ite fun _ => activate_unserved h
  | exit => exact .ite fun _ => ⟨rfl, rfl, rfl⟩
  | evaluate => exact .ite fun _ => ⟨rfl, rfl, rfl⟩
  | select rcv snd err count => exact .ite fun _ => ⟨rfl, rfl, rfl⟩
  | tunnel => exact .ite fun _ => tunnelTurn_unserved h
  | deleteTunnel id => exact .ite fun _ => onDeleteTunnelRequest_unserved h id
  | packetsDone => exact .ite fun _ => ⟨rfl, rfl, rfl⟩
  | tunnelRest => exact .ite fun _ => tunnelRest_unserved h
  | clock now => exact .ite fun _ => clockTurn_unserved h now
  | checkTunnel status => exact .ite fun _ => checkTunnel_unserved h status
  | start tcpPacket => exact .refl h
  | addTunnelSocket c => exact .refl h
  | closeTunnel k => exact .refl h

/-- **A step that serves none.** -/
theorem step_unserved {i : Input} (hv : h.service IP_MSS i = none) : Unserved h (step IP_MSS h i) := by
  have hthread : Unserved h (if h.hung then h else h.thread IP_MSS i) := by
    split_ifs with hhung
    · exact .refl h
    · exact thread_unserved (by simpa using hhung) hv
  cases i with
  | start tcpPacket => exact .ite fun _ => ⟨rfl, rfl, rfl⟩
  | addTunnelSocket c =>
    unfold step St.addTunnelSocket
    dsimp only
    split_ifs
    · exact .refl h
    · exact ⟨rfl, rfl, rfl⟩
  | closeTunnel k => exact ⟨rfl, rfl, rfl⟩
  | _ => exact hthread

/-! ## where the object stands -/

/-- only a handler that goes on serves -/
theorem service_open {h : St} {i : Input} {v : Service} (hv : h.service IP_MSS i = some v) :
    h.hung = false := by
  unfold St.service at hv
  cases i with
  | packet p i => exact (Option.ite_none_right_eq_some.mp hv).1.1
  | session x => exact (Option.ite_none_right_eq_some.mp hv).1.1
  | checkSession now now' nowFlush turns => exact (Option.ite_none_right_eq_some.mp hv).1.1
  | _ => cases hv

theorem turnService_place (h : St) (x : Events) (d : Sessions2.Data) :
    (h.turnService IP_MSS x d).place = h.iterator := by
  unfold St.turnService
  dsimp only
  split_ifs
  · rfl
  · rfl
  · rfl

theorem checkService_place (h : St) (now now' nowFlush : Int) (turns : Nat) (d : Sessions2.Data) :
    (h.checkService now now' nowFlush turns d).place = h.iterator := by
  unfold St.checkService
  split_ifs
  · rfl
  · rfl

/-- an object that is there is served, or a new one is made, and there is room for it -/
theorem service_place {h : St} {i : Input} {v : Service} (hv : h.service IP_MSS i = some v) :
    v.place < h.tcpSessions.length ∨
      v.place = h.tcpSessions.length ∧ h.tcpSessions.length ≠ MAXIMUM_TCP_SESSIONS := by
  unfold St.service at hv
  cases i with
  | packet p i =>
    obtain ⟨_, hv⟩ := Option.ite_none_right_eq_some.mp hv
    cases ho : h.offer IP_MSS p.val i h.tcpSessions with
    | some r =>
      rw [ho] at hv
      cases hv
      exact .inl (List.getElem?_eq_some_iff.mp (offer_some (j := r.1) (d := r.2.1) (s := r.2.2) ho).1).1
    | none =>
      rw [ho] at hv
      obtain ⟨hroom, hv⟩ := Option.ite_none_left_eq_some.mp hv
      cases hv
      exact .inr ⟨rfl, hroom⟩
  | session x =>
    obtain ⟨_, hv⟩ := Option.ite_none_right_eq_some.mp hv
    obtain ⟨d, hd, rfl⟩ := Option.map_eq_some_iff.mp hv
    rw [turnService_place]
    exact .inl (List.getElem?_eq_some_iff.mp hd).1
  | checkSession now now' nowFlush turns =>
    obtain ⟨_, hv⟩ := Option.ite_none_right_eq_some.mp hv
    obtain ⟨d, hd, rfl⟩ := Option.map_eq_some_iff.mp hv
    rw [checkService_place]
    exact .inl (List.getElem?_eq_some_iff.mp hd).1
  | _ => cases hv

end

end TunServer.Handler
