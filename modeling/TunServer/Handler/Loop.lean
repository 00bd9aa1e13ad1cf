import TunServer.Handler.Data

/-!
# `ClientHandler::handleClient`

The thread goes through its loop in the steps of `Input`; between two of them other threads may call
`addTunnelSocket` and `start`, and tunnels may close.

* `Input`   one step with what it gets from its surroundings;
* `step`    makes it, if the thread is there; a step the thread is not at changes nothing.
-/

set_option linter.unusedVariables false

namespace TunServer.Handler

/-- what the socket of a session answers, and the clock, in a turn of the session loop -/
structure Events where
  received : Sessions2.RecvResult
  nowReceive : Int
  turns : Nat
  lastError : Int
  sent : Sessions2.SendResult
  nowFlush : Int
  nowSynAck : Int

inductive Input where
  /-- another thread starts the handler; its packet object is a new one -/
  | start (tcpPacket : Sessions2.Packet)
  /-- the locked part of `addTunnelSocket`, in another thread -/
  | addTunnelSocket (c : TunnelCandidate)
  /-- the tunnel at `k` closes -/
  | closeTunnel (k : Nat)
  /-- the handler is to stop, or had no tunnels for too long -/
  | exit
  | activate
  | evaluate
  /-- `select` answers -/
  | select (rcv snd err : Finset Nat) (count : Int)
  /-- a turn of the loop over the tunnels, up to the packets -/
  | tunnel
  | packet (p : Sessions2.Incoming) (i : Sessions2.ClientInput)
  /-- the packets hold a request to delete a tunnel -/
  | deleteTunnel (id : U32)
  | packetsDone
  /-- the rest of the turn -/
  | tunnelRest
  /-- a turn of the loop over the sessions -/
  | session (x : Events)
  | clock (now : Int)
  /-- a turn of the loop that checks the tunnels, and the answer of `checkStatus` -/
  | checkTunnel (status : Bool)
  /-- a turn of the loop that checks the sessions: the readings of the clock in `checkStatus`, and
  in `flushDataToClient` -/
  | checkSession (now now' nowFlush : Int) (turns : Nat)

namespace St

/-! ## the head of the loop -/

def start (h : St) (tcpPacket : Sessions2.Packet) : St :=
  { h with
    tcpPacket := tcpPacket
    lastTickTime := 0
    startTunnelsCount := h.openTunnelsCount
    startTCPSessionsCount := h.openTCPSessionsCount
    pc := .waiting }

/-- the condition that `waitingObject` waits for -/
def pred (h : St) : Bool := 0 < h.openTunnelsCount ∨ h.tunnelCandidates ≠ []

/-- one of the counts is not what it was at the last call of `select` -/
def countsDiffer (h : St) : Bool :=
  h.openTunnelsCount ≠ h.startTunnelsCount ∨ h.openTCPSessionsCount ≠ h.startTCPSessionsCount

/-- `maxFD` is evaluated if one of the counts changed -/
def evaluate (h : St) : St :=
  { h with
    maxFD := if h.countsDiffer then h.evalMaxFD else h.maxFD
    startTunnelsCount := h.openTunnelsCount
    startTCPSessionsCount := h.openTCPSessionsCount
    pc := .selecting
    handedOut := [] }

def selected (h : St) (rcv snd err : Finset Nat) (count : Int) : St :=
  { h with
    rcv := rcv
    snd := snd
    err := err
    count := count
    iterator := 0
    remaining := h.openTunnelsCount
    pc := .tunnels }

/-! ## the tunnels -/

def tunnelTurn (h : St) : St :=
  if h.remaining = 0 ∨ h.count ≤ 0 then
    { h with iterator := 0, remaining := h.openTCPSessionsCount, pc := .sessions }
  else match h.tunnels[h.iterator]? with
    | some t =>
      if t.isSetIn h.rcv then { h with count := h.count - 1, pc := .packets }
      else { h with pc := .tunnelRest }
    | none => { h with pc := .pastTunnels }

def tunnelRest (h : St) : St :=
  match h.tunnels[h.iterator]? with
  | some t =>
    let h := if t.isSetIn h.snd then { h with count := h.count - 1 } else h
    let h := { h with remaining := h.remaining - 1, pc := .tunnels }
    if t.isSetIn h.err then { h with count := h.count - 1 }.deactivateTunnel h.iterator t.close
    else { h with iterator := h.iterator + 1 }
  | none => { h with pc := .pastTunnels }

/-! ## the sessions -/

/-- the socket of the session at the iterator is in the set -/
def isReady (h : St) (set : Finset Nat) : Bool :=
  match h.tcpSessions[h.iterator]? with
  | some d => isSetIn d.socket set
  | none => false

/-- one of the three events of a turn -/
def event (IP_MSS : U16) (h : St) (ready : Bool) (op : Sessions2.Op) : St :=
  if ready then { h with count := h.count - 1 }.call IP_MSS h.iterator op else h

/-- the iterator moves on only behind a session that is deactivated -/
def sessionTurn (IP_MSS : U16) (h : St) (x : Events) : St :=
  if h.remaining = 0 ∨ h.count ≤ 0 then { h with pc := .clock }
  else if h.tcpSessions.length ≤ h.iterator then { h with pc := .pastSessions }
  else
    let h := h.event IP_MSS (h.isReady h.rcv) (.receiveFromServer x.received x.nowReceive x.turns)
    if h.hung then h
    else
      let h := h.event IP_MSS (h.isReady h.snd)
        (.flushDataToServer x.lastError x.sent x.nowFlush x.nowSynAck)
      let h := { h with remaining := h.remaining - 1 }
      if h.isReady h.err then
        (h.event IP_MSS true .onSocketError).deactivateSession h.iterator
      else h

/-! ## the ticks -/

def clockTurn (h : St) (now : Int) : St :=
  if now - h.lastTickTime > TICK_DELAY then
    { h with
      lastTickTime := now
      iterator := 0
      remaining := h.openTunnelsCount
      pc := .tickTunnels }
  else { h with pc := .waiting }

def checkTunnel (h : St) (status : Bool) : St :=
  if h.remaining = 0 then
    { h with iterator := 0, remaining := h.openTCPSessionsCount, pc := .tickSessions }
  else match h.tunnels[h.iterator]? with
    | some t =>
      let h := { h with remaining := h.remaining - 1 }
      if status then { h with iterator := h.iterator + 1 } else h.deactivateTunnel h.iterator t
    | none => { h with pc := .pastTunnels }

def checkSession (IP_MSS : U16) (h : St) (now now' nowFlush : Int) (turns : Nat) : St :=
  if h.remaining = 0 then { h with pc := .waiting }
  else match h.tcpSessions[h.iterator]? with
    | some d =>
      let r := (h.sessionAt d).checkStatus now now'
      let h := { h.put h.iterator d r.2 with remaining := h.remaining - 1 }
      if r.1 then
        { h.call IP_MSS h.iterator (.flushDataToClient nowFlush turns) with iterator := h.iterator + 1 }
      else h.deactivateSession h.iterator
    | none => { h with pc := .pastSessions }

/-- the thread makes the step, if it is there -/
def thread (IP_MSS : U16) (h : St) : Input → St
  | .exit => if h.pc = .waiting then { h with pc := .stopped } else h
  | .activate => if h.pc = .waiting ∧ h.pred then h.activate else h
  | .evaluate => if h.pc = .activated then h.evaluate else h
  | .select rcv snd err count => if h.pc = .selecting then h.selected rcv snd err count else h
  | .tunnel => if h.pc = .tunnels then h.tunnelTurn else h
  | .packet p i => if h.pc = .packets then h.dispatch IP_MSS p i else h
  | .deleteTunnel id => if h.pc = .packets then h.onDeleteTunnelRequest id else h
  | .packetsDone => if h.pc = .packets then { h with pc := .tunnelRest } else h
  | .tunnelRest => if h.pc = .tunnelRest then h.tunnelRest else h
  | .session x => if h.pc = .sessions then h.sessionTurn IP_MSS x else h
  | .clock now => if h.pc = .clock then h.clockTurn now else h
  | .checkTunnel status => if h.pc = .tickTunnels then h.checkTunnel status else h
  | .checkSession now now' nowFlush turns =>
    if h.pc = .tickSessions then h.checkSession IP_MSS now now' nowFlush turns else h
  | _ => h

end St

/-- one step of the thread, or of another -/
def step (IP_MSS : U16) (h : St) (i : Input) : St :=
  match i with
  | .start tcpPacket => if h.pc = .stopped then h.start tcpPacket else h
  | .addTunnelSocket c => (h.addTunnelSocket c).2
  | .closeTunnel k => { h with tunnels := h.tunnels.modify k Tunnel.close }
  | i => if h.hung then h else h.thread IP_MSS i

end TunServer.Handler
