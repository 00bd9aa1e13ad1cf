import TunServer.Session.Ends

/-!
# The two loops of `handler/Handler`

`handleUpStream` is followed turn by turn: it reads a packet, offers it to one connection after the
other, and flushes.  `handleDownStream` runs beside it: each of its calls on a connection can come
between any two turns, with a packet object of its own.

* `Pc`        where `handleUpStream` is;
* `Delivery`  a call of `receiveFromClient`, as statements about the routing see it;
* `St`        the handler; `received` and `delivered` are not read by the code, they keep the packet
              as it was read and the calls it has led to since.

`shouldRun` is read as true: when the loops end is the subject of `Lifecycle`.
-/

namespace TunServer.OldHandler

open Session (Data Shared Packet Incoming Event Fault ClientInput ServerInput SendResult)

inductive Pc where
  | reading
  | offering
  | calling
  | flushing
  deriving DecidableEq, Repr

/-- connection `session`, as it is, gets the packet object as it is -/
structure Delivery where
  session : Nat
  data : Data
  packet : Packet

structure St where
  connections : List Data
  shared : Shared
  log : List Event
  packet : Packet
  downPacket : Packet
  pc : Pc
  iterator : Nat
  isSyn : Bool
  isHandled : Bool
  closedConnection : Option Nat
  received : Packet
  delivered : List Delivery

/-- a handler without connections, before the first turn -/
def St.init (shared : Shared) (up down : Packet) : St where
  connections := []
  shared := shared
  log := []
  packet := up
  downPacket := down
  pc := .reading
  iterator := 0
  isSyn := false
  isHandled := false
  closedConnection := none
  received := up
  delivered := []

/-- `packet.isFrom`: the address and the port of the source -/
def isFrom (p : Packet) (source : SockAddr) : Bool := p.source = source

/-- `TCPSession::canHandle` -/
def canHandle (d : Data) (p : Packet) : Bool := isFrom p d.source

namespace St

/-- what a call on a connection works on -/
def session (s : St) (d : Data) (p : Packet) : Session.St := ⟨d, s.shared, p, s.log⟩

/-- what a call on connection `k` left, the packet object apart -/
def left (s : St) (k : Nat) (t : Session.St) : St :=
  { s with connections := s.connections.set k t.data, shared := t.shared, log := t.log }

/-! ## `handleUpStream` -/

def read (s : St) (p : Incoming) : St :=
  { s with
    packet := p
    pc := .offering
    iterator := 0
    isSyn := p.val.isSyn
    isHandled := false
    closedConnection := none
    received := p
    delivered := [] }

/-- the tests of one turn of the loop over the connections -/
def offer (s : St) (d : Data) : St :=
  if d.state = .CLOSED then
    { s with
      closedConnection := s.closedConnection.or (some s.iterator)
      iterator := s.iterator + 1 }
  else if canHandle d s.packet then { s with pc := .calling }
  else { s with iterator := s.iterator + 1 }

/-- `con->receiveFromClient(packet)` -/
def deliver (s : St) (k : Nat) (d : Data) (i : ClientInput) : Except Fault St := do
  let t ← (s.session d s.packet).receiveFromClient i
  return { s.left k t with packet := t.packet, delivered := s.delivered ++ [⟨k, d, s.packet⟩] }

/-- the rest of a turn whose connection can handle the packet -/
def call (s : St) (d : Data) (i : ClientInput) : Except Fault St := do
  let t ← s.deliver s.iterator d i
  return { t with pc := .offering, isHandled := true, iterator := s.iterator + 1 }

/-- a packet nobody has handled is answered with a reset -/
def reset (s : St) : St :=
  let p := s.packet.swapEnds.clearData
  let p := p.makeResetSeq p.getAcknowledgmentNumber
  { s with packet := p, log := s.log ++ [.written p] }

/-- a SYN nobody has handled opens a connection: the first closed one, or a new one -/
def openConnection (s : St) (i : ClientInput) : Except Fault St :=
  match s.closedConnection with
  | some k => match s.connections[k]? with
    | some d => s.deliver k d i
    | none => .ok s
  | none =>
    { s with connections := s.connections ++ [Data.init] }.deliver s.connections.length Data.init i

/-- what becomes of the packet after all connections were offered it -/
def finishPacket (s : St) (i : ClientInput) : Except Fault St :=
  if s.isHandled then .ok s
  else if s.isSyn then s.openConnection i
  else .ok s.reset

def afterLoop (s : St) (i : ClientInput) : Except Fault St := do
  let t ← s.finishPacket i
  return { t with pc := .flushing, iterator := 0 }

/-- one turn of the loop that flushes to the servers -/
def flush (s : St) (d : Data) (r : SendResult) : Except Fault St :=
  if d.state = .CLOSED then .ok { s with iterator := s.iterator + 1 }
  else do
    let t ← (s.session d s.packet).flushDataToServer r
    return { s.left s.iterator t with packet := t.packet, iterator := s.iterator + 1 }

/-! ## `handleDownStream` -/

/-- the socket of the connection is in the set `rcv` -/
def isSetIn (s : St) (d : Data) : Bool := d.mSock.any (· ∈ s.shared.receiveSet)

def receiveFromServer (s : St) (k : Nat) (d : Data) (i : ServerInput) : Except Fault St :=
  if d.state = .CLOSED ∨ ¬ s.isSetIn d then .ok s
  else do
    let r ← (s.session d s.downPacket).receiveFromServer i
    return { s.left k r.2 with downPacket := r.2.packet }

def flushDataToClient (s : St) (k : Nat) (d : Data) (now : Int) (turns : Nat) : Except Fault St :=
  if d.state = .CLOSED then .ok s
  else do
    let t ← (s.session d s.downPacket).flushDataToClient now turns
    return { s.left k t with downPacket := t.packet }

end St

/-! ## the steps -/

inductive Op where
  | noPacket
  | read (p : Incoming)
  | offer
  | call (i : ClientInput)
  | afterLoop (i : ClientInput)
  | flush (r : SendResult)
  | receiveFromServer (k : Nat) (i : ServerInput)
  | flushDataToClient (k : Nat) (now : Int) (turns : Nat)

/-- A step of the thread that `handleUpStream` is not ready for leaves everything as it is. -/
def step (s : St) : Op → Except Fault St
  | .noPacket => .ok (if s.pc = .reading then { s with pc := .flushing, iterator := 0 } else s)
  | .read p => .ok (if s.pc = .reading then s.read p else s)
  | .offer => match s.pc, s.connections[s.iterator]? with
    | .offering, some d => .ok (s.offer d)
    | _, _ => .ok s
  | .call i => match s.pc, s.connections[s.iterator]? with
    | .calling, some d => s.call d i
    | _, _ => .ok s
  | .afterLoop i => match s.pc, s.connections[s.iterator]? with
    | .offering, none => s.afterLoop i
    | _, _ => .ok s
  | .flush r => match s.pc, s.connections[s.iterator]? with
    | .flushing, some d => s.flush d r
    | .flushing, none => .ok { s with pc := .reading }
    | _, _ => .ok s
  | .receiveFromServer k i => match s.connections[k]? with
    | some d => s.receiveFromServer k d i
    | none => .ok s
  | .flushDataToClient k now turns => match s.connections[k]? with
    | some d => s.flushDataToClient k d now turns
    | none => .ok s

end TunServer.OldHandler
