import TunServer.Base.Front
import TunServer.Sessions2.Flush

/-!
# The state of a `ClientHandler`

* `Tunnel`   a `DisposableTunnel`, which comes from a library that is not part of the repository: its
             id, its socket, and whether it is open;
* `Pc`       where the thread is in `handleClient`;
* `St`       the members of `ClientHandler::Data`, what the sessions share, the local variables of
             `handleClient` and the log of the sessions.

An iterator is a position in its list, and the length of the list for `end()`.  What `select` and
the tunnels answer is not modelled: it comes with the steps, in any combination.  `active` and
`handedOut` are read by statements only.
-/

namespace TunServer.Handler

def MAXIMUM_TUNNELS : Nat := 100
def MAXIMUM_TCP_SESSIONS : Nat := 500
def TICK_DELAY : Int := 20 * 1000000

/-- a socket that waits for its activation, and whether `sendObject` will throw for it -/
structure TunnelCandidate where
  socket : Nat
  throws : Bool
  deriving DecidableEq, Repr

structure Tunnel where
  id : U32
  socket : Nat
  isOpen : Bool
  /-- activated, and not deactivated since -/
  active : Bool
  deriving DecidableEq, Repr

namespace Tunnel

def new (id : U32) (socket : Nat) : Tunnel := ⟨id, socket, true, true⟩
def reset (t : Tunnel) (id : U32) (socket : Nat) : Tunnel :=
  { t with id := id, socket := socket, isOpen := true, active := true }
def close (t : Tunnel) : Tunnel := { t with isOpen := false }

/-- `getSocket().isSetIn(set)`; a closed socket is in no set -/
def isSetIn (t : Tunnel) (set : Finset Nat) : Bool := t.isOpen ∧ t.socket ∈ set

end Tunnel

/-- the same for the socket of a session -/
def isSetIn (socket : Option Nat) (set : Finset Nat) : Bool :=
  match socket with
  | some fd => fd ∈ set
  | none => false

inductive Pc where
  /-- `handleClient` is not running -/
  | stopped
  /-- at the head of the loop -/
  | waiting
  /-- behind the activation of the candidates -/
  | activated
  /-- at the call of `select` -/
  | selecting
  /-- at the head of the loop over the tunnels -/
  | tunnels
  /-- in the loop over the packets of a tunnel -/
  | packets
  /-- behind it -/
  | tunnelRest
  /-- at the head of the loop over the sessions -/
  | sessions
  /-- behind it -/
  | clock
  /-- at the head of the loop that checks the tunnels -/
  | tickTunnels
  /-- at the head of the loop that checks the sessions -/
  | tickSessions
  /-- an iterator at or behind the end of `tunnels` was used -/
  | pastTunnels
  /-- an iterator at or behind the end of `tcpSessions` was used -/
  | pastSessions
  deriving DecidableEq, Repr

structure St where
  maxFD : Nat
  tunnelCandidates : List TunnelCandidate
  tunnels : List Tunnel
  openTunnelsCount : Nat
  tcpSessions : List Sessions2.Data
  openTCPSessionsCount : Nat
  tunnelIDCount : U32
  shared : Sessions2.Shared
  tcpPacket : Sessions2.Packet
  lastTickTime : Int
  startTunnelsCount : Nat
  startTCPSessionsCount : Nat
  rcv : Finset Nat
  snd : Finset Nat
  err : Finset Nat
  count : Int
  iterator : Nat
  remaining : Nat
  pc : Pc
  log : List Sessions2.Event
  /-- a call of a session does not return -/
  hung : Bool
  /-- the descriptors that tunnels and sessions got since `maxFD` was last looked at -/
  handedOut : List Nat

namespace St

/-- a handler that was not started yet -/
def init (shared : Sessions2.Shared) (tcpPacket : Sessions2.Packet) : St where
  maxFD := 0
  tunnelCandidates := []
  tunnels := []
  openTunnelsCount := 0
  tcpSessions := []
  openTCPSessionsCount := 0
  tunnelIDCount := 0
  shared := shared
  tcpPacket := tcpPacket
  lastTickTime := 0
  startTunnelsCount := 0
  startTCPSessionsCount := 0
  rcv := ∅
  snd := ∅
  err := ∅
  count := 0
  iterator := 0
  remaining := 0
  pc := .stopped
  log := []
  hung := false
  handedOut := []

/-- the iterator behind an element that moves to the end -/
def nextIterator (k length : Nat) : Nat := if k + 1 < length then k else length

/-! ## tunnels -/

/-- The critical section of `addTunnelSocket`.  `started` was read before, without the lock. -/
def addTunnelSocket (h : St) (c : TunnelCandidate) : Bool × St :=
  if h.tunnelCandidates.length + h.openTunnelsCount = MAXIMUM_TUNNELS then (false, h)
  else (true, { h with tunnelCandidates := h.tunnelCandidates ++ [c] })

/-- a candidate becomes a tunnel; an object that is there and closed is used again -/
def activateTunnel (h : St) (c : TunnelCandidate) : St :=
  let id := h.tunnelIDCount
  let h := { h with tunnelIDCount := h.tunnelIDCount + 1, handedOut := h.handedOut ++ [c.socket] }
  if h.openTunnelsCount = h.tunnels.length then
    { h with
      tunnels := h.tunnels ++ [.new id c.socket]
      openTunnelsCount := h.openTunnelsCount + 1 }
  else match h.tunnels[h.openTunnelsCount]? with
    | some t =>
      let h := { h with
        tunnels := h.tunnels.set h.openTunnelsCount (t.reset id c.socket)
        openTunnelsCount := h.openTunnelsCount + 1 }
      { h with openTunnelsCount := h.openTunnelsCount + 1 }
    | none => { h with pc := .pastTunnels }

/-- the loop over the candidates -/
def activateCandidates : List TunnelCandidate → St → St
  | [], h => h
  | c :: cs, h =>
    if h.pc = .pastTunnels ∨ h.openTunnelsCount = MAXIMUM_TUNNELS then h
    else if c.throws then activateCandidates cs h
    else activateCandidates cs (h.activateTunnel c)

def activate (h : St) : St :=
  let h := activateCandidates h.tunnelCandidates h
  if h.pc = .pastTunnels then h else { h with tunnelCandidates := [], pc := .activated }

/-- the tunnel at `k`, which is `t` now, moves to the end -/
def deactivateTunnel (h : St) (k : Nat) (t : Tunnel) : St :=
  { h with
    tunnels := toEnd h.tunnels k { t with active := false }
    openTunnelsCount := h.openTunnelsCount - 1
    iterator := nextIterator k h.tunnels.length }

/-- `setOnDeleteTunnelRequest`: the client asks to close a tunnel -/
def onDeleteTunnelRequest (h : St) (id : U32) : St :=
  match (h.tunnels.take h.openTunnelsCount).findIdx? fun t => t.id = id with
  | some k => { h with tunnels := h.tunnels.modify k Tunnel.close }
  | none => if h.tunnels.length < h.openTunnelsCount then { h with pc := .pastTunnels } else h

/-! ## sessions -/

/-- what a call of a session works on -/
def sessionAt (h : St) (d : Sessions2.Data) : Sessions2.St := ⟨d, h.shared, h.tcpPacket, h.log, h.hung⟩

/-- the descriptor that a closed session got -/
def newSocket (d d' : Sessions2.Data) : List Nat :=
  if d.state = .CLOSED then d'.socket.toList else []

/-- the handler after a call of the session at `j`, whose data were `d` -/
def put (h : St) (j : Nat) (d : Sessions2.Data) (s : Sessions2.St) : St :=
  { h with
    tcpSessions := h.tcpSessions.set j s.data
    shared := s.shared
    tcpPacket := s.packet
    log := s.log
    hung := s.hung
    handedOut := h.handedOut ++ newSocket d s.data }

/-- a call of the session at `j` -/
def call (IP_MSS : U16) (h : St) (j : Nat) (op : Sessions2.Op) : St :=
  match h.tcpSessions[j]? with
  | some d => h.put j d (Sessions2.step IP_MSS (h.sessionAt d) op)
  | none => h

/-- The loop that offers a packet to the sessions: the position and the data of the one that takes
it, and what its call leaves.  A session that does not take it changes nothing. -/
def offer (IP_MSS : U16) (h : St) (p : Sessions2.Packet) (i : Sessions2.ClientInput) :
    List Sessions2.Data → Option (Nat × Sessions2.Data × Sessions2.St)
  | [] => none
  | d :: ds =>
    let r := Sessions2.receiveFromClient IP_MSS (h.sessionAt d) p i
    if r.1 then some (0, d, r.2) else (offer IP_MSS h p i ds).map fun r => (r.1 + 1, r.2)

/-- a new session object gets the packet -/
def createSession (IP_MSS : U16) (h : St) (p : Sessions2.Packet) (i : Sessions2.ClientInput) : St :=
  let d := Sessions2.Data.init IP_MSS
  let r := Sessions2.receiveFromClient IP_MSS (h.sessionAt d) p i
  let h := { h with tcpSessions := h.tcpSessions ++ [d] }.put h.tcpSessions.length d r.2
  if r.2.data.state ≠ .CLOSED then { h with openTCPSessionsCount := h.openTCPSessionsCount + 1 }
  else h

/-- a TCP packet that was read from a tunnel -/
def dispatch (IP_MSS : U16) (h : St) (p : Sessions2.Packet) (i : Sessions2.ClientInput) : St :=
  match h.offer IP_MSS p i h.tcpSessions with
  | some (j, d, s) => h.put j d s
  | none =>
    if h.tcpSessions.length = MAXIMUM_TCP_SESSIONS then h else h.createSession IP_MSS p i

/-- the session at `k` moves to the end -/
def deactivateSession (h : St) (k : Nat) : St :=
  match h.tcpSessions[k]? with
  | some d => { h with
      tcpSessions := toEnd h.tcpSessions k d
      openTCPSessionsCount := h.openTCPSessionsCount - 1
      iterator := nextIterator k h.tcpSessions.length }
  | none => h

/-! ## `maxFD` -/

def evalMaxFD (h : St) : Nat :=
  let result := h.tunnels.foldl (fun result t => if t.isOpen then max (t.socket + 1) result else result) 0
  h.tcpSessions.foldl (fun result d =>
    if d.state ≠ .CLOSED then
      match d.socket with
      | some fd => max (fd + 1) result
      | none => result
    else result) result

end St

end TunServer.Handler
