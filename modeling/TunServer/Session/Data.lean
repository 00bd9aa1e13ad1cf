import TunServer.Base.Memory
import TunServer.Session.Packet

/-!
# The state of a `session/TCPSession`

* `Data`    the members of the class; the two buffers are blocks of memory that the four and three
            sequence marks point into;
* `Fault`   a buffer is accessed outside its bounds, or a loop has not ended within the turns it was
            observed for; a run ends there;
* `St`      what a call works on: the session, what it shares with the others, the packet object it
            was given and the log.

Pointers are 64 bits wide: `buffer + a - b` is computed without wrapping from the raw marks.
Times are nanoseconds.
-/

namespace TunServer.Session

def RECEIVE_BUFFER_SIZE : Nat := 16 * 1024
def SEND_WINDOW_SCALE : U32 := 2
def ACKNOWLEDGE_DELAY : Int := 250
def SEND_MAX_RETRIES : U32 := 3
def MAX_RTT : Int := 5000000000

inductive States where
  | CLOSED
  | SYN_SENT
  | SYN_RECEIVED
  | SYN_ACK_SENT
  | ESTABLISHED
  | TIME_WAIT
  deriving DecidableEq, Repr

inductive Fault where
  | receiveBuffer
  | sendBuffer
  | endless
  deriving DecidableEq, Repr

structure Data where
  state : States
  clientReadFinished : Bool
  serverReadFinished : Bool
  mSock : Option Nat
  source : SockAddr
  destination : SockAddr
  mss : U16
  sendBuffer : Mem Byte
  sendLength : U32
  sendWindow : U32
  windowShift : U8
  sendSequence : U32
  sendUnacknowledged : U32
  sendNext : U32
  sendNewDataSequence : U32
  retryCount : U32
  rtt : Int
  lastSendTime : Int
  lastTimeAcknowledgmentAccepted : Int
  lastAcknowledgedSequence : U32
  receiveBuffer : Mem Byte
  receiveSequence : U32
  receiveUser : U32
  receiveNext : U32
  receivePushSequence : U32

/-- a new session -/
def Data.init : Data where
  state := .CLOSED
  clientReadFinished := false
  serverReadFinished := false
  mSock := none
  source := ⟨0, 0⟩
  destination := ⟨0, 0⟩
  mss := 0
  sendBuffer := fun _ => 0
  sendLength := 0
  sendWindow := 0
  windowShift := 0
  sendSequence := 0
  sendUnacknowledged := 0
  sendNext := 0
  sendNewDataSequence := 0
  retryCount := 0
  rtt := 0
  lastSendTime := 0
  lastTimeAcknowledgmentAccepted := 0
  lastAcknowledgedSequence := 0
  receiveBuffer := fun _ => 0
  receiveSequence := 0
  receiveUser := 0
  receiveNext := 0
  receivePushSequence := 0

namespace Data

def getReceiveAvailable (d : Data) : U32 :=
  BitVec.ofNat 32 RECEIVE_BUFFER_SIZE - d.receiveNext + d.receiveSequence

def getSendAvailable (d : Data) : U32 := d.sendLength - d.sendNewDataSequence + d.sendSequence

def isUpStreamComplete (d : Data) : Bool := d.clientReadFinished ∧ d.receiveNext - 1 ≤ d.receiveUser

def isDownStreamComplete (d : Data) : Bool :=
  d.serverReadFinished ∧ d.sendUnacknowledged = d.sendNewDataSequence

end Data

/-- the descriptor sets, `maxFd`, and the static clock of `acknowledgeDelayed` -/
structure Shared where
  receiveSet : Finset Nat
  sendSet : Finset Nat
  errorSet : Finset Nat
  maxFd : Nat
  lastAcknowledgmentSent : Int

/-- What a session does to the world: bytes of a segment are `accepted` into the receive buffer,
`handed` to the server socket, `read` from it; a packet is `written` to the tunnel. -/
inductive Event where
  | accepted (bytes : List Byte)
  | handed (bytes : List Byte)
  | read (bytes : List Byte)
  | written (p : Packet)
  | shutdownWrite
  | closed
  deriving DecidableEq, Repr

structure St where
  data : Data
  shared : Shared
  packet : Packet
  log : List Event

/-- the distance of two pointers into one buffer -/
def offset (mark base : U32) : Int := (mark.toNat : Int) - base.toNat

theorem offset_of_le {mark base : U32} (h : base ≤ mark) :
    offset mark base = ((mark - base).toNat : Int) := by
  have h1 := mark.isLt
  have h2 := base.isLt
  rw [BitVec.le_def] at h
  unfold offset
  rw [BitVec.toNat_sub]
  omega

theorem le_of_offset {mark base : U32} (h : 0 ≤ offset mark base) : base ≤ mark := by
  unfold offset at h
  rw [BitVec.le_def]
  omega

/-- `shiftElements(buffer + src, count, places)` -/
def shiftElements (fault : Fault) (size : Nat) (m : Mem Byte) (src : U32) (count : U32)
    (places : Int) : Except Fault (Mem Byte) :=
  if InRange src.toNat count.toNat size ∧ InRange (src.toNat + places) count.toNat size then
    .ok (m.write (src.toNat + places).toNat (m.read src.toNat count.toNat))
  else .error fault

namespace St

def emit (s : St) (e : Event) : St := { s with log := s.log ++ [e] }

/-- `tunnel.writePacket` -/
def writePacket (s : St) (p : Packet) : St := { s with packet := p }.emit (.written p)

def unset (s : St) (sets : Finset Nat → Finset Nat) : St :=
  { s with shared := { s.shared with
      receiveSet := sets s.shared.receiveSet
      sendSet := sets s.shared.sendSet
      errorSet := sets s.shared.errorSet } }

def closeSession (s : St) : St :=
  let s := match s.data.mSock with
    | some fd => s.unset (·.erase fd)
    | none => s
  { s with data.mSock := none, data.state := .CLOSED }.emit .closed

def acknowledgeDelayed (s : St) (now : Int) : St :=
  let d := s.data
  if d.isUpStreamComplete then s
  else if (now - s.shared.lastAcknowledgmentSent).tdiv 1000000 > ACKNOWLEDGE_DELAY ∧
      d.lastAcknowledgedSequence ≠ d.receiveNext ∨
      d.mss.setWidth 32 * 2 < d.receiveNext - d.lastAcknowledgedSequence then
    let p := (s.packet.setEnds d.destination d.source).clearData
    let s := s.writePacket (p.makeNormal d.sendNext d.receiveNext)
    { s with
      shared.lastAcknowledgmentSent := now
      data.lastAcknowledgedSequence := d.receiveNext }
  else s

def _trimReceiveBuffer (s : St) : Except Fault St :=
  let d := s.data
  if d.receiveUser = d.receiveSequence then .ok s
  else do
    let amt := d.receiveUser - d.receiveSequence
    let b ← shiftElements .receiveBuffer RECEIVE_BUFFER_SIZE d.receiveBuffer amt
      (d.receiveNext - d.receiveUser) (-amt.toInt)
    return { s with data.receiveBuffer := b, data.receiveSequence := d.receiveNext }

def trimReceiveBuffer (s : St) : Except Fault St :=
  if s.data.receiveUser - s.data.receiveSequence < s.data.mss.setWidth 32 then .ok s
  else s._trimReceiveBuffer

def trimSendBuffer (s : St) : Except Fault St :=
  let d := s.data
  let space := d.sendUnacknowledged - d.sendSequence
  if space < d.mss.setWidth 32 ∨ d.mss.setWidth 32 * 2 < d.getSendAvailable then .ok s
  else do
    let b ← shiftElements .sendBuffer d.sendLength.toNat d.sendBuffer space
      (d.sendNewDataSequence - d.sendUnacknowledged) (-space.toInt)
    return { s with data.sendBuffer := b, data.sendSequence := d.sendUnacknowledged }

end St

end TunServer.Session
