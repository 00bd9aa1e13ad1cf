import TunServer.Sessions2.Packet

/-!
# The state of a session

* `SmartBuffer`   the byte queue of the library, with room for `BUFFER_SIZE` bytes: `put` appends,
                  `as` is a slice, `compact k` keeps the last `k` bytes;
* `Data`          `TCPSession::Data`;
* `Shared`        what all sessions of a handler share: the three descriptor sets and the static
                  clock of `acknowledgeDelayed`;
* `St`            what a call works on: the session's `Data`, `Shared`, the packet object it was
                  given, and the log of what the session did to the world so far.

Times are nanoseconds of the steady clock, the round trip times of `rttHistory` are milliseconds.
-/

namespace TunServer.Sessions2

/-- the largest `unsigned short` -/
def BUFFER_SIZE : Nat := 65535

structure SmartBuffer where
  bytes : List Byte
  fits : bytes.length ≤ BUFFER_SIZE
  deriving DecidableEq, Repr

namespace SmartBuffer

def clear : SmartBuffer := ⟨[], Nat.zero_le _⟩

def position (b : SmartBuffer) : U32 := BitVec.ofNat 32 b.bytes.length
def available (b : SmartBuffer) : U32 := BitVec.ofNat 32 (BUFFER_SIZE - b.bytes.length)

/-- the callers never put more than fits -/
def put (b : SmartBuffer) (bs : List Byte) : SmartBuffer :=
  ⟨b.bytes ++ bs.take (BUFFER_SIZE - b.bytes.length), by
    have h1 := b.fits
    rw [List.length_append, List.length_take]
    omega⟩

def as (b : SmartBuffer) (start stop : U32) : List Byte :=
  (b.bytes.drop start.toNat).take (stop - start).toNat

def compact (b : SmartBuffer) (k : U32) : SmartBuffer :=
  ⟨b.bytes.drop (b.bytes.length - k.toNat), by
    have h1 := b.fits
    rw [List.length_drop]
    omega⟩

@[simp] theorem clear_bytes : clear.bytes = [] := rfl

@[simp] theorem position_toNat (b : SmartBuffer) : b.position.toNat = b.bytes.length := by
  have h1 := b.fits
  unfold BUFFER_SIZE at h1
  unfold position
  rw [BitVec.toNat_ofNat]
  omega

@[simp] theorem available_toNat (b : SmartBuffer) :
    b.available.toNat = BUFFER_SIZE - b.bytes.length := by
  unfold available BUFFER_SIZE
  rw [BitVec.toNat_ofNat]
  omega

theorem position_le (b : SmartBuffer) : b.position.toNat ≤ 65535 := by
  rw [position_toNat]; exact b.fits

theorem put_bytes (b : SmartBuffer) (bs : List Byte) (h : bs.length ≤ b.available.toNat) :
    (b.put bs).bytes = b.bytes ++ bs := by
  rw [available_toNat] at h
  show b.bytes ++ bs.take (BUFFER_SIZE - b.bytes.length) = _
  rw [List.take_of_length_le h]

/-- what was cut to the free space before is not cut again -/
theorem put_take (b : SmartBuffer) (bs : List Byte) :
    (b.put (bs.take b.available.toNat)).bytes = b.bytes ++ bs.take b.available.toNat := by
  refine put_bytes b _ ?_
  rw [List.length_take]
  exact min_le_left _ _

/-- keeping all but the first `a` bytes -/
theorem compact_bytes (b : SmartBuffer) (a : U32) (h : a ≤ b.position) :
    (b.compact (b.position - a)).bytes = b.bytes.drop a.toNat := by
  have h1 := b.position_toNat
  show b.bytes.drop (b.bytes.length - (b.position - a).toNat) = _
  congr 1
  bv_omega

end SmartBuffer

inductive States where
  | CLOSED
  | SYN_RECEIVED
  | SYN_ACK_SENT
  | ESTABLISHED
  deriving DecidableEq, Repr

def MIN_RTT : Int := 50
def SYN_TIMEOUT : Int := 30 * 1000000000
def SYN_ACK_DELAY : Int := 500 * 1000000
def NO_PROBING_TIMEOUT : Int := 30 * 1000000000
def ACKNOWLEDGE_DELAY : Int := 100 * 1000000

/-- milliseconds as a duration of the clock -/
def ms (t : Int) : Int := t * 1000000

structure Data where
  socket : Option Nat
  state : States
  receiveFromClientFinished : Bool
  flushToServerFinished : Bool
  receiveFromServerFinished : Bool
  sentFinToClient : Bool
  flushToClientFinished : Bool
  clientAddress : SockAddr
  serverAddress : SockAddr
  sendBuffer : SmartBuffer
  sendWindowRightEdge : U32
  sendWindowShift : U8
  sendUnacknowledged : U32
  sendNextOffset : U32
  sendRetryCount : U32
  receiveBuffer : SmartBuffer
  receiveSent : U32
  mss : U16
  rttHistory : List Int
  rttTracking : Bool
  rttTrackedSendSequence : U32
  rttSendTime : Int
  lastTimeSentNewData : Int
  lastTimeAcceptedAcknowledgement : Int
  deriving DecidableEq, Repr

namespace Data

/-- a fresh session object -/
def init (IP_MSS : U16) : Data where
  socket := none
  state := .CLOSED
  receiveFromClientFinished := false
  flushToServerFinished := false
  receiveFromServerFinished := false
  sentFinToClient := false
  flushToClientFinished := false
  clientAddress := ⟨0, 0⟩
  serverAddress := ⟨0, 0⟩
  sendBuffer := .clear
  sendWindowRightEdge := 0
  sendWindowShift := 0
  sendUnacknowledged := 0
  sendNextOffset := 0
  sendRetryCount := 0
  receiveBuffer := .clear
  receiveSent := 0
  mss := IP_MSS
  rttHistory := List.replicate 5 (MIN_RTT * 5)
  rttTracking := false
  rttTrackedSendSequence := 0
  rttSendTime := 0
  lastTimeSentNewData := 0
  lastTimeAcceptedAcknowledgement := 0

/-- `seq` is the number `generateSequenceNo` draws -/
def reset (d : Data) (IP_MSS : U16) (seq : U32) : Data :=
  { d with
    state := .CLOSED
    receiveFromClientFinished := false
    flushToServerFinished := false
    receiveFromServerFinished := false
    sentFinToClient := false
    flushToClientFinished := false
    sendBuffer := .clear
    sendUnacknowledged := seq
    sendNextOffset := 0
    sendWindowRightEdge := 0
    sendWindowShift := 0
    sendRetryCount := 0
    receiveBuffer := .clear
    receiveSent := 0
    mss := IP_MSS
    rttHistory := d.rttHistory.map fun _ => MIN_RTT * 5
    rttTracking := false
    lastTimeSentNewData := 0 }

/-- the argument is a duration of the clock, cut to milliseconds by the callers' `duration_cast` -/
def pushRTT (d : Data) (rtt : Int) : Data :=
  { d with rttHistory := d.rttHistory.tail ++ [max (rtt.tdiv 1000000) MIN_RTT] }

def getMeanRTT (d : Data) : Int := d.rttHistory.sum.tdiv d.rttHistory.length

def getIntervalToNextProbe (d : Data) : Int := ((d.sendRetryCount + 1).toNat : Int) * d.getMeanRTT

end Data

inductive FdSets where
  | receiveSet
  | sendSet
  | errorSet
  deriving DecidableEq, Repr

structure Shared where
  fdSets : FdSets → Finset Nat
  lastTimeSentAcknowledge : Int

/-- What a session does to the world.  `sendBack d p`: the segment `p` is handed to `sendBack` by a
session whose data is `d` at that moment; `acknowledged n`: an acknowledgement of `n` further bytes
is accepted. -/
inductive Event where
  | sendBack (d : Data) (p : Packet)
  | sent (bytes : List Byte)
  | received (bytes : List Byte)
  | acknowledged (n : Nat)
  | shutdownWrite
  | onSocketClose

structure St where
  data : Data
  shared : Shared
  packet : Packet
  log : List Event
  /-- a call has not returned within the turns it was observed for -/
  hung : Bool

namespace St

def setIn (s : St) (k : FdSets) : St :=
  match s.data.socket with
  | some fd =>
    { s with shared.fdSets := Function.update s.shared.fdSets k (insert fd (s.shared.fdSets k)) }
  | none => s

def unsetFrom (s : St) (k : FdSets) : St :=
  match s.data.socket with
  | some fd =>
    { s with shared.fdSets := Function.update s.shared.fdSets k ((s.shared.fdSets k).erase fd) }
  | none => s

def emit (s : St) (e : Event) : St := { s with log := s.log ++ [e] }

/-- the packet object is written and handed on -/
def sendBack (s : St) (p : Packet) : St := { s with packet := p }.emit (.sendBack s.data p)

def closeSession (s : St) : St :=
  let s := ((s.unsetFrom .receiveSet).unsetFrom .sendSet).unsetFrom .errorSet
  { s with data.state := .CLOSED, data.socket := none }.emit .onSocketClose

@[simp] theorem setIn_data (s : St) (k : FdSets) : (s.setIn k).data = s.data := by
  unfold setIn; split <;> rfl
@[simp] theorem setIn_packet (s : St) (k : FdSets) : (s.setIn k).packet = s.packet := by
  unfold setIn; split <;> rfl
@[simp] theorem setIn_log (s : St) (k : FdSets) : (s.setIn k).log = s.log := by
  unfold setIn; split <;> rfl
@[simp] theorem setIn_hung (s : St) (k : FdSets) : (s.setIn k).hung = s.hung := by
  unfold setIn; split <;> rfl
@[simp] theorem unsetFrom_data (s : St) (k : FdSets) : (s.unsetFrom k).data = s.data := by
  unfold unsetFrom; split <;> rfl
@[simp] theorem unsetFrom_packet (s : St) (k : FdSets) : (s.unsetFrom k).packet = s.packet := by
  unfold unsetFrom; split <;> rfl
@[simp] theorem unsetFrom_log (s : St) (k : FdSets) : (s.unsetFrom k).log = s.log := by
  unfold unsetFrom; split <;> rfl
@[simp] theorem unsetFrom_hung (s : St) (k : FdSets) : (s.unsetFrom k).hung = s.hung := by
  unfold unsetFrom; split <;> rfl

@[simp] theorem emit_data (s : St) (e : Event) : (s.emit e).data = s.data := rfl
@[simp] theorem emit_packet (s : St) (e : Event) : (s.emit e).packet = s.packet := rfl
@[simp] theorem emit_log (s : St) (e : Event) : (s.emit e).log = s.log ++ [e] := rfl
@[simp] theorem emit_hung (s : St) (e : Event) : (s.emit e).hung = s.hung := rfl

@[simp] theorem sendBack_data (s : St) (p : Packet) : (s.sendBack p).data = s.data := rfl
@[simp] theorem sendBack_packet (s : St) (p : Packet) : (s.sendBack p).packet = p := rfl
@[simp] theorem sendBack_log (s : St) (p : Packet) :
    (s.sendBack p).log = s.log ++ [.sendBack s.data p] := rfl
@[simp] theorem sendBack_hung (s : St) (p : Packet) : (s.sendBack p).hung = s.hung := rfl

@[simp] theorem closeSession_data (s : St) :
    s.closeSession.data = { s.data with state := .CLOSED, socket := none } := by
  simp [closeSession]
@[simp] theorem closeSession_packet (s : St) : s.closeSession.packet = s.packet := by
  simp [closeSession]
@[simp] theorem closeSession_log (s : St) :
    s.closeSession.log = s.log ++ [.onSocketClose] := by
  simp [closeSession]
@[simp] theorem closeSession_hung (s : St) : s.closeSession.hung = s.hung := by
  simp [closeSession]

end St

end TunServer.Sessions2
