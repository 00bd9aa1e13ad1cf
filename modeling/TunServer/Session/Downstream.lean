import TunServer.Session.Upstream

/-!
# From the server to the client: `flushDataToClient` and `receiveFromServer`

`Op` lists the public calls with the packet object and the surroundings each of them gets, `step`
makes one of them.
-/

namespace TunServer.Session

/-- what `mSock.tryReceive` returns, `none` for -1, and whether `isWouldBlock` holds after it -/
structure ServerInput where
  received : Option (List Byte)
  isWouldBlock : Bool
  now : Int
  turns : Nat
  deriving DecidableEq, Repr

namespace St

/-! ## sending -/

/-- one turn of the loop of `sendDataStartingFrom` -/
def sendSegment (s : St) (seq : U32) : Except Fault (U32 × St) :=
  let d := s.data
  let p := s.packet.makeNormal seq d.receiveNext
  let p := p.setWindowSize d.getReceiveAvailable
  let rest := d.sendNewDataSequence - seq - b32 d.serverReadFinished
  let len := if d.mss.setWidth 32 < rest then d.mss.setWidth 32 else rest
  if InRange (offset seq d.sendSequence) len.toNat d.sendLength.toNat then
    let p := p.clearData.appendData (d.sendBuffer.read (offset seq d.sendSequence).toNat len.toNat)
    let seq := seq + len
    if d.serverReadFinished ∧ seq = d.sendNewDataSequence - 1 then
      .ok (seq + 1, s.writePacket (p.setFinFlag true))
    else .ok (seq, s.writePacket p)
  else .error .sendBuffer

/-- the loop of `sendDataStartingFrom` observed for `turns` turns -/
def sendLoop : Nat → U32 → St → Except Fault St
  | 0, seq, s => if seq < s.data.sendNewDataSequence then .error .endless else .ok s
  | turns + 1, seq, s =>
    if seq < s.data.sendNewDataSequence then do
      let (seq, s) ← s.sendSegment seq
      sendLoop turns seq s
    else .ok s

def sendDataStartingFrom (s : St) (seq : U32) (turns : Nat) : Except Fault St :=
  sendLoop turns seq { s with packet := s.packet.setEnds s.data.destination s.data.source }

/-- everything is sent now -/
def sentAll (s : St) (now : Int) : St :=
  { s with
    data.sendNext := s.data.sendNewDataSequence
    data.lastTimeAcknowledgmentAccepted := now
    data.lastSendTime := now }

def resendDue (d : Data) (now : Int) : Bool :=
  d.sendUnacknowledged < d.sendNewDataSequence ∧ d.rtt < (now - d.lastSendTime).tdiv 4

def newDataDue (d : Data) : Bool :=
  d.serverReadFinished ∧ d.sendNext < d.sendNewDataSequence ∨
    d.mss.setWidth 32 < d.sendNewDataSequence - d.sendNext

/-- unacknowledged data is sent again, unless the retries are used up -/
def resend (s : St) (now : Int) (turns : Nat) : Except Fault St := do
  let s := if s.data.sendUnacknowledged < s.data.sendNext then
      { s with data.retryCount := s.data.retryCount + 1 }
    else s
  let s ← s.sendDataStartingFrom s.data.sendUnacknowledged turns
  return s.sentAll now

def sendNewData (s : St) (now : Int) (turns : Nat) : Except Fault St := do
  let s ← s.sendDataStartingFrom s.data.sendNext turns
  return s.sentAll now

/-- the last test of `flushDataToClient` -/
def finishFlush (s : St) : St := if s.data.isUpStreamComplete then s.closeSession else s

def flushDataToClient (s : St) (now : Int) (turns : Nat) : Except Fault St :=
  if s.data.state ≠ .ESTABLISHED then .ok s
  else if s.data.isDownStreamComplete then .ok s
  else if resendDue s.data now then
    if s.data.retryCount = SEND_MAX_RETRIES then .ok s.closeSession
    else do
      let s ← s.resend now turns
      return s.finishFlush
  else if newDataDue s.data then do
    let s ← s.sendNewData now turns
    return s.finishFlush
  else .ok s.finishFlush

/-! ## receiving -/

/-- `total` bytes were received, or none -/
def receivedFromServer (s : St) (bytes : List Byte) (isWouldBlock : Bool) : St :=
  let d := s.data
  if bytes ≠ [] then
    { s with data := { d with
      sendBuffer := d.sendBuffer.write (offset d.sendNewDataSequence d.sendSequence).toNat bytes
      sendNewDataSequence := d.sendNewDataSequence + BitVec.ofNat 32 bytes.length } }.emit (.read bytes)
  else if ¬ isWouldBlock ∧ ¬ d.serverReadFinished then
    { s with
      shared.receiveSet := match d.mSock with
        | some fd => s.shared.receiveSet.erase fd
        | none => s.shared.receiveSet
      data := { d with
        sendNewDataSequence := d.sendNewDataSequence + 1
        serverReadFinished := true } }
  else s

/-- How many bytes `tryReceive` may write, if it receives `bytes`: no more than `available`, which it
gets as an `int`.  A negative one is a size again in `recv`, and bounds nothing. -/
def writable (available : U32) (bytes : List Byte) : Nat :=
  if 0 ≤ available.toInt then available.toNat else bytes.length

theorem writable_of_lt {available : U32} (h : available.toNat < 2 ^ 31) (bytes : List Byte) :
    writable available bytes = available.toNat := by
  unfold writable
  rw [BitVec.toInt_eq_toNat_of_lt (by omega)]
  exact if_pos (Int.natCast_nonneg _)

/-- `tryReceive` gets the free part of the send buffer -/
def readFromServer (s : St) (i : ServerInput) : Except Fault St :=
  let d := s.data
  let bytes := i.received.getD []
  let amt := writable d.getSendAvailable bytes
  if InRange (offset d.sendNewDataSequence d.sendSequence) amt d.sendLength.toNat then
    .ok (s.receivedFromServer (bytes.take amt) i.isWouldBlock)
  else .error .sendBuffer

/-- the call returns whether the session can receive more -/
def receiveFromServer (s : St) (i : ServerInput) : Except Fault (Bool × St) :=
  if s.data.state ≠ .ESTABLISHED then .ok (false, s)
  else do
    let s ← s.trimSendBuffer
    if s.data.getSendAvailable = 0 then return (false, s)
    else
      let s ← s.readFromServer i
      let s ← s.flushDataToClient i.now i.turns
      return (0 < s.data.getSendAvailable, s)

end St

/-! ## the public calls -/

inductive Op where
  | receiveFromClient (p : Incoming) (i : ClientInput)
  | receiveFromServer (p : Packet) (i : ServerInput)
  | flushDataToServer (p : Packet) (r : SendResult)
  | flushDataToClient (p : Packet) (now : Int) (turns : Nat)

/-- one call with the packet object it gets -/
def step (s : St) : Op → Except Fault St
  | .receiveFromClient p i => St.receiveFromClient { s with packet := p } i
  | .receiveFromServer p i => do
    let r ← St.receiveFromServer { s with packet := p } i
    return r.2
  | .flushDataToServer p r => St.flushDataToServer { s with packet := p } r
  | .flushDataToClient p now turns => St.flushDataToClient { s with packet := p } now turns

end TunServer.Session
