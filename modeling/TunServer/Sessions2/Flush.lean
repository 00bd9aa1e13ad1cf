import TunServer.Sessions2.Receive

/-!
# The calls that get the handler's own packet object

`receiveFromServer`, `flushDataToServer`, `flushDataToClient`, `onSocketError`, and `checkStatus`,
which gets none.  The loop of `flushDataToClient` is observed for `turns + 1` turns; a call that
needs more of them is `hung`: what it sent so far is in the log, and no call follows it.

`Op` lists the public calls with what they get from their surroundings, `step` makes one of them.
-/

set_option linter.unusedVariables false

namespace TunServer.Sessions2

/-- what the server socket answers to `receiveIgnoreWouldBlock` -/
inductive RecvResult where
  | bytes (bs : List Byte)
  | wouldBlock
  | error
  deriving DecidableEq, Repr

/-- what the server socket answers to `sendIgnoreWouldBlock`: it never takes more than it is offered -/
inductive SendResult where
  | accepted (n : Nat)
  | wouldBlock
  | error
  deriving DecidableEq, Repr

namespace St

/-! ## from the server to the client -/

/-- `sendBuffer.manipulate`: at most the free space is read, and reading nothing ends the stream -/
def readFromServer (s : St) (r : RecvResult) : St :=
  match r with
  | .bytes bs =>
    let bs := bs.take s.data.sendBuffer.available.toNat
    let s := if bs.length = 0 then
        { s.unsetFrom .receiveSet with data.receiveFromServerFinished := true }
      else s
    { s with data.sendBuffer := s.data.sendBuffer.put bs }.emit (.received bs)
  | .wouldBlock => s
  | .error => { s.unsetFrom .receiveSet with data.receiveFromServerFinished := true }

/-- the condition of the loop of `sendDataStartingFrom` -/
def sendMore (d : Data) (mss : U16) (push : Bool) (bound off : U32) : Bool :=
  (if push then off else off + mss.setWidth 32) < bound + b32 d.receiveFromServerFinished

/-- the length of the next segment of `sendDataStartingFrom` -/
def sendAmount (mss : U16) (bound off : U32) : U32 :=
  if mss.setWidth 32 ≤ bound - off then mss.setWidth 32 else bound - off

/-- one turn of the loop of `sendDataStartingFrom` -/
def sendSegment (s : St) (mss : U16) (bound ack off : U32) : St :=
  let amt := sendAmount mss bound off
  let p := s.packet.makeNormal (s.data.sendUnacknowledged + off) ack
  let p := p.setTCPPayload (s.data.sendBuffer.as off (off + amt))
  if s.data.receiveFromServerFinished ∧ off + amt = s.data.sendBuffer.position then
    { s with data.sentFinToClient := true }.sendBack (p.setFinFlag true)
  else s.sendBack p

/-- the loop of `sendDataStartingFrom` observed for `turns` turns, with the offset it reaches -/
def sendLoop (mss : U16) (push : Bool) (bound ack : U32) : Nat → U32 → St → U32 × St
  | 0, off, s => (off, if sendMore s.data mss push bound off then { s with hung := true } else s)
  | turns + 1, off, s =>
    if sendMore s.data mss push bound off then
      sendLoop mss push bound ack turns (off + sendAmount mss bound off)
        (s.sendSegment mss bound ack off)
    else (off, s)

/-- the bookkeeping after the loop of `sendDataStartingFrom` -/
def sentUpTo (s : St) (off : U32) (now : Int) : St :=
  let newOff := if s.data.sendNextOffset < off then off else s.data.sendNextOffset
  if newOff ≠ s.data.sendNextOffset then
    { s with
      data.sendNextOffset := newOff
      data.lastTimeSentNewData := now
      data.sendRetryCount := 0 }
  else s

def sendDataStartingFrom (s : St) (off : U32) (mss : U16) (push : Bool) (bound : U32) (now : Int)
    (turns : Nat) : St :=
  let ack := s.data.receiveSent + s.data.receiveBuffer.position
  let s := { s with packet := s.packet.setWindow s.data.receiveBuffer.available }
  let (off, s) := sendLoop mss push bound ack turns off s
  if s.hung then s else s.sentUpTo off now

/-- the offset up to which the client's window lets data through -/
def sendBound (d : Data) : U32 :=
  if d.sendBuffer.position < d.sendWindowRightEdge then d.sendBuffer.position
  else d.sendWindowRightEdge

def finNotSent (d : Data) : Bool := d.receiveFromClientFinished ≠ d.sentFinToClient
def finNotAcknowledged (d : Data) : Bool := d.receiveFromServerFinished ≠ d.flushToClientFinished

/-- whether everything is sent from the oldest unacknowledged byte on -/
def resendDue (d : Data) (now : Int) : Bool :=
  d.sendNextOffset ≠ 0 ∨ finNotAcknowledged d ∧
    now - d.lastTimeAcceptedAcknowledgement > ms (d.getMeanRTT.tdiv 5)

/-- whether more than one segment of new data is waiting -/
def newDataDue (d : Data) (bound : U32) : Bool := d.mss.setWidth 32 < bound - d.sendNextOffset

/-- whether the rest is pushed out; `finNotSent` was computed when the call began -/
def pushDue (d : Data) (bound : U32) (finNotSent : Bool) (now : Int) : Bool :=
  d.sendNextOffset ≠ bound ∧ now - d.lastTimeSentNewData > ms (d.getMeanRTT.tdiv 5) ∨ finNotSent

def probeDue (d : Data) (now : Int) : Bool :=
  now - d.lastTimeSentNewData > ms d.getIntervalToNextProbe

def trackRTT (s : St) (now : Int) : St :=
  if ¬ s.data.rttTracking then
    { s with
      data.rttTracking := true
      data.rttTrackedSendSequence := s.data.sendUnacknowledged + s.data.sendNextOffset +
        b32 s.data.sentFinToClient
      data.rttSendTime := now }
  else s

/-- the first block of `flushDataToClient`: resend, or send full segments of new data -/
def flushSegments (s : St) (bound : U32) (now : Int) (turns : Nat) : St :=
  if resendDue s.data now then
    s.sendDataStartingFrom 0 s.data.mss (finNotAcknowledged s.data) bound now (turns + 1)
  else if newDataDue s.data bound then
    let s := s.sendDataStartingFrom s.data.sendNextOffset s.data.mss false bound now (turns + 1)
    if s.hung then s else s.trackRTT now
  else s

/-- the second block of `flushDataToClient`: push out what is left -/
def flushRest (s : St) (bound : U32) (finNotSent : Bool) (now : Int) (turns : Nat) : St :=
  if pushDue s.data bound finNotSent now then
    s.sendDataStartingFrom s.data.sendNextOffset s.data.mss true bound now (turns + 1)
  else s

/-- the last block of `flushDataToClient` -/
def probe (s : St) (now : Int) : St :=
  if probeDue s.data now then
    let s := { s with data.sendRetryCount := s.data.sendRetryCount + 1 }
    let p := s.packet.makeNormal (s.data.sendUnacknowledged + s.data.sendNextOffset)
      (s.data.receiveSent + s.data.receiveBuffer.position)
    s.sendBack (p.setWindow s.data.receiveBuffer.available)
  else s

def flushDataToClient (s : St) (now : Int) (turns : Nat) : St :=
  if s.data.state ≠ .ESTABLISHED ∨ s.data.flushToClientFinished then s
  else
    let bound := sendBound s.data
    let finNotSent := finNotSent s.data
    let s := s.flushSegments bound now turns
    if s.hung then s
    else
      let s := s.flushRest bound finNotSent now turns
      if s.hung then s else s.probe now

def receiveFromServer (s : St) (r : RecvResult) (now : Int) (turns : Nat) : St :=
  if s.data.state ≠ .ESTABLISHED ∨ s.data.receiveFromServerFinished then s
  else
    let s := (s.readFromServer r).flushDataToClient now turns
    if s.hung then s
    else if s.data.sendBuffer.available = 0 then s.unsetFrom .receiveSet
    else s

/-! ## from the client to the server -/

/-- the ends of the packet object are set to the session's own -/
def setEnds (d : Data) (p : Packet) : Packet :=
  (p.setSourceAddress d.serverAddress).setDestinationAddress d.clientAddress

/-- the connection to the server is ready or refused; `now` and `now'` are the two readings -/
def finishConnect (s : St) (lastError : Int) (now now' : Int) : St :=
  if lastError = 0 then
    if now - s.data.lastTimeSentNewData < SYN_ACK_DELAY then s
    else
      let p := setEnds s.data s.packet
      let s := s.sendBack (p.makeSyn s.data.sendUnacknowledged s.data.receiveSent)
      { s with
        data.lastTimeSentNewData := now'
        data.state := .SYN_ACK_SENT }.unsetFrom .sendSet
  else
    let p := setEnds s.data s.packet
    (s.sendBack (p.makeResetAck s.data.receiveSent)).closeSession

/-- the answer to a failure of the server socket, here and in `onSocketError` -/
def resetClient (s : St) : St :=
  let p := s.packet.makeResetSeq (s.data.sendUnacknowledged + s.data.sendNextOffset)
  (s.sendBack (setEnds s.data p)).closeSession

/-- what follows a send of `amt` of the buffered bytes -/
def finishSend (s : St) (amt : U32) : St :=
  let total := s.data.receiveBuffer.position
  if amt = total then
    let s := s.unsetFrom .sendSet
    if s.data.receiveFromClientFinished then
      if s.data.flushToClientFinished then s.closeSession
      else { s.emit .shutdownWrite with data.flushToServerFinished := true }
    else { s with data.receiveBuffer := s.data.receiveBuffer.compact (total - amt) }
  else { s with data.receiveBuffer := s.data.receiveBuffer.compact (total - amt) }

/-- how many of the buffered bytes the server socket takes -/
def sendCount (d : Data) : SendResult → Nat
  | .accepted n => min n d.receiveBuffer.bytes.length
  | _ => 0

def sendToServer (s : St) (r : SendResult) : St :=
  match r with
  | .error => s.resetClient
  | r =>
    let n := sendCount s.data r
    (s.emit (.sent (s.data.receiveBuffer.bytes.take n))).finishSend (BitVec.ofNat 32 n)

def flushDataToServer (s : St) (lastError : Int) (r : SendResult) (now now' : Int) : St :=
  if s.data.state = .SYN_RECEIVED then s.finishConnect lastError now now'
  else if s.data.state ≠ .ESTABLISHED ∨ s.data.flushToServerFinished then s
  else s.sendToServer r

/-! ## errors and timeouts -/

def onSocketError (s : St) : St := s.resetClient

/-- the check of an established session, which `SYN_ACK_SENT` falls through to -/
def checkAcknowledged (s : St) (now : Int) : Bool × St :=
  let limit := if s.data.flushToClientFinished then NO_PROBING_TIMEOUT
    else ms (s.data.getIntervalToNextProbe + s.data.getMeanRTT * 2)
  if now - s.data.lastTimeAcceptedAcknowledgement > limit then (false, s.closeSession) else (true, s)

/-- `now` and `now'` are the readings of the clock for the first and the second comparison -/
def checkStatus (s : St) (now now' : Int) : Bool × St :=
  match s.data.state with
  | .CLOSED => (false, s)
  | .SYN_ACK_SENT =>
    if now - s.data.lastTimeSentNewData > SYN_TIMEOUT then (false, s.closeSession)
    else s.checkAcknowledged now'
  | .ESTABLISHED => s.checkAcknowledged now'
  | .SYN_RECEIVED => (true, s)

end St

/-- `checkStatus` tells whether the session is open, and may close it -/
theorem checkStatus_cases (s : St) (now now' : Int) :
    s.data.state = .CLOSED ∧ s.checkStatus now now' = (false, s) ∨
    s.data.state ≠ .CLOSED ∧ s.checkStatus now now' = (true, s) ∨
    s.data.state ≠ .CLOSED ∧ s.checkStatus now now' = (false, s.closeSession) := by
  have h1 : s.checkAcknowledged now' = (true, s) ∨ s.checkAcknowledged now' = (false, s.closeSession) := by
    unfold St.checkAcknowledged
    dsimp only
    generalize (if s.data.flushToClientFinished = true then NO_PROBING_TIMEOUT
      else ms (s.data.getIntervalToNextProbe + s.data.getMeanRTT * 2)) = limit
    split_ifs
    · exact .inr rfl
    · exact .inl rfl
  unfold St.checkStatus
  cases hs : s.data.state with
  | CLOSED => exact .inl ⟨rfl, rfl⟩
  | SYN_RECEIVED => exact .inr (.inl ⟨by decide, rfl⟩)
  | SYN_ACK_SENT =>
    dsimp only
    split_ifs
    · exact .inr (.inr ⟨by decide, rfl⟩)
    · exact .inr (h1.imp (fun h => ⟨by decide, h⟩) (fun h => ⟨by decide, h⟩))
  | ESTABLISHED => exact .inr (h1.imp (fun h => ⟨by decide, h⟩) (fun h => ⟨by decide, h⟩))

/-! ## the public calls -/

inductive Op where
  | receiveFromClient (p : Incoming) (i : ClientInput)
  | receiveFromServer (r : RecvResult) (now : Int) (turns : Nat)
  | flushDataToServer (lastError : Int) (r : SendResult) (now now' : Int)
  | flushDataToClient (now : Int) (turns : Nat)
  | onSocketError
  | checkStatus (now now' : Int)
  | closeSession
  deriving DecidableEq, Repr

/-- the packet a call gets from a tunnel -/
def Op.fromClient : Op → Option Packet
  | .receiveFromClient p _ => some p.val
  | _ => none

/-- one call; a call that has not returned is not followed by another -/
def step (IP_MSS : U16) (s : St) (op : Op) : St :=
  if s.hung then s
  else match op with
  | .receiveFromClient p i => (receiveFromClient IP_MSS s p i).2
  | .receiveFromServer r now turns => s.receiveFromServer r now turns
  | .flushDataToServer lastError r now now' => s.flushDataToServer lastError r now now'
  | .flushDataToClient now turns => s.flushDataToClient now turns
  | .onSocketError => s.onSocketError
  | .checkStatus now now' => (s.checkStatus now now').2
  | .closeSession => s.closeSession

end TunServer.Sessions2
