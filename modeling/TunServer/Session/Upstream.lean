import TunServer.Session.Data

/-!
# From the client to the server: `flushDataToServer` and `receiveFromClient`

The surroundings of `receiveFromClient` (`ClientInput`) are the descriptor of a fresh socket, the
outcome of `tryConnect` with the two questions about `errno`, the value of `rand`, the outcomes of
the two sends it can make, and the readings of the clock.
-/

namespace TunServer.Session

/-- what `mSock.send` returns: it never takes more than it is offered -/
inductive SendResult where
  | accepted (n : Nat)
  | wouldBlock
  | error
  deriving DecidableEq, Repr

def SendResult.isAccepted : SendResult → Bool
  | .accepted _ => true
  | _ => false

structure ClientInput where
  fd : Nat
  tryConnect : Int
  isConnectionInProgress : Bool
  isConnected : Bool
  rand : U32
  firstSend : SendResult
  send : SendResult
  now : Int
  nowAcknowledge : Int
  deriving DecidableEq, Repr

/-- `rand() % 2 ^ 31`, where the operators bind in this order -/
def generateSequenceNo (rand : U32) : U32 := (rand % 2) ^^^ 31

/-- `(65535 << windowShift) * SEND_WINDOW_SCALE`, a product of two `int`s -/
def sendBufferProduct (windowShift : U8) : Int :=
  (65535 <<< windowShift.toNat : U32).toInt * SEND_WINDOW_SCALE.toInt

/-- `newLen`; a product that an `int` does not hold wraps around -/
def sendBufferLength (windowShift : U8) : U32 := BitVec.ofInt 32 (sendBufferProduct windowShift)

namespace St

/-! ## handing over -/

/-- the FIN of the client is passed on -/
def finishUpStream (s : St) : St :=
  let s := { s with data.receiveUser := s.data.receiveUser + 1 }
  if s.data.isDownStreamComplete then s.closeSession else s.emit .shutdownWrite

/-- the bytes that are offered to the server socket -/
def offered (d : Data) : U32 := d.receiveNext - d.receiveUser - b32 d.clientReadFinished

/-- the server socket took `bytes` -/
def taken (s : St) (bytes : List Byte) : St :=
  { s with data := { s.data with
    receiveUser := s.data.receiveUser + BitVec.ofNat 32 bytes.length } }.emit (.handed bytes)

/-- what follows a send -/
def finishSend (s : St) : Except Fault St :=
  if s.data.clientReadFinished ∧ s.data.receiveUser = s.data.receiveNext - 1 then
    .ok s.finishUpStream
  else if ¬ s.data.clientReadFinished then s.trimReceiveBuffer
  else .ok s

/-- the bytes that are offered, read from the receive buffer -/
def offeredBytes (d : Data) : List Byte :=
  d.receiveBuffer.read (offset d.receiveUser d.receiveSequence).toNat (offered d).toNat

/-- the server's socket failed -/
def resetClient (s : St) : St :=
  let p := s.packet.setEnds s.data.destination s.data.source
  (s.writePacket (p.makeResetSeq s.data.sendNext)).closeSession

def sendToServer (s : St) (r : SendResult) : Except Fault St :=
  let d := s.data
  if InRange (offset d.receiveUser d.receiveSequence) (offered d).toInt RECEIVE_BUFFER_SIZE then
    match r with
    | .accepted n => (s.taken ((offeredBytes d).take n)).finishSend
    | .wouldBlock => .ok s
    | .error => .ok s.resetClient
  else .error .receiveBuffer

def flushDataToServer (s : St) (r : SendResult) : Except Fault St :=
  if s.data.state ≠ .ESTABLISHED then .ok s
  else if s.data.isUpStreamComplete then .ok s
  else if s.data.clientReadFinished ∧ s.data.receiveUser = s.data.receiveNext - 1 then
    .ok s.finishUpStream
  else if offered s.data ≠ 0 then s.sendToServer r
  else .ok s

/-! ## answers -/

def sendReset (s : St) : St :=
  let p := s.packet.swapEnds
  if p.isAck then s.writePacket (p.makeResetSeq p.getAcknowledgmentNumber)
  else s.writePacket (p.makeResetAck (p.getSequenceNumber + p.getSegmentLength))

def sendAck (s : St) : St :=
  let p := s.packet.swapEnds.makeNormal s.data.sendNext s.data.receiveNext
  s.writePacket (p.setWindowSize s.data.getReceiveAvailable).clearData

def sendSynAck (s : St) : St :=
  { s.writePacket (s.packet.swapEnds.clearData.makeSyn s.data.sendNext s.data.receiveNext) with
    data.state := .SYN_ACK_SENT }

/-! ## SYN and RST -/

/-- the members after a SYN that the server did not refuse -/
def opened (d : Data) (p : Packet) (i : ClientInput) : Data :=
  let seq := generateSequenceNo i.rand
  let newLen := sendBufferLength p.windowShift
  { d with
    mSock := some i.fd
    sendNewDataSequence := seq
    sendSequence := seq
    sendUnacknowledged := seq
    sendNext := seq
    receiveSequence := p.getSequenceNumber + 1
    receiveUser := p.getSequenceNumber + 1
    receiveNext := p.getSequenceNumber + 1
    receivePushSequence := p.getSequenceNumber + 1
    sendWindow := p.windowSize.setWidth 32
    windowShift := p.windowShift
    mss := p.mss
    clientReadFinished := false
    serverReadFinished := false
    lastAcknowledgedSequence := 0
    retryCount := 0
    lastSendTime := i.now
    lastTimeAcknowledgmentAccepted := i.now
    sendLength := if d.sendLength < newLen then newLen else d.sendLength
    source := p.source
    destination := p.destination }

def openSession (s : St) (i : ClientInput) : St :=
  if i.tryConnect ≠ 0 ∧ ¬ i.isConnectionInProgress then s.sendReset
  else
    let s := { s with data := opened s.data s.packet i }
    if i.tryConnect = 0 ∨ i.isConnected then s.sendSynAck
    else { s with data.state := .SYN_RECEIVED }

def receiveSyn (s : St) (i : ClientInput) : St :=
  match s.data.state with
  | .CLOSED => s.openSession i
  | .SYN_RECEIVED | .SYN_ACK_SENT =>
    if s.packet.getSequenceNumber = s.data.receiveNext - 1 then s.sendSynAck else s.sendReset
  | _ => s.sendAck

/-- the window a reset has to be in, as the code tests it -/
def resetInWindow (d : Data) (seq : U32) : Bool :=
  d.receiveNext ≤ seq ∧ seq < d.receiveNext + d.getReceiveAvailable

def receiveReset (s : St) : St :=
  if s.data.state ≠ .CLOSED ∧ resetInWindow s.data s.packet.getSequenceNumber then s.closeSession
  else s

/-! ## ACK -/

/-- the ACK that ends the handshake -/
def establish (s : St) (i : ClientInput) : St :=
  let ack := s.packet.getAcknowledgmentNumber
  let s := { s with data := { s.data with
    sendSequence := ack
    sendUnacknowledged := ack
    sendNewDataSequence := ack
    sendNext := ack
    rtt := max (min (i.now - s.data.lastSendTime) MAX_RTT) 0
    lastTimeAcknowledgmentAccepted := i.now
    state := .ESTABLISHED } }
  match s.data.mSock with
  | some fd => { s with
      shared.receiveSet := insert fd s.shared.receiveSet
      shared.maxFd := max s.shared.maxFd (fd + 1) }
  | none => s

/-- the acknowledgement of a segment in order -/
def acceptAck (s : St) : St :=
  { s with
    data.sendUnacknowledged :=
      if s.data.sendUnacknowledged < s.packet.getAcknowledgmentNumber
      then s.packet.getAcknowledgmentNumber else s.data.sendUnacknowledged
    data.retryCount := 0 }

/-- room for a payload that does not fit -/
def makeRoom (s : St) (len : U32) (r : SendResult) : Except Fault St :=
  if s.data.getReceiveAvailable < len then do
    let s ← s.flushDataToServer r
    s._trimReceiveBuffer
  else .ok s

/-- as much of the payload as there is room for is copied behind `receiveNext` -/
def copyPayload (s : St) : Except Fault St :=
  let d := s.data
  let bytes := s.packet.copiedData d.getReceiveAvailable
  if InRange (offset d.receiveNext d.receiveSequence) bytes.length RECEIVE_BUFFER_SIZE then
    let s := { s with data := { d with
      receiveBuffer := d.receiveBuffer.write (offset d.receiveNext d.receiveSequence).toNat bytes
      receiveNext := d.receiveNext + BitVec.ofNat 32 bytes.length } }.emit (.accepted bytes)
    let s := if s.packet.isPush then { s with data.receivePushSequence := s.data.receiveNext } else s
    .ok (if s.packet.isFin ∧ BitVec.ofNat 32 bytes.length = s.packet.getDataLength then
      { s with data := { s.data with
        receiveNext := s.data.receiveNext + 1
        clientReadFinished := true } }
    else s)
  else .error .receiveBuffer

/-- the payload of a segment in order, from a client that has not sent its FIN -/
def acceptPayload (s : St) (i : ClientInput) : Except Fault St := do
  let s ← s.makeRoom s.packet.getDataLength i.firstSend
  let s ← s.copyPayload
  s.flushDataToServer i.send

/-- both streams might be complete now -/
def finishAck (s : St) (i : ClientInput) : St :=
  if s.data.state = .CLOSED then s
  else if s.data.isUpStreamComplete ∧ s.data.isDownStreamComplete then s.closeSession
  else s.acknowledgeDelayed i.nowAcknowledge

def acceptSegment (s : St) (i : ClientInput) : Except Fault St := do
  let s := s.acceptAck
  let s ← if s.data.clientReadFinished then .ok s else s.acceptPayload i
  return s.finishAck i

def receiveAck (s : St) (i : ClientInput) : Except Fault St :=
  match s.data.state with
  | .SYN_ACK_SENT =>
    if s.packet.getSequenceNumber = s.data.receiveNext then
      if s.packet.getAcknowledgmentNumber ≠ s.data.sendUnacknowledged + 1 then .ok s.sendReset
      else .ok (s.establish i)
    else .ok s.sendReset
  | .ESTABLISHED =>
    if s.packet.getSequenceNumber = s.data.receiveNext then s.acceptSegment i else .ok s.sendAck
  | _ => .ok s.sendReset

/-- the packet object of the state is the packet that was read -/
def receiveFromClient (s : St) (i : ClientInput) : Except Fault St :=
  if s.packet.isSyn then
    if s.packet.isAck then .ok s.sendReset else .ok (s.receiveSyn i)
  else if s.packet.isReset then .ok s.receiveReset
  else if s.packet.isAck then s.receiveAck i
  else .ok s.sendReset

end St

end TunServer.Session
