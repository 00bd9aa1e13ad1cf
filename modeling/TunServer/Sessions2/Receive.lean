import TunServer.Sessions2.Data

/-!
# `TCPSession::receiveFromClient`

The call gets a packet read from a tunnel, and from its surroundings (`ClientInput`) the
descriptor of a fresh socket, the outcome of `connect`, the number drawn by `generateSequenceNo`
and the two readings of the clock.

`receiveFromClient_step` says once what a call can do (`ClientStep`): leave the session alone with
at most one segment in answer, open it, finish the handshake, take in a segment, or close.
-/

set_option linter.unusedVariables false

namespace TunServer.Sessions2

inductive ConnectResult where
  | returned (res : Int)
  | thrown
  deriving DecidableEq, Repr

structure ClientInput where
  fd : Nat
  connect : ConnectResult
  sequenceNo : U32
  now : Int
  nowAcknowledge : Int
  deriving DecidableEq, Repr

/-- the window a packet advertises, in bytes -/
def scaledWindow (p : Packet) (shift : U8) : U32 := p.windowSize.setWidth 32 <<< shift.toNat

def canHandle (d : Data) (p : Packet) : Bool :=
  if d.state = .CLOSED then true
  else if p.source.ip ≠ d.clientAddress.ip then false
  else if p.source.port ≠ d.clientAddress.port then false
  else if p.destination.ip ≠ d.serverAddress.ip then false
  else if p.destination.port ≠ d.serverAddress.port then false
  else true

namespace St

def sendReset (s : St) : St :=
  let p := s.packet.swapEnds
  if p.isAck then s.sendBack (p.makeResetSeq p.getAcknowledgmentNumber)
  else s.sendBack (p.makeResetAck (p.getSequenceNumber + p.getSegmentLength))

def sendAck (s : St) : St :=
  let p := s.packet.swapEnds
  let p := p.makeNormal
    (s.data.sendUnacknowledged + s.data.sendNextOffset + b32 s.data.sentFinToClient)
    (s.data.receiveSent + s.data.receiveBuffer.position + b32 s.data.receiveFromClientFinished)
  s.sendBack (p.setWindow s.data.receiveBuffer.available)

def acknowledgeDelayed (s : St) (now : Int) : St :=
  if now - s.shared.lastTimeSentAcknowledge > ACKNOWLEDGE_DELAY then
    let p := s.packet.makeNormal (s.data.sendUnacknowledged + s.data.sendNextOffset)
      (s.data.receiveSent + s.data.receiveBuffer.position)
    let p := p.setSourceAddress s.data.serverAddress
    let p := p.setDestinationAddress s.data.clientAddress
    { s.sendBack p with shared.lastTimeSentAcknowledge := now }
  else s

/-- the session's answer to a SYN while it waits for the client's ACK -/
def sendSynAck (s : St) : St :=
  s.sendBack (s.packet.swapEnds.makeSyn s.data.sendUnacknowledged s.data.receiveSent)

/-- the data of a session that `connect` did not refuse, before it answers -/
def opened (d : Data) (IP_MSS : U16) (p : Packet) (i : ClientInput) : Data :=
  { d.reset IP_MSS i.sequenceNo with
    socket := some i.fd
    clientAddress := p.source
    serverAddress := p.destination
    sendWindowShift := p.windowShift
    sendWindowRightEdge := scaledWindow p p.windowShift
    receiveSent := p.getSequenceNumber + 1 }

/-- `connect` returned `res`, and the window shift is legal -/
def openConnected (s : St) (IP_MSS : U16) (i : ClientInput) (res : Int) : St :=
  let s := { s with data := opened s.data IP_MSS s.packet i }.setIn .errorSet
  if res = 0 then
    let s := { s with data.lastTimeSentNewData := i.now }.sendSynAck
    { s with data.state := .SYN_ACK_SENT }
  else { s with data.state := .SYN_RECEIVED }.setIn .sendSet

/-- a SYN for a closed session -/
def openSession (s : St) (IP_MSS : U16) (i : ClientInput) : St :=
  match i.connect with
  | .returned res =>
    if 14 < s.packet.windowShift then s.sendReset else s.openConnected IP_MSS i res
  | .thrown => s.sendReset

/-- the packet is a SYN without ACK -/
def receiveSyn (s : St) (IP_MSS : U16) (i : ClientInput) : St :=
  match s.data.state with
  | .CLOSED => s.openSession IP_MSS i
  | .SYN_RECEIVED =>
    if s.packet.getSequenceNumber ≠ s.data.receiveSent - 1 then s.sendReset else s
  | .SYN_ACK_SENT =>
    if s.packet.getSequenceNumber ≠ s.data.receiveSent - 1 then s.sendReset
    else { s.sendSynAck with data.state := .SYN_ACK_SENT }
  | .ESTABLISHED => s.sendAck

/-- whether a reset is in the receive window -/
def resetInWindow (d : Data) (p : Packet) : Bool :=
  let receiveNextOff := d.receiveBuffer.position + b32 d.receiveFromClientFinished
  let off := p.getSequenceNumber - d.receiveSent
  if d.receiveBuffer.available ≠ 0 then
    receiveNextOff ≤ off ∧ off < receiveNextOff + d.receiveBuffer.available
  else off = receiveNextOff

def receiveReset (s : St) : St :=
  if s.data.state ≠ .CLOSED then
    if resetInWindow s.data s.packet then s.closeSession else s
  else s

/-- the ACK that ends the handshake -/
def establish (s : St) (i : ClientInput) : St :=
  let d := { s.data with sendUnacknowledged := s.data.sendUnacknowledged + 1 }
  let d := d.pushRTT (s.data.lastTimeSentNewData - i.now)
  let s := { s with data := { d with lastTimeAcceptedAcknowledgement := i.now } }.setIn .receiveSet
  { s with data.state := .ESTABLISHED }

/-- the distance of the acknowledgement from the oldest unacknowledged byte -/
def ackOff (d : Data) (p : Packet) : U32 := p.getAcknowledgmentNumber - d.sendUnacknowledged

/-- `ackOff` is compared as an `int` here, and as an `unsigned int` everywhere else -/
def acceptWindow (s : St) (off : U32) (now : Int) : St :=
  if 0 ≤ off.toInt then
    { s with
      data.lastTimeAcceptedAcknowledgement := now
      data.sendWindowRightEdge := scaledWindow s.packet s.data.sendWindowShift }
  else s

/-- the client acknowledged `amt` further bytes -/
def advance (s : St) (amt : U32) : St :=
  if 0 < amt.toInt then
    let d := s.data
    { s with data := { d with
        sendUnacknowledged := d.sendUnacknowledged + amt
        sendNextOffset := d.sendNextOffset - amt
        sendBuffer := d.sendBuffer.compact (d.sendBuffer.position - amt) } }.emit
      (.acknowledged amt.toNat) |>.setIn .receiveSet
  else s

/-- the difference is unsigned, so it is never below zero -/
def sampleRTT (s : St) (now : Int) : St :=
  let d := s.data
  if d.rttTracking ∧
      0 ≤ d.sendUnacknowledged + b32 d.flushToClientFinished - d.rttTrackedSendSequence then
    { s with data := { d with rttTracking := false }.pushRTT (now - d.rttSendTime) }
  else s

/-- how many bytes of the payload there is room for -/
def acceptLength (d : Data) (p : Packet) : U32 :=
  if p.getTCPPayloadSize ≤ d.receiveBuffer.available then p.getTCPPayloadSize
  else d.receiveBuffer.available

def acceptBytes (s : St) : St :=
  let len := acceptLength s.data s.packet
  if len ≠ 0 then
    { s with data.receiveBuffer :=
        s.data.receiveBuffer.put (s.packet.payload.take len.toNat) }.setIn .sendSet
  else s

def acceptPayload (s : St) (now : Int) : St :=
  if s.data.receiveFromClientFinished then s
  else
    let len := acceptLength s.data s.packet
    let s := s.acceptBytes
    if s.packet.isFin ∧ len = s.packet.getTCPPayloadSize then
      { s with data.receiveFromClientFinished := true }.sendAck
    else s.acknowledgeDelayed now

/-- an acknowledgement beyond the data is one of the FIN -/
def acceptAck (s : St) (off : U32) (now : Int) : St :=
  if s.data.sendNextOffset < off then
    ({ s with data.flushToClientFinished := true }.advance (off - 1)).sampleRTT now
  else (s.advance off).sampleRTT now

/-- the segment is in order, and its acknowledgement lies within what was sent -/
def acceptSegment (s : St) (i : ClientInput) : St :=
  let off := ackOff s.data s.packet
  let s := s.acceptWindow off i.now
  if s.data.sendNextOffset < off ∧ s.data.flushToServerFinished then s.closeSession
  else (s.acceptAck off i.now).acceptPayload i.nowAcknowledge

/-- whether the segment starts at the byte the session expects next -/
def inOrder (d : Data) (p : Packet) : Bool :=
  p.getSequenceNumber - d.receiveSent = d.receiveBuffer.position + b32 d.receiveFromClientFinished

/-- whether the acknowledgement lies within what was sent -/
def ackInRange (d : Data) (p : Packet) : Bool :=
  ackOff d p ≤ d.sendNextOffset + b32 d.sentFinToClient

/-- the packet has ACK, and neither SYN nor RST -/
def receiveAck (s : St) (i : ClientInput) : St :=
  match s.data.state with
  | .SYN_ACK_SENT =>
    if s.packet.getSequenceNumber ≠ s.data.receiveSent ∨
        s.packet.getAcknowledgmentNumber ≠ s.data.sendUnacknowledged then s.sendReset
    else s.establish i
  | .ESTABLISHED =>
    if ¬ inOrder s.data s.packet then s.sendAck
    else if ¬ ackInRange s.data s.packet then s.sendAck
    else s.acceptSegment i
  | _ => s.sendReset

/-- what the call does with the packet object it was given -/
def handlePacket (s : St) (IP_MSS : U16) (i : ClientInput) : St :=
  if s.packet.isSyn then
    if s.packet.isAck then s.sendReset else s.receiveSyn IP_MSS i
  else if s.packet.isReset then s.receiveReset
  else if s.packet.isAck then s.receiveAck i
  else s.sendReset

end St

/-- The call returns whether the session took the packet.  The packet comes from the tunnel; the
object in `s`, the handler's own, is not touched. -/
def receiveFromClient (IP_MSS : U16) (s : St) (p : Packet) (i : ClientInput) : Bool × St :=
  if canHandle s.data p then
    (true, { St.handlePacket { s with packet := p } IP_MSS i with packet := s.packet })
  else (false, s)

/-! ## what a call can do -/

theorem canHandle_iff (d : Data) (p : Packet) : canHandle d p = true ↔
    d.state = .CLOSED ∨ p.source = d.clientAddress ∧ p.destination = d.serverAddress := by
  unfold canHandle
  rcases p.source with ⟨sip, sport⟩
  rcases p.destination with ⟨dip, dport⟩
  rcases d.clientAddress with ⟨cip, cport⟩
  rcases d.serverAddress with ⟨vip, vport⟩
  simp only [SockAddr.mk.injEq]
  split_ifs <;> simp_all

/-- What `handlePacket` can make of the state `s`, whose packet object is the packet read. -/
inductive ClientStep (IP_MSS : U16) (s : St) (i : ClientInput) : St → Prop where
  | same : ClientStep IP_MSS s i s
  | reset : ClientStep IP_MSS s i s.sendReset
  | ack (hs : s.data.state = .ESTABLISHED) : ClientStep IP_MSS s i s.sendAck
  | synAck (hs : s.data.state = .SYN_ACK_SENT) : ClientStep IP_MSS s i s.sendSynAck
  | opened (res : Int) (hs : s.data.state = .CLOSED) (hsyn : s.packet.isSyn = true)
      (hack : s.packet.isAck = false) (hshift : s.packet.windowShift ≤ 14)
      (hres : i.connect = .returned res) : ClientStep IP_MSS s i (s.openConnected IP_MSS i res)
  | closed (hs : s.data.state ≠ .CLOSED) (hsyn : s.packet.isSyn = false)
      (hrst : s.packet.isReset = true) (hwin : St.resetInWindow s.data s.packet = true) :
      ClientStep IP_MSS s i s.closeSession
  | established (hs : s.data.state = .SYN_ACK_SENT)
      (hseq : s.packet.getSequenceNumber = s.data.receiveSent)
      (hack : s.packet.getAcknowledgmentNumber = s.data.sendUnacknowledged) :
      ClientStep IP_MSS s i (s.establish i)
  | accepted (hs : s.data.state = .ESTABLISHED) (hsyn : s.packet.isSyn = false)
      (hrst : s.packet.isReset = false) (hack : s.packet.isAck = true)
      (hseq : St.inOrder s.data s.packet = true) (hrange : St.ackInRange s.data s.packet = true) :
      ClientStep IP_MSS s i (s.acceptSegment i)

theorem receiveSyn_step (IP_MSS : U16) (s : St) (i : ClientInput) (hsyn : s.packet.isSyn = true)
    (hack : s.packet.isAck = false) : ClientStep IP_MSS s i (s.receiveSyn IP_MSS i) := by
  unfold St.receiveSyn
  split
  · rename_i hs
    unfold St.openSession
    split
    · rename_i res hres
      split_ifs with hshift
      · exact .reset
      · exact .opened res hs hsyn hack (by bv_omega) hres
    · exact .reset
  · split_ifs
    · exact .reset
    · exact .same
  · rename_i hs
    split_ifs
    · exact .reset
    · have e : { s.sendSynAck with data.state := .SYN_ACK_SENT } = s.sendSynAck := by
        rw [← hs]
        rfl
      rw [e]
      exact .synAck hs
  · rename_i hs
    exact .ack hs

theorem receiveAck_step (IP_MSS : U16) (s : St) (i : ClientInput) (hsyn : s.packet.isSyn = false)
    (hrst : s.packet.isReset = false) (hack : s.packet.isAck = true) :
    ClientStep IP_MSS s i (s.receiveAck i) := by
  unfold St.receiveAck
  split
  · rename_i hs
    split_ifs with h
    · exact .reset
    · rw [not_or, not_not, not_not] at h
      exact .established hs h.1 h.2
  · rename_i hs
    by_cases hseq : St.inOrder s.data s.packet = true
    · by_cases hrange : St.ackInRange s.data s.packet = true
      · simp only [hseq, hrange, not_true, if_false]
        exact .accepted hs hsyn hrst hack hseq hrange
      · simp only [hseq, hrange]
        exact .ack hs
    · simp only [hseq]
      exact .ack hs
  · exact .reset

theorem handlePacket_step (IP_MSS : U16) (s : St) (i : ClientInput) :
    ClientStep IP_MSS s i (s.handlePacket IP_MSS i) := by
  unfold St.handlePacket
  split_ifs with hsyn hack hrst hack
  · exact .reset
  · exact receiveSyn_step IP_MSS s i hsyn (by simpa using hack)
  · unfold St.receiveReset
    split_ifs with hs hwin
    · exact .closed hs (by simpa using hsyn) hrst hwin
    · exact .same
    · exact .same
  · exact receiveAck_step IP_MSS s i (by simpa using hsyn) (by simpa using hrst) hack
  · exact .reset

end TunServer.Sessions2
