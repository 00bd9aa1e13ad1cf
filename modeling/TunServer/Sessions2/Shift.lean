import TunServer.Sessions2.Flush

/-!
# Translation of the sequence numbers

The client's numbers are shifted by `kr`, the session's own by `ks`.

* `Packet.shift`, `Data.shift`, `St.shift`, `Op.shift`   the same thing with shifted numbers;
* `step_shift`   a call on the shifted state with the shifted packet is the shifted call;
* `run_shift`    so is every run: nothing depends on where a direction wraps.

Every function of the model has its own lemma, in the order of the model.
-/

set_option linter.unusedVariables false

namespace TunServer.Sessions2

def Packet.shift (ks kr : U32) (p : Packet) : Packet := { p with header := p.header.shift ks kr }

def Data.shift (ks kr : U32) (d : Data) : Data :=
  { d with
    sendUnacknowledged := d.sendUnacknowledged + ks
    rttTrackedSendSequence := d.rttTrackedSendSequence + ks
    receiveSent := d.receiveSent + kr }

def Event.shift (ks kr : U32) : Event → Event
  | .sendBack d p => .sendBack (d.shift ks kr) (p.shift ks kr)
  | e => e

def St.shift (ks kr : U32) (s : St) : St :=
  { s with
    data := s.data.shift ks kr
    packet := s.packet.shift ks kr
    log := s.log.map (Event.shift ks kr) }

/-- the number drawn for a new connection is one of the session's own -/
def ClientInput.shift (ks : U32) (i : ClientInput) : ClientInput :=
  { i with sequenceNo := i.sequenceNo + ks }

def Incoming.shift (ks kr : U32) (p : Incoming) : Incoming :=
  ⟨p.val.shift ks kr, (Header.isReceived_shift ks kr _).trans p.property⟩

def Op.shift (ks kr : U32) : Op → Op
  | .receiveFromClient p i => .receiveFromClient (p.shift ks kr) (i.shift ks)
  | op => op

section
variable (ks kr : U32)

/-! ## packets -/

theorem isSyn_shift (p : Packet) : (p.shift ks kr).isSyn = p.isSyn := Header.isSyn_shift ks kr _
theorem isAck_shift (p : Packet) : (p.shift ks kr).isAck = p.isAck := Header.isAck_shift ks kr _
theorem isReset_shift (p : Packet) : (p.shift ks kr).isReset = p.isReset :=
  Header.isReset_shift ks kr _
theorem isFin_shift (p : Packet) : (p.shift ks kr).isFin = p.isFin := Header.isFin_shift ks kr _
theorem getSegmentLength_shift (p : Packet) :
    (p.shift ks kr).getSegmentLength = p.getSegmentLength := Header.getSegmentLength_shift ks kr _

theorem setFinFlag_shift (p : Packet) (b : Bool) :
    (p.shift ks kr).setFinFlag b = (p.setFinFlag b).shift ks kr :=
  congrArg (fun h : Header => { p with header := h }) (Header.setFinFlag_shift ks kr p.header b)

variable {ks kr} in
theorem getSequenceNumber_shift {p : Packet} (h : p.header.isReceived = true) :
    (p.shift ks kr).getSequenceNumber = p.getSequenceNumber + kr :=
  Header.getSequenceNumber_shift h

variable {ks kr} in
theorem getAcknowledgmentNumber_shift {p : Packet} (h : p.header.isReceived = true)
    (hack : p.isAck = true) :
    (p.shift ks kr).getAcknowledgmentNumber = p.getAcknowledgmentNumber + ks :=
  Header.getAcknowledgmentNumber_shift h hack

/-! ## the log and the descriptor sets -/

theorem setIn_shift (s : St) (k : FdSets) : (s.shift ks kr).setIn k = (s.setIn k).shift ks kr := by
  have hsocket : (s.shift ks kr).data.socket = s.data.socket := rfl
  unfold St.setIn
  rw [hsocket]
  cases s.data.socket with
  | some fd => rfl
  | none => rfl

theorem unsetFrom_shift (s : St) (k : FdSets) :
    (s.shift ks kr).unsetFrom k = (s.unsetFrom k).shift ks kr := by
  have hsocket : (s.shift ks kr).data.socket = s.data.socket := rfl
  unfold St.unsetFrom
  rw [hsocket]
  cases s.data.socket with
  | some fd => rfl
  | none => rfl

theorem emit_shift (s : St) (e : Event) :
    (s.shift ks kr).emit (e.shift ks kr) = (s.emit e).shift ks kr := by
  unfold St.emit St.shift
  rw [List.map_append]
  rfl

theorem sendBack_shift (s : St) (p : Packet) :
    (s.shift ks kr).sendBack (p.shift ks kr) = (s.sendBack p).shift ks kr :=
  emit_shift ks kr { s with packet := p } (.sendBack s.data p)

theorem closeSession_shift (s : St) :
    (s.shift ks kr).closeSession = s.closeSession.shift ks kr := by
  unfold St.closeSession
  rw [unsetFrom_shift, unsetFrom_shift, unsetFrom_shift]
  exact emit_shift ks kr { ((s.unsetFrom .receiveSet).unsetFrom .sendSet).unsetFrom .errorSet with
    data.state := .CLOSED, data.socket := none } .onSocketClose

/-! ## answers -/

theorem sendReset_shift {s : St} (h : s.packet.header.isReceived = true) :
    (s.shift ks kr).sendReset = s.sendReset.shift ks kr := by
  let p := s.packet.swapEnds
  have hp : p.header.isReceived = true := h
  show (if (p.shift ks kr).isAck then _ else _) = St.shift ks kr (if p.isAck then _ else _)
  rw [isAck_shift]
  split_ifs with hack
  · show (s.shift ks kr).sendBack ((p.shift ks kr).makeResetSeq
      (p.shift ks kr).getAcknowledgmentNumber) = _
    rw [getAcknowledgmentNumber_shift hp hack]
    exact sendBack_shift ks kr s (p.makeResetSeq p.getAcknowledgmentNumber)
  · show (s.shift ks kr).sendBack ((p.shift ks kr).makeResetAck
      ((p.shift ks kr).getSequenceNumber + (p.shift ks kr).getSegmentLength)) = _
    rw [getSequenceNumber_shift hp, getSegmentLength_shift, shift_add]
    exact sendBack_shift ks kr s (p.makeResetAck (p.getSequenceNumber + p.getSegmentLength))

theorem sendAck_shift (s : St) : (s.shift ks kr).sendAck = s.sendAck.shift ks kr := by
  show (s.shift ks kr).sendBack (((s.packet.swapEnds.shift ks kr).makeNormal
    (s.data.sendUnacknowledged + ks + s.data.sendNextOffset + b32 s.data.sentFinToClient)
    (s.data.receiveSent + kr + s.data.receiveBuffer.position +
      b32 s.data.receiveFromClientFinished)).setWindow s.data.receiveBuffer.available) = _
  rw [shift_add_add s.data.sendUnacknowledged, shift_add_add s.data.receiveSent]
  exact sendBack_shift ks kr s ((s.packet.swapEnds.makeNormal
    (s.data.sendUnacknowledged + s.data.sendNextOffset + b32 s.data.sentFinToClient)
    (s.data.receiveSent + s.data.receiveBuffer.position +
      b32 s.data.receiveFromClientFinished)).setWindow s.data.receiveBuffer.available)

theorem acknowledgeDelayed_shift (s : St) (now : Int) :
    (s.shift ks kr).acknowledgeDelayed now = (s.acknowledgeDelayed now).shift ks kr := by
  unfold St.acknowledgeDelayed
  show (if now - s.shared.lastTimeSentAcknowledge > ACKNOWLEDGE_DELAY then _ else _) = _
  split_ifs
  · have e := sendBack_shift ks kr s (((s.packet.makeNormal
      (s.data.sendUnacknowledged + s.data.sendNextOffset)
      (s.data.receiveSent + s.data.receiveBuffer.position)).setSourceAddress
        s.data.serverAddress).setDestinationAddress s.data.clientAddress)
    show { (s.shift ks kr).sendBack ((((s.packet.shift ks kr).makeNormal
      (s.data.sendUnacknowledged + ks + s.data.sendNextOffset)
      (s.data.receiveSent + kr + s.data.receiveBuffer.position)).setSourceAddress
        s.data.serverAddress).setDestinationAddress s.data.clientAddress) with
          shared.lastTimeSentAcknowledge := now } = _
    rw [shift_add s.data.sendUnacknowledged, shift_add s.data.receiveSent]
    exact congrArg (fun t : St => { t with shared.lastTimeSentAcknowledge := now }) e
  · rfl

theorem sendSynAck_shift (s : St) : (s.shift ks kr).sendSynAck = s.sendSynAck.shift ks kr :=
  sendBack_shift ks kr s (s.packet.swapEnds.makeSyn s.data.sendUnacknowledged s.data.receiveSent)

/-! ## the handshake -/

theorem openConnected_shift {s : St} (h : s.packet.header.isReceived = true) (IP_MSS : U16)
    (i : ClientInput) (res : Int) : (s.shift ks kr).openConnected IP_MSS (i.shift ks) res =
      (s.openConnected IP_MSS i res).shift ks kr := by
  have hopen : St.opened (s.data.shift ks kr) IP_MSS (s.packet.shift ks kr) (i.shift ks) =
      (St.opened s.data IP_MSS s.packet i).shift ks kr := by
    unfold St.opened
    rw [getSequenceNumber_shift h, shift_add]
    rfl
  have hset : { s.shift ks kr with
      data := St.opened (s.data.shift ks kr) IP_MSS (s.packet.shift ks kr) (i.shift ks) }.setIn
        .errorSet = ({ s with data := St.opened s.data IP_MSS s.packet i }.setIn .errorSet).shift ks kr := by
    rw [hopen]
    exact setIn_shift ks kr { s with data := St.opened s.data IP_MSS s.packet i } .errorSet
  let answer : St → St := fun t =>
    if res = 0 then
      { ({ t with data.lastTimeSentNewData := i.now } : St).sendSynAck with
        data.state := .SYN_ACK_SENT }
    else ({ t with data.state := .SYN_RECEIVED } : St).setIn .sendSet
  have hanswer : ∀ t : St, answer (t.shift ks kr) = (answer t).shift ks kr := by
    intro t
    show (if res = 0 then _ else _) = St.shift ks kr (if res = 0 then _ else _)
    split_ifs
    · have e := sendSynAck_shift ks kr { t with data.lastTimeSentNewData := i.now }
      exact congrArg (fun t : St => { t with data.state := .SYN_ACK_SENT }) e
    · exact setIn_shift ks kr { t with data.state := .SYN_RECEIVED } .sendSet
  show answer (St.setIn _ _) = St.shift ks kr (answer _)
  rw [← hanswer]
  exact congrArg answer hset

theorem receiveSyn_shift {s : St} (h : s.packet.header.isReceived = true) (IP_MSS : U16)
    (i : ClientInput) :
    (s.shift ks kr).receiveSyn IP_MSS (i.shift ks) = (s.receiveSyn IP_MSS i).shift ks kr := by
  have hreset := sendReset_shift ks kr h
  have hseq : ((s.shift ks kr).packet.getSequenceNumber = (s.shift ks kr).data.receiveSent - 1) =
      (s.packet.getSequenceNumber = s.data.receiveSent - 1) := by
    show ((s.packet.shift ks kr).getSequenceNumber = s.data.receiveSent + kr - 1) = _
    rw [getSequenceNumber_shift h, shift_eq_pred]
  unfold St.receiveSyn
  rw [show (s.shift ks kr).data.state = s.data.state from rfl]
  cases s.data.state with
  | CLOSED =>
    dsimp only
    unfold St.openSession
    rw [show (i.shift ks).connect = i.connect from rfl]
    cases i.connect with
    | returned res =>
      dsimp only
      rw [show (s.shift ks kr).packet.windowShift = s.packet.windowShift from rfl]
      split_ifs
      · exact hreset
      · exact openConnected_shift ks kr h IP_MSS i res
    | thrown => exact hreset
  | SYN_RECEIVED =>
    dsimp only
    simp only [ne_eq, hseq]
    split_ifs
    · rfl
    · exact hreset
  | SYN_ACK_SENT =>
    dsimp only
    simp only [ne_eq, hseq]
    split_ifs
    · exact congrArg (fun t : St => { t with data.state := .SYN_ACK_SENT })
        (sendSynAck_shift ks kr s)
    · exact hreset
  | ESTABLISHED => exact sendAck_shift ks kr s

theorem receiveReset_shift {s : St} (h : s.packet.header.isReceived = true) :
    (s.shift ks kr).receiveReset = s.receiveReset.shift ks kr := by
  have hwin : St.resetInWindow (s.shift ks kr).data (s.shift ks kr).packet =
      St.resetInWindow s.data s.packet := by
    unfold St.resetInWindow
    dsimp only
    rw [show (s.shift ks kr).packet.getSequenceNumber - (s.shift ks kr).data.receiveSent =
      s.packet.getSequenceNumber - s.data.receiveSent by
        show (s.packet.shift ks kr).getSequenceNumber - (s.data.receiveSent + kr) = _
        rw [getSequenceNumber_shift h, shift_dist]]
    rfl
  unfold St.receiveReset
  rw [hwin, show (s.shift ks kr).data.state = s.data.state from rfl]
  split_ifs
  · exact closeSession_shift ks kr s
  · rfl
  · rfl

theorem establish_shift (s : St) (i : ClientInput) :
    (s.shift ks kr).establish (i.shift ks) = (s.establish i).shift ks kr := by
  let d := Data.pushRTT { s.data with sendUnacknowledged := s.data.sendUnacknowledged + 1 }
    (s.data.lastTimeSentNewData - i.now)
  have hd : Data.pushRTT { s.data.shift ks kr with
      sendUnacknowledged := s.data.sendUnacknowledged + ks + 1 }
        (s.data.lastTimeSentNewData - i.now) = d.shift ks kr := by
    rw [shift_add]
    rfl
  have e := setIn_shift ks kr { s with data := { d with lastTimeAcceptedAcknowledgement := i.now } }
    .receiveSet
  unfold St.establish
  dsimp only
  show { St.setIn { s.shift ks kr with data := { Data.pushRTT { s.data.shift ks kr with
    sendUnacknowledged := s.data.sendUnacknowledged + ks + 1 }
      (s.data.lastTimeSentNewData - i.now) with lastTimeAcceptedAcknowledgement := i.now } }
        .receiveSet with data.state := .ESTABLISHED } = _
  rw [hd]
  exact congrArg (fun t : St => { t with data.state := .ESTABLISHED }) e

/-! ## segments in order -/

theorem ackOff_shift {p : Packet} (h : p.header.isReceived = true) (hack : p.isAck = true) (d : Data) :
    St.ackOff (d.shift ks kr) (p.shift ks kr) = St.ackOff d p := by
  unfold St.ackOff
  rw [getAcknowledgmentNumber_shift h hack]
  exact shift_dist _ _ ks

theorem acceptWindow_shift (s : St) (off : U32) (now : Int) :
    (s.shift ks kr).acceptWindow off now = (s.acceptWindow off now).shift ks kr := by
  unfold St.acceptWindow
  split_ifs <;> rfl

theorem advance_shift (s : St) (amt : U32) :
    (s.shift ks kr).advance amt = (s.advance amt).shift ks kr := by
  unfold St.advance
  split_ifs
  · let d := s.data
    let t : St := { s with data := { d with
      sendUnacknowledged := d.sendUnacknowledged + amt
      sendNextOffset := d.sendNextOffset - amt
      sendBuffer := d.sendBuffer.compact (d.sendBuffer.position - amt) } }
    have ht : { s.shift ks kr with data := { d.shift ks kr with
        sendUnacknowledged := d.sendUnacknowledged + ks + amt
        sendNextOffset := d.sendNextOffset - amt
        sendBuffer := d.sendBuffer.compact (d.sendBuffer.position - amt) } } = t.shift ks kr := by
      rw [shift_add]
      rfl
    show (St.emit { s.shift ks kr with data := { d.shift ks kr with
        sendUnacknowledged := d.sendUnacknowledged + ks + amt
        sendNextOffset := d.sendNextOffset - amt
        sendBuffer := d.sendBuffer.compact (d.sendBuffer.position - amt) } }
          (.acknowledged amt.toNat)).setIn .receiveSet = _
    rw [ht]
    have e := emit_shift ks kr t (.acknowledged amt.toNat)
    exact (congrArg (fun u : St => u.setIn .receiveSet) e).trans (setIn_shift ks kr _ .receiveSet)
  · rfl

theorem sampleRTT_shift (s : St) (now : Int) :
    (s.shift ks kr).sampleRTT now = (s.sampleRTT now).shift ks kr := by
  have hdist : s.data.sendUnacknowledged + ks + b32 s.data.flushToClientFinished -
      (s.data.rttTrackedSendSequence + ks) =
      s.data.sendUnacknowledged + b32 s.data.flushToClientFinished - s.data.rttTrackedSendSequence := by
    rw [shift_add, shift_dist]
  unfold St.sampleRTT
  dsimp only
  show (if s.data.rttTracking = true ∧ 0 ≤ s.data.sendUnacknowledged + ks +
    b32 s.data.flushToClientFinished - (s.data.rttTrackedSendSequence + ks) then _ else _) = _
  rw [hdist]
  split_ifs
  · rfl
  · rfl

theorem acceptAck_shift (s : St) (off : U32) (now : Int) :
    (s.shift ks kr).acceptAck off now = (s.acceptAck off now).shift ks kr := by
  unfold St.acceptAck
  rw [show (s.shift ks kr).data.sendNextOffset = s.data.sendNextOffset from rfl]
  split_ifs
  · have e := advance_shift ks kr { s with data.flushToClientFinished := true } (off - 1)
    rw [← sampleRTT_shift, ← e]
    rfl
  · rw [advance_shift, sampleRTT_shift]

theorem acceptBytes_shift (s : St) : (s.shift ks kr).acceptBytes = s.acceptBytes.shift ks kr := by
  unfold St.acceptBytes
  dsimp only
  rw [show St.acceptLength (s.shift ks kr).data (s.shift ks kr).packet =
    St.acceptLength s.data s.packet from rfl]
  split_ifs
  · let b := s.data.receiveBuffer.put (s.packet.payload.take (St.acceptLength s.data s.packet).toNat)
    exact setIn_shift ks kr { s with data.receiveBuffer := b } .sendSet
  · rfl

theorem acceptPayload_shift (s : St) (now : Int) :
    (s.shift ks kr).acceptPayload now = (s.acceptPayload now).shift ks kr := by
  have hfin := isFin_shift ks kr s.acceptBytes.packet
  unfold St.acceptPayload
  dsimp only
  rw [acceptBytes_shift, show (s.acceptBytes.shift ks kr).packet.isFin = s.acceptBytes.packet.isFin
    from hfin]
  show (if s.data.receiveFromClientFinished = true then _ else if s.acceptBytes.packet.isFin = true ∧
    St.acceptLength s.data s.packet = s.acceptBytes.packet.getTCPPayloadSize then _ else _) = _
  split_ifs
  · rfl
  · exact sendAck_shift ks kr { s.acceptBytes with data.receiveFromClientFinished := true }
  · exact acknowledgeDelayed_shift ks kr _ now

theorem acceptSegment_shift {s : St} (h : s.packet.header.isReceived = true)
    (hack : s.packet.isAck = true) (i : ClientInput) :
    (s.shift ks kr).acceptSegment (i.shift ks) = (s.acceptSegment i).shift ks kr := by
  unfold St.acceptSegment
  dsimp only
  rw [show St.ackOff (s.shift ks kr).data (s.shift ks kr).packet = St.ackOff s.data s.packet from
    ackOff_shift ks kr h hack s.data, show (i.shift ks).now = i.now from rfl, acceptWindow_shift]
  generalize s.acceptWindow (St.ackOff s.data s.packet) i.now = t
  show (if t.data.sendNextOffset < _ ∧ t.data.flushToServerFinished = true then _ else _) = _
  split_ifs
  · exact closeSession_shift ks kr t
  · rw [acceptAck_shift]
    exact acceptPayload_shift ks kr _ i.nowAcknowledge

theorem receiveAck_shift {s : St} (h : s.packet.header.isReceived = true)
    (hack : s.packet.isAck = true) (i : ClientInput) :
    (s.shift ks kr).receiveAck (i.shift ks) = (s.receiveAck i).shift ks kr := by
  have hreset := sendReset_shift ks kr h
  unfold St.receiveAck
  rw [show (s.shift ks kr).data.state = s.data.state from rfl]
  cases s.data.state with
  | SYN_ACK_SENT =>
    dsimp only
    rw [show (s.shift ks kr).packet.getSequenceNumber = s.packet.getSequenceNumber + kr from
        getSequenceNumber_shift h,
      show (s.shift ks kr).packet.getAcknowledgmentNumber = s.packet.getAcknowledgmentNumber + ks from
        getAcknowledgmentNumber_shift h hack,
      show (s.shift ks kr).data.receiveSent = s.data.receiveSent + kr from rfl,
      show (s.shift ks kr).data.sendUnacknowledged = s.data.sendUnacknowledged + ks from rfl]
    simp only [ne_eq, shift_eq]
    split_ifs
    · exact hreset
    · exact establish_shift ks kr s i
  | ESTABLISHED =>
    have horder : St.inOrder (s.shift ks kr).data (s.shift ks kr).packet =
        St.inOrder s.data s.packet := by
      show decide ((s.packet.shift ks kr).getSequenceNumber - (s.data.receiveSent + kr) = _) = _
      rw [getSequenceNumber_shift h, shift_dist]
      rfl
    have hrange : St.ackInRange (s.shift ks kr).data (s.shift ks kr).packet =
        St.ackInRange s.data s.packet := by
      show decide (St.ackOff (s.data.shift ks kr) (s.packet.shift ks kr) ≤ _) = _
      rw [ackOff_shift ks kr h hack]
      rfl
    dsimp only
    rw [horder, hrange]
    split_ifs
    · exact acceptSegment_shift ks kr h hack i
    · exact sendAck_shift ks kr s
    · exact sendAck_shift ks kr s
  | CLOSED => exact hreset
  | SYN_RECEIVED => exact hreset

theorem handlePacket_shift {s : St} (h : s.packet.header.isReceived = true) (IP_MSS : U16)
    (i : ClientInput) :
    (s.shift ks kr).handlePacket IP_MSS (i.shift ks) = (s.handlePacket IP_MSS i).shift ks kr := by
  unfold St.handlePacket
  rw [show (s.shift ks kr).packet.isSyn = s.packet.isSyn from isSyn_shift ks kr s.packet,
    show (s.shift ks kr).packet.isAck = s.packet.isAck from isAck_shift ks kr s.packet,
    show (s.shift ks kr).packet.isReset = s.packet.isReset from isReset_shift ks kr s.packet]
  split_ifs with hsyn hack hrst hack
  · exact sendReset_shift ks kr h
  · exact receiveSyn_shift ks kr h IP_MSS i
  · exact receiveReset_shift ks kr h
  · exact receiveAck_shift ks kr h hack i
  · exact sendReset_shift ks kr h

theorem receiveFromClient_shift (IP_MSS : U16) (s : St) (p : Incoming) (i : ClientInput) :
    (receiveFromClient IP_MSS (s.shift ks kr) (p.shift ks kr) (i.shift ks)).2 =
      (receiveFromClient IP_MSS s p i).2.shift ks kr := by
  let t : St := { s with packet := p.val }
  have ht : t.packet.header.isReceived = true := p.property
  have e := handlePacket_shift ks kr ht IP_MSS i
  unfold receiveFromClient
  rw [show canHandle (s.shift ks kr).data (p.shift ks kr) = canHandle s.data p from rfl]
  split_ifs
  · exact congrArg (fun u : St => { u with packet := s.packet.shift ks kr }) e
  · rfl

/-! ## from the server to the client -/

theorem readFromServer_shift (s : St) (r : RecvResult) :
    (s.shift ks kr).readFromServer r = (s.readFromServer r).shift ks kr := by
  have hun := unsetFrom_shift ks kr s .receiveSet
  unfold St.readFromServer
  cases r with
  | bytes bs =>
    dsimp only
    rw [show (s.shift ks kr).data.sendBuffer = s.data.sendBuffer from rfl, hun]
    have hemit : ∀ (t : St) (bs' : List Byte),
        St.emit { t.shift ks kr with data.sendBuffer := t.data.sendBuffer.put bs' } (.received bs') =
          (St.emit { t with data.sendBuffer := t.data.sendBuffer.put bs' }
            (.received bs')).shift ks kr := fun t bs' =>
      emit_shift ks kr { t with data.sendBuffer := t.data.sendBuffer.put bs' } (.received bs')
    split_ifs
    · exact hemit { s.unsetFrom .receiveSet with data.receiveFromServerFinished := true } _
    · exact hemit s _
  | wouldBlock => rfl
  | error =>
    dsimp only
    rw [hun]
    rfl

theorem sendSegment_shift (s : St) (mss : U16) (bound ack off : U32) :
    (s.shift ks kr).sendSegment mss bound (ack + kr) off =
      (s.sendSegment mss bound ack off).shift ks kr := by
  let amt := St.sendAmount mss bound off
  let p := (s.packet.makeNormal (s.data.sendUnacknowledged + off) ack).setTCPPayload
    (s.data.sendBuffer.as off (off + amt))
  have hp : ((s.packet.shift ks kr).makeNormal (s.data.sendUnacknowledged + ks + off)
      (ack + kr)).setTCPPayload (s.data.sendBuffer.as off (off + amt)) = p.shift ks kr := by
    rw [shift_add]
    rfl
  unfold St.sendSegment
  dsimp only
  show (if s.data.receiveFromServerFinished = true ∧ off + amt = s.data.sendBuffer.position then
    St.sendBack { s.shift ks kr with data.sentFinToClient := true } (Packet.setFinFlag
      (((s.packet.shift ks kr).makeNormal (s.data.sendUnacknowledged + ks + off)
        (ack + kr)).setTCPPayload (s.data.sendBuffer.as off (off + amt))) true)
    else (s.shift ks kr).sendBack (((s.packet.shift ks kr).makeNormal
      (s.data.sendUnacknowledged + ks + off) (ack + kr)).setTCPPayload
        (s.data.sendBuffer.as off (off + amt)))) = _
  rw [hp, setFinFlag_shift]
  split_ifs
  · exact sendBack_shift ks kr { s with data.sentFinToClient := true } (p.setFinFlag true)
  · exact sendBack_shift ks kr s p

theorem sendLoop_shift (mss : U16) (push : Bool) (bound ack : U32) (turns : Nat) (off : U32)
    (s : St) : St.sendLoop mss push bound (ack + kr) turns off (s.shift ks kr) =
      ((St.sendLoop mss push bound ack turns off s).1,
        (St.sendLoop mss push bound ack turns off s).2.shift ks kr) := by
  induction turns generalizing off s with
  | zero =>
    unfold St.sendLoop
    rw [show St.sendMore (s.shift ks kr).data mss push bound off =
      St.sendMore s.data mss push bound off from rfl]
    split_ifs
    · rfl
    · rfl
  | succ turns ih =>
    unfold St.sendLoop
    rw [show St.sendMore (s.shift ks kr).data mss push bound off =
      St.sendMore s.data mss push bound off from rfl]
    split_ifs
    · rw [sendSegment_shift]
      exact ih _ _
    · rfl

theorem sentUpTo_shift (s : St) (off : U32) (now : Int) :
    (s.shift ks kr).sentUpTo off now = (s.sentUpTo off now).shift ks kr := by
  unfold St.sentUpTo
  dsimp only
  rw [show (s.shift ks kr).data.sendNextOffset = s.data.sendNextOffset from rfl]
  generalize (if s.data.sendNextOffset < off then off else s.data.sendNextOffset) = newOff
  split_ifs <;> rfl

theorem sendDataStartingFrom_shift (s : St) (off : U32) (mss : U16) (push : Bool) (bound : U32)
    (now : Int) (turns : Nat) :
    (s.shift ks kr).sendDataStartingFrom off mss push bound now turns =
      (s.sendDataStartingFrom off mss push bound now turns).shift ks kr := by
  let t : St := { s with packet := s.packet.setWindow s.data.receiveBuffer.available }
  have hloop := sendLoop_shift ks kr mss push bound
    (s.data.receiveSent + s.data.receiveBuffer.position) turns off t
  rw [← shift_add] at hloop
  unfold St.sendDataStartingFrom
  dsimp only
  rw [show St.sendLoop mss push bound ((s.shift ks kr).data.receiveSent +
    (s.shift ks kr).data.receiveBuffer.position) turns off { s.shift ks kr with
      packet := (s.shift ks kr).packet.setWindow (s.shift ks kr).data.receiveBuffer.available } = _
    from hloop]
  dsimp only
  generalize St.sendLoop mss push bound _ turns off _ = r
  show (if r.2.hung = true then _ else _) = _
  split_ifs
  · rfl
  · exact sentUpTo_shift ks kr r.2 r.1 now

theorem trackRTT_shift (s : St) (now : Int) :
    (s.shift ks kr).trackRTT now = (s.trackRTT now).shift ks kr := by
  let d := { s.data with
    rttTracking := true
    rttTrackedSendSequence := s.data.sendUnacknowledged + s.data.sendNextOffset +
      b32 s.data.sentFinToClient
    rttSendTime := now }
  have hd : { s.data.shift ks kr with
      rttTracking := true
      rttTrackedSendSequence := s.data.sendUnacknowledged + ks + s.data.sendNextOffset +
        b32 s.data.sentFinToClient
      rttSendTime := now } = d.shift ks kr := by
    rw [shift_add_add]
    rfl
  unfold St.trackRTT
  rw [show (s.shift ks kr).data.rttTracking = s.data.rttTracking from rfl]
  split_ifs
  · rfl
  · exact congrArg (fun e : Data => { s.shift ks kr with data := e }) hd

theorem flushSegments_shift (s : St) (bound : U32) (now : Int) (turns : Nat) :
    (s.shift ks kr).flushSegments bound now turns = (s.flushSegments bound now turns).shift ks kr := by
  unfold St.flushSegments
  dsimp only
  rw [show St.resendDue (s.shift ks kr).data now = St.resendDue s.data now from rfl,
    show St.newDataDue (s.shift ks kr).data bound = St.newDataDue s.data bound from rfl,
    show (s.shift ks kr).data.mss = s.data.mss from rfl,
    show St.finNotAcknowledged (s.shift ks kr).data = St.finNotAcknowledged s.data from rfl,
    show (s.shift ks kr).data.sendNextOffset = s.data.sendNextOffset from rfl]
  simp only [sendDataStartingFrom_shift, trackRTT_shift]
  split_ifs <;> first | rfl | contradiction

theorem flushRest_shift (s : St) (bound : U32) (finNotSent : Bool) (now : Int) (turns : Nat) :
    (s.shift ks kr).flushRest bound finNotSent now turns =
      (s.flushRest bound finNotSent now turns).shift ks kr := by
  unfold St.flushRest
  rw [show St.pushDue (s.shift ks kr).data bound finNotSent now = St.pushDue s.data bound finNotSent now
      from rfl, show (s.shift ks kr).data.mss = s.data.mss from rfl,
    show (s.shift ks kr).data.sendNextOffset = s.data.sendNextOffset from rfl,
    sendDataStartingFrom_shift]
  split_ifs <;> rfl

theorem probe_shift (s : St) (now : Int) : (s.shift ks kr).probe now = (s.probe now).shift ks kr := by
  let t : St := { s with data.sendRetryCount := s.data.sendRetryCount + 1 }
  have e := sendBack_shift ks kr t ((s.packet.makeNormal
    (s.data.sendUnacknowledged + s.data.sendNextOffset)
    (s.data.receiveSent + s.data.receiveBuffer.position)).setWindow s.data.receiveBuffer.available)
  unfold St.probe
  rw [show St.probeDue (s.shift ks kr).data now = St.probeDue s.data now from rfl]
  split_ifs
  · show (t.shift ks kr).sendBack (((s.packet.shift ks kr).makeNormal
      (s.data.sendUnacknowledged + ks + s.data.sendNextOffset)
      (s.data.receiveSent + kr + s.data.receiveBuffer.position)).setWindow
        s.data.receiveBuffer.available) = _
    rw [shift_add s.data.sendUnacknowledged, shift_add s.data.receiveSent]
    exact e
  · rfl

theorem flushDataToClient_shift (s : St) (now : Int) (turns : Nat) :
    (s.shift ks kr).flushDataToClient now turns = (s.flushDataToClient now turns).shift ks kr := by
  unfold St.flushDataToClient
  dsimp only
  rw [show St.sendBound (s.shift ks kr).data = St.sendBound s.data from rfl,
    show St.finNotSent (s.shift ks kr).data = St.finNotSent s.data from rfl, flushSegments_shift,
    flushRest_shift, probe_shift]
  show (if s.data.state ≠ .ESTABLISHED ∨ s.data.flushToClientFinished = true then _ else
    if (s.flushSegments _ now turns).hung = true then _ else
      if ((s.flushSegments _ now turns).flushRest _ _ now turns).hung = true then _ else _) = _
  split_ifs <;> rfl

theorem receiveFromServer_shift (s : St) (r : RecvResult) (now : Int) (turns : Nat) :
    (s.shift ks kr).receiveFromServer r now turns =
      (s.receiveFromServer r now turns).shift ks kr := by
  unfold St.receiveFromServer
  dsimp only
  rw [readFromServer_shift, flushDataToClient_shift, unsetFrom_shift]
  generalize (s.readFromServer r).flushDataToClient now turns = t
  show (if s.data.state ≠ .ESTABLISHED ∨ s.data.receiveFromServerFinished = true then _ else
    if t.hung = true then _ else if t.data.sendBuffer.available = 0 then _ else _) = _
  split_ifs <;> rfl

/-! ## from the client to the server -/

theorem resetClient_shift (s : St) : (s.shift ks kr).resetClient = s.resetClient.shift ks kr := by
  have e := sendBack_shift ks kr s (St.setEnds s.data
    (s.packet.makeResetSeq (s.data.sendUnacknowledged + s.data.sendNextOffset)))
  unfold St.resetClient
  dsimp only
  rw [← closeSession_shift, ← e]
  show St.closeSession ((s.shift ks kr).sendBack (St.setEnds s.data
    ((s.packet.shift ks kr).makeResetSeq (s.data.sendUnacknowledged + ks + s.data.sendNextOffset)))) = _
  rw [shift_add]
  rfl

theorem finishConnect_shift (s : St) (lastError now now' : Int) :
    (s.shift ks kr).finishConnect lastError now now' =
      (s.finishConnect lastError now now').shift ks kr := by
  have hsyn := sendBack_shift ks kr s
    ((St.setEnds s.data s.packet).makeSyn s.data.sendUnacknowledged s.data.receiveSent)
  have hrst := sendBack_shift ks kr s
    ((St.setEnds s.data s.packet).makeResetAck s.data.receiveSent)
  unfold St.finishConnect
  dsimp only
  rw [show (s.shift ks kr).data.lastTimeSentNewData = s.data.lastTimeSentNewData from rfl]
  split_ifs
  · rfl
  · rw [← unsetFrom_shift]
    exact congrArg (fun t : St => St.unsetFrom { t with
      data.lastTimeSentNewData := now', data.state := .SYN_ACK_SENT } .sendSet) hsyn
  · rw [← closeSession_shift]
    exact congrArg St.closeSession hrst

theorem finishSend_shift (s : St) (amt : U32) :
    (s.shift ks kr).finishSend amt = (s.finishSend amt).shift ks kr := by
  have hun := unsetFrom_shift ks kr s .sendSet
  unfold St.finishSend
  dsimp only
  rw [hun]
  generalize s.unsetFrom .sendSet = t
  show (if amt = s.data.receiveBuffer.position then
    if t.data.receiveFromClientFinished = true then
      if t.data.flushToClientFinished = true then _ else _ else _ else _) = _
  split_ifs
  · exact closeSession_shift ks kr t
  · have e := emit_shift ks kr t .shutdownWrite
    exact congrArg (fun u : St => { u with data.flushToServerFinished := true }) e
  · rfl
  · rfl

theorem sendToServer_shift (s : St) (r : SendResult) :
    (s.shift ks kr).sendToServer r = (s.sendToServer r).shift ks kr := by
  have hsend : ∀ bs amt, ((s.shift ks kr).emit (.sent bs)).finishSend amt =
      ((s.emit (.sent bs)).finishSend amt).shift ks kr := by
    intro bs amt
    rw [← finishSend_shift, ← emit_shift]
    rfl
  unfold St.sendToServer
  cases r with
  | error => exact resetClient_shift ks kr s
  | accepted n => exact hsend _ _
  | wouldBlock => exact hsend _ _

theorem flushDataToServer_shift (s : St) (lastError : Int) (r : SendResult) (now now' : Int) :
    (s.shift ks kr).flushDataToServer lastError r now now' =
      (s.flushDataToServer lastError r now now').shift ks kr := by
  unfold St.flushDataToServer
  rw [finishConnect_shift, sendToServer_shift]
  show (if s.data.state = .SYN_RECEIVED then _ else
    if s.data.state ≠ .ESTABLISHED ∨ s.data.flushToServerFinished = true then _ else _) = _
  split_ifs <;> rfl

/-! ## timeouts -/

theorem checkStatus_shift (s : St) (now now' : Int) :
    (s.shift ks kr).checkStatus now now' =
      ((s.checkStatus now now').1, (s.checkStatus now now').2.shift ks kr) := by
  have hack : (s.shift ks kr).checkAcknowledged now' =
      ((s.checkAcknowledged now').1, (s.checkAcknowledged now').2.shift ks kr) := by
    unfold St.checkAcknowledged
    dsimp only
    rw [closeSession_shift]
    show (if now' - s.data.lastTimeAcceptedAcknowledgement > (if s.data.flushToClientFinished = true
      then NO_PROBING_TIMEOUT else ms (s.data.getIntervalToNextProbe + s.data.getMeanRTT * 2))
        then _ else _) = _
    generalize (if s.data.flushToClientFinished = true then NO_PROBING_TIMEOUT
      else ms (s.data.getIntervalToNextProbe + s.data.getMeanRTT * 2)) = limit
    split_ifs <;> rfl
  unfold St.checkStatus
  rw [show (s.shift ks kr).data.state = s.data.state from rfl]
  cases s.data.state with
  | CLOSED => rfl
  | SYN_RECEIVED => rfl
  | SYN_ACK_SENT =>
    dsimp only
    rw [closeSession_shift, hack]
    show (if now - s.data.lastTimeSentNewData > SYN_TIMEOUT then _ else _) = _
    split_ifs <;> rfl
  | ESTABLISHED => exact hack

/-! ## calls and runs -/

/-- **A call on shifted numbers is the shifted call.** -/
theorem step_shift (IP_MSS : U16) (s : St) (op : Op) :
    step IP_MSS (s.shift ks kr) (op.shift ks kr) = (step IP_MSS s op).shift ks kr := by
  unfold step
  rw [show (s.shift ks kr).hung = s.hung from rfl]
  split_ifs
  · rfl
  · cases op with
    | receiveFromClient p i => exact receiveFromClient_shift ks kr IP_MSS s p i
    | receiveFromServer r now turns => exact receiveFromServer_shift ks kr s r now turns
    | flushDataToServer lastError r now now' =>
      exact flushDataToServer_shift ks kr s lastError r now now'
    | flushDataToClient now turns => exact flushDataToClient_shift ks kr s now turns
    | onSocketError => exact resetClient_shift ks kr s
    | checkStatus now now' => exact congrArg Prod.snd (checkStatus_shift ks kr s now now')
    | closeSession => exact closeSession_shift ks kr s

/-- **Translation invariance of the sequence numbers.**  Every call and every run on shifted numbers
reaches the shifted state, and emits the shifted segments. -/
theorem run_shift (IP_MSS : U16) (s : St) (ops : List Op) :
    run (step IP_MSS) (s.shift ks kr) (ops.map (Op.shift ks kr)) =
      (run (step IP_MSS) s ops).shift ks kr :=
  run_sim (fun s t : St => t = s.shift ks kr) (fun s t op h => by rw [h, step_shift]) rfl ops

end

end TunServer.Sessions2
