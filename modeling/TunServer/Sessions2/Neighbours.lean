import TunServer.Session.Integrity
import TunServer.Session.Neighbours
import TunServer.Sessions2.Readiness

/-!
# What a session reads of what it shares

The descriptor sets are written by the sessions and never read by them.  The clock of
`acknowledgeDelayed`, a static variable, is read there, and only there.

* `Like`          two states that differ in `Shared` only;
* `Like.…`        every call keeps them alike, one that asks the clock if it gets the same answer;
* `call`          a call of one of any number of sessions;
* `asksClock`     what it reads of what they share, and `call_readsOnly` that this is all;
* `segments_own`  so the others matter to a session by the clock alone, in both classes.
-/

set_option linter.unusedVariables false

namespace TunServer.Sessions2

/-- the state `s'` is `s` with other descriptor sets and another clock -/
def Like (s s' : St) : Prop := ∃ x, s' = { s with shared := x }

theorem like_shared (s : St) (x : Shared) : Like s { s with shared := x } := ⟨x, rfl⟩

section
variable {s s' t t' : St}

theorem Like.ite {c : Prop} [Decidable c] (h : c → Like s s') (h' : ¬ c → Like t t') :
    Like (if c then s else t) (if c then s' else t') := ite_rel Iff.rfl h h'

theorem Like.data (h : Like s s') : s'.data = s.data := by
  obtain ⟨x, rfl⟩ := h
  rfl

theorem Like.packet (h : Like s s') : s'.packet = s.packet := by
  obtain ⟨x, rfl⟩ := h
  rfl

theorem Like.hung (h : Like s s') : s'.hung = s.hung := by
  obtain ⟨x, rfl⟩ := h
  rfl

theorem Like.log (h : Like s s') : s'.log = s.log := by
  obtain ⟨x, rfl⟩ := h
  rfl

/-! ## the parts -/

theorem Like.setIn (h : Like s s') (k : FdSets) : Like (s.setIn k) (s'.setIn k) := by
  obtain ⟨x, rfl⟩ := h
  unfold St.setIn
  cases s.data.socket with
  | some fd => exact ⟨_, rfl⟩
  | none => exact ⟨x, rfl⟩

theorem Like.unsetFrom (h : Like s s') (k : FdSets) : Like (s.unsetFrom k) (s'.unsetFrom k) := by
  obtain ⟨x, rfl⟩ := h
  unfold St.unsetFrom
  cases s.data.socket with
  | some fd => exact ⟨_, rfl⟩
  | none => exact ⟨x, rfl⟩

theorem Like.setData (h : Like s s') (g : Data → Data) :
    Like { s with data := g s.data } { s' with data := g s'.data } := by
  obtain ⟨x, rfl⟩ := h
  exact ⟨x, rfl⟩

theorem Like.setPacket (h : Like s s') (p : Packet) :
    Like { s with packet := p } { s' with packet := p } := by
  obtain ⟨x, rfl⟩ := h
  exact ⟨x, rfl⟩

theorem Like.emit (h : Like s s') (e : Event) : Like (s.emit e) (s'.emit e) := by
  obtain ⟨x, rfl⟩ := h
  exact ⟨x, rfl⟩

theorem Like.sendBack (h : Like s s') (p : Packet) : Like (s.sendBack p) (s'.sendBack p) := by
  obtain ⟨x, rfl⟩ := h
  exact ⟨x, rfl⟩

theorem Like.closeSession (h : Like s s') : Like s.closeSession s'.closeSession := by
  have h1 := ((h.unsetFrom .receiveSet).unsetFrom .sendSet).unsetFrom .errorSet
  exact (h1.setData fun d => { d with state := .CLOSED, socket := none }).emit .onSocketClose

/-! ## answers to a packet -/

theorem Like.sendReset (h : Like s s') : Like s.sendReset s'.sendReset := by
  unfold St.sendReset
  rw [h.packet]
  exact .ite (fun _ => h.sendBack _) (fun _ => h.sendBack _)

theorem Like.sendAck (h : Like s s') : Like s.sendAck s'.sendAck := by
  unfold St.sendAck
  rw [h.packet, h.data]
  exact h.sendBack _

theorem Like.sendSynAck (h : Like s s') : Like s.sendSynAck s'.sendSynAck := by
  unfold St.sendSynAck
  rw [h.packet, h.data]
  exact h.sendBack _

theorem Like.openConnected (h : Like s s') (IP_MSS : U16) (i : ClientInput) (res : Int) :
    Like (s.openConnected IP_MSS i res) (s'.openConnected IP_MSS i res) := by
  obtain ⟨x, rfl⟩ := h
  unfold St.openConnected
  have h1 := ((like_shared s x).setData fun d => St.opened d IP_MSS s.packet i).setIn .errorSet
  refine .ite (fun _ => ?_) (fun _ => ?_)
  · have h2 := (h1.setData fun d => { d with lastTimeSentNewData := i.now }).sendSynAck
    exact h2.setData fun d => { d with state := .SYN_ACK_SENT }
  · exact (h1.setData fun d => { d with state := .SYN_RECEIVED }).setIn .sendSet

theorem Like.openSession (h : Like s s') (IP_MSS : U16) (i : ClientInput) :
    Like (s.openSession IP_MSS i) (s'.openSession IP_MSS i) := by
  unfold St.openSession
  rw [h.packet]
  cases i.connect with
  | returned res => exact .ite (fun _ => h.sendReset) (fun _ => h.openConnected IP_MSS i res)
  | thrown => exact h.sendReset

theorem Like.receiveSyn (h : Like s s') (IP_MSS : U16) (i : ClientInput) :
    Like (s.receiveSyn IP_MSS i) (s'.receiveSyn IP_MSS i) := by
  unfold St.receiveSyn
  rw [h.packet, h.data]
  cases s.data.state with
  | CLOSED => exact h.openSession IP_MSS i
  | SYN_RECEIVED => exact .ite (fun _ => h.sendReset) (fun _ => h)
  | SYN_ACK_SENT =>
    exact .ite (fun _ => h.sendReset)
      (fun _ => h.sendSynAck.setData fun d => { d with state := .SYN_ACK_SENT })
  | ESTABLISHED => exact h.sendAck

theorem Like.receiveReset (h : Like s s') : Like s.receiveReset s'.receiveReset := by
  unfold St.receiveReset
  rw [h.packet, h.data]
  exact .ite (fun _ => .ite (fun _ => h.closeSession) (fun _ => h)) (fun _ => h)

theorem Like.establish (h : Like s s') (i : ClientInput) : Like (s.establish i) (s'.establish i) := by
  have h1 := h.setData fun d =>
    { ({ d with sendUnacknowledged := d.sendUnacknowledged + 1 } : Data).pushRTT
        (d.lastTimeSentNewData - i.now) with
      lastTimeAcceptedAcknowledgement := i.now }
  exact (h1.setIn .receiveSet).setData fun d => { d with state := .ESTABLISHED }

/-! ## a segment -/

theorem Like.acceptWindow (h : Like s s') (off : U32) (now : Int) :
    Like (s.acceptWindow off now) (s'.acceptWindow off now) := by
  obtain ⟨x, rfl⟩ := h
  unfold St.acceptWindow
  exact .ite (fun _ => ⟨x, rfl⟩) (fun _ => ⟨x, rfl⟩)

theorem Like.advance (h : Like s s') (amt : U32) : Like (s.advance amt) (s'.advance amt) := by
  unfold St.advance
  refine .ite (fun _ => ?_) (fun _ => h)
  have h1 := h.setData fun d => { d with
    sendUnacknowledged := d.sendUnacknowledged + amt
    sendNextOffset := d.sendNextOffset - amt
    sendBuffer := d.sendBuffer.compact (d.sendBuffer.position - amt) }
  exact (h1.emit _).setIn .receiveSet

theorem Like.sampleRTT (h : Like s s') (now : Int) : Like (s.sampleRTT now) (s'.sampleRTT now) := by
  obtain ⟨x, rfl⟩ := h
  unfold St.sampleRTT
  exact .ite (fun _ => ⟨x, rfl⟩) (fun _ => ⟨x, rfl⟩)

theorem Like.acceptAck (h : Like s s') (off : U32) (now : Int) :
    Like (s.acceptAck off now) (s'.acceptAck off now) := by
  obtain ⟨x, rfl⟩ := h
  have h1 := like_shared s x
  unfold St.acceptAck
  refine .ite (fun _ => Like.sampleRTT (Like.advance ?_ _) now) (fun _ => (h1.advance off).sampleRTT now)
  exact ⟨x, rfl⟩

theorem Like.acceptBytes (h : Like s s') : Like s.acceptBytes s'.acceptBytes := by
  obtain ⟨x, rfl⟩ := h
  unfold St.acceptBytes
  refine .ite (fun _ => Like.setIn ?_ .sendSet) (fun _ => ⟨x, rfl⟩)
  exact ⟨x, rfl⟩

/-! ## the clock -/

/-- the clock of `acknowledgeDelayed` -/
def St.clock (s : St) : Int := s.shared.lastTimeSentAcknowledge

theorem setIn_clock (s : St) (k : FdSets) : (s.setIn k).clock = s.clock := by
  unfold St.setIn
  cases s.data.socket with
  | some fd => rfl
  | none => rfl

theorem acceptWindow_clock (s : St) (off : U32) (now : Int) : (s.acceptWindow off now).clock = s.clock := by
  unfold St.acceptWindow
  split_ifs
  · rfl
  · rfl

theorem advance_clock (s : St) (amt : U32) : (s.advance amt).clock = s.clock := by
  unfold St.advance
  dsimp only
  split_ifs
  · rw [setIn_clock]
    rfl
  · rfl

theorem sampleRTT_clock (s : St) (now : Int) : (s.sampleRTT now).clock = s.clock := by
  unfold St.sampleRTT
  dsimp only
  split_ifs
  · rfl
  · rfl

theorem acceptAck_clock (s : St) (off : U32) (now : Int) : (s.acceptAck off now).clock = s.clock := by
  unfold St.acceptAck
  split_ifs
  · rw [sampleRTT_clock, advance_clock]
    rfl
  · rw [sampleRTT_clock, advance_clock]

theorem acceptBytes_clock (s : St) : s.acceptBytes.clock = s.clock := by
  unfold St.acceptBytes
  dsimp only
  split_ifs
  · rw [setIn_clock]
    rfl
  · rfl

/-- whether the clock lets an acknowledgement pass -/
def clockTest (now clock : Int) : Bool := now - clock > ACKNOWLEDGE_DELAY

theorem Like.acknowledgeDelayed (h : Like s s') {now : Int}
    (htest : clockTest now s'.clock = clockTest now s.clock) :
    Like (s.acknowledgeDelayed now) (s'.acknowledgeDelayed now) := by
  unfold clockTest St.clock at htest
  rw [decide_eq_decide] at htest
  unfold St.acknowledgeDelayed
  rw [h.packet, h.data]
  by_cases hc : now - s.shared.lastTimeSentAcknowledge > ACKNOWLEDGE_DELAY
  · rw [if_pos hc, if_pos (htest.mpr hc)]
    obtain ⟨x, rfl⟩ := h
    exact ⟨_, rfl⟩
  · rw [if_neg hc, if_neg (fun hc' => hc (htest.mp hc'))]
    exact h

/-- whether `acceptPayload` gets as far as `acknowledgeDelayed` -/
def payloadAsks (d : Data) (p : Packet) : Bool :=
  ¬ d.receiveFromClientFinished ∧ ¬ (p.isFin ∧ St.acceptLength d p = p.getTCPPayloadSize)

theorem Like.acceptPayload (h : Like s s') {now : Int}
    (htest : payloadAsks s.data s.packet = true → clockTest now s'.clock = clockTest now s.clock) :
    Like (s.acceptPayload now) (s'.acceptPayload now) := by
  have hb := h.acceptBytes
  have hpacket : s.acceptBytes.packet = s.packet := by
    unfold St.acceptBytes
    dsimp only
    split_ifs
    · rw [St.setIn_packet]
    · rfl
  unfold St.acceptPayload
  dsimp only
  rw [h.data, hb.packet, hpacket, h.packet]
  by_cases hf : s.data.receiveFromClientFinished = true
  · rw [if_pos hf, if_pos hf]
    exact h
  · rw [if_neg hf, if_neg hf]
    by_cases hfin : s.packet.isFin = true ∧ St.acceptLength s.data s.packet = s.packet.getTCPPayloadSize
    · rw [if_pos hfin, if_pos hfin]
      have h1 := hb.setData fun d => { d with receiveFromClientFinished := true }
      rw [hb.packet, hpacket] at h1
      exact h1.sendAck
    · rw [if_neg hfin, if_neg hfin]
      refine hb.acknowledgeDelayed ?_
      rw [acceptBytes_clock, acceptBytes_clock]
      exact htest (by unfold payloadAsks; simp only [hf, hfin]; rfl)

/-- whether `acceptSegment` gets as far as `acknowledgeDelayed` -/
def segmentAsks (d : Data) (p : Packet) : Bool :=
  ¬ (d.sendNextOffset < St.ackOff d p ∧ d.flushToServerFinished) ∧ payloadAsks d p

/-- the state in which the payload of a segment that does not close the session is taken in -/
def beforePayload (s : St) (i : ClientInput) : St :=
  (s.acceptWindow (St.ackOff s.data s.packet) i.now).acceptAck (St.ackOff s.data s.packet) i.now

theorem beforePayload_clock (s : St) (i : ClientInput) : (beforePayload s i).clock = s.clock :=
  (acceptAck_clock _ _ _).trans (acceptWindow_clock _ _ _)

theorem beforePayload_ack (s : St) (i : ClientInput) : AckStep s (beforePayload s i) :=
  (acceptWindow_ack s _ i.now).trans (acceptAck_ack _ _ i.now)

/-- what is asked of the payload there is asked of the segment -/
theorem beforePayload_asks {s : St} {i : ClientInput} (hc : ¬ closes s.data s.packet)
    (hasks : payloadAsks (beforePayload s i).data (beforePayload s i).packet = true) :
    segmentAsks s.data s.packet = true := by
  have hk := beforePayload_ack s i
  refine decide_eq_true ⟨hc, ?_⟩
  unfold payloadAsks St.acceptLength at hasks ⊢
  rw [hk.up.receiveFromClientFinished, hk.packet, hk.up.receiveBuffer] at hasks
  exact hasks

/-- what a segment enters in the log, but for the answer to its payload -/
theorem acceptSegment_log {P : Event → Prop} {s : St} {i : ClientInput} (hev : ∀ e, AckEvent e → P e)
    (hclose : P .onSocketClose) (hpayload : ¬ closes s.data s.packet →
      Adds P (beforePayload s i).log ((beforePayload s i).acceptPayload i.nowAcknowledge).log) :
    Adds P s.log (s.acceptSegment i).log := by
  by_cases hc : closes s.data s.packet
  · have hk := acceptWindow_ack s (St.ackOff s.data s.packet) i.now
    rw [acceptSegment_closes i hc, St.closeSession_log]
    exact (hk.log.mono hev).trans (Adds.one _ hclose)
  · rw [acceptSegment_open i hc]
    exact ((beforePayload_ack s i).log.mono hev).trans (hpayload hc)

theorem Like.acceptSegment (h : Like s s') (i : ClientInput)
    (htest : segmentAsks s.data s.packet = true →
      clockTest i.nowAcknowledge s'.clock = clockTest i.nowAcknowledge s.clock) :
    Like (s.acceptSegment i) (s'.acceptSegment i) := by
  have hw := h.acceptWindow (St.ackOff s.data s.packet) i.now
  have ha := hw.acceptAck (St.ackOff s.data s.packet) i.now
  by_cases hc : closes s.data s.packet
  · have hc' : closes s'.data s'.packet := by
      rw [h.data, h.packet]
      exact hc
    rw [acceptSegment_closes i hc, acceptSegment_closes i hc', h.data, h.packet]
    exact hw.closeSession
  · have hc' : ¬ closes s'.data s'.packet := by
      rw [h.data, h.packet]
      exact hc
    rw [acceptSegment_open i hc, acceptSegment_open i hc', h.data, h.packet]
    refine ha.acceptPayload fun hasks => ?_
    rw [acceptAck_clock, acceptAck_clock, acceptWindow_clock, acceptWindow_clock]
    exact htest (beforePayload_asks hc hasks)

/-! ## a packet -/

/-- whether a packet gets as far as `acknowledgeDelayed` -/
def packetAsks (d : Data) (p : Packet) : Bool :=
  canHandle d p ∧ d.state = .ESTABLISHED ∧ ¬ p.isSyn ∧ ¬ p.isReset ∧ p.isAck ∧ St.inOrder d p ∧
    St.ackInRange d p ∧ segmentAsks d p

theorem Like.receiveAck (h : Like s s') (i : ClientInput)
    (htest : s.data.state = .ESTABLISHED → St.inOrder s.data s.packet = true →
      St.ackInRange s.data s.packet = true → segmentAsks s.data s.packet = true →
      clockTest i.nowAcknowledge s'.clock = clockTest i.nowAcknowledge s.clock) :
    Like (s.receiveAck i) (s'.receiveAck i) := by
  unfold St.receiveAck
  rw [h.data, h.packet]
  cases hs : s.data.state with
  | CLOSED => exact h.sendReset
  | SYN_RECEIVED => exact h.sendReset
  | SYN_ACK_SENT => exact .ite (fun _ => h.sendReset) (fun _ => h.establish i)
  | ESTABLISHED =>
    refine .ite (fun _ => h.sendAck) (fun hseq => .ite (fun _ => h.sendAck) (fun hrange => ?_))
    exact h.acceptSegment i (htest hs (not_not.mp hseq) (not_not.mp hrange))

theorem Like.receiveFromClient (h : Like s s') (IP_MSS : U16) (p : Packet) (i : ClientInput)
    (htest : packetAsks s.data p = true →
      clockTest i.nowAcknowledge s'.clock = clockTest i.nowAcknowledge s.clock) :
    Like (receiveFromClient IP_MSS s p i).2 (receiveFromClient IP_MSS s' p i).2 := by
  have h1 := h.setPacket p
  unfold Sessions2.receiveFromClient
  rw [h.data, h.packet]
  by_cases hcan : canHandle s.data p = true
  · rw [if_pos hcan, if_pos hcan]
    refine Like.setPacket ?_ s.packet
    rw [h.data] at h1
    unfold St.handlePacket
    refine .ite (fun _ => .ite (fun _ => h1.sendReset) (fun _ => h1.receiveSyn IP_MSS i))
      (fun hsyn => .ite (fun _ => h1.receiveReset) (fun hrst => .ite (fun hack => ?_)
        (fun _ => h1.sendReset)))
    refine h1.receiveAck i fun hs hseq hrange hasks => htest ?_
    exact decide_eq_true ⟨hcan, hs, hsyn, hrst, hack, hseq, hrange, hasks⟩
  · rw [if_neg hcan, if_neg hcan]
    exact h

/-! ## the other calls -/

theorem Like.readFromServer (h : Like s s') (r : RecvResult) :
    Like (s.readFromServer r) (s'.readFromServer r) := by
  have hend := (h.unsetFrom .receiveSet).setData fun d => { d with receiveFromServerFinished := true }
  unfold St.readFromServer
  cases r with
  | bytes bs =>
    dsimp only
    rw [h.data]
    refine Like.emit ?_ _
    split_ifs
    · exact hend.setData fun d => { d with
        sendBuffer := d.sendBuffer.put (bs.take s.data.sendBuffer.available.toNat) }
    · exact h.setData fun d => { d with
        sendBuffer := d.sendBuffer.put (bs.take s.data.sendBuffer.available.toNat) }
  | wouldBlock => exact h
  | error => exact hend

theorem Like.sendSegment (h : Like s s') (mss : U16) (bound ack off : U32) :
    Like (s.sendSegment mss bound ack off) (s'.sendSegment mss bound ack off) := by
  obtain ⟨x, rfl⟩ := h
  unfold St.sendSegment
  refine .ite (fun _ => Like.sendBack ?_ _) (fun _ => Like.sendBack ⟨x, rfl⟩ _)
  exact ⟨x, rfl⟩

theorem Like.sendLoop (h : Like s s') (mss : U16) (push : Bool) (bound ack : U32) (turns : Nat)
    (off : U32) :
    (St.sendLoop mss push bound ack turns off s').1 = (St.sendLoop mss push bound ack turns off s).1 ∧
    Like (St.sendLoop mss push bound ack turns off s).2
      (St.sendLoop mss push bound ack turns off s').2 := by
  induction turns generalizing off s s' with
  | zero =>
    unfold St.sendLoop
    rw [h.data]
    refine ⟨rfl, .ite (fun _ => ?_) (fun _ => h)⟩
    obtain ⟨x, rfl⟩ := h
    exact ⟨x, rfl⟩
  | succ turns ih =>
    unfold St.sendLoop
    rw [h.data]
    split_ifs
    · exact ih (h.sendSegment mss bound ack off) _
    · exact ⟨rfl, h⟩

theorem Like.sentUpTo (h : Like s s') (off : U32) (now : Int) :
    Like (s.sentUpTo off now) (s'.sentUpTo off now) := by
  obtain ⟨x, rfl⟩ := h
  unfold St.sentUpTo
  exact .ite (fun _ => ⟨x, rfl⟩) (fun _ => ⟨x, rfl⟩)

theorem Like.sendData (h : Like s s') (off : U32) (mss : U16) (push : Bool) (bound : U32)
    (now : Int) (turns : Nat) : Like (s.sendDataStartingFrom off mss push bound now turns)
      (s'.sendDataStartingFrom off mss push bound now turns) := by
  have h1 := h.setPacket (s.packet.setWindow s.data.receiveBuffer.available)
  obtain ⟨h2, h3⟩ := h1.sendLoop mss push bound (s.data.receiveSent + s.data.receiveBuffer.position)
    turns off
  have h4 := h3.hung
  obtain ⟨x, rfl⟩ := h
  unfold St.sendDataStartingFrom
  dsimp only at h2 h3 h4 ⊢
  rw [h2, h4]
  exact .ite (fun _ => h3) (fun _ => h3.sentUpTo _ _)

theorem Like.trackRTT (h : Like s s') (now : Int) : Like (s.trackRTT now) (s'.trackRTT now) := by
  obtain ⟨x, rfl⟩ := h
  unfold St.trackRTT
  exact .ite (fun _ => ⟨x, rfl⟩) (fun _ => ⟨x, rfl⟩)

theorem Like.flushSegments (h : Like s s') (bound : U32) (now : Int) (turns : Nat) :
    Like (s.flushSegments bound now turns) (s'.flushSegments bound now turns) := by
  have hnew := h.sendData s.data.sendNextOffset s.data.mss false bound now (turns + 1)
  unfold St.flushSegments
  dsimp only
  rw [h.data, hnew.hung]
  exact .ite (fun _ => h.sendData _ _ _ _ _ _)
    (fun _ => .ite (fun _ => .ite (fun _ => hnew) (fun _ => hnew.trackRTT now)) (fun _ => h))

theorem Like.flushRest (h : Like s s') (bound : U32) (fin : Bool) (now : Int) (turns : Nat) :
    Like (s.flushRest bound fin now turns) (s'.flushRest bound fin now turns) := by
  unfold St.flushRest
  rw [h.data]
  exact .ite (fun _ => h.sendData _ _ _ _ _ _) (fun _ => h)

theorem Like.probe (h : Like s s') (now : Int) : Like (s.probe now) (s'.probe now) := by
  obtain ⟨x, rfl⟩ := h
  unfold St.probe
  refine .ite (fun _ => Like.sendBack ?_ _) (fun _ => ⟨x, rfl⟩)
  exact ⟨x, rfl⟩

theorem Like.flush (h : Like s s') (now : Int) (turns : Nat) :
    Like (s.flushDataToClient now turns) (s'.flushDataToClient now turns) := by
  have h1 := h.flushSegments (St.sendBound s.data) now turns
  have h2 := h1.flushRest (St.sendBound s.data) (St.finNotSent s.data) now turns
  unfold St.flushDataToClient
  dsimp only
  rw [h.data, h1.hung, h2.hung]
  exact .ite (fun _ => h) (fun _ => .ite (fun _ => h1) (fun _ => .ite (fun _ => h2)
    (fun _ => h2.probe now)))

theorem Like.server (h : Like s s') (r : RecvResult) (now : Int) (turns : Nat) :
    Like (s.receiveFromServer r now turns) (s'.receiveFromServer r now turns) := by
  have h1 := (h.readFromServer r).flush now turns
  unfold St.receiveFromServer
  dsimp only
  rw [h.data, h1.hung, h1.data]
  exact .ite (fun _ => h) (fun _ => .ite (fun _ => h1)
    (fun _ => .ite (fun _ => h1.unsetFrom .receiveSet) (fun _ => h1)))

theorem Like.resetClient (h : Like s s') : Like s.resetClient s'.resetClient := by
  unfold St.resetClient
  rw [h.data, h.packet]
  exact (h.sendBack _).closeSession

theorem Like.finishConnect (h : Like s s') (lastError : Int) (now now' : Int) :
    Like (s.finishConnect lastError now now') (s'.finishConnect lastError now now') := by
  obtain ⟨x, rfl⟩ := h
  unfold St.finishConnect
  refine .ite (fun _ => .ite (fun _ => ⟨x, rfl⟩) (fun _ => Like.unsetFrom ?_ _))
    (fun _ => Like.closeSession ?_)
  · exact ⟨x, rfl⟩
  · exact ⟨x, rfl⟩

theorem Like.finishSend (h : Like s s') (amt : U32) : Like (s.finishSend amt) (s'.finishSend amt) := by
  obtain ⟨y, hy⟩ := h.unsetFrom .sendSet
  obtain ⟨x, rfl⟩ := h
  unfold St.finishSend
  dsimp only
  rw [hy]
  refine .ite (fun _ => .ite (fun _ => .ite (fun _ => Like.closeSession ⟨y, rfl⟩) (fun _ => ?_))
    (fun _ => ?_)) (fun _ => ?_)
  · exact ⟨y, rfl⟩
  · exact ⟨y, rfl⟩
  · exact ⟨x, rfl⟩

theorem Like.toServer (h : Like s s') (lastError : Int) (r : SendResult) (now now' : Int) :
    Like (s.flushDataToServer lastError r now now') (s'.flushDataToServer lastError r now now') := by
  have sent : Like (s.sendToServer r) (s'.sendToServer r) := by
    unfold St.sendToServer
    rw [h.data]
    cases r with
    | error => exact h.resetClient
    | accepted n => exact (h.emit _).finishSend _
    | wouldBlock => exact (h.emit _).finishSend _
  unfold St.flushDataToServer
  rw [h.data]
  exact .ite (fun _ => h.finishConnect _ _ _) (fun _ => .ite (fun _ => h) (fun _ => sent))

theorem Like.checkStatus (h : Like s s') (now now' : Int) :
    Like (s.checkStatus now now').2 (s'.checkStatus now now').2 := by
  have acknowledged : Like (s.checkAcknowledged now').2 (s'.checkAcknowledged now').2 := by
    unfold St.checkAcknowledged
    dsimp only
    rw [h.data]
    generalize (if s.data.flushToClientFinished = true then NO_PROBING_TIMEOUT
      else ms (s.data.getIntervalToNextProbe + s.data.getMeanRTT * 2)) = limit
    split_ifs
    · exact h.closeSession
    · exact h
  unfold St.checkStatus
  rw [h.data]
  cases s.data.state with
  | CLOSED => exact h
  | SYN_RECEIVED => exact h
  | SYN_ACK_SENT =>
    dsimp only
    split_ifs
    · exact h.closeSession
    · exact acknowledged
  | ESTABLISHED => exact acknowledged

/-- whether a call gets as far as `acknowledgeDelayed`, and the clock lets its acknowledgement pass -/
def clockAnswer (d : Data) (clock : Int) : Op → Bool
  | .receiveFromClient p i => packetAsks d p.val && clockTest i.nowAcknowledge clock
  | _ => false

/-- **One call keeps two sessions alike, if the clock gives them the same answer.** -/
theorem Like.step (h : Like s s') (IP_MSS : U16) (op : Op)
    (htest : clockAnswer s.data s'.clock op = clockAnswer s.data s.clock op) :
    Like (step IP_MSS s op) (step IP_MSS s' op) := by
  unfold Sessions2.step
  rw [h.hung]
  refine .ite (fun _ => h) (fun _ => ?_)
  cases op with
  | receiveFromClient p i =>
    refine h.receiveFromClient IP_MSS p.val i fun hasks => ?_
    dsimp only [clockAnswer] at htest
    rwa [hasks, Bool.true_and, Bool.true_and] at htest
  | receiveFromServer r now turns => exact h.server r now turns
  | flushDataToServer lastError r now now' => exact h.toServer lastError r now now'
  | flushDataToClient now turns => exact h.flush now turns
  | onSocketError => exact h.resetClient
  | checkStatus now now' => exact h.checkStatus now now'
  | closeSession => exact h.closeSession

end

/-! ## any number of sessions -/

/-- what a session has of its own: its data, and the log of what it did -/
structure Own where
  data : Data
  log : List Event

/-- what the calls of all sessions share: the sets, the static clock, and the thread, which a call
that has not returned keeps -/
structure Common where
  shared : Shared
  hung : Bool

/-- one call, with a packet object of its own; none follows a call that has not returned -/
def call (IP_MSS : U16) (x : Common) (s : Own) (k : Packet × Op) : Except Unit (Common × Own) :=
  if x.hung then .error ()
  else
    let t := step IP_MSS ⟨s.data, x.shared, k.1, s.log, false⟩ k.2
    .ok (⟨t.shared, t.hung⟩, ⟨t.data, t.log⟩)

/-- what a call reads of what is shared -/
def asksClock (x : Common) (s : Own) (k : Packet × Op) : Bool :=
  clockAnswer s.data x.shared.lastTimeSentAcknowledge k.2

/-- **A session reads nothing of what is shared but the answers of the clock.** -/
theorem call_readsOnly (IP_MSS : U16) : ReadsOnly (call IP_MSS) asksClock := by
  intro x x' y y' s t t' k hasks h h'
  unfold call at h h'
  split_ifs at h h'
  have h1 : Like ⟨s.data, x.shared, k.1, s.log, false⟩ ⟨s.data, x'.shared, k.1, s.log, false⟩ :=
    ⟨x'.shared, rfl⟩
  have h2 := h1.step IP_MSS k.2 hasks.symm
  cases h
  cases h'
  rw [h2.data, h2.log]

end TunServer.Sessions2

namespace TunServer

section
variable {ι : Type*} [DecidableEq ι]

/-- **What a session does depends on the others only by the clock.**  In both classes: if in two runs
of any number of sessions the session `i` gets the same calls, and those of them that ask the clock get
the same answer, its log is the same in both. -/
theorem segments_own (i : ι) (IP_MSS : U16) :
    (∀ (v w v' w' : Share ι Sessions2.Own Sessions2.Common)
      (l l' : List (ι × Sessions2.Packet × Sessions2.Op)),
      w.own i = v.own i →
      runM (Share.call (Sessions2.call IP_MSS)) v l = .ok v' →
      runM (Share.call (Sessions2.call IP_MSS)) w l' = .ok w' →
      callsOf i l' = callsOf i l →
      heard (Sessions2.call IP_MSS) Sessions2.asksClock i w l' =
        heard (Sessions2.call IP_MSS) Sessions2.asksClock i v l →
      (w'.own i).log = (v'.own i).log) ∧
    (∀ (v w v' w' : Share ι Session.Own Session.Shared) (l l' : List (ι × Session.Op)),
      w.own i = v.own i →
      runM (Share.call Session.call) v l = .ok v' →
      runM (Share.call Session.call) w l' = .ok w' →
      callsOf i l' = callsOf i l →
      heard Session.call Session.asksClock i w l' = heard Session.call Session.asksClock i v l →
      (w'.own i).log = (v'.own i).log) := by
  constructor
  · intro v w v' w' l l' hown hl hl' hcalls hheard
    rw [own_determined (Sessions2.call_readsOnly IP_MSS) hown hl hl' hcalls hheard]
  · intro v w v' w' l l' hown hl hl' hcalls hheard
    rw [own_determined Session.call_readsOnly hown hl hl' hcalls hheard]

end

/-- A client connects, and two bytes of it arrive at the time `t`. -/
def Sessions2.talk (t : Int) : List (Sessions2.Packet × Sessions2.Op) :=
  [(Sessions2.uploadSyn, .receiveFromClient (Sessions2.synPacket Sessions2.clientA Sessions2.serverA
      100 1000) Sessions2.connected),
   (Sessions2.uploadSyn, .receiveFromClient (Sessions2.ackPacket Sessions2.clientA Sessions2.serverA
      101 1000 1000) Sessions2.connected),
   (Sessions2.uploadSyn, .receiveFromClient (Sessions2.dataPacket Sessions2.clientA
      Sessions2.serverA 101 1001 1000 [97, 98] Sessions2.twoBytes_lt) ⟨5, .thrown, 0, t, t⟩)]

/-- the same for the other class -/
def Session.talk (t : Int) : List Session.Op :=
  [.receiveFromClient (Session.synPacket Session.clientA Session.serverA 100 576) (Session.taking 0),
   .receiveFromClient (Session.ackPacket Session.clientA Session.serverA false 101 32)
     (Session.taking 0),
   .receiveFromClient (Session.dataPacket Session.clientA Session.serverA 101 32 [97, 98]
     Sessions2.twoBytes_lt) ⟨5, 0, false, true, 0, .accepted 2, .accepted 2, t, t⟩]

/-- the calls of `l` one second after the connection, after those of a neighbour at the time `t` -/
def beside {κ : Type*} (l : Int → List κ) (t : Int) : List (Bool × κ) :=
  (l t).map (Prod.mk false) ++ (l 1000000000).map (Prod.mk true)

/-- the same without the neighbour -/
def alone {κ : Type*} (l : Int → List κ) : List (Bool × κ) := (l 1000000000).map (Prod.mk true)

def Sessions2.fresh : Share Bool Sessions2.Own Sessions2.Common :=
  ⟨fun _ => ⟨.init 576, []⟩, ⟨Sessions2.unwatched, false⟩⟩

def Session.fresh : Share Bool Session.Own Session.Shared := ⟨fun _ => ⟨.init, []⟩, ⟨∅, ∅, ∅, 0, 0⟩⟩

theorem segments_own_beside :
    (∃ v' w', runM (Share.call (Sessions2.call 576)) Sessions2.fresh (alone Sessions2.talk) = .ok v' ∧
      runM (Share.call (Sessions2.call 576)) Sessions2.fresh (beside Sessions2.talk 500000000) = .ok w' ∧
      (w'.own true).log = (v'.own true).log) ∧
    (∃ v' w', runM (Share.call Session.call) Session.fresh (alone Session.talk) = .ok v' ∧
      runM (Share.call Session.call) Session.fresh (beside Session.talk 500000000) = .ok w' ∧
      (w'.own true).log = (v'.own true).log) := by
  obtain ⟨h1, h2⟩ := segments_own true 576
  constructor
  · exact ⟨_, _, rfl, rfl, h1 Sessions2.fresh Sessions2.fresh _ _ (alone Sessions2.talk)
      (beside Sessions2.talk 500000000) rfl rfl rfl rfl (by decide)⟩
  · exact ⟨_, _, rfl, rfl, h2 Session.fresh Session.fresh _ _ (alone Session.talk)
      (beside Session.talk 500000000) rfl rfl rfl rfl (by decide)⟩

/-- The neighbour's two bytes are acknowledged at the same moment, so the session's own are not. -/
theorem segments_not_own :
    (¬ ∀ (ι : Type) [DecidableEq ι] (i : ι) (IP_MSS : U16)
      (v w v' w' : Share ι Sessions2.Own Sessions2.Common)
      (l l' : List (ι × Sessions2.Packet × Sessions2.Op)),
      w.own i = v.own i →
      runM (Share.call (Sessions2.call IP_MSS)) v l = .ok v' →
      runM (Share.call (Sessions2.call IP_MSS)) w l' = .ok w' →
      callsOf i l' = callsOf i l → (w'.own i).log = (v'.own i).log) ∧
    (¬ ∀ (ι : Type) [DecidableEq ι] (i : ι) (v w v' w' : Share ι Session.Own Session.Shared)
      (l l' : List (ι × Session.Op)),
      w.own i = v.own i →
      runM (Share.call Session.call) v l = .ok v' →
      runM (Share.call Session.call) w l' = .ok w' →
      callsOf i l' = callsOf i l → (w'.own i).log = (v'.own i).log) := by
  constructor
  · intro h
    have h1 := h Bool true 576 Sessions2.fresh Sessions2.fresh _ _ (alone Sessions2.talk)
      (beside Sessions2.talk 1000000000) rfl rfl rfl rfl
    have h2 := congrArg List.length h1
    revert h2
    decide
  · intro h
    have h1 := h Bool true Session.fresh Session.fresh _ _ (alone Session.talk)
      (beside Session.talk 1000000000) rfl rfl rfl rfl
    have h2 := congrArg List.length h1
    revert h2
    decide

end TunServer
