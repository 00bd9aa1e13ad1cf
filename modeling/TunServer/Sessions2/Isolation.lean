import TunServer.Sessions2.Frame

/-!
# Several sessions and one packet object

`ClientHandler` runs any number of sessions; all calls except `receiveFromClient` get its one
packet object.  `Sessions` is that situation, `callStep` one call of one session.

`Addressed`: a segment handed to `sendBack` by a session that is not closed goes from the session's
server to the session's client.  Every call takes care of that, except that `flushDataToClient`
sends with whatever ends the packet object has.  `EndsReady` is the exact condition: a call that is
about to send a data or probe segment finds the session's own ends in the object.

* `step_addressed`   what one call adds to the log is addressed exactly if the call is `EndsReady`;
* `run_addressed`    the same for runs of calls of any number of sessions.
-/

set_option linter.unusedVariables false

namespace TunServer.Sessions2

/-- a segment of a session that is not closed goes from its server to its client -/
def Addressed : Event → Prop
  | .sendBack d p =>
    d.state ≠ .CLOSED → p.source = d.serverAddress ∧ p.destination = d.clientAddress
  | _ => True

instance : DecidablePred Addressed
  | .sendBack d p => inferInstanceAs (Decidable
      (d.state ≠ .CLOSED → p.source = d.serverAddress ∧ p.destination = d.clientAddress))
  | .sent _ => .isTrue trivial
  | .received _ => .isTrue trivial
  | .acknowledged _ => .isTrue trivial
  | .shutdownWrite => .isTrue trivial
  | .onSocketClose => .isTrue trivial

/-- the packet object has the session's own ends -/
def EndsMatch (d : Data) (p : Packet) : Prop :=
  p.source = d.serverAddress ∧ p.destination = d.clientAddress

/-! ## answers to a packet -/

section
variable (s : St) (hc : s.data.state = .CLOSED ∨
  s.packet.source = s.data.clientAddress ∧ s.packet.destination = s.data.serverAddress)
include hc

theorem addressed_swapEnds {p : Packet} (hsrc : p.source = s.packet.destination)
    (hdst : p.destination = s.packet.source) : Addressed (.sendBack s.data p) := by
  intro hs
  obtain ⟨h1, h2⟩ := hc.resolve_left hs
  exact ⟨hsrc.trans h2, hdst.trans h1⟩

theorem sendReset_adds : Adds Addressed s.log s.sendReset.log := by
  unfold St.sendReset
  dsimp only
  split_ifs
  · exact Adds.one _ (addressed_swapEnds s hc rfl rfl)
  · exact Adds.one _ (addressed_swapEnds s hc rfl rfl)

theorem sendAck_adds : Adds Addressed s.log s.sendAck.log :=
  Adds.one _ (addressed_swapEnds s hc rfl rfl)

theorem sendSynAck_adds : Adds Addressed s.log s.sendSynAck.log :=
  Adds.one _ (addressed_swapEnds s hc rfl rfl)

end

theorem acknowledgeDelayed_adds (s : St) (now : Int) :
    Adds Addressed s.log (s.acknowledgeDelayed now).log := by
  unfold St.acknowledgeDelayed
  split_ifs
  · exact Adds.one _ (fun _ => ⟨rfl, rfl⟩)
  · exact Adds.refl _ _

theorem acceptPayload_adds (s : St) (hc : s.data.state = .CLOSED ∨
    s.packet.source = s.data.clientAddress ∧ s.packet.destination = s.data.serverAddress)
    (now : Int) : Adds Addressed s.log (s.acceptPayload now).log := by
  have hb : s.acceptBytes.data.state = s.data.state ∧ s.acceptBytes.packet = s.packet ∧
      s.acceptBytes.log = s.log ∧ s.acceptBytes.data.clientAddress = s.data.clientAddress ∧
      s.acceptBytes.data.serverAddress = s.data.serverAddress := by
    unfold St.acceptBytes
    dsimp only
    split_ifs <;> simp
  obtain ⟨hs, hp, hl, hca, hsa⟩ := hb
  unfold St.acceptPayload
  dsimp only
  split_ifs
  · exact Adds.refl _ _
  · rw [← hl]
    refine sendAck_adds { s.acceptBytes with data.receiveFromClientFinished := true } ?_
    show s.acceptBytes.data.state = _ ∨ s.acceptBytes.packet.source = _ ∧ _ = _
    rw [hs, hp, hca, hsa]
    exact hc
  · rw [← hl]
    exact acknowledgeDelayed_adds _ _

theorem acceptSegment_adds (s : St) (hc : s.data.state = .CLOSED ∨
    s.packet.source = s.data.clientAddress ∧ s.packet.destination = s.data.serverAddress)
    (i : ClientInput) : Adds Addressed s.log (s.acceptSegment i).log := by
  have hw := acceptWindow_ack s (St.ackOff s.data s.packet) i.now
  have ha := hw.trans (acceptAck_ack _ (St.ackOff s.data s.packet) i.now)
  have hev : ∀ e, AckEvent e → Addressed e := by
    rintro e ⟨n, rfl⟩
    trivial
  unfold St.acceptSegment
  dsimp only
  split_ifs
  · rw [St.closeSession_log]
    exact (hw.log.mono hev).trans (Adds.one _ trivial)
  · refine (ha.log.mono hev).trans (acceptPayload_adds _ ?_ _)
    rw [ha.up.state, ha.packet, ha.up.clientAddress, ha.up.serverAddress]
    exact hc

theorem openConnected_adds (s : St) (IP_MSS : U16) (i : ClientInput) (res : Int) :
    Adds Addressed s.log (s.openConnected IP_MSS i res).log := by
  -- the answer to the SYN is sent before the session leaves CLOSED
  have h1 : ∀ q, Addressed (.sendBack { St.opened s.data IP_MSS s.packet i with
      lastTimeSentNewData := i.now } q) := fun q hq => absurd rfl hq
  unfold St.openConnected
  dsimp only
  split_ifs
  · simp only [St.sendSynAck, St.sendBack_log, St.setIn_log, St.setIn_data, St.setIn_packet]
    exact Adds.one _ (h1 _)
  · simp only [St.setIn_log]
    exact Adds.refl _ _

theorem handlePacket_adds (s : St) (hc : s.data.state = .CLOSED ∨
    s.packet.source = s.data.clientAddress ∧ s.packet.destination = s.data.serverAddress)
    (IP_MSS : U16) (i : ClientInput) : Adds Addressed s.log (s.handlePacket IP_MSS i).log := by
  have h := handlePacket_step IP_MSS s i
  generalize s.handlePacket IP_MSS i = s' at h ⊢
  cases h with
  | same => exact Adds.refl _ _
  | reset => exact sendReset_adds s hc
  | ack hs => exact sendAck_adds s hc
  | synAck hs => exact sendSynAck_adds s hc
  | opened res hs hsyn hack hshift hres => exact openConnected_adds s IP_MSS i res
  | closed hs hsyn hrst hwin =>
    rw [St.closeSession_log]
    exact Adds.one _ trivial
  | established hs hseq hack =>
    simp only [St.establish, St.setIn_log]
    exact Adds.refl _ _
  | accepted hs hsyn hrst hack hseq hrange => exact acceptSegment_adds s hc i

theorem receiveFromClient_adds (IP_MSS : U16) (s : St) (p : Packet) (i : ClientInput) :
    Adds Addressed s.log (receiveFromClient IP_MSS s p i).2.log := by
  unfold receiveFromClient
  split_ifs with hcan
  · exact handlePacket_adds { s with packet := p } ((canHandle_iff s.data p).mp hcan) IP_MSS i
  · exact Adds.refl _ _

/-! ## calls that set the ends themselves -/

theorem setEnds_addressed (d : Data) (p : Packet) : Addressed (.sendBack d (St.setEnds d p)) :=
  fun _ => ⟨rfl, rfl⟩

theorem resetClient_adds (s : St) : Adds Addressed s.log s.resetClient.log := by
  unfold St.resetClient
  dsimp only
  rw [St.closeSession_log, St.sendBack_log]
  exact (Adds.one _ (setEnds_addressed _ _)).trans (Adds.one _ trivial)

theorem finishSend_adds (s : St) (amt : U32) : Adds Addressed s.log (s.finishSend amt).log := by
  unfold St.finishSend
  dsimp only
  split_ifs
  · rw [St.closeSession_log, St.unsetFrom_log]
    exact Adds.one _ trivial
  · simp only [St.emit_log, St.unsetFrom_log]
    exact Adds.one _ trivial
  · simp only [St.unsetFrom_log]
    exact Adds.refl _ _
  · exact Adds.refl _ _

theorem sendToServer_adds (s : St) (r : SendResult) : Adds Addressed s.log (s.sendToServer r).log := by
  have h1 : ∀ bs n, Adds Addressed s.log ((s.emit (.sent bs)).finishSend n).log := fun bs n =>
    (Adds.one _ trivial).trans (finishSend_adds (s.emit (.sent bs)) n)
  cases r with
  | error => exact resetClient_adds s
  | accepted n => exact h1 _ _
  | wouldBlock => exact h1 _ _

theorem finishConnect_adds (s : St) (lastError : Int) (now now' : Int) :
    Adds Addressed s.log (s.finishConnect lastError now now').log := by
  unfold St.finishConnect
  dsimp only
  split_ifs
  · exact Adds.refl _ _
  · simp only [St.unsetFrom_log, St.sendBack_log]
    exact Adds.one _ (fun _ => ⟨rfl, rfl⟩)
  · rw [St.closeSession_log, St.sendBack_log]
    exact (Adds.one _ (fun _ => ⟨rfl, rfl⟩)).trans (Adds.one _ trivial)

theorem flushDataToServer_adds (s : St) (lastError : Int) (r : SendResult) (now now' : Int) :
    Adds Addressed s.log (s.flushDataToServer lastError r now now').log := by
  unfold St.flushDataToServer
  split_ifs
  · exact finishConnect_adds _ _ _ _
  · exact Adds.refl _ _
  · exact sendToServer_adds _ _

theorem checkStatus_adds (s : St) (now now' : Int) :
    Adds Addressed s.log (s.checkStatus now now').2.log := by
  rcases checkStatus_cases s now now' with ⟨_, h⟩ | ⟨_, h⟩ | ⟨_, h⟩
  · rw [h]; exact Adds.refl _ _
  · rw [h]; exact Adds.refl _ _
  · rw [h, St.closeSession_log]; exact Adds.one _ trivial

/-! ## when `flushDataToClient` sends at all -/

theorem sendLoop_sends (s : St) {mss : U16} {push : Bool} {bound off : U32} (ack : U32)
    (h : St.sendMore s.data mss push bound off = true) (turns : Nat) :
    s.log.length < (St.sendLoop mss push bound ack (turns + 1) off s).2.log.length := by
  have h1 : (s.sendSegment mss bound ack off).log.length = s.log.length + 1 := by
    unfold St.sendSegment
    dsimp only
    split_ifs <;> simp
  have h2 := (sendLoop_flush mss push bound ack turns (off + St.sendAmount mss bound off)
    (s.sendSegment mss bound ack off)).log.length_le
  rw [St.sendLoop, if_pos h]
  omega

/-- the state after a block that sent nothing -/
def Silent (s s' : St) : Prop :=
  ∃ p b q t, s' = { s with
    packet := p
    data.rttTracking := b
    data.rttTrackedSendSequence := q
    data.rttSendTime := t }

theorem Silent.refl (s : St) : Silent s s := ⟨_, _, _, _, rfl⟩

theorem Silent.packet (s : St) (p : Packet) : Silent s { s with packet := p } :=
  ⟨_, _, _, _, rfl⟩

theorem Silent.trans {s s' s'' : St} (h : Silent s s') (h' : Silent s' s'') : Silent s s'' := by
  obtain ⟨p, b, q, t, rfl⟩ := h
  obtain ⟨p', b', q', t', rfl⟩ := h'
  exact ⟨_, _, _, _, rfl⟩

theorem Silent.hung {s s' : St} (h : Silent s s') : s'.hung = s.hung := by
  obtain ⟨p, b, q, t, rfl⟩ := h
  rfl

theorem Silent.log {s s' : St} (h : Silent s s') : s'.log = s.log := by
  obtain ⟨p, b, q, t, rfl⟩ := h
  rfl

/-- the conditions of the second block do not depend on what the first one may have touched -/
theorem Silent.rest {s s' : St} (h : Silent s s') (bound : U32) (fin : Bool) (now : Int) :
    (St.pushDue s'.data bound fin now &&
      St.sendMore s'.data s'.data.mss true bound s'.data.sendNextOffset) =
    (St.pushDue s.data bound fin now &&
      St.sendMore s.data s.data.mss true bound s.data.sendNextOffset) := by
  obtain ⟨p, b, q, t, rfl⟩ := h
  rfl

theorem Silent.probeDue {s s' : St} (h : Silent s s') (now : Int) :
    St.probeDue s'.data now = St.probeDue s.data now := by
  obtain ⟨p, b, q, t, rfl⟩ := h
  rfl

theorem sendDataStartingFrom_silent {s : St} {off : U32} {mss : U16} {push : Bool} {bound : U32}
    (h : St.sendMore s.data mss push bound off = false) (hoff : off ≤ s.data.sendNextOffset)
    (hh : s.hung = false) (now : Int) (turns : Nat) :
    Silent s (s.sendDataStartingFrom off mss push bound now turns) := by
  have h1 : ¬ s.data.sendNextOffset < off := by bv_omega
  unfold St.sendDataStartingFrom
  dsimp only
  rw [@sendLoop_stop _ _ _ _ _ { s with packet := s.packet.setWindow s.data.receiveBuffer.available }
    turns (ne_true_of_eq_false h)]
  dsimp only
  rw [if_neg (by simp [hh])]
  unfold St.sentUpTo
  dsimp only
  rw [if_neg h1, if_neg (not_not.mpr rfl)]
  exact .packet s _

theorem trackRTT_silent (s : St) (now : Int) : Silent s (s.trackRTT now) := by
  unfold St.trackRTT
  split_ifs
  · exact .refl s
  · exact ⟨_, _, _, _, rfl⟩

theorem sendDataStartingFrom_sends {s : St} {off : U32} {mss : U16} {push : Bool} {bound : U32}
    (h : St.sendMore s.data mss push bound off = true) (now : Int) (turns : Nat) :
    s.log.length < (s.sendDataStartingFrom off mss push bound now (turns + 1)).log.length := by
  have h1 := sendLoop_sends { s with packet := s.packet.setWindow s.data.receiveBuffer.available }
    (s.data.receiveSent + s.data.receiveBuffer.position) h turns
  unfold St.sendDataStartingFrom
  dsimp only
  split_ifs
  · exact h1
  · exact lt_of_lt_of_le h1 (sentUpTo_flush _ _ _).log.length_le

/-- whether the first block of `flushDataToClient` sends a segment -/
def sendsFirst (d : Data) (now : Int) : Bool :=
  if St.resendDue d now then St.sendMore d d.mss (St.finNotAcknowledged d) (St.sendBound d) 0
  else St.newDataDue d (St.sendBound d) &&
    St.sendMore d d.mss false (St.sendBound d) d.sendNextOffset

/-- whether the second block does, after a silent first one -/
def sendsRest (d : Data) (now : Int) : Bool :=
  St.pushDue d (St.sendBound d) (St.finNotSent d) now &&
    St.sendMore d d.mss true (St.sendBound d) d.sendNextOffset

/-- whether `flushDataToClient` sends a segment, by its own conditions on the state before it -/
def sendsSegment (d : Data) (now : Int) : Bool :=
  sendsFirst d now || sendsRest d now || St.probeDue d now

theorem flushSegments_silent {s : St} {now : Int} (hh : s.hung = false)
    (h : sendsFirst s.data now = false) (turns : Nat) :
    Silent s (s.flushSegments (St.sendBound s.data) now turns) := by
  unfold sendsFirst at h
  unfold St.flushSegments
  dsimp only
  by_cases h1 : St.resendDue s.data now = true
  · rw [if_pos h1] at h ⊢
    exact sendDataStartingFrom_silent h (by bv_omega) hh now _
  · rw [if_neg h1] at h ⊢
    by_cases h2 : St.newDataDue s.data (St.sendBound s.data) = true
    · rw [h2, Bool.true_and] at h
      rw [if_pos h2]
      have h3 := sendDataStartingFrom_silent h (by bv_omega) hh now (turns + 1)
      rw [h3.hung, hh]
      exact h3.trans (trackRTT_silent _ _)
    · rw [if_neg h2]
      exact .refl s

theorem flushSegments_sends {s : St} {now : Int} (h : sendsFirst s.data now = true) (turns : Nat) :
    s.log.length < (s.flushSegments (St.sendBound s.data) now turns).log.length := by
  unfold sendsFirst at h
  unfold St.flushSegments
  dsimp only
  by_cases h1 : St.resendDue s.data now = true
  · rw [if_pos h1] at h ⊢
    exact sendDataStartingFrom_sends h now turns
  · rw [if_neg h1] at h ⊢
    rw [Bool.and_eq_true] at h
    have h3 := sendDataStartingFrom_sends h.2 now turns
    rw [if_pos h.1]
    split_ifs
    · exact h3
    · exact lt_of_lt_of_le h3 (trackRTT_flush _ _).log.length_le

theorem flushRest_silent {s : St} {bound : U32} {fin : Bool} {now : Int} (hh : s.hung = false)
    (h : (St.pushDue s.data bound fin now &&
      St.sendMore s.data s.data.mss true bound s.data.sendNextOffset) = false) (turns : Nat) :
    Silent s (s.flushRest bound fin now turns) := by
  unfold St.flushRest
  split_ifs with h1
  · rw [h1, Bool.true_and] at h
    exact sendDataStartingFrom_silent h (by bv_omega) hh now _
  · exact .refl s

theorem flushRest_sends {s : St} {bound : U32} {fin : Bool} {now : Int}
    (h : (St.pushDue s.data bound fin now &&
      St.sendMore s.data s.data.mss true bound s.data.sendNextOffset) = true) (turns : Nat) :
    s.log.length < (s.flushRest bound fin now turns).log.length := by
  rw [Bool.and_eq_true] at h
  unfold St.flushRest
  rw [if_pos h.1]
  exact sendDataStartingFrom_sends h.2 now turns

/-- what `flushDataToClient` does once it got past its first test -/
theorem flushDataToClient_blocks {s : St} (hs : s.data.state = .ESTABLISHED)
    (hf : s.data.flushToClientFinished = false) (now : Int) (turns : Nat) :
    s.flushDataToClient now turns =
      let s1 := s.flushSegments (St.sendBound s.data) now turns
      let s2 := s1.flushRest (St.sendBound s.data) (St.finNotSent s.data) now turns
      if s1.hung then s1 else if s2.hung then s2 else s2.probe now := by
  unfold St.flushDataToClient
  rw [if_neg (by simp [hs, hf])]

/-- **Without a reason to send, `flushDataToClient` adds nothing to the log.** -/
theorem flushDataToClient_silent {s : St} (hs : s.data.state = .ESTABLISHED)
    (hf : s.data.flushToClientFinished = false) (hh : s.hung = false) {now : Int}
    (h : sendsSegment s.data now = false) (turns : Nat) :
    (s.flushDataToClient now turns).log = s.log := by
  unfold sendsSegment at h
  rw [Bool.or_eq_false_iff, Bool.or_eq_false_iff] at h
  obtain ⟨⟨h1, h2⟩, h3⟩ := h
  have e1 := flushSegments_silent hh h1 turns
  have e2 := e1.trans (flushRest_silent (e1.hung.trans hh) ((e1.rest _ _ _).trans h2) turns)
  rw [flushDataToClient_blocks hs hf]
  dsimp only
  rw [e1.hung, e2.hung, hh]
  simp only [Bool.false_eq_true, if_false, St.probe, e2.probeDue, h3]
  exact e2.log

/-- **With a reason to send, `flushDataToClient` adds something to the log.** -/
theorem flushDataToClient_sends {s : St} (hs : s.data.state = .ESTABLISHED)
    (hf : s.data.flushToClientFinished = false) (hh : s.hung = false) {now : Int}
    (h : sendsSegment s.data now = true) (turns : Nat) :
    s.log.length < (s.flushDataToClient now turns).log.length := by
  rw [flushDataToClient_blocks hs hf]
  dsimp only
  have f2 := fun s => (flushRest_flush s (St.sendBound s.data) (St.finNotSent s.data) now
    turns).log.length_le
  cases h1 : sendsFirst s.data now with
  | true =>
    have g1 := flushSegments_sends h1 turns
    have g2 := lt_of_lt_of_le g1 (flushRest_flush (s.flushSegments (St.sendBound s.data) now turns)
      (St.sendBound s.data) (St.finNotSent s.data) now turns).log.length_le
    split_ifs
    · exact g1
    · exact g2
    · exact lt_of_lt_of_le g2 (probe_flush _ _).log.length_le
  | false =>
    have e1 := flushSegments_silent hh h1 turns
    rw [e1.hung, hh, if_neg (by decide), ← e1.log]
    cases h2 : sendsRest s.data now with
    | true =>
      have g2 := flushRest_sends ((e1.rest _ _ _).trans h2) turns
      split_ifs
      · exact g2
      · exact lt_of_lt_of_le g2 (probe_flush _ _).log.length_le
    | false =>
      have h3 : St.probeDue s.data now = true := by
        simpa [sendsSegment, h1, h2] using h
      have e2 := flushRest_silent (e1.hung.trans hh) ((e1.rest _ _ _).trans h2) turns
      rw [e2.hung, e1.hung, hh, if_neg (by decide), ← e2.log]
      unfold St.probe
      rw [e2.probeDue, e1.probeDue, h3]
      simp

/-! ## one call -/

/-- a call of `flushDataToClient` that sends finds the session's own ends in the packet object -/
def FlushReady (s : St) (now : Int) : Prop :=
  s.data.state = .ESTABLISHED → s.data.flushToClientFinished = false →
    sendsSegment s.data now = true → EndsMatch s.data s.packet

/-- The condition on a call: only `flushDataToClient`, also when it follows a read, asks for
anything. -/
def EndsReady (s : St) : Op → Prop
  | .flushDataToClient now _ => FlushReady s now
  | .receiveFromServer r now _ =>
    s.data.state = .ESTABLISHED → s.data.receiveFromServerFinished = false →
      FlushReady (s.readFromServer r) now
  | _ => True

theorem flushEvent_addressed {d : Data} {p : Packet} (hd : d.state ≠ .CLOSED) {e : Event}
    (he : FlushEvent d p e) : Addressed e ↔ EndsMatch d p := by
  obtain ⟨d', p', rfl, hup, hsrc, hdst⟩ := he
  show (d'.state ≠ .CLOSED → p'.source = d'.serverAddress ∧ p'.destination = d'.clientAddress) ↔ _
  rw [hup.state, hup.serverAddress, hup.clientAddress, hsrc, hdst]
  exact ⟨fun h => h hd, fun h _ => h⟩

theorem flushDataToClient_addressed {s : St} (hh : s.hung = false) (now : Int) (turns : Nat) :
    Adds Addressed s.log (s.flushDataToClient now turns).log ↔ FlushReady s now := by
  by_cases hs : s.data.state = .ESTABLISHED ∧ s.data.flushToClientFinished = false
  · obtain ⟨hs, hf⟩ := hs
    have hd : s.data.state ≠ .CLOSED := by rw [hs]; decide
    obtain ⟨es, hlog, hes⟩ := (flushDataToClient_flush s now turns).log
    constructor
    · rintro ⟨es', hlog', hes'⟩ _ _ hsend
      have hlen := flushDataToClient_sends hs hf hh hsend turns
      obtain rfl := List.append_cancel_left (hlog.symm.trans hlog')
      obtain ⟨e, he⟩ : ∃ e, e ∈ es := by
        apply List.exists_mem_of_ne_nil
        rintro rfl
        rw [hlog, List.append_nil] at hlen
        exact lt_irrefl _ hlen
      exact (flushEvent_addressed hd (hes e he)).mp (hes' e he)
    · intro hready
      cases hsend : sendsSegment s.data now with
      | true =>
        have hm := hready hs hf hsend
        exact ⟨es, hlog, fun e he => (flushEvent_addressed hd (hes e he)).mpr hm⟩
      | false =>
        rw [flushDataToClient_silent hs hf hh hsend turns]
        exact Adds.refl _ _
  · have e : s.flushDataToClient now turns = s := by
      unfold St.flushDataToClient
      rw [if_pos]
      by_contra h
      rw [not_or, not_not, Bool.not_eq_true] at h
      exact hs h
    rw [e]
    exact ⟨fun _ h1 h2 => absurd ⟨h1, h2⟩ hs, fun _ => Adds.refl _ _⟩

theorem receiveFromServer_addressed {s : St} (hh : s.hung = false) (r : RecvResult) (now : Int)
    (turns : Nat) : Adds Addressed s.log (s.receiveFromServer r now turns).log ↔
      EndsReady s (.receiveFromServer r now turns) := by
  by_cases h0 : s.data.state = .ESTABLISHED ∧ s.data.receiveFromServerFinished = false
  · rw [receiveFromServer_log h0.1 h0.2]
    have hl : Adds Addressed s.log (s.readFromServer r).log := by
      refine (readFromServer_read s r).log.mono ?_
      rintro e ⟨bs, rfl⟩
      trivial
    have h3 := flushDataToClient_addressed ((readFromServer_hung s r).trans hh) now turns
    constructor
    · rintro ⟨es, hes, hP⟩ _ _
      obtain ⟨es1, hlog, _⟩ := hl
      obtain ⟨es2, hlog', _⟩ := (flushDataToClient_flush (s.readFromServer r) now turns).log
      refine h3.mp ⟨es2, hlog', fun e he => hP e ?_⟩
      rw [hlog', hlog, List.append_assoc] at hes
      rw [← List.append_cancel_left hes]
      exact List.mem_append_right _ he
    · intro h
      exact hl.trans (h3.mpr (h h0.1 h0.2))
  · rw [receiveFromServer_skip h0]
    exact ⟨fun _ h1 h2 => absurd ⟨h1, h2⟩ h0, fun _ => Adds.refl _ _⟩

theorem step_addressed (IP_MSS : U16) {s : St} (hh : s.hung = false) (op : Op) :
    Adds Addressed s.log (step IP_MSS s op).log ↔ EndsReady s op := by
  unfold step
  rw [if_neg (by simp [hh])]
  cases op with
  | receiveFromClient p i => exact ⟨fun _ => trivial, fun _ => receiveFromClient_adds IP_MSS s p i⟩
  | receiveFromServer r now turns => exact receiveFromServer_addressed hh r now turns
  | flushDataToServer lastError r now now' =>
    exact ⟨fun _ => trivial, fun _ => flushDataToServer_adds s lastError r now now'⟩
  | flushDataToClient now turns => exact flushDataToClient_addressed hh now turns
  | onSocketError => exact ⟨fun _ => trivial, fun _ => resetClient_adds s⟩
  | checkStatus now now' => exact ⟨fun _ => trivial, fun _ => checkStatus_adds s now now'⟩
  | closeSession =>
    refine ⟨fun _ => trivial, fun _ => ?_⟩
    dsimp only
    rw [St.closeSession_log]
    exact Adds.one _ trivial

/-- no call takes anything back from the log -/
theorem step_grows (IP_MSS : U16) (s : St) (op : Op) :
    Adds (fun _ => True) s.log (step IP_MSS s op).log := by
  unfold step
  split_ifs
  · exact Adds.refl _ _
  · cases op with
    | receiveFromClient p i => exact (receiveFromClient_adds IP_MSS s p i).mono fun _ _ => trivial
    | receiveFromServer r now turns =>
      dsimp only
      by_cases h0 : s.data.state = .ESTABLISHED ∧ s.data.receiveFromServerFinished = false
      · rw [receiveFromServer_log h0.1 h0.2]
        exact ((readFromServer_read s r).log.mono fun _ _ => trivial).trans
          ((flushDataToClient_flush _ now turns).log.mono fun _ _ => trivial)
      · rw [receiveFromServer_skip h0]
        exact Adds.refl _ _
    | flushDataToServer lastError r now now' =>
      exact (flushDataToServer_adds s lastError r now now').mono fun _ _ => trivial
    | flushDataToClient now turns =>
      exact (flushDataToClient_flush s now turns).log.mono fun _ _ => trivial
    | onSocketError => exact (resetClient_adds s).mono fun _ _ => trivial
    | checkStatus now now' => exact (checkStatus_adds s now now').mono fun _ _ => trivial
    | closeSession =>
      dsimp only
      rw [St.closeSession_log]
      exact Adds.one _ trivial

/-! ## any number of sessions -/

/-- the sessions of a handler, and what they share -/
structure Sessions (ι : Type*) where
  data : ι → Data
  shared : Shared
  tcpPacket : Packet
  log : List Event
  hung : Bool

section
variable {ι : Type*} [DecidableEq ι]

/-- fresh sessions -/
def Sessions.start (IP_MSS : U16) (shared : Shared) (tcpPacket : Packet) : Sessions ι :=
  ⟨fun _ => .init IP_MSS, shared, tcpPacket, [], false⟩

/-- what a call of the session `n` works on -/
def Sessions.at (w : Sessions ι) (n : ι) : St :=
  ⟨w.data n, w.shared, w.tcpPacket, w.log, w.hung⟩

/-- the sessions after a call of the session `n` -/
def Sessions.put (w : Sessions ι) (n : ι) (s : St) : Sessions ι :=
  ⟨Function.update w.data n s.data, s.shared, s.packet, s.log, s.hung⟩

/-- one call of one session -/
def callStep (IP_MSS : U16) (w : Sessions ι) (c : ι × Op) : Sessions ι :=
  w.put c.1 (step IP_MSS (w.at c.1) c.2)

/-- the condition on a call of a session -/
def CallReady (w : Sessions ι) (c : ι × Op) : Prop := w.hung = false → EndsReady (w.at c.1) c.2

theorem callStep_addressed (IP_MSS : U16) (w : Sessions ι) (c : ι × Op) :
    Adds Addressed w.log (callStep IP_MSS w c).log ↔ CallReady w c := by
  cases hh : w.hung with
  | false =>
    refine (step_addressed IP_MSS (show (w.at c.1).hung = false from hh) c.2).trans ?_
    exact ⟨fun h _ => h, fun h => h hh⟩
  | true =>
    have e : (callStep IP_MSS w c).log = w.log := by
      show (step IP_MSS (w.at c.1) c.2).log = _
      unfold step
      rw [if_pos (show (w.at c.1).hung = true from hh)]
      rfl
    rw [e]
    exact ⟨fun _ h => absurd (hh.symm.trans h) (by decide), fun _ => Adds.refl _ _⟩

theorem run_grows (IP_MSS : U16) (w : Sessions ι) (calls : List (ι × Op)) :
    Adds (fun _ => True) w.log (run (callStep IP_MSS) w calls).log := by
  induction calls generalizing w with
  | nil => exact Adds.refl _ _
  | cons c calls ih => exact (step_grows IP_MSS (w.at c.1) c.2).trans (ih (callStep IP_MSS w c))

/-- **What any number of sessions send is addressed exactly if every call is ready.** -/
theorem run_addressed (IP_MSS : U16) (w : Sessions ι) (calls : List (ι × Op)) :
    Adds Addressed w.log (run (callStep IP_MSS) w calls).log ↔
      Along (callStep IP_MSS) CallReady w calls := by
  induction calls generalizing w with
  | nil => exact ⟨fun _ => trivial, fun _ => Adds.refl _ _⟩
  | cons c calls ih =>
    rw [run_cons]
    constructor
    · rintro ⟨es, hes, hP⟩
      obtain ⟨es1, h1, _⟩ := step_grows IP_MSS (w.at c.1) c.2
      obtain ⟨es2, h2, _⟩ := run_grows IP_MSS (callStep IP_MSS w c) calls
      have e : es1 ++ es2 = es := by
        have h3 : w.log ++ es = (w.log ++ es1) ++ es2 := by
          rw [← hes, h2]
          exact congrArg (· ++ es2) h1
        rw [List.append_assoc] at h3
        exact (List.append_cancel_left h3).symm
      refine ⟨(callStep_addressed IP_MSS w c).mp ⟨es1, h1, fun e' he' => hP e' ?_⟩,
        (ih _).mp ⟨es2, h2, fun e' he' => hP e' ?_⟩⟩
      · rw [← e]; exact List.mem_append_left _ he'
      · rw [← e]; exact List.mem_append_right _ he'
    · rintro ⟨h1, h2⟩
      exact ((callStep_addressed IP_MSS w c).mpr h1).trans ((ih _).mpr h2)

/-- **Isolation of the output.**  From fresh sessions, in any order of calls, every segment of a
session that is not closed goes from its server to its client exactly if every call is ready: no
data or probe segment is sent while the packet object has other ends than the session's. -/
theorem output_isolated_iff (IP_MSS : U16) (shared : Shared) (tcpPacket : Packet)
    (calls : List (ι × Op)) :
    (∀ e ∈ (run (callStep IP_MSS) (Sessions.start IP_MSS shared tcpPacket) calls).log,
      Addressed e) ↔
    Along (callStep IP_MSS) CallReady (Sessions.start IP_MSS shared tcpPacket) calls := by
  rw [← run_addressed]
  constructor
  · intro h
    exact ⟨_, rfl, h⟩
  · rintro ⟨es, hes, hP⟩
    rw [hes]
    exact hP

end

/-- Session 0 is established, session 1 tells its client that its server is ready, and then
session 0 passes a byte of its server on. -/
def crossTalk : List (Fin 2 × Op) :=
  let clientA : SockAddr := ⟨0x0a000001, 40000⟩
  let serverA : SockAddr := ⟨0x01010101, 80⟩
  let clientB : SockAddr := ⟨0x0a000002, 40001⟩
  let serverB : SockAddr := ⟨0x08080808, 443⟩
  [(0, .receiveFromClient (synPacket clientA serverA 100 1000) ⟨5, .returned 0, 1000, 0, 0⟩),
   (0, .receiveFromClient (ackPacket clientA serverA 101 1000 1000) ⟨6, .thrown, 0, 0, 0⟩),
   (1, .receiveFromClient (synPacket clientB serverB 200 1000) ⟨6, .returned (-1), 2000, 0, 0⟩),
   (1, .flushDataToServer 0 .wouldBlock 1000000000 1000000000),
   (0, .receiveFromServer (.bytes [65]) 2000000000 1)]

theorem output_not_isolated :
    ¬ ∀ (ι : Type) [DecidableEq ι] (IP_MSS : U16) (shared : Shared) (tcpPacket : Packet)
      (calls : List (ι × Op)),
      ∀ e ∈ (run (callStep IP_MSS) (Sessions.start IP_MSS shared tcpPacket) calls).log,
        Addressed e := by
  intro h
  have h1 := h (Fin 2) 576 ⟨fun _ => ∅, 0⟩ (synPacket ⟨0, 0⟩ ⟨0, 0⟩ 0 0) crossTalk
  revert h1
  decide

end TunServer.Sessions2
