import TunServer.Sessions2.Reject
import TunServer.Sessions2.Resend
import TunServer.Sessions2.Neighbours

/-!
# The numbers of the ACKs

Four places compute the acknowledgement number and, for a segment without payload, the sequence
number.  `sendAck` counts both FINs.  The other three leave them out: the delayed acknowledgement,
the segments of `sendDataStartingFrom`, and the probe.

* `Agrees`          the numbers of a segment that an established session sends are the expected ones;
* `NumbersReady`    the condition on a call: the delayed acknowledgement is not sent after a FIN,
                    `flushDataToClient` sends nothing once the client's FIN is there, and no run that
                    pushes at the end of the server's stream comes to an empty segment out of place;
* `run_agrees`      along such calls all numbers agree.
-/

set_option linter.unusedVariables false

namespace TunServer.Sessions2

/-- An ACK that is no reset acknowledges what the session expects next, and without payload it has
the number behind everything that was sent. -/
def Agrees : Event → Prop
  | .sendBack d p => d.state = .ESTABLISHED → p.isAck = true → p.isReset = false →
      p.getAcknowledgmentNumber = nextExpected d ∧
      (p.payload = [] → p.getSequenceNumber =
        d.sendUnacknowledged + d.sendNextOffset + b32 d.sentFinToClient)
  | _ => True

instance : DecidablePred Agrees
  | .sendBack d p => inferInstanceAs (Decidable (d.state = .ESTABLISHED → p.isAck = true →
      p.isReset = false → p.getAcknowledgmentNumber = nextExpected d ∧
      (p.payload = [] → p.getSequenceNumber =
        d.sendUnacknowledged + d.sendNextOffset + b32 d.sentFinToClient)))
  | .sent _ => .isTrue trivial
  | .received _ => .isTrue trivial
  | .acknowledged _ => .isTrue trivial
  | .shutdownWrite => .isTrue trivial
  | .onSocketClose => .isTrue trivial

/-! ## answers to a packet -/

section
variable (s : St)

theorem resetSeq_agrees (d : Data) {p : Packet} {seq : U32} (h : p.header = .resetSeq seq) :
    Agrees (.sendBack d p) := by
  intro _ hack _
  unfold Packet.isAck at hack
  rw [h] at hack
  exact absurd hack Bool.false_ne_true

theorem resetAck_agrees (d : Data) {p : Packet} {ack : U32} (h : p.header = .resetAck ack) :
    Agrees (.sendBack d p) := by
  intro _ _ hrst
  unfold Packet.isReset at hrst
  rw [h] at hrst
  exact absurd hrst.symm Bool.false_ne_true

theorem sendReset_agrees : Adds Agrees s.log s.sendReset.log := by
  unfold St.sendReset
  dsimp only
  split_ifs
  · exact Adds.one _ (resetSeq_agrees _ rfl)
  · exact Adds.one _ (resetAck_agrees _ rfl)

theorem sendAck_agrees : Adds Agrees s.log s.sendAck.log :=
  Adds.one _ fun _ _ _ => ⟨rfl, fun _ => rfl⟩

theorem sendSynAck_agrees (hs : s.data.state ≠ .ESTABLISHED) : Adds Agrees s.log s.sendSynAck.log :=
  Adds.one _ fun hc => absurd hc hs

/-- the delayed acknowledgement knows of no FIN -/
theorem acknowledgeDelayed_agrees (hf : s.data.receiveFromClientFinished = false) (now : Int)
    (hsent : clockTest now s.shared.lastTimeSentAcknowledge = true → s.data.sentFinToClient = false) :
    Adds Agrees s.log (s.acknowledgeDelayed now).log := by
  unfold St.acknowledgeDelayed
  split_ifs with hc
  · refine Adds.one _ fun _ _ _ => ⟨?_, fun _ => ?_⟩
    · unfold nextExpected
      rw [hf, add_b32_false]
      rfl
    · rw [hsent (decide_eq_true hc), add_b32_false]
      rfl
  · exact Adds.refl _ _

/-- the payload is taken in; the FIN, if it is, before the answer -/
theorem acceptPayload_agrees (now : Int) (hsent : payloadAsks s.data s.packet = true →
      clockTest now s.shared.lastTimeSentAcknowledge = true → s.data.sentFinToClient = false) :
    Adds Agrees s.log (s.acceptPayload now).log := by
  obtain ⟨⟨b, hd⟩, hlog, _⟩ := acceptBytes_keeps s
  have hp := acceptBytes_packet s
  have hclock := acceptBytes_clock s
  unfold St.acceptPayload
  dsimp only
  split_ifs with hf hfin
  · exact Adds.refl _ _
  · rw [← hlog]
    exact sendAck_agrees { s.acceptBytes with data.receiveFromClientFinished := true }
  · rw [hp] at hfin
    rw [← hlog]
    have hf' : s.data.receiveFromClientFinished = false := by simpa using hf
    refine acknowledgeDelayed_agrees _ (by rw [hd]; exact hf') now fun hc => ?_
    rw [hd]
    refine hsent (decide_eq_true ⟨hf, hfin⟩) ?_
    rw [← hc]
    exact congrArg (clockTest now) hclock.symm

theorem acceptAck_sent (off : U32) (now : Int) :
    (s.acceptAck off now).data.sentFinToClient = s.data.sentFinToClient := by
  have sample : ∀ t : St, (t.sampleRTT now).data.sentFinToClient = t.data.sentFinToClient := by
    intro t
    unfold St.sampleRTT Data.pushRTT
    dsimp only
    split_ifs <;> rfl
  have advance : ∀ (t : St) (amt : U32), (t.advance amt).data.sentFinToClient = t.data.sentFinToClient := by
    intro t amt
    unfold St.advance
    dsimp only
    split_ifs
    · rw [St.setIn_data, St.emit_data]
    · rfl
  unfold St.acceptAck
  split_ifs
  · rw [sample, advance]
  · rw [sample, advance]

/-- the segment closes the session, or its payload is taken in -/
theorem acceptSegment_agrees (i : ClientInput) (hsent : segmentAsks s.data s.packet = true →
      clockTest i.nowAcknowledge s.shared.lastTimeSentAcknowledge = true →
      s.data.sentFinToClient = false) : Adds Agrees s.log (s.acceptSegment i).log := by
  have hev : ∀ e, AckEvent e → Agrees e := by
    rintro e ⟨n, rfl⟩
    trivial
  refine acceptSegment_log hev trivial fun hc => acceptPayload_agrees _ _ fun hasks hpass => ?_
  obtain ⟨hw, _⟩ := acceptWindow_accounts s (St.ackOff s.data s.packet) i.now
  have hsame : (beforePayload s i).data.sentFinToClient = s.data.sentFinToClient :=
    (acceptAck_sent _ _ _).trans hw.sentFinToClient
  rw [hsame]
  refine hsent (beforePayload_asks hc hasks) ?_
  rw [← hpass]
  exact congrArg (clockTest i.nowAcknowledge) (beforePayload_clock s i).symm

theorem openConnected_agrees (IP_MSS : U16) (i : ClientInput) (res : Int) :
    Adds Agrees s.log (s.openConnected IP_MSS i res).log := by
  -- the answer to the SYN is sent before the session leaves CLOSED
  have h1 : ∀ q, Agrees (.sendBack { St.opened s.data IP_MSS s.packet i with
      lastTimeSentNewData := i.now } q) := fun q hq =>
    absurd (show States.CLOSED = .ESTABLISHED from hq) (by decide)
  unfold St.openConnected
  dsimp only
  split_ifs
  · simp only [St.sendSynAck, St.sendBack_log, St.setIn_log, St.setIn_data, St.setIn_packet]
    exact Adds.one _ (h1 _)
  · simp only [St.setIn_log]
    exact Adds.refl _ _

end

/-- the delayed acknowledgement, if it answers the packet, is not sent after the server's FIN -/
def AckReady (s : St) (p : Packet) (i : ClientInput) : Prop :=
  packetAsks s.data p = true →
    clockTest i.nowAcknowledge s.shared.lastTimeSentAcknowledge = true → s.data.sentFinToClient = false

instance (s : St) (p : Packet) (i : ClientInput) : Decidable (AckReady s p i) :=
  inferInstanceAs (Decidable (_ → _ → _))

theorem handlePacket_agrees {IP_MSS : U16} {s : St} {i : ClientInput}
    (hcan : canHandle s.data s.packet = true) (h : AckReady s s.packet i) :
    Adds Agrees s.log (s.handlePacket IP_MSS i).log := by
  have hstep := handlePacket_step IP_MSS s i
  generalize s.handlePacket IP_MSS i = s' at hstep ⊢
  cases hstep with
  | same => exact Adds.refl _ _
  | reset => exact sendReset_agrees s
  | ack hs => exact sendAck_agrees s
  | synAck hs => exact sendSynAck_agrees s (by rw [hs]; decide)
  | opened res hs hsyn hack hshift hres => exact openConnected_agrees s IP_MSS i res
  | closed hs hsyn hrst hwin =>
    rw [St.closeSession_log]
    exact Adds.one _ trivial
  | established hs hseq hack =>
    simp only [St.establish, St.setIn_log]
    exact Adds.refl _ _
  | accepted hs hsyn hrst hack hseq hrange =>
    refine acceptSegment_agrees s i fun hasks => h ?_
    exact decide_eq_true ⟨hcan, hs, by simp [hsyn], by simp [hrst], hack, hseq, hrange, hasks⟩

theorem receiveFromClient_agrees {IP_MSS : U16} {s : St} {p : Packet} {i : ClientInput}
    (h : AckReady s p i) : Adds Agrees s.log (receiveFromClient IP_MSS s p i).2.log := by
  unfold receiveFromClient
  split_ifs with hcan
  · exact @handlePacket_agrees IP_MSS { s with packet := p } i hcan h
  · exact Adds.refl _ _

/-! ## the segments of `sendDataStartingFrom` -/

/-- An empty segment at the bound is in place: it comes right behind what is counted as sent, and
behind the FIN that it sets if the bound is the end of the buffer. -/
structure EmptyInPlace (d : Data) (bound : U32) : Prop where
  count : d.sendNextOffset.toNat + (if bound = d.sendBuffer.position then 1 else 0) = bound.toNat
  fin : bound ≠ d.sendBuffer.position → d.sentFinToClient = false

theorem segments_sendBack (s : St) (p : Packet) :
    segments (s.sendBack p).log = segments s.log ++ [p] := segments_append _ _

section
variable {s : St} {mss : U16} {push : Bool} {bound off : U32}

theorem sendSegment_agrees (hmss : 0 < mss.toNat) (hb : bound ≤ s.data.sendBuffer.position)
    (ho : off ≤ bound) (hf : s.data.receiveFromClientFinished = false)
    (hempty : off = bound → s.data.receiveFromServerFinished = true ∧ EmptyInPlace s.data bound) :
    Adds Agrees s.log (s.sendSegment mss bound
      (s.data.receiveSent + s.data.receiveBuffer.position) off).log := by
  have hamt := @sendAmount_toNat mss _ _ ho
  have hack : ∀ fin, s.data.receiveSent + s.data.receiveBuffer.position =
      nextExpected { s.data with sentFinToClient := fin } := by
    intro fin
    show _ = s.data.receiveSent + s.data.receiveBuffer.position +
      b32 s.data.receiveFromClientFinished
    rw [hf, add_b32_false]
  obtain ⟨p, h1, _, h2, h3, _⟩ := @sendSegment_slice s mss bound
    (s.data.receiveSent + s.data.receiveBuffer.position) off hb ho
  -- a segment without payload begins at the bound
  have hoff : p.payload = [] → off = bound := by
    intro hp
    rw [hp, List.length_nil, hamt] at h2
    bv_omega
  have hzero : off = bound → off + St.sendAmount mss bound off = bound := by
    intro h
    refine BitVec.eq_of_toNat_eq ?_
    rw [add_sendAmount_toNat ho, h]
    omega
  unfold St.sendSegment at h1 ⊢
  dsimp only at h1 ⊢
  split_ifs at h1 ⊢ with hfin
  · rw [segments_sendBack] at h1
    obtain rfl := List.singleton_inj.mp (List.append_cancel_left h1)
    refine Adds.one _ fun _ _ _ => ⟨hack true, fun hp => ?_⟩
    have h4 := hoff hp
    have h5 := (hempty h4).2.count
    rw [if_pos ((hzero h4).symm.trans hfin.2)] at h5
    rw [h3, h4]
    show _ = s.data.sendUnacknowledged + s.data.sendNextOffset + 1
    bv_omega
  · rw [segments_sendBack] at h1
    obtain rfl := List.singleton_inj.mp (List.append_cancel_left h1)
    refine Adds.one _ fun _ _ _ => ⟨hack s.data.sentFinToClient, fun hp => ?_⟩
    have h4 := hoff hp
    obtain ⟨hended, h5⟩ := hempty h4
    have h6 : bound ≠ s.data.sendBuffer.position :=
      fun hc => hfin ⟨hended, (hzero h4).trans hc⟩
    have h7 := h5.count
    rw [if_neg h6] at h7
    rw [h3, h4, h5.fin h6, add_b32_false]
    bv_omega

theorem sendLoop_agrees (hmss : 0 < mss.toNat) (turns : Nat) (hb : bound ≤ s.data.sendBuffer.position)
    (ho : off.toNat ≤ 65535) (hf : s.data.receiveFromClientFinished = false)
    (hempty : St.sendMore s.data mss push bound bound = true → EmptyInPlace s.data bound) :
    Adds Agrees s.log (St.sendLoop mss push bound
      (s.data.receiveSent + s.data.receiveBuffer.position) turns off s).2.log := by
  have hpos := s.data.sendBuffer.position_le
  induction turns generalizing off s with
  | zero =>
    unfold St.sendLoop
    split_ifs <;> exact Adds.refl _ _
  | succ turns ih =>
    by_cases hmore : St.sendMore s.data mss push bound off = true
    · have hle : off ≤ bound := off_le_of_sendMore (by bv_omega) ho hmore
      have hd := sendSegment_data s mss bound (s.data.receiveSent + s.data.receiveBuffer.position) off
      have hamt := @off_add_sendAmount_le mss _ _ hle
      have hended : off = bound → s.data.receiveFromServerFinished = true := by
        rintro rfl
        rw [sendMore_iff (by bv_omega) ho] at hmore
        by_contra hc
        rw [if_neg hc] at hmore
        omega
      have h1 := sendSegment_agrees hmss hb hle hf
        fun h => ⟨hended h, hempty (h ▸ hmore)⟩
      have h2 := @ih (s.sendSegment mss bound (s.data.receiveSent + s.data.receiveBuffer.position) off)
        (off + St.sendAmount mss bound off) (by rw [hd]; exact hb) (by bv_omega) (by rw [hd]; exact hf)
        (by
          intro hm
          rw [hd] at hm ⊢
          have h3 := hempty hm
          refine ⟨h3.count, fun hne => ?_⟩
          -- short of the end of the buffer no FIN is set
          have h4 : off + St.sendAmount mss bound off ≠ s.data.sendBuffer.position := by
            intro hc
            refine hne ?_
            show bound = s.data.sendBuffer.position
            bv_omega
          show (s.data.sentFinToClient || _) = false
          rw [h3.fin hne, Bool.false_or, decide_eq_false h4, Bool.and_false])
        (by rw [hd]; exact hpos)
      rw [hd] at h2
      unfold St.sendLoop
      rw [if_pos hmore]
      exact h1.trans h2
    · rw [sendLoop_stop _ hmore]
      exact Adds.refl _ _

theorem sendData_agrees (hmss : 0 < mss.toNat) (hb : bound ≤ s.data.sendBuffer.position)
    (ho : off.toNat ≤ 65535) (hf : s.data.receiveFromClientFinished = false)
    (hempty : St.sendMore s.data mss push bound bound = true → EmptyInPlace s.data bound) (now : Int)
    (turns : Nat) : Adds Agrees s.log (s.sendDataStartingFrom off mss push bound now turns).log := by
  have h1 := @sendLoop_agrees { s with packet := s.packet.setWindow s.data.receiveBuffer.available }
    mss push bound off hmss turns hb ho hf hempty
  unfold St.sendDataStartingFrom
  dsimp only
  split_ifs
  · exact h1
  · rw [sentUpTo_log]
    exact h1

/-- no run comes to an empty segment unless it pushes at the end of the stream -/
theorem ended_of_sendMore {d : Data} (hmss : 0 < mss.toNat) (hb : bound.toNat ≤ 65535)
    (h : St.sendMore d mss push bound bound = true) : push = true ∧ d.receiveFromServerFinished = true := by
  rw [sendMore_iff hb hb] at h
  cases push with
  | true =>
    refine ⟨rfl, ?_⟩
    by_contra hc
    rw [if_neg hc] at h
    simp at h
  | false =>
    rw [if_neg (by decide)] at h
    split_ifs at h <;> omega

end

/-! ## `flushDataToClient` -/

/-- the distance of the probes is never negative -/
theorem Timed.interval {IP_MSS : U16} {d : Data} (h : Timed IP_MSS d) :
    0 ≤ ms d.getIntervalToNextProbe := by
  have h1 : 0 ≤ d.getMeanRTT :=
    Int.tdiv_nonneg (List.sum_nonneg h.rtt) (Int.natCast_nonneg _)
  have h2 : 0 ≤ d.getIntervalToNextProbe := Int.mul_nonneg (Int.natCast_nonneg _) h1
  unfold ms
  omega

section
variable {IP_MSS : U16} {s : St} {now : Int} {turns : Nat}

/-- data that the first block sends is marked with the time -/
theorem flushSegments_marks_time (hmss : 0 < s.data.mss.toNat) (hnext : s.data.sendNextOffset = 0)
    (hnew : St.newDataDue s.data (St.sendBound s.data) = true)
    (hret : (s.sendDataStartingFrom s.data.sendNextOffset s.data.mss false (St.sendBound s.data) now
      (turns + 1)).hung = false) :
    (s.sendDataStartingFrom s.data.sendNextOffset s.data.mss false (St.sendBound s.data) now
      (turns + 1)).data.lastTimeSentNewData = now := by
  have hb := sendBound_le s.data
  have hpos := s.data.sendBuffer.position_le
  obtain ⟨ack, h1, _, _, _, h5⟩ := sendData_spec s s.data.sendNextOffset s.data.mss false
    (St.sendBound s.data) now (turns + 1)
  let u : St := { s with packet := s.packet.setWindow s.data.receiveBuffer.available }
  have hlt : s.data.mss.toNat < (St.sendBound s.data).toNat := by
    unfold St.newDataDue at hnew
    rw [decide_eq_true_eq, hnext, BitVec.lt_def, mss_toNat] at hnew
    simpa using hnew
  have hle : (0 : U32) ≤ St.sendBound s.data := by bv_omega
  have hamt := @add_sendAmount_toNat s.data.mss _ _ hle
  have hmore : St.sendMore u.data s.data.mss false (St.sendBound s.data) s.data.sendNextOffset = true := by
    rw [sendMore_iff (by bv_omega) (by bv_omega), hnext]
    simp
    omega
  refine h5 (h1.symm.trans hret) ?_
  rw [St.sendLoop, if_pos hmore, hnext]
  have h6 := (sendLoop_spec s.data.mss false ack turns
    (show St.sendBound s.data ≤ (u.sendSegment s.data.mss (St.sendBound s.data) ack 0).data.sendBuffer.position
      by rw [sendSegment_data]; exact hb)
    (show 0 + St.sendAmount s.data.mss (St.sendBound s.data) 0 ≤
      (u.sendSegment s.data.mss (St.sendBound s.data) ack 0).data.sendBuffer.position
      by rw [sendSegment_data]
         exact BitVec.le_trans (off_add_sendAmount_le hle) hb)).le
  rw [BitVec.lt_def]
  refine Nat.lt_of_lt_of_le ?_ (BitVec.le_def.mp h6)
  bv_omega

/-- At the end of the server's stream, without the client's FIN, the first block returns only if it
sends new data with the FIN still missing, or nothing. -/
theorem flushSegments_ended (h : Entered IP_MSS s) (hmss : 0 < IP_MSS)
    (hf : s.data.flushToClientFinished = false) (hfin : s.data.receiveFromClientFinished = false)
    (hended : s.data.receiveFromServerFinished = true)
    (hret : (s.flushSegments (St.sendBound s.data) now turns).hung = false) :
    let t := s.flushSegments (St.sendBound s.data) now turns
    St.resendDue s.data now = false ∧
      (t.data.lastTimeSentNewData = now ∧ St.finNotSent s.data = false ∨
        t = s ∧ St.newDataDue s.data (St.sendBound s.data) = false) := by
  have hm := h.rep.marks
  have hb := sendBound_le s.data
  have hpos := s.data.sendBuffer.position_le
  have hresend : St.resendDue s.data now = false := by
    by_contra hc
    rw [Bool.not_eq_false] at hc
    have hpush : St.finNotAcknowledged s.data = true := by
      unfold St.finNotAcknowledged
      rw [hended, hf]
      rfl
    have e : s.flushSegments (St.sendBound s.data) now turns = s.sendDataStartingFrom 0 s.data.mss
        true (St.sendBound s.data) now (turns + 1) := by
      unfold St.flushSegments
      rw [if_pos hc, hpush]
    rw [e] at hret
    exact absurd (hret.symm.trans (sendData_hangs hended (by bv_omega) (by bv_omega) _ _)) (by decide)
  refine ⟨hresend, ?_⟩
  have hnext := sendNextOffset_eq hresend
  by_cases hnew : St.newDataDue s.data (St.sendBound s.data) = true
  · refine .inl ⟨?_, ?_⟩
    · have e : s.flushSegments (St.sendBound s.data) now turns =
          let t := s.sendDataStartingFrom s.data.sendNextOffset s.data.mss false (St.sendBound s.data)
            now (turns + 1)
          if t.hung then t else t.trackRTT now := by
        unfold St.flushSegments
        rw [if_neg (by rw [hresend]; decide), if_pos hnew]
      rw [e] at hret ⊢
      dsimp only at hret ⊢
      split_ifs at hret ⊢ with hung
      · exact absurd (hret.symm.trans hung) (by decide)
      · rw [(trackRTT_keeps _ _).2.2.2.2]
        exact flushSegments_marks_time (h.mss_pos hmss) hnext hnew (by simpa using hung)
    · -- the FIN would have been sent behind all of the buffer
      by_contra hc
      unfold St.finNotSent at hc
      rw [hfin, Bool.not_eq_false, decide_eq_true_eq] at hc
      have h1 := (hm.fin (by simpa using Ne.symm hc)).2
      unfold St.newDataDue at hnew
      rw [decide_eq_true_eq] at hnew
      bv_omega
  · refine .inr ⟨?_, by simpa using hnew⟩
    unfold St.flushSegments
    rw [if_neg (by rw [hresend]; decide), if_neg hnew]

/-- The condition on a call of `flushDataToClient`: if it sends, the client's FIN is not there; and
if it pushes at the end of the server's stream, the empty segments it comes to are in place. -/
def FlushInPlace (d : Data) (now : Int) : Prop :=
  d.state = .ESTABLISHED → d.flushToClientFinished = false → sendsSegment d now = true →
    d.receiveFromClientFinished = false ∧ (PushesAtEnd d now → d.sendNextOffset.toNat +
      (if St.sendBound d = d.sendBuffer.position then 1 else 0) = (St.sendBound d).toNat)

instance (d : Data) (now : Int) : Decidable (FlushInPlace d now) :=
  inferInstanceAs (Decidable (_ → _ → _ → _ ∧ (_ → _)))

theorem emptyInPlace_pushes (h : Entered IP_MSS s) (hf : s.data.flushToClientFinished = false)
    (hin : PushesAtEnd s.data now → s.data.sendNextOffset.toNat +
      (if St.sendBound s.data = s.data.sendBuffer.position then 1 else 0) = (St.sendBound s.data).toNat)
    (hp : PushesAtEnd s.data now) : EmptyInPlace s.data (St.sendBound s.data) := by
  have h1 := hin hp
  refine ⟨h1, fun hne => ?_⟩
  by_contra hc
  have h2 := (h.rep.marks.fin (by simpa using hc)).2
  rw [if_neg hne] at h1
  bv_omega

/-- the first block -/
theorem flushSegments_agrees (h : Entered IP_MSS s) (hmss : 0 < IP_MSS)
    (hf : s.data.flushToClientFinished = false) (hfin : s.data.receiveFromClientFinished = false)
    (hin : PushesAtEnd s.data now → EmptyInPlace s.data (St.sendBound s.data)) :
    Adds Agrees s.log (s.flushSegments (St.sendBound s.data) now turns).log := by
  have hm := h.mss_pos hmss
  have hb := sendBound_le s.data
  have hpos := s.data.sendBuffer.position_le
  have hnext := h.rep.marks.next
  unfold St.flushSegments
  dsimp only
  split_ifs with h1 h2 h3
  · refine sendData_agrees hm hb (by decide) hfin (fun hmore => hin ?_) now _
    exact ⟨(ended_of_sendMore hm (by bv_omega) hmore).2, hf, .inl h1⟩
  · exact sendData_agrees hm hb (by bv_omega) hfin
      (fun hmore => absurd (ended_of_sendMore hm (by bv_omega) hmore).1 (by decide)) now _
  · rw [(trackRTT_keeps _ _).2.1]
    exact sendData_agrees hm hb (by bv_omega) hfin
      (fun hmore => absurd (ended_of_sendMore hm (by bv_omega) hmore).1 (by decide)) now _
  · exact Adds.refl _ _

/-- what the second block leaves for the probe -/
theorem flushRest_probes {t : St} {bound : U32} {fin : Bool} (hm : Marks t.data)
    (hb : bound ≤ t.data.sendBuffer.position)
    (hret : (t.flushRest bound fin now turns).hung = false) :
    Marks (t.flushRest bound fin now turns).data ∧
      (t.flushRest bound fin now turns).data.still = t.data.still := by
  unfold St.flushRest at hret ⊢
  split_ifs at hret ⊢
  · obtain ⟨_, _, _, h1, _⟩ := sendData_spec t t.data.sendNextOffset t.data.mss true bound now
      (turns + 1)
    exact ⟨hm.sendData hb hm.next _ _ _ _ hret, h1⟩
  · exact ⟨hm, rfl⟩

/-- the second block and the probe, behind a first block that returned -/
theorem flushRest_agrees (h : Entered IP_MSS s) (hmss : 0 < IP_MSS)
    (hf : s.data.flushToClientFinished = false) (hfin : s.data.receiveFromClientFinished = false)
    (hin : PushesAtEnd s.data now → EmptyInPlace s.data (St.sendBound s.data))
    (hret : (s.flushSegments (St.sendBound s.data) now turns).hung = false) :
    let t := s.flushSegments (St.sendBound s.data) now turns
    let u := t.flushRest (St.sendBound s.data) (St.finNotSent s.data) now turns
    Adds Agrees t.log u.log ∧ (u.hung = false → Adds Agrees u.log (u.probe now).log) := by
  have hm := h.mss_pos hmss
  have hb := sendBound_le s.data
  have hpos := s.data.sendBuffer.position_le
  have hmarks := h.rep.marks.flushSegments now turns hret
  have hstill := flushSegments_still s (St.sendBound s.data) now turns
  have hends := fun hended => @flushSegments_ended IP_MSS s now turns h hmss hf hfin hended hret
  generalize s.flushSegments (St.sendBound s.data) now turns = t at hret hmarks hstill hends ⊢
  obtain ⟨hended, hmss', hrtt⟩ := still_eq hstill
  have hbuf := congrArg Data.sendBuffer hstill
  have hfin' := congrArg Data.receiveFromClientFinished hstill
  dsimp only [Data.still] at hbuf hfin'
  have hmean := h.timed.mean
  -- at the end of the stream, either nothing is pushed or the first block did nothing
  have hpush : t.data.receiveFromServerFinished = true →
      St.pushDue t.data (St.sendBound s.data) (St.finNotSent s.data) now = true →
      t = s ∧ PushesAtEnd s.data now := by
    intro he hdue
    rw [hended] at he
    obtain ⟨hresend, ⟨htime, hsent⟩ | ⟨rfl, hnew⟩⟩ := hends he
    · unfold St.pushDue Data.getMeanRTT at hdue
      unfold Data.getMeanRTT at hmean
      rw [decide_eq_true_eq, htime, hsent, hrtt] at hdue
      rcases hdue with ⟨_, h1⟩ | h1
      · omega
      · exact absurd h1 (by decide)
    · exact ⟨rfl, he, hf, .inr (by rw [hnew]; exact hdue)⟩
  have hposition : St.sendBound s.data ≤ t.data.sendBuffer.position := by
    rw [hbuf]
    exact hb
  have hnext := hmarks.next
  have htpos := t.data.sendBuffer.position_le
  refine ⟨?_, fun hu => ?_⟩
  · unfold St.flushRest
    split_ifs with hdue
    · refine sendData_agrees (by rw [hmss']; exact hm) hposition (by bv_omega)
        (hfin'.trans hfin) (fun hmore => ?_) now _
      obtain ⟨rfl, hp⟩ := hpush
        (ended_of_sendMore (by rw [hmss']; exact hm) (by bv_omega) hmore).2 hdue
      exact hin hp
    · exact Adds.refl _ _
  · obtain ⟨hu1, hu2⟩ := flushRest_probes hmarks hposition hu
    have hsent : St.probeDue (t.flushRest (St.sendBound s.data) (St.finNotSent s.data) now turns).data
        now = true → (t.flushRest (St.sendBound s.data) (St.finNotSent s.data) now
          turns).data.sentFinToClient = false := by
      intro hprobe
      by_contra hc
      rw [Bool.not_eq_false] at hc
      have hte : t.data.receiveFromServerFinished = true :=
        (still_eq hu2).1.symm.trans (hu1.fin hc).1
      obtain ⟨hresend, hcase⟩ := hends (hended.symm.trans hte)
      have hquiet : St.pushDue t.data (St.sendBound s.data) (St.finNotSent s.data) now = false := by
        by_contra hdue
        rw [Bool.not_eq_false] at hdue
        obtain ⟨rfl, _⟩ := hpush hte hdue
        have h1 := @flushRest_hangs now t (St.sendBound t.data) hte (by bv_omega)
          (by rw [sendNextOffset_eq hresend]; bv_omega) _ hdue turns
        exact absurd (hu.symm.trans h1) (by decide)
      have e : t.flushRest (St.sendBound s.data) (St.finNotSent s.data) now turns = t := by
        unfold St.flushRest
        rw [if_neg (by rw [hquiet]; decide)]
      rw [e] at hprobe hc
      rcases hcase with ⟨htime, _⟩ | ⟨rfl, _⟩
      · have h1 := (h.timed.keep hmss' hrtt).interval
        unfold St.probeDue at hprobe
        rw [decide_eq_true_eq, htime] at hprobe
        omega
      · unfold St.pushDue at hquiet
        rw [decide_eq_false_iff_not, not_or] at hquiet
        refine hquiet.2 ?_
        unfold St.finNotSent
        rw [hfin, hc]
        rfl
    have hfinU := congrArg Data.receiveFromClientFinished hu2
    dsimp only [Data.still] at hfinU
    unfold St.probe
    split_ifs with hprobe
    · refine Adds.one _ fun _ _ _ => ⟨?_, fun _ => ?_⟩
      · show _ = _ + _ + b32 _
        rw [hfinU.trans (hfin'.trans hfin), add_b32_false]
        rfl
      · show _ = _ + _ + b32 _
        rw [hsent hprobe, add_b32_false]
        rfl
    · exact Adds.refl _ _

/-- **What `flushDataToClient` sends.** -/
theorem flushDataToClient_agrees (hrep : Represented s.data) (htimed : Timed IP_MSS s.data)
    (hh : s.hung = false) (hmss : 0 < IP_MSS) (hready : FlushInPlace s.data now) :
    Adds Agrees s.log (s.flushDataToClient now turns).log := by
  by_cases hopen : s.data.state = .ESTABLISHED ∧ s.data.flushToClientFinished = false
  · obtain ⟨hs, hf⟩ := hopen
    cases hsend : sendsSegment s.data now with
    | false =>
      rw [flushDataToClient_silent hs hf hh hsend]
      exact Adds.refl _ _
    | true =>
      obtain ⟨hfin, hcount⟩ := hready hs hf hsend
      have h : Entered IP_MSS s := ⟨hs, hh, hrep, htimed⟩
      have hin := emptyInPlace_pushes h hf hcount
      have h1 := @flushSegments_agrees IP_MSS s now turns h hmss hf hfin hin
      rw [flushDataToClient_blocks hs hf]
      dsimp only
      split_ifs with h2 h3
      · exact h1
      · exact h1.trans (flushRest_agrees h hmss hf hfin hin (by simpa using h2)).1
      · obtain ⟨h4, h5⟩ := @flushRest_agrees IP_MSS s now turns h hmss hf hfin hin (by simpa using h2)
        exact (h1.trans h4).trans (h5 (by simpa using h3))
  · have e : s.flushDataToClient now turns = s := by
      unfold St.flushDataToClient
      rw [if_pos]
      by_contra h
      rw [not_or, not_not, Bool.not_eq_true] at h
      exact hopen h
    rw [e]
    exact Adds.refl _ _

end

/-! ## the calls -/

/-- The condition on a call. -/
def NumbersReady (s : St) : Op → Prop
  | .receiveFromClient p i => AckReady s p.val i
  | .flushDataToClient now _ => FlushInPlace s.data now
  | .receiveFromServer r now _ => s.data.receiveFromServerFinished = false →
      FlushInPlace (s.readFromServer r).data now
  | _ => True

instance (s : St) : ∀ op, Decidable (NumbersReady s op)
  | .receiveFromClient p i => inferInstanceAs (Decidable (AckReady s p.val i))
  | .flushDataToClient now _ => inferInstanceAs (Decidable (FlushInPlace s.data now))
  | .receiveFromServer r now _ => inferInstanceAs (Decidable
      (s.data.receiveFromServerFinished = false → FlushInPlace (s.readFromServer r).data now))
  | .flushDataToServer _ _ _ _ => .isTrue trivial
  | .onSocketError => .isTrue trivial
  | .checkStatus _ _ => .isTrue trivial
  | .closeSession => .isTrue trivial

section
variable {IP_MSS : U16} {s : St}

theorem resetClient_agrees (s : St) : Adds Agrees s.log s.resetClient.log := by
  unfold St.resetClient
  dsimp only
  rw [St.closeSession_log, St.sendBack_log]
  exact (Adds.one _ (resetSeq_agrees _ rfl)).trans (Adds.one _ trivial)

theorem flushDataToServer_agrees (lastError : Int) (r : SendResult) (now now' : Int) :
    Adds Agrees s.log (s.flushDataToServer lastError r now now').log := by
  have send : ∀ bs n, Adds Agrees s.log ((s.emit (.sent bs)).finishSend n).log := by
    intro bs n
    have h1 : Adds Agrees s.log (s.emit (.sent bs)).log := Adds.one _ trivial
    refine h1.trans ?_
    unfold St.finishSend
    dsimp only
    split_ifs
    · rw [St.closeSession_log, St.unsetFrom_log]
      exact Adds.one _ trivial
    · simp only [St.emit_log, St.unsetFrom_log]
      exact Adds.one _ trivial
    · simp only [St.unsetFrom_log]
      exact Adds.refl _ _
    · exact Adds.refl _ _
  unfold St.flushDataToServer
  split_ifs with hs
  · unfold St.finishConnect
    dsimp only
    split_ifs
    · exact Adds.refl _ _
    · simp only [St.unsetFrom_log, St.sendBack_log]
      refine Adds.one _ fun hc => ?_
      exact absurd (hs.symm.trans hc) (by decide)
    · rw [St.closeSession_log, St.sendBack_log]
      exact (Adds.one _ (resetAck_agrees _ rfl)).trans (Adds.one _ trivial)
  · exact Adds.refl _ _
  · cases r with
    | error => exact resetClient_agrees s
    | accepted n => exact send _ _
    | wouldBlock => exact send _ _

theorem step_agrees (hrep : Represented s.data) (htimed : Timed IP_MSS s.data) (hh : s.hung = false)
    (hmss : 0 < IP_MSS) {op : Op} (hready : NumbersReady s op) :
    Adds Agrees s.log (step IP_MSS s op).log := by
  unfold step
  rw [if_neg (by simp [hh])]
  cases op with
  | receiveFromClient p i => exact receiveFromClient_agrees hready
  | receiveFromServer r now turns =>
    dsimp only
    by_cases h0 : s.data.state = .ESTABLISHED ∧ s.data.receiveFromServerFinished = false
    · rw [receiveFromServer_log h0.1 h0.2]
      refine Adds.trans ?_ (flushDataToClient_agrees (hrep.read h0.2 r) (htimed.read r)
        ((readFromServer_hung s r).trans hh) hmss (hready h0.2))
      refine (readFromServer_read s r).log.mono ?_
      rintro e ⟨bs, rfl⟩
      trivial
    · rw [receiveFromServer_skip h0]
      exact Adds.refl _ _
  | flushDataToServer lastError r now now' => exact flushDataToServer_agrees lastError r now now'
  | flushDataToClient now turns => exact flushDataToClient_agrees hrep htimed hh hmss hready
  | onSocketError => exact resetClient_agrees s
  | checkStatus now now' =>
    dsimp only
    rcases checkStatus_cases s now now' with ⟨_, h⟩ | ⟨_, h⟩ | ⟨_, h⟩
    · rw [h]
      exact Adds.refl _ _
    · rw [h]
      exact Adds.refl _ _
    · rw [h, St.closeSession_log]
      exact Adds.one _ trivial
  | closeSession =>
    dsimp only
    rw [St.closeSession_log]
    exact Adds.one _ trivial

end

/-! ## any number of sessions -/

section
variable {ι : Type*} [DecidableEq ι] {IP_MSS : U16}

/-- the condition on a call of a session -/
def CallNumbersReady (w : Sessions ι) (c : ι × Op) : Prop := NumbersReady (w.at c.1) c.2

instance (w : Sessions ι) (c : ι × Op) : Decidable (CallNumbersReady w c) :=
  inferInstanceAs (Decidable (NumbersReady (w.at c.1) c.2))

/-- what holds along a run whose calls are ready -/
structure Numbered (IP_MSS : U16) (w : Sessions ι) : Prop where
  rep : w.hung = false → ∀ n, Represented (w.data n)
  timed : ∀ n, Timed IP_MSS (w.data n)
  agrees : ∀ e ∈ w.log, Agrees e

omit [DecidableEq ι] in
theorem Numbered.start (shared : Shared) (tcpPacket : Packet) :
    Numbered IP_MSS (Sessions.start IP_MSS shared tcpPacket : Sessions ι) := by
  let s : St := ⟨.init IP_MSS, shared, tcpPacket, [], false⟩
  refine ⟨fun _ _ => @represented_reached IP_MSS s [] rfl rfl, fun _ => ?_, fun e he => ?_⟩
  · exact timed_reached (show s.data = .init IP_MSS from rfl) []
  · exact absurd he List.not_mem_nil

theorem Numbered.call {w : Sessions ι} (h : Numbered IP_MSS w) (hmss : 0 < IP_MSS) {c : ι × Op}
    (hready : CallNumbersReady w c) : Numbered IP_MSS (callStep IP_MSS w c) := by
  have htimed : ∀ n, Timed IP_MSS ((callStep IP_MSS w c).data n) := by
    intro n
    show Timed IP_MSS (Function.update w.data c.1 (step IP_MSS (w.at c.1) c.2).data n)
    rcases eq_or_ne n c.1 with rfl | hne
    · rw [Function.update_self]
      exact (show Timed IP_MSS (w.at c.1).data from h.timed c.1).call c.2
    · rw [Function.update_of_ne hne]
      exact h.timed n
  by_cases hs : w.hung = true
  · -- no call follows one that did not return
    have e : step IP_MSS (w.at c.1) c.2 = w.at c.1 := if_pos hs
    refine ⟨fun hc => ?_, htimed, ?_⟩
    · have h1 : (step IP_MSS (w.at c.1) c.2).hung = false := hc
      rw [e] at h1
      exact absurd (hs.symm.trans h1) (by decide)
    · show ∀ e ∈ (step IP_MSS (w.at c.1) c.2).log, Agrees e
      rw [e]
      exact h.agrees
  · have hs' : w.hung = false := by simpa using hs
    have hrep : Represented (w.at c.1).data := h.rep hs' c.1
    obtain ⟨es, hlog, hes⟩ := step_agrees hrep (h.timed c.1) (show (w.at c.1).hung = false from hs')
      hmss hready
    refine ⟨fun hc n => ?_, htimed, fun e he => ?_⟩
    · show Represented (Function.update w.data c.1 (step IP_MSS (w.at c.1) c.2).data n)
      rcases eq_or_ne n c.1 with rfl | hne
      · rw [Function.update_self]
        exact hrep.call c.2 hc
      · rw [Function.update_of_ne hne]
        exact h.rep hs' n
    · have h1 : e ∈ (step IP_MSS (w.at c.1) c.2).log := he
      rw [hlog] at h1
      exact (List.mem_append.mp h1).elim (h.agrees e) (hes e)

/-- **The numbers of all ACKs agree**, in every run of any number of fresh sessions whose calls are
ready: what an established session acknowledges is what it accepts next, and a segment without
payload has the number behind all that was sent. -/
theorem run_agrees (hmss : 0 < IP_MSS) (shared : Shared) (tcpPacket : Packet) {calls : List (ι × Op)}
    (hready : Along (callStep IP_MSS) CallNumbersReady (Sessions.start IP_MSS shared tcpPacket) calls)
    {d : Data} {p : Packet}
    (hp : .sendBack d p ∈ (run (callStep IP_MSS) (Sessions.start IP_MSS shared tcpPacket) calls).log)
    (hs : d.state = .ESTABLISHED) (hack : p.isAck = true) (hrst : p.isReset = false) :
    (∀ q : Packet, St.inOrder d q = true ↔ q.getSequenceNumber = p.getAcknowledgmentNumber) ∧
      (p.payload = [] → p.getSequenceNumber =
        d.sendUnacknowledged + d.sendNextOffset + b32 d.sentFinToClient) := by
  have hrun := run_inv (Numbered IP_MSS) (fun w c h hc => h.call hmss hc)
    (Numbered.start shared tcpPacket) hready
  obtain ⟨h1, h2⟩ := hrun.agrees _ hp hs hack hrst
  exact ⟨fun q => h1 ▸ inOrder_iff d q, h2⟩

end

/-- the client's FIN is acknowledged -/
def finAcknowledged : List (Fin 1 × Op) :=
  [(0, opening), (0, .receiveFromClient (ackPacket clientA serverA 101 1000 1000) connected),
   (0, .receiveFromClient (finPacket clientA serverA 101 1001 1000) connected)]

theorem run_agrees_fin :
    ∃ d p, .sendBack d p ∈ (run (callStep 1) (Sessions.start 1 (unused 1).shared (unused 1).packet)
        finAcknowledged).log ∧ d.state = .ESTABLISHED ∧
      (∀ q : Packet, St.inOrder d q = true ↔ q.getSequenceNumber = p.getAcknowledgmentNumber) ∧
      (p.payload = [] → p.getSequenceNumber =
        d.sendUnacknowledged + d.sendNextOffset + b32 d.sentFinToClient) := by
  refine ⟨_, _, @List.mem_of_getElem? _ _ 1 _ rfl, rfl, ?_⟩
  exact @run_agrees (Fin 1) _ 1 (by decide) (unused 1).shared (unused 1).packet finAcknowledged
    (by decide) _ _ (@List.mem_of_getElem? _ _ 1 _ rfl) rfl rfl rfl

/-- the client's FIN is acknowledged, and then a byte of the server is sent on -/
def dataBehindFin : List (Fin 1 × Op) :=
  finAcknowledged ++ [(0, .receiveFromServer (.bytes [97]) 0 4)]

/-- the byte comes with an acknowledgement that leaves the FIN out again -/
theorem acknowledges_backwards :
    ¬ ∀ (ι : Type) [DecidableEq ι] (IP_MSS : U16), 0 < IP_MSS → ∀ (shared : Shared)
      (tcpPacket : Packet) (calls : List (ι × Op)) (d : Data) (p : Packet),
      .sendBack d p ∈ (run (callStep IP_MSS) (Sessions.start IP_MSS shared tcpPacket) calls).log →
      d.state = .ESTABLISHED → p.isAck = true → p.isReset = false →
      (∀ q : Packet, St.inOrder d q = true ↔ q.getSequenceNumber = p.getAcknowledgmentNumber) ∧
      (p.payload = [] → p.getSequenceNumber =
        d.sendUnacknowledged + d.sendNextOffset + b32 d.sentFinToClient) := by
  intro h
  have h1 : ∀ e ∈ (run (callStep 1) (Sessions.start 1 (unused 1).shared (unused 1).packet)
      dataBehindFin).log, Agrees e := by
    intro e he
    cases e with
    | sendBack d p =>
      intro hs hack hrst
      obtain ⟨h2, h3⟩ := h (Fin 1) 1 (by decide) _ _ dataBehindFin d p he hs hack hrst
      exact ⟨(inOrder_iff d (p.makeNormal p.getAcknowledgmentNumber 0)).mp ((h2 _).mpr rfl), h3⟩
    | sent bs => trivial
    | received bs => trivial
    | acknowledged n => trivial
    | shutdownWrite => trivial
    | onSocketClose => trivial
  revert h1
  decide

end TunServer.Sessions2
