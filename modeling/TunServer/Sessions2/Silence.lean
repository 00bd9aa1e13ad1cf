import TunServer.Base.Watchdog
import TunServer.Sessions2.Acknowledge
import TunServer.Sessions2.Clock

/-!
# What the timeout of an established session measures

`flushDataToClient` probes a client that is silent, and each probe makes `checkStatus` wait one mean
round trip longer.  The probes are counted from the last new data, the timeout from the last accepted
acknowledgement: as long as the probes come in time the timeout runs away from the clock, and what is
measured in the end is how long the client had been silent when new data were sent to it.

* `dog`         the session as a watchdog;
* `Beat`        what an observer writes down: the last reading of the clock and the last turn;
* `Steady`, `Prompt`   the clock goes forward, and the turns come at least once in a mean round trip;
* `Beats`       what one call does to the watchdog;
* `timed_out_behind`   a session that is turned in time times out only with new data behind a silence;
* `behind_times_out`   and behind a long silence new data make it time out.
-/

set_option linter.unusedVariables false

namespace TunServer.Sessions2

/-- new data, accepted acknowledgements and probes, by the marks `checkStatus` goes by -/
def dog (d : Data) : Watchdog Int where
  sent := d.lastTimeSentNewData
  heard := d.lastTimeAcceptedAcknowledgement
  waits := (d.sendRetryCount + 1).toNat
  period := ms d.getMeanRTT

/-- established, and not everything is acknowledged for good -/
def Probing (d : Data) : Prop := d.state = .ESTABLISHED ∧ d.flushToClientFinished = false

instance (d : Data) : Decidable (Probing d) := inferInstanceAs (Decidable (_ ∧ _))

/-! ## the observer -/

structure Beat where
  last : Int
  turned : Int

/-- when the last turn was: `flushDataToClient` makes one, and the end of the handshake counts as one -/
def turnedAt (s : St) (turned : Int) : Op → Int
  | .receiveFromClient _ i => if s.data.state = .ESTABLISHED then turned else i.now
  | .receiveFromServer _ now _ => if s.data.receiveFromServerFinished then turned else now
  | .flushDataToClient now _ => now
  | _ => turned

def beat (IP_MSS : U16) (v : St × Beat) (op : Op) : St × Beat :=
  (step IP_MSS v.1 op, ⟨op.readings.getLastD v.2.last, turnedAt v.1 v.2.turned op⟩)

/-- With the shortest round trip, `sendRetryCount` would not wrap around before this time: 6.8 years. -/
def CLOCK_END : Int := ms MIN_RTT * (2 ^ 32 - 1)

/-- the clock does not go back, nor on for too long -/
def Steady (v : St × Beat) (op : Op) : Prop :=
  (v.2.last :: op.readings).Pairwise (· ≤ ·) ∧ ∀ t ∈ op.readings, t < CLOCK_END

instance (v : St × Beat) (op : Op) : Decidable (Steady v op) := inferInstanceAs (Decidable (_ ∧ _))

/-- the reading that a turn or a check goes by -/
def Op.turnTime : Op → Option Int
  | .receiveFromServer _ now _ => some now
  | .flushDataToClient now _ => some now
  | .checkStatus _ now' => some now'
  | _ => none

/-- The last turn is not longer ago than a mean round trip. -/
def Prompt (v : St × Beat) (op : Op) : Prop :=
  Probing v.1.data → ∀ t ∈ op.turnTime, t - v.2.turned ≤ (dog v.1.data).period

instance (v : St × Beat) (op : Op) : Decidable (Prompt v op) := inferInstanceAs (Decidable (_ → _))

/-! ## the round trip times -/

/-- five round trip times, none of them too short -/
def Paced (d : Data) : Prop := d.rttHistory.length = 5 ∧ ∀ rtt ∈ d.rttHistory, MIN_RTT ≤ rtt

theorem Paced.of_history {d d' : Data} (h : Paced d) (he : d'.rttHistory = d.rttHistory) :
    Paced d' := by
  unfold Paced
  rw [he]
  exact h

theorem Paced.pushRTT {d d' : Data} (h : Paced d) {rtt : Int}
    (he : d'.rttHistory = (d.pushRTT rtt).rttHistory) : Paced d' := by
  unfold Paced
  rw [he]
  refine ⟨pushRTT_length h.1 rtt, fun r hr => ?_⟩
  rcases List.mem_append.mp hr with hr | hr
  · exact h.2 r (List.mem_of_mem_tail hr)
  · rw [List.mem_singleton.mp hr]
    exact le_max_right _ _

theorem Paced.mean {d : Data} (h : Paced d) : MIN_RTT ≤ d.getMeanRTT := by
  have h1 : d.rttHistory.length • MIN_RTT ≤ d.rttHistory.sum :=
    List.card_nsmul_le_sum d.rttHistory MIN_RTT h.2
  rw [h.1, nsmul_eq_mul] at h1
  unfold Data.getMeanRTT
  rw [h.1]
  unfold MIN_RTT at h1 ⊢
  rw [Int.tdiv_eq_ediv_of_nonneg (by omega)]
  omega

theorem Paced.period {d : Data} (h : Paced d) : ms MIN_RTT ≤ (dog d).period := by
  have h1 := h.mean
  show ms MIN_RTT ≤ ms d.getMeanRTT
  unfold ms
  omega

theorem dog_eq {d d' : Data} (hsent : d'.lastTimeSentNewData = d.lastTimeSentNewData)
    (hheard : d'.lastTimeAcceptedAcknowledgement = d.lastTimeAcceptedAcknowledgement)
    (hretry : d'.sendRetryCount = d.sendRetryCount) (hrtt : d'.rttHistory = d.rttHistory) :
    dog d' = dog d := by
  unfold dog Data.getMeanRTT
  rw [hsent, hheard, hretry, hrtt]

/-! ## a turn -/

/-- nothing of the watchdog changes, or new data are sent -/
def SendsAt (now : Int) (s t : St) : Prop :=
  dog t.data = dog s.data ∨ dog t.data = (dog s.data).send now

theorem SendsAt.refl (now : Int) (s : St) : SendsAt now s s := .inl rfl

theorem SendsAt.trans {now : Int} {s t u : St} (h : SendsAt now s t) (h' : SendsAt now t u) :
    SendsAt now s u := by
  unfold SendsAt at h' ⊢
  rcases h with h | h
  · rwa [h] at h'
  · rw [h] at h'
    rcases h' with h' | h'
    · exact .inr h'
    · exact .inr h'

theorem sendSegment_dog (s : St) (mss : U16) (bound ack off : U32) :
    dog (s.sendSegment mss bound ack off).data = dog s.data := by
  unfold St.sendSegment
  dsimp only
  split_ifs <;> rfl

theorem sendLoop_dog (mss : U16) (push : Bool) (bound ack : U32) (turns : Nat) (off : U32) (s : St) :
    dog (St.sendLoop mss push bound ack turns off s).2.data = dog s.data := by
  induction turns generalizing off s with
  | zero =>
    show dog (if _ then _ else _ : St).data = _
    split_ifs <;> rfl
  | succ turns ih =>
    unfold St.sendLoop
    split_ifs
    · rw [ih, sendSegment_dog]
    · rfl

theorem sentUpTo_sendsAt (s : St) (off : U32) (now : Int) : SendsAt now s (s.sentUpTo off now) := by
  unfold St.sentUpTo
  dsimp only
  generalize (if s.data.sendNextOffset < off then off else s.data.sendNextOffset) = newOff
  split_ifs
  · exact .inr rfl
  · exact .inl rfl

theorem sendDataStartingFrom_sendsAt (s : St) (off : U32) (mss : U16) (push : Bool) (bound : U32)
    (now : Int) (turns : Nat) :
    SendsAt now s (s.sendDataStartingFrom off mss push bound now turns) := by
  have h := sendLoop_dog mss push bound (s.data.receiveSent + s.data.receiveBuffer.position) turns off
    { s with packet := s.packet.setWindow s.data.receiveBuffer.available }
  unfold St.sendDataStartingFrom
  dsimp only
  split_ifs
  · exact .inl h
  · exact SendsAt.trans (.inl h) (sentUpTo_sendsAt _ _ now)

theorem flushSegments_sendsAt (s : St) (bound : U32) (now : Int) (turns : Nat) :
    SendsAt now s (s.flushSegments bound now turns) := by
  have track (t : St) : dog (t.trackRTT now).data = dog t.data := by
    unfold St.trackRTT
    split_ifs <;> rfl
  unfold St.flushSegments
  dsimp only
  split_ifs
  · exact sendDataStartingFrom_sendsAt s _ _ _ _ now _
  · exact sendDataStartingFrom_sendsAt s _ _ _ _ now _
  · exact (sendDataStartingFrom_sendsAt s _ _ _ _ now _).trans (.inl (track _))
  · exact .refl now s

theorem flushRest_sendsAt (s : St) (bound : U32) (finNotSent : Bool) (now : Int) (turns : Nat) :
    SendsAt now s (s.flushRest bound finNotSent now turns) := by
  unfold St.flushRest
  split_ifs
  · exact sendDataStartingFrom_sendsAt s _ _ _ _ now _
  · exact .refl now s

theorem probeDue_iff (d : Data) (now : Int) : St.probeDue d now = true ↔ (dog d).Due now := by
  unfold St.probeDue Watchdog.Due dog Data.getIntervalToNextProbe ms
  rw [decide_eq_true_eq, nsmul_eq_mul, mul_assoc, gt_iff_lt]

/-- Before the end of the clock the count of the probes has room for another one. -/
theorem due_room {w : Watchdog Int} {now : Int} (hperiod : ms MIN_RTT ≤ w.period) (h0 : 0 ≤ w.sent)
    (hend : now < CLOCK_END) (hdue : w.Due now) : w.waits + 1 < 2 ^ 32 := by
  have h1 : w.waits • ms MIN_RTT ≤ w.waits • w.period := nsmul_le_nsmul_right hperiod _
  have h2 : w.waits • w.period < now - w.sent := hdue
  rw [nsmul_eq_mul] at h1
  unfold CLOCK_END at hend
  unfold ms MIN_RTT at h1 hend
  omega

/-- `probe` is a probe of the watchdog, if it is time for one -/
theorem probe_turn {s : St} {now : Int} (hperiod : ms MIN_RTT ≤ (dog s.data).period)
    (h0 : 0 ≤ (dog s.data).sent) (hend : now < CLOCK_END) :
    (dog s.data).Turn now (dog (s.probe now).data) := by
  unfold St.probe
  split_ifs with h
  · have hdue := (probeDue_iff _ _).mp h
    have e : (s.data.sendRetryCount + 1 + 1).toNat = (s.data.sendRetryCount + 1).toNat + 1 := by
      have hroom : (s.data.sendRetryCount + 1).toNat + 1 < 2 ^ 32 := due_room hperiod h0 hend hdue
      bv_omega
    have hprobe : dog { s.data with sendRetryCount := s.data.sendRetryCount + 1 } =
        (dog s.data).probe := by
      unfold dog Watchdog.probe
      dsimp only
      rw [e]
      rfl
    show (dog s.data).Turn now (dog { s.data with sendRetryCount := s.data.sendRetryCount + 1 })
    rw [hprobe]
    exact .probed hdue
  · exact .waited fun hdue => h ((probeDue_iff _ _).mpr hdue)

/-- **`flushDataToClient` is a turn of the watchdog**, if it returns. -/
theorem flushDataToClient_turn {s : St} {now : Int} (turns : Nat) (hs : Probing s.data)
    (hperiod : ms MIN_RTT ≤ (dog s.data).period) (h0 : 0 ≤ (dog s.data).sent) (hnow : 0 ≤ now)
    (hend : now < CLOCK_END) :
    (dog s.data).Turn now (dog (s.flushDataToClient now turns).data) ∨
      (s.flushDataToClient now turns).hung = true ∧ SendsAt now s (s.flushDataToClient now turns) := by
  have h1 := flushSegments_sendsAt s (St.sendBound s.data) now turns
  have h2 := h1.trans (flushRest_sendsAt _ (St.sendBound s.data) (St.finNotSent s.data) now turns)
  have hzero : 0 ≤ (dog s.data).period := le_trans (by decide) hperiod
  unfold St.flushDataToClient
  rw [if_neg (by simp [hs.1, hs.2])]
  dsimp only
  split_ifs with hh1 hh2
  · exact .inr ⟨hh1, h1⟩
  · exact .inr ⟨hh2, h2⟩
  · refine .inl ?_
    generalize (s.flushSegments (St.sendBound s.data) now turns).flushRest (St.sendBound s.data)
      (St.finNotSent s.data) now turns = t at h2 ⊢
    rcases h2 with h2 | h2
    · rw [← h2] at hperiod h0 ⊢
      exact probe_turn hperiod h0 hend
    · have h3 : (dog t.data).Turn now (dog (t.probe now).data) :=
        probe_turn (by rw [h2]; exact hperiod) (by rw [h2]; exact hnow) hend
      rw [h2] at h3
      exact h3.of_send hzero

/-! ## the other calls -/

/-- the marks stay; what is acknowledged for good stays so -/
structure KeepsMarks (d d' : Data) : Prop where
  sent : d'.lastTimeSentNewData = d.lastTimeSentNewData
  heard : d'.lastTimeAcceptedAcknowledgement = d.lastTimeAcceptedAcknowledgement
  retry : d'.sendRetryCount = d.sendRetryCount
  flushed : d.flushToClientFinished = true → d'.flushToClientFinished = true

theorem KeepsMarks.refl (d : Data) : KeepsMarks d d := ⟨rfl, rfl, rfl, id⟩

theorem KeepsMarks.trans {d d' d'' : Data} (h : KeepsMarks d d') (h' : KeepsMarks d' d'') :
    KeepsMarks d d'' where
  sent := h'.sent.trans h.sent
  heard := h'.heard.trans h.heard
  retry := h'.retry.trans h.retry
  flushed := h'.flushed ∘ h.flushed

theorem KeepsMarks.dog {d d' : Data} (h : KeepsMarks d d') (hrtt : d'.rttHistory = d.rttHistory) :
    dog d' = Sessions2.dog d := dog_eq h.sent h.heard h.retry hrtt

theorem advance_marks (s : St) (amt : U32) : KeepsMarks s.data (s.advance amt).data := by
  unfold St.advance
  dsimp only
  split_ifs
  · rw [St.setIn_data]
    exact ⟨rfl, rfl, rfl, id⟩
  · exact .refl _

theorem sampleRTT_marks (s : St) (now : Int) : KeepsMarks s.data (s.sampleRTT now).data := by
  unfold St.sampleRTT
  dsimp only
  split_ifs
  · exact ⟨rfl, rfl, rfl, id⟩
  · exact .refl _

theorem acceptAck_marks (s : St) (off : U32) (now : Int) : KeepsMarks s.data (s.acceptAck off now).data := by
  have h0 : KeepsMarks s.data { s.data with flushToClientFinished := true } := ⟨rfl, rfl, rfl, fun _ => rfl⟩
  unfold St.acceptAck
  split_ifs
  · exact (h0.trans (advance_marks { s with data.flushToClientFinished := true } _)).trans
      (sampleRTT_marks _ _)
  · exact (advance_marks _ _).trans (sampleRTT_marks _ _)

theorem acceptPayload_marks (s : St) (now : Int) : KeepsMarks s.data (s.acceptPayload now).data := by
  obtain ⟨b, fin, hd⟩ := (acceptPayload_accept s now).data
  rw [hd]
  exact ⟨rfl, rfl, rfl, id⟩

/-- A segment with a current acknowledgement is heard. -/
theorem acceptSegment_heard {s : St} (i : ClientInput) (hopen : ¬ closes s.data s.packet)
    (hoff : 0 ≤ (St.ackOff s.data s.packet).toInt) :
    KeepsMarks { s.data with lastTimeAcceptedAcknowledgement := i.now } (s.acceptSegment i).data := by
  rw [acceptSegment_open i hopen]
  refine KeepsMarks.trans ?_ ((acceptAck_marks _ _ i.now).trans (acceptPayload_marks _ _))
  unfold St.acceptWindow
  rw [if_pos hoff]
  exact ⟨rfl, rfl, rfl, id⟩

theorem readFromServer_marks (s : St) (r : RecvResult) :
    KeepsMarks s.data (s.readFromServer r).data ∧
      (s.readFromServer r).data.flushToClientFinished = s.data.flushToClientFinished := by
  unfold St.readFromServer
  cases r with
  | bytes bs =>
    dsimp only
    split_ifs
    · simp only [St.emit_data, St.unsetFrom_data]
      exact ⟨⟨rfl, rfl, rfl, id⟩, trivial⟩
    · exact ⟨⟨rfl, rfl, rfl, id⟩, rfl⟩
  | wouldBlock => exact ⟨.refl _, rfl⟩
  | error =>
    simp only [St.unsetFrom_data]
    exact ⟨⟨rfl, rfl, rfl, id⟩, trivial⟩

/-! ## one call -/

/-- What a call does to the watchdog. -/
inductive Beats (s : St) : Op → St → Prop where
  | kept {op : Op} {s' : St} (dog : dog s'.data = dog s.data)
      (probing : Probing s'.data → Probing s.data ∧ ∀ t, turnedAt s t op = t)
      (shaking : Shaking s'.data → Shaking s.data) : Beats s op s'
  | opened {p : Incoming} {i : ClientInput} {s' : St} (shaking : Shaking s'.data)
      (sent : (dog s'.data).sent = 0 ∨ (dog s'.data).sent = i.now)
      (heard : (dog s'.data).heard = (dog s.data).heard) (waits : (dog s'.data).waits = 1) :
      Beats s (.receiveFromClient p i) s'
  | connected {lastError : Int} {r : SendResult} {now now' : Int} {s' : St} (hs : Shaking s.data)
      (shaking : Shaking s'.data) (dog : dog s'.data = { dog s.data with sent := now' }) :
      Beats s (.flushDataToServer lastError r now now') s'
  | heard {p : Incoming} {i : ClientInput} {s' : St} (ended : ¬ Shaking s'.data)
      (dog : dog s'.data = (dog s.data).hear i.now (dog s'.data).period) :
      Beats s (.receiveFromClient p i) s'
  | turned {op : Op} {now : Int} {s' : St} (hs : Probing s.data) (state : s'.data.state = .ESTABLISHED)
      (time : op.turnTime = some now) (read : now ∈ op.readings)
      (turned : ∀ t, turnedAt s t op = now)
      (turn : (dog s.data).Turn now (dog s'.data) ∨ s'.hung = true ∧ SendsAt now s s') : Beats s op s'

/-- a call that closes the session -/
theorem Beats.close {s t : St} {op : Op} (h : dog t.data = dog s.data) : Beats s op t.closeSession := by
  refine .kept ?_ (fun hp => ?_) fun hsh => absurd hsh (not_shaking (.inl ?_))
  · rw [St.closeSession_data]
    exact h
  · rw [St.closeSession_data] at hp
    cases hp.1
  · rw [St.closeSession_data]

theorem Beats.same {s t : St} {op : Op} (h : t.data = s.data)
    (hturned : Probing s.data → ∀ t, turnedAt s t op = t) : Beats s op t := by
  refine .kept ?_ ?_ ?_ <;> rw [h]
  · exact fun hp => ⟨hp, hturned hp⟩
  · exact id

/-- an answer to a packet -/
theorem Beats.reply {s t : St} {p : Incoming} {i : ClientInput} (h : t.data = s.data) :
    Beats s (.receiveFromClient p i) t := .same h fun hp _ => if_pos hp.1

theorem openConnected_beats (IP_MSS : U16) {s : St} {p : Incoming} {i : ClientInput} (res : Int) :
    Beats s (.receiveFromClient p i) (s.openConnected IP_MSS i res) := by
  unfold St.openConnected
  dsimp only
  split_ifs
  · refine .opened (.inr rfl) (.inr ?_) ?_ ?_
    all_goals simp only [St.sendSynAck, St.sendBack_data, St.setIn_data, dog]
    all_goals rfl
  · refine .opened (.inl ?_) (.inl ?_) ?_ ?_
    all_goals simp only [St.setIn_data, dog]
    all_goals rfl

theorem handlePacket_beats (IP_MSS : U16) {s : St} {p : Incoming} (i : ClientInput)
    (hp : s.packet = p.val) (hcan : canHandle s.data s.packet = true) (hrep : Represented s.data) :
    Beats s (.receiveFromClient p i) (s.handlePacket IP_MSS i) := by
  have hstep := handlePacket_step IP_MSS s i
  generalize s.handlePacket IP_MSS i = s' at hstep ⊢
  cases hstep with
  | same => exact .reply rfl
  | reset => exact .reply (sendReset_reply s).data
  | ack hs => exact .reply rfl
  | synAck hs => exact .reply rfl
  | opened res hs hsyn hack hshift hres => exact openConnected_beats IP_MSS res
  | closed hs hsyn hrst hwin => exact .close rfl
  | established hs hseq hack =>
    refine .heard (not_shaking (.inr rfl)) ?_
    unfold St.establish
    simp only [St.setIn_data, dog]
    rfl
  | accepted hs hsyn hrst hack hseq hrange =>
    have hoff := hrep.ackOff_nonneg hrange
    by_cases hcl : closes s.data s.packet
    · rw [acceptSegment_closes i hcl]
      refine .heard (not_shaking (.inl ?_)) ?_ <;> rw [St.closeSession_data]
      · unfold St.acceptWindow
        rw [if_pos hoff]
        rfl
    · have h := acceptSegment_heard i hcl hoff
      refine .heard (not_shaking (.inr ?_)) ?_
      · rw [(acceptSegment_sets s i hcl).1.state, hs]
      · unfold dog Watchdog.hear
        rw [h.sent, h.heard, h.retry]

/-- the packet object is put back -/
theorem Beats.packet {s t : St} {op : Op} {q r : Packet} (h : Beats { s with packet := q } op t) :
    Beats s op { t with packet := r } := by
  cases h with
  | kept dog probing shaking => exact .kept dog probing shaking
  | opened shaking sent heard waits => exact .opened shaking sent heard waits
  | connected hs shaking dog => exact .connected hs shaking dog
  | heard ended dog => exact .heard ended dog
  | turned hs state time read turned turn =>
    exact .turned hs state time read (fun t => turned t) turn

theorem receiveFromServer_beats {s : St} (r : RecvResult) {now : Int} (turns : Nat)
    (hh : s.hung = false) (hperiod : ms MIN_RTT ≤ (dog s.data).period) (h0 : 0 ≤ (dog s.data).sent)
    (hnow : 0 ≤ now) (hend : now < CLOCK_END) :
    Beats s (.receiveFromServer r now turns) (s.receiveFromServer r now turns) := by
  by_cases hopen : s.data.state = .ESTABLISHED ∧ s.data.receiveFromServerFinished = false
  · have ⟨hm, hfin⟩ := readFromServer_marks s r
    have hd : dog (s.readFromServer r).data = dog s.data := hm.dog (readFromServer_keeps s r).rttHistory
    have hstate : (s.readFromServer r).data.state = .ESTABLISHED :=
      (readFromServer_read s r).up.state.trans hopen.1
    have key {t : St} (hdata : t.data = ((s.readFromServer r).flushDataToClient now turns).data)
        (hhung : t.hung = ((s.readFromServer r).flushDataToClient now turns).hung) :
        Beats s (.receiveFromServer r now turns) t := by
      have hstate' : t.data.state = .ESTABLISHED := by
        rw [hdata]
        exact (flushDataToClient_flush _ now turns).up.state.trans hstate
      by_cases hf : s.data.flushToClientFinished = false
      · refine .turned ⟨hopen.1, hf⟩ hstate' rfl (List.mem_singleton.mpr rfl)
          (fun t => if_neg (by simp [hopen.2])) ?_
        have h := flushDataToClient_turn (s := s.readFromServer r) turns ⟨hstate, hfin.trans hf⟩
          (by rw [hd]; exact hperiod) (by rw [hd]; exact h0) hnow hend
        unfold SendsAt at h ⊢
        rw [hd] at h
        rw [hdata, hhung]
        exact h
      · have he : (s.readFromServer r).flushDataToClient now turns = s.readFromServer r := by
          unfold St.flushDataToClient
          refine if_pos (.inr ?_)
          rw [hfin]
          simpa using hf
        rw [he] at hdata
        refine .kept (by rw [hdata, hd]) (fun hp => absurd ?_ hf)
          fun hsh => absurd hsh (not_shaking (.inr hstate'))
        rw [← hfin, ← hdata]
        exact hp.2
    rcases receiveFromServer_open hopen.1 hopen.2 r now turns with h | h
    · rw [h]
      exact key rfl rfl
    · rw [h]
      exact key (St.unsetFrom_data _ _) (St.unsetFrom_hung _ _)
  · rw [receiveFromServer_skip hopen]
    refine .same rfl fun hp t => if_pos ?_
    by_contra hc
    exact hopen ⟨hp.1, by simpa using hc⟩

theorem flushDataToServer_beats (s : St) (lastError : Int) (r : SendResult) (now now' : Int) :
    Beats s (.flushDataToServer lastError r now now') (s.flushDataToServer lastError r now now') := by
  unfold St.flushDataToServer
  split_ifs with hs hskip
  · unfold St.finishConnect
    dsimp only
    split_ifs
    · exact .same rfl fun _ _ => rfl
    · refine .connected (.inl hs) ?_ ?_ <;> rw [St.unsetFrom_data]
      · exact .inr rfl
      · rfl
    · exact .close rfl
  · exact .same rfl fun _ _ => rfl
  · have hfinish (bs : List Byte) (n : U32) : Beats s (.flushDataToServer lastError r now now')
        ((s.emit (.sent bs)).finishSend n) := by
      unfold St.finishSend
      dsimp only
      split_ifs
      · exact .close (by rw [St.unsetFrom_data]; rfl)
      · refine .kept ?_ ?_ ?_ <;> simp only [St.emit_data, St.unsetFrom_data]
        · rfl
        · exact fun hp => ⟨hp, fun _ => rfl⟩
        · exact id
      · refine .kept ?_ ?_ ?_ <;> simp only [St.emit_data, St.unsetFrom_data]
        · rfl
        · exact fun hp => ⟨hp, fun _ => rfl⟩
        · exact id
      · exact .kept rfl (fun hp => ⟨hp, fun _ => rfl⟩) id
    cases r with
    | error => exact .close rfl
    | accepted n => exact hfinish _ _
    | wouldBlock => exact hfinish _ _

/-- **What one call does to the watchdog.** -/
theorem step_beats (IP_MSS : U16) {v : St × Beat} {op : Op} (hh : v.1.hung = false)
    (hperiod : ms MIN_RTT ≤ (dog v.1.data).period) (h0 : 0 ≤ (dog v.1.data).sent) (hlast : 0 ≤ v.2.last)
    (hrep : Represented v.1.data) (h : Steady v op) : Beats v.1 op (step IP_MSS v.1 op) := by
  obtain ⟨hforward, hend⟩ := h
  obtain ⟨_, hread⟩ := le_getLastD hforward
  generalize v.1 = s at *
  unfold step
  rw [if_neg (by rw [hh]; decide)]
  cases op with
  | receiveFromClient p i =>
    dsimp only
    unfold receiveFromClient
    split_ifs with hcan
    · exact Beats.packet (q := p.val) (@handlePacket_beats IP_MSS { s with packet := p.val } p i rfl hcan
        hrep)
    · exact .reply rfl
  | receiveFromServer r now turns =>
    have hnow := hread now (List.mem_singleton.mpr rfl)
    exact receiveFromServer_beats r turns hh hperiod h0 (hlast.trans hnow.1)
      (hend now (List.mem_singleton.mpr rfl))
  | flushDataToServer lastError r now now' => exact flushDataToServer_beats s lastError r now now'
  | flushDataToClient now turns =>
    have hnow := hread now (List.mem_singleton.mpr rfl)
    by_cases hp : Probing s.data
    · refine .turned hp ?_ rfl (List.mem_singleton.mpr rfl) (fun _ => rfl) ?_
      · exact (flushDataToClient_flush s now turns).up.state.trans hp.1
      · exact flushDataToClient_turn turns hp hperiod h0 (hlast.trans hnow.1)
          (hend now (List.mem_singleton.mpr rfl))
    · refine .same ?_ fun hc => absurd hc hp
      dsimp only
      unfold St.flushDataToClient
      rw [if_pos]
      by_contra hc
      rw [not_or, not_not, Bool.not_eq_true] at hc
      exact hp hc
  | onSocketError => exact .close rfl
  | checkStatus now now' =>
    dsimp only
    rcases checkStatus_cases s now now' with ⟨_, h1⟩ | ⟨_, h1⟩ | ⟨_, h1⟩
    · rw [h1]
      exact .same rfl fun _ _ => rfl
    · rw [h1]
      exact .same rfl fun _ _ => rfl
    · rw [h1]
      exact .close rfl
  | closeSession => exact .close rfl

/-! ## what holds along a run -/

theorem paced_step (IP_MSS : U16) {s : St} (hh : s.hung = false) (h : Paced s.data) (op : Op) :
    Paced (step IP_MSS s op).data := by
  have hs := step_times IP_MSS hh op
  generalize step IP_MSS s op = s' at hs
  cases hs with
  | kept times wait other => exact h.of_history times.rttHistory
  | opened hs shaking history tracking retry flushed sent =>
    refine ⟨by rw [history, List.length_map]; exact h.1, fun rtt hr => ?_⟩
    rw [history] at hr
    obtain ⟨_, _, rfl⟩ := List.mem_map.mp hr
    decide
  | connected hs data sent => exact h.of_history (by rw [data])
  | established hfin state history tracking sendTime => exact h.pushRTT history
  | accepted hack state history tracking =>
    split_ifs at history
    · exact h.pushRTT history
    · exact h.of_history history
  | tracked state other history before after sendTime read => exact h.of_history history

/-- The marks are those of a sound watchdog, a session that shakes hands has not probed, and what was
sent behind a long silence is overdue. -/
structure Minded (v : St × Beat) : Prop where
  paced : Paced v.1.data
  clock : 0 ≤ v.2.last
  zero : 0 ≤ (dog v.1.data).sent
  sound : (dog v.1.data).Sound (ms MIN_RTT) v.2.last
  fresh : Shaking v.1.data → (dog v.1.data).waits = 1
  turned : v.2.turned ≤ v.2.last
  overdue : v.1.hung = false → Probing v.1.data → (dog v.1.data).Overdue 2 v.2.last

section
variable {IP_MSS : U16} {v : St × Beat} {op : Op}

theorem turnedAt_le {s : St} {turned last : Int} (h : turned ≤ last)
    (hlast : last ≤ op.readings.getLastD last)
    (hread : ∀ t ∈ op.readings, t ≤ op.readings.getLastD last) :
    turnedAt s turned op ≤ op.readings.getLastD last := by
  have hkeep := h.trans hlast
  cases op with
  | receiveFromClient p i =>
    show (if s.data.state = .ESTABLISHED then turned else i.now) ≤ _
    split_ifs
    · exact hkeep
    · exact hread _ List.mem_cons_self
  | receiveFromServer r now turns =>
    show (if s.data.receiveFromServerFinished = true then turned else now) ≤ _
    split_ifs
    · exact hkeep
    · exact hread _ List.mem_cons_self
  | flushDataToServer lastError r now now' => exact hkeep
  | flushDataToClient now turns => exact hread _ List.mem_cons_self
  | onSocketError => exact hkeep
  | checkStatus now now' => exact hkeep
  | closeSession => exact hkeep

/-- a call that flushes makes a turn, or leaves the watchdog as it is -/
theorem turn_or_same {s s' : St} {now : Int}
    (h : (dog s.data).Turn now (dog s'.data) ∨ s'.hung = true ∧ SendsAt now s s') :
    (dog s.data).Turn now (dog s'.data) ∨ dog s'.data = dog s.data := by
  rcases h with h | ⟨_, h | h⟩
  · exact .inl h
  · exact .inr h
  · rw [h]
    exact .inl .sent

theorem minded_step (h : Minded v) (hrep : v.1.hung = false → Represented v.1.data) (hs : Steady v op) :
    Minded (beat IP_MSS v op) := by
  obtain ⟨s, w⟩ := v
  obtain ⟨hlast, hread⟩ := le_getLastD hs.1
  have hlast : w.last ≤ op.readings.getLastD w.last := hlast
  have hread : ∀ t ∈ op.readings, w.last ≤ t ∧ t ≤ op.readings.getLastD w.last := hread
  have hturned := turnedAt_le (s := s) h.turned hlast fun t ht => (hread t ht).2
  have hclock : 0 ≤ op.readings.getLastD w.last := h.clock.trans hlast
  unfold beat
  dsimp only
  cases hh : s.hung with
  | true =>
    have e : step IP_MSS s op = s := if_pos hh
    rw [e]
    exact ⟨h.paced, hclock, h.zero, h.sound.later hlast, h.fresh, hturned,
      fun hc => absurd (hh.symm.trans hc) (by decide)⟩
  | false =>
    have hpaced := paced_step IP_MSS hh h.paced op
    have hbeats := step_beats IP_MSS (v := (s, w)) hh h.paced.period h.zero h.clock (hrep hh) hs
    have hleast : (0 : Int) ≤ ms MIN_RTT := by decide
    have hcall := hpaced.period
    generalize step IP_MSS s op = s' at hpaced hbeats hcall ⊢
    generalize op.readings.getLastD w.last = last at *
    have not_probing (hsh : Shaking s'.data) (hp : Probing s'.data) : False :=
      not_shaking (.inr hp.1) hsh
    cases hbeats with
    | kept hdog probing shaking =>
      refine ⟨hpaced, hclock, ?_, ?_, fun hsh => ?_, hturned, fun _ hp => ?_⟩ <;> dsimp only <;> rw [hdog]
      · exact h.zero
      · exact h.sound.later hlast
      · exact h.fresh (shaking hsh)
      · exact (h.overdue hh (probing hp).1).later hlast
    | @opened p i _ shaking sent heard waits =>
      have hnow := hread i.now List.mem_cons_self
      have hsent : 0 ≤ (dog s'.data).sent ∧ (dog s'.data).sent ≤ last := by
        rcases sent with h1 | h1 <;> rw [h1]
        · exact ⟨le_refl 0, hclock⟩
        · exact ⟨h.clock.trans hnow.1, hnow.2⟩
      refine ⟨hpaced, hclock, hsent.1, ⟨hcall, hsent.2, ?_, ?_⟩, fun _ => waits, hturned,
        fun _ hp => (not_probing shaking hp).elim⟩
      · rw [heard]
        exact h.sound.heard.trans hlast
      · rw [waits, one_nsmul]
        exact le_add_of_nonneg_left (sub_nonneg.mpr hsent.2)
    | @connected lastError r now now' _ hsh shaking hdog =>
      have hnow := hread now' (List.mem_cons_of_mem _ List.mem_cons_self)
      have hwaits : (dog s.data).waits = 1 := h.fresh hsh
      refine ⟨hpaced, hclock, ?_, ⟨hcall, ?_, ?_, ?_⟩, fun _ => ?_, hturned,
        fun _ hp => (not_probing shaking hp).elim⟩ <;> dsimp only <;> rw [hdog]
      · exact h.clock.trans hnow.1
      · exact hnow.2
      · exact h.sound.heard.trans hlast
      · show (dog s.data).waits • ms MIN_RTT ≤ last - now' + ms MIN_RTT
        rw [hwaits, one_nsmul]
        exact le_add_of_nonneg_left (sub_nonneg.mpr hnow.2)
      · exact hwaits
    | @heard p i _ ended hdog =>
      have hnow := hread i.now List.mem_cons_self
      refine ⟨hpaced, hclock, ?_, ?_, fun hsh => absurd hsh ended, hturned, fun _ _ => ?_⟩ <;>
        dsimp only <;> rw [hdog]
      · exact h.zero
      · exact (h.sound.hear hnow.1 hcall).later hnow.2
      · exact (Watchdog.Overdue.hear h.sound (hleast.trans hcall) hnow.1).later hnow.2
    | @turned _ now _ hp state time read turned turn =>
      have hnow := hread now read
      refine ⟨hpaced, hclock, ?_, ?_, fun hsh => absurd hsh (not_shaking (.inr state)), hturned,
        fun hh' _ => ?_⟩ <;> dsimp only
      · rcases turn_or_same turn with ht | e
        · rcases ht.sent_eq with e | e <;> rw [e]
          · exact h.zero
          · exact h.clock.trans hnow.1
        · rw [e]
          exact h.zero
      · rcases turn_or_same turn with ht | e
        · exact (h.sound.turn hnow.1 ht).later hnow.2
        · rw [e]
          exact h.sound.later hlast
      · rcases turn with ht | ⟨hhung, _⟩
        · exact ((h.overdue hh hp).turn hnow.1 ht).later hnow.2
        · exact absurd (hh'.symm.trans hhung) (by decide)

/-- The turns come in time: the last one is within what is waited for. -/
theorem attended_step (h : Minded v) (hrep : v.1.hung = false → Represented v.1.data) (hs : Steady v op)
    (hprompt : Prompt v op)
    (ha : v.1.hung = false → Probing v.1.data → (dog v.1.data).Attended v.2.turned)
    (hh' : (beat IP_MSS v op).1.hung = false) (hp' : Probing (beat IP_MSS v op).1.data) :
    (dog (beat IP_MSS v op).1.data).Attended (beat IP_MSS v op).2.turned := by
  obtain ⟨s, w⟩ := v
  obtain ⟨_, hread⟩ := le_getLastD hs.1
  have hread : ∀ t ∈ op.readings, w.last ≤ t ∧ t ≤ op.readings.getLastD w.last := hread
  have hleast : (0 : Int) ≤ ms MIN_RTT := by decide
  unfold beat at hh' hp' ⊢
  dsimp only at hh' hp' ⊢
  cases hh : s.hung with
  | true =>
    have e : step IP_MSS s op = s := if_pos hh
    rw [e, hh] at hh'
    cases hh'
  | false =>
    have hcall := (paced_step IP_MSS hh h.paced op).period
    have hbeats := step_beats IP_MSS (v := (s, w)) hh h.paced.period h.zero h.clock (hrep hh) hs
    generalize step IP_MSS s op = s' at hh' hp' hbeats hcall ⊢
    cases hbeats with
    | kept hdog probing shaking =>
      obtain ⟨hp, hturned⟩ := probing hp'
      rw [hdog, hturned]
      exact ha hh hp
    | opened shaking sent heard waits => exact absurd shaking (not_shaking (.inr hp'.1))
    | connected hsh shaking hdog => exact absurd shaking (not_shaking (.inr hp'.1))
    | @heard p i _ ended hdog =>
      have hnow := hread i.now List.mem_cons_self
      rw [hdog]
      refine Watchdog.Attended.hear (hleast.trans hcall) ?_
      show (if s.data.state = .ESTABLISHED then w.turned else i.now) ≤ i.now
      split_ifs
      · exact h.turned.trans hnow.1
      · exact le_refl _
    | @turned _ now _ hp state time read turned turn =>
      rw [turned]
      rcases turn with ht | ⟨hhung, _⟩
      · exact (ha hh hp).turn (hleast.trans h.paced.period) (hprompt hp now time) ht
      · exact absurd (hh'.symm.trans hhung) (by decide)

/-! ## when an established session times out -/

/-- what `checkStatus` goes by -/
theorem checkStatus_expired {s : St} (hp : Probing s.data) (now now' : Int) :
    (s.checkStatus now now').1 = false ↔ (dog s.data).Expired 2 now' := by
  have hlimit : ms (s.data.getIntervalToNextProbe + s.data.getMeanRTT * 2) =
      ((dog s.data).waits + 2) • (dog s.data).period := by
    unfold dog ms Data.getIntervalToNextProbe
    rw [nsmul_eq_mul]
    push_cast
    ring
  unfold St.checkStatus
  rw [hp.1]
  dsimp only
  unfold St.checkAcknowledged Watchdog.Expired
  rw [hp.2, if_neg Bool.false_ne_true, hlimit]
  dsimp only
  show (if (_ : Int) > _ then (false, s.closeSession) else (true, s)).1 = false ↔ _
  split_ifs with hc
  · exact iff_of_true rfl hc
  · exact iff_of_false (by decide) hc

/-- what holds along a run with a steady clock -/
theorem minded_run {s0 : St} (h0 : s0.data = .init IP_MSS) {t0 : Int} (hinit : Minded (s0, ⟨t0, t0⟩))
    {ok : St × Beat → Op → Prop} (Extra : St × Beat → Prop) (hextra : Extra (s0, ⟨t0, t0⟩))
    (hok : ∀ v op, ok v op → Steady v op)
    (hstep : ∀ v op, Minded v → (v.1.hung = false → Represented v.1.data) → Extra v → ok v op →
      Extra (beat IP_MSS v op)) {ops : List Op} (hops : Along (beat IP_MSS) ok (s0, ⟨t0, t0⟩) ops) :
    Minded (run (beat IP_MSS) (s0, ⟨t0, t0⟩) ops) ∧ Extra (run (beat IP_MSS) (s0, ⟨t0, t0⟩) ops) := by
  have h1 : s0.hung = false → Represented s0.data := fun _ => h0 ▸ represented_init IP_MSS
  have h2 := run_inv (fun v => Minded v ∧ (v.1.hung = false → Represented v.1.data) ∧ Extra v)
    (fun v op hv ho => ⟨minded_step hv.1 hv.2.1 (hok v op ho), represented_step v.1 op hv.2.1,
      hstep v op hv.1 hv.2.1 hv.2.2 ho⟩) ⟨hinit, h1, hextra⟩ hops
  exact ⟨h2.1, h2.2.2⟩

theorem minded_init {s0 : St} (h0 : s0.data = .init IP_MSS) {t0 : Int} (ht0 : 0 ≤ t0) :
    Minded (s0, ⟨t0, t0⟩) := by
  have hpaced : Paced s0.data := by
    rw [h0]
    refine ⟨rfl, fun rtt hr => ?_⟩
    rw [List.eq_of_mem_replicate hr]
    decide
  have hsent : (dog s0.data).sent = 0 := congrArg Data.lastTimeSentNewData h0
  have hheard : (dog s0.data).heard = 0 := congrArg Data.lastTimeAcceptedAcknowledgement h0
  have hwaits : (dog s0.data).waits = 1 := congrArg (fun d : Data => (d.sendRetryCount + 1).toNat) h0
  refine ⟨hpaced, ht0, hsent.ge, ⟨hpaced.period, hsent.trans_le ht0, hheard.trans_le ht0, ?_⟩,
    fun _ => hwaits, le_refl t0, fun _ hp => ?_⟩ <;> dsimp only
  · rw [hwaits, hsent, one_nsmul, sub_zero]
    exact le_add_of_nonneg_left ht0
  · rw [h0] at hp
    cases hp.1

end

/-- **A session that is turned in time times out only with new data behind a silence.**  In every run
with a clock that goes forward, where `flushDataToClient` comes at least once in a mean round trip,
`checkStatus` closes an established session only if new data were sent more than one mean round trip
after the last accepted acknowledgement, however long the client has been silent. -/
theorem timed_out_behind {IP_MSS : U16} {s0 : St} (h0 : s0.data = .init IP_MSS) {t0 : Int}
    (ht0 : 0 ≤ t0) {ops : List Op}
    (hops : Along (beat IP_MSS) (fun v op => Steady v op ∧ Prompt v op) (s0, ⟨t0, t0⟩) ops) :
    let v := run (beat IP_MSS) (s0, ⟨t0, t0⟩) ops
    ∀ now now', Steady v (.checkStatus now now') → Prompt v (.checkStatus now now') →
      v.1.hung = false → Probing v.1.data → (v.1.checkStatus now now').1 = false →
      ms v.1.data.getMeanRTT < v.1.data.lastTimeSentNewData - v.1.data.lastTimeAcceptedAcknowledgement := by
  intro v now now' hsteady hprompt hh hp hclosed
  have hinit : s0.hung = false → Probing s0.data → (dog s0.data).Attended t0 :=
    fun _ hc => by rw [h0] at hc; cases hc.1
  obtain ⟨hm, ha⟩ := minded_run h0 (minded_init h0 ht0)
    (fun v => v.1.hung = false → Probing v.1.data → (dog v.1.data).Attended v.2.turned) hinit
    (fun v op ho => ho.1) (fun v op hm hrep ha ho => attended_step hm hrep ho.1 ho.2 ha) hops
  have hperiod : 0 ≤ (dog v.1.data).period := le_trans (by decide) hm.paced.period
  have hbehind : (dog v.1.data).Behind 1 := (ha hh hp).behind_of_expired hperiod (hprompt hp now' rfl)
    ((checkStatus_expired hp now now').mp hclosed)
  unfold Watchdog.Behind at hbehind
  rwa [one_nsmul] at hbehind

/-- bytes come from the server 380 ms behind the end of the handshake -/
def lateBytes : List Op :=
  shakesHandsAfter 20000000 ++ [.flushDataToClient 1200000000 4,
    .receiveFromServer (.bytes [97, 98, 99]) 1400000000 4, .flushDataToClient 1600000000 4]

theorem timed_out_behind_bytes :
    let v := run (beat 576) (unused 576, ⟨0, 0⟩) lateBytes
    ms v.1.data.getMeanRTT <
      v.1.data.lastTimeSentNewData - v.1.data.lastTimeAcceptedAcknowledgement :=
  @timed_out_behind 576 (unused 576) rfl 0 (le_refl 0) lateBytes (by decide) 1660000000 1660000000
    (by decide) (by decide) (by decide) (by decide) (by decide)

/-- **New data behind a long silence make the session time out.**  In every run with a clock that goes
forward, once new data were sent more than three mean round trips after the last accepted
acknowledgement, the next `checkStatus` closes the session, whichever calls come before it, unless the
client is heard. -/
theorem behind_times_out {IP_MSS : U16} {s0 : St} (h0 : s0.data = .init IP_MSS) {t0 : Int}
    (ht0 : 0 ≤ t0) {ops : List Op} (hops : Along (beat IP_MSS) Steady (s0, ⟨t0, t0⟩) ops) :
    let v := run (beat IP_MSS) (s0, ⟨t0, t0⟩) ops
    v.1.hung = false → Probing v.1.data → 3 * ms v.1.data.getMeanRTT <
      v.1.data.lastTimeSentNewData - v.1.data.lastTimeAcceptedAcknowledgement →
    ∀ now now', Steady v (.checkStatus now now') → (v.1.checkStatus now now').1 = false := by
  intro v hh hp hbehind now now' hsteady
  have hm : Minded v := (minded_run h0 (minded_init h0 ht0) (fun _ => True) trivial (fun v op ho => ho)
    (fun v op _ _ _ _ => trivial) hops).1
  have hb : (dog v.1.data).Behind (2 + 1) := by
    unfold Watchdog.Behind
    rw [nsmul_eq_mul]
    exact hbehind
  have hnow : v.2.last ≤ now' :=
    ((le_getLastD hsteady.1).2 now' (List.mem_cons_of_mem _ List.mem_cons_self)).1
  exact (checkStatus_expired hp now now').mpr (((hm.overdue hh hp).later hnow) hb)

/-- bytes come from the server a second behind the end of the handshake -/
def lastBytes : List Op :=
  shakesHandsAfter 20000000 ++ [.receiveFromServer (.bytes [97, 98, 99]) 2020000000 4]

theorem behind_times_out_at_once :
    ((run (beat 576) (unused 576, ⟨0, 0⟩) lastBytes).1.checkStatus 2020000000 2020000000).1 = false :=
  @behind_times_out 576 (unused 576) rfl 0 (le_refl 0) lastBytes (by decide) (by decide) (by decide)
    (by decide) 2020000000 2020000000 (by decide)

end TunServer.Sessions2
