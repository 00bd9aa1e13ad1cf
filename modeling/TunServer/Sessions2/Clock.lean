import TunServer.Sessions2.Readiness
import TunServer.Sessions2.Termination

/-!
# What the clock is read for

A session takes the time of a round trip in two ways: from the SYN-ACK to the client's ACK, and from
a tracked segment to the first segment that acknowledges it.  The first way subtracts the wrong way
round; the second takes any segment for an acknowledgement, since it compares an unsigned difference
with zero.

* `Watch`            what an observer writes down beside a run: the last reading of the clock, when
                     the SYN-ACK was sent first, and when the tracked segment was;
* `TimeStep`         what one call does to the marks of time;
* `RealSample`       a call that pushes a round trip time pushes the one the observer took;
* `samples_real_iff` so it is along a run exactly if its calls are ready for it;
* `synTimeout_iff`   when `checkStatus` keeps to the timeout of the handshake.
-/

set_option linter.unusedVariables false

namespace TunServer.Sessions2

/-! ## the observer -/

/-- the readings of the clock that a call makes, in their order -/
def Op.readings : Op → List Int
  | .receiveFromClient _ i => [i.now, i.nowAcknowledge]
  | .receiveFromServer _ now _ => [now]
  | .flushDataToServer _ _ now now' => [now, now']
  | .flushDataToClient now _ => [now]
  | .onSocketError => []
  | .checkStatus now now' => [now, now']
  | .closeSession => []

/-- the reading that goes with what a call sends -/
def Op.sendTime : Op → Int
  | .receiveFromClient _ i => i.now
  | .receiveFromServer _ now _ => now
  | .flushDataToServer _ _ _ now' => now'
  | .flushDataToClient now _ => now
  | .onSocketError => 0
  | .checkStatus now _ => now
  | .closeSession => 0

def Event.isSyn : Event → Bool
  | .sendBack _ p => p.isSyn
  | _ => false

/-- what is added to the log has a SYN -/
def addsSyn (l l' : List Event) : Bool := (l'.drop l.length).any Event.isSyn

structure Watch where
  last : Int
  synAck : Int
  tracked : Int

/-- what the observer writes down on a call that takes `s` to `s'` -/
def watch (w : Watch) (s : St) (op : Op) (s' : St) : Watch where
  last := op.readings.getLastD w.last
  synAck := if s.data.state ≠ .SYN_ACK_SENT ∧ addsSyn s.log s'.log then op.sendTime else w.synAck
  tracked := if ¬ s.data.rttTracking ∧ s'.data.rttTracking then op.sendTime else w.tracked

/-- a call, and what the observer writes down -/
def watched (IP_MSS : U16) (v : St × Watch) (op : Op) : St × Watch :=
  (step IP_MSS v.1 op, watch v.2 v.1 op (step IP_MSS v.1 op))

/-- the clock does not go back -/
def Forward (v : St × Watch) (op : Op) : Prop := (v.2.last :: op.readings).Pairwise (· ≤ ·)

instance (v : St × Watch) (op : Op) : Decidable (Forward v op) :=
  inferInstanceAs (Decidable (List.Pairwise _ _))

/-- the ACK that ends the handshake -/
def Finishes (d : Data) (p : Packet) : Prop :=
  canHandle d p = true ∧ d.state = .SYN_ACK_SENT ∧ p.isSyn = false ∧ p.isReset = false ∧
    p.isAck = true ∧ p.getSequenceNumber = d.receiveSent ∧
    p.getAcknowledgmentNumber = d.sendUnacknowledged

instance (d : Data) (p : Packet) : Decidable (Finishes d p) :=
  inferInstanceAs (Decidable (canHandle d p = true ∧ d.state = .SYN_ACK_SENT ∧ p.isSyn = false ∧
    p.isReset = false ∧ p.isAck = true ∧ p.getSequenceNumber = d.receiveSent ∧
    p.getAcknowledgmentNumber = d.sendUnacknowledged))

/-- a segment whose acknowledgement is processed -/
def Acknowledges (d : Data) (p : Packet) : Prop := Accepts d p ∧ ¬ closes d p

instance (d : Data) (p : Packet) : Decidable (Acknowledges d p) :=
  inferInstanceAs (Decidable (_ ∧ _))

/-! ## what a call does to the marks of time -/

structure KeepsTimes (d d' : Data) : Prop where
  rttHistory : d'.rttHistory = d.rttHistory
  rttTracking : d'.rttTracking = d.rttTracking
  rttSendTime : d'.rttSendTime = d.rttSendTime

theorem KeepsTimes.refl (d : Data) : KeepsTimes d d := ⟨rfl, rfl, rfl⟩

theorem KeepsTimes.trans {d d' d'' : Data} (h : KeepsTimes d d') (h' : KeepsTimes d' d'') :
    KeepsTimes d d'' where
  rttHistory := h'.rttHistory.trans h.rttHistory
  rttTracking := h'.rttTracking.trans h.rttTracking
  rttSendTime := h'.rttSendTime.trans h.rttSendTime

inductive TimeStep (s : St) : Op → St → Prop where
  | kept {op : Op} {s' : St} (times : KeepsTimes s.data s'.data)
      (wait : Shaking s'.data → s'.data = s.data)
      (other : ∀ p i, op = .receiveFromClient p i →
        ¬ Finishes s.data p.val ∧ ¬ Acknowledges s.data p.val) : TimeStep s op s'
  | opened {p : Incoming} {i : ClientInput} {s' : St} (hs : s.data.state = .CLOSED)
      (shaking : Shaking s'.data)
      (history : s'.data.rttHistory = s.data.rttHistory.map fun _ => MIN_RTT * 5)
      (tracking : s'.data.rttTracking = false) (retry : s'.data.sendRetryCount = 0)
      (flushed : s'.data.flushToClientFinished = false)
      (sent : s'.data.state = .SYN_ACK_SENT →
        addsSyn s.log s'.log = true ∧ s'.data.lastTimeSentNewData = i.now) :
      TimeStep s (.receiveFromClient p i) s'
  | connected {lastError : Int} {r : SendResult} {now now' : Int} {s' : St}
      (hs : s.data.state = .SYN_RECEIVED)
      (data : s'.data = { s.data with lastTimeSentNewData := now', state := .SYN_ACK_SENT })
      (sent : addsSyn s.log s'.log = true) :
      TimeStep s (.flushDataToServer lastError r now now') s'
  | established {p : Incoming} {i : ClientInput} {s' : St} (h : Finishes s.data p.val)
      (state : s'.data.state = .ESTABLISHED)
      (history : s'.data.rttHistory =
        (s.data.pushRTT (s.data.lastTimeSentNewData - i.now)).rttHistory)
      (tracking : s'.data.rttTracking = s.data.rttTracking)
      (sendTime : s'.data.rttSendTime = s.data.rttSendTime) :
      TimeStep s (.receiveFromClient p i) s'
  | accepted {p : Incoming} {i : ClientInput} {s' : St} (h : Acknowledges s.data p.val)
      (state : s'.data.state = .ESTABLISHED)
      (history : s'.data.rttHistory = if s.data.rttTracking then
        (s.data.pushRTT (i.now - s.data.rttSendTime)).rttHistory else s.data.rttHistory)
      (tracking : s'.data.rttTracking = false) : TimeStep s (.receiveFromClient p i) s'
  | tracked {op : Op} {s' : St} (state : s'.data.state = .ESTABLISHED)
      (other : op.fromClient = none) (history : s'.data.rttHistory = s.data.rttHistory)
      (before : s.data.rttTracking = false) (after : s'.data.rttTracking = true)
      (sendTime : s'.data.rttSendTime = op.sendTime) (read : op.sendTime ∈ op.readings) :
      TimeStep s op s'

/-! ## sending -/

/-- the history stays, and the tracking stays or begins now -/
def TracksAt (now : Int) (s t : St) : Prop :=
  t.data.rttHistory = s.data.rttHistory ∧
    (KeepsTimes s.data t.data ∨
      s.data.rttTracking = false ∧ t.data.rttTracking = true ∧ t.data.rttSendTime = now)

theorem TracksAt.refl (now : Int) (s : St) : TracksAt now s s := ⟨rfl, .inl (.refl _)⟩

theorem TracksAt.trans {now : Int} {s t u : St} (h : TracksAt now s t) (h' : TracksAt now t u) :
    TracksAt now s u := by
  refine ⟨h'.1.trans h.1, ?_⟩
  rcases h.2 with h1 | ⟨h1, h2, h3⟩
  · rcases h'.2 with h4 | ⟨h4, h5, h6⟩
    · exact .inl (h1.trans h4)
    · exact .inr ⟨h1.rttTracking.symm.trans h4, h5, h6⟩
  · rcases h'.2 with h4 | ⟨h4, _⟩
    · exact .inr ⟨h1, h4.rttTracking.trans h2, h4.rttSendTime.trans h3⟩
    · exact absurd (h2.symm.trans h4) (by decide)

theorem TracksAt.keep (now : Int) {s t : St} (h : KeepsTimes s.data t.data) : TracksAt now s t :=
  ⟨h.rttHistory, .inl h⟩

theorem readFromServer_keeps (s : St) (r : RecvResult) : KeepsTimes s.data (s.readFromServer r).data := by
  unfold St.readFromServer
  cases r with
  | bytes bs =>
    dsimp only
    split_ifs
    · simp only [St.emit_data, St.unsetFrom_data]
      exact ⟨rfl, rfl, rfl⟩
    · exact ⟨rfl, rfl, rfl⟩
  | wouldBlock => exact .refl _
  | error =>
    simp only [St.unsetFrom_data]
    exact ⟨rfl, rfl, rfl⟩

theorem flushDataToClient_tracks (s : St) (now : Int) (turns : Nat) :
    TracksAt now s (s.flushDataToClient now turns) := by
  refine flushDataToClient_rel (TracksAt.refl now) TracksAt.trans (fun s w => ⟨rfl, .inl ⟨rfl, rfl, rfl⟩⟩)
    ?_ (fun s => ⟨rfl, .inl ⟨rfl, rfl, rfl⟩⟩) ?_ now ?_ ?_ s turns
  · intro s mss bound ack off
    unfold St.sendSegment
    dsimp only
    split_ifs <;> exact ⟨rfl, .inl ⟨rfl, rfl, rfl⟩⟩
  · intro s off now'
    unfold St.sentUpTo
    dsimp only
    generalize (if s.data.sendNextOffset < off then off else s.data.sendNextOffset) = newOff
    split_ifs <;> exact ⟨rfl, .inl ⟨rfl, rfl, rfl⟩⟩
  · intro s
    unfold St.trackRTT
    split_ifs with h
    · exact .refl now s
    · exact ⟨rfl, .inr ⟨by simpa using h, rfl, rfl⟩⟩
  · intro s
    unfold St.probe
    split_ifs <;> exact ⟨rfl, .inl ⟨rfl, rfl, rfl⟩⟩

/-! ## a packet of the client -/

theorem pushRTT_history {d d' : Data} (h : d'.rttHistory = d.rttHistory) (rtt : Int) :
    (d'.pushRTT rtt).rttHistory = (d.pushRTT rtt).rttHistory := by
  unfold Data.pushRTT
  dsimp only
  rw [h]

/-- tracking ends with any segment -/
theorem sampleRTT_times (s : St) (now : Int) :
    (s.sampleRTT now).data.rttHistory = (if s.data.rttTracking then
        (s.data.pushRTT (now - s.data.rttSendTime)).rttHistory else s.data.rttHistory) ∧
      (s.sampleRTT now).data.rttTracking = false := by
  unfold St.sampleRTT
  dsimp only
  by_cases h : s.data.rttTracking = true
  · have hzero : (0 : U32) ≤ s.data.sendUnacknowledged + b32 s.data.flushToClientFinished -
        s.data.rttTrackedSendSequence := by
      rw [BitVec.le_def]
      exact Nat.zero_le _
    rw [if_pos ⟨h, hzero⟩, if_pos h]
    exact ⟨rfl, rfl⟩
  · rw [if_neg fun hc => h hc.1, if_neg h]
    exact ⟨rfl, by simpa using h⟩

theorem acceptSegment_times {s : St} (i : ClientInput) (h : ¬ closes s.data s.packet) :
    (s.acceptSegment i).data.rttHistory = (if s.data.rttTracking then
        (s.data.pushRTT (i.now - s.data.rttSendTime)).rttHistory else s.data.rttHistory) ∧
      (s.acceptSegment i).data.rttTracking = false := by
  have window : ∀ (t : St) off, KeepsTimes t.data (t.acceptWindow off i.now).data := by
    intro t off
    unfold St.acceptWindow
    split_ifs <;> exact ⟨rfl, rfl, rfl⟩
  have advance : ∀ (t : St) amt, KeepsTimes t.data (t.advance amt).data := by
    intro t amt
    unfold St.advance
    dsimp only
    split_ifs
    · rw [St.setIn_data]
      exact ⟨rfl, rfl, rfl⟩
    · exact .refl _
  have sample : ∀ t : St, KeepsTimes s.data t.data →
      (t.sampleRTT i.now).data.rttHistory = (if s.data.rttTracking then
        (s.data.pushRTT (i.now - s.data.rttSendTime)).rttHistory else s.data.rttHistory) ∧
      (t.sampleRTT i.now).data.rttTracking = false := by
    intro t ht
    have h1 := sampleRTT_times t i.now
    rwa [ht.rttTracking, ht.rttSendTime, pushRTT_history ht.rttHistory, ht.rttHistory] at h1
  have payload : ∀ t : St, KeepsTimes t.data (t.acceptPayload i.nowAcknowledge).data := by
    intro t
    obtain ⟨b, fin, hd⟩ := (acceptPayload_accept t i.nowAcknowledge).data
    rw [hd]
    exact ⟨rfl, rfl, rfl⟩
  have hw := window s (St.ackOff s.data s.packet)
  rw [acceptSegment_open i h, (payload _).rttHistory, (payload _).rttTracking]
  generalize s.acceptWindow (St.ackOff s.data s.packet) i.now = t at hw ⊢
  unfold St.acceptAck
  by_cases hoff : t.data.sendNextOffset < St.ackOff s.data s.packet
  · have hf : KeepsTimes s.data { t.data with flushToClientFinished := true } :=
      ⟨hw.rttHistory, hw.rttTracking, hw.rttSendTime⟩
    rw [if_pos hoff]
    exact sample _ (hf.trans (advance { t with data.flushToClientFinished := true } _))
  · rw [if_neg hoff]
    exact sample _ (hw.trans (advance _ _))

/-- a call that leaves the marks, and closes the session -/
theorem TimeStep.close {s t : St} {op : Op} (h : KeepsTimes s.data t.data)
    (hother : ∀ p i, op = .receiveFromClient p i →
      ¬ Finishes s.data p.val ∧ ¬ Acknowledges s.data p.val) : TimeStep s op t.closeSession := by
  refine .kept ?_ ?_ hother
  · rw [St.closeSession_data]
    exact ⟨h.rttHistory, h.rttTracking, h.rttSendTime⟩
  · intro hsh
    rw [St.closeSession_data] at hsh
    rcases hsh with hc | hc <;> cases hc

/-- a call that gets no packet and leaves the data alone -/
theorem TimeStep.same {s t : St} {op : Op} (hop : op.fromClient = none) (h : t.data = s.data) :
    TimeStep s op t := by
  refine .kept ?_ (fun _ => h) ?_
  · rw [h]
    exact .refl _
  · rintro p i rfl
    cases hop

/-- an answer to a packet that neither ends the handshake nor is processed -/
theorem TimeStep.reply {s t : St} {p : Incoming} {i : ClientInput} (h : t.data = s.data)
    (hother : ¬ Finishes s.data p.val ∧ ¬ Acknowledges s.data p.val) :
    TimeStep s (.receiveFromClient p i) t := by
  refine .kept ?_ (fun _ => h) ?_
  · rw [h]
    exact .refl _
  · rintro p' i' he
    cases he
    exact hother

theorem addsSyn_one {l : List Event} {e : Event} (h : e.isSyn = true) : addsSyn l (l ++ [e]) = true := by
  unfold addsSyn
  rw [List.drop_left]
  exact (List.any_eq_true).mpr ⟨e, List.mem_singleton.mpr rfl, h⟩

theorem openConnected_times (IP_MSS : U16) {s : St} {p : Incoming} {i : ClientInput} (res : Int)
    (hs : s.data.state = .CLOSED) :
    TimeStep s (.receiveFromClient p i) (s.openConnected IP_MSS i res) := by
  unfold St.openConnected
  dsimp only
  split_ifs
  · refine .opened hs (.inr rfl) ?_ ?_ ?_ ?_ fun _ => ⟨?_, ?_⟩
    all_goals simp only [St.sendSynAck, St.sendBack_data, St.sendBack_log, St.setIn_data, St.setIn_log,
      St.setIn_packet]
    any_goals rfl
    exact addsSyn_one rfl
  · refine .opened hs ?_ ?_ ?_ ?_ ?_ ?_
    all_goals simp only [St.setIn_data]
    any_goals rfl
    · exact .inl rfl
    · exact fun hc => by cases hc

/-- a packet that neither ends the handshake nor is processed -/
theorem handlePacket_other (IP_MSS : U16) {s : St} {p : Incoming} {i : ClientInput}
    (hp : s.packet = p.val) (hcan : canHandle s.data s.packet = true)
    (hfin : ¬ Finishes s.data p.val) (hack : ¬ Acknowledges s.data p.val) :
    TimeStep s (.receiveFromClient p i) (s.handlePacket IP_MSS i) := by
  have hreset : TimeStep s (.receiveFromClient p i) s.sendReset :=
    .reply (sendReset_reply s).data ⟨hfin, hack⟩
  have hanswer : TimeStep s (.receiveFromClient p i) s.sendAck :=
    .reply (sendAck_reply s).data ⟨hfin, hack⟩
  have hsame : TimeStep s (.receiveFromClient p i) s := .reply rfl ⟨hfin, hack⟩
  have hclose {t : St} (ht : KeepsTimes s.data t.data) :
      TimeStep s (.receiveFromClient p i) t.closeSession := by
    refine .close ht ?_
    rintro p' i' he
    cases he
    exact ⟨hfin, hack⟩
  rw [← hp] at hfin hack
  unfold St.handlePacket
  split_ifs with hsyn hsynAck hrst ha
  · exact hreset
  · unfold St.receiveSyn
    cases hs : s.data.state with
    | CLOSED =>
      dsimp only
      unfold St.openSession
      cases i.connect with
      | thrown => exact hreset
      | returned res =>
        dsimp only
        split_ifs
        · exact hreset
        · exact openConnected_times IP_MSS res hs
    | SYN_RECEIVED =>
      dsimp only
      split_ifs
      · exact hreset
      · exact hsame
    | SYN_ACK_SENT =>
      dsimp only
      split_ifs
      · exact hreset
      · refine .reply ?_ (hp ▸ ⟨hfin, hack⟩)
        rw [← hs]
        rfl
    | ESTABLISHED => exact hanswer
  · unfold St.receiveReset
    split_ifs
    · exact hclose (.refl _)
    · exact hsame
    · exact hsame
  · have hsyn' : s.packet.isSyn = false := by simpa using hsyn
    have hrst' : s.packet.isReset = false := by simpa using hrst
    unfold St.receiveAck
    cases hs : s.data.state with
    | CLOSED => exact hreset
    | SYN_RECEIVED => exact hreset
    | SYN_ACK_SENT =>
      dsimp only
      split_ifs with hno
      · exact hreset
      · rw [not_or, not_not, not_not] at hno
        exact absurd ⟨hcan, hs, hsyn', hrst', ha, hno.1, hno.2⟩ hfin
    | ESTABLISHED =>
      dsimp only
      split_ifs with hseq hrange
      · have hacc : Accepts s.data s.packet := ⟨hcan, hs, hsyn', hrst', ha, hseq, hrange⟩
        have hcl : closes s.data s.packet := not_not.mp fun hc => hack ⟨hacc, hc⟩
        rw [acceptSegment_closes i hcl]
        refine hclose ?_
        unfold St.acceptWindow
        split_ifs <;> exact ⟨rfl, rfl, rfl⟩
      · exact hanswer
      · exact hanswer
  · exact hreset

theorem handlePacket_times (IP_MSS : U16) {s : St} {p : Incoming} (i : ClientInput)
    (hp : s.packet = p.val) (hcan : canHandle s.data s.packet = true) :
    TimeStep s (.receiveFromClient p i) (s.handlePacket IP_MSS i) := by
  by_cases hfin : Finishes s.data p.val
  · have ⟨_, hs, hsyn, hrst, hack, hseq, hno⟩ := hfin
    have e : s.handlePacket IP_MSS i = s.establish i := by
      unfold St.handlePacket St.receiveAck
      rw [hp, hsyn, hrst, hack, hs]
      dsimp only
      rw [if_neg Bool.false_ne_true, if_neg Bool.false_ne_true, if_pos rfl, if_neg]
      rw [not_or, not_not, not_not]
      exact ⟨hseq, hno⟩
    rw [e]
    unfold St.establish
    refine .established hfin rfl ?_ ?_ ?_
    all_goals simp only [St.setIn_data]
    any_goals rfl
  · by_cases hack : Acknowledges s.data p.val
    · have ⟨⟨_, hs, hsyn, hrst, ha, hseq, hrange⟩, hcl⟩ := hack
      have e : s.handlePacket IP_MSS i = s.acceptSegment i := by
        unfold St.handlePacket St.receiveAck
        rw [hp, hsyn, hrst, ha, hs]
        dsimp only
        rw [if_neg Bool.false_ne_true, if_neg Bool.false_ne_true, if_pos rfl,
          if_neg (not_not.mpr hseq), if_neg (not_not.mpr hrange)]
      rw [e]
      rw [← hp] at hcl
      obtain ⟨h1, h2⟩ := acceptSegment_times i hcl
      refine .accepted hack ?_ h1 h2
      rw [(acceptSegment_sets s i hcl).1.state]
      exact hs
    · exact handlePacket_other IP_MSS hp hcan hfin hack

/-! ## the calls -/

/-- the packet object is put back -/
theorem TimeStep.packet {s t : St} {op : Op} {q r : Packet}
    (h : TimeStep { s with packet := q } op t) : TimeStep s op { t with packet := r } := by
  cases h with
  | kept times wait other => exact .kept times wait other
  | opened hs shaking history tracking retry flushed sent =>
    exact .opened hs shaking history tracking retry flushed sent
  | connected hs data sent => exact .connected hs data sent
  | established h state history tracking sendTime =>
    exact .established h state history tracking sendTime
  | accepted h state history tracking => exact .accepted h state history tracking
  | tracked state other history before after sendTime read =>
    exact .tracked state other history before after sendTime read

theorem TimeStep.flush {s t : St} {op : Op} (hop : op.fromClient = none)
    (ht : t.data.state = .ESTABLISHED) (h : TracksAt op.sendTime s t) (read : op.sendTime ∈ op.readings) :
    TimeStep s op t := by
  obtain ⟨h1, h2 | ⟨h2, h3, h4⟩⟩ := h
  · refine .kept h2 (fun hsh => ?_) ?_
    · rcases hsh with hc | hc <;> exact absurd (ht.symm.trans hc) (by decide)
    · rintro p i rfl
      cases hop
  · exact .tracked ht hop h1 h2 h3 h4 read

theorem flushDataToServer_times (s : St) (lastError : Int) (r : SendResult) (now now' : Int) :
    TimeStep s (.flushDataToServer lastError r now now')
      (s.flushDataToServer lastError r now now') := by
  have other : ∀ p i, Op.flushDataToServer lastError r now now' = .receiveFromClient p i →
      ¬ Finishes s.data p.val ∧ ¬ Acknowledges s.data p.val := fun _ _ hc => by cases hc
  have kept {t : St} (hk : KeepsTimes s.data t.data) (ht : t.data.state = .ESTABLISHED) :
      TimeStep s (.flushDataToServer lastError r now now') t := by
    refine .kept hk (fun hsh => ?_) other
    rcases hsh with hc | hc <;> exact absurd (ht.symm.trans hc) (by decide)
  unfold St.flushDataToServer
  split_ifs with hs hskip
  · unfold St.finishConnect
    dsimp only
    split_ifs
    · exact .same rfl rfl
    · refine .connected hs ?_ ?_
      · rw [St.unsetFrom_data]
        rfl
      · rw [St.unsetFrom_log, St.sendBack_log]
        exact addsSyn_one rfl
    · exact .close (.refl _) other
  · exact .same rfl rfl
  · rw [not_or, not_not] at hskip
    have hfinish : ∀ bs n, TimeStep s (.flushDataToServer lastError r now now')
        ((s.emit (.sent bs)).finishSend n) := by
      intro bs n
      unfold St.finishSend
      dsimp only
      split_ifs
      · refine .close ?_ other
        rw [St.unsetFrom_data]
        exact .refl _
      · refine kept ?_ ?_
        · simp only [St.emit_data, St.unsetFrom_data]
          exact ⟨rfl, rfl, rfl⟩
        · simp only [St.emit_data, St.unsetFrom_data]
          exact hskip.1
      · refine kept ?_ ?_
        · simp only [St.emit_data, St.unsetFrom_data]
          exact ⟨rfl, rfl, rfl⟩
        · simp only [St.emit_data, St.unsetFrom_data]
          exact hskip.1
      · exact kept ⟨rfl, rfl, rfl⟩ hskip.1
    cases r with
    | error => exact .close (.refl _) other
    | accepted n => exact hfinish _ _
    | wouldBlock => exact hfinish _ _

/-- **What one call does to the marks of time.** -/
theorem step_times (IP_MSS : U16) {s : St} (hh : s.hung = false) (op : Op) :
    TimeStep s op (step IP_MSS s op) := by
  unfold step
  rw [if_neg (by rw [hh]; decide)]
  cases op with
  | receiveFromClient p i =>
    dsimp only
    unfold receiveFromClient
    split_ifs with hcan
    · exact TimeStep.packet (q := p.val) (@handlePacket_times IP_MSS { s with packet := p.val } p i rfl hcan)
    · exact .reply rfl ⟨fun hc => hcan hc.1, fun hc => hcan hc.1.1⟩
  | receiveFromServer r now turns =>
    dsimp only
    by_cases h0 : s.data.state = .ESTABLISHED ∧ s.data.receiveFromServerFinished = false
    · have hread := readFromServer_keeps s r
      have hstate : ((s.readFromServer r).flushDataToClient now turns).data.state = .ESTABLISHED :=
        ((readFromServer_read s r).up.trans (flushDataToClient_flush _ now turns).up).state.trans h0.1
      have htrack := (TracksAt.keep now hread).trans (flushDataToClient_tracks (s.readFromServer r) now turns)
      refine .flush rfl ?_ ?_ (List.mem_singleton.mpr rfl)
      · rcases receiveFromServer_open h0.1 h0.2 r now turns with h1 | h1
        · rw [h1]
          exact hstate
        · rw [h1, St.unsetFrom_data]
          exact hstate
      · rcases receiveFromServer_open h0.1 h0.2 r now turns with h1 | h1
        · rw [h1]
          exact htrack
        · unfold TracksAt
          rw [h1, St.unsetFrom_data]
          exact htrack
    · rw [receiveFromServer_skip h0]
      exact .same rfl rfl
  | flushDataToServer lastError r now now' => exact flushDataToServer_times s lastError r now now'
  | flushDataToClient now turns =>
    by_cases h0 : s.data.state = .ESTABLISHED
    · exact .flush rfl ((flushDataToClient_flush s now turns).up.state.trans h0)
        (flushDataToClient_tracks s now turns) (List.mem_singleton.mpr rfl)
    · refine .same rfl ?_
      show (s.flushDataToClient now turns).data = s.data
      unfold St.flushDataToClient
      rw [if_pos (.inl h0)]
  | onSocketError => exact .close (.refl _) fun _ _ hc => by cases hc
  | checkStatus now now' =>
    dsimp only
    rcases checkStatus_cases s now now' with ⟨_, h1⟩ | ⟨_, h1⟩ | ⟨_, h1⟩
    · rw [h1]
      exact .same rfl rfl
    · rw [h1]
      exact .same rfl rfl
    · rw [h1]
      exact .close (.refl _) fun _ _ hc => by cases hc
  | closeSession => exact .close (.refl _) fun _ _ hc => by cases hc

/-! ## what the observer knows -/

/-- What is written down is what the session remembers; and while the handshake goes on, the session
has the marks of a new one, but for the last acknowledgement. -/
structure Recorded (v : St × Watch) : Prop where
  length : v.1.data.rttHistory.length = 5
  waiting : v.1.data.state = .SYN_ACK_SENT → v.1.data.lastTimeSentNewData = v.2.synAck
  tracking : v.1.data.rttTracking = true → v.1.data.rttSendTime = v.2.tracked
  fresh : Shaking v.1.data → v.1.data.sendRetryCount = 0 ∧ v.1.data.flushToClientFinished = false ∧
    v.1.data.rttHistory = List.replicate 5 (MIN_RTT * 5)

/-- and it was not written down later than the last reading -/
structure Past (v : St × Watch) : Prop where
  waiting : v.1.data.state = .SYN_ACK_SENT → v.2.synAck ≤ v.2.last
  tracking : v.1.data.rttTracking = true → v.2.tracked ≤ v.2.last

section
variable {IP_MSS : U16} {v : St × Watch} {op : Op}

theorem pushRTT_length {d : Data} (h : d.rttHistory.length = 5) (rtt : Int) :
    (d.pushRTT rtt).rttHistory.length = 5 := by
  unfold Data.pushRTT
  rw [List.length_append, List.length_tail, h]
  rfl

theorem recorded_times {s s' : St} {w : Watch} (h : Recorded (s, w)) (hs : TimeStep s op s') :
    Recorded (s', watch w s op s') := by
  have tracked (h1 : s'.data.rttTracking = s.data.rttTracking) :
      (watch w s op s').tracked = w.tracked := by
    unfold watch
    rw [h1]
    exact if_neg fun hc => hc.1 hc.2
  have not_waiting (h1 : s'.data.state = .ESTABLISHED) :
      s'.data.state ≠ .SYN_ACK_SENT ∧ ¬ Shaking s'.data := by
    unfold Shaking
    rw [h1]
    decide
  cases hs with
  | kept times wait other =>
    refine ⟨by rw [times.rttHistory]; exact h.length, fun hs' => ?_, fun ht => ?_, fun hsh => ?_⟩
    · have hd := wait (.inr hs')
      have hs : s.data.state = .SYN_ACK_SENT := by rw [← hd]; exact hs'
      have hsame : (watch w s op s').synAck = w.synAck := if_neg fun hc => hc.1 hs
      rw [hd, hsame]
      exact h.waiting hs
    · rw [times.rttSendTime, tracked times.rttTracking]
      exact h.tracking (times.rttTracking ▸ ht)
    · have hd := wait hsh
      rw [hd] at hsh ⊢
      exact h.fresh hsh
  | opened hs shaking history tracking retry flushed sent =>
    refine ⟨by rw [history, List.length_map]; exact h.length, fun hs' => ?_, fun ht => ?_, fun hsh => ?_⟩
    · obtain ⟨hadds, htime⟩ := sent hs'
      rw [htime]
      exact (if_pos ⟨by rw [hs]; decide, hadds⟩).symm
    · exact absurd (tracking.symm.trans ht) (by decide)
    · refine ⟨retry, flushed, ?_⟩
      rw [history, List.map_const', h.length]
  | connected hs data sent =>
    have hf := h.fresh (.inl hs)
    refine ⟨by rw [data]; exact h.length, fun hs' => ?_, fun ht => ?_, fun _ => by rw [data]; exact hf⟩
    · rw [data]
      exact (if_pos ⟨by rw [hs]; decide, sent⟩).symm
    · rw [data] at ht ⊢
      rw [tracked (by rw [data])]
      exact h.tracking ht
  | established hfin state history tracking sendTime =>
    obtain ⟨h1, h2⟩ := not_waiting state
    refine ⟨by rw [history]; exact pushRTT_length h.length _, fun hc => absurd hc h1, fun ht => ?_,
      fun hc => absurd hc h2⟩
    rw [sendTime, tracked tracking]
    exact h.tracking (tracking ▸ ht)
  | accepted hack state history tracking =>
    obtain ⟨h1, h2⟩ := not_waiting state
    refine ⟨?_, fun hc => absurd hc h1, fun ht => absurd (tracking.symm.trans ht) (by decide),
      fun hc => absurd hc h2⟩
    rw [history]
    split_ifs
    · exact pushRTT_length h.length _
    · exact h.length
  | tracked state other history before after sendTime read =>
    obtain ⟨h1, h2⟩ := not_waiting state
    refine ⟨by rw [history]; exact h.length, fun hc => absurd hc h1, fun ht => ?_,
      fun hc => absurd hc h2⟩
    rw [sendTime]
    exact (if_pos ⟨by rw [before]; decide, after⟩).symm

/-- a call that does not begin leaves what was written down -/
theorem watch_hung {s : St} {w : Watch} : (watch w s op s).synAck = w.synAck ∧
    (watch w s op s).tracked = w.tracked := by
  unfold watch addsSyn
  rw [List.drop_length]
  exact ⟨if_neg fun hc => Bool.false_ne_true hc.2, if_neg fun hc => hc.1 hc.2⟩

theorem recorded_step (h : Recorded v) : Recorded (watched IP_MSS v op) := by
  obtain ⟨s, w⟩ := v
  unfold watched
  dsimp only
  cases hh : s.hung with
  | true =>
    have e : step IP_MSS s op = s := if_pos hh
    obtain ⟨h1, h2⟩ := @watch_hung op s w
    rw [e]
    exact ⟨h.length, fun hs => (h.waiting hs).trans h1.symm, fun ht => (h.tracking ht).trans h2.symm,
      h.fresh⟩
  | false => exact recorded_times h (step_times IP_MSS hh op)

/-- the last of a rising list is not below any of them -/
theorem le_getLastD {a : Int} {l : List Int} (h : (a :: l).Pairwise (· ≤ ·)) :
    a ≤ l.getLastD a ∧ ∀ t ∈ l, a ≤ t ∧ t ≤ l.getLastD a := by
  induction l generalizing a with
  | nil => exact ⟨le_refl _, fun t ht => absurd ht (List.not_mem_nil)⟩
  | cons b l ih =>
    obtain ⟨hab, hl⟩ := List.pairwise_cons.mp h
    have hb := hab b (List.mem_cons_self)
    obtain ⟨h1, h2⟩ := ih hl
    rw [List.getLastD_cons]
    refine ⟨hb.trans h1, fun t ht => ⟨hab t ht, ?_⟩⟩
    rcases List.mem_cons.mp ht with rfl | ht
    · exact h1
    · exact (h2 t ht).2

theorem past_times {s s' : St} {w : Watch} (h : Past (s, w)) (hf : Forward (s, w) op)
    (hs : TimeStep s op s') : Past (s', watch w s op s') := by
  obtain ⟨hlast, hread⟩ := le_getLastD hf
  have hlast : w.last ≤ (watch w s op s').last := hlast
  have hread : ∀ t ∈ op.readings, t ≤ (watch w s op s').last := fun t ht => (hread t ht).2
  have tracked (h1 : s'.data.rttTracking = s.data.rttTracking) (ht : s'.data.rttTracking = true) :
      (watch w s op s').tracked ≤ (watch w s op s').last := by
    have hsame : (watch w s op s').tracked = w.tracked := by
      unfold watch
      rw [h1]
      exact if_neg fun hc => hc.1 hc.2
    rw [hsame]
    exact (h.tracking (h1.symm.trans ht)).trans hlast
  have not_waiting {d : Prop} (h1 : s'.data.state = .ESTABLISHED)
      (hs' : s'.data.state = .SYN_ACK_SENT) : d := absurd (h1.symm.trans hs') (by decide)
  cases hs with
  | kept times wait other =>
    refine ⟨fun hs' => ?_, tracked times.rttTracking⟩
    have hs : s.data.state = .SYN_ACK_SENT := by
      rw [← wait (.inr hs')]
      exact hs'
    have hsame : (watch w s op s').synAck = w.synAck := if_neg fun hc => hc.1 hs
    rw [hsame]
    exact (h.waiting hs).trans hlast
  | @opened p i _ hs shaking history tracking retry flushed sent =>
    refine ⟨fun hs' => ?_, fun ht => absurd (tracking.symm.trans ht) (by decide)⟩
    have hnew : (watch w s (.receiveFromClient p i) s').synAck = i.now :=
      if_pos ⟨by rw [hs]; decide, (sent hs').1⟩
    rw [hnew]
    exact hread _ (List.mem_cons_self)
  | @connected lastError r now now' _ hs data sent =>
    refine ⟨fun hs' => ?_, tracked (by rw [data])⟩
    have hnew : (watch w s (.flushDataToServer lastError r now now') s').synAck = now' :=
      if_pos ⟨by rw [hs]; decide, sent⟩
    rw [hnew]
    exact hread _ (List.mem_cons_of_mem _ (List.mem_singleton.mpr rfl))
  | established hfin state history tracking sendTime => exact ⟨not_waiting state, tracked tracking⟩
  | accepted hack state history tracking =>
    exact ⟨not_waiting state, fun ht => absurd (tracking.symm.trans ht) (by decide)⟩
  | tracked state other history before after sendTime read =>
    refine ⟨not_waiting state, fun _ => ?_⟩
    have hnew : (watch w s op s').tracked = op.sendTime := if_pos ⟨by rw [before]; decide, after⟩
    rw [hnew]
    exact hread _ read

theorem past_step (h : Past v) (hf : Forward v op) : Past (watched IP_MSS v op) := by
  obtain ⟨s, w⟩ := v
  unfold watched
  dsimp only
  cases hh : s.hung with
  | true =>
    have e : step IP_MSS s op = s := if_pos hh
    obtain ⟨h1, h2⟩ := @watch_hung op s w
    have hlast : w.last ≤ (watch w s op s).last := (le_getLastD hf).1
    rw [e]
    refine ⟨fun hs => ?_, fun ht => ?_⟩
    · rw [h1]
      exact (h.waiting hs).trans hlast
    · rw [h2]
      exact (h.tracking ht).trans hlast
  | false => exact past_times h hf (step_times IP_MSS hh op)

end

/-! ## the round trip times -/

/-- the time from `t1` to `t2` in whole milliseconds, at least `MIN_RTT` -/
def roundTrip (t1 t2 : Int) : Int := max MIN_RTT ((t2 - t1).tdiv 1000000)

/-- the acknowledgement covers the tracked number, modulo 2^32 -/
def covers (d : Data) (p : Packet) : Bool :=
  0 ≤ (p.getAcknowledgmentNumber - d.rttTrackedSendSequence).toInt

/-- the round trip that ends with the call: from when to when -/
def roundTripEnded (v : St × Watch) : Op → Option (Int × Int)
  | .receiveFromClient p i =>
    if Finishes v.1.data p.val then some (v.2.synAck, i.now)
    else if Acknowledges v.1.data p.val ∧ v.1.data.rttTracking ∧ covers v.1.data p.val then
      some (v.2.tracked, i.now)
    else none
  | _ => none

/-- What is pushed is a real round trip time, as the observer took it; nothing else is pushed; and
the tracking ends with the first segment that covers the tracked number, not before. -/
structure RealSample (IP_MSS : U16) (v : St × Watch) (op : Op) : Prop where
  pushed : ∀ t ∈ roundTripEnded v op, t.1 ≤ t.2 ∧
    (step IP_MSS v.1 op).data.rttHistory = v.1.data.rttHistory.tail ++ [roundTrip t.1 t.2]
  quiet : roundTripEnded v op = none → (step IP_MSS v.1 op).data.rttHistory = v.1.data.rttHistory ∨
    v.1.data.state = .CLOSED ∧ (step IP_MSS v.1 op).data.state ≠ .CLOSED ∧
      (step IP_MSS v.1 op).data.rttHistory = v.1.data.rttHistory.map fun _ => MIN_RTT * 5
  tracking : ∀ p i, op = .receiveFromClient p i → Acknowledges v.1.data p.val →
    v.1.data.rttTracking = true →
    (step IP_MSS v.1 op).data.rttTracking = !covers v.1.data p.val

/-- The condition on a call: the handshake did not take longer than the shortest time that is pushed,
and no segment that does not cover the tracked number is processed. -/
def SampleReady (s : St) : Op → Prop
  | .receiveFromClient p i =>
    (Finishes s.data p.val → (i.now - s.data.lastTimeSentNewData).tdiv 1000000 ≤ MIN_RTT) ∧
    (Acknowledges s.data p.val → s.data.rttTracking = true → covers s.data p.val = true)
  | _ => True

instance (s : St) : ∀ op, Decidable (SampleReady s op)
  | .receiveFromClient p i => inferInstanceAs (Decidable (
      (Finishes s.data p.val → (i.now - s.data.lastTimeSentNewData).tdiv 1000000 ≤ MIN_RTT) ∧
      (Acknowledges s.data p.val → s.data.rttTracking = true → covers s.data p.val = true)))
  | .receiveFromServer _ _ _ => .isTrue trivial
  | .flushDataToServer _ _ _ _ => .isTrue trivial
  | .flushDataToClient _ _ => .isTrue trivial
  | .onSocketError => .isTrue trivial
  | .checkStatus _ _ => .isTrue trivial
  | .closeSession => .isTrue trivial

section
variable {IP_MSS : U16} {v : St × Watch} {op : Op}

/-- the difference that is pushed at the end of the handshake is taken the wrong way round -/
theorem pushed_backwards {t1 t2 : Int} (h : t1 ≤ t2) :
    max ((t1 - t2).tdiv 1000000) MIN_RTT = roundTrip t1 t2 ↔ (t2 - t1).tdiv 1000000 ≤ MIN_RTT := by
  have h1 : (t1 - t2).tdiv 1000000 ≤ MIN_RTT := by
    have h2 : 0 ≤ (t2 - t1).tdiv 1000000 := Int.tdiv_nonneg (by omega) (by decide)
    unfold MIN_RTT
    rw [← Int.neg_sub t2 t1, Int.neg_tdiv]
    omega
  unfold roundTrip
  rw [max_eq_right h1]
  exact ⟨fun he => (le_max_right _ _).trans he.symm.le, fun hle => (max_eq_left hle).symm⟩

/-- nothing is pushed, and nothing is asked of the call -/
theorem realSample_quiet {w : Watch} {s : St} (hnone : roundTripEnded (s, w) op = none)
    (hhistory : (step IP_MSS s op).data.rttHistory = s.data.rttHistory ∨ s.data.state = .CLOSED ∧
      (step IP_MSS s op).data.state ≠ .CLOSED ∧
      (step IP_MSS s op).data.rttHistory = s.data.rttHistory.map fun _ => MIN_RTT * 5)
    (hother : ∀ p i, op = .receiveFromClient p i → ¬ Finishes s.data p.val ∧
      (Acknowledges s.data p.val → s.data.rttTracking = false)) :
    RealSample IP_MSS (s, w) op ∧ SampleReady s op := by
  refine ⟨⟨fun t ht => ?_, fun _ => hhistory, fun p i he hack ht => ?_⟩, ?_⟩
  · rw [hnone] at ht
    cases ht
  · exact absurd (((hother p i he).2 hack).symm.trans ht) (by decide)
  · cases op with
    | receiveFromClient p i =>
      obtain ⟨h1, h2⟩ := hother p i rfl
      exact ⟨fun hc => absurd hc h1, fun hack ht => absurd ((h2 hack).symm.trans ht) (by decide)⟩
    | _ => trivial

theorem realSample_established {w : Watch} {s : St} {p : Incoming} {i : ClientInput}
    (hr : Recorded (s, w)) (hp : Past (s, w)) (hf : Forward (s, w) (.receiveFromClient p i))
    (h : Finishes s.data p.val) (hhistory : (step IP_MSS s (.receiveFromClient p i)).data.rttHistory =
      (s.data.pushRTT (s.data.lastTimeSentNewData - i.now)).rttHistory) :
    RealSample IP_MSS (s, w) (.receiveFromClient p i) ↔ SampleReady s (.receiveFromClient p i) := by
  have htime := hr.waiting h.2.1
  have hle : w.synAck ≤ i.now :=
    (hp.waiting h.2.1).trans ((le_getLastD hf).2 _ (List.mem_cons_self)).1
  have hend : roundTripEnded (s, w) (.receiveFromClient p i) = some (w.synAck, i.now) := if_pos h
  have hopen : ¬ Acknowledges s.data p.val :=
    fun hc => absurd (h.2.1.symm.trans hc.1.2.1) (by decide)
  dsimp only at htime
  have hsame := pushed_backwards hle
  constructor
  · intro hreal
    have h1 := (hreal.pushed _ hend).2
    rw [hhistory] at h1
    unfold Data.pushRTT at h1
    have h2 := List.singleton_inj.mp (List.append_cancel_left h1)
    refine ⟨fun _ => ?_, fun hc => absurd hc hopen⟩
    rw [htime] at h2 ⊢
    exact hsame.mp h2
  · intro hready
    have h1 := hready.1 h
    rw [htime] at h1
    refine ⟨fun t ht => ?_, fun hc => ?_, fun p' i' he hack => ?_⟩
    · rw [hend] at ht
      cases ht
      refine ⟨hle, ?_⟩
      rw [hhistory, ← hsame.mpr h1, htime]
      rfl
    · rw [hend] at hc
      cases hc
    · cases he
      exact absurd hack hopen

theorem realSample_accepted {w : Watch} {s : St} {p : Incoming} {i : ClientInput}
    (hr : Recorded (s, w)) (hp : Past (s, w)) (hf : Forward (s, w) (.receiveFromClient p i))
    (h : Acknowledges s.data p.val) (ht : s.data.rttTracking = true)
    (hhistory : (step IP_MSS s (.receiveFromClient p i)).data.rttHistory =
      (s.data.pushRTT (i.now - s.data.rttSendTime)).rttHistory)
    (htracking : (step IP_MSS s (.receiveFromClient p i)).data.rttTracking = false) :
    RealSample IP_MSS (s, w) (.receiveFromClient p i) ↔ SampleReady s (.receiveFromClient p i) := by
  have htime := hr.tracking ht
  have hle : w.tracked ≤ i.now :=
    (hp.tracking ht).trans ((le_getLastD hf).2 _ (List.mem_cons_self)).1
  have hfin : ¬ Finishes s.data p.val :=
    fun hc => absurd (h.1.2.1.symm.trans hc.2.1) (by decide)
  dsimp only at htime
  constructor
  · intro hreal
    refine ⟨fun hc => absurd hc hfin, fun _ _ => ?_⟩
    have h1 := hreal.tracking p i rfl h ht
    rw [htracking] at h1
    exact Bool.not_eq_eq_eq_not.mp h1.symm
  · intro hready
    have hcov := hready.2 h ht
    have hend : roundTripEnded (s, w) (.receiveFromClient p i) = some (w.tracked, i.now) := by
      unfold roundTripEnded
      dsimp only
      rw [if_neg hfin, if_pos ⟨h, ht, hcov⟩]
    refine ⟨fun t hmem => ?_, fun hc => ?_, fun p' i' he hack _ => ?_⟩
    · rw [hend] at hmem
      cases hmem
      refine ⟨hle, ?_⟩
      rw [hhistory]
      unfold Data.pushRTT roundTrip
      rw [htime, max_comm]
    · rw [hend] at hc
      cases hc
    · cases he
      rw [htracking, hcov]
      rfl

/-- **When a call takes real round trip times only.** -/
theorem realSample_iff (hr : Recorded v) (hp : Past v) (hf : Forward v op) (hh : v.1.hung = false) :
    RealSample IP_MSS v op ↔ SampleReady v.1 op := by
  obtain ⟨s, w⟩ := v
  dsimp only at hh ⊢
  have none_of (hother : ∀ p i, op = .receiveFromClient p i → ¬ Finishes s.data p.val ∧
      (Acknowledges s.data p.val → s.data.rttTracking = false)) :
      roundTripEnded (s, w) op = none := by
    cases op with
    | receiveFromClient p i =>
      obtain ⟨h1, h2⟩ := hother p i rfl
      unfold roundTripEnded
      dsimp only
      rw [if_neg h1, if_neg fun hc => absurd ((h2 hc.1).symm.trans hc.2.1) (by decide)]
    | _ => rfl
  have quiet (hother : ∀ p i, op = .receiveFromClient p i → ¬ Finishes s.data p.val ∧
      (Acknowledges s.data p.val → s.data.rttTracking = false))
      (hhistory : (step IP_MSS s op).data.rttHistory = s.data.rttHistory ∨ s.data.state = .CLOSED ∧
        (step IP_MSS s op).data.state ≠ .CLOSED ∧
        (step IP_MSS s op).data.rttHistory = s.data.rttHistory.map fun _ => MIN_RTT * 5) :
      RealSample IP_MSS (s, w) op ↔ SampleReady s op := by
    obtain ⟨h1, h2⟩ := @realSample_quiet IP_MSS op w s (none_of hother) hhistory hother
    exact iff_of_true h1 h2
  have hs := step_times IP_MSS hh op
  generalize hs' : step IP_MSS s op = s' at hs
  cases hs with
  | kept times wait other =>
    refine quiet (fun p i he => ⟨(other p i he).1, fun hc => absurd hc (other p i he).2⟩) ?_
    rw [hs']
    exact .inl times.rttHistory
  | opened hs shaking history tracking retry flushed sent =>
    refine quiet (fun p i he => ⟨fun hc => ?_, fun hc => ?_⟩) ?_
    · exact absurd (hs.symm.trans hc.2.1) (by decide)
    · exact absurd (hs.symm.trans hc.1.2.1) (by decide)
    · rw [hs']
      refine .inr ⟨hs, ?_, history⟩
      rcases shaking with h1 | h1 <;> rw [h1] <;> decide
  | connected hs data sent =>
    refine quiet (fun p i he => by cases he) ?_
    rw [hs', data]
    exact .inl rfl
  | established hfin state history tracking sendTime =>
    exact realSample_established hr hp hf hfin (by rw [hs']; exact history)
  | accepted hack state history tracking =>
    by_cases ht : s.data.rttTracking = true
    · rw [if_pos ht] at history
      exact realSample_accepted hr hp hf hack ht (by rw [hs']; exact history)
        (by rw [hs']; exact tracking)
    · rw [if_neg ht] at history
      refine quiet (fun p i he => ⟨fun hc => ?_, fun _ => by simpa using ht⟩) ?_
      · cases he
        exact absurd (hack.1.2.1.symm.trans hc.2.1) (by decide)
      · rw [hs']
        exact .inl history
  | tracked state other history before after sendTime read =>
    refine quiet (fun p i he => by subst he; cases other) ?_
    rw [hs']
    exact .inl history

end

/-! ## runs -/

section
variable {IP_MSS : U16} {s0 : St} (w0 : Watch)

theorem recorded_init (h0 : s0.data = .init IP_MSS) : Recorded (s0, w0) := by
  refine ⟨?_, ?_, ?_, ?_⟩
  all_goals rw [h0]
  · rfl
  · exact fun hc => by cases hc
  · exact fun hc => by cases hc
  · rintro (hc | hc) <;> cases hc

theorem past_init (h0 : s0.data = .init IP_MSS) : Past (s0, w0) := by
  refine ⟨?_, ?_⟩
  all_goals rw [h0]
  · exact fun hc => by cases hc
  · exact fun hc => by cases hc

/-- **The round trip times are real** in a run, if and only if no handshake took longer than
`MIN_RTT` and no segment was processed that does not cover the number that is tracked. -/
theorem samples_real_iff (h0 : s0.data = .init IP_MSS) {ops : List Op}
    (hclock : Along (watched IP_MSS) Forward (s0, w0) ops) :
    Along (watched IP_MSS) (fun v op => v.1.hung = false → RealSample IP_MSS v op) (s0, w0) ops ↔
      Along (watched IP_MSS) (fun v op => v.1.hung = false → SampleReady v.1 op) (s0, w0) ops := by
  refine Along.congr (along_inv (fun v => Recorded v ∧ Past v) ?_ ?_
    ⟨recorded_init w0 h0, past_init w0 h0⟩ hclock)
  · exact fun v op hv hf => ⟨recorded_step hv.1, past_step hv.2 hf⟩
  · exact fun v op hv hf => forall_congr' fun hh => realSample_iff hv.1 hv.2 hf hh

end

/-- the server is reached at once, and the clock shows the time `now` -/
def reachedAt (now : Int) : ClientInput := ⟨3, .returned 0, 500, now, now⟩

/-- the handshake of a client that takes its time -/
def shakesHandsAfter (t : Int) : List Op :=
  [.receiveFromClient (synPacket clientA serverA 100 1000) (reachedAt 1000000000),
   .receiveFromClient (ackPacket clientA serverA 101 500 1000) (reachedAt (1000000000 + t))]

theorem samples_real_after_twenty_ms :
    Along (watched 576) (fun v op => v.1.hung = false → RealSample 576 v op) (unused 576, ⟨0, 0, 0⟩)
        (shakesHandsAfter 20000000) ↔
      Along (watched 576) (fun v op => v.1.hung = false → SampleReady v.1 op)
        (unused 576, ⟨0, 0, 0⟩) (shakesHandsAfter 20000000) :=
  samples_real_iff ⟨0, 0, 0⟩ rfl (by decide)

/-- The ACK comes a second after the SYN-ACK: 50 ms are pushed. -/
theorem samples_not_real : ¬ ∀ (IP_MSS : U16) (s0 : St) (w0 : Watch) (ops : List Op),
    s0.data = .init IP_MSS → Along (watched IP_MSS) Forward (s0, w0) ops →
    Along (watched IP_MSS) (fun v op => v.1.hung = false → RealSample IP_MSS v op) (s0, w0) ops := by
  intro h
  obtain ⟨_, h1, _⟩ := h 576 (unused 576) ⟨0, 0, 0⟩ (shakesHandsAfter 1000000000) rfl (by decide)
  obtain ⟨h2, _, _⟩ := h1 (by decide)
  obtain ⟨_, h3⟩ := h2 (1000000000, 2000000000) (by decide)
  revert h3
  decide

/-! ## the timeout of the handshake -/

/-- in the handshake the last test of `checkStatus` compares with 750 ms -/
def HANDSHAKE_LIMIT : Int := ms (MIN_RTT * 15)

theorem checkAcknowledged_shaking {v : St × Watch} (h : Recorded v) (hsh : Shaking v.1.data)
    (now : Int) : v.1.checkAcknowledged now =
      if now - v.1.data.lastTimeAcceptedAcknowledgement > HANDSHAKE_LIMIT then (false, v.1.closeSession)
      else (true, v.1) := by
  obtain ⟨hretry, hflushed, hhistory⟩ := h.fresh hsh
  have hmean : v.1.data.getMeanRTT = MIN_RTT * 5 := by
    unfold Data.getMeanRTT
    rw [hhistory]
    rfl
  unfold St.checkAcknowledged Data.getIntervalToNextProbe
  rw [hretry, hflushed, hmean]
  rfl

/-- `checkStatus` closes the session exactly if the SYN-ACK was sent first more than `SYN_TIMEOUT`
ago -/
def KeepsTimeout (v : St × Watch) (now now' : Int) : Prop :=
  ((v.1.checkStatus now now').1 = false ∧ (v.1.checkStatus now now').2.data.state = .CLOSED) ↔
    now - v.2.synAck > SYN_TIMEOUT

/-- **The timeout of the handshake** is kept if and only if it has passed, or the last
acknowledgement, which no SYN resets, is not more than 750 ms ago. -/
theorem synTimeout_iff {IP_MSS : U16} {s0 : St} (h0 : s0.data = .init IP_MSS) (w0 : Watch)
    {ops : List Op}
    (hs : (run (watched IP_MSS) (s0, w0) ops).1.data.state = .SYN_ACK_SENT) (now now' : Int) :
    KeepsTimeout (run (watched IP_MSS) (s0, w0) ops) now now' ↔
      now - (run (watched IP_MSS) (s0, w0) ops).2.synAck > SYN_TIMEOUT ∨
        now' - (run (watched IP_MSS) (s0, w0) ops).1.data.lastTimeAcceptedAcknowledgement ≤
          HANDSHAKE_LIMIT := by
  have hr : Recorded (run (watched IP_MSS) (s0, w0) ops) :=
    run_inv Recorded (fun v op hv _ => recorded_step hv) (recorded_init w0 h0)
      (along_true (watched IP_MSS) (s0, w0) ops)
  generalize run (watched IP_MSS) (s0, w0) ops = v at hs hr ⊢
  have htime := hr.waiting hs
  have hcheck := checkAcknowledged_shaking hr (.inr hs) now'
  have hclosed : v.1.closeSession.data.state = .CLOSED := by rw [St.closeSession_data]
  unfold KeepsTimeout St.checkStatus
  rw [hs]
  dsimp only
  rw [htime, hcheck]
  by_cases h1 : now - v.2.synAck > SYN_TIMEOUT
  · rw [if_pos h1]
    exact iff_of_true (iff_of_true ⟨rfl, hclosed⟩ h1) (.inl h1)
  · rw [if_neg h1]
    by_cases h2 : now' - v.1.data.lastTimeAcceptedAcknowledgement > HANDSHAKE_LIMIT
    · rw [if_pos h2]
      refine iff_of_false (fun hc => h1 (hc.mp ⟨rfl, hclosed⟩)) ?_
      rw [not_or, Int.not_le]
      exact ⟨h1, h2⟩
    · rw [if_neg h2]
      refine iff_of_true (iff_of_false (fun hc => ?_) h1) (.inr (Int.not_lt.mp h2))
      exact absurd hc.1.symm Bool.false_ne_true

theorem synTimeout_at_once :
    KeepsTimeout (run (watched 576) (unused 576, ⟨0, 0, 0⟩) [opening]) 20000000 20000000 ↔
      20000000 - (run (watched 576) (unused 576, ⟨0, 0, 0⟩) [opening]).2.synAck > SYN_TIMEOUT ∨
        20000000 - (run (watched 576) (unused 576,
          ⟨0, 0, 0⟩) [opening]).1.data.lastTimeAcceptedAcknowledgement ≤ HANDSHAKE_LIMIT :=
  synTimeout_iff rfl ⟨0, 0, 0⟩ (by decide) 20000000 20000000

/-- A new session sends its SYN-ACK a second after the clock began, and the first tick, 20 ms later,
closes it. -/
theorem synTimeout_not_kept : ¬ ∀ (IP_MSS : U16) (s0 : St) (w0 : Watch) (ops : List Op),
    s0.data = .init IP_MSS → Along (watched IP_MSS) Forward (s0, w0) ops →
    (run (watched IP_MSS) (s0, w0) ops).1.hung = false →
    (run (watched IP_MSS) (s0, w0) ops).1.data.state = .SYN_ACK_SENT → ∀ now now',
    Forward (run (watched IP_MSS) (s0, w0) ops) (.checkStatus now now') →
    KeepsTimeout (run (watched IP_MSS) (s0, w0) ops) now now' := by
  intro h
  let ops : List Op :=
    [.receiveFromClient (synPacket clientA serverA 100 1000) (reachedAt 1000000000)]
  have h1 := h 576 (unused 576) ⟨0, 0, 0⟩ ops rfl (by decide) (by decide) (by decide) 1020000000
    1020000000 (by decide)
  have h2 := h1.mp (by decide)
  revert h2
  decide

end TunServer.Sessions2
