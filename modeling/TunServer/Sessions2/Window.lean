import TunServer.Session.Window
import TunServer.Sessions2.Neighbours
import TunServer.Sessions2.OldAck
import TunServer.Sessions2.Termination

/-!
# The receive window that is advertised, in both classes

In `sessions2` every place that sends an ACK sets the window to what the receive buffer has room for,
but one: the delayed acknowledgement goes out with the window of the client's own segment.

* `HonestWindow`    an ACK that is no reset advertises no more than is free;
* `WindowReady`     the condition on a call: where the delayed acknowledgement is sent, the window of
                    the client's segment is free here once its payload is taken in;
* `step_honest`     then nothing is advertised that is not free;
* `windows_honest`  runs, in both classes.
-/

set_option linter.unusedVariables false

namespace TunServer

namespace Sessions2

/-- an ACK that is no reset advertises no more than is free at that moment -/
def HonestWindow : Event → Prop
  | .sendBack d p => p.isAck = true → p.isReset = false →
      p.windowSize.toNat ≤ d.receiveBuffer.available.toNat
  | _ => True

instance : DecidablePred HonestWindow
  | .sendBack d p => inferInstanceAs (Decidable (p.isAck = true → p.isReset = false →
      p.windowSize.toNat ≤ d.receiveBuffer.available.toNat))
  | .sent _ => .isTrue trivial
  | .received _ => .isTrue trivial
  | .acknowledged _ => .isTrue trivial
  | .shutdownWrite => .isTrue trivial
  | .onSocketClose => .isTrue trivial

/-- the window field is the room of the receive buffer -/
def Shown (d : Data) (p : Packet) : Prop := p.windowSize = d.receiveBuffer.available.setWidth 16

theorem Shown.honest {d : Data} {p : Packet} (h : Shown d p) : HonestWindow (.sendBack d p) := by
  intro _ _
  rw [h, BitVec.toNat_setWidth]
  exact Nat.mod_le _ _

theorem resetSeq_honest (d : Data) {p : Packet} {seq : U32} (h : p.header = .resetSeq seq) :
    HonestWindow (.sendBack d p) := by
  intro hack _
  unfold Packet.isAck at hack
  rw [h] at hack
  exact absurd hack Bool.false_ne_true

theorem resetAck_honest (d : Data) {p : Packet} {ack : U32} (h : p.header = .resetAck ack) :
    HonestWindow (.sendBack d p) := by
  intro _ hrst
  unfold Packet.isReset at hrst
  rw [h] at hrst
  exact absurd hrst.symm Bool.false_ne_true

/-! ## to the client -/

section
variable {s : St} {mss : U16} {push : Bool} {bound ack off : U32}

theorem sendSegment_honest (h : Shown s.data s.packet) :
    Adds HonestWindow s.log (s.sendSegment mss bound ack off).log ∧
      Shown (s.sendSegment mss bound ack off).data (s.sendSegment mss bound ack off).packet := by
  unfold St.sendSegment
  dsimp only
  split_ifs
  · exact ⟨Adds.one _ (Shown.honest h), h⟩
  · exact ⟨Adds.one _ (Shown.honest h), h⟩

theorem sendLoop_honest (turns : Nat) (h : Shown s.data s.packet) :
    Adds HonestWindow s.log (St.sendLoop mss push bound ack turns off s).2.log := by
  induction turns generalizing off s with
  | zero =>
    unfold St.sendLoop
    split_ifs <;> exact Adds.refl _ _
  | succ turns ih =>
    unfold St.sendLoop
    split_ifs
    · obtain ⟨h1, h2⟩ := @sendSegment_honest s mss bound ack off h
      exact h1.trans (ih h2)
    · exact Adds.refl _ _

theorem sendData_honest (s : St) (off : U32) (mss : U16) (push : Bool) (bound : U32) (now : Int)
    (turns : Nat) : Adds HonestWindow s.log (s.sendDataStartingFrom off mss push bound now turns).log := by
  let t : St := { s with packet := s.packet.setWindow s.data.receiveBuffer.available }
  have h1 := @sendLoop_honest t mss push bound
    (s.data.receiveSent + s.data.receiveBuffer.position) off turns rfl
  unfold St.sendDataStartingFrom
  dsimp only
  split_ifs
  · exact h1
  · rw [sentUpTo_log]
    exact h1

theorem probe_honest (s : St) (now : Int) : Adds HonestWindow s.log (s.probe now).log := by
  unfold St.probe
  split_ifs
  · exact Adds.one _ (Shown.honest rfl)
  · exact Adds.refl _ _

theorem flushSegments_honest (s : St) (bound : U32) (now : Int) (turns : Nat) :
    Adds HonestWindow s.log (s.flushSegments bound now turns).log := by
  unfold St.flushSegments
  dsimp only
  split_ifs
  · exact sendData_honest s _ _ _ _ _ _
  · exact sendData_honest s _ _ _ _ _ _
  · rw [(trackRTT_keeps _ _).2.1]
    exact sendData_honest s _ _ _ _ _ _
  · exact Adds.refl _ _

/-- what `flushDataToClient` sends, also in a loop that does not end -/
theorem flushDataToClient_honest (s : St) (now : Int) (turns : Nat) :
    Adds HonestWindow s.log (s.flushDataToClient now turns).log := by
  have h1 := flushSegments_honest s (St.sendBound s.data) now turns
  have h2 : ∀ t : St, Adds HonestWindow t.log
      (t.flushRest (St.sendBound s.data) (St.finNotSent s.data) now turns).log := by
    intro t
    unfold St.flushRest
    split_ifs
    · exact sendData_honest t _ _ _ _ _ _
    · exact Adds.refl _ _
  unfold St.flushDataToClient
  dsimp only
  split_ifs
  · exact Adds.refl _ _
  · exact h1
  · exact h1.trans (h2 _)
  · exact (h1.trans (h2 _)).trans (probe_honest _ _)

end

/-! ## answers to a packet -/

section
variable (s : St)

theorem sendReset_honest : Adds HonestWindow s.log s.sendReset.log := by
  unfold St.sendReset
  dsimp only
  split_ifs
  · exact Adds.one _ (resetSeq_honest _ rfl)
  · exact Adds.one _ (resetAck_honest _ rfl)

theorem sendAck_honest : Adds HonestWindow s.log s.sendAck.log := Adds.one _ (Shown.honest rfl)

theorem acknowledgeDelayed_honest {now : Int}
    (h : clockTest now s.shared.lastTimeSentAcknowledge = true →
      s.packet.windowSize.toNat ≤ s.data.receiveBuffer.available.toNat) :
    Adds HonestWindow s.log (s.acknowledgeDelayed now).log := by
  unfold St.acknowledgeDelayed
  split_ifs with hc
  · exact Adds.one _ fun _ _ => h (decide_eq_true hc)
  · exact Adds.refl _ _

/-- the room behind the payload of a segment -/
def roomBehind (d : Data) (p : Packet) : Nat :=
  d.receiveBuffer.available.toNat - p.payload.length

theorem acceptBytes_room : s.acceptBytes.data.receiveBuffer.available.toNat =
    roomBehind s.data s.packet := by
  have h1 := s.data.receiveBuffer.available_toNat
  unfold roomBehind
  rw [SmartBuffer.available_toNat, acceptBytes_bytes, List.length_append, List.length_take,
    acceptLength_toNat]
  omega

theorem acceptPayload_honest {now : Int} (h : payloadAsks s.data s.packet = true →
      clockTest now s.shared.lastTimeSentAcknowledge = true →
      s.packet.windowSize.toNat ≤ roomBehind s.data s.packet) :
    Adds HonestWindow s.log (s.acceptPayload now).log := by
  obtain ⟨_, hlog, _⟩ := acceptBytes_keeps s
  have hp := acceptBytes_packet s
  have hclock := acceptBytes_clock s
  unfold St.acceptPayload
  dsimp only
  split_ifs with hf hfin
  · exact Adds.refl _ _
  · rw [← hlog]
    exact sendAck_honest { s.acceptBytes with data.receiveFromClientFinished := true }
  · rw [hp] at hfin
    rw [← hlog]
    refine acknowledgeDelayed_honest _ fun hc => ?_
    rw [hp, acceptBytes_room]
    refine h (decide_eq_true ⟨by simpa using hf, hfin⟩) ?_
    rw [← hc]
    exact congrArg (clockTest now) hclock.symm

/-- the receive buffer is as full as before when the payload is taken in -/
theorem acceptSegment_honest (i : ClientInput) (h : segmentAsks s.data s.packet = true →
      clockTest i.nowAcknowledge s.shared.lastTimeSentAcknowledge = true →
      s.packet.windowSize.toNat ≤ roomBehind s.data s.packet) :
    Adds HonestWindow s.log (s.acceptSegment i).log := by
  have hev : ∀ e, AckEvent e → HonestWindow e := by
    rintro e ⟨n, rfl⟩
    trivial
  refine acceptSegment_log hev trivial fun hc => acceptPayload_honest _ fun hasks hpass => ?_
  have hk := beforePayload_ack s i
  unfold roomBehind
  rw [hk.packet, hk.up.receiveBuffer]
  refine h (beforePayload_asks hc hasks) ?_
  rw [← hpass]
  exact congrArg (clockTest i.nowAcknowledge) (beforePayload_clock s i).symm

end

/-! ## the calls -/

/-- Where the delayed acknowledgement answers a segment, the window that the client advertised is
free here. -/
def WindowReady (s : St) : Op → Prop
  | .receiveFromClient p i => packetAsks s.data p.val = true →
      clockTest i.nowAcknowledge s.shared.lastTimeSentAcknowledge = true →
      p.val.windowSize.toNat ≤ roomBehind s.data p.val
  | _ => True

instance (s : St) : ∀ op, Decidable (WindowReady s op)
  | .receiveFromClient p i => inferInstanceAs (Decidable (_ → _ → _))
  | .receiveFromServer _ _ _ => .isTrue trivial
  | .flushDataToServer _ _ _ _ => .isTrue trivial
  | .flushDataToClient _ _ => .isTrue trivial
  | .onSocketError => .isTrue trivial
  | .checkStatus _ _ => .isTrue trivial
  | .closeSession => .isTrue trivial

section
variable {IP_MSS : U16} {s : St}

theorem receiveFromClient_honest {p : Incoming} {i : ClientInput} (hs : s.data.state = .ESTABLISHED)
    (h : WindowReady s (.receiveFromClient p i)) :
    Adds HonestWindow s.log (receiveFromClient IP_MSS s p i).2.log := by
  unfold receiveFromClient
  split_ifs with hcan
  · let t : St := { s with packet := p.val }
    have hstep := handlePacket_step IP_MSS t i
    show Adds HonestWindow t.log (t.handlePacket IP_MSS i).log
    have hst : t.data.state = .ESTABLISHED := hs
    generalize t.handlePacket IP_MSS i = s' at hstep ⊢
    cases hstep with
    | same => exact Adds.refl _ _
    | reset => exact sendReset_honest t
    | ack => exact sendAck_honest t
    | synAck hs' => exact absurd (hst.symm.trans hs') (by decide)
    | opened res hs' => exact absurd (hst.symm.trans hs') (by decide)
    | closed hs' hsyn hrst hwin =>
      rw [St.closeSession_log]
      exact Adds.one _ trivial
    | established hs' => exact absurd (hst.symm.trans hs') (by decide)
    | accepted hs' hsyn hrst hack hseq hrange =>
      refine acceptSegment_honest t i fun hasks => h ?_
      exact decide_eq_true ⟨hcan, hs, fun hc => Bool.false_ne_true (hsyn.symm.trans hc),
        fun hc => Bool.false_ne_true (hrst.symm.trans hc), hack, hseq, hrange, hasks⟩
  · exact Adds.refl _ _

theorem resetClient_honest (s : St) : Adds HonestWindow s.log s.resetClient.log := by
  unfold St.resetClient
  dsimp only
  rw [St.closeSession_log, St.sendBack_log]
  exact (Adds.one _ (resetSeq_honest _ rfl)).trans (Adds.one _ trivial)

theorem finishSend_honest (s : St) (n : U32) : Adds HonestWindow s.log (s.finishSend n).log := by
  unfold St.finishSend
  dsimp only
  split_ifs
  · rw [St.closeSession_log, St.unsetFrom_log]
    exact Adds.one _ trivial
  · simp only [St.emit_log, St.unsetFrom_log]
    exact Adds.one _ trivial
  · simp only [St.unsetFrom_log]
    exact Adds.refl _ _
  · exact Adds.refl _ _

theorem sendToServer_honest (s : St) (r : SendResult) : Adds HonestWindow s.log (s.sendToServer r).log := by
  have send : ∀ bs n, Adds HonestWindow s.log ((s.emit (.sent bs)).finishSend n).log := fun bs n =>
    (Adds.one _ trivial : Adds HonestWindow s.log (s.emit (.sent bs)).log).trans (finishSend_honest _ n)
  cases r with
  | error => exact resetClient_honest s
  | accepted n => exact send _ _
  | wouldBlock => exact send _ _

/-- **A call that is ready advertises no more than is free.** -/
theorem step_honest (hs : s.data.state = .ESTABLISHED) {op : Op} (h : WindowReady s op) :
    Adds HonestWindow s.log (step IP_MSS s op).log := by
  unfold step
  split_ifs with hh
  · exact Adds.refl _ _
  · cases op with
    | receiveFromClient p i => exact receiveFromClient_honest hs h
    | receiveFromServer r now turns =>
      dsimp only
      by_cases h0 : s.data.receiveFromServerFinished = false
      · rw [receiveFromServer_log hs h0]
        refine Adds.trans ?_ (flushDataToClient_honest _ now turns)
        refine (readFromServer_read s r).log.mono ?_
        rintro e ⟨bs, rfl⟩
        trivial
      · rw [receiveFromServer_skip fun hc => h0 hc.2]
        exact Adds.refl _ _
    | flushDataToServer lastError r now now' =>
      dsimp only [St.flushDataToServer]
      rw [if_neg (by rw [hs]; decide)]
      split_ifs
      · exact Adds.refl _ _
      · exact sendToServer_honest s r
    | flushDataToClient now turns => exact flushDataToClient_honest s now turns
    | onSocketError => exact resetClient_honest s
    | checkStatus now now' =>
      dsimp only
      rcases checkStatus_cases s now now' with ⟨_, h⟩ | ⟨_, h⟩ | ⟨_, h⟩
      · rw [h]
        exact Adds.refl _ _
      · rw [h]
        exact Adds.refl _ _
      · rw [h, St.closeSession_log]
        exact Adds.one _ trivial
    | closeSession =>
      dsimp only
      rw [St.closeSession_log]
      exact Adds.one _ trivial

end

/-! ## runs -/

/-- a segment whose payload the session takes in -/
def takesData (d : Data) (p : Packet) : Bool :=
  canHandle d p ∧ ¬ p.isSyn ∧ ¬ p.isReset ∧ p.isAck ∧ St.inOrder d p ∧ St.ackInRange d p ∧
    ¬ d.receiveFromClientFinished

section
variable {IP_MSS : U16} {s : St}

/-- **What is free is taken**: of a segment that does not close the session nothing is dropped. -/
theorem free_is_taken {p : Incoming} {i : ClientInput} (hh : s.hung = false)
    (hs : s.data.state = .ESTABLISHED) (htake : takesData s.data p.val = true)
    (hlen : p.val.payload.length ≤ s.data.receiveBuffer.available.toNat)
    (hopen : (step IP_MSS s (.receiveFromClient p i)).data.state ≠ .CLOSED) :
    (step IP_MSS s (.receiveFromClient p i)).data.receiveBuffer.bytes =
      s.data.receiveBuffer.bytes ++ p.val.payload := by
  have ⟨hcan, hsyn, hrst, hack, hseq, hrange, hfin⟩ := of_decide_eq_true htake
  let t : St := { s with packet := p.val }
  have hwhole : accepted s.data p.val = p.val.payload := by
    unfold accepted
    rw [if_neg hfin, acceptLength_toNat, Nat.min_eq_left hlen, List.take_length]
  have e : (step IP_MSS s (.receiveFromClient p i)).data = (t.acceptSegment i).data := by
    have e1 : t.handlePacket IP_MSS i = t.acceptSegment i := by
      unfold St.handlePacket St.receiveAck
      rw [if_neg (show ¬ t.packet.isSyn = true from hsyn),
        if_neg (show ¬ t.packet.isReset = true from hrst), if_pos (show t.packet.isAck = true from hack),
        show t.data.state = .ESTABLISHED from hs]
      dsimp only
      rw [if_neg (not_not.mpr (show St.inOrder t.data t.packet = true from hseq)),
        if_neg (not_not.mpr (show St.ackInRange t.data t.packet = true from hrange))]
    unfold step receiveFromClient
    rw [if_neg (by rw [hh]; decide)]
    dsimp only
    rw [if_pos hcan]
    have e2 := congrArg St.data e1
    exact e2
  rw [e] at hopen ⊢
  obtain ⟨t1, hk, hclosed | haccept⟩ := acceptSegment_cases t i
  · rw [hclosed, St.closeSession_data] at hopen
    exact absurd rfl hopen
  · rw [haccept.bytes, hk.up.receiveBuffer, accepted_keeps hk.up, hk.packet]
    exact congrArg _ hwhole

/-- what the class promises about its window, for a call -/
def WindowHonest (IP_MSS : U16) (s : St) (op : Op) : Prop :=
  s.hung = false → s.data.state = .ESTABLISHED → Adds HonestWindow s.log (step IP_MSS s op).log ∧
    ∀ p i, op = .receiveFromClient p i → takesData s.data p.val = true →
      p.val.payload.length ≤ s.data.receiveBuffer.available.toNat →
      (step IP_MSS s op).data.state ≠ .CLOSED →
      (step IP_MSS s op).data.receiveBuffer.bytes = s.data.receiveBuffer.bytes ++ p.val.payload

theorem run_honest {ops : List Op} (hops : Along (step IP_MSS) WindowReady s ops) :
    Along (step IP_MSS) (WindowHonest IP_MSS) s ops := by
  refine hops.mono fun s op hready hh hs => ⟨step_honest hs hready, ?_⟩
  rintro p i rfl htake hlen hopen
  exact free_is_taken hh hs htake hlen hopen

end

end Sessions2

/-- **The window is honest in both classes**, if the calls are ready: the delayed acknowledgement,
which has the client's own window, is sent only where that is free; and in `session` a segment with
`getReceiveAvailable` only where the FIN did not come on top of a full buffer and `receiveUser` is
not left behind `receiveSequence`. -/
theorem windows_honest {IP_MSS : U16} {s0 : Sessions2.St} {ops : List Sessions2.Op}
    {t0 : Session.St} {calls : List Session.Op} (h0 : t0.data = .init)
    (hops : Along (Sessions2.step IP_MSS) Sessions2.WindowReady s0 ops)
    (hcalls : AlongM Session.step Session.WindowReady t0 calls) :
    Along (Sessions2.step IP_MSS) (Sessions2.WindowHonest IP_MSS) s0 ops ∧
      AlongM Session.step Session.WindowHonest t0 calls := by
  refine ⟨Sessions2.run_honest hops, Session.run_honest ?_ hcalls⟩
  rw [h0]
  exact Session.bounded_init

/-- the server is reached at once, and the clock shows the time `now` -/
def Sessions2.reached (now : Int) : Sessions2.ClientInput := ⟨3, .returned 0, 500, now, now⟩

/-- two bytes of a client that advertises `window` bytes, and the handshake before them -/
def Sessions2.offeringTwoBytes (window : U16) : List Sessions2.Op :=
  [.receiveFromClient (Sessions2.synPacket ⟨1, 1⟩ ⟨2, 2⟩ 100 window) (Sessions2.reached 0),
   .receiveFromClient (Sessions2.ackPacket ⟨1, 1⟩ ⟨2, 2⟩ 101 500 window) (Sessions2.reached 0),
   .receiveFromClient (Sessions2.dataPacket ⟨1, 1⟩ ⟨2, 2⟩ 101 501 window [97, 98]
      Sessions2.twoBytes_lt) (Sessions2.reached 1000000000)]

def Session.withWindow (p : Session.Incoming) (window : U16) : Session.Incoming :=
  ⟨{ p.val with windowSize := window }, p.property⟩

/-- the same for the other class -/
def Session.offeringTwoBytes (window : U16) : List Session.Op :=
  [.receiveFromClient Session.uploadSyn (Session.taking 0),
   .receiveFromClient (Session.withWindow
      (Session.ackPacket Session.clientA Session.serverA false 101 32) window) (Session.taking 0),
   .receiveFromClient (Session.withWindow
      (Session.dataPacket Session.clientA Session.serverA 101 32 [97, 98] Sessions2.twoBytes_lt) window)
      (Session.taking 0)]

theorem windows_honest_two_bytes :
    Along (Sessions2.step 576) (Sessions2.WindowHonest 576) (Sessions2.unused 576)
      (Sessions2.offeringTwoBytes 1000) ∧
    AlongM Session.step Session.WindowHonest Session.unused (Session.offeringTwoBytes 1000) :=
  windows_honest rfl (by decide) (by decide)

/-- A client that advertises 65535 bytes gets the same window back, in either class. -/
theorem windows_not_honest :
    (¬ ∀ (IP_MSS : U16) (s0 : Sessions2.St) (ops : List Sessions2.Op), s0.data = .init IP_MSS →
      Along (Sessions2.step IP_MSS) (Sessions2.WindowHonest IP_MSS) s0 ops) ∧
    ¬ ∀ (t0 : Session.St) (calls : List Session.Op), t0.data = .init →
      AlongM Session.step Session.WindowHonest t0 calls := by
  constructor
  · intro h
    obtain ⟨_, _, h1, _⟩ := h 576 (Sessions2.unused 576) (Sessions2.offeringTwoBytes 65535) rfl
    exact absurd (h1 rfl rfl).1.drop (by decide)
  · intro h
    have h1 := h Session.unused (Session.offeringTwoBytes 65535) rfl
    have h2 : Ends (fun _ => False) (fun t => t.data.state = .ESTABLISHED ∧ ∀ op ∈
          (Session.offeringTwoBytes 65535).drop 2, Ends (fun _ => False) (fun t' => ¬ ∀ e ∈ t'.log.drop
            t.log.length, Session.HonestWindow (Session.freeSpace t'.data) e) (Session.step t op))
        (runM Session.step Session.unused ((Session.offeringTwoBytes 65535).take 2)) := by decide
    cases hr : runM Session.step Session.unused ((Session.offeringTwoBytes 65535).take 2) with
    | error e => exact h2.error hr
    | ok t =>
      obtain ⟨hs, h3⟩ := h2.ok hr
      have h4 := (h1.last (l := (Session.offeringTwoBytes 65535).take 2) hr) hs
      have h5 := h3 _ (List.mem_singleton.mpr rfl)
      cases hstep : Session.step t (.receiveFromClient (Session.withWindow (Session.dataPacket
          Session.clientA Session.serverA 101 32 [97, 98] (by decide)) 65535) (Session.taking 0)) with
      | error e => exact h5.error hstep
      | ok t' => exact h5.ok hstep (h4.1.returns t' hstep).drop

end TunServer
