import TunServer.Base.Share
import TunServer.Session.Downstream

/-!
# What a `session/TCPSession` reads of what it shares

The same for the older class: the descriptor sets and `maxFd` are only written, the static clock is
read in `acknowledgeDelayed` alone, and decides there only if there is something to acknowledge and
not yet too much of it.

* `Like`, `Like.…`   two states that differ in `Shared` only, and the calls keep them so;
* `call`             a call of one of any number of sessions;
* `asksClock`        what it reads of what they share, and `call_readsOnly` that this is all.
-/

set_option linter.unusedVariables false

namespace TunServer.Session

/-- the state `s'` is `s` with other descriptor sets and another clock -/
def Like (s s' : St) : Prop := ∃ x, s' = { s with shared := x }

section
variable {s s' t t' : St}

theorem Like.ite {c : Prop} [Decidable c] (h : c → Like s s') (h' : ¬ c → Like t t') :
    Like (if c then s else t) (if c then s' else t') := ite_rel Iff.rfl h h'

theorem Like.data (h : Like s s') : s'.data = s.data := by
  obtain ⟨x, rfl⟩ := h
  rfl

theorem Like.packet (h : Like s s') : s'.packet = s.packet := by
  obtain ⟨x, rfl⟩ := h
  rfl

theorem Like.log (h : Like s s') : s'.log = s.log := by
  obtain ⟨x, rfl⟩ := h
  rfl

theorem Like.setData (h : Like s s') (g : Data → Data) :
    Like { s with data := g s.data } { s' with data := g s'.data } := by
  obtain ⟨x, rfl⟩ := h
  exact ⟨x, rfl⟩

theorem Like.setPacket (h : Like s s') (p : Packet) :
    Like { s with packet := p } { s' with packet := p } := by
  obtain ⟨x, rfl⟩ := h
  exact ⟨x, rfl⟩

theorem Like.emit (h : Like s s') (e : Event) : Like (s.emit e) (s'.emit e) := by
  obtain ⟨x, rfl⟩ := h
  exact ⟨x, rfl⟩

theorem Like.writePacket (h : Like s s') (p : Packet) : Like (s.writePacket p) (s'.writePacket p) := by
  obtain ⟨x, rfl⟩ := h
  exact ⟨x, rfl⟩

theorem Like.closeSession (h : Like s s') : Like s.closeSession s'.closeSession := by
  obtain ⟨x, rfl⟩ := h
  unfold St.closeSession
  cases s.data.mSock with
  | some fd => exact ⟨_, rfl⟩
  | none => exact ⟨x, rfl⟩

theorem Like.trimNow (h : Like s s') : EndsLike Like s._trimReceiveBuffer s'._trimReceiveBuffer := by
  obtain ⟨x, rfl⟩ := h
  unfold St._trimReceiveBuffer
  refine .ite (fun _ => ⟨x, rfl⟩) (fun _ => ?_)
  dsimp only
  cases shiftElements .receiveBuffer RECEIVE_BUFFER_SIZE s.data.receiveBuffer
      (s.data.receiveUser - s.data.receiveSequence) (s.data.receiveNext - s.data.receiveUser)
      (-(s.data.receiveUser - s.data.receiveSequence).toInt) with
  | ok b => exact ⟨x, rfl⟩
  | error e => exact rfl

theorem Like.trimReceiveBuffer (h : Like s s') :
    EndsLike Like s.trimReceiveBuffer s'.trimReceiveBuffer := by
  unfold St.trimReceiveBuffer
  rw [h.data]
  exact .ite (fun _ => h) (fun _ => h.trimNow)

theorem Like.trimSendBuffer (h : Like s s') : EndsLike Like s.trimSendBuffer s'.trimSendBuffer := by
  obtain ⟨x, rfl⟩ := h
  unfold St.trimSendBuffer
  refine .ite (fun _ => ⟨x, rfl⟩) (fun _ => ?_)
  dsimp only
  cases shiftElements .sendBuffer s.data.sendLength.toNat s.data.sendBuffer
      (s.data.sendUnacknowledged - s.data.sendSequence)
      (s.data.sendNewDataSequence - s.data.sendUnacknowledged)
      (-(s.data.sendUnacknowledged - s.data.sendSequence).toInt) with
  | ok b => exact ⟨x, rfl⟩
  | error e => exact rfl

/-! ## from the client to the server -/

theorem Like.finishUpStream (h : Like s s') : Like s.finishUpStream s'.finishUpStream := by
  have h1 := h.setData fun d => { d with receiveUser := d.receiveUser + 1 }
  obtain ⟨x, rfl⟩ := h
  unfold St.finishUpStream
  exact .ite (fun _ => h1.closeSession) (fun _ => h1.emit .shutdownWrite)

theorem Like.finishSend (h : Like s s') : EndsLike Like s.finishSend s'.finishSend := by
  unfold St.finishSend
  rw [h.data]
  exact .ite (fun _ => h.finishUpStream) (fun _ => .ite (fun _ => h.trimReceiveBuffer) (fun _ => h))

theorem Like.resetClient (h : Like s s') : Like s.resetClient s'.resetClient := by
  unfold St.resetClient
  rw [h.data, h.packet]
  exact (h.writePacket _).closeSession

theorem Like.taken (h : Like s s') (bytes : List Byte) : Like (s.taken bytes) (s'.taken bytes) := by
  obtain ⟨x, rfl⟩ := h
  exact ⟨x, rfl⟩

theorem Like.sendToServer (h : Like s s') (r : SendResult) :
    EndsLike Like (s.sendToServer r) (s'.sendToServer r) := by
  unfold St.sendToServer
  rw [h.data]
  refine .ite (fun _ => ?_) (fun _ => rfl)
  cases r with
  | accepted n => exact (h.taken _).finishSend
  | wouldBlock => exact h
  | error => exact h.resetClient

theorem Like.flushDataToServer (h : Like s s') (r : SendResult) :
    EndsLike Like (s.flushDataToServer r) (s'.flushDataToServer r) := by
  unfold St.flushDataToServer
  rw [h.data]
  exact .ite (fun _ => h) (fun _ => .ite (fun _ => h) (fun _ => .ite (fun _ => h.finishUpStream)
    (fun _ => .ite (fun _ => h.sendToServer r) (fun _ => h))))

/-! ## answers to a packet -/

theorem Like.sendReset (h : Like s s') : Like s.sendReset s'.sendReset := by
  unfold St.sendReset
  rw [h.packet]
  exact .ite (fun _ => h.writePacket _) (fun _ => h.writePacket _)

theorem Like.sendAck (h : Like s s') : Like s.sendAck s'.sendAck := by
  unfold St.sendAck
  rw [h.packet, h.data]
  exact h.writePacket _

theorem Like.sendSynAck (h : Like s s') : Like s.sendSynAck s'.sendSynAck := by
  obtain ⟨x, rfl⟩ := h
  exact ⟨x, rfl⟩

theorem Like.openSession (h : Like s s') (i : ClientInput) : Like (s.openSession i) (s'.openSession i) := by
  have h1 := h.setData fun d => St.opened d s.packet i
  obtain ⟨x, rfl⟩ := h
  unfold St.openSession
  exact .ite (fun _ => Like.sendReset ⟨x, rfl⟩) (fun _ => .ite (fun _ => h1.sendSynAck)
    (fun _ => h1.setData fun d => { d with state := .SYN_RECEIVED }))

theorem Like.receiveSyn (h : Like s s') (i : ClientInput) : Like (s.receiveSyn i) (s'.receiveSyn i) := by
  unfold St.receiveSyn
  rw [h.data, h.packet]
  cases s.data.state with
  | CLOSED => exact h.openSession i
  | SYN_RECEIVED => exact .ite (fun _ => h.sendSynAck) (fun _ => h.sendReset)
  | SYN_ACK_SENT => exact .ite (fun _ => h.sendSynAck) (fun _ => h.sendReset)
  | SYN_SENT => exact h.sendAck
  | ESTABLISHED => exact h.sendAck
  | TIME_WAIT => exact h.sendAck

theorem Like.receiveReset (h : Like s s') : Like s.receiveReset s'.receiveReset := by
  unfold St.receiveReset
  rw [h.data, h.packet]
  exact .ite (fun _ => h.closeSession) (fun _ => h)

theorem Like.establish (h : Like s s') (i : ClientInput) : Like (s.establish i) (s'.establish i) := by
  obtain ⟨x, rfl⟩ := h
  unfold St.establish
  dsimp only
  cases s.data.mSock with
  | some fd => exact ⟨_, rfl⟩
  | none => exact ⟨x, rfl⟩

/-! ## a segment -/

theorem Like.acceptAck (h : Like s s') : Like s.acceptAck s'.acceptAck := by
  obtain ⟨x, rfl⟩ := h
  exact ⟨x, rfl⟩

theorem Like.makeRoom (h : Like s s') (len : U32) (r : SendResult) :
    EndsLike Like (s.makeRoom len r) (s'.makeRoom len r) := by
  unfold St.makeRoom
  rw [h.data]
  exact .ite (fun _ => (h.flushDataToServer r).bind fun t t' _ _ ht => ht.trimNow) (fun _ => h)

theorem Like.copyPayload (h : Like s s') : EndsLike Like s.copyPayload s'.copyPayload := by
  have last : ∀ {t t' : St} (n : U32), Like t t' →
      Like (if t.packet.isFin ∧ n = t.packet.getDataLength then
          { t with data := { t.data with
            receiveNext := t.data.receiveNext + 1
            clientReadFinished := true } } else t)
        (if t'.packet.isFin ∧ n = t'.packet.getDataLength then
          { t' with data := { t'.data with
            receiveNext := t'.data.receiveNext + 1
            clientReadFinished := true } } else t') := by
    rintro t t' n ⟨x, rfl⟩
    exact .ite (fun _ => ⟨x, rfl⟩) (fun _ => ⟨x, rfl⟩)
  obtain ⟨x, rfl⟩ := h
  unfold St.copyPayload
  refine .ite (fun _ => last _ ?_) (fun _ => rfl)
  exact .ite (fun _ => ⟨x, rfl⟩) (fun _ => ⟨x, rfl⟩)

theorem Like.acceptPayload (h : Like s s') (i : ClientInput) :
    EndsLike Like (s.acceptPayload i) (s'.acceptPayload i) := by
  unfold St.acceptPayload
  rw [h.packet]
  exact (h.makeRoom _ _).bind fun t t' _ _ ht => ht.copyPayload.bind fun u u' _ _ hu =>
    hu.flushDataToServer _

/-- a segment before both streams are looked at -/
def accepted (s : St) (i : ClientInput) : Except Fault St :=
  if s.acceptAck.data.clientReadFinished then .ok s.acceptAck else s.acceptAck.acceptPayload i

theorem Like.accepted (h : Like s s') (i : ClientInput) :
    EndsLike Like (accepted s i) (accepted s' i) := by
  unfold Session.accepted
  rw [h.acceptAck.data]
  exact .ite (fun _ => h.acceptAck) (fun _ => h.acceptAck.acceptPayload i)

theorem acceptSegment_eq (s : St) (i : ClientInput) :
    s.acceptSegment i = accepted s i >>= fun t => .ok (t.finishAck i) := by
  unfold St.acceptSegment accepted
  dsimp only
  split_ifs
  · rfl
  · rfl

/-- whether the clock lets an acknowledgement pass -/
def clockTest (now clock : Int) : Bool := (now - clock).tdiv 1000000 > ACKNOWLEDGE_DELAY

/-- whether `acknowledgeDelayed` leaves it to the clock -/
def clockDecides (d : Data) : Bool :=
  ¬ d.isUpStreamComplete ∧ d.lastAcknowledgedSequence ≠ d.receiveNext ∧
    ¬ d.mss.setWidth 32 * 2 < d.receiveNext - d.lastAcknowledgedSequence

theorem Like.acknowledgeDelayed (h : Like s s') {now : Int}
    (htest : clockDecides s.data = true →
      clockTest now s'.shared.lastAcknowledgmentSent = clockTest now s.shared.lastAcknowledgmentSent) :
    Like (s.acknowledgeDelayed now) (s'.acknowledgeDelayed now) := by
  unfold St.acknowledgeDelayed
  dsimp only
  rw [h.data]
  refine .ite (fun _ => h) (fun hup => ?_)
  have hsame : ((now - s'.shared.lastAcknowledgmentSent).tdiv 1000000 > ACKNOWLEDGE_DELAY ∧
        s.data.lastAcknowledgedSequence ≠ s.data.receiveNext ∨
        s.data.mss.setWidth 32 * 2 < s.data.receiveNext - s.data.lastAcknowledgedSequence) ↔
      ((now - s.shared.lastAcknowledgmentSent).tdiv 1000000 > ACKNOWLEDGE_DELAY ∧
        s.data.lastAcknowledgedSequence ≠ s.data.receiveNext ∨
        s.data.mss.setWidth 32 * 2 < s.data.receiveNext - s.data.lastAcknowledgedSequence) := by
    by_cases hfar : s.data.mss.setWidth 32 * 2 < s.data.receiveNext - s.data.lastAcknowledgedSequence
    · simp only [hfar, or_true]
    · by_cases hnew : s.data.lastAcknowledgedSequence ≠ s.data.receiveNext
      · have h1 := htest (decide_eq_true ⟨hup, hnew, hfar⟩)
        unfold clockTest at h1
        rw [decide_eq_decide] at h1
        rw [h1]
      · simp only [hnew, and_false]
  obtain ⟨x, rfl⟩ := h
  by_cases hc : (now - s.shared.lastAcknowledgmentSent).tdiv 1000000 > ACKNOWLEDGE_DELAY ∧
      s.data.lastAcknowledgedSequence ≠ s.data.receiveNext ∨
      s.data.mss.setWidth 32 * 2 < s.data.receiveNext - s.data.lastAcknowledgedSequence
  · rw [if_pos hc, if_pos (hsame.mpr hc)]
    exact ⟨_, rfl⟩
  · rw [if_neg hc, if_neg (fun hc' => hc (hsame.mp hc'))]
    exact ⟨x, rfl⟩

/-- whether `finishAck` leaves it to the clock -/
def finishAsks (d : Data) : Bool :=
  d.state ≠ .CLOSED ∧ ¬ (d.isUpStreamComplete ∧ d.isDownStreamComplete) ∧ clockDecides d

theorem Like.finishAck (h : Like s s') (i : ClientInput)
    (htest : finishAsks s.data = true → clockTest i.nowAcknowledge s'.shared.lastAcknowledgmentSent =
      clockTest i.nowAcknowledge s.shared.lastAcknowledgmentSent) :
    Like (s.finishAck i) (s'.finishAck i) := by
  unfold St.finishAck
  rw [h.data]
  exact .ite (fun _ => h) (fun hopen => .ite (fun _ => h.closeSession) (fun hrest =>
    h.acknowledgeDelayed fun hasks => htest (decide_eq_true ⟨hopen, hrest, hasks⟩)))

/-! ## a packet -/

/-- whether the state reached before `finishAck` leaves it to the clock, and the clock lets an
acknowledgement pass -/
def acceptedAnswer (i : ClientInput) : Except Fault St → Bool
  | .ok t => finishAsks t.data && clockTest i.nowAcknowledge t.shared.lastAcknowledgmentSent
  | .error _ => false

theorem Like.acceptSegment (h : Like s s') (i : ClientInput)
    (htest : acceptedAnswer i (Session.accepted s' i) = acceptedAnswer i (Session.accepted s i)) :
    EndsLike Like (s.acceptSegment i) (s'.acceptSegment i) := by
  rw [acceptSegment_eq, acceptSegment_eq]
  refine (h.accepted i).bind fun t t' ht ht' h1 => ?_
  rw [ht, ht'] at htest
  refine h1.finishAck i fun hasks => ?_
  dsimp only [acceptedAnswer] at htest
  rwa [h1.data, hasks, Bool.true_and, Bool.true_and] at htest

/-- the answer of the clock to a packet -/
def packetAnswer (s : St) (i : ClientInput) : Bool :=
  if s.data.state = .ESTABLISHED ∧ ¬ s.packet.isSyn ∧ ¬ s.packet.isReset ∧ s.packet.isAck ∧
      s.packet.getSequenceNumber = s.data.receiveNext then acceptedAnswer i (accepted s i)
  else false

theorem Like.receiveFromClient (h : Like s s') (i : ClientInput)
    (htest : packetAnswer s' i = packetAnswer s i) :
    EndsLike Like (s.receiveFromClient i) (s'.receiveFromClient i) := by
  unfold packetAnswer at htest
  unfold St.receiveFromClient
  rw [h.packet]
  rw [h.data, h.packet] at htest
  refine .ite (fun _ => .ite (fun _ => h.sendReset) (fun _ => h.receiveSyn i)) (fun hsyn =>
    .ite (fun _ => h.receiveReset) (fun hrst => .ite (fun hack => ?_) (fun _ => h.sendReset)))
  unfold St.receiveAck
  rw [h.data, h.packet]
  cases hs : s.data.state with
  | SYN_ACK_SENT =>
    exact .ite (fun _ => .ite (fun _ => h.sendReset) (fun _ => h.establish i)) (fun _ => h.sendReset)
  | ESTABLISHED =>
    refine .ite (fun hseq => h.acceptSegment i ?_) (fun _ => h.sendAck)
    rwa [if_pos ⟨hs, hsyn, hrst, hack, hseq⟩, if_pos ⟨hs, hsyn, hrst, hack, hseq⟩] at htest
  | _ => exact h.sendReset

/-! ## from the server to the client -/

theorem Like.sendSegment (h : Like s s') (seq : U32) :
    EndsLike (fun r r' => r'.1 = r.1 ∧ Like r.2 r'.2) (s.sendSegment seq) (s'.sendSegment seq) := by
  obtain ⟨x, rfl⟩ := h
  unfold St.sendSegment
  exact .ite (fun _ => .ite (fun _ => ⟨rfl, Like.writePacket ⟨x, rfl⟩ _⟩)
    (fun _ => ⟨rfl, Like.writePacket ⟨x, rfl⟩ _⟩)) (fun _ => rfl)

theorem Like.sendLoop (h : Like s s') (turns : Nat) (seq : U32) :
    EndsLike Like (St.sendLoop turns seq s) (St.sendLoop turns seq s') := by
  induction turns generalizing seq s s' with
  | zero =>
    unfold St.sendLoop
    rw [h.data]
    exact .ite (fun _ => rfl) (fun _ => h)
  | succ turns ih =>
    unfold St.sendLoop
    rw [h.data]
    refine .ite (fun _ => (h.sendSegment seq).bind ?_) (fun _ => h)
    rintro ⟨seq1, t⟩ ⟨seq1', t'⟩ _ _ ⟨hseq, ht⟩
    dsimp only at hseq ht ⊢
    rw [hseq]
    exact ih ht seq1

theorem Like.sendData (h : Like s s') (seq : U32) (turns : Nat) :
    EndsLike Like (s.sendDataStartingFrom seq turns) (s'.sendDataStartingFrom seq turns) := by
  obtain ⟨x, rfl⟩ := h
  exact Like.sendLoop ⟨x, rfl⟩ turns seq

theorem Like.sentAll (h : Like s s') (now : Int) : Like (s.sentAll now) (s'.sentAll now) := by
  obtain ⟨x, rfl⟩ := h
  exact ⟨x, rfl⟩

theorem Like.resend (h : Like s s') (now : Int) (turns : Nat) :
    EndsLike Like (s.resend now turns) (s'.resend now turns) := by
  have h1 : Like (if s.data.sendUnacknowledged < s.data.sendNext then
        { s with data.retryCount := s.data.retryCount + 1 } else s)
      (if s'.data.sendUnacknowledged < s'.data.sendNext then
        { s' with data.retryCount := s'.data.retryCount + 1 } else s') := by
    obtain ⟨x, rfl⟩ := h
    exact .ite (fun _ => ⟨x, rfl⟩) (fun _ => ⟨x, rfl⟩)
  unfold St.resend
  dsimp only
  rw [h1.data]
  exact (h1.sendData _ turns).bind fun t t' _ _ ht => ht.sentAll now

theorem Like.sendNewData (h : Like s s') (now : Int) (turns : Nat) :
    EndsLike Like (s.sendNewData now turns) (s'.sendNewData now turns) := by
  unfold St.sendNewData
  rw [h.data]
  exact (h.sendData _ turns).bind fun t t' _ _ ht => ht.sentAll now

theorem Like.finishFlush (h : Like s s') : Like s.finishFlush s'.finishFlush := by
  unfold St.finishFlush
  rw [h.data]
  exact .ite (fun _ => h.closeSession) (fun _ => h)

theorem Like.flushDataToClient (h : Like s s') (now : Int) (turns : Nat) :
    EndsLike Like (s.flushDataToClient now turns) (s'.flushDataToClient now turns) := by
  unfold St.flushDataToClient
  rw [h.data]
  refine .ite (fun _ => h) (fun _ => .ite (fun _ => h) (fun _ => .ite (fun _ =>
    .ite (fun _ => h.closeSession) (fun _ => ?_)) (fun _ => .ite (fun _ => ?_) (fun _ => h.finishFlush))))
  · exact (h.resend now turns).bind fun t t' _ _ ht => ht.finishFlush
  · exact (h.sendNewData now turns).bind fun t t' _ _ ht => ht.finishFlush

theorem Like.receivedFromServer (h : Like s s') (bytes : List Byte) (isWouldBlock : Bool) :
    Like (s.receivedFromServer bytes isWouldBlock) (s'.receivedFromServer bytes isWouldBlock) := by
  obtain ⟨x, rfl⟩ := h
  unfold St.receivedFromServer
  refine .ite (fun _ => Like.emit ?_ _) (fun _ => .ite (fun _ => ⟨_, rfl⟩) (fun _ => ⟨x, rfl⟩))
  exact ⟨x, rfl⟩

theorem Like.readFromServer (h : Like s s') (i : ServerInput) :
    EndsLike Like (s.readFromServer i) (s'.readFromServer i) := by
  unfold St.readFromServer
  dsimp only
  rw [h.data]
  exact .ite (fun _ => h.receivedFromServer _ _) (fun _ => rfl)

theorem Like.receiveFromServer (h : Like s s') (i : ServerInput) :
    EndsLike (fun r r' => Like r.2 r'.2) (s.receiveFromServer i) (s'.receiveFromServer i) := by
  unfold St.receiveFromServer
  rw [h.data]
  refine .ite (fun _ => h) (fun _ => h.trimSendBuffer.bind fun t t' _ _ ht => ?_)
  rw [ht.data]
  exact .ite (fun _ => ht) (fun _ => (ht.readFromServer i).bind fun u u' _ _ hu =>
    (hu.flushDataToClient i.now i.turns).bind fun v v' _ _ hv => hv)

/-- the answer of the clock to a call -/
def clockAnswer (s : St) : Op → Bool
  | .receiveFromClient p i => packetAnswer { s with packet := p } i
  | _ => false

/-- **One call keeps two sessions alike, if the clock gives them the same answer.** -/
theorem Like.step (h : Like s s') (op : Op) (htest : clockAnswer s' op = clockAnswer s op) :
    EndsLike Like (step s op) (step s' op) := by
  cases op with
  | receiveFromClient p i => exact (h.setPacket p).receiveFromClient i htest
  | receiveFromServer p i =>
    exact ((h.setPacket p).receiveFromServer i).bind fun r r' _ _ hr => hr
  | flushDataToServer p r => exact (h.setPacket p).flushDataToServer r
  | flushDataToClient p now turns => exact (h.setPacket p).flushDataToClient now turns

end

/-! ## any number of sessions -/

/-- what a session has of its own: its data, and the log of what it did -/
structure Own where
  data : Data
  log : List Event

/-- the packet object a call gets -/
def Op.packet : Op → Packet
  | .receiveFromClient p _ => p.val
  | .receiveFromServer p _ => p
  | .flushDataToServer p _ => p
  | .flushDataToClient p _ _ => p

/-- one call; a call that fails ends the run -/
def call (x : Shared) (s : Own) (op : Op) : Except Fault (Shared × Own) :=
  (step ⟨s.data, x, op.packet, s.log⟩ op).map fun t => (t.shared, ⟨t.data, t.log⟩)

/-- what a call reads of what is shared -/
def asksClock (x : Shared) (s : Own) (op : Op) : Bool := clockAnswer ⟨s.data, x, op.packet, s.log⟩ op

/-- **A session reads nothing of what is shared but the answers of the clock.** -/
theorem call_readsOnly : ReadsOnly call asksClock := by
  intro x x' y y' s t t' op hasks h h'
  have h1 : Like ⟨s.data, x, op.packet, s.log⟩ ⟨s.data, x', op.packet, s.log⟩ := ⟨x', rfl⟩
  have h2 := h1.step op hasks.symm
  unfold call at h h'
  cases hs : step ⟨s.data, x, op.packet, s.log⟩ op with
  | error e =>
    rw [hs] at h
    cases h
  | ok u =>
    cases hs' : step ⟨s.data, x', op.packet, s.log⟩ op with
    | error e =>
      rw [hs'] at h'
      cases h'
    | ok u' =>
      rw [hs, hs'] at h2
      rw [hs] at h
      rw [hs'] at h'
      cases h
      cases h'
      rw [Like.data h2, Like.log h2]

end TunServer.Session
