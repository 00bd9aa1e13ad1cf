import TunServer.Session.Downstream

/-!
# What a call leaves alone

* `acceptedBytes`, `handedBytes`   the two ends of the client's stream in a log;
* `ClientStep` what `receiveFromClient` can return;
* `UpFrame`    what everything inside `flushDataToServer` keeps: the members of the download, the
               number expected next, and the packet object unless it closes; it accepts no bytes;
* `UpEnds`     what these calls end in.
-/

set_option linter.unusedVariables false

namespace TunServer.Session

/-! ## the streams in a log -/

def Event.acceptedPart : Event → List Byte
  | .accepted bs => bs
  | _ => []

def Event.handedPart : Event → List Byte
  | .handed bs => bs
  | _ => []

/-- the bytes of segments that were taken into the receive buffer -/
def acceptedBytes (log : List Event) : List Byte := log.flatMap Event.acceptedPart

/-- the bytes handed to the server socket -/
def handedBytes (log : List Event) : List Byte := log.flatMap Event.handedPart

theorem acceptedBytes_append (l l' : List Event) :
    acceptedBytes (l ++ l') = acceptedBytes l ++ acceptedBytes l' := List.flatMap_append

theorem handedBytes_append (l l' : List Event) :
    handedBytes (l ++ l') = handedBytes l ++ handedBytes l' := List.flatMap_append

/-! ## what `receiveFromClient` can do -/

inductive ClientStep (s : St) (i : ClientInput) : Except Fault St → Prop where
  | same : ClientStep s i (.ok s)
  | reset : ClientStep s i (.ok s.sendReset)
  | ack (hs : s.data.state ≠ .CLOSED) : ClientStep s i (.ok s.sendAck)
  | synAck (hs : s.data.state = .SYN_RECEIVED ∨ s.data.state = .SYN_ACK_SENT) :
      ClientStep s i (.ok s.sendSynAck)
  | opened (hs : s.data.state = .CLOSED) (hsyn : s.packet.isSyn = true)
      (hack : s.packet.isAck = false) : ClientStep s i (.ok (s.openSession i))
  | closed (hs : s.data.state ≠ .CLOSED) (hsyn : s.packet.isSyn = false)
      (hrst : s.packet.isReset = true)
      (hwin : St.resetInWindow s.data s.packet.getSequenceNumber = true) :
      ClientStep s i (.ok s.closeSession)
  | established (hs : s.data.state = .SYN_ACK_SENT) (hsyn : s.packet.isSyn = false)
      (hrst : s.packet.isReset = false) (hack : s.packet.isAck = true)
      (hseq : s.packet.getSequenceNumber = s.data.receiveNext)
      (hackNo : s.packet.getAcknowledgmentNumber = s.data.sendUnacknowledged + 1) :
      ClientStep s i (.ok (s.establish i))
  | accepted (hs : s.data.state = .ESTABLISHED) (hsyn : s.packet.isSyn = false)
      (hrst : s.packet.isReset = false) (hack : s.packet.isAck = true)
      (hseq : s.packet.getSequenceNumber = s.data.receiveNext) :
      ClientStep s i (s.acceptSegment i)

theorem receiveSyn_step (s : St) (i : ClientInput) (hsyn : s.packet.isSyn = true)
    (hack : s.packet.isAck = false) : ClientStep s i (.ok (s.receiveSyn i)) := by
  unfold St.receiveSyn
  cases hs : s.data.state with
  | CLOSED => exact .opened hs hsyn hack
  | SYN_RECEIVED =>
    dsimp only
    split_ifs
    · exact .synAck (.inl hs)
    · exact .reset
  | SYN_ACK_SENT =>
    dsimp only
    split_ifs
    · exact .synAck (.inr hs)
    · exact .reset
  | SYN_SENT => exact .ack (by rw [hs]; decide)
  | ESTABLISHED => exact .ack (by rw [hs]; decide)
  | TIME_WAIT => exact .ack (by rw [hs]; decide)

theorem receiveAck_step (s : St) (i : ClientInput) (hsyn : s.packet.isSyn = false)
    (hrst : s.packet.isReset = false) (hack : s.packet.isAck = true) :
    ClientStep s i (s.receiveAck i) := by
  unfold St.receiveAck
  cases hs : s.data.state with
  | SYN_ACK_SENT =>
    dsimp only
    split_ifs with hseq hno
    · exact .reset
    · exact .established hs hsyn hrst hack hseq (not_not.mp hno)
    · exact .reset
  | ESTABLISHED =>
    dsimp only
    split_ifs with hseq
    · exact .accepted hs hsyn hrst hack hseq
    · exact .ack (by rw [hs]; decide)
  | _ => exact .reset

theorem receiveFromClient_step (s : St) (i : ClientInput) :
    ClientStep s i (s.receiveFromClient i) := by
  unfold St.receiveFromClient
  split_ifs with hsyn hack hrst hack
  · exact .reset
  · exact receiveSyn_step s i hsyn (by simpa using hack)
  · unfold St.receiveReset
    split_ifs with hc
    · exact .closed hc.1 (by simpa using hsyn) hrst hc.2
    · exact .same
  · exact receiveAck_step s i (by simpa using hsyn) (by simpa using hrst) hack
  · exact .reset

/-! ## inside `flushDataToServer` -/

structure UpFrame (s s' : St) : Prop where
  clientReadFinished : s'.data.clientReadFinished = s.data.clientReadFinished
  receiveNext : s'.data.receiveNext = s.data.receiveNext
  mss : s'.data.mss = s.data.mss
  sendLength : s'.data.sendLength = s.data.sendLength
  sendSequence : s'.data.sendSequence = s.data.sendSequence
  sendUnacknowledged : s'.data.sendUnacknowledged = s.data.sendUnacknowledged
  sendNext : s'.data.sendNext = s.data.sendNext
  sendNewDataSequence : s'.data.sendNewDataSequence = s.data.sendNewDataSequence
  payload : s'.packet.payload = s.packet.payload
  packet : s'.packet = s.packet ∨ s'.data.state = .CLOSED
  state : s'.data.state = s.data.state ∨ s'.data.state = .CLOSED
  log : Adds (fun e => e.acceptedPart = []) s.log s'.log

theorem UpFrame.refl (s : St) : UpFrame s s :=
  ⟨rfl, rfl, rfl, rfl, rfl, rfl, rfl, rfl, rfl, .inl rfl, .inl rfl, Adds.refl _ _⟩

theorem UpFrame.trans {s s' s'' : St} (h : UpFrame s s') (h' : UpFrame s' s'') : UpFrame s s'' where
  clientReadFinished := h'.clientReadFinished.trans h.clientReadFinished
  receiveNext := h'.receiveNext.trans h.receiveNext
  mss := h'.mss.trans h.mss
  sendLength := h'.sendLength.trans h.sendLength
  sendSequence := h'.sendSequence.trans h.sendSequence
  sendUnacknowledged := h'.sendUnacknowledged.trans h.sendUnacknowledged
  sendNext := h'.sendNext.trans h.sendNext
  sendNewDataSequence := h'.sendNewDataSequence.trans h.sendNewDataSequence
  payload := h'.payload.trans h.payload
  packet := by
    rcases h'.packet with h1 | h1
    · rcases h.packet with h2 | h2
      · exact .inl (h1.trans h2)
      · exact .inr (h'.state.elim (fun h3 => h3.trans h2) id)
    · exact .inr h1
  state := by
    rcases h'.state with h1 | h1
    · rw [h1]; exact h.state
    · exact .inr h1
  log := h.log.trans h'.log

theorem UpFrame.emit (s : St) {e : Event} (he : e.acceptedPart = []) : UpFrame s (s.emit e) :=
  ⟨rfl, rfl, rfl, rfl, rfl, rfl, rfl, rfl, rfl, .inl rfl, .inl rfl, Adds.one _ he⟩

theorem closeSession_frame (s : St) : UpFrame s s.closeSession := by
  unfold St.closeSession
  cases s.data.mSock with
  | some fd => exact ⟨rfl, rfl, rfl, rfl, rfl, rfl, rfl, rfl, rfl, .inl rfl, .inr rfl, Adds.one _ rfl⟩
  | none => exact ⟨rfl, rfl, rfl, rfl, rfl, rfl, rfl, rfl, rfl, .inl rfl, .inr rfl, Adds.one _ rfl⟩

theorem finishUpStream_frame (s : St) : UpFrame s s.finishUpStream := by
  let t : St := { s with data := { s.data with receiveUser := s.data.receiveUser + 1 } }
  have h : UpFrame s t := ⟨rfl, rfl, rfl, rfl, rfl, rfl, rfl, rfl, rfl, .inl rfl, .inl rfl, Adds.refl _ _⟩
  unfold St.finishUpStream
  dsimp only
  split_ifs
  · exact h.trans (closeSession_frame t)
  · exact h.trans (.emit t rfl)

/-- what the calls inside `flushDataToServer` end in -/
def UpEnds (s : St) : Except Fault St → Prop := Ends (· = .receiveBuffer) (UpFrame s)

theorem UpEnds.from {s t : St} {r : Except Fault St} (h : UpFrame s t) (hr : UpEnds t r) : UpEnds s r :=
  Ends.mono hr fun _ hu => h.trans hu

theorem trimNow_ends (s : St) : UpEnds s s._trimReceiveBuffer := by
  unfold St._trimReceiveBuffer
  dsimp only
  split_ifs
  · exact UpFrame.refl s
  · unfold shiftElements
    split_ifs
    · exact ⟨rfl, rfl, rfl, rfl, rfl, rfl, rfl, rfl, rfl, .inl rfl, .inl rfl, Adds.refl _ _⟩
    · rfl

theorem trimReceiveBuffer_ends (s : St) : UpEnds s s.trimReceiveBuffer := by
  unfold St.trimReceiveBuffer
  split_ifs
  · exact UpFrame.refl s
  · exact trimNow_ends s

theorem taken_frame (s : St) (bytes : List Byte) : UpFrame s (s.taken bytes) :=
  ⟨rfl, rfl, rfl, rfl, rfl, rfl, rfl, rfl, rfl, .inl rfl, .inl rfl, Adds.one _ rfl⟩

theorem finishSend_ends (s : St) : UpEnds s s.finishSend := by
  unfold St.finishSend
  split_ifs
  · exact finishUpStream_frame s
  · exact UpFrame.refl s
  · exact trimReceiveBuffer_ends s

theorem resetClient_frame (s : St) : UpFrame s s.resetClient := by
  let t := s.writePacket ((s.packet.setEnds s.data.destination s.data.source).makeResetSeq s.data.sendNext)
  show UpFrame s t.closeSession
  have h := closeSession_frame t
  have hclosed : t.closeSession.data.state = .CLOSED := by
    unfold St.closeSession
    rfl
  exact { h with
    packet := .inr hclosed
    state := .inr hclosed
    log := Adds.trans (Adds.one s.log rfl) h.log }

theorem sendToServer_ends (s : St) (r : SendResult) : UpEnds s (s.sendToServer r) := by
  unfold St.sendToServer
  dsimp only
  split_ifs
  · cases r with
    | accepted n => exact .from (taken_frame s _) (finishSend_ends _)
    | wouldBlock => exact UpFrame.refl s
    | error => exact resetClient_frame s
  · rfl

theorem flushDataToServer_ends (s : St) (r : SendResult) : UpEnds s (s.flushDataToServer r) := by
  unfold St.flushDataToServer
  split_ifs
  · exact UpFrame.refl s
  · exact UpFrame.refl s
  · exact finishUpStream_frame s
  · exact sendToServer_ends s r
  · exact UpFrame.refl s

theorem makeRoom_ends (s : St) (len : U32) (r : SendResult) : UpEnds s (s.makeRoom len r) := by
  unfold St.makeRoom
  split_ifs
  · exact Ends.bind (flushDataToServer_ends s r) fun t ht => UpEnds.from ht (trimNow_ends t)
  · exact UpFrame.refl s

theorem flushDataToServer_frame {s s' : St} {r : SendResult}
    (he : s.flushDataToServer r = .ok s') : UpFrame s s' := (flushDataToServer_ends s r).ok he

theorem makeRoom_frame {s s' : St} {len : U32} {r : SendResult} (he : s.makeRoom len r = .ok s') :
    UpFrame s s' := (makeRoom_ends s len r).ok he

end TunServer.Session
