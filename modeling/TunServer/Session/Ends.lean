import TunServer.Session.Frame

/-!
# The ends of a session and of the packet object

* `SameEnds`   what every call keeps that gets no packet of the client: the two ends of the session;
               a closed session stays closed; the packet object comes from where it came from, or
               from the server of the session;
* `Addressed`  what `receiveFromClient` leaves: the ends are kept, or the session was closed and has
               the ends of the packet now; an answer can have turned the ends of the packet round.
-/

set_option linter.unusedVariables false

namespace TunServer.Session

structure SameEnds (s t : St) : Prop where
  source : t.data.source = s.data.source
  destination : t.data.destination = s.data.destination
  closed : s.data.state = .CLOSED → t.data.state = .CLOSED
  packet : t.packet.source = s.packet.source ∨ t.packet.source = s.data.destination

theorem SameEnds.refl (s : St) : SameEnds s s := ⟨rfl, rfl, id, .inl rfl⟩

theorem SameEnds.trans {s t u : St} (h : SameEnds s t) (h' : SameEnds t u) : SameEnds s u where
  source := h'.source.trans h.source
  destination := h'.destination.trans h.destination
  closed hc := h'.closed (h.closed hc)
  packet := by
    rcases h'.packet with hp | hp
    · rw [hp]
      exact h.packet
    · exact .inr (hp.trans h.destination)

/-- a call ends with the same ends -/
def EndsSame (s : St) : Except Fault St → Prop := Ends (fun _ => True) (SameEnds s)

theorem EndsSame.from {s t : St} {r : Except Fault St} (h : SameEnds s t) (hr : EndsSame t r) :
    EndsSame s r := Ends.mono hr fun _ hu => h.trans hu

/-! ## towards the server -/

theorem closeSession_same (s : St) : SameEnds s s.closeSession := by
  unfold St.closeSession
  cases s.data.mSock with
  | some fd => exact ⟨rfl, rfl, fun _ => rfl, .inl rfl⟩
  | none => exact ⟨rfl, rfl, fun _ => rfl, .inl rfl⟩

theorem finishUpStream_same (s : St) : SameEnds s s.finishUpStream := by
  let t : St := { s with data := { s.data with receiveUser := s.data.receiveUser + 1 } }
  have h : SameEnds s t := ⟨rfl, rfl, id, .inl rfl⟩
  unfold St.finishUpStream
  dsimp only
  split_ifs
  · exact h.trans (closeSession_same t)
  · exact h.trans ⟨rfl, rfl, id, .inl rfl⟩

theorem trimNow_same (s : St) : EndsSame s s._trimReceiveBuffer := by
  unfold St._trimReceiveBuffer
  dsimp only
  split_ifs
  · exact SameEnds.refl s
  · unfold shiftElements
    split_ifs
    · exact ⟨rfl, rfl, id, .inl rfl⟩
    · trivial

theorem finishSend_same (s : St) : EndsSame s s.finishSend := by
  unfold St.finishSend
  split_ifs
  · exact finishUpStream_same s
  · exact SameEnds.refl s
  · unfold St.trimReceiveBuffer
    split_ifs
    · exact SameEnds.refl s
    · exact trimNow_same s

/-- the reset goes to the client of the session, whoever sent the packet -/
theorem resetClient_same (s : St) : SameEnds s s.resetClient := by
  let t := s.writePacket ((s.packet.setEnds s.data.destination s.data.source).makeResetSeq s.data.sendNext)
  have h : SameEnds s t := ⟨rfl, rfl, id, .inr rfl⟩
  exact h.trans (closeSession_same t)

theorem sendToServer_same (s : St) (r : SendResult) : EndsSame s (s.sendToServer r) := by
  unfold St.sendToServer
  dsimp only
  split_ifs
  · cases r with
    | accepted n =>
      have h : SameEnds s (s.taken ((St.offeredBytes s.data).take n)) := ⟨rfl, rfl, id, .inl rfl⟩
      exact .from h (finishSend_same _)
    | wouldBlock => exact SameEnds.refl s
    | error => exact resetClient_same s
  · trivial

theorem flushDataToServer_same (s : St) (r : SendResult) : EndsSame s (s.flushDataToServer r) := by
  unfold St.flushDataToServer
  split_ifs
  · exact SameEnds.refl s
  · exact SameEnds.refl s
  · exact finishUpStream_same s
  · exact sendToServer_same s r
  · exact SameEnds.refl s

/-! ## a segment in order -/

theorem makeRoom_same (s : St) (len : U32) (r : SendResult) : EndsSame s (s.makeRoom len r) := by
  unfold St.makeRoom
  split_ifs
  · exact Ends.bind (flushDataToServer_same s r) fun t ht => EndsSame.from ht (trimNow_same t)
  · exact SameEnds.refl s

theorem copyPayload_same (s : St) : EndsSame s s.copyPayload := by
  unfold St.copyPayload
  dsimp only
  split_ifs <;> first | exact ⟨rfl, rfl, id, .inl rfl⟩ | trivial

theorem acceptPayload_same (s : St) (i : ClientInput) : EndsSame s (s.acceptPayload i) := by
  unfold St.acceptPayload
  refine Ends.bind (makeRoom_same s _ _) fun t ht => EndsSame.from ht ?_
  exact Ends.bind (copyPayload_same t) fun u hu => EndsSame.from hu (flushDataToServer_same u _)

theorem acknowledgeDelayed_same (s : St) (now : Int) : SameEnds s (s.acknowledgeDelayed now) := by
  unfold St.acknowledgeDelayed
  dsimp only
  split_ifs
  · exact SameEnds.refl s
  · exact ⟨rfl, rfl, id, .inr rfl⟩
  · exact SameEnds.refl s

theorem finishAck_same (s : St) (i : ClientInput) : SameEnds s (s.finishAck i) := by
  unfold St.finishAck
  split_ifs
  · exact SameEnds.refl s
  · exact closeSession_same s
  · exact acknowledgeDelayed_same s _

theorem acceptSegment_same (s : St) (i : ClientInput) : EndsSame s (s.acceptSegment i) := by
  have h : SameEnds s s.acceptAck := ⟨rfl, rfl, id, .inl rfl⟩
  unfold St.acceptSegment
  refine EndsSame.from h ?_
  dsimp only
  split_ifs
  · exact finishAck_same _ i
  · exact Ends.bind (acceptPayload_same _ i) fun t ht => ht.trans (finishAck_same t i)

theorem establish_same (s : St) (i : ClientInput) (hs : s.data.state ≠ .CLOSED) :
    SameEnds s (s.establish i) := by
  unfold St.establish
  dsimp only
  cases s.data.mSock with
  | some fd => exact ⟨rfl, rfl, fun hc => absurd hc hs, .inl rfl⟩
  | none => exact ⟨rfl, rfl, fun hc => absurd hc hs, .inl rfl⟩

/-! ## towards the client -/

theorem sendSegment_same (s : St) (seq : U32) :
    Ends (fun _ => True) (fun r => SameEnds s r.2) (s.sendSegment seq) := by
  unfold St.sendSegment
  dsimp only
  split_ifs <;> first | exact ⟨rfl, rfl, id, .inl rfl⟩ | trivial

theorem sendLoop_same (turns : Nat) (seq : U32) (s : St) : EndsSame s (St.sendLoop turns seq s) := by
  induction turns generalizing seq s with
  | zero =>
    unfold St.sendLoop
    split_ifs
    · trivial
    · exact SameEnds.refl s
  | succ turns ih =>
    unfold St.sendLoop
    split_ifs
    · exact Ends.bind (sendSegment_same s seq) fun r hr => EndsSame.from hr (ih r.1 r.2)
    · exact SameEnds.refl s

theorem sendData_same (s : St) (seq : U32) (turns : Nat) :
    EndsSame s (s.sendDataStartingFrom seq turns) := by
  have h : SameEnds s { s with packet := s.packet.setEnds s.data.destination s.data.source } :=
    ⟨rfl, rfl, id, .inr rfl⟩
  exact .from h (sendLoop_same turns seq _)

theorem finishFlush_same (s : St) : SameEnds s s.finishFlush := by
  unfold St.finishFlush
  split_ifs
  · exact closeSession_same s
  · exact SameEnds.refl s

theorem sentAll_same (s : St) (now : Int) : SameEnds s (s.sentAll now) := ⟨rfl, rfl, id, .inl rfl⟩

theorem resend_same (s : St) (now : Int) (turns : Nat) : EndsSame s (s.resend now turns) := by
  unfold St.resend
  dsimp only
  refine EndsSame.from (t := if s.data.sendUnacknowledged < s.data.sendNext then
      { s with data.retryCount := s.data.retryCount + 1 } else s) ?_ ?_
  · split_ifs
    · exact ⟨rfl, rfl, id, .inl rfl⟩
    · exact SameEnds.refl s
  · exact Ends.bind (sendData_same _ _ turns) fun t ht => ht.trans (sentAll_same t now)

theorem flushDataToClient_same (s : St) (now : Int) (turns : Nat) :
    EndsSame s (s.flushDataToClient now turns) := by
  unfold St.flushDataToClient
  split_ifs
  · exact SameEnds.refl s
  · exact SameEnds.refl s
  · exact closeSession_same s
  · exact Ends.bind (resend_same s now turns) fun t ht => ht.trans (finishFlush_same t)
  · unfold St.sendNewData
    refine Ends.bind (P := SameEnds s) ?_ fun t ht => ht.trans (finishFlush_same t)
    exact Ends.bind (sendData_same s _ turns) fun t ht => ht.trans (sentAll_same t now)
  · exact finishFlush_same s

theorem readFromServer_same (s : St) (i : ServerInput) : EndsSame s (s.readFromServer i) := by
  unfold St.readFromServer
  dsimp only
  split_ifs
  · unfold St.receivedFromServer
    dsimp only
    split_ifs <;> exact ⟨rfl, rfl, id, .inl rfl⟩
  · trivial

theorem trimSendBuffer_same (s : St) : EndsSame s s.trimSendBuffer := by
  unfold St.trimSendBuffer shiftElements
  dsimp only
  split_ifs
  · exact SameEnds.refl s
  · exact ⟨rfl, rfl, id, .inl rfl⟩
  · trivial

theorem receiveFromServer_same (s : St) (i : ServerInput) :
    Ends (fun _ => True) (fun r => SameEnds s r.2) (s.receiveFromServer i) := by
  unfold St.receiveFromServer
  split_ifs
  · exact SameEnds.refl s
  · refine Ends.bind (trimSendBuffer_same s) fun t ht => ?_
    split_ifs
    · exact ht
    · refine Ends.bind (readFromServer_same t i) fun u hu => ?_
      refine Ends.bind (flushDataToClient_same u i.now i.turns) fun v hv => ?_
      exact (ht.trans hu).trans hv

/-! ## a packet of the client -/

structure Addressed (s t : St) : Prop where
  ends : (t.data.source = s.data.source ∧ t.data.destination = s.data.destination ∧
      (s.data.state = .CLOSED → t.data.state = .CLOSED)) ∨
    s.data.state = .CLOSED ∧ t.data.source = s.packet.source ∧
      t.data.destination = s.packet.destination
  packet : t.packet.source = s.packet.source ∨ t.packet.source = s.packet.destination ∨
    t.packet.source = s.data.destination

theorem SameEnds.addressed {s t : St} (h : SameEnds s t) : Addressed s t where
  ends := .inl ⟨h.source, h.destination, h.closed⟩
  packet := h.packet.imp id .inr

theorem sendReset_addressed (s : St) : Addressed s s.sendReset := by
  unfold St.sendReset
  dsimp only
  split_ifs
  · exact ⟨.inl ⟨rfl, rfl, id⟩, .inr (.inl rfl)⟩
  · exact ⟨.inl ⟨rfl, rfl, id⟩, .inr (.inl rfl)⟩

/-- the ends of the packet become the ends of a session that opens, before it is answered -/
theorem openSession_addressed (s : St) (i : ClientInput) (hs : s.data.state = .CLOSED) :
    Addressed s (s.openSession i) := by
  unfold St.openSession
  dsimp only
  split_ifs
  · exact sendReset_addressed s
  · exact ⟨.inr ⟨hs, rfl, rfl⟩, .inr (.inl rfl)⟩
  · exact ⟨.inr ⟨hs, rfl, rfl⟩, .inl rfl⟩

/-- **What `receiveFromClient` does to the ends** of the session and of the packet object. -/
theorem receiveFromClient_addressed (s : St) (i : ClientInput) :
    Ends (fun _ => True) (Addressed s) (s.receiveFromClient i) := by
  have h := receiveFromClient_step s i
  generalize s.receiveFromClient i = r at h ⊢
  cases h with
  | same => exact (SameEnds.refl s).addressed
  | reset => exact sendReset_addressed s
  | ack hs => exact ⟨.inl ⟨rfl, rfl, id⟩, .inr (.inl rfl)⟩
  | synAck hs =>
    have hopen : s.data.state ≠ .CLOSED := by
      rcases hs with hs | hs
      · rw [hs]; decide
      · rw [hs]; decide
    exact ⟨.inl ⟨rfl, rfl, fun hc => absurd hc hopen⟩, .inr (.inl rfl)⟩
  | opened hs hsyn hack => exact openSession_addressed s i hs
  | closed hs hsyn hrst hwin => exact (closeSession_same s).addressed
  | established hs hsyn hrst hack hseq hackNo =>
    exact (establish_same s i (by rw [hs]; decide)).addressed
  | accepted hs hsyn hrst hack hseq =>
    exact (acceptSegment_same s i).mono fun t ht => ht.addressed

end TunServer.Session
