import TunServer.Session.Closing
import TunServer.Session.Neighbours

/-!
# The receive window that is advertised

`getReceiveAvailable` is what stands behind the marks, in 32 bits; a segment carries its lower half.

* `freeSpace`      the free part of the receive buffer, without the slot of the FIN;
* `Bounded`        the buffer holds no more than fits, and the FIN: kept by every call;
* `Shows`          what is advertised is free: the FIN has not come on top of a full buffer, and
                   `receiveUser` is not left behind `receiveSequence`;
* `WindowReady`    the condition on a call: it advertises `getReceiveAvailable` only where it shows
                   what is free, and the delayed acknowledgement, which has the client's own window,
                   only where that is free;
* `step_honest`    then nothing is advertised that is not free.
-/

set_option linter.unusedVariables false

namespace TunServer.Session

/-- the slot of the FIN -/
def finSlot (d : Data) : Nat := if d.clientReadFinished then 1 else 0

/-- The buffer is taken up to the last byte received, from `receiveSequence` on; and by the bytes
that are still to be handed over, where `receiveUser` was left behind. -/
def freeSpace (d : Data) : Nat :=
  RECEIVE_BUFFER_SIZE - max ((d.receiveNext - d.receiveSequence).toNat - finSlot d)
    ((d.receiveNext - d.receiveUser).toNat - finSlot d)

def Bounded (d : Data) : Prop :=
  (d.receiveNext - d.receiveSequence).toNat ≤ RECEIVE_BUFFER_SIZE + finSlot d

def Shows (d : Data) : Prop :=
  (d.receiveNext - d.receiveSequence).toNat ≤ RECEIVE_BUFFER_SIZE ∧
    min ((d.receiveNext - d.receiveUser).toNat - finSlot d) RECEIVE_BUFFER_SIZE ≤
      (d.receiveNext - d.receiveSequence).toNat

instance (d : Data) : Decidable (Shows d) := inferInstanceAs (Decidable (_ ∧ _))

theorem finSlot_le (d : Data) : finSlot d ≤ 1 := by
  unfold finSlot
  split_ifs <;> omega

/-- **When `getReceiveAvailable` is free**, cut to the 16 bits of the field. -/
theorem advertised_le_iff {d : Data} (h : Bounded d) :
    (d.getReceiveAvailable.setWidth 16 : U16).toNat ≤ freeSpace d ↔ Shows d := by
  have h1 := finSlot_le d
  have h2 : d.getReceiveAvailable =
      BitVec.ofNat 32 RECEIVE_BUFFER_SIZE - (d.receiveNext - d.receiveSequence) := by
    unfold Data.getReceiveAvailable
    bv_omega
  unfold Bounded RECEIVE_BUFFER_SIZE at h
  unfold Shows freeSpace
  rw [BitVec.toNat_setWidth, h2, BitVec.toNat_sub, BitVec.toNat_ofNat]
  unfold RECEIVE_BUFFER_SIZE
  generalize (d.receiveNext - d.receiveSequence).toNat = used at h ⊢
  generalize (d.receiveNext - d.receiveUser).toNat = held
  generalize finSlot d = fin at h h1 ⊢
  omega

/-- an ACK that is no reset advertises at most `n` bytes -/
def HonestWindow (n : Nat) (e : Event) : Prop :=
  ∀ p, e = .written p → p.isAck = true → p.isReset = false → p.windowSize.toNat ≤ n

instance (n : Nat) : DecidablePred (HonestWindow n)
  | .written p => decidable_of_iff (p.isAck = true → p.isReset = false → p.windowSize.toNat ≤ n)
      ⟨fun h _ he => Event.written.inj he ▸ h, fun h => h p rfl⟩
  | .accepted _ => .isTrue fun _ h => Event.noConfusion h
  | .handed _ => .isTrue fun _ h => Event.noConfusion h
  | .read _ => .isTrue fun _ h => Event.noConfusion h
  | .shutdownWrite => .isTrue fun _ h => Event.noConfusion h
  | .closed => .isTrue fun _ h => Event.noConfusion h

/-- a segment that is written, if any, is a reset or no ACK -/
def NoWindow (e : Event) : Prop := ∀ n, HonestWindow n e

theorem NoWindow.other {e : Event} (h : ∀ p, e ≠ .written p) : NoWindow e :=
  fun _ p he => absurd he (h p)

theorem NoWindow.reset {p : Packet} (h : p.isAck = true → p.isReset = true) :
    NoWindow (.written p) := by
  rintro n q ⟨⟩ hack hrst
  exact absurd ((h hack).symm.trans hrst) (by decide)

/-! ## inside `flushDataToServer` -/

/-- the base of the buffer stays or moves up to the number expected next, and no window is told -/
structure UpWindow (s t : St) : Prop where
  fin : t.data.clientReadFinished = s.data.clientReadFinished
  next : t.data.receiveNext = s.data.receiveNext
  base : t.data.receiveSequence = s.data.receiveSequence ∨
    t.data.receiveSequence = s.data.receiveNext
  window : t.packet.windowSize = s.packet.windowSize
  log : Adds NoWindow s.log t.log

theorem UpWindow.refl (s : St) : UpWindow s s := ⟨rfl, rfl, .inl rfl, rfl, Adds.refl _ _⟩

theorem UpWindow.trans {s t u : St} (h : UpWindow s t) (h' : UpWindow t u) : UpWindow s u where
  fin := h'.fin.trans h.fin
  next := h'.next.trans h.next
  base := by
    rcases h'.base with h1 | h1
    · rw [h1]
      exact h.base
    · exact .inr (h1.trans h.next)
  window := h'.window.trans h.window
  log := h.log.trans h'.log

theorem UpWindow.bounded {s t : St} (h : UpWindow s t) (hb : Bounded s.data) : Bounded t.data := by
  unfold Bounded finSlot at hb ⊢
  rw [h.next, h.fin]
  rcases h.base with h1 | h1
  · rw [h1]
    exact hb
  · rw [h1, BitVec.sub_self]
    exact Nat.zero_le _

/-- what these calls end in -/
def WindowEnds (s : St) : Except Fault St → Prop := Ends (fun _ => True) (UpWindow s)

theorem WindowEnds.from {s t : St} {r : Except Fault St} (h : UpWindow s t) (hr : WindowEnds t r) :
    WindowEnds s r := Ends.mono hr fun _ hu => h.trans hu

theorem closeSession_window (s : St) : UpWindow s s.closeSession := by
  unfold St.closeSession
  cases s.data.mSock with
  | some fd => exact ⟨rfl, rfl, .inl rfl, rfl, Adds.one _ (.other fun _ h => Event.noConfusion h)⟩
  | none => exact ⟨rfl, rfl, .inl rfl, rfl, Adds.one _ (.other fun _ h => Event.noConfusion h)⟩

theorem finishUpStream_window (s : St) : UpWindow s s.finishUpStream := by
  let t : St := { s with data := { s.data with receiveUser := s.data.receiveUser + 1 } }
  have h : UpWindow s t := ⟨rfl, rfl, .inl rfl, rfl, Adds.refl _ _⟩
  unfold St.finishUpStream
  dsimp only
  split_ifs
  · exact h.trans (closeSession_window t)
  · exact h.trans ⟨rfl, rfl, .inl rfl, rfl, Adds.one _ (.other fun _ h => Event.noConfusion h)⟩

theorem trimNow_window (s : St) : WindowEnds s s._trimReceiveBuffer := by
  unfold St._trimReceiveBuffer
  dsimp only
  split_ifs
  · exact UpWindow.refl s
  · unfold shiftElements
    split_ifs
    · exact ⟨rfl, rfl, .inr rfl, rfl, Adds.refl _ _⟩
    · trivial

theorem finishSend_window (s : St) : WindowEnds s s.finishSend := by
  unfold St.finishSend St.trimReceiveBuffer
  split_ifs
  · exact finishUpStream_window s
  · exact UpWindow.refl s
  · exact UpWindow.refl s
  · exact trimNow_window s

theorem resetClient_window (s : St) : UpWindow s s.resetClient := by
  let t := s.writePacket ((s.packet.setEnds s.data.destination s.data.source).makeResetSeq s.data.sendNext)
  have h : UpWindow s t := ⟨rfl, rfl, .inl rfl, rfl, Adds.one _ (.reset fun _ => rfl)⟩
  exact h.trans (closeSession_window t)

theorem flushDataToServer_window (s : St) (r : SendResult) : WindowEnds s (s.flushDataToServer r) := by
  unfold St.flushDataToServer
  split_ifs
  · exact UpWindow.refl s
  · exact UpWindow.refl s
  · exact finishUpStream_window s
  · unfold St.sendToServer
    dsimp only
    split_ifs
    · cases r with
      | accepted n =>
        refine WindowEnds.from (t := s.taken ((St.offeredBytes s.data).take n)) ?_ (finishSend_window _)
        exact ⟨rfl, rfl, .inl rfl, rfl, Adds.one _ (.other fun _ h => Event.noConfusion h)⟩
      | wouldBlock => exact UpWindow.refl s
      | error => exact resetClient_window s
    · trivial
  · exact UpWindow.refl s

theorem makeRoom_window (s : St) (len : U32) (r : SendResult) : WindowEnds s (s.makeRoom len r) := by
  unfold St.makeRoom
  split_ifs
  · exact Ends.bind (flushDataToServer_window s r) fun t ht => WindowEnds.from ht (trimNow_window t)
  · exact UpWindow.refl s

/-! ## a segment of the client -/

/-- the buffer holds what fits, and no window was told -/
structure Fits (s t : St) : Prop where
  bounded : Bounded t.data
  window : t.packet.windowSize = s.packet.windowSize
  log : Adds NoWindow s.log t.log

theorem UpWindow.fits {s t u : St} (h : UpWindow t u) (hf : Fits s t) : Fits s u :=
  ⟨h.bounded hf.bounded, h.window.trans hf.window, hf.log.trans h.log⟩

/-- the buffer is as full as before -/
theorem KeepsUp.shows {d d' : Data} (h : KeepsUp d d') : freeSpace d' = freeSpace d ∧
    (Bounded d → Bounded d') ∧ (Shows d → Shows d') := by
  unfold freeSpace Bounded Shows finSlot
  rw [h.receiveNext, h.receiveSequence, h.receiveUser, h.clientReadFinished]
  exact ⟨rfl, id, id⟩

/-- no more is copied than `getReceiveAvailable` -/
theorem copiedTo_bounded {d : Data} (hb : Bounded d) (hfin : d.clientReadFinished = false)
    {bytes : List Byte} (hlen : bytes.length ≤ d.getReceiveAvailable.toNat) (push : U32) (fin : Bool) :
    Bounded (copiedTo d bytes push fin) := by
  have hav : d.getReceiveAvailable =
      BitVec.ofNat 32 RECEIVE_BUFFER_SIZE - (d.receiveNext - d.receiveSequence) := by
    unfold Data.getReceiveAvailable
    bv_omega
  have hsum : d.receiveNext + BitVec.ofNat 32 bytes.length + b32 fin - d.receiveSequence =
      d.receiveNext - d.receiveSequence + BitVec.ofNat 32 bytes.length + b32 fin := by
    bv_omega
  unfold Bounded finSlot at hb ⊢
  unfold copiedTo
  dsimp only
  rw [hfin] at hb ⊢
  rw [hav] at hlen
  rw [hsum]
  generalize d.receiveNext - d.receiveSequence = used at hb hlen ⊢
  unfold RECEIVE_BUFFER_SIZE at *
  cases fin with
  | false =>
    simp only [b32_false, Bool.false_eq_true, if_false] at hb ⊢
    bv_omega
  | true =>
    simp only [b32_true, Bool.false_eq_true, if_false, if_true] at hb ⊢
    bv_omega

theorem copyPayload_fits {s : St} (hb : Bounded s.data) (hfin : s.data.clientReadFinished = false) :
    Ends (fun _ => True) (Fits s) s.copyPayload := by
  rw [copyPayload_def]
  split_ifs
  · have hlen : (copied s).length ≤ s.data.getReceiveAvailable.toNat := List.length_take_le _ _
    exact ⟨copiedTo_bounded hb hfin hlen _ _, rfl, Adds.one _ (.other fun _ h => Event.noConfusion h)⟩
  · trivial

theorem acceptPayload_fits {s : St} (hb : Bounded s.data) (hfin : s.data.clientReadFinished = false)
    (i : ClientInput) : Ends (fun _ => True) (Fits s) (s.acceptPayload i) := by
  unfold St.acceptPayload
  refine Ends.bind (makeRoom_window s _ _) fun t ht => ?_
  refine Ends.bind (copyPayload_fits (ht.bounded hb) (ht.fin.trans hfin)) fun u hu => ?_
  have hu' : Fits s u := ⟨hu.bounded, hu.window.trans ht.window, ht.log.trans hu.log⟩
  exact (flushDataToServer_window u i.send).mono fun v hv => hv.fits hu'

/-- up to `acknowledgeDelayed` -/
theorem accepted_fits {s : St} (hb : Bounded s.data) (i : ClientInput) :
    Ends (fun _ => True) (Fits s) (accepted s i) := by
  unfold accepted
  split_ifs with hf
  · exact ⟨hb, rfl, Adds.refl _ _⟩
  · exact (acceptPayload_fits (s := s.acceptAck) hb (by simpa using hf) i).mono fun t ht =>
      ⟨ht.bounded, ht.window, ht.log⟩

/-! ## what is advertised -/

/-- `acknowledgeDelayed` writes an acknowledgement -/
def acknowledges (s : St) (now : Int) : Bool :=
  s.data.state ≠ .CLOSED ∧ ¬ s.data.isUpStreamComplete ∧
    (clockTest now s.shared.lastAcknowledgmentSent ∧
      s.data.lastAcknowledgedSequence ≠ s.data.receiveNext ∨
    s.data.mss.setWidth 32 * 2 < s.data.receiveNext - s.data.lastAcknowledgedSequence)

/-- what is advertised on the way is free, and the buffer is left alone -/
structure Advertised (s t : St) : Prop where
  up : KeepsUp s.data t.data
  log : Adds (HonestWindow (freeSpace s.data)) s.log t.log

theorem Advertised.refl (s : St) : Advertised s s := ⟨.refl _, Adds.refl _ _⟩

theorem Advertised.trans {s t u : St} (h : Advertised s t) (h' : Advertised t u) : Advertised s u where
  up := h.up.trans h'.up
  log := by
    have h1 := h'.log
    rw [h.up.shows.1] at h1
    exact h.log.trans h1

theorem Advertised.quiet {s t : St} (hup : KeepsUp s.data t.data) (hlog : Adds NoWindow s.log t.log) :
    Advertised s t := ⟨hup, hlog.mono fun e he => he _⟩

/-- what these calls end in -/
def Advertises (s : St) : Except Fault St → Prop := Ends (fun _ => True) (Advertised s)

theorem Advertises.from {s t : St} {r : Except Fault St} (h : Advertised s t) (hr : Advertises t r) :
    Advertises s r := Ends.mono hr fun _ hu => h.trans hu

theorem closeSession_advertised (s : St) : Advertised s s.closeSession :=
  .quiet (closeSession_aside s).1.up (closeSession_window s).log

theorem acknowledgeDelayed_advertised {s : St} {now : Int} (hs : s.data.state ≠ .CLOSED)
    (h : acknowledges s now = true → s.packet.windowSize.toNat ≤ freeSpace s.data) :
    Advertised s (s.acknowledgeDelayed now) := by
  unfold St.acknowledgeDelayed
  dsimp only
  split_ifs with hup hc
  · exact .refl s
  · have hack : acknowledges s now = true := by
      refine decide_eq_true ⟨hs, hup, ?_⟩
      unfold clockTest
      rw [decide_eq_true_eq]
      exact hc
    refine ⟨⟨rfl, rfl, rfl, rfl, rfl, id⟩, Adds.one _ ?_⟩
    rintro p ⟨⟩ _ _
    exact h hack
  · exact .refl s

theorem finishAck_advertised {s : St} {i : ClientInput}
    (h : acknowledges s i.nowAcknowledge = true → s.packet.windowSize.toNat ≤ freeSpace s.data) :
    Advertised s (s.finishAck i) := by
  unfold St.finishAck
  split_ifs with hs
  · exact .refl s
  · exact closeSession_advertised s
  · exact acknowledgeDelayed_advertised hs h

theorem sendAck_advertised {s : St} (hb : Bounded s.data) (h : Shows s.data) :
    Advertised s s.sendAck := by
  refine ⟨(sendAck_aside s).up, Adds.one _ ?_⟩
  rintro p ⟨⟩ _ _
  exact (advertised_le_iff hb).mpr h

/-! ## towards the client -/

theorem sendSegment_advertised {s : St} (hb : Bounded s.data) (h : Shows s.data) (seq : U32) :
    Ends (fun _ => True) (fun r => Advertised s r.2) (s.sendSegment seq) := by
  have hone (p : Packet) (hp : p.windowSize = s.data.getReceiveAvailable.setWidth 16) :
      Advertised s (s.writePacket p) := by
    refine ⟨(writePacket_aside s p).up, Adds.one _ ?_⟩
    rintro q ⟨⟩ _ _
    rw [hp]
    exact (advertised_le_iff hb).mpr h
  unfold St.sendSegment
  dsimp only
  generalize (if s.data.mss.setWidth 32 < s.data.sendNewDataSequence - seq -
    b32 s.data.serverReadFinished then _ else _) = len
  split_ifs
  · exact hone _ rfl
  · exact hone _ rfl
  · trivial

theorem sendLoop_advertised {s : St} (turns : Nat) {seq : U32} (hb : Bounded s.data)
    (h : seq < s.data.sendNewDataSequence → Shows s.data) : Advertises s (St.sendLoop turns seq s) := by
  induction turns generalizing s seq with
  | zero =>
    unfold St.sendLoop
    split_ifs
    · trivial
    · exact Advertised.refl s
  | succ turns ih =>
    unfold St.sendLoop
    split_ifs with hseq
    · refine Ends.bind (sendSegment_advertised hb (h hseq) seq) fun r hr => ?_
      have hkeep := hr.up.shows
      exact Advertises.from hr (ih (hkeep.2.1 hb) fun _ => hkeep.2.2 (h hseq))
    · exact Advertised.refl s

theorem sendData_advertised {s : St} (turns : Nat) {seq : U32} (hb : Bounded s.data)
    (h : seq < s.data.sendNewDataSequence → Shows s.data) :
    Advertises s (s.sendDataStartingFrom seq turns) := by
  let t : St := { s with packet := s.packet.setEnds s.data.destination s.data.source }
  have ht : Advertised s t := ⟨.refl _, Adds.refl _ _⟩
  have hloop : Advertises t (St.sendLoop turns seq t) := sendLoop_advertised turns hb h
  exact .from ht hloop

/-- `flushDataToClient` writes a segment -/
def flushSends (d : Data) (now : Int) : Bool :=
  d.state = .ESTABLISHED ∧ ¬ d.isDownStreamComplete ∧
    (St.resendDue d now ∧ d.retryCount ≠ SEND_MAX_RETRIES ∨
      ¬ St.resendDue d now ∧ St.newDataDue d ∧ d.sendNext < d.sendNewDataSequence)

theorem sentAll_advertised (s : St) (now : Int) : Advertised s (s.sentAll now) :=
  ⟨⟨rfl, rfl, rfl, rfl, rfl, id⟩, Adds.refl _ _⟩

theorem resend_advertised {s : St} (now : Int) (turns : Nat) (hb : Bounded s.data)
    (h : Shows s.data) : Advertises s (s.resend now turns) := by
  have hsend (t : St) (ht : Advertised s t) : Advertises s (do
      let s ← t.sendDataStartingFrom t.data.sendUnacknowledged turns
      return s.sentAll now) := by
    have hkeep := ht.up.shows
    exact Ends.bind (sendData_advertised turns (hkeep.2.1 hb) fun _ => hkeep.2.2 h) fun u hu =>
      ht.trans (hu.trans (sentAll_advertised u now))
  unfold St.resend
  dsimp only
  split_ifs
  · exact hsend _ ⟨⟨rfl, rfl, rfl, rfl, rfl, id⟩, Adds.refl _ _⟩
  · exact hsend s (.refl s)

theorem sendNewData_advertised {s : St} (now : Int) (turns : Nat) (hb : Bounded s.data)
    (h : s.data.sendNext < s.data.sendNewDataSequence → Shows s.data) :
    Advertises s (s.sendNewData now turns) :=
  Ends.bind (sendData_advertised turns hb h) fun u hu => hu.trans (sentAll_advertised u now)

theorem finishFlush_advertised (s : St) : Advertised s s.finishFlush := by
  unfold St.finishFlush
  split_ifs
  · exact closeSession_advertised s
  · exact .refl s

theorem flushDataToClient_advertised {s : St} {now : Int} (turns : Nat) (hb : Bounded s.data)
    (h : flushSends s.data now = true → Shows s.data) :
    Advertises s (s.flushDataToClient now turns) := by
  unfold St.flushDataToClient
  split_ifs with hs hdown hdue hretry hnew
  · exact Advertised.refl s
  · exact Advertised.refl s
  · exact closeSession_advertised s
  · have hshow := h (decide_eq_true ⟨not_not.mp hs, hdown, .inl ⟨hdue, hretry⟩⟩)
    exact Ends.bind (resend_advertised now turns hb hshow) fun t ht =>
      ht.trans (finishFlush_advertised t)
  · refine Ends.bind (sendNewData_advertised now turns hb fun hlt => ?_) fun t ht =>
      ht.trans (finishFlush_advertised t)
    exact h (decide_eq_true ⟨not_not.mp hs, hdown, .inr ⟨hdue, hnew, hlt⟩⟩)
  · exact finishFlush_advertised s

/-! ## the calls -/

theorem openSession_bounded {s : St} (i : ClientInput) (hb : Bounded s.data) :
    Bounded (s.openSession i).data := by
  have hnew (f : States) : Bounded { St.opened s.data s.packet i with state := f } := by
    unfold Bounded St.opened
    dsimp only
    rw [BitVec.sub_self]
    exact Nat.zero_le _
  unfold St.openSession
  dsimp only
  split_ifs
  · exact (sendReset_aside s).up.shows.2.1 hb
  · exact hnew _
  · exact hnew _

theorem receiveFromClient_bounded {s : St} (i : ClientInput) (hb : Bounded s.data) :
    Ends (fun _ => True) (fun s' => Bounded s'.data) (s.receiveFromClient i) := by
  have hs := receiveFromClient_step s i
  generalize s.receiveFromClient i = r at hs ⊢
  cases hs with
  | same => exact hb
  | reset => exact (sendReset_aside s).up.shows.2.1 hb
  | ack => exact hb
  | synAck hs => exact hb
  | opened => exact openSession_bounded i hb
  | closed => exact (closeSession_aside s).1.up.shows.2.1 hb
  | established hs => exact (establish_aside s i (by rw [hs]; decide)).up.shows.2.1 hb
  | accepted hs hsyn hrst hack hseq =>
    rw [acceptSegment_eq]
    exact Ends.bind (accepted_fits hb i) fun t ht => (finishAck_aside t i).up.shows.2.1 ht.bounded

/-- **The buffer holds no more than fits, and the FIN**, whatever a call is given. -/
theorem step_bounded {s : St} (op : Op) (hb : Bounded s.data) :
    Ends (fun _ => True) (fun s' => Bounded s'.data) (step s op) := by
  cases op with
  | receiveFromClient p i =>
    let t : St := { s with packet := p.val }
    exact receiveFromClient_bounded (s := t) i hb
  | receiveFromServer p i =>
    let t : St := { s with packet := p }
    refine Ends.bind ((receiveFromServer_aside t i).imp (fun _ _ => trivial) fun r hr => hr)
      fun r hr => ?_
    exact hr.up.shows.2.1 hb
  | flushDataToServer p r =>
    let t : St := { s with packet := p }
    exact (flushDataToServer_window t r).mono fun u hu => hu.bounded hb
  | flushDataToClient p now turns =>
    let t : St := { s with packet := p }
    exact (flushDataToClient_aside t now turns).imp (fun _ _ => trivial) fun u hu => hu.up.shows.2.1 hb

/-- a packet that an established session answers with `sendAck` -/
def answersWithAck (d : Data) (p : Packet) : Bool :=
  p.isSyn ∧ ¬ p.isAck ∨
    ¬ p.isSyn ∧ ¬ p.isReset ∧ p.isAck ∧ p.getSequenceNumber ≠ d.receiveNext

/-- a packet that an established session takes -/
def takesSegment (d : Data) (p : Packet) : Bool :=
  ¬ p.isSyn ∧ ¬ p.isReset ∧ p.isAck ∧ p.getSequenceNumber = d.receiveNext

/-- Where `getReceiveAvailable` is advertised it shows what is free; where `acknowledgeDelayed`
writes, the window that the client advertised is free here. -/
def WindowReady (s : St) : Op → Prop
  | .receiveFromClient p i => s.data.state = .ESTABLISHED →
    (answersWithAck s.data p = true → Shows s.data) ∧
    (takesSegment s.data p = true → Ends (fun _ => True) (fun t =>
      acknowledges t i.nowAcknowledge = true → p.val.windowSize.toNat ≤ freeSpace t.data)
      (accepted { s with packet := p } i))
  | op => ∀ e ∈ flushEntry s op, flushSends e.1.data e.2 = true → Shows e.1.data

instance (s : St) (op : Op) : Decidable (WindowReady s op) := by
  cases op with
  | receiveFromClient p i =>
    exact inferInstanceAs (Decidable (s.data.state = .ESTABLISHED →
      (answersWithAck s.data p = true → Shows s.data) ∧
      (takesSegment s.data p = true → Ends (fun _ => True) (fun t =>
        acknowledges t i.nowAcknowledge = true → p.val.windowSize.toNat ≤ freeSpace t.data)
        (accepted { s with packet := p } i))))
  | receiveFromServer p i =>
    exact inferInstanceAs (Decidable (∀ e ∈ flushEntry s (.receiveFromServer p i),
      flushSends e.1.data e.2 = true → Shows e.1.data))
  | flushDataToServer p r =>
    exact inferInstanceAs (Decidable (∀ e ∈ flushEntry s (.flushDataToServer p r),
      flushSends e.1.data e.2 = true → Shows e.1.data))
  | flushDataToClient p now turns =>
    exact inferInstanceAs (Decidable (∀ e ∈ flushEntry s (.flushDataToClient p now turns),
      flushSends e.1.data e.2 = true → Shows e.1.data))

/-- What an established session writes in the call advertises no more than is free: in a call that
returns, and in every turn of a loop, which might not end. -/
structure AdvertisesFree (s : St) (op : Op) : Prop where
  returns : ∀ s', step s op = .ok s' → Adds (HonestWindow (freeSpace s'.data)) s.log s'.log
  turns : ∀ e ∈ flushEntry s op, flushSends e.1.data e.2 = true →
    ∀ (u : St) (seq : U32) (r : U32 × St), KeepsUp e.1.data u.data → u.sendSegment seq = .ok r →
    Adds (HonestWindow (freeSpace r.2.data)) u.log r.2.log

theorem Advertised.returns {s t : St} (h : Advertised s t) :
    Adds (HonestWindow (freeSpace t.data)) s.log t.log := by
  rw [h.up.shows.1]
  exact h.log

theorem receiveFromClient_advertises {s : St} {p : Incoming} {i : ClientInput} (hb : Bounded s.data)
    (hs : s.data.state = .ESTABLISHED) (h : WindowReady s (.receiveFromClient p i)) :
    Ends (fun _ => True) (fun t => Adds (HonestWindow (freeSpace t.data)) s.log t.log)
      (step s (.receiveFromClient p i)) := by
  obtain ⟨hanswer, htaken⟩ := h hs
  let t : St := { s with packet := p.val }
  have hreset : Advertised t t.sendReset := by
    refine .quiet (sendReset_aside t).up ?_
    unfold St.sendReset
    dsimp only
    split_ifs
    · exact Adds.one _ (.reset fun _ => rfl)
    · exact Adds.one _ (.reset fun _ => rfl)
  have hack (ha : answersWithAck s.data p = true) : Advertised t t.sendAck :=
    sendAck_advertised hb (hanswer ha)
  show Ends _ _ (t.receiveFromClient i)
  unfold St.receiveFromClient
  split_ifs with hsyn hsynAck hrst ha
  · exact hreset.returns
  · unfold St.receiveSyn
    rw [show t.data.state = .ESTABLISHED from hs]
    exact (hack (decide_eq_true (.inl ⟨hsyn, hsynAck⟩))).returns
  · unfold St.receiveReset
    split_ifs
    · exact (closeSession_advertised t).returns
    · exact Adds.refl _ _
  · unfold St.receiveAck
    rw [show t.data.state = .ESTABLISHED from hs]
    dsimp only
    split_ifs with hseq
    · rw [acceptSegment_eq]
      have htaken := htaken (decide_eq_true ⟨hsyn, hrst, ha, hseq⟩)
      refine Ends.bind ((accepted_fits (s := t) hb i).and fun u hu => htaken.ok hu) fun u hu => ?_
      have hlast : Advertised u (u.finishAck i) := finishAck_advertised fun hc => by
        rw [hu.1.window]
        exact hu.2 hc
      exact (hu.1.log.mono fun e he => he _).trans hlast.returns
    · exact (hack (decide_eq_true (.inr ⟨hsyn, hrst, ha, hseq⟩))).returns
  · exact hreset.returns

theorem readFromServer_advertised (s : St) (i : ServerInput) : Advertises s (s.readFromServer i) := by
  refine ((readFromServer_aside s i).imp (fun _ _ => trivial) fun t ht => ht.up).and ?_ |>.mono
    fun t ht => .quiet ht.1 ht.2
  intro t he
  unfold St.readFromServer St.receivedFromServer at he
  dsimp only at he
  split_ifs at he
  · cases he
    exact Adds.one _ (.other fun _ h => Event.noConfusion h)
  · cases he
    exact Adds.refl _ _
  · cases he
    exact Adds.refl _ _

theorem trimSendBuffer_advertised (s : St) : Advertises s s.trimSendBuffer := by
  refine ((trimSendBuffer_aside s).imp (fun _ _ => trivial) fun t ht => ht.up).and ?_ |>.mono
    fun t ht => .quiet ht.1 ht.2
  intro t he
  unfold St.trimSendBuffer at he
  dsimp only at he
  split_ifs at he
  · cases he
    exact Adds.refl _ _
  · obtain ⟨b, _, he⟩ := bind_ok.mp he
    cases he
    exact Adds.refl _ _

theorem receiveFromServer_advertises {s : St} {p : Packet} {i : ServerInput} (hb : Bounded s.data)
    (h : WindowReady s (.receiveFromServer p i)) :
    Ends (fun _ => True) (fun r => Advertised { s with packet := p } r.2)
      (St.receiveFromServer { s with packet := p } i) := by
  let t : St := { s with packet := p }
  unfold St.receiveFromServer
  split_ifs with hs
  · exact Advertised.refl t
  · refine Ends.bind ((trimSendBuffer_advertised t).and fun u hu => hu) fun u hu => ?_
    split_ifs with ha
    · exact hu.1
    · refine Ends.bind ((readFromServer_advertised u i).and fun v hv => hv) fun v hv => ?_
      have hentry := flushEntry_server (not_not.mp hs) hu.2 ha hv.2
      have hv' := hu.1.trans hv.1
      refine Ends.bind (flushDataToClient_advertised i.turns (hv'.up.shows.2.1 hb) (h _ hentry))
        fun w hw => ?_
      exact hv'.trans hw

/-- a call leaves the receive buffer alone up to the flush -/
theorem flushEntry_keeps {s : St} {op : Op} : ∀ e ∈ flushEntry s op, KeepsUp s.data e.1.data := by
  intro e he
  cases op with
  | receiveFromClient p i => cases he
  | flushDataToServer p r => cases he
  | flushDataToClient p now turns =>
    cases he
    exact .refl _
  | receiveFromServer p i =>
    let t : St := { s with packet := p }
    unfold flushEntry at he
    dsimp only at he
    split_ifs at he
    · cases he
    · have htrim := trimSendBuffer_aside t
      cases hu : t.trimSendBuffer with
      | error f =>
        rw [show St.trimSendBuffer { s with packet := p } = .error f from hu] at he
        cases he
      | ok u =>
        rw [show St.trimSendBuffer { s with packet := p } = .ok u from hu] at he
        dsimp only at he
        split_ifs at he
        · cases he
        · have hread := readFromServer_aside u i
          cases hv : u.readFromServer i with
          | error f =>
            rw [hv] at he
            cases he
          | ok v =>
            rw [hv] at he
            cases he
            exact (htrim.ok hu).up.trans (hread.ok hv).up

/-- **A call that is ready advertises no more than is free.** -/
theorem step_honest {s : St} {op : Op} (hb : Bounded s.data) (hs : s.data.state = .ESTABLISHED)
    (h : WindowReady s op) : AdvertisesFree s op := by
  constructor
  · intro s' he
    cases op with
    | receiveFromClient p i => exact (receiveFromClient_advertises hb hs h).ok he
    | receiveFromServer p i =>
      obtain ⟨r, hr, he⟩ := bind_ok.mp he
      cases he
      exact ((receiveFromServer_advertises hb h).ok hr).returns
    | flushDataToServer p r =>
      have hw := (flushDataToServer_window { s with packet := p } r).ok he
      exact hw.log.mono fun e he => he _
    | flushDataToClient p now turns =>
      have hflush := h _ (Option.mem_some_self _)
      have ht := flushDataToClient_advertised (s := { s with packet := p }) turns hb hflush
      exact (ht.ok he).returns
  · intro e hentry hsends u seq r hkeep he
    have hshow : Shows e.1.data := by
      cases op with
      | receiveFromClient p i => cases hentry
      | _ => exact h e hentry hsends
    have hb' := hkeep.shows.2.1 ((flushEntry_keeps e hentry).shows.2.1 hb)
    exact ((sendSegment_advertised hb' (hkeep.shows.2.2 hshow) seq).ok he).returns

/-! ## what is taken -/

/-- **What is free is taken**: of a segment in order nothing is dropped. -/
theorem free_is_taken {s s' : St} {p : Incoming} {i : ClientInput} (hb : Bounded s.data)
    (htake : takesPayload s.data p = true) (hlen : p.val.payload.length ≤ freeSpace s.data)
    (he : step s (.receiveFromClient p i) = .ok s') :
    acceptedBytes s'.log = acceptedBytes s.log ++ p.val.payload := by
  have ⟨hs, hsyn, hrst, hack, hseq, hfin⟩ := of_decide_eq_true htake
  let t : St := { s with packet := p.val }
  -- the whole payload fits, so no room is made
  have hroom : p.val.payload.length ≤ s.data.getReceiveAvailable.toNat := by
    have hav : s.data.getReceiveAvailable =
        BitVec.ofNat 32 RECEIVE_BUFFER_SIZE - (s.data.receiveNext - s.data.receiveSequence) := by
      unfold Data.getReceiveAvailable
      bv_omega
    have hmax := le_max_left ((s.data.receiveNext - s.data.receiveSequence).toNat - finSlot s.data)
      ((s.data.receiveNext - s.data.receiveUser).toNat - finSlot s.data)
    have hslot : finSlot s.data = 0 := if_neg hfin
    unfold Bounded at hb
    unfold freeSpace at hlen
    rw [hslot] at hb hlen hmax
    unfold RECEIVE_BUFFER_SIZE at hb hlen hav
    rw [hav, BitVec.toNat_sub, BitVec.toNat_ofNat]
    generalize (s.data.receiveNext - s.data.receiveSequence).toNat = used at *
    omega
  have hmake : t.acceptAck.makeRoom t.packet.getDataLength i.firstSend = .ok t.acceptAck := by
    refine if_neg fun hlt => ?_
    rw [BitVec.lt_def, Packet.getDataLength_toNat] at hlt
    exact absurd hroom (Nat.not_le.mpr hlt)
  have hcopied : copied t.acceptAck = p.val.payload := List.take_of_length_le hroom
  have he : t.receiveFromClient i = .ok s' := he
  unfold St.receiveFromClient St.receiveAck at he
  rw [if_neg (show ¬ t.packet.isSyn = true from hsyn), if_neg (show ¬ t.packet.isReset = true from hrst),
    if_pos (show t.packet.isAck = true from hack), show t.data.state = .ESTABLISHED from hs] at he
  dsimp only at he
  rw [if_pos (show t.packet.getSequenceNumber = t.data.receiveNext from hseq), acceptSegment_eq] at he
  obtain ⟨u, hu, he⟩ := bind_ok.mp he
  cases he
  unfold accepted at hu
  rw [if_neg (show ¬ t.acceptAck.data.clientReadFinished = true from hfin)] at hu
  unfold St.acceptPayload at hu
  rw [show t.acceptAck.packet.getDataLength = t.packet.getDataLength from rfl, hmake] at hu
  obtain ⟨_, hroom', hu⟩ := bind_ok.mp hu
  cases hroom'
  obtain ⟨v, hv, hu⟩ := bind_ok.mp hu
  obtain ⟨_, hlog, _⟩ := copyPayload_eq hv
  have hlast : acceptedBytes [Event.accepted (copied t.acceptAck)] = p.val.payload := by
    rw [hcopied]
    exact List.append_nil _
  rw [(finishAck_aside u i).accepted, (flushDataToServer_frame hu).accepted, hlog,
    acceptedBytes_append, hlast]
  rfl

/-! ## runs -/

/-- what the class promises about its window, for a call -/
def WindowHonest (s : St) (op : Op) : Prop :=
  s.data.state = .ESTABLISHED → AdvertisesFree s op ∧
    ∀ p i s', op = .receiveFromClient p i → takesPayload s.data p = true →
      p.val.payload.length ≤ freeSpace s.data → step s op = .ok s' →
      acceptedBytes s'.log = acceptedBytes s.log ++ p.val.payload

/-- what a run preserves -/
theorem run_honest {s : St} {ops : List Op} (hb : Bounded s.data)
    (hops : AlongM step WindowReady s ops) : AlongM step WindowHonest s ops := by
  refine alongM_inv (fun s => Bounded s.data) (fun s op => step_bounded op) ?_ hb hops
  refine fun s op hb hready hs => ⟨step_honest hb hs hready, ?_⟩
  rintro p i s' rfl htake hlen he
  exact free_is_taken hb htake hlen he

theorem bounded_init : Bounded .init := Nat.zero_le _

end TunServer.Session
