import TunServer.Sessions2.Readiness
import TunServer.Sessions2.Termination

/-!
# A session object that is used again

`Data::reset` leaves three fields as they are: the two that belong to a round trip time being
measured, which are written before they are read, and the time of the last acknowledgement, which
`checkStatus` reads before it is written.

* `Residue`, `Twin`   two sessions that differ in these three fields only;
* `Twin.…`            every call keeps them twins, as long as it does not read a residue;
* `SameTests`         the calls that read one find the same;
* `no_residue`        two closed objects fed the same calls do the same.
-/

set_option linter.unusedVariables false

namespace TunServer.Sessions2

/-- the fields that `reset` leaves -/
structure Residue where
  rttTrackedSendSequence : U32
  rttSendTime : Int
  lastTimeAcceptedAcknowledgement : Int

def Data.residue (d : Data) : Residue :=
  ⟨d.rttTrackedSendSequence, d.rttSendTime, d.lastTimeAcceptedAcknowledgement⟩

/-- the data with another residue -/
def Data.withResidue (d : Data) (r : Residue) : Data :=
  { d with
    rttTrackedSendSequence := r.rttTrackedSendSequence
    rttSendTime := r.rttSendTime
    lastTimeAcceptedAcknowledgement := r.lastTimeAcceptedAcknowledgement }

/-- what the world sees of an event -/
def Event.seen : Event → Event
  | .sendBack _ p => .sendBack (.init 0) p
  | e => e

/-- the world saw the same -/
def Same (l l' : List Event) : Prop := l'.map Event.seen = l.map Event.seen

theorem Same.snoc {l l' : List Event} (h : Same l l') {e e' : Event} (he : e'.seen = e.seen) :
    Same (l ++ [e]) (l' ++ [e']) := by
  unfold Same at h ⊢
  rw [List.map_append, List.map_append, h, List.map_singleton, List.map_singleton, he]

/-- the session `s'` is `s` with the residue `r` -/
def Twin (r : Residue) (s s' : St) : Prop :=
  ∃ l, s' = { s with data := s.data.withResidue r, log := l } ∧ Same s.log l

section
variable {r : Residue} {s s' t t' : St}

theorem Twin.cond {c c' : Prop} [Decidable c] [Decidable c'] (hc : c' ↔ c) (h : c → Twin r s s')
    (h' : ¬ c → Twin r t t') : Twin r (if c then s else t) (if c' then s' else t') := ite_rel hc h h'

theorem Twin.ite {c : Prop} [Decidable c] (h : c → Twin r s s') (h' : ¬ c → Twin r t t') :
    Twin r (if c then s else t) (if c then s' else t') := .cond Iff.rfl h h'

theorem Twin.state (h : Twin r s s') : s'.data.state = s.data.state := by
  obtain ⟨l, rfl, _⟩ := h
  rfl

theorem Twin.hung (h : Twin r s s') : s'.hung = s.hung := by
  obtain ⟨l, rfl, _⟩ := h
  rfl

theorem Twin.packet (h : Twin r s s') : s'.packet = s.packet := by
  obtain ⟨l, rfl, _⟩ := h
  rfl

theorem Twin.seen (h : Twin r s s') : Same s.log s'.log := by
  obtain ⟨l, rfl, hl⟩ := h
  exact hl

/-! ## the parts that write no residue -/

theorem Twin.setPacket (h : Twin r s s') (p : Packet) :
    Twin r { s with packet := p } { s' with packet := p } := by
  obtain ⟨l, rfl, hl⟩ := h
  exact ⟨l, rfl, hl⟩

theorem Twin.setIn (h : Twin r s s') (k : FdSets) : Twin r (s.setIn k) (s'.setIn k) := by
  obtain ⟨l, rfl, hl⟩ := h
  refine ⟨l, ?_, by rw [St.setIn_log]; exact hl⟩
  have hsocket : (s.data.withResidue r).socket = s.data.socket := rfl
  unfold St.setIn
  dsimp only
  rw [hsocket]
  cases s.data.socket with
  | some fd => rfl
  | none => rfl

theorem Twin.unsetFrom (h : Twin r s s') (k : FdSets) : Twin r (s.unsetFrom k) (s'.unsetFrom k) := by
  obtain ⟨l, rfl, hl⟩ := h
  refine ⟨l, ?_, by rw [St.unsetFrom_log]; exact hl⟩
  have hsocket : (s.data.withResidue r).socket = s.data.socket := rfl
  unfold St.unsetFrom
  dsimp only
  rw [hsocket]
  cases s.data.socket with
  | some fd => rfl
  | none => rfl

theorem Twin.emit (h : Twin r s s') (e : Event) : Twin r (s.emit e) (s'.emit e) := by
  obtain ⟨l, rfl, hl⟩ := h
  exact ⟨l ++ [e], rfl, hl.snoc rfl⟩

theorem Twin.sendBack (h : Twin r s s') (p : Packet) : Twin r (s.sendBack p) (s'.sendBack p) := by
  obtain ⟨l, rfl, hl⟩ := h
  exact ⟨l ++ [.sendBack (s.data.withResidue r) p], rfl, hl.snoc rfl⟩

/-- the data are written, the residue apart -/
theorem Twin.onData (h : Twin r s s') {d d' : Data} (hd : d' = d.withResidue r) :
    Twin r { s with data := d } { s' with data := d' } := by
  obtain ⟨l, rfl, hl⟩ := h
  exact ⟨l, by rw [hd], hl⟩

theorem Twin.closeSession (h : Twin r s s') : Twin r s.closeSession s'.closeSession := by
  have h1 := ((h.unsetFrom .receiveSet).unsetFrom .sendSet).unsetFrom .errorSet
  unfold St.closeSession
  refine Twin.emit (Twin.onData h1 ?_) _
  obtain ⟨l, h2, _⟩ := h1
  rw [h2]
  rfl

/-! ## segments from the client -/

theorem Twin.sendReset (h : Twin r s s') : Twin r s.sendReset s'.sendReset := by
  have hp := h.packet
  unfold St.sendReset
  rw [hp]
  exact .ite (fun _ => h.sendBack _) (fun _ => h.sendBack _)

theorem Twin.sendAck (h : Twin r s s') : Twin r s.sendAck s'.sendAck := by
  obtain ⟨l, rfl, hl⟩ := h
  exact ⟨_, rfl, hl.snoc rfl⟩

theorem Twin.sendSynAck (h : Twin r s s') : Twin r s.sendSynAck s'.sendSynAck := by
  obtain ⟨l, rfl, hl⟩ := h
  exact ⟨_, rfl, hl.snoc rfl⟩

theorem Twin.acknowledgeDelayed (h : Twin r s s') (now : Int) :
    Twin r (s.acknowledgeDelayed now) (s'.acknowledgeDelayed now) := by
  obtain ⟨l, rfl, hl⟩ := h
  unfold St.acknowledgeDelayed
  exact .ite (fun _ => ⟨_, rfl, hl.snoc rfl⟩) (fun _ => ⟨l, rfl, hl⟩)

theorem Twin.acceptWindow (h : Twin r s s') (off : U32) (now : Int) :
    Twin { r with lastTimeAcceptedAcknowledgement :=
      if 0 ≤ off.toInt then now else r.lastTimeAcceptedAcknowledgement }
      (s.acceptWindow off now) (s'.acceptWindow off now) := by
  obtain ⟨l, rfl, hl⟩ := h
  unfold St.acceptWindow
  split_ifs
  · exact ⟨l, rfl, hl⟩
  · exact ⟨l, rfl, hl⟩

theorem Twin.advance (h : Twin r s s') (amt : U32) : Twin r (s.advance amt) (s'.advance amt) := by
  unfold St.advance
  refine .ite (fun _ => Twin.setIn (Twin.emit ?_ _) _) (fun _ => h)
  obtain ⟨l, rfl, hl⟩ := h
  exact ⟨l, rfl, hl⟩

theorem Twin.acceptBytes (h : Twin r s s') : Twin r s.acceptBytes s'.acceptBytes := by
  have h0 := h
  obtain ⟨l, rfl, hl⟩ := h
  unfold St.acceptBytes
  refine .ite (fun _ => Twin.setIn ?_ _) (fun _ => h0)
  exact ⟨l, rfl, hl⟩

theorem Twin.acceptPayload (h : Twin r s s') (now : Int) :
    Twin r (s.acceptPayload now) (s'.acceptPayload now) := by
  have h1 := h.acceptBytes
  have hp := h1.packet
  have h0 := h
  obtain ⟨l, rfl, hl⟩ := h
  unfold St.acceptPayload
  refine .ite (fun _ => h0) (fun _ => ?_)
  dsimp only
  rw [hp]
  refine .ite (fun _ => Twin.sendAck ?_) (fun _ => h1.acknowledgeDelayed now)
  obtain ⟨l', h2, hl'⟩ := h1
  rw [h2]
  exact ⟨l', rfl, hl'⟩

/-- the measurement that is going on began at the same time -/
def Tracks (r : Residue) (d : Data) : Prop := d.rttTracking = true → r.rttSendTime = d.rttSendTime

/-- an unsigned difference is never negative -/
theorem sampleRTT_eq (s : St) (now : Int) : s.sampleRTT now = if s.data.rttTracking = true then
    { s with data := { s.data with rttTracking := false }.pushRTT (now - s.data.rttSendTime) }
    else s := by
  have hle : ∀ x : U32, 0 ≤ x := fun x => Nat.zero_le _
  unfold St.sampleRTT
  simp only [hle, and_true]

theorem Twin.sampleRTT (h : Twin r s s') (ht : Tracks r s.data) (now : Int) :
    Twin r (s.sampleRTT now) (s'.sampleRTT now) ∧ Tracks r (s.sampleRTT now).data := by
  obtain ⟨l, rfl, hl⟩ := h
  rw [sampleRTT_eq, sampleRTT_eq]
  refine ⟨.ite (fun hr => ?_) (fun _ => ⟨l, rfl, hl⟩), ?_⟩
  · have e : { s.data.withResidue r with rttTracking := false }.pushRTT (now - r.rttSendTime) =
        ({ s.data with rttTracking := false }.pushRTT (now - s.data.rttSendTime)).withResidue r := by
      rw [ht hr]
      rfl
    exact Twin.onData ⟨l, rfl, hl⟩ e
  · split_ifs
    · exact fun hc => absurd hc Bool.false_ne_true
    · exact ht

theorem Twin.acceptAck (h : Twin r s s') (ht : Tracks r s.data) (off : U32) (now : Int) :
    Twin r (s.acceptAck off now) (s'.acceptAck off now) ∧ Tracks r (s.acceptAck off now).data := by
  have advance : ∀ {t t' : St} (amt : U32), Twin r t t' → Tracks r t.data →
      Twin r ((t.advance amt).sampleRTT now) ((t'.advance amt).sampleRTT now) ∧
        Tracks r ((t.advance amt).sampleRTT now).data := by
    intro t t' amt h ht
    refine (h.advance amt).sampleRTT ?_ now
    unfold St.advance
    split_ifs
    · simp only [St.setIn_data]
      exact ht
    · exact ht
  have h0 := h
  obtain ⟨l, rfl, hl⟩ := h
  unfold St.acceptAck
  by_cases hlt : s.data.sendNextOffset < off
  · have hlt' : (s.data.withResidue r).sendNextOffset < off := hlt
    rw [if_pos hlt, if_pos hlt']
    refine advance _ ?_ ht
    exact ⟨l, rfl, hl⟩
  · have hlt' : ¬ (s.data.withResidue r).sendNextOffset < off := hlt
    rw [if_neg hlt, if_neg hlt']
    exact advance _ h0 ht

theorem acceptAck_acked (s : St) (off : U32) (now : Int) :
    (s.acceptAck off now).data.lastTimeAcceptedAcknowledgement =
      s.data.lastTimeAcceptedAcknowledgement := by
  have advance : ∀ (t : St) (amt : U32),
      ((t.advance amt).sampleRTT now).data.lastTimeAcceptedAcknowledgement =
        t.data.lastTimeAcceptedAcknowledgement := by
    intro t amt
    rw [sampleRTT_eq]
    unfold St.advance
    dsimp only
    split_ifs <;> simp [Data.pushRTT]
  unfold St.acceptAck
  split_ifs
  · exact advance _ _
  · exact advance _ _

/-- a segment that is taken in writes the time of the last acknowledgement -/
theorem Twin.acceptSegment (h : Twin r s s') (ht : Tracks r s.data) (i : ClientInput)
    (hsame : r.lastTimeAcceptedAcknowledgement = s.data.lastTimeAcceptedAcknowledgement) :
    ∃ r', Twin r' (s.acceptSegment i) (s'.acceptSegment i) ∧ Tracks r' (s.acceptSegment i).data ∧
      r'.lastTimeAcceptedAcknowledgement =
        (s.acceptSegment i).data.lastTimeAcceptedAcknowledgement := by
  have hw := h.acceptWindow (St.ackOff s.data s.packet) i.now
  have hoff : St.ackOff s'.data s'.packet = St.ackOff s.data s.packet := by
    obtain ⟨l, rfl, hl⟩ := h
    rfl
  have htw : Tracks r (s.acceptWindow (St.ackOff s.data s.packet) i.now).data ∧
      (s.acceptWindow (St.ackOff s.data s.packet) i.now).data.lastTimeAcceptedAcknowledgement =
        if 0 ≤ (St.ackOff s.data s.packet).toInt then i.now else r.lastTimeAcceptedAcknowledgement := by
    unfold St.acceptWindow
    split_ifs
    · exact ⟨ht, rfl⟩
    · exact ⟨ht, hsame.symm⟩
  generalize hr' : ({ r with lastTimeAcceptedAcknowledgement :=
    if 0 ≤ (St.ackOff s.data s.packet).toInt then i.now else r.lastTimeAcceptedAcknowledgement } :
      Residue) = r' at hw
  have hacked : r'.lastTimeAcceptedAcknowledgement =
      (s.acceptWindow (St.ackOff s.data s.packet) i.now).data.lastTimeAcceptedAcknowledgement := by
    rw [htw.2, ← hr']
  have htr : Tracks r' (s.acceptWindow (St.ackOff s.data s.packet) i.now).data := by
    rw [← hr']
    exact htw.1
  unfold St.acceptSegment
  dsimp only
  rw [hoff]
  generalize s.acceptWindow (St.ackOff s.data s.packet) i.now = t at hw hacked htr ⊢
  generalize s'.acceptWindow (St.ackOff s.data s.packet) i.now = t' at hw ⊢
  have hcond : (t'.data.sendNextOffset < St.ackOff s.data s.packet ∧
      t'.data.flushToServerFinished = true) ↔ (t.data.sendNextOffset < St.ackOff s.data s.packet ∧
      t.data.flushToServerFinished = true) := by
    obtain ⟨l, rfl, hl⟩ := hw
    exact Iff.rfl
  by_cases hc : t.data.sendNextOffset < St.ackOff s.data s.packet ∧
      t.data.flushToServerFinished = true
  · rw [if_pos hc, if_pos (hcond.mpr hc)]
    refine ⟨r', hw.closeSession, ?_, ?_⟩
    · rw [St.closeSession_data]
      exact htr
    · rw [St.closeSession_data]
      exact hacked
  · rw [if_neg hc, if_neg (fun h => hc (hcond.mp h))]
    obtain ⟨ha, hta⟩ := hw.acceptAck htr (St.ackOff s.data s.packet) i.now
    refine ⟨r', ha.acceptPayload i.nowAcknowledge, ?_, ?_⟩
    · obtain ⟨b, fin, hd⟩ := (acceptPayload_accept (t.acceptAck (St.ackOff s.data s.packet) i.now)
        i.nowAcknowledge).data
      rw [hd]
      exact hta
    · obtain ⟨b, fin, hd⟩ := (acceptPayload_accept (t.acceptAck (St.ackOff s.data s.packet) i.now)
        i.nowAcknowledge).data
      rw [hd, hacked]
      exact (acceptAck_acked _ _ _).symm

/-! ## segments to the client -/

theorem Twin.sendSegment (h : Twin r s s') (mss : U16) (bound ack off : U32) :
    Twin r (s.sendSegment mss bound ack off) (s'.sendSegment mss bound ack off) := by
  obtain ⟨l, rfl, hl⟩ := h
  unfold St.sendSegment
  refine .ite (fun _ => Twin.sendBack ?_ _) (fun _ => Twin.sendBack ⟨l, rfl, hl⟩ _)
  exact ⟨l, rfl, hl⟩

theorem Twin.sendLoop (h : Twin r s s') (mss : U16) (push : Bool) (bound ack : U32) (turns : Nat)
    (off : U32) :
    (St.sendLoop mss push bound ack turns off s').1 = (St.sendLoop mss push bound ack turns off s).1 ∧
    Twin r (St.sendLoop mss push bound ack turns off s).2
      (St.sendLoop mss push bound ack turns off s').2 := by
  have hmore : ∀ {t t' : St} {off : U32}, Twin r t t' →
      St.sendMore t'.data mss push bound off = St.sendMore t.data mss push bound off := by
    rintro t t' off ⟨l, rfl, _⟩
    rfl
  induction turns generalizing off s s' with
  | zero =>
    unfold St.sendLoop
    rw [hmore h]
    refine ⟨rfl, .ite (fun _ => ?_) (fun _ => h)⟩
    obtain ⟨l, rfl, hl⟩ := h
    exact ⟨l, rfl, hl⟩
  | succ turns ih =>
    unfold St.sendLoop
    rw [hmore h]
    split_ifs
    · exact ih (h.sendSegment mss bound ack off) _
    · exact ⟨rfl, h⟩

theorem Twin.sentUpTo (h : Twin r s s') (off : U32) (now : Int) :
    Twin r (s.sentUpTo off now) (s'.sentUpTo off now) := by
  obtain ⟨l, rfl, hl⟩ := h
  unfold St.sentUpTo
  exact .ite (fun _ => ⟨l, rfl, hl⟩) (fun _ => ⟨l, rfl, hl⟩)

theorem Twin.sendData (h : Twin r s s') (off : U32) (mss : U16) (push : Bool) (bound : U32)
    (now : Int) (turns : Nat) : Twin r (s.sendDataStartingFrom off mss push bound now turns)
      (s'.sendDataStartingFrom off mss push bound now turns) := by
  obtain ⟨l, rfl, hl⟩ := h
  have h1 : Twin r { s with packet := s.packet.setWindow s.data.receiveBuffer.available }
      { s with
        data := s.data.withResidue r
        packet := s.packet.setWindow s.data.receiveBuffer.available
        log := l } := ⟨l, rfl, hl⟩
  obtain ⟨h2, h3⟩ := h1.sendLoop mss push bound (s.data.receiveSent + s.data.receiveBuffer.position)
    turns off
  have h4 := h3.hung
  unfold St.sendDataStartingFrom
  dsimp only [Data.withResidue] at h2 h3 h4 ⊢
  rw [h2, h4]
  exact .ite (fun _ => h3) (fun _ => h3.sentUpTo _ _)

/-- what the residue is read for in `flushDataToClient` -/
structure Known (r : Residue) (d : Data) : Prop where
  tracks : Tracks r d
  acked : d.state = .ESTABLISHED →
    r.lastTimeAcceptedAcknowledgement = d.lastTimeAcceptedAcknowledgement

theorem Known.keep {d d' : Data} (h : Known r d) (hs : d'.state = d.state)
    (ht : d'.rttTracking = d.rttTracking) (hr : d'.residue = d.residue) : Known r d' := by
  have h1 := congrArg Residue.rttSendTime hr
  have h2 := congrArg Residue.lastTimeAcceptedAcknowledgement hr
  dsimp only [Data.residue] at h1 h2
  refine ⟨?_, ?_⟩
  · intro hc
    rw [h1]
    exact h.tracks (ht.symm.trans hc)
  · intro hc
    rw [h2]
    exact h.acked (hs.symm.trans hc)

theorem Known.sendData (h : Known r s.data) (off : U32) (mss : U16) (push : Bool) (bound : U32)
    (now : Int) (turns : Nat) :
    Known r (s.sendDataStartingFrom off mss push bound now turns).data := by
  obtain ⟨ack, he⟩ := sendDataStartingFrom_eq s off mss push bound now turns
  obtain ⟨fin, hd⟩ := sendLoop_data mss push bound ack turns off
    { s with packet := s.packet.setWindow s.data.receiveBuffer.available }
  dsimp only at he
  rw [he]
  split_ifs
  · rw [hd]
    exact h.keep rfl rfl rfl
  · unfold St.sentUpTo
    dsimp only
    split_ifs <;> (rw [hd]; exact h.keep rfl rfl rfl)

theorem Twin.trackRTT (h : Twin r s s') (hk : Known r s.data) (now : Int) :
    ∃ r', Twin r' (s.trackRTT now) (s'.trackRTT now) ∧ Known r' (s.trackRTT now).data := by
  obtain ⟨l, rfl, hl⟩ := h
  have htr : (s.data.withResidue r).rttTracking = s.data.rttTracking := rfl
  unfold St.trackRTT
  dsimp only
  rw [htr]
  split_ifs with hc
  · exact ⟨r, ⟨l, rfl, hl⟩, hk⟩
  · refine ⟨⟨s.data.sendUnacknowledged + s.data.sendNextOffset + b32 s.data.sentFinToClient, now,
      r.lastTimeAcceptedAcknowledgement⟩, ⟨l, rfl, hl⟩, fun _ => rfl, hk.acked⟩

theorem Twin.flushSegments (h : Twin r s s') (hk : Known r s.data) (hs : s.data.state = .ESTABLISHED)
    (bound : U32) (now : Int) (turns : Nat) :
    ∃ r', Twin r' (s.flushSegments bound now turns) (s'.flushSegments bound now turns) ∧
      Known r' (s.flushSegments bound now turns).data := by
  have hack := hk.acked hs
  have hdue : St.resendDue s'.data now = St.resendDue s.data now := by
    obtain ⟨l, rfl, hl⟩ := h
    unfold St.resendDue Data.withResidue
    dsimp only
    rw [hack]
    rfl
  have hnew : St.newDataDue s'.data bound = St.newDataDue s.data bound := by
    obtain ⟨l, rfl, hl⟩ := h
    rfl
  have hd : s'.data.mss = s.data.mss ∧ s'.data.sendNextOffset = s.data.sendNextOffset ∧
      St.finNotAcknowledged s'.data = St.finNotAcknowledged s.data := by
    obtain ⟨l, rfl, hl⟩ := h
    exact ⟨rfl, rfl, rfl⟩
  obtain ⟨h1, h2, h3⟩ := hd
  unfold St.flushSegments
  dsimp only
  rw [hdue, hnew, h1, h2, h3]
  by_cases hc : St.resendDue s.data now = true
  · rw [if_pos hc, if_pos hc]
    exact ⟨r, h.sendData _ _ _ _ _ _, hk.sendData _ _ _ _ _ _⟩
  · rw [if_neg hc, if_neg hc]
    by_cases hn : St.newDataDue s.data bound = true
    · rw [if_pos hn, if_pos hn]
      have ht := h.sendData s.data.sendNextOffset s.data.mss false bound now (turns + 1)
      have hkt := hk.sendData s.data.sendNextOffset s.data.mss false bound now (turns + 1)
      rw [ht.hung]
      split_ifs
      · exact ⟨r, ht, hkt⟩
      · exact ht.trackRTT hkt now
    · rw [if_neg hn, if_neg hn]
      exact ⟨r, h, hk⟩

theorem Twin.flushRest (h : Twin r s s') (hk : Known r s.data) (bound : U32) (fin : Bool) (now : Int)
    (turns : Nat) : Twin r (s.flushRest bound fin now turns) (s'.flushRest bound fin now turns) ∧
      Known r (s.flushRest bound fin now turns).data := by
  have hd : s'.data.mss = s.data.mss ∧ s'.data.sendNextOffset = s.data.sendNextOffset ∧
      St.pushDue s'.data bound fin now = St.pushDue s.data bound fin now := by
    obtain ⟨l, rfl, hl⟩ := h
    exact ⟨rfl, rfl, rfl⟩
  obtain ⟨h1, h2, h3⟩ := hd
  unfold St.flushRest
  rw [h1, h2, h3]
  split_ifs
  · exact ⟨h.sendData _ _ _ _ _ _, hk.sendData _ _ _ _ _ _⟩
  · exact ⟨h, hk⟩

theorem Twin.probe (h : Twin r s s') (hk : Known r s.data) (now : Int) :
    Twin r (s.probe now) (s'.probe now) ∧ Known r (s.probe now).data := by
  obtain ⟨l, rfl, hl⟩ := h
  refine ⟨?_, ?_⟩
  · unfold St.probe
    exact .ite (fun _ => ⟨_, rfl, hl.snoc rfl⟩) (fun _ => ⟨l, rfl, hl⟩)
  · unfold St.probe
    split_ifs
    · exact hk.keep rfl rfl rfl
    · exact hk

theorem Twin.flush (h : Twin r s s') (hk : Known r s.data) (now : Int) (turns : Nat) :
    ∃ r', Twin r' (s.flushDataToClient now turns) (s'.flushDataToClient now turns) ∧
      Known r' (s.flushDataToClient now turns).data := by
  have hd : (s'.data.state ≠ .ESTABLISHED ∨ s'.data.flushToClientFinished = true ↔
      s.data.state ≠ .ESTABLISHED ∨ s.data.flushToClientFinished = true) ∧
      St.sendBound s'.data = St.sendBound s.data ∧ St.finNotSent s'.data = St.finNotSent s.data := by
    obtain ⟨l, rfl, hl⟩ := h
    exact ⟨Iff.rfl, rfl, rfl⟩
  obtain ⟨h1, h2, h3⟩ := hd
  unfold St.flushDataToClient
  dsimp only
  rw [h2, h3]
  by_cases hc : s.data.state ≠ .ESTABLISHED ∨ s.data.flushToClientFinished = true
  · rw [if_pos hc, if_pos (h1.mpr hc)]
    exact ⟨r, h, hk⟩
  · rw [if_neg hc, if_neg (fun h => hc (h1.mp h))]
    rw [not_or, not_not] at hc
    obtain ⟨r', h4, h5⟩ := h.flushSegments hk hc.1 (St.sendBound s.data) now turns
    obtain ⟨h6, h7⟩ := h4.flushRest h5 (St.sendBound s.data) (St.finNotSent s.data) now turns
    obtain ⟨h8, h9⟩ := h6.probe h7 now
    rw [h4.hung, h6.hung]
    split_ifs
    · exact ⟨r', h4, h5⟩
    · exact ⟨r', h6, h7⟩
    · exact ⟨r', h8, h9⟩

/-! ## the other calls -/

theorem Twin.read (h : Twin r s s') (hk : Known r s.data) (x : RecvResult) :
    Twin r (s.readFromServer x) (s'.readFromServer x) ∧ Known r (s.readFromServer x).data := by
  have hup : (s.readFromServer x).data.state = s.data.state ∧
      (s.readFromServer x).data.rttTracking = s.data.rttTracking ∧
      (s.readFromServer x).data.residue = s.data.residue := by
    unfold St.readFromServer
    cases x with
    | bytes bs =>
      dsimp only
      split_ifs <;> simp [Data.residue]
    | wouldBlock => exact ⟨rfl, rfl, rfl⟩
    | error => simp [Data.residue]
  refine ⟨?_, hk.keep hup.1 hup.2.1 hup.2.2⟩
  have hu := h.unsetFrom .receiveSet
  have ended : Twin r { s.unsetFrom .receiveSet with data.receiveFromServerFinished := true }
      { s'.unsetFrom .receiveSet with data.receiveFromServerFinished := true } := by
    obtain ⟨l, h1, hl⟩ := hu
    rw [h1]
    exact ⟨l, rfl, hl⟩
  have put : ∀ {t t' : St} (bs : List Byte), Twin r t t' →
      Twin r ({ t with data.sendBuffer := t.data.sendBuffer.put bs }.emit (.received bs))
        ({ t' with data.sendBuffer := t'.data.sendBuffer.put bs }.emit (.received bs)) := by
    rintro t t' bs ⟨l, rfl, hl⟩
    refine Twin.emit ?_ _
    exact ⟨l, rfl, hl⟩
  unfold St.readFromServer
  cases x with
  | bytes bs =>
    have hav : s'.data.sendBuffer.available = s.data.sendBuffer.available := by
      obtain ⟨l, rfl, _⟩ := h
      rfl
    dsimp only
    rw [hav]
    by_cases hz : (bs.take s.data.sendBuffer.available.toNat).length = 0
    · rw [if_pos hz, if_pos hz]
      exact put _ ended
    · rw [if_neg hz, if_neg hz]
      exact put _ h
  | wouldBlock => exact h
  | error => exact ended

theorem Twin.server (h : Twin r s s') (hk : Known r s.data) (x : RecvResult) (now : Int)
    (turns : Nat) :
    ∃ r', Twin r' (s.receiveFromServer x now turns) (s'.receiveFromServer x now turns) ∧
      Known r' (s.receiveFromServer x now turns).data := by
  have hd : (s'.data.state ≠ .ESTABLISHED ∨ s'.data.receiveFromServerFinished = true) ↔
      (s.data.state ≠ .ESTABLISHED ∨ s.data.receiveFromServerFinished = true) := by
    obtain ⟨l, rfl, hl⟩ := h
    exact Iff.rfl
  unfold St.receiveFromServer
  by_cases hc : s.data.state ≠ .ESTABLISHED ∨ s.data.receiveFromServerFinished = true
  · rw [if_pos hc, if_pos (hd.mpr hc)]
    exact ⟨r, h, hk⟩
  · rw [if_neg hc, if_neg (fun h => hc (hd.mp h))]
    obtain ⟨h1, h2⟩ := h.read hk x
    obtain ⟨r', h3, h4⟩ := h1.flush h2 now turns
    have hav : ((s'.readFromServer x).flushDataToClient now turns).data.sendBuffer.available =
        ((s.readFromServer x).flushDataToClient now turns).data.sendBuffer.available := by
      obtain ⟨l, h5, _⟩ := h3
      rw [h5]
      rfl
    have h6 := h3.unsetFrom .receiveSet
    dsimp only
    rw [h3.hung, hav]
    split_ifs
    · exact ⟨r', h3, h4⟩
    · exact ⟨r', h6, by rw [St.unsetFrom_data]; exact h4⟩
    · exact ⟨r', h3, h4⟩

theorem Twin.resetClient (h : Twin r s s') : Twin r s.resetClient s'.resetClient := by
  obtain ⟨l, rfl, hl⟩ := h
  unfold St.resetClient
  refine Twin.closeSession ?_
  exact ⟨_, rfl, hl.snoc rfl⟩

theorem Twin.finishConnect (h : Twin r s s') (lastError : Int) (now now' : Int) :
    Twin r (s.finishConnect lastError now now') (s'.finishConnect lastError now now') := by
  obtain ⟨l, rfl, hl⟩ := h
  unfold St.finishConnect
  refine .ite (fun _ => .ite (fun _ => ⟨l, rfl, hl⟩) (fun _ => Twin.unsetFrom ?_ _))
    (fun _ => Twin.closeSession ?_)
  · exact ⟨_, rfl, hl.snoc rfl⟩
  · exact ⟨_, rfl, hl.snoc rfl⟩

theorem Twin.finishSend (h : Twin r s s') (amt : U32) : Twin r (s.finishSend amt) (s'.finishSend amt) := by
  have hu := h.unsetFrom .sendSet
  have hd : s'.data.receiveBuffer.position = s.data.receiveBuffer.position ∧
      ((s'.unsetFrom .sendSet).data.receiveFromClientFinished = true ↔
        (s.unsetFrom .sendSet).data.receiveFromClientFinished = true) ∧
      ((s'.unsetFrom .sendSet).data.flushToClientFinished = true ↔
        (s.unsetFrom .sendSet).data.flushToClientFinished = true) := by
    simp only [St.unsetFrom_data]
    obtain ⟨l, rfl, _⟩ := h
    exact ⟨rfl, Iff.rfl, Iff.rfl⟩
  have compact : ∀ {t t' : St} (k : U32), Twin r t t' →
      Twin r { t with data.receiveBuffer := t.data.receiveBuffer.compact k }
        { t' with data.receiveBuffer := t'.data.receiveBuffer.compact k } := by
    rintro t t' k ⟨l, rfl, hl⟩
    exact ⟨l, rfl, hl⟩
  obtain ⟨h1, h2, h3⟩ := hd
  unfold St.finishSend
  dsimp only
  rw [h1]
  refine .ite (fun _ => .cond h2 (fun _ => .cond h3 (fun _ => hu.closeSession) (fun _ => ?_))
    (fun _ => ?_)) (fun _ => ?_)
  · obtain ⟨l, h4, hl⟩ := hu.emit .shutdownWrite
    rw [h4]
    exact ⟨l, rfl, hl⟩
  · exact compact (s.data.receiveBuffer.position - amt) hu
  · exact compact (s.data.receiveBuffer.position - amt) h

theorem Twin.toServer (h : Twin r s s') (lastError : Int) (x : SendResult) (now now' : Int) :
    Twin r (s.flushDataToServer lastError x now now') (s'.flushDataToServer lastError x now now') := by
  have hd : s'.data.state = s.data.state ∧ s'.data.flushToServerFinished = s.data.flushToServerFinished ∧
      s'.data.receiveBuffer = s.data.receiveBuffer := by
    obtain ⟨l, rfl, _⟩ := h
    exact ⟨rfl, rfl, rfl⟩
  obtain ⟨h1, h2, h3⟩ := hd
  unfold St.flushDataToServer
  rw [h1, h2]
  refine .ite (fun _ => h.finishConnect _ _ _) (fun _ => .ite (fun _ => h) (fun _ => ?_))
  have sent : ∀ n, Twin r
      ((s.emit (.sent (s.data.receiveBuffer.bytes.take n))).finishSend (BitVec.ofNat 32 n))
      ((s'.emit (.sent (s'.data.receiveBuffer.bytes.take n))).finishSend (BitVec.ofNat 32 n)) := by
    intro n
    rw [h3]
    exact (h.emit _).finishSend _
  have hcount : St.sendCount s'.data x = St.sendCount s.data x := by
    unfold St.sendCount
    rw [h3]
  unfold St.sendToServer
  cases x with
  | error => exact h.resetClient
  | accepted n =>
    dsimp only
    rw [hcount]
    exact sent _
  | wouldBlock =>
    dsimp only
    rw [hcount]
    exact sent _

theorem Twin.establish (h : Twin r s s') (i : ClientInput) :
    Twin { r with lastTimeAcceptedAcknowledgement := i.now } (s.establish i) (s'.establish i) := by
  obtain ⟨l, rfl, hl⟩ := h
  have established : ∀ {r' : Residue} {t t' : St}, Twin r' t t' →
      Twin r' { t with data.state := .ESTABLISHED } { t' with data.state := .ESTABLISHED } := by
    rintro r' t t' ⟨l, rfl, hl⟩
    exact ⟨l, rfl, hl⟩
  unfold St.establish
  refine established (Twin.setIn ?_ _)
  exact ⟨l, rfl, hl⟩

/-! ## one packet -/

/-- a session that is opened keeps the residue, and nothing else, of what the object was -/
theorem opened_residue {d d' : Data} (h : d'.rttHistory.length = d.rttHistory.length) (IP_MSS : U16)
    (p : Packet) (i : ClientInput) :
    St.opened d' IP_MSS p i = (St.opened d IP_MSS p i).withResidue d'.residue := by
  have hr : d'.rttHistory.map (fun _ => MIN_RTT * 5) = d.rttHistory.map fun _ => MIN_RTT * 5 := by
    rw [List.map_const', List.map_const', h]
  unfold St.opened Data.reset
  rw [hr]
  rfl

/-- two objects that a packet opens -/
theorem twin_opened (hshared : s'.shared = s.shared) (hpacket : s'.packet = s.packet)
    (hhung : s'.hung = s.hung) (hseen : Same s.log s'.log)
    (hlength : s'.data.rttHistory.length = s.data.rttHistory.length) (IP_MSS : U16) (i : ClientInput)
    (res : Int) :
    Twin s'.data.residue (s.openConnected IP_MSS i res) (s'.openConnected IP_MSS i res) ∧
      Known s'.data.residue (s.openConnected IP_MSS i res).data := by
  have h1 : Twin s'.data.residue { s with data := St.opened s.data IP_MSS s.packet i }
      { s' with data := St.opened s'.data IP_MSS s'.packet i } := by
    refine ⟨s'.log, ?_, hseen⟩
    rw [opened_residue hlength, hshared, hpacket, hhung]
  have h2 := h1.setIn .errorSet
  refine ⟨?_, ?_⟩
  · unfold St.openConnected
    refine .ite (fun _ => ?_) (fun _ => Twin.setIn ?_ _)
    · have answered : ∀ {r' : Residue} {t t' : St}, Twin r' t t' →
          Twin r' { { t with data.lastTimeSentNewData := i.now }.sendSynAck with
              data.state := .SYN_ACK_SENT }
            { { t' with data.lastTimeSentNewData := i.now }.sendSynAck with
              data.state := .SYN_ACK_SENT } := by
        rintro r' t t' ⟨l, rfl, hl⟩
        exact ⟨_, rfl, hl.snoc rfl⟩
      exact answered h2
    · obtain ⟨l, h3, hl⟩ := h2
      dsimp only at h3 ⊢
      rw [h3]
      exact ⟨l, rfl, hl⟩
  · have fresh : ∀ {d : Data}, d.rttTracking = false → d.state ≠ .ESTABLISHED →
        Known s'.data.residue d :=
      fun ht hs => ⟨fun hc => absurd (ht.symm.trans hc) (by decide), fun hc => absurd hc hs⟩
    unfold St.openConnected
    dsimp only
    split_ifs
    · exact fresh (by simp [St.sendSynAck, St.opened, Data.reset]) States.noConfusion
    · rw [St.setIn_data]
      exact fresh (by simp [St.opened, Data.reset]) States.noConfusion

/-- an answer writes no residue -/
theorem Known.reply (h : Known r s.data) (ht : ReplyStep s t) : Known r t.data := by
  rw [ht.data]
  exact h

theorem Known.close (h : Known r s.data) : Known r s.closeSession.data := by
  rw [St.closeSession_data]
  exact ⟨h.tracks, States.noConfusion⟩

theorem Known.toServer (h : Known r s.data) (lastError : Int) (x : SendResult) (now now' : Int) :
    Known r (s.flushDataToServer lastError x now now').data := by
  unfold St.flushDataToServer
  split_ifs
  · unfold St.finishConnect
    dsimp only
    split_ifs
    · exact h
    · rw [St.unsetFrom_data]
      exact ⟨h.tracks, States.noConfusion⟩
    · exact Known.close h
  · exact h
  · unfold St.sendToServer
    split
    · exact Known.close h
    · unfold St.finishSend
      dsimp only
      split_ifs
      · refine Known.close ?_
        rw [St.unsetFrom_data]
        exact h
      · simp only [St.emit_data, St.unsetFrom_data]
        exact h.keep rfl rfl rfl
      · simp only [St.emit_data, St.unsetFrom_data]
        exact h.keep rfl rfl rfl
      · exact h.keep rfl rfl rfl

theorem Twin.receiveSyn (h : Twin r s s') (hk : Known r s.data) (IP_MSS : U16) (i : ClientInput) :
    ∃ r', Twin r' (s.receiveSyn IP_MSS i) (s'.receiveSyn IP_MSS i) ∧
      Known r' (s.receiveSyn IP_MSS i).data := by
  have hp := h.packet
  have reset : ∃ r', Twin r' s.sendReset s'.sendReset ∧ Known r' s.sendReset.data :=
    ⟨r, h.sendReset, hk.reply (sendReset_reply s)⟩
  have hseq : s'.data.receiveSent = s.data.receiveSent := by
    obtain ⟨l, rfl, _⟩ := h
    rfl
  unfold St.receiveSyn
  rw [h.state]
  cases s.data.state with
  | CLOSED =>
    unfold St.openSession
    dsimp only
    cases i.connect with
    | thrown => exact reset
    | returned res =>
      dsimp only
      rw [hp]
      split_ifs
      · exact reset
      · have hd : s'.shared = s.shared ∧ s'.data.rttHistory = s.data.rttHistory := by
          obtain ⟨l, rfl, _⟩ := h
          exact ⟨rfl, rfl⟩
        exact ⟨_, twin_opened hd.1 hp h.hung h.seen (by rw [hd.2]) IP_MSS i res⟩
  | SYN_RECEIVED =>
    dsimp only
    rw [hp, hseq]
    split_ifs
    · exact reset
    · exact ⟨r, h, hk⟩
  | SYN_ACK_SENT =>
    dsimp only
    rw [hp, hseq]
    split_ifs
    · exact reset
    · refine ⟨r, ?_, hk.tracks, States.noConfusion⟩
      obtain ⟨l, h1, hl⟩ := h.sendSynAck
      rw [h1]
      exact ⟨l, rfl, hl⟩
  | ESTABLISHED => exact ⟨r, h.sendAck, hk.reply (sendAck_reply s)⟩

theorem Twin.receiveAck (h : Twin r s s') (hk : Known r s.data) (i : ClientInput) :
    ∃ r', Twin r' (s.receiveAck i) (s'.receiveAck i) ∧ Known r' (s.receiveAck i).data := by
  have hp := h.packet
  have hd : s'.data.receiveSent = s.data.receiveSent ∧
      s'.data.sendUnacknowledged = s.data.sendUnacknowledged ∧
      St.inOrder s'.data s.packet = St.inOrder s.data s.packet ∧
      St.ackInRange s'.data s.packet = St.ackInRange s.data s.packet := by
    obtain ⟨l, rfl, _⟩ := h
    exact ⟨rfl, rfl, rfl, rfl⟩
  obtain ⟨h1, h2, h3, h4⟩ := hd
  unfold St.receiveAck
  rw [h.state]
  cases hs : s.data.state with
  | CLOSED => exact ⟨r, h.sendReset, hk.reply (sendReset_reply s)⟩
  | SYN_RECEIVED => exact ⟨r, h.sendReset, hk.reply (sendReset_reply s)⟩
  | SYN_ACK_SENT =>
    dsimp only
    rw [hp, h1, h2]
    split_ifs
    · exact ⟨r, h.sendReset, hk.reply (sendReset_reply s)⟩
    · refine ⟨_, h.establish i, ?_, ?_⟩
      · unfold St.establish
        simp only [St.setIn_data]
        exact hk.tracks
      · unfold St.establish
        simp only [St.setIn_data]
        exact fun _ => trivial
  | ESTABLISHED =>
    dsimp only
    rw [hp, h3, h4]
    split_ifs
    · obtain ⟨r', h5, h6, h7⟩ := h.acceptSegment hk.tracks i (hk.acked hs)
      exact ⟨r', h5, h6, fun _ => h7⟩
    · exact ⟨r, h.sendAck, hk.reply (sendAck_reply s)⟩
    · exact ⟨r, h.sendAck, hk.reply (sendAck_reply s)⟩

theorem Twin.handlePacket (h : Twin r s s') (hk : Known r s.data) (IP_MSS : U16) (i : ClientInput) :
    ∃ r', Twin r' (s.handlePacket IP_MSS i) (s'.handlePacket IP_MSS i) ∧
      Known r' (s.handlePacket IP_MSS i).data := by
  have hp := h.packet
  have reset : ∃ r', Twin r' s.sendReset s'.sendReset ∧ Known r' s.sendReset.data :=
    ⟨r, h.sendReset, hk.reply (sendReset_reply s)⟩
  have hwin : St.resetInWindow s'.data s.packet = St.resetInWindow s.data s.packet := by
    obtain ⟨l, rfl, _⟩ := h
    rfl
  unfold St.handlePacket St.receiveReset
  rw [hp, hwin, h.state]
  split_ifs
  · exact reset
  · exact h.receiveSyn hk IP_MSS i
  · exact ⟨r, h.closeSession, hk.close⟩
  · exact ⟨r, h, hk⟩
  · exact ⟨r, h, hk⟩
  · exact h.receiveAck hk i
  · exact reset

/-! ## all calls -/

/-- Two closed objects, whatever they were used for. -/
structure BothClosed (s s' : St) : Prop where
  state : s.data.state = .CLOSED
  state' : s'.data.state = .CLOSED
  socket : s.data.socket = none
  socket' : s'.data.socket = none
  rttHistory : s'.data.rttHistory.length = s.data.rttHistory.length
  shared : s'.shared = s.shared
  packet : s'.packet = s.packet
  hung : s'.hung = s.hung
  seen : Same s.log s'.log

/-- two objects of which the world saw the same -/
inductive Alike (s s' : St) : Prop where
  | closed (h : BothClosed s s')
  | twin (r : Residue) (h : Twin r s s') (hk : Known r s.data)

/-- The time limit that `checkStatus` sets for an acknowledgement. -/
def acknowledgeLimit (d : Data) : Int :=
  if d.flushToClientFinished then NO_PROBING_TIMEOUT
  else ms (d.getIntervalToNextProbe + d.getMeanRTT * 2)

/-- Where a call reads what an earlier connection left, it finds the same in both objects: a check in
`SYN_ACK_SENT` that has not timed out yet compares the time of the last acknowledgement, and
`onSocketError` of a closed object writes its ends and its numbers. -/
def SameTests (w : St × St) : Op → Prop
  | .checkStatus now now' => w.1.data.state = .SYN_ACK_SENT →
      now - w.1.data.lastTimeSentNewData ≤ SYN_TIMEOUT →
      (now' - w.2.data.lastTimeAcceptedAcknowledgement > acknowledgeLimit w.2.data ↔
        now' - w.1.data.lastTimeAcceptedAcknowledgement > acknowledgeLimit w.1.data)
  | .onSocketError => w.1.data.state = .CLOSED →
      w.2.data.clientAddress = w.1.data.clientAddress ∧
      w.2.data.serverAddress = w.1.data.serverAddress ∧
      w.2.data.sendUnacknowledged + w.2.data.sendNextOffset =
        w.1.data.sendUnacknowledged + w.1.data.sendNextOffset
  | _ => True

instance (w : St × St) : ∀ op, Decidable (SameTests w op)
  | .checkStatus _ _ => inferInstanceAs (Decidable (_ → _ → (_ ↔ _)))
  | .onSocketError => inferInstanceAs (Decidable (_ → _ ∧ _ ∧ _))
  | .receiveFromClient _ _ => .isTrue trivial
  | .receiveFromServer _ _ _ => .isTrue trivial
  | .flushDataToServer _ _ _ _ => .isTrue trivial
  | .flushDataToClient _ _ => .isTrue trivial
  | .closeSession => .isTrue trivial

theorem BothClosed.close (h : BothClosed s s') : BothClosed s.closeSession s'.closeSession := by
  have silent : ∀ {t : St} (k : FdSets), t.data.socket = none → t.unsetFrom k = t := by
    intro t k ht
    unfold St.unsetFrom
    rw [ht]
  have closed : ∀ {t : St}, t.data.socket = none → t.closeSession.shared = t.shared := by
    intro t ht
    unfold St.closeSession
    rw [silent _ ht, silent _ ht, silent _ ht]
    rfl
  refine ⟨by rw [St.closeSession_data], by rw [St.closeSession_data], by rw [St.closeSession_data],
    by rw [St.closeSession_data], ?_, ?_, ?_, ?_, ?_⟩
  · rw [St.closeSession_data, St.closeSession_data]
    exact h.rttHistory
  · rw [closed h.socket, closed h.socket', h.shared]
  · rw [St.closeSession_packet, St.closeSession_packet, h.packet]
  · rw [St.closeSession_hung, St.closeSession_hung, h.hung]
  · rw [St.closeSession_log, St.closeSession_log]
    exact h.seen.snoc rfl

theorem BothClosed.sendBack (h : BothClosed s s') (p : Packet) :
    BothClosed (s.sendBack p) (s'.sendBack p) :=
  ⟨h.state, h.state', h.socket, h.socket', h.rttHistory, h.shared, rfl, h.hung, h.seen.snoc rfl⟩

theorem BothClosed.sendReset (h : BothClosed s s') : BothClosed s.sendReset s'.sendReset := by
  have hp := h.packet
  unfold St.sendReset
  dsimp only
  rw [hp]
  split_ifs
  · exact h.sendBack _
  · exact h.sendBack _

/-- a packet for two closed objects is refused by both, or opens both -/
theorem BothClosed.handlePacket (h : BothClosed s s') (IP_MSS : U16) (i : ClientInput) :
    Alike (s.handlePacket IP_MSS i) (s'.handlePacket IP_MSS i) := by
  have hp := h.packet
  have reset : Alike s.sendReset s'.sendReset := .closed h.sendReset
  unfold St.handlePacket
  rw [hp]
  split_ifs
  · exact reset
  · unfold St.receiveSyn St.openSession
    rw [h.state, h.state']
    dsimp only
    cases i.connect with
    | thrown => exact reset
    | returned res =>
      dsimp only
      rw [hp]
      split_ifs
      · exact reset
      · obtain ⟨h1, h2⟩ := twin_opened h.shared hp h.hung h.seen h.rttHistory IP_MSS i res
        exact .twin _ h1 h2
  · unfold St.receiveReset
    rw [if_neg (not_not.mpr h.state), if_neg (not_not.mpr h.state')]
    exact .closed h
  · unfold St.receiveAck
    rw [h.state, h.state']
    exact reset
  · exact reset

/-- the check that an established session undergoes -/
theorem Twin.checkAcknowledged (h : Twin r s s') (hk : Known r s.data) (now : Int)
    (hsame : now - s'.data.lastTimeAcceptedAcknowledgement > acknowledgeLimit s'.data ↔
      now - s.data.lastTimeAcceptedAcknowledgement > acknowledgeLimit s.data) :
    Twin r (s.checkAcknowledged now).2 (s'.checkAcknowledged now).2 ∧
      Known r (s.checkAcknowledged now).2.data := by
  have e : ∀ t : St, (t.checkAcknowledged now).2 =
      if now - t.data.lastTimeAcceptedAcknowledgement > acknowledgeLimit t.data then t.closeSession
      else t := by
    intro t
    unfold St.checkAcknowledged acknowledgeLimit
    dsimp only
    generalize (if t.data.flushToClientFinished = true then NO_PROBING_TIMEOUT
      else ms (t.data.getIntervalToNextProbe + t.data.getMeanRTT * 2)) = limit
    split_ifs <;> rfl
  rw [e s, e s']
  refine ⟨.cond hsame (fun _ => h.closeSession) (fun _ => h), ?_⟩
  split_ifs
  · exact hk.close
  · exact hk

theorem Twin.checkStatus (h : Twin r s s') (hk : Known r s.data) (now now' : Int)
    (hsame : SameTests (s, s') (.checkStatus now now')) :
    Twin r (s.checkStatus now now').2 (s'.checkStatus now now').2 ∧
      Known r (s.checkStatus now now').2.data := by
  have hsent : s'.data.lastTimeSentNewData = s.data.lastTimeSentNewData := by
    obtain ⟨l, rfl, _⟩ := h
    rfl
  unfold St.checkStatus
  rw [h.state]
  cases hs : s.data.state with
  | CLOSED => exact ⟨h, hk⟩
  | SYN_RECEIVED => exact ⟨h, hk⟩
  | SYN_ACK_SENT =>
    dsimp only
    rw [hsent]
    split_ifs with hlate
    · exact ⟨h.closeSession, hk.close⟩
    · exact h.checkAcknowledged hk now' (hsame hs (not_lt.mp hlate))
  | ESTABLISHED =>
    refine h.checkAcknowledged hk now' ?_
    have hack := hk.acked hs
    obtain ⟨l, rfl, _⟩ := h
    have e : (s.data.withResidue r).lastTimeAcceptedAcknowledgement =
        s.data.lastTimeAcceptedAcknowledgement := hack
    rw [e]
    rfl

/-- **One call** leaves two alike objects alike. -/
theorem Alike.call {IP_MSS : U16} (h : Alike s s') (op : Op) (hsame : SameTests (s, s') op) :
    Alike (step IP_MSS s op) (step IP_MSS s' op) := by
  have hhung : s'.hung = s.hung := by
    cases h with
    | closed h => exact h.hung
    | twin r h hk => exact h.hung
  unfold step
  rw [hhung]
  split_ifs
  · exact h
  cases h with
  | closed h =>
    cases op with
    | receiveFromClient p i =>
      have hcan : canHandle s.data p.val = true ∧ canHandle s'.data p.val = true :=
        ⟨(canHandle_iff _ _).mpr (.inl h.state), (canHandle_iff _ _).mpr (.inl h.state')⟩
      have h1 : BothClosed { s with packet := p.val } { s' with packet := p.val } :=
        ⟨h.state, h.state', h.socket, h.socket', h.rttHistory, h.shared, rfl, h.hung, h.seen⟩
      have hpk := h.packet
      dsimp only
      unfold receiveFromClient
      rw [if_pos hcan.1, if_pos hcan.2]
      dsimp only
      rw [hpk]
      cases h1.handlePacket IP_MSS i with
      | closed h2 => exact .closed ⟨h2.state, h2.state', h2.socket, h2.socket', h2.rttHistory,
          h2.shared, rfl, h2.hung, h2.seen⟩
      | twin r h2 hk => exact .twin r (h2.setPacket _) hk
    | receiveFromServer x now turns =>
      have hs : s.data.state ≠ .ESTABLISHED := by rw [h.state]; exact States.noConfusion
      have hs' : s'.data.state ≠ .ESTABLISHED := by rw [h.state']; exact States.noConfusion
      dsimp only
      rw [receiveFromServer_skip (fun hc => hs hc.1), receiveFromServer_skip (fun hc => hs' hc.1)]
      exact .closed h
    | flushDataToServer lastError x now now' =>
      dsimp only
      unfold St.flushDataToServer
      rw [h.state, h.state']
      exact .closed h
    | flushDataToClient now turns =>
      dsimp only
      unfold St.flushDataToClient
      rw [h.state, h.state']
      exact .closed h
    | onSocketError =>
      obtain ⟨h1, h2, h3⟩ := hsame h.state
      have hp := h.packet
      dsimp only at h1 h2 h3 ⊢
      unfold St.onSocketError St.resetClient St.setEnds
      rw [h1, h2, h3, hp]
      exact .closed (h.sendBack _).close
    | checkStatus now now' =>
      dsimp only
      unfold St.checkStatus
      rw [h.state, h.state']
      exact .closed h
    | closeSession => exact .closed h.close
  | twin r h hk =>
    cases op with
    | receiveFromClient p i =>
      have hcan : canHandle s'.data p.val = canHandle s.data p.val := by
        obtain ⟨l, rfl, _⟩ := h
        rfl
      dsimp only
      unfold receiveFromClient
      rw [hcan]
      split_ifs
      · obtain ⟨r', h1, h2⟩ := (h.setPacket p.val).handlePacket hk IP_MSS i
        dsimp only
        rw [h.packet]
        exact .twin r' (h1.setPacket _) h2
      · exact .twin r h hk
    | receiveFromServer x now turns =>
      obtain ⟨r', h1, h2⟩ := h.server hk x now turns
      exact .twin r' h1 h2
    | flushDataToServer lastError x now now' =>
      exact .twin r (h.toServer lastError x now now') (hk.toServer lastError x now now')
    | flushDataToClient now turns =>
      obtain ⟨r', h1, h2⟩ := h.flush hk now turns
      exact .twin r' h1 h2
    | onSocketError => exact .twin r h.resetClient (Known.close (s := s.sendBack _) hk)
    | checkStatus now now' =>
      obtain ⟨h1, h2⟩ := h.checkStatus hk now now' hsame
      exact .twin r h1 h2
    | closeSession => exact .twin r h.closeSession hk.close

end

/-! ## two runs -/

section
variable {IP_MSS : U16} {s0 s0' : St} {past past' : List Op}

/-- a closed object that calls leave has no socket -/
theorem closed_socket_reached (h0 : s0.data = .init IP_MSS)
    (hclosed : (run (step IP_MSS) s0 past).data.state = .CLOSED) :
    (run (step IP_MSS) s0 past).data.socket = none := by
  refine run_inv (fun s : St => s.data.state = .CLOSED → s.data.socket = none)
    (fun s op hs _ => (step_sets IP_MSS s op).closed_socket hs) ?_
    (along_true (step IP_MSS) s0 past) hclosed
  intro _
  rw [h0]
  rfl

/-- **No residue.**  Take two session objects that are closed after whatever calls, none at all
among them, and make the same calls to both from then on, with the same packets, clock and answers.  If
the calls that read a residue find the same in both, the world sees the same of both, and their states
are the same. -/
theorem no_residue (h0 : s0.data = .init IP_MSS) (h0' : s0'.data = .init IP_MSS)
    (hclosed : (run (step IP_MSS) s0 past).data.state = .CLOSED)
    (hclosed' : (run (step IP_MSS) s0' past').data.state = .CLOSED)
    (shared : Shared) (packet : Packet) {ops : List Op} :
    let s : St := ⟨(run (step IP_MSS) s0 past).data, shared, packet, [], false⟩
    let s' : St := ⟨(run (step IP_MSS) s0' past').data, shared, packet, [], false⟩
    Along (both (step IP_MSS)) SameTests (s, s') ops →
    let t := run (step IP_MSS) s ops
    let t' := run (step IP_MSS) s' ops
    t'.data.state = t.data.state ∧ t'.hung = t.hung ∧ Same t.log t'.log := by
  intro s s' hops t t'
  have hlength : s'.data.rttHistory.length = s.data.rttHistory.length :=
    (timed_reached h0' past').length.trans (timed_reached h0 past).length.symm
  have hstart : BothClosed s s' := ⟨hclosed, hclosed', closed_socket_reached h0 hclosed,
    closed_socket_reached h0' hclosed', hlength, rfl, rfl, rfl, rfl⟩
  have halike : Alike t t' := by
    have h1 := run_inv (fun w : St × St => Alike w.1 w.2) (fun w op h hok => h.call op hok)
      (.closed hstart) hops
    rw [run_both] at h1
    exact h1
  cases halike with
  | closed h => exact ⟨h.state'.trans h.state.symm, h.hung, h.seen⟩
  | twin r h hk => exact ⟨h.state, h.hung, h.seen⟩

end

/-- the clock a hundred seconds later -/
def later : ClientInput := ⟨5, .returned 0, 1000, 100000000000, 100000000000⟩

/-- a connection that was established, and closed -/
def usedBefore : List Op :=
  [.receiveFromClient (synPacket clientA serverA 100 1000) later,
   .receiveFromClient (ackPacket clientA serverA 101 1000 1000) later, .closeSession]

theorem no_residue_established :
    let s : St := ⟨(unused 1).data, unwatched, (unused 1).packet, [], false⟩
    let s' : St := ⟨(run (step 1) (unused 1) usedBefore).data, unwatched, (unused 1).packet, [], false⟩
    let ops := usedBefore.take 2 ++
      [.receiveFromServer (.bytes [97, 98]) 100000000000 2, .checkStatus 101000000000 101000000000]
    let t := run (step 1) s ops
    let t' := run (step 1) s' ops
    t'.data.state = t.data.state ∧ t'.hung = t.hung ∧ Same t.log t'.log :=
  @no_residue 1 (unused 1) (unused 1) [] usedBefore rfl rfl rfl (by decide) unwatched (unused 1).packet _
    (by decide)

/-- A fresh object and a used one wait for the client's ACK; the first check closes the fresh one,
which was never acknowledged anything. -/
theorem residue :
    ¬ ∀ (IP_MSS : U16) (s0 s0' : St) (past past' : List Op), s0.data = .init IP_MSS →
      s0'.data = .init IP_MSS →
      (run (step IP_MSS) s0 past).data.state = .CLOSED →
      (run (step IP_MSS) s0' past').data.state = .CLOSED →
      ∀ (shared : Shared) (packet : Packet) (p : Incoming) (i : ClientInput) (ops : List Op),
      let s : St := ⟨(run (step IP_MSS) s0 past).data, shared, packet, [], false⟩
      let s' : St := ⟨(run (step IP_MSS) s0' past').data, shared, packet, [], false⟩
      p.val.isSyn = true →
      (run (step IP_MSS) s' (.receiveFromClient p i :: ops)).data.state =
        (run (step IP_MSS) s (.receiveFromClient p i :: ops)).data.state := by
  intro h
  have h1 := h 1 (unused 1) (unused 1) [] usedBefore rfl rfl rfl (by decide) unwatched
    (unused 1).packet (synPacket clientA serverA 100 1000) later
    [.checkStatus 100100000000 100100000000] rfl
  revert h1
  decide

end TunServer.Sessions2
