import TunServer.Sessions2.Segments
import TunServer.Sessions2.Isolation

/-!
# Retransmission

What is in flight is sent again by the run of `sendDataStartingFrom` from offset 0.  Its condition
`sendNextOffset || finNotAcknowledged && now - … > …` groups to the right: with anything in flight
the run is made at any time.  And while the server's stream goes on it does not push, so that it
sends nothing unless more than one segment lies below the bound.

* `sentSince`            the segments that a call adds to the log;
* `Resends`              the condition under which the run from offset 0 sends a segment;
* `flush_resends`        then the first segment carries the first unacknowledged bytes;
* `flush_stays_ahead`    otherwise nothing below `sendNextOffset` is sent;
* `resent_iff`, `resend_timed_iff`   both for every state that calls reach.
-/

set_option linter.unusedVariables false

namespace TunServer.Sessions2

/-- the segments that were sent between two states of one session -/
def sentSince (s s' : St) : List Packet := (segments s'.log).drop (segments s.log).length

theorem sentSince_eq {s s' : St} {ps : List Packet} (h : segments s'.log = segments s.log ++ ps) :
    sentSince s s' = ps := by
  unfold sentSince
  rw [h, List.drop_left]

theorem Adds.segments {P : Event → Prop} {l l' : List Event} (h : Adds P l l') :
    ∃ ps, segments l' = segments l ++ ps := by
  obtain ⟨es, rfl, _⟩ := h
  exact ⟨_, segments_append l es⟩

/-- the offset of a segment's first byte in the send buffer -/
def sendOffset (d : Data) (p : Packet) : Nat := (p.getSequenceNumber - d.sendUnacknowledged).toNat

/-- the segment carries the byte at the offset `a` of the send buffer -/
def CarriesAt (d : Data) (p : Packet) (a : Nat) : Prop :=
  sendOffset d p ≤ a ∧ a < sendOffset d p + p.payload.length

instance (d : Data) (p : Packet) (a : Nat) : Decidable (CarriesAt d p a) :=
  inferInstanceAs (Decidable (_ ∧ _))

/-- a data segment that begins with the first unacknowledged byte -/
def CarriesFirst (d : Data) (p : Packet) : Prop :=
  p.getSequenceNumber = d.sendUnacknowledged ∧ p.payload ≠ [] ∧ p.payload <+: d.sendBuffer.bytes

instance (d : Data) (p : Packet) : Decidable (CarriesFirst d p) :=
  inferInstanceAs (Decidable (_ ∧ _ ∧ _))

theorem CarriesFirst.carriesAt {d : Data} {p : Packet} (h : CarriesFirst d p) : CarriesAt d p 0 := by
  obtain ⟨h1, h2, _⟩ := h
  have h3 : sendOffset d p = 0 := by
    unfold sendOffset
    rw [h1, BitVec.sub_self]
    rfl
  have h4 := List.length_pos_of_ne_nil h2
  unfold CarriesAt
  omega

/-- the run from offset 0 pushes, or more than one segment lies below the bound -/
def Resends (d : Data) : Prop :=
  d.receiveFromServerFinished = true ∨
    d.mss.toNat < min d.sendWindowRightEdge.toNat d.sendBuffer.bytes.length

instance (d : Data) : Decidable (Resends d) := inferInstanceAs (Decidable (_ ∨ _))

/-- the timer of the retransmission has run out -/
def TimedOut (d : Data) (now : Int) : Prop :=
  now - d.lastTimeAcceptedAcknowledgement > ms (d.getMeanRTT.tdiv 5)

instance (d : Data) (now : Int) : Decidable (TimedOut d now) := inferInstanceAs (Decidable (_ > _))

/-! ## slices -/

section
variable {d : Data} {ended : Bool} {mss bound off off' : Nat} {ps : List Packet}

/-- no slice begins before the first one -/
theorem Sliced.offset (h : Sliced d.sendBuffer.bytes d.sendUnacknowledged ended mss bound off ps off')
    (hb : bound < 2 ^ 32) : ∀ p ∈ ps, off ≤ sendOffset d p := by
  generalize hbytes : d.sendBuffer.bytes = bytes at h
  generalize huna : d.sendUnacknowledged = una at h
  induction h with
  | nil off => exact fun p hp => absurd hp List.not_mem_nil
  | @cons off off' amt p ps hp length le within seq fin rest ih =>
    intro q hq
    rcases List.mem_cons.mp hq with rfl | hq
    · unfold sendOffset
      have h1 : una + BitVec.ofNat 32 off - una = BitVec.ofNat 32 off := by bv_omega
      rw [seq, huna, h1, BitVec.toNat_ofNat, Nat.mod_eq_of_lt (by omega)]
    · exact le_trans (Nat.le_add_right _ _) (ih q hq)

theorem Sliced.length_le {bytes : List Byte} {una : U32}
    (h : Sliced bytes una ended mss bound off ps off') : ∀ p ∈ ps, p.payload.length ≤ bound := by
  induction h with
  | nil off => exact fun p hp => absurd hp List.not_mem_nil
  | cons payload length le within seq fin rest ih =>
    intro q hq
    rcases List.mem_cons.mp hq with rfl | hq
    · omega
    · exact ih q hq

end

/-! ## the blocks of `flushDataToClient` -/

section
variable {t : St} {now : Int}

theorem resendDue_inFlight {d : Data} (h : d.sendNextOffset ≠ 0) : St.resendDue d now = true := by
  unfold St.resendDue
  exact decide_eq_true (.inl h)

theorem sendMore_resend {d : Data} (hf : d.flushToClientFinished = false) :
    St.sendMore d d.mss (St.finNotAcknowledged d) (St.sendBound d) 0 = true ↔ Resends d := by
  have hpos := d.sendBuffer.fits
  have hb := sendBound_toNat d
  have hpush : St.finNotAcknowledged d = d.receiveFromServerFinished := by
    unfold St.finNotAcknowledged
    rw [hf]
    cases d.receiveFromServerFinished <;> rfl
  unfold BUFFER_SIZE at hpos
  unfold Resends
  rw [sendMore_iff (by omega) (by decide), hpush, hb]
  cases d.receiveFromServerFinished
  · simp
  · simp

/-- the first segment of the first block -/
theorem sendData_first {mss : U16} {push : Bool} (hmss : 0 < mss.toNat)
    (hmore : St.sendMore t.data mss push (St.sendBound t.data) 0 = true)
    (hbound : 0 < (St.sendBound t.data).toNat) (turns : Nat) :
    ∃ p ps, segments (t.sendDataStartingFrom 0 mss push (St.sendBound t.data) now (turns + 1)).log =
      segments t.log ++ p :: ps ∧ CarriesFirst t.data p := by
  obtain ⟨ack, he⟩ := sendDataStartingFrom_eq t 0 mss push (St.sendBound t.data) now (turns + 1)
  let u : St := { t with packet := t.packet.setWindow t.data.receiveBuffer.available }
  obtain ⟨p, h1, h2, h3, h4, _⟩ := @sendSegment_slice u mss (St.sendBound t.data) ack 0
    (sendBound_le t.data) (by bv_omega)
  obtain ⟨ps, h5⟩ := Adds.segments (sendLoop_flush mss push (St.sendBound t.data) ack turns
    (0 + St.sendAmount mss (St.sendBound t.data) 0) (u.sendSegment mss (St.sendBound t.data) ack 0)).log
  have hamt : (St.sendAmount mss (St.sendBound t.data) 0).toNat =
      min mss.toNat ((St.sendBound t.data).toNat - 0) := sendAmount_toNat (by bv_omega)
  refine ⟨p, ps, ?_, ?_, ?_, ?_⟩
  · have hlog : (t.sendDataStartingFrom 0 mss push (St.sendBound t.data) now (turns + 1)).log =
        (St.sendLoop mss push (St.sendBound t.data) ack (turns + 1) 0 u).2.log := by
      rw [he]
      split_ifs
      · rfl
      · rw [sentUpTo_log]
    rw [hlog, St.sendLoop, if_pos hmore, h5, h1, List.append_assoc]
    rfl
  · rw [h4]
    exact BitVec.add_zero _
  · intro hc
    rw [hc, hamt] at h3
    change 0 = _ at h3
    omega
  · rw [h2]
    exact List.take_prefix _ _

/-- **With more than a segment in flight, or the stream at its end, the first unacknowledged bytes
are sent again.** -/
theorem flush_resends (hs : t.data.state = .ESTABLISHED) (hf : t.data.flushToClientFinished = false)
    (hmss : 0 < t.data.mss.toNat) (hnext : t.data.sendNextOffset ≠ 0)
    (hbound : 0 < (St.sendBound t.data).toNat) (h : Resends t.data) (turns : Nat) :
    ∃ p ∈ sentSince t (t.flushDataToClient now turns), CarriesFirst t.data p := by
  obtain ⟨p, ps, h1, h2⟩ := @sendData_first t now _ _ hmss ((sendMore_resend hf).mpr h) hbound turns
  have h3 : t.flushSegments (St.sendBound t.data) now turns = t.sendDataStartingFrom 0 t.data.mss
      (St.finNotAcknowledged t.data) (St.sendBound t.data) now (turns + 1) := by
    unfold St.flushSegments
    rw [if_pos (resendDue_inFlight hnext)]
  have h4 : ∃ qs, segments (t.flushDataToClient now turns).log =
      segments (t.flushSegments (St.sendBound t.data) now turns).log ++ qs := by
    rw [flushDataToClient_blocks hs hf]
    dsimp only
    generalize t.flushSegments (St.sendBound t.data) now turns = u
    have h5 := flushRest_flush u (St.sendBound t.data) (St.finNotSent t.data) now turns
    split_ifs
    · exact ⟨[], (List.append_nil _).symm⟩
    · exact Adds.segments h5.log
    · exact Adds.segments (h5.trans (probe_flush _ now)).log
  obtain ⟨qs, h5⟩ := h4
  rw [h3, h1, List.append_assoc] at h5
  refine ⟨p, ?_, h2⟩
  rw [sentSince_eq h5]
  exact List.mem_append_left _ List.mem_cons_self

/-- the segment carries nothing that lies below `sendNextOffset` -/
def Ahead (d : Data) (p : Packet) : Prop := p.payload = [] ∨ d.sendNextOffset.toNat ≤ sendOffset d p

theorem Ahead.not_carriesAt {d : Data} {p : Packet} (h : Ahead d p) {a : Nat} (hc : CarriesAt d p a) :
    d.sendNextOffset.toNat ≤ a := by
  obtain ⟨h1, h2⟩ := hc
  rcases h with h | h
  · rw [h] at h2
    exact absurd h2 (not_lt.mpr h1)
  · exact le_trans h h1

/-- the second block sends from `sendNextOffset` on -/
theorem flushRest_ahead (hm : Marks t.data) (hh : t.hung = false) (fin : Bool) (turns : Nat) :
    ∃ ps, segments (t.flushRest (St.sendBound t.data) fin now turns).log = segments t.log ++ ps ∧
      ∀ p ∈ ps, Ahead t.data p := by
  unfold St.flushRest
  split_ifs
  · obtain ⟨ps, last, h1, h2, _⟩ := @sendData_sliced t now _ true hh hm.next t.data.mss (turns + 1)
    have hpos := t.data.sendBuffer.fits
    unfold BUFFER_SIZE at hpos
    exact ⟨ps, h1, fun p hp => .inr (h2.offset (by omega) p hp)⟩
  · exact ⟨[], (List.append_nil _).symm, fun p hp => absurd hp List.not_mem_nil⟩

/-- a probe carries no data -/
theorem probe_ahead (s : St) (d : Data) : ∃ ps, segments (s.probe now).log = segments s.log ++ ps ∧
    ∀ p ∈ ps, Ahead d p := by
  unfold St.probe
  split_ifs
  · refine ⟨_, segments_append _ _, fun p hp => .inl ?_⟩
    obtain rfl := List.mem_singleton.mp hp
    rfl
  · exact ⟨[], (List.append_nil _).symm, fun p hp => absurd hp List.not_mem_nil⟩

/-- **Otherwise nothing below `sendNextOffset` is sent.** -/
theorem flush_stays_ahead (hs : t.data.state = .ESTABLISHED)
    (hf : t.data.flushToClientFinished = false) (hm : Marks t.data) (hh : t.hung = false)
    (hnext : t.data.sendNextOffset ≠ 0) (h : ¬ Resends t.data) (turns : Nat) :
    ∀ p ∈ sentSince t (t.flushDataToClient now turns), Ahead t.data p := by
  have hsilent : sendsFirst t.data now = false := by
    unfold sendsFirst
    rw [if_pos (resendDue_inFlight hnext), ← Bool.not_eq_true, sendMore_resend hf]
    exact h
  have h1 := flushSegments_silent hh hsilent turns
  have h2 : ∃ ps, segments (t.flushDataToClient now turns).log = segments t.log ++ ps ∧
      ∀ p ∈ ps, Ahead t.data p := by
    rw [flushDataToClient_blocks hs hf]
    dsimp only
    rw [h1.hung, hh, if_neg (by decide)]
    generalize t.flushSegments (St.sendBound t.data) now turns = u at h1 ⊢
    obtain ⟨p, b, q, time, rfl⟩ := h1
    obtain ⟨ps, h3, h4⟩ := @flushRest_ahead { t with
      packet := p
      data.rttTracking := b
      data.rttTrackedSendSequence := q
      data.rttSendTime := time } now ⟨hm.next, hm.fin⟩ hh (St.finNotSent t.data) turns
    split_ifs
    · exact ⟨ps, h3, h4⟩
    · obtain ⟨qs, h5, h6⟩ := @probe_ahead now _ t.data
      refine ⟨ps ++ qs, ?_, fun r hr => ?_⟩
      · exact h5.trans ((congrArg (· ++ qs) h3).trans (List.append_assoc _ _ _))
      · exact (List.mem_append.mp hr).elim (h4 r) (h6 r)
  obtain ⟨ps, h3, h4⟩ := h2
  rw [sentSince_eq h3]
  exact h4

/-- with the client's window closed a pushing run sends empty segments, and comes to no end -/
theorem resend_closed_window (hs : t.data.state = .ESTABLISHED)
    (hf : t.data.flushToClientFinished = false) (hh : t.hung = false)
    (hnext : t.data.sendNextOffset ≠ 0) (hbound : (St.sendBound t.data).toNat = 0)
    (h : Resends t.data) (turns : Nat) :
    ∀ p ∈ sentSince t (t.flushDataToClient now turns), p.payload = [] := by
  have hfin : t.data.receiveFromServerFinished = true :=
    h.resolve_right (by rw [← sendBound_toNat, hbound]; exact Nat.not_lt_zero _)
  have hpush : St.finNotAcknowledged t.data = true := by
    unfold St.finNotAcknowledged
    rw [hfin, hf]
    rfl
  have h3 : t.flushSegments (St.sendBound t.data) now turns = t.sendDataStartingFrom 0 t.data.mss
      true (St.sendBound t.data) now (turns + 1) := by
    unfold St.flushSegments
    rw [if_pos (resendDue_inFlight hnext), hpush]
  have h4 : (t.flushSegments (St.sendBound t.data) now turns).hung = true := by
    rw [h3]
    exact sendData_hangs hfin (by omega) (by bv_omega) _ _
  obtain ⟨ps, last, h5, h6, _⟩ := @sendData_sliced t now 0 true hh (by bv_omega) t.data.mss (turns + 1)
  rw [flushDataToClient_blocks hs hf]
  dsimp only
  rw [if_pos h4, h3, sentSince_eq h5]
  intro p hp
  have h7 := h6.length_le p hp
  rw [← sendBound_toNat, hbound] at h7
  exact List.eq_nil_of_length_eq_zero (Nat.le_zero.mp h7)

end

/-! ## the states that calls reach -/

/-- what holds whenever `flushDataToClient` is entered, after calls that return -/
structure Entered (IP_MSS : U16) (t : St) : Prop where
  state : t.data.state = .ESTABLISHED
  hung : t.hung = false
  rep : Represented t.data
  timed : Timed IP_MSS t.data

theorem entered_reached {IP_MSS : U16} {s0 : St} (h0 : s0.data = .init IP_MSS) {ops : List Op}
    (hret : (run (step IP_MSS) s0 ops).hung = false)
    (hs : (run (step IP_MSS) s0 ops).data.state = .ESTABLISHED) {t : St}
    (ht : Enters (run (step IP_MSS) s0 ops) t) : Entered IP_MSS t := by
  have hr := represented_reached h0 hret
  have hti := timed_reached h0 ops
  generalize run (step IP_MSS) s0 ops = s at hret hs ht hr hti
  rcases ht with rfl | ⟨hf, r, rfl⟩
  · exact ⟨hs, hret, hr, hti⟩
  · exact ⟨(readFromServer_read s r).up.state.trans hs, (readFromServer_hung s r).trans hret,
      hr.read hf r, hti.read r⟩

section
variable {IP_MSS : U16} {t : St}

/-- data in flight lies in the buffer, so that only a closed window puts the bound at 0 -/
theorem Entered.bound_pos (h : Entered IP_MSS t) (hnext : t.data.sendNextOffset ≠ 0)
    (hwindow : t.data.sendWindowRightEdge ≠ 0) : 0 < (St.sendBound t.data).toNat := by
  have h1 := h.rep.marks.next
  have h2 := t.data.sendBuffer.position_toNat
  rw [sendBound_toNat]
  bv_omega

theorem Entered.open (h : Entered IP_MSS t) (hnext : t.data.sendNextOffset ≠ 0) :
    t.data.flushToClientFinished = false := by
  by_contra hc
  rw [Bool.not_eq_false] at hc
  have h1 := h.rep.marks.next
  have h2 := t.data.sendBuffer.position_toNat
  rw [(h.rep.finAcked hc).2, List.length_nil] at h2
  bv_omega

theorem Entered.mss_pos (h : Entered IP_MSS t) (hmss : 0 < IP_MSS) : 0 < t.data.mss.toNat := by
  rw [h.timed.mss]
  exact BitVec.lt_def.mp hmss

end

/-- **What is in flight is sent again exactly if the run from offset 0 sends.**  After any calls that
return, let an established session whose FIN is not acknowledged enter `flushDataToClient`, by itself
or inside `receiveFromServer`, with data in flight and an open window.  It sends a data segment that
begins with the first unacknowledged byte exactly if the server's stream has ended or more than one
segment lies below the bound; otherwise, whatever the time is, it does not. -/
theorem resent_iff {IP_MSS : U16} {s0 : St} (h0 : s0.data = .init IP_MSS) {ops : List Op}
    (hret : (run (step IP_MSS) s0 ops).hung = false)
    (hs : (run (step IP_MSS) s0 ops).data.state = .ESTABLISHED) (hmss : 0 < IP_MSS) {t : St}
    (ht : Enters (run (step IP_MSS) s0 ops) t) (hf : t.data.flushToClientFinished = false)
    (hnext : t.data.sendNextOffset ≠ 0) (hwindow : t.data.sendWindowRightEdge ≠ 0) (now : Int)
    (turns : Nat) :
    (∃ p ∈ sentSince t (t.flushDataToClient now turns), CarriesFirst t.data p) ↔ Resends t.data := by
  have h := entered_reached h0 hret hs ht
  constructor
  · rintro ⟨p, hp, hfirst⟩
    by_contra hc
    have h1 := (flush_stays_ahead h.state hf h.rep.marks h.hung hnext hc turns p hp).not_carriesAt
      hfirst.carriesAt
    bv_omega
  · intro hres
    exact flush_resends h.state hf (h.mss_pos hmss) hnext (h.bound_pos hnext hwindow) hres turns

/-- three bytes of the server are on their way to the client -/
def threeInFlight : List Op :=
  [opening, .receiveFromClient (ackPacket clientA serverA 101 1000 1000) connected,
   .receiveFromServer (.bytes [97, 98, 99]) 1000000000 4]

theorem resent_in_two_segments :
    let t := run (step 2) (unused 2) threeInFlight
    (∃ p ∈ sentSince t (t.flushDataToClient 2000000000 4), CarriesFirst t.data p) ↔ Resends t.data :=
  @resent_iff 2 (unused 2) rfl threeInFlight (by decide) (by decide) (by decide) _ (.inl rfl)
    (by decide) (by decide) (by decide) 2000000000 4

/-- three bytes are in flight and the timer has run out, but they fill no segment -/
theorem tail_not_resent :
    ¬ ∀ (IP_MSS : U16) (s0 : St) (ops : List Op), s0.data = .init IP_MSS →
      (run (step IP_MSS) s0 ops).hung = false →
      (run (step IP_MSS) s0 ops).data.state = .ESTABLISHED → 0 < IP_MSS →
      (run (step IP_MSS) s0 ops).data.flushToClientFinished = false →
      (run (step IP_MSS) s0 ops).data.sendNextOffset ≠ 0 →
      (run (step IP_MSS) s0 ops).data.sendWindowRightEdge ≠ 0 →
      ∀ now, TimedOut (run (step IP_MSS) s0 ops).data now → ∃ turns,
        ∃ p ∈ sentSince (run (step IP_MSS) s0 ops)
          ((run (step IP_MSS) s0 ops).flushDataToClient now turns),
        CarriesFirst (run (step IP_MSS) s0 ops).data p := by
  intro h
  obtain ⟨turns, p, hp, hfirst⟩ := h 576 (unused 576) threeInFlight rfl (by decide) (by decide)
    (by decide) (by decide) (by decide) (by decide) 2000000000 (by decide)
  have h1 := flush_stays_ahead (by decide) (by decide)
    (represented_reached rfl (by decide)).marks (by decide) (by decide) (by decide) turns p hp
  exact absurd (h1.not_carriesAt hfirst.carriesAt) (by decide)

/-- **The timer is kept exactly if the run from offset 0 sends nothing.**  After any calls that
return, let an established session enter `flushDataToClient`, by itself or inside
`receiveFromServer`.  That a byte below `sendNextOffset` is sent only after the timer has run out
holds exactly if the timer has run out, nothing is in flight, the window is closed, or the server's
stream goes on with no more than one segment below the bound. -/
theorem resend_timed_iff {IP_MSS : U16} {s0 : St} (h0 : s0.data = .init IP_MSS) {ops : List Op}
    (hret : (run (step IP_MSS) s0 ops).hung = false)
    (hs : (run (step IP_MSS) s0 ops).data.state = .ESTABLISHED) (hmss : 0 < IP_MSS) {t : St}
    (ht : Enters (run (step IP_MSS) s0 ops) t) (now : Int) (turns : Nat) :
    (∀ p ∈ sentSince t (t.flushDataToClient now turns), ∀ a, a < t.data.sendNextOffset.toNat →
      CarriesAt t.data p a → TimedOut t.data now) ↔
    TimedOut t.data now ∨ t.data.sendNextOffset = 0 ∨ t.data.sendWindowRightEdge = 0 ∨
      ¬ Resends t.data := by
  have h := entered_reached h0 hret hs ht
  constructor
  · intro hlaw
    by_contra hc
    rw [not_or, not_or, not_or, not_not] at hc
    obtain ⟨htimer, hnext, hwindow, hres⟩ := hc
    obtain ⟨p, hp, hfirst⟩ := @flush_resends t now h.state (h.open hnext) (h.mss_pos hmss) hnext
      (h.bound_pos hnext hwindow) hres turns
    exact htimer (hlaw p hp 0 (by bv_omega) hfirst.carriesAt)
  · intro hcond p hp a ha hcarries
    rcases hcond with htimer | hcond
    · exact htimer
    · exfalso
      have hnext : t.data.sendNextOffset ≠ 0 := by bv_omega
      by_cases hres : Resends t.data
      · have hwindow := (hcond.resolve_left hnext).resolve_right (not_not.mpr hres)
        have hbound : (St.sendBound t.data).toNat = 0 := by
          rw [sendBound_toNat, hwindow]
          exact Nat.zero_min _
        have h1 := resend_closed_window h.state (h.open hnext) h.hung hnext hbound hres turns p hp
        have h2 := (show Ahead t.data p from .inl h1).not_carriesAt hcarries
        omega
      · have h1 := flush_stays_ahead h.state (h.open hnext) h.rep.marks h.hung hnext hres turns p hp
        have h2 := h1.not_carriesAt hcarries
        omega

theorem resend_timed_three :
    let t := run (step 576) (unused 576) threeInFlight
    (∀ p ∈ sentSince t (t.flushDataToClient 0 4), ∀ a, a < t.data.sendNextOffset.toNat →
      CarriesAt t.data p a → TimedOut t.data 0) ↔
    TimedOut t.data 0 ∨ t.data.sendNextOffset = 0 ∨ t.data.sendWindowRightEdge = 0 ∨
      ¬ Resends t.data :=
  @resend_timed_iff 576 (unused 576) rfl threeInFlight (by decide) (by decide) (by decide) _
    (.inl rfl) 0 4

/-- two of three bytes are sent at the time of the last acknowledgement -/
def twoSentAtOnce : List Op :=
  [opening, .receiveFromClient (ackPacket clientA serverA 101 1000 1000) connected,
   .receiveFromServer (.bytes [97, 98, 99]) 0 4]

/-- a second call at the same time sends both of them again -/
theorem resent_at_once :
    ¬ ∀ (IP_MSS : U16) (s0 : St) (ops : List Op), s0.data = .init IP_MSS →
      (run (step IP_MSS) s0 ops).hung = false →
      (run (step IP_MSS) s0 ops).data.state = .ESTABLISHED → 0 < IP_MSS →
      ∀ (t : St), Enters (run (step IP_MSS) s0 ops) t → ∀ (now : Int) (turns : Nat),
        ∀ p ∈ sentSince t (t.flushDataToClient now turns), ∀ a, a < t.data.sendNextOffset.toNat →
          CarriesAt t.data p a → TimedOut t.data now := by
  intro h
  have h1 := h 1 (unused 1) twoSentAtOnce rfl (by decide) (by decide) (by decide) _ (.inl rfl) 0 4
  have h2 : ∃ p ∈ sentSince (run (step 1) (unused 1) twoSentAtOnce)
      ((run (step 1) (unused 1) twoSentAtOnce).flushDataToClient 0 4),
      CarriesAt (run (step 1) (unused 1) twoSentAtOnce).data p 0 := by decide
  obtain ⟨p, hp, hc⟩ := h2
  exact absurd (h1 p hp 0 (by decide) hc) (by decide)

end TunServer.Sessions2
