import TunServer.Sessions2.Download
import TunServer.Sessions2.Sets

/-!
# The loop of `flushDataToClient`

`sendDataStartingFrom` sends from an offset up to a bound, `mss` bytes a turn; with `push` it sends
the rest too.  Offsets and bounds lie within the send buffer.

* `SendLoop`       what a loop does to the session, however long it is observed;
* `push_hangs`     a pushing loop never ends once the server's stream has ended;
* `push_ends`      otherwise a pushing loop sends what is left in one segment;
* `segments_end`   a loop that does not push ends after as many segments as fit.
-/

set_option linter.unusedVariables false

namespace TunServer.Sessions2

/-- a segment changes nothing but the mark that the FIN was sent -/
theorem sendSegment_data (s : St) (mss : U16) (bound ack off : U32) :
    (s.sendSegment mss bound ack off).data =
      { s.data with sentFinToClient := s.data.sentFinToClient ||
        (s.data.receiveFromServerFinished &&
          decide (off + St.sendAmount mss bound off = s.data.sendBuffer.position)) } := by
  unfold St.sendSegment
  dsimp only
  split_ifs with h
  · simp [h.1, h.2]
  · have h1 : (s.data.receiveFromServerFinished &&
        decide (off + St.sendAmount mss bound off = s.data.sendBuffer.position)) = false := by
      simpa using h
    rw [h1, Bool.or_false]
    rfl

theorem sendSegment_log (s : St) (mss : U16) (bound ack off : U32) :
    (s.sendSegment mss bound ack off).log.length = s.log.length + 1 := by
  unfold St.sendSegment
  dsimp only
  split_ifs <;> simp

theorem sendSegment_hung (s : St) (mss : U16) (bound ack off : U32) :
    (s.sendSegment mss bound ack off).hung = s.hung := by
  unfold St.sendSegment
  dsimp only
  split_ifs <;> rfl

theorem mss_le (mss : U16) : (mss.setWidth 32 : U32).toNat ≤ 65535 := by
  have := mss.isLt
  rw [BitVec.toNat_setWidth]
  omega

theorem mss_toNat (mss : U16) : (mss.setWidth 32 : U32).toNat = mss.toNat := by
  have := mss.isLt
  rw [BitVec.toNat_setWidth]
  omega

/-- the loop changes nothing but that mark -/
theorem sendLoop_data (mss : U16) (push : Bool) (bound ack : U32) (turns : Nat) (off : U32) (s : St) :
    ∃ fin, (St.sendLoop mss push bound ack turns off s).2.data =
      { s.data with sentFinToClient := fin } := by
  induction turns generalizing off s with
  | zero =>
    refine ⟨s.data.sentFinToClient, ?_⟩
    unfold St.sendLoop
    split_ifs <;> rfl
  | succ turns ih =>
    unfold St.sendLoop
    split_ifs
    · obtain ⟨fin, h⟩ := ih (off + St.sendAmount mss bound off) (s.sendSegment mss bound ack off)
      refine ⟨fin, ?_⟩
      rw [h, sendSegment_data]
    · exact ⟨s.data.sentFinToClient, rfl⟩

/-- what the loop makes of the session `s`, with the offset it reaches -/
structure SendLoop (s : St) (off : U32) (r : U32 × St) : Prop where
  data : r.2.data = { s.data with sentFinToClient := r.2.data.sentFinToClient }
  le : off ≤ r.1
  within : r.1 ≤ s.data.sendBuffer.position
  fin : r.2.data.sentFinToClient = true → s.data.sentFinToClient = true ∨
    s.data.receiveFromServerFinished = true ∧ r.1 = s.data.sendBuffer.position

theorem sendLoop_spec (mss : U16) (push : Bool) (ack : U32) (turns : Nat) {bound off : U32} {s : St}
    (hb : bound ≤ s.data.sendBuffer.position) (ho : off ≤ s.data.sendBuffer.position) :
    SendLoop s off (St.sendLoop mss push bound ack turns off s) := by
  induction turns generalizing off s with
  | zero =>
    have e : (St.sendLoop mss push bound ack 0 off s).2.data = s.data := by
      unfold St.sendLoop
      split_ifs <;> rfl
    refine ⟨?_, BitVec.le_refl _, ho, ?_⟩
    · rw [e]
    · rw [e]; exact fun h => .inl h
  | succ turns ih =>
    have hpos := s.data.sendBuffer.position_le
    unfold St.sendLoop
    split_ifs with hmore
    · have hle : off ≤ bound := off_le_of_sendMore (by bv_omega) (by bv_omega) hmore
      have hd := sendSegment_data s mss bound ack off
      have hamt := @off_add_sendAmount_le mss _ _ hle
      have hle' : off ≤ off + St.sendAmount mss bound off := by
        have hm := mss_le mss
        unfold St.sendAmount
        split_ifs <;> bv_omega
      have h := @ih (off + St.sendAmount mss bound off)
        (s.sendSegment mss bound ack off) (by rw [hd]; exact hb)
        (by rw [hd]; exact BitVec.le_trans hamt hb)
      obtain ⟨h1, h2, h3, h4⟩ := h
      rw [hd] at h1 h3 h4
      refine ⟨h1, BitVec.le_trans hle' h2, h3, ?_⟩
      intro hfin
      rcases h4 hfin with h5 | h5
      · simp only [Bool.or_eq_true, Bool.and_eq_true, decide_eq_true_eq] at h5
        refine h5.imp_right fun h6 => ⟨h6.1, ?_⟩
        -- the FIN went out with the last byte: the offset cannot pass it
        have h7 := h6.2
        dsimp only at h3
        bv_omega
      · exact .inr h5
    · exact ⟨rfl, BitVec.le_refl _, ho, fun h => .inl h⟩

/-! ## when the loop ends -/

section
variable {mss : U16} {ack bound off : U32} {s : St}

/-- the guard of the loop as a comparison of numbers -/
theorem sendMore_iff {d : Data} {push : Bool} (hb : bound.toNat ≤ 65535) (ho : off.toNat ≤ 65535) :
    St.sendMore d mss push bound off = true ↔
      off.toNat + (if push then 0 else mss.toNat) <
        bound.toNat + (if d.receiveFromServerFinished then 1 else 0) := by
  have hm := mss_le mss
  have hm' := mss_toNat mss
  unfold St.sendMore
  rw [decide_eq_true_eq, BitVec.lt_def]
  cases push <;> cases d.receiveFromServerFinished <;>
    simp only [b32_true, b32_false, if_true, if_false, Bool.false_eq_true]
  · rw [← hm']; bv_omega
  · rw [← hm']; bv_omega
  · bv_omega
  · bv_omega

/-- the guard of a pushing loop, wherever it is -/
theorem sendMore_push_iff {d : Data} (hb : bound.toNat ≤ 65535) :
    St.sendMore d mss true bound off = true ↔
      off.toNat < bound.toNat + (if d.receiveFromServerFinished then 1 else 0) := by
  unfold St.sendMore
  rw [decide_eq_true_eq, BitVec.lt_def]
  cases d.receiveFromServerFinished <;>
    simp only [b32_true, b32_false, if_true, if_false, Bool.false_eq_true]
  · bv_omega
  · bv_omega

theorem sendAmount_toNat (h : off ≤ bound) : (St.sendAmount mss bound off).toNat =
    min mss.toNat (bound.toNat - off.toNat) := by
  have hm := mss_le mss
  have hm' := mss_toNat mss
  have hd : (bound - off).toNat = bound.toNat - off.toNat := BitVec.toNat_sub_of_le h
  unfold St.sendAmount
  split_ifs with h1
  · rw [BitVec.le_def, hd] at h1
    omega
  · rw [BitVec.le_def, hd] at h1
    omega

theorem add_sendAmount_toNat (h : off ≤ bound) : (off + St.sendAmount mss bound off).toNat =
    off.toNat + min mss.toNat (bound.toNat - off.toNat) := by
  have h1 := @off_add_sendAmount_le mss _ _ h
  have h2 := @sendAmount_toNat mss _ _ h
  have h3 := bound.isLt
  rw [BitVec.toNat_add, h2]
  rw [BitVec.le_def] at h
  omega

/-- A loop that pushes never ends once the server's stream has ended: at the bound the length of a
turn is zero. -/
theorem push_hangs (turns : Nat) (hended : s.data.receiveFromServerFinished = true)
    (hb : bound.toNat ≤ 65535) (ho : off ≤ bound) :
    (St.sendLoop mss true bound ack turns off s).2.hung = true ∧
      (St.sendLoop mss true bound ack turns off s).2.log.length = s.log.length + turns := by
  induction turns generalizing off s with
  | zero =>
    have hmore : St.sendMore s.data mss true bound off = true := by
      rw [sendMore_push_iff hb]
      simp only [hended, if_true]
      bv_omega
    unfold St.sendLoop
    simp [hmore]
  | succ turns ih =>
    have hmore : St.sendMore s.data mss true bound off = true := by
      rw [sendMore_push_iff hb]
      simp only [hended, if_true]
      bv_omega
    unfold St.sendLoop
    rw [if_pos hmore]
    have h := @ih (off + St.sendAmount mss bound off) (s.sendSegment mss bound ack off)
      (by rw [sendSegment_data]; exact hended) (off_add_sendAmount_le ho)
    refine ⟨h.1, ?_⟩
    rw [h.2, sendSegment_log]
    omega

/-- While the server's stream goes on, a loop that pushes less than a segment ends after one. -/
theorem push_ends (turns : Nat) (hgoing : s.data.receiveFromServerFinished = false)
    (hb : bound.toNat ≤ 65535) (hrest : bound.toNat ≤ off.toNat + mss.toNat)
    (hh : s.hung = false) :
    (St.sendLoop mss true bound ack (turns + 1) off s).2.hung = false ∧
      (St.sendLoop mss true bound ack (turns + 1) off s).2.log.length ≤ s.log.length + 1 := by
  by_cases hmore : St.sendMore s.data mss true bound off = true
  · have hlt := (sendMore_push_iff hb).mp hmore
    simp only [hgoing, Bool.false_eq_true, if_false, Nat.add_zero] at hlt
    have hle : off ≤ bound := by
      rw [BitVec.le_def]
      omega
    have hoff : (off + St.sendAmount mss bound off).toNat = bound.toNat := by
      rw [add_sendAmount_toNat hle]
      omega
    have hstop : ¬ St.sendMore (s.sendSegment mss bound ack off).data mss true bound
        (off + St.sendAmount mss bound off) = true := by
      rw [sendMore_push_iff hb, sendSegment_data, hoff]
      simp [hgoing]
    unfold St.sendLoop
    rw [if_pos hmore, sendLoop_stop turns hstop, sendSegment_hung, sendSegment_log]
    exact ⟨hh, le_refl _⟩
  · rw [sendLoop_stop _ hmore]
    exact ⟨hh, Nat.le_add_right _ _⟩

/-- a loop that begins within the bound stays within -/
theorem sendLoop_le_bound {push : Bool} (turns : Nat) (ho : off ≤ bound) :
    (St.sendLoop mss push bound ack turns off s).1 ≤ bound := by
  induction turns generalizing off s with
  | zero => exact ho
  | succ turns ih =>
    unfold St.sendLoop
    split_ifs
    · exact ih (off_add_sendAmount_le ho)
    · exact ho

/-- A loop that does not push ends after as many segments as fit, with less than one left. -/
theorem segments_end (hm : 0 < mss.toNat) (turns : Nat) (hb : bound.toNat ≤ 65535) (ho : off ≤ bound)
    (hturns : (bound.toNat - off.toNat) / mss.toNat ≤ turns) (hh : s.hung = false) :
    let r := St.sendLoop mss false bound ack turns off s
    r.2.hung = false ∧ r.2.log.length ≤ s.log.length + (bound.toNat - off.toNat) / mss.toNat ∧
      r.1 ≤ bound ∧ bound.toNat + (if s.data.receiveFromServerFinished then 1 else 0) ≤
        r.1.toNat + mss.toNat := by
  induction turns generalizing off s with
  | zero =>
    have hlt : bound.toNat - off.toNat < mss.toNat :=
      (Nat.div_eq_zero_iff_lt hm).mp (Nat.le_zero.mp hturns)
    have ho' := BitVec.le_def.mp ho
    have hstop : ¬ St.sendMore s.data mss false bound off = true := by
      rw [sendMore_iff hb (by omega)]
      simp only [Bool.false_eq_true, if_false]
      split_ifs <;> omega
    rw [sendLoop_stop 0 hstop]
    refine ⟨hh, Nat.le_add_right _ _, ho, ?_⟩
    dsimp only
    split_ifs <;> omega
  | succ turns ih =>
    have ho' := BitVec.le_def.mp ho
    by_cases hmore : St.sendMore s.data mss false bound off = true
    · have hlt := (sendMore_iff hb (by omega)).mp hmore
      simp only [Bool.false_eq_true, if_false] at hlt
      have hfits : off.toNat + mss.toNat ≤ bound.toNat := by
        split_ifs at hlt <;> omega
      have hoff : (off + St.sendAmount mss bound off).toNat = off.toNat + mss.toNat := by
        rw [add_sendAmount_toNat ho]
        omega
      have hdiv : (bound.toNat - off.toNat) / mss.toNat =
          (bound.toNat - (off.toNat + mss.toNat)) / mss.toNat + 1 := by
        rw [← Nat.add_div_right _ hm]
        congr 1
        omega
      have h := @ih (off + St.sendAmount mss bound off)
        (s.sendSegment mss bound ack off) (off_add_sendAmount_le ho)
        (by rw [hoff]; omega) ((sendSegment_hung _ _ _ _ _).trans hh)
      rw [hoff, sendSegment_log, sendSegment_data] at h
      obtain ⟨h1, h2, h3, h4⟩ := h
      intro r
      have hr : r = St.sendLoop mss false bound ack turns (off + St.sendAmount mss bound off)
          (s.sendSegment mss bound ack off) := by
        show St.sendLoop mss false bound ack (turns + 1) off s = _
        rw [St.sendLoop, if_pos hmore]
      rw [hr]
      refine ⟨h1, ?_, h3, h4⟩
      rw [hdiv]
      omega
    · have hge : bound.toNat + (if s.data.receiveFromServerFinished then 1 else 0) ≤
          off.toNat + mss.toNat := by
        rw [sendMore_iff hb (by omega)] at hmore
        simpa using hmore
      rw [sendLoop_stop _ hmore]
      exact ⟨hh, Nat.le_add_right _ _, ho, hge⟩

end

/-! ## the whole call -/

/-- the data without what `flushDataToClient` writes -/
def Data.still (d : Data) : Data :=
  { d with
    sentFinToClient := false
    sendNextOffset := 0
    sendRetryCount := 0
    rttTracking := false
    rttTrackedSendSequence := 0
    rttSendTime := 0
    lastTimeSentNewData := 0 }

theorem flushDataToClient_still (s : St) (now : Int) (turns : Nat) :
    (s.flushDataToClient now turns).data.still = s.data.still := by
  refine @flushDataToClient_rel (fun s s' => s'.data.still = s.data.still) (fun _ => rfl)
    (fun h h' => h'.trans h) (fun _ _ => rfl) ?_ (fun _ => rfl) ?_ now ?_ ?_ s turns
  · intro s mss bound ack off
    rw [sendSegment_data]
    rfl
  · intro s off now
    unfold St.sentUpTo
    dsimp only
    split_ifs <;> rfl
  · intro s
    unfold St.trackRTT
    split_ifs <;> rfl
  · intro s
    unfold St.probe
    split_ifs <;> rfl

/-- The marks of the send buffer fit together: what was sent lies in the buffer, and the FIN was
sent after all of it. -/
structure Marks (d : Data) : Prop where
  next : d.sendNextOffset ≤ d.sendBuffer.position
  fin : d.sentFinToClient = true →
    d.receiveFromServerFinished = true ∧ d.sendNextOffset = d.sendBuffer.position

section
variable {s : St} {bound off : U32}

theorem sendDataStartingFrom_eq (s : St) (off : U32) (mss : U16) (push : Bool) (bound : U32)
    (now : Int) (turns : Nat) : ∃ ack,
    let t : St := { s with packet := s.packet.setWindow s.data.receiveBuffer.available }
    let r := St.sendLoop mss push bound ack turns off t
    s.sendDataStartingFrom off mss push bound now turns =
      if r.2.hung then r.2 else r.2.sentUpTo r.1 now := ⟨_, rfl⟩

theorem sentUpTo_hung (s : St) (off : U32) (now : Int) : (s.sentUpTo off now).hung = s.hung := by
  unfold St.sentUpTo
  dsimp only
  split_ifs <;> rfl

theorem sentUpTo_log (s : St) (off : U32) (now : Int) : (s.sentUpTo off now).log = s.log := by
  unfold St.sentUpTo
  dsimp only
  split_ifs <;> rfl

/-- the marks after `sentUpTo` -/
theorem sentUpTo_marks (s : St) (off : U32) (now : Int) :
    (s.sentUpTo off now).data.sendNextOffset =
      (if s.data.sendNextOffset < off then off else s.data.sendNextOffset) ∧
    (s.sentUpTo off now).data.sentFinToClient = s.data.sentFinToClient ∧
    (s.data.sendNextOffset < off → (s.sentUpTo off now).data.lastTimeSentNewData = now) ∧
    (s.sentUpTo off now).data.still = s.data.still := by
  unfold St.sentUpTo
  dsimp only
  split_ifs with h1 h2 h2
  · exact ⟨rfl, rfl, fun _ => rfl, rfl⟩
  · rw [not_not] at h2
    refine ⟨h2.symm, rfl, fun _ => ?_, rfl⟩
    rw [← h2] at h1
    bv_omega
  · exact absurd rfl h2
  · exact ⟨rfl, rfl, fun h => absurd h h1, rfl⟩

/-- what a run of segments makes of the session, by the offset its loop reaches -/
theorem sendData_spec (s : St) (off : U32) (mss : U16) (push : Bool) (bound : U32) (now : Int)
    (turns : Nat) : ∃ ack,
    let t := s.sendDataStartingFrom off mss push bound now turns
    let r := St.sendLoop mss push bound ack turns off
      { s with packet := s.packet.setWindow s.data.receiveBuffer.available }
    t.hung = r.2.hung ∧ t.log = r.2.log ∧ t.data.still = s.data.still ∧
      (r.2.hung = false → t.data.sendNextOffset =
        if s.data.sendNextOffset < r.1 then r.1 else s.data.sendNextOffset) ∧
      (r.2.hung = false → s.data.sendNextOffset < r.1 → t.data.lastTimeSentNewData = now) := by
  obtain ⟨ack, he⟩ := sendDataStartingFrom_eq s off mss push bound now turns
  refine ⟨ack, ?_⟩
  obtain ⟨fin, hd⟩ := sendLoop_data mss push bound ack turns off
    { s with packet := s.packet.setWindow s.data.receiveBuffer.available }
  dsimp only at he ⊢
  rw [he]
  generalize St.sendLoop mss push bound ack turns off
    { s with packet := s.packet.setWindow s.data.receiveBuffer.available } = r at hd ⊢
  have hstill : r.2.data.still = s.data.still := by
    rw [hd]
    rfl
  have hno : r.2.data.sendNextOffset = s.data.sendNextOffset := by
    rw [hd]
  by_cases hr : r.2.hung = true
  · rw [if_pos hr]
    exact ⟨rfl, rfl, hstill, fun h => absurd (h.symm.trans hr) (by decide),
      fun h => absurd (h.symm.trans hr) (by decide)⟩
  · rw [if_neg hr]
    obtain ⟨h1, h2, h3, h4⟩ := sentUpTo_marks r.2 r.1 now
    rw [hno] at h1 h3
    exact ⟨sentUpTo_hung _ _ _, sentUpTo_log _ _ _, h4.trans hstill, fun _ => h1, fun _ => h3⟩

theorem Marks.sendData (h : Marks s.data) (hb : bound ≤ s.data.sendBuffer.position)
    (ho : off ≤ s.data.sendBuffer.position) (mss : U16) (push : Bool) (now : Int) (turns : Nat)
    (hret : (s.sendDataStartingFrom off mss push bound now turns).hung = false) :
    Marks (s.sendDataStartingFrom off mss push bound now turns).data := by
  obtain ⟨ack, he⟩ := sendDataStartingFrom_eq s off mss push bound now turns
  let t : St := { s with packet := s.packet.setWindow s.data.receiveBuffer.available }
  have hl : SendLoop t off (St.sendLoop mss push bound ack turns off t) :=
    sendLoop_spec mss push ack turns hb ho
  dsimp only at he
  rw [he] at hret ⊢
  generalize St.sendLoop mss push bound ack turns off t = r at hl hret ⊢
  split_ifs at hret ⊢ with hr
  · exact absurd (hret.symm.trans hr) (by decide)
  · obtain ⟨h1, h2, h3, h4⟩ := sentUpTo_marks r.2 r.1 now
    have hsb : (r.2.sentUpTo r.1 now).data.sendBuffer = s.data.sendBuffer := by
      have h5 := congrArg Data.sendBuffer h4
      have h6 := congrArg Data.sendBuffer hl.data
      exact h5.trans h6
    have hrsf : (r.2.sentUpTo r.1 now).data.receiveFromServerFinished =
        s.data.receiveFromServerFinished := by
      have h5 := congrArg Data.receiveFromServerFinished h4
      have h6 := congrArg Data.receiveFromServerFinished hl.data
      exact h5.trans h6
    have hno : r.2.data.sendNextOffset = s.data.sendNextOffset := by
      have h6 := congrArg Data.sendNextOffset hl.data
      exact h6
    have hle : r.1 ≤ s.data.sendBuffer.position := hl.within
    have hfin := hl.fin
    refine ⟨?_, ?_⟩
    · rw [h1, hsb, hno]
      split_ifs
      · exact hle
      · exact h.next
    · rw [h1, h2, hsb, hrsf, hno]
      intro hf
      have hn := h.next
      rcases hfin hf with h5 | h5
      · obtain ⟨h6, h7⟩ := h.fin h5
        refine ⟨h6, ?_⟩
        rw [h7]
        split_ifs <;> bv_omega
      · obtain ⟨h6, h7⟩ := h5
        have h7 : r.1 = s.data.sendBuffer.position := h7
        refine ⟨h6, ?_⟩
        rw [h7]
        split_ifs <;> bv_omega

theorem Marks.still {d d' : Data} (h : Marks d) (hn : d'.sendNextOffset = d.sendNextOffset)
    (hf : d'.sentFinToClient = d.sentFinToClient) (hd : d'.still = d.still) : Marks d' := by
  have h1 : d'.sendBuffer = d.sendBuffer := by
    have h3 := congrArg Data.sendBuffer hd
    exact h3
  have h2 : d'.receiveFromServerFinished = d.receiveFromServerFinished := by
    have h3 := congrArg Data.receiveFromServerFinished hd
    exact h3
  refine ⟨?_, ?_⟩
  · rw [hn, h1]; exact h.next
  · rw [hn, hf, h1, h2]; exact h.fin

theorem flushSegments_still (s : St) (bound : U32) (now : Int) (turns : Nat) :
    (s.flushSegments bound now turns).data.still = s.data.still := by
  have send : ∀ off push, (s.sendDataStartingFrom off s.data.mss push bound now
      (turns + 1)).data.still = s.data.still := by
    intro off push
    obtain ⟨_, _, _, h1, _⟩ := sendData_spec s off s.data.mss push bound now (turns + 1)
    exact h1
  unfold St.flushSegments
  dsimp only
  split_ifs
  · exact send _ _
  · exact send _ _
  · rw [← send s.data.sendNextOffset false]
    unfold St.trackRTT
    split_ifs <;> rfl
  · rfl

/-- what the first block leaves for the second -/
theorem Marks.flushSegments (h : Marks s.data) (now : Int) (turns : Nat)
    (hret : (s.flushSegments (St.sendBound s.data) now turns).hung = false) :
    Marks (s.flushSegments (St.sendBound s.data) now turns).data := by
  have hb := sendBound_le s.data
  have zero : (0 : U32) ≤ s.data.sendBuffer.position := by bv_omega
  revert hret
  unfold St.flushSegments
  dsimp only
  split_ifs with h1 h2 h3
  · exact fun hr => h.sendData hb zero _ _ _ _ hr
  · exact fun hr => absurd (hr.symm.trans h3) (by decide)
  · intro _
    have hm := h.sendData hb h.next s.data.mss false now (turns + 1) (by simpa using h3)
    generalize s.sendDataStartingFrom s.data.sendNextOffset s.data.mss false
      (St.sendBound s.data) now (turns + 1) = t at hm
    unfold St.trackRTT
    split_ifs
    · exact hm
    · exact hm.still rfl rfl rfl
  · exact fun _ => h

/-- **A call of `flushDataToClient` that returns keeps the marks in order.** -/
theorem Marks.flush (h : Marks s.data) (now : Int) (turns : Nat)
    (hret : (s.flushDataToClient now turns).hung = false) :
    Marks (s.flushDataToClient now turns).data := by
  have hb := sendBound_le s.data
  have hs := congrArg Data.sendBuffer (flushSegments_still s (St.sendBound s.data) now turns)
  dsimp only [Data.still] at hs
  have probe : ∀ t : St, Marks t.data → Marks (t.probe now).data := by
    intro t ht
    unfold St.probe
    split_ifs
    · exact ht.still rfl rfl rfl
    · exact ht
  have rest : ∀ (t : St) (fin : Bool), Marks t.data → t.data.sendBuffer = s.data.sendBuffer →
      (t.flushRest (St.sendBound s.data) fin now turns).hung = false →
      Marks (t.flushRest (St.sendBound s.data) fin now turns).data := by
    intro t fin ht hs
    unfold St.flushRest
    split_ifs
    · exact ht.sendData (by rw [hs]; exact hb) ht.next _ _ _ _
    · exact fun _ => ht
  revert hret
  unfold St.flushDataToClient
  dsimp only
  split_ifs with h1 h2 h3
  · exact fun _ => h
  · exact fun hr => absurd (hr.symm.trans h2) (by decide)
  · exact fun hr => absurd (hr.symm.trans h3) (by decide)
  · intro _
    exact probe _ (rest _ _ (h.flushSegments now turns (by simpa using h2)) hs (by simpa using h3))

end

end TunServer.Sessions2
