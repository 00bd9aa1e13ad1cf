import TunServer.Sessions2.Sending
import TunServer.Sessions2.Upload

/-!
# When `flushDataToClient` returns

* `ReturnsWithin n s now`   the call returns, after at most `n` segments;
* `PushesAtEnd d now`       the call comes to push although the server's stream has ended: then its
                            loop never ends;
* `flush_returns_iff`       nothing else keeps the call from returning, and then it sends at most
                            two segments more than the buffered bytes fill.
-/

set_option linter.unusedVariables false

namespace TunServer.Sessions2

/-- observed long enough, the call has returned, having sent at most `n` segments -/
def ReturnsWithin (n : Nat) (s : St) (now : Int) : Prop :=
  ∀ turns, n ≤ turns → (s.flushDataToClient now turns).hung = false ∧
    (s.flushDataToClient now turns).log.length ≤ s.log.length + n

/-- A run of segments that pushes is due although the server's stream has ended: the first block
resends, or sends new data while the mark of the FIN is wrong, or the second block pushes. -/
def PushesAtEnd (d : Data) (now : Int) : Prop :=
  d.receiveFromServerFinished = true ∧ d.flushToClientFinished = false ∧
    (St.resendDue d now = true ∨
      if St.newDataDue d (St.sendBound d) = true then St.finNotSent d = true
      else St.pushDue d (St.sendBound d) (St.finNotSent d) now = true)

instance (d : Data) (now : Int) : Decidable (PushesAtEnd d now) :=
  inferInstanceAs (Decidable (d.receiveFromServerFinished = true ∧ d.flushToClientFinished = false ∧
    (St.resendDue d now = true ∨
      if St.newDataDue d (St.sendBound d) = true then St.finNotSent d = true
      else St.pushDue d (St.sendBound d) (St.finNotSent d) now = true)))

/-- the segment length is the configured one, and there are five round trip times, none negative -/
structure Timed (IP_MSS : U16) (d : Data) : Prop where
  mss : d.mss = IP_MSS
  length : d.rttHistory.length = 5
  rtt : ∀ t ∈ d.rttHistory, 0 ≤ t

section
variable {IP_MSS : U16} {s : St} {now : Int}

theorem Timed.mean {d : Data} (h : Timed IP_MSS d) : 0 ≤ ms (d.getMeanRTT.tdiv 5) := by
  have h1 : 0 ≤ d.rttHistory.sum := List.sum_nonneg h.rtt
  have h2 : 0 ≤ d.getMeanRTT := Int.tdiv_nonneg h1 (Int.natCast_nonneg _)
  have h3 : 0 ≤ d.getMeanRTT.tdiv 5 := Int.tdiv_nonneg h2 (by decide)
  unfold ms
  omega

theorem sendBound_toNat_le (d : Data) : (St.sendBound d).toNat ≤ d.sendBuffer.bytes.length := by
  have h := sendBound_le d
  rw [BitVec.le_def, SmartBuffer.position_toNat] at h
  exact h

theorem probe_returns (s : St) (now : Int) : (s.probe now).hung = s.hung ∧
    (s.probe now).log.length ≤ s.log.length + 1 := by
  unfold St.probe
  split_ifs
  · exact ⟨rfl, by simp⟩
  · exact ⟨rfl, Nat.le_add_right _ _⟩

theorem trackRTT_keeps (s : St) (now : Int) : (s.trackRTT now).hung = s.hung ∧
    (s.trackRTT now).log = s.log ∧ (s.trackRTT now).data.still = s.data.still ∧
    (s.trackRTT now).data.sendNextOffset = s.data.sendNextOffset ∧
    (s.trackRTT now).data.lastTimeSentNewData = s.data.lastTimeSentNewData := by
  unfold St.trackRTT
  split_ifs <;> exact ⟨rfl, rfl, rfl, rfl, rfl⟩

/-- a run that does not push, from an offset within the bound: less than a segment is left -/
theorem sendData_segments {off bound : U32} (hm : 0 < s.data.mss.toNat) (hb : bound.toNat ≤ 65535)
    (ho : off ≤ bound) (turns : Nat) (hturns : (bound.toNat - off.toNat) / s.data.mss.toNat ≤ turns)
    (hh : s.hung = false) :
    let t := s.sendDataStartingFrom off s.data.mss false bound now turns
    t.hung = false ∧
      t.log.length ≤ s.log.length + (bound.toNat - off.toNat) / s.data.mss.toNat ∧
      t.data.still = s.data.still ∧
      bound.toNat ≤ t.data.sendNextOffset.toNat + s.data.mss.toNat ∧
      (s.data.sendNextOffset = 0 → t.data.sendNextOffset ≤ bound ∧
        (s.data.mss.toNat < bound.toNat → t.data.lastTimeSentNewData = now)) := by
  intro t
  obtain ⟨ack, h1, h2, h3, h4, h5⟩ := sendData_spec s off s.data.mss false bound now turns
  have hl : ∀ t : St, t.data = s.data → t.hung = false → t.log = s.log →
      let r := St.sendLoop s.data.mss false bound ack turns off t
      r.2.hung = false ∧ r.2.log.length ≤ s.log.length +
        (bound.toNat - off.toNat) / s.data.mss.toNat ∧ r.1 ≤ bound ∧
        bound.toNat ≤ r.1.toNat + s.data.mss.toNat := by
    intro t ht hth htl
    obtain ⟨h6, h7, h8, h9⟩ := @segments_end _ ack _ _ t hm turns hb ho hturns hth
    rw [htl] at h7
    exact ⟨h6, h7, h8, le_trans (Nat.le_add_right _ _) h9⟩
  obtain ⟨h6, h7, h8, h9⟩ := hl
    { s with packet := s.packet.setWindow s.data.receiveBuffer.available } rfl hh rfl
  generalize St.sendLoop s.data.mss false bound ack turns off
    { s with packet := s.packet.setWindow s.data.receiveBuffer.available } = r at h1 h2 h4 h5 h6 h7 h8 h9
  have h10 : t.data.sendNextOffset = if s.data.sendNextOffset < r.1 then r.1
      else s.data.sendNextOffset := h4 h6
  refine ⟨h1.trans h6, ?_, h3, ?_, ?_⟩
  · show (s.sendDataStartingFrom off s.data.mss false bound now turns).log.length ≤ _
    rw [h2]
    exact h7
  · rw [h10]
    split_ifs with h11
    · exact h9
    · rw [BitVec.lt_def] at h11
      omega
  · intro hz
    refine ⟨?_, fun hlt => h5 h6 ?_⟩
    · rw [h10]
      split_ifs
      · exact h8
      · rw [hz]
        bv_omega
    · rw [hz, BitVec.lt_def]
      show 0 < r.1.toNat
      omega

/-- what the first block leaves for the second, unless it pushes at the end of the stream -/
structure FirstBlock (s : St) (now : Int) (t : St) : Prop where
  hung : t.hung = false
  log : t.log.length ≤ s.log.length + s.data.sendBuffer.bytes.length / s.data.mss.toNat
  still : t.data.still = s.data.still
  rest : (St.sendBound s.data).toNat ≤ t.data.sendNextOffset.toNat + s.data.mss.toNat
  ended : s.data.receiveFromServerFinished = true → t.data.sendNextOffset ≤ St.sendBound s.data ∧
    if St.newDataDue s.data (St.sendBound s.data) = true then t.data.lastTimeSentNewData = now
    else t = s

theorem sendNextOffset_eq {d : Data} (h : St.resendDue d now = false) : d.sendNextOffset = 0 := by
  unfold St.resendDue at h
  rw [decide_eq_false_iff_not, not_or, not_not] at h
  exact h.1

theorem flushSegments_returns (hm : 0 < s.data.mss.toNat) (hf : s.data.flushToClientFinished = false)
    (hno : s.data.receiveFromServerFinished = true → St.resendDue s.data now = false) {turns : Nat}
    (hturns : s.data.sendBuffer.bytes.length / s.data.mss.toNat ≤ turns) (hh : s.hung = false) :
    FirstBlock s now (s.flushSegments (St.sendBound s.data) now turns) := by
  have hb := sendBound_toNat_le s.data
  have hfits := s.data.sendBuffer.fits
  unfold BUFFER_SIZE at hfits
  have hdiv : ∀ k, ((St.sendBound s.data).toNat - k) / s.data.mss.toNat ≤
      s.data.sendBuffer.bytes.length / s.data.mss.toNat :=
    fun k => Nat.div_le_div_right (by omega)
  have hzero : (0 : U32) ≤ St.sendBound s.data := by bv_omega
  unfold St.flushSegments
  dsimp only
  split_ifs with h1 h2 h3
  · -- everything is sent again, without a push since the stream goes on
    have hgo : s.data.receiveFromServerFinished = false := by
      by_contra hc
      exact absurd (h1.symm.trans (hno (by simpa using hc))) (by decide)
    have hpush : St.finNotAcknowledged s.data = false := by
      simp [St.finNotAcknowledged, hgo, hf]
    rw [hpush]
    obtain ⟨h4, h5, h6, h7, h8⟩ := @sendData_segments s now _ _ hm (by omega) hzero (turns + 1)
      (le_trans (hdiv _) (by omega)) hh
    exact ⟨h4, le_trans h5 (Nat.add_le_add_left (hdiv _) _), h6, h7,
      fun hc => absurd (hgo.symm.trans hc) (by decide)⟩
  · have hz := @sendNextOffset_eq now _ (by simpa using h1)
    have h4 := @sendData_segments s now s.data.sendNextOffset _ hm (by omega)
      (by rw [hz]; exact hzero) (turns + 1) (le_trans (hdiv _) (by omega)) hh
    exact absurd (h4.1.symm.trans h3) (by decide)
  · have hz := @sendNextOffset_eq now _ (by simpa using h1)
    obtain ⟨h4, h5, h6, h7, h8⟩ := @sendData_segments s now s.data.sendNextOffset _ hm
      (by omega) (by rw [hz]; exact hzero) (turns + 1) (le_trans (hdiv _) (by omega)) hh
    have hnew : s.data.mss.toNat < (St.sendBound s.data).toNat := by
      have h9 := h2
      unfold St.newDataDue at h9
      rw [decide_eq_true_eq, hz, BitVec.lt_def, mss_toNat] at h9
      simpa using h9
    generalize s.sendDataStartingFrom s.data.sendNextOffset s.data.mss false (St.sendBound s.data) now
      (turns + 1) = t at h4 h5 h6 h7 h8
    obtain ⟨k1, k2, k3, k4, k5⟩ := trackRTT_keeps t now
    refine ⟨k1.trans h4, ?_, k3.trans h6, ?_, fun _ => ⟨?_, ?_⟩⟩
    · rw [k2]
      exact le_trans h5 (Nat.add_le_add_left (hdiv _) _)
    · rw [k4]
      exact h7
    · rw [k4]
      exact (h8 hz).1
    · rw [if_pos h2, k5]
      exact (h8 hz).2 hnew
  · have hz := @sendNextOffset_eq now _ (by simpa using h1)
    refine ⟨hh, Nat.le_add_right _ _, rfl, ?_, fun _ => ⟨by rw [hz]; exact hzero, by rw [if_neg h2]⟩⟩
    unfold St.newDataDue at h2
    rw [decide_eq_true_eq, hz, BitVec.lt_def, mss_toNat] at h2
    rw [hz]
    simp at h2
    simpa using h2

theorem still_eq {d d' : Data} (h : d'.still = d.still) :
    d'.receiveFromServerFinished = d.receiveFromServerFinished ∧ d'.mss = d.mss ∧
      d'.rttHistory = d.rttHistory := by
  have h1 := congrArg Data.receiveFromServerFinished h
  have h2 := congrArg Data.mss h
  have h3 := congrArg Data.rttHistory h
  exact ⟨h1, h2, h3⟩

/-- a run that pushes in the second block returns, if the stream goes on -/
theorem flushRest_returns {t : St} (ht : FirstBlock s now t) (fin : Bool) (turns : Nat)
    (hgo : s.data.receiveFromServerFinished = true →
      St.pushDue t.data (St.sendBound s.data) fin now = false) :
    (t.flushRest (St.sendBound s.data) fin now turns).hung = false ∧
      (t.flushRest (St.sendBound s.data) fin now turns).log.length ≤ t.log.length + 1 := by
  have hb := sendBound_toNat_le s.data
  have hfits := s.data.sendBuffer.fits
  unfold BUFFER_SIZE at hfits
  obtain ⟨k1, k2, k3⟩ := still_eq ht.still
  unfold St.flushRest
  split_ifs with h
  · have hgoing : t.data.receiveFromServerFinished = false := by
      rw [k1]
      by_contra hc
      exact absurd (h.symm.trans (hgo (by simpa using hc))) (by decide)
    obtain ⟨ack, h1, h2, _⟩ := sendData_spec t t.data.sendNextOffset t.data.mss true
      (St.sendBound s.data) now (turns + 1)
    have h3 := @push_ends t.data.mss ack (St.sendBound s.data) t.data.sendNextOffset
      { t with packet := t.packet.setWindow t.data.receiveBuffer.available } turns hgoing (by omega)
      (by rw [k2]; exact ht.rest) ht.hung
    rw [h1, h2]
    exact h3
  · exact ⟨ht.hung, Nat.le_add_right _ _⟩

/-- a push at the end of the stream, from an offset within the bound, never ends -/
theorem sendData_hangs {t : St} {off bound : U32} (hended : t.data.receiveFromServerFinished = true)
    (hb : bound.toNat ≤ 65535) (ho : off ≤ bound) (mss : U16) (turns : Nat) :
    (t.sendDataStartingFrom off mss true bound now turns).hung = true := by
  obtain ⟨ack, h1, _⟩ := sendData_spec t off mss true bound now turns
  rw [h1]
  exact (@push_hangs mss ack bound off
    { t with packet := t.packet.setWindow t.data.receiveBuffer.available } turns hended hb ho).1

/-- whatever the first block did, from the end of the stream on a due push never ends -/
theorem flushRest_hangs {t : St} {bound : U32} (hended : t.data.receiveFromServerFinished = true)
    (hb : bound.toNat ≤ 65535) (ho : t.data.sendNextOffset ≤ bound) {fin : Bool}
    (hdue : St.pushDue t.data bound fin now = true) (turns : Nat) :
    (t.flushRest bound fin now turns).hung = true := by
  unfold St.flushRest
  rw [if_pos hdue]
  exact sendData_hangs hended hb ho _ _

theorem flushDataToClient_hangs (hs : s.data.state = .ESTABLISHED) (h : PushesAtEnd s.data now)
    (turns : Nat) : (s.flushDataToClient now turns).hung = true := by
  obtain ⟨hended, hf, hdue⟩ := h
  have hb := sendBound_toNat_le s.data
  have hfits := s.data.sendBuffer.fits
  unfold BUFFER_SIZE at hfits
  have hzero : (0 : U32) ≤ St.sendBound s.data := by bv_omega
  have hb' : (St.sendBound s.data).toNat ≤ 65535 := by omega
  unfold St.flushDataToClient
  rw [if_neg (by simp [hs, hf])]
  dsimp only
  -- either the first block hangs, or it leaves a push that is due to the second
  have key : (s.flushSegments (St.sendBound s.data) now turns).hung = true ∨
      ((s.flushSegments (St.sendBound s.data) now turns).flushRest (St.sendBound s.data)
        (St.finNotSent s.data) now turns).hung = true := by
    unfold St.flushSegments
    by_cases h1 : St.resendDue s.data now = true
    · have hpush : St.finNotAcknowledged s.data = true := by
        simp [St.finNotAcknowledged, hended, hf]
      rw [if_pos h1, hpush]
      exact .inl (sendData_hangs hended hb' hzero _ _)
    · have hz := @sendNextOffset_eq now _ (by simpa using h1)
      have hdue' := hdue.resolve_left h1
      rw [if_neg h1]
      by_cases h2 : St.newDataDue s.data (St.sendBound s.data) = true
      · rw [if_pos h2] at hdue' ⊢
        dsimp only
        by_cases h3 : (s.sendDataStartingFrom s.data.sendNextOffset s.data.mss false
            (St.sendBound s.data) now (turns + 1)).hung = true
        · rw [if_pos h3]
          exact .inl h3
        · rw [if_neg h3]
          obtain ⟨ack, k1, k2, k3, k4, k5⟩ := sendData_spec s s.data.sendNextOffset s.data.mss false
            (St.sendBound s.data) now (turns + 1)
          have hle := @sendLoop_le_bound s.data.mss ack _ _
            { s with packet := s.packet.setWindow s.data.receiveBuffer.available } false (turns + 1)
            (show s.data.sendNextOffset ≤ St.sendBound s.data by rw [hz]; exact hzero)
          have h4 := k4 (by rw [← k1]; simpa using h3)
          obtain ⟨j1, _, _⟩ := still_eq k3
          generalize s.sendDataStartingFrom s.data.sendNextOffset s.data.mss false
            (St.sendBound s.data) now (turns + 1) = t at h4 j1
          obtain ⟨_, _, m3, m4, m5⟩ := trackRTT_keeps t now
          obtain ⟨n1, _, _⟩ := still_eq m3
          refine .inr (flushRest_hangs (n1.trans (j1.trans hended)) hb' ?_ ?_ turns)
          · rw [m4, h4]
            split_ifs
            · exact hle
            · rw [hz]; exact hzero
          · unfold St.pushDue
            simp [hdue']
      · rw [if_neg h2] at hdue' ⊢
        exact .inr (flushRest_hangs hended hb' (by rw [hz]; exact hzero) hdue' turns)
  rcases key with h1 | h1
  · rw [if_pos h1]
    exact h1
  · split_ifs with h2
    · exact h2
    · exact h1

/-- **One call.**  It returns unless it pushes at the end of the server's stream, and then it has
sent two segments more at most than the buffered bytes fill. -/
theorem flushDataToClient_returns (hs : s.data.state = .ESTABLISHED) (hh : s.hung = false)
    (ht : Timed IP_MSS s.data) (hm : 0 < IP_MSS) : ReturnsWithin
      (s.data.sendBuffer.bytes.length / IP_MSS.toNat + 2) s now ↔ ¬ PushesAtEnd s.data now := by
  constructor
  · intro h hp
    have h1 := (h _ (le_refl _)).1
    exact absurd (h1.symm.trans (flushDataToClient_hangs hs hp _)) (by decide)
  · intro hp turns hturns
    by_cases hf : s.data.flushToClientFinished = true
    · have e : s.flushDataToClient now turns = s := by
        unfold St.flushDataToClient
        rw [if_pos (.inr hf)]
      rw [e]
      exact ⟨hh, Nat.le_add_right _ _⟩
    · have hf' : s.data.flushToClientFinished = false := by simpa using hf
      have hmss : 0 < s.data.mss.toNat := by
        rw [ht.mss]
        exact hm
      have hno : s.data.receiveFromServerFinished = true → ¬ (St.resendDue s.data now = true ∨
          if St.newDataDue s.data (St.sendBound s.data) = true then St.finNotSent s.data = true
          else St.pushDue s.data (St.sendBound s.data) (St.finNotSent s.data) now = true) :=
        fun h1 h2 => hp ⟨h1, hf', h2⟩
      rw [← ht.mss] at hturns ⊢
      have hfirst := @flushSegments_returns s now hmss hf'
        (fun h1 => by simpa using fun h2 => hno h1 (.inl h2)) turns (by omega) hh
      have hrest := flushRest_returns hfirst (St.finNotSent s.data) turns (by
        intro h1
        have h2 := fun h3 => hno h1 (.inr h3)
        have h3 := (hfirst.ended h1).2
        split_ifs at h2 h3 with h4
        · -- the first block has just sent, so only the FIN could make a push due
          have hmean := ht.mean
          unfold St.pushDue
          rw [h3, decide_eq_false_iff_not, Data.getMeanRTT, (still_eq hfirst.still).2.2]
          rintro (⟨_, h5⟩ | h5)
          · unfold Data.getMeanRTT at hmean
            omega
          · exact h2 h5
        · rw [h3]
          simpa using h2)
      have hprobe := probe_returns ((s.flushSegments (St.sendBound s.data) now turns).flushRest
        (St.sendBound s.data) (St.finNotSent s.data) now turns) now
      have hlog := hfirst.log
      unfold St.flushDataToClient
      rw [if_neg (by simp [hs, hf'])]
      dsimp only
      rw [if_neg (by simp [hfirst.hung]), if_neg (by simp [hrest.1])]
      refine ⟨hprobe.1.trans hrest.1, ?_⟩
      omega

end

/-! ## every reachable state -/

section
variable {IP_MSS : U16} {s : St}

theorem Timed.keep {d d' : Data} (h : Timed IP_MSS d) (hm : d'.mss = d.mss)
    (hr : d'.rttHistory = d.rttHistory) : Timed IP_MSS d' :=
  ⟨hm.trans h.mss, by rw [hr]; exact h.length, by rw [hr]; exact h.rtt⟩

theorem Timed.pushRTT {d : Data} (h : Timed IP_MSS d) (rtt : Int) : Timed IP_MSS (d.pushRTT rtt) := by
  refine ⟨h.mss, ?_, ?_⟩
  · show (d.rttHistory.tail ++ [_]).length = 5
    rw [List.length_append, List.length_tail, h.length]
    rfl
  intro t ht
  unfold Data.pushRTT at ht
  rw [List.mem_append, List.mem_singleton] at ht
  rcases ht with ht | rfl
  · exact h.rtt t (List.mem_of_mem_tail ht)
  · exact le_trans (by decide) (le_max_right _ _)

theorem timed_opened {d : Data} (h : d.rttHistory.length = 5) (p : Packet) (i : ClientInput) :
    Timed IP_MSS (St.opened d IP_MSS p i) := by
  refine ⟨rfl, (List.length_map _).trans h, ?_⟩
  intro t ht
  obtain ⟨_, _, rfl⟩ := List.mem_map.mp ht
  decide

theorem Timed.close (h : Timed IP_MSS s.data) : Timed IP_MSS s.closeSession.data := by
  rw [St.closeSession_data]
  exact h.keep rfl rfl

theorem Timed.acceptSegment (h : Timed IP_MSS s.data) (i : ClientInput) :
    Timed IP_MSS (s.acceptSegment i).data := by
  have window : ∀ off, Timed IP_MSS (s.acceptWindow off i.now).data := by
    intro off
    unfold St.acceptWindow
    split_ifs
    · exact h.keep rfl rfl
    · exact h
  have advance : ∀ {t : St} (amt : U32), Timed IP_MSS t.data → Timed IP_MSS (t.advance amt).data := by
    intro t amt ht
    unfold St.advance
    dsimp only
    split_ifs
    · rw [St.setIn_data]
      exact ht.keep rfl rfl
    · exact ht
  have sample : ∀ {t : St}, Timed IP_MSS t.data → Timed IP_MSS (t.sampleRTT i.now).data := by
    intro t ht
    unfold St.sampleRTT
    dsimp only
    split_ifs
    · exact (ht.pushRTT (i.now - t.data.rttSendTime)).keep rfl rfl
    · exact ht
  have payload : ∀ {t : St}, Timed IP_MSS t.data →
      Timed IP_MSS (t.acceptPayload i.nowAcknowledge).data := by
    intro t ht
    obtain ⟨b, fin, hd⟩ := (acceptPayload_accept t i.nowAcknowledge).data
    rw [hd]
    exact ht.keep rfl rfl
  unfold St.acceptSegment St.acceptAck
  dsimp only
  split_ifs
  · exact (window _).close
  · exact payload (sample (advance _ (Timed.keep (window _) rfl rfl)))
  · exact payload (sample (advance _ (window _)))

theorem Timed.client (h : Timed IP_MSS s.data) (i : ClientInput) :
    Timed IP_MSS (s.handlePacket IP_MSS i).data := by
  have hstep := handlePacket_step IP_MSS s i
  generalize s.handlePacket IP_MSS i = s' at hstep ⊢
  cases hstep with
  | same => exact h
  | reset => rw [(sendReset_reply s).data]; exact h
  | ack hs => exact h
  | synAck hs => exact h
  | opened res hs hsyn hack hshift hres =>
    have h0 := @timed_opened IP_MSS s.data h.length s.packet i
    unfold St.openConnected
    dsimp only
    split_ifs
    · simp only [St.sendSynAck, St.sendBack_data, St.setIn_data]
      exact h0.keep rfl rfl
    · simp only [St.setIn_data]
      exact h0.keep rfl rfl
  | closed hs hsyn hrst hwin => exact h.close
  | established hs hseq hack =>
    unfold St.establish
    dsimp only
    rw [St.setIn_data]
    exact (Timed.pushRTT (h.keep rfl rfl) _).keep rfl rfl
  | accepted hs hsyn hrst hack hseq hrange => exact h.acceptSegment i

theorem Timed.read (h : Timed IP_MSS s.data) (r : RecvResult) :
    Timed IP_MSS (s.readFromServer r).data := by
  unfold St.readFromServer
  cases r with
  | bytes bs =>
    dsimp only
    split_ifs
    · simp only [St.emit_data, St.unsetFrom_data]
      exact h.keep rfl rfl
    · exact h.keep rfl rfl
  | wouldBlock => exact h
  | error =>
    simp only [St.unsetFrom_data]
    exact h.keep rfl rfl

theorem Timed.flush (h : Timed IP_MSS s.data) (now : Int) (turns : Nat) :
    Timed IP_MSS (s.flushDataToClient now turns).data := by
  obtain ⟨_, h2, h3⟩ := still_eq (flushDataToClient_still s now turns)
  exact h.keep h2 h3

theorem Timed.server (h : Timed IP_MSS s.data) (lastError : Int) (r : SendResult) (now now' : Int) :
    Timed IP_MSS (s.flushDataToServer lastError r now now').data := by
  unfold St.flushDataToServer
  split_ifs
  · unfold St.finishConnect
    dsimp only
    split_ifs
    · exact h
    · rw [St.unsetFrom_data]
      exact h.keep rfl rfl
    · exact Timed.close h
  · exact h
  · unfold St.sendToServer
    split
    · exact Timed.close h
    · unfold St.finishSend
      dsimp only
      split_ifs
      · refine Timed.close ?_
        rw [St.unsetFrom_data]
        exact h
      · simp only [St.emit_data, St.unsetFrom_data]
        exact h.keep rfl rfl
      · simp only [St.unsetFrom_data, St.emit_data]
        exact h.keep rfl rfl
      · exact h.keep rfl rfl

theorem Timed.call (h : Timed IP_MSS s.data) (op : Op) : Timed IP_MSS (step IP_MSS s op).data := by
  unfold step
  split_ifs
  · exact h
  · cases op with
    | receiveFromClient p i =>
      dsimp only
      unfold receiveFromClient
      split_ifs
      · exact @Timed.client IP_MSS { s with packet := p.val } h i
      · exact h
    | receiveFromServer r now turns =>
      dsimp only
      by_cases h0 : s.data.state = .ESTABLISHED ∧ s.data.receiveFromServerFinished = false
      · have h1 := (h.read r).flush now turns
        rcases receiveFromServer_open h0.1 h0.2 r now turns with h2 | h2
        · rw [h2]; exact h1
        · rw [h2, St.unsetFrom_data]; exact h1
      · rw [receiveFromServer_skip h0]
        exact h
    | flushDataToServer lastError r now now' => exact h.server lastError r now now'
    | flushDataToClient now turns => exact h.flush now turns
    | onSocketError => exact Timed.close h
    | checkStatus now now' =>
      dsimp only
      rcases checkStatus_cases s now now' with ⟨_, h1⟩ | ⟨_, h1⟩ | ⟨_, h1⟩
      · rw [h1]; exact h
      · rw [h1]; exact h
      · rw [h1]; exact h.close
    | closeSession => exact h.close

theorem timed_reached {s0 : St} (h0 : s0.data = .init IP_MSS) (ops : List Op) :
    Timed IP_MSS (run (step IP_MSS) s0 ops).data := by
  have h1 : Timed IP_MSS s0.data := by
    rw [h0]
    refine ⟨rfl, rfl, ?_⟩
    intro r hr
    rw [List.eq_of_mem_replicate hr]
    decide
  exact run_inv (fun s : St => Timed IP_MSS s.data) (fun s op h _ => h.call op) h1
    (along_true (step IP_MSS) s0 ops)

end

/-- the states in which `flushDataToClient` is entered: by itself, or after a read -/
def Enters (s t : St) : Prop :=
  t = s ∨ s.data.receiveFromServerFinished = false ∧ ∃ r, t = s.readFromServer r

/-- **`flushDataToClient` returns unless it pushes at the end of the server's stream.**  Whenever an
established session enters it, by itself or inside `receiveFromServer`, after whatever calls: it
returns, having sent at most two segments more than the buffered bytes fill, exactly if no push is
due once the stream has ended; and if one is due, it never returns. -/
theorem flush_returns_iff {IP_MSS : U16} {s0 : St} (h0 : s0.data = .init IP_MSS) (ops : List Op)
    (hh : (run (step IP_MSS) s0 ops).hung = false)
    (hs : (run (step IP_MSS) s0 ops).data.state = .ESTABLISHED) (hm : 0 < IP_MSS) (now : Int) {t : St}
    (ht : Enters (run (step IP_MSS) s0 ops) t) :
    (ReturnsWithin (t.data.sendBuffer.bytes.length / IP_MSS.toNat + 2) t now ↔
      ¬ PushesAtEnd t.data now) ∧
    (PushesAtEnd t.data now → ∀ turns, (t.flushDataToClient now turns).hung = true) := by
  have h2 := timed_reached h0 ops
  generalize run (step IP_MSS) s0 ops = s at hh hs h2 ht
  have h3 : t.data.state = .ESTABLISHED ∧ t.hung = false ∧ Timed IP_MSS t.data := by
    rcases ht with rfl | ⟨_, r, rfl⟩
    · exact ⟨hs, hh, h2⟩
    · exact ⟨(readFromServer_read s r).up.state.trans hs, (readFromServer_hung s r).trans hh, h2.read r⟩
  exact ⟨flushDataToClient_returns h3.1 h3.2.1 h3.2.2 hm, flushDataToClient_hangs h3.1⟩

/-- the handshake, and the server ends its stream at once -/
def endsAtOnce : List Op :=
  [.receiveFromClient (ackPacket clientA serverA 101 1000 1000) connected,
   .receiveFromServer (.bytes []) 0 0]

def opening : Op := .receiveFromClient (synPacket clientA serverA 100 1000) connected

theorem flush_returns_at_once :
    let t := run (step 576) (unused 576) (opening :: endsAtOnce)
    (ReturnsWithin (t.data.sendBuffer.bytes.length / 576 + 2) t 0 ↔ ¬ PushesAtEnd t.data 0) ∧
      (PushesAtEnd t.data 0 → ∀ turns, (t.flushDataToClient 0 turns).hung = true) :=
  @flush_returns_iff 576 (unused 576) rfl (opening :: endsAtOnce) (by decide) (by decide)
    (by decide) 0 _ (.inl rfl)

/-- A second after the end of the stream the FIN is to be sent again, and the loop never ends. -/
theorem flush_never_returns :
    ¬ ∀ (IP_MSS : U16) (s0 : St) (ops : List Op), s0.data = .init IP_MSS →
      (run (step IP_MSS) s0 ops).hung = false →
      (run (step IP_MSS) s0 ops).data.state = .ESTABLISHED → 0 < IP_MSS →
      ∀ now, ∃ n, ReturnsWithin n (run (step IP_MSS) s0 ops) now := by
  intro h
  obtain ⟨n, hn⟩ := h 576 (unused 576) (opening :: endsAtOnce) rfl (by decide) (by decide)
    (by decide) 1000000000
  have h1 := @flushDataToClient_hangs (run (step 576) (unused 576) (opening :: endsAtOnce))
    1000000000 (by decide) (by decide) n
  exact absurd ((hn n (le_refl n)).1.symm.trans h1) (by decide)

end TunServer.Sessions2
