import TunServer.Sessions2.Handshake
import TunServer.Sessions2.Space

/-!
# What an acknowledgement does

* `Acknowledged`   what a segment that is taken in does to the send state;
* `Represented`    the invariant of the buffers and flags, which every call that returns keeps;
* `represented_run`, `ack_exact`   both for every state that calls reach;
* `puts_uncut`     what is put into a buffer has room there.
-/

set_option linter.unusedVariables false

namespace TunServer.Sessions2

/-! ## one segment -/

/-- what a segment that is taken in, and does not close the session, makes of the send state -/
structure Acknowledged (d : Data) (p : Packet) (d' : Data) : Prop where
  bytes : d'.sendBuffer.bytes = d.sendBuffer.bytes.drop (ackedBytes d p).toNat
  una : d'.sendUnacknowledged = d.sendUnacknowledged + ackedBytes d p
  next : d'.sendNextOffset = d.sendNextOffset - ackedBytes d p
  edge : d'.sendWindowRightEdge = scaledWindow p d.sendWindowShift
  fin : d'.flushToClientFinished =
    (d.flushToClientFinished || decide (d.sendNextOffset < St.ackOff d p))
  sent : d'.sentFinToClient = d.sentFinToClient
  shift : d'.sendWindowShift = d.sendWindowShift

section
variable {s : St}

theorem advance_una {amt : U32} (hamt : amt.toNat ≤ 65535) :
    (s.advance amt).data.sendUnacknowledged = s.data.sendUnacknowledged + amt := by
  have hint : amt.toInt = amt.toNat := BitVec.toInt_eq_toNat_of_lt (by omega)
  unfold St.advance
  dsimp only
  split_ifs with h
  · rw [St.setIn_data]
    rfl
  · have hz : amt = 0 := by
      rw [hint] at h
      exact BitVec.eq_of_toNat_eq (by simp; omega)
    rw [hz]
    exact (BitVec.add_zero _).symm

/-- the round trip time is no part of the send state -/
theorem sampleRTT_una (s : St) (now : Int) :
    (s.sampleRTT now).data.sendUnacknowledged = s.data.sendUnacknowledged ∧
    (s.sampleRTT now).data.sendWindowRightEdge = s.data.sendWindowRightEdge ∧
    (s.sampleRTT now).data.sendWindowShift = s.data.sendWindowShift := by
  unfold St.sampleRTT
  dsimp only
  split_ifs <;> exact ⟨rfl, rfl, rfl⟩

/-- an acknowledgement in range lies below the sign bit -/
theorem ackOff_le {d : Data} {p : Packet} (h : Marks d) (hrange : St.ackInRange d p = true) :
    (St.ackOff d p).toNat ≤ d.sendNextOffset.toNat + 1 := by
  have hpos := d.sendBuffer.position_le
  have hnext := h.next
  have hb := b32_le d.sentFinToClient
  unfold St.ackInRange at hrange
  rw [decide_eq_true_eq] at hrange
  bv_omega

/-- beyond the data only the FIN can be acknowledged, and with it all of the data -/
theorem fin_acked {d : Data} {p : Packet} (h : Marks d) (hrange : St.ackInRange d p = true)
    (hlt : d.sendNextOffset < St.ackOff d p) :
    d.sentFinToClient = true ∧ ackedBytes d p = d.sendBuffer.position := by
  have hpos := d.sendBuffer.position_le
  have hnext := h.next
  unfold St.ackInRange at hrange
  rw [decide_eq_true_eq] at hrange
  have hsent : d.sentFinToClient = true := by
    by_contra hc
    rw [Bool.not_eq_true] at hc
    rw [hc, b32_false] at hrange
    bv_omega
  obtain ⟨_, hall⟩ := h.fin hsent
  rw [hsent, b32_true] at hrange
  refine ⟨hsent, ?_⟩
  unfold ackedBytes
  rw [if_pos hlt]
  bv_omega

/-- the window of the segment is taken over -/
theorem acceptWindow_edge {off : U32} (hoff : off.toNat ≤ 65536) (now : Int) :
    (s.acceptWindow off now).data.sendWindowRightEdge = scaledWindow s.packet s.data.sendWindowShift ∧
    (s.acceptWindow off now).data.sendUnacknowledged = s.data.sendUnacknowledged ∧
    (s.acceptWindow off now).data.sendWindowShift = s.data.sendWindowShift := by
  have hint : off.toInt = off.toNat := BitVec.toInt_eq_toNat_of_lt (by omega)
  have hpos : 0 ≤ off.toInt := by
    rw [hint]
    exact Int.natCast_nonneg _
  unfold St.acceptWindow
  rw [if_pos hpos]
  exact ⟨rfl, rfl, rfl⟩

/-- the acknowledgement of `off`, after the window -/
theorem acceptAck_acknowledged {off : U32} (hm : Marks s.data)
    (hamt : (if s.data.sendNextOffset < off then off - 1 else off) ≤ s.data.sendNextOffset) (now : Int) :
    let amt := if s.data.sendNextOffset < off then off - 1 else off
    let d' := (s.acceptAck off now).data
    d'.sendBuffer.bytes = s.data.sendBuffer.bytes.drop amt.toNat ∧
    d'.sendUnacknowledged = s.data.sendUnacknowledged + amt ∧
    d'.sendNextOffset = s.data.sendNextOffset - amt ∧
    d'.sendWindowRightEdge = s.data.sendWindowRightEdge ∧
    d'.flushToClientFinished = (s.data.flushToClientFinished || decide (s.data.sendNextOffset < off)) ∧
    d'.sentFinToClient = s.data.sentFinToClient ∧ d'.sendWindowShift = s.data.sendWindowShift := by
  have hpos := s.data.sendBuffer.position_le
  have hsmall : ∀ {amt : U32}, amt ≤ s.data.sendNextOffset → amt.toNat ≤ 65535 := by
    intro amt h
    have h1 := hm.next
    bv_omega
  -- the flag apart, both branches do the same
  have key : ∀ {t : St} {amt : U32}, amt ≤ s.data.sendNextOffset →
      t.data = { (s.advance amt).data with flushToClientFinished := t.data.flushToClientFinished } →
      (t.sampleRTT now).data.sendBuffer.bytes = s.data.sendBuffer.bytes.drop amt.toNat ∧
      (t.sampleRTT now).data.sendUnacknowledged = s.data.sendUnacknowledged + amt ∧
      (t.sampleRTT now).data.sendNextOffset = s.data.sendNextOffset - amt ∧
      (t.sampleRTT now).data.sendWindowRightEdge = s.data.sendWindowRightEdge ∧
      (t.sampleRTT now).data.flushToClientFinished = t.data.flushToClientFinished ∧
      (t.sampleRTT now).data.sentFinToClient = s.data.sentFinToClient ∧
      (t.sampleRTT now).data.sendWindowShift = s.data.sendWindowShift := by
    intro t amt hle ht
    have ha := advance_advanced hm hle
    have hu := @advance_una s amt (hsmall hle)
    obtain ⟨hk, _⟩ := sampleRTT_accounts t now
    obtain ⟨h1, h2, h3⟩ := sampleRTT_una t now
    rw [hk.sendBuffer, hk.sendNextOffset, hk.flushToClientFinished, hk.sentFinToClient, h1, h2, h3, ht]
    dsimp only
    rw [hu, ha.bytes]
    have hd := ha.data
    generalize (s.advance amt).data = d at hd ⊢
    rw [hd]
    exact ⟨rfl, rfl, rfl, rfl, rfl, rfl, rfl⟩
  dsimp only
  unfold St.acceptAck
  split_ifs at hamt ⊢ with hlt
  · have hd := (advance_flag s (off - 1)).1
    obtain ⟨h1, h2, h3, h4, h5, h6, h7⟩ := key hamt (t := { s with
      data.flushToClientFinished := true }.advance (off - 1)) (by rw [hd])
    refine ⟨h1, h2, h3, h4, ?_, h6, h7⟩
    rw [h5, hd, decide_eq_true hlt, Bool.or_true]
  · obtain ⟨h1, h2, h3, h4, h5, h6, h7⟩ := key hamt (t := s.advance off) rfl
    refine ⟨h1, h2, h3, h4, ?_, h6, h7⟩
    rw [h5, advance_keeps_flag, decide_eq_false hlt, Bool.or_false]

/-- **A segment that is taken in** takes the acknowledged bytes, and no others, out of the send
buffer. -/
theorem acceptSegment_acknowledged (hm : Marks s.data)
    (hrange : St.ackInRange s.data s.packet = true) (hopen : ¬ closes s.data s.packet)
    (i : ClientInput) : Acknowledged s.data s.packet (s.acceptSegment i).data := by
  have hamt := ackedBytes_le hm hrange
  have hoff := ackOff_le hm hrange
  have hpos := s.data.sendBuffer.position_le
  have hnext := hm.next
  obtain ⟨hk, _⟩ := acceptWindow_accounts s (St.ackOff s.data s.packet) i.now
  obtain ⟨hw1, hw2, hw3⟩ := @acceptWindow_edge s (St.ackOff s.data s.packet) (by bv_omega) i.now
  have e : s.acceptSegment i = ((s.acceptWindow (St.ackOff s.data s.packet) i.now).acceptAck
      (St.ackOff s.data s.packet) i.now).acceptPayload i.nowAcknowledge := by
    unfold St.acceptSegment
    refine if_neg ?_
    rw [hk.sendNextOffset, hk.flushToServerFinished]
    exact hopen
  have ha := @acceptAck_acknowledged (s.acceptWindow (St.ackOff s.data s.packet) i.now)
    (St.ackOff s.data s.packet) (hm.keep hk) (by rw [hk.sendNextOffset]; exact hamt) i.now
  rw [hk.sendNextOffset, hk.sendBuffer, hk.flushToClientFinished, hk.sentFinToClient, hw1, hw2,
    hw3] at ha
  obtain ⟨h1, h2, h3, h4, h5, h6, h7⟩ := ha
  rw [e]
  generalize (s.acceptWindow (St.ackOff s.data s.packet) i.now).acceptAck
    (St.ackOff s.data s.packet) i.now = t at h1 h2 h3 h4 h5 h6 h7 ⊢
  obtain ⟨b, fin, hd⟩ := (acceptPayload_accept t i.nowAcknowledge).data
  rw [hd]
  exact ⟨h1, h2, h3, h4, h5, h6, h7⟩

end

/-! ## the invariant -/

/-- The buffers and the flags of a session agree: what was sent lies in the send buffer, the FIN was
sent after all of it and is acknowledged last, and the server is told of the client's end after the
client's FIN. -/
structure Represented (d : Data) : Prop where
  marks : Marks d
  finAcked : d.flushToClientFinished = true → d.sentFinToClient = true ∧ d.sendBuffer.bytes = []
  told : d.flushToServerFinished = true → d.receiveFromClientFinished = true
  shift : d.sendWindowShift ≤ 14

section
variable {s : St}

theorem Represented.keep {d d' : Data} (h : Represented d) (hd : KeepsAccounts d d')
    (hs : d'.sendWindowShift = d.sendWindowShift) : Represented d' := by
  refine ⟨h.marks.keep hd, ?_, ?_, ?_⟩
  · rw [hd.flushToClientFinished, hd.sentFinToClient, hd.sendBuffer]
    exact h.finAcked
  · rw [hd.flushToServerFinished, hd.receiveFromClientFinished]
    exact h.told
  · rw [hs]
    exact h.shift

theorem Represented.close (h : Represented s.data) : Represented s.closeSession.data := by
  rw [St.closeSession_data]
  exact h.keep ⟨rfl, rfl, rfl, rfl, rfl, rfl, rfl, rfl⟩ rfl

theorem Represented.acceptSegment (h : Represented s.data)
    (hrange : St.ackInRange s.data s.packet = true) (i : ClientInput) :
    Represented (s.acceptSegment i).data := by
  by_cases hcl : closes s.data s.packet
  · obtain ⟨hk, _⟩ := acceptWindow_accounts s (St.ackOff s.data s.packet) i.now
    have hs : (s.acceptWindow (St.ackOff s.data s.packet) i.now).data.sendWindowShift =
        s.data.sendWindowShift := by
      unfold St.acceptWindow
      split_ifs <;> rfl
    have e : s.acceptSegment i =
        (s.acceptWindow (St.ackOff s.data s.packet) i.now).closeSession := by
      unfold St.acceptSegment
      refine if_pos ?_
      rw [hk.sendNextOffset, hk.flushToServerFinished]
      exact hcl
    rw [e]
    exact (h.keep hk hs).close
  · have ha := acceptSegment_acknowledged h.marks hrange hcl i
    obtain ⟨hd, _⟩ := acceptSegment_sets s i hcl
    refine ⟨h.marks.acceptSegment hrange i, ?_, ?_, ?_⟩
    · rw [ha.fin, ha.sent, ha.bytes, Bool.or_eq_true, decide_eq_true_eq]
      rintro (hf | hlt)
      · obtain ⟨h1, h2⟩ := h.finAcked hf
        exact ⟨h1, by rw [h2, List.drop_nil]⟩
      · obtain ⟨h1, h2⟩ := fin_acked h.marks hrange hlt
        exact ⟨h1, by rw [h2, SmartBuffer.position_toNat, List.drop_length]⟩
    · rw [hd.flushToServerFinished, hd.receiveFromClientFinished]
      exact fun hf => .inl (h.told hf)
    · rw [ha.shift]
      exact h.shift

theorem Represented.client {IP_MSS : U16} (h : Represented s.data) (i : ClientInput) :
    Represented (s.handlePacket IP_MSS i).data := by
  have hstep := handlePacket_step IP_MSS s i
  generalize s.handlePacket IP_MSS i = s' at hstep ⊢
  cases hstep with
  | same => exact h
  | reset => rw [(sendReset_reply s).data]; exact h
  | ack hs => exact h
  | synAck hs => exact h
  | opened res hs hsyn hack hshift hres =>
    have h0 : Represented (St.opened s.data IP_MSS s.packet i) :=
      ⟨⟨BitVec.le_refl (0 : U32), Bool.noConfusion⟩, Bool.noConfusion, Bool.noConfusion, hshift⟩
    unfold St.openConnected
    dsimp only
    split_ifs
    · simp only [St.sendSynAck, St.sendBack_data, St.setIn_data]
      exact h0.keep ⟨rfl, rfl, rfl, rfl, rfl, rfl, rfl, rfl⟩ rfl
    · simp only [St.setIn_data]
      exact h0.keep ⟨rfl, rfl, rfl, rfl, rfl, rfl, rfl, rfl⟩ rfl
  | closed hs hsyn hrst hwin => exact h.close
  | established hs hseq hack =>
    unfold St.establish
    dsimp only
    rw [St.setIn_data]
    exact h.keep ⟨rfl, rfl, rfl, rfl, rfl, rfl, rfl, rfl⟩ rfl
  | accepted hs hsyn hrst hack hseq hrange => exact h.acceptSegment hrange i

theorem Represented.read (h : Represented s.data) (hf : s.data.receiveFromServerFinished = false)
    (r : RecvResult) : Represented (s.readFromServer r).data := by
  -- the stream goes on, so no FIN was acknowledged
  have hfin : ¬ s.data.flushToClientFinished = true :=
    fun hc => absurd (hf.symm.trans (h.marks.fin (h.finAcked hc).1).1) (by decide)
  have hup := (readFromServer_read s r).up
  have hrest : (s.readFromServer r).data.flushToClientFinished = s.data.flushToClientFinished ∧
      (s.readFromServer r).data.sendWindowShift = s.data.sendWindowShift := by
    unfold St.readFromServer
    cases r with
    | bytes bs =>
      dsimp only
      split_ifs
      · simp
      · exact ⟨rfl, rfl⟩
    | wouldBlock => exact ⟨rfl, rfl⟩
    | error => simp
  refine ⟨h.marks.read hf r, ?_, ?_, ?_⟩
  · rw [hrest.1]
    exact fun hc => absurd hc hfin
  · rw [hup.flushToServerFinished, hup.receiveFromClientFinished]
    exact h.told
  · rw [hrest.2]
    exact h.shift

theorem Represented.flush (h : Represented s.data) (now : Int) (turns : Nat)
    (hret : (s.flushDataToClient now turns).hung = false) :
    Represented (s.flushDataToClient now turns).data := by
  by_cases hf : s.data.flushToClientFinished = true
  · have e : s.flushDataToClient now turns = s := by
      unfold St.flushDataToClient
      rw [if_pos (.inr hf)]
    rw [e]
    exact h
  · have hstill := flushDataToClient_still s now turns
    have h1 := congrArg Data.flushToClientFinished hstill
    have h2 := congrArg Data.flushToServerFinished hstill
    have h3 := congrArg Data.receiveFromClientFinished hstill
    have h4 := congrArg Data.sendWindowShift hstill
    dsimp only [Data.still] at h1 h2 h3 h4
    refine ⟨h.marks.flush now turns hret, ?_, ?_, ?_⟩
    · rw [h1]
      exact fun hc => absurd hc hf
    · rw [h2, h3]
      exact h.told
    · rw [h4]
      exact h.shift

theorem Represented.server (h : Represented s.data) (lastError : Int) (r : SendResult)
    (now now' : Int) : Represented (s.flushDataToServer lastError r now now').data := by
  unfold St.flushDataToServer
  split_ifs
  · unfold St.finishConnect
    dsimp only
    split_ifs
    · exact h
    · rw [St.unsetFrom_data]
      exact h.keep ⟨rfl, rfl, rfl, rfl, rfl, rfl, rfl, rfl⟩ rfl
    · exact Represented.close h
  · exact h
  · unfold St.sendToServer
    split
    · exact Represented.close h
    · unfold St.finishSend
      dsimp only
      split_ifs with h1 h2 h3
      · exact Represented.close (by rw [St.unsetFrom_data]; exact h)
      · simp only [St.emit_data, St.unsetFrom_data] at h2 ⊢
        exact ⟨⟨h.marks.next, h.marks.fin⟩, h.finAcked, fun _ => h2, h.shift⟩
      · simp only [St.emit_data, St.unsetFrom_data]
        exact ⟨⟨h.marks.next, h.marks.fin⟩, h.finAcked, h.told, h.shift⟩
      · exact ⟨⟨h.marks.next, h.marks.fin⟩, h.finAcked, h.told, h.shift⟩

/-- **Every call that returns keeps buffers and flags in agreement.** -/
theorem Represented.call {IP_MSS : U16} (h : Represented s.data) (op : Op)
    (hret : (step IP_MSS s op).hung = false) : Represented (step IP_MSS s op).data := by
  revert hret
  unfold step
  split_ifs with hh
  · exact fun _ => h
  · cases op with
    | receiveFromClient p i =>
      intro _
      dsimp only
      unfold receiveFromClient
      split_ifs
      · exact @Represented.client { s with packet := p.val } IP_MSS h i
      · exact h
    | receiveFromServer r now turns =>
      dsimp only
      by_cases h0 : s.data.state = .ESTABLISHED ∧ s.data.receiveFromServerFinished = false
      · have h1 := (h.read h0.2 r).flush now turns
        rcases receiveFromServer_open h0.1 h0.2 r now turns with h2 | h2
        · rw [h2]
          exact h1
        · rw [h2, St.unsetFrom_hung, St.unsetFrom_data]
          exact h1
      · rw [receiveFromServer_skip h0]
        exact fun _ => h
    | flushDataToServer lastError r now now' => exact fun _ => h.server lastError r now now'
    | flushDataToClient now turns => exact h.flush now turns
    | onSocketError => exact fun _ => Represented.close h
    | checkStatus now now' =>
      intro _
      dsimp only
      rcases checkStatus_cases s now now' with ⟨_, h1⟩ | ⟨_, h1⟩ | ⟨_, h1⟩
      · rw [h1]; exact h
      · rw [h1]; exact h
      · rw [h1]; exact h.close
    | closeSession => exact fun _ => h.close

end

/-! ## over a run -/

/-- an acknowledgement in range is no old one -/
theorem Represented.ackOff_nonneg {d : Data} (h : Represented d) {p : Packet}
    (hrange : St.ackInRange d p = true) : 0 ≤ (St.ackOff d p).toInt := by
  have h1 : (St.ackOff d p).toNat ≤ (d.sendNextOffset + b32 d.sentFinToClient).toNat :=
    BitVec.le_def.mp (of_decide_eq_true hrange)
  have h2 := BitVec.le_def.mp h.marks.next
  have h3 := d.sendBuffer.position_le
  have h4 : (b32 d.sentFinToClient).toNat ≤ 1 := by cases d.sentFinToClient <;> decide
  rw [BitVec.toNat_add] at h1
  rw [BitVec.toInt_eq_toNat_of_lt (by omega)]
  exact Int.natCast_nonneg _

theorem represented_init (IP_MSS : U16) : Represented (.init IP_MSS) :=
  ⟨⟨BitVec.le_refl (0 : U32), Bool.noConfusion⟩, Bool.noConfusion, Bool.noConfusion, by
    show (0 : U8) ≤ 14
    decide⟩

section
variable {IP_MSS : U16} {s0 : St} {ops : List Op}

/-- a call that returns leaves a session whose buffers and flags agree -/
theorem represented_step (s : St) (op : Op) (h : s.hung = false → Represented s.data) :
    (step IP_MSS s op).hung = false → Represented (step IP_MSS s op).data := by
  intro hret
  by_cases hh : s.hung = true
  · -- no call follows one that did not return
    have e : step IP_MSS s op = s := if_pos hh
    rw [e, hh] at hret
    cases hret
  · exact (h (by simpa using hh)).call op hret

/-- the invariant holds after every run whose calls have returned -/
theorem represented_reached (h0 : s0.data = .init IP_MSS)
    (hret : (run (step IP_MSS) s0 ops).hung = false) :
    Represented (run (step IP_MSS) s0 ops).data := by
  have h1 : s0.hung = false → Represented s0.data := by
    intro _
    rw [h0]
    exact represented_init IP_MSS
  exact run_inv (fun s : St => s.hung = false → Represented s.data)
    (fun s op hs _ => represented_step s op hs) h1 (along_true (step IP_MSS) s0 ops) hret

/-- **The representation invariant.**  In every state that calls reach which return, the buffers and
the flags agree, and an acknowledgement in range takes no more out of the send buffer than was sent. -/
theorem represented_run (h0 : s0.data = .init IP_MSS)
    (hret : (run (step IP_MSS) s0 ops).hung = false) :
    let d := (run (step IP_MSS) s0 ops).data
    d.sendNextOffset ≤ d.sendBuffer.position ∧ d.sendBuffer.position.toNat ≤ BUFFER_SIZE ∧
    d.receiveBuffer.position.toNat ≤ BUFFER_SIZE ∧
    (d.sentFinToClient = true →
      d.receiveFromServerFinished = true ∧ d.sendNextOffset = d.sendBuffer.position) ∧
    (d.flushToClientFinished = true → d.sentFinToClient = true ∧ d.sendBuffer.bytes = []) ∧
    (d.flushToServerFinished = true → d.receiveFromClientFinished = true) ∧
    ∀ p : Packet, St.ackInRange d p = true → 0 ≤ (ackedBytes d p).toInt ∧
      ackedBytes d p ≤ d.sendNextOffset ∧ ackedBytes d p ≤ d.sendBuffer.position := by
  have h := represented_reached h0 hret
  generalize (run (step IP_MSS) s0 ops).data = d at h ⊢
  refine ⟨h.marks.next, d.sendBuffer.position_le, d.receiveBuffer.position_le, h.marks.fin, h.finAcked,
    h.told, ?_⟩
  intro p hrange
  have h1 := ackedBytes_le h.marks hrange
  have h2 := BitVec.le_trans h1 h.marks.next
  have h3 := d.sendBuffer.position_le
  rw [BitVec.le_def] at h2
  refine ⟨?_, h1, h2⟩
  rw [BitVec.toInt_eq_toNat_of_lt (by omega)]
  exact Int.natCast_nonneg _

theorem represented_run_both_ways :
    let d := (run (step 1) (unused 1) (.receiveFromClient (synPacket clientA serverA 100 0) connected ::
      bothWays)).data
    d.sendNextOffset ≤ d.sendBuffer.position ∧ d.sendBuffer.position.toNat ≤ BUFFER_SIZE ∧
    d.receiveBuffer.position.toNat ≤ BUFFER_SIZE ∧
    (d.sentFinToClient = true →
      d.receiveFromServerFinished = true ∧ d.sendNextOffset = d.sendBuffer.position) ∧
    (d.flushToClientFinished = true → d.sentFinToClient = true ∧ d.sendBuffer.bytes = []) ∧
    (d.flushToServerFinished = true → d.receiveFromClientFinished = true) ∧
    ∀ p : Packet, St.ackInRange d p = true → 0 ≤ (ackedBytes d p).toInt ∧
      ackedBytes d p ≤ d.sendNextOffset ∧ ackedBytes d p ≤ d.sendBuffer.position :=
  represented_run rfl (by decide)

/-- **Nothing that is put into a buffer is cut**, in any state: not what a segment brings as far as there is
room, and not what was read into the free space. -/
theorem puts_uncut (s : St) (bs : List Byte) :
    s.acceptBytes.data.receiveBuffer.bytes = s.data.receiveBuffer.bytes ++
      s.packet.payload.take (St.acceptLength s.data s.packet).toNat ∧
    (s.readFromServer (.bytes bs)).data.sendBuffer.bytes = s.data.sendBuffer.bytes ++
      bs.take s.data.sendBuffer.available.toNat := by
  refine ⟨acceptBytes_bytes s, ?_⟩
  unfold St.readFromServer
  dsimp only
  split_ifs
  · simp only [St.emit_data, St.unsetFrom_data]
    exact s.data.sendBuffer.put_take bs
  · exact s.data.sendBuffer.put_take bs

/-! ## the acknowledgement of a segment -/

/-- the window of a segment fits into its field, however it is scaled -/
theorem scaledWindow_toNat {p : Packet} {shift : U8} (h : shift ≤ 14) :
    (scaledWindow p shift).toNat = p.windowSize.toNat * 2 ^ shift.toNat := by
  have h1 := p.windowSize.isLt
  have h2 : shift.toNat ≤ 14 := h
  have h3 : 2 ^ shift.toNat ≤ 2 ^ 14 := Nat.pow_le_pow_right (by decide) h2
  have h4 : p.windowSize.toNat * 2 ^ shift.toNat ≤ 65535 * 2 ^ 14 :=
    Nat.mul_le_mul (by omega) h3
  unfold scaledWindow
  rw [BitVec.toNat_shiftLeft, BitVec.toNat_setWidth, Nat.shiftLeft_eq,
    Nat.mod_eq_of_lt (by omega : p.windowSize.toNat < 2 ^ 32), Nat.mod_eq_of_lt (by omega)]

/-- what a segment in order does to an established session -/
theorem step_inOrder {s : St} (hh : s.hung = false) (hs : s.data.state = .ESTABLISHED) {p : Incoming}
    (hp : Plain s.data p.val) (hseq : St.inOrder s.data p.val = true) (i : ClientInput) :
    step IP_MSS s (.receiveFromClient p i) =
      { (if St.ackInRange s.data p.val then St.acceptSegment { s with packet := p.val } i
          else St.sendAck { s with packet := p.val }) with packet := s.packet } := by
  have hcan : canHandle s.data p.val = true :=
    (canHandle_iff _ _).mpr (.inr ⟨hp.source, hp.destination⟩)
  unfold step receiveFromClient St.handlePacket St.receiveAck
  cases hrange : St.ackInRange s.data p.val <;>
    simp [hh, hcan, hp.ack, hp.syn, hp.reset, hs, hseq, hrange]

/-- **Acknowledgements are processed exactly.**  In an established session that calls reach which
return, take a segment in order whose acknowledgement lies `off` behind the oldest unacknowledged byte,
while `next` bytes are sent and `fin` is one if the FIN is.  If `off` lies beyond them, nothing changes.
Otherwise the session closes if the FIN is acknowledged and the server was told of the client's
end; or else the first `min off next` bytes, and no others, leave the send buffer. -/
theorem ack_exact (h0 : s0.data = .init IP_MSS) (hret : (run (step IP_MSS) s0 ops).hung = false)
    (hs : (run (step IP_MSS) s0 ops).data.state = .ESTABLISHED) {p : Incoming}
    (hp : Plain (run (step IP_MSS) s0 ops).data p.val)
    (hseq : St.inOrder (run (step IP_MSS) s0 ops).data p.val = true) (i : ClientInput) :
    let d := (run (step IP_MSS) s0 ops).data
    let d' := (step IP_MSS (run (step IP_MSS) s0 ops) (.receiveFromClient p i)).data
    let off := (p.val.getAcknowledgmentNumber - d.sendUnacknowledged).toNat
    let next := d.sendNextOffset.toNat
    let fin := if d.sentFinToClient then 1 else 0
    let amt := min off next
    (next + fin < off → d' = d) ∧
    (off ≤ next + fin → next < off → d.flushToServerFinished = true → d'.state = .CLOSED) ∧
    (off ≤ next + fin → ¬ (next < off ∧ d.flushToServerFinished = true) →
      d'.state = .ESTABLISHED ∧
      d.sendBuffer.bytes.take amt ++ d'.sendBuffer.bytes = d.sendBuffer.bytes ∧
      amt ≤ d.sendBuffer.bytes.length ∧
      d'.sendUnacknowledged = d.sendUnacknowledged + BitVec.ofNat 32 amt ∧
      d'.sendNextOffset.toNat + amt = next ∧
      d'.sendUnacknowledged + d'.sendNextOffset = d.sendUnacknowledged + d.sendNextOffset ∧
      d'.sendWindowRightEdge.toNat = p.val.windowSize.toNat * 2 ^ d.sendWindowShift.toNat ∧
      (d'.flushToClientFinished = true ↔ d.flushToClientFinished = true ∨ off = next + 1)) := by
  have h := represented_reached h0 hret
  generalize run (step IP_MSS) s0 ops = s at h hret hs hp hseq ⊢
  have hstep := @step_inOrder IP_MSS s hret hs p hp hseq i
  have hnext := h.marks.next
  have hpos := s.data.sendBuffer.position_le
  rw [hstep]
  have hrange : St.ackInRange s.data p.val = true ↔
      (St.ackOff s.data p.val).toNat ≤
        s.data.sendNextOffset.toNat + (if s.data.sentFinToClient then 1 else 0) := by
    unfold St.ackInRange
    rw [decide_eq_true_eq, BitVec.le_def]
    cases s.data.sentFinToClient <;>
      simp only [b32_true, b32_false, if_true, if_false, Bool.false_eq_true]
    · bv_omega
    · bv_omega
  have hoff : (p.val.getAcknowledgmentNumber - s.data.sendUnacknowledged).toNat =
      (St.ackOff s.data p.val).toNat := rfl
  dsimp only
  rw [hoff]
  refine ⟨?_, ?_, ?_⟩
  · intro hlt
    rw [if_neg (fun hc => absurd (hrange.mp hc) (by omega))]
    rfl
  · intro hle hlt hf
    have hr := hrange.mpr hle
    rw [if_pos hr]
    have e := (acceptWindow_accounts { s with packet := p.val } (St.ackOff s.data p.val) i.now).1
    unfold St.acceptSegment
    dsimp only
    rw [if_pos ⟨by rw [e.sendNextOffset]; exact hlt, by rw [e.flushToServerFinished]; exact hf⟩]
    exact closeSession_closed _
  · intro hle hn
    have hr := hrange.mpr hle
    rw [if_pos hr]
    have hcl : ¬ closes s.data p.val := fun hc => hn hc
    have ha : Acknowledged s.data p.val (St.acceptSegment { s with packet := p.val } i).data :=
      @acceptSegment_acknowledged { s with packet := p.val } h.marks hr hcl i
    obtain ⟨hd, _⟩ := acceptSegment_sets { s with packet := p.val } i hcl
    have hamt : (ackedBytes s.data p.val).toNat =
        min (St.ackOff s.data p.val).toNat s.data.sendNextOffset.toNat := by
      unfold ackedBytes
      split_ifs at hle ⊢ with h1 h2 <;> bv_omega
    have hamt' : ackedBytes s.data p.val =
        BitVec.ofNat 32 (min (St.ackOff s.data p.val).toNat s.data.sendNextOffset.toNat) := by
      rw [← hamt]
      exact BitVec.eq_of_toNat_eq (Nat.mod_eq_of_lt (ackedBytes s.data p.val).isLt).symm
    have hacked := ackedBytes_le h.marks hr
    have hlen := s.data.sendBuffer.position_toNat
    refine ⟨hd.state.trans hs, ?_, ?_, ?_, ?_, ?_, ?_, ?_⟩
    · rw [ha.bytes, hamt, List.take_append_drop]
    · rw [BitVec.le_def] at hnext
      omega
    · rw [ha.una, hamt']
    · rw [ha.next, ← hamt]
      bv_omega
    · rw [ha.una, ha.next]
      bv_omega
    · rw [ha.edge]
      exact scaledWindow_toNat h.shift
    · rw [ha.fin, Bool.or_eq_true, decide_eq_true_eq]
      refine or_congr_right ?_
      rw [BitVec.lt_def]
      split_ifs at hle <;> omega

/-- the client acknowledges one of two bytes -/
theorem ack_exact_one_byte :
    let ops := .receiveFromClient (synPacket clientA serverA 100 0) connected :: bothWays.take 3 ++
      [.receiveFromClient (ackPacket clientA serverA 101 1001 1000) connected, .flushDataToClient 0 2]
    let d := (run (step 1) (unused 1) ops).data
    let d' := (step 1 (run (step 1) (unused 1) ops)
      (.receiveFromClient (ackPacket clientA serverA 101 1002 1000) connected)).data
    d.sendBuffer.bytes = [97, 98] ∧ d'.sendBuffer.bytes = [98] := by
  intro ops d d'
  have h1 := (@ack_exact 1 (unused 1) ops rfl (by decide) (by decide)
    (ackPacket clientA serverA 101 1002 1000) ⟨by decide, by decide, rfl, rfl, rfl⟩ (by decide)
    connected).2.2 (by decide) (by decide)
  have h2 : d.sendBuffer.bytes = [97, 98] := by decide
  refine ⟨h2, ?_⟩
  have h3 := h1.2.1
  have h4 : min (((ackPacket clientA serverA 101 1002 1000).val.getAcknowledgmentNumber -
      (run (step 1) (unused 1) ops).data.sendUnacknowledged).toNat)
      (run (step 1) (unused 1) ops).data.sendNextOffset.toNat = 1 := by decide
  rw [h4] at h3
  have h5 : (run (step 1) (unused 1) ops).data.sendBuffer.bytes = [97, 98] := h2
  rw [h5] at h3
  exact (List.cons.inj h3).2

end

end TunServer.Sessions2
