import TunServer.Sessions2.Acknowledge

/-!
# Old acknowledgements

A segment in order can carry an acknowledgement that is older than `sendUnacknowledged`: the signed
difference `ackOff` is negative.  It is compared with an unsigned sum, which takes it for a large
number, so that the segment is answered and dropped before the branches written for it are reached.

* `withAck`          the same segment with another acknowledgement number;
* `NothingToTake`    the segment has no byte and no FIN that the session would take in;
* `old_ack_iff`      exactly then the acknowledgement's age makes no difference.
-/

set_option linter.unusedVariables false

namespace TunServer

/-- a header that was read, with another acknowledgement number -/
def Header.withAck : Header → U32 → Header
  | received s a r f p seq _ len, ack => received s a r f p seq ack len
  | h, _ => h

theorem Header.isReceived_withAck (h : Header) (ack : U32) :
    (h.withAck ack).isReceived = h.isReceived := by
  cases h <;> rfl

namespace Sessions2

def Incoming.withAck (p : Incoming) (ack : U32) : Incoming :=
  ⟨{ p.val with header := p.val.header.withAck ack }, (Header.isReceived_withAck _ _).trans p.property⟩

section
variable (p : Incoming) (ack : U32)

/-- nothing but the acknowledgement number is changed -/
theorem withAck_reads : (p.withAck ack).val.isSyn = p.val.isSyn ∧
    (p.withAck ack).val.isReset = p.val.isReset ∧ (p.withAck ack).val.isAck = p.val.isAck ∧
    (p.withAck ack).val.isFin = p.val.isFin ∧
    (p.withAck ack).val.getSequenceNumber = p.val.getSequenceNumber := by
  obtain ⟨q, hq⟩ := p
  unfold Incoming.withAck Packet.isSyn Packet.isReset Packet.isAck Packet.isFin Packet.getSequenceNumber
  dsimp only at hq ⊢
  cases hh : q.header with
  | received s a r f psh seq old len => exact ⟨rfl, rfl, rfl, rfl, rfl⟩
  | syn seq old => exact ⟨rfl, rfl, rfl, rfl, rfl⟩
  | normal seq old fin => exact ⟨rfl, rfl, rfl, rfl, rfl⟩
  | resetSeq seq => exact ⟨rfl, rfl, rfl, rfl, rfl⟩
  | resetAck old => exact ⟨rfl, rfl, rfl, rfl, rfl⟩

theorem withAck_ack : (p.withAck ack).val.getAcknowledgmentNumber = ack := by
  obtain ⟨q, hq⟩ := p
  unfold Incoming.withAck Packet.getAcknowledgmentNumber
  dsimp only at hq ⊢
  cases hh : q.header with
  | received s a r f psh seq old len => rfl
  | syn seq old => rw [hh] at hq; cases hq
  | normal seq old fin => rw [hh] at hq; cases hq
  | resetSeq seq => rw [hh] at hq; cases hq
  | resetAck old => rw [hh] at hq; cases hq

variable {p ack}

theorem Plain.withAck {d : Data} (h : Plain d p.val) : Plain d (p.withAck ack).val := by
  obtain ⟨h1, h2, h3, _⟩ := withAck_reads p ack
  exact ⟨h.source, h.destination, h3.trans h.ack, h1.trans h.syn, h2.trans h.reset⟩

end

/-! ## the segment's content -/

/-- the session has the client's FIN, or the segment has no byte and no FIN, or there is no room -/
def NothingToTake (d : Data) (p : Packet) : Prop :=
  d.receiveFromClientFinished = true ∨ p.payload = [] ∧ p.isFin = false ∨
    p.payload ≠ [] ∧ d.receiveBuffer.available = 0

section
variable {d : Data} {p : Packet}

theorem getTCPPayloadSize_toNat (p : Packet) : p.getTCPPayloadSize.toNat = p.payload.length := by
  have h := p.payload_lt
  unfold Packet.getTCPPayloadSize
  rw [BitVec.toNat_ofNat]
  omega

theorem acceptLength_toNat (d : Data) (p : Packet) : (St.acceptLength d p).toNat =
    min p.payload.length d.receiveBuffer.available.toNat := by
  have h := getTCPPayloadSize_toNat p
  unfold St.acceptLength
  split_ifs with hle
  · rw [BitVec.le_def] at hle
    omega
  · rw [BitVec.le_def] at hle
    omega

theorem accepted_eq_nil_iff : accepted d p = [] ↔ d.receiveFromClientFinished = true ∨
    p.payload = [] ∨ d.receiveBuffer.available = 0 := by
  have hzero : d.receiveBuffer.available = 0 ↔ d.receiveBuffer.available.toNat = 0 :=
    ⟨fun h => by rw [h]; rfl, fun h => BitVec.eq_of_toNat_eq h⟩
  unfold accepted
  split_ifs with hf
  · exact iff_of_true rfl (.inl hf)
  · rw [List.take_eq_nil_iff, acceptLength_toNat, hzero, ← List.length_eq_zero_iff]
    constructor
    · intro h
      omega
    · intro h
      have h1 := h.resolve_left hf
      omega

/-- **What a segment without content is.** -/
theorem nothingToTake_iff : accepted d p = [] ∧ ¬ takesFin d p ↔ NothingToTake d p := by
  have hlen : St.acceptLength d p = p.getTCPPayloadSize ↔
      p.payload.length ≤ d.receiveBuffer.available.toNat := by
    rw [← BitVec.toNat_inj, acceptLength_toNat, getTCPPayloadSize_toNat]
    exact min_eq_left_iff
  have hzero : d.receiveBuffer.available = 0 ↔ d.receiveBuffer.available.toNat = 0 :=
    ⟨fun h => by rw [h]; rfl, fun h => BitVec.eq_of_toNat_eq h⟩
  unfold NothingToTake takesFin
  rw [accepted_eq_nil_iff, hlen, hzero]
  cases hf : d.receiveFromClientFinished with
  | true => simp
  | false =>
    cases hp : p.payload with
    | nil => simp
    | cons b bs =>
      simp only [Bool.false_eq_true, false_or, List.length_cons, reduceCtorEq, false_and,
        true_and, ne_eq, not_false_eq_true]
      constructor
      · exact fun h => h.1
      · intro h
        exact ⟨h, fun hc => by omega⟩

end

/-! ## the two ways -/

/-- From `d` the session gets to `d'`, which has of the client's stream what `d''` has, and of the
server's what `d` has. -/
structure TakenWithOldAck (d d' d'' : Data) : Prop where
  receiveBuffer : d'.receiveBuffer = d''.receiveBuffer
  receiveFromClientFinished : d'.receiveFromClientFinished = d''.receiveFromClientFinished
  sendUnacknowledged : d'.sendUnacknowledged = d.sendUnacknowledged
  sendNextOffset : d'.sendNextOffset = d.sendNextOffset
  sendBuffer : d'.sendBuffer = d.sendBuffer
  sendWindowRightEdge : d'.sendWindowRightEdge = d.sendWindowRightEdge

section
variable {IP_MSS : U16} {s : St} {p : Incoming}

/-- a negative difference is a large number, and never in range -/
theorem old_out_of_range (hm : Marks s.data) (hold : (St.ackOff s.data p.val).toInt < 0) :
    ¬ St.ackInRange s.data p.val = true := by
  have h1 := hm.next
  have h2 := s.data.sendBuffer.position_le
  have h3 := b32_le s.data.sentFinToClient
  have h4 : 2 ^ 31 ≤ (St.ackOff s.data p.val).toNat := by
    rw [BitVec.toInt_eq_toNat_cond] at hold
    split_ifs at hold with h
    · omega
    · omega
  unfold St.ackInRange
  rw [decide_eq_true_eq]
  intro hc
  bv_omega

/-- the segment is answered, and dropped -/
theorem step_old (hret : s.hung = false) (hs : s.data.state = .ESTABLISHED) (hm : Marks s.data)
    (hp : Plain s.data p.val) (hseq : St.inOrder s.data p.val = true)
    (hold : (St.ackOff s.data p.val).toInt < 0) (i : ClientInput) :
    (step IP_MSS s (.receiveFromClient p i)).data = s.data := by
  rw [step_inOrder hret hs hp hseq, if_neg (old_out_of_range hm hold)]
  rfl

/-- with the current acknowledgement number its content is taken in -/
theorem step_current (hret : s.hung = false) (hs : s.data.state = .ESTABLISHED)
    (hp : Plain s.data p.val) (hseq : St.inOrder s.data p.val = true) (i : ClientInput) :
    let d' := (step IP_MSS s (.receiveFromClient (p.withAck s.data.sendUnacknowledged) i)).data
    d'.receiveBuffer.bytes = s.data.receiveBuffer.bytes ++ accepted s.data p.val ∧
      (d'.receiveFromClientFinished = true ↔
        s.data.receiveFromClientFinished = true ∨ takesFin s.data p.val) := by
  obtain ⟨_, _, _, hfin, hnum⟩ := withAck_reads p s.data.sendUnacknowledged
  let q := p.withAck s.data.sendUnacknowledged
  have hseq' : St.inOrder s.data q.val = true := by
    unfold St.inOrder at hseq ⊢
    rw [show q.val.getSequenceNumber = _ from hnum]
    exact hseq
  have hoff : St.ackOff s.data q.val = 0 := by
    unfold St.ackOff
    rw [show q.val.getAcknowledgmentNumber = _ from withAck_ack p _, BitVec.sub_self]
    rfl
  have hrange : St.ackInRange s.data q.val = true := by
    unfold St.ackInRange
    rw [hoff, decide_eq_true_eq]
    bv_omega
  have hopen : ¬ closes s.data q.val := by
    rintro ⟨hc, _⟩
    rw [hoff] at hc
    bv_omega
  obtain ⟨ha, _⟩ := acceptSegment_sets { s with packet := q.val } i hopen
  have htake : takesFin s.data q.val ↔ takesFin s.data p.val := by
    unfold takesFin
    rw [show q.val.isFin = _ from hfin]
    exact Iff.rfl
  dsimp only
  rw [step_inOrder hret hs hp.withAck hseq', if_pos hrange]
  exact ⟨ha.receiveBuffer, ha.receiveFromClientFinished.trans (or_congr_right htake)⟩

/-- **An old acknowledgement costs what the segment carries.**  In an established session that calls
reach which return, take a segment in order whose acknowledgement lies behind the oldest
unacknowledged byte, by any distance that is negative as a signed number.  The session takes of it
what it would take with the current acknowledgement exactly if there is nothing to take. -/
theorem old_ack_iff {s0 : St} (h0 : s0.data = .init IP_MSS) {ops : List Op}
    (hret : (run (step IP_MSS) s0 ops).hung = false)
    (hs : (run (step IP_MSS) s0 ops).data.state = .ESTABLISHED) {p : Incoming}
    (hp : Plain (run (step IP_MSS) s0 ops).data p.val)
    (hseq : St.inOrder (run (step IP_MSS) s0 ops).data p.val = true)
    (hold : (St.ackOff (run (step IP_MSS) s0 ops).data p.val).toInt < 0) (i : ClientInput) :
    let s := run (step IP_MSS) s0 ops
    let s' := step IP_MSS s (.receiveFromClient p i)
    let s'' := step IP_MSS s (.receiveFromClient (p.withAck s.data.sendUnacknowledged) i)
    TakenWithOldAck s.data s'.data s''.data ↔ NothingToTake s.data p.val := by
  have hm := (represented_reached h0 hret).marks
  generalize run (step IP_MSS) s0 ops = s at hret hs hp hseq hold hm ⊢
  obtain ⟨h1, h2⟩ := @step_current IP_MSS s p hret hs hp hseq i
  dsimp only
  rw [step_old hret hs hm hp hseq hold, ← nothingToTake_iff]
  generalize (step IP_MSS s (.receiveFromClient (p.withAck s.data.sendUnacknowledged) i)).data = d
    at h1 h2 ⊢
  constructor
  · intro h
    rw [← h.receiveBuffer] at h1
    rw [← h.receiveFromClientFinished] at h2
    refine ⟨List.self_eq_append_right.mp h1, fun hc => ?_⟩
    exact absurd (hc.1.symm.trans (h2.mpr (.inr hc))) (by decide)
  · rintro ⟨hbytes, hfin⟩
    rw [hbytes, List.append_nil] at h1
    have h3 : d.receiveFromClientFinished = true ↔ s.data.receiveFromClientFinished = true :=
      h2.trans (or_iff_left hfin)
    refine ⟨?_, (Bool.eq_iff_iff.mpr h3).symm, rfl, rfl, rfl, rfl⟩
    cases hb : d.receiveBuffer
    cases hb' : s.data.receiveBuffer
    rw [hb, hb'] at h1
    dsimp only at h1
    subst h1
    rfl

end

/-- an established session, whose oldest unacknowledged byte has the number 1001 -/
def justOpened : List Op :=
  [.receiveFromClient (synPacket clientA serverA 100 1000) connected,
   .receiveFromClient (ackPacket clientA serverA 101 1000 1000) connected]

/-- the same session behind the FIN of its client -/
def halfClosed : List Op :=
  justOpened ++ [.receiveFromClient (finPacket clientA serverA 101 1001 1000) connected]

theorem old_ack_after_fin :
    let s := run (step 576) (unused 576) halfClosed
    let p := dataPacket clientA serverA 102 1000 1000 [99] oneByte_lt
    let s' := step 576 s (.receiveFromClient p connected)
    let s'' := step 576 s (.receiveFromClient (p.withAck s.data.sendUnacknowledged) connected)
    TakenWithOldAck s.data s'.data s''.data ↔ NothingToTake s.data p.val :=
  @old_ack_iff 576 (unused 576) rfl halfClosed (by decide) (by decide)
    (dataPacket clientA serverA 102 1000 1000 [99] oneByte_lt) ⟨by decide, by decide, rfl, rfl, rfl⟩
    (by decide) (by decide) connected

/-- a byte comes with the acknowledgement of the SYN-ACK, and is dropped -/
theorem old_ack_drops :
    ¬ ∀ (IP_MSS : U16) (s0 : St) (ops : List Op), s0.data = .init IP_MSS →
      (run (step IP_MSS) s0 ops).hung = false →
      (run (step IP_MSS) s0 ops).data.state = .ESTABLISHED → ∀ p : Incoming,
      Plain (run (step IP_MSS) s0 ops).data p.val →
      St.inOrder (run (step IP_MSS) s0 ops).data p.val = true →
      (St.ackOff (run (step IP_MSS) s0 ops).data p.val).toInt < 0 → ∀ i : ClientInput,
      TakenWithOldAck (run (step IP_MSS) s0 ops).data
        (step IP_MSS (run (step IP_MSS) s0 ops) (.receiveFromClient p i)).data
        (step IP_MSS (run (step IP_MSS) s0 ops) (.receiveFromClient
          (p.withAck (run (step IP_MSS) s0 ops).data.sendUnacknowledged) i)).data := by
  intro h
  have h1 := (h 576 (unused 576) justOpened rfl (by decide) (by decide)
    (dataPacket clientA serverA 101 1000 1000 [99] oneByte_lt) ⟨by decide, by decide, rfl, rfl, rfl⟩
    (by decide) (by decide) connected).receiveBuffer
  revert h1
  decide

end Sessions2

end TunServer
