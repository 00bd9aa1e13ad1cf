import TunServer.Sessions2.Acknowledge
import TunServer.Sessions2.Termination

/-!
# Segmentation and flow control

* `Sliced`          segments that carry consecutive slices of a buffer, up to a bound;
* `sliced_payload`  together they carry what lies between the first offset and the last;
* `RunsIn`          the runs of `sendDataStartingFrom` within `flushDataToClient`;
* `segmentation`    every such run, however long it is observed, sends segments of that kind.
-/

set_option linter.unusedVariables false

namespace TunServer.Sessions2

/-- The segments `ps` carry the slices of `bytes` from `off` to `off'`, one behind the other.  The
byte at `off` has the number `una + off`, no slice is longer than `mss` or ends behind `bound`, and
the FIN is set where a slice ends with the buffer, if the stream has `ended`. -/
inductive Sliced (bytes : List Byte) (una : U32) (ended : Bool) (mss bound : Nat) :
    Nat → List Packet → Nat → Prop where
  | nil (off : Nat) : Sliced bytes una ended mss bound off [] off
  | cons {off off' amt : Nat} {p : Packet} {ps : List Packet}
      (payload : p.payload = (bytes.drop off).take amt) (length : p.payload.length = amt)
      (le : amt ≤ mss) (within : off + amt ≤ bound)
      (seq : p.getSequenceNumber = una + BitVec.ofNat 32 off)
      (fin : p.isFin = true ↔ ended = true ∧ off + amt = bytes.length)
      (rest : Sliced bytes una ended mss bound (off + amt) ps off') :
      Sliced bytes una ended mss bound off (p :: ps) off'

section
variable {bytes : List Byte} {una : U32} {ended : Bool} {mss bound off off' : Nat} {ps : List Packet}

theorem Sliced.le (h : Sliced bytes una ended mss bound off ps off') : off ≤ off' := by
  induction h with
  | nil off => exact le_refl off
  | cons payload length le within seq fin rest ih => exact le_trans (Nat.le_add_right _ _) ih

/-- nothing between the first offset and the last is left out or sent twice -/
theorem Sliced.payload (h : Sliced bytes una ended mss bound off ps off') :
    ps.flatMap Packet.payload = (bytes.drop off).take (off' - off) := by
  induction h with
  | nil off =>
    rw [Nat.sub_self, List.take_zero]
    rfl
  | @cons off off' amt p ps hp length le within seq fin rest ih =>
    have h1 := rest.le
    have h2 : off' - off = amt + (off' - (off + amt)) := by omega
    rw [List.flatMap_cons, ih, hp, h2, List.take_add, List.drop_drop]

end

/-- the segments in a log -/
def segments (log : List Event) : List Packet :=
  log.filterMap fun e => match e with
    | .sendBack _ p => some p
    | _ => none

theorem segments_append (l l' : List Event) : segments (l ++ l') = segments l ++ segments l' :=
  List.filterMap_append

/-! ## the loop -/

section
variable {s : St} {mss : U16} {bound ack off : U32}

/-- one segment is handed on, and it is the next slice -/
theorem sendSegment_slice (hb : bound ≤ s.data.sendBuffer.position) (ho : off ≤ bound) :
    ∃ p : Packet, segments (s.sendSegment mss bound ack off).log = segments s.log ++ [p] ∧
      p.payload = (s.data.sendBuffer.bytes.drop off.toNat).take (St.sendAmount mss bound off).toNat ∧
      p.payload.length = (St.sendAmount mss bound off).toNat ∧
      p.getSequenceNumber = s.data.sendUnacknowledged + off ∧
      (p.isFin = true ↔ s.data.receiveFromServerFinished = true ∧
        (off + St.sendAmount mss bound off).toNat = s.data.sendBuffer.bytes.length) := by
  have hlen := s.data.sendBuffer.position_toNat
  have hpos := s.data.sendBuffer.position_le
  have hamt := @sendAmount_toNat mss _ _ ho
  have hend := @add_sendAmount_toNat mss _ _ ho
  have hb' := BitVec.le_def.mp hb
  have ho' := BitVec.le_def.mp ho
  have hdiff : (off + St.sendAmount mss bound off - off).toNat = (St.sendAmount mss bound off).toNat := by
    bv_omega
  have hlast : off + St.sendAmount mss bound off = s.data.sendBuffer.position ↔
      (off + St.sendAmount mss bound off).toNat = s.data.sendBuffer.bytes.length := by
    rw [← BitVec.toNat_inj, hlen]
  let q := (s.packet.makeNormal (s.data.sendUnacknowledged + off) ack).setTCPPayload
    (s.data.sendBuffer.as off (off + St.sendAmount mss bound off))
  have hpayload : q.payload = (s.data.sendBuffer.bytes.drop off.toNat).take
      (St.sendAmount mss bound off).toNat := by
    show ((s.data.sendBuffer.bytes.drop off.toNat).take _).take (2 ^ 16 - 1) = _
    rw [hdiff, List.take_take]
    congr 1
    omega
  have hlength : q.payload.length = (St.sendAmount mss bound off).toNat := by
    rw [hpayload, List.length_take, List.length_drop]
    omega
  unfold St.sendSegment
  dsimp only
  split_ifs with h
  · refine ⟨q.setFinFlag true, segments_append _ _, hpayload, hlength, rfl, ?_⟩
    exact ⟨fun _ => ⟨h.1, hlast.mp h.2⟩, fun _ => rfl⟩
  · refine ⟨q, segments_append _ _, hpayload, hlength, rfl, ?_⟩
    refine ⟨fun hc => ?_, fun hc => absurd ⟨hc.1, hlast.mpr hc.2⟩ h⟩
    have h1 : q.isFin = false := rfl
    exact absurd (h1.symm.trans hc) (by decide)

/-- **The loop sends slices**, as long as it is observed. -/
theorem sendLoop_sliced (push : Bool) (turns : Nat) (hb : bound ≤ s.data.sendBuffer.position)
    (ho : off.toNat ≤ 65535) :
    ∃ ps, segments (St.sendLoop mss push bound ack turns off s).2.log = segments s.log ++ ps ∧
      Sliced s.data.sendBuffer.bytes s.data.sendUnacknowledged s.data.receiveFromServerFinished
        mss.toNat bound.toNat off.toNat ps (St.sendLoop mss push bound ack turns off s).1.toNat := by
  induction turns generalizing off s with
  | zero =>
    refine ⟨[], ?_, .nil _⟩
    rw [List.append_nil]
    unfold St.sendLoop
    split_ifs <;> rfl
  | succ turns ih =>
    have hpos := s.data.sendBuffer.position_le
    by_cases hmore : St.sendMore s.data mss push bound off = true
    · have hle : off ≤ bound := off_le_of_sendMore (by bv_omega) ho hmore
      have hd := sendSegment_data s mss bound ack off
      have hamt := @off_add_sendAmount_le mss _ _ hle
      obtain ⟨p, h1, h2, h3, h4, h5⟩ := @sendSegment_slice s mss bound ack off hb hle
      obtain ⟨ps, h6, h7⟩ := @ih (s.sendSegment mss bound ack off)
        (off + St.sendAmount mss bound off) (by rw [hd]; exact hb) (by bv_omega)
      rw [hd] at h7
      have hadd : (off + St.sendAmount mss bound off).toNat =
          off.toNat + (St.sendAmount mss bound off).toNat := by
        rw [add_sendAmount_toNat hle, sendAmount_toNat hle]
      rw [BitVec.le_def] at hamt
      unfold St.sendLoop
      rw [if_pos hmore]
      refine ⟨p :: ps, ?_, .cons h2 h3 ?_ ?_ ?_ ?_ (hadd ▸ h7)⟩
      · rw [h6, h1, List.append_assoc]
        rfl
      · rw [sendAmount_toNat hle]
        exact min_le_left _ _
      · rw [← hadd]
        exact hamt
      · rw [h4]
        congr 1
        exact BitVec.eq_of_toNat_eq (Nat.mod_eq_of_lt off.isLt).symm
      · rw [← hadd]
        exact h5
    · rw [sendLoop_stop _ hmore]
      exact ⟨[], (List.append_nil _).symm, .nil _⟩

/-- a pushing loop that ends has reached the bound, if it began before it -/
theorem sendLoop_pushed (turns : Nat) (hgoing : s.data.receiveFromServerFinished = false)
    (hb : bound ≤ s.data.sendBuffer.position) (ho : off.toNat ≤ 65535)
    (hret : (St.sendLoop mss true bound ack turns off s).2.hung = false) :
    bound ≤ (St.sendLoop mss true bound ack turns off s).1 := by
  have hpos := s.data.sendBuffer.position_le
  induction turns generalizing off s with
  | zero =>
    unfold St.sendLoop at hret ⊢
    split_ifs at hret with hmore
    rw [sendMore_push_iff (by bv_omega)] at hmore
    simp only [hgoing, Bool.false_eq_true, if_false] at hmore
    bv_omega
  | succ turns ih =>
    unfold St.sendLoop at hret ⊢
    split_ifs at hret ⊢ with hmore
    · have hle : off ≤ bound := off_le_of_sendMore (by bv_omega) ho hmore
      have hd := sendSegment_data s mss bound ack off
      have hamt := @off_add_sendAmount_le mss _ _ hle
      exact ih (by rw [hd]; exact hgoing) (by rw [hd]; exact hb) (by bv_omega) hret (by rw [hd]; exact hpos)
    · rw [sendMore_push_iff (by bv_omega)] at hmore
      simp only [hgoing, Bool.false_eq_true, if_false] at hmore
      bv_omega

end

/-! ## the runs of `flushDataToClient` -/

/-- `RunsIn s now turns t off push`: a call of `flushDataToClient` in the state `s` calls
`sendDataStartingFrom off mss push` in the state `t` -/
inductive RunsIn (s : St) (now : Int) (turns : Nat) : St → U32 → Bool → Prop where
  | resend (hopen : ¬ (s.data.state ≠ .ESTABLISHED ∨ s.data.flushToClientFinished = true))
      (h : St.resendDue s.data now = true) :
      RunsIn s now turns s 0 (St.finNotAcknowledged s.data)
  | segments (hopen : ¬ (s.data.state ≠ .ESTABLISHED ∨ s.data.flushToClientFinished = true))
      (h : ¬ St.resendDue s.data now = true)
      (hnew : St.newDataDue s.data (St.sendBound s.data) = true) :
      RunsIn s now turns s s.data.sendNextOffset false
  | rest (hopen : ¬ (s.data.state ≠ .ESTABLISHED ∨ s.data.flushToClientFinished = true))
      (hret : (s.flushSegments (St.sendBound s.data) now turns).hung = false)
      (h : St.pushDue (s.flushSegments (St.sendBound s.data) now turns).data (St.sendBound s.data)
        (St.finNotSent s.data) now = true) :
      RunsIn s now turns (s.flushSegments (St.sendBound s.data) now turns)
        (s.flushSegments (St.sendBound s.data) now turns).data.sendNextOffset true

/-- the two blocks of `flushDataToClient` are made of these runs -/
theorem runs_block {s : St} {now : Int} {turns : Nat} {t : St} {off : U32} {push : Bool}
    (h : RunsIn s now turns t off push) :
    ∃ u, u = t.sendDataStartingFrom off t.data.mss push (St.sendBound s.data) now (turns + 1) ∧
      (s.flushSegments (St.sendBound s.data) now turns = u ∨
        s.flushSegments (St.sendBound s.data) now turns = (if u.hung then u else u.trackRTT now) ∨
        (s.flushSegments (St.sendBound s.data) now turns).flushRest (St.sendBound s.data)
          (St.finNotSent s.data) now turns = u) := by
  refine ⟨_, rfl, ?_⟩
  cases h with
  | resend hopen h =>
    refine .inl ?_
    unfold St.flushSegments
    rw [if_pos h]
  | segments hopen h hnew =>
    refine .inr (.inl ?_)
    unfold St.flushSegments
    rw [if_neg h, if_pos hnew]
  | rest hopen hret h =>
    refine .inr (.inr ?_)
    unfold St.flushRest
    rw [if_pos h]

section
variable {s t : St} {now : Int} {turns : Nat} {off : U32} {push : Bool}

/-- a run begins within the buffer, and the session's stream and window are what they were -/
theorem RunsIn.begins (h : RunsIn s now turns t off push) (hm : Marks s.data) (hh : s.hung = false) :
    t.hung = false ∧ t.data.still = s.data.still ∧ off ≤ t.data.sendBuffer.position := by
  cases h with
  | resend hopen h =>
    refine ⟨hh, rfl, ?_⟩
    bv_omega
  | segments hopen h hnew => exact ⟨hh, rfl, hm.next⟩
  | rest hopen hret h =>
    exact ⟨hret, flushSegments_still _ _ _ _, (hm.flushSegments now turns hret).next⟩

theorem sendBound_toNat (d : Data) :
    (St.sendBound d).toNat = min d.sendWindowRightEdge.toNat d.sendBuffer.bytes.length := by
  have h := d.sendBuffer.position_toNat
  unfold St.sendBound
  split_ifs with hlt
  · rw [BitVec.lt_def] at hlt
    omega
  · rw [BitVec.lt_def] at hlt
    omega

/-- one run, observed for any number of turns -/
theorem sendData_sliced (hh : t.hung = false) (ho : off ≤ t.data.sendBuffer.position) (mss : U16)
    (observed : Nat) :
    let d := t.data
    let bound := min d.sendWindowRightEdge.toNat d.sendBuffer.bytes.length
    let t' := t.sendDataStartingFrom off mss push (St.sendBound d) now observed
    ∃ ps last, segments t'.log = segments t.log ++ ps ∧
      Sliced d.sendBuffer.bytes d.sendUnacknowledged d.receiveFromServerFinished mss.toNat bound
        off.toNat ps last ∧
      ps.flatMap Packet.payload = (d.sendBuffer.bytes.drop off.toNat).take (last - off.toNat) ∧
      (t'.hung = false →
        t'.data.sendNextOffset.toNat = max d.sendNextOffset.toNat last ∧
        (push = true → d.receiveFromServerFinished = false → bound ≤ last)) := by
  have hb := sendBound_le t.data
  have hpos := t.data.sendBuffer.position_le
  obtain ⟨ack, he⟩ := sendDataStartingFrom_eq t off mss push (St.sendBound t.data) now observed
  obtain ⟨ps, h1, h2⟩ := @sendLoop_sliced
    { t with packet := t.packet.setWindow t.data.receiveBuffer.available } mss (St.sendBound t.data) ack
    off push observed hb (by bv_omega)
  have h3 := @sendLoop_pushed
    { t with packet := t.packet.setWindow t.data.receiveBuffer.available } mss (St.sendBound t.data) ack
    off observed
  obtain ⟨fin, hd⟩ := sendLoop_data mss push (St.sendBound t.data) ack observed off
    { t with packet := t.packet.setWindow t.data.receiveBuffer.available }
  dsimp only at he h1 h2 h3 hd ⊢
  rw [← sendBound_toNat]
  refine ⟨ps, _, ?_, h2, h2.payload, ?_⟩
  · rw [he, ← h1]
    split_ifs
    · rfl
    · rw [sentUpTo_log]
  · intro hret
    have hloop : (St.sendLoop mss push (St.sendBound t.data) ack observed off
        { t with packet := t.packet.setWindow t.data.receiveBuffer.available }).2.hung = false := by
      by_contra hc
      rw [Bool.not_eq_false] at hc
      rw [he, if_pos hc] at hret
      exact absurd (hc.symm.trans hret) (by decide)
    refine ⟨?_, ?_⟩
    · rw [he, if_neg (by rw [hloop]; decide), (sentUpTo_marks _ _ _).1, hd]
      dsimp only
      split_ifs with hlt
      · rw [BitVec.lt_def] at hlt
        omega
      · rw [BitVec.lt_def] at hlt
        omega
    · intro hp hg
      subst hp
      exact BitVec.le_def.mp (h3 hg hb (by bv_omega) hloop)

/-- **Segmentation and flow control.**  Let `flushDataToClient` be called, by itself or inside
`receiveFromServer`, in an established session that calls reach which return, and take any run of
`sendDataStartingFrom` in it.  However long it is observed, the segments it has sent carry
consecutive slices of the send buffer from `off` on, none longer than `mss` or beyond the client's
window and the buffered bytes.  When it returns, `sendNextOffset` is the larger one of its old value
and the last offset; and if it pushes while the server's stream goes on, it has reached the bound. -/
theorem segmentation {IP_MSS : U16} {s0 : St} (h0 : s0.data = .init IP_MSS) {ops : List Op}
    (hret : (run (step IP_MSS) s0 ops).hung = false) (he : Enters (run (step IP_MSS) s0 ops) s)
    (h : RunsIn s now turns t off push) (observed : Nat) :
    let d := t.data
    let bound := min d.sendWindowRightEdge.toNat d.sendBuffer.bytes.length
    let t' := t.sendDataStartingFrom off d.mss push (St.sendBound s.data) now observed
    ∃ ps last, segments t'.log = segments t.log ++ ps ∧
      Sliced d.sendBuffer.bytes d.sendUnacknowledged d.receiveFromServerFinished d.mss.toNat bound
        off.toNat ps last ∧
      ps.flatMap Packet.payload = (d.sendBuffer.bytes.drop off.toNat).take (last - off.toNat) ∧
      (t'.hung = false →
        t'.data.sendNextOffset.toNat = max d.sendNextOffset.toNat last ∧
        (push = true → d.receiveFromServerFinished = false → bound ≤ last)) := by
  have hr := represented_reached h0 hret
  generalize run (step IP_MSS) s0 ops = s1 at hret he hr
  have hs : Marks s.data ∧ s.hung = false := by
    rcases he with rfl | ⟨hf, r, rfl⟩
    · exact ⟨hr.marks, hret⟩
    · exact ⟨hr.marks.read hf r, (readFromServer_hung s1 r).trans hret⟩
  obtain ⟨h1, h2, h3⟩ := h.begins hs.1 hs.2
  have hbound : St.sendBound s.data = St.sendBound t.data := by
    have h4 := congrArg Data.sendBuffer h2
    have h5 := congrArg Data.sendWindowRightEdge h2
    dsimp only [Data.still] at h4 h5
    unfold St.sendBound
    rw [h4, h5]
  rw [hbound]
  exact sendData_sliced h1 h3 t.data.mss observed

end

/-- two of three bytes are sent, then the client shrinks its window to one -/
def shrunkWindow : List Op :=
  [opening, .receiveFromClient (ackPacket clientA serverA 101 1000 1000) connected,
   .receiveFromServer (.bytes [97, 98, 99]) 0 4,
   .receiveFromClient (ackPacket clientA serverA 101 1001 1) connected]

theorem segmentation_shrunk_window :
    let s := run (step 1) (unused 1) shrunkWindow
    let t := s.flushSegments (St.sendBound s.data) 1000000000 0
    let d := t.data
    let t' := t.sendDataStartingFrom d.sendNextOffset d.mss true (St.sendBound s.data) 1000000000 5
    d.sendNextOffset = 2 ∧ d.sendWindowRightEdge = 1 ∧
    ∃ ps last, segments t'.log = segments t.log ++ ps ∧
      Sliced d.sendBuffer.bytes d.sendUnacknowledged d.receiveFromServerFinished d.mss.toNat
        (min d.sendWindowRightEdge.toNat d.sendBuffer.bytes.length) d.sendNextOffset.toNat ps last ∧
      ps.flatMap Packet.payload =
        (d.sendBuffer.bytes.drop d.sendNextOffset.toNat).take (last - d.sendNextOffset.toNat) ∧
      (t'.hung = false →
        t'.data.sendNextOffset.toNat = max d.sendNextOffset.toNat last ∧
        (true = true → d.receiveFromServerFinished = false →
          min d.sendWindowRightEdge.toNat d.sendBuffer.bytes.length ≤ last)) :=
  ⟨by decide, by decide, @segmentation _ _ 1000000000 0 _ _ 1 (unused 1) rfl shrunkWindow (by decide)
    (.inl rfl) (.rest (by decide) (by decide) (by decide)) 5⟩

end TunServer.Sessions2
