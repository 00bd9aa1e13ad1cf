import TunServer.Session.Integrity

/-!
# The marks of the send buffer

* `SendOrder`      the four marks are in order, as distances from `sendSequence`;
* `DownFine`       the calls that keep them in order and stay within the send buffer;
* `ordered_step`   what one call preserves;
* `send_in_order`  what a run preserves, from an unused session on.
-/

set_option linter.unusedVariables false

namespace TunServer.Session

/-! ## the order -/

structure SendOrder (d : Data) : Prop where
  acknowledged : d.sendUnacknowledged - d.sendSequence ≤ d.sendNext - d.sendSequence
  next : d.sendNext - d.sendSequence ≤ d.sendNewDataSequence - d.sendSequence
  length : d.sendNewDataSequence - d.sendSequence ≤ d.sendLength

/-- an open session has its marks in order -/
def Ordered (d : Data) : Prop := d.state ≠ .CLOSED → SendOrder d

/-- the marks are the same, and the session is not opened -/
structure SameMarks (d d' : Data) : Prop where
  sendLength : d'.sendLength = d.sendLength
  sendSequence : d'.sendSequence = d.sendSequence
  sendUnacknowledged : d'.sendUnacknowledged = d.sendUnacknowledged
  sendNext : d'.sendNext = d.sendNext
  sendNewDataSequence : d'.sendNewDataSequence = d.sendNewDataSequence
  state : d.state = .CLOSED → d'.state = .CLOSED

theorem SameMarks.refl (d : Data) : SameMarks d d := ⟨rfl, rfl, rfl, rfl, rfl, id⟩

theorem SameMarks.trans {d d' d'' : Data} (h : SameMarks d d') (h' : SameMarks d' d'') :
    SameMarks d d'' where
  sendLength := h'.sendLength.trans h.sendLength
  sendSequence := h'.sendSequence.trans h.sendSequence
  sendUnacknowledged := h'.sendUnacknowledged.trans h.sendUnacknowledged
  sendNext := h'.sendNext.trans h.sendNext
  sendNewDataSequence := h'.sendNewDataSequence.trans h.sendNewDataSequence
  state := fun hc => h'.state (h.state hc)

theorem UpFrame.marks {s s' : St} (h : UpFrame s s') : SameMarks s.data s'.data :=
  ⟨h.sendLength, h.sendSequence, h.sendUnacknowledged, h.sendNext, h.sendNewDataSequence,
    fun hc => h.state.elim (fun hs => hs.trans hc) id⟩

theorem SendOrder.same {d d' : Data} (h : SendOrder d) (hm : SameMarks d d') : SendOrder d' := by
  obtain ⟨h1, h2, h3⟩ := h
  constructor
  · rwa [hm.sendUnacknowledged, hm.sendSequence, hm.sendNext]
  · rwa [hm.sendNext, hm.sendSequence, hm.sendNewDataSequence]
  · rwa [hm.sendNewDataSequence, hm.sendSequence, hm.sendLength]

theorem Ordered.same {d d' : Data} (h : Ordered d) (hm : SameMarks d d') : Ordered d' :=
  fun hs => (h fun hc => hs (hm.state hc)).same hm

theorem Ordered.closed {d : Data} (h : d.state = .CLOSED) : Ordered d := fun hs => absurd h hs

/-- all marks are one -/
theorem sendOrder_start {d : Data} (hA : d.sendUnacknowledged = d.sendSequence)
    (hX : d.sendNext = d.sendSequence) (hW : d.sendNewDataSequence = d.sendSequence) :
    SendOrder d := by
  constructor
  · rw [hA, hX]
    exact BitVec.le_refl _
  · rw [hX, hW]
    exact BitVec.le_refl _
  · rw [hW, BitVec.sub_self, BitVec.le_def]
    exact Nat.zero_le _

/-- two distances in order have theirs between them -/
theorem dist_split {s a b : U32} (h : a - s ≤ b - s) :
    (a - s).toNat + (b - a).toNat = (b - s).toNat := by
  rw [BitVec.le_def] at h
  have hsum : b - s = (a - s) + (b - a) := by bv_omega
  have hlt := (b - s).isLt
  generalize a - s = x at h hsum
  generalize b - a = y at h hsum
  rw [hsum, BitVec.toNat_add] at h ⊢
  have hx := x.isLt
  have hy := y.isLt
  omega

/-- what is stored is what stands before `sendUnacknowledged` and what stands behind it -/
theorem SendOrder.split {d : Data} (h : SendOrder d) :
    (d.sendUnacknowledged - d.sendSequence).toNat +
      (d.sendNewDataSequence - d.sendUnacknowledged).toNat =
        (d.sendNewDataSequence - d.sendSequence).toNat := by
  have h1 := h.acknowledged
  have h2 := h.next
  rw [BitVec.le_def] at h1 h2
  exact dist_split (BitVec.le_def.mpr (h1.trans h2))

/-- the free space behind the marks -/
theorem SendOrder.available {d : Data} (h : SendOrder d) :
    (d.sendNewDataSequence - d.sendSequence).toNat + d.getSendAvailable.toNat = d.sendLength.toNat := by
  have hle := h.length
  rw [BitVec.le_def] at hle
  have hav : d.getSendAvailable = d.sendLength - (d.sendNewDataSequence - d.sendSequence) := by
    unfold Data.getSendAvailable
    bv_omega
  rw [hav, BitVec.toNat_sub_of_le (BitVec.le_def.mpr hle)]
  omega

/-! ## the calls that are fine -/

/-- the acknowledgement of a segment in order is one of data that was sent, unless it is not above
`sendUnacknowledged` -/
def AckFine (d : Data) (p : Packet) : Prop :=
  d.state = .ESTABLISHED → p.isSyn = false → p.isReset = false → p.isAck = true →
    p.getSequenceNumber = d.receiveNext → d.sendUnacknowledged < p.getAcknowledgmentNumber →
    p.getAcknowledgmentNumber - d.sendSequence ≤ d.sendNext - d.sendSequence

/-- the loop of `sendDataStartingFrom` has bytes to send from `seq` on -/
def sendsBytes (d : Data) (seq : U32) : Bool :=
  d.mss ≠ 0 ∧ seq < d.sendNewDataSequence ∧ d.sendNewDataSequence - seq ≠ b32 d.serverReadFinished

/-- the first byte that is sent is not behind 2^32 -/
def LoopFine (d : Data) (seq : U32) : Prop := sendsBytes d seq = true → d.sendSequence ≤ seq

/-- the loops of `flushDataToClient` are fine -/
def FlushClientFine (d : Data) (now : Int) : Prop :=
  d.state = .ESTABLISHED → d.isDownStreamComplete = false →
    (St.resendDue d now = true → d.retryCount ≠ SEND_MAX_RETRIES → LoopFine d d.sendUnacknowledged) ∧
    (St.resendDue d now = false → St.newDataDue d = true → LoopFine d d.sendNext)

/-- whether `trimSendBuffer` has an effect -/
def trims (d : Data) : Bool :=
  ¬ (d.sendUnacknowledged - d.sendSequence < d.mss.setWidth 32 ∨
    d.mss.setWidth 32 * 2 < d.getSendAvailable)

/-- the marks after `trimSendBuffer` -/
def trimmed (d : Data) : Data :=
  if trims d then { d with sendSequence := d.sendUnacknowledged } else d

/-- what `tryReceive` puts into the buffer -/
def receivedBytes (d : Data) (i : ServerInput) : List Byte :=
  (i.received.getD []).take d.getSendAvailable.toNat

/-- the marks after `tryReceive` -/
def readMarks (d : Data) (i : ServerInput) : Data :=
  if receivedBytes d i ≠ [] then
    { d with sendNewDataSequence :=
        d.sendNewDataSequence + BitVec.ofNat 32 (receivedBytes d i).length }
  else if ¬ i.isWouldBlock ∧ ¬ d.serverReadFinished then
    { d with
      sendNewDataSequence := d.sendNewDataSequence + 1
      serverReadFinished := true }
  else d

/-- The trim and the read of `receiveFromServer` are fine: what they pass as an `int` is one, the
place that is read to is not behind 2^32, and the flush is fine. -/
structure ReadFine (d : Data) (i : ServerInput) : Prop where
  trim : trims d = true → (d.sendUnacknowledged - d.sendSequence).toNat < 2 ^ 31
  place : (trimmed d).getSendAvailable ≠ 0 →
    (trimmed d).sendSequence ≤ (trimmed d).sendNewDataSequence
  amount : (trimmed d).getSendAvailable.toNat < 2 ^ 31
  flush : (trimmed d).getSendAvailable ≠ 0 → FlushClientFine (readMarks (trimmed d) i) i.now

/-- the calls that keep the marks in order and stay within the send buffer -/
def DownFine (s : St) : Op → Prop
  | .receiveFromClient p _ => AckFine s.data p
  | .receiveFromServer _ i => s.data.state = .ESTABLISHED → ReadFine s.data i
  | .flushDataToServer _ _ => True
  | .flushDataToClient _ now _ => FlushClientFine s.data now

/-! ## sending to the client -/

/-- the length of a segment of the loop -/
def segmentLength (d : Data) (seq : U32) : U32 :=
  let rest := d.sendNewDataSequence - seq - b32 d.serverReadFinished
  if d.mss.setWidth 32 < rest then d.mss.setWidth 32 else rest

theorem segmentLength_le {d : Data} {seq : U32} (hseq : seq < d.sendNewDataSequence) :
    seq.toNat + (segmentLength d seq).toNat ≤ d.sendNewDataSequence.toNat := by
  have hrest : d.sendNewDataSequence - seq - b32 d.serverReadFinished ≤
      d.sendNewDataSequence - seq := by
    have hfin := b32_le d.serverReadFinished
    generalize b32 d.serverReadFinished = f at hfin ⊢
    bv_omega
  have hlen : segmentLength d seq ≤ d.sendNewDataSequence - seq := by
    unfold segmentLength
    dsimp only
    split_ifs with hm
    · rw [BitVec.lt_def] at hm
      rw [BitVec.le_def] at hrest ⊢
      omega
    · exact hrest
  rw [BitVec.le_def] at hlen
  rw [BitVec.lt_def] at hseq
  rw [BitVec.toNat_sub_of_le (BitVec.le_def.mpr (by omega))] at hlen
  omega

/-- a segment with bytes is one the loop has to be fine for -/
theorem sendsBytes_of_length {d : Data} {seq : U32} (hseq : seq < d.sendNewDataSequence)
    (hne : segmentLength d seq ≠ 0) : sendsBytes d seq = true := by
  have hmss : d.mss ≠ 0 := by
    intro h0
    refine hne ?_
    unfold segmentLength
    dsimp only
    rw [h0]
    split_ifs with hr
    · rfl
    · bv_omega
  have hrest : d.sendNewDataSequence - seq ≠ b32 d.serverReadFinished := by
    intro h0
    refine hne ?_
    unfold segmentLength
    dsimp only
    rw [h0, BitVec.sub_self]
    split_ifs with hr
    · exact absurd hr BitVec.not_lt_zero
    · rfl
  exact decide_eq_true ⟨hmss, hseq, hrest⟩

/-- a turn of the loop stays within the buffer, and the rest of the loop is as fine -/
theorem sendSegment_order {s : St} {seq : U32} (h : SendOrder s.data)
    (hseq : seq < s.data.sendNewDataSequence) (hfine : LoopFine s.data seq) :
    ∃ r, s.sendSegment seq = .ok r ∧ r.2.data = s.data ∧ LoopFine s.data r.1 := by
  have hle := segmentLength_le hseq
  have hbytes := sendsBytes_of_length hseq
  have hlen := h.length
  rw [BitVec.le_def] at hlen
  have hin : InRange (offset seq s.data.sendSequence) (segmentLength s.data seq).toNat
      s.data.sendLength.toNat := by
    by_cases h0 : segmentLength s.data seq = 0
    · exact .inl (by rw [h0]; rfl)
    · have hS := hfine (hbytes h0)
      rw [offset_of_le hS, BitVec.toNat_sub_of_le hS]
      rw [BitVec.le_def] at hS
      rw [BitVec.toNat_sub_of_le (BitVec.le_def.mpr (by omega))] at hlen
      exact .inr (by omega)
  -- behind the segment, and behind the FIN
  have hnext : LoopFine s.data (seq + segmentLength s.data seq) := by
    intro hsend
    by_cases h0 : segmentLength s.data seq = 0
    · have hsame : seq + segmentLength s.data seq = seq := by
        rw [h0]
        exact BitVec.add_zero seq
      rw [hsame] at hsend ⊢
      exact hfine hsend
    · have hS := hfine (hbytes h0)
      have hW := s.data.sendNewDataSequence.isLt
      rw [BitVec.le_def] at hS ⊢
      rw [BitVec.toNat_add]
      omega
  have hend : seq + segmentLength s.data seq = s.data.sendNewDataSequence - 1 →
      LoopFine s.data (seq + segmentLength s.data seq + 1) := by
    intro he hsend
    rw [he, BitVec.sub_add_cancel] at hsend
    simp [sendsBytes] at hsend
  unfold St.sendSegment
  dsimp only
  rw [show (if s.data.mss.setWidth 32 < _ then _ else _) = segmentLength s.data seq from rfl,
    if_pos hin]
  split_ifs with hfin
  · exact ⟨_, rfl, rfl, hend hfin.2⟩
  · exact ⟨_, rfl, rfl, hnext⟩

/-- what the calls on the way to the client end in -/
def DownEnds (P : St → Prop) : Except Fault St → Prop := Ends (· ≠ .sendBuffer) P

theorem sendLoop_order {s : St} {seq : U32} (turns : Nat) (h : SendOrder s.data)
    (hfine : LoopFine s.data seq) :
    DownEnds (fun s' => s'.data = s.data) (St.sendLoop turns seq s) := by
  induction turns generalizing s seq with
  | zero =>
    unfold St.sendLoop
    split_ifs
    · exact Fault.noConfusion
    · exact rfl
  | succ turns ih =>
    unfold St.sendLoop
    split_ifs with hseq
    · obtain ⟨r, hr, hd, hnext⟩ := sendSegment_order h hseq hfine
      rw [hr]
      have hrest : DownEnds (fun s' => s'.data = r.2.data) (St.sendLoop turns r.1 r.2) :=
        ih (by rw [hd]; exact h) (by rw [hd]; exact hnext)
      exact hrest.mono fun t ht => ht.trans hd
    · exact rfl

theorem sendDataStartingFrom_order {s : St} {seq : U32} (turns : Nat) (h : SendOrder s.data)
    (hfine : LoopFine s.data seq) :
    DownEnds (fun s' => s'.data = s.data) (s.sendDataStartingFrom seq turns) := by
  let t : St := { s with packet := s.packet.setEnds s.data.destination s.data.source }
  have ht : SendOrder t.data := h
  exact sendLoop_order turns ht hfine

/-- after everything is sent -/
theorem sentAll_order {s : St} (now : Int) (h : SendOrder s.data) : SendOrder (s.sentAll now).data :=
  ⟨by
    have h1 := h.acknowledged
    have h2 := h.next
    rw [BitVec.le_def] at h1 h2 ⊢
    exact h1.trans h2, BitVec.le_refl _, h.length⟩

theorem resend_order {s : St} (now : Int) (turns : Nat) (h : SendOrder s.data)
    (hfine : LoopFine s.data s.data.sendUnacknowledged) :
    DownEnds (fun s' => SendOrder s'.data) (s.resend now turns) := by
  have hsend (t : St) (ht : SendOrder t.data) (hl : LoopFine t.data t.data.sendUnacknowledged) :
      DownEnds (fun s' => SendOrder s'.data) (do
        let s ← t.sendDataStartingFrom t.data.sendUnacknowledged turns
        return s.sentAll now) :=
    Ends.bind (sendDataStartingFrom_order turns ht hl) fun u hu => sentAll_order now (hu ▸ ht)
  unfold St.resend
  dsimp only
  split_ifs
  · exact hsend _ ⟨h.acknowledged, h.next, h.length⟩ hfine
  · exact hsend s h hfine

theorem sendNewData_order {s : St} (now : Int) (turns : Nat) (h : SendOrder s.data)
    (hfine : LoopFine s.data s.data.sendNext) :
    DownEnds (fun s' => SendOrder s'.data) (s.sendNewData now turns) :=
  Ends.bind (sendDataStartingFrom_order turns h hfine) fun u hu => sentAll_order now (hu ▸ h)

theorem closeSession_closed (s : St) : s.closeSession.data.state = .CLOSED :=
  (closeSession_aside s).2

theorem finishFlush_order {s : St} (h : SendOrder s.data) : Ordered s.finishFlush.data := by
  unfold St.finishFlush
  split_ifs
  · exact .closed (closeSession_closed s)
  · exact fun _ => h

theorem flushDataToClient_order {s : St} (now : Int) (turns : Nat) (h : Ordered s.data)
    (hfine : FlushClientFine s.data now) :
    DownEnds (fun s' => Ordered s'.data) (s.flushDataToClient now turns) := by
  unfold St.flushDataToClient
  split_ifs with hs hdone hresend hretry hnew
  · exact h
  · exact h
  · exact Ordered.closed (closeSession_closed s)
  · have hopen := h (by rw [not_not.mp hs]; decide)
    obtain ⟨h1, _⟩ := hfine (not_not.mp hs) (by simpa using hdone)
    exact Ends.bind (resend_order now turns hopen (h1 hresend hretry)) fun u hu => finishFlush_order hu
  · have hopen := h (by rw [not_not.mp hs]; decide)
    obtain ⟨_, h2⟩ := hfine (not_not.mp hs) (by simpa using hdone)
    exact Ends.bind (sendNewData_order now turns hopen (h2 (by simpa using hresend) hnew))
      fun u hu => finishFlush_order hu
  · exact finishFlush_order (h (by rw [not_not.mp hs]; decide))

/-! ## receiving from the server -/

theorem trimmed_order {d : Data} (h : SendOrder d) : SendOrder (trimmed d) := by
  unfold trimmed
  split_ifs
  · have hX := dist_split h.acknowledged
    have hW := h.split
    obtain ⟨h1, h2, h3⟩ := h
    rw [BitVec.le_def] at h1 h2 h3
    constructor
    · show d.sendUnacknowledged - d.sendUnacknowledged ≤ _
      rw [BitVec.sub_self, BitVec.le_def]
      exact Nat.zero_le _
    · show d.sendNext - d.sendUnacknowledged ≤ d.sendNewDataSequence - d.sendUnacknowledged
      rw [BitVec.le_def]
      omega
    · show d.sendNewDataSequence - d.sendUnacknowledged ≤ d.sendLength
      rw [BitVec.le_def]
      omega
  · exact h

/-- the trim moves the bytes between `sendUnacknowledged` and `sendNewDataSequence` to the front -/
theorem trimSendBuffer_order {s : St} (h : SendOrder s.data)
    (hfine : trims s.data = true → (s.data.sendUnacknowledged - s.data.sendSequence).toNat < 2 ^ 31) :
    ∃ b, s.trimSendBuffer = .ok { s with data := { trimmed s.data with sendBuffer := b } } := by
  unfold St.trimSendBuffer
  dsimp only
  by_cases ht : trims s.data = true
  · have hsplit := h.split
    have hlen := h.length
    rw [BitVec.le_def] at hlen
    have hspace := hfine ht
    have hno : ¬ (s.data.sendUnacknowledged - s.data.sendSequence < s.data.mss.setWidth 32 ∨
        s.data.mss.setWidth 32 * 2 < s.data.getSendAvailable) := of_decide_eq_true ht
    rw [if_neg hno]
    have hd : trimmed s.data = { s.data with sendSequence := s.data.sendUnacknowledged } := if_pos ht
    rw [hd]
    generalize s.data.sendUnacknowledged - s.data.sendSequence = space at hsplit hspace ⊢
    have hplaces : (space.toNat : Int) + -space.toInt = 0 := by
      rw [BitVec.toInt_eq_toNat_of_lt (by omega)]
      omega
    unfold shiftElements
    rw [hplaces, if_pos]
    · exact ⟨_, rfl⟩
    · unfold InRange
      omega
  · have hyes : s.data.sendUnacknowledged - s.data.sendSequence < s.data.mss.setWidth 32 ∨
        s.data.mss.setWidth 32 * 2 < s.data.getSendAvailable := by
      by_contra hno
      exact ht (decide_eq_true hno)
    have hd : trimmed s.data = s.data := if_neg ht
    rw [if_pos hyes, hd]
    exact ⟨s.data.sendBuffer, rfl⟩

theorem readMarks_order {d : Data} (h : SendOrder d) (i : ServerInput)
    (hav : d.getSendAvailable ≠ 0) : SendOrder (readMarks d i) := by
  have hfree := h.available
  have hlen : (receivedBytes d i).length ≤ d.getSendAvailable.toNat := by
    unfold receivedBytes
    rw [List.length_take]
    exact min_le_left _ _
  have hpos : 0 < d.getSendAvailable.toNat := by
    rw [Nat.pos_iff_ne_zero]
    exact fun h0 => hav (BitVec.eq_of_toNat_eq h0)
  -- `sendNewDataSequence` moves up within the buffer
  have hmove (n : Nat) (hn : n ≤ d.getSendAvailable.toNat) (f : Bool) : SendOrder
      { d with
        sendNewDataSequence := d.sendNewDataSequence + BitVec.ofNat 32 n
        serverReadFinished := f } := by
    have hL := d.sendLength.isLt
    have hW : (d.sendNewDataSequence + BitVec.ofNat 32 n - d.sendSequence).toNat =
        (d.sendNewDataSequence - d.sendSequence).toNat + n := by
      rw [sub_add_left, toNat_add_ofNat (by omega)]
    have hnext := h.next
    rw [BitVec.le_def] at hnext
    refine ⟨h.acknowledged, ?_, ?_⟩
    · show d.sendNext - d.sendSequence ≤ d.sendNewDataSequence + BitVec.ofNat 32 n - d.sendSequence
      rw [BitVec.le_def, hW]
      omega
    · show d.sendNewDataSequence + BitVec.ofNat 32 n - d.sendSequence ≤ d.sendLength
      rw [BitVec.le_def, hW]
      omega
  unfold readMarks
  split_ifs
  · exact hmove _ hlen _
  · exact hmove 1 hpos true
  · exact h

theorem readFromServer_order {s : St} (i : ServerInput) (h : SendOrder s.data)
    (hplace : s.data.sendSequence ≤ s.data.sendNewDataSequence)
    (hamount : s.data.getSendAvailable.toNat < 2 ^ 31) :
    ∃ s' b, s.readFromServer i = .ok s' ∧
      s'.data = { readMarks s.data i with sendBuffer := b } := by
  have hfree := h.available
  unfold St.readFromServer
  dsimp only
  rw [St.writable_of_lt hamount, if_pos]
  · unfold St.receivedFromServer readMarks receivedBytes
    dsimp only
    split_ifs
    · exact ⟨_, _, rfl, rfl⟩
    · exact ⟨_, s.data.sendBuffer, rfl, rfl⟩
    · exact ⟨_, s.data.sendBuffer, rfl, rfl⟩
  · rw [offset_of_le hplace]
    exact .inr (by omega)

theorem receiveFromServer_order {s : St} {i : ServerInput} (h : Ordered s.data)
    (hfine : s.data.state = .ESTABLISHED → ReadFine s.data i) :
    Ends (· ≠ .sendBuffer) (fun r => Ordered r.2.data) (s.receiveFromServer i) := by
  unfold St.receiveFromServer
  split_ifs with hs
  · exact h
  · rw [not_not] at hs
    obtain ⟨htrim, hplace, hamount, hflush⟩ := hfine hs
    have hopen := h (by rw [hs]; decide)
    obtain ⟨b, hb⟩ := trimSendBuffer_order hopen htrim
    have htr := trimmed_order hopen
    rw [hb]
    show Ends _ _ (if (trimmed s.data).getSendAvailable = 0 then _ else _)
    split_ifs with hav
    · exact fun _ => ⟨htr.acknowledged, htr.next, htr.length⟩
    · let t : St := { s with data := { trimmed s.data with sendBuffer := b } }
      have ht : SendOrder t.data := ⟨htr.acknowledged, htr.next, htr.length⟩
      obtain ⟨u, b', hu, hud⟩ := readFromServer_order i ht (hplace hav) hamount
      have hmarks : readMarks t.data i = { readMarks (trimmed s.data) i with sendBuffer := b } := by
        unfold readMarks
        show (if receivedBytes (trimmed s.data) i ≠ [] then _ else
          if ¬ i.isWouldBlock = true ∧ ¬ (trimmed s.data).serverReadFinished = true then _ else _) = _
        split_ifs <;> rfl
      rw [hmarks] at hud
      have hread := readMarks_order htr i hav
      have hord : Ordered u.data := by
        rw [hud]
        exact fun _ => ⟨hread.acknowledged, hread.next, hread.length⟩
      have hfl : FlushClientFine u.data i.now := by
        rw [hud]
        exact hflush hav
      show Ends _ _ (t.readFromServer i >>= _)
      rw [hu]
      show Ends _ _ (u.flushDataToClient i.now i.turns >>= _)
      exact Ends.bind (flushDataToClient_order i.now i.turns hord hfl) fun v hv => hv

/-! ## receiving from the client -/

theorem closeSession_marks (s : St) : SameMarks s.data s.closeSession.data :=
  (closeSession_frame s).marks

theorem sendReset_marks (s : St) : SameMarks s.data s.sendReset.data := by
  unfold St.sendReset
  dsimp only
  split_ifs <;> exact .refl _

theorem finishAck_marks (s : St) (i : ClientInput) : SameMarks s.data (s.finishAck i).data := by
  unfold St.finishAck St.acknowledgeDelayed
  dsimp only
  split_ifs
  · exact .refl _
  · exact closeSession_marks s
  · exact .refl _
  · exact ⟨rfl, rfl, rfl, rfl, rfl, id⟩
  · exact .refl _

theorem acceptPayload_marks (s : St) (i : ClientInput) :
    Ends (· ≠ .sendBuffer) (fun s' => SameMarks s.data s'.data) (s.acceptPayload i) := by
  have hnot (e : Fault) (he : e = .receiveBuffer) : e ≠ .sendBuffer := by rw [he]; decide
  have hcopy (t : St) : Ends (· ≠ .sendBuffer) (fun u => SameMarks t.data u.data) t.copyPayload := by
    cases hu : t.copyPayload with
    | ok u =>
      obtain ⟨_, _, _, push, fin, hd, _⟩ := copyPayload_eq hu
      show SameMarks t.data u.data
      rw [hd]
      exact ⟨rfl, rfl, rfl, rfl, rfl, id⟩
    | error e =>
      unfold St.copyPayload at hu
      dsimp only at hu
      split_ifs at hu
      cases hu
      exact Fault.noConfusion
  refine Ends.bind ((makeRoom_ends s s.packet.getDataLength i.firstSend).imp hnot
    fun _ => UpFrame.marks) fun t ht => ?_
  refine Ends.bind (hcopy t) fun u hu => ?_
  exact (flushDataToServer_ends u i.send).imp hnot fun v hv => (ht.trans hu).trans hv.marks

theorem acceptAck_order {s : St} (h : SendOrder s.data)
    (hfine : s.data.sendUnacknowledged < s.packet.getAcknowledgmentNumber →
      s.packet.getAcknowledgmentNumber - s.data.sendSequence ≤
        s.data.sendNext - s.data.sendSequence) : SendOrder s.acceptAck.data := by
  refine ⟨?_, h.next, h.length⟩
  show (if s.data.sendUnacknowledged < s.packet.getAcknowledgmentNumber then
    s.packet.getAcknowledgmentNumber else s.data.sendUnacknowledged) - s.data.sendSequence ≤ _
  split_ifs with hlt
  · exact hfine hlt
  · exact h.acknowledged

theorem acceptSegment_order {s : St} (i : ClientInput) (h : SendOrder s.acceptAck.data) :
    Ends (· ≠ .sendBuffer) (fun s' => Ordered s'.data) (s.acceptSegment i) := by
  have hopen : Ordered s.acceptAck.data := fun _ => h
  unfold St.acceptSegment
  dsimp only
  split_ifs
  · exact hopen.same (finishAck_marks _ i)
  · exact Ends.bind (acceptPayload_marks s.acceptAck i) fun t ht =>
      hopen.same (ht.trans (finishAck_marks t i))

theorem openSession_order {s : St} (i : ClientInput) (h : Ordered s.data) :
    Ordered (s.openSession i).data := by
  have hnew (f : States) : SendOrder { St.opened s.data s.packet i with state := f } :=
    sendOrder_start rfl rfl rfl
  unfold St.openSession
  dsimp only
  split_ifs
  · exact h.same (sendReset_marks s)
  · exact fun _ => hnew _
  · exact fun _ => hnew _

theorem receiveFromClient_order {s : St} (i : ClientInput) (h : Ordered s.data)
    (hfine : AckFine s.data s.packet) :
    Ends (· ≠ .sendBuffer) (fun s' => Ordered s'.data) (s.receiveFromClient i) := by
  have hs := receiveFromClient_step s i
  generalize s.receiveFromClient i = r at hs ⊢
  cases hs with
  | same => exact h
  | reset => exact h.same (sendReset_marks s)
  | ack => exact h
  | synAck hs =>
    have hopen := h (by rcases hs with hs | hs <;> rw [hs] <;> decide)
    exact fun _ => ⟨hopen.acknowledged, hopen.next, hopen.length⟩
  | opened => exact openSession_order i h
  | closed => exact Ordered.closed (closeSession_closed s)
  | established =>
    have hstart : SendOrder (s.establish i).data := by
      unfold St.establish
      dsimp only
      cases s.data.mSock <;> exact sendOrder_start rfl rfl rfl
    exact fun _ => hstart
  | accepted hs hsyn hrst hack hseq =>
    have hopen := h (by rw [hs]; decide)
    exact acceptSegment_order i (acceptAck_order hopen (hfine hs hsyn hrst hack hseq))

/-! ## runs -/

/-- **What one call preserves.** -/
theorem ordered_step {s : St} {op : Op} (h : Ordered s.data) (hfine : DownFine s op) :
    Ends (· ≠ .sendBuffer) (fun s' => Ordered s'.data) (step s op) := by
  cases op with
  | receiveFromClient p i =>
    let t : St := { s with packet := p.val }
    have ht : Ordered t.data := h
    exact receiveFromClient_order i ht hfine
  | receiveFromServer p i =>
    let t : St := { s with packet := p }
    have ht : Ordered t.data := h
    exact Ends.bind (receiveFromServer_order ht hfine) fun r hr => hr
  | flushDataToServer p r =>
    refine (flushDataToServer_ends { s with packet := p } r).imp ?_ fun u hu => h.same hu.marks
    rintro e rfl
    decide
  | flushDataToClient p now turns =>
    let t : St := { s with packet := p }
    have ht : Ordered t.data := h
    exact flushDataToClient_order now turns ht hfine

/-- **The marks of the send buffer stay in order**, and no access leaves the buffer, in every run
whose calls are fine; so the free space is not more than the buffer, and what a trim moves is what
stands between two marks in order. -/
theorem send_in_order {s : St} {ops : List Op} (hs : s.data = Data.init)
    (hfine : AlongM step DownFine s ops) :
    Ends (· ≠ .sendBuffer) (fun s' => s'.data.state ≠ .CLOSED →
        SendOrder s'.data ∧ s'.data.getSendAvailable ≤ s'.data.sendLength ∧
        (s'.data.sendUnacknowledged - s'.data.sendSequence).toNat +
            (s'.data.sendNewDataSequence - s'.data.sendUnacknowledged).toNat =
          (s'.data.sendNewDataSequence - s'.data.sendSequence).toNat)
      (runM step s ops) := by
  have hstart : Ordered s.data := .closed (by rw [hs]; rfl)
  have hinv := runM_ends (fun t => Ordered t.data) (fun t op => ordered_step) hstart hfine
  refine hinv.mono fun t ht hopen => ?_
  have hord := ht hopen
  have hfree := hord.available
  refine ⟨hord, ?_, hord.split⟩
  rw [BitVec.le_def]
  omega

/-! ## an acknowledgement of data that was not sent -/

instance (d : Data) (p : Packet) : Decidable (AckFine d p) :=
  inferInstanceAs (Decidable (_ → _ → _ → _ → _ → _ → _))
instance (d : Data) (seq : U32) : Decidable (LoopFine d seq) := inferInstanceAs (Decidable (_ → _))
instance (d : Data) (now : Int) : Decidable (FlushClientFine d now) :=
  inferInstanceAs (Decidable (_ → _ → (_ → _ → _) ∧ (_ → _ → _)))

instance (d : Data) (i : ServerInput) : Decidable (ReadFine d i) :=
  decidable_of_iff
    ((trims d = true → (d.sendUnacknowledged - d.sendSequence).toNat < 2 ^ 31) ∧
      ((trimmed d).getSendAvailable ≠ 0 →
        (trimmed d).sendSequence ≤ (trimmed d).sendNewDataSequence) ∧
      (trimmed d).getSendAvailable.toNat < 2 ^ 31 ∧
      ((trimmed d).getSendAvailable ≠ 0 → FlushClientFine (readMarks (trimmed d) i) i.now))
    ⟨fun h => ⟨h.1, h.2.1, h.2.2.1, h.2.2.2⟩, fun h => ⟨h.trim, h.place, h.amount, h.flush⟩⟩

instance : ∀ (s : St) (op : Op), Decidable (DownFine s op)
  | s, .receiveFromClient p _ => inferInstanceAs (Decidable (AckFine s.data p))
  | s, .receiveFromServer _ i =>
    inferInstanceAs (Decidable (s.data.state = .ESTABLISHED → ReadFine s.data i))
  | _, .flushDataToServer _ _ => .isTrue trivial
  | s, .flushDataToClient _ now _ => inferInstanceAs (Decidable (FlushClientFine s.data now))

/-- the server's socket gives two bytes -/
def twoBytes : ServerInput := ⟨some [120, 121], false, 0, 3⟩

/-- the handshake is finished, two bytes are read and sent, and the client acknowledges up to `ack` -/
def downloadOps (ack : U32) : List Op :=
  [.receiveFromClient uploadSyn (taking 0),
   .receiveFromClient (ackPacket clientA serverA false 101 32) (taking 0),
   .receiveFromServer uploadSyn twoBytes,
   .flushDataToClient uploadSyn 8 3,
   .receiveFromClient (ackPacket clientA serverA false 101 ack) (taking 0)]

theorem send_in_order_two_bytes :
    Ends (· ≠ .sendBuffer) (fun s' => s'.data.state ≠ .CLOSED →
        SendOrder s'.data ∧ s'.data.getSendAvailable ≤ s'.data.sendLength ∧
        (s'.data.sendUnacknowledged - s'.data.sendSequence).toNat +
            (s'.data.sendNewDataSequence - s'.data.sendUnacknowledged).toNat =
          (s'.data.sendNewDataSequence - s'.data.sendSequence).toNat)
      (runM step unused (downloadOps 34)) :=
  send_in_order rfl (by decide)

/-- An acknowledgement far ahead moves `sendUnacknowledged` out of the marks. -/
theorem send_not_in_order :
    ¬ ∀ (s : St) (ops : List Op), s.data = Data.init →
      Ends (· ≠ .sendBuffer) (fun s' => s'.data.state ≠ .CLOSED →
          SendOrder s'.data ∧ s'.data.getSendAvailable ≤ s'.data.sendLength ∧
          (s'.data.sendUnacknowledged - s'.data.sendSequence).toNat +
              (s'.data.sendNewDataSequence - s'.data.sendUnacknowledged).toNat =
            (s'.data.sendNewDataSequence - s'.data.sendSequence).toNat)
        (runM step s ops) := by
  intro h
  have h1 := h unused (downloadOps 1000) rfl
  have h2 : (1000 - 32 : U32) ≤ 34 - 32 := (h1 (by decide)).1.acknowledged
  exact absurd h2 (by decide)

end TunServer.Session
