import TunServer.Session.Order

/-!
# What one run of `sendDataStartingFrom` writes

* `segmentAt`, `nextSequence`   the packet of one turn of the loop, and where the next one begins;
* `Tiles`                       packets that take up the numbers up to the end of the stream, one
                                behind the other;
* `sendDataStartingFrom_tiles`  the loop ends, and what it writes is such a tiling.
-/

set_option linter.unusedVariables false

namespace TunServer.Session

/-! ## one turn of the loop -/

/-- the segment from `seq` on comes up to the FIN -/
def endsStream (d : Data) (seq : U32) : Bool :=
  d.serverReadFinished ∧ seq + segmentLength d seq = d.sendNewDataSequence - 1

/-- where the segment behind the one from `seq` on begins -/
def nextSequence (d : Data) (seq : U32) : U32 :=
  seq + segmentLength d seq + b32 (endsStream d seq)

/-- the packet that carries the segment from `seq` on -/
def segmentAt (s : St) (seq : U32) : Packet :=
  let p := (s.packet.makeNormal seq s.data.receiveNext).setWindowSize s.data.getReceiveAvailable
  let p := p.clearData.appendData (s.data.sendBuffer.read
    (offset seq s.data.sendSequence).toNat (segmentLength s.data seq).toNat)
  if endsStream s.data seq then p.setFinFlag true else p

theorem sendSegment_eq (s : St) (seq : U32) : s.sendSegment seq =
    if InRange (offset seq s.data.sendSequence) (segmentLength s.data seq).toNat
        s.data.sendLength.toNat then
      .ok (nextSequence s.data seq, s.writePacket (segmentAt s seq))
    else .error .sendBuffer := by
  unfold St.sendSegment nextSequence segmentAt
  dsimp only
  rw [show (if s.data.mss.setWidth 32 < _ then _ else _) = segmentLength s.data seq from rfl]
  by_cases hend : s.data.serverReadFinished = true ∧
      seq + segmentLength s.data seq = s.data.sendNewDataSequence - 1
  · have h1 : endsStream s.data seq = true := decide_eq_true hend
    rw [if_pos hend, h1]
    rfl
  · have h1 : endsStream s.data seq = false := decide_eq_false hend
    rw [if_neg hend, h1, add_b32_false, if_neg Bool.false_ne_true]

section
variable {d : Data} {seq : U32}

/-- a segment without bytes is the FIN alone -/
theorem segmentLength_pos (hmss : 1 ≤ d.mss) (hseq : seq < d.sendNewDataSequence)
    (hend : endsStream d seq = false) : 0 < (segmentLength d seq).toNat := by
  rw [Nat.pos_iff_ne_zero]
  intro h0
  have hlen : segmentLength d seq = 0 := BitVec.eq_of_toNat_eq h0
  have hno : ¬ (d.serverReadFinished = true ∧
      seq + segmentLength d seq = d.sendNewDataSequence - 1) := of_decide_eq_false hend
  rw [hlen, show seq + 0 = seq from BitVec.add_zero seq] at hno
  have hmss' : 0 < (d.mss.setWidth 32).toNat := by
    have hone : (1 : U16).toNat = 1 := rfl
    rw [BitVec.toNat_setWidth_of_le (by decide)]
    rw [BitVec.le_def] at hmss
    omega
  unfold segmentLength at h0
  dsimp only at h0
  split_ifs at h0 with hm
  · omega
  · have hrest : d.sendNewDataSequence - seq = b32 d.serverReadFinished := by bv_omega
    cases hf : d.serverReadFinished with
    | true =>
      rw [hf] at hno hrest
      refine hno ⟨rfl, ?_⟩
      have hone : d.sendNewDataSequence - seq = 1 := hrest
      bv_omega
    | false =>
      rw [hf] at hrest
      have hzero : d.sendNewDataSequence - seq = 0 := hrest
      bv_omega

/-- the next segment begins behind this one, and not behind the end of the stream -/
theorem nextSequence_toNat (hseq : seq < d.sendNewDataSequence) :
    (nextSequence d seq).toNat =
        seq.toNat + (segmentLength d seq).toNat + (b32 (endsStream d seq)).toNat ∧
      (nextSequence d seq).toNat ≤ d.sendNewDataSequence.toNat := by
  have hle := segmentLength_le hseq
  have hW := d.sendNewDataSequence.isLt
  unfold nextSequence
  cases hend : endsStream d seq with
  | true =>
    have ⟨_, hlast⟩ : d.serverReadFinished = true ∧
        seq + segmentLength d seq = d.sendNewDataSequence - 1 := of_decide_eq_true hend
    rw [hlast, b32_true]
    bv_omega
  | false =>
    rw [add_b32_false, BitVec.toNat_add, b32_false]
    have hzero : (0 : U32).toNat = 0 := rfl
    omega

theorem lt_nextSequence (hmss : 1 ≤ d.mss) (hseq : seq < d.sendNewDataSequence) :
    seq.toNat < (nextSequence d seq).toNat := by
  rw [(nextSequence_toNat hseq).1]
  cases hend : endsStream d seq with
  | true =>
    have hone : (b32 true).toNat = 1 := rfl
    omega
  | false =>
    have hpos := segmentLength_pos hmss hseq hend
    omega

/-- the FIN is the last number of a stream that has ended -/
theorem endsStream_iff (hseq : seq < d.sendNewDataSequence) :
    endsStream d seq = true ↔ d.serverReadFinished = true ∧
      nextSequence d seq = d.sendNewDataSequence := by
  constructor
  · intro hend
    have ⟨hf, hlast⟩ : d.serverReadFinished = true ∧
        seq + segmentLength d seq = d.sendNewDataSequence - 1 := of_decide_eq_true hend
    refine ⟨hf, ?_⟩
    unfold nextSequence
    rw [hend, hlast]
    exact BitVec.sub_add_cancel _ _
  · rintro ⟨hf, hnext⟩
    by_contra hno
    have hend : endsStream d seq = false := by simpa using hno
    -- the bytes end before the number of the FIN
    have hrest : segmentLength d seq ≤ d.sendNewDataSequence - seq - 1 := by
      unfold segmentLength
      rw [hf, b32_true]
      dsimp only
      split_ifs with hm
      · rw [BitVec.lt_def] at hm
        exact BitVec.le_def.mpr hm.le
      · exact BitVec.le_refl _
    have h1 := (nextSequence_toNat hseq).1
    rw [hnext, hend] at h1
    have hzero : (b32 false).toNat = 0 := rfl
    bv_omega

end

/-! ## the loop ends -/

/-- **With a positive MSS the loop ends** within as many turns as there are numbers to send. -/
theorem sendLoop_ends {s : St} {seq : U32} {turns : Nat} (hmss : 1 ≤ s.data.mss)
    (hturns : s.data.sendNewDataSequence.toNat ≤ seq.toNat + turns) :
    St.sendLoop turns seq s ≠ .error .endless := by
  induction turns generalizing s seq with
  | zero =>
    unfold St.sendLoop
    rw [if_neg (by rw [BitVec.lt_def]; omega)]
    exact fun h => by cases h
  | succ turns ih =>
    unfold St.sendLoop
    split_ifs with hseq
    · rw [sendSegment_eq]
      split_ifs with hin
      · have hnext := lt_nextSequence hmss hseq
        have hdata : (s.writePacket (segmentAt s seq)).data = s.data := rfl
        exact ih (by rw [hdata]; exact hmss) (by rw [hdata]; omega)
      · exact fun h => by cases h
    · exact fun h => by cases h

/-! ## tilings -/

/-- how many numbers a packet takes up -/
def Packet.numbers (p : Packet) : Nat := p.payload.length + (b32 p.isFin).toNat

/-- The packets `ps` take up the numbers from `n` to the end of the stream, each beginning where the
one before it ends.  None carries more than `mss` bytes, they are the bytes of the send buffer at the
packet's number, and the last packet, and no other, has the FIN, if the stream has ended. -/
inductive Tiles (d : Data) : Nat → List Packet → Prop where
  | nil : Tiles d d.sendNewDataSequence.toNat []
  | cons {n : Nat} {p : Packet} {ps : List Packet} (seq : p.getSequenceNumber.toNat = n)
      (size : p.payload.length ≤ d.mss.toNat)
      (bytes : p.payload = d.sendBuffer.read (n - d.sendSequence.toNat) p.payload.length)
      (fin : p.isFin = true ↔ d.serverReadFinished = true ∧ ps = [])
      (pos : 0 < p.numbers) (rest : Tiles d (n + p.numbers) ps) : Tiles d n (p :: ps)

/-- the numbers from `n` up to `m` that stand for bytes -/
def byteCount (d : Data) (n : Nat) : Nat :=
  d.sendNewDataSequence.toNat - n - (b32 d.serverReadFinished).toNat

theorem Tiles.le {d : Data} {n : Nat} {ps : List Packet} (h : Tiles d n ps) :
    n ≤ d.sendNewDataSequence.toNat := by
  induction h with
  | nil => exact le_refl _
  | cons seq size bytes fin pos rest ih => exact (Nat.le_add_right _ _).trans ih

/-- nothing to send is nothing sent -/
theorem Tiles.nil_iff {d : Data} {n : Nat} {ps : List Packet} (h : Tiles d n ps) :
    ps = [] ↔ n = d.sendNewDataSequence.toNat := by
  cases h with
  | nil => exact iff_of_true rfl rfl
  | cons seq size bytes fin pos rest =>
    have hle := rest.le
    exact iff_of_false (List.cons_ne_nil _ _) (by omega)

/-- **No byte is left out or sent twice**: together the packets carry what stands in the buffer. -/
theorem Tiles.payload {d : Data} {n : Nat} {ps : List Packet} (h : Tiles d n ps)
    (hn : d.sendSequence.toNat ≤ n) : ps.flatMap Packet.payload =
      d.sendBuffer.read (n - d.sendSequence.toNat) (byteCount d n) := by
  induction h with
  | nil =>
    unfold byteCount
    rw [Nat.sub_self, Nat.zero_sub]
    rfl
  | @cons n p ps seq size bytes fin pos rest ih =>
    have hle := rest.le
    have hnil := rest.nil_iff
    rw [List.flatMap_cons, ih (by omega)]
    unfold Packet.numbers at hle hnil ⊢
    cases hfin : p.isFin with
    | true =>
      -- the packet is the last one, and its last number is the FIN
      obtain ⟨hended, hlast⟩ := fin.mp hfin
      have hend := hnil.mp hlast
      rw [hfin] at hend
      have hcount : byteCount d (n + (p.payload.length + (b32 true).toNat)) = 0 := by
        unfold byteCount
        omega
      have hall : byteCount d n = p.payload.length := by
        unfold byteCount
        rw [hended]
        omega
      rw [hcount, hall, ← bytes]
      exact List.append_nil _
    | false =>
      rw [hfin] at hle hnil
      have hzero : (b32 false).toNat = 0 := rfl
      have hsplit : byteCount d n = p.payload.length + byteCount d (n + p.payload.length) := by
        unfold byteCount
        cases hended : d.serverReadFinished with
        | true =>
          have hmore : ps ≠ [] := fun hc => by
            have := fin.mpr ⟨hended, hc⟩
            rw [hfin] at this
            cases this
          have hlt : n + p.payload.length ≠ d.sendNewDataSequence.toNat := fun hc =>
            hmore (hnil.mpr (by omega))
          have hone : (b32 true).toNat = 1 := rfl
          omega
        | false => omega
      rw [hzero, Nat.add_zero, hsplit, Mem.read_add, ← bytes]
      congr 2
      omega

/-! ## what the loop writes -/

/-- the numbers from `seq` on stand in the send buffer, and none of them wraps -/
structure InBuffer (d : Data) (seq : U32) : Prop where
  first : d.sendSequence ≤ seq
  last : seq ≤ d.sendNewDataSequence
  room : d.sendNewDataSequence.toNat ≤ d.sendSequence.toNat + d.sendLength.toNat

section
variable {s : St} {seq : U32}

theorem segmentLength_le_mss (d : Data) (seq : U32) : (segmentLength d seq).toNat ≤ d.mss.toNat := by
  have hmss : (d.mss.setWidth 32).toNat = d.mss.toNat := BitVec.toNat_setWidth_of_le (by decide)
  unfold segmentLength
  dsimp only
  split_ifs with hm
  · exact hmss.le
  · rw [BitVec.lt_def] at hm
    omega

/-- the packet of a turn carries its slice of the buffer -/
theorem segmentAt_payload (h : s.data.sendSequence ≤ seq) : (segmentAt s seq).payload =
    s.data.sendBuffer.read (seq.toNat - s.data.sendSequence.toNat)
      (segmentLength s.data seq).toNat := by
  have hmss := s.data.mss.isLt
  have hle := segmentLength_le_mss s.data seq
  have hoff : (offset seq s.data.sendSequence).toNat =
      seq.toNat - s.data.sendSequence.toNat := by
    unfold offset
    omega
  have hwhole (m : Mem Byte) (a : Nat) : ([] ++ m.read a (segmentLength s.data seq).toNat).take
      (2 ^ 16 - 1) = m.read a (segmentLength s.data seq).toNat := by
    rw [List.nil_append]
    refine List.take_of_length_le ?_
    rw [Mem.read_length]
    omega
  unfold segmentAt
  dsimp only
  rw [hoff]
  split_ifs <;> exact hwhole _ _

theorem segmentAt_fin (s : St) (seq : U32) : (segmentAt s seq).isFin = endsStream s.data seq := by
  unfold segmentAt
  dsimp only
  split_ifs with h
  · exact h.symm
  · exact (Bool.not_eq_true _ ▸ h : endsStream s.data seq = false).symm

theorem segmentAt_sequence (s : St) (seq : U32) : (segmentAt s seq).getSequenceNumber = seq := by
  unfold segmentAt
  dsimp only
  split_ifs <;> rfl

/-- the packet of a turn takes up the numbers up to the next turn -/
theorem segmentAt_numbers (h : InBuffer s.data seq) (hseq : seq < s.data.sendNewDataSequence) :
    (nextSequence s.data seq).toNat = seq.toNat + (segmentAt s seq).numbers := by
  unfold Packet.numbers
  rw [segmentAt_payload h.first, Mem.read_length, segmentAt_fin, (nextSequence_toNat hseq).1,
    Nat.add_assoc]

theorem InBuffer.next (h : InBuffer s.data seq) (hseq : seq < s.data.sendNewDataSequence) :
    InBuffer s.data (nextSequence s.data seq) := by
  have ⟨hnext, hle⟩ := nextSequence_toNat hseq
  have hfirst := h.first
  refine ⟨?_, BitVec.le_def.mpr hle, h.room⟩
  rw [BitVec.le_def] at hfirst ⊢
  omega

/-- a turn of the loop stays within the buffer -/
theorem sendSegment_inBuffer (h : InBuffer s.data seq) (hseq : seq < s.data.sendNewDataSequence) :
    s.sendSegment seq = .ok (nextSequence s.data seq, s.writePacket (segmentAt s seq)) := by
  have hle := segmentLength_le hseq
  have hroom := h.room
  have hfirst := h.first
  rw [BitVec.le_def] at hfirst
  rw [sendSegment_eq, if_pos]
  unfold InRange offset
  omega

/-- **The run of the loop from `seq` on**: it ends, and what it writes is a tiling. -/
theorem sendLoop_tiles (hmss : 1 ≤ s.data.mss) (h : InBuffer s.data seq) :
    ∃ ps, Tiles s.data seq.toNat ps ∧ ∀ turns, ps.length ≤ turns →
      ∃ t, St.sendLoop turns seq s = .ok t ∧ t.data = s.data ∧ t.log = s.log ++ ps.map .written := by
  -- on the numbers that are left
  generalize hleft : s.data.sendNewDataSequence.toNat - seq.toNat = left
  induction left using Nat.strong_induction_on generalizing s seq with
  | _ left ih =>
    have hlast := h.last
    rw [BitVec.le_def] at hlast
    by_cases hseq : seq < s.data.sendNewDataSequence
    · have hlt := lt_nextSequence hmss hseq
      have hle := (nextSequence_toNat hseq).2
      have hnumbers := segmentAt_numbers h hseq
      have hdown : s.data.sendNewDataSequence.toNat - (nextSequence s.data seq).toNat < left := by
        omega
      obtain ⟨ps, htiles, hrun⟩ := @ih _ hdown (s.writePacket (segmentAt s seq))
        (nextSequence s.data seq) hmss (h.next hseq) rfl
      have htiles : Tiles s.data (seq.toNat + (segmentAt s seq).numbers) ps := by
        rw [← hnumbers]
        exact htiles
      refine ⟨segmentAt s seq :: ps, .cons ?_ ?_ ?_ ?_ (by omega) htiles, fun turns hturns => ?_⟩
      · rw [segmentAt_sequence]
      · rw [segmentAt_payload h.first, Mem.read_length]
        exact segmentLength_le_mss s.data seq
      · rw [segmentAt_payload h.first, Mem.read_length]
      · rw [segmentAt_fin, endsStream_iff hseq, htiles.nil_iff, ← hnumbers, BitVec.toNat_inj]
      · obtain ⟨n, rfl⟩ : ∃ n, turns = n + 1 := ⟨turns - 1, by rw [List.length_cons] at hturns; omega⟩
        rw [List.length_cons] at hturns
        obtain ⟨u, hu, hdata, hlog⟩ := hrun n (by omega)
        refine ⟨u, ?_, hdata, ?_⟩
        · unfold St.sendLoop
          rw [if_pos hseq, sendSegment_inBuffer h hseq]
          exact hu
        · rw [hlog, List.map_cons]
          show s.log ++ [_] ++ _ = _
          rw [List.append_assoc]
          rfl
    · rw [BitVec.lt_def] at hseq
      have hend : seq.toNat = s.data.sendNewDataSequence.toNat := by omega
      refine ⟨[], hend ▸ .nil, fun turns _ => ⟨s, ?_, rfl, (List.append_nil _).symm⟩⟩
      have hstop : ¬ seq < s.data.sendNewDataSequence := by
        rw [BitVec.lt_def]
        exact hseq
      cases turns with
      | zero =>
        unfold St.sendLoop
        rw [if_neg hstop]
      | succ turns =>
        unfold St.sendLoop
        rw [if_neg hstop]

end

/-- **`sendDataStartingFrom` tiles** the numbers from `seq` to the end of the stream. -/
theorem sendDataStartingFrom_tiles {s : St} {seq : U32} (hmss : 1 ≤ s.data.mss)
    (h : InBuffer s.data seq) :
    ∃ ps, Tiles s.data seq.toNat ps ∧
      ps.flatMap Packet.payload = s.data.sendBuffer.read
        (seq.toNat - s.data.sendSequence.toNat) (byteCount s.data seq.toNat) ∧
      ∀ turns, ps.length ≤ turns → ∃ t, s.sendDataStartingFrom seq turns = .ok t ∧
        t.data = s.data ∧ t.log = s.log ++ ps.map .written := by
  let t : St := { s with packet := s.packet.setEnds s.data.destination s.data.source }
  obtain ⟨ps, htiles, hrun⟩ := @sendLoop_tiles t seq hmss h
  exact ⟨ps, htiles, htiles.payload (BitVec.le_def.mp h.first), hrun⟩

/-- a server that sent three bytes and ended its stream, and a client that takes two at a time -/
def threeBytes : St :=
  { unused with data := { Data.init with
      state := .ESTABLISHED
      serverReadFinished := true
      mss := 2
      sendBuffer := fun j => BitVec.ofNat 8 (97 + j)
      sendLength := 16
      sendSequence := 31
      sendUnacknowledged := 31
      sendNext := 31
      sendNewDataSequence := 35 } }

theorem sendDataStartingFrom_tiles_two_and_one :
    ∃ ps, Tiles threeBytes.data (31 : U32).toNat ps ∧
      ps.flatMap Packet.payload = threeBytes.data.sendBuffer.read
        ((31 : U32).toNat - threeBytes.data.sendSequence.toNat)
        (byteCount threeBytes.data (31 : U32).toNat) ∧
      ∀ turns, ps.length ≤ turns → ∃ t, threeBytes.sendDataStartingFrom 31 turns = .ok t ∧
        t.data = threeBytes.data ∧ t.log = threeBytes.log ++ ps.map .written :=
  sendDataStartingFrom_tiles (by decide) ⟨by decide, by decide, by decide⟩

/-- the second packet carries one byte and the FIN -/
example : (segmentAt threeBytes 33).payload = [99] ∧ (segmentAt threeBytes 33).isFin = true := by
  decide

end TunServer.Session
