import TunServer.Sessions2.Connection

/-!
# The server's stream on its way to the client

`T` is what was read from the server socket, `ISS` the number drawn for the connection.

* `FaithfulAt`         a segment carries `T` at an offset that its sequence number names, and that
                       the client did not acknowledge yet;
* `Downloading`        the invariant: the send buffer is `T` from the acknowledged bytes on, and
                       `sendUnacknowledged` names its first byte;
* `download_faithful`  every segment of every run of a connection is faithful.
-/

set_option linter.unusedVariables false

namespace TunServer.Sessions2

/-- the segment `p`, sent after `pre`, carries the server's stream at the offset `a` -/
structure FaithfulAt (ISS : U32) (pre : List Event) (p : Packet) (a : Nat) : Prop where
  acked : ackedCount pre ≤ a
  seq : p.getSequenceNumber = ISS + 1 + BitVec.ofNat 32 a
  slice : Slice (receivedBytes pre) a p.payload
  le : a + p.payload.length ≤ (receivedBytes pre).length

/-- a segment of `flushDataToClient` with bytes of the stream is faithful -/
def Faithful (ISS : U32) (pre : List Event) : Event → Prop
  | .sendBack _ p => ¬ NoData p → ∃ a, FaithfulAt ISS pre p a
  | _ => True

structure Downloading (ISS : U32) (d : Data) (log : List Event) : Prop where
  acked : ackedCount log ≤ (receivedBytes log).length
  buffer : d.sendBuffer.bytes = (receivedBytes log).drop (ackedCount log)
  next : d.sendNextOffset ≤ d.sendBuffer.position
  waiting : d.state = .SYN_RECEIVED ∨ d.state = .SYN_ACK_SENT →
    d.sendUnacknowledged = ISS ∧ ackedCount log = 0
  established : d.state = .ESTABLISHED →
    d.sendUnacknowledged = ISS + 1 + BitVec.ofNat 32 (ackedCount log)
  audited : Audited (Faithful ISS) log

/-! ## events that are not about the stream -/

structure Aside (e : Event) : Prop where
  received : e.receivedPart = []
  acked : e.ackedPart = 0
  noData : ∀ d p, e = .sendBack d p → NoData p

theorem Aside.sendBack {d : Data} {p : Packet} (h : NoData p) : Aside (.sendBack d p) :=
  ⟨rfl, rfl, fun d' p' he => by cases he; exact h⟩

theorem Aside.other {e : Event} (hr : e.receivedPart = []) (ha : e.ackedPart = 0)
    (h : ∀ d p, e ≠ .sendBack d p) : Aside e :=
  ⟨hr, ha, fun d p he => absurd he (h d p)⟩

theorem ReplyEvent.aside {e : Event} (h : ReplyEvent e) : Aside e := by
  obtain ⟨d, p, rfl, hp⟩ := h
  exact .sendBack hp

section
variable {ISS : U32}

theorem Aside.faithful {pre : List Event} {e : Event} (h : Aside e) : Faithful ISS pre e := by
  cases e with
  | sendBack d p => exact fun hd => absurd (h.noData d p rfl) hd
  | _ => trivial

theorem aside_adds (ISS : U32) {l l' : List Event} (h : Adds Aside l l') :
    receivedBytes l' = receivedBytes l ∧ ackedCount l' = ackedCount l ∧
      (Audited (Faithful ISS) l → Audited (Faithful ISS) l') := by
  obtain ⟨es, rfl, hes⟩ := h
  induction es using List.reverseRecOn with
  | nil => simp
  | append_singleton es e ih =>
    obtain ⟨h1, h2, h3⟩ := ih fun e' he' => hes e' (List.mem_append_left _ he')
    have he := hes e (by simp)
    rw [← List.append_assoc]
    refine ⟨?_, ?_, ?_⟩
    · rw [receivedBytes_append, h1]
      simp [receivedBytes, he.received]
    · rw [ackedCount_append, h2]
      simp [ackedCount, he.acked]
    · exact fun hl => audited_snoc.mpr ⟨h3 hl, he.faithful⟩

/-! ## one step -/

/-- the fields the server's stream lives in -/
structure KeepsDown (d d' : Data) : Prop where
  state : d'.state = d.state
  sendBuffer : d'.sendBuffer = d.sendBuffer
  sendNextOffset : d'.sendNextOffset = d.sendNextOffset
  sendUnacknowledged : d'.sendUnacknowledged = d.sendUnacknowledged

theorem Downloading.keep {d d' : Data} {log log' : List Event} (h : Downloading ISS d log)
    (hd : KeepsDown d d') (hl : Adds Aside log log') : Downloading ISS d' log' := by
  obtain ⟨h1, h2, h3⟩ := aside_adds ISS hl
  refine ⟨?_, ?_, ?_, ?_, ?_, h3 h.audited⟩
  · rw [h1, h2]; exact h.acked
  · rw [hd.sendBuffer, h1, h2]; exact h.buffer
  · rw [hd.sendNextOffset, hd.sendBuffer]; exact h.next
  · rw [hd.state, hd.sendUnacknowledged, h2]; exact h.waiting
  · rw [hd.state, hd.sendUnacknowledged, h2]; exact h.established

theorem Downloading.emit {s : St} (h : Downloading ISS s.data s.log) {e : Event} (he : Aside e) :
    Downloading ISS (s.emit e).data (s.emit e).log :=
  h.keep ⟨rfl, rfl, rfl, rfl⟩ (Adds.one _ he)

theorem Downloading.close {s : St} (h : Downloading ISS s.data s.log) :
    Downloading ISS s.closeSession.data s.closeSession.log := by
  have hl : Adds Aside s.log (s.log ++ [Event.onSocketClose]) :=
    Adds.one _ (Aside.other rfl rfl fun _ _ he => by cases he)
  obtain ⟨h1, h2, h3⟩ := aside_adds ISS hl
  rw [St.closeSession_data, St.closeSession_log]
  refine ⟨?_, ?_, h.next, ?_, ?_, h3 h.audited⟩
  · rw [h1, h2]; exact h.acked
  · rw [h1, h2]; exact h.buffer
  · rintro (hc | hc) <;> cases hc
  · intro hc; cases hc

/-- reading appends to the stream and to the buffer alike -/
theorem Downloading.read {s : St} (h : Downloading ISS s.data s.log) (r : RecvResult) :
    Downloading ISS (s.readFromServer r).data (s.readFromServer r).log := by
  have finished : ∀ {t : St}, Downloading ISS t.data t.log →
      Downloading ISS { t.unsetFrom .receiveSet with data.receiveFromServerFinished := true }.data
        { t.unsetFrom .receiveSet with data.receiveFromServerFinished := true }.log := by
    intro t ht
    refine ht.keep ⟨?_, ?_, ?_, ?_⟩ ?_ <;> simp
    exact Adds.refl _ _
  have append : ∀ {t : St} (bs : List Byte), Downloading ISS t.data t.log →
      bs.length ≤ t.data.sendBuffer.available.toNat →
      Downloading ISS { t.data with sendBuffer := t.data.sendBuffer.put bs }
        (t.log ++ [Event.received bs]) := by
    intro t bs ht hbs
    have hput := SmartBuffer.put_bytes _ _ hbs
    have hT : receivedBytes (t.log ++ [Event.received bs]) = receivedBytes t.log ++ bs := by
      rw [receivedBytes_append]
      exact congrArg _ (List.append_nil _)
    have hA : ackedCount (t.log ++ [Event.received bs]) = ackedCount t.log := by
      rw [ackedCount_append]
      rfl
    refine ⟨?_, ?_, ?_, ?_, ?_, audited_snoc.mpr ⟨ht.audited, trivial⟩⟩
    · rw [hT, hA, List.length_append]
      exact le_trans ht.acked (Nat.le_add_right _ _)
    · rw [hT, hA, List.drop_append_of_le_length ht.acked, ← ht.buffer]
      exact hput
    · have h1 := ht.next
      rw [BitVec.le_def, SmartBuffer.position_toNat] at h1 ⊢
      rw [hput, List.length_append]
      exact le_trans h1 (Nat.le_add_right _ _)
    · rw [hA]; exact ht.waiting
    · rw [hA]; exact ht.established
  unfold St.readFromServer
  cases r with
  | bytes bs =>
    have hlen : (bs.take s.data.sendBuffer.available.toNat).length ≤
        s.data.sendBuffer.available.toNat := by
      rw [List.length_take]
      exact min_le_left _ _
    dsimp only
    split_ifs
    · have h1 := append (bs.take s.data.sendBuffer.available.toNat) (finished h) (by simp)
      exact h1
    · exact append _ h hlen
  | wouldBlock => exact h
  | error => exact finished h

/-- an acknowledgement moves the front of the buffer and `sendUnacknowledged` alike -/
theorem Downloading.advance {s : St} (h : Downloading ISS s.data s.log)
    (hs : s.data.state = .ESTABLISHED) {amt : U32} (hamt : amt ≤ s.data.sendNextOffset) :
    Downloading ISS (s.advance amt).data (s.advance amt).log := by
  unfold St.advance
  split_ifs with hpos
  · have hnext := h.next
    have hle : amt ≤ s.data.sendBuffer.position := BitVec.le_trans hamt hnext
    have hcomp := SmartBuffer.compact_bytes s.data.sendBuffer amt hle
    have hT : receivedBytes (s.log ++ [Event.acknowledged amt.toNat]) = receivedBytes s.log := by
      rw [receivedBytes_append]
      exact List.append_nil _
    have hA : ackedCount (s.log ++ [Event.acknowledged amt.toNat]) = ackedCount s.log + amt.toNat := by
      rw [ackedCount_append]
      rfl
    have hpl := s.data.sendBuffer.position_toNat
    have hlen : s.data.sendBuffer.bytes.length = (receivedBytes s.log).length - ackedCount s.log := by
      rw [h.buffer, List.length_drop]
    have hacked := h.acked
    rw [St.setIn_data, St.setIn_log]
    refine ⟨?_, ?_, ?_, ?_, ?_, audited_snoc.mpr ⟨h.audited, trivial⟩⟩
    · rw [St.emit_log, hT, hA]
      rw [BitVec.le_def] at hle
      omega
    · rw [St.emit_log, hT, hA, ← List.drop_drop, ← h.buffer]
      exact hcomp
    · show s.data.sendNextOffset - amt ≤ (s.data.sendBuffer.compact _).position
      rw [BitVec.le_def, SmartBuffer.position_toNat, hcomp, List.length_drop]
      bv_omega
    · show s.data.state = _ ∨ s.data.state = _ → _
      rw [hs]
      rintro (hc | hc) <;> cases hc
    · intro _
      show s.data.sendUnacknowledged + amt = _
      rw [h.established hs, St.emit_log, hA]
      bv_omega
  · exact h

theorem Downloading.sampleRTT {s : St} (h : Downloading ISS s.data s.log) (now : Int) :
    Downloading ISS (s.sampleRTT now).data (s.sampleRTT now).log := by
  unfold St.sampleRTT
  dsimp only
  split_ifs
  · exact h.keep ⟨rfl, rfl, rfl, rfl⟩ (Adds.refl _ _)
  · exact h

/-- the acknowledgement of a segment that is accepted is at most one beyond the sent bytes -/
theorem Downloading.acceptAck {s : St} (h : Downloading ISS s.data s.log)
    (hs : s.data.state = .ESTABLISHED) {off : U32} (now : Int)
    (hoff : off ≤ s.data.sendNextOffset + b32 s.data.sentFinToClient) :
    Downloading ISS (s.acceptAck off now).data (s.acceptAck off now).log := by
  have hnext := h.next
  have hpos := s.data.sendBuffer.position_le
  have hb := b32_le s.data.sentFinToClient
  unfold St.acceptAck
  split_ifs with hfin
  · have h1 : Downloading ISS { s.data with flushToClientFinished := true } s.log :=
      h.keep ⟨rfl, rfl, rfl, rfl⟩ (Adds.refl _ _)
    let t : St := { s with data.flushToClientFinished := true }
    have ht : Downloading ISS t.data t.log := h1
    exact (ht.advance hs (show off - 1 ≤ s.data.sendNextOffset by bv_omega)).sampleRTT now
  · exact (h.advance hs (by bv_omega)).sampleRTT now

theorem Downloading.accept {s s' : St} (h : Downloading ISS s.data s.log) (hstep : AcceptStep s s') :
    Downloading ISS s'.data s'.log := by
  obtain ⟨b, fin, hd⟩ := hstep.data
  rw [hd]
  exact h.keep ⟨rfl, rfl, rfl, rfl⟩ (hstep.log.mono fun _ => ReplyEvent.aside)

theorem Downloading.acceptSegment {s : St} (h : Downloading ISS s.data s.log)
    (hs : s.data.state = .ESTABLISHED) (i : ClientInput)
    (hrange : St.ackInRange s.data s.packet = true) :
    Downloading ISS (s.acceptSegment i).data (s.acceptSegment i).log := by
  unfold St.ackInRange at hrange
  have hoff : St.ackOff s.data s.packet ≤ s.data.sendNextOffset + b32 s.data.sentFinToClient := by
    simpa using hrange
  have hwindow : Downloading ISS (s.acceptWindow (St.ackOff s.data s.packet) i.now).data
      (s.acceptWindow (St.ackOff s.data s.packet) i.now).log ∧
      (s.acceptWindow (St.ackOff s.data s.packet) i.now).data.state = .ESTABLISHED ∧
      (s.acceptWindow (St.ackOff s.data s.packet) i.now).data.sendNextOffset =
        s.data.sendNextOffset ∧
      (s.acceptWindow (St.ackOff s.data s.packet) i.now).data.sentFinToClient =
        s.data.sentFinToClient := by
    unfold St.acceptWindow
    split_ifs
    · exact ⟨h.keep ⟨rfl, rfl, rfl, rfl⟩ (Adds.refl _ _), hs, rfl, rfl⟩
    · exact ⟨h, hs, rfl, rfl⟩
  obtain ⟨h1, hs1, hn1, hf1⟩ := hwindow
  unfold St.acceptSegment
  dsimp only
  split_ifs
  · exact h1.close
  · exact (h1.acceptAck hs1 i.now (by rw [hn1, hf1]; exact hoff)).accept
      (acceptPayload_accept _ _)

/-! ## inside `flushDataToClient` -/

/-- The segment of one turn stands in the stream at the acknowledged bytes plus the offset. -/
theorem Downloading.segment {s : St} (h : Downloading ISS s.data s.log)
    (hs : s.data.state = .ESTABLISHED) (mss : U16) (bound ack off : U32) :
    Downloading ISS (s.sendSegment mss bound ack off).data (s.sendSegment mss bound ack off).log := by
  have hslice : ∀ n, Slice (receivedBytes s.log) (ackedCount s.log + off.toNat)
      (((s.data.sendBuffer.bytes.drop off.toNat).take n).take (2 ^ 16 - 1)) := by
    intro n
    rw [List.take_take, h.buffer]
    exact slice_of_drop
  -- the packet may have got its FIN flag, and the session its mark
  have send : ∀ (d : Data) (p : Packet), KeepsDown s.data d →
      p.getSequenceNumber = s.data.sendUnacknowledged + off →
      (∃ n, p.payload = ((s.data.sendBuffer.bytes.drop off.toNat).take n).take (2 ^ 16 - 1)) →
      Downloading ISS d (s.log ++ [Event.sendBack d p]) := by
    rintro d p hd hseq ⟨n, hn⟩
    have hgood : Faithful ISS s.log (.sendBack d p) := by
      intro hdata
      have hne : p.payload ≠ [] := fun he => hdata (noData_of_payload he)
      have hsl := hslice n
      rw [← hn] at hsl
      have hle : ackedCount s.log + off.toNat ≤ (receivedBytes s.log).length := by
        by_contra hgt
        have h1 := List.IsPrefix.length_le hsl
        rw [List.length_drop] at h1
        exact hne (List.length_eq_zero_iff.mp (by omega))
      refine ⟨_, Nat.le_add_right _ _, ?_, hsl, hsl.length_le hle⟩
      rw [hseq, h.established hs]
      bv_omega
    have hT : receivedBytes (s.log ++ [Event.sendBack d p]) = receivedBytes s.log := by
      rw [receivedBytes_append]
      exact List.append_nil _
    have hA : ackedCount (s.log ++ [Event.sendBack d p]) = ackedCount s.log := by
      rw [ackedCount_append]
      rfl
    have hk := h.keep hd (Adds.refl _ _)
    exact ⟨by rw [hT, hA]; exact hk.acked, by rw [hT, hA]; exact hk.buffer, hk.next,
      by rw [hA]; exact hk.waiting, by rw [hA]; exact hk.established,
      audited_snoc.mpr ⟨h.audited, hgood⟩⟩
  unfold St.sendSegment
  dsimp only
  split_ifs
  · exact send _ _ ⟨rfl, rfl, rfl, rfl⟩ rfl ⟨_, rfl⟩
  · exact send _ _ ⟨rfl, rfl, rfl, rfl⟩ rfl ⟨_, rfl⟩

theorem sendSegment_keeps (s : St) (mss : U16) (bound ack off : U32) :
    KeepsDown s.data (s.sendSegment mss bound ack off).data := by
  unfold St.sendSegment
  dsimp only
  split_ifs
  · exact ⟨rfl, rfl, rfl, rfl⟩
  · exact ⟨rfl, rfl, rfl, rfl⟩

/-- a further turn is taken only while the offset is within the bound -/
theorem off_le_of_sendMore {d : Data} {mss : U16} {push : Bool} {bound off : U32}
    (hb : bound.toNat ≤ 65535) (ho : off.toNat ≤ 65535)
    (h : St.sendMore d mss push bound off = true) : off ≤ bound := by
  have hm : (mss.setWidth 32).toNat ≤ 65535 := by
    have := mss.isLt
    rw [BitVec.toNat_setWidth]
    omega
  have hf := b32_le d.receiveFromServerFinished
  unfold St.sendMore at h
  cases push <;> simp only [if_true, if_false, Bool.false_eq_true, decide_eq_true_eq] at h <;> bv_omega

theorem off_add_sendAmount_le {mss : U16} {bound off : U32} (h : off ≤ bound) :
    off + St.sendAmount mss bound off ≤ bound := by
  unfold St.sendAmount
  split_ifs <;> bv_omega

/-- The loop keeps the invariant, and its offset within the buffer. -/
theorem Downloading.loop (mss : U16) (push : Bool) (ack : U32) (turns : Nat) {bound off : U32}
    {s : St} (h : Downloading ISS s.data s.log) (hs : s.data.state = .ESTABLISHED)
    (hb : bound ≤ s.data.sendBuffer.position) (ho : off ≤ s.data.sendBuffer.position) :
    let r := St.sendLoop mss push bound ack turns off s
    Downloading ISS r.2.data r.2.log ∧ KeepsDown s.data r.2.data ∧
      r.1 ≤ s.data.sendBuffer.position := by
  induction turns generalizing off s with
  | zero =>
    have e : (St.sendLoop mss push bound ack 0 off s).2.data = s.data ∧
        (St.sendLoop mss push bound ack 0 off s).2.log = s.log := by
      unfold St.sendLoop
      split_ifs
      · exact ⟨rfl, rfl⟩
      · exact ⟨rfl, rfl⟩
    refine ⟨?_, ?_, ho⟩
    · rw [e.1, e.2]; exact h
    · rw [e.1]; exact ⟨rfl, rfl, rfl, rfl⟩
  | succ turns ih =>
    have hpos := s.data.sendBuffer.position_le
    intro r
    show Downloading ISS (St.sendLoop _ _ _ _ _ _ _).2.data (St.sendLoop _ _ _ _ _ _ _).2.log ∧
      KeepsDown s.data (St.sendLoop _ _ _ _ _ _ _).2.data ∧
      (St.sendLoop _ _ _ _ _ _ _).1 ≤ s.data.sendBuffer.position
    unfold St.sendLoop
    split_ifs with hmore
    · have hle : off ≤ bound :=
        off_le_of_sendMore (by bv_omega) (by bv_omega) hmore
      have hk := sendSegment_keeps s mss bound ack off
      have hb' : bound ≤ (s.sendSegment mss bound ack off).data.sendBuffer.position := by
        rw [hk.sendBuffer]; exact hb
      obtain ⟨h1, h2, h3⟩ := ih (h.segment hs mss bound ack off) (hk.state.trans hs) hb'
        (BitVec.le_trans (off_add_sendAmount_le hle) hb')
      refine ⟨h1, ⟨h2.state.trans hk.state, h2.sendBuffer.trans hk.sendBuffer,
        h2.sendNextOffset.trans hk.sendNextOffset,
        h2.sendUnacknowledged.trans hk.sendUnacknowledged⟩, ?_⟩
      rw [hk.sendBuffer] at h3
      exact h3
    · exact ⟨h, ⟨rfl, rfl, rfl, rfl⟩, ho⟩

theorem Downloading.sentUpTo {s : St} (h : Downloading ISS s.data s.log) {off : U32} (now : Int)
    (ho : off ≤ s.data.sendBuffer.position) :
    Downloading ISS (s.sentUpTo off now).data (s.sentUpTo off now).log := by
  have hnew : (if s.data.sendNextOffset < off then off else s.data.sendNextOffset) ≤
      s.data.sendBuffer.position := by
    split_ifs
    · exact ho
    · exact h.next
  unfold St.sentUpTo
  dsimp only
  generalize (if s.data.sendNextOffset < off then off else s.data.sendNextOffset) = newOff at hnew ⊢
  split_ifs
  · exact ⟨h.acked, h.buffer, hnew, h.waiting, h.established, h.audited⟩
  · exact h

theorem sendBound_le (d : Data) : St.sendBound d ≤ d.sendBuffer.position := by
  unfold St.sendBound
  split_ifs <;> bv_omega

theorem sentUpTo_keeps (s : St) (off : U32) (now : Int) :
    (s.sentUpTo off now).data.sendBuffer = s.data.sendBuffer := by
  unfold St.sentUpTo
  dsimp only
  generalize (if s.data.sendNextOffset < off then off else s.data.sendNextOffset) = newOff
  split_ifs <;> rfl

/-- inside `flushDataToClient`: the session is established, the send buffer stays as it is -/
structure Flushing (ISS : U32) (b : SmartBuffer) (s : St) : Prop where
  down : Downloading ISS s.data s.log
  state : s.data.state = .ESTABLISHED
  buffer : s.data.sendBuffer = b

section
variable {b : SmartBuffer} {bound : U32}

theorem Flushing.next {s : St} (h : Flushing ISS b s) : s.data.sendNextOffset ≤ b.position := by
  rw [← h.buffer]
  exact h.down.next

theorem Flushing.sendDataStartingFrom {s : St} (h : Flushing ISS b s) {off : U32} (mss : U16)
    (push : Bool) (now : Int) (turns : Nat) (hb : bound ≤ b.position) (ho : off ≤ b.position) :
    Flushing ISS b (s.sendDataStartingFrom off mss push bound now turns) := by
  obtain ⟨hd, hs, hbuf⟩ := h
  rw [← hbuf] at hb ho ⊢
  let t : St := { s with packet := s.packet.setWindow s.data.receiveBuffer.available }
  have ht : Downloading ISS t.data t.log := hd
  obtain ⟨h1, h2, h3⟩ := ht.loop mss push (s.data.receiveSent + s.data.receiveBuffer.position) turns
    hs hb ho
  refine ⟨?_, (sendDataStartingFrom_flush s off mss push bound now turns).up.state.trans hs, ?_⟩
  · unfold St.sendDataStartingFrom
    dsimp only
    split_ifs
    · exact h1
    · exact h1.sentUpTo now (by rw [h2.sendBuffer]; exact h3)
  · unfold St.sendDataStartingFrom
    dsimp only
    split_ifs
    · exact h2.sendBuffer
    · exact (sentUpTo_keeps _ _ _).trans h2.sendBuffer

theorem Flushing.trackRTT {s : St} (h : Flushing ISS b s) (now : Int) :
    Flushing ISS b (s.trackRTT now) := by
  unfold St.trackRTT
  split_ifs
  · exact h
  · exact ⟨h.down.keep ⟨rfl, rfl, rfl, rfl⟩ (Adds.refl _ _), h.state, h.buffer⟩

theorem Flushing.flushSegments {s : St} (h : Flushing ISS b s) (hb : bound ≤ b.position) (now : Int)
    (turns : Nat) : Flushing ISS b (s.flushSegments bound now turns) := by
  unfold St.flushSegments
  dsimp only
  split_ifs
  · exact h.sendDataStartingFrom _ _ _ _ hb (by bv_omega)
  · exact h.sendDataStartingFrom _ _ _ _ hb h.next
  · exact (h.sendDataStartingFrom _ _ _ _ hb h.next).trackRTT _
  · exact h

theorem Flushing.flushRest {s : St} (h : Flushing ISS b s) (hb : bound ≤ b.position)
    (finNotSent : Bool) (now : Int) (turns : Nat) :
    Flushing ISS b (s.flushRest bound finNotSent now turns) := by
  unfold St.flushRest
  split_ifs
  · exact h.sendDataStartingFrom _ _ _ _ hb h.next
  · exact h

end

theorem Downloading.probe {s : St} (h : Downloading ISS s.data s.log) (now : Int) :
    Downloading ISS (s.probe now).data (s.probe now).log := by
  unfold St.probe
  split_ifs
  · exact h.keep ⟨rfl, rfl, rfl, rfl⟩ (Adds.one _ (.sendBack (noData_of_payload rfl)))
  · exact h

theorem Downloading.flush {s : St} (h : Downloading ISS s.data s.log) (now : Int) (turns : Nat) :
    Downloading ISS (s.flushDataToClient now turns).data (s.flushDataToClient now turns).log := by
  unfold St.flushDataToClient
  dsimp only
  split_ifs with hfirst
  · exact h
  · rw [not_or, not_not] at hfirst
    exact (Flushing.flushSegments ⟨h, hfirst.1, rfl⟩ (sendBound_le _) now turns).down
  · rw [not_or, not_not] at hfirst
    exact ((Flushing.flushSegments ⟨h, hfirst.1, rfl⟩ (sendBound_le _) now turns).flushRest
      (sendBound_le _) _ now turns).down
  · rw [not_or, not_not] at hfirst
    exact ((Flushing.flushSegments ⟨h, hfirst.1, rfl⟩ (sendBound_le _) now turns).flushRest
      (sendBound_le _) _ now turns).down.probe now

/-! ## the other calls -/

theorem downloading_resetClient {s : St} (h : Downloading ISS s.data s.log) :
    Downloading ISS s.resetClient.data s.resetClient.log := by
  unfold St.resetClient
  refine Downloading.close (h.keep ⟨rfl, rfl, rfl, rfl⟩ (Adds.one _ (.sendBack ?_)))
  exact noData_of_header fun _ _ _ he => by cases he

theorem downloading_finishSend {s : St} (h : Downloading ISS s.data s.log) (amt : U32) :
    Downloading ISS (s.finishSend amt).data (s.finishSend amt).log := by
  have hun : Downloading ISS (s.unsetFrom .sendSet).data (s.unsetFrom .sendSet).log := by
    simpa using h
  unfold St.finishSend
  dsimp only
  split_ifs
  · exact hun.close
  · exact hun.keep ⟨rfl, rfl, rfl, rfl⟩ (Adds.one _ (.other rfl rfl fun _ _ he => by cases he))
  · exact hun.keep ⟨rfl, rfl, rfl, rfl⟩ (Adds.refl _ _)
  · exact h.keep ⟨rfl, rfl, rfl, rfl⟩ (Adds.refl _ _)

theorem downloading_finishConnect {s : St} (h : Downloading ISS s.data s.log)
    (hs : s.data.state = .SYN_RECEIVED) (lastError now now' : Int) :
    Downloading ISS (s.finishConnect lastError now now').data
      (s.finishConnect lastError now now').log := by
  unfold St.finishConnect
  dsimp only
  split_ifs
  · exact h
  · have hsent : Downloading ISS s.data (s.log ++ [Event.sendBack s.data
        ((St.setEnds s.data s.packet).makeSyn s.data.sendUnacknowledged s.data.receiveSent)]) :=
      h.emit (.sendBack (noData_of_header fun _ _ _ he => by cases he))
    rw [St.unsetFrom_data, St.unsetFrom_log]
    refine ⟨hsent.acked, hsent.buffer, hsent.next, fun _ => hsent.waiting (.inl hs), ?_, hsent.audited⟩
    intro hc
    cases hc
  · refine Downloading.close (h.keep ⟨rfl, rfl, rfl, rfl⟩ (Adds.one _ (.sendBack ?_)))
    exact noData_of_header fun _ _ _ he => by cases he

theorem downloading_server {s : St} (h : Downloading ISS s.data s.log) (lastError : Int)
    (r : SendResult) (now now' : Int) :
    Downloading ISS (s.flushDataToServer lastError r now now').data
      (s.flushDataToServer lastError r now now').log := by
  have hsend : ∀ bs amt, Downloading ISS ((s.emit (.sent bs)).finishSend amt).data
      ((s.emit (.sent bs)).finishSend amt).log := fun bs amt =>
    downloading_finishSend (h.emit (.other rfl rfl fun _ _ he => by cases he)) amt
  unfold St.flushDataToServer
  split_ifs with h1 h2
  · exact downloading_finishConnect h h1 lastError now now'
  · exact h
  · unfold St.sendToServer
    cases r with
    | error => exact downloading_resetClient h
    | accepted n => exact hsend _ _
    | wouldBlock => exact hsend _ _

theorem downloading_client {IP_MSS : U16} {s s' : St} {i : ClientInput}
    (h : Downloading ISS s.data s.log) (hfirst : s.data.state = .CLOSED → s.packet.isSyn = false)
    (hstep : ClientStep IP_MSS s i s') : Downloading ISS s'.data s'.log := by
  have reply : ∀ {t : St}, ReplyStep s t → Downloading ISS t.data t.log := by
    intro t ht
    rw [ht.data]
    exact h.keep ⟨rfl, rfl, rfl, rfl⟩ (ht.log.mono fun _ => ReplyEvent.aside)
  cases hstep with
  | same => exact h
  | reset => exact reply (sendReset_reply s)
  | ack => exact reply (sendAck_reply s)
  | synAck => exact reply (sendSynAck_reply s)
  | opened res hs hsyn => exact absurd ((hfirst hs).symm.trans hsyn) (by decide)
  | closed => exact h.close
  | established hs =>
    obtain ⟨hun, hzero⟩ := h.waiting (.inr hs)
    refine ⟨?_, ?_, ?_, ?_, ?_, ?_⟩
    · simpa [St.establish] using h.acked
    · simpa [St.establish, Data.pushRTT] using h.buffer
    · simpa [St.establish, Data.pushRTT] using h.next
    · rintro (hc | hc) <;> cases hc
    · simp [St.establish, Data.pushRTT, hun, hzero]
    · simpa [St.establish] using h.audited
  | accepted hs _ _ _ _ hrange => exact h.acceptSegment hs i hrange

/-! ## runs -/

theorem downloading_step {IP_MSS : U16} {s : St} {op : Op} (h : Downloading ISS s.data s.log)
    (hone : NoNewConnection s op) :
    Downloading ISS (step IP_MSS s op).data (step IP_MSS s op).log := by
  unfold step
  split_ifs
  · exact h
  · cases op with
    | receiveFromClient p i =>
      show Downloading ISS (receiveFromClient IP_MSS s p i).2.data
        (receiveFromClient IP_MSS s p i).2.log
      unfold receiveFromClient
      split_ifs
      · let t : St := { s with packet := p }
        have ht : Downloading ISS t.data t.log := h
        show Downloading ISS (t.handlePacket IP_MSS i).data (t.handlePacket IP_MSS i).log
        exact downloading_client ht (hone p rfl) (handlePacket_step IP_MSS t i)
      · exact h
    | receiveFromServer r now turns =>
      show Downloading ISS (s.receiveFromServer r now turns).data
        (s.receiveFromServer r now turns).log
      by_cases hs : s.data.state = .ESTABLISHED ∧ s.data.receiveFromServerFinished = false
      · have h1 := (h.read r).flush now turns
        rcases receiveFromServer_open hs.1 hs.2 r now turns with e | e
        · rw [e]
          exact h1
        · rw [e, St.unsetFrom_data, St.unsetFrom_log]
          exact h1
      · rw [receiveFromServer_skip hs]
        exact h
    | flushDataToServer lastError r now now' => exact downloading_server h lastError r now now'
    | flushDataToClient now turns => exact h.flush now turns
    | onSocketError => exact downloading_resetClient h
    | checkStatus now now' =>
      show Downloading ISS (s.checkStatus now now').2.data (s.checkStatus now now').2.log
      rcases checkStatus_cases s now now' with ⟨_, e⟩ | ⟨_, e⟩ | ⟨_, e⟩
      · rw [e]; exact h
      · rw [e]; exact h
      · rw [e]; exact h.close
    | closeSession => exact h.close

theorem downloading_opened {IP_MSS : U16} {s : St} {p : Packet} {i : ClientInput}
    (h : Opens IP_MSS s p i) :
    Downloading i.sequenceNo (receiveFromClient IP_MSS s p i).2.data
      (receiveFromClient IP_MSS s p i).2.log := by
  obtain ⟨res, _, e⟩ := opens_eq h
  rw [e]
  -- the session waits, with empty streams and an empty buffer
  have start : ∀ d : Data, d.state = .SYN_RECEIVED ∨ d.state = .SYN_ACK_SENT →
      d.sendUnacknowledged = i.sequenceNo → d.sendBuffer = .clear → d.sendNextOffset = 0 →
      Downloading i.sequenceNo d [] := by
    intro d hs hun hbuf hnext
    refine ⟨le_refl _, by rw [hbuf]; rfl, by rw [hnext, hbuf]; decide, fun _ => ⟨hun, rfl⟩, ?_,
      audited_nil _⟩
    intro hc
    rw [hc] at hs
    rcases hs with hs | hs <;> cases hs
  unfold St.openConnected
  dsimp only
  split_ifs
  · let t : St := { St.setIn { s with packet := p, data := St.opened s.data IP_MSS p i } .errorSet with
      data.lastTimeSentNewData := i.now }
    have hlog : t.log = [] := by
      show (St.setIn _ _).log = []
      rw [St.setIn_log]
      exact h.log
    have hreply := (sendSynAck_reply t).log.mono fun _ => ReplyEvent.aside
    rw [hlog] at hreply
    refine (start { t.data with state := .SYN_ACK_SENT } (.inr rfl) ?_ ?_ ?_).keep ⟨rfl, rfl, rfl, rfl⟩
      hreply <;> simp [t, St.opened, Data.reset]
  · rw [St.setIn_data, St.setIn_log, St.setIn_log, h.log]
    exact start _ (.inl rfl) (by simp [St.opened, Data.reset]) (by simp [St.opened, Data.reset])
      (by simp [St.opened, Data.reset])

theorem FaithfulAt.mono {pre log : List Event} {p : Packet} {a : Nat} (h : FaithfulAt ISS pre p a)
    (hpre : pre <+: log) : Slice (receivedBytes log) a p.payload := by
  obtain ⟨post, rfl⟩ := hpre
  refine h.slice.mono ?_
  rw [receivedBytes_append]
  exact List.prefix_append _ _

/-- segments of one log carry the same byte at the same offset of the stream -/
theorem FaithfulAt.agree {pre pre' log : List Event} {p p' : Packet} {a a' : Nat}
    (h : FaithfulAt ISS pre p a) (h' : FaithfulAt ISS pre' p' a') (hpre : pre <+: log)
    (hpre' : pre' <+: log) {j j' : Nat} (hj : j < p.payload.length) (hj' : j' < p'.payload.length)
    (he : a + j = a' + j') : p.payload[j]? = p'.payload[j']? := by
  rw [← (h.mono hpre).get hj, ← (h'.mono hpre').get hj', he]

/-- **The download is the server's stream.**  In every run of a connection each segment with bytes
carries them at an offset of the stream that its sequence number names and that is not yet
acknowledged; so two segments carry the same byte at the same offset. -/
theorem download_faithful {IP_MSS : U16} {s : St} {p : Packet} {i : ClientInput} {ops : List Op}
    (hopen : Opens IP_MSS s p i)
    (hone : Along (step IP_MSS) NoNewConnection (receiveFromClient IP_MSS s p i).2 ops) :
    let log := (run (step IP_MSS) (receiveFromClient IP_MSS s p i).2 ops).log
    Audited (Faithful i.sequenceNo) log ∧
      ∀ pre pre' q q' a a' j j', pre <+: log → pre' <+: log →
        FaithfulAt i.sequenceNo pre q a → FaithfulAt i.sequenceNo pre' q' a' →
        j < q.payload.length → j' < q'.payload.length → a + j = a' + j' →
        q.payload[j]? = q'.payload[j']? := by
  have hinv := run_inv (fun t => Downloading i.sequenceNo t.data t.log)
    (fun t op ht hok => downloading_step ht hok) (downloading_opened hopen) hone
  refine ⟨hinv.audited, ?_⟩
  intro pre pre' q q' a a' j j' hpre hpre' h h' hj hj' he
  exact h.agree h' hpre hpre' hj hj' he

end

/-- The handshake is finished and its number acknowledged, three bytes are read and two of them sent; much
later these two are sent again, with the third behind them, and then acknowledged. -/
def downloadOps : List Op :=
  let client : SockAddr := ⟨0x0a000001, 40000⟩
  let server : SockAddr := ⟨0x01010101, 80⟩
  [.receiveFromClient (ackPacket client server 101 1000 1000) ⟨5, .thrown, 0, 0, 0⟩,
   .receiveFromClient (ackPacket client server 101 1001 1000) ⟨5, .thrown, 0, 0, 0⟩,
   .receiveFromServer (.bytes [97, 98, 99]) 1000000000 4,
   .flushDataToClient 9000000000 4,
   .receiveFromClient (ackPacket client server 101 1003 1000) ⟨5, .thrown, 0, 0, 0⟩]

theorem download_faithful_retransmission :
    Audited (Faithful 1000) (run (step 2) (receiveFromClient 2 (unused 2)
      (synPacket ⟨0x0a000001, 40000⟩ ⟨0x01010101, 80⟩ 100 1000) ⟨5, .returned 0, 1000, 0, 0⟩).2
        downloadOps).log :=
  (download_faithful ⟨rfl, rfl, rfl, by decide⟩ (by decide)).1

end TunServer.Sessions2
