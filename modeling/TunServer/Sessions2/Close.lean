import TunServer.Sessions2.Sending
import TunServer.Sessions2.Upload

/-!
# Closing without a loss

Over a run of a connection a ledger is kept: for every segment that is taken in, the bytes it puts
into the receive buffer (`takenBytes`), how many bytes it acknowledges and whether it acknowledges the
FIN (`acks`).

* `Accounts`         the invariant: flags, buffers, log and ledger agree while the session is open;
* `Forced`           the calls that close a session without regard to its streams;
* `Settled`          all streams have come to their end;
* `close_settled`    any other call that closes the session finds them settled.
-/

set_option linter.unusedVariables false

namespace TunServer.Sessions2

/-- an entry of the ledger: what a segment that is taken in brings -/
structure Entry where
  bytes : List Byte
  acked : Nat
  fin : Bool

/-- what the call enters into the ledger -/
def entries (s : St) : Op → List Entry
  | .receiveFromClient p _ =>
    if s.hung = false ∧ Accepts s.data p.val then
      [{ bytes := if closes s.data p.val then [] else accepted s.data p.val
         acked := (ackedBytes s.data p.val).toNat
         fin := s.data.sendNextOffset < St.ackOff s.data p.val }]
    else []
  | _ => []

/-- the bytes that were put into the receive buffer -/
def takenBytes (l : List Entry) : List Byte := l.flatMap Entry.bytes

/-- the acknowledgements that were accepted -/
def acks (l : List Entry) : List (Nat × Bool) := l.map fun e => (e.acked, e.fin)

theorem takenBytes_append (l l' : List Entry) :
    takenBytes (l ++ l') = takenBytes l ++ takenBytes l' := List.flatMap_append

theorem acks_append (l l' : List Entry) : acks (l ++ l') = acks l ++ acks l' := List.map_append

/-- a FIN was sent -/
def SentFin (log : List Event) : Prop := ∃ d r, .sendBack d r ∈ log ∧ r.isFin = true

theorem SentFin.mono {log log' : List Event} {P : Event → Prop} (h : SentFin log)
    (hl : Adds P log log') : SentFin log' := by
  obtain ⟨d, r, hr, hf⟩ := h
  obtain ⟨es, rfl, _⟩ := hl
  exact ⟨d, r, List.mem_append_left _ hr, hf⟩

/-- flags, buffers, log and ledger of an open session agree -/
structure Accounts (d : Data) (log : List Event) (taken : List Byte) (acked : List (Nat × Bool)) :
    Prop where
  marks : Marks d
  upload : sentBytes log ++ (if d.flushToServerFinished then [] else d.receiveBuffer.bytes) = taken
  done : d.flushToServerFinished = true → d.receiveFromClientFinished = true
  acknowledged : (acked.map Prod.fst).sum = ackedCount log
  download : (receivedBytes log).length = ackedCount log + d.sendBuffer.bytes.length
  finAcked : d.flushToClientFinished = true →
    (∃ n ∈ acked, n.2 = true) ∧ d.sentFinToClient = true ∧ d.sendBuffer.bytes = []
  finSent : d.sentFinToClient = true → SentFin log

/-- the part of the data the accounts are about -/
structure KeepsAccounts (d d' : Data) : Prop where
  receiveFromClientFinished : d'.receiveFromClientFinished = d.receiveFromClientFinished
  flushToServerFinished : d'.flushToServerFinished = d.flushToServerFinished
  receiveFromServerFinished : d'.receiveFromServerFinished = d.receiveFromServerFinished
  sentFinToClient : d'.sentFinToClient = d.sentFinToClient
  flushToClientFinished : d'.flushToClientFinished = d.flushToClientFinished
  sendBuffer : d'.sendBuffer = d.sendBuffer
  sendNextOffset : d'.sendNextOffset = d.sendNextOffset
  receiveBuffer : d'.receiveBuffer = d.receiveBuffer

/-- an event that moves no bytes -/
structure Idle (e : Event) : Prop where
  sent : e.sentPart = []
  received : e.receivedPart = []
  acked : e.ackedPart = 0

theorem idle_adds {l l' : List Event} (h : Adds Idle l l') : sentBytes l' = sentBytes l ∧
    receivedBytes l' = receivedBytes l ∧ ackedCount l' = ackedCount l := by
  obtain ⟨es, rfl, hes⟩ := h
  have h1 : sentBytes es = [] := List.flatMap_eq_nil_iff.mpr fun e he => (hes e he).sent
  have h2 : receivedBytes es = [] := List.flatMap_eq_nil_iff.mpr fun e he => (hes e he).received
  have h3 : ackedCount es = 0 := by
    refine List.sum_eq_zero ?_
    intro n hn
    obtain ⟨e, he, rfl⟩ := List.mem_map.mp hn
    exact (hes e he).acked
  rw [sentBytes_append, receivedBytes_append, ackedCount_append, h1, h2, h3]
  simp

theorem ReplyEvent.idle {e : Event} (h : ReplyEvent e) : Idle e := by
  obtain ⟨d, p, rfl, _⟩ := h
  exact ⟨rfl, rfl, rfl⟩

theorem FlushEvent.idle {d : Data} {p : Packet} {e : Event} (h : FlushEvent d p e) : Idle e := by
  obtain ⟨d', p', rfl, _⟩ := h
  exact ⟨rfl, rfl, rfl⟩

section
variable {s : St} {taken : List Byte} {acked : List (Nat × Bool)}

theorem Marks.keep {d d' : Data} (h : Marks d) (hd : KeepsAccounts d d') : Marks d' := by
  refine ⟨?_, ?_⟩
  · rw [hd.sendNextOffset, hd.sendBuffer]; exact h.next
  · rw [hd.sendNextOffset, hd.sendBuffer, hd.sentFinToClient, hd.receiveFromServerFinished]
    exact h.fin

theorem Accounts.keep {d d' : Data} {log log' : List Event} (h : Accounts d log taken acked)
    (hd : KeepsAccounts d d') (hl : Adds Idle log log') : Accounts d' log' taken acked := by
  obtain ⟨h1, h2, h3⟩ := idle_adds hl
  refine ⟨h.marks.keep hd, ?_, ?_, ?_, ?_, ?_, ?_⟩
  · rw [h1, hd.flushToServerFinished, hd.receiveBuffer]; exact h.upload
  · rw [hd.flushToServerFinished, hd.receiveFromClientFinished]; exact h.done
  · rw [h3]; exact h.acknowledged
  · rw [h2, h3, hd.sendBuffer]; exact h.download
  · rw [hd.flushToClientFinished, hd.sentFinToClient, hd.sendBuffer]; exact h.finAcked
  · rw [hd.sentFinToClient]; exact fun hf => (h.finSent hf).mono hl

/-! ## acknowledgements -/

/-- what `advance` does to the accounts -/
structure Advanced (s : St) (amt : U32) (t : St) : Prop where
  data : t.data = { s.data with
    sendUnacknowledged := t.data.sendUnacknowledged
    sendNextOffset := s.data.sendNextOffset - amt
    sendBuffer := t.data.sendBuffer }
  bytes : t.data.sendBuffer.bytes = s.data.sendBuffer.bytes.drop amt.toNat
  sent : sentBytes t.log = sentBytes s.log
  received : receivedBytes t.log = receivedBytes s.log
  acked : ackedCount t.log = ackedCount s.log + amt.toNat
  log : Adds (fun _ => True) s.log t.log

theorem advance_advanced {amt : U32} (hm : Marks s.data) (hamt : amt ≤ s.data.sendNextOffset) :
    Advanced s amt (s.advance amt) := by
  have hpos := s.data.sendBuffer.position_le
  have hle : amt ≤ s.data.sendBuffer.position := BitVec.le_trans hamt hm.next
  have hint : amt.toInt = amt.toNat := BitVec.toInt_eq_toNat_of_lt (by bv_omega)
  unfold St.advance
  dsimp only
  split_ifs with h
  · refine ⟨?_, ?_, ?_, ?_, ?_, ?_⟩
    · rw [St.setIn_data]
      rfl
    · rw [St.setIn_data]
      exact SmartBuffer.compact_bytes _ _ hle
    · rw [St.setIn_log, St.emit_log, sentBytes_append]
      exact List.append_nil _
    · rw [St.setIn_log, St.emit_log, receivedBytes_append]
      exact List.append_nil _
    · rw [St.setIn_log, St.emit_log, ackedCount_append]
      rfl
    · rw [St.setIn_log, St.emit_log]
      exact Adds.one _ trivial
  · have hz : amt = 0 := by
      rw [hint] at h
      exact BitVec.eq_of_toNat_eq (by simp; omega)
    subst hz
    refine ⟨?_, rfl, rfl, rfl, rfl, Adds.refl _ _⟩
    have h1 : s.data.sendNextOffset - 0 = s.data.sendNextOffset := BitVec.sub_zero _
    rw [h1]

theorem Advanced.marks {amt : U32} {t : St} (ha : Advanced s amt t) (h : Marks s.data)
    (hamt : amt ≤ s.data.sendNextOffset) : Marks t.data := by
  have hpos := s.data.sendBuffer.position_toNat
  have hnext := h.next
  have hlen : t.data.sendBuffer.position.toNat = s.data.sendBuffer.position.toNat - amt.toNat := by
    rw [SmartBuffer.position_toNat, ha.bytes, List.length_drop, hpos]
  have hsno : t.data.sendNextOffset = s.data.sendNextOffset - amt := by rw [ha.data]
  have hflags : t.data.receiveFromServerFinished = s.data.receiveFromServerFinished ∧
      t.data.sentFinToClient = s.data.sentFinToClient := by
    rw [ha.data]
    exact ⟨rfl, rfl⟩
  refine ⟨?_, ?_⟩
  · rw [hsno]
    bv_omega
  · rw [hflags.1, hflags.2, hsno]
    intro hf
    obtain ⟨h1, h2⟩ := h.fin hf
    refine ⟨h1, ?_⟩
    bv_omega

/-- the accounts after `amt` bytes are acknowledged; `fin`: the FIN is acknowledged too -/
theorem Accounts.advance (h : Accounts s.data s.log taken acked) (amt : U32) (fin : Bool)
    (hamt : amt ≤ s.data.sendNextOffset)
    (hfin : fin = true → s.data.sentFinToClient = true ∧ amt = s.data.sendBuffer.position)
    (hflag : fin = false → s.data.flushToClientFinished = true →
      (∃ n ∈ acked, n.2 = true) ∧ s.data.sendBuffer.bytes = []) :
    Accounts { (s.advance amt).data with
      flushToClientFinished := s.data.flushToClientFinished || fin } (s.advance amt).log taken
        (acked ++ [(amt.toNat, fin)]) := by
  have ha := advance_advanced h.marks hamt
  have hpos := s.data.sendBuffer.position_toNat
  have hle : amt ≤ s.data.sendBuffer.position := BitVec.le_trans hamt h.marks.next
  have hm := ha.marks h.marks hamt
  generalize s.advance amt = t at ha hm ⊢
  have hflags : t.data.sentFinToClient = s.data.sentFinToClient ∧
      t.data.flushToServerFinished = s.data.flushToServerFinished ∧
      t.data.receiveFromClientFinished = s.data.receiveFromClientFinished ∧
      t.data.receiveBuffer = s.data.receiveBuffer := by
    rw [ha.data]
    exact ⟨rfl, rfl, rfl, rfl⟩
  obtain ⟨f2, f3, f4, f5⟩ := hflags
  refine ⟨⟨hm.next, hm.fin⟩, ?_, ?_, ?_, ?_, ?_, ?_⟩
  · show _ ++ (if t.data.flushToServerFinished then [] else t.data.receiveBuffer.bytes) = _
    rw [ha.sent, f3, f5]
    exact h.upload
  · show t.data.flushToServerFinished = true → t.data.receiveFromClientFinished = true
    rw [f3, f4]
    exact h.done
  · rw [ha.acked, List.map_append, List.sum_append, h.acknowledged]
    simp
  · show _ = _ + t.data.sendBuffer.bytes.length
    rw [ha.received, ha.acked, ha.bytes, List.length_drop, h.download]
    rw [BitVec.le_def, hpos] at hle
    omega
  · show (s.data.flushToClientFinished || fin) = true → _ ∧ t.data.sentFinToClient = true ∧
      t.data.sendBuffer.bytes = []
    rw [f2, ha.bytes]
    intro hf
    cases fin with
    | true =>
      obtain ⟨h1, h2⟩ := hfin rfl
      refine ⟨⟨(amt.toNat, true), by simp, rfl⟩, h1, ?_⟩
      rw [h2, hpos, List.drop_length]
    | false =>
      rw [Bool.or_false] at hf
      obtain ⟨⟨n, hn, hn'⟩, h2⟩ := hflag rfl hf
      refine ⟨⟨n, List.mem_append_left _ hn, hn'⟩, (h.finAcked hf).2.1, ?_⟩
      rw [h2, List.drop_nil]
  · show t.data.sentFinToClient = true → _
    rw [f2]
    exact fun hf => (h.finSent hf).mono ha.log

theorem KeepsAccounts.refl (d : Data) : KeepsAccounts d d := ⟨rfl, rfl, rfl, rfl, rfl, rfl, rfl, rfl⟩

theorem sampleRTT_accounts (s : St) (now : Int) :
    KeepsAccounts s.data (s.sampleRTT now).data ∧ (s.sampleRTT now).log = s.log := by
  unfold St.sampleRTT
  dsimp only
  split_ifs
  · exact ⟨⟨rfl, rfl, rfl, rfl, rfl, rfl, rfl, rfl⟩, rfl⟩
  · exact ⟨.refl _, rfl⟩

/-- the flag and the acknowledgement are independent -/
theorem advance_flag (s : St) (amt : U32) :
    ({ s with data.flushToClientFinished := true }.advance amt).data =
      { (s.advance amt).data with flushToClientFinished := true } ∧
    ({ s with data.flushToClientFinished := true }.advance amt).log = (s.advance amt).log := by
  unfold St.advance
  dsimp only
  split_ifs
  · simp
  · exact ⟨rfl, rfl⟩

theorem advance_keeps_flag (s : St) (amt : U32) :
    (s.advance amt).data.flushToClientFinished = s.data.flushToClientFinished := by
  unfold St.advance
  dsimp only
  split_ifs
  · simp
  · rfl

/-- an acknowledgement in range is entered into the ledger -/
theorem Accounts.acceptAck (h : Accounts s.data s.log taken acked) (off : U32)
    (hrange : off ≤ s.data.sendNextOffset + b32 s.data.sentFinToClient) (now : Int) :
    Accounts (s.acceptAck off now).data (s.acceptAck off now).log taken (acked ++
      [((if s.data.sendNextOffset < off then off - 1 else off).toNat,
        decide (s.data.sendNextOffset < off))]) := by
  have hpos := s.data.sendBuffer.position_le
  have hnext := h.marks.next
  by_cases hlt : s.data.sendNextOffset < off
  · -- only the FIN lies beyond the data, so everything is acknowledged
    have hsent : s.data.sentFinToClient = true := by
      by_contra hc
      rw [Bool.not_eq_true] at hc
      rw [hc] at hrange
      simp only [b32_false] at hrange
      bv_omega
    obtain ⟨_, hall⟩ := h.marks.fin hsent
    rw [hsent] at hrange
    simp only [b32_true] at hrange
    have hoff : off - 1 = s.data.sendNextOffset := by bv_omega
    have h1 := h.advance (off - 1) true (by rw [hoff]; exact BitVec.le_refl _)
      (fun _ => ⟨hsent, hoff.trans hall⟩) (fun hc => by cases hc)
    have e : s.acceptAck off now = ({ s with data.flushToClientFinished := true }.advance
        (off - 1)).sampleRTT now := if_pos hlt
    obtain ⟨h2, h3⟩ := advance_flag s (off - 1)
    obtain ⟨h4, h5⟩ := sampleRTT_accounts ({ s with data.flushToClientFinished := true }.advance
      (off - 1)) now
    rw [Bool.or_true, ← h2, ← h3] at h1
    rw [e, if_pos hlt, decide_eq_true hlt]
    exact h1.keep h4 (by rw [h5]; exact Adds.refl _ _)
  · have h1 := h.advance off false (by bv_omega) (fun hc => by cases hc)
      (fun _ hf => ⟨(h.finAcked hf).1, (h.finAcked hf).2.2⟩)
    have e : s.acceptAck off now = (s.advance off).sampleRTT now := if_neg hlt
    obtain ⟨h4, h5⟩ := sampleRTT_accounts (s.advance off) now
    rw [Bool.or_false, ← advance_keeps_flag s off] at h1
    rw [e, if_neg hlt, decide_eq_false hlt]
    exact h1.keep h4 (by rw [h5]; exact Adds.refl _ _)

/-- the bytes that are taken are entered into the ledger -/
theorem Accounts.acceptPayload (h : Accounts s.data s.log taken acked) (now : Int) :
    Accounts (s.acceptPayload now).data (s.acceptPayload now).log
      (taken ++ accepted s.data s.packet) acked := by
  have hp := acceptPayload_accept s now
  obtain ⟨hfin, _⟩ := acceptPayload_sets s now
  obtain ⟨b, fin, hd⟩ := hp.data
  have hb := hp.bytes
  have hl : Adds Idle s.log (s.acceptPayload now).log := hp.log.mono fun _ => ReplyEvent.idle
  obtain ⟨h1, h2, h3⟩ := idle_adds hl
  rw [hd] at hfin hb ⊢
  refine ⟨⟨h.marks.next, h.marks.fin⟩, ?_, ?_, ?_, ?_, h.finAcked, ?_⟩
  · show _ ++ (if s.data.flushToServerFinished then [] else b.bytes) = _
    rw [h1, show b.bytes = _ from hb, ← h.upload]
    split_ifs with hf
    · -- the FIN was taken before, so no bytes are
      have hacc : accepted s.data s.packet = [] := if_pos (h.done hf)
      rw [hacc]
      simp
    · rw [List.append_assoc]
  · exact fun hf => hfin.mpr (.inl (h.done hf))
  · rw [h3]; exact h.acknowledged
  · rw [h2, h3]; exact h.download
  · exact fun hf => (h.finSent hf).mono hl

theorem acceptWindow_accounts (s : St) (off : U32) (now : Int) :
    KeepsAccounts s.data (s.acceptWindow off now).data ∧ (s.acceptWindow off now).log = s.log := by
  unfold St.acceptWindow
  split_ifs
  · exact ⟨⟨rfl, rfl, rfl, rfl, rfl, rfl, rfl, rfl⟩, rfl⟩
  · exact ⟨.refl _, rfl⟩

/-- a segment that is taken in, and does not close the session, is entered into the ledger -/
theorem Accounts.acceptSegment (h : Accounts s.data s.log taken acked) (i : ClientInput)
    (hrange : St.ackInRange s.data s.packet = true) (hopen : ¬ closes s.data s.packet) :
    Accounts (s.acceptSegment i).data (s.acceptSegment i).log
      (taken ++ accepted s.data s.packet) (acked ++
        [((ackedBytes s.data s.packet).toNat,
          decide (s.data.sendNextOffset < St.ackOff s.data s.packet))]) := by
  obtain ⟨hk, hl⟩ := acceptWindow_accounts s (St.ackOff s.data s.packet) i.now
  have hw := acceptWindow_ack s (St.ackOff s.data s.packet) i.now
  have h1 : Accounts (s.acceptWindow (St.ackOff s.data s.packet) i.now).data
      (s.acceptWindow (St.ackOff s.data s.packet) i.now).log taken acked := by
    rw [hl]
    exact h.keep hk (Adds.refl _ _)
  have ha := acceptAck_ack (s.acceptWindow (St.ackOff s.data s.packet) i.now)
    (St.ackOff s.data s.packet) i.now
  have e : s.acceptSegment i = ((s.acceptWindow (St.ackOff s.data s.packet) i.now).acceptAck
      (St.ackOff s.data s.packet) i.now).acceptPayload i.nowAcknowledge := by
    unfold St.acceptSegment
    refine if_neg ?_
    rw [hk.sendNextOffset, hk.flushToServerFinished]
    exact hopen
  unfold St.ackInRange at hrange
  rw [decide_eq_true_eq] at hrange
  have h2 := h1.acceptAck (St.ackOff s.data s.packet)
    (by rw [hk.sendNextOffset, hk.sentFinToClient]; exact hrange) i.now
  rw [hk.sendNextOffset] at h2
  have h3 := h2.acceptPayload i.nowAcknowledge
  rw [accepted_keeps (hw.up.trans ha.up), ha.packet, hw.packet] at h3
  rw [e]
  exact h3

/-! ## the other calls -/

/-- reading enters bytes into the stream and the send buffer alike -/
theorem Accounts.read (h : Accounts s.data s.log taken acked)
    (hf : s.data.receiveFromServerFinished = false) (r : RecvResult) :
    Accounts (s.readFromServer r).data (s.readFromServer r).log taken acked := by
  -- the stream goes on, so no FIN was sent
  have hsent : ¬ s.data.sentFinToClient = true :=
    fun hc => absurd (hf.symm.trans (h.marks.fin hc).1) (by decide)
  have hfin : ¬ s.data.flushToClientFinished = true := fun hc => hsent (h.finAcked hc).2.1
  have append : ∀ {d : Data} (bs : List Byte) (ended : Bool),
      bs.length ≤ s.data.sendBuffer.available.toNat →
      d = { s.data with
        receiveFromServerFinished := ended, sendBuffer := s.data.sendBuffer.put bs } →
      Accounts d (s.log ++ [Event.received bs]) taken acked := by
    intro d bs ended hbs hd
    have hput := SmartBuffer.put_bytes _ _ hbs
    subst hd
    refine ⟨⟨?_, fun hc => absurd hc hsent⟩, ?_, h.done, ?_, ?_, fun hc => absurd hc hfin,
      fun hc => absurd hc hsent⟩
    · have h1 := h.marks.next
      show s.data.sendNextOffset ≤ (s.data.sendBuffer.put bs).position
      rw [BitVec.le_def, SmartBuffer.position_toNat] at h1 ⊢
      rw [hput, List.length_append]
      omega
    · rw [sentBytes_append]
      have h1 : sentBytes [Event.received bs] = [] := rfl
      rw [h1, List.append_nil]
      exact h.upload
    · rw [ackedCount_append]
      exact h.acknowledged
    · show _ = _ + (s.data.sendBuffer.put bs).bytes.length
      rw [receivedBytes_append, ackedCount_append, hput, List.length_append, List.length_append,
        h.download]
      have h1 : receivedBytes [Event.received bs] = bs := List.append_nil bs
      have h2 : ackedCount [Event.received bs] = 0 := rfl
      rw [h1, h2]
      omega
  have ended : ∀ {t : St}, t.log = s.log →
      t.data = { s.data with receiveFromServerFinished := true } → Accounts t.data t.log taken acked := by
    intro t hl hd
    rw [hl, hd]
    exact ⟨⟨h.marks.next, fun hc => absurd hc hsent⟩, h.upload, h.done, h.acknowledged, h.download,
      fun hc => absurd hc hfin, fun hc => absurd hc hsent⟩
  have hlen : ∀ bs : List Byte, (bs.take s.data.sendBuffer.available.toNat).length ≤
      s.data.sendBuffer.available.toNat := by
    intro bs
    rw [List.length_take]
    exact min_le_left _ _
  unfold St.readFromServer
  cases r with
  | bytes bs =>
    dsimp only
    split_ifs
    · simp only [St.emit_data, St.emit_log, St.unsetFrom_data, St.unsetFrom_log]
      exact append _ true (hlen bs) rfl
    · simp only [St.emit_data, St.emit_log]
      refine append _ false (hlen bs) ?_
      rw [← hf]
  | wouldBlock => exact h
  | error => exact ended (by simp) (by simp)

/-- while the FIN is not sent it is not in the log; when it is, it is sent with the mark -/
theorem flushDataToClient_fin (now : Int) (turns : Nat)
    (h : s.data.sentFinToClient = true → SentFin s.log) :
    (s.flushDataToClient now turns).data.sentFinToClient = true →
      SentFin (s.flushDataToClient now turns).log := by
  refine @flushDataToClient_rel (fun s s' => (s.data.sentFinToClient = true → SentFin s.log) →
    s'.data.sentFinToClient = true → SentFin s'.log) (fun _ h => h) (fun h h' hs => h' (h hs))
    (fun _ _ h => h) ?_ (fun _ h => h) ?_ now ?_ ?_ s turns h
  · intro s mss bound ack off h
    unfold St.sendSegment
    dsimp only
    split_ifs
    · exact fun _ => ⟨_, _, List.mem_append_right _ (List.mem_singleton.mpr rfl), rfl⟩
    · exact fun hf => (h hf).mono (Adds.one _ trivial : Adds (fun _ => True) _ _)
  · intro s off now h
    obtain ⟨_, h2, _⟩ := sentUpTo_marks s off now
    rw [h2, sentUpTo_log]
    exact h
  · intro s h
    unfold St.trackRTT
    split_ifs <;> exact h
  · intro s h
    unfold St.probe
    split_ifs
    · exact fun hf => (h hf).mono (Adds.one _ trivial : Adds (fun _ => True) _ _)
    · exact h

theorem Accounts.flush (h : Accounts s.data s.log taken acked) (now : Int) (turns : Nat)
    (hret : (s.flushDataToClient now turns).hung = false) :
    Accounts (s.flushDataToClient now turns).data (s.flushDataToClient now turns).log taken acked := by
  by_cases hf : s.data.flushToClientFinished = true
  · have e : s.flushDataToClient now turns = s := by
      unfold St.flushDataToClient
      rw [if_pos (.inr hf)]
    rw [e]
    exact h
  · have hm := h.marks.flush now turns hret
    have hstill := flushDataToClient_still s now turns
    have hfin := flushDataToClient_fin now turns h.finSent
    obtain ⟨h1, h2, h3⟩ := idle_adds
      ((flushDataToClient_flush s now turns).log.mono fun _ => FlushEvent.idle)
    have k1 : (s.flushDataToClient now turns).data.flushToServerFinished =
        s.data.flushToServerFinished := (flushDataToClient_flush s now turns).up.flushToServerFinished
    have k2 : (s.flushDataToClient now turns).data.receiveFromClientFinished =
        s.data.receiveFromClientFinished :=
      (flushDataToClient_flush s now turns).up.receiveFromClientFinished
    have k3 : (s.flushDataToClient now turns).data.receiveBuffer = s.data.receiveBuffer :=
      (flushDataToClient_flush s now turns).up.receiveBuffer
    have k4 : (s.flushDataToClient now turns).data.sendBuffer = s.data.sendBuffer :=
      (flushDataToClient_quiet s now turns).flow.sendBuffer
    have k5 : (s.flushDataToClient now turns).data.flushToClientFinished =
        s.data.flushToClientFinished := by
      have h4 := congrArg Data.flushToClientFinished hstill
      exact h4
    refine ⟨hm, ?_, ?_, ?_, ?_, ?_, hfin⟩
    · rw [h1, k1, k3]; exact h.upload
    · rw [k1, k2]; exact h.done
    · rw [h3]; exact h.acknowledged
    · rw [h2, h3, k4]; exact h.download
    · rw [k5]; exact fun hc => absurd hc hf

/-! ## closing -/

/-- All streams have come to their end: the client's FIN was accepted, the server was handed every
byte that was taken from the client, and the client acknowledged every byte that was read from the
server, and the FIN after them. -/
structure Settled (d : Data) (log : List Event) (taken : List Byte) (acked : List (Nat × Bool)) :
    Prop where
  fin : d.receiveFromClientFinished = true
  upload : sentBytes log = taken
  download : (acked.map Prod.fst).sum = (receivedBytes log).length
  finSent : SentFin log
  finAcked : ∃ n ∈ acked, n.2 = true

/-- A reset, an error of the socket or of the connection to the server, a timeout, or the caller
closes the session. -/
def Forced (s : St) : Op → Prop
  | .receiveFromClient p _ => p.val.isSyn = false ∧ p.val.isReset = true
  | .flushDataToServer lastError r _ _ =>
    if s.data.state = .SYN_RECEIVED then lastError ≠ 0 else r = .error
  | .onSocketError => True
  | .checkStatus _ _ => True
  | .closeSession => True
  | _ => False

instance (s : St) : ∀ op, Decidable (Forced s op)
  | .receiveFromClient p _ => inferInstanceAs (Decidable (p.val.isSyn = false ∧ p.val.isReset = true))
  | .flushDataToServer lastError r _ _ => inferInstanceAs (Decidable
      (if s.data.state = .SYN_RECEIVED then lastError ≠ 0 else r = .error))
  | .onSocketError => .isTrue trivial
  | .checkStatus _ _ => .isTrue trivial
  | .closeSession => .isTrue trivial
  | .receiveFromServer _ _ _ => .isFalse id
  | .flushDataToClient _ _ => .isFalse id

/-- what a call leaves behind: accounts that agree, or streams that are settled -/
structure Outcome (s' : St) (forced : Prop) (taken : List Byte) (acked : List (Nat × Bool)) : Prop where
  agree : s'.data.state ≠ .CLOSED → s'.hung = false → Accounts s'.data s'.log taken acked
  settled : s'.data.state = .CLOSED → ¬ forced → Settled s'.data s'.log taken acked

theorem Outcome.open {s' : St} {forced : Prop} (hopen : s'.data.state ≠ .CLOSED)
    (h : s'.hung = false → Accounts s'.data s'.log taken acked) : Outcome s' forced taken acked :=
  ⟨fun _ => h, fun hc => absurd hc hopen⟩

theorem Outcome.forced {s' : St} {forced : Prop} (h : forced) (hclosed : s'.data.state = .CLOSED) :
    Outcome s' forced taken acked :=
  ⟨fun hc => absurd hclosed hc, fun _ hn => absurd h hn⟩

theorem closeSession_closed (s : St) : s.closeSession.data.state = .CLOSED := by
  rw [St.closeSession_data]

/-- what follows a send -/
theorem Accounts.finishSend (h : Accounts s.data s.log taken acked) (hs : s.data.state = .ESTABLISHED)
    (hf : s.data.flushToServerFinished = false) {n : Nat} (hn : n ≤ s.data.receiveBuffer.bytes.length)
    (forced : Prop) :
    Outcome ((s.emit (.sent (s.data.receiveBuffer.bytes.take n))).finishSend (BitVec.ofNat 32 n))
      forced taken acked := by
  have hfits := s.data.receiveBuffer.fits
  unfold BUFFER_SIZE at hfits
  have hup := h.upload
  simp only [hf, Bool.false_eq_true, if_false] at hup
  have htotal : BitVec.ofNat 32 n = s.data.receiveBuffer.position ↔
      n = s.data.receiveBuffer.bytes.length := by
    rw [← BitVec.toNat_inj, SmartBuffer.position_toNat, BitVec.toNat_ofNat]
    omega
  have hcompact : (s.data.receiveBuffer.compact (s.data.receiveBuffer.position -
      BitVec.ofNat 32 n)).bytes = s.data.receiveBuffer.bytes.drop n := by
    rw [SmartBuffer.compact_bytes, BitVec.toNat_ofNat, Nat.mod_eq_of_lt (by omega)]
    rw [BitVec.le_def, SmartBuffer.position_toNat, BitVec.toNat_ofNat]
    omega
  have hsent : sentBytes (s.log ++ [Event.sent (s.data.receiveBuffer.bytes.take n)]) =
      sentBytes s.log ++ s.data.receiveBuffer.bytes.take n := by
    rw [sentBytes_append]
    exact congrArg _ (List.append_nil _)
  have hrecv : receivedBytes (s.log ++ [Event.sent (s.data.receiveBuffer.bytes.take n)]) =
      receivedBytes s.log := by
    rw [receivedBytes_append]
    exact List.append_nil _
  have hack : ackedCount (s.log ++ [Event.sent (s.data.receiveBuffer.bytes.take n)]) = ackedCount s.log := by
    rw [ackedCount_append]
    rfl
  have hlog : Adds (fun _ => True) s.log (s.log ++ [Event.sent (s.data.receiveBuffer.bytes.take n)]) :=
    Adds.one _ trivial
  -- the rest of the buffer is kept
  have rest : ∀ {t : St}, t.data = { s.data with
        receiveBuffer := s.data.receiveBuffer.compact
          (s.data.receiveBuffer.position - BitVec.ofNat 32 n) } →
      t.log = s.log ++ [Event.sent (s.data.receiveBuffer.bytes.take n)] → Outcome t forced taken acked := by
    intro t hd hl
    refine Outcome.open (by rw [hd]; simp [hs]) fun _ => ?_
    rw [hd, hl]
    refine ⟨⟨h.marks.next, h.marks.fin⟩, ?_, h.done, by rw [hack]; exact h.acknowledged,
      by rw [hrecv, hack]; exact h.download, h.finAcked, fun hc => (h.finSent hc).mono hlog⟩
    show _ ++ (if s.data.flushToServerFinished then [] else (s.data.receiveBuffer.compact
      (s.data.receiveBuffer.position - BitVec.ofNat 32 n)).bytes) = _
    rw [hf, hsent, hcompact]
    simp only [Bool.false_eq_true, if_false]
    rw [List.append_assoc, List.take_append_drop]
    exact hup
  unfold St.finishSend
  dsimp only [St.emit_data]
  by_cases hall : BitVec.ofNat 32 n = s.data.receiveBuffer.position
  · rw [if_pos hall]
    have hlen := htotal.mp hall
    have htake : s.data.receiveBuffer.bytes.take n = s.data.receiveBuffer.bytes := by
      rw [hlen, List.take_length]
    have hgone : sentBytes s.log ++ s.data.receiveBuffer.bytes.take n = taken := by
      rw [htake]
      exact hup
    simp only [St.unsetFrom_data, St.emit_data]
    split_ifs with hfin hdone
    · -- both directions are at their end
      refine ⟨fun hc => absurd (closeSession_closed _) hc, fun _ _ => ?_⟩
      obtain ⟨h1, h2, h3⟩ := h.finAcked hdone
      have hend : Adds Idle (s.log ++ [Event.sent (s.data.receiveBuffer.bytes.take n)])
          (s.log ++ [Event.sent (s.data.receiveBuffer.bytes.take n)] ++ [Event.onSocketClose]) :=
        Adds.one _ ⟨rfl, rfl, rfl⟩
      obtain ⟨k1, k2, k3⟩ := idle_adds hend
      simp only [St.closeSession_data, St.closeSession_log, St.unsetFrom_data, St.unsetFrom_log,
        St.emit_data, St.emit_log]
      refine ⟨hfin, ?_, ?_, ((h.finSent h2).mono hlog).mono hend, h1⟩
      · rw [k1, hsent]
        exact hgone
      · rw [k2, hrecv, h.acknowledged, h.download, h3]
        rfl
    · have hend : Adds Idle (s.log ++ [Event.sent (s.data.receiveBuffer.bytes.take n)])
          (s.log ++ [Event.sent (s.data.receiveBuffer.bytes.take n)] ++ [Event.shutdownWrite]) :=
        Adds.one _ ⟨rfl, rfl, rfl⟩
      obtain ⟨k1, k2, k3⟩ := idle_adds hend
      refine Outcome.open (by simp [hs]) fun _ => ?_
      simp only [St.emit_log, St.unsetFrom_log]
      refine ⟨⟨h.marks.next, h.marks.fin⟩, ?_, fun _ => hfin, ?_, ?_, h.finAcked,
        fun hc => ((h.finSent hc).mono hlog).mono hend⟩
      · rw [k1, hsent, if_pos rfl, List.append_nil]
        exact hgone
      · rw [k3, hack]; exact h.acknowledged
      · rw [k2, k3, hrecv, hack]; exact h.download
    · exact rest (by simp) (by simp)
  · rw [if_neg hall]
    exact rest rfl rfl

theorem Accounts.server (h : Accounts s.data s.log taken acked) (hopen : s.data.state ≠ .CLOSED)
    (lastError : Int) (r : SendResult) (now now' : Int) :
    Outcome (s.flushDataToServer lastError r now now')
      (Forced s (.flushDataToServer lastError r now now')) taken acked := by
  unfold St.flushDataToServer
  split_ifs with h1 h2
  · unfold St.finishConnect
    dsimp only
    split_ifs with h3 h4
    · exact Outcome.open hopen fun _ => h
    · refine Outcome.open (by rw [St.unsetFrom_data]; simp) fun _ => ?_
      rw [St.unsetFrom_data, St.unsetFrom_log]
      exact h.keep ⟨rfl, rfl, rfl, rfl, rfl, rfl, rfl, rfl⟩ (Adds.one _ ⟨rfl, rfl, rfl⟩)
    · refine Outcome.forced ?_ (closeSession_closed _)
      show if s.data.state = .SYN_RECEIVED then _ else _
      rw [if_pos h1]
      exact h3
  · exact Outcome.open hopen fun _ => h
  · rw [not_or, not_not, Bool.not_eq_true] at h2
    have hn := sendCount_le s.data r
    unfold St.sendToServer
    split
    · refine Outcome.forced ?_ (closeSession_closed _)
      show if s.data.state = .SYN_RECEIVED then _ else _
      rw [if_neg h1]
    · exact h.finishSend h2.1 h2.2 hn _

theorem handlePacket_accepts (IP_MSS : U16) {i : ClientInput} (h : Accepts s.data s.packet) :
    s.handlePacket IP_MSS i = s.acceptSegment i := by
  obtain ⟨_, hs, hsyn, hrst, hack, hseq, hrange⟩ := h
  unfold St.handlePacket St.receiveAck
  simp [hs, hsyn, hrst, hack, hseq, hrange]

/-- a segment that closes the session acknowledges everything, and the FIN -/
theorem closes_acks {d : Data} {p : Packet} (hm : Marks d) (hrange : St.ackInRange d p = true)
    (hcl : closes d p) :
    d.sentFinToClient = true ∧ (ackedBytes d p).toNat = d.sendBuffer.bytes.length := by
  obtain ⟨hlt, _⟩ := hcl
  have hpos := d.sendBuffer.position_toNat
  have hfits := d.sendBuffer.position_le
  have hnext := hm.next
  unfold St.ackInRange at hrange
  rw [decide_eq_true_eq] at hrange
  have hsent : d.sentFinToClient = true := by
    by_contra hc
    rw [Bool.not_eq_true] at hc
    rw [hc, b32_false] at hrange
    bv_omega
  obtain ⟨_, hall⟩ := hm.fin hsent
  rw [hsent, b32_true] at hrange
  refine ⟨hsent, ?_⟩
  unfold ackedBytes
  rw [if_pos hlt, ← hpos, ← hall]
  bv_omega

theorem Accounts.closed (h : Accounts s.data s.log taken acked)
    (hrange : St.ackInRange s.data s.packet = true) (hcl : closes s.data s.packet) (i : ClientInput)
    (forced : Prop) : Outcome (s.acceptSegment i) forced taken
      (acked ++ [((ackedBytes s.data s.packet).toNat, true)]) := by
  obtain ⟨hk, hl⟩ := acceptWindow_accounts s (St.ackOff s.data s.packet) i.now
  obtain ⟨hsent, hack⟩ := closes_acks h.marks hrange hcl
  have hf := hcl.2
  have hend : Adds Idle s.log (s.log ++ [Event.onSocketClose]) := Adds.one _ ⟨rfl, rfl, rfl⟩
  obtain ⟨k1, k2, k3⟩ := idle_adds hend
  have hup := h.upload
  rw [hf] at hup
  rw [acceptSegment_closes i hcl]
  refine ⟨fun hc => absurd (closeSession_closed _) hc, fun _ _ => ?_⟩
  rw [St.closeSession_data, St.closeSession_log, hl]
  refine ⟨?_, ?_, ?_, (h.finSent hsent).mono hend,
    ⟨((ackedBytes s.data s.packet).toNat, true), by simp, rfl⟩⟩
  · exact hk.receiveFromClientFinished.trans (h.done hf)
  · rw [k1]
    simpa using hup
  · rw [k2, h.download, List.map_append, List.sum_append, h.acknowledged]
    simp [hack]

theorem Accounts.client {IP_MSS : U16} (h : Accounts s.data s.log taken acked) (hh : s.hung = false)
    (hopen : s.data.state ≠ .CLOSED) {p : Incoming} (hp : s.packet = p.val)
    (hcan : canHandle s.data s.packet = true) (i : ClientInput) :
    Outcome (s.handlePacket IP_MSS i) (Forced s (.receiveFromClient p i))
      (taken ++ takenBytes (entries s (.receiveFromClient p i)))
      (acked ++ acks (entries s (.receiveFromClient p i))) := by
  by_cases hacc : Accepts s.data s.packet
  · have hs := hacc.2.1
    have hrange := hacc.2.2.2.2.2.2
    rw [handlePacket_accepts IP_MSS hacc]
    rw [hp] at hacc
    by_cases hcl : closes s.data s.packet
    · have he : entries s (.receiveFromClient p i) =
          [⟨[], (ackedBytes s.data s.packet).toNat, true⟩] := by
        have h1 := hcl.1
        rw [hp] at hcl h1 ⊢
        unfold entries
        simp [hh, hacc, hcl, h1]
      rw [he]
      have h1 := h.closed hrange hcl i (Forced s (.receiveFromClient p i))
      simpa [takenBytes, acks] using h1
    · have he : entries s (.receiveFromClient p i) = [⟨accepted s.data s.packet,
          (ackedBytes s.data s.packet).toNat,
          decide (s.data.sendNextOffset < St.ackOff s.data s.packet)⟩] := by
        rw [hp] at hcl ⊢
        unfold entries
        simp [hh, hacc, hcl]
      rw [he]
      have h1 := h.acceptSegment i hrange hcl
      obtain ⟨hd, _⟩ := acceptSegment_sets s i hcl
      refine Outcome.open (by rw [hd.state]; exact hopen) fun _ => ?_
      simpa [takenBytes, acks] using h1
  · have he : entries s (.receiveFromClient p i) = [] := by
      rw [hp] at hacc
      unfold entries
      simp [hacc]
    rw [he]
    show Outcome _ _ (taken ++ []) (acked ++ [])
    rw [List.append_nil, List.append_nil]
    have hstep := handlePacket_step IP_MSS s i
    generalize s.handlePacket IP_MSS i = s' at hstep ⊢
    have reply : ∀ {t : St}, ReplyStep s t → Outcome t (Forced s (.receiveFromClient p i)) taken acked := by
      intro t ht
      refine Outcome.open (by rw [ht.data]; exact hopen) fun _ => ?_
      rw [ht.data]
      exact h.keep (.refl _) (ht.log.mono fun _ => ReplyEvent.idle)
    cases hstep with
    | same => exact Outcome.open hopen fun _ => h
    | reset => exact reply (sendReset_reply s)
    | ack hs => exact reply (sendAck_reply s)
    | synAck hs => exact reply (sendSynAck_reply s)
    | opened res hs hsyn hack hshift hres => exact absurd hs hopen
    | closed hs hsyn hrst hwin =>
      rw [hp] at hsyn hrst
      exact Outcome.forced ⟨hsyn, hrst⟩ (closeSession_closed _)
    | established hs hseq hack =>
      refine Outcome.open (by simp [St.establish]) fun _ => ?_
      refine h.keep ?_ ?_
      · unfold St.establish
        dsimp only
        rw [St.setIn_data]
        exact ⟨rfl, rfl, rfl, rfl, rfl, rfl, rfl, rfl⟩
      · simp only [St.establish, St.setIn_log]
        exact Adds.refl _ _
    | accepted hs hsyn hrst hack hseq hrange =>
      exact absurd ⟨hcan, hs, hsyn, hrst, hack, hseq, hrange⟩ hacc

/-- **One call** of an open session leaves the accounts in agreement, or closes the session; if it
is not forced to, it finds the streams settled. -/
theorem Accounts.call {IP_MSS : U16} (h : Accounts s.data s.log taken acked) (hh : s.hung = false)
    (hopen : s.data.state ≠ .CLOSED) (op : Op) :
    Outcome (step IP_MSS s op) (Forced s op) (taken ++ takenBytes (entries s op))
      (acked ++ acks (entries s op)) := by
  have nothing : ∀ {t : St}, entries s op = [] → Outcome t (Forced s op) taken acked →
      Outcome t (Forced s op) (taken ++ takenBytes (entries s op)) (acked ++ acks (entries s op)) := by
    intro t he ht
    rw [he]
    show Outcome _ _ (taken ++ []) (acked ++ [])
    rwa [List.append_nil, List.append_nil]
  unfold step
  rw [if_neg (by simp [hh])]
  cases op with
  | receiveFromClient p i =>
    dsimp only
    unfold receiveFromClient
    split_ifs with hcan
    · have h1 := @Accounts.client { s with packet := p.val } _ _ IP_MSS h hh hopen _ rfl hcan i
      exact ⟨h1.agree, h1.settled⟩
    · refine nothing ?_ (Outcome.open hopen fun _ => h)
      exact if_neg fun hc => hcan hc.2.1
  | receiveFromServer r now turns =>
    refine nothing rfl ?_
    dsimp only
    by_cases h0 : s.data.state = .ESTABLISHED ∧ s.data.receiveFromServerFinished = false
    · have hup := (readFromServer_read s r).up.trans
        (flushDataToClient_flush (s.readFromServer r) now turns).up
      have h1 := h.read h0.2 r
      have h2 := h1.flush now turns
      rcases receiveFromServer_open h0.1 h0.2 r now turns with h3 | h3
      · rw [h3]
        exact Outcome.open (by rw [hup.state]; exact hopen) h2
      · rw [h3]
        refine Outcome.open (by rw [St.unsetFrom_data, hup.state]; exact hopen) ?_
        rw [St.unsetFrom_data, St.unsetFrom_log, St.unsetFrom_hung]
        exact h2
    · rw [receiveFromServer_skip h0]
      exact Outcome.open hopen fun _ => h
  | flushDataToServer lastError r now now' => exact nothing rfl (h.server hopen lastError r now now')
  | flushDataToClient now turns =>
    refine nothing rfl (Outcome.open ?_ (h.flush now turns))
    dsimp only
    rw [(flushDataToClient_flush s now turns).up.state]
    exact hopen
  | onSocketError => exact Outcome.forced trivial (closeSession_closed _)
  | checkStatus now now' =>
    refine nothing rfl ?_
    dsimp only
    rcases checkStatus_cases s now now' with ⟨h1, _⟩ | ⟨_, h1⟩ | ⟨_, h1⟩
    · exact absurd h1 hopen
    · rw [h1]; exact Outcome.open hopen fun _ => h
    · rw [h1]; exact Outcome.forced trivial (closeSession_closed _)
  | closeSession => exact Outcome.forced trivial (closeSession_closed _)

end

/-- once closed, the object stays closed until the next connection -/
theorem step_closed {IP_MSS : U16} {s : St} {op : Op} (hc : s.data.state = .CLOSED)
    (hn : NoNewConnection s op) : (step IP_MSS s op).data.state = .CLOSED := by
  have hs := step_sets IP_MSS s op
  generalize step IP_MSS s op = s' at hs ⊢
  cases hs with
  | quiet hq => exact hq.state.trans hc
  | closed state socket sets => exact state
  | opened hs hsyn state socket fin ended flushed sendBuffer receiveBuffer sets =>
    exact absurd (hsyn.symm.trans (hn _ rfl hs)) (by decide)
  | established hs state flow sets => exact absurd (hc.symm.trans hs) (by decide)
  | accepted hacc hopen data sets => exact absurd (hc.symm.trans hacc.2.1) (by decide)
  | connected hs state flow sets => exact absurd (hc.symm.trans hs) (by decide)
  | sent hs hf state socket sendBuffer ended fin rest all sets => exact absurd (hc.symm.trans hs) (by decide)
  | read hs hf up ended bytes sets => exact absurd (hc.symm.trans hs) (by decide)

/-- the ledger of a connection begins empty -/
theorem accounts_opened {IP_MSS : U16} {s : St} {p : Packet} {i : ClientInput}
    (h : Opens IP_MSS s p i) : Accounts (receiveFromClient IP_MSS s p i).2.data
      (receiveFromClient IP_MSS s p i).2.log [] [] := by
  obtain ⟨res, _, he⟩ := opens_eq h
  have h0 : Accounts (St.opened s.data IP_MSS p i) s.log [] [] := by
    rw [h.log]
    exact ⟨⟨BitVec.le_refl (0 : U32), Bool.noConfusion⟩, rfl, Bool.noConfusion, rfl, rfl, Bool.noConfusion,
      Bool.noConfusion⟩
  rw [he]
  dsimp only
  unfold St.openConnected
  dsimp only
  split_ifs
  · simp only [St.sendSynAck, St.sendBack_data, St.sendBack_log, St.setIn_data, St.setIn_log]
    exact h0.keep ⟨rfl, rfl, rfl, rfl, rfl, rfl, rfl, rfl⟩ (Adds.one _ ⟨rfl, rfl, rfl⟩)
  · simp only [St.setIn_data, St.setIn_log]
    exact h0.keep ⟨rfl, rfl, rfl, rfl, rfl, rfl, rfl, rfl⟩ (Adds.refl _ _)

/-- over the run of a connection the accounts agree as long as it is open -/
theorem accounts_run {IP_MSS : U16} {s : St} {p : Packet} {i : ClientInput} (h : Opens IP_MSS s p i)
    {ops : List Op}
    (hops : Along (step IP_MSS) NoNewConnection (receiveFromClient IP_MSS s p i).2 ops) :
    let start := (receiveFromClient IP_MSS s p i).2
    let t := run (step IP_MSS) start ops
    t.data.state ≠ .CLOSED → t.hung = false → Accounts t.data t.log
      (takenBytes (yields (step IP_MSS) entries start ops))
      (acks (yields (step IP_MSS) entries start ops)) := by
  intro start t
  have h1 := @run_yields _ _ _ (step IP_MSS) NoNewConnection entries
    (fun s l => s.data.state ≠ .CLOSED → s.hung = false → Accounts s.data s.log (takenBytes l) (acks l))
    ?_ start [] ops (fun _ _ => accounts_opened h) hops
  · exact h1
  · intro s l op hs hn hopen hret
    by_cases hc : s.data.state = .CLOSED
    · exact absurd (step_closed hc hn) hopen
    · by_cases hh : s.hung = true
      · -- a call that did not return is the last one
        have e : step IP_MSS s op = s := by
          unfold step
          exact if_pos hh
        rw [e, hh] at hret
        exact absurd hret (by decide)
      · rw [Bool.not_eq_true] at hh
        rw [takenBytes_append, acks_append]
        exact ((hs hc hh).call hh hc op).agree hopen hret

/-- **A session that closes by itself has lost nothing.** -/
theorem close_settled {IP_MSS : U16} {s : St} {p : Packet} {i : ClientInput} (h : Opens IP_MSS s p i)
    {ops : List Op} {op : Op}
    (hops : Along (step IP_MSS) NoNewConnection (receiveFromClient IP_MSS s p i).2 ops) :
    let start := (receiveFromClient IP_MSS s p i).2
    let t := run (step IP_MSS) start ops
    let t' := step IP_MSS t op
    let ledger := yields (step IP_MSS) entries start (ops ++ [op])
    t.data.state ≠ .CLOSED → t'.data.state = .CLOSED → ¬ Forced t op →
      Settled t'.data t'.log (takenBytes ledger) (acks ledger) := by
  intro start t t' ledger hopen hclosed hforced
  have hret : t.hung = false := by
    by_contra hc
    rw [Bool.not_eq_false] at hc
    have e : t' = t := by
      show step IP_MSS t op = t
      unfold step
      exact if_pos hc
    rw [e] at hclosed
    exact hopen hclosed
  have h1 := @Accounts.call _ _ _ IP_MSS (accounts_run h hops hopen hret) hret hopen op
  have hl : ledger = yields (step IP_MSS) entries start ops ++ entries t op := by
    show yields _ _ _ (ops ++ [op]) = _
    rw [yields_append]
    exact congrArg _ (List.append_nil _)
  rw [hl, takenBytes_append, acks_append]
  exact h1.settled hclosed hforced

/-- two bytes for the client and the FIN after them, one byte for the server, the client's FIN -/
def bothWays : List Op :=
  [.receiveFromClient (ackPacket clientA serverA 101 1000 0) connected,
   .receiveFromServer (.bytes [97, 98]) 0 0,
   .receiveFromServer (.bytes []) 0 0,
   .receiveFromClient (dataPacket clientA serverA 101 1001 1000 [99] oneByte_lt) connected,
   .flushDataToServer 0 (.accepted 1) 0 0,
   .flushDataToClient 0 2,
   .receiveFromClient (finPacket clientA serverA 101 1004 1000) connected]

theorem close_settled_both_ways :
    let start := (receiveFromClient 1 (unused 1) (synPacket clientA serverA 100 0).val connected).2
    let t' := step 1 (run (step 1) start bothWays) (.flushDataToServer 0 .wouldBlock 0 0)
    t'.data.state = .CLOSED ∧ Settled t'.data t'.log
      (takenBytes (yields (step 1) entries start (bothWays ++ [.flushDataToServer 0 .wouldBlock 0 0])))
      (acks (yields (step 1) entries start (bothWays ++ [.flushDataToServer 0 .wouldBlock 0 0]))) :=
  ⟨by decide, @close_settled 1 (unused 1) (synPacket clientA serverA 100 0).val connected
    ⟨rfl, rfl, rfl, by decide⟩ _ _ (by decide) (by decide) (by decide) (by decide)⟩

end TunServer.Sessions2
