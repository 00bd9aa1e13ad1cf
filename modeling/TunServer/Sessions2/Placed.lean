import TunServer.Sessions2.Relayed
import TunServer.Sessions2.Resend

/-!
# The segments in their place

Every segment of a connection either says nothing about the server's stream, or carries a slice of it
at the offset its sequence number names; a FIN stands behind the last byte.

* `Bare`           a segment that a client takes nothing out of;
* `Beside`         an event that moves neither end of the stream, and is no segment of it;
* `PlacedIn`       a segment with a slice of the send buffer;
* `flush_segments` all that `flushDataToClient` sends is placed, also in a call that does not return;
* `Placing`        the invariant, and `placing_step` that every call keeps it;
* `received_final` nothing is read from the server once a FIN was sent.
-/

set_option linter.unusedVariables false

namespace TunServer.Sessions2

/-- it has no FIN, and is no segment of the stream or has no bytes -/
def Bare (p : Packet) : Prop :=
  p.isFin = false ∧ (p.isSyn = true ∨ p.isReset = true ∨ p.payload = [])

/-! ## events beside the stream -/

/-- nothing is read or acknowledged, and no segment has anything for the client -/
def Beside : Event → Prop
  | .sendBack _ p => Bare p
  | .received _ => False
  | .acknowledged _ => False
  | _ => True

/-- an event that `receiveFromClient` can add -/
def Moves (e : Event) : Prop := Beside e ∨ AckEvent e

section
variable {s : St}

theorem resetSeq_beside {d : Data} {p : Packet} {seq : U32} (h : p.header = .resetSeq seq) :
    Beside (.sendBack d p) := by
  have hr : p.isReset = true := by
    unfold Packet.isReset
    rw [h]
    rfl
  have hf : p.isFin = false := by
    unfold Packet.isFin
    rw [h]
    rfl
  exact ⟨hf, .inr (.inl hr)⟩

theorem resetAck_beside {d : Data} {p : Packet} {ack : U32} (h : p.header = .resetAck ack) :
    Beside (.sendBack d p) := by
  have hr : p.isReset = true := by
    unfold Packet.isReset
    rw [h]
    rfl
  have hf : p.isFin = false := by
    unfold Packet.isFin
    rw [h]
    rfl
  exact ⟨hf, .inr (.inl hr)⟩

theorem syn_beside {d : Data} {p : Packet} {seq ack : U32} (h : p.header = .syn seq ack) :
    Beside (.sendBack d p) := by
  have hs : p.isSyn = true := by
    unfold Packet.isSyn
    rw [h]
    rfl
  have hf : p.isFin = false := by
    unfold Packet.isFin
    rw [h]
    rfl
  exact ⟨hf, .inl hs⟩

theorem normal_beside {d : Data} {p : Packet} {seq ack : U32} (h : p.header = .normal seq ack false)
    (hp : p.payload = []) : Beside (.sendBack d p) := by
  have hf : p.isFin = false := by
    unfold Packet.isFin
    rw [h]
    rfl
  exact ⟨hf, .inr (.inr hp)⟩

theorem sendReset_beside (s : St) : Adds Beside s.log s.sendReset.log := by
  unfold St.sendReset
  dsimp only
  split_ifs
  · exact Adds.one _ (resetSeq_beside rfl)
  · exact Adds.one _ (resetAck_beside rfl)

theorem sendAck_beside (s : St) : Adds Beside s.log s.sendAck.log :=
  Adds.one _ (normal_beside rfl rfl)

theorem sendSynAck_beside (s : St) : Adds Beside s.log s.sendSynAck.log :=
  Adds.one _ (syn_beside rfl)

theorem closeSession_beside (s : St) : Adds Beside s.log s.closeSession.log := by
  rw [St.closeSession_log]
  exact Adds.one _ trivial

theorem acceptPayload_beside (s : St) (now : Int) : Adds Beside s.log (s.acceptPayload now).log := by
  have hlog : s.acceptBytes.log = s.log := by
    unfold St.acceptBytes
    dsimp only
    split_ifs
    · rw [St.setIn_log]
    · rfl
  unfold St.acceptPayload
  dsimp only
  split_ifs
  · exact Adds.refl _ _
  · rw [← hlog]
    exact sendAck_beside { s.acceptBytes with data.receiveFromClientFinished := true }
  · rw [← hlog]
    unfold St.acknowledgeDelayed
    split_ifs
    · exact Adds.one _ (normal_beside rfl rfl)
    · exact Adds.refl _ _

theorem openConnected_beside (s : St) (IP_MSS : U16) (i : ClientInput) (res : Int) :
    Adds Beside s.log (s.openConnected IP_MSS i res).log := by
  unfold St.openConnected
  dsimp only
  split_ifs
  · have h1 := sendSynAck_beside { ({ s with data := St.opened s.data IP_MSS s.packet i }.setIn
      .errorSet) with data.lastTimeSentNewData := i.now }
    simpa using h1
  · simp only [St.setIn_log]
    exact Adds.refl _ _

theorem resetClient_beside (s : St) : Adds Beside s.log s.resetClient.log := by
  have h1 : Adds Beside s.log (s.sendBack (St.setEnds s.data (s.packet.makeResetSeq
      (s.data.sendUnacknowledged + s.data.sendNextOffset)))).log :=
    Adds.one _ (resetSeq_beside rfl)
  exact h1.trans (closeSession_beside _)

theorem finishSend_beside (s : St) (amt : U32) : Adds Beside s.log (s.finishSend amt).log := by
  have hun : (s.unsetFrom .sendSet).log = s.log := St.unsetFrom_log _ _
  unfold St.finishSend
  dsimp only
  split_ifs
  · rw [← hun]
    exact closeSession_beside _
  · rw [← hun]
    exact Adds.one _ trivial
  · rw [← hun]
    exact Adds.refl _ _
  · exact Adds.refl _ _

theorem flushDataToServer_beside (s : St) (lastError : Int) (r : SendResult) (now now' : Int) :
    Adds Beside s.log (s.flushDataToServer lastError r now now').log := by
  have send : ∀ bs amt, Adds Beside s.log ((s.emit (.sent bs)).finishSend amt).log := by
    intro bs amt
    have h1 : Adds Beside s.log (s.emit (.sent bs)).log := Adds.one _ trivial
    exact h1.trans (finishSend_beside _ _)
  unfold St.flushDataToServer
  split_ifs
  · unfold St.finishConnect
    dsimp only
    split_ifs
    · exact Adds.refl _ _
    · rw [St.unsetFrom_log]
      exact Adds.one _ (syn_beside rfl)
    · have h1 : Adds Beside s.log (s.sendBack ((St.setEnds s.data s.packet).makeResetAck
          s.data.receiveSent)).log := Adds.one _ (resetAck_beside rfl)
      exact h1.trans (closeSession_beside _)
  · exact Adds.refl _ _
  · unfold St.sendToServer
    cases r with
    | error => exact resetClient_beside s
    | accepted n => exact send _ _
    | wouldBlock => exact send _ _

end

/-! ## inside `flushDataToClient` -/

/-- The segment carries the slice of the send buffer at `off`; with a FIN it is the last one. -/
structure PlacedAt (d : Data) (p : Packet) (off : Nat) : Prop where
  seq : p.getSequenceNumber = d.sendUnacknowledged + BitVec.ofNat 32 off
  payload : p.payload = (d.sendBuffer.bytes.drop off).take p.payload.length
  le : off + p.payload.length ≤ d.sendBuffer.bytes.length
  fin : p.isFin = true → d.receiveFromServerFinished = true ∧
    off + p.payload.length = d.sendBuffer.bytes.length

def PlacedIn (d : Data) (p : Packet) : Prop := ∃ off, PlacedAt d p off

theorem PlacedIn.still {d d' : Data} {p : Packet} (h : PlacedIn d p) (hd : d'.still = d.still) :
    PlacedIn d' p := by
  obtain ⟨off, h1, h2, h3, h4⟩ := h
  have hun := congrArg Data.sendUnacknowledged hd
  have hbuf := congrArg Data.sendBuffer hd
  have hend := congrArg Data.receiveFromServerFinished hd
  dsimp only [Data.still] at hun hbuf hend
  refine ⟨off, ?_, ?_, ?_, ?_⟩
  · rw [hun]; exact h1
  · rw [hbuf]; exact h2
  · rw [hbuf]; exact h3
  · rw [hend, hbuf]; exact h4

theorem Sliced.placed {d : Data} {mss bound off off' : Nat} {ps : List Packet}
    (h : Sliced d.sendBuffer.bytes d.sendUnacknowledged d.receiveFromServerFinished mss bound off ps off')
    (hb : bound ≤ d.sendBuffer.bytes.length) : ∀ p ∈ ps, PlacedIn d p := by
  generalize hbytes : d.sendBuffer.bytes = bytes at h hb
  generalize huna : d.sendUnacknowledged = una at h
  generalize hended : d.receiveFromServerFinished = ended at h
  induction h with
  | nil off => exact fun p hp => absurd hp List.not_mem_nil
  | @cons off off' amt q qs payload length le within seq fin rest ih =>
    intro p hp
    rcases List.mem_cons.mp hp with rfl | hp
    · refine ⟨off, ?_, ?_, ?_, ?_⟩
      · rw [huna]
        exact seq
      · rw [hbytes, length]
        exact payload
      · rw [hbytes, length]
        exact le_trans within hb
      · rw [hbytes, hended, length]
        exact fin.mp
    · exact ih p hp

section
variable {s : St}

/-- one run of `sendDataStartingFrom` -/
theorem sendData_placed {t : St} {off : U32} {push : Bool} (hh : t.hung = false)
    (hs : t.data.still = s.data.still) (ho : off ≤ t.data.sendBuffer.position) (mss : U16) (now : Int)
    (turns : Nat) : ∃ ps, segments (t.sendDataStartingFrom off mss push (St.sendBound s.data) now turns).log =
      segments t.log ++ ps ∧ ∀ p ∈ ps, PlacedIn s.data p := by
  have hbound : St.sendBound s.data = St.sendBound t.data := by
    have h1 := congrArg Data.sendBuffer hs
    have h2 := congrArg Data.sendWindowRightEdge hs
    dsimp only [Data.still] at h1 h2
    unfold St.sendBound
    rw [h1, h2]
  rw [hbound]
  obtain ⟨ps, last, h1, h2, _⟩ := @sendData_sliced t now off push hh ho mss turns
  exact ⟨ps, h1, fun p hp => (h2.placed (min_le_right _ _) p hp).still hs.symm⟩

theorem flushSegments_placed (hm : Marks s.data) (hh : s.hung = false) (now : Int) (turns : Nat) :
    ∃ ps, segments (s.flushSegments (St.sendBound s.data) now turns).log = segments s.log ++ ps ∧
      ∀ p ∈ ps, PlacedIn s.data p := by
  have track : ∀ t : St, (t.trackRTT now).log = t.log := by
    intro t
    unfold St.trackRTT
    split_ifs <;> rfl
  have zero : (0 : U32) ≤ s.data.sendBuffer.position := by bv_omega
  unfold St.flushSegments
  dsimp only
  split_ifs
  · exact sendData_placed hh rfl zero _ _ _
  · exact sendData_placed hh rfl hm.next _ _ _
  · rw [track]
    exact sendData_placed hh rfl hm.next _ _ _
  · exact ⟨[], (List.append_nil _).symm, fun p hp => absurd hp List.not_mem_nil⟩

theorem probe_bare (s : St) (now : Int) :
    ∃ ps, segments (s.probe now).log = segments s.log ++ ps ∧ ∀ p ∈ ps, Bare p := by
  unfold St.probe
  split_ifs
  · refine ⟨_, segments_append _ _, fun p hp => ?_⟩
    obtain rfl := List.mem_singleton.mp hp
    exact ⟨rfl, .inr (.inr rfl)⟩
  · exact ⟨[], (List.append_nil _).symm, fun p hp => absurd hp List.not_mem_nil⟩

/-- **All that `flushDataToClient` sends is placed or bare**, also in a call that does not return. -/
theorem flush_segments (hm : Marks s.data) (hh : s.hung = false) (now : Int) (turns : Nat) :
    ∃ ps, segments (s.flushDataToClient now turns).log = segments s.log ++ ps ∧
      ∀ p ∈ ps, Bare p ∨ PlacedIn s.data p := by
  obtain ⟨ps, h1, h2⟩ := flushSegments_placed hm hh now turns
  have hstill := flushSegments_still s (St.sendBound s.data) now turns
  have hmarks := hm.flushSegments now turns
  -- the second block, where it is reached
  have hrest : (s.flushSegments (St.sendBound s.data) now turns).hung = false →
      ∃ qs, segments ((s.flushSegments (St.sendBound s.data) now turns).flushRest
        (St.sendBound s.data) (St.finNotSent s.data) now turns).log = segments s.log ++ qs ∧
          ∀ p ∈ qs, Bare p ∨ PlacedIn s.data p := by
    intro hu
    have hnext := (hmarks hu).next
    generalize s.flushSegments (St.sendBound s.data) now turns = u at h1 hstill hu hnext ⊢
    unfold St.flushRest
    split_ifs
    · obtain ⟨qs, h3, h4⟩ := @sendData_placed s u _ true hu hstill hnext u.data.mss now (turns + 1)
      refine ⟨ps ++ qs, ?_, fun p hp => .inr ((List.mem_append.mp hp).elim (h2 p) (h4 p))⟩
      rw [h3, h1, List.append_assoc]
    · exact ⟨ps, h1, fun p hp => .inr (h2 p hp)⟩
  unfold St.flushDataToClient
  dsimp only
  split_ifs with hopen hu hv
  · exact ⟨[], (List.append_nil _).symm, fun p hp => absurd hp List.not_mem_nil⟩
  · exact ⟨ps, h1, fun p hp => .inr (h2 p hp)⟩
  · exact hrest (by simpa using hu)
  · obtain ⟨qs, h3, h4⟩ := hrest (by simpa using hu)
    obtain ⟨rs, h5, h6⟩ := probe_bare ((s.flushSegments (St.sendBound s.data) now turns).flushRest
      (St.sendBound s.data) (St.finNotSent s.data) now turns) now
    refine ⟨qs ++ rs, ?_, fun p hp => ?_⟩
    · rw [h5, h3, List.append_assoc]
    · exact (List.mem_append.mp hp).elim (h4 p) fun hr => .inl (h6 p hr)

theorem flush_adds (hm : Marks s.data) (hh : s.hung = false) (now : Int) (turns : Nat) :
    Adds (fun e => ∃ d p, e = .sendBack d p ∧ (Bare p ∨ PlacedIn s.data p)) s.log
      (s.flushDataToClient now turns).log := by
  obtain ⟨ps, h1, h2⟩ := flush_segments hm hh now turns
  obtain ⟨es, h3, h4⟩ := (flushDataToClient_flush s now turns).log
  rw [h3, segments_append, List.append_cancel_left_eq] at h1
  refine ⟨es, h3, fun e he => ?_⟩
  obtain ⟨d, p, rfl, _⟩ := h4 e he
  refine ⟨d, p, rfl, h2 p ?_⟩
  rw [← h1]
  exact List.mem_filterMap.mpr ⟨_, he, rfl⟩

end

/-! ## the stream in a log -/

/-- What a log may hold next: a segment that is bare or faithful, with a FIN only behind the last
byte; behind a FIN nothing is read any more. -/
def InPlace (ISS : U32) (pre : List Event) : Event → Prop
  | .sendBack _ p => Bare p ∨ ∃ a, FaithfulAt ISS pre p a ∧
      (p.isFin = true → a + p.payload.length = (receivedBytes pre).length)
  | .received _ => ¬ SentFin pre
  | _ => True

/-- what a call adds to the log is in place, and a new FIN is sent at the end of the stream -/
structure Continues (ISS : U32) (s s' : St) : Prop where
  audited : Audited (InPlace ISS) s.log → Audited (InPlace ISS) s'.log
  fin : SentFin s'.log → SentFin s.log ∨ s'.data.receiveFromServerFinished = true

theorem audited_adds {ε : Type*} {Good : List ε → ε → Prop} {P : ε → Prop} {l l' : List ε}
    (h : Audited Good l) (hl : Adds P l l') (hgood : ∀ m e, Adds P l m → P e → Good m e) :
    Audited Good l' := by
  obtain ⟨es, rfl, hes⟩ := hl
  induction es using List.reverseRecOn with
  | nil => rwa [List.append_nil]
  | append_singleton es e ih =>
    have h1 : ∀ e' ∈ es, P e' := fun e' he' => hes e' (List.mem_append_left _ he')
    rw [← List.append_assoc]
    exact audited_snoc.mpr ⟨ih h1, hgood _ _ ⟨es, rfl, h1⟩ (hes e (by simp))⟩

section
variable {ISS : U32} {s s' : St}

theorem Continues.moves (h : Adds Moves s.log s'.log) : Continues ISS s s' := by
  refine ⟨fun ha => audited_adds ha h ?_, ?_⟩
  · rintro m e _ (he | ⟨n, rfl⟩)
    · cases e with
      | sendBack d p => exact .inl he
      | received bs => exact absurd he id
      | _ => trivial
    · trivial
  · rintro ⟨d, r, hr, hfin⟩
    obtain ⟨es, h1, h2⟩ := h
    rw [h1] at hr
    rcases List.mem_append.mp hr with hr | hr
    · exact .inl ⟨d, r, hr, hfin⟩
    · rcases h2 _ hr with he | ⟨n, he⟩
      · exact absurd (he.1.symm.trans hfin) (by decide)
      · cases he

theorem PlacedAt.faithful {d : Data} {log : List Event} {p : Packet} {off : Nat}
    (h : PlacedAt d p off) (hd : Downloading ISS d log) (hs : d.state = .ESTABLISHED) :
    FaithfulAt ISS log p (ackedCount log + off) ∧
      (p.isFin = true → ackedCount log + off + p.payload.length = (receivedBytes log).length) := by
  have hlen : d.sendBuffer.bytes.length = (receivedBytes log).length - ackedCount log := by
    rw [hd.buffer, List.length_drop]
  have hacked := hd.acked
  have hle := h.le
  refine ⟨⟨Nat.le_add_right _ _, ?_, ?_, ?_⟩, fun hfin => ?_⟩
  · rw [h.seq, hd.established hs, BitVec.ofNat_add, add_assoc]
  · rw [h.payload, hd.buffer]
    exact slice_of_drop
  · omega
  · have h1 := (h.fin hfin).2
    omega

theorem flush_continues (hd : Downloading ISS s.data s.log) (hs : s.data.state = .ESTABLISHED)
    (hm : Marks s.data) (hh : s.hung = false) (now : Int) (turns : Nat) :
    Continues ISS s (s.flushDataToClient now turns) := by
  have hadds := flush_adds hm hh now turns
  refine ⟨fun ha => audited_adds ha hadds ?_, ?_⟩
  · rintro m e hm' ⟨d, p, rfl, hp | ⟨off, hp⟩⟩
    · exact .inl hp
    · have hidle : Adds Idle s.log m := by
        refine hm'.mono ?_
        rintro e' ⟨d', p', rfl, _⟩
        exact ⟨rfl, rfl, rfl⟩
      obtain ⟨_, h1, h2⟩ := idle_adds hidle
      obtain ⟨h3, h4⟩ := hp.faithful hd hs
      refine .inr ⟨ackedCount s.log + off, ⟨?_, h3.seq, ?_, ?_⟩, ?_⟩
      · rw [h2]
        exact h3.acked
      · rw [h1]
        exact h3.slice
      · rw [h1]
        exact h3.le
      · rw [h1]
        exact h4
  · rintro ⟨d, r, hr, hfin⟩
    obtain ⟨es, h1, h2⟩ := hadds
    rw [h1] at hr
    rcases List.mem_append.mp hr with hr | hr
    · exact .inl ⟨d, r, hr, hfin⟩
    · obtain ⟨d', p, he, hp⟩ := h2 _ hr
      cases he
      rcases hp with hp | ⟨off, hp⟩
      · exact absurd (hp.1.symm.trans hfin) (by decide)
      · have hstill := congrArg Data.receiveFromServerFinished (flushDataToClient_still s now turns)
        exact .inr (hstill.trans (hp.fin hfin).1)

theorem read_continues (hfin : ¬ SentFin s.log) (r : RecvResult) :
    Continues ISS s (s.readFromServer r) := by
  have hadds := (readFromServer_read s r).log
  have nofin : ∀ {m : List Event}, Adds ReadEvent s.log m → ¬ SentFin m := by
    rintro m ⟨es, rfl, hes⟩ ⟨d, p, hp, hf⟩
    rcases List.mem_append.mp hp with hp | hp
    · exact hfin ⟨d, p, hp, hf⟩
    · obtain ⟨bs, he⟩ := hes _ hp
      cases he
  refine ⟨fun ha => audited_adds ha hadds ?_, fun h => absurd h (nofin hadds)⟩
  rintro m e hm ⟨bs, rfl⟩
  exact nofin hm

theorem beside_only (h : Adds Beside s.log s'.log) : Continues ISS s s' :=
  .moves (h.mono fun _ => .inl)

theorem acceptSegment_moves (s : St) (i : ClientInput) : Adds Moves s.log (s.acceptSegment i).log := by
  have hwin := (acceptWindow_ack s (St.ackOff s.data s.packet) i.now).log.mono
    fun e he => (Or.inr he : Moves e)
  unfold St.acceptSegment
  dsimp only
  split_ifs
  · exact hwin.trans ((closeSession_beside _).mono fun _ => .inl)
  · have hack := (acceptAck_ack (s.acceptWindow (St.ackOff s.data s.packet) i.now)
      (St.ackOff s.data s.packet) i.now).log.mono fun e he => (Or.inr he : Moves e)
    exact (hwin.trans hack).trans ((acceptPayload_beside _ _).mono fun _ => .inl)

theorem client_moves {IP_MSS : U16} {i : ClientInput} (hstep : ClientStep IP_MSS s i s') :
    Adds Moves s.log s'.log := by
  have beside : ∀ {l : List Event}, Adds Beside s.log l → Adds Moves s.log l :=
    fun h => h.mono fun _ => .inl
  cases hstep with
  | same => exact Adds.refl _ _
  | reset => exact beside (sendReset_beside s)
  | ack hs => exact beside (sendAck_beside s)
  | synAck hs => exact beside (sendSynAck_beside s)
  | opened res hs hsyn hack hshift hres => exact beside (openConnected_beside s IP_MSS i res)
  | closed hs hsyn hrst hwin => exact beside (closeSession_beside s)
  | established hs hseq hack =>
    have hlog : (s.establish i).log = s.log := by
      unfold St.establish
      dsimp only
      rw [St.setIn_log]
    rw [hlog]
    exact Adds.refl _ _
  | accepted hs hsyn hrst hack hseq hrange => exact acceptSegment_moves s i

theorem receiveFromClient_moves (IP_MSS : U16) (s : St) (p : Packet) (i : ClientInput) :
    Adds Moves s.log (receiveFromClient IP_MSS s p i).2.log := by
  unfold receiveFromClient
  split_ifs
  · have h1 := client_moves (handlePacket_step IP_MSS { s with packet := p } i)
    exact h1
  · exact Adds.refl _ _

end

/-! ## runs -/

/-- The session `s`, whose connection drew the number `ISS`, has sent every segment in its place. -/
structure Placing (ISS : U32) (s : St) : Prop where
  down : Downloading ISS s.data s.log
  represented : s.hung = false → Represented s.data
  ended : SentFin s.log → s.data.receiveFromServerFinished = true ∨ s.data.state = .CLOSED
  audited : Audited (InPlace ISS) s.log

section
variable {ISS : U32} {IP_MSS : U16} {s : St} {op : Op}

theorem placing_continues (h : Placing ISS s) : Continues ISS s (step IP_MSS s op) := by
  unfold step
  split_ifs with hh
  · exact beside_only (Adds.refl _ _)
  · have hh' : s.hung = false := by simpa using hh
    have hm := (h.represented hh').marks
    cases op with
    | receiveFromClient p i => exact .moves (receiveFromClient_moves IP_MSS s p.val i)
    | receiveFromServer r now turns =>
      show Continues ISS s (s.receiveFromServer r now turns)
      by_cases hs : s.data.state = .ESTABLISHED ∧ s.data.receiveFromServerFinished = false
      · have hnofin : ¬ SentFin s.log := by
          intro hf
          rcases h.ended hf with h1 | h1
          · exact absurd (hs.2.symm.trans h1) (by decide)
          · exact absurd (hs.1.symm.trans h1) (by decide)
        have hread := @read_continues ISS s hnofin r
        have hup := (readFromServer_read s r).up
        have hflush := flush_continues (h.down.read r) (hup.state.trans hs.1) (hm.read hs.2 r)
          ((readFromServer_hung s r).trans hh') now turns
        have hstill := congrArg Data.receiveFromServerFinished
          (flushDataToClient_still (s.readFromServer r) now turns)
        dsimp only [Data.still] at hstill
        have hboth : Continues ISS s ((s.readFromServer r).flushDataToClient now turns) := by
          refine ⟨fun ha => hflush.audited (hread.audited ha), fun hf => ?_⟩
          rcases hflush.fin hf with h1 | h1
          · rw [hstill]
            exact hread.fin h1
          · exact .inr h1
        rcases receiveFromServer_open hs.1 hs.2 r now turns with e | e
        · rw [e]
          exact hboth
        · rw [e]
          refine ⟨?_, ?_⟩
          · rw [St.unsetFrom_log]
            exact hboth.audited
          · rw [St.unsetFrom_log, St.unsetFrom_data]
            exact hboth.fin
      · rw [receiveFromServer_skip hs]
        exact beside_only (Adds.refl _ _)
    | flushDataToServer lastError r now now' =>
      exact beside_only (flushDataToServer_beside s lastError r now now')
    | flushDataToClient now turns =>
      show Continues ISS s (s.flushDataToClient now turns)
      by_cases hs : s.data.state = .ESTABLISHED
      · exact flush_continues h.down hs hm hh' now turns
      · have e : s.flushDataToClient now turns = s := by
          unfold St.flushDataToClient
          rw [if_pos (.inl hs)]
        rw [e]
        exact beside_only (Adds.refl _ _)
    | onSocketError => exact beside_only (resetClient_beside s)
    | checkStatus now now' =>
      show Continues ISS s (s.checkStatus now now').2
      rcases checkStatus_cases s now now' with ⟨_, e⟩ | ⟨_, e⟩ | ⟨_, e⟩
      · rw [e]; exact beside_only (Adds.refl _ _)
      · rw [e]; exact beside_only (Adds.refl _ _)
      · rw [e]; exact beside_only (closeSession_beside s)
    | closeSession => exact beside_only (closeSession_beside s)

/-- a session that is closed stays closed -/
theorem closed_step (hone : NoNewConnection s op) (hs : s.data.state = .CLOSED) :
    (step IP_MSS s op).data.state = .CLOSED := by
  cases step_life IP_MSS s op with
  | kept state socket client server => exact state.mpr hs
  | closed state socket => exact state
  | @opened p i d' h state socket client server =>
    unfold opens at h
    rw [decide_eq_true_eq] at h
    have h1 := hone p.val rfl hs
    exact absurd (h1.symm.trans h.2.1) (by decide)

theorem placing_step (h : Placing ISS s) (hone : NoNewConnection s op) :
    Placing ISS (step IP_MSS s op) := by
  have hc := @placing_continues ISS IP_MSS s op h
  refine ⟨downloading_step h.down hone, represented_step s op h.represented, fun hf => ?_,
    hc.audited h.audited⟩
  rcases hc.fin hf with h1 | h1
  · by_cases hs : s.data.state = .CLOSED
    · exact .inr (closed_step hone hs)
    · rcases h.ended h1 with h2 | h2
      · exact ended_call (step_sets IP_MSS s op) hs h2
      · exact absurd h2 hs
  · exact .inl h1

/-- behind a FIN the stream stays what it is -/
theorem received_final {log pre : List Event} (h : Audited (InPlace ISS) log) (hpre : pre <+: log)
    (hfin : SentFin pre) : receivedBytes log = receivedBytes pre := by
  obtain ⟨post, rfl⟩ := hpre
  induction post using List.reverseRecOn with
  | nil => rw [List.append_nil]
  | append_singleton post e ih =>
    rw [← List.append_assoc] at h ⊢
    obtain ⟨h1, h2⟩ := audited_snoc.mp h
    have h3 : e.receivedPart = [] := by
      cases e with
      | received bs =>
        obtain ⟨d, r, hr, hf⟩ := hfin
        exact absurd ⟨d, r, List.mem_append_left _ hr, hf⟩ h2
      | _ => rfl
    rw [receivedBytes_append, ih h1]
    show _ ++ ([e].flatMap Event.receivedPart) = _
    rw [List.flatMap_cons, h3, List.flatMap_nil, List.append_nil, List.append_nil]

theorem opens_shift {p : Packet} {i : ClientInput} (h : Opens IP_MSS s p i) : p.windowShift ≤ 14 := by
  have hop := h.opened
  unfold receiveFromClient at hop
  rw [if_pos ((canHandle_iff _ _).mpr (.inl h.closed))] at hop
  dsimp only at hop
  have hs := handlePacket_step IP_MSS { s with packet := p } i
  generalize St.handlePacket { s with packet := p } IP_MSS i = s' at hs hop
  cases hs with
  | same => exact absurd h.closed hop
  | reset =>
    exact absurd ((congrArg Data.state (sendReset_reply { s with packet := p }).data).trans h.closed) hop
  | ack hst => exact absurd (h.closed.symm.trans hst) (by decide)
  | synAck hst => exact absurd (h.closed.symm.trans hst) (by decide)
  | opened res hst hsyn hack hshift hres => exact hshift
  | closed hst => exact absurd h.closed hst
  | established hst => exact absurd (h.closed.symm.trans hst) (by decide)
  | accepted hst => exact absurd (h.closed.symm.trans hst) (by decide)

theorem placing_opened {p : Packet} {i : ClientInput} (h : Opens IP_MSS s p i) :
    Placing i.sequenceNo (receiveFromClient IP_MSS s p i).2 := by
  have hdown := downloading_opened h
  obtain ⟨res, hres, e⟩ := opens_eq h
  rw [e] at hdown ⊢
  have hadds := openConnected_beside { s with packet := p } IP_MSS i res
  have hc := @beside_only i.sequenceNo _ _ hadds
  refine ⟨hdown, fun _ => ?_, fun hf => ?_, hc.audited ?_⟩
  · have h0 : Represented (St.opened s.data IP_MSS p i) :=
      ⟨⟨BitVec.le_refl (0 : U32), Bool.noConfusion⟩, Bool.noConfusion, Bool.noConfusion, opens_shift h⟩
    unfold St.openConnected
    dsimp only
    split_ifs
    · simp only [St.sendSynAck, St.sendBack_data, St.setIn_data]
      exact h0.keep ⟨rfl, rfl, rfl, rfl, rfl, rfl, rfl, rfl⟩ rfl
    · simp only [St.setIn_data]
      exact h0.keep ⟨rfl, rfl, rfl, rfl, rfl, rfl, rfl, rfl⟩ rfl
  · have hnone : ¬ SentFin s.log := by
      rw [h.log]
      rintro ⟨d, r, hr, _⟩
      exact absurd hr List.not_mem_nil
    exact (hc.fin hf).elim (fun h1 => absurd h1 hnone) .inl
  · show Audited _ s.log
    rw [h.log]
    exact audited_nil _

end

end TunServer.Sessions2
