import TunServer.Sessions2.Close
import TunServer.Sessions2.Readiness

/-!
# Space in the send buffer

A read that is offered no space returns no bytes, which is taken for the end of the server's stream.

* `Marks.call`       every call that returns keeps the marks of the send buffer in order;
* `Room`             a socket watched for reading has space, and the other way round;
* `Watched`          sessions between two calls of `select`: what `select` was given to watch, and
                     which sessions were made to read since;
* `full_not_ended`   if no session reads again once it has left `receiveSet`, no read is offered a
                     full buffer.
-/

set_option linter.unusedVariables false

namespace TunServer.Sessions2

/-! ## the marks over all calls -/

section
variable {s : St}

/-- an acknowledgement in range is one of bytes that were sent -/
theorem ackedBytes_le {d : Data} {p : Packet} (h : Marks d) (hrange : St.ackInRange d p = true) :
    ackedBytes d p ≤ d.sendNextOffset := by
  have hpos := d.sendBuffer.position_le
  have hnext := h.next
  unfold St.ackInRange at hrange
  rw [decide_eq_true_eq] at hrange
  unfold ackedBytes
  split_ifs with hlt
  · cases hs : d.sentFinToClient with
    | false =>
      rw [hs, b32_false] at hrange
      bv_omega
    | true =>
      rw [hs, b32_true] at hrange
      bv_omega
  · bv_omega

theorem marks_close {s : St} (h : Marks s.data) : Marks s.closeSession.data := by
  rw [St.closeSession_data]
  exact ⟨h.next, h.fin⟩

theorem Marks.advance {amt : U32} (h : Marks s.data) (hamt : amt ≤ s.data.sendNextOffset) :
    Marks (s.advance amt).data := (advance_advanced h hamt).marks h hamt

theorem Marks.acceptSegment (h : Marks s.data) (hrange : St.ackInRange s.data s.packet = true)
    (i : ClientInput) : Marks (s.acceptSegment i).data := by
  have hamt := ackedBytes_le h hrange
  obtain ⟨hk, _⟩ := acceptWindow_accounts s (St.ackOff s.data s.packet) i.now
  unfold St.acceptSegment
  unfold ackedBytes at hamt
  dsimp only
  generalize St.ackOff s.data s.packet = off at hamt hk ⊢
  have h1 := h.keep hk
  rw [← hk.sendNextOffset] at hamt
  generalize s.acceptWindow off i.now = t at h1 hamt ⊢
  have h2 : Marks (t.acceptAck off i.now).data := by
    unfold St.acceptAck
    split_ifs with hlt
    · rw [if_pos hlt] at hamt
      have h3 := h1.advance hamt
      obtain ⟨h4, _⟩ := advance_flag t (off - 1)
      obtain ⟨h5, _⟩ := sampleRTT_accounts ({ t with data.flushToClientFinished := true }.advance
        (off - 1)) i.now
      refine Marks.keep ?_ h5
      rw [h4]
      exact ⟨h3.next, h3.fin⟩
    · rw [if_neg hlt] at hamt
      exact (h1.advance hamt).keep (sampleRTT_accounts _ _).1
  split_ifs
  · exact marks_close h1
  · obtain ⟨b, fin, hd⟩ := (acceptPayload_accept (t.acceptAck off i.now) i.nowAcknowledge).data
    rw [hd]
    exact ⟨h2.next, h2.fin⟩

theorem Marks.read (h : Marks s.data) (hf : s.data.receiveFromServerFinished = false)
    (r : RecvResult) : Marks (s.readFromServer r).data := by
  -- the stream goes on, so no FIN was sent
  have hsent : ¬ s.data.sentFinToClient = true :=
    fun hc => absurd (hf.symm.trans (h.fin hc).1) (by decide)
  have hput : ∀ bs, s.data.sendNextOffset ≤ (s.data.sendBuffer.put bs).position := by
    intro bs
    have h1 := h.next
    rw [BitVec.le_def, SmartBuffer.position_toNat] at h1 ⊢
    show _ ≤ (s.data.sendBuffer.bytes ++ _).length
    rw [List.length_append]
    omega
  unfold St.readFromServer
  cases r with
  | bytes bs =>
    dsimp only
    split_ifs
    · simp only [St.emit_data, St.unsetFrom_data]
      exact ⟨hput _, fun hc => absurd hc hsent⟩
    · exact ⟨hput _, fun hc => absurd hc hsent⟩
  | wouldBlock => exact h
  | error =>
    simp only [St.unsetFrom_data]
    exact ⟨h.next, fun hc => absurd hc hsent⟩

theorem Marks.server (h : Marks s.data) (lastError : Int) (r : SendResult) (now now' : Int) :
    Marks (s.flushDataToServer lastError r now now').data := by
  unfold St.flushDataToServer
  split_ifs
  · unfold St.finishConnect
    dsimp only
    split_ifs
    · exact h
    · rw [St.unsetFrom_data]
      exact ⟨h.next, h.fin⟩
    · exact marks_close h
  · exact h
  · unfold St.sendToServer
    split
    · exact marks_close h
    · unfold St.finishSend
      dsimp only
      split_ifs
      · exact marks_close (by rw [St.unsetFrom_data]; exact h)
      · simp only [St.emit_data, St.unsetFrom_data]
        exact ⟨h.next, h.fin⟩
      · simp only [St.emit_data, St.unsetFrom_data]
        exact ⟨h.next, h.fin⟩
      · exact ⟨h.next, h.fin⟩

theorem Marks.client {IP_MSS : U16} (h : Marks s.data) (i : ClientInput) :
    Marks (s.handlePacket IP_MSS i).data := by
  have hstep := handlePacket_step IP_MSS s i
  generalize s.handlePacket IP_MSS i = s' at hstep ⊢
  cases hstep with
  | same => exact h
  | reset => rw [(sendReset_reply s).data]; exact h
  | ack hs => exact h
  | synAck hs => exact h
  | opened res hs hsyn hack hshift hres =>
    have h0 : Marks (St.opened s.data IP_MSS s.packet i) :=
      ⟨BitVec.le_refl (0 : U32), Bool.noConfusion⟩
    unfold St.openConnected
    dsimp only
    split_ifs
    · simp only [St.sendSynAck, St.sendBack_data, St.setIn_data]
      exact ⟨h0.next, h0.fin⟩
    · simp only [St.setIn_data]
      exact ⟨h0.next, h0.fin⟩
  | closed hs hsyn hrst hwin => exact marks_close h
  | established hs hseq hack =>
    unfold St.establish
    dsimp only
    rw [St.setIn_data]
    exact ⟨h.next, h.fin⟩
  | accepted hs hsyn hrst hack hseq hrange => exact h.acceptSegment hrange i

/-- **Every call that returns keeps the marks in order.** -/
theorem Marks.call {IP_MSS : U16} (h : Marks s.data) (op : Op)
    (hret : (step IP_MSS s op).hung = false) : Marks (step IP_MSS s op).data := by
  revert hret
  unfold step
  split_ifs with hh
  · exact fun _ => h
  · cases op with
    | receiveFromClient p i =>
      intro _
      dsimp only
      unfold receiveFromClient
      split_ifs
      · exact @Marks.client { s with packet := p.val } IP_MSS h i
      · exact h
    | receiveFromServer r now turns =>
      dsimp only
      by_cases h0 : s.data.state = .ESTABLISHED ∧ s.data.receiveFromServerFinished = false
      · have h1 := (h.read h0.2 r).flush now turns
        rcases receiveFromServer_open h0.1 h0.2 r now turns with h2 | h2
        · rw [h2]
          exact h1
        · rw [h2, St.unsetFrom_hung, St.unsetFrom_data]
          exact h1
      · rw [receiveFromServer_skip h0]
        exact fun _ => h
    | flushDataToServer lastError r now now' => exact fun _ => h.server lastError r now now'
    | flushDataToClient now turns => exact h.flush now turns
    | onSocketError => exact fun _ => marks_close h
    | checkStatus now now' =>
      intro _
      dsimp only
      rcases checkStatus_cases s now now' with ⟨_, h1⟩ | ⟨_, h1⟩ | ⟨_, h1⟩
      · rw [h1]; exact h
      · rw [h1]; exact h
      · rw [h1]; exact marks_close h
    | closeSession => exact fun _ => marks_close h

end

/-! ## space and watching -/

/-- the call reads from the server -/
def Op.reads : Op → Bool
  | .receiveFromServer _ _ _ => true
  | _ => false

/-- The socket of an established session whose server goes on is watched for reading exactly while
there is space. -/
structure Room (d : Data) (has : FdSets → Prop) : Prop where
  mirrors : Mirrors d has
  untouched : Shaking d → Untouched d
  space : d.state = .ESTABLISHED → d.receiveFromServerFinished = false →
    (has .receiveSet ↔ d.sendBuffer.available ≠ 0)

theorem available_ne_zero {b : SmartBuffer} : b.available ≠ 0 ↔ b.bytes.length < BUFFER_SIZE := by
  have h1 := b.available_toNat
  have h2 := b.fits
  have hz : b.available ≠ 0 ↔ b.available.toNat ≠ 0 :=
    not_congr ⟨fun h => by rw [h]; rfl, fun h => BitVec.eq_of_toNat_eq h⟩
  rw [hz, h1]
  omega

theorem available_pos {b : SmartBuffer} (h : b.available ≠ 0) : 0 < b.available := by
  bv_omega

section
variable {s s' : St} {op : Op}

/-- an acknowledgement takes no space away, and gives some if it frees bytes -/
theorem Accepted.space {d d' : Data} {p : Packet} (hd : Accepted d p d') (hm : Marks d)
    (hrange : St.ackInRange d p = true) :
    d'.sendBuffer.available ≠ 0 ↔ freesSpace d p ∨ d.sendBuffer.available ≠ 0 := by
  have hb := hd.sendBuffer
  have hfits := d.sendBuffer.fits
  rw [available_ne_zero, available_ne_zero, hb]
  split_ifs with hfree
  · have hle : ackedBytes d p ≤ d.sendBuffer.position := BitVec.le_trans (ackedBytes_le hm hrange) hm.next
    have hpos := d.sendBuffer.position_toNat
    have h1 : 0 < (ackedBytes d p).toNat := by
      unfold freesSpace at hfree
      by_contra hc
      have hz : ackedBytes d p = 0 := BitVec.eq_of_toNat_eq (by simp; omega)
      rw [hz] at hfree
      exact absurd hfree (by decide)
    rw [SmartBuffer.compact_bytes _ _ hle, List.length_drop]
    rw [BitVec.le_def, hpos] at hle
    simp only [hfree, true_or, iff_true]
    omega
  · simp [hfree]

theorem Room.call (h : Room s.data s.has) (hm : Marks s.data) (hs : SetsStep s op s')
    (hfresh : OpensFresh s op) (hret : s'.hung = false) : Room s'.data s'.has := by
  refine ⟨h.mirrors.call hs hfresh, untouched_call h.untouched hs, ?_⟩
  have hopen : s.data.state = .ESTABLISHED → s.data.socket ≠ none := by
    intro he hc
    exact absurd (he.symm.trans (h.mirrors.socket.mp hc)) (by decide)
  have absurd_of : ∀ {a : States} {q : Prop}, s'.data.state = a → a ≠ .ESTABLISHED →
      s'.data.state = .ESTABLISHED → q := fun h1 h2 h3 => absurd (h1.symm.trans h3) h2
  have hhas : s.has = isIn s.shared.fdSets s.data.socket := rfl
  cases hs with
  | quiet hq =>
    rw [hq.has, hq.state, hq.flow.receiveFromServerFinished, hq.flow.sendBuffer]
    exact h.space
  | closed state socket sets => exact absurd_of state (by decide)
  | opened hs hsyn state socket fin ended flushed sendBuffer receiveBuffer sets =>
    rcases state with h1 | h1
    · exact absurd_of h1 (by decide)
    · exact absurd_of h1 (by decide)
  | established hs state flow sets =>
    intro _ _
    have ho : s.data.socket ≠ none := by
      intro hc
      exact absurd (hs.symm.trans (h.mirrors.socket.mp hc)) (by decide)
    have h1 := (h.untouched (.inr hs)).sendBuffer
    rw [has_of_becomes flow.socket sets, flow.sendBuffer, available_ne_zero, h1]
    simp [ho, BUFFER_SIZE]
  | accepted hacc hopen' data sets =>
    intro _ hf
    rw [has_of_becomes data.socket sets, data.space hm hacc.2.2.2.2.2.2, ← hhas,
      ← h.space hacc.2.1 (data.receiveFromServerFinished.symm.trans hf)]
    simp [hopen hacc.2.1]
  | connected hs state flow sets => exact absurd_of state (by decide)
  | sent hs hf state socket sendBuffer ended fin rest all sets =>
    intro _ hf'
    rw [has_of_becomes socket sets, sendBuffer, ← hhas, ← h.space hs (ended.symm.trans hf')]
    simp [hopen hs]
  | read hs hf up ended bytes sets =>
    intro _ hf'
    have hgoing : ¬ endsStream s.data _ := fun hc => absurd (hf'.symm.trans (ended.mpr hc)) (by decide)
    have hgrows : s'.data.sendBuffer.available ≠ 0 → s.data.sendBuffer.available ≠ 0 := by
      rw [available_ne_zero, available_ne_zero, bytes, List.length_append]
      omega
    rw [has_of_becomes up.socket sets, ← hhas, h.space hs hf]
    simp only [hopen hs, hgoing, hret, ne_eq, not_false_eq_true, true_and, false_or]
    exact ⟨fun h1 => h1.1, fun h1 => ⟨h1, hgrows h1⟩⟩

/-- a session that gets a socket has an empty buffer -/
theorem space_opened (hs : SetsStep s op s') (hsock : s.data.socket = none)
    (hopen : s'.data.socket ≠ none) : s'.data.sendBuffer.available ≠ 0 := by
  have absurd_of : ∀ {q : Prop}, s'.data.socket = s.data.socket → q :=
    fun h => absurd (h.trans hsock) hopen
  cases hs with
  | quiet hq => exact absurd_of hq.flow.socket
  | closed state socket sets => exact absurd socket hopen
  | opened hs hsyn state socket fin ended flushed sendBuffer receiveBuffer sets =>
    rw [sendBuffer]
    decide
  | established hs state flow sets => exact absurd_of flow.socket
  | accepted hacc hopen' data sets => exact absurd_of data.socket
  | connected hs state flow sets => exact absurd_of flow.socket
  | sent hs hf state socket sendBuffer ended fin rest all sets => exact absurd_of socket
  | read hs hf up ended bytes sets => exact absurd_of up.socket

/-- A call other than a read leaves as much space as there was, or opens an empty buffer. -/
theorem space_call (h : s.data.receiveFromServerFinished = false → s.data.sendBuffer.available ≠ 0)
    (hm : Marks s.data) (hs : SetsStep s op s') (hop : op.reads = false)
    (hopen : s'.data.socket ≠ none) :
    s'.data.receiveFromServerFinished = false → s'.data.sendBuffer.available ≠ 0 := by
  cases hs with
  | quiet hq => rw [hq.flow.receiveFromServerFinished, hq.flow.sendBuffer]; exact h
  | closed state socket sets => exact absurd socket hopen
  | opened hs hsyn state socket fin ended flushed sendBuffer receiveBuffer sets =>
    rw [sendBuffer]
    exact fun _ => by decide
  | established hs state flow sets => rw [flow.receiveFromServerFinished, flow.sendBuffer]; exact h
  | accepted hacc hopen' data sets =>
    rw [data.receiveFromServerFinished, data.space hm hacc.2.2.2.2.2.2]
    exact fun hf => .inr (h hf)
  | connected hs state flow sets => rw [flow.receiveFromServerFinished, flow.sendBuffer]; exact h
  | sent hs hf state socket sendBuffer ended fin rest all sets => rw [ended, sendBuffer]; exact h
  | read hs hf up ended bytes sets => cases hop

end

/-! ## sessions between two calls of `select` -/

/-- sessions, the descriptors `select` was last given to watch for reading, and the sessions that
were made to read since -/
structure Watched (ι : Type*) where
  sessions : Sessions ι
  rcv : Finset Nat
  hasRead : ι → Bool

inductive Act (ι : Type*) where
  | select
  | call (c : ι × Op)

section
variable {ι : Type*} [DecidableEq ι]

def Watched.start (IP_MSS : U16) (shared : Shared) (tcpPacket : Packet) : Watched ι :=
  ⟨.start IP_MSS shared tcpPacket, ∅, fun _ => false⟩

/-- one call of `select`, or of a session -/
def watchStep (IP_MSS : U16) (w : Watched ι) : Act ι → Watched ι
  | .select =>
    if w.sessions.hung then w
    else { w with rcv := w.sessions.shared.fdSets .receiveSet, hasRead := fun _ => false }
  | .call c =>
    { w with
      sessions := callStep IP_MSS w.sessions c
      hasRead := if c.2.reads then Function.update w.hasRead c.1 true else w.hasRead }

/-- descriptors are new when they are opened, and a session reads only if `select` watched its socket -/
def Watches (F0 : FdSets → Finset Nat) (w : Watched ι) : Act ι → Prop
  | .select => True
  | .call c => NewDescriptor F0 w.sessions c ∧
      (c.2.reads = true → ∃ f ∈ w.rcv, (w.sessions.data c.1).socket = some f)

instance [Fintype ι] (F0 : FdSets → Finset Nat) (w : Watched ι) : ∀ a, Decidable (Watches F0 w a)
  | .select => .isTrue trivial
  | .call c => inferInstanceAs (Decidable (NewDescriptor F0 w.sessions c ∧
      (c.2.reads = true → ∃ f ∈ w.rcv, (w.sessions.data c.1).socket = some f)))

/-- a session that reads again did not leave `receiveSet` -/
def ReadsInTurn (w : Watched ι) : Act ι → Prop
  | .select => True
  | .call c => c.2.reads = true → w.hasRead c.1 = true → (w.sessions.data c.1).state = .ESTABLISHED →
      (w.sessions.data c.1).receiveFromServerFinished = false → w.sessions.has c.1 .receiveSet

instance (w : Watched ι) (j : ι) (k : FdSets) : Decidable (w.sessions.has j k) :=
  inferInstanceAs (Decidable (isIn w.sessions.shared.fdSets (w.sessions.data j).socket k))

instance (w : Watched ι) : ∀ a, Decidable (ReadsInTurn w a)
  | .select => .isTrue trivial
  | .call c => inferInstanceAs (Decidable (c.2.reads = true → w.hasRead c.1 = true →
      (w.sessions.data c.1).state = .ESTABLISHED →
      (w.sessions.data c.1).receiveFromServerFinished = false → w.sessions.has c.1 .receiveSet))

/-- what every step has to keep -/
def WatchesInTurn (F0 : FdSets → Finset Nat) (w : Watched ι) (a : Act ι) : Prop :=
  Watches F0 w a ∧ ReadsInTurn w a

instance [Fintype ι] (F0 : FdSets → Finset Nat) (w : Watched ι) (a : Act ι) :
    Decidable (WatchesInTurn F0 w a) :=
  inferInstanceAs (Decidable (Watches F0 w a ∧ ReadsInTurn w a))

/-- A read is offered space; and only a read that returned nothing, or failed, ends the server's
stream. -/
def ReadsWell (IP_MSS : U16) (w : Watched ι) (a : Act ι) : Prop :=
  (∀ j r now turns, a = .call (j, .receiveFromServer r now turns) → w.sessions.hung = false →
    (w.sessions.data j).state = .ESTABLISHED →
    (w.sessions.data j).receiveFromServerFinished = false →
    0 < (w.sessions.data j).sendBuffer.available) ∧
  ∀ j, (w.sessions.data j).receiveFromServerFinished = false →
    ((watchStep IP_MSS w a).sessions.data j).receiveFromServerFinished = true →
    ∃ r now turns, a = .call (j, .receiveFromServer r now turns) ∧ (r = .bytes [] ∨ r = .error)

/-- the invariant: while every call has returned, marks and space are as they should be, and a
session that has not read since `select` watched its socket has space -/
structure Spacious (F0 : FdSets → Finset Nat) (w : Watched ι) : Prop where
  owned : Owned F0 w.sessions
  marks : w.sessions.hung = false → ∀ j, Marks (w.sessions.data j)
  room : w.sessions.hung = false → ∀ j, Room (w.sessions.data j) (w.sessions.has j)
  unread : w.sessions.hung = false → ∀ j f, w.hasRead j = false → f ∈ w.rcv →
    (w.sessions.data j).socket = some f → (w.sessions.data j).receiveFromServerFinished = false →
    (w.sessions.data j).sendBuffer.available ≠ 0

variable {F0 : FdSets → Finset Nat} {IP_MSS : U16} {w : Watched ι}

theorem Spacious.select (h : Spacious F0 w) : Spacious F0 (watchStep IP_MSS w .select) := by
  show Spacious F0 (if w.sessions.hung then w else _)
  split_ifs with hh
  · exact h
  · rw [Bool.not_eq_true] at hh
    refine ⟨h.owned, h.marks, h.room, ?_⟩
    intro _ j f _ hf hsock hgoing
    have hr := h.room hh j
    have hin : w.sessions.has j .receiveSet := ⟨f, hsock, hf⟩
    exact (hr.space (hr.mirrors.receive hin) hgoing).mp hin

theorem Spacious.call (h : Spacious F0 w) {c : ι × Op} (hn : NewDescriptor F0 w.sessions c) :
    Spacious F0 (watchStep IP_MSS w (.call c)) := by
  have hself := @callStep_self _ _ IP_MSS w.sessions c
  have hhung : (callStep IP_MSS w.sessions c).hung = (step IP_MSS (w.sessions.at c.1) c.2).hung := rfl
  have hhas : (callStep IP_MSS w.sessions c).has c.1 = (step IP_MSS (w.sessions.at c.1) c.2).has :=
    callStep_has w.sessions c
  have hs := step_sets IP_MSS (w.sessions.at c.1) c.2
  -- a call that returned was preceded by calls that did
  have before : (callStep IP_MSS w.sessions c).hung = false → w.sessions.hung = false := by
    intro hret
    by_contra hc
    rw [Bool.not_eq_false] at hc
    have e : step IP_MSS (w.sessions.at c.1) c.2 = w.sessions.at c.1 := by
      unfold step
      exact if_pos hc
    rw [hhung, e] at hret
    exact absurd (hret.symm.trans hc) (by decide)
  refine ⟨h.owned.call hn, ?_, ?_, ?_⟩
  · intro hret j
    by_cases hj : j = c.1
    · subst hj
      show Marks ((callStep IP_MSS w.sessions c).data c.1)
      rw [hself]
      exact (h.marks (before hret) c.1).call c.2 hret
    · have e := (@callStep_other _ _ _ IP_MSS _ _ h.owned hn _ hj).1
      show Marks ((callStep IP_MSS w.sessions c).data j)
      rw [e]
      exact h.marks (before hret) j
  · intro hret j
    show Room ((callStep IP_MSS w.sessions c).data j) ((callStep IP_MSS w.sessions c).has j)
    by_cases hj : j = c.1
    · subst hj
      rw [hself, hhas]
      exact (h.room (before hret) c.1).call (h.marks (before hret) c.1) hs (h.owned.opensFresh hn) hret
    · obtain ⟨h1, h2⟩ := @callStep_other _ _ _ IP_MSS _ _ h.owned hn _ hj
      rw [h1, h2]
      exact h.room (before hret) j
  · intro hret j f hread hf hsock hgoing
    change (if c.2.reads then Function.update w.hasRead c.1 true else w.hasRead) j = false at hread
    change ((callStep IP_MSS w.sessions c).data j).socket = some f at hsock
    change ((callStep IP_MSS w.sessions c).data j).receiveFromServerFinished = false at hgoing
    show ((callStep IP_MSS w.sessions c).data j).sendBuffer.available ≠ 0
    by_cases hj : j = c.1
    · subst hj
      have hop : c.2.reads = false := by
        by_contra hc
        rw [Bool.not_eq_false] at hc
        rw [if_pos hc, Function.update_self] at hread
        cases hread
      rw [hop, if_neg Bool.false_ne_true] at hread
      rw [hself] at hsock hgoing ⊢
      -- the socket was watched before the call, or is a new one with an empty buffer
      rcases hs.socket with h1 | ⟨h1, _⟩ | ⟨p, i, hpi, hc, h1⟩
      · refine space_call (fun hg => h.unread (before hret) c.1 f hread hf (h1.symm.trans hsock) hg)
          (h.marks (before hret) c.1) hs hop (by rw [hsock]; simp) hgoing
      · exact absurd (h1.symm.trans hsock) (by simp)
      · exact space_opened hs (h.owned.closed c.1 hc) (by rw [hsock]; simp)
    · obtain ⟨h1, _⟩ := @callStep_other _ _ _ IP_MSS _ _ h.owned hn _ hj
      rw [h1] at hsock hgoing ⊢
      refine h.unread (before hret) j f ?_ hf hsock hgoing
      split_ifs at hread with hop
      · rwa [Function.update_of_ne hj] at hread
      · exact hread

theorem Spacious.step (h : Spacious F0 w) {a : Act ι} (ha : Watches F0 w a) :
    Spacious F0 (watchStep IP_MSS w a) := by
  cases a with
  | select => exact h.select
  | call c => exact h.call ha.1

/-- what ends the server's stream -/
theorem ended_by {s s' : St} {op : Op} (hs : SetsStep s op s')
    (hf : s.data.receiveFromServerFinished = false) (hf' : s'.data.receiveFromServerFinished = true) :
    ∃ r now turns, op = .receiveFromServer r now turns ∧ s.data.state = .ESTABLISHED ∧
      endsStream s.data r := by
  have absurd_of : ∀ {q : Prop}, s'.data.receiveFromServerFinished = s.data.receiveFromServerFinished →
      q := fun h => absurd (hf'.symm.trans (h.trans hf)) (by decide)
  cases hs with
  | quiet hq => exact absurd_of hq.flow.receiveFromServerFinished
  | closed state socket sets ended => exact absurd_of ended
  | opened hs hsyn state socket fin ended flushed sendBuffer receiveBuffer sets =>
    exact absurd (hf'.symm.trans ended) (by decide)
  | established hs state flow sets => exact absurd_of flow.receiveFromServerFinished
  | accepted hacc hopen data sets => exact absurd_of data.receiveFromServerFinished
  | connected hs state flow sets => exact absurd_of flow.receiveFromServerFinished
  | sent hs hf0 state socket sendBuffer ended fin rest all sets => exact absurd_of ended
  | read hs hf0 up ended bytes sets => exact ⟨_, _, _, rfl, hs, ended.mp hf'⟩

theorem Spacious.readsWell (h : Spacious F0 w) {a : Act ι} (ha : WatchesInTurn F0 w a) :
    ReadsWell IP_MSS w a := by
  -- a read that is made finds space
  have space : ∀ j r now turns, a = .call (j, .receiveFromServer r now turns) →
      w.sessions.hung = false → (w.sessions.data j).state = .ESTABLISHED →
      (w.sessions.data j).receiveFromServerFinished = false →
      (w.sessions.data j).sendBuffer.available ≠ 0 := by
    rintro j r now turns rfl hh hs hf
    obtain ⟨⟨_, hwatch⟩, hturn⟩ := ha
    obtain ⟨f, hrcv, hsock⟩ := hwatch rfl
    cases hread : w.hasRead j with
    | false => exact h.unread hh j f hread hrcv hsock hf
    | true => exact ((h.room hh j).space hs hf).mp (hturn rfl hread hs hf)
  refine ⟨?_, ?_⟩
  · intro j r now turns e hh hs hf
    exact available_pos (space j r now turns e hh hs hf)
  · intro j hf hf'
    cases a with
    | select =>
      have e : (watchStep IP_MSS w .select).sessions = w.sessions := by
        unfold watchStep
        dsimp only
        split_ifs <;> rfl
      rw [e] at hf'
      exact absurd (hf.symm.trans hf') (by decide)
    | call c =>
      change ((callStep IP_MSS w.sessions c).data j).receiveFromServerFinished = true at hf'
      by_cases hj : j = c.1
      · subst hj
        rw [callStep_self] at hf'
        obtain ⟨r, now, turns, e, hs, hend⟩ :=
          ended_by (step_sets IP_MSS (w.sessions.at c.1) c.2) hf hf'
        refine ⟨r, now, turns, congrArg _ (Prod.ext rfl e), ?_⟩
        have hh : w.sessions.hung = false := by
          by_contra hc
          rw [Bool.not_eq_false] at hc
          have e' : Sessions2.step IP_MSS (w.sessions.at c.1) c.2 = w.sessions.at c.1 := by
            unfold Sessions2.step
            exact if_pos hc
          rw [e'] at hf'
          exact absurd (hf.symm.trans hf') (by decide)
        have h1 := space c.1 r now turns (congrArg _ (Prod.ext rfl e)) hh hs hf
        cases r with
        | bytes bs =>
          refine .inl (congrArg _ ?_)
          change (bs.take (w.sessions.data c.1).sendBuffer.available.toNat).length = 0 at hend
          rw [List.length_take] at hend
          have h2 : (w.sessions.data c.1).sendBuffer.available.toNat ≠ 0 :=
            fun hz => h1 (BitVec.eq_of_toNat_eq hz)
          exact List.length_eq_zero_iff.mp (by omega)
        | wouldBlock => exact absurd hend id
        | error => exact .inr rfl
      · have e : (callStep IP_MSS w.sessions c).data j = w.sessions.data j :=
          Function.update_of_ne hj _ _
        rw [e] at hf'
        exact absurd (hf.symm.trans hf') (by decide)

omit [DecidableEq ι] in
theorem spacious_start (IP_MSS : U16) (shared : Shared) (tcpPacket : Packet) :
    Spacious shared.fdSets (Watched.start IP_MSS shared tcpPacket : Watched ι) where
  owned := owned_start IP_MSS shared tcpPacket
  marks := fun _ _ => ⟨BitVec.le_refl (0 : U32), Bool.noConfusion⟩
  room := by
    intro _ j
    have hhas : (Sessions.start IP_MSS shared tcpPacket : Sessions ι).has j = fun _ => False :=
      funext fun k => eq_false isIn_none
    show Room (.init IP_MSS) ((Sessions.start IP_MSS shared tcpPacket : Sessions ι).has j)
    rw [hhas]
    exact ⟨mirrors_init IP_MSS, by simp [Shaking, Data.init], by simp [Data.init]⟩
  unread := fun _ _ _ _ _ hsock => by cases hsock

end

/-- **A full send buffer is not taken for the end of the stream.**  If a session that reads again
before the next `select` did not leave `receiveSet`, then in every state reached the socket of an
established session whose server goes on is watched for reading only if there is space, every read
on the way was offered space, and every end of stream was a real one. -/
theorem full_not_ended {ι : Type*} [DecidableEq ι] (IP_MSS : U16) (shared : Shared)
    (tcpPacket : Packet) (acts : List (Act ι))
    (hacts : Along (watchStep IP_MSS) (WatchesInTurn shared.fdSets)
      (Watched.start IP_MSS shared tcpPacket) acts) :
    let start := Watched.start IP_MSS shared tcpPacket
    let w := run (watchStep IP_MSS) start acts
    (w.sessions.hung = false → ∀ j, (w.sessions.data j).state = .ESTABLISHED →
      (w.sessions.data j).receiveFromServerFinished = false → w.sessions.has j .receiveSet →
      0 < (w.sessions.data j).sendBuffer.available) ∧
    Along (watchStep IP_MSS) (ReadsWell IP_MSS) start acts := by
  intro start w
  have h0 : Spacious shared.fdSets start := spacious_start IP_MSS shared tcpPacket
  have hstep : ∀ (w : Watched ι) (a : Act ι), Spacious shared.fdSets w →
      WatchesInTurn shared.fdSets w a → Spacious shared.fdSets (watchStep IP_MSS w a) :=
    fun w a h ha => h.step ha.1
  refine ⟨?_, along_inv _ hstep (fun w a h ha => h.readsWell ha) h0 hacts⟩
  intro hh j hs hf hin
  exact available_pos ((((run_inv _ hstep h0 hacts).room hh j).space hs hf).mp hin)

/-- the handshake of a client with a closed window, and a `select` that watches the server's socket -/
def selected : List (Act Unit) :=
  [.call ((), .receiveFromClient (synPacket clientA serverA 100 0) connected),
   .call ((), .receiveFromClient (ackPacket clientA serverA 101 1000 0) connected),
   .select]

theorem full_not_ended_two_reads :
    let start := Watched.start 576 unwatched (unused 576).packet
    let acts := selected ++ [.call ((), .receiveFromServer (.bytes [97, 98]) 0 0),
      .call ((), .receiveFromServer (.bytes [99]) 0 0)]
    let w := run (watchStep 576) start acts
    (w.sessions.hung = false → ∀ j, (w.sessions.data j).state = .ESTABLISHED →
      (w.sessions.data j).receiveFromServerFinished = false → w.sessions.has j .receiveSet →
      0 < (w.sessions.data j).sendBuffer.available) ∧
    Along (watchStep 576) (ReadsWell 576) start acts :=
  full_not_ended 576 unwatched (unused 576).packet _ (by decide)

/-- nothing is sent into a closed window -/
theorem flush_closed_window {s : St} (hedge : s.data.sendWindowRightEdge = 0)
    (hnext : s.data.sendNextOffset = 0) (hack : St.finNotAcknowledged s.data = false)
    (hfin : St.finNotSent s.data = false) (now : Int) (turns : Nat) :
    (s.flushDataToClient now turns).hung = s.hung := by
  have hbound : St.sendBound s.data = 0 := by
    unfold St.sendBound
    rw [hedge]
    split_ifs with h
    · exact absurd h (by bv_omega)
    · rfl
  have hsegments : s.flushSegments 0 now turns = s := by
    unfold St.flushSegments
    have h1 : St.resendDue s.data now = false := by simp [St.resendDue, hnext, hack]
    have h2 : St.newDataDue s.data 0 = false := by simp [St.newDataDue, hnext]
    simp only [h1, h2, Bool.false_eq_true, if_false]
  have hrest : s.flushRest 0 false now turns = s := by
    unfold St.flushRest
    have h1 : St.pushDue s.data 0 false now = false := by simp [St.pushDue, hnext]
    simp only [h1, Bool.false_eq_true, if_false]
  unfold St.flushDataToClient
  dsimp only
  rw [hbound, hfin, hsegments, hrest]
  split_ifs
  · rfl
  · rfl
  · unfold St.probe
    split_ifs
    · simp
    · rfl

/-- a read that fills the buffer of a session whose client takes nothing -/
theorem read_fills {s : St} {bs : List Byte} (hh : s.hung = false) (hs : s.data.state = .ESTABLISHED)
    (hf : s.data.receiveFromServerFinished = false) (hempty : s.data.sendBuffer.bytes = [])
    (hbs : bs.length = BUFFER_SIZE) (hedge : s.data.sendWindowRightEdge = 0)
    (hnext : s.data.sendNextOffset = 0) (hack : s.data.flushToClientFinished = false)
    (hfin : St.finNotSent s.data = false) :
    let s' := step 576 s (.receiveFromServer (.bytes bs) 0 0)
    s'.hung = false ∧ s'.data.state = .ESTABLISHED ∧ s'.data.receiveFromServerFinished = false ∧
      s'.data.socket = s.data.socket ∧ s'.data.sendBuffer.available = 0 := by
  have hspace : s.data.sendBuffer.available.toNat = BUFFER_SIZE := by
    rw [SmartBuffer.available_toNat, hempty]
    rfl
  have htake : bs.take s.data.sendBuffer.available.toNat = bs := by
    rw [hspace, ← hbs, List.take_length]
  have hne : ¬ bs.length = 0 := by
    rw [hbs]
    decide
  have hread : (s.readFromServer (.bytes bs)) =
      { s with data.sendBuffer := s.data.sendBuffer.put bs }.emit (.received bs) := by
    unfold St.readFromServer
    dsimp only
    rw [htake, if_neg hne]
  have hfull : (s.data.sendBuffer.put bs).available = 0 := by
    refine BitVec.eq_of_toNat_eq ?_
    rw [SmartBuffer.available_toNat, SmartBuffer.put_bytes _ _ (by rw [hspace, hbs]), hempty,
      List.nil_append, hbs]
    rfl
  generalize ht : s.readFromServer (.bytes bs) = t at hread
  have hdata : t.data = { s.data with sendBuffer := s.data.sendBuffer.put bs } := by rw [hread]; rfl
  have hret : (t.flushDataToClient 0 0).hung = false := by
    refine (flush_closed_window ?_ ?_ ?_ ?_ 0 0).trans ?_
    · rw [hdata]; exact hedge
    · rw [hdata]; exact hnext
    · rw [hdata]; simp [St.finNotAcknowledged, hf, hack]
    · rw [hdata]; exact hfin
    · rw [hread]; exact hh
  have hq := flushDataToClient_quiet t 0 0
  have e : step 576 s (.receiveFromServer (.bytes bs) 0 0) =
      s.receiveFromServer (.bytes bs) 0 0 := by
    unfold step
    exact if_neg (by simp [hh])
  have hend : ∀ {u : St}, u.hung = (t.flushDataToClient 0 0).hung →
      u.data = (t.flushDataToClient 0 0).data → u.hung = false ∧ u.data.state = .ESTABLISHED ∧
        u.data.receiveFromServerFinished = false ∧ u.data.socket = s.data.socket ∧
        u.data.sendBuffer.available = 0 := by
    intro u h1 h2
    rw [h1, h2, hq.state, hq.flow.receiveFromServerFinished, hq.flow.socket, hq.flow.sendBuffer,
      hdata]
    exact ⟨hret, hs, hf, rfl, hfull⟩
  dsimp only
  rw [e]
  rcases receiveFromServer_open hs hf (.bytes bs) 0 0 with h1 | h1
  · rw [h1, ht]
    exact hend rfl rfl
  · rw [h1, ht]
    exact hend (by rw [St.unsetFrom_hung]) (by rw [St.unsetFrom_data])

/-- A session that is made to read twice, while more comes from its server than its buffer holds,
is offered no space the second time. -/
theorem read_twice {w : Watched Unit} {bs : List Byte} (hh : w.sessions.hung = false)
    (hs : (w.sessions.data ()).state = .ESTABLISHED)
    (hf : (w.sessions.data ()).receiveFromServerFinished = false)
    (hempty : (w.sessions.data ()).sendBuffer.bytes = []) (hbs : bs.length = BUFFER_SIZE)
    (hedge : (w.sessions.data ()).sendWindowRightEdge = 0) (hnext : (w.sessions.data ()).sendNextOffset = 0)
    (hack : (w.sessions.data ()).flushToClientFinished = false)
    (hfin : St.finNotSent (w.sessions.data ()) = false) (hsock : (w.sessions.data ()).socket = some 5)
    (hrcv : w.rcv = {5}) :
    let acts := [.call ((), .receiveFromServer (.bytes bs) 0 0),
      .call ((), .receiveFromServer (.bytes [97]) 0 0)]
    Along (watchStep 576) (Watches unwatched.fdSets) w acts ∧
      ¬ Along (watchStep 576) (ReadsWell 576) w acts := by
  obtain ⟨h1, h2, h3, h4, h5⟩ := @read_fills (w.sessions.at ()) bs hh hs hf hempty hbs hedge hnext
    hack hfin
  have hself : (watchStep 576 w (.call ((), .receiveFromServer (.bytes bs) 0 0))).sessions.data () =
      (step 576 (w.sessions.at ()) (.receiveFromServer (.bytes bs) 0 0)).data := callStep_self _ _
  have watches : ∀ {w' : Watched Unit} {r : RecvResult}, w'.rcv = {5} →
      (w'.sessions.data ()).socket = some 5 →
      Watches unwatched.fdSets w' (.call ((), .receiveFromServer r 0 0)) := by
    intro w' r hr hk
    refine ⟨?_, fun _ => ⟨5, by rw [hr]; exact Finset.mem_singleton_self 5, hk⟩⟩
    intro i hi
    cases hi
  refine ⟨⟨watches hrcv hsock, watches hrcv (by rw [hself]; exact h4.trans hsock), trivial⟩, ?_⟩
  rintro ⟨_, h6, _⟩
  have h7 := h6.1 () (.bytes [97]) 0 0 rfl h1 (by rw [hself]; exact h2) (by rw [hself]; exact h3)
  rw [hself, h5] at h7
  exact absurd h7 (by decide)

/-- The handler makes a readable session read twice if another session is readable too. -/
theorem full_is_ended :
    ¬ ∀ (ι : Type) [DecidableEq ι] (IP_MSS : U16) (shared : Shared) (tcpPacket : Packet)
      (acts : List (Act ι)),
      Along (watchStep IP_MSS) (Watches shared.fdSets) (Watched.start IP_MSS shared tcpPacket) acts →
      let start := Watched.start IP_MSS shared tcpPacket
      let w := run (watchStep IP_MSS) start acts
      (w.sessions.hung = false → ∀ j, (w.sessions.data j).state = .ESTABLISHED →
        (w.sessions.data j).receiveFromServerFinished = false → w.sessions.has j .receiveSet →
        0 < (w.sessions.data j).sendBuffer.available) ∧
      Along (watchStep IP_MSS) (ReadsWell IP_MSS) start acts := by
  intro h
  obtain ⟨h1, h2⟩ := @read_twice (run (watchStep 576)
      (Watched.start 576 unwatched (unused 576).packet) selected)
    (List.replicate BUFFER_SIZE 0) (by decide) (by decide) (by decide) (by decide)
    List.length_replicate (by decide) (by decide) (by decide) (by decide) (by decide) (by decide)
  have h3 := (h Unit 576 unwatched (unused 576).packet _
    ((along_append _ _ _ selected _).mpr ⟨by decide, h1⟩)).2
  exact h2 ((along_append _ _ _ selected _).mp h3).2

end TunServer.Sessions2
