import TunServer.Session.Frame

/-!
# Who is told that a connection is open

`tryConnect` can leave the connection to the server in progress, and no later call asks what became of
it.

* `reported`   whether the attempt for the connection of a session was reported established;
* `Silent`     the calls that tell the client nothing;
* `Honest`     a call opens a session, or tells the client that it is open, only after the report;
* `Repeats`    a SYN is repeated while the attempt is in progress;
* `synAck_reported_iff`   the runs in which all calls are honest.
-/

set_option linter.unusedVariables false

namespace TunServer.Session

/-! ## the attempt and its report -/

/-- the packet is a SYN that opens a connection -/
def Packet.asks (p : Packet) : Bool := p.isSyn ∧ p.isAck = false

/-- what is known after a packet: a SYN that finds the session closed starts an attempt of its own -/
def reportedBy (d : Data) (known : Bool) (p : Packet) (i : ClientInput) : Bool :=
  if d.state = .CLOSED ∧ p.asks = true then i.tryConnect = 0 ∨ i.isConnected else known

def reported (d : Data) (known : Bool) : Op → Bool
  | .receiveFromClient p i => reportedBy d known p.val i
  | _ => known

/-- a call, and what is known of the attempt -/
def reportedStep (v : St × Bool) (op : Op) : Except Fault (St × Bool) := do
  let t ← step v.1 op
  return (t, reported v.1.data v.2 op)

/-- the packet tells the client that its connection is open -/
def Event.isSynAck : Event → Bool
  | .written p => p.isSyn
  | _ => false

/-- what a call leaves a state with -/
structure ToldOpen (s t : St) (known : Bool) : Prop where
  synAck : ∀ e ∈ t.log.drop s.log.length, e.isSynAck = true → known = true
  state : t.data.state = .SYN_ACK_SENT ∨ t.data.state = .ESTABLISHED → known = true

def Honest (v : St × Bool) (op : Op) : Prop :=
  Ends (fun _ => True) (fun w => ToldOpen v.1 w.1 w.2) (reportedStep v op)

/-- a SYN is repeated while the attempt is in progress -/
def Repeats (v : St × Bool) : Op → Prop
  | .receiveFromClient p _ => v.1.data.state = .SYN_RECEIVED ∧ p.val.asks = true ∧
      p.val.getSequenceNumber = v.1.data.receiveNext - 1
  | _ => False

/-! ## calls that tell the client nothing -/

/-- no SYN-ACK is written, and the session stays as it is or is closed -/
structure Silent (s t : St) : Prop where
  state : t.data.state = s.data.state ∨ t.data.state = .CLOSED
  log : Adds (fun e => e.isSynAck = false) s.log t.log

theorem Silent.refl (s : St) : Silent s s := ⟨.inl rfl, Adds.refl _ _⟩

theorem Silent.trans {s t u : St} (h : Silent s t) (h' : Silent t u) : Silent s u where
  state := by
    rcases h'.state with hs | hs
    · rw [hs]
      exact h.state
    · exact .inr hs
  log := h.log.trans h'.log

theorem Silent.emit (s : St) {e : Event} (he : e.isSynAck = false) : Silent s (s.emit e) :=
  ⟨.inl rfl, Adds.one _ he⟩

/-- the members may change, the state apart -/
theorem Silent.data {s t : St} (hs : t.data.state = s.data.state) (hlog : t.log = s.log) :
    Silent s t := ⟨.inl hs, hlog ▸ Adds.refl _ _⟩

/-- a call that ends silently -/
def EndsSilent (s : St) : Except Fault St → Prop := Ends (fun _ => True) (Silent s)

theorem EndsSilent.from {s t : St} {r : Except Fault St} (h : Silent s t) (hr : EndsSilent t r) :
    EndsSilent s r := Ends.mono hr fun _ hu => h.trans hu

theorem closeSession_silent (s : St) : Silent s s.closeSession := by
  unfold St.closeSession
  cases s.data.mSock with
  | some fd => exact ⟨.inr rfl, Adds.one _ rfl⟩
  | none => exact ⟨.inr rfl, Adds.one _ rfl⟩

theorem finishUpStream_silent (s : St) : Silent s s.finishUpStream := by
  let t : St := { s with data := { s.data with receiveUser := s.data.receiveUser + 1 } }
  have h : Silent s t := .data rfl rfl
  unfold St.finishUpStream
  dsimp only
  split_ifs
  · exact h.trans (closeSession_silent t)
  · exact h.trans (.emit t rfl)

theorem trimNow_silent (s : St) : EndsSilent s s._trimReceiveBuffer := by
  unfold St._trimReceiveBuffer shiftElements
  dsimp only
  split_ifs
  · exact Silent.refl s
  · exact Silent.data rfl rfl
  · trivial

theorem finishSend_silent (s : St) : EndsSilent s s.finishSend := by
  unfold St.finishSend
  split_ifs
  · exact finishUpStream_silent s
  · exact Silent.refl s
  · unfold St.trimReceiveBuffer
    split_ifs
    · exact Silent.refl s
    · exact trimNow_silent s

theorem resetClient_silent (s : St) : Silent s s.resetClient := by
  let p := (s.packet.setEnds s.data.destination s.data.source).makeResetSeq s.data.sendNext
  have h : Silent s (s.writePacket p) := ⟨.inl rfl, Adds.one _ rfl⟩
  exact h.trans (closeSession_silent (s.writePacket p))

theorem flushDataToServer_silent (s : St) (r : SendResult) : EndsSilent s (s.flushDataToServer r) := by
  unfold St.flushDataToServer St.sendToServer
  dsimp only
  split_ifs
  · exact Silent.refl s
  · exact Silent.refl s
  · exact finishUpStream_silent s
  · cases r with
    | accepted n =>
      have h : Silent s (s.taken ((St.offeredBytes s.data).take n)) := ⟨.inl rfl, Adds.one _ rfl⟩
      exact .from h (finishSend_silent _)
    | wouldBlock => exact Silent.refl s
    | error => exact resetClient_silent s
  · trivial
  · exact Silent.refl s

/-! ## a segment in order -/

theorem copyPayload_silent (s : St) : EndsSilent s s.copyPayload := by
  unfold St.copyPayload
  dsimp only
  split_ifs <;> first | exact ⟨.inl rfl, Adds.one _ rfl⟩ | trivial

theorem acceptPayload_silent (s : St) (i : ClientInput) : EndsSilent s (s.acceptPayload i) := by
  have hroom : ∀ len, EndsSilent s (s.makeRoom len i.firstSend) := by
    intro len
    unfold St.makeRoom
    split_ifs
    · exact Ends.bind (flushDataToServer_silent s _) fun t ht => EndsSilent.from ht (trimNow_silent t)
    · exact Silent.refl s
  unfold St.acceptPayload
  refine Ends.bind (hroom _) fun t ht => EndsSilent.from ht ?_
  exact Ends.bind (copyPayload_silent t) fun u hu => EndsSilent.from hu (flushDataToServer_silent u _)

theorem finishAck_silent (s : St) (i : ClientInput) : Silent s (s.finishAck i) := by
  unfold St.finishAck St.acknowledgeDelayed
  dsimp only
  split_ifs
  · exact Silent.refl s
  · exact closeSession_silent s
  · exact Silent.refl s
  · exact ⟨.inl rfl, Adds.one _ rfl⟩
  · exact Silent.refl s

theorem acceptSegment_silent (s : St) (i : ClientInput) : EndsSilent s (s.acceptSegment i) := by
  have h : Silent s s.acceptAck := .data rfl rfl
  unfold St.acceptSegment
  refine EndsSilent.from h ?_
  dsimp only
  split_ifs
  · exact finishAck_silent _ i
  · exact Ends.bind (acceptPayload_silent _ i) fun t ht => ht.trans (finishAck_silent t i)

/-! ## towards the client -/

theorem sendSegment_silent (s : St) (seq : U32) :
    Ends (fun _ => True) (fun r => Silent s r.2) (s.sendSegment seq) := by
  unfold St.sendSegment
  dsimp only
  split_ifs <;> first | exact ⟨.inl rfl, Adds.one _ rfl⟩ | trivial

theorem sendLoop_silent (turns : Nat) (seq : U32) (s : St) :
    EndsSilent s (St.sendLoop turns seq s) := by
  induction turns generalizing seq s with
  | zero =>
    unfold St.sendLoop
    split_ifs
    · trivial
    · exact Silent.refl s
  | succ turns ih =>
    unfold St.sendLoop
    split_ifs
    · exact Ends.bind (sendSegment_silent s seq) fun r hr => EndsSilent.from hr (ih r.1 r.2)
    · exact Silent.refl s

theorem sendData_silent (s : St) (seq : U32) (turns : Nat) (now : Int) :
    EndsSilent s (do let t ← s.sendDataStartingFrom seq turns; return t.sentAll now) := by
  refine Ends.bind (P := Silent s) (EndsSilent.from ?_ (sendLoop_silent turns seq _)) fun t ht => ?_
  · exact Silent.data rfl rfl
  · exact ht.trans (.data rfl rfl)

theorem finishFlush_silent (s : St) : Silent s s.finishFlush := by
  unfold St.finishFlush
  split_ifs
  · exact closeSession_silent s
  · exact Silent.refl s

theorem flushDataToClient_silent (s : St) (now : Int) (turns : Nat) :
    EndsSilent s (s.flushDataToClient now turns) := by
  unfold St.flushDataToClient
  split_ifs
  · exact Silent.refl s
  · exact Silent.refl s
  · exact closeSession_silent s
  · refine Ends.bind (P := Silent s) ?_ fun t ht => ht.trans (finishFlush_silent t)
    unfold St.resend
    dsimp only
    refine EndsSilent.from ?_ (sendData_silent _ _ turns now)
    split_ifs
    · exact Silent.data rfl rfl
    · exact Silent.refl s
  · exact Ends.bind (sendData_silent s _ turns now) fun t ht => ht.trans (finishFlush_silent t)
  · exact finishFlush_silent s

theorem receiveFromServer_silent (s : St) (i : ServerInput) :
    Ends (fun _ => True) (fun r => Silent s r.2) (s.receiveFromServer i) := by
  have htrim : EndsSilent s s.trimSendBuffer := by
    unfold St.trimSendBuffer shiftElements
    dsimp only
    split_ifs
    · exact Silent.refl s
    · exact Silent.data rfl rfl
    · trivial
  have hread : ∀ t : St, EndsSilent t (t.readFromServer i) := by
    intro t
    unfold St.readFromServer St.receivedFromServer
    dsimp only
    split_ifs
    · exact ⟨.inl rfl, Adds.one _ rfl⟩
    · exact Silent.data rfl rfl
    · exact Silent.refl t
    · trivial
  unfold St.receiveFromServer
  split_ifs
  · exact Silent.refl s
  · refine Ends.bind htrim fun t ht => ?_
    split_ifs
    · exact ht
    · refine Ends.bind (hread t) fun u hu => ?_
      exact Ends.bind (flushDataToClient_silent u i.now i.turns) fun v hv => (ht.trans hu).trans hv

/-! ## a packet of the client -/

/-- what the reports so far say of a state -/
structure Knows (v : St × Bool) : Prop where
  opened : v.1.data.state = .SYN_ACK_SENT ∨ v.1.data.state = .ESTABLISHED → v.2 = true
  pending : v.1.data.state = .SYN_RECEIVED → v.2 = false

theorem Knows.closed {s : St} (hs : s.data.state = .CLOSED) (known : Bool) : Knows (s, known) where
  opened h := by
    have h' : s.data.state = .SYN_ACK_SENT ∨ s.data.state = .ESTABLISHED := h
    rw [hs] at h'
    rcases h' with h' | h' <;> cases h'
  pending h := by
    cases hs.symm.trans h

theorem Silent.told {s t : St} {known : Bool} (h : Silent s t) (hk : Knows (s, known)) :
    ToldOpen s t known where
  synAck e he hs := absurd hs (by rw [h.log.drop e he]; decide)
  state hs := by
    rcases h.state with ht | ht
    · exact hk.opened (ht ▸ hs)
    · rw [ht] at hs
      rcases hs with hs | hs <;> cases hs

theorem Silent.knows {s t : St} {known : Bool} (h : Silent s t) (hk : Knows (s, known)) :
    Knows (t, known) where
  opened := (h.told hk).state
  pending hs := by
    rcases h.state with ht | ht
    · exact hk.pending (ht.symm.trans hs)
    · exact absurd (ht.symm.trans hs) (by decide)

theorem sendReset_silent (s : St) : Silent s s.sendReset := by
  unfold St.sendReset
  dsimp only
  split_ifs <;> exact ⟨.inl rfl, Adds.one _ rfl⟩

theorem sendAck_silent (s : St) : Silent s s.sendAck := ⟨.inl rfl, Adds.one _ rfl⟩

/-- one SYN-ACK, which tells the client that its connection is open -/
theorem sendSynAck_told {s : St} {known : Bool} : ToldOpen s s.sendSynAck known ↔ known = true :=
  ⟨fun h => h.state (.inl rfl), fun h => ⟨fun _ _ _ => h, fun _ => h⟩⟩

/-- a new attempt: what the client is told is what its report says -/
theorem openSession_told {s : St} (i : ClientInput) (hs : s.data.state = .CLOSED) :
    ToldOpen s (s.openSession i) (i.tryConnect = 0 ∨ i.isConnected) ∧
      Knows (s.openSession i, decide (i.tryConnect = 0 ∨ i.isConnected)) := by
  have hclosed : ∀ known, Knows (s, known) := fun known => .closed hs known
  unfold St.openSession
  dsimp only
  split_ifs with hrefused hreport
  · exact ⟨(sendReset_silent s).told (hclosed _), (sendReset_silent s).knows (hclosed _)⟩
  · have hk : decide (i.tryConnect = 0 ∨ i.isConnected = true) = true := decide_eq_true hreport
    exact ⟨⟨fun _ _ _ => hk, fun _ => hk⟩, fun _ => hk, fun h => nomatch h⟩
  · refine ⟨⟨fun e he => ?_, fun h => ?_⟩, fun h => ?_, fun _ => decide_eq_false hreport⟩
    · have hnone : s.log.drop s.log.length = [] := List.drop_length
      exact absurd (hnone ▸ he) List.not_mem_nil
    · rcases h with h | h <;> cases h
    · rcases h with h | h <;> cases h

theorem asks_iff (p : Packet) : p.asks = true ↔ p.isSyn = true ∧ p.isAck = false := decide_eq_true_iff

theorem establish_told {s : St} {known : Bool} (i : ClientInput) (hk : Knows (s, known))
    (hs : s.data.state = .SYN_ACK_SENT) :
    ToldOpen s (s.establish i) known ∧ Knows (s.establish i, known) := by
  have hknown : known = true := hk.opened (.inl hs)
  have hstate : (s.establish i).data.state = .ESTABLISHED := by
    unfold St.establish
    dsimp only
    cases s.data.mSock <;> rfl
  exact ⟨⟨fun _ _ _ => hknown, fun _ => hknown⟩, fun _ => hknown,
    fun h => absurd (hstate.symm.trans h) (by decide)⟩

/-- A packet that is no repeated SYN tells nothing while the attempt is in progress. -/
theorem pending_silent {s : St} (i : ClientInput) (hs : s.data.state = .SYN_RECEIVED)
    (hno : s.packet.asks = true → s.packet.getSequenceNumber ≠ s.data.receiveNext - 1) :
    EndsSilent s (s.receiveFromClient i) := by
  unfold St.receiveFromClient St.receiveSyn St.receiveReset St.receiveAck
  rw [hs]
  dsimp only
  split_ifs with hsyn hack hseq
  · exact sendReset_silent s
  · exact absurd hseq (hno ((asks_iff _).mpr ⟨hsyn, by simpa using hack⟩))
  · exact sendReset_silent s
  · exact closeSession_silent s
  · exact Silent.refl s
  · exact sendReset_silent s
  · exact sendReset_silent s

/-- the calls that are not silent open the session, repeat the SYN-ACK, or establish -/
theorem Silent.reportedBy {s t : St} {known : Bool} (h : Silent s t) (hk : Knows (s, known))
    (i : ClientInput) : ToldOpen s t (reportedBy s.data known s.packet i) ∧
      Knows (t, reportedBy s.data known s.packet i) := by
  by_cases hs : s.data.state = .CLOSED
  · have hc : ∀ k, Knows (s, k) := Knows.closed hs
    exact ⟨h.told (hc _), h.knows (hc _)⟩
  · have hr : Session.reportedBy s.data known s.packet i = known := if_neg fun h => hs h.1
    rw [hr]
    exact ⟨h.told hk, h.knows hk⟩

theorem reportedBy_open {d : Data} {known : Bool} {p : Packet} {i : ClientInput}
    (hs : d.state ≠ .CLOSED) : reportedBy d known p i = known := if_neg fun h => hs h.1

/-- **A packet of the client** that does not repeat the SYN of a pending attempt. -/
theorem receiveFromClient_told {s : St} {known : Bool} (i : ClientInput) (hk : Knows (s, known))
    (hno : s.data.state = .SYN_RECEIVED → s.packet.asks = true →
      s.packet.getSequenceNumber ≠ s.data.receiveNext - 1) :
    Ends (fun _ => True) (fun t => ToldOpen s t (reportedBy s.data known s.packet i) ∧
      Knows (t, reportedBy s.data known s.packet i)) (s.receiveFromClient i) := by
  by_cases hpending : s.data.state = .SYN_RECEIVED
  · exact (pending_silent i hpending (hno hpending)).mono fun t ht => ht.reportedBy hk i
  have h := receiveFromClient_step s i
  generalize s.receiveFromClient i = r at h ⊢
  cases h with
  | same => exact (Silent.refl s).reportedBy hk i
  | reset => exact (sendReset_silent s).reportedBy hk i
  | ack hs => exact (sendAck_silent s).reportedBy hk i
  | closed hs hsyn hrst hwin => exact (closeSession_silent s).reportedBy hk i
  | accepted hs hsyn hrst hack hseq =>
    exact (acceptSegment_silent s i).mono fun t ht => ht.reportedBy hk i
  | synAck hs =>
    have hsent : s.data.state = .SYN_ACK_SENT := hs.resolve_left hpending
    have hknown : known = true := hk.opened (.inl hsent)
    rw [reportedBy_open (by rw [hsent]; decide)]
    exact ⟨sendSynAck_told.mpr hknown, fun _ => hknown, fun h => nomatch h⟩
  | opened hs hsyn hack =>
    have hr : reportedBy s.data known s.packet i = decide (i.tryConnect = 0 ∨ i.isConnected = true) :=
      if_pos ⟨hs, (asks_iff _).mpr ⟨hsyn, hack⟩⟩
    rw [hr]
    exact openSession_told i hs
  | established hs hsyn hrst hack hseq hackNo =>
    rw [reportedBy_open (by rw [hs]; decide)]
    exact establish_told i hk hs

/-! ## the calls and the runs -/

theorem step_told {v : St × Bool} (h : Knows v) {op : Op} (hno : ¬ Repeats v op) :
    Ends (fun _ => True) (fun w => ToldOpen v.1 w.1 w.2 ∧ Knows w) (reportedStep v op) := by
  obtain ⟨s, known⟩ := v
  unfold reportedStep
  cases op with
  | receiveFromClient p i =>
    refine Ends.bind (receiveFromClient_told (s := { s with packet := p }) i ⟨h.opened, h.pending⟩ ?_)
      fun t ht => ⟨⟨ht.1.synAck, ht.1.state⟩, ht.2⟩
    exact fun hs ha hseq => hno ⟨hs, ha, hseq⟩
  | receiveFromServer p i =>
    refine Ends.bind (P := Silent s) ?_ fun t ht => ⟨ht.told h, ht.knows h⟩
    have hp : Silent s { s with packet := p } := .data rfl rfl
    exact Ends.bind (receiveFromServer_silent _ i) fun r hr => hp.trans hr
  | flushDataToServer p r =>
    have hp : Silent s { s with packet := p } := .data rfl rfl
    exact Ends.bind (EndsSilent.from hp (flushDataToServer_silent _ r))
      fun t ht => ⟨ht.told h, ht.knows h⟩
  | flushDataToClient p now turns =>
    have hp : Silent s { s with packet := p } := .data rfl rfl
    exact Ends.bind (EndsSilent.from hp (flushDataToClient_silent _ now turns))
      fun t ht => ⟨ht.told h, ht.knows h⟩

/-- a repeated SYN is answered with a SYN-ACK, whatever the attempt comes to -/
theorem Repeats.told {v : St × Bool} (h : Knows v) {op : Op} (hr : Repeats v op) : ¬ Honest v op := by
  obtain ⟨s, known⟩ := v
  cases op with
  | receiveFromClient p i =>
    obtain ⟨hs, hask, hseq⟩ := hr
    obtain ⟨hsyn, hack⟩ := (asks_iff _).mp hask
    have hstep : step s (.receiveFromClient p i) = .ok (St.sendSynAck { s with packet := p }) := by
      show St.receiveFromClient { s with packet := p } i = _
      unfold St.receiveFromClient St.receiveSyn
      dsimp only at hs ⊢
      rw [if_pos hsyn, if_neg (by rw [hack]; decide), hs]
      dsimp only
      rw [if_pos hseq]
    have hknown : known = false := h.pending hs
    intro ht
    unfold Honest reportedStep at ht
    dsimp only at ht
    rw [hstep] at ht
    have ht' : ToldOpen s (St.sendSynAck { s with packet := p }) (reportedBy s.data known p.val i) := ht
    rw [reportedBy_open (fun hc => by rw [hs] at hc; cases hc)] at ht'
    exact absurd (ht'.state (.inl rfl)) (by rw [hknown]; decide)
  | _ => exact hr.elim

theorem honest_iff {v : St × Bool} (h : Knows v) (op : Op) : Honest v op ↔ ¬ Repeats v op :=
  ⟨fun hh hr => hr.told h hh, fun hno => (step_told h hno).mono fun _ hw => hw.1⟩

/-- a session before its first call -/
def newSession (shared : Shared) (packet : Packet) : St := ⟨Data.init, shared, packet, []⟩

/-- **No SYN-ACK before the server accepted.**  The calls of a run tell the client that its connection is
open, and open the session, only after the report exactly if no SYN is repeated while the attempt of
its connection is in progress. -/
theorem synAck_reported_iff (shared : Shared) (packet : Packet) (ops : List Op) :
    AlongM reportedStep Honest (newSession shared packet, false) ops ↔
      AlongM reportedStep (fun v op => ¬ Repeats v op) (newSession shared packet, false) ops := by
  refine alongM_iff Knows (fun v op h hh => ?_) (fun v op h => honest_iff h op) (.closed rfl _) ops
  exact (step_told h ((honest_iff h op).mp hh)).mono fun _ hw => hw.2

/-- `tryConnect` is in progress -/
def inProgress : ClientInput := ⟨5, -1, true, false, 0, .wouldBlock, .wouldBlock, 0, 0⟩

/-- a SYN whose attempt is in progress, and the same SYN again -/
def repeatedSyn : List Op :=
  let syn := synPacket ⟨1, 1⟩ ⟨2, 2⟩ 7 1000
  [.receiveFromClient syn inProgress, .receiveFromClient syn inProgress]

theorem synAck_unreported : ¬ ∀ (shared : Shared) (packet : Packet) (ops : List Op),
    AlongM reportedStep Honest (newSession shared packet, false) ops := by
  intro h
  have hr := h ⟨∅, ∅, ∅, 0, 0⟩ (synPacket ⟨1, 1⟩ ⟨2, 2⟩ 7 1000) repeatedSyn
  exact absurd (hr.2.ok rfl).1 (Repeats.told ⟨by decide, by decide⟩ ⟨by decide, by decide, by decide⟩)

end TunServer.Session
