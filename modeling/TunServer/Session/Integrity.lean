import TunServer.Session.Upload

/-!
# The client's stream reaches the server

* `Aside`          what the calls that serve the other direction end in;
* `CallFine`       the calls in which the receive buffer stays in order;
* `inOrder_step`   these calls keep it in order, and access it within its bounds;
* `upload_in_order`   a run of such calls hands over a prefix of the client's stream.
-/

set_option linter.unusedVariables false

namespace TunServer.Session

/-! ## the other direction -/

/-- a call that has nothing to do with the upload -/
def Aside (s : St) : Except Fault St → Prop := Ends (· ≠ .receiveBuffer) (AsideStep s)

theorem Aside.bind {s : St} {r : Except Fault St} {f : St → Except Fault St} (h : Aside s r)
    (hf : ∀ t, Aside t (f t)) : Aside s (r >>= f) :=
  Ends.bind h fun t ht => (hf t).mono fun _ hu => ht.trans hu

theorem sendReset_aside (s : St) : AsideStep s s.sendReset := by
  unfold St.sendReset
  dsimp only
  split_ifs <;> exact writePacket_aside s _

theorem sendAck_aside (s : St) : AsideStep s s.sendAck := writePacket_aside s _

theorem sendSynAck_aside (s : St) (hs : s.data.state ≠ .CLOSED) : AsideStep s s.sendSynAck :=
  ⟨⟨rfl, rfl, rfl, rfl, rfl, fun hc => absurd hc hs⟩, Adds.one _ ⟨rfl, rfl, rfl⟩⟩

theorem establish_aside (s : St) (i : ClientInput) (hs : s.data.state ≠ .CLOSED) :
    AsideStep s (s.establish i) := by
  unfold St.establish
  dsimp only
  cases s.data.mSock with
  | some fd => exact ⟨⟨rfl, rfl, rfl, rfl, rfl, fun hc => absurd hc hs⟩, Adds.refl _ _⟩
  | none => exact ⟨⟨rfl, rfl, rfl, rfl, rfl, fun hc => absurd hc hs⟩, Adds.refl _ _⟩

theorem sendSegment_aside (s : St) (seq : U32) :
    Ends (· ≠ .receiveBuffer) (fun r => AsideStep s r.2) (s.sendSegment seq) := by
  unfold St.sendSegment
  dsimp only
  generalize (if s.data.mss.setWidth 32 < s.data.sendNewDataSequence - seq -
    b32 s.data.serverReadFinished then _ else _) = len
  split_ifs
  · exact writePacket_aside s _
  · exact writePacket_aside s _
  · exact Fault.noConfusion

theorem sendLoop_aside (s : St) (seq : U32) (turns : Nat) : Aside s (St.sendLoop turns seq s) := by
  induction turns generalizing s seq with
  | zero =>
    unfold St.sendLoop
    split_ifs
    · exact Fault.noConfusion
    · exact AsideStep.refl s
  | succ turns ih =>
    unfold St.sendLoop
    split_ifs
    · exact (sendSegment_aside s seq).bind fun r hr => (ih r.2 r.1).mono fun _ hu => hr.trans hu
    · exact AsideStep.refl s

theorem sendDataStartingFrom_aside (s : St) (seq : U32) (turns : Nat) :
    Aside s (s.sendDataStartingFrom seq turns) := by
  let t : St := { s with packet := s.packet.setEnds s.data.destination s.data.source }
  have h : AsideStep s t := ⟨.refl _, Adds.refl _ _⟩
  exact (sendLoop_aside t seq turns).mono fun _ hu => h.trans hu

theorem sentAll_aside (s : St) (now : Int) : AsideStep s (s.sentAll now) :=
  ⟨⟨rfl, rfl, rfl, rfl, rfl, id⟩, Adds.refl _ _⟩

theorem finishFlush_aside (s : St) : AsideStep s s.finishFlush := by
  unfold St.finishFlush
  split_ifs
  · exact (closeSession_aside s).1
  · exact .refl s

theorem resend_aside (s : St) (now : Int) (turns : Nat) : Aside s (s.resend now turns) := by
  have hsend (t : St) (ht : AsideStep s t) : Aside s (do
      let s ← t.sendDataStartingFrom t.data.sendUnacknowledged turns
      return s.sentAll now) :=
    Ends.bind (sendDataStartingFrom_aside t _ turns) fun u hu =>
      ht.trans (hu.trans (sentAll_aside u now))
  unfold St.resend
  dsimp only
  split_ifs
  · exact hsend _ ⟨⟨rfl, rfl, rfl, rfl, rfl, id⟩, Adds.refl _ _⟩
  · exact hsend s (.refl s)

theorem sendNewData_aside (s : St) (now : Int) (turns : Nat) : Aside s (s.sendNewData now turns) :=
  (sendDataStartingFrom_aside s _ turns).bind fun u => sentAll_aside u now

theorem flushDataToClient_aside (s : St) (now : Int) (turns : Nat) :
    Aside s (s.flushDataToClient now turns) := by
  unfold St.flushDataToClient
  split_ifs
  · exact AsideStep.refl s
  · exact AsideStep.refl s
  · exact (closeSession_aside s).1
  · exact (resend_aside s now turns).bind fun u => finishFlush_aside u
  · exact (sendNewData_aside s now turns).bind fun u => finishFlush_aside u
  · exact finishFlush_aside s

theorem trimSendBuffer_aside (s : St) : Aside s s.trimSendBuffer := by
  unfold St.trimSendBuffer
  dsimp only
  split_ifs
  · exact AsideStep.refl s
  · unfold shiftElements
    split_ifs
    · exact ⟨⟨rfl, rfl, rfl, rfl, rfl, id⟩, Adds.refl _ _⟩
    · exact Fault.noConfusion

theorem readFromServer_aside (s : St) (i : ServerInput) : Aside s (s.readFromServer i) := by
  unfold St.readFromServer St.receivedFromServer
  dsimp only
  split_ifs
  · exact ⟨⟨rfl, rfl, rfl, rfl, rfl, id⟩, Adds.one _ ⟨rfl, rfl, rfl⟩⟩
  · exact ⟨⟨rfl, rfl, rfl, rfl, rfl, id⟩, Adds.refl _ _⟩
  · exact AsideStep.refl s
  · exact Fault.noConfusion

theorem receiveFromServer_aside (s : St) (i : ServerInput) :
    Ends (· ≠ .receiveBuffer) (fun r => AsideStep s r.2) (s.receiveFromServer i) := by
  unfold St.receiveFromServer
  split_ifs
  · exact AsideStep.refl s
  · refine Ends.bind (trimSendBuffer_aside s) fun t ht => ?_
    split_ifs
    · exact ht
    · have h := (readFromServer_aside t i).bind fun u => flushDataToClient_aside u i.now i.turns
      rw [← bind_assoc]
      exact Ends.bind h fun v hv => ht.trans hv

/-! ## the calls that keep the buffer in order -/

def Op.fromClient : Op → Option Packet
  | .receiveFromClient p _ => some p.val
  | _ => none

/-- the packet is a segment in order, from a client that has not sent its FIN -/
def takesPayload (d : Data) (p : Packet) : Bool :=
  d.state = .ESTABLISHED ∧ ¬ p.isSyn ∧ ¬ p.isReset ∧ p.isAck ∧
    p.getSequenceNumber = d.receiveNext ∧ ¬ d.clientReadFinished

/-- the calls in which the receive buffer stays in order -/
def CallFine (s : St) : Op → Prop
  | .receiveFromClient p i => takesPayload s.data p = true → PayloadFine s.data p i
  | .flushDataToServer _ r => FlushFine s.data r
  | _ => True

/-- the call does not begin a second connection -/
def NoNewConnection (s : St) (op : Op) : Prop :=
  ∀ p ∈ op.fromClient, s.data.state = .CLOSED → p.isSyn = false

section
variable {x : U32} {C : List Byte}

theorem inOrder_client {s : St} (h : InOrder x s) (i : ClientInput)
    (hnew : s.data.state = .CLOSED → s.packet.isSyn = false)
    (hfine : takesPayload s.data s.packet = true → PayloadFine s.data s.packet i) :
    Ends (· ≠ .receiveBuffer) (InOrder x) (s.receiveFromClient i) := by
  have hs := receiveFromClient_step s i
  generalize s.receiveFromClient i = r at hs ⊢
  cases hs with
  | same => exact h
  | reset => exact h.aside (sendReset_aside s)
  | ack => exact h.aside (sendAck_aside s)
  | synAck hs =>
    refine h.aside (sendSynAck_aside s ?_)
    rcases hs with hs | hs <;> rw [hs] <;> decide
  | opened hs hsyn => exact absurd ((hnew hs).symm.trans hsyn) (by decide)
  | closed => exact h.aside (closeSession_aside s).1
  | established hs => exact h.aside (establish_aside s i (by rw [hs]; decide))
  | accepted hs hsyn hrst hack hseq =>
    obtain ⟨t, ht, hin⟩ := h.acceptSegment hs fun hf =>
      hfine (by simp [takesPayload, hs, hsyn, hrst, hack, hseq, hf])
    rw [ht]
    exact hin

/-- **What one call preserves.** -/
theorem inOrder_step {s : St} {op : Op} (h : InOrder x s) (hnew : NoNewConnection s op)
    (hfine : CallFine s op) : Ends (· ≠ .receiveBuffer) (InOrder x) (step s op) := by
  cases op with
  | receiveFromClient p i =>
    let t : St := { s with packet := p.val }
    have ht : InOrder x t := h
    exact inOrder_client ht i (hnew p.val rfl) hfine
  | receiveFromServer p i =>
    let t : St := { s with packet := p }
    have ht : InOrder x t := h
    exact (receiveFromServer_aside t i).bind fun r hr => ht.aside hr
  | flushDataToServer p r =>
    let t : St := { s with packet := p }
    have ht : InOrder x t := h
    obtain ⟨u, hu, hin⟩ := (ht.flush r).2 hfine
    show Ends _ _ (t.flushDataToServer r)
    rw [hu]
    exact hin
  | flushDataToClient p now turns =>
    let t : St := { s with packet := p }
    have ht : InOrder x t := h
    exact (flushDataToClient_aside t now turns).mono fun _ hu => ht.aside hu

theorem kept_client {s : St} (h : Kept x s) (i : ClientInput)
    (hnew : s.data.state = .CLOSED → s.packet.isSyn = false) :
    Ends (fun _ => True) (Kept x) (s.receiveFromClient i) := by
  have hs := receiveFromClient_step s i
  generalize s.receiveFromClient i = r at hs ⊢
  cases hs with
  | same => exact h
  | reset => exact h.aside (sendReset_aside s)
  | ack => exact h.aside (sendAck_aside s)
  | synAck hs =>
    refine h.aside (sendSynAck_aside s ?_)
    rcases hs with hs | hs <;> rw [hs] <;> decide
  | opened hs hsyn => exact absurd ((hnew hs).symm.trans hsyn) (by decide)
  | closed => exact h.aside (closeSession_aside s).1
  | established hs => exact h.aside (establish_aside s i (by rw [hs]; decide))
  | accepted =>
    cases he : s.acceptSegment i with
    | ok t => exact h.acceptSegment he
    | error e => trivial

/-- every call keeps the counters in order, and the buffer unless it is lost -/
theorem kept_step {s : St} {op : Op} (h : Kept x s) (hnew : NoNewConnection s op) :
    Ends (fun _ => True) (Kept x) (step s op) := by
  cases op with
  | receiveFromClient p i =>
    let t : St := { s with packet := p.val }
    have ht : Kept x t := h
    exact kept_client ht i (hnew p.val rfl)
  | receiveFromServer p i =>
    let t : St := { s with packet := p }
    have ht : Kept x t := h
    have hcall : Ends (· ≠ .receiveBuffer) (Kept x) (step s (.receiveFromServer p i)) :=
      (receiveFromServer_aside t i).bind fun r hr => ht.aside hr
    exact hcall.imp (fun _ _ => trivial) fun _ hu => hu
  | flushDataToServer p r =>
    let t : St := { s with packet := p }
    have ht : Kept x t := h
    show Ends _ _ (t.flushDataToServer r)
    cases he : t.flushDataToServer r with
    | ok u => exact ht.flush he
    | error e => trivial
  | flushDataToClient p now turns =>
    let t : St := { s with packet := p }
    have ht : Kept x t := h
    exact (flushDataToClient_aside t now turns).imp (fun _ _ => trivial) fun _ hu => ht.aside hu

/-! ## what is accepted -/

theorem UpFrame.accepted {s s' : St} (h : UpFrame s s') :
    acceptedBytes s'.log = acceptedBytes s.log := by
  obtain ⟨es, hes, hnone⟩ := h.log
  rw [hes, acceptedBytes_append]
  have h0 : acceptedBytes es = [] := List.flatMap_eq_nil_iff.mpr hnone
  rw [h0, List.append_nil]

theorem acceptPayload_accepted {s s' : St} {i : ClientInput} (he : s.acceptPayload i = .ok s') :
    ∃ n, acceptedBytes s'.log = acceptedBytes s.log ++ s.packet.payload.take n := by
  obtain ⟨t, ht, he⟩ := bind_ok.mp he
  obtain ⟨u, hu, he⟩ := bind_ok.mp he
  have hft := makeRoom_frame ht
  obtain ⟨_, hlog, _⟩ := copyPayload_eq hu
  have hlast : acceptedBytes [Event.accepted (copied t)] = copied t := List.append_nil _
  rw [(flushDataToServer_frame he).accepted, hlog, acceptedBytes_append, hft.accepted, hlast]
  refine ⟨t.data.getReceiveAvailable.toNat, ?_⟩
  rw [← hft.payload]
  rfl

theorem AsideStep.accepted {s s' : St} (h : AsideStep s s') :
    acceptedBytes s'.log = acceptedBytes s.log := (offUpload_adds h.log).1

/-- `receiveFromClient` accepts nothing, or a part of the payload of its segment -/
theorem client_accepted {s s' : St} {i : ClientInput}
    (hnew : s.data.state = .CLOSED → s.packet.isSyn = false) (he : s.receiveFromClient i = .ok s') :
    acceptedBytes s'.log = acceptedBytes s.log ∨ takesPayload s.data s.packet = true ∧
      ∃ n, acceptedBytes s'.log = acceptedBytes s.log ++ s.packet.payload.take n := by
  have hs := receiveFromClient_step s i
  rw [he] at hs
  generalize hr : (Except.ok s' : Except Fault St) = r at hs
  cases hs with
  | same => cases hr; exact .inl rfl
  | reset => cases hr; exact .inl (sendReset_aside s).accepted
  | ack => cases hr; exact .inl (sendAck_aside s).accepted
  | synAck hs =>
    cases hr
    refine .inl (sendSynAck_aside s ?_).accepted
    rcases hs with hs | hs <;> rw [hs] <;> decide
  | opened hs hsyn => exact absurd ((hnew hs).symm.trans hsyn) (by decide)
  | closed => cases hr; exact .inl (closeSession_aside s).1.accepted
  | established hs =>
    cases hr
    exact .inl (establish_aside s i (by rw [hs]; decide)).accepted
  | accepted hs hsyn hrst hack hseq =>
    have he := hr.symm
    unfold St.acceptSegment at he
    dsimp only at he
    split_ifs at he with hf
    · cases he
      exact .inl ((acceptAck_aside s).trans (finishAck_aside _ i)).accepted
    · obtain ⟨u, hu, he⟩ := bind_ok.mp he
      cases he
      obtain ⟨n, hn⟩ := acceptPayload_accepted hu
      have hf : s.data.clientReadFinished = false := by
        rw [Bool.not_eq_true] at hf
        exact hf
      refine .inr ⟨by simp [takesPayload, hs, hsyn, hrst, hack, hseq, hf], n, ?_⟩
      rw [(finishAck_aside u i).accepted]
      exact hn

/-- a call accepts nothing, or a part of the payload of its segment -/
theorem step_accepted {s s' : St} {op : Op} (hnew : NoNewConnection s op) (he : step s op = .ok s') :
    acceptedBytes s'.log = acceptedBytes s.log ∨ ∃ p ∈ op.fromClient,
      takesPayload s.data p = true ∧
      ∃ n, acceptedBytes s'.log = acceptedBytes s.log ++ p.payload.take n := by
  cases op with
  | receiveFromClient p i =>
    let t : St := { s with packet := p.val }
    have he : t.receiveFromClient i = .ok s' := he
    have hnew : t.data.state = .CLOSED → t.packet.isSyn = false := hnew p.val rfl
    exact (client_accepted hnew he).imp id fun h => ⟨p.val, rfl, h⟩
  | receiveFromServer p i =>
    obtain ⟨r, hr, he⟩ := bind_ok.mp he
    cases he
    exact .inl ((receiveFromServer_aside { s with packet := p } i).ok hr).accepted
  | flushDataToServer p r => exact .inl (flushDataToServer_frame he).accepted
  | flushDataToClient p now turns =>
    exact .inl ((flushDataToClient_aside { s with packet := p } now turns).ok he).accepted

/-- The payload stands in the stream `C` at a position that its sequence number names; of two
positions that have the same number the segment is nearer than 2^32 to what was accepted. -/
def Carries (C : List Byte) (x : U32) (log : List Event) (p : Packet) : Prop :=
  p.payload ≠ [] → ∃ a, p.getSequenceNumber = x + 1 + BitVec.ofNat 32 a ∧
    a < (acceptedBytes log).length + 2 ^ 32 ∧ (acceptedBytes log).length < a + 2 ^ 32 ∧
    Slice C a p.payload

/-- The client sends segments of the stream `C`, and no second connection begins. -/
def Carried (C : List Byte) (x : U32) (s : St) (op : Op) : Prop :=
  NoNewConnection s op ∧ ∀ p ∈ op.fromClient, Carries C x s.log p

theorem accepted_step {s s' : St} {op : Op} (h : Uploading x s.data s.log)
    (hC : acceptedBytes s.log <+: C) (hc : Carried C x s op) (he : step s op = .ok s') :
    acceptedBytes s'.log <+: C := by
  rcases step_accepted hc.1 he with hsame | ⟨p, hp, htakes, n, hn⟩
  · rw [hsame]
    exact hC
  · rw [hn]
    by_cases hnil : p.payload = []
    · rw [hnil, List.take_nil, List.append_nil]
      exact hC
    · obtain ⟨a, hseq, hlt, hgt, hslice⟩ := hc.2 p hp hnil
      have hfin : s.data.clientReadFinished = false := by
        simp only [takesPayload, decide_eq_true_eq] at htakes
        simpa using htakes.2.2.2.2.2
      have hN : p.getSequenceNumber = s.data.receiveNext := by
        simp only [takesPayload, decide_eq_true_eq] at htakes
        exact htakes.2.2.2.2.1
      -- the position is the one behind what was accepted
      have ha : a = (acceptedBytes s.log).length := by
        have hnext := h.next
        rw [hfin, add_b32_false, ← hN, hseq] at hnext
        have hmod := congrArg BitVec.toNat (add_left_cancel hnext)
        rw [BitVec.toNat_ofNat, BitVec.toNat_ofNat] at hmod
        omega
      rw [ha] at hslice
      exact prefix_append_of_slice hC ((List.take_prefix n _).trans hslice)

/-! ## runs -/

/-- the session `s` is closed, and a call with the packet `p` opens it -/
structure Opens (s : St) (p : Incoming) (i : ClientInput) (s₀ : St) : Prop where
  log : s.log = []
  closed : s.data.state = .CLOSED
  call : step s (.receiveFromClient p i) = .ok s₀
  opened : s₀.data.state ≠ .CLOSED

/-- A SYN that opens a closed session finds its members as `opened` sets them; the streams are as
before. -/
theorem openSession_opens {s s' : St} {i : ClientInput} (hclosed : s.data.state = .CLOSED)
    (he : s.receiveFromClient i = .ok s') (hop : s'.data.state ≠ .CLOSED) :
    acceptedBytes s'.log = acceptedBytes s.log ∧ handedBytes s'.log = handedBytes s.log ∧
      ∃ f, (f = .SYN_RECEIVED ∨ f = .SYN_ACK_SENT) ∧
        s'.data = { St.opened s.data s.packet i with state := f } := by
  have hs := receiveFromClient_step s i
  rw [he] at hs
  generalize hr : (Except.ok s' : Except Fault St) = r at hs
  cases hs with
  | same => cases hr; exact absurd hclosed hop
  | reset => cases hr; exact absurd ((sendReset_aside s).up.state hclosed) hop
  | ack hs => exact absurd hclosed hs
  | synAck hs => rw [hclosed] at hs; rcases hs with hs | hs <;> cases hs
  | opened hs hsyn hack =>
    cases hr
    unfold St.openSession at hop ⊢
    dsimp only at hop ⊢
    split_ifs at hop ⊢
    · exact absurd ((sendReset_aside s).up.state hclosed) hop
    · refine ⟨?_, ?_, .SYN_ACK_SENT, .inr rfl, rfl⟩
      · exact (acceptedBytes_append _ _).trans (List.append_nil _)
      · exact (handedBytes_append _ _).trans (List.append_nil _)
    · exact ⟨rfl, rfl, .SYN_RECEIVED, .inl rfl, rfl⟩
  | closed hs => exact absurd hclosed hs
  | established hs => rw [hclosed] at hs; cases hs
  | accepted hs => rw [hclosed] at hs; cases hs

theorem opens_eq {s s₀ : St} {p : Incoming} {i : ClientInput} (h : Opens s p i s₀) :
    acceptedBytes s₀.log = [] ∧ handedBytes s₀.log = [] ∧
      s₀.data = { St.opened s.data p i with state := s₀.data.state } := by
  let t : St := { s with packet := p.val }
  have hlog : t.log = [] := h.log
  have hclosed : t.data.state = .CLOSED := h.closed
  obtain ⟨hacc, hhand, f, _, hdata⟩ := openSession_opens hclosed h.call h.opened
  rw [hlog] at hacc hhand
  refine ⟨hacc, hhand, ?_⟩
  rw [hdata]

theorem inOrder_opened {s s₀ : St} {p : Incoming} {i : ClientInput} (h : Opens s p i s₀) :
    InOrder p.val.getSequenceNumber s₀ := by
  obtain ⟨hacc, hhand, hd⟩ := opens_eq h
  have hpend : pending s₀.log = [] := by
    unfold pending
    rw [hacc, List.drop_nil]
  refine ⟨⟨?_, ?_, .inl ?_⟩, ?_, fun hne => absurd hpend hne, ?_⟩
  · rw [hhand]
    exact List.nil_prefix
  · rw [hacc, hd]
    simp [St.opened]
  · rw [hhand, hd]
    simp [St.opened]
  · rw [hd]
    simp [St.opened]
  · rw [hpend]
    rfl

/-- **The upload is a prefix of the client's stream** in every run of a connection whose calls are
fine: no access leaves the receive buffer, its marks stay in order, and what was accepted and not
handed over stands in it from `receiveUser` on. -/
theorem upload_in_order {s s₀ : St} {p : Incoming} {i : ClientInput} {ops : List Op}
    (hopen : Opens s p i s₀)
    (hc : AlongM step (Carried C p.val.getSequenceNumber) s₀ ops)
    (hfine : AlongM step CallFine s₀ ops) :
    Ends (· ≠ .receiveBuffer) (fun s' =>
        handedBytes s'.log <+: C ∧
        s'.data.receiveUser - s'.data.receiveSequence ≤
          s'.data.receiveNext - s'.data.receiveSequence ∧
        ∃ n, acceptedBytes s'.log = handedBytes s'.log ++
          s'.data.receiveBuffer.read (s'.data.receiveUser - s'.data.receiveSequence).toNat n)
      (runM step s₀ ops) := by
  have hstart : InOrder p.val.getSequenceNumber s₀ ∧ acceptedBytes s₀.log <+: C := by
    refine ⟨inOrder_opened hopen, ?_⟩
    rw [(opens_eq hopen).1]
    exact List.nil_prefix
  have hinv := runM_ends
    (fun t => InOrder p.val.getSequenceNumber t ∧ acceptedBytes t.log <+: C)
    (fun t op ht hok => (inOrder_step ht.1 hok.1.1 hok.2).and fun u hu =>
      accepted_step ht.1.1 ht.2 hok.1 hu) hstart (hc.and hfine)
  refine hinv.mono fun t ht => ?_
  obtain ⟨⟨hup, hheld⟩, hC⟩ := ht
  refine ⟨hup.handed.trans hC, hheld.ordered, (pending t.log).length, ?_⟩
  rw [hheld.bytes, hup.append]

end

/-! ## a send that leaves bytes behind -/

instance (d : Data) : Decidable (TrimFine d) := inferInstanceAs (Decidable (_ ∨ _))
instance (d : Data) : Decidable (SendFine d) := inferInstanceAs (Decidable (_ → _ → _))
instance (d : Data) (r : SendResult) : Decidable (FlushFine d r) :=
  inferInstanceAs (Decidable (_ → _ → _ → _ ∧ _ ∧ (_ → _)))

instance (d : Data) (p : Packet) (i : ClientInput) : Decidable (PayloadFine d p i) :=
  decidable_of_iff
    ((d.getReceiveAvailable < p.getDataLength →
      FlushFine d i.firstSend ∧ TrimFine (sent d i.firstSend)) ∧
      (p.copiedData (roomMade d p.getDataLength i.firstSend).getReceiveAvailable ≠ [] →
        (roomMade d p.getDataLength i.firstSend).receiveSequence ≤
          (roomMade d p.getDataLength i.firstSend).receiveNext) ∧
      FlushFine (payloadTaken (roomMade d p.getDataLength i.firstSend) p) i.send)
    ⟨fun h => ⟨h.1, h.2.1, h.2.2⟩, fun h => ⟨h.room, h.copy, h.send⟩⟩

instance : ∀ (s : St) (op : Op), Decidable (CallFine s op)
  | s, .receiveFromClient p i =>
    inferInstanceAs (Decidable (takesPayload s.data p = true → PayloadFine s.data p i))
  | s, .flushDataToServer _ r => inferInstanceAs (Decidable (FlushFine s.data r))
  | _, .receiveFromServer _ _ => .isTrue trivial
  | _, .flushDataToClient _ _ _ => .isTrue trivial

instance (s : St) (op : Op) : Decidable (NoNewConnection s op) :=
  inferInstanceAs (Decidable (∀ p ∈ op.fromClient, s.data.state = .CLOSED → p.isSyn = false))

def clientA : SockAddr := ⟨0x0a000001, 40000⟩
def serverA : SockAddr := ⟨0x01010101, 80⟩

/-- a session object that was not used yet -/
def unused : St := ⟨.init, ⟨∅, ∅, ∅, 0, 0⟩, synPacket ⟨0, 0⟩ ⟨0, 0⟩ 0 0, []⟩

/-- what the surroundings answer when the server is reached at once, and takes `n` bytes -/
def taking (n : Nat) : ClientInput := ⟨5, 0, false, true, 0, .accepted n, .accepted n, 0, 0⟩

/-- the client's maximum segment size is 2, and its first number 100 -/
def uploadSyn : Incoming := synPacket clientA serverA 100 2

/-- the session once `uploadSyn` opened it -/
def uploadStart : St := St.openSession { unused with packet := uploadSyn } (taking 0)

/-- the handshake is finished, and of three bytes the server socket takes `n` -/
def uploadOps (n : Nat) : List Op :=
  [.receiveFromClient (ackPacket clientA serverA false 101 32) (taking 0),
   .receiveFromClient (dataPacket clientA serverA 101 32 [97, 98, 99] (by decide)) (taking n)]

/-- the first position not before `k` whose sequence number is `q` -/
def positionFrom (x : U32) (k : Nat) (q : U32) : Nat := k + (q - (x + 1 + BitVec.ofNat 32 k)).toNat

theorem position_iff (x : U32) (k : Nat) (q : U32) (a : Nat) :
    (q = x + 1 + BitVec.ofNat 32 a ∧ a < k + 2 ^ 32 ∧ k < a + 2 ^ 32) ↔
      a = positionFrom x k q ∨ a + 2 ^ 32 = positionFrom x k q ∧ k < a + 2 ^ 32 := by
  unfold positionFrom
  generalize hj : (q - (x + 1 + BitVec.ofNat 32 k)).toNat = j
  have hq : q = x + 1 + BitVec.ofNat 32 (k + j) := by
    rw [BitVec.ofNat_add, ← hj, BitVec.ofNat_toNat, BitVec.setWidth_eq]
    generalize BitVec.ofNat 32 k = k'
    bv_omega
  have hlt : j < 2 ^ 32 := hj ▸ BitVec.isLt _
  have hmod : q = x + 1 + BitVec.ofNat 32 a ↔ a % 2 ^ 32 = (k + j) % 2 ^ 32 := by
    rw [hq, add_right_inj, ← BitVec.toNat_inj, BitVec.toNat_ofNat, BitVec.toNat_ofNat]
    exact eq_comm
  rw [hmod]
  omega

instance (C : List Byte) (x : U32) (log : List Event) (p : Packet) : Decidable (Carries C x log p) :=
  decidable_of_iff
    (p.payload ≠ [] →
      Slice C (positionFrom x (acceptedBytes log).length p.getSequenceNumber) p.payload ∨
      2 ^ 32 ≤ positionFrom x (acceptedBytes log).length p.getSequenceNumber ∧
      (acceptedBytes log).length < positionFrom x (acceptedBytes log).length p.getSequenceNumber ∧
      Slice C (positionFrom x (acceptedBytes log).length p.getSequenceNumber - 2 ^ 32) p.payload)
    (by
      refine forall_congr' fun _ => ?_
      constructor
      · rintro (h | ⟨h1, h2, h⟩)
        · obtain ⟨h3, h4, h5⟩ := (position_iff x _ _ _).mpr (.inl rfl)
          exact ⟨_, h3, h4, h5, h⟩
        · obtain ⟨h3, h4, h5⟩ := (position_iff x _ _ _).mpr (.inr ⟨Nat.sub_add_cancel h1, by omega⟩)
          exact ⟨_, h3, h4, h5, h⟩
      · rintro ⟨a, h1, h2, h3, h⟩
        rcases (position_iff x _ _ a).mp ⟨h1, h2, h3⟩ with ha | ⟨ha, hk⟩
        · exact .inl (ha ▸ h)
        · exact .inr ⟨by omega, by omega, by rw [← ha, Nat.add_sub_cancel]; exact h⟩)

instance (C : List Byte) (x : U32) (s : St) (op : Op) : Decidable (Carried C x s op) :=
  inferInstanceAs (Decidable (NoNewConnection s op ∧ ∀ p ∈ op.fromClient, Carries C x s.log p))

theorem upload_in_order_three_bytes :
    Ends (· ≠ .receiveBuffer) (fun s' =>
        handedBytes s'.log <+: [97, 98, 99] ∧
        s'.data.receiveUser - s'.data.receiveSequence ≤
          s'.data.receiveNext - s'.data.receiveSequence ∧
        ∃ n, acceptedBytes s'.log = handedBytes s'.log ++
          s'.data.receiveBuffer.read (s'.data.receiveUser - s'.data.receiveSequence).toNat n)
      (runM step uploadStart (uploadOps 3)) :=
  upload_in_order (⟨rfl, rfl, rfl, by decide⟩ : Opens unused uploadSyn (taking 0) uploadStart)
    (by decide) (by decide)

/-- The server socket takes two of three bytes, the trim moves `receiveSequence` behind the third,
and the next send reads before the buffer. -/
theorem upload_not_in_order :
    ¬ ∀ (C : List Byte) (s s₀ : St) (p : Incoming) (i : ClientInput) (ops : List Op),
      Opens s p i s₀ → AlongM step (Carried C p.val.getSequenceNumber) s₀ ops →
      Ends (· ≠ .receiveBuffer) (fun s' =>
          handedBytes s'.log <+: C ∧
          s'.data.receiveUser - s'.data.receiveSequence ≤
            s'.data.receiveNext - s'.data.receiveSequence ∧
          ∃ n, acceptedBytes s'.log = handedBytes s'.log ++
            s'.data.receiveBuffer.read (s'.data.receiveUser - s'.data.receiveSequence).toNat n)
        (runM step s₀ ops) := by
  intro h
  have h1 := h [97, 98, 99] unused uploadStart uploadSyn (taking 0)
    (uploadOps 2 ++ [.flushDataToServer uploadSyn (.accepted 1)]) ⟨rfl, rfl, rfl, by decide⟩
    (by decide)
  have h2 : Fault.receiveBuffer ≠ Fault.receiveBuffer := h1
  exact h2 rfl

end TunServer.Session
