import TunServer.Session.Integrity

/-!
# The client's FIN reaches the server

The FIN takes a slot of its own behind the last byte.  The server is told by `shutdownWrite` when the
slot is consumed.

* `Told`                 the invariant: the shutdowns in the log count the consumed slots, and a slot
                         is consumed once nothing is pending before it;
* `FinFindsBytes`        a FIN without payload finds bytes that were not handed over yet, or
                         completes both streams;
* `fin_reaches_server`   then the server is told exactly once.
-/

set_option linter.unusedVariables false

namespace TunServer.Session

/-- how often the server was told that the client's stream has ended -/
def shutdowns (log : List Event) : Nat := log.countP Event.isShutdown

theorem shutdowns_append (l l' : List Event) : shutdowns (l ++ l') = shutdowns l + shutdowns l' :=
  List.countP_append

theorem shutdowns_adds {l l' : List Event} (h : Adds OffUpload l l') : shutdowns l' = shutdowns l := by
  obtain ⟨es, he, hes⟩ := h
  rw [he, shutdowns_append]
  have h1 : shutdowns es = 0 := by
    unfold shutdowns
    rw [List.countP_eq_zero]
    intro e hmem
    simp [(hes e hmem).2.2]
  rw [h1, Nat.add_zero]

/-- the slot of the FIN is consumed -/
def finConsumed (d : Data) : Bool := d.clientReadFinished ∧ d.receiveUser = d.receiveNext

/-- As long as the session is open, the server was told once the slot is consumed, and the slot is
consumed once nothing is pending. -/
structure Told (x : U32) (s : St) : Prop where
  kept : Kept x s
  count : s.data.state ≠ .CLOSED → shutdowns s.log = (finConsumed s.data).toNat
  served : s.data.state ≠ .CLOSED → s.data.clientReadFinished = true → pending s.log = [] →
    s.data.receiveUser = s.data.receiveNext

section
variable {x : U32} {s s' : St}

theorem Told.aside (h : Told x s) (hk : AsideStep s s') : Told x s' := by
  have hopen : s'.data.state ≠ .CLOSED → s.data.state ≠ .CLOSED := fun hn hc => hn (hk.up.state hc)
  refine ⟨h.kept.aside hk, ?_, ?_⟩
  · intro hn
    unfold finConsumed
    rw [shutdowns_adds hk.log, hk.up.clientReadFinished, hk.up.receiveUser, hk.up.receiveNext]
    exact h.count (hopen hn)
  · intro hn
    rw [hk.pending, hk.up.clientReadFinished, hk.up.receiveUser, hk.up.receiveNext]
    exact h.served (hopen hn)

/-- nothing matters any more once the session is closed -/
theorem Told.closed (hk : Kept x s) (hc : s.data.state = .CLOSED) : Told x s :=
  ⟨hk, fun hn => absurd hc hn, fun hn => absurd hc hn⟩

/-- while the client's stream goes on there is no slot to consume -/
theorem Told.open (h : Told x s) (hk : Kept x s') (hopen : s.data.state ≠ .CLOSED)
    (hf : s.data.clientReadFinished = false) (hf' : s'.data.clientReadFinished = false)
    (hcount : shutdowns s'.log = shutdowns s.log) : Told x s' := by
  refine ⟨hk, fun _ => ?_, fun _ hc => absurd (hf'.symm.trans hc) (by decide)⟩
  rw [hcount, h.count hopen]
  simp [finConsumed, hf, hf']

/-- consuming the slot tells the server, or closes the session -/
theorem told_finishUpStream (hk : Kept x s.finishUpStream) (hf : s.data.clientReadFinished = true)
    (hU : s.data.receiveUser = s.data.receiveNext - 1) (hcount : shutdowns s.log = 0) :
    Told x s.finishUpStream := by
  have hnext : s.data.receiveUser + 1 = s.data.receiveNext := by
    rw [hU]
    bv_omega
  revert hk
  unfold St.finishUpStream
  dsimp only
  split_ifs
  · exact fun hk => .closed hk (closeSession_aside _).2
  · refine fun hk => ⟨hk, fun _ => ?_, fun _ _ _ => hnext⟩
    show shutdowns (s.log ++ [Event.shutdownWrite]) =
      (finConsumed { s.data with receiveUser := s.data.receiveUser + 1 }).toNat
    have h1 : finConsumed { s.data with receiveUser := s.data.receiveUser + 1 } = true :=
      decide_eq_true ⟨hf, hnext⟩
    rw [shutdowns_append, hcount, h1]
    rfl

/-- bytes that are taken do not reach the slot of the FIN -/
theorem not_consumed_taken {d : Data} {n : Nat} (hf : d.clientReadFinished = true)
    (hnot : d.receiveUser ≠ d.receiveNext) (hn : n ≤ (St.offered d).toNat) :
    d.receiveUser + BitVec.ofNat 32 n ≠ d.receiveNext := by
  intro he
  refine hnot ?_
  unfold St.offered at hn
  rw [hf, b32_true] at hn
  generalize d.receiveUser = U at *
  generalize d.receiveNext = N at *
  bv_omega

theorem trimNow_log (he : s._trimReceiveBuffer = .ok s') : s'.log = s.log := by
  unfold St._trimReceiveBuffer at he
  dsimp only at he
  split_ifs at he
  · cases he
    rfl
  · obtain ⟨b, _, he⟩ := bind_ok.mp he
    cases he
    rfl

theorem trimReceiveBuffer_log (he : s.trimReceiveBuffer = .ok s') : s'.log = s.log := by
  unfold St.trimReceiveBuffer at he
  split_ifs at he
  · cases he
    rfl
  · exact trimNow_log he

/-- what follows a send of `n` of the offered bytes -/
theorem Told.finishSend (h : Told x s) {n : Nat} (hn : n ≤ (St.offered s.data).toNat)
    (hopen : s.data.state ≠ .CLOSED) {bytes : List Byte} (hbytes : bytes.length = n)
    (hnot : ¬ finConsumed s.data = true) (he : (s.taken bytes).finishSend = .ok s')
    (hk : Kept x s') : Told x s' := by
  have hzero : shutdowns s.log = 0 := by
    rw [h.count hopen, Bool.not_eq_true] at *
    rw [hnot]
    rfl
  have hlog : shutdowns (s.taken bytes).log = 0 := by
    show shutdowns (s.log ++ [Event.handed bytes]) = 0
    rw [shutdowns_append, hzero]
    rfl
  unfold St.finishSend at he
  by_cases hfin : (s.taken bytes).data.clientReadFinished = true ∧
      (s.taken bytes).data.receiveUser = (s.taken bytes).data.receiveNext - 1
  · rw [if_pos hfin] at he
    cases he
    exact told_finishUpStream hk hfin.1 hfin.2 hlog
  · rw [if_neg hfin] at he
    by_cases hf : s.data.clientReadFinished = true
    · -- bytes are left, so the slot is not reached
      rw [if_neg (by rw [not_not]; exact hf)] at he
      cases he
      have hne : s.data.receiveUser ≠ s.data.receiveNext := fun hc => hnot (decide_eq_true ⟨hf, hc⟩)
      have hne' : (s.taken bytes).data.receiveUser ≠ (s.taken bytes).data.receiveNext := by
        show s.data.receiveUser + BitVec.ofNat 32 bytes.length ≠ s.data.receiveNext
        rw [hbytes]
        exact not_consumed_taken hf hne hn
      refine ⟨hk, fun _ => ?_, fun _ _ hnil => ?_⟩
      · have h1 : finConsumed (s.taken bytes).data = false := decide_eq_false fun hc => hne' hc.2
        rw [hlog, h1]
        rfl
      · rcases hk.1.dist with hd | ⟨_, _, hd⟩
        · refine absurd ⟨hf, ?_⟩ hfin
          rw [hnil, show (s.taken bytes).data.clientReadFinished = true from hf, b32_true] at hd
          simp only [List.length_nil] at hd
          bv_omega
        · exact hd
    · rw [if_pos (show ¬ (s.taken bytes).data.clientReadFinished = true from hf)] at he
      rw [Bool.not_eq_true] at hf
      have hframe := (trimReceiveBuffer_ends _).ok he
      refine h.open hk hopen hf (hframe.clientReadFinished.trans hf) ?_
      rw [trimReceiveBuffer_log he, hlog, hzero]

theorem Told.flush (h : Told x s) {r : SendResult} (he : s.flushDataToServer r = .ok s') :
    Told x s' := by
  have hk := h.kept.flush he
  unfold St.flushDataToServer at he
  split_ifs at he with hs hup hfin hoff
  · cases he; exact h
  · cases he; exact h
  · exact (not_fin_of_incomplete (by simpa using hup) hfin).elim
  · rw [not_not] at hs
    unfold St.sendToServer at he
    dsimp only at he
    split_ifs at he with hin
    cases r with
    | wouldBlock => cases he; exact h
    | error => cases he; exact .closed hk (closeSession_aside _).2
    | accepted n =>
      have hlen : (St.offeredBytes s.data).length = (St.offered s.data).toNat := Mem.read_length _ _ _
      have hle : ((St.offeredBytes s.data).take n).length ≤ (St.offered s.data).toNat := by
        rw [List.length_take, hlen]
        exact min_le_right _ _
      refine h.finishSend hle (by rw [hs]; decide) rfl ?_ he hk
      · -- behind a consumed slot -1 bytes are offered, which no send reads
        intro hdone
        obtain ⟨hf, hU⟩ := of_decide_eq_true hdone
        have hoffered : (St.offered s.data).toInt = -1 := by
          unfold St.offered
          rw [hU, hf, b32_true, BitVec.sub_self]
          rfl
        rw [hoffered] at hin
        unfold InRange at hin
        omega
  · cases he; exact h

/-- Taking in a payload leaves the slot alone, if a FIN that is taken comes behind pending bytes. -/
theorem Told.copyPayload (h : Told x s) (hopen : s.data.state ≠ .CLOSED)
    (hf : s.data.clientReadFinished = false) (he : s.copyPayload = .ok s')
    (hfin : s'.data.clientReadFinished = true → pending s'.log ≠ []) : Told x s' := by
  have hk := h.kept.copyPayload hf he
  obtain ⟨_, hlog, _, push, fin, hd, _⟩ := copyPayload_eq he
  have hcount : shutdowns s'.log = shutdowns s.log := by
    rw [hlog, shutdowns_append]
    rfl
  have hzero : shutdowns s.log = 0 := by
    rw [h.count hopen]
    simp [finConsumed, hf]
  refine ⟨hk, fun hn => ?_, fun _ hf' hnil => absurd hnil (hfin hf')⟩
  have hnot : finConsumed s'.data = false := by
    refine decide_eq_false ?_
    rintro ⟨hf', hU⟩
    -- few bytes are pending, so the marks differ
    have hfew : (pending s'.log).length ≤ 32769 := by
      rcases hk.2 with h1 | h1 | h1
      · have h2 := h1.few
        unfold RECEIVE_BUFFER_SIZE at h2
        omega
      · exact h1.few'
      · exact absurd h1 hn
    rcases hk.1.dist with h1 | ⟨_, h1, _⟩
    · rw [hU, hf', b32_true, BitVec.sub_self] at h1
      generalize (pending s'.log).length = n at h1 hfew
      bv_omega
    · exact hfin hf' h1
  rw [hcount, hzero, hnot]
  rfl

theorem Told.trimNow (h : Told x s) (hopen : s.data.state ≠ .CLOSED)
    (hf : s.data.clientReadFinished = false) (he : s._trimReceiveBuffer = .ok s') : Told x s' := by
  have hframe := (trimNow_ends s).ok he
  exact h.open (h.kept.trim hf he) hopen hf (hframe.clientReadFinished.trans hf) (by rw [trimNow_log he])

theorem Told.makeRoom (h : Told x s) (hf : s.data.clientReadFinished = false) {len : U32}
    {r : SendResult} (he : s.makeRoom len r = .ok s') : Told x s' := by
  have hk := h.kept.makeRoom hf he
  by_cases hc : s'.data.state = .CLOSED
  · exact .closed hk hc
  · unfold St.makeRoom at he
    split_ifs at he
    · obtain ⟨t, ht, he⟩ := bind_ok.mp he
      have hft := (flushDataToServer_frame ht).clientReadFinished.trans hf
      have hopen : t.data.state ≠ .CLOSED := by
        intro hct
        refine hc ?_
        rcases ((trimNow_ends t).ok he).state with h1 | h1
        · exact h1.trans hct
        · exact h1
      exact (h.flush ht).trimNow hopen hft he
    · cases he
      exact h

/-- a FIN that is taken comes behind pending bytes: those of its payload, or earlier ones -/
theorem pending_before_fin {t : St} (h : Kept x t) (hf : t.data.clientReadFinished = false)
    (hbare : t.packet.isFin = true → t.packet.payload = [] → t.data.receiveUser ≠ t.data.receiveNext)
    (he : t.copyPayload = .ok s') (hf' : s'.data.clientReadFinished = true) : pending s'.log ≠ [] := by
  obtain ⟨_, hlog, _, push, fin, hd, hfin⟩ := copyPayload_eq he
  have htake : takesFin t.packet (copied t).length = true := by
    rw [hd] at hf'
    change (if fin then true else t.data.clientReadFinished) = true at hf'
    rw [hf] at hf'
    cases fin with
    | true => exact hfin.symm
    | false => cases hf'
  obtain ⟨hisfin, hlen⟩ := of_decide_eq_true htake
  rw [hlog, pending_accepted h.1]
  intro hnil
  obtain ⟨h1, h2⟩ := List.append_eq_nil_iff.mp hnil
  rw [h2] at hlen
  have hpayload : t.packet.payload = [] := by
    have h3 := t.packet.getDataLength_toNat
    rw [← hlen] at h3
    exact List.eq_nil_of_length_eq_zero h3.symm
  have hdist := h.1.dist_open hf
  rw [h1] at hdist
  refine hbare hisfin hpayload ?_
  simp only [List.length_nil] at hdist
  bv_omega

theorem Told.acceptPayload (h : Told x s) (hf : s.data.clientReadFinished = false)
    (hbare : s.packet.isFin = true → s.packet.payload = [] → s.data.receiveUser ≠ s.data.receiveNext)
    {i : ClientInput} (he : s.acceptPayload i = .ok s') : Told x s' := by
  have hk := h.kept.acceptPayload hf he
  obtain ⟨t, ht, he⟩ := bind_ok.mp he
  obtain ⟨u, hu, he⟩ := bind_ok.mp he
  have hframe := makeRoom_frame ht
  have hft := hframe.clientReadFinished.trans hf
  have htold := h.makeRoom hf ht
  obtain ⟨_, _, _, push, fin, hd, _⟩ := copyPayload_eq hu
  have hstate : u.data.state = t.data.state := by rw [hd]; rfl
  by_cases hc : t.data.state = .CLOSED
  · -- the send that was to make room failed
    have hu' : u.flushDataToServer i.send = .ok u := by
      unfold St.flushDataToServer
      rw [if_pos (by rw [hstate, hc]; decide)]
    cases hu'.symm.trans he
    exact .closed hk (hstate.trans hc)
  · have hpacket := hframe.packet.resolve_right hc
    refine (htold.copyPayload hc hft hu (pending_before_fin htold.kept hft ?_ hu)).flush he
    intro hisfin hpayload
    rw [hpacket] at hisfin hpayload
    -- nothing had to make room for an empty payload
    have hsame : s.makeRoom s.packet.getDataLength i.firstSend = .ok s := by
      refine if_neg ?_
      rw [BitVec.lt_def, Packet.getDataLength_toNat, hpayload]
      exact Nat.not_lt_zero _
    cases hsame.symm.trans ht
    exact hbare hisfin hpayload

/-- A FIN without payload finds bytes that were not handed over yet, or acknowledges the whole
download, so that the session closes. -/
def FinFindsBytes (s : St) (op : Op) : Prop :=
  ∀ p ∈ op.fromClient, takesPayload s.data p = true → p.isFin = true → p.payload = [] →
    s.data.receiveUser ≠ s.data.receiveNext ∨
      (St.acceptAck { s with packet := p }).data.isDownStreamComplete = true

instance (s : St) (op : Op) : Decidable (FinFindsBytes s op) :=
  inferInstanceAs (Decidable (∀ p ∈ op.fromClient, takesPayload s.data p = true → p.isFin = true →
    p.payload = [] → s.data.receiveUser ≠ s.data.receiveNext ∨
      (St.acceptAck { s with packet := p }).data.isDownStreamComplete = true))

/-- A FIN without payload that completes both streams closes the session. -/
theorem bare_fin_closes {i : ClientInput} (he : s.acceptPayload i = .ok s')
    (hisfin : s.packet.isFin = true)
    (hpayload : s.packet.payload = []) (hU : s.data.receiveUser = s.data.receiveNext)
    (hdown : s.data.isDownStreamComplete = true) :
    (s'.finishAck i).data.state = .CLOSED := by
  obtain ⟨t, ht, hrest⟩ := bind_ok.mp he
  obtain ⟨u, hu, hflushed⟩ := bind_ok.mp hrest
  have hsame : s.makeRoom s.packet.getDataLength i.firstSend = .ok s := by
    refine if_neg ?_
    rw [BitVec.lt_def, Packet.getDataLength_toNat, hpayload]
    exact Nat.not_lt_zero _
  cases hsame.symm.trans ht
  obtain ⟨_, _, _, push, fin, hd, hfin⟩ := copyPayload_eq hu
  have hnil : copied s = [] := by
    unfold copied Packet.copiedData
    rw [hpayload, List.take_nil]
  have htake : fin = true := by
    rw [hfin, hnil]
    refine decide_eq_true ⟨hisfin, ?_⟩
    unfold Packet.getDataLength
    rw [hpayload]
  have hup : u.data.isUpStreamComplete = true := by
    rw [hd, htake, hnil]
    unfold copiedTo Data.isUpStreamComplete
    refine decide_eq_true ⟨rfl, ?_⟩
    show s.data.receiveNext + BitVec.ofNat 32 0 + b32 true - 1 ≤ s.data.receiveUser
    rw [hU, b32_true]
    bv_omega
  have hflush : u.flushDataToServer i.send = .ok u := by
    unfold St.flushDataToServer
    split_ifs <;> rfl
  cases hflush.symm.trans hflushed
  have hdown' : s'.data.isDownStreamComplete = true := by
    rw [hd]
    exact hdown
  unfold St.finishAck
  split_ifs with h1 h2
  · exact h1
  · exact (closeSession_aside _).2
  · exact absurd ⟨hup, hdown'⟩ h2

theorem Told.client (h : Told x s) {i : ClientInput}
    (hnew : s.data.state = .CLOSED → s.packet.isSyn = false)
    (hbare : takesPayload s.data s.packet = true → s.packet.isFin = true → s.packet.payload = [] →
      s.data.receiveUser ≠ s.data.receiveNext ∨ s.acceptAck.data.isDownStreamComplete = true)
    (he : s.receiveFromClient i = .ok s') : Told x s' := by
  have hs := receiveFromClient_step s i
  rw [he] at hs
  generalize hr : (Except.ok s' : Except Fault St) = r at hs
  cases hs with
  | same => cases hr; exact h
  | reset => cases hr; exact h.aside (sendReset_aside s)
  | ack => cases hr; exact h.aside (sendAck_aside s)
  | synAck hs =>
    cases hr
    refine h.aside (sendSynAck_aside s ?_)
    rcases hs with hs | hs <;> rw [hs] <;> decide
  | opened hs hsyn => exact absurd ((hnew hs).symm.trans hsyn) (by decide)
  | closed => cases hr; exact h.aside (closeSession_aside s).1
  | established hs => cases hr; exact h.aside (establish_aside s i (by rw [hs]; decide))
  | accepted hs hsyn hrst hack hseq =>
    have he := hr.symm
    have ha := h.aside (acceptAck_aside s)
    unfold St.acceptSegment at he
    dsimp only at he
    split_ifs at he with hf
    · cases he
      exact ha.aside (finishAck_aside _ i)
    · obtain ⟨u, hu, he⟩ := bind_ok.mp he
      cases he
      rw [Bool.not_eq_true] at hf
      have htakes : takesPayload s.data s.packet = true := by
        have hf0 : s.data.clientReadFinished = false := hf
        simp [takesPayload, hs, hsyn, hrst, hack, hseq, hf0]
      have hkept := (ha.kept.acceptPayload hf hu).aside (finishAck_aside u i)
      by_cases hdone : s.packet.isFin = true ∧ s.packet.payload = [] ∧
          s.data.receiveUser = s.data.receiveNext
      · have hdown := (hbare htakes hdone.1 hdone.2.1).resolve_left (not_not.mpr hdone.2.2)
        exact .closed hkept (bare_fin_closes hu hdone.1 hdone.2.1 hdone.2.2 hdown)
      · refine (ha.acceptPayload hf ?_ hu).aside (finishAck_aside u i)
        exact fun h1 h2 h3 => hdone ⟨h1, h2, h3⟩

/-- **What one call preserves.** -/
theorem Told.step {op : Op} (h : Told x s) (hnew : NoNewConnection s op) (hbare : FinFindsBytes s op)
    (he : Session.step s op = .ok s') : Told x s' := by
  cases op with
  | receiveFromClient p i =>
    let t : St := { s with packet := p.val }
    have ht : Told x t := ⟨h.kept, h.count, h.served⟩
    exact ht.client (hnew p.val rfl) (hbare p.val rfl) he
  | receiveFromServer p i =>
    let t : St := { s with packet := p }
    have ht : Told x t := ⟨h.kept, h.count, h.served⟩
    obtain ⟨r, hr, he⟩ := bind_ok.mp he
    cases he
    exact ht.aside ((receiveFromServer_aside t i).ok hr)
  | flushDataToServer p r =>
    let t : St := { s with packet := p }
    have ht : Told x t := ⟨h.kept, h.count, h.served⟩
    exact ht.flush he
  | flushDataToClient p now turns =>
    let t : St := { s with packet := p }
    have ht : Told x t := ⟨h.kept, h.count, h.served⟩
    exact ht.aside ((flushDataToClient_aside t now turns).ok he)

end

/-- what opens a session writes at most an answer -/
theorem opening_log {s s₀ : St} {i : ClientInput} (hclosed : s.data.state = .CLOSED)
    (he : s.receiveFromClient i = .ok s₀) : Adds OffUpload s.log s₀.log := by
  have hs := receiveFromClient_step s i
  rw [he] at hs
  generalize hr : (Except.ok s₀ : Except Fault St) = r at hs
  cases hs with
  | same => cases hr; exact Adds.refl _ _
  | reset => cases hr; exact (sendReset_aside s).log
  | ack => cases hr; exact (sendAck_aside s).log
  | synAck hs => rw [hclosed] at hs; rcases hs with hs | hs <;> cases hs
  | opened hs hsyn hack =>
    cases hr
    unfold St.openSession
    dsimp only
    split_ifs
    · exact (sendReset_aside s).log
    · exact Adds.one _ ⟨rfl, rfl, rfl⟩
    · exact Adds.refl _ _
  | closed => cases hr; exact (closeSession_aside s).1.log
  | established hs => rw [hclosed] at hs; cases hs
  | accepted hs => rw [hclosed] at hs; cases hs

theorem opens_log {s s₀ : St} {p : Incoming} {i : ClientInput} (h : Opens s p i s₀) :
    Adds OffUpload s.log s₀.log := by
  let t : St := { s with packet := p.val }
  have hclosed : t.data.state = .CLOSED := h.closed
  have he : t.receiveFromClient i = .ok s₀ := h.call
  have hl : Adds OffUpload t.log s₀.log := opening_log hclosed he
  exact hl

theorem told_opened {s s₀ : St} {p : Incoming} {i : ClientInput} (h : Opens s p i s₀) :
    Told p.val.getSequenceNumber s₀ := by
  have hin := inOrder_opened h
  obtain ⟨_, _, hd⟩ := opens_eq h
  have hf : s₀.data.clientReadFinished = false := by
    rw [hd]
    rfl
  refine ⟨hin.kept, fun _ => ?_, fun _ hc => absurd (hf.symm.trans hc) (by decide)⟩
  rw [shutdowns_adds (opens_log h), h.log]
  simp [finConsumed, hf, shutdowns]

/-- **The client's FIN reaches the server.**  If every FIN without payload finds bytes that were not
handed over yet, or completes both streams, then in every state that a connection reaches, once the FIN was
accepted and all bytes were handed over, the server was told exactly once, or the session is closed. -/
theorem fin_reaches_server {s s₀ : St} {p : Incoming} {i : ClientInput} {ops : List Op}
    (hopen : Opens s p i s₀)
    (hops : AlongM step (fun s op => NoNewConnection s op ∧ FinFindsBytes s op) s₀ ops) :
    Ends (fun _ => True) (fun s' => s'.data.clientReadFinished = true →
      handedBytes s'.log = acceptedBytes s'.log →
      shutdowns s'.log = 1 ∨ s'.data.state = .CLOSED) (runM step s₀ ops) := by
  have hinv : Ends (fun _ => True) (Told p.val.getSequenceNumber) (runM step s₀ ops) := by
    refine runM_ends _ (fun t op ht hok => ?_) (told_opened hopen) hops
    cases hs : step t op with
    | ok t' => exact ht.step hok.1 hok.2 hs
    | error e => trivial
  refine hinv.mono fun t ht hf hall => ?_
  by_cases hc : t.data.state = .CLOSED
  · exact .inr hc
  · refine .inl ?_
    have hnil : pending t.log = [] := by
      unfold pending
      rw [hall, List.drop_length]
    have hdone : finConsumed t.data = true := decide_eq_true ⟨hf, ht.served hc hf hnil⟩
    rw [ht.count hc, hdone]
    rfl

/-- the handshake, two bytes, and a FIN behind the second of them -/
def finOps : List Op :=
  [.receiveFromClient (ackPacket clientA serverA false 101 32) (taking 0),
   .receiveFromClient (dataPacket clientA serverA 101 32 [97, 98] (by decide)) (taking 1),
   .receiveFromClient (ackPacket clientA serverA true 103 32) (taking 0)]

theorem fin_reaches_server_partial_sends :
    Ends (fun _ => True) (fun s' => s'.data.clientReadFinished = true →
      handedBytes s'.log = acceptedBytes s'.log →
      shutdowns s'.log = 1 ∨ s'.data.state = .CLOSED)
      (runM step uploadStart (finOps ++ [.flushDataToServer uploadSyn (.accepted 1)])) :=
  fin_reaches_server (⟨rfl, rfl, rfl, by decide⟩ : Opens unused uploadSyn (taking 0) uploadStart)
    (by decide)

/-- The client ends its stream without having sent a byte: nobody tells the server. -/
theorem bare_fin_lost :
    ¬ ∀ (s s₀ : St) (p : Incoming) (i : ClientInput) (ops : List Op),
      Opens s p i s₀ → AlongM step NoNewConnection s₀ ops →
      Ends (fun _ => True) (fun s' => s'.data.clientReadFinished = true →
        handedBytes s'.log = acceptedBytes s'.log →
        shutdowns s'.log = 1 ∨ s'.data.state = .CLOSED) (runM step s₀ ops) := by
  intro h
  have h1 := h unused uploadStart uploadSyn (taking 0)
    [.receiveFromClient (ackPacket clientA serverA false 101 32) (taking 0),
     .receiveFromClient (ackPacket clientA serverA true 101 32) (taking 0)]
    ⟨rfl, rfl, rfl, by decide⟩ (by decide)
  revert h1
  decide

end TunServer.Session
