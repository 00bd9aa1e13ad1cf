import TunServer.Session.Closing
import TunServer.Session.Tiling

/-!
# The options of a SYN

The MSS and the window shift that a client asks for are taken as they come: the shift goes into the
length of the send buffer, the MSS is the step of the loop of `sendDataStartingFrom`.

* `LengthExact`       the length is what it is meant to be, and positive, without an overflow;
* `LaterFlushesEnd`   no later call of `flushDataToClient` goes on for ever;
* `mss_step`          a call that opens no connection keeps the MSS, and a positive one ends the loops;
* `options_safe_iff`  for which options both hold.
-/

set_option linter.unusedVariables false

namespace TunServer.Session

/-! ## the length of the send buffer -/

/-- an `int` holds the number -/
def FitsInt (n : Int) : Prop := -2 ^ 31 ≤ n ∧ n < 2 ^ 31

/-- The length computed from the SYN is positive, and `SEND_WINDOW_SCALE * 65535 * 2^shift`; the product
does not overflow. -/
def LengthExact (p : Packet) : Prop :=
  FitsInt (sendBufferProduct p.windowShift) ∧ 0 < (sendBufferLength p.windowShift).toNat ∧
    (sendBufferLength p.windowShift).toNat =
      SEND_WINDOW_SCALE.toNat * 65535 * 2 ^ p.windowShift.toNat

/-- up to a shift of 15 the first factor is what it is meant to be -/
theorem sendBufferProduct_small {shift : U8} (h : shift.toNat ≤ 15) :
    sendBufferProduct shift = 2 * 65535 * 2 ^ shift.toNat := by
  unfold sendBufferProduct
  generalize shift.toNat = n at h ⊢
  interval_cases n <;> rfl

theorem sendBufferLength_small {shift : U8} (h : shift.toNat ≤ 14) :
    (sendBufferLength shift).toNat = 2 * 65535 * 2 ^ shift.toNat := by
  have hpow : 2 ^ shift.toNat ≤ 2 ^ 14 := Nat.pow_le_pow_right (by decide) h
  unfold sendBufferLength
  rw [sendBufferProduct_small (by omega)]
  have hcast : (2 * 65535 * 2 ^ shift.toNat : Int) = ((2 * 65535 * 2 ^ shift.toNat : Nat) : Int) := by
    push_cast
    rfl
  rw [hcast, BitVec.ofInt_natCast, BitVec.toNat_ofNat]
  exact Nat.mod_eq_of_lt (by omega)

/-- With a shift of 15 the product overflows, and from 16 on the length does not fit into 32 bits. -/
theorem lengthExact_iff (p : Packet) : LengthExact p ↔ p.windowShift.toNat ≤ 14 := by
  have hscale : SEND_WINDOW_SCALE.toNat = 2 := rfl
  constructor
  · rintro ⟨hfits, _, h⟩
    by_contra hlarge
    rcases Nat.lt_or_eq_of_le (Nat.not_le.mp hlarge) with hgt | heq
    · have hlt := (sendBufferLength p.windowShift).isLt
      have hpow : 2 ^ 16 ≤ 2 ^ p.windowShift.toNat := Nat.pow_le_pow_right (by decide) hgt
      rw [hscale] at h
      omega
    · have hproduct := sendBufferProduct_small heq.ge
      rw [← heq] at hproduct
      rw [hproduct] at hfits
      exact absurd hfits.2 (by decide)
  · intro h
    have hexact := sendBufferLength_small h
    have hproduct := sendBufferProduct_small (Nat.le_succ_of_le h)
    have hpos : 0 < 2 ^ p.windowShift.toNat := Nat.pow_pos (by decide)
    have hpow : 2 ^ p.windowShift.toNat ≤ 2 ^ 14 := Nat.pow_le_pow_right (by decide) h
    have hcast : ((2 ^ p.windowShift.toNat : Nat) : Int) = 2 ^ p.windowShift.toNat := Nat.cast_pow 2 _
    refine ⟨?_, ?_, ?_⟩
    · unfold FitsInt
      rw [hproduct, ← hcast]
      omega
    · rw [hexact]
      omega
    · rw [hexact, hscale]

/-! ## the loops of a flush -/

/-- the call returns, or leaves a buffer, after finitely many packets -/
def FlushEnds (s : St) (now : Int) : Prop :=
  ∃ n, ∀ turns, n ≤ turns → s.flushDataToClient now turns ≠ .error .endless

/-- every later call of `flushDataToClient`, also the one within `receiveFromServer`, ends -/
def LaterFlushesEnd (s₀ : St) : Prop :=
  ∀ (ops : List Op) (t : St), AlongM step NoNewConnection s₀ ops → runM step s₀ ops = .ok t →
    ∀ op, ∀ e ∈ flushEntry t op, FlushEnds e.1 e.2

/-- all numbers fit into 32 bits -/
theorem sendDataStartingFrom_ends {s : St} {seq : U32} {turns : Nat} (hmss : 1 ≤ s.data.mss)
    (hturns : 2 ^ 32 ≤ turns) : s.sendDataStartingFrom seq turns ≠ .error .endless := by
  have hW := s.data.sendNewDataSequence.isLt
  exact sendLoop_ends hmss (by show s.data.sendNewDataSequence.toNat ≤ _; omega)

theorem flushEnds_of_mss {s : St} (hmss : 1 ≤ s.data.mss) (now : Int) : FlushEnds s now := by
  -- what follows a run of the loop does not go on for ever
  have hafter {t : St} {seq : U32} {turns : Nat} (ht : 1 ≤ t.data.mss) (h : 2 ^ 32 ≤ turns) :
      (do
        let s ← t.sendDataStartingFrom seq turns
        return (s.sentAll now).finishFlush) ≠ .error .endless := by
    intro hc
    rcases bind_error.mp hc with h1 | ⟨u, _, h1⟩
    · exact sendDataStartingFrom_ends ht h h1
    · cases h1
  refine ⟨2 ^ 32, fun turns hturns => ?_⟩
  unfold St.flushDataToClient St.resend St.sendNewData
  dsimp only
  simp only [bind_assoc, pure_bind]
  split_ifs
  · exact fun h => by cases h
  · exact fun h => by cases h
  · exact fun h => by cases h
  · exact hafter (t := { s with data.retryCount := s.data.retryCount + 1 }) hmss hturns
  · exact hafter hmss hturns
  · exact hafter hmss hturns
  · exact fun h => by cases h

/-! ## what one call preserves -/

/-- what a call ends in that opens no connection -/
def KeepsMss (s : St) : Except Fault St → Prop :=
  Ends (fun _ => True) (fun t => t.data.mss = s.data.mss)

section
variable {s : St}

theorem acceptPayload_mss (s : St) (i : ClientInput) : KeepsMss s (s.acceptPayload i) := by
  have hany : ∀ e : Fault, e = .receiveBuffer → True := fun _ _ => trivial
  refine Ends.bind ((makeRoom_ends s s.packet.getDataLength i.firstSend).imp hany
    fun t ht => ht.mss) fun t ht => ?_
  have hcopy : KeepsMss s t.copyPayload := by
    cases hu : t.copyPayload with
    | ok u =>
      obtain ⟨_, _, _, push, fin, hd, _⟩ := copyPayload_eq hu
      show u.data.mss = s.data.mss
      rw [hd]
      exact ht
    | error e => trivial
  exact Ends.bind hcopy fun u hu =>
    (flushDataToServer_ends u i.send).imp hany fun v hv => hv.mss.trans hu

theorem finishAck_mss (s : St) (i : ClientInput) : (s.finishAck i).data.mss = s.data.mss := by
  unfold St.finishAck St.acknowledgeDelayed
  dsimp only
  split_ifs
  · rfl
  · exact (closeSession_frame s).mss
  · rfl
  · rfl
  · rfl

theorem acceptSegment_mss (s : St) (i : ClientInput) : KeepsMss s (s.acceptSegment i) := by
  unfold St.acceptSegment
  dsimp only
  split_ifs
  · exact finishAck_mss s.acceptAck i
  · exact Ends.bind (acceptPayload_mss s.acceptAck i) fun t ht => (finishAck_mss t i).trans ht

/-- all marks are one behind the handshake -/
theorem establish_data (s : St) (i : ClientInput) : ∃ rtt, 0 ≤ rtt ∧ (s.establish i).data =
    { s.data with
      sendSequence := s.packet.getAcknowledgmentNumber
      sendUnacknowledged := s.packet.getAcknowledgmentNumber
      sendNewDataSequence := s.packet.getAcknowledgmentNumber
      sendNext := s.packet.getAcknowledgmentNumber
      rtt := rtt
      lastTimeAcknowledgmentAccepted := i.now
      state := .ESTABLISHED } := by
  unfold St.establish
  dsimp only
  cases s.data.mSock <;> exact ⟨_, le_max_right _ _, rfl⟩

theorem receiveFromClient_mss (i : ClientInput)
    (hnew : s.data.state = .CLOSED → s.packet.isSyn = false) : KeepsMss s (s.receiveFromClient i) := by
  have hs := receiveFromClient_step s i
  generalize s.receiveFromClient i = r at hs ⊢
  cases hs with
  | same => rfl
  | reset =>
    show s.sendReset.data.mss = s.data.mss
    rw [sendReset_data]
  | ack => rfl
  | synAck => rfl
  | opened hs hsyn => exact absurd ((hnew hs).symm.trans hsyn) (by decide)
  | closed => exact (closeSession_frame s).mss
  | established =>
    obtain ⟨rtt, _, hd⟩ := establish_data s i
    show (s.establish i).data.mss = s.data.mss
    rw [hd]
  | accepted => exact acceptSegment_mss s i

/-- the MSS stays what it is in a flush -/
theorem flushDataToClient_mss {t : St} {now : Int} {turns : Nat}
    (he : s.flushDataToClient now turns = .ok t) : t.data.mss = s.data.mss := by
  have hfinish (u : St) : u.finishFlush.data.mss = u.data.mss := by
    unfold St.finishFlush
    split_ifs
    · exact (closeSession_frame u).mss
    · rfl
  have hafter {u : St} {seq : U32} (h : (do
      let s ← u.sendDataStartingFrom seq turns
      return (s.sentAll now).finishFlush) = .ok t) : t.data.mss = u.data.mss := by
    obtain ⟨v, hv, h1⟩ := bind_ok.mp h
    cases h1
    rw [hfinish]
    show v.data.mss = u.data.mss
    rw [sendDataStartingFrom_data hv]
  unfold St.flushDataToClient St.resend St.sendNewData at he
  dsimp only at he
  simp only [bind_assoc, pure_bind] at he
  split_ifs at he
  · cases he
    rfl
  · cases he
    rfl
  · cases he
    exact (closeSession_frame s).mss
  · exact hafter (u := { s with data.retryCount := s.data.retryCount + 1 }) he
  · exact hafter he
  · exact hafter he
  · cases he
    exact hfinish s

theorem trimSendBuffer_mss {t : St} (he : s.trimSendBuffer = .ok t) : t.data.mss = s.data.mss := by
  unfold St.trimSendBuffer at he
  dsimp only at he
  split_ifs at he
  · cases he
    rfl
  · obtain ⟨b, _, he⟩ := bind_ok.mp he
    cases he
    rfl

theorem readFromServer_mss {t : St} {i : ServerInput} (he : s.readFromServer i = .ok t) :
    t.data.mss = s.data.mss := by
  unfold St.readFromServer at he
  dsimp only at he
  split_ifs at he
  cases he
  unfold St.receivedFromServer
  dsimp only
  split_ifs <;> rfl

theorem receiveFromServer_mss {i : ServerInput} {r : Bool × St} (he : s.receiveFromServer i = .ok r) :
    r.2.data.mss = s.data.mss := by
  unfold St.receiveFromServer at he
  split_ifs at he
  · cases he
    rfl
  · obtain ⟨t, ht, he⟩ := bind_ok.mp he
    split_ifs at he
    · cases he
      exact trimSendBuffer_mss ht
    · obtain ⟨u, hu, he⟩ := bind_ok.mp he
      obtain ⟨v, hv, he⟩ := bind_ok.mp he
      cases he
      exact (flushDataToClient_mss hv).trans ((readFromServer_mss hu).trans (trimSendBuffer_mss ht))

/-- **What one call preserves.** -/
theorem mss_step {op : Op} (hnew : NoNewConnection s op) : KeepsMss s (step s op) := by
  cases op with
  | receiveFromClient p i =>
    let t : St := { s with packet := p.val }
    exact receiveFromClient_mss (s := t) i (hnew p.val rfl)
  | receiveFromServer p i =>
    let t : St := { s with packet := p }
    show KeepsMss t (t.receiveFromServer i >>= _)
    cases hr : t.receiveFromServer i with
    | error e => trivial
    | ok r => exact receiveFromServer_mss hr
  | flushDataToServer p r =>
    exact (flushDataToServer_ends { s with packet := p } r).imp (fun _ _ => trivial)
      fun u hu => hu.mss
  | flushDataToClient p now turns =>
    let t : St := { s with packet := p }
    show KeepsMss t (t.flushDataToClient now turns)
    cases hu : t.flushDataToClient now turns with
    | error e => trivial
    | ok u => exact flushDataToClient_mss hu

theorem flushEntry_mss {op : Op} : ∀ e ∈ flushEntry s op, e.1.data.mss = s.data.mss := by
  intro e he
  cases op with
  | receiveFromClient p i => cases he
  | flushDataToServer p r => cases he
  | flushDataToClient p now turns =>
    cases he
    rfl
  | receiveFromServer p i =>
    let v : St := { s with packet := p }
    show e.1.data.mss = v.data.mss
    unfold flushEntry at he
    dsimp only at he
    split_ifs at he
    · cases he
    · cases ht : St.trimSendBuffer { s with packet := p } with
      | error f =>
        rw [ht] at he
        cases he
      | ok t =>
        rw [ht] at he
        dsimp only at he
        split_ifs at he
        · cases he
        · cases hu : t.readFromServer i with
          | error f =>
            rw [hu] at he
            cases he
          | ok u =>
            rw [hu] at he
            cases he
            exact (readFromServer_mss hu).trans (trimSendBuffer_mss (s := v) ht)

/-- **With a positive MSS every later flush ends.** -/
theorem laterFlushesEnd_of (h : 1 ≤ s.data.mss) : LaterFlushesEnd s := by
  intro ops t hops ht op e he
  have hinv := runM_ends (fun t => t.data.mss = s.data.mss)
    (fun t op hmss hop => (mss_step hop).mono fun u hu => hu.trans hmss) rfl hops
  refine flushEnds_of_mss ?_ e.2
  rw [flushEntry_mss e he, hinv.ok ht]
  exact h

end

/-! ## an MSS of 0 -/

/-- segments without bytes go on for ever -/
theorem sendLoop_endless {s : St} {seq : U32} (hmss : s.data.mss = 0)
    (hopen : s.data.serverReadFinished = false) (hseq : seq < s.data.sendNewDataSequence)
    (turns : Nat) : St.sendLoop turns seq s = .error .endless := by
  induction turns generalizing s with
  | zero =>
    unfold St.sendLoop
    exact if_pos hseq
  | succ turns ih =>
    have hlen : segmentLength s.data seq = 0 := by
      have hle := segmentLength_le_mss s.data seq
      rw [hmss] at hle
      exact BitVec.eq_of_toNat_eq (Nat.le_zero.mp hle)
    have hend : endsStream s.data seq = false := decide_eq_false fun hc => by
      rw [hopen] at hc
      exact Bool.false_ne_true hc.1
    have hnext : nextSequence s.data seq = seq := by
      unfold nextSequence
      rw [hlen, hend, add_b32_false]
      exact BitVec.add_zero seq
    have hturn : s.sendSegment seq = .ok (seq, s.writePacket (segmentAt s seq)) := by
      rw [sendSegment_eq, hnext, hlen]
      exact if_pos (.inl rfl)
    unfold St.sendLoop
    rw [if_pos hseq, hturn]
    exact ih hmss hopen hseq

/-- new data is due, and the segments have no bytes -/
theorem not_flushEnds {s : St} {now : Int} (hs : s.data.state = .ESTABLISHED)
    (hmss : s.data.mss = 0) (hopen : s.data.serverReadFinished = false)
    (hseq : s.data.sendNext < s.data.sendNewDataSequence)
    (hresend : St.resendDue s.data now = false) : ¬ FlushEnds s now := by
  rintro ⟨n, hn⟩
  refine hn n (le_refl n) ?_
  have hdown : s.data.isDownStreamComplete = false := decide_eq_false fun hc => by
    rw [hopen] at hc
    exact Bool.false_ne_true hc.1
  have hnew : St.newDataDue s.data = true := by
    refine decide_eq_true (.inr ?_)
    rw [hmss]
    rw [BitVec.lt_def] at hseq ⊢
    have hzero : ((0 : U16).setWidth 32).toNat = 0 := rfl
    rw [hzero, BitVec.toNat_sub_of_le (BitVec.le_def.mpr hseq.le)]
    omega
  have hloop : s.sendDataStartingFrom s.data.sendNext n = .error .endless := by
    let t : St := { s with packet := s.packet.setEnds s.data.destination s.data.source }
    have ht : t.data.mss = 0 := hmss
    exact sendLoop_endless ht hopen hseq n
  unfold St.flushDataToClient St.sendNewData
  rw [if_neg (not_not.mpr hs), hdown, hresend, hnew, hloop]
  rfl

/-! ## the connection -/

/-- the length of the send buffer behind a SYN -/
def lengthAfter (d : Data) (p : Packet) : U32 :=
  if d.sendLength < sendBufferLength p.windowShift then sendBufferLength p.windowShift
  else d.sendLength

/-- the packet `p` opens the closed session `s` -/
structure OpensTo (s : St) (p : Incoming) (i : ClientInput) (s₀ : St) : Prop where
  closed : s.data.state = .CLOSED
  call : step s (.receiveFromClient p i) = .ok s₀
  opened : s₀.data.state ≠ .CLOSED

/-- a SYN that opens a closed session finds its members as `opened` sets them -/
theorem OpensTo.data {s s₀ : St} {p : Incoming} {i : ClientInput} (h : OpensTo s p i s₀) :
    ∃ f, (f = .SYN_RECEIVED ∨ f = .SYN_ACK_SENT) ∧
      s₀.data = { St.opened s.data p.val i with state := f } := by
  let t : St := { s with packet := p.val }
  have hclosed : t.data.state = .CLOSED := h.closed
  exact (openSession_opens hclosed h.call h.opened).2.2

/-- the client repeats its SYN, and acknowledges the server's -/
def shakeHands (p : Packet) (i : ClientInput) : List Op :=
  [.receiveFromClient (synPacket p.source p.destination p.getSequenceNumber 0) i,
   .receiveFromClient (ackPacket p.source p.destination false (p.getSequenceNumber + 1)
    (generateSequenceNo i.rand + 1)) i]

/-- the SYN-ACK is sent again -/
theorem step_repeated {s : St} (hs : s.data.state = .SYN_RECEIVED ∨ s.data.state = .SYN_ACK_SENT)
    (source destination : SockAddr) {seq : U32} (hseq : seq = s.data.receiveNext - 1) (i : ClientInput) :
    ∃ t, step s (.receiveFromClient (synPacket source destination seq 0) i) = .ok t ∧
      t.data = { s.data with state := .SYN_ACK_SENT } := by
  let q := synPacket source destination seq 0
  have hanswer : St.receiveSyn { s with packet := q.val } i = St.sendSynAck { s with packet := q.val } := by
    unfold St.receiveSyn
    have hq : q.val.getSequenceNumber = s.data.receiveNext - 1 := hseq
    rcases hs with hs | hs
    · rw [hs]
      exact if_pos hq
    · rw [hs]
      exact if_pos hq
  exact ⟨_, congrArg Except.ok hanswer, rfl⟩

/-- the handshake ends -/
theorem step_established {s : St} (hs : s.data.state = .SYN_ACK_SENT) (source destination : SockAddr)
    {seq ack : U32} (hseq : seq = s.data.receiveNext) (hack : ack = s.data.sendUnacknowledged + 1)
    (i : ClientInput) : ∃ t rtt, 0 ≤ rtt ∧
      step s (.receiveFromClient (ackPacket source destination false seq ack) i) = .ok t ∧
      t.data = { s.data with
        sendSequence := ack
        sendUnacknowledged := ack
        sendNewDataSequence := ack
        sendNext := ack
        rtt := rtt
        lastTimeAcknowledgmentAccepted := i.now
        state := .ESTABLISHED } := by
  let q := ackPacket source destination false seq ack
  obtain ⟨rtt, hrtt, hd⟩ := establish_data { s with packet := q.val } i
  have hanswer : St.receiveAck { s with packet := q.val } i =
      .ok (St.establish { s with packet := q.val } i) := by
    have hq : q.val.getSequenceNumber = s.data.receiveNext := hseq
    have hq' : q.val.getAcknowledgmentNumber = s.data.sendUnacknowledged + 1 := hack
    unfold St.receiveAck
    rw [hs]
    dsimp only
    rw [if_pos hq, if_neg (not_not.mpr hq')]
  exact ⟨_, rtt, hrtt, hanswer, hd⟩

/-- a session behind its handshake, to which the server has sent nothing yet -/
structure Established (d : Data) (isn : U32) : Prop where
  state : d.state = .ESTABLISHED
  opened : d.serverReadFinished = false
  first : d.sendSequence = isn + 1
  acknowledged : d.sendUnacknowledged = isn + 1
  next : d.sendNext = isn + 1
  new : d.sendNewDataSequence = isn + 1
  rtt : 0 ≤ d.rtt

theorem OpensTo.shakeHands {s s₀ : St} {p : Incoming} {i : ClientInput} (h : OpensTo s p i s₀) :
    AlongM step NoNewConnection s₀ (shakeHands p.val i) ∧
      ∃ t, runM step s₀ (Session.shakeHands p.val i) = .ok t ∧
        Established t.data (generateSequenceNo i.rand) ∧ t.data.mss = p.val.mss ∧
        t.data.sendLength = lengthAfter s.data p.val := by
  obtain ⟨f, hf, hd⟩ := h.data
  have hstate : s₀.data.state = .SYN_RECEIVED ∨ s₀.data.state = .SYN_ACK_SENT := by
    rw [hd]
    exact hf
  have hnext : s₀.data.receiveNext = p.val.getSequenceNumber + 1 := by rw [hd]; rfl
  obtain ⟨t, ht, htd⟩ := @step_repeated s₀ hstate p.val.source p.val.destination
    p.val.getSequenceNumber (by rw [hnext]; exact (BitVec.add_sub_cancel _ _).symm) i
  obtain ⟨u, rtt, hrtt, hu, hud⟩ := @step_established t (by rw [htd]) p.val.source p.val.destination
    (p.val.getSequenceNumber + 1) (generateSequenceNo i.rand + 1) (by rw [htd]; exact hnext.symm)
    (by rw [htd, hd]; rfl) i
  refine ⟨⟨?_, ?_⟩, u, ?_, ?_, ?_, ?_⟩
  · exact fun q _ hc => absurd hc h.opened
  · rw [ht]
    refine ⟨fun q _ hc => ?_, ?_⟩
    · rw [htd] at hc
      cases hc
    · rw [hu]
      trivial
  · show (step s₀ _ >>= fun s' => step s' _ >>= fun s'' => .ok s'') = _
    rw [ht]
    show (step t _ >>= fun s'' => .ok s'') = _
    rw [hu]
    rfl
  · rw [hud, htd, hd]
    exact ⟨rfl, rfl, rfl, rfl, rfl, rfl, hrtt⟩
  · rw [hud, htd, hd]
    rfl
  · rw [hud, htd, hd]
    rfl

/-- the first byte from the server -/
def firstByte (now : Int) : ServerInput := ⟨some [0], true, now, 0⟩

/-- With an MSS of 0 the flush behind the first byte goes on for ever. -/
theorem firstByte_endless {s : St} {isn : U32} (h : Established s.data isn)
    (hwrap : isn.toNat + 2 < 2 ^ 32) (hmss : s.data.mss = 0) (hpos : 0 < s.data.sendLength.toNat)
    (q : Packet) :
    ∃ e ∈ flushEntry s (.receiveFromServer q (firstByte s.data.lastSendTime)),
      ¬ FlushEnds e.1 e.2 := by
  let t : St := { s with packet := q }
  have havail : t.data.getSendAvailable = s.data.sendLength := by
    show s.data.sendLength - s.data.sendNewDataSequence + s.data.sendSequence = _
    rw [h.new, h.first]
    exact BitVec.sub_add_cancel _ _
  have htrim : t.trimSendBuffer = .ok t := by
    have hmss' : t.data.mss = 0 := hmss
    unfold St.trimSendBuffer
    dsimp only
    refine if_pos (.inr ?_)
    rw [havail, hmss', BitVec.lt_def]
    exact hpos
  have hne : t.data.getSendAvailable ≠ 0 := by
    rw [havail]
    exact fun hc => by rw [hc] at hpos; exact absurd hpos (by decide)
  have hamt : 1 ≤ St.writable t.data.getSendAvailable [0] ∧
      St.writable t.data.getSendAvailable [0] ≤ s.data.sendLength.toNat := by
    unfold St.writable
    rw [havail]
    split_ifs
    · exact ⟨hpos, le_refl _⟩
    · exact ⟨le_refl _, hpos⟩
  let u : St := t.receivedFromServer [0] true
  have hread : t.readFromServer (firstByte s.data.lastSendTime) = .ok u := by
    have hoff : offset t.data.sendNewDataSequence t.data.sendSequence = 0 := by
      show offset s.data.sendNewDataSequence s.data.sendSequence = 0
      rw [h.new, h.first]
      exact sub_self _
    unfold St.readFromServer
    dsimp only [firstByte]
    rw [hoff, Option.getD_some, List.take_of_length_le hamt.1]
    refine if_pos (.inr ?_)
    show (0 : Int) ≤ 0 ∧ _ ∧ 0 + _ ≤ (s.data.sendLength.toNat : Int)
    omega
  refine ⟨(u, s.data.lastSendTime), flushEntry_server h.state htrim hne hread, ?_⟩
  have hsum (k : Nat) (hk : isn.toNat + k < 2 ^ 32) : (isn + BitVec.ofNat 32 k).toNat = isn.toNat + k := by
    rw [BitVec.toNat_add, BitVec.toNat_ofNat]
    omega
  refine not_flushEnds h.state hmss h.opened ?_ ?_
  · show s.data.sendNext < s.data.sendNewDataSequence + BitVec.ofNat 32 1
    rw [h.next, h.new, BitVec.lt_def]
    bv_omega
  · refine decide_eq_false fun hc => ?_
    have hlate : s.data.rtt < (s.data.lastSendTime - s.data.lastSendTime).tdiv 4 := hc.2
    have hrtt := h.rtt
    rw [sub_self] at hlate
    exact absurd hlate (Int.not_lt.mpr hrtt)

/-! ## the options -/

theorem lengthAfter_pos {d : Data} {p : Packet} (h : 0 < (sendBufferLength p.windowShift).toNat) :
    0 < (lengthAfter d p).toNat := by
  unfold lengthAfter
  split_ifs with hlt
  · exact h
  · rw [BitVec.lt_def] at hlt
    omega

/-- `rand() % 2 ^ 31` is 30 or 31 -/
theorem generateSequenceNo_small (rand : U32) : (generateSequenceNo rand).toNat ≤ 31 := by
  unfold generateSequenceNo
  rw [BitVec.toNat_xor, BitVec.toNat_umod]
  have hmod : rand.toNat % (2 : U32).toNat = 0 ∨ rand.toNat % (2 : U32).toNat = 1 :=
    Nat.mod_two_eq_zero_or_one _
  rcases hmod with h | h <;> rw [h] <;> decide

/-- with an MSS of 0 a later flush goes on for ever -/
theorem OpensTo.not_laterFlushesEnd {s s₀ : St} {p : Incoming} {i : ClientInput}
    (h : OpensTo s p i s₀) (hmss : p.val.mss = 0) (hpos : 0 < (lengthAfter s.data p.val).toNat) :
    ¬ LaterFlushesEnd s₀ := by
  intro hall
  have hisn := generateSequenceNo_small i.rand
  obtain ⟨halong, t, ht, hest, htmss, htlength⟩ := h.shakeHands
  obtain ⟨e, he, hnot⟩ := firstByte_endless hest (by omega) (htmss.trans hmss)
    (by rw [htlength]; exact hpos) p.val
  exact hnot (hall _ t halong ht _ e he)

theorem mss_zero {mss : U16} (h : ¬ 1 ≤ mss) : mss = 0 := by
  rw [BitVec.le_def] at h
  have hone : (1 : U16).toNat = 1 := rfl
  have hzero : mss.toNat = 0 := by omega
  exact BitVec.eq_of_toNat_eq hzero

/-- **For which options a SYN is safe**: the length of the send buffer is right and every later flush
ends, if and only if the shift is at most 14 and the MSS is positive. -/
theorem options_safe_iff {s s₀ : St} {p : Incoming} {i : ClientInput} (h : OpensTo s p i s₀) :
    LengthExact p.val ∧ LaterFlushesEnd s₀ ↔ p.val.windowShift.toNat ≤ 14 ∧ 1 ≤ p.val.mss := by
  rw [lengthExact_iff]
  refine and_congr_right fun hshift => ?_
  constructor
  · intro hall
    by_contra hno
    have hpos := @lengthAfter_pos s.data p.val ((lengthExact_iff p.val).mpr hshift).2.1
    exact h.not_laterFlushesEnd (mss_zero hno) hpos hall
  · intro hmss
    obtain ⟨f, _, hd⟩ := h.data
    refine laterFlushesEnd_of ?_
    rw [hd]
    exact hmss

/-- a client that asks for an MSS of 2 -/
theorem options_safe_two :
    LengthExact uploadSyn.val ∧ LaterFlushesEnd uploadStart ↔
      uploadSyn.val.windowShift.toNat ≤ 14 ∧ 1 ≤ uploadSyn.val.mss :=
  options_safe_iff (⟨rfl, rfl, by decide⟩ : OpensTo unused uploadSyn (taking 0) uploadStart)

/-- A client asks for an MSS of 0. -/
theorem options_not_safe : ¬ ∀ (s s₀ : St) (p : Incoming) (i : ClientInput), OpensTo s p i s₀ →
    LengthExact p.val ∧ LaterFlushesEnd s₀ := by
  intro h
  let p : Incoming := synPacket clientA serverA 100 0
  have hopens : OpensTo unused p (taking 0) (St.openSession { unused with packet := p.val } (taking 0)) :=
    ⟨rfl, rfl, by decide⟩
  exact hopens.not_laterFlushesEnd rfl (by decide) (h _ _ _ _ hopens).2

end TunServer.Session
