import TunServer.Session.Integrity

/-!
# What closes a session

* `flushEntry`, `serverEntries`   the states in which a call enters `flushDataToClient` and
                        `flushDataToServer`;
* `Cause`               the causes for which a session is meant to close;
* `TestedOpen`          the last test of `flushDataToClient` does not find the upload complete while
                        the download goes on;
* `half_close_alive`    then every session that closes has a cause.
-/

set_option linter.unusedVariables false

namespace TunServer.Session

/-! ## where the flushes are entered -/

/-- the state in which the call enters `flushDataToClient`, and the clock -/
def flushEntry (s : St) : Op → Option (St × Int)
  | .flushDataToClient p now _ => some ({ s with packet := p }, now)
  | .receiveFromServer p i =>
    if s.data.state ≠ .ESTABLISHED then none
    else
      match St.trimSendBuffer { s with packet := p } with
      | .ok t =>
        if t.data.getSendAvailable = 0 then none
        else
          match t.readFromServer i with
          | .ok u => some (u, i.now)
          | .error _ => none
      | .error _ => none
  | _ => none

/-- the states in which the call enters `flushDataToServer`, and what the server socket answers -/
def serverEntries (s : St) : Op → List (St × SendResult)
  | .flushDataToServer p r => [({ s with packet := p }, r)]
  | .receiveFromClient p i =>
    if takesPayload s.data p then
      let t := St.acceptAck { s with packet := p }
      (if t.data.getReceiveAvailable < p.val.getDataLength then [(t, i.firstSend)] else []) ++
        match t.makeRoom p.val.getDataLength i.firstSend >>= St.copyPayload with
        | .ok u => [(u, i.send)]
        | .error _ => []
    else []
  | _ => []

/-- `flushDataToServer` calls `send` -/
def sends (d : Data) : Bool :=
  d.state = .ESTABLISHED ∧ ¬ d.isUpStreamComplete ∧
    ¬ (d.clientReadFinished ∧ d.receiveUser = d.receiveNext - 1) ∧ St.offered d ≠ 0

/-- the retries are used up -/
def retriesUsedUp (d : Data) (now : Int) : Bool :=
  St.resendDue d now ∧ d.retryCount = SEND_MAX_RETRIES

/-- the number lies in the window, counted from `receiveNext` on -/
def InReceiveWindow (d : Data) (seq : U32) : Prop :=
  (seq - d.receiveNext).toNat < d.getReceiveAvailable.toNat

/-- What a session is meant to close for: a reset in the window, a failed send, too many retries, or
both streams are complete. -/
inductive Cause (s : St) : Op → St → Prop where
  | reset {p : Incoming} {i : ClientInput} {s' : St} (hsyn : p.val.isSyn = false)
      (hrst : p.val.isReset = true)
      (hwin : InReceiveWindow s.data p.val.getSequenceNumber) :
      Cause s (.receiveFromClient p i) s'
  | sendFailed {op : Op} {s' t : St} (h : (t, .error) ∈ serverEntries s op)
      (hsends : sends t.data = true) : Cause s op s'
  | retries {op : Op} {s' t : St} {now : Int} (h : flushEntry s op = some (t, now))
      (hused : retriesUsedUp t.data now = true) : Cause s op s'
  | complete {op : Op} {s' : St} (hup : s'.data.isUpStreamComplete = true)
      (hdown : s'.data.isDownStreamComplete = true) : Cause s op s'

/-- if the call closes the session, it has a cause -/
def ClosesForCause (s : St) (op : Op) : Prop :=
  ∀ s', step s op = .ok s' → s.data.state ≠ .CLOSED → s'.data.state = .CLOSED → Cause s op s'

/-- The last test of `flushDataToClient` is not made with the upload complete and the download
not. -/
def TestedOpen (s : St) (op : Op) : Prop :=
  ∀ e ∈ flushEntry s op, e.1.data.state = .ESTABLISHED → e.1.data.isUpStreamComplete = true →
    e.1.data.isDownStreamComplete = false → retriesUsedUp e.1.data e.2 = true

/-- A send that hands over the last byte before the FIN, with the download complete, does not find
the number behind the FIN at 0. -/
def LastByteFine (s : St) (op : Op) : Prop :=
  ∀ e ∈ serverEntries s op, sends e.1.data = true → e.1.data.clientReadFinished = true →
    e.2.isAccepted = true → took e.1.data e.2 = (St.offered e.1.data).toNat →
    e.1.data.isDownStreamComplete = true → e.1.data.receiveNext ≠ 0

instance (s : St) (op : Op) : Decidable (TestedOpen s op) :=
  inferInstanceAs (Decidable (∀ e ∈ flushEntry s op, e.1.data.state = .ESTABLISHED →
    e.1.data.isUpStreamComplete = true → e.1.data.isDownStreamComplete = false →
    retriesUsedUp e.1.data e.2 = true))

instance (s : St) (op : Op) : Decidable (LastByteFine s op) :=
  inferInstanceAs (Decidable (∀ e ∈ serverEntries s op, sends e.1.data = true →
    e.1.data.clientReadFinished = true → e.2.isAccepted = true →
    took e.1.data e.2 = (St.offered e.1.data).toNat →
    e.1.data.isDownStreamComplete = true → e.1.data.receiveNext ≠ 0))

/-! ## to the client -/

section
variable {s s' : St}

theorem sendSegment_data {seq : U32} {r : U32 × St} (he : s.sendSegment seq = .ok r) :
    r.2.data = s.data := by
  unfold St.sendSegment at he
  dsimp only at he
  generalize (if s.data.mss.setWidth 32 < s.data.sendNewDataSequence - seq -
    b32 s.data.serverReadFinished then _ else _) = len at he
  split_ifs at he
  · cases he; rfl
  · cases he; rfl

/-- sending changes the packet object and the log only -/
theorem sendLoop_data {turns : Nat} {seq : U32} (he : St.sendLoop turns seq s = .ok s') :
    s'.data = s.data := by
  induction turns generalizing s seq with
  | zero =>
    unfold St.sendLoop at he
    split_ifs at he
    cases he
    rfl
  | succ turns ih =>
    unfold St.sendLoop at he
    split_ifs at he
    · obtain ⟨r, hr, he⟩ := bind_ok.mp he
      exact (ih he).trans (sendSegment_data hr)
    · cases he
      rfl

theorem sendDataStartingFrom_data {turns : Nat} {seq : U32}
    (he : s.sendDataStartingFrom seq turns = .ok s') : s'.data = s.data := by
  let t : St := { s with packet := s.packet.setEnds s.data.destination s.data.source }
  have ht : St.sendLoop turns seq t = .ok s' := he
  have h1 : s'.data = t.data := sendLoop_data ht
  exact h1

/-- the members the last test reads -/
structure SameTest (d d' : Data) : Prop where
  state : d'.state = d.state
  up : d'.isUpStreamComplete = d.isUpStreamComplete

theorem resend_test {now : Int} {turns : Nat} (he : s.resend now turns = .ok s') :
    SameTest s.data s'.data := by
  unfold St.resend at he
  dsimp only at he
  obtain ⟨t, ht, he⟩ := bind_ok.mp he
  cases he
  have h1 := sendDataStartingFrom_data ht
  have h2 : SameTest s.data t.data := by
    rw [h1]
    split_ifs <;> exact ⟨rfl, rfl⟩
  exact ⟨h2.state, h2.up⟩

theorem sendNewData_test {now : Int} {turns : Nat} (he : s.sendNewData now turns = .ok s') :
    SameTest s.data s'.data := by
  obtain ⟨t, ht, he⟩ := bind_ok.mp he
  cases he
  have h1 := sendDataStartingFrom_data ht
  have h2 : SameTest s.data t.data := by
    rw [h1]
    exact ⟨rfl, rfl⟩
  exact ⟨h2.state, h2.up⟩

/-- a session that the last test closes has a complete upload -/
theorem finishFlush_closes (hopen : s.data.state ≠ .CLOSED)
    (hclosed : s.finishFlush.data.state = .CLOSED) : s.data.isUpStreamComplete = true := by
  unfold St.finishFlush at hclosed
  split_ifs at hclosed with h
  · exact h
  · exact absurd hclosed hopen

theorem flushDataToClient_closes {now : Int} {turns : Nat}
    (he : s.flushDataToClient now turns = .ok s') (hopen : s.data.state ≠ .CLOSED)
    (hclosed : s'.data.state = .CLOSED) : s.data.state = .ESTABLISHED ∧
      (retriesUsedUp s.data now = true ∨
        s.data.isUpStreamComplete = true ∧ s.data.isDownStreamComplete = false) := by
  unfold St.flushDataToClient at he
  split_ifs at he with hs hdown hdue hretry hnew
  · cases he; exact absurd hclosed hopen
  · cases he; exact absurd hclosed hopen
  · exact ⟨not_not.mp hs, .inl (decide_eq_true ⟨hdue, hretry⟩)⟩
  · obtain ⟨t, ht, he⟩ := bind_ok.mp he
    cases he
    have h1 := resend_test ht
    have h2 := finishFlush_closes (by rw [h1.state]; exact hopen) hclosed
    exact ⟨not_not.mp hs, .inr ⟨h1.up.symm.trans h2, by simpa using hdown⟩⟩
  · obtain ⟨t, ht, he⟩ := bind_ok.mp he
    cases he
    have h1 := sendNewData_test ht
    have h2 := finishFlush_closes (by rw [h1.state]; exact hopen) hclosed
    exact ⟨not_not.mp hs, .inr ⟨h1.up.symm.trans h2, by simpa using hdown⟩⟩
  · cases he
    have h2 := finishFlush_closes hopen hclosed
    exact ⟨not_not.mp hs, .inr ⟨h2, by simpa using hdown⟩⟩

/-! ## to the server -/

theorem trimNow_state (he : s._trimReceiveBuffer = .ok s') : s'.data.state = s.data.state := by
  unfold St._trimReceiveBuffer at he
  dsimp only at he
  split_ifs at he
  · cases he
    rfl
  · obtain ⟨b, _, he⟩ := bind_ok.mp he
    cases he
    rfl

theorem trimReceiveBuffer_state (he : s.trimReceiveBuffer = .ok s') :
    s'.data.state = s.data.state := by
  unfold St.trimReceiveBuffer at he
  split_ifs at he
  · cases he
    rfl
  · exact trimNow_state he

/-- the slot of the FIN is consumed, and the download was complete -/
structure Completed (s s' : St) : Prop where
  fin : s.data.clientReadFinished = true
  down : s.data.isDownStreamComplete = true
  fin' : s'.data.clientReadFinished = true
  down' : s'.data.isDownStreamComplete = true
  user : s'.data.receiveUser = s'.data.receiveNext
  next : s'.data.receiveNext = s.data.receiveNext

theorem Completed.cause {t : St} (h : Completed t s') {op : Op} (hnext : t.data.receiveNext ≠ 0) :
    Cause s op s' := by
  refine .complete (decide_eq_true ⟨h.fin', ?_⟩) h.down'
  rw [h.user]
  rw [← h.next] at hnext
  bv_omega

theorem closeSession_data (s : St) :
    s.closeSession.data = { s.data with mSock := none, state := .CLOSED } := by
  unfold St.closeSession
  cases s.data.mSock with
  | some fd => rfl
  | none => rfl

theorem finishUpStream_closes (hf : s.data.clientReadFinished = true)
    (hU : s.data.receiveUser = s.data.receiveNext - 1) (hopen : s.data.state ≠ .CLOSED)
    (hclosed : s.finishUpStream.data.state = .CLOSED) : Completed s s.finishUpStream := by
  have hnext : s.data.receiveUser + 1 = s.data.receiveNext := by
    rw [hU]
    bv_omega
  have hframe := finishUpStream_frame s
  have hfin := hframe.clientReadFinished.trans hf
  revert hclosed
  unfold St.finishUpStream at hframe hfin ⊢
  dsimp only at hframe hfin ⊢
  split_ifs at hframe hfin ⊢ with hdown
  · intro _
    refine ⟨hf, hdown, hfin, ?_, ?_, hframe.receiveNext⟩
    · rw [closeSession_data]
      exact hdown
    · rw [closeSession_data]
      exact hnext
  · exact fun hclosed => absurd hclosed hopen

/-- `flushDataToServer` closes for a failed send, or at the end of the client's stream. -/
theorem flushDataToServer_closes {r : SendResult} (he : s.flushDataToServer r = .ok s')
    (hopen : s.data.state ≠ .CLOSED) (hclosed : s'.data.state = .CLOSED) :
    sends s.data = true ∧ (r = .error ∨
      r.isAccepted = true ∧ took s.data r = (St.offered s.data).toNat ∧ Completed s s') := by
  unfold St.flushDataToServer at he
  split_ifs at he with hs hup hfin hoff
  · cases he; exact absurd hclosed hopen
  · cases he; exact absurd hclosed hopen
  · exact (not_fin_of_incomplete (by simpa using hup) hfin).elim
  · refine ⟨decide_eq_true ⟨not_not.mp hs, by simpa using hup, hfin, hoff⟩, ?_⟩
    unfold St.sendToServer at he
    dsimp only at he
    split_ifs at he
    cases r with
    | wouldBlock => cases he; exact absurd hclosed hopen
    | error => exact .inl rfl
    | accepted n =>
      refine .inr ⟨rfl, ?_⟩
      have htaken := taken_data s n
      change (s.taken ((St.offeredBytes s.data).take n)).finishSend = .ok s' at he
      generalize s.taken ((St.offeredBytes s.data).take n) = t at he htaken
      have hopen' : t.data.state ≠ .CLOSED := by rw [htaken]; exact hopen
      have hfin' : s.data.clientReadFinished = t.data.clientReadFinished := by rw [htaken]; rfl
      have hdown' : s.data.isDownStreamComplete = t.data.isDownStreamComplete := by rw [htaken]; rfl
      have hnext' : t.data.receiveNext = s.data.receiveNext := by rw [htaken]; rfl
      unfold St.finishSend at he
      by_cases h1 : t.data.clientReadFinished = true ∧ t.data.receiveUser = t.data.receiveNext - 1
      · rw [if_pos h1] at he
        cases he
        have hc := finishUpStream_closes h1.1 h1.2 hopen' hclosed
        refine ⟨?_, hfin'.trans hc.fin, hdown'.trans hc.down, hc.fin', hc.down', hc.user,
          hc.next.trans hnext'⟩
        -- the last byte before the FIN is taken
        have hf := hfin'.trans h1.1
        have hU := h1.2
        rw [htaken] at hU
        have htook : took s.data (.accepted n) ≤ (St.offered s.data).toNat := min_le_right _ _
        change s.data.receiveUser + BitVec.ofNat 32 (took s.data (.accepted n)) =
          s.data.receiveNext - 1 at hU
        generalize took s.data (.accepted n) = m at hU htook ⊢
        unfold St.offered at htook ⊢
        rw [hf, b32_true] at htook ⊢
        bv_omega
      · rw [if_neg h1] at he
        by_cases h2 : t.data.clientReadFinished = true
        · rw [if_neg (not_not.mpr h2)] at he
          cases he
          exact absurd hclosed hopen'
        · rw [if_pos h2] at he
          exact absurd ((trimReceiveBuffer_state he).symm.trans hclosed) hopen'
  · cases he; exact absurd hclosed hopen

/-! ## `receiveFromClient` -/

theorem sendReset_data (s : St) : s.sendReset.data = s.data := by
  unfold St.sendReset
  dsimp only
  split_ifs <;> rfl

theorem acknowledgeDelayed_state (s : St) (now : Int) :
    (s.acknowledgeDelayed now).data.state = s.data.state := by
  unfold St.acknowledgeDelayed
  dsimp only
  split_ifs <;> rfl

/-- the last test of a segment closes a session whose streams are both complete -/
theorem finishAck_closes {i : ClientInput} (hopen : s.data.state ≠ .CLOSED)
    (hclosed : (s.finishAck i).data.state = .CLOSED) :
    (s.finishAck i).data.isUpStreamComplete = true ∧
      (s.finishAck i).data.isDownStreamComplete = true := by
  unfold St.finishAck at hclosed ⊢
  rw [if_neg hopen] at hclosed ⊢
  split_ifs at hclosed ⊢ with h
  · rw [closeSession_data]
    exact h
  · exact absurd ((acknowledgeDelayed_state s _).symm.trans hclosed) hopen

theorem makeRoom_closes {len : U32} {r : SendResult} (he : s.makeRoom len r = .ok s')
    (hf : s.data.clientReadFinished = false) (hopen : s.data.state ≠ .CLOSED)
    (hclosed : s'.data.state = .CLOSED) :
    s.data.getReceiveAvailable < len ∧ sends s.data = true ∧ r = .error := by
  unfold St.makeRoom at he
  split_ifs at he with hlen
  · obtain ⟨t, ht, he⟩ := bind_ok.mp he
    have h1 := flushDataToServer_closes ht hopen ((trimNow_state he).symm.trans hclosed)
    refine ⟨hlen, h1.1, h1.2.resolve_right ?_⟩
    rintro ⟨_, _, hc⟩
    exact absurd (hf.symm.trans hc.fin) (by decide)
  · cases he
    exact absurd hclosed hopen

theorem copyPayload_state (he : s.copyPayload = .ok s') : s'.data.state = s.data.state := by
  obtain ⟨_, _, _, push, fin, hd, _⟩ := copyPayload_eq he
  rw [hd]
  rfl

/-- a segment that closes the session -/
theorem acceptSegment_closes {p : Incoming} {i : ClientInput}
    (htakes : s.data.clientReadFinished = false → takesPayload s.data p.val = true)
    (hfine : LastByteFine s (.receiveFromClient p i))
    (he : St.acceptSegment { s with packet := p.val } i = .ok s') (hopen : s.data.state ≠ .CLOSED)
    (hclosed : s'.data.state = .CLOSED) : Cause s (.receiveFromClient p i) s' := by
  let t : St := St.acceptAck { s with packet := p.val }
  have htopen : t.data.state ≠ .CLOSED := hopen
  by_cases hf : s.data.clientReadFinished = true
  · have e : St.acceptSegment { s with packet := p.val } i = .ok (t.finishAck i) := by
      unfold St.acceptSegment
      dsimp only
      rw [if_pos (show t.data.clientReadFinished = true from hf)]
      rfl
    cases e.symm.trans he
    obtain ⟨h1, h2⟩ := finishAck_closes htopen hclosed
    exact .complete h1 h2
  · rw [Bool.not_eq_true] at hf
    have htf : t.data.clientReadFinished = false := hf
    have e : St.acceptSegment { s with packet := p.val } i =
        (t.acceptPayload i >>= fun u => .ok (u.finishAck i)) := by
      unfold St.acceptSegment
      dsimp only
      rw [if_neg (show ¬ t.data.clientReadFinished = true by rw [htf]; decide)]
      rfl
    obtain ⟨v, hv, he⟩ := bind_ok.mp (e.symm.trans he)
    cases he
    obtain ⟨u, hu, hv⟩ := bind_ok.mp hv
    obtain ⟨w, hw, hv⟩ := bind_ok.mp hv
    -- the two places where the server socket is written to
    have hroom : t.makeRoom p.val.getDataLength i.firstSend = .ok u := hu
    have hentries : serverEntries s (.receiveFromClient p i) =
        (if t.data.getReceiveAvailable < p.val.getDataLength then [(t, i.firstSend)] else []) ++
          [(w, i.send)] := by
      unfold serverEntries
      dsimp only
      rw [if_pos (htakes hf)]
      show _ ++ (match t.makeRoom p.val.getDataLength i.firstSend >>= St.copyPayload with
        | .ok u => [(u, i.send)]
        | .error _ => []) = _
      rw [show (t.makeRoom p.val.getDataLength i.firstSend >>= St.copyPayload) = .ok w from
        bind_ok.mpr ⟨u, hroom, hw⟩]
    by_cases hcu : u.data.state = .CLOSED
    · obtain ⟨h1, h2, h3⟩ := makeRoom_closes hroom htf htopen hcu
      refine .sendFailed ?_ h2
      rw [hentries, if_pos h1, h3]
      exact List.mem_append_left _ (List.mem_singleton.mpr rfl)
    · have hcw : w.data.state ≠ .CLOSED := by
        rw [copyPayload_state hw]
        exact hcu
      have hmem : (w, i.send) ∈ serverEntries s (.receiveFromClient p i) := by
        rw [hentries]
        exact List.mem_append_right _ (List.mem_singleton.mpr rfl)
      by_cases hcv : v.data.state = .CLOSED
      · obtain ⟨h1, h2⟩ := flushDataToServer_closes hv hcw hcv
        have hsame : v.finishAck i = v := if_pos hcv
        rw [hsame]
        rcases h2 with h2 | ⟨h2, h3, h4⟩
        · exact .sendFailed (h2 ▸ hmem) h1
        · exact h4.cause (hfine _ hmem h1 h4.fin h2 h3 h4.down)
      · obtain ⟨h1, h2⟩ := finishAck_closes hcv hclosed
        exact .complete h1 h2

/-- The raw comparisons never let in a number outside of the window: where its end wraps around, they let in
none. -/
theorem resetInWindow_inside {d : Data} {seq : U32} (h : St.resetInWindow d seq = true) :
    InReceiveWindow d seq := by
  obtain ⟨h1, h2⟩ := of_decide_eq_true h
  unfold InReceiveWindow
  generalize d.getReceiveAvailable = w at h2 ⊢
  bv_omega

theorem client_closes {p : Incoming} {i : ClientInput}
    (hlast : LastByteFine s (.receiveFromClient p i))
    (he : St.receiveFromClient { s with packet := p.val } i = .ok s') (hopen : s.data.state ≠ .CLOSED)
    (hclosed : s'.data.state = .CLOSED) : Cause s (.receiveFromClient p i) s' := by
  have hs := receiveFromClient_step { s with packet := p.val } i
  rw [he] at hs
  generalize hr : (Except.ok s' : Except Fault St) = r at hs
  cases hs with
  | same => cases hr; exact absurd hclosed hopen
  | reset =>
    cases hr
    exact absurd ((congrArg Data.state (sendReset_data _)).symm.trans hclosed) hopen
  | ack => cases hr; exact absurd hclosed hopen
  | synAck => cases hr; cases hclosed
  | opened hs => exact absurd hs hopen
  | closed hs hsyn hrst hwin => exact .reset hsyn hrst (resetInWindow_inside hwin)
  | established hs =>
    cases hr
    unfold St.establish at hclosed
    dsimp only at hclosed
    split at hclosed <;> cases hclosed
  | accepted hs hsyn hrst hack hseq =>
    refine acceptSegment_closes ?_ hlast hr.symm hopen hclosed
    intro hf
    exact decide_eq_true ⟨hs, by simpa using hsyn, by simpa using hrst, hack, hseq, by simpa using hf⟩

/-! ## `receiveFromServer` -/

theorem trimSendBuffer_state (he : s.trimSendBuffer = .ok s') : s'.data.state = s.data.state := by
  unfold St.trimSendBuffer at he
  dsimp only at he
  split_ifs at he
  · cases he
    rfl
  · obtain ⟨b, _, he⟩ := bind_ok.mp he
    cases he
    rfl

theorem readFromServer_state {i : ServerInput} (he : s.readFromServer i = .ok s') :
    s'.data.state = s.data.state := by
  unfold St.readFromServer at he
  dsimp only at he
  split_ifs at he
  cases he
  unfold St.receivedFromServer
  dsimp only
  split_ifs <;> rfl

theorem flushEntry_server {p : Packet} {i : ServerInput} {t u : St}
    (hs : s.data.state = .ESTABLISHED) (ht : St.trimSendBuffer { s with packet := p } = .ok t)
    (ha : t.data.getSendAvailable ≠ 0) (hu : t.readFromServer i = .ok u) :
    flushEntry s (.receiveFromServer p i) = some (u, i.now) := by
  unfold flushEntry
  simp only [hs, ht, ha, hu, ne_eq, not_true, if_false]

/-- the call enters `flushDataToClient`, or leaves the state as it is -/
theorem server_entry {p : Packet} {i : ServerInput} {r : Bool × St}
    (he : St.receiveFromServer { s with packet := p } i = .ok r) :
    r.2.data.state = s.data.state ∨ ∃ u, flushEntry s (.receiveFromServer p i) = some (u, i.now) ∧
      u.data.state = s.data.state ∧ u.flushDataToClient i.now i.turns = .ok r.2 := by
  unfold St.receiveFromServer at he
  by_cases hs : s.data.state ≠ .ESTABLISHED
  · rw [if_pos hs] at he
    cases he
    exact .inl rfl
  · rw [if_neg hs] at he
    obtain ⟨t, ht, he⟩ := bind_ok.mp he
    have h1 : t.data.state = s.data.state := by
      have h2 := trimSendBuffer_state ht
      exact h2
    by_cases ha : t.data.getSendAvailable = 0
    · rw [if_pos ha] at he
      cases he
      exact .inl h1
    · rw [if_neg ha] at he
      obtain ⟨u, hu, he⟩ := bind_ok.mp he
      obtain ⟨v, hv, he⟩ := bind_ok.mp he
      cases he
      exact .inr ⟨u, flushEntry_server (not_not.mp hs) ht ha hu, (readFromServer_state hu).trans h1, hv⟩

/-- **A call that closes the session has a cause**, if its tests are fine. -/
theorem step_closes {op : Op} (htest : TestedOpen s op) (hlast : LastByteFine s op) :
    ClosesForCause s op := by
  intro s' he hopen hclosed
  cases op with
  | receiveFromClient p i => exact client_closes hlast he hopen hclosed
  | receiveFromServer p i =>
    obtain ⟨r, hr, he⟩ := bind_ok.mp he
    cases he
    rcases server_entry hr with h1 | ⟨u, hentry, h1, hu⟩
    · exact absurd (h1.symm.trans hclosed) hopen
    · obtain ⟨hs, h2⟩ := flushDataToClient_closes hu (by rw [h1]; exact hopen) hclosed
      refine .retries hentry ?_
      rcases h2 with h2 | ⟨h2, h3⟩
      · exact h2
      · exact htest _ hentry hs h2 h3
  | flushDataToServer p r =>
    have he : St.flushDataToServer { s with packet := p } r = .ok s' := he
    have hmem : (({ s with packet := p } : St), r) ∈ serverEntries s (.flushDataToServer p r) :=
      List.mem_singleton.mpr rfl
    obtain ⟨h1, h2⟩ := flushDataToServer_closes he hopen hclosed
    rcases h2 with h2 | ⟨h2, h3, h4⟩
    · exact .sendFailed (h2 ▸ hmem) h1
    · exact h4.cause (hlast _ hmem h1 h4.fin h2 h3 h4.down)
  | flushDataToClient p now turns =>
    have he : St.flushDataToClient { s with packet := p } now turns = .ok s' := he
    obtain ⟨hs, h1⟩ := flushDataToClient_closes he hopen hclosed
    have hentry : flushEntry s (.flushDataToClient p now turns) =
      some (({ s with packet := p } : St), now) := rfl
    refine .retries hentry ?_
    rcases h1 with h1 | ⟨h1, h2⟩
    · exact h1
    · exact htest _ hentry hs h1 h2

end

/-- **Half-close keeps the download alive.**  If no last test of `flushDataToClient` finds the upload
complete while the download goes on, and no last byte is handed over with the number behind the FIN
at 0, every session that closes in a run has a cause. -/
theorem half_close_alive (s : St) (ops : List Op)
    (hops : AlongM step (fun s op => TestedOpen s op ∧ LastByteFine s op) s ops) :
    AlongM step ClosesForCause s ops := by
  exact hops.mono fun s op h => step_closes h.1 h.2

/-- two bytes and the end of the stream from the server, acknowledged with a byte for it, and the FIN
of the client -/
def bothStreams : List Op :=
  [.receiveFromClient uploadSyn (taking 0),
   .receiveFromClient (ackPacket clientA serverA false 101 32) (taking 0),
   .receiveFromServer uploadSyn ⟨some [97, 98], false, 0, 3⟩,
   .receiveFromServer uploadSyn ⟨some [], false, 0, 3⟩,
   .receiveFromClient (dataPacket clientA serverA 101 35 [99] (by decide)) (taking 1),
   .receiveFromClient (ackPacket clientA serverA true 102 35) (taking 0)]

theorem half_close_alive_both_streams : AlongM step ClosesForCause unused bothStreams :=
  half_close_alive unused bothStreams (by decide)

theorem not_closesForCause {s : St} {p : Packet} {now : Int} {turns : Nat}
    (h : Ends (fun _ => False) (fun s' => s'.data.state = .CLOSED ∧
      s'.data.isDownStreamComplete = false) (step s (.flushDataToClient p now turns)))
    (hopen : s.data.state ≠ .CLOSED) (hretry : retriesUsedUp s.data now = false) :
    ¬ ClosesForCause s (.flushDataToClient p now turns) := by
  intro hc
  cases hs : step s (.flushDataToClient p now turns) with
  | error e => exact h.error hs
  | ok s' =>
    obtain ⟨h1, h2⟩ := h.ok hs
    cases hc s' hs hopen h1 with
    | sendFailed hmem => cases hmem
    | retries hentry hused =>
      cases hentry
      exact absurd (hretry.symm.trans hused) (by decide)
    | complete hup hdown => exact absurd (h2.symm.trans hdown) (by decide)

/-- The client has sent its FIN, and all its bytes are handed over: the next flush towards the client
closes the session, although the server goes on. -/
theorem half_close_dead : ¬ ∀ ops : List Op, AlongM step ClosesForCause unused ops := by
  intro h
  let ops : List Op := [.receiveFromClient uploadSyn (taking 0),
    .receiveFromClient (ackPacket clientA serverA false 101 32) (taking 0),
    .receiveFromClient (dataPacket clientA serverA 101 32 [97, 98] (by decide)) (taking 1),
    .receiveFromClient (ackPacket clientA serverA true 103 32) (taking 1)]
  have h1 := h (ops ++ [.flushDataToClient uploadSyn 0 0])
  have h2 : Ends (fun _ => False) (fun t => Ends (fun _ => False)
      (fun s' => s'.data.state = .CLOSED ∧ s'.data.isDownStreamComplete = false)
        (step t (.flushDataToClient uploadSyn 0 0)) ∧
      t.data.state ≠ .CLOSED ∧ retriesUsedUp t.data 0 = false) (runM step unused ops) := by
    decide
  cases hr : runM step unused ops with
  | error e => exact h2.error hr
  | ok t =>
    obtain ⟨h3, h4, h5⟩ := h2.ok hr
    exact not_closesForCause h3 h4 h5 (h1.last hr)

end TunServer.Session
