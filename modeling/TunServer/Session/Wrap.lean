import TunServer.Session.Closing
import TunServer.Session.Translate

/-!
# Runs with moved client numbers

* `Op.moved k op`  the call with the client's numbers moved by `k`;
* `LastTest`       the test at the end of `flushDataToClient` agrees with the distances;
* `Agrees`         the calls in which every raw comparison does;
* `step_related`   such calls move related states to related states;
* `wrap_around`    so do runs from the SYN on, and the test for the end of the upload tells its end.
-/

set_option linter.unusedVariables false

namespace TunServer.Session

/-! ## moved packets -/

def Packet.moved (p : Packet) (k : U32) : Packet := { p with header := p.header.shift 0 k }

/-- the packets of the client with their numbers moved by `k` -/
def Op.moved (k : U32) : Op → Op
  | .receiveFromClient p i =>
    .receiveFromClient ⟨p.val.moved k, (Header.isReceived_shift 0 k _).trans p.property⟩ i
  | op => op

section
variable {p : Packet} {k : U32}

theorem moved_seq (hr : p.header.isReceived = true) :
    (p.moved k).getSequenceNumber = p.getSequenceNumber + k := Header.getSequenceNumber_shift hr

theorem moved_ackNo (hr : p.header.isReceived = true) :
    (p.moved k).getAcknowledgmentNumber = p.getAcknowledgmentNumber := by
  unfold Packet.getAcknowledgmentNumber Packet.moved
  cases h : p.header with
  | received s a r f q seq ack len =>
    show (if a = true then ack + 0 else ack) = ack
    rw [show ack + 0 = ack from BitVec.add_zero ack, ite_self]
  | _ =>
    rw [h] at hr
    cases hr

theorem moved_isSyn : (p.moved k).isSyn = p.isSyn := Header.isSyn_shift ..
theorem moved_isAck : (p.moved k).isAck = p.isAck := Header.isAck_shift ..
theorem moved_isReset : (p.moved k).isReset = p.isReset := Header.isReset_shift ..
theorem moved_isFin : (p.moved k).isFin = p.isFin := Header.isFin_shift ..
theorem moved_isPush : (p.moved k).isPush = p.isPush := Header.isPush_shift ..

end

/-! ## what is not observed -/

/-- a packet may be written, and its time be noted -/
structure Quiet (s s' : St) : Prop where
  data : s'.data = { s.data with lastAcknowledgedSequence := s'.data.lastAcknowledgedSequence }
  shared : s'.shared = { s.shared with lastAcknowledgmentSent := s'.shared.lastAcknowledgmentSent }
  log : observed s'.log = observed s.log

theorem Quiet.refl (s : St) : Quiet s s := ⟨rfl, rfl, rfl⟩

theorem writePacket_quiet (s : St) (p : Packet) : Quiet s (s.writePacket p) := by
  refine ⟨rfl, rfl, ?_⟩
  show observed (s.log ++ [Event.written p]) = _
  rw [observed_append]
  exact List.append_nil _

theorem sendReset_quiet (s : St) : Quiet s s.sendReset := by
  unfold St.sendReset
  dsimp only
  split_ifs <;> exact writePacket_quiet s _

theorem acknowledgeDelayed_quiet (s : St) (now : Int) : Quiet s (s.acknowledgeDelayed now) := by
  unfold St.acknowledgeDelayed
  dsimp only
  split_ifs
  · exact .refl s
  · have h := writePacket_quiet s (Packet.makeNormal (Packet.clearData (s.packet.setEnds
      s.data.destination s.data.source)) s.data.sendNext s.data.receiveNext)
    exact ⟨rfl, rfl, h.log⟩
  · exact .refl s

section
variable {k : U32} {s t : St}

theorem Related.quiet (h : Related k s t) {s' t' : St} (hs : Quiet s s') (ht : Quiet t t') :
    Related k s' t' := by
  refine ⟨?_, ?_, ?_⟩
  · have hd := h.data
    generalize t.data.lastAcknowledgedSequence = a at hd
    rw [ht.data, hs.data, hd]
    rfl
  · have hd := h.shared
    generalize t.shared.lastAcknowledgmentSent = m at hd
    rw [ht.shared, hs.shared, hd]
  · rw [ht.log, hs.log, h.log]

/-- a call gets its packet object -/
theorem Related.call (h : Related k s t) {p q : Packet} (hpq : SameFlags p q) :
    Moved k { s with packet := p } { t with packet := q } := ⟨⟨h.data, h.shared, h.log⟩, hpq⟩

/-! ## to the client -/

theorem Related.sendSegment (h : Related k s t) (seq : U32) :
    EndsLike (fun r r' => r'.1 = r.1 ∧ Related k r.2 r'.2) (s.sendSegment seq)
      (t.sendSegment seq) := by
  have hmss : t.data.mss = s.data.mss := by rw [h.data]; rfl
  have hbase : t.data.sendSequence = s.data.sendSequence := by rw [h.data]; rfl
  have hlength : t.data.sendLength = s.data.sendLength := by rw [h.data]; rfl
  have hnew : t.data.sendNewDataSequence = s.data.sendNewDataSequence := by rw [h.data]; rfl
  have hfin : t.data.serverReadFinished = s.data.serverReadFinished := by rw [h.data]; rfl
  unfold St.sendSegment
  dsimp only
  rw [hmss, hbase, hlength, hnew, hfin]
  generalize (if s.data.mss.setWidth 32 < s.data.sendNewDataSequence - seq -
    b32 s.data.serverReadFinished then _ else _) = len
  split_ifs
  · exact ⟨rfl, h.writePacket _ _⟩
  · exact ⟨rfl, h.writePacket _ _⟩
  · rfl

theorem Related.sendLoop (h : Related k s t) (turns : Nat) (seq : U32) :
    EndsLike (Related k) (St.sendLoop turns seq s) (St.sendLoop turns seq t) := by
  have hnew (s t : St) (h : Related k s t) :
      t.data.sendNewDataSequence = s.data.sendNewDataSequence := by rw [h.data]; rfl
  induction turns generalizing s t seq with
  | zero =>
    unfold St.sendLoop
    rw [hnew s t h]
    split_ifs
    · rfl
    · exact h
  | succ turns ih =>
    unfold St.sendLoop
    rw [hnew s t h]
    split_ifs
    · refine (h.sendSegment seq).bind ?_
      rintro ⟨seq', s'⟩ ⟨seq'', t'⟩ _ _ ⟨hseq, hst⟩
      cases hseq
      exact ih hst seq'
    · exact h

theorem Related.sendDataStartingFrom (h : Related k s t) (seq : U32) (turns : Nat) :
    EndsLike (Related k) (s.sendDataStartingFrom seq turns) (t.sendDataStartingFrom seq turns) := by
  let s' : St := { s with packet := s.packet.setEnds s.data.destination s.data.source }
  let t' : St := { t with packet := t.packet.setEnds t.data.destination t.data.source }
  have h' : Related k s' t' := ⟨h.data, h.shared, h.log⟩
  exact h'.sendLoop turns seq

theorem Related.sentAll (h : Related k s t) (now : Int) : Related k (s.sentAll now) (t.sentAll now) :=
  h.onData (fun d => { d with
    sendNext := d.sendNewDataSequence
    lastTimeAcknowledgmentAccepted := now
    lastSendTime := now }) fun _ _ => rfl

theorem Related.sendNewData (h : Related k s t) (now : Int) (turns : Nat) :
    EndsLike (Related k) (s.sendNewData now turns) (t.sendNewData now turns) := by
  have hnext : t.data.sendNext = s.data.sendNext := by rw [h.data]; rfl
  unfold St.sendNewData
  rw [hnext]
  exact (h.sendDataStartingFrom _ turns).bind fun _ _ _ _ huv => huv.sentAll now

theorem Related.resend (h : Related k s t) (now : Int) (turns : Nat) :
    EndsLike (Related k) (s.resend now turns) (t.resend now turns) := by
  have hrest (s t : St) (h : Related k s t) : EndsLike (Related k)
      (do let s ← s.sendDataStartingFrom s.data.sendUnacknowledged turns
          return s.sentAll now)
      (do let t ← t.sendDataStartingFrom t.data.sendUnacknowledged turns
          return t.sentAll now) := by
    have hack : t.data.sendUnacknowledged = s.data.sendUnacknowledged := by rw [h.data]; rfl
    rw [hack]
    exact (h.sendDataStartingFrom _ turns).bind fun _ _ _ _ huv => huv.sentAll now
  have hack : t.data.sendUnacknowledged = s.data.sendUnacknowledged := by rw [h.data]; rfl
  have hnext : t.data.sendNext = s.data.sendNext := by rw [h.data]; rfl
  unfold St.resend
  dsimp only
  by_cases hlt : s.data.sendUnacknowledged < s.data.sendNext
  · rw [if_pos hlt, if_pos (by rw [hack, hnext]; exact hlt)]
    exact hrest _ _ (h.onData (fun d => { d with retryCount := d.retryCount + 1 })
      fun _ _ => rfl)
  · rw [if_neg hlt, if_neg (by rw [hack, hnext]; exact hlt)]
    exact hrest s t h

/-! ## the last test -/

/-- If the last test of `flushDataToClient` is made, it agrees with the distances. -/
def LastTest (d : Data) (now : Int) : Prop :=
  d.state = .ESTABLISHED → d.isDownStreamComplete = false → retriesUsedUp d now = false → TestFine d

theorem TestFine.keep {d d' : Data} (h : TestFine d) (hk : KeepsUp d d') : TestFine d' := by
  unfold TestFine at *
  rw [hk.clientReadFinished, hk.receiveUser, hk.receiveNext]
  exact h

theorem Related.finishFlush (h : Related k s t) (hs : TestFine s.data) (ht : TestFine t.data) :
    Related k s.finishFlush t.finishFlush := by
  have hcomplete : t.data.isUpStreamComplete = s.data.isUpStreamComplete := by
    have hd := h.data
    generalize t.data.lastAcknowledgedSequence = a at hd
    rw [hd] at ht ⊢
    exact complete_moved hs ht
  unfold St.finishFlush
  rw [hcomplete]
  split_ifs
  · exact h.closeSession
  · exact h

theorem Related.flushDataToClient (h : Related k s t) (now : Int) (turns : Nat)
    (hs : LastTest s.data now) (ht : LastTest t.data now) :
    EndsLike (Related k) (s.flushDataToClient now turns) (t.flushDataToClient now turns) := by
  have hstate : t.data.state = s.data.state := by rw [h.data]; rfl
  have hdown : t.data.isDownStreamComplete = s.data.isDownStreamComplete := by rw [h.data]; rfl
  have hdue : St.resendDue t.data now = St.resendDue s.data now := by rw [h.data]; rfl
  have hretry : t.data.retryCount = s.data.retryCount := by rw [h.data]; rfl
  have hnew : St.newDataDue t.data = St.newDataDue s.data := by rw [h.data]; rfl
  have hused : retriesUsedUp t.data now = retriesUsedUp s.data now := by
    unfold retriesUsedUp
    rw [hdue, hretry]
  -- the last test, after the marks of the upload are kept
  have hlast (hest : s.data.state = .ESTABLISHED) (hopen : s.data.isDownStreamComplete = false)
      (hleft : retriesUsedUp s.data now = false) {r r' : Except Fault St}
      (hr : Aside s r) (hr' : Aside t r') (hrr : EndsLike (Related k) r r') :
      EndsLike (Related k) (r >>= fun s => .ok s.finishFlush)
        (r' >>= fun t => .ok t.finishFlush) := by
    have h1 := hs hest hopen hleft
    have h2 := ht (hstate.trans hest) (hdown.trans hopen) (hused.trans hleft)
    exact hrr.bind fun u v hu hv huv =>
      huv.finishFlush (h1.keep (hr.ok hu).up) (h2.keep (hr'.ok hv).up)
  unfold St.flushDataToClient
  rw [hstate, hdown, hdue, hretry, hnew]
  split_ifs with hest hopen hdue hretry hnew
  · exact h
  · exact h
  · exact h.closeSession
  · exact hlast (not_not.mp hest) (by simpa using hopen) (by simp [retriesUsedUp, hretry])
      (resend_aside s now turns) (resend_aside t now turns) (h.resend now turns)
  · exact hlast (not_not.mp hest) (by simpa using hopen) (by simp [retriesUsedUp, hdue])
      (sendNewData_aside s now turns) (sendNewData_aside t now turns) (h.sendNewData now turns)
  · have h1 : retriesUsedUp s.data now = false := by simp [retriesUsedUp, hdue]
    exact h.finishFlush (hs (not_not.mp hest) (by simpa using hopen) h1)
      (ht (hstate.trans (not_not.mp hest)) (by rw [hdown]; simpa using hopen) (hused.trans h1))

/-! ## from the server -/

theorem Related.trimSendBuffer (h : Related k s t) :
    EndsLike (Related k) s.trimSendBuffer t.trimSendBuffer := by
  have hd := h.data
  generalize t.data.lastAcknowledgedSequence = a at hd
  have hfull : t.data.sendUnacknowledged - t.data.sendSequence < t.data.mss.setWidth 32 ∨
        t.data.mss.setWidth 32 * 2 < t.data.getSendAvailable ↔
      s.data.sendUnacknowledged - s.data.sendSequence < s.data.mss.setWidth 32 ∨
        s.data.mss.setWidth 32 * 2 < s.data.getSendAvailable := by
    rw [hd]
    exact Iff.rfl
  have hshift : shiftElements .sendBuffer t.data.sendLength.toNat t.data.sendBuffer
      (t.data.sendUnacknowledged - t.data.sendSequence)
      (t.data.sendNewDataSequence - t.data.sendUnacknowledged)
      (-(t.data.sendUnacknowledged - t.data.sendSequence).toInt) =
      shiftElements .sendBuffer s.data.sendLength.toNat s.data.sendBuffer
        (s.data.sendUnacknowledged - s.data.sendSequence)
        (s.data.sendNewDataSequence - s.data.sendUnacknowledged)
        (-(s.data.sendUnacknowledged - s.data.sendSequence).toInt) := by
    rw [hd]
    rfl
  unfold St.trimSendBuffer
  dsimp only
  by_cases hc : s.data.sendUnacknowledged - s.data.sendSequence < s.data.mss.setWidth 32 ∨
      s.data.mss.setWidth 32 * 2 < s.data.getSendAvailable
  · rw [if_pos hc, if_pos (hfull.mpr hc)]
    exact h
  · rw [if_neg hc, if_neg fun hc' => hc (hfull.mp hc'), hshift]
    cases shiftElements .sendBuffer s.data.sendLength.toNat s.data.sendBuffer
      (s.data.sendUnacknowledged - s.data.sendSequence)
      (s.data.sendNewDataSequence - s.data.sendUnacknowledged)
      (-(s.data.sendUnacknowledged - s.data.sendSequence).toInt) with
    | ok b =>
      have htrim := h.onData (fun d => { d with
        sendBuffer := b
        sendSequence := d.sendUnacknowledged }) fun _ _ => rfl
      exact htrim
    | error e => rfl

theorem Related.receivedFromServer (h : Related k s t) (bytes : List Byte) (isWouldBlock : Bool) :
    Related k (s.receivedFromServer bytes isWouldBlock)
      (t.receivedFromServer bytes isWouldBlock) := by
  have hfin : t.data.serverReadFinished = s.data.serverReadFinished := by rw [h.data]; rfl
  unfold St.receivedFromServer
  dsimp only
  by_cases hsome : bytes ≠ []
  · rw [if_pos hsome, if_pos hsome]
    have hread := h.onData (fun d => { d with
      sendBuffer := d.sendBuffer.write (offset d.sendNewDataSequence d.sendSequence).toNat bytes
      sendNewDataSequence := d.sendNewDataSequence + BitVec.ofNat 32 bytes.length }) fun _ _ => rfl
    exact hread.emit _
  · rw [if_neg hsome, if_neg hsome]
    by_cases hend : ¬ isWouldBlock ∧ ¬ s.data.serverReadFinished
    · rw [if_pos hend, if_pos (by rw [hfin]; exact hend)]
      obtain ⟨a, m, l, ht, hl⟩ := h.explicit
      rw [ht]
      exact ⟨rfl, rfl, hl⟩
    · rw [if_neg hend, if_neg (by rw [hfin]; exact hend)]
      exact h

theorem Related.readFromServer (h : Related k s t) (i : ServerInput) :
    EndsLike (Related k) (s.readFromServer i) (t.readFromServer i) := by
  have hd := h.data
  generalize t.data.lastAcknowledgedSequence = a at hd
  have hroom : t.data.getSendAvailable = s.data.getSendAvailable := by rw [hd]; rfl
  have hin (amt : Int) : InRange (offset t.data.sendNewDataSequence t.data.sendSequence) amt
      t.data.sendLength.toNat ↔ InRange (offset s.data.sendNewDataSequence s.data.sendSequence) amt
        s.data.sendLength.toNat := by rw [hd]; rfl
  unfold St.readFromServer
  dsimp only
  rw [hroom]
  simp only [hin]
  split_ifs
  · exact h.receivedFromServer _ _
  · rfl

/-- the last test of the call, if it is made, agrees with the distances -/
def LastTestAgrees (s : St) (op : Op) : Prop := ∀ e ∈ flushEntry s op, LastTest e.1.data e.2

theorem Related.receiveFromServer (h : Related k s t) {p : Packet} {i : ServerInput}
    (hs : LastTestAgrees s (.receiveFromServer p i)) (ht : LastTestAgrees t (.receiveFromServer p i)) :
    EndsLike (Related k) (step s (.receiveFromServer p i)) (step t (.receiveFromServer p i)) := by
  let s' : St := { s with packet := p }
  let t' : St := { t with packet := p }
  have h' : Related k s' t' := ⟨h.data, h.shared, h.log⟩
  have hstate : t.data.state = s.data.state := by rw [h.data]; rfl
  have hroom (u v : St) (huv : Related k u v) :
      v.data.getSendAvailable = u.data.getSendAvailable := by rw [huv.data]; rfl
  have hcall : EndsLike (fun r r' => Related k r.2 r'.2) (s'.receiveFromServer i)
      (t'.receiveFromServer i) := by
    unfold St.receiveFromServer
    by_cases hest : s.data.state = .ESTABLISHED
    · rw [if_neg (not_not.mpr hest), if_neg (not_not.mpr (hstate.trans hest))]
      refine h'.trimSendBuffer.bind fun u v hu hv huv => ?_
      rw [hroom u v huv]
      by_cases hfull : u.data.getSendAvailable = 0
      · rw [if_pos hfull, if_pos hfull]
        exact huv
      · rw [if_neg hfull, if_neg hfull]
        refine (huv.readFromServer i).bind fun u' v' hu' hv' huv' => ?_
        have h1 := hs _ (flushEntry_server hest hu hfull hu')
        have h2 := ht _ (flushEntry_server (hstate.trans hest) hv
          (by rw [hroom u v huv]; exact hfull) hv')
        exact (huv'.flushDataToClient i.now i.turns h1 h2).bind fun _ _ _ _ hw => hw
    · rw [if_pos hest, if_pos (by rw [hstate]; exact hest)]
      exact h'
  exact hcall.bind fun _ _ _ _ hr => hr

/-! ## from the client -/

theorem Related.sendSynAck (h : Related k s t) : Related k s.sendSynAck t.sendSynAck := by
  have hw := h.writePacket
    (s.packet.swapEnds.clearData.makeSyn s.data.sendNext s.data.receiveNext)
    (t.packet.swapEnds.clearData.makeSyn t.data.sendNext t.data.receiveNext)
  have hstate := hw.onData (fun d => { d with state := .SYN_ACK_SENT }) fun _ _ => rfl
  exact hstate

theorem opened_moved (d : Data) (a : U32) {p : Packet} (hr : p.header.isReceived = true)
    (i : ClientInput) : St.opened (d.moved k a) (p.moved k) i = (St.opened d p i).moved k 0 := by
  unfold St.opened
  rw [moved_seq hr, shift_add]
  rfl

/-- a SYN opens both, wherever the marks stand that it sets -/
theorem openSession_related (hd : t.data = s.data.moved k t.data.lastAcknowledgedSequence ∨ t = s)
    (hshared : t.shared = { s.shared with lastAcknowledgmentSent := t.shared.lastAcknowledgmentSent })
    (hlog : observed t.log = observed s.log) {p : Packet} (hr : p.header.isReceived = true)
    (i : ClientInput) (hnot : i.tryConnect = 0 ∨ i.isConnectionInProgress = true) :
    Related k (St.openSession { s with packet := p } i)
      (St.openSession { t with packet := p.moved k } i) := by
  have hopened : St.opened t.data (p.moved k) i = (St.opened s.data p i).moved k 0 := by
    rcases hd with hd | hd
    · generalize t.data.lastAcknowledgedSequence = a at hd
      rw [hd]
      exact opened_moved s.data a hr i
    · rw [hd]
      have hsame : St.opened s.data (p.moved k) i = St.opened (s.data.moved k 0) (p.moved k) i := rfl
      rw [hsame]
      exact opened_moved s.data 0 hr i
  let s' : St := { s with packet := p, data := St.opened s.data p i }
  let t' : St := { t with packet := p.moved k, data := St.opened t.data (p.moved k) i }
  have h' : Related k s' t' := ⟨hopened, hshared, hlog⟩
  have hno : ¬ (i.tryConnect ≠ 0 ∧ ¬ i.isConnectionInProgress) := by
    rintro ⟨h1, h2⟩
    rcases hnot with h3 | h3
    · exact h1 h3
    · exact h2 h3
  unfold St.openSession
  rw [if_neg hno, if_neg hno]
  split_ifs
  · exact h'.sendSynAck
  · have hstate := h'.onData (fun d => { d with state := .SYN_RECEIVED }) fun _ _ => rfl
    exact hstate

theorem Related.establish (h : Related k s t) (i : ClientInput)
    (hack : t.packet.getAcknowledgmentNumber = s.packet.getAcknowledgmentNumber) :
    Related k (s.establish i) (t.establish i) := by
  obtain ⟨a, m, l, ht, hl⟩ := h.explicit
  generalize hq : t.packet = q at ht hack
  rw [ht]
  unfold St.establish
  dsimp only [Data.moved]
  rw [hack]
  cases s.data.mSock with
  | some fd => exact ⟨rfl, rfl, hl⟩
  | none => exact ⟨rfl, rfl, hl⟩

theorem Moved.acceptAck (h : Moved k s t)
    (hack : t.packet.getAcknowledgmentNumber = s.packet.getAcknowledgmentNumber) :
    Moved k s.acceptAck t.acceptAck := by
  have hd := h.data
  generalize ha : t.data.lastAcknowledgedSequence = a at hd
  refine ⟨⟨?_, h.shared, h.log⟩, h.packet⟩
  unfold St.acceptAck
  dsimp only
  rw [hack, ha, hd]
  rfl

theorem Related.finishAck (h : Related k s t) (i : ClientInput) (hs : FinishAgrees s.data)
    (ht : FinishAgrees t.data) : Related k (s.finishAck i) (t.finishAck i) := by
  have hstate : t.data.state = s.data.state := by rw [h.data]; rfl
  have hdown : t.data.isDownStreamComplete = s.data.isDownStreamComplete := by rw [h.data]; rfl
  unfold St.finishAck
  by_cases hclosed : s.data.state = .CLOSED
  · rw [if_pos hclosed, if_pos (hstate.trans hclosed)]
    exact h
  · have hopen : t.data.state ≠ .CLOSED := by rw [hstate]; exact hclosed
    rw [if_neg hclosed, if_neg hopen]
    by_cases hboth : s.data.isDownStreamComplete = true
    · have hcomplete : t.data.isUpStreamComplete = s.data.isUpStreamComplete := by
        have h1 := hs hclosed hboth
        have h2 := ht hopen (hdown.trans hboth)
        have hd := h.data
        generalize t.data.lastAcknowledgedSequence = a at hd
        rw [hd] at h2 ⊢
        exact complete_moved h1 h2
      rw [hcomplete, hdown]
      split_ifs
      · exact h.closeSession
      · exact h.quiet (acknowledgeDelayed_quiet s _) (acknowledgeDelayed_quiet t _)
    · rw [if_neg fun hc => hboth hc.2, if_neg fun hc => hboth (hdown.symm.trans hc.2)]
      exact h.quiet (acknowledgeDelayed_quiet s _) (acknowledgeDelayed_quiet t _)

/-- The raw comparisons for a segment in order agree with the distances. -/
def SegmentAgrees (d : Data) (p : Packet) (i : ClientInput) : Prop :=
  if d.clientReadFinished = true then FinishAgrees d else PayloadAgrees d p i

theorem Moved.acceptSegment (h : Moved k s t) (i : ClientInput)
    (hack : t.packet.getAcknowledgmentNumber = s.packet.getAcknowledgmentNumber)
    (hs : SegmentAgrees s.acceptAck.data s.packet i) (ht : SegmentAgrees t.acceptAck.data t.packet i) :
    EndsLike (Related k) (s.acceptSegment i) (t.acceptSegment i) := by
  have h' := h.acceptAck hack
  have hfin : t.acceptAck.data.clientReadFinished = s.acceptAck.data.clientReadFinished := by
    rw [h'.data]
    rfl
  unfold SegmentAgrees at hs ht
  unfold St.acceptSegment
  dsimp only
  rw [hfin] at ht ⊢
  by_cases hf : s.acceptAck.data.clientReadFinished = true
  · rw [if_pos hf] at hs ht ⊢
    rw [if_pos hf]
    exact h'.toRelated.finishAck i hs ht
  · rw [if_neg hf] at hs ht ⊢
    rw [if_neg hf]
    have hpay := h'.acceptPayload (by simpa using hf) hs ht
    exact hpay.bind fun u v _ _ huv => huv.1.toRelated.finishAck i huv.2.1 huv.2.2

/-- a reset for an open session -/
def resets (d : Data) (p : Packet) : Bool := d.state ≠ .CLOSED ∧ ¬ p.isSyn ∧ p.isReset

/-- a segment in order -/
def arrives (d : Data) (p : Packet) : Bool :=
  d.state = .ESTABLISHED ∧ ¬ p.isSyn ∧ ¬ p.isReset ∧ p.isAck ∧ p.getSequenceNumber = d.receiveNext

/-- The raw comparisons that the call makes agree with the distances. -/
def Agrees (s : St) : Op → Prop
  | .receiveFromClient p i =>
    (resets s.data p = true → ResetFine s.data p.val.getSequenceNumber) ∧
    (arrives s.data p = true → SegmentAgrees (St.acceptAck { s with packet := p }).data p i)
  | .flushDataToServer _ _ => FlushAgrees s.data
  | op => LastTestAgrees s op

theorem Moved.receiveSyn (h : Moved k s t) (i : ClientInput) (hp : t.packet = s.packet.moved k)
    (hr : s.packet.header.isReceived = true) : Related k (s.receiveSyn i) (t.receiveSyn i) := by
  have hstate : t.data.state = s.data.state := by rw [h.data]; rfl
  have hreset := h.toRelated.quiet (sendReset_quiet s) (sendReset_quiet t)
  have hack : Related k s.sendAck t.sendAck := h.toRelated.writePacket _ _
  have hseq : (t.packet.getSequenceNumber = t.data.receiveNext - 1) =
      (s.packet.getSequenceNumber = s.data.receiveNext - 1) := by
    rw [hp, moved_seq hr, h.data]
    exact shift_eq_pred _ _ _
  unfold St.receiveSyn
  rw [hstate]
  cases hs : s.data.state with
  | CLOSED =>
    dsimp only
    by_cases hno : i.tryConnect ≠ 0 ∧ ¬ i.isConnectionInProgress
    · unfold St.openSession
      rw [if_pos hno, if_pos hno]
      exact hreset
    · have hnot : i.tryConnect = 0 ∨ i.isConnectionInProgress = true := by
        by_cases h0 : i.tryConnect = 0
        · exact .inl h0
        · exact .inr (by_contra fun hc => hno ⟨h0, hc⟩)
      have hopened := openSession_related (.inl h.data) h.shared h.log hr i hnot
      rw [← hp] at hopened
      exact hopened
  | SYN_RECEIVED =>
    dsimp only
    simp only [hseq]
    split_ifs
    · exact h.toRelated.sendSynAck
    · exact hreset
  | SYN_ACK_SENT =>
    dsimp only
    simp only [hseq]
    split_ifs
    · exact h.toRelated.sendSynAck
    · exact hreset
  | _ => exact hack

theorem Moved.receiveReset (h : Moved k s t)
    (hwin : s.data.state ≠ .CLOSED → St.resetInWindow t.data t.packet.getSequenceNumber =
      St.resetInWindow s.data s.packet.getSequenceNumber) :
    Related k s.receiveReset t.receiveReset := by
  have hstate : t.data.state = s.data.state := by rw [h.data]; rfl
  unfold St.receiveReset
  rw [hstate]
  by_cases hclosed : s.data.state = .CLOSED
  · rw [if_neg fun hc => hc.1 hclosed, if_neg fun hc => hc.1 hclosed]
    exact h.toRelated
  · rw [hwin hclosed]
    split_ifs
    · exact h.toRelated.closeSession
    · exact h.toRelated

theorem Moved.receiveAck (h : Moved k s t) (i : ClientInput) (hp : t.packet = s.packet.moved k)
    (hr : s.packet.header.isReceived = true)
    (hsegment : s.data.state = .ESTABLISHED → s.packet.getSequenceNumber = s.data.receiveNext →
      EndsLike (Related k) (s.acceptSegment i) (t.acceptSegment i)) :
    EndsLike (Related k) (s.receiveAck i) (t.receiveAck i) := by
  have hstate : t.data.state = s.data.state := by rw [h.data]; rfl
  have hack : t.packet.getAcknowledgmentNumber = s.packet.getAcknowledgmentNumber := by
    rw [hp]
    exact moved_ackNo hr
  have hreset := h.toRelated.quiet (sendReset_quiet s) (sendReset_quiet t)
  have hseq : (t.packet.getSequenceNumber = t.data.receiveNext) =
      (s.packet.getSequenceNumber = s.data.receiveNext) := by
    rw [hp, moved_seq hr, h.data]
    exact shift_eq _ _ _
  have hno : t.data.sendUnacknowledged = s.data.sendUnacknowledged := by rw [h.data]; rfl
  unfold St.receiveAck
  rw [hstate]
  cases hs : s.data.state with
  | SYN_ACK_SENT =>
    dsimp only
    simp only [hseq, hack, hno]
    split_ifs
    · exact hreset
    · exact h.toRelated.establish i hack
    · exact hreset
  | ESTABLISHED =>
    dsimp only
    by_cases heq : s.packet.getSequenceNumber = s.data.receiveNext
    · rw [if_pos heq, if_pos (hseq.mpr heq)]
      exact hsegment hs heq
    · rw [if_neg heq, if_neg fun hc => heq (hseq.mp hc)]
      exact h.toRelated.writePacket _ _
  | _ => exact hreset

theorem Related.receiveFromClient (h : Related k s t) {p : Incoming} {i : ClientInput}
    (hs : Agrees s (.receiveFromClient p i))
    (ht : Agrees t (Op.moved k (.receiveFromClient p i))) :
    EndsLike (Related k) (step s (.receiveFromClient p i))
      (step t (Op.moved k (.receiveFromClient p i))) := by
  let s' : St := { s with packet := p.val }
  let t' : St := { t with packet := p.val.moved k }
  have h' : Moved k s' t' := h.call ⟨rfl, moved_isPush, moved_isFin⟩
  have hstate : t.data.state = s.data.state := by rw [h.data]; rfl
  have hreset := h'.toRelated.quiet (sendReset_quiet s') (sendReset_quiet t')
  have hseq : (p.val.moved k).getSequenceNumber = p.val.getSequenceNumber + k := moved_seq p.property
  have hack : (p.val.moved k).getAcknowledgmentNumber = p.val.getAcknowledgmentNumber :=
    moved_ackNo p.property
  show EndsLike (Related k) (s'.receiveFromClient i) (t'.receiveFromClient i)
  unfold St.receiveFromClient
  rw [show t'.packet.isSyn = s'.packet.isSyn from moved_isSyn,
    show t'.packet.isAck = s'.packet.isAck from moved_isAck,
    show t'.packet.isReset = s'.packet.isReset from moved_isReset]
  by_cases hsyn : s'.packet.isSyn = true
  · rw [if_pos hsyn, if_pos hsyn]
    split_ifs
    · exact hreset
    · exact h'.receiveSyn i rfl p.property
  · rw [if_neg hsyn, if_neg hsyn]
    by_cases hrst : s'.packet.isReset = true
    · rw [if_pos hrst, if_pos hrst]
      refine h'.receiveReset fun hopen => ?_
      have h1 := hs.1 (decide_eq_true ⟨hopen, hsyn, hrst⟩)
      have h2 := ht.1 (decide_eq_true ⟨by rw [hstate]; exact hopen,
        by rw [moved_isSyn]; exact hsyn, moved_isReset.trans hrst⟩)
      have hd := h.data
      generalize t.data.lastAcknowledgedSequence = a at hd
      show St.resetInWindow t.data (p.val.moved k).getSequenceNumber = _
      rw [hd, hseq] at h2 ⊢
      exact resetInWindow_moved h1 h2
    · rw [if_neg hrst, if_neg hrst]
      by_cases hisAck : s'.packet.isAck = true
      · rw [if_pos hisAck, if_pos hisAck]
        refine h'.receiveAck i rfl p.property fun hest heq => ?_
        have h1 := hs.2 (decide_eq_true ⟨hest, hsyn, hrst, hisAck, heq⟩)
        have hnext : (p.val.moved k).getSequenceNumber = t.data.receiveNext := by
          rw [hseq, h.data]
          exact congrArg (· + k) heq
        have h2 := ht.2 (decide_eq_true ⟨hstate.trans hest, by rw [moved_isSyn]; exact hsyn,
          by rw [moved_isReset]; exact hrst, moved_isAck.trans hisAck, hnext⟩)
        exact h'.acceptSegment i hack h1 h2
      · rw [if_neg hisAck, if_neg hisAck]
        exact hreset

/-- **One call** whose raw comparisons agree with the distances moves related states to related
states. -/
theorem step_related (h : Related k s t) {op : Op} (hs : Agrees s op) (ht : Agrees t (op.moved k)) :
    EndsLike (Related k) (step s op) (step t (op.moved k)) := by
  cases op with
  | receiveFromClient p i => exact h.receiveFromClient hs ht
  | receiveFromServer p i => exact h.receiveFromServer hs ht
  | flushDataToServer p r =>
    have h' : Moved k { s with packet := p } { t with packet := p } := h.call ⟨rfl, rfl, rfl⟩
    exact (h'.flushDataToServer r hs ht).mono fun _ _ huv => huv.toRelated
  | flushDataToClient p now turns =>
    have h' : Related k { s with packet := p } { t with packet := p } := ⟨h.data, h.shared, h.log⟩
    exact h'.flushDataToClient now turns (hs _ rfl) (ht _ rfl)

end

/-! ## runs -/

/-- a SYN for a closed session -/
theorem receiveFromClient_syn {s : St} {i : ClientInput} (hclosed : s.data.state = .CLOSED)
    (hsyn : s.packet.isSyn = true) (hack : s.packet.isAck = false) :
    s.receiveFromClient i = .ok (s.openSession i) := by
  unfold St.receiveFromClient St.receiveSyn
  rw [if_pos hsyn, if_neg (by rw [hack]; decide), hclosed]

/-- a closed session is opened by a SYN only, and if the server does not refuse -/
theorem opens_syn {s s₀ : St} {p : Incoming} {i : ClientInput} (h : Opens s p i s₀) :
    p.val.isSyn = true ∧ p.val.isAck = false ∧
      (i.tryConnect = 0 ∨ i.isConnectionInProgress = true) := by
  let t : St := { s with packet := p.val }
  have hclosed : t.data.state = .CLOSED := h.closed
  have hcall : t.receiveFromClient i = .ok s₀ := h.call
  have hs := receiveFromClient_step t i
  rw [hcall] at hs
  generalize hr : (Except.ok s₀ : Except Fault St) = r at hs
  cases hs with
  | opened _ hsyn hack =>
    refine ⟨hsyn, hack, ?_⟩
    by_contra hno
    have hrefused : t.openSession i = t.sendReset :=
      if_pos ⟨fun h0 => hno (.inl h0), fun h1 => hno (.inr h1)⟩
    rw [hrefused] at hr
    cases hr
    exact h.opened ((congrArg Data.state (sendReset_data t)).trans hclosed)
  | same =>
    rw [Except.ok.inj hr] at h
    exact absurd hclosed h.opened
  | reset =>
    cases hr
    exact absurd ((congrArg Data.state (sendReset_data t)).trans hclosed) h.opened
  | ack hs => exact absurd hclosed hs
  | synAck hs => rw [hclosed] at hs; rcases hs with hs | hs <;> cases hs
  | closed hs => exact absurd hclosed hs
  | established hs => rw [hclosed] at hs; cases hs
  | accepted hs => rw [hclosed] at hs; cases hs

/-- the moved SYN opens the session as well -/
theorem opens_related (k : U32) {s s₀ : St} {p : Incoming} {i : ClientInput} (h : Opens s p i s₀) :
    ∃ t₀, step s (Op.moved k (.receiveFromClient p i)) = .ok t₀ ∧ Related k s₀ t₀ := by
  obtain ⟨hsyn, hack, hnot⟩ := opens_syn h
  let s' : St := { s with packet := p.val }
  let t' : St := { s with packet := p.val.moved k }
  have hcall : s'.receiveFromClient i = .ok (s'.openSession i) :=
    receiveFromClient_syn h.closed hsyn hack
  have hcall' : t'.receiveFromClient i = .ok (t'.openSession i) :=
    receiveFromClient_syn h.closed (moved_isSyn.trans hsyn) (moved_isAck.trans hack)
  refine ⟨t'.openSession i, hcall', ?_⟩
  have hs₀ : s'.openSession i = s₀ := Except.ok.inj (hcall.symm.trans h.call)
  rw [← hs₀]
  exact openSession_related (.inr rfl) rfl rfl p.property i hnot

/-- an open upload that is complete where the test agrees with the distances -/
theorem Kept.complete {x : U32} {s : St} (h : Kept x s) (hopen : s.data.state ≠ .CLOSED)
    (htest : TestFine s.data) (hdone : s.data.isUpStreamComplete = true) :
    s.data.clientReadFinished = true ∧ handedBytes s.log = acceptedBytes s.log := by
  obtain ⟨hfin, hle⟩ := of_decide_eq_true hdone
  refine ⟨hfin, ?_⟩
  have hend := (htest.test hfin).mp hle
  have hfew : (pending s.log).length ≤ 32769 := by
    rcases h.2 with hheld | hb | hclosed
    · have h1 := hheld.few
      unfold RECEIVE_BUFFER_SIZE at h1
      omega
    · exact hb.few'
    · exact absurd hclosed hopen
  have hnil : pending s.log = [] := by
    rcases h.1.dist with hd | ⟨_, hd, _⟩
    · rw [hfin, b32_true] at hd
      rw [← List.length_eq_zero_iff]
      have hn : s.data.receiveNext =
          s.data.receiveUser + (BitVec.ofNat 32 (pending s.log).length + 1) := by
        rw [← hd]
        bv_omega
      generalize (pending s.log).length = n at hn hfew ⊢
      rw [hn] at hend
      rcases hend with he | he <;> bv_omega
    · exact hd
  have happend := h.1.append
  rw [hnil, List.append_nil] at happend
  exact happend

/-- **Wrap-around.**  From the SYN on, two runs whose calls are the same up to the numbers of the
client hand over the same bytes, end the stream in the same calls and change their states in the same
way, if all raw comparisons they make agree with the distances.  And where the test for the end of
the upload does, it holds only when the FIN was accepted and every byte was handed over. -/
theorem wrap_around (k : U32) {s s₀ : St} {p : Incoming} {i : ClientInput} {ops : List Op}
    (hopen : Opens s p i s₀)
    (hfine : AlongM step Agrees s (.receiveFromClient p i :: ops))
    (hfine' : AlongM step Agrees s (Op.moved k (.receiveFromClient p i) :: ops.map (Op.moved k))) :
    EndsLike (Related k) (runM step s (.receiveFromClient p i :: ops))
        (runM step s (Op.moved k (.receiveFromClient p i) :: ops.map (Op.moved k))) ∧
      (AlongM step NoNewConnection s₀ ops → Ends (fun _ => True) (fun u =>
          u.data.state ≠ .CLOSED → TestFine u.data → u.data.isUpStreamComplete = true →
            u.data.clientReadFinished = true ∧ handedBytes u.log = acceptedBytes u.log)
        (runM step s (.receiveFromClient p i :: ops))) := by
  obtain ⟨t₀, hcall, hrel⟩ := opens_related k hopen
  have hrun : runM step s (.receiveFromClient p i :: ops) = runM step s₀ ops := by
    show (step s _ >>= _) = _
    rw [hopen.call]
    rfl
  have hrun' : runM step s (Op.moved k (.receiveFromClient p i) :: ops.map (Op.moved k)) =
      runM step t₀ (ops.map (Op.moved k)) := by
    show (step s _ >>= _) = _
    rw [hcall]
    rfl
  rw [hrun, hrun']
  constructor
  · have hstep : ∀ u v op, Related k u v → Agrees u op → Agrees v (Op.moved k op) →
        EndsLike (Related k) (step u op) (step v (Op.moved k op)) :=
      fun u v op huv h1 h2 => step_related huv h1 h2
    exact runM_sim (Related k) hstep hrel (hfine.2.ok hopen.call) (hfine'.2.ok hcall)
  · intro hnew
    have hkept : Ends (fun _ => True) (Kept p.val.getSequenceNumber) (runM step s₀ ops) :=
      runM_ends _ (fun u op hu hok => kept_step hu hok) (inOrder_opened hopen).kept hnew
    exact hkept.mono fun u hu h1 h2 h3 => hu.complete h1 h2 h3

/-! ## a reset behind 2^32 -/

instance (d : Data) : Decidable (FlushAgrees d) :=
  inferInstanceAs (Decidable (d.state = .ESTABLISHED → TestFine d ∧
    (d.isUpStreamComplete = false → St.offered d ≠ 0 → PlaceFine d d.receiveUser)))

instance (d : Data) : Decidable (FinishAgrees d) :=
  inferInstanceAs (Decidable (d.state ≠ .CLOSED → d.isDownStreamComplete = true → TestFine d))

instance (d : Data) (now : Int) : Decidable (LastTest d now) :=
  inferInstanceAs (Decidable (d.state = .ESTABLISHED → d.isDownStreamComplete = false →
    retriesUsedUp d now = false → TestFine d))

instance (s : St) (op : Op) : Decidable (LastTestAgrees s op) :=
  inferInstanceAs (Decidable (∀ e ∈ flushEntry s op, LastTest e.1.data e.2))

instance (d : Data) (p : Packet) (i : ClientInput) : Decidable (PayloadAgrees d p i) :=
  decidable_of_iff
    ((d.getReceiveAvailable < p.getDataLength → FlushAgrees d) ∧
      (p.copiedData (roomMarks d p.getDataLength i.firstSend).getReceiveAvailable ≠ [] →
        PlaceFine (roomMarks d p.getDataLength i.firstSend)
          (roomMarks d p.getDataLength i.firstSend).receiveNext) ∧
      FlushAgrees (payloadTaken (roomMarks d p.getDataLength i.firstSend) p) ∧
      FinishAgrees (flushMarks (payloadTaken (roomMarks d p.getDataLength i.firstSend) p) i.send))
    ⟨fun h => ⟨h.1, h.2.1, h.2.2.1, h.2.2.2⟩, fun h => ⟨h.room, h.copy, h.send, h.finish⟩⟩

instance (d : Data) (p : Packet) (i : ClientInput) : Decidable (SegmentAgrees d p i) :=
  inferInstanceAs (Decidable (if d.clientReadFinished = true then FinishAgrees d
    else PayloadAgrees d p i))

instance : ∀ (s : St) (op : Op), Decidable (Agrees s op)
  | s, .receiveFromClient p i =>
    inferInstanceAs (Decidable ((resets s.data p = true → ResetFine s.data p.val.getSequenceNumber) ∧
      (arrives s.data p = true → SegmentAgrees (St.acceptAck { s with packet := p }).data p i)))
  | s, .flushDataToServer _ _ => inferInstanceAs (Decidable (FlushAgrees s.data))
  | s, .receiveFromServer p i => inferInstanceAs (Decidable (LastTestAgrees s (.receiveFromServer p i)))
  | s, .flushDataToClient p now turns =>
    inferInstanceAs (Decidable (LastTestAgrees s (.flushDataToClient p now turns)))

theorem wrap_around_three_bytes :
    EndsLike (Related 1000) (runM step unused (.receiveFromClient uploadSyn (taking 0) :: uploadOps 3))
        (runM step unused (Op.moved 1000 (.receiveFromClient uploadSyn (taking 0)) ::
          (uploadOps 3).map (Op.moved 1000))) ∧
      (AlongM step NoNewConnection uploadStart (uploadOps 3) → Ends (fun _ => True) (fun u =>
          u.data.state ≠ .CLOSED → TestFine u.data → u.data.isUpStreamComplete = true →
            u.data.clientReadFinished = true ∧ handedBytes u.log = acceptedBytes u.log)
        (runM step unused (.receiveFromClient uploadSyn (taking 0) :: uploadOps 3))) :=
  wrap_around 1000 ⟨rfl, rfl, rfl, by decide⟩ (by decide) (by decide)

/-- the handshake, and a reset at the number expected next -/
def resetOps : List Op :=
  [.receiveFromClient (ackPacket clientA serverA false 101 32) (taking 0),
   .receiveFromClient (resetPacket clientA serverA 101) (taking 0)]

/-- With the number expected next at 2^32 - 10 the window ends behind 2^32, and the reset is not
accepted. -/
theorem not_wrap_around : ¬ ∀ (k : U32) (s s₀ : St) (p : Incoming) (i : ClientInput) (ops : List Op),
    Opens s p i s₀ →
    EndsLike (Related k) (runM step s (.receiveFromClient p i :: ops))
      (runM step s (Op.moved k (.receiveFromClient p i) :: ops.map (Op.moved k))) := by
  intro h
  have h1 := h (-111) unused uploadStart uploadSyn (taking 0) resetOps ⟨rfl, rfl, rfl, by decide⟩
  have h2 : Ends (fun _ => False) (fun u => u.data.state = .CLOSED)
      (runM step unused (.receiveFromClient uploadSyn (taking 0) :: resetOps)) := by decide
  have h3 : Ends (fun _ => False) (fun v => v.data.state = .ESTABLISHED)
      (runM step unused (Op.moved (-111) (.receiveFromClient uploadSyn (taking 0)) ::
        resetOps.map (Op.moved (-111)))) := by decide
  cases hr : runM step unused (.receiveFromClient uploadSyn (taking 0) :: resetOps) with
  | error e => exact h2.error hr
  | ok u =>
    cases hr' : runM step unused (Op.moved (-111) (.receiveFromClient uploadSyn (taking 0)) ::
        resetOps.map (Op.moved (-111))) with
    | error e => exact h3.error hr'
    | ok v =>
      rw [hr, hr'] at h1
      have h4 : v.data.state = u.data.state := (congrArg Data.state h1.data).trans rfl
      rw [h3.ok hr', h2.ok hr] at h4
      cases h4

end TunServer.Session
