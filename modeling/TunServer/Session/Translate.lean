import TunServer.Session.Order

/-!
# Wrap-around of the client's sequence numbers

The marks of the receive buffer are compared in two ways: as distances, and as raw values.

* `Moved k s t`    `t` is `s` with the client's numbers moved by `k`; what was written to the tunnel,
                   and when it was acknowledged, may differ;
* `TestFine`, `PlaceFine`, `ResetFine`   where a raw comparison agrees with the distances;
* `FlushAgrees`, `PayloadAgrees`         the stages of a call in which every raw comparison does;
* `trimMarks` to `flushMarks`            the marks on the way of a payload;
* `Moved.flushDataToServer`, `Moved.acceptPayload`   such stages move moved states to moved states.
-/

set_option linter.unusedVariables false

namespace TunServer.Session

/-! ## what is observed -/

def Event.isWritten : Event → Bool
  | .written _ => true
  | _ => false

/-- the log without the packets written to the tunnel -/
def observed (log : List Event) : List Event := log.filter fun e => !e.isWritten

theorem observed_append (l l' : List Event) : observed (l ++ l') = observed l ++ observed l' :=
  List.filter_append _ _

/-! ## moved states -/

/-- the client's numbers are moved by `k` -/
def Data.moved (d : Data) (k lastAcknowledged : U32) : Data :=
  { d with
    receiveSequence := d.receiveSequence + k
    receiveUser := d.receiveUser + k
    receiveNext := d.receiveNext + k
    receivePushSequence := d.receivePushSequence + k
    lastAcknowledgedSequence := lastAcknowledged }

/-- what is used of a packet object after it was written -/
structure SameFlags (p q : Packet) : Prop where
  payload : q.payload = p.payload
  isPush : q.isPush = p.isPush
  isFin : q.isFin = p.isFin

/-- the states between two calls -/
structure Related (k : U32) (s t : St) : Prop where
  data : t.data = s.data.moved k t.data.lastAcknowledgedSequence
  shared : t.shared = { s.shared with lastAcknowledgmentSent := t.shared.lastAcknowledgmentSent }
  log : observed t.log = observed s.log

/-- the states inside a call -/
structure Moved (k : U32) (s t : St) : Prop extends Related k s t where
  packet : SameFlags s.packet t.packet

/-- the two results are moved, or the same failure -/
abbrev Alike (k : U32) : Except Fault St → Except Fault St → Prop := EndsLike (Moved k)

/-! ## raw comparisons -/

/-- Once the FIN is accepted, `receiveUser` and the number of the FIN, or the number behind it, are
on one side of 2^32. -/
def TestFine (d : Data) : Prop :=
  d.clientReadFinished = true →
    if d.receiveUser = d.receiveNext then d.receiveNext ≠ 0 else d.receiveUser ≤ d.receiveNext - 1

/-- a mark in the reach of the receive buffer is not behind 2^32 -/
def PlaceFine (d : Data) (mark : U32) : Prop :=
  (mark - d.receiveSequence).toNat < RECEIVE_BUFFER_SIZE → d.receiveSequence ≤ mark

/-- the window a reset is in is not cut by 2^32 -/
def ResetFine (d : Data) (seq : U32) : Prop :=
  seq - d.receiveNext < d.getReceiveAvailable →
    d.receiveNext ≤ d.receiveNext + d.getReceiveAvailable

instance (d : Data) : Decidable (TestFine d) :=
  inferInstanceAs (Decidable (d.clientReadFinished = true →
    if d.receiveUser = d.receiveNext then d.receiveNext ≠ 0 else d.receiveUser ≤ d.receiveNext - 1))
instance (d : Data) (mark : U32) : Decidable (PlaceFine d mark) :=
  inferInstanceAs (Decidable (_ → _))
instance (d : Data) (seq : U32) : Decidable (ResetFine d seq) :=
  inferInstanceAs (Decidable (_ → _))

section
variable {k a : U32} {d : Data}

/-- then `isUpStreamComplete` tells whether `receiveUser` stands at the FIN or behind it -/
theorem TestFine.test (h : TestFine d) (hf : d.clientReadFinished = true) :
    d.receiveNext - 1 ≤ d.receiveUser ↔
      d.receiveUser = d.receiveNext - 1 ∨ d.receiveUser = d.receiveNext := by
  have h1 := h hf
  by_cases hU : d.receiveUser = d.receiveNext
  · rw [if_pos hU] at h1
    rw [hU]
    refine iff_of_true ?_ (.inr rfl)
    bv_omega
  · rw [if_neg hU] at h1
    constructor
    · exact fun h2 => .inl (BitVec.le_antisymm h1 h2)
    · rintro (h2 | h2)
      · rw [h2]
        exact BitVec.le_refl _
      · exact absurd h2 hU

/-- then a reset is accepted exactly in the window -/
theorem ResetFine.test {seq : U32} (h : ResetFine d seq) :
    St.resetInWindow d seq = true ↔ seq - d.receiveNext < d.getReceiveAvailable := by
  unfold ResetFine at h
  unfold St.resetInWindow
  rw [decide_eq_true_iff]
  generalize d.getReceiveAvailable = w at h ⊢
  constructor
  · rintro ⟨h1, h2⟩
    bv_omega
  · intro h1
    have h2 := h h1
    constructor <;> bv_omega

theorem available_moved : (d.moved k a).getReceiveAvailable = d.getReceiveAvailable := by
  unfold Data.getReceiveAvailable Data.moved
  dsimp only
  bv_omega

theorem complete_moved (h : TestFine d) (h' : TestFine (d.moved k a)) :
    (d.moved k a).isUpStreamComplete = d.isUpStreamComplete := by
  unfold Data.isUpStreamComplete
  refine decide_eq_decide.mpr (and_congr_right fun hfin => ?_)
  rw [h.test hfin, h'.test hfin]
  show d.receiveUser + k = d.receiveNext + k - 1 ∨ d.receiveUser + k = d.receiveNext + k ↔ _
  rw [shift_eq_pred, shift_eq]

theorem resetInWindow_moved {seq : U32} (h : ResetFine d seq) (h' : ResetFine (d.moved k a) (seq + k)) :
    St.resetInWindow (d.moved k a) (seq + k) = St.resetInWindow d seq := by
  rw [Bool.eq_iff_iff, h.test, h'.test, available_moved]
  show seq + k - (d.receiveNext + k) < _ ↔ _
  rw [shift_dist]

/-- an access at a mark is one at the moved mark, or both are out of bounds -/
theorem inRange_moved {mark : U32} {count : Int} (hcount : count ≠ 0) (h : PlaceFine d mark)
    (h' : PlaceFine (d.moved k a) (mark + k)) :
    (InRange (offset (mark + k) (d.moved k a).receiveSequence) count RECEIVE_BUFFER_SIZE ↔
      InRange (offset mark d.receiveSequence) count RECEIVE_BUFFER_SIZE) ∧
    (InRange (offset mark d.receiveSequence) count RECEIVE_BUFFER_SIZE →
      offset (mark + k) (d.moved k a).receiveSequence = offset mark d.receiveSequence) := by
  have hdist : mark + k - (d.moved k a).receiveSequence = mark - d.receiveSequence := shift_dist _ _ _
  by_cases hreach : (mark - d.receiveSequence).toNat < RECEIVE_BUFFER_SIZE
  · have hle := h hreach
    have hle' := h' (by rw [hdist]; exact hreach)
    have hoff : offset (mark + k) (d.moved k a).receiveSequence = offset mark d.receiveSequence := by
      rw [offset_of_le hle, offset_of_le hle', hdist]
    exact ⟨by rw [hoff], fun _ => hoff⟩
  · -- a mark out of reach is out of bounds on either side of 2^32
    have hout (m r : U32) (hm : m - r = mark - d.receiveSequence) :
        ¬ InRange (offset m r) count RECEIVE_BUFFER_SIZE := by
      rintro (h0 | ⟨h1, h2, h3⟩)
      · exact hcount h0
      · rw [offset_of_le (le_of_offset h1), hm] at h3
        omega
    have ho := hout _ _ rfl
    exact ⟨iff_of_false (hout _ _ hdist) ho, fun hin => absurd hin ho⟩

end

/-! ## the stages of a call -/

section
variable {k : U32} {s t : St}

theorem Related.explicit (h : Related k s t) : ∃ a m l,
    t = ⟨s.data.moved k a, { s.shared with lastAcknowledgmentSent := m }, t.packet, l⟩ ∧
      observed l = observed s.log := by
  obtain ⟨hd, hs, hl⟩ := h
  refine ⟨t.data.lastAcknowledgedSequence, t.shared.lastAcknowledgmentSent, t.log, ?_, hl⟩
  rw [← hd, ← hs]

theorem observed_snoc {l l' : List Event} (h : observed l = observed l') (e : Event) :
    observed (l ++ [e]) = observed (l' ++ [e]) := by
  rw [observed_append, observed_append, h]

theorem observed_written {l l' : List Event} (h : observed l = observed l') (p q : Packet) :
    observed (l ++ [Event.written q]) = observed (l' ++ [Event.written p]) := by
  rw [observed_append, observed_append, h]
  rfl

/-- the members change in a way that does not tell where the numbers stand -/
theorem Related.onData (h : Related k s t) (f : Data → Data)
    (hf : ∀ d a, f (d.moved k a) = (f d).moved k a) :
    Related k { s with data := f s.data } { t with data := f t.data } := by
  have hd := h.data
  generalize t.data.lastAcknowledgedSequence = a at hd
  refine ⟨?_, h.shared, h.log⟩
  show f t.data = (f s.data).moved k (f t.data).lastAcknowledgedSequence
  rw [hd, hf]
  rfl

theorem Moved.onData (h : Moved k s t) (f : Data → Data)
    (hf : ∀ d a, f (d.moved k a) = (f d).moved k a) :
    Moved k { s with data := f s.data } { t with data := f t.data } :=
  ⟨h.toRelated.onData f hf, h.packet⟩

theorem Related.emit (h : Related k s t) (e : Event) : Related k (s.emit e) (t.emit e) :=
  ⟨h.data, h.shared, observed_snoc h.log e⟩

theorem Moved.emit (h : Moved k s t) (e : Event) : Moved k (s.emit e) (t.emit e) :=
  ⟨h.toRelated.emit e, h.packet⟩

theorem Related.writePacket (h : Related k s t) (p q : Packet) :
    Related k (s.writePacket p) (t.writePacket q) :=
  ⟨h.data, h.shared, observed_written h.log p q⟩

theorem Moved.writePacket (h : Moved k s t) {p q : Packet} (hpq : SameFlags p q) :
    Moved k (s.writePacket p) (t.writePacket q) :=
  ⟨h.toRelated.writePacket p q, hpq⟩

theorem Related.closeSession (h : Related k s t) : Related k s.closeSession t.closeSession := by
  obtain ⟨a, m, l, ht, hl⟩ := h.explicit
  rw [ht]
  unfold St.closeSession
  dsimp only [Data.moved]
  cases s.data.mSock with
  | some fd => exact ⟨rfl, rfl, observed_snoc hl _⟩
  | none => exact ⟨rfl, rfl, observed_snoc hl _⟩

theorem closeSession_packet (s : St) : s.closeSession.packet = s.packet := by
  unfold St.closeSession
  cases s.data.mSock <;> rfl

theorem Moved.closeSession (h : Moved k s t) : Moved k s.closeSession t.closeSession := by
  refine ⟨h.toRelated.closeSession, ?_⟩
  rw [closeSession_packet, closeSession_packet]
  exact h.packet

theorem Moved.finishUpStream (h : Moved k s t) : Moved k s.finishUpStream t.finishUpStream := by
  let f : Data → Data := fun d => { d with receiveUser := d.receiveUser + 1 }
  let s' : St := { s with data := f s.data }
  let t' : St := { t with data := f t.data }
  have h' : Moved k s' t' := h.onData f fun d a => by
    show ({ d.moved k a with receiveUser := d.receiveUser + k + 1 } : Data) = _
    rw [shift_add]
    rfl
  have hdown : t'.data.isDownStreamComplete = s'.data.isDownStreamComplete := by
    rw [h'.data]
    rfl
  by_cases hdone : s'.data.isDownStreamComplete = true
  · have e : s.finishUpStream = s'.closeSession := if_pos hdone
    have e' : t.finishUpStream = t'.closeSession := if_pos (hdown.trans hdone)
    rw [e, e']
    exact h'.closeSession
  · have e : s.finishUpStream = s'.emit .shutdownWrite := if_neg hdone
    have e' : t.finishUpStream = t'.emit .shutdownWrite := if_neg (by rw [hdown]; exact hdone)
    rw [e, e']
    exact h'.emit _

theorem Moved.resetClient (h : Moved k s t) : Moved k s.resetClient t.resetClient := by
  refine (h.writePacket ?_).closeSession
  exact ⟨h.packet.payload, rfl, rfl⟩

theorem Moved.trimNow (h : Moved k s t) : Alike k s._trimReceiveBuffer t._trimReceiveBuffer := by
  have hd := h.data
  generalize ha : t.data.lastAcknowledgedSequence = a at hd
  have hamt : t.data.receiveUser - t.data.receiveSequence =
      s.data.receiveUser - s.data.receiveSequence := by
    rw [hd]
    exact shift_dist _ _ _
  have hcount : t.data.receiveNext - t.data.receiveUser =
      s.data.receiveNext - s.data.receiveUser := by
    rw [hd]
    exact shift_dist _ _ _
  have hbuffer : t.data.receiveBuffer = s.data.receiveBuffer := by rw [hd]; rfl
  have hiff : t.data.receiveUser = t.data.receiveSequence ↔
      s.data.receiveUser = s.data.receiveSequence := by
    rw [hd]
    exact add_left_inj k
  unfold St._trimReceiveBuffer
  dsimp only
  by_cases hUR : s.data.receiveUser = s.data.receiveSequence
  · rw [if_pos hUR, if_pos (hiff.mpr hUR)]
    exact h
  · rw [if_neg hUR, if_neg fun hc => hUR (hiff.mp hc), hamt, hcount, hbuffer]
    cases shiftElements .receiveBuffer RECEIVE_BUFFER_SIZE s.data.receiveBuffer
      (s.data.receiveUser - s.data.receiveSequence) (s.data.receiveNext - s.data.receiveUser)
      (-(s.data.receiveUser - s.data.receiveSequence).toInt) with
    | ok b =>
      refine ⟨⟨?_, h.shared, h.log⟩, h.packet⟩
      show ({ t.data with receiveBuffer := b, receiveSequence := t.data.receiveNext } : Data) =
        ({ s.data with receiveBuffer := b, receiveSequence := s.data.receiveNext } : Data).moved k
          t.data.lastAcknowledgedSequence
      rw [ha, hd]
      rfl
    | error e => rfl

theorem Moved.trimReceiveBuffer (h : Moved k s t) :
    Alike k s.trimReceiveBuffer t.trimReceiveBuffer := by
  have hamt : t.data.receiveUser - t.data.receiveSequence =
      s.data.receiveUser - s.data.receiveSequence := by
    rw [h.data]
    exact shift_dist _ _ _
  have hmss : t.data.mss = s.data.mss := by rw [h.data]; rfl
  unfold St.trimReceiveBuffer
  rw [hamt, hmss]
  split_ifs
  · exact h
  · exact h.trimNow

theorem Moved.taken (h : Moved k s t) (bytes : List Byte) : Moved k (s.taken bytes) (t.taken bytes) := by
  let f : Data → Data := fun d =>
    { d with receiveUser := d.receiveUser + BitVec.ofNat 32 bytes.length }
  refine (h.onData f fun d a => ?_).emit _
  show ({ d.moved k a with receiveUser := d.receiveUser + k + BitVec.ofNat 32 bytes.length } : Data) = _
  rw [shift_add]
  rfl

/-- `receiveUser` stands at the FIN in both -/
theorem Moved.atFin (h : Moved k s t) :
    (t.data.clientReadFinished = true ∧ t.data.receiveUser = t.data.receiveNext - 1) ↔
      (s.data.clientReadFinished = true ∧ s.data.receiveUser = s.data.receiveNext - 1) := by
  rw [h.data]
  exact and_congr_right fun _ => (shift_eq_pred _ _ _).to_iff

theorem Moved.finishSend (h : Moved k s t) : Alike k s.finishSend t.finishSend := by
  have hopen : t.data.clientReadFinished = s.data.clientReadFinished := by rw [h.data]; rfl
  unfold St.finishSend
  simp only [h.atFin]
  rw [hopen]
  split_ifs
  · exact h.finishUpStream
  · exact h
  · exact h.trimReceiveBuffer

theorem offered_moved (d : Data) (k a : U32) : St.offered (d.moved k a) = St.offered d := by
  show d.receiveNext + k - (d.receiveUser + k) - b32 d.clientReadFinished = _
  rw [shift_dist]
  rfl

theorem Moved.sendToServer (h : Moved k s t) (r : SendResult) (hne : St.offered s.data ≠ 0)
    (hs : PlaceFine s.data s.data.receiveUser) (ht : PlaceFine t.data t.data.receiveUser) :
    Alike k (s.sendToServer r) (t.sendToServer r) := by
  have hd := h.data
  generalize t.data.lastAcknowledgedSequence = a at hd
  have hcount : (St.offered s.data).toInt ≠ 0 :=
    fun h0 => hne (BitVec.eq_of_toInt_eq (h0.trans (by decide)))
  have hoffered : St.offered t.data = St.offered s.data := by
    rw [hd]
    exact offered_moved _ _ _
  have hplace : PlaceFine (s.data.moved k a) (s.data.receiveUser + k) := by
    rw [hd] at ht
    exact ht
  obtain ⟨hiff, hoff⟩ := inRange_moved hcount hs hplace
  have hiff' : InRange (offset t.data.receiveUser t.data.receiveSequence) (St.offered s.data).toInt
      RECEIVE_BUFFER_SIZE ↔ InRange (offset s.data.receiveUser s.data.receiveSequence)
        (St.offered s.data).toInt RECEIVE_BUFFER_SIZE := by
    rw [hd]
    exact hiff
  unfold St.sendToServer
  dsimp only
  rw [hoffered]
  by_cases hin : InRange (offset s.data.receiveUser s.data.receiveSequence)
      (St.offered s.data).toInt RECEIVE_BUFFER_SIZE
  · have hbytes : St.offeredBytes t.data = St.offeredBytes s.data := by
      unfold St.offeredBytes
      rw [hoffered, hd]
      show s.data.receiveBuffer.read (offset (s.data.receiveUser + k)
        (s.data.moved k a).receiveSequence).toNat _ = _
      rw [hoff hin]
    rw [if_pos hin, if_pos (hiff'.mpr hin), hbytes]
    cases r with
    | accepted n => exact (h.taken _).finishSend
    | wouldBlock => exact h
    | error => exact h.resetClient
  · rw [if_neg hin, if_neg fun hc => hin (hiff'.mp hc)]
    rfl

/-- The raw comparisons of `flushDataToServer` agree with the distances. -/
def FlushAgrees (d : Data) : Prop :=
  d.state = .ESTABLISHED → TestFine d ∧
    (d.isUpStreamComplete = false → St.offered d ≠ 0 → PlaceFine d d.receiveUser)

theorem Moved.complete (h : Moved k s t) (hs : TestFine s.data) (ht : TestFine t.data) :
    t.data.isUpStreamComplete = s.data.isUpStreamComplete := by
  have hd := h.data
  generalize t.data.lastAcknowledgedSequence = a at hd
  rw [hd] at ht ⊢
  exact complete_moved hs ht

theorem Moved.flushDataToServer (h : Moved k s t) (r : SendResult) (hs : FlushAgrees s.data)
    (ht : FlushAgrees t.data) : Alike k (s.flushDataToServer r) (t.flushDataToServer r) := by
  have hstate : t.data.state = s.data.state := by rw [h.data]; rfl
  have hoffered : St.offered t.data = St.offered s.data := by
    rw [h.data]
    exact offered_moved _ _ _
  by_cases hest : s.data.state = .ESTABLISHED
  · obtain ⟨htest, hplace⟩ := hs hest
    obtain ⟨htest', hplace'⟩ := ht (hstate.trans hest)
    have hcomplete := h.complete htest htest'
    unfold St.flushDataToServer
    simp only [hstate, hcomplete, hoffered, h.atFin]
    split_ifs with h1 h2 h3 h4
    · exact h
    · exact h
    · exact h.finishUpStream
    · have hc : s.data.isUpStreamComplete = false := by simpa using h2
      exact h.sendToServer r h4 (hplace hc h4) (hplace' (hcomplete.trans hc) (hoffered ▸ h4))
    · exact h
  · unfold St.flushDataToServer
    rw [if_pos hest, if_pos (by rw [hstate]; exact hest)]
    exact h

end

/-! ## the marks on the way of a payload -/

/-- the marks after `_trimReceiveBuffer` -/
def trimMarks (d : Data) : Data :=
  if d.receiveUser = d.receiveSequence then d else { d with receiveSequence := d.receiveNext }

/-- the marks, and whether the session is closed, after the FIN is passed on -/
def finishMarks (d : Data) : Data :=
  { d with
    receiveUser := d.receiveUser + 1
    state := if d.isDownStreamComplete then .CLOSED else d.state }

/-- the marks after what follows a send -/
def sendMarks (d : Data) : Data :=
  if d.clientReadFinished = true ∧ d.receiveUser = d.receiveNext - 1 then finishMarks d
  else if d.clientReadFinished = false ∧
      ¬ d.receiveUser - d.receiveSequence < d.mss.setWidth 32 then trimMarks d
  else d

/-- the marks after `flushDataToServer` -/
def flushMarks (d : Data) (r : SendResult) : Data :=
  if d.state ≠ .ESTABLISHED ∨ d.isUpStreamComplete = true ∨ St.offered d = 0 then d
  else match r with
    | .accepted n => sendMarks (sent d (.accepted n))
    | .wouldBlock => d
    | .error => { d with state := .CLOSED }

/-- the marks once there is room for a payload of `len` bytes -/
def roomMarks (d : Data) (len : U32) (r : SendResult) : Data :=
  if d.getReceiveAvailable < len then trimMarks (flushMarks d r) else d

/-- the members are those of `d`, up to what the marks do not tell -/
def UpTo (d d' : Data) : Prop :=
  d' = { d with
    receiveBuffer := d'.receiveBuffer
    receivePushSequence := d'.receivePushSequence
    mSock := d'.mSock }

theorem UpTo.trans {d d' d'' : Data} (h : UpTo d d') (h' : UpTo d' d'') : UpTo d d'' := by
  unfold UpTo at *
  rw [h']
  rw [h]

theorem closeSession_upTo (s : St) : UpTo { s.data with state := .CLOSED } s.closeSession.data := by
  unfold St.closeSession
  cases s.data.mSock <;> rfl

theorem trim_upTo {s s' : St} (he : s._trimReceiveBuffer = .ok s') :
    UpTo (trimMarks s.data) s'.data := by
  unfold St._trimReceiveBuffer at he
  dsimp only at he
  unfold trimMarks
  split_ifs at he ⊢ with h
  · cases he
    rfl
  · obtain ⟨b, _, hs'⟩ := bind_ok.mp he
    cases hs'
    rfl

theorem finishUpStream_upTo (s : St) : UpTo (finishMarks s.data) s.finishUpStream.data := by
  let t : St := { s with data := { s.data with receiveUser := s.data.receiveUser + 1 } }
  unfold finishMarks
  by_cases hdone : s.data.isDownStreamComplete = true
  · have e : s.finishUpStream = t.closeSession := if_pos hdone
    rw [e, if_pos hdone]
    exact closeSession_upTo t
  · have e : s.finishUpStream = t.emit .shutdownWrite := if_neg hdone
    rw [e, if_neg hdone]
    rfl

theorem finishSend_upTo {s s' : St} (he : s.finishSend = .ok s') :
    UpTo (sendMarks s.data) s'.data := by
  unfold sendMarks
  unfold St.finishSend at he
  by_cases hfin : s.data.clientReadFinished = true ∧ s.data.receiveUser = s.data.receiveNext - 1
  · rw [if_pos hfin] at he ⊢
    cases he
    exact finishUpStream_upTo s
  · rw [if_neg hfin] at he ⊢
    cases hf : s.data.clientReadFinished with
    | true =>
      rw [if_neg (by simp [hf])] at he
      cases he
      rw [if_neg (by simp)]
      rfl
    | false =>
      rw [if_pos (by simp [hf])] at he
      unfold St.trimReceiveBuffer at he
      by_cases hsmall : s.data.receiveUser - s.data.receiveSequence < s.data.mss.setWidth 32
      · rw [if_pos hsmall] at he
        cases he
        rw [if_neg fun h => h.2 hsmall]
        rfl
      · rw [if_neg hsmall] at he
        rw [if_pos ⟨rfl, hsmall⟩]
        exact trim_upTo he

theorem flush_upTo {s s' : St} {r : SendResult} (he : s.flushDataToServer r = .ok s') :
    UpTo (flushMarks s.data r) s'.data := by
  unfold St.flushDataToServer at he
  unfold flushMarks
  split_ifs at he with hs hc hfin hoff
  · cases he
    rw [if_pos (.inl hs)]
    rfl
  · cases he
    rw [if_pos (.inr (.inl hc))]
    rfl
  · exact (not_fin_of_incomplete (by simpa using hc) hfin).elim
  · rw [if_neg (by simp only [not_or]; exact ⟨hs, hc, hoff⟩)]
    unfold St.sendToServer at he
    dsimp only at he
    split_ifs at he
    cases r with
    | accepted n =>
      have h := finishSend_upTo he
      rw [taken_data] at h
      exact h
    | wouldBlock =>
      cases he
      rfl
    | error =>
      cases he
      exact closeSession_upTo (s.writePacket _)
  · cases he
    rw [if_pos (.inr (.inr (not_not.mp hoff)))]
    rfl

theorem trimMarks_upTo {d d' : Data} (h : UpTo d d') : UpTo (trimMarks d) (trimMarks d') := by
  rw [h]
  unfold trimMarks
  dsimp only
  split_ifs <;> rfl

theorem room_upTo {s s' : St} {len : U32} {r : SendResult} (he : s.makeRoom len r = .ok s') :
    UpTo (roomMarks s.data len r) s'.data := by
  unfold St.makeRoom at he
  unfold roomMarks
  split_ifs at he ⊢
  · obtain ⟨t, ht, he⟩ := bind_ok.mp he
    exact (trimMarks_upTo (flush_upTo ht)).trans (trim_upTo he)
  · cases he
    rfl

theorem payloadTaken_upTo {d d' : Data} (h : UpTo d d') (p : Packet) :
    UpTo (payloadTaken d p) (payloadTaken d' p) := by
  rw [h]
  rfl

theorem copy_upTo {s s' : St} (hf : s.data.clientReadFinished = false)
    (he : s.copyPayload = .ok s') : UpTo (payloadTaken s.data s.packet) s'.data := by
  obtain ⟨_, _, _, push, fin, hd, hfin⟩ := copyPayload_eq he
  rw [hd, hfin]
  unfold copiedTo payloadTaken
  rw [hf]
  have hb (b : Bool) : (if b = true then true else false) = b := by cases b <;> rfl
  dsimp only
  rw [hb]
  rfl

theorem finishMarks_upTo {d d' : Data} (h : UpTo d d') : UpTo (finishMarks d) (finishMarks d') := by
  rw [h]
  rfl

theorem sendMarks_upTo {d d' : Data} (h : UpTo d d') : UpTo (sendMarks d) (sendMarks d') := by
  have hfinish := finishMarks_upTo h
  have htrim := trimMarks_upTo h
  unfold sendMarks
  have hcond : (d'.clientReadFinished = true ∧ d'.receiveUser = d'.receiveNext - 1 ↔
      d.clientReadFinished = true ∧ d.receiveUser = d.receiveNext - 1) ∧
      (d'.clientReadFinished = false ∧ ¬ d'.receiveUser - d'.receiveSequence < d'.mss.setWidth 32 ↔
      d.clientReadFinished = false ∧ ¬ d.receiveUser - d.receiveSequence < d.mss.setWidth 32) := by
    rw [h]
    exact ⟨Iff.rfl, Iff.rfl⟩
  simp only [hcond.1, hcond.2]
  split_ifs
  · exact hfinish
  · exact htrim
  · exact h

theorem flushMarks_upTo {d d' : Data} (h : UpTo d d') (r : SendResult) :
    UpTo (flushMarks d r) (flushMarks d' r) := by
  have hcond : (d'.state ≠ .ESTABLISHED ∨ d'.isUpStreamComplete = true ∨ St.offered d' = 0) ↔
      (d.state ≠ .ESTABLISHED ∨ d.isUpStreamComplete = true ∨ St.offered d = 0) := by
    rw [h]
    exact Iff.rfl
  unfold flushMarks
  simp only [hcond]
  split_ifs
  · exact h
  · cases r with
    | accepted n =>
      refine sendMarks_upTo ?_
      rw [h]
      rfl
    | wouldBlock => exact h
    | error =>
      dsimp only
      rw [h]
      rfl

/-! ## what the raw comparisons have to agree on -/

theorem FlushAgrees.upTo {d d' : Data} (h : FlushAgrees d) (hd : UpTo d d') : FlushAgrees d' := by
  rw [hd]
  exact h

/-- the test for the end of both streams agrees with the distances -/
def FinishAgrees (d : Data) : Prop :=
  d.state ≠ .CLOSED → d.isDownStreamComplete = true → TestFine d

theorem FinishAgrees.upTo {d d' : Data} (h : FinishAgrees d) (hd : UpTo d d') : FinishAgrees d' := by
  rw [hd]
  exact h

/-- The raw comparisons on the way of a payload agree with the distances: those of the two sends,
the place that is copied to, and the test at the end. -/
structure PayloadAgrees (d : Data) (p : Packet) (i : ClientInput) : Prop where
  room : d.getReceiveAvailable < p.getDataLength → FlushAgrees d
  copy : let d' := roomMarks d p.getDataLength i.firstSend
    p.copiedData d'.getReceiveAvailable ≠ [] → PlaceFine d' d'.receiveNext
  send : FlushAgrees (payloadTaken (roomMarks d p.getDataLength i.firstSend) p)
  finish : FinishAgrees
    (flushMarks (payloadTaken (roomMarks d p.getDataLength i.firstSend) p) i.send)

section
variable {k : U32} {s t : St}

theorem Moved.available (h : Moved k s t) :
    t.data.getReceiveAvailable = s.data.getReceiveAvailable := by
  rw [h.data]
  exact available_moved

theorem Moved.makeRoom (h : Moved k s t) (len : U32) (r : SendResult)
    (hs : s.data.getReceiveAvailable < len → FlushAgrees s.data)
    (ht : t.data.getReceiveAvailable < len → FlushAgrees t.data) :
    Alike k (s.makeRoom len r) (t.makeRoom len r) := by
  unfold St.makeRoom
  rw [h.available] at ht ⊢
  split_ifs with hlen
  · exact (h.flushDataToServer r (hs hlen) (ht hlen)).bind fun u v _ _ huv => huv.trimNow
  · exact h

theorem copied_moved (h : Moved k s t) : copied t = copied s := by
  unfold copied Packet.copiedData
  rw [h.packet.payload, h.available]

theorem Moved.copyPayload (h : Moved k s t)
    (hs : copied s ≠ [] → PlaceFine s.data s.data.receiveNext)
    (ht : copied t ≠ [] → PlaceFine t.data t.data.receiveNext) :
    Alike k s.copyPayload t.copyPayload := by
  have hbytes := copied_moved h
  have hd := h.data
  generalize ha : t.data.lastAcknowledgedSequence = a at hd
  -- the accesses of the two runs
  have hin : (InRange (offset t.data.receiveNext t.data.receiveSequence) (copied s).length
      RECEIVE_BUFFER_SIZE ↔ InRange (offset s.data.receiveNext s.data.receiveSequence)
        (copied s).length RECEIVE_BUFFER_SIZE) ∧
      (InRange (offset s.data.receiveNext s.data.receiveSequence) (copied s).length
        RECEIVE_BUFFER_SIZE → t.data.receiveBuffer.write
          (offset t.data.receiveNext t.data.receiveSequence).toNat (copied s) =
        s.data.receiveBuffer.write (offset s.data.receiveNext s.data.receiveSequence).toNat
          (copied s)) := by
    rw [hbytes] at ht
    by_cases hnil : copied s = []
    · rw [hnil]
      refine ⟨iff_of_true (.inl rfl) (.inl rfl), fun _ => ?_⟩
      rw [Mem.write_nil, Mem.write_nil, hd]
      rfl
    · have hcount : ((copied s).length : Int) ≠ 0 := by
        have hpos := List.length_pos_iff.mpr hnil
        omega
      have hplace := ht hnil
      rw [hd] at hplace ⊢
      obtain ⟨h1, h2⟩ := inRange_moved hcount (hs hnil) hplace
      refine ⟨h1, fun hin => ?_⟩
      show s.data.receiveBuffer.write (offset (s.data.receiveNext + k) _).toNat _ = _
      rw [h2 hin]
  have hfin : takesFin t.packet (copied s).length = takesFin s.packet (copied s).length := by
    unfold takesFin Packet.getDataLength
    rw [h.packet.isFin, h.packet.payload]
  have hpush : pushedTo t = pushedTo s + k := by
    unfold pushedTo
    rw [hbytes, h.packet.isPush, hd]
    split_ifs
    · exact shift_add _ _ _
    · rfl
  rw [copyPayload_def, copyPayload_def, hbytes, hfin, hpush]
  by_cases hok : InRange (offset s.data.receiveNext s.data.receiveSequence) (copied s).length
      RECEIVE_BUFFER_SIZE
  · rw [if_pos hok, if_pos (hin.1.mpr hok)]
    refine ⟨⟨?_, h.shared, observed_snoc h.log _⟩, h.packet⟩
    dsimp only [copiedTo]
    rw [hin.2 hok, ha, hd]
    dsimp only [Data.moved]
    rw [shift_add_add]
  · rw [if_neg hok, if_neg fun hc => hok (hin.1.mp hc)]
    rfl

/-- the place that is copied to, once there is room -/
theorem payload_place {u : St} {i : ClientInput} (hs : PayloadAgrees s.data s.packet i)
    (hu : s.makeRoom s.packet.getDataLength i.firstSend = .ok u) (hne : copied u ≠ []) :
    PlaceFine u.data u.data.receiveNext := by
  have hroom := room_upTo hu
  have hcopied : copied u = s.packet.copiedData
      (roomMarks s.data s.packet.getDataLength i.firstSend).getReceiveAvailable := by
    unfold copied Packet.copiedData
    rw [hroom, (makeRoom_frame hu).payload]
    rfl
  have hplace := hs.copy (hcopied ▸ hne)
  rw [hroom]
  exact hplace

/-- the second send, and the test at the end -/
theorem payload_agrees {u v : St} {i : ClientInput} (hs : PayloadAgrees s.data s.packet i)
    (hf : s.data.clientReadFinished = false)
    (hu : s.makeRoom s.packet.getDataLength i.firstSend = .ok u) (hv : u.copyPayload = .ok v) :
    FlushAgrees v.data ∧ ∀ w, v.flushDataToServer i.send = .ok w → FinishAgrees w.data := by
  have hroom := room_upTo hu
  have hframe := makeRoom_frame hu
  have hfu := hframe.clientReadFinished.trans hf
  rcases hframe.packet with hp | hc
  · have hmarks : UpTo (payloadTaken (roomMarks s.data s.packet.getDataLength i.firstSend)
        s.packet) v.data := by
      have h1 := copy_upTo hfu hv
      rw [hp] at h1
      exact (payloadTaken_upTo hroom s.packet).trans h1
    exact ⟨hs.send.upTo hmarks,
      fun w hw => hs.finish.upTo ((flushMarks_upTo hmarks i.send).trans (flush_upTo hw))⟩
  · have hclosed : v.data.state = .CLOSED := by
      obtain ⟨_, _, _, _, _, hd, _⟩ := copyPayload_eq hv
      rw [hd]
      exact hc
    refine ⟨fun hest => absurd (hclosed.symm.trans hest) (by decide), fun w hw hopen => ?_⟩
    exact absurd ((flushDataToServer_frame hw).marks.state hclosed) hopen

theorem Moved.acceptPayload (h : Moved k s t) {i : ClientInput}
    (hf : s.data.clientReadFinished = false) (hs : PayloadAgrees s.data s.packet i)
    (ht : PayloadAgrees t.data t.packet i) :
    EndsLike (fun u v => Moved k u v ∧ FinishAgrees u.data ∧ FinishAgrees v.data)
      (s.acceptPayload i) (t.acceptPayload i) := by
  have hft : t.data.clientReadFinished = false := by
    rw [h.data]
    exact hf
  have hlength : t.packet.getDataLength = s.packet.getDataLength := by
    unfold Packet.getDataLength
    rw [h.packet.payload]
  have hroom := h.makeRoom s.packet.getDataLength i.firstSend hs.room (hlength ▸ ht.room)
  unfold St.acceptPayload
  rw [← hlength] at hroom ⊢
  refine hroom.bind fun u u' hu hu' huu => ?_
  rw [hlength] at hu
  have hcopy := huu.copyPayload (payload_place hs hu) (payload_place ht hu')
  refine hcopy.bind fun v v' hv hv' hvv => ?_
  obtain ⟨h1, h2⟩ := payload_agrees hs hf hu hv
  obtain ⟨h1', h2'⟩ := payload_agrees ht hft hu' hv'
  exact (hvv.flushDataToServer i.send h1 h1').and fun w w' hw hw' _ => ⟨h2 w hw, h2' w' hw'⟩

end

end TunServer.Session
