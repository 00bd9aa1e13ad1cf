import TunServer.Sessions2.Acknowledge

/-!
# Segments that are rejected

* `Rejected`             the segments a session has no use for, whatever state it is in;
* `rejected_unchanged`   none of them changes the session or the descriptor sets, and each is
                         answered by one segment at most;
* `reset_exact`          a reset closes the session exactly if its number lies in the window that
                         begins at the number expected next, and is never answered.
-/

set_option linter.unusedVariables false

namespace TunServer.Sessions2

/-- The distance `off` of a reset's number from the first byte in the buffer lies in the receive
window: behind the bytes and the FIN that were received, and, while there is room, not farther than
it reaches. -/
def InReceiveWindow (d : Data) (p : Packet) : Prop :=
  let off := (p.getSequenceNumber - d.receiveSent).toNat
  let next := d.receiveBuffer.bytes.length + (if d.receiveFromClientFinished then 1 else 0)
  let room := BUFFER_SIZE - d.receiveBuffer.bytes.length
  if room ≠ 0 then next ≤ off ∧ off < next + room else off = next

instance (d : Data) (p : Packet) : Decidable (InReceiveWindow d p) := by
  unfold InReceiveWindow
  infer_instance

/-- the segments that a session rejects -/
inductive Rejected (d : Data) (p : Packet) (i : ClientInput) : Prop where
  | synAck (hsyn : p.isSyn = true) (hack : p.isAck = true)
  | syn (hsyn : p.isSyn = true) (hs : d.state ≠ .CLOSED)
  | refused (hsyn : p.isSyn = true) (hs : d.state = .CLOSED)
      (hc : i.connect = .thrown ∨ 14 < p.windowShift)
  | reset (hsyn : p.isSyn = false) (hrst : p.isReset = true) (hwin : ¬ InReceiveWindow d p)
  | bare (hsyn : p.isSyn = false) (hrst : p.isReset = false) (hack : p.isAck = false)
  | early (hsyn : p.isSyn = false) (hrst : p.isReset = false) (hack : p.isAck = true)
      (hs : d.state = .CLOSED ∨ d.state = .SYN_RECEIVED)
  | handshake (hsyn : p.isSyn = false) (hrst : p.isReset = false) (hack : p.isAck = true)
      (hs : d.state = .SYN_ACK_SENT) (hnum : p.getSequenceNumber ≠ d.receiveSent ∨
        p.getAcknowledgmentNumber ≠ d.sendUnacknowledged)
  | order (hsyn : p.isSyn = false) (hrst : p.isReset = false) (hack : p.isAck = true)
      (hs : d.state = .ESTABLISHED) (hseq : p.getSequenceNumber ≠
        d.receiveSent + d.receiveBuffer.position + b32 d.receiveFromClientFinished)
  | range (hsyn : p.isSyn = false) (hrst : p.isReset = false) (hack : p.isAck = true)
      (hs : d.state = .ESTABLISHED) (hoff : d.sendNextOffset.toNat +
        (if d.sentFinToClient then 1 else 0) < (p.getAcknowledgmentNumber - d.sendUnacknowledged).toNat)

/-- nothing but one segment, at most, comes of the call -/
structure Unchanged (s s' : St) : Prop where
  data : s'.data = s.data
  shared : s'.shared = s.shared
  log : s'.log = s.log ∨ ∃ q, s'.log = s.log ++ [.sendBack s.data q]

section
variable {s : St}

theorem Unchanged.refl (s : St) : Unchanged s s := ⟨rfl, rfl, .inl rfl⟩

theorem Unchanged.answer (s : St) (q : Packet) : Unchanged s (s.sendBack q) :=
  ⟨rfl, rfl, .inr ⟨q, rfl⟩⟩

theorem sendReset_unchanged (s : St) : Unchanged s s.sendReset := by
  unfold St.sendReset
  dsimp only
  split_ifs
  · exact .answer s _
  · exact .answer s _

/-- the comparisons of 32 bits are comparisons of numbers: everything lies in a buffer -/
theorem resetInWindow_iff (d : Data) (p : Packet) :
    St.resetInWindow d p = true ↔ InReceiveWindow d p := by
  have h1 := d.receiveBuffer.position_toNat
  have h2 := d.receiveBuffer.available_toNat
  have h3 := d.receiveBuffer.fits
  have h4 : d.receiveBuffer.available ≠ 0 ↔ BUFFER_SIZE - d.receiveBuffer.bytes.length ≠ 0 := by
    rw [← h2]
    exact not_congr ⟨fun h => by rw [h]; rfl, fun h => BitVec.eq_of_toNat_eq h⟩
  unfold St.resetInWindow InReceiveWindow
  unfold BUFFER_SIZE at *
  dsimp only
  by_cases h : d.receiveBuffer.available ≠ 0
  · rw [if_pos h, if_pos (h4.mp h), decide_eq_true_eq]
    cases d.receiveFromClientFinished <;>
      simp only [b32_true, b32_false, if_true, if_false, Bool.false_eq_true]
    · bv_omega
    · bv_omega
  · rw [if_neg h, if_neg (fun hc => h (h4.mpr hc)), decide_eq_true_eq]
    cases d.receiveFromClientFinished <;>
      simp only [b32_true, b32_false, if_true, if_false, Bool.false_eq_true]
    · bv_omega
    · bv_omega

/-- **What comes of a rejected segment.** -/
theorem Rejected.handlePacket {IP_MSS : U16} {i : ClientInput} (h : Rejected s.data s.packet i)
    (hm : Marks s.data) : Unchanged s (s.handlePacket IP_MSS i) := by
  unfold St.handlePacket
  cases h with
  | synAck hsyn hack =>
    rw [if_pos hsyn, if_pos hack]
    exact sendReset_unchanged s
  | syn hsyn hs =>
    rw [if_pos hsyn]
    split_ifs
    · exact sendReset_unchanged s
    · unfold St.receiveSyn
      cases hst : s.data.state with
      | CLOSED => exact absurd hst hs
      | SYN_RECEIVED =>
        dsimp only
        split_ifs
        · exact sendReset_unchanged s
        · exact .refl s
      | SYN_ACK_SENT =>
        dsimp only
        split_ifs
        · exact sendReset_unchanged s
        · have e : { s.sendSynAck with data.state := .SYN_ACK_SENT } = s.sendSynAck := by
            rw [← hst]
            rfl
          rw [e]
          exact .answer s _
      | ESTABLISHED => exact .answer s _
  | refused hsyn hs hc =>
    rw [if_pos hsyn]
    split_ifs
    · exact sendReset_unchanged s
    · unfold St.receiveSyn St.openSession
      rw [hs]
      dsimp only
      cases hcon : i.connect with
      | thrown => exact sendReset_unchanged s
      | returned res =>
        have hshift : 14 < s.packet.windowShift :=
          hc.resolve_left fun ht => by rw [hcon] at ht; cases ht
        dsimp only
        rw [if_pos hshift]
        exact sendReset_unchanged s
  | reset hsyn hrst hwin =>
    rw [if_neg (by simp [hsyn]), if_pos hrst]
    unfold St.receiveReset
    rw [if_neg (fun hc => hwin ((resetInWindow_iff _ _).mp hc))]
    split_ifs <;> exact .refl s
  | bare hsyn hrst hack =>
    rw [if_neg (by simp [hsyn]), if_neg (by simp [hrst]), if_neg (by simp [hack])]
    exact sendReset_unchanged s
  | early hsyn hrst hack hs =>
    rw [if_neg (by simp [hsyn]), if_neg (by simp [hrst]), if_pos hack]
    unfold St.receiveAck
    rcases hs with hs | hs <;> rw [hs] <;> exact sendReset_unchanged s
  | handshake hsyn hrst hack hs hnum =>
    rw [if_neg (by simp [hsyn]), if_neg (by simp [hrst]), if_pos hack]
    unfold St.receiveAck
    rw [hs]
    dsimp only
    rw [if_pos hnum]
    exact sendReset_unchanged s
  | order hsyn hrst hack hs hseq =>
    rw [if_neg (by simp [hsyn]), if_neg (by simp [hrst]), if_pos hack]
    have hno : ¬ St.inOrder s.data s.packet = true := by
      unfold St.inOrder
      rw [decide_eq_true_eq]
      intro hc
      refine hseq ?_
      rw [BitVec.add_assoc, ← hc]
      bv_omega
    unfold St.receiveAck
    rw [hs]
    dsimp only
    rw [if_pos hno]
    exact .answer s _
  | range hsyn hrst hack hs hoff =>
    rw [if_neg (by simp [hsyn]), if_neg (by simp [hrst]), if_pos hack]
    have hno : ¬ St.ackInRange s.data s.packet = true := by
      have h1 := s.data.sendBuffer.position_le
      have h2 := hm.next
      unfold St.ackInRange St.ackOff
      rw [decide_eq_true_eq, BitVec.le_def]
      cases hf : s.data.sentFinToClient <;> rw [hf] at hoff <;>
        simp only [b32_true, b32_false, if_true, if_false, Bool.false_eq_true] at hoff ⊢
      · bv_omega
      · bv_omega
    unfold St.receiveAck
    rw [hs]
    dsimp only
    by_cases hseq : St.inOrder s.data s.packet = true
    · rw [if_neg (not_not.mpr hseq), if_pos hno]
      exact .answer s _
    · rw [if_pos hseq]
      exact .answer s _

/-- **A rejected segment changes nothing.** -/
theorem rejected_unchanged {IP_MSS : U16} {s0 : St} {ops : List Op} (h0 : s0.data = .init IP_MSS)
    (hret : (run (step IP_MSS) s0 ops).hung = false) (p : Incoming) {i : ClientInput}
    (hp : canHandle (run (step IP_MSS) s0 ops).data p.val = true)
    (h : Rejected (run (step IP_MSS) s0 ops).data p.val i) :
    Unchanged (run (step IP_MSS) s0 ops)
      (step IP_MSS (run (step IP_MSS) s0 ops) (.receiveFromClient p i)) := by
  have hr := represented_reached h0 hret
  generalize run (step IP_MSS) s0 ops = s at hret hp h hr ⊢
  have h1 := @Rejected.handlePacket { s with packet := p.val } IP_MSS i h hr.marks
  unfold step receiveFromClient
  rw [if_neg (by simp [hret])]
  dsimp only
  rw [if_pos hp]
  exact ⟨h1.data, h1.shared, h1.log⟩

/-! ## resets -/

/-- the number that a segment in order has -/
def nextExpected (d : Data) : U32 :=
  d.receiveSent + d.receiveBuffer.position + b32 d.receiveFromClientFinished

theorem inOrder_iff (d : Data) (p : Packet) :
    St.inOrder d p = true ↔ p.getSequenceNumber = nextExpected d := by
  unfold St.inOrder nextExpected
  rw [decide_eq_true_eq]
  constructor
  · intro h
    bv_omega
  · intro h
    bv_omega

/-- The comparisons are made with distances from the first byte in the buffer; they mean the distance
from the number expected next, as the buffer does not reach far enough for a sum to wrap. -/
theorem inReceiveWindow_iff (d : Data) (p : Packet) : InReceiveWindow d p ↔
    (p.getSequenceNumber - nextExpected d).toNat < max 1 d.receiveBuffer.available.toNat := by
  have h1 := d.receiveBuffer.position_toNat
  have h2 := d.receiveBuffer.fits
  rw [d.receiveBuffer.available_toNat]
  unfold InReceiveWindow nextExpected
  unfold BUFFER_SIZE at *
  dsimp only
  cases d.receiveFromClientFinished <;>
    simp only [b32_true, b32_false, if_true, if_false, Bool.false_eq_true]
  · split_ifs with h
    · bv_omega
    · bv_omega
  · split_ifs with h
    · bv_omega
    · bv_omega

/-- **A reset closes an open session exactly if it is in the window**: less than the free space, and
at least one, from the number expected next.  Any other reset changes nothing, and none is answered.
This is so in every state of the session, whichever calls led there. -/
theorem reset_exact {IP_MSS : U16} (hret : s.hung = false) (hs : s.data.state ≠ .CLOSED)
    {p : Incoming} (hp : canHandle s.data p.val = true) (hsyn : p.val.isSyn = false)
    (hrst : p.val.isReset = true) (i : ClientInput) :
    let s' := step IP_MSS s (.receiveFromClient p i)
    let InWindow := (p.val.getSequenceNumber - nextExpected s.data).toNat <
      max 1 s.data.receiveBuffer.available.toNat
    (∀ q : Packet, St.inOrder s.data q = true ↔ q.getSequenceNumber = nextExpected s.data) ∧
      (s'.data.state = .CLOSED ↔ InWindow) ∧ (¬ InWindow → s' = s) ∧
      (s'.log = s.log ∨ s'.log = s.log ++ [.onSocketClose]) := by
  have hstep : step IP_MSS s (.receiveFromClient p i) =
      { St.receiveReset { s with packet := p.val } with packet := s.packet } := by
    unfold step receiveFromClient St.handlePacket
    simp [hret, hp, hsyn, hrst]
  have hwin := (resetInWindow_iff s.data p.val).trans (inReceiveWindow_iff s.data p.val)
  refine ⟨inOrder_iff s.data, ?_⟩
  rw [hstep]
  unfold St.receiveReset
  rw [if_pos (show ({ s with packet := p.val } : St).data.state ≠ .CLOSED from hs)]
  dsimp only
  by_cases h : St.resetInWindow s.data p.val = true
  · rw [if_pos h]
    refine ⟨iff_of_true ?_ (hwin.mp h), fun hc => absurd (hwin.mp h) hc, .inr ?_⟩
    · rw [St.closeSession_data]
    · rw [St.closeSession_log]
  · rw [if_neg h]
    exact ⟨iff_of_false hs fun hc => h (hwin.mpr hc), fun _ => rfl, .inl rfl⟩

end

/-- the client's window shift is too large -/
theorem rejected_unchanged_shift :
    let p : Incoming := ⟨{ uploadSyn with windowShift := 15 }, rfl⟩
    Unchanged (unused 576) (step 576 (unused 576) (.receiveFromClient p connected)) :=
  @rejected_unchanged 576 (unused 576) [] rfl rfl ⟨{ uploadSyn with windowShift := 15 }, rfl⟩ connected
    (by decide) (.refused (by decide) rfl (.inr (by decide)))

/-- an established session, and a reset one byte behind the number expected next -/
theorem reset_exact_ahead :
    let s := run (step 576) (unused 576) [.receiveFromClient (synPacket clientA serverA 100 1000) connected,
      .receiveFromClient (ackPacket clientA serverA 101 1000 1000) connected]
    let s' := step 576 s (.receiveFromClient (resetPacket clientA serverA 102) connected)
    let InWindow := ((102 : U32) - nextExpected s.data).toNat < max 1 s.data.receiveBuffer.available.toNat
    (∀ q : Packet, St.inOrder s.data q = true ↔ q.getSequenceNumber = nextExpected s.data) ∧
      (s'.data.state = .CLOSED ↔ InWindow) ∧ (¬ InWindow → s' = s) ∧
      (s'.log = s.log ∨ s'.log = s.log ++ [.onSocketClose]) :=
  @reset_exact (run (step 576) (unused 576)
    [.receiveFromClient (synPacket clientA serverA 100 1000) connected,
      .receiveFromClient (ackPacket clientA serverA 101 1000 1000) connected]) 576 (by decide) (by decide)
    (resetPacket clientA serverA 102) (by decide) rfl rfl connected

end TunServer.Sessions2
