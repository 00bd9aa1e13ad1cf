import TunServer.OldHandler.Loop

/-!
# Segments without a connection

A segment that belongs to no connection is answered in two places: `handleUpStream` answers it when no
open session took it, and `receiveFromClient` when the session is closed.

* `Reply`    what is compared of an answer: its ends, flags and numbers;
* `closed_replies`   the answers of a closed session;
* `Untaken`  the packet object of a packet nobody has taken is the packet as it was read;
* `replies_agree_iff`   the packets that get the same answer in both places.
-/

set_option linter.unusedVariables false

namespace TunServer.OldHandler

open Session (Data Shared Packet Incoming Event Fault ClientInput ServerInput SendResult)

/-! ## answers -/

structure Reply where
  source : SockAddr
  destination : SockAddr
  isSyn : Bool
  isAck : Bool
  isReset : Bool
  isFin : Bool
  isPush : Bool
  sequenceNumber : U32
  acknowledgmentNumber : U32
  deriving DecidableEq, Repr

def reply (p : Packet) : Reply :=
  ⟨p.source, p.destination, p.isSyn, p.isAck, p.isReset, p.isFin, p.isPush, p.getSequenceNumber,
    p.getAcknowledgmentNumber⟩

/-- what is written to the tunnel -/
def written : Event → List Packet
  | .written p => [p]
  | _ => []

/-- the answers a call has added to the log -/
def replies (l l' : List Event) : List Reply := ((l'.drop l.length).flatMap written).map reply

theorem replies_refl (l : List Event) : replies l l = [] := by
  unfold replies
  rw [List.drop_length]
  rfl

theorem replies_written (l : List Event) (p : Packet) : replies l (l ++ [.written p]) = [reply p] := by
  unfold replies
  rw [List.drop_left]
  rfl

/-- a reset from the server of the packet -/
def resetSeq (p : Packet) : Reply :=
  ⟨p.destination, p.source, false, false, true, false, false, p.getAcknowledgmentNumber, 0⟩

/-- a reset that acknowledges the packet -/
def resetAck (p : Packet) : Reply :=
  ⟨p.destination, p.source, false, true, true, false, false, 0,
    p.getSequenceNumber + p.getSegmentLength⟩

/-- **A closed session** answers a RST with nothing, an ACK with a reset that has its number, and the
rest with a reset that acknowledges it. -/
theorem closed_replies {s : Session.St} (hs : s.data.state = .CLOSED) (hsyn : s.packet.isSyn = false)
    (i : ClientInput) : ∃ t, s.receiveFromClient i = .ok t ∧ replies s.log t.log =
      if s.packet.isReset then []
      else if s.packet.isAck then [resetSeq s.packet] else [resetAck s.packet] := by
  unfold Session.St.receiveFromClient
  rw [if_neg (by rw [hsyn]; decide)]
  by_cases hrst : s.packet.isReset = true
  · rw [if_pos hrst, if_pos hrst]
    refine ⟨_, rfl, ?_⟩
    unfold Session.St.receiveReset
    rw [if_neg fun h => h.1 hs]
    exact replies_refl s.log
  · rw [if_neg hrst, if_neg hrst]
    have hreset : ∀ (b : Bool), s.packet.isAck = b → replies s.log s.sendReset.log =
        if b then [resetSeq s.packet] else [resetAck s.packet] := by
      intro b hb
      have hb' : s.packet.swapEnds.isAck = b := hb
      unfold Session.St.sendReset
      dsimp only
      rw [hb']
      cases b <;> exact replies_written s.log _
    by_cases hack : s.packet.isAck = true
    · rw [if_pos hack, if_pos hack]
      refine ⟨s.sendReset, ?_, hreset true hack⟩
      unfold Session.St.receiveAck
      rw [hs]
    · rw [if_neg hack, if_neg hack]
      exact ⟨s.sendReset, rfl, hreset false (by simpa using hack)⟩

/-! ## the packet nobody has taken -/

/-- a packet that is being offered is the packet as it was read until somebody takes it -/
def Untaken (s : St) : Prop :=
  s.pc = .offering ∨ s.pc = .calling → s.delivered = [] →
    s.packet = s.received ∧ s.isHandled = false ∧ s.isSyn = s.received.isSyn

theorem Untaken.between {s : St} (h : s.pc = .reading ∨ s.pc = .flushing) : Untaken s := by
  rintro (hpc | hpc)
  · rcases h with h | h <;> cases hpc.symm.trans h
  · rcases h with h | h <;> cases hpc.symm.trans h

theorem untaken_read (s : St) (p : Incoming) : Untaken (s.read p) := fun _ _ => ⟨rfl, rfl, rfl⟩

theorem untaken_offer {s : St} (h : Untaken s) (hpc : s.pc = .offering) (d : Data) :
    Untaken (s.offer d) := by
  have hs := h (.inl hpc)
  unfold St.offer
  split_ifs
  · exact fun _ hd => hs hd
  · exact fun _ hd => hs hd
  · exact fun _ hd => hs hd

theorem untaken_call {s : St} (d : Data) (i : ClientInput) :
    Ends (fun _ => True) Untaken (s.call d i) := by
  unfold St.call St.deliver
  cases (s.session d s.packet).receiveFromClient i with
  | error e => trivial
  | ok t => exact fun _ hd => absurd hd (List.append_ne_nil_of_right_ne_nil _ (List.cons_ne_nil _ _))

/-- **One step** keeps the packet that nobody has taken. -/
theorem step_untaken (s : St) (o : Op) (h : Untaken s) (_ : True) :
    Ends (fun _ => True) Untaken (step s o) := by
  cases o with
  | noPacket =>
    unfold step
    split_ifs with hpc
    · exact .between (.inr rfl)
    · exact h
  | read p =>
    unfold step
    split_ifs with hpc
    · exact untaken_read s p
    · exact h
  | offer =>
    unfold step
    dsimp only
    split
    case h_1 d hpc hd => exact untaken_offer h hpc d
    case h_2 => exact h
  | call i =>
    unfold step
    dsimp only
    split
    case h_1 d hpc hd => exact untaken_call d i
    case h_2 => exact h
  | afterLoop i =>
    unfold step
    dsimp only
    split
    case h_1 hpc hend =>
      exact Ends.bind (P := fun _ => True) (by cases s.finishPacket i <;> trivial)
        fun t _ => .between (.inr rfl)
    case h_2 => exact h
  | flush r =>
    unfold step
    dsimp only
    split
    case h_1 d hpc hd =>
      unfold St.flush
      split_ifs
      · exact .between (.inr hpc)
      · exact Ends.bind (P := fun _ => True)
          (by cases (s.session d s.packet).flushDataToServer r <;> trivial)
          fun t _ => .between (.inr hpc)
    case h_2 hpc hend => exact .between (.inl rfl)
    case h_3 => exact h
  | receiveFromServer k i =>
    unfold step
    dsimp only
    split
    case h_1 d hd =>
      unfold St.receiveFromServer
      split_ifs
      · exact h
      · exact Ends.bind (P := fun _ => True)
          (by cases (s.session d s.downPacket).receiveFromServer i <;> trivial) fun t _ => h
    case h_2 => exact h
  | flushDataToClient k now turns =>
    unfold step
    dsimp only
    split
    case h_1 d hd =>
      unfold St.flushDataToClient
      split_ifs
      · exact h
      · exact Ends.bind (P := fun _ => True)
          (by cases (s.session d s.downPacket).flushDataToClient now turns <;> trivial) fun t _ => h
    case h_2 => exact h

theorem run_untaken {shared : Shared} {up down : Packet} {l : List Op} {s : St}
    (h : runM step (.init shared up down) l = .ok s) : Untaken s :=
  (runM_ends Untaken step_untaken (.between (.inl rfl)) (alongM_true step _ l)).ok h

/-! ## the two paths -/

/-- A packet that is no SYN has been read, and all connections were offered it: no open one took it. -/
structure Unclaimed (s : St) : Prop where
  offering : s.pc = .offering
  all : s.connections[s.iterator]? = none
  none : s.delivered = []
  noSyn : s.received.isSyn = false

/-- the answer of the handler -/
theorem unclaimed_replies {s : St} (h : Unclaimed s) (hs : Untaken s) (i : ClientInput) :
    ∃ t, s.afterLoop i = .ok t ∧ replies s.log t.log = [resetSeq s.received] := by
  obtain ⟨hpacket, hhandled, hsyn⟩ := hs (.inl h.offering) h.none
  have hfinish : s.finishPacket i = .ok s.reset := by
    unfold St.finishPacket
    rw [if_neg (by rw [hhandled]; decide), if_neg (by rw [hsyn, h.noSyn]; decide)]
  refine ⟨{ s.reset with pc := .flushing, iterator := 0 }, ?_, ?_⟩
  · unfold St.afterLoop
    rw [hfinish]
    rfl
  · rw [← hpacket]
    exact replies_written s.log _

/-- the handler and a closed session answer the packet alike -/
def Agree (s : St) (d : Data) (i j : ClientInput) : Prop :=
  ∃ t u, s.afterLoop i = .ok t ∧ (s.session d s.received).receiveFromClient j = .ok u ∧
    replies s.log t.log = replies s.log u.log

theorem agree_iff {s : St} (h : Unclaimed s) (hs : Untaken s) {d : Data} (hd : d.state = .CLOSED)
    (i j : ClientInput) :
    Agree s d i j ↔ s.received.isAck = true ∧ s.received.isReset = false := by
  obtain ⟨t, ht, hreply⟩ := unclaimed_replies h hs i
  obtain ⟨u, hu, hclosed⟩ := closed_replies (s := s.session d s.received) hd h.noSyn j
  have hclosed' : replies s.log u.log = if s.received.isReset then []
      else if s.received.isAck then [resetSeq s.received] else [resetAck s.received] := hclosed
  have hagree : Agree s d i j ↔ replies s.log t.log = replies s.log u.log := by
    constructor
    · rintro ⟨t', u', ht', hu', he⟩
      cases ht.symm.trans ht'
      cases hu.symm.trans hu'
      exact he
    · exact fun he => ⟨t, u, ht, hu, he⟩
  rw [hagree, hreply, hclosed']
  cases hrst : s.received.isReset with
  | true => exact ⟨fun he => (by cases he), fun he => (by cases he.2)⟩
  | false =>
    cases hack : s.received.isAck with
    | true => exact ⟨fun _ => ⟨rfl, rfl⟩, fun _ => rfl⟩
    | false =>
      refine ⟨fun he => ?_, fun he => (by cases he.1)⟩
      -- one answer has the ACK flag, the other has not
      cases congrArg (List.map Reply.isAck) he

/-- **Two paths for segments without a connection.**  In every run, a packet without SYN that no open
session takes gets the same answer from the handler as from a closed session exactly if it is an ACK
and no RST. -/
theorem replies_agree_iff {shared : Shared} {up down : Packet} {l : List Op} {s : St}
    (hrun : runM step (.init shared up down) l = .ok s) (h : Unclaimed s) {d : Data}
    (hd : d.state = .CLOSED) (i j : ClientInput) :
    Agree s d i j ↔ s.received.isAck = true ∧ s.received.isReset = false :=
  agree_iff h (run_untaken hrun) hd i j

/-- a handler without connections that has read the packet -/
def justRead (p : Incoming) : St := (St.init ⟨∅, ∅, ∅, 0, 0⟩ p p).read p

theorem justRead_unclaimed {p : Incoming} (h : p.val.isSyn = false) : Unclaimed (justRead p) :=
  ⟨rfl, rfl, rfl, h⟩

/-- nothing was asked of a server -/
def noServer : ClientInput := ⟨0, 0, false, false, 0, .wouldBlock, .wouldBlock, 0, 0⟩

/-- an ACK nobody has taken -/
theorem replies_agree_ack : Agree (justRead (Session.ackPacket ⟨1, 1⟩ ⟨2, 2⟩ false 7 9)) Data.init
    noServer noServer :=
  (replies_agree_iff (l := [.read (Session.ackPacket ⟨1, 1⟩ ⟨2, 2⟩ false 7 9)]) rfl
    (justRead_unclaimed rfl) rfl noServer noServer).mpr ⟨rfl, rfl⟩

/-- a RST nobody has taken -/
theorem replies_disagree : ¬ ∀ (shared : Shared) (up down : Packet) (l : List Op) (s : St) (d : Data)
    (i j : ClientInput), runM step (.init shared up down) l = .ok s → Unclaimed s →
      d.state = .CLOSED → Agree s d i j := by
  intro h
  let p := Session.resetPacket ⟨1, 1⟩ ⟨2, 2⟩ 7
  have hagree := h ⟨∅, ∅, ∅, 0, 0⟩ p p [.read p] (justRead p) Data.init noServer noServer rfl
    (justRead_unclaimed rfl) rfl
  have hs : Untaken (justRead p) := untaken_read _ p
  exact absurd ((agree_iff (justRead_unclaimed rfl) hs rfl _ _).mp hagree) (by decide)

end TunServer.OldHandler
