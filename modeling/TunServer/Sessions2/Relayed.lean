import TunServer.Base.Relay
import TunServer.Sessions2.Acknowledge
import TunServer.Sessions2.Life

/-!
# A session is a relay

Between the client and the server a session is a relay: a pipe each way, with room for `BUFFER_SIZE`
bytes.  The server's side sees of it the calls of its socket.

* `relayOf`         the relay that the data of a session stand for;
* `ServerCall`, `shown`   what is seen of a session, and what of a relay;
* `Cuts`            the calls that may cut a stream off;
* `Relays`          a call is a path of the relay that shows what was seen, cut off only if it may be;
* `relayed`         so is every call of every run, whatever its packets, reads, sends and clocks.
-/

set_option linter.unusedVariables false

namespace TunServer.Sessions2

/-- the calls of the server socket -/
inductive ServerCall where
  | sent (bs : List Byte)
  | received (bs : List Byte)
  | shutdownWrite
  | onSocketClose
  deriving DecidableEq, Repr

def Event.serverCalls : Event → List ServerCall
  | .sent bs => [.sent bs]
  | .received bs => [.received bs]
  | .shutdownWrite => [.shutdownWrite]
  | .onSocketClose => [.onSocketClose]
  | .sendBack _ _ => []
  | .acknowledged _ => []

def serverCalls (log : List Event) : List ServerCall := log.flatMap Event.serverCalls

/-- what of these a label of the relay shows -/
def shown : Relay.Label Byte → List ServerCall
  | .up (.take bs) => [.sent bs]
  | .up .tell => [.shutdownWrite]
  | .down (.put bs) => [.received bs]
  | .leave => [.onSocketClose]
  | .abort => [.onSocketClose]
  | _ => []

/-- The bytes that were handed over last stay in the receive buffer when the server is told of the
client's end. -/
def upOf (d : Data) : Pipe Byte :=
  ⟨if d.flushToServerFinished then [] else d.receiveBuffer.bytes, d.receiveFromClientFinished,
    d.flushToServerFinished⟩

def downOf (d : Data) : Pipe Byte :=
  ⟨d.sendBuffer.bytes, d.receiveFromServerFinished, d.flushToClientFinished⟩

/-- the relay that a session stands for -/
def relayOf (d : Data) : Relay Byte := if d.state = .CLOSED then none else some (upOf d, downOf d)

/-- a reset, an error of the socket or of the connection, a timeout that closes the session, or the
caller's `closeSession` -/
def Cuts (s : St) : Op → Prop
  | .checkStatus now now' => s.data.state ≠ .CLOSED ∧ (s.checkStatus now now').1 = false
  | op => Forced s op

instance (s : St) : ∀ op, Decidable (Cuts s op)
  | .checkStatus now now' =>
    inferInstanceAs (Decidable (s.data.state ≠ .CLOSED ∧ (s.checkStatus now now').1 = false))
  | .receiveFromClient p i => inferInstanceAs (Decidable (Forced s (.receiveFromClient p i)))
  | .flushDataToServer lastError r now now' =>
    inferInstanceAs (Decidable (Forced s (.flushDataToServer lastError r now now')))
  | .onSocketError => .isTrue trivial
  | .closeSession => .isTrue trivial
  | .receiveFromServer _ _ _ => .isFalse id
  | .flushDataToClient _ _ => .isFalse id

/-- labels that cut a stream off are for calls that may -/
def UncutUnless (forced : Prop) (l : Relay.Label Byte) : Prop := l = .abort → forced

/-- labels that show `os` lead the relay from `r` to `r'` -/
abbrev Goes (forced : Prop) (r : Relay Byte) (os : List ServerCall) (r' : Relay Byte) : Prop :=
  Explained (Relay.next BUFFER_SIZE) shown (UncutUnless forced) r os r'

/-- from `s` to `s'` the session goes as its relay goes -/
def Relays (forced : Prop) (s s' : St) : Prop :=
  ∃ os, serverCalls s'.log = serverCalls s.log ++ os ∧ Goes forced (relayOf s.data) os (relayOf s'.data)

theorem serverCalls_append (l l' : List Event) :
    serverCalls (l ++ l') = serverCalls l ++ serverCalls l' := List.flatMap_append

/-- entries that the server's side does not see -/
theorem serverCalls_adds {P : Event → Prop} (hP : ∀ e, P e → e.serverCalls = []) {l l' : List Event}
    (h : Adds P l l') : serverCalls l' = serverCalls l := by
  obtain ⟨es, rfl, hes⟩ := h
  rw [serverCalls_append]
  have h1 : serverCalls es = [] := List.flatMap_eq_nil_iff.mpr fun e he => hP e (hes e he)
  rw [h1, List.append_nil]

theorem ReplyEvent.serverCalls {e : Event} (h : ReplyEvent e) : e.serverCalls = [] := by
  obtain ⟨d, p, rfl, _⟩ := h
  rfl

theorem FlushEvent.serverCalls {d : Data} {p : Packet} {e : Event} (h : FlushEvent d p e) :
    e.serverCalls = [] := by
  obtain ⟨d', p', rfl, _⟩ := h
  rfl

theorem AckEvent.serverCalls {e : Event} (h : AckEvent e) : e.serverCalls = [] := by
  obtain ⟨n, rfl⟩ := h
  rfl

theorem relayOf_closed {d : Data} (h : d.state = .CLOSED) : relayOf d = none := if_pos h
theorem relayOf_open {d : Data} (h : d.state ≠ .CLOSED) : relayOf d = some (upOf d, downOf d) := if_neg h

section
variable {forced : Prop} {s s' s'' : St}

/-! ## parts of a call -/

/-- labels that do not cut -/
theorem uncut {l : Relay.Label Byte} (h : l ≠ .abort) : UncutUnless forced l := fun h' => absurd h' h

theorem goes_up {u u' d : Pipe Byte} {l : Pipe.Label Byte} (h : u.next BUFFER_SIZE l = some u') :
    Goes forced (some (u, d)) (shown (.up l)) (some (u', d)) :=
  Explained.one (Relay.next_up h) (uncut nofun)

theorem goes_down {u d d' : Pipe Byte} {l : Pipe.Label Byte} (h : d.next BUFFER_SIZE l = some d') :
    Goes forced (some (u, d)) (shown (.down l)) (some (u, d')) :=
  Explained.one (Relay.next_down h) (uncut nofun)

theorem Relays.quiet (hr : relayOf s'.data = relayOf s.data) (hl : serverCalls s'.log = serverCalls s.log) :
    Relays forced s s' := by
  refine ⟨[], by rw [hl, List.append_nil], ?_⟩
  rw [hr]
  exact Explained.refl _ _ _ _

theorem Relays.refl (s : St) : Relays forced s s := .quiet rfl rfl

theorem Relays.trans (h : Relays forced s s') (h' : Relays forced s' s'') : Relays forced s s'' := by
  obtain ⟨os, h1, h2⟩ := h
  obtain ⟨os', h3, h4⟩ := h'
  exact ⟨os ++ os', by rw [h3, h1, List.append_assoc], h2.trans h4⟩

theorem Relays.reply (h : ReplyStep s s') : Relays forced s s' :=
  .quiet (by rw [h.data]) (serverCalls_adds (fun _ => ReplyEvent.serverCalls) h.log)

/-- the session is closed by force -/
theorem relays_cut (s : St) (hforced : forced) : Relays forced s s.closeSession := by
  refine ⟨[.onSocketClose], ?_, ?_⟩
  · rw [St.closeSession_log, serverCalls_append]
    rfl
  · rw [relayOf_closed (closeSession_closed s)]
    exact Explained.one (Relay.next_abort _) fun _ => hforced

/-- the session is closed behind the end of both streams -/
theorem relays_leave (hopen : s.data.state ≠ .CLOSED) (hu : (upOf s.data).drained)
    (hd : (downOf s.data).drained) : Relays forced s s.closeSession := by
  refine ⟨[.onSocketClose], ?_, ?_⟩
  · rw [St.closeSession_log, serverCalls_append]
    rfl
  · rw [relayOf_closed (closeSession_closed s), relayOf_open hopen]
    exact Explained.one (Relay.next_leave hu hd) (uncut nofun)

theorem Relays.congr (h : Relays forced s s') (hr : relayOf s''.data = relayOf s'.data)
    (hl : s''.log = s'.log) : Relays forced s s'' := by
  obtain ⟨os, h1, h2⟩ := h
  refine ⟨os, by rw [hl, h1], ?_⟩
  rw [hr]
  exact h2

/-- the client is sent a reset, and the session is closed -/
theorem relays_reset (hforced : forced) : Relays forced s s.resetClient := by
  have hq : Relays forced s (s.sendBack (St.setEnds s.data (s.packet.makeResetSeq
      (s.data.sendUnacknowledged + s.data.sendNextOffset)))) :=
    .quiet rfl (by rw [St.sendBack_log, serverCalls_append]; exact List.append_nil _)
  exact hq.trans (relays_cut _ hforced)

/-- a part of the state that the relay does not depend on -/
structure KeepsRelay (d d' : Data) : Prop where
  state : d'.state = .CLOSED ↔ d.state = .CLOSED
  receiveFromClientFinished : d'.receiveFromClientFinished = d.receiveFromClientFinished
  flushToServerFinished : d'.flushToServerFinished = d.flushToServerFinished
  receiveFromServerFinished : d'.receiveFromServerFinished = d.receiveFromServerFinished
  flushToClientFinished : d'.flushToClientFinished = d.flushToClientFinished
  sendBuffer : d'.sendBuffer = d.sendBuffer
  receiveBuffer : d'.receiveBuffer = d.receiveBuffer

theorem KeepsRelay.relayOf {d d' : Data} (h : KeepsRelay d d') : relayOf d' = relayOf d := by
  have hu : upOf d' = upOf d := by
    unfold upOf
    rw [h.flushToServerFinished, h.receiveBuffer, h.receiveFromClientFinished]
  have hd : downOf d' = downOf d := by
    unfold downOf
    rw [h.sendBuffer, h.receiveFromServerFinished, h.flushToClientFinished]
  unfold Sessions2.relayOf
  rw [hu, hd]
  by_cases hc : d.state = .CLOSED
  · rw [if_pos hc, if_pos (h.state.mpr hc)]
  · rw [if_neg hc, if_neg fun hc' => hc (h.state.mp hc')]

/-! ## from the client -/

theorem relays_opened {IP_MSS : U16} (hclosed : s.data.state = .CLOSED) (i : ClientInput) (res : Int) :
    Relays forced s (s.openConnected IP_MSS i res) := by
  have hopen := (openConnected_life s IP_MSS i res).1
  have hdata : upOf (s.openConnected IP_MSS i res).data = .empty ∧
      downOf (s.openConnected IP_MSS i res).data = .empty ∧
      serverCalls (s.openConnected IP_MSS i res).log = serverCalls s.log := by
    unfold St.openConnected
    dsimp only
    split_ifs
    · simp only [St.sendSynAck, St.sendBack_data, St.sendBack_log, St.setIn_data, St.setIn_log]
      refine ⟨rfl, rfl, ?_⟩
      rw [serverCalls_append]
      exact List.append_nil _
    · simp only [St.setIn_data, St.setIn_log]
      exact ⟨rfl, rfl, trivial⟩
  refine ⟨[], by rw [hdata.2.2, List.append_nil], ?_⟩
  rw [relayOf_closed hclosed, relayOf_open hopen, hdata.1, hdata.2.1]
  have hne : Relay.Label.connect (β := Byte) ≠ .abort := by
    intro e
    cases e
  refine Explained.one ?_ (uncut hne)
  rfl

/-- what the segment acknowledges leaves the pipe to the client -/
theorem relays_acknowledged {d d' : Data} {p : Packet} (h : Represented d)
    (hrange : St.ackInRange d p = true) (ha : Acknowledged d p d')
    (hended : d'.receiveFromServerFinished = d.receiveFromServerFinished) (u : Pipe Byte) :
    Goes forced (some (u, downOf d)) [] (some (u, downOf d')) := by
  let rest : Pipe Byte := ⟨d.sendBuffer.bytes.drop (ackedBytes d p).toNat, d.receiveFromServerFinished,
    d.flushToClientFinished || decide (d.sendNextOffset < St.ackOff d p)⟩
  have hd' : downOf d' = rest := by
    unfold downOf
    rw [ha.bytes, hended, ha.fin]
  rw [hd']
  by_cases hf : d.flushToClientFinished = true
  · -- the client was told, and has everything
    have hnil := (h.finAcked hf).2
    have e : rest = downOf d := by
      show Pipe.mk _ _ _ = Pipe.mk _ _ _
      rw [hf, Bool.true_or, hnil, List.drop_nil]
    rw [e]
    exact Explained.refl _ _ _ _
  · rw [Bool.not_eq_true] at hf
    have htake : Goes forced (some (u, downOf d)) [] (some (u, { rest with told := false })) := by
      have h1 : Pipe.next BUFFER_SIZE (downOf d)
          (.take (d.sendBuffer.bytes.take (ackedBytes d p).toNat)) = some { rest with told := false } := by
        rw [← hf]
        exact Pipe.next_take (p := downOf d) hf _
      exact goes_down h1
    by_cases hlt : d.sendNextOffset < St.ackOff d p
    · obtain ⟨hsent, hall⟩ := fin_acked h.marks hrange hlt
      have hnil : rest.content = [] := by
        show d.sendBuffer.bytes.drop (ackedBytes d p).toNat = []
        rw [hall, SmartBuffer.position_toNat, List.drop_length]
      have htell : Goes forced (some (u, { rest with told := false })) [] (some (u, rest)) := by
        have e : rest = { rest with told := true } := by
          show Pipe.mk _ _ _ = Pipe.mk _ _ _
          rw [decide_eq_true hlt, Bool.or_true]
        rw [e]
        exact goes_down (l := .tell) (Pipe.next_tell rfl ⟨(h.marks.fin hsent).1, hnil⟩)
      exact htake.trans htell
    · have e : rest = { rest with told := false } := by
        show Pipe.mk _ _ _ = Pipe.mk _ _ _
        rw [hf, Bool.false_or, decide_eq_false hlt]
      rw [e]
      exact htake

/-- what the segment brings enters the pipe to the server -/
theorem relays_accepted {d d' : Data} {p : Packet} (h : Represented d) (ha : Accepted d p d')
    (v : Pipe Byte) : Goes forced (some (upOf d, v)) [] (some (upOf d', v)) := by
  by_cases hf : d.receiveFromClientFinished = true
  · -- the client's end was taken in before
    have hacc : accepted d p = [] := if_pos hf
    have hbuf : d'.receiveBuffer.bytes = d.receiveBuffer.bytes := by
      rw [ha.receiveBuffer, hacc, List.append_nil]
    have hfin : d'.receiveFromClientFinished = d.receiveFromClientFinished := by
      rw [hf]
      exact ha.receiveFromClientFinished.mpr (.inl hf)
    have e : upOf d' = upOf d := by
      unfold upOf
      rw [ha.flushToServerFinished, hbuf, hfin]
    rw [e]
    exact Explained.refl _ _ _ _
  · rw [Bool.not_eq_true] at hf
    have htold : d.flushToServerFinished = false := by
      by_contra hc
      rw [Bool.not_eq_false] at hc
      exact absurd (hf.symm.trans (h.told hc)) (by decide)
    have hu : upOf d = ⟨d.receiveBuffer.bytes, false, false⟩ := by
      unfold upOf
      rw [htold, hf]
      rfl
    have hfits : d.receiveBuffer.bytes.length + (accepted d p).length ≤ BUFFER_SIZE := by
      have h1 := d'.receiveBuffer.fits
      rwa [ha.receiveBuffer, List.length_append] at h1
    have hput : Goes forced (some (upOf d, v)) []
        (some (⟨d.receiveBuffer.bytes ++ accepted d p, false, false⟩, v)) := by
      rw [hu]
      exact goes_up (l := .put _) (Pipe.next_put rfl hfits)
    have hu' : upOf d' = ⟨d.receiveBuffer.bytes ++ accepted d p, d'.receiveFromClientFinished, false⟩ := by
      unfold upOf
      rw [ha.flushToServerFinished, htold, ha.receiveBuffer]
      rfl
    rw [hu']
    cases hf' : d'.receiveFromClientFinished with
    | false => exact hput
    | true => exact hput.trans (goes_up (l := .finish) (Pipe.next_finish rfl))

theorem relays_segment (h : Represented s.data) (hs : s.data.state = .ESTABLISHED)
    (hrange : St.ackInRange s.data s.packet = true) (i : ClientInput) :
    Relays forced s (s.acceptSegment i) := by
  have hopen : s.data.state ≠ .CLOSED := by rw [hs]; decide
  by_cases hcl : closes s.data s.packet
  · -- the client acknowledges the FIN, and the server was told before
    rw [acceptSegment_closes i hcl]
    obtain ⟨_, hl⟩ := acceptWindow_accounts s (St.ackOff s.data s.packet) i.now
    generalize s.acceptWindow (St.ackOff s.data s.packet) i.now = t at hl ⊢
    obtain ⟨hlt, htold⟩ := hcl
    obtain ⟨hsent, _⟩ := fin_acked h.marks hrange hlt
    have hu : (upOf s.data).drained := ⟨h.told htold, if_pos htold⟩
    have hd : Goes forced (some (upOf s.data, downOf s.data)) []
        (some (upOf s.data, { downOf s.data with content := [] })) := by
      by_cases hf : s.data.flushToClientFinished = true
      · have e : { downOf s.data with content := [] } = downOf s.data := by
          unfold downOf
          rw [(h.finAcked hf).2]
        rw [e]
        exact Explained.refl _ _ _ _
      · rw [Bool.not_eq_true] at hf
        have h1 : Pipe.next BUFFER_SIZE (downOf s.data)
            (.take ((downOf s.data).content.take s.data.sendBuffer.bytes.length)) =
            some { downOf s.data with content := [] } := by
          rw [Pipe.next_take (p := downOf s.data) hf]
          show some { downOf s.data with
            content := s.data.sendBuffer.bytes.drop s.data.sendBuffer.bytes.length } = _
          rw [List.drop_length]
        exact goes_down h1
    refine ⟨[.onSocketClose], ?_, ?_⟩
    · rw [St.closeSession_log, serverCalls_append, hl]
      rfl
    · rw [relayOf_closed (closeSession_closed t), relayOf_open hopen]
      exact hd.trans (Explained.one (Relay.next_leave hu ⟨(h.marks.fin hsent).1, rfl⟩) (uncut nofun))
  · have hack := acceptSegment_acknowledged h.marks hrange hcl i
    obtain ⟨hacc, _⟩ := acceptSegment_sets s i hcl
    have hlog : serverCalls (s.acceptSegment i).log = serverCalls s.log := by
      obtain ⟨s1, h1, h2⟩ := acceptSegment_cases s i
      have hl := serverCalls_adds (fun _ => AckEvent.serverCalls) h1.log
      rcases h2 with h2 | h2
      · have h3 := closeSession_closed s1
        rw [← h2, hacc.state] at h3
        exact absurd h3 hopen
      · rw [serverCalls_adds (fun _ => ReplyEvent.serverCalls) h2.log, hl]
    refine ⟨[], by rw [hlog, List.append_nil], ?_⟩
    rw [relayOf_open hopen, relayOf_open (by rw [hacc.state]; exact hopen)]
    exact (relays_acknowledged h hrange hack hacc.receiveFromServerFinished _).trans
      (relays_accepted h hacc _)

theorem relays_client {IP_MSS : U16} (h : Represented s.data) (i : ClientInput)
    (hforced : s.packet.isSyn = false → s.packet.isReset = true → forced) :
    Relays forced s (s.handlePacket IP_MSS i) := by
  have hstep := handlePacket_step IP_MSS s i
  generalize s.handlePacket IP_MSS i = s' at hstep ⊢
  cases hstep with
  | same => exact .refl s
  | reset => exact .reply (sendReset_reply s)
  | ack hs => exact .reply (sendAck_reply s)
  | synAck hs => exact .reply (sendSynAck_reply s)
  | opened res hs hsyn hack hshift hres => exact relays_opened hs i res
  | closed hs hsyn hrst hwin => exact relays_cut s (hforced hsyn hrst)
  | established hs hseq hack =>
    refine .quiet (KeepsRelay.relayOf ⟨?_, ?_, ?_, ?_, ?_, ?_, ?_⟩) ?_
    · rw [hs]
      exact iff_of_false States.noConfusion States.noConfusion
    all_goals simp [St.establish, Data.pushRTT]
  | accepted hs hsyn hrst hack hseq hrange => exact relays_segment h hs hrange i

/-! ## to and from the server -/

/-- what is read enters the pipe to the client -/
theorem relays_read (h : Represented s.data) (hs : s.data.state = .ESTABLISHED)
    (hf : s.data.receiveFromServerFinished = false) (r : RecvResult) :
    Relays forced s (s.readFromServer r) := by
  have hopen : s.data.state ≠ .CLOSED := by rw [hs]; decide
  have hfin : s.data.flushToClientFinished = false := by
    by_contra hc
    rw [Bool.not_eq_false] at hc
    exact absurd (hf.symm.trans (h.marks.fin (h.finAcked hc).1).1) (by decide)
  have hdown : downOf s.data = ⟨s.data.sendBuffer.bytes, false, false⟩ := by
    unfold downOf
    rw [hf, hfin]
  have hfinish : ∀ (bs : List Byte), Goes forced (some (upOf s.data, ⟨bs, false, false⟩)) []
      (some (upOf s.data, ⟨bs, true, false⟩)) :=
    fun bs => goes_down (l := .finish) (Pipe.next_finish rfl)
  unfold St.readFromServer
  cases r with
  | bytes bs =>
    have hput := s.data.sendBuffer.put_take bs
    have hroom := (s.data.sendBuffer.put (bs.take s.data.sendBuffer.available.toNat)).fits
    rw [hput, List.length_append] at hroom
    have hexp : Goes forced (some (upOf s.data, downOf s.data))
        [.received (bs.take s.data.sendBuffer.available.toNat)]
        (some (upOf s.data, ⟨(s.data.sendBuffer.put (bs.take s.data.sendBuffer.available.toNat)).bytes,
          false, false⟩)) := by
      rw [hdown, hput]
      exact goes_down (l := .put _) (Pipe.next_put rfl hroom)
    refine ⟨[.received (bs.take s.data.sendBuffer.available.toNat)], ?_, ?_⟩
    · rw [St.emit_log, serverCalls_append]
      dsimp only
      split_ifs
      · rw [St.unsetFrom_log]
        rfl
      · rfl
    · dsimp only
      split_ifs
      · simp only [St.emit_data, St.unsetFrom_data]
        rw [relayOf_open hopen, relayOf_open (show ({ s.data with
          receiveFromServerFinished := true
          sendBuffer := s.data.sendBuffer.put (bs.take s.data.sendBuffer.available.toNat) } :
            Data).state ≠ .CLOSED from hopen)]
        have h1 := hexp.trans (hfinish _)
        rw [List.append_nil] at h1
        refine h1.congr_right ?_
        unfold downOf
        rw [hfin]
        rfl
      · simp only [St.emit_data]
        rw [relayOf_open hopen, relayOf_open (show ({ s.data with
          sendBuffer := s.data.sendBuffer.put (bs.take s.data.sendBuffer.available.toNat) } :
            Data).state ≠ .CLOSED from hopen)]
        refine hexp.congr_right ?_
        unfold downOf
        rw [hf, hfin]
        rfl
  | wouldBlock => exact .refl s
  | error =>
    refine ⟨[], ?_, ?_⟩
    · dsimp only
      rw [St.unsetFrom_log, List.append_nil]
    · dsimp only
      rw [St.unsetFrom_data, relayOf_open hopen, relayOf_open (show ({ s.data with
          receiveFromServerFinished := true } : Data).state ≠ .CLOSED from hopen), hdown]
      refine (hfinish _).congr_right ?_
      unfold downOf
      rw [hfin]
      rfl

theorem relays_flush (s : St) (now : Int) (turns : Nat) :
    Relays forced s (s.flushDataToClient now turns) := by
  have hup := (flushDataToClient_flush s now turns).up
  have hstill := flushDataToClient_still s now turns
  refine .quiet (KeepsRelay.relayOf ⟨by rw [hup.state], hup.receiveFromClientFinished,
    hup.flushToServerFinished, ?_, ?_, ?_, hup.receiveBuffer⟩)
    (serverCalls_adds (fun _ => FlushEvent.serverCalls) (flushDataToClient_flush s now turns).log)
  · have h1 := congrArg Data.receiveFromServerFinished hstill
    exact h1
  · have h1 := congrArg Data.flushToClientFinished hstill
    exact h1
  · have h1 := congrArg Data.sendBuffer hstill
    exact h1

/-- what the server socket takes leaves the pipe to the server -/
theorem relays_sent (h : Represented s.data) (hs : s.data.state = .ESTABLISHED)
    (hf : s.data.flushToServerFinished = false) {n : Nat} (hn : n ≤ s.data.receiveBuffer.bytes.length) :
    Relays forced s
      ((s.emit (.sent (s.data.receiveBuffer.bytes.take n))).finishSend (BitVec.ofNat 32 n)) := by
  have hopen : s.data.state ≠ .CLOSED := by rw [hs]; decide
  have hfits := s.data.receiveBuffer.fits
  unfold BUFFER_SIZE at hfits
  have htotal : BitVec.ofNat 32 n = s.data.receiveBuffer.position ↔
      n = s.data.receiveBuffer.bytes.length := by
    rw [← BitVec.toNat_inj, SmartBuffer.position_toNat, BitVec.toNat_ofNat]
    omega
  have hcompact : (s.data.receiveBuffer.compact (s.data.receiveBuffer.position -
      BitVec.ofNat 32 n)).bytes = s.data.receiveBuffer.bytes.drop n := by
    rw [SmartBuffer.compact_bytes, BitVec.toNat_ofNat, Nat.mod_eq_of_lt (by omega)]
    rw [BitVec.le_def, SmartBuffer.position_toNat, BitVec.toNat_ofNat]
    omega
  have hu : upOf s.data = ⟨s.data.receiveBuffer.bytes, s.data.receiveFromClientFinished, false⟩ := by
    unfold upOf
    rw [hf]
    rfl
  -- the bytes leave the pipe, and the session goes on from `t`
  have htake : ∀ {t : St}, t.data = { s.data with receiveBuffer := t.data.receiveBuffer } →
      t.data.receiveBuffer.bytes = s.data.receiveBuffer.bytes.drop n →
      t.log = s.log ++ [Event.sent (s.data.receiveBuffer.bytes.take n)] → Relays forced s t := by
    intro t hd hb hl
    have hut : upOf t.data =
        ⟨s.data.receiveBuffer.bytes.drop n, s.data.receiveFromClientFinished, false⟩ := by
      unfold upOf
      rw [hb, hd]
      dsimp only
      rw [hf]
      rfl
    have hdt : downOf t.data = downOf s.data := by
      rw [hd]
      rfl
    have h1 : Goes forced (some (upOf s.data, downOf s.data)) [.sent (s.data.receiveBuffer.bytes.take n)]
        (some (⟨s.data.receiveBuffer.bytes.drop n, s.data.receiveFromClientFinished, false⟩,
          downOf s.data)) := by
      rw [hu]
      exact goes_up (l := .take _) (Pipe.next_take rfl n)
    refine ⟨[.sent (s.data.receiveBuffer.bytes.take n)], by rw [hl, serverCalls_append]; rfl, ?_⟩
    rw [relayOf_open hopen, relayOf_open (by rw [hd]; exact hopen), hut, hdt]
    exact h1
  unfold St.finishSend
  dsimp only [St.emit_data]
  by_cases hall : BitVec.ofNat 32 n = s.data.receiveBuffer.position
  · rw [if_pos hall]
    simp only [St.unsetFrom_data, St.emit_data]
    -- the session behind the send, with an empty pipe to the server
    let t : St := { (s.emit (.sent (s.data.receiveBuffer.bytes.take n))).unsetFrom .sendSet with
      data.receiveBuffer := .clear }
    have ht : Relays forced s t := by
      refine htake (by simp [t]) ?_ (by simp [t])
      rw [htotal.mp hall, List.drop_length]
      rfl
    have htopen : t.data.state ≠ .CLOSED := by simpa [t] using hopen
    split_ifs with hfin hdone
    · have hdrained : (upOf t.data).drained := ⟨by simp [t, upOf, hfin], by simp [t, upOf]⟩
      have hdown : (downOf t.data).drained := by
        obtain ⟨h1, h2⟩ := h.finAcked hdone
        exact ⟨by simp [t, downOf, (h.marks.fin h1).1], by simp [t, downOf, h2]⟩
      have h1 := ht.trans (relays_leave htopen hdrained hdown)
      refine h1.congr (by simp [relayOf]) ?_
      simp [t]
    · have htell : Goes forced (some (upOf t.data, downOf t.data)) [.shutdownWrite]
          (some ({ upOf t.data with told := true }, downOf t.data)) :=
        goes_up (l := .tell) (Pipe.next_tell (by simp [t, upOf, hf])
          ⟨by simp [t, upOf, hfin], by simp [t, upOf]⟩)
      have h1 : Relays forced t ({ ((s.emit (.sent (s.data.receiveBuffer.bytes.take n))).unsetFrom
          .sendSet).emit .shutdownWrite with data.flushToServerFinished := true }) := by
        refine ⟨[.shutdownWrite], ?_, ?_⟩
        · show serverCalls (_ ++ _) = _
          rw [serverCalls_append]
          rfl
        · rw [relayOf_open htopen, relayOf_open (by simpa using hopen)]
          refine htell.congr_right ?_
          simp [t, upOf, downOf]
      exact (ht.trans h1).congr (by simp) rfl
    · refine htake (by simp) ?_ (by simp)
      exact hcompact
  · rw [if_neg hall]
    exact htake rfl hcompact rfl

theorem relays_server (h : Represented s.data) (lastError : Int) (r : SendResult) (now now' : Int) :
    Relays (Forced s (.flushDataToServer lastError r now now')) s
      (s.flushDataToServer lastError r now now') := by
  unfold St.flushDataToServer
  split_ifs with h1 h2
  · unfold St.finishConnect
    dsimp only
    split_ifs with h3 h4
    · exact .refl s
    · refine .quiet (KeepsRelay.relayOf ⟨?_, ?_, ?_, ?_, ?_, ?_, ?_⟩) ?_
      · rw [St.unsetFrom_data, h1]
        exact iff_of_false States.noConfusion States.noConfusion
      any_goals simp
      rw [serverCalls_append]
      exact List.append_nil _
    · have hq : Relays (Forced s (.flushDataToServer lastError r now now')) s
          (s.sendBack ((St.setEnds s.data s.packet).makeResetAck s.data.receiveSent)) :=
        .quiet rfl (by rw [St.sendBack_log, serverCalls_append]; exact List.append_nil _)
      refine hq.trans (relays_cut _ ?_)
      show if s.data.state = .SYN_RECEIVED then lastError ≠ 0 else r = .error
      rw [if_pos h1]
      exact h3
  · exact .refl s
  · rw [not_or, not_not, Bool.not_eq_true] at h2
    unfold St.sendToServer
    cases r with
    | error =>
      refine relays_reset ?_
      show if s.data.state = .SYN_RECEIVED then lastError ≠ 0 else SendResult.error = .error
      rw [if_neg h1]
    | accepted n => exact relays_sent h h2.1 h2.2 (min_le_right _ _)
    | wouldBlock => exact relays_sent h h2.1 h2.2 (Nat.zero_le _)

/-! ## calls and runs -/

/-- **One call** goes as the relay goes. -/
theorem relays_step {IP_MSS : U16} (h : s.hung = false → Represented s.data) (op : Op) :
    Relays (Cuts s op) s (step IP_MSS s op) := by
  by_cases hh : s.hung = true
  · have e : step IP_MSS s op = s := if_pos hh
    rw [e]
    exact .refl s
  · have hr := h (by simpa using hh)
    unfold step
    rw [if_neg hh]
    cases op with
    | receiveFromClient p i =>
      dsimp only
      unfold receiveFromClient
      split_ifs
      · exact @relays_client _ { s with packet := p.val } IP_MSS hr i fun h1 h2 => ⟨h1, h2⟩
      · exact .refl s
    | receiveFromServer r now turns =>
      dsimp only
      by_cases h0 : s.data.state = .ESTABLISHED ∧ s.data.receiveFromServerFinished = false
      · have h1 : Relays (Cuts s (.receiveFromServer r now turns)) s
            ((s.readFromServer r).flushDataToClient now turns) :=
          (relays_read hr h0.1 h0.2 r).trans (relays_flush _ now turns)
        rcases receiveFromServer_open h0.1 h0.2 r now turns with h2 | h2
        · rw [h2]
          exact h1
        · rw [h2]
          exact h1.congr (by rw [St.unsetFrom_data]) (by rw [St.unsetFrom_log])
      · rw [receiveFromServer_skip h0]
        exact .refl s
    | flushDataToServer lastError r now now' => exact relays_server hr lastError r now now'
    | flushDataToClient now turns => exact relays_flush s now turns
    | onSocketError => exact relays_reset trivial
    | checkStatus now now' =>
      dsimp only
      rcases checkStatus_cases s now now' with ⟨_, h1⟩ | ⟨_, h1⟩ | ⟨hopen, h1⟩
      · rw [h1]
        exact .refl s
      · rw [h1]
        exact .refl s
      · have hcuts : Cuts s (.checkStatus now now') := ⟨hopen, by rw [h1]⟩
        rw [h1]
        exact relays_cut s hcuts
    | closeSession => exact relays_cut s trivial

end

section
variable {IP_MSS : U16} {s0 : St} {ops : List Op}

/-- a session object that was not used yet, in any surroundings -/
structure Fresh (IP_MSS : U16) (s : St) : Prop where
  data : s.data = .init IP_MSS
  log : s.log = []

/-- in every run the buffers and flags agree as long as the calls return -/
theorem represented_start (h0 : Fresh IP_MSS s0) : s0.hung = false → Represented s0.data := by
  intro _
  rw [h0.data]
  exact represented_init IP_MSS

/-- a run goes as the relay goes, without a cut unless one of its calls cuts -/
theorem goes_run {cut : Prop} (h0 : Fresh IP_MSS s0)
    (hops : Along (step IP_MSS) (fun s op => Cuts s op → cut) s0 ops) :
    let t := run (step IP_MSS) s0 ops
    Goes cut none (serverCalls t.log) (relayOf t.data) := by
  intro t
  have hstep : ∀ (s : St) (op : Op), (s.hung = false → Represented s.data) → (Cuts s op → cut) →
      ∃ os, serverCalls (step IP_MSS s op).log = serverCalls s.log ++ os ∧
        Goes cut (relayOf s.data) os (relayOf (step IP_MSS s op).data) := by
    intro s op h hcut
    obtain ⟨os, h1, h2⟩ := @relays_step s IP_MSS h op
    exact ⟨os, h1, h2.mono fun l hl ha => hcut (hl ha)⟩
  obtain ⟨os, h1, h2⟩ := run_explained (fun s : St => relayOf s.data) (fun s : St => serverCalls s.log)
    (fun s : St => s.hung = false → Represented s.data) (fun s op h _ => represented_step s op h)
    hstep (represented_start h0) hops
  have hnone : relayOf s0.data = none := relayOf_closed (by rw [h0.data]; rfl)
  have hnil : serverCalls s0.log = [] := by rw [h0.log]; rfl
  rw [hnil, List.nil_append] at h1
  rw [hnone] at h2
  rw [show serverCalls t.log = os from h1]
  exact h2

/-- bytes go both ways, the clock ticks, and nothing is cut off -/
def ticking : List Op :=
  .receiveFromClient (synPacket clientA serverA 100 0) connected :: bothWays ++ [.checkStatus 0 0]

/-- whether the server was told of the client's end, on the connection there is -/
def toldOfEnd (l : List ServerCall) : Bool :=
  l.foldl (fun told e => match e with
    | .shutdownWrite => true
    | .onSocketClose => false
    | _ => told) false

/-- no bytes for a server that was told of the end, which is told once -/
def NotBehindEnd (pre : List ServerCall) (e : ServerCall) : Prop :=
  toldOfEnd pre = true → e ≠ .shutdownWrite ∧ ∀ bs, e ≠ .sent bs

/-- the relay knows what the server was told -/
structure Knows (r : Relay Byte) (l : List ServerCall) : Prop where
  told : toldOfEnd l = true → ∃ u d, r = some (u, d) ∧ u.told = true
  drained : ∀ u d, r = some (u, d) → u.told = true → u.drained
  audited : Audited NotBehindEnd l

theorem toldOfEnd_snoc (l : List ServerCall) (e : ServerCall) : toldOfEnd (l ++ [e]) =
    (if e = .shutdownWrite then true else if e = .onSocketClose then false else toldOfEnd l) := by
  unfold toldOfEnd
  rw [List.foldl_append]
  cases e <;> rfl

/-- the connection is over -/
theorem Knows.close {r : Relay Byte} {l : List ServerCall} (h : Knows r l) :
    Knows none (l ++ [.onSocketClose]) := by
  refine ⟨?_, nofun, audited_snoc.mpr ⟨h.audited, fun _ => ⟨nofun, nofun⟩⟩⟩
  rw [toldOfEnd_snoc, if_neg nofun, if_pos rfl]
  exact Bool.noConfusion

/-- the pipe to the client has no part in it -/
theorem Knows.down {u d d' : Pipe Byte} {l es : List ServerCall} (h : Knows (some (u, d)) l)
    (hes : es = [] ∨ ∃ bs, es = [.received bs]) : Knows (some (u, d')) (l ++ es) := by
  have htold : toldOfEnd (l ++ es) = toldOfEnd l := by
    rcases hes with rfl | ⟨bs, rfl⟩
    · rw [List.append_nil]
    · rw [toldOfEnd_snoc, if_neg nofun, if_neg nofun]
  refine ⟨?_, ?_, ?_⟩
  · rw [htold]
    intro ht
    obtain ⟨u0, d0, h1, h2⟩ := h.told ht
    cases h1
    exact ⟨u, d', rfl, h2⟩
  · intro u0 d0 h1
    cases h1
    exact h.drained u d rfl
  · rcases hes with rfl | ⟨bs, rfl⟩
    · rw [List.append_nil]
      exact h.audited
    · exact audited_snoc.mpr ⟨h.audited, fun _ => ⟨nofun, nofun⟩⟩

/-- what the pipe to the server allows is not behind its end -/
theorem Knows.up {u u' d : Pipe Byte} {l : List ServerCall} (h : Knows (some (u, d)) l)
    {a : Pipe.Label Byte} (ha : u.next BUFFER_SIZE a = some u') :
    Knows (some (u', d)) (l ++ shown (.up a)) := by
  obtain ⟨h1, h2⟩ := Pipe.next_told (h.drained u d rfl) ha
  have hbehind : toldOfEnd l = true → u'.told = true ∧ a ≠ .tell ∧ ∀ bs, a ≠ .take bs := by
    intro ht
    obtain ⟨u0, d0, h3, h4⟩ := h.told ht
    cases h3
    exact h2 h4
  have hdrained : ∀ u0 d0, some (u', d) = some (u0, d0) → u0.told = true → u0.drained := by
    intro u0 d0 h3
    cases h3
    exact h1
  cases a with
  | put bs =>
    rw [show shown (.up (.put bs)) = [] from rfl, List.append_nil]
    exact ⟨fun ht => ⟨u', d, rfl, (hbehind ht).1⟩, hdrained, h.audited⟩
  | finish =>
    rw [show shown (.up .finish) = [] from rfl, List.append_nil]
    exact ⟨fun ht => ⟨u', d, rfl, (hbehind ht).1⟩, hdrained, h.audited⟩
  | take bs =>
    refine ⟨?_, hdrained, audited_snoc.mpr ⟨h.audited, fun ht => absurd rfl ((hbehind ht).2.2 bs)⟩⟩
    rw [show shown (.up (.take bs)) = [.sent bs] from rfl, toldOfEnd_snoc, if_neg nofun, if_neg nofun]
    exact fun ht => ⟨u', d, rfl, (hbehind ht).1⟩
  | tell =>
    refine ⟨fun _ => ⟨u', d, rfl, ?_⟩, hdrained,
      audited_snoc.mpr ⟨h.audited, fun ht => absurd rfl (hbehind ht).2.1⟩⟩
    obtain ⟨_, h3⟩ := Option.ite_none_right_eq_some.mp ha
    cases h3
    rfl

/-- **One label of the relay.** -/
theorem Knows.next {r r' : Relay Byte} {l : List ServerCall} (h : Knows r l) {a : Relay.Label Byte}
    (ha : Relay.next BUFFER_SIZE r a = some r') : Knows r' (l ++ shown a) := by
  cases r with
  | none =>
    cases a with
    | connect =>
      cases ha
      rw [show shown .connect = [] from rfl, List.append_nil]
      refine ⟨fun ht => ?_, ?_, h.audited⟩
      · obtain ⟨u0, d0, h1, _⟩ := h.told ht
        cases h1
      · intro u0 d0 h1 h2
        cases h1
        cases h2
    | abort =>
      cases ha
      exact h.close
    | up a => cases ha
    | down a => cases ha
    | leave => cases ha
  | some ud =>
    obtain ⟨u, d⟩ := ud
    cases a with
    | connect => cases ha
    | up a =>
      obtain ⟨u', h1, rfl⟩ := Option.map_eq_some_iff.mp ha
      exact h.up h1
    | down a =>
      obtain ⟨d', h1, rfl⟩ := Option.map_eq_some_iff.mp ha
      refine h.down ?_
      cases a with
      | put bs => exact .inr ⟨bs, rfl⟩
      | finish => exact .inl rfl
      | take bs => exact .inl rfl
      | tell => exact .inl rfl
    | leave =>
      obtain ⟨_, h1⟩ := Option.ite_none_right_eq_some.mp ha
      cases h1
      exact h.close
    | abort =>
      cases ha
      exact h.close

/-- **Behind the end the server is left alone.**  Over all the connections that a session object serves,
no call hands bytes to the server, or tells it of the client's end again, once it was told. -/
theorem end_told_once (h0 : Fresh IP_MSS s0) :
    Audited NotBehindEnd (serverCalls (run (step IP_MSS) s0 ops).log) := by
  have hnone : Knows none [] := ⟨Bool.noConfusion, nofun, audited_nil _⟩
  have hstep : ∀ r a r' l, Knows r l → UncutUnless True a → Relay.next BUFFER_SIZE r a = some r' →
      Knows r' (l ++ shown a) := fun r a r' l h _ ha => h.next ha
  have hfree : Along (step IP_MSS) (fun s op => Cuts s op → True) s0 ops := by
    refine (along_true (step IP_MSS) s0 ops).mono ?_
    intro s op _ _
    trivial
  exact (Explained.ledger hstep (goes_run h0 hfree) hnone).audited

/-- the client's FIN is handed on, and the server socket stays writable -/
def finHandedOn : List Op :=
  [.receiveFromClient (synPacket clientA serverA 100 0) connected,
   .receiveFromClient (ackPacket clientA serverA 101 1000 0) connected,
   .receiveFromClient (finPacket clientA serverA 101 1001 0) connected,
   .flushDataToServer 0 (.accepted 0) 0 0,
   .flushDataToServer 0 (.accepted 0) 0 0]

theorem end_told_once_fin :
    serverCalls (run (step 1) (unused 1) finHandedOn).log = [.sent [], .shutdownWrite] ∧
      Audited NotBehindEnd (serverCalls (run (step 1) (unused 1) finHandedOn).log) :=
  ⟨by decide, end_told_once ⟨rfl, rfl⟩⟩

end

end TunServer.Sessions2
