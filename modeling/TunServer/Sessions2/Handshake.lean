import TunServer.Sessions2.Readiness

/-!
# The handshake

A connection begins with a SYN with the number `x`; the session draws `iss` and answers with a SYN
that has the sequence number `iss` and acknowledges `x + 1`, any number of times.

* `Greeting`            the invariant while the handshake goes on;
* `ShakesHands`         what TCP asks for: the session is established by the ACK of `iss + 1`, and
                        by no other;
* `handshake_confused`  the session is established by the ACK of `iss`, and by no other.
-/

set_option linter.unusedVariables false

namespace TunServer.Sessions2

/-- the handshake of a connection with the numbers `x` and `iss` goes on -/
structure Greeting (x iss : U32) (client server : SockAddr) (s : St) : Prop where
  hung : s.hung = false
  sendUnacknowledged : s.data.sendUnacknowledged = iss
  receiveSent : s.data.receiveSent = x + 1
  clientAddress : s.data.clientAddress = client
  serverAddress : s.data.serverAddress = server
  written : ∀ d r, .sendBack d r ∈ s.log → r.isSyn = true → r.header = .syn iss (x + 1)
  answered : s.data.state = .SYN_ACK_SENT → ∃ d r, .sendBack d r ∈ s.log ∧ r.isSyn = true

section
variable {x iss : U32} {client server : SockAddr}

/-- a segment that is no SYN is sent -/
theorem Greeting.send {s : St} (h : Greeting x iss client server s) {p : Packet}
    (hp : p.isSyn = false) : Greeting x iss client server (s.sendBack p) := by
  refine ⟨h.hung, h.sendUnacknowledged, h.receiveSent, h.clientAddress, h.serverAddress, ?_, ?_⟩
  · intro d r hr hsyn
    rw [St.sendBack_log, List.mem_append, List.mem_singleton] at hr
    rcases hr with hr | hr
    · exact h.written d r hr hsyn
    · cases hr
      exact absurd (hp.symm.trans hsyn) (by decide)
  · intro hs
    obtain ⟨d, r, hr, hsyn⟩ := h.answered hs
    exact ⟨d, r, List.mem_append_left _ hr, hsyn⟩

/-- the SYN is answered, and the session waits for the client's ACK -/
theorem Greeting.answer {s s' : St} (h : Greeting x iss client server s) (p : Packet)
    (hp : p.header = .syn s.data.sendUnacknowledged s.data.receiveSent)
    (hung : s'.hung = false) (hlog : s'.log = s.log ++ [.sendBack s.data p])
    (hack : s'.data.sendUnacknowledged = s.data.sendUnacknowledged)
    (hrcv : s'.data.receiveSent = s.data.receiveSent)
    (hclient : s'.data.clientAddress = s.data.clientAddress)
    (hserver : s'.data.serverAddress = s.data.serverAddress) : Greeting x iss client server s' := by
  rw [h.sendUnacknowledged, h.receiveSent] at hp
  refine ⟨hung, hack.trans h.sendUnacknowledged, hrcv.trans h.receiveSent,
    hclient.trans h.clientAddress, hserver.trans h.serverAddress, ?_, ?_⟩
  · intro d r hr hsyn
    rw [hlog, List.mem_append, List.mem_singleton] at hr
    rcases hr with hr | hr
    · exact h.written d r hr hsyn
    · cases hr
      exact hp
  · intro _
    refine ⟨s.data, p, ?_, ?_⟩
    · rw [hlog]
      simp
    · unfold Packet.isSyn
      rw [hp]
      rfl

/-- the packet object is another one -/
theorem Greeting.packet {s : St} (h : Greeting x iss client server s) (p : Packet) :
    Greeting x iss client server { s with packet := p } :=
  ⟨h.hung, h.sendUnacknowledged, h.receiveSent, h.clientAddress, h.serverAddress, h.written,
    h.answered⟩

theorem Greeting.sendReset {s : St} (h : Greeting x iss client server s) :
    Greeting x iss client server s.sendReset := by
  unfold St.sendReset
  dsimp only
  split_ifs
  · exact h.send rfl
  · exact h.send rfl

theorem not_shaking {d : Data} (h : d.state = .CLOSED ∨ d.state = .ESTABLISHED) : ¬ Shaking d := by
  unfold Shaking
  rcases h with h | h <;> simp [h]

/-- a packet keeps the handshake going, or ends it -/
theorem Greeting.handlePacket {IP_MSS : U16} {s : St} {i : ClientInput}
    (h : Greeting x iss client server s) (hs : Shaking s.data) :
    Shaking (s.handlePacket IP_MSS i).data →
      Greeting x iss client server (s.handlePacket IP_MSS i) := by
  have hstep := handlePacket_step IP_MSS s i
  generalize s.handlePacket IP_MSS i = s' at hstep ⊢
  cases hstep with
  | same => exact fun _ => h
  | reset => exact fun _ => h.sendReset
  | ack he => exact absurd hs (not_shaking (.inr he))
  | synAck he => exact fun _ => h.answer _ rfl h.hung rfl rfl rfl rfl rfl
  | opened res hc hsyn hack hshift hres => exact absurd hs (not_shaking (.inl hc))
  | closed hc hsyn hrst hwin =>
    exact fun hs' => absurd hs' (not_shaking (.inl (by rw [St.closeSession_data])))
  | established he hseq hack => exact fun hs' => absurd hs' (not_shaking (.inr rfl))
  | accepted he hsyn hrst hack hseq hrange => exact absurd hs (not_shaking (.inr he))

theorem Greeting.finishConnect {s : St} {lastError now now' : Int}
    (h : Greeting x iss client server s) :
    Shaking (s.finishConnect lastError now now').data →
      Greeting x iss client server (s.finishConnect lastError now now') := by
  unfold St.finishConnect
  dsimp only
  split_ifs
  · exact fun _ => h
  · refine fun _ => h.answer ((St.setEnds s.data s.packet).makeSyn s.data.sendUnacknowledged
      s.data.receiveSent) rfl ?_ ?_ ?_ ?_ ?_ ?_
    all_goals simp only [St.unsetFrom_hung, St.unsetFrom_log, St.unsetFrom_data]
    · exact h.hung
    any_goals rfl
  · exact fun hs' => absurd hs' (not_shaking (.inl (by rw [St.closeSession_data])))

/-- a handshake begins with a SYN only -/
theorem shaking_of_call {s s' : St} {op : Op} (hstep : SetsStep s op s')
    (hn : NoNewConnection s op) (hs' : Shaking s'.data) : Shaking s.data := by
  cases hstep with
  | quiet hq =>
    unfold Shaking at hs' ⊢
    rwa [hq.state] at hs'
  | closed state socket sets => exact absurd hs' (not_shaking (.inl state))
  | opened hs hsyn state socket fin ended flushed sendBuffer receiveBuffer sets =>
    exact absurd (hsyn.symm.trans (hn _ rfl hs)) (by decide)
  | established hs state flow sets => exact .inr hs
  | accepted hacc hopen data sets =>
    exact absurd hs' (not_shaking (.inr (data.state.trans hacc.2.1)))
  | connected hs state flow sets => exact .inl hs
  | sent hs hf state socket sendBuffer ended fin rest all sets =>
    exact absurd hs' (not_shaking (.inr state))
  | read hs hf up ended bytes sets => exact absurd hs' (not_shaking (.inr (up.state.trans hs)))

theorem Greeting.call {IP_MSS : U16} {s : St} {op : Op}
    (h : Shaking s.data → Greeting x iss client server s) (hn : NoNewConnection s op)
    (hs' : Shaking (step IP_MSS s op).data) : Greeting x iss client server (step IP_MSS s op) := by
  have hs := shaking_of_call (step_sets IP_MSS s op) hn hs'
  have hg := h hs
  have hne : s.data.state ≠ .ESTABLISHED := by
    rcases hs with h1 | h1 <;> simp [h1]
  have closes : ∀ t : St, Shaking t.closeSession.data → Greeting x iss client server t.closeSession :=
    fun t ht => absurd ht (not_shaking (.inl (by rw [St.closeSession_data])))
  revert hs'
  unfold step
  rw [if_neg (by simp [hg.hung])]
  cases op with
  | receiveFromClient p i =>
    dsimp only
    unfold receiveFromClient
    split_ifs
    · exact fun ht => ((hg.packet p.val).handlePacket hs ht).packet s.packet
    · exact fun _ => hg
  | receiveFromServer r now turns =>
    dsimp only
    rw [receiveFromServer_skip (fun hc => hne hc.1)]
    exact fun _ => hg
  | flushDataToServer lastError r now now' =>
    dsimp only
    unfold St.flushDataToServer
    split_ifs with h1 h2
    · exact hg.finishConnect
    · exact fun _ => hg
    · exact absurd (.inl hne) h2
  | flushDataToClient now turns =>
    dsimp only
    unfold St.flushDataToClient
    rw [if_pos (.inl hne)]
    exact fun _ => hg
  | onSocketError => exact closes _
  | checkStatus now now' =>
    dsimp only
    rcases checkStatus_cases s now now' with ⟨_, h1⟩ | ⟨_, h1⟩ | ⟨_, h1⟩
    · rw [h1]; exact fun _ => hg
    · rw [h1]; exact fun _ => hg
    · rw [h1]; exact closes _
  | closeSession => exact closes _

theorem greeting_opened {IP_MSS : U16} {s : St} {p : Packet} {i : ClientInput}
    (h : Opens IP_MSS s p i) : Greeting p.getSequenceNumber i.sequenceNo p.source p.destination
      (receiveFromClient IP_MSS s p i).2 := by
  obtain ⟨res, _, he⟩ := opens_eq h
  rw [he]
  dsimp only
  unfold St.openConnected
  dsimp only
  split_ifs with hres
  · refine ⟨?_, ?_, ?_, ?_, ?_, ?_, ?_⟩
    all_goals simp only [St.sendSynAck, St.sendBack_hung, St.sendBack_data, St.sendBack_log,
      St.setIn_hung, St.setIn_data, St.setIn_log, St.setIn_packet, h.log, h.hung]
    any_goals rfl
    · intro d r hr hsyn
      simp only [List.nil_append, List.mem_singleton, Event.sendBack.injEq] at hr
      rw [hr.2]
      rfl
    · intro _
      exact ⟨_, _, List.mem_singleton.mpr rfl, rfl⟩
  · refine ⟨?_, ?_, ?_, ?_, ?_, ?_, ?_⟩
    all_goals simp only [St.setIn_hung, St.setIn_data, St.setIn_log, h.log, h.hung]
    any_goals rfl
    · intro d r hr
      cases hr
    · intro hs
      cases hs

end

/-! ## the client's ACK -/

/-- a segment of the connection with ACK, and without SYN and RST -/
structure Plain (d : Data) (q : Packet) : Prop where
  source : q.source = d.clientAddress
  destination : q.destination = d.serverAddress
  ack : q.isAck = true
  syn : q.isSyn = false
  reset : q.isReset = false

/-- the segment is answered by a reset, and the session waits on -/
def Refuses (s s' : St) : Prop :=
  s'.data = s.data ∧ ∃ r, r.isReset = true ∧ s'.log = s.log ++ [.sendBack s.data r]

/-- The ACK with the numbers `seq` and `ack`, and no other segment with ACK, establishes the
session, which then has its first byte at `ack`. -/
def EstablishedBy (IP_MSS : U16) (s : St) (seq ack next : U32) : Prop :=
  ∀ (q : Incoming) (i : ClientInput), Plain s.data q.val →
    if q.val.getSequenceNumber = seq ∧ q.val.getAcknowledgmentNumber = ack then
      (step IP_MSS s (.receiveFromClient q i)).data.state = .ESTABLISHED ∧
        (step IP_MSS s (.receiveFromClient q i)).data.sendUnacknowledged = next
    else Refuses s (step IP_MSS s (.receiveFromClient q i))

/-- what TCP asks for: the ACK acknowledges the number of the SYN -/
def ShakesHands (IP_MSS : U16) (s : St) (x iss : U32) : Prop :=
  EstablishedBy IP_MSS s (x + 1) (iss + 1) (iss + 1)

/-- what an ACK does while the session waits for one -/
theorem receiveAck_waiting (IP_MSS : U16) {s : St} (hh : s.hung = false)
    (hs : s.data.state = .SYN_ACK_SENT) :
    EstablishedBy IP_MSS s s.data.receiveSent s.data.sendUnacknowledged
      (s.data.sendUnacknowledged + 1) := by
  intro q i hq
  have hcan : canHandle s.data q.val = true :=
    (canHandle_iff _ _).mpr (.inr ⟨hq.source, hq.destination⟩)
  have hstep : step IP_MSS s (.receiveFromClient q i) =
      { St.receiveAck { s with packet := q.val } i with packet := s.packet } := by
    unfold step receiveFromClient St.handlePacket
    simp [hh, hcan, hq.ack, hq.syn, hq.reset]
  rw [hstep]
  unfold St.receiveAck
  simp only [hs]
  split_ifs with h1 h2
  · rcases h2 with h2 | h2
    · exact absurd h1.1 h2
    · exact absurd h1.2 h2
  · exact ⟨rfl, by simp [St.establish, Data.pushRTT]⟩
  · refine ⟨(sendReset_reply { s with packet := q.val }).data, ?_⟩
    dsimp only
    unfold St.sendReset
    dsimp only
    split_ifs
    · exact ⟨_, rfl, rfl⟩
    · exact ⟨_, rfl, rfl⟩
  · rename_i h2
    exact absurd (by tauto) h1

/-- **The handshake.**  While a session waits for the client's ACK, after any calls, all SYNs it
has sent, one at least, have the sequence number `iss` and acknowledge `x + 1`.  But it is
established by the ACK of `iss`, and refuses every other one, the ACK of `iss + 1` included: the
handshake never works. -/
theorem handshake_confused {IP_MSS : U16} {s : St} {p : Packet} {i : ClientInput} {ops : List Op}
    (h : Opens IP_MSS s p i)
    (hops : Along (step IP_MSS) NoNewConnection (receiveFromClient IP_MSS s p i).2 ops)
    (hs : (run (step IP_MSS) (receiveFromClient IP_MSS s p i).2 ops).data.state = .SYN_ACK_SENT) :
    let t := run (step IP_MSS) (receiveFromClient IP_MSS s p i).2 ops
    let x := p.getSequenceNumber
    let iss := i.sequenceNo
    (∃ d r, .sendBack d r ∈ t.log ∧ r.isSyn = true) ∧
      (∀ d r, .sendBack d r ∈ t.log → r.isSyn = true → r.header = .syn iss (x + 1)) ∧
      EstablishedBy IP_MSS t (x + 1) iss (iss + 1) ∧ ¬ ShakesHands IP_MSS t x iss := by
  have hg := run_inv (fun t => Shaking t.data →
      Greeting p.getSequenceNumber i.sequenceNo p.source p.destination t)
    (fun t op ht hn => Greeting.call ht hn) (fun _ => greeting_opened h) hops (.inr hs)
  intro t x iss
  have hwait := receiveAck_waiting IP_MSS hg.hung hs
  rw [hg.receiveSent, hg.sendUnacknowledged] at hwait
  refine ⟨hg.answered hs, hg.written, hwait, ?_⟩
  intro hshake
  let q := ackPacket t.data.clientAddress t.data.serverAddress (x + 1) (iss + 1) 0
  have hq : Plain t.data q.val := ⟨rfl, rfl, rfl, rfl, rfl⟩
  have hne : ¬ (iss + 1 = iss) := by bv_omega
  have h1 := hshake q i hq
  have h2 := hwait q i hq
  rw [if_pos ⟨rfl, rfl⟩] at h1
  rw [if_neg (fun hc => hne hc.2)] at h2
  rw [h2.1] at h1
  exact absurd (h1.1.symm.trans hs) (by decide)

/-- the server is reached later, its SYN is answered twice -/
theorem handshake_confused_twice :
    let i : ClientInput := ⟨5, .returned (-1), 1000, 0, 0⟩
    let t := run (step 576) (receiveFromClient 576 (unused 576) uploadSyn i).2
      [.flushDataToServer 0 .wouldBlock 1000000000 1000000000,
        .receiveFromClient (synPacket clientA serverA 100 1000) i]
    (∃ d r, .sendBack d r ∈ t.log ∧ r.isSyn = true) ∧
      (∀ d r, .sendBack d r ∈ t.log → r.isSyn = true → r.header = .syn 1000 101) ∧
      EstablishedBy 576 t 101 1000 1001 ∧ ¬ ShakesHands 576 t 100 1000 :=
  handshake_confused ⟨rfl, rfl, rfl, by decide⟩ (by decide) (by decide)

/-- The client's ACK of the SYN is refused. -/
theorem handshake_refused :
    ¬ ∀ (IP_MSS : U16) (s : St) (p : Packet) (i : ClientInput) (ops : List Op),
      Opens IP_MSS s p i →
      Along (step IP_MSS) NoNewConnection (receiveFromClient IP_MSS s p i).2 ops →
      (run (step IP_MSS) (receiveFromClient IP_MSS s p i).2 ops).data.state = .SYN_ACK_SENT →
      ShakesHands IP_MSS (run (step IP_MSS) (receiveFromClient IP_MSS s p i).2 ops)
        p.getSequenceNumber i.sequenceNo := by
  intro h
  have h1 := h 576 (unused 576) uploadSyn connected [] ⟨rfl, rfl, rfl, by decide⟩ trivial (by decide)
    (ackPacket clientA serverA 101 1001 1000) connected ⟨rfl, rfl, rfl, rfl, rfl⟩
  have h2 : (step 576 (receiveFromClient 576 (unused 576) uploadSyn connected).2
      (.receiveFromClient (ackPacket clientA serverA 101 1001 1000) connected)).data.state =
        .ESTABLISHED := h1.1
  revert h2
  decide

end TunServer.Sessions2
