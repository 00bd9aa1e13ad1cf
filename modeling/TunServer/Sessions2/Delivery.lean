import TunServer.Base.Receiver
import TunServer.Sessions2.OldAck
import TunServer.Sessions2.Placed

/-!
# The server's stream reaches the client

A session, a client behind it that receives as TCP does, and the segments between them, which may be
lost, doubled and put in any order on the way.

* `Link`, `Link.step`   a session and its client; what the session sent is in its log, what the
                        client sent is kept with how much the client had then, and any of it may
                        arrive at any time;
* `Timely`              nothing arrives after about `2^31` further bytes were acknowledged;
* `Linked`              the invariant, and `linked_step` that every move keeps it;
* `delivered`           what the client has is a prefix of what was read from the server, what it
                        does not have yet is still in the send buffer, and when it sees the end it
                        has everything.
-/

set_option linter.unusedVariables false

namespace TunServer.Sessions2

/-! ## acknowledgements -/

theorem moves_received {l l' : List Event} (h : Adds Moves l l') : receivedBytes l' = receivedBytes l := by
  obtain ⟨es, rfl, hes⟩ := h
  have h1 : receivedBytes es = [] := by
    refine List.flatMap_eq_nil_iff.mpr fun e he => ?_
    rcases hes e he with h2 | ⟨n, rfl⟩
    · cases e with
      | received bs => exact absurd h2 id
      | _ => rfl
    · rfl
  rw [receivedBytes_append, h1, List.append_nil]

theorem beside_acked {l l' : List Event} (h : Adds Beside l l') : ackedCount l' = ackedCount l := by
  obtain ⟨es, rfl, hes⟩ := h
  have h1 : ackedCount es = 0 := by
    refine List.sum_eq_zero fun n hn => ?_
    obtain ⟨e, he, rfl⟩ := List.mem_map.mp hn
    cases e with
    | acknowledged n => exact absurd (hes _ he) id
    | _ => rfl
  rw [ackedCount_append, h1, Nat.add_zero]

section
variable {ISS : U32} {IP_MSS : U16} {s s' : St}

/-- how far the acknowledged bytes can move in a segment that is accepted -/
theorem acceptSegment_acked (h : Downloading ISS s.data s.log) (hs : s.data.state = .ESTABLISHED)
    (hm : Marks s.data) (hrange : St.ackInRange s.data s.packet = true) (i : ClientInput) :
    ackedCount (s.acceptSegment i).log ≤ ackedCount s.log + (St.ackOff s.data s.packet).toNat := by
  have hd := h.acceptSegment hs i hrange
  have hT := moves_received (acceptSegment_moves s i)
  have hlen : (s.acceptSegment i).data.sendBuffer.bytes.length =
      (receivedBytes s.log).length - ackedCount (s.acceptSegment i).log := by
    rw [hd.buffer, List.length_drop, hT]
  have hlen0 : s.data.sendBuffer.bytes.length = (receivedBytes s.log).length - ackedCount s.log := by
    rw [h.buffer, List.length_drop]
  have hacked := h.acked
  have hacked' := hd.acked
  rw [hT] at hacked'
  -- no more is taken out of the buffer than the segment acknowledges
  have htaken : s.data.sendBuffer.bytes.length ≤
      (s.acceptSegment i).data.sendBuffer.bytes.length + (St.ackOff s.data s.packet).toNat := by
    by_cases hcl : closes s.data s.packet
    · obtain ⟨hk, _⟩ := acceptWindow_accounts s (St.ackOff s.data s.packet) i.now
      rw [acceptSegment_closes i hcl, St.closeSession_data, hk.sendBuffer]
      exact Nat.le_add_right _ _
    · rw [(acceptSegment_acknowledged hm hrange hcl i).bytes, List.length_drop]
      have h1 : (ackedBytes s.data s.packet).toNat ≤ (St.ackOff s.data s.packet).toNat := by
        unfold ackedBytes
        split_ifs with hlt
        · bv_omega
        · exact le_refl _
      omega
  omega

/-- a packet's acknowledgement moves the acknowledged bytes only if it is in range -/
theorem receiveFromClient_acked {p : Packet} {i : ClientInput} (h : Downloading ISS s.data s.log)
    (hm : Marks s.data) (hfirst : s.data.state = .CLOSED → p.isSyn = false) :
    ackedCount (receiveFromClient IP_MSS s p i).2.log = ackedCount s.log ∨
      p.isAck = true ∧ s.data.state = .ESTABLISHED ∧ (St.ackOff s.data p).toNat ≤ 65536 ∧
        ackedCount (receiveFromClient IP_MSS s p i).2.log ≤
          ackedCount s.log + (St.ackOff s.data p).toNat := by
  unfold receiveFromClient
  split_ifs
  · let t : St := { s with packet := p }
    have hstep := handlePacket_step IP_MSS t i
    show ackedCount (t.handlePacket IP_MSS i).log = _ ∨ _ ∧ _ ∧ _ ∧
      ackedCount (t.handlePacket IP_MSS i).log ≤ _
    generalize t.handlePacket IP_MSS i = t' at hstep ⊢
    cases hstep with
    | same => exact .inl rfl
    | reset => exact .inl (beside_acked (sendReset_beside t))
    | ack hs => exact .inl (beside_acked (sendAck_beside t))
    | synAck hs => exact .inl (beside_acked (sendSynAck_beside t))
    | opened res hs hsyn hack hshift hres => exact absurd ((hfirst hs).symm.trans hsyn) (by decide)
    | closed hs hsyn hrst hwin => exact .inl (beside_acked (closeSession_beside t))
    | established hs hseq hack =>
      refine .inl ?_
      unfold St.establish
      dsimp only
      rw [St.setIn_log]
    | accepted hs hsyn hrst hack hseq hrange =>
      have hoff : (St.ackOff s.data p).toNat ≤ s.data.sendNextOffset.toNat + 1 := ackOff_le hm hrange
      have hnext := hm.next
      have hpos := s.data.sendBuffer.position_le
      have ht : Downloading ISS t.data t.log := h
      refine .inr ⟨hack, hs, ?_, acceptSegment_acked ht hs hm hrange i⟩
      bv_omega
  · exact .inl rfl

/-- a call of another kind acknowledges nothing -/
theorem call_adds {op : Op} (hop : op.fromClient = none) :
    Adds (fun e => e.ackedPart = 0) s.log (step IP_MSS s op).log := by
  have beside : ∀ {l : List Event}, Adds Beside s.log l → Adds (fun e => e.ackedPart = 0) s.log l := by
    intro l h
    refine h.mono fun e he => ?_
    cases e with
    | acknowledged n => exact absurd he id
    | _ => rfl
  have flush : ∀ (t : St) now turns, Adds (fun e => e.ackedPart = 0) t.log
      (t.flushDataToClient now turns).log := fun t now turns =>
    (flushDataToClient_flush t now turns).log.mono fun e he => he.idle.acked
  unfold step
  split_ifs
  · exact Adds.refl _ _
  · cases op with
    | receiveFromClient p i => cases hop
    | receiveFromServer r now turns =>
      show Adds _ s.log (s.receiveFromServer r now turns).log
      by_cases hs : s.data.state = .ESTABLISHED ∧ s.data.receiveFromServerFinished = false
      · rw [receiveFromServer_log hs.1 hs.2]
        have hread : Adds (fun e : Event => e.ackedPart = 0) s.log (s.readFromServer r).log := by
          refine (readFromServer_read s r).log.mono ?_
          rintro e ⟨bs, rfl⟩
          rfl
        exact hread.trans (flush _ _ _)
      · rw [receiveFromServer_skip hs]
        exact Adds.refl _ _
    | flushDataToServer lastError r now now' =>
      exact beside (flushDataToServer_beside s lastError r now now')
    | flushDataToClient now turns => exact flush s now turns
    | onSocketError => exact beside (resetClient_beside s)
    | checkStatus now now' =>
      show Adds _ s.log (s.checkStatus now now').2.log
      rcases checkStatus_cases s now now' with ⟨_, e⟩ | ⟨_, e⟩ | ⟨_, e⟩
      · rw [e]; exact Adds.refl _ _
      · rw [e]; exact Adds.refl _ _
      · rw [e]; exact beside (closeSession_beside s)
    | closeSession => exact beside (closeSession_beside s)

end

/-! ## the session and the client -/

/-- a client, by what it got of the server's stream -/
abbrev Client := Receiver Byte

/-- what the client makes of a segment, with room for `room` more bytes -/
def Client.receiveSegment (c : Client) (room : Nat) (p : Packet) : Client :=
  if p.isSyn ∨ p.isReset then c else c.receive room p.getSequenceNumber p.payload p.isFin

/-- A session, its client, and the packets the client sent, each with how many bytes it had then. -/
structure Link where
  session : St
  client : Client
  sent : List (Incoming × Nat)

inductive Move where
  /-- a call of the session that gets no packet from the client -/
  | call (op : Op)
  /-- the entry `k` of the log, if it is a segment, arrives at a client with room for `room` bytes -/
  | toClient (k room : Nat)
  /-- the client sends a packet, acknowledging what it has -/
  | send (p : Incoming)
  /-- the `k`-th packet of the client arrives at the session -/
  | toSession (k : Nat) (i : ClientInput)

namespace Link

def step (IP_MSS : U16) (w : Link) : Move → Link
  | .call op => { w with session := Sessions2.step IP_MSS w.session op }
  | .toClient k room =>
    match w.session.log[k]? with
    | some (.sendBack _ p) => { w with client := w.client.receiveSegment room p }
    | _ => w
  | .send p => { w with sent := w.sent ++ [(p.withAck w.client.next, w.client.got.length)] }
  | .toSession k i =>
    match w.sent[k]? with
    | some (p, _) => { w with session := Sessions2.step IP_MSS w.session (.receiveFromClient p i) }
    | none => w

/-- the client has nothing yet, and the session's first byte has the number `first` -/
def start (s : St) (first : U32) : Link := ⟨s, ⟨first, [], false⟩, []⟩

end Link

/-- The client's handshake is over; no segment reaches it after `2^31 - 2^16` further bytes were
acknowledged, and none reaches the session after `2^31` further bytes were. -/
def Timely (w : Link) : Move → Prop
  | .call op => op.fromClient = none
  | .toClient k _ =>
    ackedCount w.session.log + 2 ^ 16 < ackedCount (w.session.log.take k) + 2 ^ 31
  | .send p => p.val.isSyn = false
  | .toSession k _ => ∀ q ∈ w.sent[k]?, ackedCount w.session.log < q.2 + 2 ^ 31

instance (w : Link) : (m : Move) → Decidable (Timely w m)
  | .call op => inferInstanceAs (Decidable (op.fromClient = none))
  | .toClient k _ => inferInstanceAs (Decidable
      (ackedCount w.session.log + 2 ^ 16 < ackedCount (w.session.log.take k) + 2 ^ 31))
  | .send p => inferInstanceAs (Decidable (p.val.isSyn = false))
  | .toSession k _ => inferInstanceAs
      (Decidable (∀ q ∈ w.sent[k]?, ackedCount w.session.log < q.2 + 2 ^ 31))

/-- what the client sent is no SYN, and acknowledges what the client had then -/
structure Acking (ISS : U32) (c : Client) (q : Incoming × Nat) : Prop where
  syn : q.1.val.isSyn = false
  had : q.2 ≤ c.got.length
  ack : ∃ e, q.1.val.getAcknowledgmentNumber = ISS + 1 + BitVec.ofNat 32 q.2 + b32 e ∧
    (e = true → c.ended = true)

structure Linked (ISS : U32) (w : Link) : Prop where
  placing : Placing ISS w.session
  first : w.client.first = ISS + 1
  got : w.client.got <+: receivedBytes w.session.log
  kept : ackedCount w.session.log ≤ w.client.got.length
  ended : w.client.ended = true →
    SentFin w.session.log ∧ w.client.got = receivedBytes w.session.log
  sent : ∀ q ∈ w.sent, Acking ISS w.client q

section
variable {ISS : U32} {IP_MSS : U16} {w : Link}

theorem sentFin_longer {l l' : List Event} (h : l <+: l') (hf : SentFin l) : SentFin l' := by
  obtain ⟨d, r, hr, hfin⟩ := hf
  exact ⟨d, r, h.subset hr, hfin⟩

/-- the session moves on; what it reads and what is acknowledged to it may change -/
theorem Linked.session (h : Linked ISS w) {s' : St} (hp : Placing ISS s')
    (hlog : w.session.log <+: s'.log) (hkept : ackedCount s'.log ≤ w.client.got.length) :
    Linked ISS { w with session := s' } := by
  obtain ⟨post, hpost⟩ := hlog
  have hT : receivedBytes w.session.log <+: receivedBytes s'.log := by
    rw [← hpost, receivedBytes_append]
    exact List.prefix_append _ _
  refine ⟨hp, h.first, h.got.trans hT, hkept, fun he => ?_, h.sent⟩
  obtain ⟨h1, h2⟩ := h.ended he
  have hpre : w.session.log <+: s'.log := ⟨post, hpost⟩
  refine ⟨sentFin_longer hpre h1, h2.trans ?_⟩
  exact (received_final hp.audited hpre h1).symm

theorem linked_call (h : Linked ISS w) {op : Op} (hop : op.fromClient = none) :
    Linked ISS { w with session := step IP_MSS w.session op } := by
  have hone : NoNewConnection w.session op := by
    intro p hp
    rw [hop] at hp
    cases hp
  obtain ⟨es, hes, hacked⟩ := @call_adds IP_MSS w.session op hop
  refine h.session (placing_step h.placing hone) ⟨es, hes.symm⟩ ?_
  have h1 : ackedCount es = 0 := by
    refine List.sum_eq_zero fun n hn => ?_
    obtain ⟨e, he, rfl⟩ := List.mem_map.mp hn
    exact hacked e he
  rw [hes, ackedCount_append, h1, Nat.add_zero]
  exact h.kept

theorem Acking.mono {c c' : Client} {q : Incoming × Nat} (h : Acking ISS c q)
    (hgot : c.got <+: c'.got) (hended : c.ended = true → c'.ended = true) : Acking ISS c' q := by
  obtain ⟨e, h1, h2⟩ := h.ack
  exact ⟨h.syn, le_trans h.had hgot.length_le, e, h1, fun he => hended (h2 he)⟩

/-- the stream is never longer than what was acknowledged and fits into the send buffer -/
theorem Downloading.length_le {d : Data} {log : List Event} (h : Downloading ISS d log) :
    (receivedBytes log).length ≤ ackedCount log + 65535 := by
  have h1 := d.sendBuffer.fits
  unfold BUFFER_SIZE at h1
  rw [h.buffer, List.length_drop] at h1
  omega

/-- one of the segments that were sent arrives -/
theorem linked_segment (h : Linked ISS w) {pre post : List Event} {d : Data} {p : Packet}
    (hlog : w.session.log = pre ++ .sendBack d p :: post)
    (hyoung : ackedCount w.session.log + 2 ^ 16 < ackedCount pre + 2 ^ 31) (room : Nat) :
    Linked ISS { w with client := w.client.receiveSegment room p } := by
  have hsame : w.client.receiveSegment room p = w.client →
      Linked ISS { w with client := w.client.receiveSegment room p } := by
    intro e
    rw [e]
    exact h
  by_cases hplain : p.isSyn = true ∨ p.isReset = true
  · exact hsame (if_pos hplain)
  by_cases hended : w.client.ended = true
  · refine hsame ?_
    unfold Client.receiveSegment
    rw [if_neg hplain, Receiver.receive_ended hended]
  have hpre : pre <+: w.session.log := ⟨_, hlog.symm⟩
  rcases h.placing.audited pre _ post hlog with ⟨hfin, hbare⟩ | ⟨a, hfaithful, hlast⟩
  · refine hsame ?_
    unfold Client.receiveSegment
    rw [if_neg hplain, hfin]
    rcases hbare with hb | hb | hb
    · exact absurd (.inl hb) hplain
    · exact absurd (.inr hb) hplain
    · rw [hb, Receiver.receive_bare]
  · have hT : receivedBytes pre <+: receivedBytes w.session.log := by
      rw [hlog, receivedBytes_append]
      exact List.prefix_append _ _
    have hshort := h.placing.down.length_le
    have hgot := h.got.length_le
    have hkept := h.kept
    have hacked := hfaithful.acked
    have hle := hfaithful.le
    have hle' := hT.length_le
    -- a FIN stands behind the last byte that was ever read
    have hfin : p.isFin = true → a + p.payload.length = (receivedBytes w.session.log).length := by
      intro hf
      have hpre' : pre ++ [.sendBack d p] <+: w.session.log := ⟨post, by rw [hlog]; simp⟩
      have h1 : SentFin (pre ++ [.sendBack d p]) := ⟨d, p, by simp, hf⟩
      rw [received_final h.placing.audited hpre' h1, hlast hf, receivedBytes_append]
      exact (congrArg List.length (List.append_nil _)).symm
    obtain ⟨hsound, hend⟩ := @Receiver.receive_sound Byte w.client room p.getSequenceNumber p.payload
      p.isFin _ a h.got (by rw [h.first]; exact hfaithful.seq) (hfaithful.mono hpre) (by omega) (by omega)
      hfin
    have e : w.client.receiveSegment room p =
        w.client.receive room p.getSequenceNumber p.payload p.isFin := if_neg hplain
    rw [e]
    refine ⟨h.placing, ?_, hsound, ?_, fun he => ?_, fun q hq => ?_⟩
    · rw [← h.first]
      exact Receiver.receive_first
    · exact le_trans hkept Receiver.got_receive.length_le
    · rcases hend he with h1 | ⟨h1, h2⟩
      · exact absurd h1 hended
      · exact ⟨⟨d, p, by rw [hlog]; simp, h1⟩, h2⟩
    · exact (h.sent q hq).mono Receiver.got_receive fun h1 => absurd h1 hended

theorem linked_send (h : Linked ISS w) {p : Incoming} (hp : p.val.isSyn = false) :
    Linked ISS { w with sent := w.sent ++ [(p.withAck w.client.next, w.client.got.length)] } := by
  refine ⟨h.placing, h.first, h.got, h.kept, h.ended, fun q hq => ?_⟩
  rcases List.mem_append.mp hq with hq | hq
  · exact h.sent q hq
  · obtain rfl := List.mem_singleton.mp hq
    refine ⟨(withAck_reads p _).1.trans hp, le_refl _, w.client.ended, ?_, id⟩
    rw [withAck_ack, ← h.first]
    rfl

/-- one of the packets the client sent arrives -/
theorem linked_packet (h : Linked ISS w) {q : Incoming × Nat} (hq : q ∈ w.sent)
    (hyoung : ackedCount w.session.log < q.2 + 2 ^ 31) (i : ClientInput) :
    Linked ISS { w with session := step IP_MSS w.session (.receiveFromClient q.1 i) } := by
  obtain ⟨hsyn, hhad, e, hack, hend⟩ := h.sent q hq
  have hone : NoNewConnection w.session (.receiveFromClient q.1 i) := by
    intro p hp _
    cases hp
    exact hsyn
  have hp := @placing_step ISS IP_MSS _ _ h.placing hone
  by_cases hh : w.session.hung = true
  · have e1 : step IP_MSS w.session (.receiveFromClient q.1 i) = w.session := if_pos hh
    rw [e1]
    exact h
  have e1 : step IP_MSS w.session (.receiveFromClient q.1 i) =
      (receiveFromClient IP_MSS w.session q.1.val i).2 := if_neg hh
  rw [e1] at hp ⊢
  have hmoves := receiveFromClient_moves IP_MSS w.session q.1.val i
  have hlog : w.session.log <+: (receiveFromClient IP_MSS w.session q.1.val i).2.log := by
    obtain ⟨es, hes, _⟩ := hmoves
    exact ⟨es, hes.symm⟩
  refine h.session hp hlog ?_
  rcases @receiveFromClient_acked ISS IP_MSS _ _ i h.placing.down
    (h.placing.represented (by simpa using hh)).marks (fun _ => hsyn) with h1 | ⟨_, hs, hoff, hle⟩
  · rw [h1]
    exact h.kept
  · have hdist : St.ackOff w.session.data q.1.val = ISS + 1 + BitVec.ofNat 32 q.2 + b32 e -
        (ISS + 1 + BitVec.ofNat 32 (ackedCount w.session.log)) := by
      unfold St.ackOff
      rw [hack, h.placing.down.established hs]
    cases he : e with
    | true =>
      -- the client has the whole stream, and no more than that can be acknowledged
      have h2 := hp.down.acked
      rw [moves_received hmoves, ← (h.ended (hend he)).2] at h2
      exact h2
    | false =>
      rw [he, add_b32_false] at hdist
      rcases Nat.le_total (ackedCount w.session.log) q.2 with hcase | hcase
      · obtain ⟨k, hk⟩ := Nat.exists_eq_add_of_le hcase
        rw [hk, serial_ahead] at hdist
        have h3 : (St.ackOff w.session.data q.1.val).toNat ≤ k := by
          rw [hdist, BitVec.toNat_ofNat]
          exact Nat.mod_le _ _
        omega
      · -- an older acknowledgement is in range only if it is no older
        have h3 := serial_dist (ISS + 1) hyoung (by omega)
        rw [← hdist, BitVec.toInt_eq_toNat_of_lt (by omega)] at h3
        omega

theorem linked_step (h : Linked ISS w) {m : Move} (hm : Timely w m) : Linked ISS (w.step IP_MSS m) := by
  cases m with
  | call op => exact linked_call h hm
  | toClient k room =>
    unfold Link.step
    dsimp only
    cases hk : w.session.log[k]? with
    | none => exact h
    | some e =>
      cases e with
      | sendBack d p =>
        obtain ⟨hlt, he⟩ := List.getElem?_eq_some_iff.mp hk
        have hlog : w.session.log =
            w.session.log.take k ++ .sendBack d p :: w.session.log.drop (k + 1) := by
          rw [← he, List.getElem_cons_drop, List.take_append_drop]
        exact linked_segment h hlog hm room
      | _ => exact h
  | send p => exact linked_send h hm
  | toSession k i =>
    unfold Link.step
    dsimp only
    cases hk : w.sent[k]? with
    | none => exact h
    | some q => exact linked_packet h (List.mem_of_getElem? hk) (hm q hk) i

end

/-! ## the whole -/

/-- **The server's stream reaches the client.**  Let a SYN open a session, and let any calls follow
before anything is read from the server.  From then on, whatever the session's calls, the socket's
answers and the client's packets are, and whatever the network loses, doubles and reorders: the
client has a prefix of what was read from the server, the rest of it is still in the send buffer, and
a client that saw the end has all that will ever be read. -/
theorem delivered {IP_MSS : U16} {s : St} {p : Packet} {i : ClientInput} {ops : List Op}
    {moves : List Move} (hopen : Opens IP_MSS s p i)
    (hone : Along (step IP_MSS) NoNewConnection (receiveFromClient IP_MSS s p i).2 ops)
    (hnone : receivedBytes (run (step IP_MSS) (receiveFromClient IP_MSS s p i).2 ops).log = [])
    (htimely : Along (Link.step IP_MSS) Timely
      (.start (run (step IP_MSS) (receiveFromClient IP_MSS s p i).2 ops) (i.sequenceNo + 1)) moves) :
    let w := run (Link.step IP_MSS)
      (.start (run (step IP_MSS) (receiveFromClient IP_MSS s p i).2 ops) (i.sequenceNo + 1)) moves
    ackedCount w.session.log ≤ w.client.got.length ∧
      w.client.got ++ w.session.data.sendBuffer.bytes.drop
        (w.client.got.length - ackedCount w.session.log) = receivedBytes w.session.log ∧
      (w.client.ended = true → w.client.got = receivedBytes w.session.log ∧
        (w.session.data.receiveFromServerFinished = true ∨ w.session.data.state = .CLOSED)) := by
  intro w
  have hplacing : Placing i.sequenceNo (run (step IP_MSS) (receiveFromClient IP_MSS s p i).2 ops) :=
    run_inv (Placing i.sequenceNo) (fun t op ht hok => placing_step ht hok) (placing_opened hopen) hone
  have hacked := hplacing.down.acked
  rw [hnone] at hacked
  have hstart : Linked i.sequenceNo
      (.start (run (step IP_MSS) (receiveFromClient IP_MSS s p i).2 ops) (i.sequenceNo + 1)) :=
    ⟨hplacing, rfl, List.nil_prefix, hacked, Bool.noConfusion, fun q hq => absurd hq List.not_mem_nil⟩
  have h : Linked i.sequenceNo w :=
    run_inv (Linked i.sequenceNo) (fun v m hv hm => linked_step hv hm) hstart htimely
  refine ⟨h.kept, ?_, fun he => ⟨(h.ended he).2, h.placing.ended (h.ended he).1⟩⟩
  rw [h.placing.down.buffer, List.drop_drop, Nat.add_sub_cancel' h.kept]
  obtain ⟨rest, hrest⟩ := h.got
  rw [← hrest, List.drop_left]

/-- Of the three bytes "abc" the last one arrives first, the other two arrive twice, and it arrives
again; they are acknowledged, and the FIN arrives. -/
def outOfOrder : List Move :=
  [.call (.receiveFromServer (.bytes [97, 98, 99]) 1000000000 4),
   .call (.flushDataToClient 2000000000 4),
   .toClient 4 10, .toClient 3 10, .toClient 2 10, .toClient 4 10,
   .send (ackPacket clientA serverA 101 0 1000), .toSession 0 connected,
   .call (.receiveFromServer (.bytes []) 3000000000 0), .toClient 7 10]

theorem delivered_out_of_order :
    let s := run (step 2) (receiveFromClient 2 (unused 2) (synPacket clientA serverA 100 1000)
      ⟨5, .returned 0, 1000, 0, 0⟩).2 [.receiveFromClient (ackPacket clientA serverA 101 1000 1000) connected]
    let w := run (Link.step 2) (.start s (1000 + 1)) outOfOrder
    w.client.got = [97, 98, 99] ∧ w.client.ended = true ∧
      ackedCount w.session.log ≤ w.client.got.length ∧
      w.client.got ++ w.session.data.sendBuffer.bytes.drop
        (w.client.got.length - ackedCount w.session.log) = receivedBytes w.session.log ∧
      (w.client.ended = true → w.client.got = receivedBytes w.session.log ∧
        (w.session.data.receiveFromServerFinished = true ∨ w.session.data.state = .CLOSED)) :=
  ⟨by decide, by decide, delivered ⟨rfl, rfl, rfl, by decide⟩ (by decide) (by decide) (by decide)⟩

end TunServer.Sessions2
