import TunServer.Sessions2.Connection

/-!
# The client's stream on its way to the server

* `Carries`         a packet carries the stream `C` at its sequence number;
* `takesBytes`      whether `receiveFromClient` takes bytes out of a packet;
* `Uploading`       the invariant: what was handed over, and with it what is buffered, is a prefix
                    of `C`;
* `upload_prefix`   the invariant survives every run that takes no bytes once some were handed over;
* `upload_repeats`  a retransmission after that is handed over a second time: `receiveSent` is not
                    moved when the receive buffer is compacted.
-/

set_option linter.unusedVariables false

namespace TunServer.Sessions2

/-- the payload of `p` stands in the client's stream `C` where its sequence number says, `x` being
the sequence number of the SYN -/
def Carries (C : List Byte) (x : U32) (p : Packet) : Prop :=
  Slice C (p.getSequenceNumber - (x + 1)).toNat p.payload

/-- whether the call takes bytes out of the packet -/
def takesBytes (d : Data) (p : Packet) : Bool :=
  d.state = .ESTABLISHED ∧ canHandle d p ∧ ¬ p.isSyn ∧ ¬ p.isReset ∧ p.isAck ∧
    St.inOrder d p ∧ St.ackInRange d p ∧ accepted d p ≠ []

structure Uploading (C : List Byte) (x : U32) (d : Data) (log : List Event) : Prop where
  receiveSent : d.receiveSent = x + 1
  sent : sentBytes log <+: C
  pending : d.state ≠ .CLOSED → d.flushToServerFinished = false →
    sentBytes log ++ d.receiveBuffer.bytes <+: C

section
variable {C : List Byte} {x : U32} {IP_MSS : U16}

/-! ## one step -/

theorem Uploading.keep {d d' : Data} {log log' : List Event} (h : Uploading C x d log)
    (hr : d'.receiveSent = d.receiveSent) (hb : d'.receiveBuffer = d.receiveBuffer)
    (hf : d'.flushToServerFinished = d.flushToServerFinished)
    (hs : d'.state ≠ .CLOSED → d.state ≠ .CLOSED) (hl : sentBytes log' = sentBytes log) :
    Uploading C x d' log' where
  receiveSent := hr.trans h.receiveSent
  sent := by rw [hl]; exact h.sent
  pending := by
    intro h1 h2
    rw [hl, hb]
    exact h.pending (hs h1) (hf ▸ h2)

theorem Uploading.keepsUp {d d' : Data} {log log' : List Event} (h : Uploading C x d log)
    (hup : KeepsUp d d') (hl : sentBytes log' = sentBytes log) : Uploading C x d' log' :=
  h.keep hup.receiveSent hup.receiveBuffer hup.flushToServerFinished (by rw [hup.state]; exact id) hl

theorem Uploading.close {s : St} (h : Uploading C x s.data s.log) :
    Uploading C x s.closeSession.data s.closeSession.log := by
  rw [St.closeSession_data, St.closeSession_log]
  refine h.keep rfl rfl rfl (fun h1 => absurd rfl h1) ?_
  rw [sentBytes_append]
  exact List.append_nil _

/-- The bytes the session takes continue the stream, when the packet starts where the session
expects it and nothing was handed over yet. -/
theorem Uploading.accept {s s' : St} (h : Uploading C x s.data s.log)
    (hopen : s.data.state ≠ .CLOSED) (hc : Carries C x s.packet)
    (hseq : St.inOrder s.data s.packet = true)
    (hready : accepted s.data s.packet ≠ [] → sentBytes s.log = []) (hstep : AcceptStep s s') :
    Uploading C x s'.data s'.log := by
  obtain ⟨b, fin, hd⟩ := hstep.data
  have hb := hstep.bytes
  have hl : sentBytes s'.log = sentBytes s.log := sentBytes_adds (fun _ => ReplyEvent.sentPart) hstep.log
  rw [hd] at hb ⊢
  refine ⟨h.receiveSent, by rw [hl]; exact h.sent, ?_⟩
  intro _ hf
  have hbuf := h.pending hopen hf
  show sentBytes s'.log ++ b.bytes <+: C
  rw [hl, show b.bytes = _ from hb]
  by_cases hnone : accepted s.data s.packet = []
  · rw [hnone, List.append_nil]
    exact hbuf
  · have hsent := hready hnone
    rw [hsent, List.nil_append] at hbuf ⊢
    refine prefix_append_of_slice hbuf ?_
    unfold accepted at hnone ⊢
    split_ifs at hnone ⊢ with hfin
    · exact absurd rfl hnone
    · -- the packet starts at the end of the receive buffer
      rw [Bool.not_eq_true] at hfin
      have hpos : s.packet.getSequenceNumber - (x + 1) = s.data.receiveBuffer.position := by
        unfold St.inOrder at hseq
        rw [h.receiveSent, hfin] at hseq
        simpa using hseq
      unfold Carries at hc
      rw [hpos, SmartBuffer.position_toNat] at hc
      exact (List.take_prefix _ _).trans hc

theorem uploading_client {s s' : St} {i : ClientInput} (h : Uploading C x s.data s.log)
    (hfirst : s.data.state = .CLOSED → s.packet.isSyn = false) (hc : Carries C x s.packet)
    (hready : s.data.state = .ESTABLISHED → s.packet.isSyn = false → s.packet.isReset = false →
      s.packet.isAck = true → St.inOrder s.data s.packet = true →
      St.ackInRange s.data s.packet = true → accepted s.data s.packet ≠ [] → sentBytes s.log = [])
    (hstep : ClientStep IP_MSS s i s') : Uploading C x s'.data s'.log := by
  have reply : ∀ {t : St}, ReplyStep s t → Uploading C x t.data t.log := by
    intro t ht
    rw [ht.data]
    exact h.keepsUp (.refl _) (sentBytes_adds (fun _ => ReplyEvent.sentPart) ht.log)
  cases hstep with
  | same => exact h
  | reset => exact reply (sendReset_reply s)
  | ack => exact reply (sendAck_reply s)
  | synAck => exact reply (sendSynAck_reply s)
  | opened res hs hsyn => exact absurd ((hfirst hs).symm.trans hsyn) (by decide)
  | closed => exact h.close
  | established hs =>
    refine h.keep ?_ ?_ ?_ ?_ ?_
    · simp [St.establish, Data.pushRTT]
    · simp [St.establish, Data.pushRTT]
    · simp [St.establish, Data.pushRTT]
    · intro _; rw [hs]; decide
    · simp [St.establish]
  | accepted hs hsyn hrst hack hseq hrange =>
    obtain ⟨s1, h1, h2⟩ := acceptSegment_cases s i
    have hl := sentBytes_adds (fun _ => AckEvent.sentPart) h1.log
    have hup : Uploading C x s1.data s1.log := h.keepsUp h1.up hl
    rcases h2 with h2 | h2
    · rw [h2]
      exact hup.close
    · refine hup.accept ?_ (by rw [h1.packet]; exact hc) ?_ ?_ h2
      · rw [h1.up.state, hs]; decide
      · rw [h1.packet]
        unfold St.inOrder at hseq ⊢
        rw [h1.up.receiveSent, h1.up.receiveBuffer, h1.up.receiveFromClientFinished]
        exact hseq
      · rw [h1.packet, accepted_keeps h1.up, hl]
        exact hready hs hsyn hrst hack hseq hrange

/-- what is handed over leaves the receive buffer -/
theorem Uploading.finish {s : St} {n : Nat} (h : Uploading C x s.data s.log)
    (hopen : s.data.state ≠ .CLOSED) (hf : s.data.flushToServerFinished = false)
    (hn : n ≤ s.data.receiveBuffer.bytes.length) :
    let s' := (s.emit (.sent (s.data.receiveBuffer.bytes.take n))).finishSend (BitVec.ofNat 32 n)
    Uploading C x s'.data s'.log := by
  have hfits := s.data.receiveBuffer.fits
  have hpos := s.data.receiveBuffer.position_toNat
  unfold BUFFER_SIZE at hfits
  have hall := h.pending hopen hf
  have hlog : sentBytes (s.log ++ [Event.sent (s.data.receiveBuffer.bytes.take n)]) =
      sentBytes s.log ++ s.data.receiveBuffer.bytes.take n := by
    rw [sentBytes_append]
    exact congrArg _ (List.append_nil _)
  have hsent : sentBytes s.log ++ s.data.receiveBuffer.bytes.take n <+: C :=
    ((List.prefix_append_right_inj _).mpr (List.take_prefix _ _)).trans hall
  -- what stays in the buffer follows what was handed over
  have hrest : sentBytes s.log ++ s.data.receiveBuffer.bytes.take n ++
      (s.data.receiveBuffer.compact (s.data.receiveBuffer.position - BitVec.ofNat 32 n)).bytes
        <+: C := by
    have hle : BitVec.ofNat 32 n ≤ s.data.receiveBuffer.position := by
      rw [BitVec.le_def, hpos, BitVec.toNat_ofNat]
      omega
    have hmod : (BitVec.ofNat 32 n).toNat = n := by rw [BitVec.toNat_ofNat]; omega
    rw [SmartBuffer.compact_bytes _ _ hle, hmod, List.append_assoc, List.take_append_drop]
    exact hall
  intro s'
  have hkeep : Uploading C x { s.data with
      receiveBuffer := s.data.receiveBuffer.compact
        (s.data.receiveBuffer.position - BitVec.ofNat 32 n) }
      (s.log ++ [Event.sent (s.data.receiveBuffer.bytes.take n)]) :=
    ⟨h.receiveSent, by rw [hlog]; exact hsent, fun _ _ => by rw [hlog]; exact hrest⟩
  show Uploading C x (St.finishSend _ _).data (St.finishSend _ _).log
  unfold St.finishSend
  dsimp only
  split_ifs with h1 h2 h3
  · refine ⟨?_, ?_, ?_⟩
    · simpa using h.receiveSent
    · rw [St.closeSession_log, sentBytes_append]
      simpa [sentBytes, Event.sentPart] using hsent
    · intro hc
      simp at hc
  · refine ⟨?_, ?_, ?_⟩
    · simpa using h.receiveSent
    · simpa [sentBytes, Event.sentPart] using hsent
    · intro _ hc
      simp at hc
  · simpa using hkeep
  · simpa using hkeep

theorem uploading_resetClient {s : St} (h : Uploading C x s.data s.log) :
    Uploading C x s.resetClient.data s.resetClient.log := by
  unfold St.resetClient
  refine Uploading.close ?_
  refine h.keepsUp (.refl _) ?_
  rw [St.sendBack_log, sentBytes_append]
  exact List.append_nil _

theorem uploading_server {s : St} (h : Uploading C x s.data s.log) (lastError : Int)
    (r : SendResult) (now now' : Int) :
    Uploading C x (s.flushDataToServer lastError r now now').data
      (s.flushDataToServer lastError r now now').log := by
  unfold St.flushDataToServer
  split_ifs with h1 h2
  · unfold St.finishConnect
    dsimp only
    split_ifs
    · exact h
    · refine h.keep ?_ ?_ ?_ ?_ ?_
      · simp
      · simp
      · simp
      · intro _; rw [h1]; decide
      · simp [sentBytes, Event.sentPart]
    · refine Uploading.close ?_
      refine h.keepsUp (.refl _) ?_
      rw [St.sendBack_log, sentBytes_append]
      exact List.append_nil _
  · exact h
  · rw [not_or, not_not, Bool.not_eq_true] at h2
    have hopen : s.data.state ≠ .CLOSED := by rw [h2.1]; decide
    unfold St.sendToServer
    cases r with
    | error => exact uploading_resetClient h
    | accepted n => exact h.finish hopen h2.2 (min_le_right _ _)
    | wouldBlock => exact h.finish hopen h2.2 (Nat.zero_le _)

/-! ## runs -/

/-- The client sends segments of the stream `C`, and no second connection begins. -/
def Carried (C : List Byte) (x : U32) (s : St) (op : Op) : Prop :=
  NoNewConnection s op ∧ ∀ p ∈ op.fromClient, Carries C x p

/-- the call takes no bytes out of a packet once some were handed over to the server socket -/
def TakenBeforeSent (s : St) (op : Op) : Prop :=
  ∀ p ∈ op.fromClient, takesBytes s.data p = true → sentBytes s.log = []

theorem uploading_step {s : St} {op : Op} (h : Uploading C x s.data s.log) (hc : Carried C x s op)
    (hready : TakenBeforeSent s op) :
    Uploading C x (step IP_MSS s op).data (step IP_MSS s op).log := by
  unfold step
  split_ifs
  · exact h
  · cases op with
    | receiveFromClient p i =>
      show Uploading C x (receiveFromClient IP_MSS s p i).2.data
        (receiveFromClient IP_MSS s p i).2.log
      unfold receiveFromClient
      split_ifs with hcan
      · let t : St := { s with packet := p }
        have ht : Uploading C x t.data t.log := h
        show Uploading C x (t.handlePacket IP_MSS i).data (t.handlePacket IP_MSS i).log
        refine uploading_client ht (hc.1 p rfl) (hc.2 p rfl) ?_ (handlePacket_step IP_MSS t i)
        intro hs hsyn hrst hack hseq hrange hne
        exact hready p rfl (by simp_all [takesBytes, t])
      · exact h
    | receiveFromServer r now turns =>
      show Uploading C x (s.receiveFromServer r now turns).data (s.receiveFromServer r now turns).log
      by_cases hs : s.data.state = .ESTABLISHED ∧ s.data.receiveFromServerFinished = false
      · have h1 := readFromServer_read s r
        have h2 := flushDataToClient_flush (s.readFromServer r) now turns
        have h3 := (h.keepsUp h1.up (sentBytes_adds (fun _ => ReadEvent.sentPart) h1.log)).keepsUp
          h2.up (sentBytes_adds (fun _ => FlushEvent.sentPart) h2.log)
        rcases receiveFromServer_open hs.1 hs.2 r now turns with e | e
        · rw [e]
          exact h3
        · rw [e, St.unsetFrom_data, St.unsetFrom_log]
          exact h3
      · rw [receiveFromServer_skip hs]
        exact h
    | flushDataToServer lastError r now now' => exact uploading_server h lastError r now now'
    | flushDataToClient now turns =>
      have h2 := flushDataToClient_flush s now turns
      exact h.keepsUp h2.up (sentBytes_adds (fun _ => FlushEvent.sentPart) h2.log)
    | onSocketError => exact uploading_resetClient h
    | checkStatus now now' =>
      show Uploading C x (s.checkStatus now now').2.data (s.checkStatus now now').2.log
      rcases checkStatus_cases s now now' with ⟨_, e⟩ | ⟨_, e⟩ | ⟨_, e⟩
      · rw [e]; exact h
      · rw [e]; exact h
      · rw [e]; exact h.close
    | closeSession => exact h.close

theorem uploading_opened {s : St} {p : Packet} {i : ClientInput} (h : Opens IP_MSS s p i) :
    Uploading C p.getSequenceNumber (receiveFromClient IP_MSS s p i).2.data
      (receiveFromClient IP_MSS s p i).2.log := by
  obtain ⟨res, _, e⟩ := opens_eq h
  rw [e]
  unfold St.openConnected
  dsimp only
  split_ifs
  · refine ⟨?_, ?_, ?_⟩ <;> simp [St.opened, Data.reset, St.sendSynAck, h.log, sentBytes, Event.sentPart]
  · refine ⟨?_, ?_, ?_⟩ <;> simp [St.opened, Data.reset, h.log, sentBytes]

/-- **The upload is a prefix of the client's stream** in every run of a connection in which
`receiveFromClient` takes no bytes after the server socket took some. -/
theorem upload_prefix {s : St} {p : Packet} {i : ClientInput} {ops : List Op}
    (hopen : Opens IP_MSS s p i)
    (hc : Along (step IP_MSS) (Carried C p.getSequenceNumber) (receiveFromClient IP_MSS s p i).2 ops)
    (hready : Along (step IP_MSS) TakenBeforeSent (receiveFromClient IP_MSS s p i).2 ops) :
    sentBytes (run (step IP_MSS) (receiveFromClient IP_MSS s p i).2 ops).log <+: C := by
  have hinv := run_inv (fun t => Uploading C p.getSequenceNumber t.data t.log)
    (fun t op ht hok => uploading_step ht hok.1 hok.2) (uploading_opened hopen) (hc.and hready)
  exact hinv.sent

end

/-! ## a retransmission after the hand over -/

instance (C : List Byte) (x : U32) (p : Packet) : Decidable (Carries C x p) :=
  inferInstanceAs (Decidable (p.payload <+: C.drop _))

instance (C : List Byte) (x : U32) (s : St) (op : Op) : Decidable (Carried C x s op) :=
  inferInstanceAs (Decidable (NoNewConnection s op ∧ ∀ p ∈ op.fromClient, Carries C x p))

instance (s : St) (op : Op) : Decidable (TakenBeforeSent s op) :=
  inferInstanceAs (Decidable (∀ p ∈ op.fromClient, takesBytes s.data p = true →
    sentBytes s.log = []))

def clientA : SockAddr := ⟨0x0a000001, 40000⟩
def serverA : SockAddr := ⟨0x01010101, 80⟩

def uploadSyn : Packet := (synPacket clientA serverA 100 1000).val

/-- what the surroundings answer when the server is reached at once -/
def connected : ClientInput := ⟨5, .returned 0, 1000, 0, 0⟩

/-- the handshake is finished, and two bytes are taken and handed over -/
def uploadOps : List Op :=
  [.receiveFromClient (ackPacket clientA serverA 101 1000 1000) connected,
   .receiveFromClient (dataPacket clientA serverA 101 1001 1000 [97, 98] twoBytes_lt) connected,
   .flushDataToServer 0 (.accepted 2) 0 0]

theorem upload_prefix_two_bytes :
    sentBytes (run (step 576) (receiveFromClient 576 (unused 576) uploadSyn connected).2 uploadOps).log
      <+: [97, 98, 99] :=
  upload_prefix ⟨rfl, rfl, rfl, by decide⟩ (by decide) (by decide)

/-- The segment of `uploadOps` arrives once more, and is handed over once more. -/
theorem upload_repeats :
    ¬ ∀ (C : List Byte) (IP_MSS : U16) (s : St) (p : Packet) (i : ClientInput) (ops : List Op),
      Opens IP_MSS s p i →
      Along (step IP_MSS) (Carried C p.getSequenceNumber) (receiveFromClient IP_MSS s p i).2 ops →
      sentBytes (run (step IP_MSS) (receiveFromClient IP_MSS s p i).2 ops).log <+: C := by
  intro h
  have h1 := h [97, 98] 576 (unused 576) uploadSyn connected (uploadOps ++ uploadOps.tail)
    ⟨rfl, rfl, rfl, by decide⟩ (by decide)
  revert h1
  decide

end TunServer.Sessions2
