import TunServer.Sessions2.Flush

/-!
# What the two directions of a session leave alone

* `KeepsUp`     the fields the client's stream and the session's identity live in;
* `FlushStep`   what everything inside `flushDataToClient` does: it keeps these fields and the ends
                of the packet object, and all it adds to the log are segments with these ends;
* `AckStep`     what the processing of an acknowledgement does: it keeps these fields and the
                packet object, and all it adds to the log is the acknowledgement;
* `ReplyStep`   what answering a packet does: it keeps the data, and all it adds to the log are
                segments without bytes of the stream;
* `AcceptStep`  what the processing of a payload does: it appends to the receive buffer.
-/

set_option linter.unusedVariables false

namespace TunServer.Sessions2

/-- the session's state, its ends and its upload are the same -/
structure KeepsUp (d d' : Data) : Prop where
  state : d'.state = d.state
  socket : d'.socket = d.socket
  clientAddress : d'.clientAddress = d.clientAddress
  serverAddress : d'.serverAddress = d.serverAddress
  receiveFromClientFinished : d'.receiveFromClientFinished = d.receiveFromClientFinished
  flushToServerFinished : d'.flushToServerFinished = d.flushToServerFinished
  receiveBuffer : d'.receiveBuffer = d.receiveBuffer
  receiveSent : d'.receiveSent = d.receiveSent

theorem KeepsUp.refl (d : Data) : KeepsUp d d := ⟨rfl, rfl, rfl, rfl, rfl, rfl, rfl, rfl⟩

theorem KeepsUp.trans {d d' d'' : Data} (h : KeepsUp d d') (h' : KeepsUp d' d'') :
    KeepsUp d d'' where
  state := h'.state.trans h.state
  socket := h'.socket.trans h.socket
  clientAddress := h'.clientAddress.trans h.clientAddress
  serverAddress := h'.serverAddress.trans h.serverAddress
  receiveFromClientFinished := h'.receiveFromClientFinished.trans h.receiveFromClientFinished
  flushToServerFinished := h'.flushToServerFinished.trans h.flushToServerFinished
  receiveBuffer := h'.receiveBuffer.trans h.receiveBuffer
  receiveSent := h'.receiveSent.trans h.receiveSent

/-! ## inside `flushDataToClient` -/

/-- a segment of the session `d` with the ends of the packet object `p` -/
def FlushEvent (d : Data) (p : Packet) (e : Event) : Prop :=
  ∃ d' p', e = .sendBack d' p' ∧ KeepsUp d d' ∧ p'.source = p.source ∧
    p'.destination = p.destination

structure FlushStep (s s' : St) : Prop where
  up : KeepsUp s.data s'.data
  source : s'.packet.source = s.packet.source
  destination : s'.packet.destination = s.packet.destination
  log : Adds (FlushEvent s.data s.packet) s.log s'.log

theorem FlushStep.quiet {s s' : St} (up : KeepsUp s.data s'.data)
    (source : s'.packet.source = s.packet.source)
    (destination : s'.packet.destination = s.packet.destination) (log : s'.log = s.log) :
    FlushStep s s' :=
  ⟨up, source, destination, by rw [log]; exact Adds.refl _ _⟩

theorem FlushStep.refl (s : St) : FlushStep s s := .quiet (.refl _) rfl rfl rfl

theorem FlushStep.trans {s s' s'' : St} (h : FlushStep s s') (h' : FlushStep s' s'') :
    FlushStep s s'' where
  up := h.up.trans h'.up
  source := h'.source.trans h.source
  destination := h'.destination.trans h.destination
  log := by
    refine h.log.trans (h'.log.mono ?_)
    rintro e ⟨d', p', rfl, hup, hsrc, hdst⟩
    exact ⟨d', p', rfl, h.up.trans hup, hsrc.trans h.source, hdst.trans h.destination⟩

theorem FlushStep.send {s s' : St} (h : FlushStep s s') (p : Packet)
    (hsrc : p.source = s.packet.source) (hdst : p.destination = s.packet.destination) :
    FlushStep s (s'.sendBack p) where
  up := h.up
  source := hsrc
  destination := hdst
  log := h.log.trans (Adds.one _ ⟨s'.data, p, rfl, h.up, hsrc, hdst⟩)

theorem setFinFlag_ends (p : Packet) (b : Bool) :
    (p.setFinFlag b).source = p.source ∧ (p.setFinFlag b).destination = p.destination := ⟨rfl, rfl⟩

theorem sendSegment_flush (s : St) (mss : U16) (bound ack off : U32) :
    FlushStep s (s.sendSegment mss bound ack off) := by
  unfold St.sendSegment
  dsimp only
  split_ifs with h
  · have h0 : FlushStep s { s with data.sentFinToClient := true } :=
      .quiet ⟨rfl, rfl, rfl, rfl, rfl, rfl, rfl, rfl⟩ rfl rfl rfl
    exact h0.send _ (setFinFlag_ends _ _).1 (setFinFlag_ends _ _).2
  · exact (FlushStep.refl s).send _ rfl rfl

/-- the loop is not entered -/
theorem sendLoop_stop {mss : U16} {push : Bool} {bound ack off : U32} {s : St} (turns : Nat)
    (hmore : ¬ St.sendMore s.data mss push bound off = true) :
    St.sendLoop mss push bound ack turns off s = (off, s) := by
  cases turns with
  | zero =>
    unfold St.sendLoop
    rw [if_neg hmore]
  | succ turns =>
    unfold St.sendLoop
    rw [if_neg hmore]

theorem sendLoop_flush (mss : U16) (push : Bool) (bound ack : U32) (turns : Nat) (off : U32)
    (s : St) : FlushStep s (St.sendLoop mss push bound ack turns off s).2 := by
  induction turns generalizing off s with
  | zero =>
    show FlushStep s (if _ then _ else _)
    split_ifs
    · exact .quiet (.refl _) rfl rfl rfl
    · exact .refl s
  | succ turns ih =>
    unfold St.sendLoop
    split_ifs
    · exact (sendSegment_flush s mss bound ack off).trans (ih _ _)
    · exact .refl s

theorem sentUpTo_flush (s : St) (off : U32) (now : Int) : FlushStep s (s.sentUpTo off now) := by
  unfold St.sentUpTo
  dsimp only
  generalize (if s.data.sendNextOffset < off then off else s.data.sendNextOffset) = newOff
  split_ifs
  · exact .quiet ⟨rfl, rfl, rfl, rfl, rfl, rfl, rfl, rfl⟩ rfl rfl rfl
  · exact .refl s

theorem sendDataStartingFrom_flush (s : St) (off : U32) (mss : U16) (push : Bool) (bound : U32)
    (now : Int) (turns : Nat) :
    FlushStep s (s.sendDataStartingFrom off mss push bound now turns) := by
  have h0 : FlushStep s { s with packet := s.packet.setWindow s.data.receiveBuffer.available } :=
    .quiet (.refl _) rfl rfl rfl
  have h1 := h0.trans (sendLoop_flush mss push bound
    (s.data.receiveSent + s.data.receiveBuffer.position) turns off _)
  unfold St.sendDataStartingFrom
  dsimp only
  split_ifs
  · exact h1
  · exact h1.trans (sentUpTo_flush _ _ _)

theorem trackRTT_flush (s : St) (now : Int) : FlushStep s (s.trackRTT now) := by
  unfold St.trackRTT
  split_ifs
  · exact .refl s
  · exact .quiet ⟨rfl, rfl, rfl, rfl, rfl, rfl, rfl, rfl⟩ rfl rfl rfl

theorem flushSegments_flush (s : St) (bound : U32) (now : Int) (turns : Nat) :
    FlushStep s (s.flushSegments bound now turns) := by
  unfold St.flushSegments
  dsimp only
  split_ifs
  · exact sendDataStartingFrom_flush _ _ _ _ _ _ _
  · exact sendDataStartingFrom_flush _ _ _ _ _ _ _
  · exact (sendDataStartingFrom_flush _ _ _ _ _ _ _).trans (trackRTT_flush _ _)
  · exact .refl s

theorem flushRest_flush (s : St) (bound : U32) (finNotSent : Bool) (now : Int) (turns : Nat) :
    FlushStep s (s.flushRest bound finNotSent now turns) := by
  unfold St.flushRest
  split_ifs
  · exact sendDataStartingFrom_flush _ _ _ _ _ _ _
  · exact .refl s

theorem probe_flush (s : St) (now : Int) : FlushStep s (s.probe now) := by
  unfold St.probe
  split_ifs
  · have h0 : FlushStep s { s with data.sendRetryCount := s.data.sendRetryCount + 1 } :=
      .quiet ⟨rfl, rfl, rfl, rfl, rfl, rfl, rfl, rfl⟩ rfl rfl rfl
    exact h0.send _ rfl rfl
  · exact .refl s

theorem flushDataToClient_flush (s : St) (now : Int) (turns : Nat) :
    FlushStep s (s.flushDataToClient now turns) := by
  have h1 := flushSegments_flush s (St.sendBound s.data) now turns
  have h2 := h1.trans (flushRest_flush _ (St.sendBound s.data) (St.finNotSent s.data) now turns)
  unfold St.flushDataToClient
  dsimp only
  split_ifs
  · exact .refl s
  · exact h1
  · exact h2
  · exact h2.trans (probe_flush _ _)

/-! ## reading from the server -/

/-- the events of a read -/
def ReadEvent (e : Event) : Prop := ∃ bs, e = .received bs

structure ReadStep (s s' : St) : Prop where
  up : KeepsUp s.data s'.data
  packet : s'.packet = s.packet
  log : Adds ReadEvent s.log s'.log

theorem readFromServer_read (s : St) (r : RecvResult) : ReadStep s (s.readFromServer r) := by
  unfold St.readFromServer
  cases r with
  | bytes bs =>
    dsimp only
    split_ifs
    · refine ⟨⟨?_, ?_, ?_, ?_, ?_, ?_, ?_, ?_⟩, ?_, ?_⟩ <;> simp
      exact Adds.one _ ⟨_, rfl⟩
    · exact ⟨⟨rfl, rfl, rfl, rfl, rfl, rfl, rfl, rfl⟩, rfl, Adds.one _ ⟨_, rfl⟩⟩
  | wouldBlock => exact ⟨.refl _, rfl, Adds.refl _ _⟩
  | error =>
    refine ⟨⟨?_, ?_, ?_, ?_, ?_, ?_, ?_, ?_⟩, ?_, ?_⟩ <;> simp
    exact Adds.refl _ _

theorem readFromServer_hung (s : St) (r : RecvResult) : (s.readFromServer r).hung = s.hung := by
  unfold St.readFromServer
  cases r with
  | bytes bs =>
    dsimp only
    split_ifs <;> simp
  | wouldBlock => rfl
  | error => simp

/-- a call of `receiveFromServer` that gets past its first test -/
theorem receiveFromServer_open {s : St} (hs : s.data.state = .ESTABLISHED)
    (hf : s.data.receiveFromServerFinished = false) (r : RecvResult) (now : Int) (turns : Nat) :
    let s' := (s.readFromServer r).flushDataToClient now turns
    s.receiveFromServer r now turns = s' ∨ s.receiveFromServer r now turns = s'.unsetFrom .receiveSet := by
  unfold St.receiveFromServer
  rw [if_neg (by simp [hs, hf])]
  dsimp only
  split_ifs
  · exact .inl rfl
  · exact .inr rfl
  · exact .inl rfl

theorem receiveFromServer_skip {s : St}
    (h : ¬ (s.data.state = .ESTABLISHED ∧ s.data.receiveFromServerFinished = false)) (r : RecvResult)
    (now : Int) (turns : Nat) : s.receiveFromServer r now turns = s := by
  unfold St.receiveFromServer
  rw [if_pos]
  by_contra h'
  rw [not_or, not_not, Bool.not_eq_true] at h'
  exact h h'

theorem receiveFromServer_log {s : St} (hs : s.data.state = .ESTABLISHED)
    (hf : s.data.receiveFromServerFinished = false) (r : RecvResult) (now : Int) (turns : Nat) :
    (s.receiveFromServer r now turns).log =
      ((s.readFromServer r).flushDataToClient now turns).log := by
  rcases receiveFromServer_open hs hf r now turns with h | h
  · rw [h]
  · rw [h, St.unsetFrom_log]

/-! ## processing an acknowledgement -/

/-- the events of an acknowledgement -/
def AckEvent (e : Event) : Prop := ∃ n, e = .acknowledged n

structure AckStep (s s' : St) : Prop where
  up : KeepsUp s.data s'.data
  packet : s'.packet = s.packet
  hung : s'.hung = s.hung
  log : Adds AckEvent s.log s'.log

theorem AckStep.quiet {s s' : St} (up : KeepsUp s.data s'.data) (packet : s'.packet = s.packet)
    (hung : s'.hung = s.hung) (log : s'.log = s.log) : AckStep s s' :=
  ⟨up, packet, hung, by rw [log]; exact Adds.refl _ _⟩

theorem AckStep.refl (s : St) : AckStep s s := .quiet (.refl _) rfl rfl rfl

theorem AckStep.trans {s s' s'' : St} (h : AckStep s s') (h' : AckStep s' s'') : AckStep s s'' :=
  ⟨h.up.trans h'.up, h'.packet.trans h.packet, h'.hung.trans h.hung, h.log.trans h'.log⟩

theorem acceptWindow_ack (s : St) (off : U32) (now : Int) : AckStep s (s.acceptWindow off now) := by
  unfold St.acceptWindow
  split_ifs
  · exact .quiet ⟨rfl, rfl, rfl, rfl, rfl, rfl, rfl, rfl⟩ rfl rfl rfl
  · exact .refl s

theorem advance_ack (s : St) (amt : U32) : AckStep s (s.advance amt) := by
  unfold St.advance
  split_ifs
  · refine ⟨⟨?_, ?_, ?_, ?_, ?_, ?_, ?_, ?_⟩, ?_, ?_, ?_⟩ <;> simp
    exact Adds.one _ ⟨_, rfl⟩
  · exact .refl s

theorem sampleRTT_ack (s : St) (now : Int) : AckStep s (s.sampleRTT now) := by
  unfold St.sampleRTT
  dsimp only
  split_ifs
  · exact .quiet ⟨rfl, rfl, rfl, rfl, rfl, rfl, rfl, rfl⟩ rfl rfl rfl
  · exact .refl s

theorem acceptAck_ack (s : St) (off : U32) (now : Int) : AckStep s (s.acceptAck off now) := by
  have h0 : AckStep s { s with data.flushToClientFinished := true } :=
    .quiet ⟨rfl, rfl, rfl, rfl, rfl, rfl, rfl, rfl⟩ rfl rfl rfl
  unfold St.acceptAck
  split_ifs
  · exact (h0.trans (advance_ack _ _)).trans (sampleRTT_ack _ _)
  · exact (advance_ack _ _).trans (sampleRTT_ack _ _)

/-! ## answering a packet -/

/-- the packet is no segment with bytes of the server's stream -/
def NoData (p : Packet) : Prop := ∀ seq ack fin, p.header = .normal seq ack fin → p.payload = []

/-- the events of an answer -/
def ReplyEvent (e : Event) : Prop := ∃ d p, e = .sendBack d p ∧ NoData p

structure ReplyStep (s s' : St) : Prop where
  data : s'.data = s.data
  hung : s'.hung = s.hung
  log : Adds ReplyEvent s.log s'.log

theorem ReplyStep.refl (s : St) : ReplyStep s s := ⟨rfl, rfl, Adds.refl _ _⟩

theorem sendBack_reply (s : St) (p : Packet) (hp : NoData p) : ReplyStep s (s.sendBack p) :=
  ⟨rfl, rfl, Adds.one _ ⟨_, _, rfl, hp⟩⟩

theorem noData_of_payload {p : Packet} (h : p.payload = []) : NoData p := fun _ _ _ _ => h

theorem noData_of_header {p : Packet} (h : ∀ seq ack fin, p.header ≠ .normal seq ack fin) :
    NoData p := fun _ _ _ he => absurd he (h _ _ _)

theorem sendReset_reply (s : St) : ReplyStep s s.sendReset := by
  unfold St.sendReset
  dsimp only
  split_ifs
  · exact sendBack_reply s _ (noData_of_header fun _ _ _ h => by cases h)
  · exact sendBack_reply s _ (noData_of_header fun _ _ _ h => by cases h)

theorem sendAck_reply (s : St) : ReplyStep s s.sendAck :=
  sendBack_reply s _ (noData_of_payload rfl)

theorem sendSynAck_reply (s : St) : ReplyStep s s.sendSynAck :=
  sendBack_reply s _ (noData_of_header fun _ _ _ h => by cases h)

theorem acknowledgeDelayed_reply (s : St) (now : Int) : ReplyStep s (s.acknowledgeDelayed now) := by
  unfold St.acknowledgeDelayed
  dsimp only
  split_ifs
  · exact ⟨rfl, rfl, Adds.one _ ⟨_, _, rfl, noData_of_payload rfl⟩⟩
  · exact .refl s

/-! ## taking in a payload -/

/-- the bytes of the packet that the session takes -/
def accepted (d : Data) (p : Packet) : List Byte :=
  if d.receiveFromClientFinished then [] else p.payload.take (St.acceptLength d p).toNat

structure AcceptStep (s s' : St) : Prop where
  data : ∃ b fin, s'.data =
    { s.data with receiveBuffer := b, receiveFromClientFinished := fin }
  bytes : s'.data.receiveBuffer.bytes = s.data.receiveBuffer.bytes ++ accepted s.data s.packet
  hung : s'.hung = s.hung
  log : Adds ReplyEvent s.log s'.log

theorem acceptLength_le (d : Data) (p : Packet) :
    (St.acceptLength d p).toNat ≤ d.receiveBuffer.available.toNat := by
  unfold St.acceptLength
  split_ifs with h
  · exact h
  · exact le_refl _

theorem acceptBytes_bytes (s : St) : s.acceptBytes.data.receiveBuffer.bytes =
    s.data.receiveBuffer.bytes ++ s.packet.payload.take (St.acceptLength s.data s.packet).toNat := by
  unfold St.acceptBytes
  dsimp only
  split_ifs with h
  · rw [St.setIn_data]
    refine SmartBuffer.put_bytes _ _ ?_
    rw [List.length_take]
    exact (min_le_left _ _).trans (acceptLength_le _ _)
  · rw [not_not.mp h]
    simp

theorem acceptBytes_keeps (s : St) :
    (∃ b, s.acceptBytes.data = { s.data with receiveBuffer := b }) ∧
      s.acceptBytes.log = s.log ∧ s.acceptBytes.hung = s.hung := by
  unfold St.acceptBytes
  dsimp only
  split_ifs
  · exact ⟨⟨_, St.setIn_data _ _⟩, by simp, by simp⟩
  · exact ⟨⟨_, rfl⟩, rfl, rfl⟩

theorem acceptPayload_accept (s : St) (now : Int) : AcceptStep s (s.acceptPayload now) := by
  obtain ⟨⟨b, hd⟩, hl, hh⟩ := acceptBytes_keeps s
  have hb := acceptBytes_bytes s
  unfold St.acceptPayload
  dsimp only
  split_ifs with hf hfin
  · exact ⟨⟨_, _, rfl⟩, by simp [accepted, hf], rfl, Adds.refl _ _⟩
  · have h := sendAck_reply { s.acceptBytes with data.receiveFromClientFinished := true }
    refine ⟨⟨b, true, ?_⟩, ?_, h.hung.trans hh, by rw [← hl]; exact h.log⟩
    · rw [h.data]
      exact congrArg (fun d : Data => { d with receiveFromClientFinished := true }) hd
    · rw [h.data, accepted, if_neg hf]
      exact hb
  · have h := acknowledgeDelayed_reply s.acceptBytes now
    refine ⟨⟨b, s.data.receiveFromClientFinished, ?_⟩, ?_, h.hung.trans hh, by rw [← hl]; exact h.log⟩
    · rw [h.data, hd]
    · rw [h.data, accepted, if_neg hf]
      exact hb

theorem accepted_keeps {d d' : Data} (h : KeepsUp d d') (p : Packet) :
    accepted d' p = accepted d p := by
  unfold accepted St.acceptLength
  rw [h.receiveFromClientFinished, h.receiveBuffer]

/-- a segment in order has its acknowledgement processed, and then closes the session or has its
payload taken in -/
theorem acceptSegment_cases (s : St) (i : ClientInput) : ∃ s1, AckStep s s1 ∧
    (s.acceptSegment i = s1.closeSession ∨ AcceptStep s1 (s.acceptSegment i)) := by
  have h0 := acceptWindow_ack s (St.ackOff s.data s.packet) i.now
  unfold St.acceptSegment
  dsimp only
  split_ifs
  · exact ⟨_, h0, .inl rfl⟩
  · exact ⟨_, h0.trans (acceptAck_ack _ _ _), .inr (acceptPayload_accept _ _)⟩

end TunServer.Sessions2
