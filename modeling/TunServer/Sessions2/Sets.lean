import TunServer.Sessions2.Isolation

/-!
# What a call does to the descriptor sets

All sessions of a handler share the three sets that `select` is called with.  A call of a session
touches its own descriptor only.

* `Becomes F F' o now`   the sets `F` become `F'`: the descriptor `o` is in the sets `now` tells, all
                         others stay where they were;
* `Registered`           the part of a state the sets depend on;
* `SetsStep`             what a call can do to it, one case for each kind of call;
* `step_sets`            every call does one of these things.
-/

set_option linter.unusedVariables false

namespace TunServer.Sessions2

/-- the descriptor `o` is afterwards in the sets of `now`, the others are where they were -/
def Becomes (F F' : FdSets → Finset Nat) (o : Option Nat) (now : FdSets → Prop) : Prop :=
  ∀ f k, f ∈ F' k ↔ o = some f ∧ now k ∨ o ≠ some f ∧ f ∈ F k

/-- the descriptor `o` is in the set `k` -/
def isIn (F : FdSets → Finset Nat) (o : Option Nat) (k : FdSets) : Prop := ∃ f, o = some f ∧ f ∈ F k

theorem isIn_some {F : FdSets → Finset Nat} {f : Nat} {k : FdSets} :
    isIn F (some f) k ↔ f ∈ F k := by
  simp [isIn]

theorem isIn_none {F : FdSets → Finset Nat} {k : FdSets} : ¬ isIn F none k := by
  simp [isIn]

instance (F : FdSets → Finset Nat) : ∀ (o : Option Nat) (k : FdSets), Decidable (isIn F o k)
  | some f, k => decidable_of_iff (f ∈ F k) isIn_some.symm
  | none, _ => .isFalse isIn_none

section
variable {F F' F'' : FdSets → Finset Nat} {o : Option Nat} {now now' : FdSets → Prop}

/-- nothing changes -/
theorem Becomes.refl (F : FdSets → Finset Nat) (o : Option Nat) : Becomes F F o (isIn F o) := by
  intro f k
  by_cases h : o = some f
  · subst h
    simp [isIn]
  · simp [h]

/-- one change after the other -/
theorem Becomes.trans (h : Becomes F F' o now) (h' : Becomes F' F'' o now') :
    Becomes F F'' o now' := by
  intro f k
  rw [h' f k, h f k]
  tauto

/-- where the descriptor is now -/
theorem Becomes.mem {f : Nat} (h : Becomes F F' (some f) now) (k : FdSets) :
    isIn F' (some f) k ↔ now k := by
  rw [isIn_some, h f k]
  simp

/-- another descriptor stays where it was -/
theorem Becomes.other {f : Nat} (h : Becomes F F' o now) (hf : o ≠ some f) (k : FdSets) :
    f ∈ F' k ↔ f ∈ F k := by
  rw [h f k]
  simp [hf]

theorem Becomes.congr (h : Becomes F F' o now) (hn : ∀ k, o ≠ none → (now k ↔ now' k)) :
    Becomes F F' o now' := by
  intro f k
  rw [h f k]
  by_cases ho : o = some f
  · simp [ho, hn k (by simp [ho])]
  · simp [ho]

end

namespace St

variable (s : St) (k : FdSets)

theorem setIn_sets : Becomes s.shared.fdSets (s.setIn k).shared.fdSets s.data.socket
    (fun k' => k' = k ∨ isIn s.shared.fdSets s.data.socket k') := by
  intro f k'
  unfold setIn
  cases hs : s.data.socket with
  | none => simp
  | some fd =>
    dsimp only
    by_cases hk : k' = k
    · subst hk
      simp [isIn]
      tauto
    · by_cases hf : fd = f
      · subst hf
        simp [isIn, hk]
      · simp [isIn, hk, hf]

theorem unsetFrom_sets : Becomes s.shared.fdSets (s.unsetFrom k).shared.fdSets s.data.socket
    (fun k' => k' ≠ k ∧ isIn s.shared.fdSets s.data.socket k') := by
  intro f k'
  unfold unsetFrom
  cases hs : s.data.socket with
  | none => simp
  | some fd =>
    dsimp only
    by_cases hk : k' = k
    · subst hk
      simp [isIn]
      tauto
    · by_cases hf : fd = f
      · subst hf
        simp [isIn, hk]
      · simp [isIn, hk, hf]

@[simp] theorem emit_shared (e : Event) : (s.emit e).shared = s.shared := rfl
@[simp] theorem sendBack_shared (p : Packet) : (s.sendBack p).shared = s.shared := rfl

@[simp] theorem sendReset_shared : s.sendReset.shared = s.shared := by
  unfold sendReset
  dsimp only
  split_ifs <;> rfl

@[simp] theorem acknowledgeDelayed_sets (now : Int) :
    (s.acknowledgeDelayed now).shared.fdSets = s.shared.fdSets := by
  unfold acknowledgeDelayed
  split_ifs <;> rfl

theorem closeSession_sets :
    Becomes s.shared.fdSets s.closeSession.shared.fdSets s.data.socket (fun _ => False) := by
  have h1 := s.unsetFrom_sets .receiveSet
  have h2 := (s.unsetFrom .receiveSet).unsetFrom_sets .sendSet
  have h3 := ((s.unsetFrom .receiveSet).unsetFrom .sendSet).unsetFrom_sets .errorSet
  rw [unsetFrom_data] at h2
  rw [unsetFrom_data, unsetFrom_data] at h3
  refine Becomes.congr ((h1.trans h2).trans h3) ?_
  intro k' ho
  obtain ⟨f, hf⟩ := Option.ne_none_iff_exists'.mp ho
  rw [hf] at h1 h2 ⊢
  rw [h2.mem, h1.mem]
  cases k' <;> simp

end St

/-! ## inside `flushDataToClient` -/

/-- **The rule for `flushDataToClient`**: what each of its parts does, the whole call does. -/
theorem flushDataToClient_rel {R : St → St → Prop} (refl : ∀ s, R s s)
    (trans : ∀ {s s' s''}, R s s' → R s' s'' → R s s'')
    (window : ∀ (s : St) w, R s { s with packet := s.packet.setWindow w })
    (segment : ∀ (s : St) mss bound ack off, R s (s.sendSegment mss bound ack off))
    (hung : ∀ s : St, R s { s with hung := true })
    (sentUpTo : ∀ (s : St) off now, R s (s.sentUpTo off now)) (now : Int)
    (trackRTT : ∀ s : St, R s (s.trackRTT now)) (probe : ∀ s : St, R s (s.probe now)) (s : St)
    (turns : Nat) : R s (s.flushDataToClient now turns) := by
  have loop : ∀ (mss : U16) (push : Bool) (bound ack : U32) (turns : Nat) (off : U32) (s : St),
      R s (St.sendLoop mss push bound ack turns off s).2 := by
    intro mss push bound ack turns
    induction turns with
    | zero =>
      intro off s
      show R s (if _ then _ else _)
      split_ifs
      · exact hung s
      · exact refl s
    | succ turns ih =>
      intro off s
      unfold St.sendLoop
      split_ifs
      · exact trans (segment s mss bound ack off) (ih _ _)
      · exact refl s
  have send : ∀ (s : St) (off : U32) (mss : U16) (push : Bool) (bound : U32) (turns : Nat),
      R s (s.sendDataStartingFrom off mss push bound now turns) := by
    intro s off mss push bound turns
    have h1 := trans (window s s.data.receiveBuffer.available) (loop mss push bound
      (s.data.receiveSent + s.data.receiveBuffer.position) turns off _)
    unfold St.sendDataStartingFrom
    dsimp only
    split_ifs
    · exact h1
    · exact trans h1 (sentUpTo _ _ _)
  have segments : ∀ bound, R s (s.flushSegments bound now turns) := by
    intro bound
    unfold St.flushSegments
    dsimp only
    split_ifs
    · exact send _ _ _ _ _ _
    · exact send _ _ _ _ _ _
    · exact trans (send _ _ _ _ _ _) (trackRTT _)
    · exact refl s
  have rest : ∀ (s : St) bound fin, R s (s.flushRest bound fin now turns) := by
    intro s bound fin
    unfold St.flushRest
    split_ifs
    · exact send _ _ _ _ _ _
    · exact refl s
  unfold St.flushDataToClient
  dsimp only
  split_ifs
  · exact refl s
  · exact segments _
  · exact trans (segments _) (rest _ _ _)
  · exact trans (trans (segments _) (rest _ _ _)) (probe _)

/-- the fields the sets depend on, the state apart -/
structure KeepsFlow (d d' : Data) : Prop where
  socket : d'.socket = d.socket
  receiveFromClientFinished : d'.receiveFromClientFinished = d.receiveFromClientFinished
  flushToServerFinished : d'.flushToServerFinished = d.flushToServerFinished
  receiveFromServerFinished : d'.receiveFromServerFinished = d.receiveFromServerFinished
  receiveBuffer : d'.receiveBuffer = d.receiveBuffer
  sendBuffer : d'.sendBuffer = d.sendBuffer

theorem KeepsFlow.refl (d : Data) : KeepsFlow d d := ⟨rfl, rfl, rfl, rfl, rfl, rfl⟩

theorem KeepsFlow.trans {d d' d'' : Data} (h : KeepsFlow d d') (h' : KeepsFlow d' d'') :
    KeepsFlow d d'' where
  socket := h'.socket.trans h.socket
  receiveFromClientFinished := h'.receiveFromClientFinished.trans h.receiveFromClientFinished
  flushToServerFinished := h'.flushToServerFinished.trans h.flushToServerFinished
  receiveFromServerFinished := h'.receiveFromServerFinished.trans h.receiveFromServerFinished
  receiveBuffer := h'.receiveBuffer.trans h.receiveBuffer
  sendBuffer := h'.sendBuffer.trans h.sendBuffer

/-- a call that changes nothing the sets depend on -/
structure Quiet (s s' : St) : Prop where
  state : s'.data.state = s.data.state
  flow : KeepsFlow s.data s'.data
  sets : s'.shared.fdSets = s.shared.fdSets

theorem Quiet.refl (s : St) : Quiet s s := ⟨rfl, .refl _, rfl⟩

theorem Quiet.trans {s s' s'' : St} (h : Quiet s s') (h' : Quiet s' s'') : Quiet s s'' :=
  ⟨h'.state.trans h.state, h.flow.trans h'.flow, h'.sets.trans h.sets⟩

theorem flushDataToClient_quiet (s : St) (now : Int) (turns : Nat) :
    Quiet s (s.flushDataToClient now turns) := by
  refine flushDataToClient_rel Quiet.refl Quiet.trans ?_ ?_ ?_ ?_ now ?_ ?_ s turns
  · exact fun s w => ⟨rfl, .refl _, rfl⟩
  · intro s mss bound ack off
    unfold St.sendSegment
    dsimp only
    split_ifs <;> exact ⟨rfl, ⟨rfl, rfl, rfl, rfl, rfl, rfl⟩, rfl⟩
  · exact fun s => ⟨rfl, .refl _, rfl⟩
  · intro s off now
    unfold St.sentUpTo
    dsimp only
    generalize (if s.data.sendNextOffset < off then off else s.data.sendNextOffset) = newOff
    split_ifs <;> exact ⟨rfl, ⟨rfl, rfl, rfl, rfl, rfl, rfl⟩, rfl⟩
  · intro s
    unfold St.trackRTT
    split_ifs <;> exact ⟨rfl, ⟨rfl, rfl, rfl, rfl, rfl, rfl⟩, rfl⟩
  · intro s
    unfold St.probe
    split_ifs <;> exact ⟨rfl, ⟨rfl, rfl, rfl, rfl, rfl, rfl⟩, rfl⟩

/-! ## one call -/

/-- the packet is a segment that an established session takes in -/
def Accepts (d : Data) (p : Packet) : Prop :=
  canHandle d p = true ∧ d.state = .ESTABLISHED ∧ p.isSyn = false ∧ p.isReset = false ∧
    p.isAck = true ∧ St.inOrder d p = true ∧ St.ackInRange d p = true

instance (d : Data) (p : Packet) : Decidable (Accepts d p) :=
  inferInstanceAs (Decidable (canHandle d p = true ∧ d.state = .ESTABLISHED ∧ p.isSyn = false ∧
    p.isReset = false ∧ p.isAck = true ∧ St.inOrder d p = true ∧ St.ackInRange d p = true))

/-- the segment ends the connection: both sides are done -/
def closes (d : Data) (p : Packet) : Prop :=
  d.sendNextOffset < St.ackOff d p ∧ d.flushToServerFinished = true

instance (d : Data) (p : Packet) : Decidable (closes d p) :=
  inferInstanceAs (Decidable (_ ∧ _))

/-- how many bytes the segment acknowledges: one number is the FIN's -/
def ackedBytes (d : Data) (p : Packet) : U32 :=
  if d.sendNextOffset < St.ackOff d p then St.ackOff d p - 1 else St.ackOff d p

/-- the segment frees space in the send buffer -/
def freesSpace (d : Data) (p : Packet) : Prop := 0 < (ackedBytes d p).toInt

instance (d : Data) (p : Packet) : Decidable (freesSpace d p) :=
  inferInstanceAs (Decidable (0 < (ackedBytes d p).toInt))

/-- the session takes bytes of the segment -/
def takesPayload (d : Data) (p : Packet) : Prop :=
  d.receiveFromClientFinished = false ∧ St.acceptLength d p ≠ 0

/-- the session takes the FIN of the segment -/
def takesFin (d : Data) (p : Packet) : Prop :=
  d.receiveFromClientFinished = false ∧ p.isFin = true ∧ St.acceptLength d p = p.getTCPPayloadSize

instance (d : Data) (p : Packet) : Decidable (takesFin d p) :=
  inferInstanceAs (Decidable (_ ∧ _ ∧ _))

/-- what taking in the segment makes of the session -/
structure Accepted (d : Data) (p : Packet) (d' : Data) : Prop where
  state : d'.state = d.state
  socket : d'.socket = d.socket
  flushToServerFinished : d'.flushToServerFinished = d.flushToServerFinished
  receiveFromServerFinished : d'.receiveFromServerFinished = d.receiveFromServerFinished
  sendBuffer : d'.sendBuffer = if freesSpace d p then
    d.sendBuffer.compact (d.sendBuffer.position - ackedBytes d p) else d.sendBuffer
  receiveBuffer : d'.receiveBuffer.bytes = d.receiveBuffer.bytes ++ accepted d p
  receiveFromClientFinished : d'.receiveFromClientFinished = true ↔
    d.receiveFromClientFinished = true ∨ takesFin d p

/-- the bytes a read puts into the send buffer -/
def readBytes (d : Data) : RecvResult → List Byte
  | .bytes bs => bs.take d.sendBuffer.available.toNat
  | _ => []

/-- a read that ends the server's stream -/
def endsStream (d : Data) : RecvResult → Prop
  | .bytes bs => (bs.take d.sendBuffer.available.toNat).length = 0
  | .wouldBlock => False
  | .error => True

/-- What a call can do to the state, the flags, the buffers and the sets. -/
inductive SetsStep (s : St) : Op → St → Prop where
  | quiet {op : Op} {s' : St} (h : Quiet s s') : SetsStep s op s'
  | closed {op : Op} {s' : St} (state : s'.data.state = .CLOSED) (socket : s'.data.socket = none)
      (sets : Becomes s.shared.fdSets s'.shared.fdSets s.data.socket fun _ => False)
      (ended : s'.data.receiveFromServerFinished = s.data.receiveFromServerFinished) :
      SetsStep s op s'
  | opened {p : Incoming} {i : ClientInput} {s' : St} (hs : s.data.state = .CLOSED)
      (hsyn : p.val.isSyn = true)
      (state : s'.data.state = .SYN_ACK_SENT ∨ s'.data.state = .SYN_RECEIVED)
      (socket : s'.data.socket = some i.fd)
      (fin : s'.data.receiveFromClientFinished = false)
      (ended : s'.data.receiveFromServerFinished = false)
      (flushed : s'.data.flushToServerFinished = false)
      (sendBuffer : s'.data.sendBuffer = .clear) (receiveBuffer : s'.data.receiveBuffer = .clear)
      (sets : Becomes s.shared.fdSets s'.shared.fdSets (some i.fd) fun k =>
        k = .errorSet ∨ k = .sendSet ∧ s'.data.state = .SYN_RECEIVED ∨
          isIn s.shared.fdSets (some i.fd) k) :
      SetsStep s (.receiveFromClient p i) s'
  | established {p : Incoming} {i : ClientInput} {s' : St} (hs : s.data.state = .SYN_ACK_SENT)
      (state : s'.data.state = .ESTABLISHED) (flow : KeepsFlow s.data s'.data)
      (sets : Becomes s.shared.fdSets s'.shared.fdSets s.data.socket fun k =>
        k = .receiveSet ∨ isIn s.shared.fdSets s.data.socket k) :
      SetsStep s (.receiveFromClient p i) s'
  | accepted {p : Incoming} {i : ClientInput} {s' : St} (hacc : Accepts s.data p.val)
      (hopen : ¬ closes s.data p.val) (data : Accepted s.data p.val s'.data)
      (sets : Becomes s.shared.fdSets s'.shared.fdSets s.data.socket fun k =>
        k = .receiveSet ∧ freesSpace s.data p.val ∨ k = .sendSet ∧ takesPayload s.data p.val ∨
          isIn s.shared.fdSets s.data.socket k) :
      SetsStep s (.receiveFromClient p i) s'
  | connected {lastError : Int} {r : SendResult} {now now' : Int} {s' : St}
      (hs : s.data.state = .SYN_RECEIVED) (state : s'.data.state = .SYN_ACK_SENT)
      (flow : KeepsFlow s.data s'.data)
      (sets : Becomes s.shared.fdSets s'.shared.fdSets s.data.socket fun k =>
        k ≠ .sendSet ∧ isIn s.shared.fdSets s.data.socket k) :
      SetsStep s (.flushDataToServer lastError r now now') s'
  | sent {lastError : Int} {r : SendResult} {now now' : Int} {s' : St}
      (hs : s.data.state = .ESTABLISHED) (hf : s.data.flushToServerFinished = false)
      (state : s'.data.state = .ESTABLISHED) (socket : s'.data.socket = s.data.socket)
      (sendBuffer : s'.data.sendBuffer = s.data.sendBuffer)
      (ended : s'.data.receiveFromServerFinished = s.data.receiveFromServerFinished)
      (fin : s'.data.receiveFromClientFinished = s.data.receiveFromClientFinished)
      (rest : St.sendCount s.data r < s.data.receiveBuffer.bytes.length →
        s'.data.flushToServerFinished = false ∧
          s'.data.receiveBuffer.bytes = s.data.receiveBuffer.bytes.drop (St.sendCount s.data r))
      (all : St.sendCount s.data r = s.data.receiveBuffer.bytes.length →
        if s.data.receiveFromClientFinished then
          s'.data.flushToServerFinished = true ∧ s'.data.receiveBuffer = s.data.receiveBuffer
        else s'.data.flushToServerFinished = false ∧ s'.data.receiveBuffer.bytes = [])
      (sets : Becomes s.shared.fdSets s'.shared.fdSets s.data.socket fun k =>
        (St.sendCount s.data r = s.data.receiveBuffer.bytes.length → k ≠ .sendSet) ∧
          isIn s.shared.fdSets s.data.socket k) :
      SetsStep s (.flushDataToServer lastError r now now') s'
  | read {r : RecvResult} {now : Int} {turns : Nat} {s' : St} (hs : s.data.state = .ESTABLISHED)
      (hf : s.data.receiveFromServerFinished = false) (up : KeepsUp s.data s'.data)
      (ended : s'.data.receiveFromServerFinished = true ↔ endsStream s.data r)
      (bytes : s'.data.sendBuffer.bytes = s.data.sendBuffer.bytes ++ readBytes s.data r)
      (sets : Becomes s.shared.fdSets s'.shared.fdSets s.data.socket fun k =>
        ¬ (k = .receiveSet ∧ (endsStream s.data r ∨
          s'.hung = false ∧ s'.data.sendBuffer.available = 0)) ∧
          isIn s.shared.fdSets s.data.socket k) :
      SetsStep s (.receiveFromServer r now turns) s'

theorem openConnected_step (s : St) (IP_MSS : U16) (p : Incoming) (i : ClientInput) (res : Int)
    (hs : s.data.state = .CLOSED) (hsyn : p.val.isSyn = true) :
    SetsStep s (.receiveFromClient p i) (s.openConnected IP_MSS i res) := by
  have h0 := St.setIn_sets { s with data := St.opened s.data IP_MSS s.packet i } .errorSet
  have h1 := St.setIn_sets { { s with data := St.opened s.data IP_MSS s.packet i }.setIn .errorSet
    with data.state := .SYN_RECEIVED } .sendSet
  simp only [St.setIn_data] at h1
  by_cases hres : res = 0
  · have e : s.openConnected IP_MSS i res = { { { s with
        data := St.opened s.data IP_MSS s.packet i }.setIn .errorSet with
        data.lastTimeSentNewData := i.now }.sendSynAck with data.state := .SYN_ACK_SENT } := by
      unfold St.openConnected
      exact if_pos hres
    rw [e]
    refine .opened hs hsyn (.inl rfl) ?_ ?_ ?_ ?_ ?_ ?_ ?_
    all_goals simp only [St.sendSynAck, St.sendBack_data, St.setIn_data, St.sendBack_shared]
    any_goals rfl
    refine Becomes.congr h0 ?_
    intro k _
    cases k <;> simp [St.opened]
  · have e : s.openConnected IP_MSS i res = { { s with
        data := St.opened s.data IP_MSS s.packet i }.setIn .errorSet with
        data.state := .SYN_RECEIVED }.setIn .sendSet := by
      unfold St.openConnected
      exact if_neg hres
    rw [e]
    refine .opened hs hsyn (.inr ?_) ?_ ?_ ?_ ?_ ?_ ?_ ?_
    all_goals simp only [St.setIn_data]
    any_goals rfl
    refine Becomes.congr (Becomes.trans h0 h1) ?_
    intro k _
    have h2 := h0.mem k
    cases k <;> simp_all [St.opened]

theorem establish_step (s : St) (p : Incoming) (i : ClientInput)
    (hs : s.data.state = .SYN_ACK_SENT) :
    SetsStep s (.receiveFromClient p i) (s.establish i) := by
  refine .established hs rfl ?_ ?_
  · unfold St.establish
    dsimp only
    rw [St.setIn_data]
    exact ⟨rfl, rfl, rfl, rfl, rfl, rfl⟩
  · unfold St.establish
    exact St.setIn_sets _ .receiveSet

/-- the sets and the send buffer after `advance` -/
theorem advance_sets (s : St) (amt : U32) :
    (s.advance amt).data.sendBuffer = (if 0 < amt.toInt then
      s.data.sendBuffer.compact (s.data.sendBuffer.position - amt) else s.data.sendBuffer) ∧
    (s.advance amt).data.receiveFromServerFinished = s.data.receiveFromServerFinished ∧
    Becomes s.shared.fdSets (s.advance amt).shared.fdSets s.data.socket fun k =>
      k = .receiveSet ∧ 0 < amt.toInt ∨ isIn s.shared.fdSets s.data.socket k := by
  unfold St.advance
  dsimp only
  split_ifs with h
  · refine ⟨by rw [St.setIn_data]; rfl, by rw [St.setIn_data]; rfl, ?_⟩
    refine Becomes.congr (St.setIn_sets _ .receiveSet) ?_
    intro k _
    simp [h]
  · refine ⟨rfl, rfl, Becomes.congr (Becomes.refl _ _) ?_⟩
    intro k _
    simp [h]

theorem sampleRTT_sets (s : St) (now : Int) :
    (s.sampleRTT now).data.sendBuffer = s.data.sendBuffer ∧
    (s.sampleRTT now).data.receiveFromServerFinished = s.data.receiveFromServerFinished ∧
    (s.sampleRTT now).shared = s.shared := by
  unfold St.sampleRTT
  dsimp only
  split_ifs <;> exact ⟨rfl, rfl, rfl⟩

theorem acceptWindow_sets (s : St) (off : U32) (now : Int) :
    (s.acceptWindow off now).data.sendBuffer = s.data.sendBuffer ∧
    (s.acceptWindow off now).data.sendNextOffset = s.data.sendNextOffset ∧
    (s.acceptWindow off now).data.receiveFromServerFinished =
      s.data.receiveFromServerFinished ∧
    (s.acceptWindow off now).shared = s.shared := by
  unfold St.acceptWindow
  split_ifs <;> exact ⟨rfl, rfl, rfl, rfl⟩

theorem acceptAck_sets (s : St) (off : U32) (now : Int) :
    let amt := if s.data.sendNextOffset < off then off - 1 else off
    (s.acceptAck off now).data.sendBuffer = (if 0 < amt.toInt then
      s.data.sendBuffer.compact (s.data.sendBuffer.position - amt) else s.data.sendBuffer) ∧
    (s.acceptAck off now).data.receiveFromServerFinished = s.data.receiveFromServerFinished ∧
    Becomes s.shared.fdSets (s.acceptAck off now).shared.fdSets s.data.socket fun k =>
      k = .receiveSet ∧ 0 < amt.toInt ∨ isIn s.shared.fdSets s.data.socket k := by
  have key : ∀ (s1 : St) (amt : U32),
      ((s1.advance amt).sampleRTT now).data.sendBuffer = (if 0 < amt.toInt then
        s1.data.sendBuffer.compact (s1.data.sendBuffer.position - amt) else s1.data.sendBuffer) ∧
      ((s1.advance amt).sampleRTT now).data.receiveFromServerFinished =
        s1.data.receiveFromServerFinished ∧
      Becomes s1.shared.fdSets ((s1.advance amt).sampleRTT now).shared.fdSets s1.data.socket
        fun k => k = .receiveSet ∧ 0 < amt.toInt ∨ isIn s1.shared.fdSets s1.data.socket k := by
    intro s1 amt
    obtain ⟨h1, h2, h3⟩ := sampleRTT_sets (s1.advance amt) now
    rw [h1, h2, h3]
    exact advance_sets s1 amt
  intro amt
  by_cases h : s.data.sendNextOffset < off
  · have e : s.acceptAck off now = ({ s with data.flushToClientFinished := true }.advance
        (off - 1)).sampleRTT now := if_pos h
    have e' : amt = off - 1 := if_pos h
    rw [e, e']
    exact key { s with data.flushToClientFinished := true } (off - 1)
  · have e : s.acceptAck off now = (s.advance off).sampleRTT now := if_neg h
    have e' : amt = off := if_neg h
    rw [e, e']
    exact key s off

theorem acceptBytes_sets (s : St) :
    Becomes s.shared.fdSets s.acceptBytes.shared.fdSets s.data.socket fun k =>
      k = .sendSet ∧ St.acceptLength s.data s.packet ≠ 0 ∨ isIn s.shared.fdSets s.data.socket k := by
  unfold St.acceptBytes
  dsimp only
  split_ifs with h
  · refine Becomes.congr (St.setIn_sets _ .sendSet) ?_
    intro k _
    tauto
  · refine Becomes.congr (Becomes.refl _ _) ?_
    intro k _
    tauto

theorem acceptBytes_packet (s : St) : s.acceptBytes.packet = s.packet := by
  unfold St.acceptBytes
  dsimp only
  split_ifs <;> simp

theorem acceptPayload_sets (s : St) (now : Int) :
    ((s.acceptPayload now).data.receiveFromClientFinished = true ↔
      s.data.receiveFromClientFinished = true ∨ takesFin s.data s.packet) ∧
    Becomes s.shared.fdSets (s.acceptPayload now).shared.fdSets s.data.socket fun k =>
      k = .sendSet ∧ takesPayload s.data s.packet ∨ isIn s.shared.fdSets s.data.socket k := by
  have hb := acceptBytes_sets s
  obtain ⟨⟨b, hd⟩, _, _⟩ := acceptBytes_keeps s
  have hd' : s.acceptBytes.data.receiveFromClientFinished = s.data.receiveFromClientFinished := by
    rw [hd]
  have hp := acceptBytes_packet s
  unfold St.acceptPayload takesPayload takesFin
  dsimp only
  rw [hp]
  split_ifs with hf hfin
  · refine ⟨by simp [hf], Becomes.congr (Becomes.refl _ _) ?_⟩
    intro k _
    simp [hf]
  · refine ⟨?_, ?_⟩
    · show true = true ↔ _
      simp [hf, hfin]
    · show Becomes _ s.acceptBytes.shared.fdSets _ _
      refine Becomes.congr hb ?_
      intro k _
      simp [hf]
  · rw [(acknowledgeDelayed_reply s.acceptBytes now).data, hd', St.acknowledgeDelayed_sets]
    refine ⟨by tauto, Becomes.congr hb ?_⟩
    intro k _
    simp [hf]

theorem accepted_congr {d d' : Data} (h : KeepsUp d d') (p : Packet) :
    (takesFin d' p ↔ takesFin d p) ∧ (takesPayload d' p ↔ takesPayload d p) := by
  unfold takesFin takesPayload St.acceptLength
  rw [h.receiveFromClientFinished, h.receiveBuffer]
  exact ⟨Iff.rfl, Iff.rfl⟩

/-- the segment ends the connection -/
theorem acceptSegment_closes {s : St} (i : ClientInput) (h : closes s.data s.packet) :
    s.acceptSegment i = (s.acceptWindow (St.ackOff s.data s.packet) i.now).closeSession := by
  obtain ⟨_, hw, _⟩ := acceptWindow_sets s (St.ackOff s.data s.packet) i.now
  have hk := acceptWindow_ack s (St.ackOff s.data s.packet) i.now
  unfold St.acceptSegment
  refine if_pos ?_
  rw [hw, hk.up.flushToServerFinished]
  exact h

/-- the acknowledgement of the segment is processed, and its payload taken in -/
theorem acceptSegment_open {s : St} (i : ClientInput) (h : ¬ closes s.data s.packet) :
    s.acceptSegment i = ((s.acceptWindow (St.ackOff s.data s.packet) i.now).acceptAck
      (St.ackOff s.data s.packet) i.now).acceptPayload i.nowAcknowledge := by
  obtain ⟨_, hw, _⟩ := acceptWindow_sets s (St.ackOff s.data s.packet) i.now
  have hk := acceptWindow_ack s (St.ackOff s.data s.packet) i.now
  unfold St.acceptSegment
  refine if_neg ?_
  rw [hw, hk.up.flushToServerFinished]
  exact h

theorem acceptSegment_sets (s : St) (i : ClientInput) (hopen : ¬ closes s.data s.packet) :
    Accepted s.data s.packet (s.acceptSegment i).data ∧
    Becomes s.shared.fdSets (s.acceptSegment i).shared.fdSets s.data.socket fun k =>
      k = .receiveSet ∧ freesSpace s.data s.packet ∨ k = .sendSet ∧ takesPayload s.data s.packet ∨
        isIn s.shared.fdSets s.data.socket k := by
  have hw := acceptWindow_ack s (St.ackOff s.data s.packet) i.now
  obtain ⟨hw1, hw2, hw3, hw4⟩ := acceptWindow_sets s (St.ackOff s.data s.packet) i.now
  have ha := hw.trans (acceptAck_ack _ (St.ackOff s.data s.packet) i.now)
  obtain ⟨ha1, ha2, ha3⟩ :=
    acceptAck_sets (s.acceptWindow (St.ackOff s.data s.packet) i.now) (St.ackOff s.data s.packet) i.now
  rw [acceptSegment_open i hopen]
  rw [hw1, hw2] at ha1
  rw [hw3] at ha2
  rw [hw4, hw.up.socket, hw2] at ha3
  generalize (s.acceptWindow (St.ackOff s.data s.packet) i.now).acceptAck
    (St.ackOff s.data s.packet) i.now = t at ha ha1 ha2 ha3 ⊢
  obtain ⟨hp1, hp2⟩ := acceptPayload_sets t i.nowAcknowledge
  have hp := acceptPayload_accept t i.nowAcknowledge
  obtain ⟨b, fin, hd⟩ := hp.data
  have hc := accepted_congr ha.up s.packet
  rw [ha.packet, ha.up.receiveFromClientFinished, hc.1] at hp1
  rw [ha.packet, ha.up.socket, hc.2] at hp2
  refine ⟨⟨?_, ?_, ?_, ?_, ?_, ?_, hp1⟩, ?_⟩
  · rw [hd]; exact ha.up.state
  · rw [hd]; exact ha.up.socket
  · rw [hd]; exact ha.up.flushToServerFinished
  · rw [hd]; exact ha2
  · rw [hd]; exact ha1
  · rw [hp.bytes, ha.up.receiveBuffer, ha.packet, accepted_keeps ha.up]
  · refine Becomes.congr (ha3.trans hp2) ?_
    intro k ho
    obtain ⟨f, hf⟩ := Option.ne_none_iff_exists'.mp ho
    rw [hf] at ha3 ⊢
    rw [ha3.mem]
    exact or_left_comm

theorem closeSession_step (s : St) (op : Op) : SetsStep s op s.closeSession :=
  .closed (by rw [St.closeSession_data]) (by rw [St.closeSession_data]) s.closeSession_sets
    (by rw [St.closeSession_data])

theorem handlePacket_sets (IP_MSS : U16) (s : St) (p : Incoming) (i : ClientInput)
    (hp : s.packet = p.val) (hcan : canHandle s.data s.packet = true) :
    SetsStep s (.receiveFromClient p i) (s.handlePacket IP_MSS i) := by
  have h := handlePacket_step IP_MSS s i
  generalize s.handlePacket IP_MSS i = s' at h ⊢
  have reply : ∀ {t : St}, ReplyStep s t → t.shared = s.shared →
      SetsStep s (.receiveFromClient p i) t := by
    intro t ht hsh
    refine .quiet ⟨by rw [ht.data], ?_, by rw [hsh]⟩
    rw [ht.data]
    exact .refl _
  cases h with
  | same => exact .quiet (.refl s)
  | reset => exact reply (sendReset_reply s) s.sendReset_shared
  | ack hs => exact reply (sendAck_reply s) rfl
  | synAck hs => exact reply (sendSynAck_reply s) rfl
  | opened res hs hsyn hack hshift hres =>
    exact openConnected_step s IP_MSS p i res hs (by rw [← hp]; exact hsyn)
  | closed hs hsyn hrst hwin => exact closeSession_step s _
  | established hs hseq hack => exact establish_step s p i hs
  | accepted hs hsyn hrst hack hseq hrange =>
    by_cases hcl : closes s.data s.packet
    · obtain ⟨hw1, hw2, hw3, hw4⟩ := acceptWindow_sets s (St.ackOff s.data s.packet) i.now
      have hw := acceptWindow_ack s (St.ackOff s.data s.packet) i.now
      have hc := St.closeSession_sets (s.acceptWindow (St.ackOff s.data s.packet) i.now)
      rw [hw4, hw.up.socket] at hc
      rw [acceptSegment_closes i hcl]
      exact .closed (by rw [St.closeSession_data]) (by rw [St.closeSession_data]) hc (by simpa using hw3)
    · obtain ⟨h1, h2⟩ := acceptSegment_sets s i hcl
      rw [hp] at h1 h2 hcl hsyn hrst hack hseq hrange hcan
      exact .accepted ⟨hcan, hs, hsyn, hrst, hack, hseq, hrange⟩ hcl h1 h2

/-- the call looks at the packet it gets, not at the handler's packet object -/
theorem receiveFromClient_sets (IP_MSS : U16) (s : St) (p : Incoming) (i : ClientInput) :
    SetsStep s (.receiveFromClient p i) (receiveFromClient IP_MSS s p.val i).2 := by
  unfold receiveFromClient
  split_ifs with hcan
  · have h := handlePacket_sets IP_MSS { s with packet := p.val } p i rfl hcan
    dsimp only
    generalize St.handlePacket { s with packet := p.val } IP_MSS i = s' at h ⊢
    cases h with
    | quiet h => exact .quiet ⟨h.state, h.flow, h.sets⟩
    | closed state socket sets ended => exact .closed state socket sets ended
    | opened hs hsyn state socket fin ended flushed sendBuffer receiveBuffer sets =>
      exact .opened hs hsyn state socket fin ended flushed sendBuffer receiveBuffer sets
    | established hs state flow sets => exact .established hs state flow sets
    | accepted hacc hopen data sets => exact .accepted hacc hopen data sets
  · exact .quiet (.refl s)

/-- the packet closes the open session -/
def closedBy (d : Data) (p : Packet) : Prop :=
  p.isSyn = false ∧ p.isReset = true ∧ St.resetInWindow d p = true ∨ Accepts d p ∧ closes d p

instance (d : Data) (p : Packet) : Decidable (closedBy d p) := inferInstanceAs (Decidable (_ ∨ _))

/-- no other packet touches the socket of an open session -/
theorem receiveFromClient_socket (IP_MSS : U16) {s : St} {p : Packet} (i : ClientInput)
    (hopen : s.data.state ≠ .CLOSED) (hp : ¬ closedBy s.data p) :
    (receiveFromClient IP_MSS s p i).2.data.socket = s.data.socket := by
  unfold receiveFromClient
  split_ifs with hcan
  · have h := handlePacket_step IP_MSS { s with packet := p } i
    show (St.handlePacket { s with packet := p } IP_MSS i).data.socket = _
    generalize St.handlePacket { s with packet := p } IP_MSS i = s' at h ⊢
    cases h with
    | same => rfl
    | reset => rw [(sendReset_reply _).data]
    | ack => rw [(sendAck_reply _).data]
    | synAck => rw [(sendSynAck_reply _).data]
    | opened res hs => exact absurd hs hopen
    | closed hs hsyn hrst hwin => exact absurd (.inl ⟨hsyn, hrst, hwin⟩) hp
    | established hs => simp [St.establish, Data.pushRTT]
    | accepted hs hsyn hrst hack hseq hrange =>
      have hcl : ¬ closes s.data p := fun hcl => hp (.inr ⟨⟨hcan, hs, hsyn, hrst, hack, hseq, hrange⟩, hcl⟩)
      exact (acceptSegment_sets { s with packet := p } i hcl).1.socket
  · rfl

theorem resetClient_step (s : St) (op : Op) : SetsStep s op s.resetClient := by
  have h := St.closeSession_sets (s.sendBack (St.setEnds s.data
    (s.packet.makeResetSeq (s.data.sendUnacknowledged + s.data.sendNextOffset))))
  exact .closed (by simp [St.resetClient]) (by simp [St.resetClient]) h (by simp [St.resetClient])

theorem sendCount_le (d : Data) (r : SendResult) :
    St.sendCount d r ≤ d.receiveBuffer.bytes.length := by
  cases r with
  | accepted m => exact min_le_right _ _
  | wouldBlock => exact Nat.zero_le _
  | error => exact Nat.zero_le _

theorem finishSend_step (s : St) {lastError : Int} {r : SendResult} {now now' : Int}
    (hs : s.data.state = .ESTABLISHED) (hf : s.data.flushToServerFinished = false) :
    let n := St.sendCount s.data r
    SetsStep s (.flushDataToServer lastError r now now')
      ((s.emit (.sent (s.data.receiveBuffer.bytes.take n))).finishSend (BitVec.ofNat 32 n)) := by
  intro n
  have hn : n ≤ s.data.receiveBuffer.bytes.length := sendCount_le s.data r
  have hle := s.data.receiveBuffer.fits
  unfold BUFFER_SIZE at hle
  have hall : BitVec.ofNat 32 n = s.data.receiveBuffer.position ↔
      n = s.data.receiveBuffer.bytes.length := by
    rw [← BitVec.toNat_inj, SmartBuffer.position_toNat, BitVec.toNat_ofNat]
    omega
  have hu := St.unsetFrom_sets (s.emit (.sent (s.data.receiveBuffer.bytes.take n))) .sendSet
  simp only [St.emit_shared, St.emit_data] at hu
  unfold St.finishSend
  dsimp only [St.emit_data]
  by_cases h : n = s.data.receiveBuffer.bytes.length
  · have hset : Becomes s.shared.fdSets
        ((s.emit (.sent (s.data.receiveBuffer.bytes.take n))).unsetFrom .sendSet).shared.fdSets
        s.data.socket fun k => (n = s.data.receiveBuffer.bytes.length → k ≠ .sendSet) ∧
          isIn s.shared.fdSets s.data.socket k := by
      refine Becomes.congr hu ?_
      intro k _
      simp [h]
    simp only [hall.mpr h, if_true, St.unsetFrom_data, St.emit_data]
    split_ifs with hfin hdone
    · refine .closed (by rw [St.closeSession_data]) (by rw [St.closeSession_data]) ?_ (by simp)
      have hc := St.closeSession_sets
        ((s.emit (.sent (s.data.receiveBuffer.bytes.take n))).unsetFrom .sendSet)
      rw [St.unsetFrom_data] at hc
      exact hu.trans hc
    · refine .sent hs hf ?_ ?_ ?_ ?_ ?_ ?_ ?_ hset
      any_goals simp [hs, hfin]
      exact le_of_eq h.symm
    · refine .sent hs hf ?_ ?_ ?_ ?_ ?_ (fun h' => absurd h (Nat.ne_of_lt h')) ?_ hset
      any_goals simp [hs]
      intro _
      simp [hfin, hf, SmartBuffer.compact]
  · have h' : ¬ BitVec.ofNat 32 n = s.data.receiveBuffer.position := fun e => h (hall.mp e)
    rw [if_neg h']
    have hdrop : (s.data.receiveBuffer.compact (s.data.receiveBuffer.position -
        BitVec.ofNat 32 n)).bytes = s.data.receiveBuffer.bytes.drop n := by
      rw [SmartBuffer.compact_bytes, BitVec.toNat_ofNat, Nat.mod_eq_of_lt (by omega)]
      rw [BitVec.le_def, SmartBuffer.position_toNat, BitVec.toNat_ofNat]
      omega
    refine .sent hs hf hs rfl rfl rfl rfl (fun _ => ⟨hf, hdrop⟩) (fun e => absurd e h) ?_
    refine Becomes.congr (Becomes.refl _ _) ?_
    intro k _
    have h'' : ¬ St.sendCount s.data r = s.data.receiveBuffer.bytes.length := h
    simp [h'']

theorem finishConnect_step (s : St) {lastError : Int} {r : SendResult} {now now' : Int}
    (hs : s.data.state = .SYN_RECEIVED) :
    SetsStep s (.flushDataToServer lastError r now now') (s.finishConnect lastError now now') := by
  unfold St.finishConnect
  dsimp only
  split_ifs with h h'
  · exact .quiet (.refl s)
  · refine .connected hs ?_ ?_ ?_
    · rw [St.unsetFrom_data]
    · rw [St.unsetFrom_data]
      exact ⟨rfl, rfl, rfl, rfl, rfl, rfl⟩
    · exact St.unsetFrom_sets _ .sendSet
  · have hc := St.closeSession_sets (s.sendBack ((St.setEnds s.data s.packet).makeResetAck
      s.data.receiveSent))
    exact .closed (by rw [St.closeSession_data]) (by rw [St.closeSession_data]) hc (by simp)

theorem flushDataToServer_sets (s : St) (lastError : Int) (r : SendResult) (now now' : Int) :
    SetsStep s (.flushDataToServer lastError r now now')
      (s.flushDataToServer lastError r now now') := by
  unfold St.flushDataToServer
  split_ifs with h h'
  · exact finishConnect_step s h
  · exact .quiet (.refl s)
  · rw [not_or, not_not, Bool.not_eq_true] at h'
    unfold St.sendToServer
    split
    · exact resetClient_step s _
    · exact finishSend_step s h'.1 h'.2

theorem readFromServer_sets (s : St) (r : RecvResult)
    (hf : s.data.receiveFromServerFinished = false) :
    ((s.readFromServer r).data.receiveFromServerFinished = true ↔ endsStream s.data r) ∧
    (s.readFromServer r).data.sendBuffer.bytes = s.data.sendBuffer.bytes ++ readBytes s.data r ∧
    Becomes s.shared.fdSets (s.readFromServer r).shared.fdSets s.data.socket fun k =>
      ¬ (k = .receiveSet ∧ endsStream s.data r) ∧ isIn s.shared.fdSets s.data.socket k := by
  have hu := St.unsetFrom_sets s .receiveSet
  have hput := s.data.sendBuffer.put_take
  have same : ¬ endsStream s.data r → Becomes s.shared.fdSets s.shared.fdSets s.data.socket fun k =>
      ¬ (k = .receiveSet ∧ endsStream s.data r) ∧ isIn s.shared.fdSets s.data.socket k := by
    intro h
    refine Becomes.congr (Becomes.refl _ _) ?_
    intro k _
    simp [h]
  have ended : endsStream s.data r → Becomes s.shared.fdSets
      (s.unsetFrom .receiveSet).shared.fdSets s.data.socket fun k =>
        ¬ (k = .receiveSet ∧ endsStream s.data r) ∧ isIn s.shared.fdSets s.data.socket k := by
    intro h
    refine Becomes.congr hu ?_
    intro k _
    simp [h]
  unfold St.readFromServer
  cases r with
  | bytes bs =>
    dsimp only
    split_ifs with h
    · refine ⟨⟨fun _ => h, fun _ => rfl⟩, ?_, ended h⟩
      simp only [St.emit_data, St.unsetFrom_data]
      exact hput bs
    · exact ⟨⟨fun h' => absurd (hf.symm.trans h') (by decide), fun h' => absurd h' h⟩, hput bs, same h⟩
  | wouldBlock =>
    refine ⟨⟨fun h' => absurd (hf.symm.trans h') (by decide), fun h' => h'.elim⟩, ?_, same (fun h => h)⟩
    exact (List.append_nil _).symm
  | error =>
    refine ⟨⟨fun _ => trivial, fun _ => rfl⟩, ?_, ended trivial⟩
    simp [readBytes]

theorem receiveFromServer_sets (s : St) (r : RecvResult) (now : Int) (turns : Nat) :
    SetsStep s (.receiveFromServer r now turns) (s.receiveFromServer r now turns) := by
  unfold St.receiveFromServer
  split_ifs with h
  · exact .quiet (.refl s)
  · rw [not_or, not_not, Bool.not_eq_true] at h
    dsimp only
    have hr := (readFromServer_read s r).up
    obtain ⟨h1, h2, h3⟩ := readFromServer_sets s r h.2
    have hq := flushDataToClient_quiet (s.readFromServer r) now turns
    have hup := hr.trans (flushDataToClient_flush (s.readFromServer r) now turns).up
    generalize (s.readFromServer r).flushDataToClient now turns = t at hq hup ⊢
    rw [← hq.sets] at h3
    rw [← hq.flow.receiveFromServerFinished] at h1
    rw [← hq.flow.sendBuffer] at h2
    have stays : ¬ (t.hung = false ∧ t.data.sendBuffer.available = 0) →
        SetsStep s (.receiveFromServer r now turns) t := by
      intro hn
      refine .read h.1 h.2 hup h1 h2 (Becomes.congr h3 ?_)
      intro k _
      simp only [hn, or_false]
    split_ifs with hh hfull
    · exact stays (fun hn => absurd (hn.1.symm.trans hh) (by decide))
    · have hu := St.unsetFrom_sets t .receiveSet
      rw [hup.socket] at hu
      refine .read h.1 h.2 ?_ ?_ ?_ ?_
      · rw [St.unsetFrom_data]; exact hup
      · rw [St.unsetFrom_data]; exact h1
      · rw [St.unsetFrom_data]; exact h2
      · refine Becomes.congr (h3.trans hu) ?_
        intro k ho
        obtain ⟨f, hf⟩ := Option.ne_none_iff_exists'.mp ho
        rw [hf] at h3 ⊢
        rw [h3.mem, St.unsetFrom_hung, St.unsetFrom_data]
        have hfull' : t.hung = false ∧ t.data.sendBuffer.available = 0 := ⟨by simpa using hh, hfull⟩
        simp only [hfull', and_self, or_true, and_true]
        tauto
    · exact stays (fun hn => hfull hn.2)

/-- **What a call does to the descriptor sets.** -/
theorem step_sets (IP_MSS : U16) (s : St) (op : Op) : SetsStep s op (step IP_MSS s op) := by
  unfold step
  split_ifs
  · exact .quiet (.refl s)
  · cases op with
    | receiveFromClient p i => exact receiveFromClient_sets IP_MSS s p i
    | receiveFromServer r now turns => exact receiveFromServer_sets s r now turns
    | flushDataToServer lastError r now now' => exact flushDataToServer_sets s lastError r now now'
    | flushDataToClient now turns => exact .quiet (flushDataToClient_quiet s now turns)
    | onSocketError => exact resetClient_step s _
    | checkStatus now now' =>
      dsimp only
      rcases checkStatus_cases s now now' with ⟨_, h⟩ | ⟨_, h⟩ | ⟨_, h⟩
      · rw [h]; exact .quiet (.refl s)
      · rw [h]; exact .quiet (.refl s)
      · rw [h]; exact closeSession_step s _
    | closeSession => exact closeSession_step s _

end TunServer.Sessions2
