import TunServer.Sessions2.Frame

/-!
# A connection and its byte streams

* `Opens`           a SYN opens the session: here a connection begins, and with it the log;
* `opens_eq`        the state it begins in;
* `sentBytes`       what the server socket was handed so far;
* `receivedBytes`   what was read from the server socket so far;
* `ackedCount`      how many of these bytes the client acknowledged so far.
-/

set_option linter.unusedVariables false

namespace TunServer.Sessions2

/-- the session `s` is closed, and the packet `p` opens it -/
structure Opens (IP_MSS : U16) (s : St) (p : Packet) (i : ClientInput) : Prop where
  log : s.log = []
  hung : s.hung = false
  closed : s.data.state = .CLOSED
  opened : (receiveFromClient IP_MSS s p i).2.data.state ≠ .CLOSED

theorem opens_eq {IP_MSS : U16} {s : St} {p : Packet} {i : ClientInput} (h : Opens IP_MSS s p i) :
    ∃ res, i.connect = .returned res ∧ receiveFromClient IP_MSS s p i =
      (true, { St.openConnected { s with packet := p } IP_MSS i res with packet := s.packet }) := by
  have hop := h.opened
  unfold receiveFromClient at hop ⊢
  rw [if_pos ((canHandle_iff _ _).mpr (.inl h.closed))] at hop ⊢
  dsimp only at hop
  have hs := handlePacket_step IP_MSS { s with packet := p } i
  generalize St.handlePacket { s with packet := p } IP_MSS i = s' at hs hop ⊢
  cases hs with
  | same => exact absurd h.closed hop
  | reset =>
    have hd := (sendReset_reply { s with packet := p }).data
    exact absurd ((congrArg Data.state hd).trans h.closed) hop
  | ack hst => exact absurd (h.closed.symm.trans hst) (by decide)
  | synAck hst => exact absurd (h.closed.symm.trans hst) (by decide)
  | opened res _ _ _ _ hres => exact ⟨res, hres, rfl⟩
  | closed hst => exact absurd h.closed hst
  | established hst => exact absurd (h.closed.symm.trans hst) (by decide)
  | accepted hst => exact absurd (h.closed.symm.trans hst) (by decide)

/-- a session object that was not used yet -/
def unused (IP_MSS : U16) : St :=
  ⟨.init IP_MSS, ⟨fun _ => ∅, 0⟩, synPacket ⟨0, 0⟩ ⟨0, 0⟩ 0 0, [], false⟩

/-- the call does not begin a second connection -/
def NoNewConnection (s : St) (op : Op) : Prop :=
  ∀ p ∈ op.fromClient, s.data.state = .CLOSED → p.isSyn = false

instance (s : St) (op : Op) : Decidable (NoNewConnection s op) :=
  inferInstanceAs (Decidable (∀ p ∈ op.fromClient, s.data.state = .CLOSED → p.isSyn = false))

/-! ## the streams in a log -/

def Event.sentPart : Event → List Byte
  | .sent bs => bs
  | _ => []

def Event.receivedPart : Event → List Byte
  | .received bs => bs
  | _ => []

def Event.ackedPart : Event → Nat
  | .acknowledged n => n
  | _ => 0

/-- the bytes handed to the server socket -/
def sentBytes (log : List Event) : List Byte := log.flatMap Event.sentPart

/-- the bytes read from the server socket -/
def receivedBytes (log : List Event) : List Byte := log.flatMap Event.receivedPart

/-- the number of bytes the client acknowledged -/
def ackedCount (log : List Event) : Nat := (log.map Event.ackedPart).sum

theorem sentBytes_append (l l' : List Event) :
    sentBytes (l ++ l') = sentBytes l ++ sentBytes l' := List.flatMap_append

theorem receivedBytes_append (l l' : List Event) :
    receivedBytes (l ++ l') = receivedBytes l ++ receivedBytes l' := List.flatMap_append

theorem ackedCount_append (l l' : List Event) :
    ackedCount (l ++ l') = ackedCount l + ackedCount l' := by
  unfold ackedCount
  rw [List.map_append, List.sum_append]

/-- entries that hand nothing over -/
theorem sentBytes_adds {P : Event → Prop} (hP : ∀ e, P e → e.sentPart = []) {l l' : List Event}
    (h : Adds P l l') : sentBytes l' = sentBytes l := by
  obtain ⟨es, rfl, hes⟩ := h
  rw [sentBytes_append]
  have h1 : sentBytes es = [] := by
    unfold sentBytes
    rw [List.flatMap_eq_nil_iff]
    exact fun e he => hP e (hes e he)
  rw [h1, List.append_nil]

theorem FlushEvent.sentPart {d : Data} {p : Packet} {e : Event} (h : FlushEvent d p e) :
    e.sentPart = [] := by
  obtain ⟨d', p', rfl, _⟩ := h
  rfl

theorem ReadEvent.sentPart {e : Event} (h : ReadEvent e) : e.sentPart = [] := by
  obtain ⟨bs, rfl⟩ := h
  rfl

theorem AckEvent.sentPart {e : Event} (h : AckEvent e) : e.sentPart = [] := by
  obtain ⟨n, rfl⟩ := h
  rfl

theorem ReplyEvent.sentPart {e : Event} (h : ReplyEvent e) : e.sentPart = [] := by
  obtain ⟨d, p, rfl, _⟩ := h
  rfl

end TunServer.Sessions2
