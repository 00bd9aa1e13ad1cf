import TunServer.Sessions2.Sets
import TunServer.Sessions2.Upload

/-!
# Which descriptors `select` watches

Any number of sessions share the three sets, with the descriptors `F0` that other parts of the
program put there.  The operating system never hands out a descriptor that is open
(`NewDescriptor`).

* `sessions_inv`   an invariant of each session's data and of its own descriptor's membership, kept
                   by every step of the session itself, holds of all sessions after a run;
* `sets_mirror_state`        the sets mirror the states of the sessions;
* `pending_work_scheduled`   bytes or a FIN for the server wait only while the socket is watched for
                             writing;
* `ended_stays_out`          a server that has ended its stream is not watched for reading.
-/

set_option linter.unusedVariables false

namespace TunServer.Sessions2

instance : Fintype FdSets := ⟨{.receiveSet, .sendSet, .errorSet}, by intro k; cases k <;> simp⟩

/-- what a call gets together with a packet -/
def Op.clientInput : Op → Option ClientInput
  | .receiveFromClient _ i => some i
  | _ => none

section
variable {s s' : St} {op : Op}

/-- where the session's own descriptor is -/
def St.has (s : St) (k : FdSets) : Prop := isIn s.shared.fdSets s.data.socket k

theorem Becomes.own {F F' : FdSets → Finset Nat} {o : Option Nat} {now : FdSets → Prop}
    (h : Becomes F F' o now) (k : FdSets) : isIn F' o k ↔ o ≠ none ∧ now k := by
  cases o with
  | none => simp [isIn]
  | some f =>
    rw [h.mem k]
    simp

/-- a call touches the session's own descriptor only -/
theorem SetsStep.frame (h : SetsStep s op s') {f : Nat} (hf : s.data.socket ≠ some f)
    (hf' : s'.data.socket ≠ some f) (k : FdSets) :
    f ∈ s'.shared.fdSets k ↔ f ∈ s.shared.fdSets k := by
  cases h with
  | quiet h => rw [h.sets]
  | closed state socket sets => exact sets.other hf k
  | opened hs hsyn state socket fin ended flushed sendBuffer receiveBuffer sets =>
    exact sets.other (by rw [← socket]; exact hf') k
  | established hs state flow sets => exact sets.other hf k
  | accepted hacc hopen data sets => exact sets.other hf k
  | connected hs state flow sets => exact sets.other hf k
  | sent hs hf0 state socket sendBuffer ended fin rest all sets => exact sets.other hf k
  | read hs hf0 up ended bytes sets => exact sets.other hf k

/-- the socket stays, or is closed and in no set any more, or is a new one -/
theorem SetsStep.socket (h : SetsStep s op s') : s'.data.socket = s.data.socket ∨
    s'.data.socket = none ∧ (∀ f, s.data.socket = some f → ∀ k, f ∉ s'.shared.fdSets k) ∨
    ∃ p i, op = .receiveFromClient p i ∧ s.data.state = .CLOSED ∧ s'.data.socket = some i.fd := by
  cases h with
  | quiet h => exact .inl h.flow.socket
  | closed state socket sets =>
    refine .inr (.inl ⟨socket, ?_⟩)
    intro f hf k hk
    rw [hf] at sets
    exact (sets.mem k).mp (isIn_some.mpr hk)
  | opened hs hsyn state socket fin ended flushed sendBuffer receiveBuffer sets =>
    exact .inr (.inr ⟨_, _, rfl, hs, socket⟩)
  | established hs state flow sets => exact .inl flow.socket
  | accepted hacc hopen data sets => exact .inl data.socket
  | connected hs state flow sets => exact .inl flow.socket
  | sent hs hf0 state socket sendBuffer ended fin rest all sets => exact .inl socket
  | read hs hf0 up ended bytes sets => exact .inl up.socket

/-- a closed session has no socket -/
theorem SetsStep.closed_socket (h : SetsStep s op s')
    (hs : s.data.state = .CLOSED → s.data.socket = none) (hs' : s'.data.state = .CLOSED) :
    s'.data.socket = none := by
  have absurd_of : ∀ {a : States}, s'.data.state = a → a ≠ .CLOSED → s'.data.socket = none :=
    fun h1 h2 => absurd (h1.symm.trans hs') h2
  cases h with
  | quiet h => rw [h.flow.socket]; exact hs (h.state.symm.trans hs')
  | closed state socket sets => exact socket
  | opened h0 hsyn state socket fin ended flushed sendBuffer receiveBuffer sets =>
    rcases state with h1 | h1
    · exact absurd_of h1 (by decide)
    · exact absurd_of h1 (by decide)
  | established h0 state flow sets => exact absurd_of state (by decide)
  | accepted hacc hopen data sets => exact absurd_of (data.state.trans hacc.2.1) (by decide)
  | connected h0 state flow sets => exact absurd_of state (by decide)
  | sent h0 hf0 state socket sendBuffer ended fin rest all sets => exact absurd_of state (by decide)
  | read h0 hf0 up ended bytes sets => exact absurd_of (up.state.trans h0) (by decide)

end

/-! ## any number of sessions -/

section
variable {ι : Type*} [DecidableEq ι] {F0 : FdSets → Finset Nat} {IP_MSS : U16}

/-- the operating system hands out a descriptor that is not open -/
def NewDescriptor (F0 : FdSets → Finset Nat) (w : Sessions ι) (c : ι × Op) : Prop :=
  ∀ i ∈ c.2.clientInput, (w.data c.1).state = .CLOSED →
    (∀ k, i.fd ∉ F0 k) ∧ ∀ j, (w.data j).socket ≠ some i.fd

instance [Fintype ι] (w : Sessions ι) (c : ι × Op) : Decidable (NewDescriptor F0 w c) :=
  inferInstanceAs (Decidable (∀ i ∈ c.2.clientInput, (w.data c.1).state = .CLOSED →
    (∀ k, i.fd ∉ F0 k) ∧ ∀ j, (w.data j).socket ≠ some i.fd))

/-- the sets hold what others put there, and the sockets of sessions -/
structure Owned (F0 : FdSets → Finset Nat) (w : Sessions ι) : Prop where
  distinct : ∀ j j' f, (w.data j).socket = some f → (w.data j').socket = some f → j = j'
  foreign : ∀ j f k, (w.data j).socket = some f → f ∉ F0 k
  owned : ∀ f k, f ∈ w.shared.fdSets k → f ∈ F0 k ∨ ∃ j, (w.data j).socket = some f
  closed : ∀ j, (w.data j).state = .CLOSED → (w.data j).socket = none

/-- the session whose call it is has the data its call leaves -/
theorem callStep_self (w : Sessions ι) (c : ι × Op) :
    (callStep IP_MSS w c).data c.1 = (step IP_MSS (w.at c.1) c.2).data := Function.update_self _ _ _

/-- and so for the membership of its descriptor -/
theorem callStep_has (w : Sessions ι) (c : ι × Op) :
    (fun k => isIn (callStep IP_MSS w c).shared.fdSets ((callStep IP_MSS w c).data c.1).socket k) =
      (step IP_MSS (w.at c.1) c.2).has := by
  funext k
  rw [callStep_self]
  rfl

theorem Owned.call {w : Sessions ι} {c : ι × Op} (h : Owned F0 w) (hn : NewDescriptor F0 w c) :
    Owned F0 (callStep IP_MSS w c) := by
  obtain ⟨j, op⟩ := c
  have hs := step_sets IP_MSS (w.at j) op
  have hsock := hs.socket
  have hclosed := hs.closed_socket
  have hframe : ∀ {f : Nat}, (w.at j).data.socket ≠ some f →
      (step IP_MSS (w.at j) op).data.socket ≠ some f →
      ∀ k, f ∈ (step IP_MSS (w.at j) op).shared.fdSets k ↔ f ∈ w.shared.fdSets k :=
    fun hf hf' k => hs.frame hf hf' k
  show Owned F0 (w.put j (step IP_MSS (w.at j) op))
  generalize step IP_MSS (w.at j) op = t at hsock hframe hclosed
  have hother : ∀ j', j' ≠ j → ((w.put j t).data j') = w.data j' :=
    fun j' hj => Function.update_of_ne hj _ _
  have hself : (w.put j t).data j = t.data := Function.update_self _ _ _
  -- a socket after the call is an old one of the same session, or a new one
  have hcases : ∀ j' f, ((w.put j t).data j').socket = some f →
      (w.data j').socket = some f ∨
        j' = j ∧ (∀ k, f ∉ F0 k) ∧ ∀ j'', (w.data j'').socket ≠ some f := by
    intro j' f hf
    by_cases hj : j' = j
    · subst hj
      rw [hself] at hf
      rcases hsock with h1 | ⟨h1, _⟩ | ⟨p, i, rfl, hc, h1⟩
      · exact .inl (h1.symm.trans hf)
      · rw [h1] at hf
        cases hf
      · rw [h1] at hf
        cases hf
        exact .inr ⟨rfl, hn i rfl hc⟩
    · rw [hother j' hj] at hf
      exact .inl hf
  refine ⟨?_, ?_, ?_, ?_⟩
  · intro j' j'' f h1 h2
    rcases hcases j' f h1 with h3 | ⟨h3, _, h4⟩
    · rcases hcases j'' f h2 with h5 | ⟨_, _, h6⟩
      · exact h.distinct _ _ _ h3 h5
      · exact absurd h3 (h6 j')
    · rcases hcases j'' f h2 with h5 | ⟨h5, _⟩
      · exact absurd h5 (h4 j'')
      · exact h3.trans h5.symm
  · intro j' f k h1
    rcases hcases j' f h1 with h3 | ⟨_, h4, _⟩
    · exact h.foreign _ _ _ h3
    · exact h4 k
  · intro f k hk
    by_cases h2 : t.data.socket = some f
    · exact .inr ⟨j, by rw [hself]; exact h2⟩
    · by_cases h1 : (w.data j).socket = some f
      · rcases hsock with h3 | ⟨_, h3⟩ | ⟨p, i, rfl, hc, h3⟩
        · exact absurd (h3.trans h1) h2
        · exact absurd hk (h3 f h1 k)
        · exact absurd ((h.closed j hc).symm.trans h1) (by simp)
      · have hk' : f ∈ w.shared.fdSets k := (hframe h1 h2 k).mp hk
        rcases h.owned f k hk' with h3 | ⟨j', h3⟩
        · exact .inl h3
        · refine .inr ⟨j', ?_⟩
          rw [hother j' (by rintro rfl; exact h1 h3)]
          exact h3
  · intro j' hj'
    by_cases hj : j' = j
    · subst hj
      rw [hself] at hj' ⊢
      exact hclosed (h.closed j') hj'
    · rw [hother j' hj] at hj' ⊢
      exact h.closed j' hj'

/-- where the descriptor of the session `j` is -/
def Sessions.has (w : Sessions ι) (j : ι) (k : FdSets) : Prop :=
  isIn w.shared.fdSets (w.data j).socket k

/-- a descriptor that the call opens is in no set yet -/
def OpensFresh (s : St) (op : Op) : Prop :=
  ∀ i ∈ op.clientInput, s.data.state = .CLOSED → ∀ k, i.fd ∉ s.shared.fdSets k

omit [DecidableEq ι] in
theorem Owned.opensFresh {w : Sessions ι} {c : ι × Op} (h : Owned F0 w) (hn : NewDescriptor F0 w c) :
    OpensFresh (w.at c.1) c.2 := by
  intro i hi hc k hk
  obtain ⟨h1, h2⟩ := hn i hi hc
  rcases h.owned _ k hk with h3 | ⟨j', h3⟩
  · exact h1 k h3
  · exact h2 j' h3

/-- the call of a session leaves the data and the descriptor of another session alone -/
theorem callStep_other {w : Sessions ι} {c : ι × Op} (h : Owned F0 w) (hn : NewDescriptor F0 w c)
    {j : ι} (hj : j ≠ c.1) : (callStep IP_MSS w c).data j = w.data j ∧
      (callStep IP_MSS w c).has j = w.has j := by
  have hdata : (callStep IP_MSS w c).data j = w.data j := Function.update_of_ne hj _ _
  have hself := @callStep_self _ _ IP_MSS w c
  refine ⟨hdata, funext fun k => propext ?_⟩
  show isIn _ ((callStep IP_MSS w c).data j).socket k ↔ isIn _ (w.data j).socket k
  rw [hdata]
  cases hf : (w.data j).socket with
  | none => simp [isIn]
  | some f =>
    rw [isIn_some, isIn_some]
    refine (step_sets IP_MSS (w.at c.1) c.2).frame ?_ ?_ k
    · exact fun hf' => hj (h.distinct _ _ f hf hf')
    · intro hf'
      rw [← hself] at hf'
      exact hj ((h.call hn).distinct _ _ f (by rw [hdata]; exact hf) hf')

/-- **The invariant rule for sessions**: what every call of a session keeps of its own data and of
its own descriptor's membership, holds of all sessions after a run. -/
theorem sessions_inv {X : Data → (FdSets → Prop) → Prop} {ok : St → Op → Prop}
    (hX : ∀ {s : St} {op : Op}, OpensFresh s op → X s.data s.has → ok s op →
      X (step IP_MSS s op).data (step IP_MSS s op).has)
    {w : Sessions ι} {calls : List (ι × Op)} (ho : Owned F0 w) (hx : ∀ j, X (w.data j) (w.has j))
    (hcalls : Along (callStep IP_MSS) (fun w c => NewDescriptor F0 w c ∧ ok (w.at c.1) c.2) w calls) :
    Owned F0 (run (callStep IP_MSS) w calls) ∧
      ∀ j, X ((run (callStep IP_MSS) w calls).data j) ((run (callStep IP_MSS) w calls).has j) := by
  refine run_inv (fun w => Owned F0 w ∧ ∀ j, X (w.data j) (w.has j)) ?_ ⟨ho, hx⟩ hcalls
  rintro w c ⟨ho, hx⟩ ⟨hn, hok⟩
  refine ⟨ho.call hn, ?_⟩
  intro j
  by_cases hj : j = c.1
  · subst hj
    have h := hX (ho.opensFresh hn) (hx c.1) hok
    show X _ fun k => isIn (callStep IP_MSS w c).shared.fdSets _ k
    rw [callStep_has, callStep_self]
    exact h
  · obtain ⟨h1, h2⟩ := @callStep_other _ _ _ IP_MSS _ _ ho hn _ hj
    rw [h1, h2]
    exact hx j

omit [DecidableEq ι] in
theorem owned_start (IP_MSS : U16) (shared : Shared) (tcpPacket : Packet) :
    Owned shared.fdSets (Sessions.start IP_MSS shared tcpPacket : Sessions ι) where
  distinct := by
    intro j j' f h
    cases h
  foreign := by
    intro j f k h
    cases h
  owned := fun f k hk => .inl hk
  closed := fun j _ => rfl

end

/-! ## the sets mirror the state -/

/-- what the session's own descriptor says about its state -/
structure Mirrors (d : Data) (has : FdSets → Prop) : Prop where
  socket : d.socket = none ↔ d.state = .CLOSED
  error : has .errorSet ↔ d.state ≠ .CLOSED
  receive : has .receiveSet → d.state = .ESTABLISHED
  connecting : d.state = .SYN_RECEIVED → has .sendSet
  send : has .sendSet → d.state = .SYN_RECEIVED ∨ d.state = .ESTABLISHED

section
variable {s s' : St} {op : Op}

/-- where the descriptor of a session is that keeps its socket -/
theorem has_of_becomes {now : FdSets → Prop} (socket : s'.data.socket = s.data.socket)
    (sets : Becomes s.shared.fdSets s'.shared.fdSets s.data.socket now) (k : FdSets) :
    s'.has k ↔ s.data.socket ≠ none ∧ now k := by
  unfold St.has
  rw [socket]
  exact sets.own k

theorem Quiet.has (h : Quiet s s') : s'.has = s.has := by
  unfold St.has
  rw [h.sets, h.flow.socket]

theorem has_of_closed (socket : s'.data.socket = none) (k : FdSets) : ¬ s'.has k := by
  unfold St.has
  rw [socket]
  exact isIn_none

theorem Mirrors.call (h : Mirrors s.data s.has) (hs : SetsStep s op s') (hfresh : OpensFresh s op) :
    Mirrors s'.data s'.has := by
  have hopen : s.data.state ≠ .CLOSED → s.data.socket ≠ none := fun hn hc => hn (h.socket.mp hc)
  have herr : s.data.state ≠ .CLOSED → isIn s.shared.fdSets s.data.socket .errorSet := h.error.mpr
  cases hs with
  | quiet hq =>
    rw [hq.has]
    refine ⟨?_, ?_, ?_, ?_, ?_⟩
    · rw [hq.flow.socket, hq.state]; exact h.socket
    · rw [hq.state]; exact h.error
    · rw [hq.state]; exact h.receive
    · rw [hq.state]; exact h.connecting
    · rw [hq.state]; exact h.send
  | closed state socket sets =>
    have hn := has_of_closed socket
    exact ⟨by simp [state, socket], by simp [state, hn], fun hk => absurd hk (hn _), by simp [state],
      fun hk => absurd hk (hn _)⟩
  | opened hs hsyn state socket fin ended flushed sendBuffer receiveBuffer sets =>
    rename_i p i
    have hk : ∀ k, s'.has k ↔ k = .errorSet ∨ k = .sendSet ∧ s'.data.state = .SYN_RECEIVED := by
      intro k
      have h1 := hfresh i rfl hs k
      unfold St.has
      rw [socket, sets.mem k, isIn_some]
      simp [h1]
    have hne : s'.data.state ≠ .CLOSED := by
      rcases state with h1 | h1 <;> simp [h1]
    refine ⟨by simp [socket, hne], by simp [hk, hne], ?_, ?_, ?_⟩
    · rw [hk]; simp
    · rw [hk]; simp
    · rw [hk]
      simp only [reduceCtorEq, false_or, true_and]
      exact .inl
  | established hs state flow sets =>
    have ho := hopen (by simp [hs])
    have hk := has_of_becomes flow.socket sets
    refine ⟨by simp [flow.socket, ho, state], ?_, fun _ => state, by simp [state],
      fun _ => .inr state⟩
    have h1 := herr (by simp [hs])
    rw [hk]
    simpa [ho, state] using h1
  | accepted hacc hopen' data sets =>
    have hs := hacc.2.1
    have ho := hopen (by simp [hs])
    have hk := has_of_becomes data.socket sets
    have state := data.state.trans hs
    refine ⟨by simp [data.socket, ho, state], ?_, fun _ => state, by simp [state],
      fun _ => .inr state⟩
    have h1 := herr (by simp [hs])
    rw [hk]
    simpa [ho, state] using h1
  | connected hs state flow sets =>
    have ho := hopen (by simp [hs])
    have hk := has_of_becomes flow.socket sets
    have h1 := herr (by simp [hs])
    refine ⟨by simp [flow.socket, ho, state], ?_, ?_, by simp [state], ?_⟩
    · rw [hk]
      simpa [ho, state] using h1
    · rw [hk]
      rintro ⟨_, _, h2⟩
      exact absurd (hs.symm.trans (h.receive h2)) (by decide)
    · rw [hk]
      rintro ⟨_, h2, _⟩
      exact absurd rfl h2
  | sent hs hf state socket sendBuffer ended fin rest all sets =>
    have ho := hopen (by simp [hs])
    have hk := has_of_becomes socket sets
    have h1 := herr (by simp [hs])
    refine ⟨by simp [socket, ho, state], ?_, fun _ => state, by simp [state], fun _ => .inr state⟩
    rw [hk]
    simpa [ho, state] using h1
  | read hs hf up ended bytes sets =>
    have ho := hopen (by simp [hs])
    have hk := has_of_becomes up.socket sets
    have state := up.state.trans hs
    have h1 := herr (by simp [hs])
    refine ⟨by simp [up.socket, ho, state], ?_, fun _ => state, by simp [state], fun _ => .inr state⟩
    rw [hk]
    simpa [ho, state] using h1

end

/-- the condition on the calls of the sessions -/
def Calls {ι : Type*} (F0 : FdSets → Finset Nat) (ok : St → Op → Prop) (w : Sessions ι)
    (c : ι × Op) : Prop := NewDescriptor F0 w c ∧ ok (w.at c.1) c.2

instance {ι : Type*} [Fintype ι] (F0 : FdSets → Finset Nat) (ok : St → Op → Prop)
    [∀ s op, Decidable (ok s op)] (w : Sessions ι) (c : ι × Op) : Decidable (Calls F0 ok w c) :=
  inferInstanceAs (Decidable (NewDescriptor F0 w c ∧ ok (w.at c.1) c.2))

/-- an invariant of fresh sessions, kept by every call, holds after every run -/
theorem start_inv {ι : Type*} [DecidableEq ι] {IP_MSS : U16} {X : Data → (FdSets → Prop) → Prop}
    {ok : St → Op → Prop} (h0 : X (.init IP_MSS) fun _ => False)
    (hX : ∀ {s : St} {op : Op}, OpensFresh s op → X s.data s.has → ok s op →
      X (step IP_MSS s op).data (step IP_MSS s op).has)
    {shared : Shared} {tcpPacket : Packet} {calls : List (ι × Op)}
    (hcalls : Along (callStep IP_MSS) (Calls shared.fdSets ok)
      (Sessions.start IP_MSS shared tcpPacket) calls) :
    let w := run (callStep IP_MSS) (Sessions.start IP_MSS shared tcpPacket) calls
    Owned shared.fdSets w ∧ ∀ j, X (w.data j) (w.has j) := by
  refine sessions_inv hX (owned_start IP_MSS shared tcpPacket) ?_ hcalls
  intro j
  have hhas : (Sessions.start IP_MSS shared tcpPacket : Sessions ι).has j = fun _ => False :=
    funext fun k => eq_false isIn_none
  rw [hhas]
  exact h0

theorem mirrors_init (IP_MSS : U16) : Mirrors (.init IP_MSS) fun _ => False :=
  ⟨by simp [Data.init], ⟨False.elim, fun h => absurd rfl h⟩, False.elim, by simp [Data.init],
    False.elim⟩

/-- **The descriptor sets mirror the states of the sessions.**  The descriptor of a session is in
`errorSet` exactly while it is not closed, in `receiveSet` only when established, in `sendSet`
always in `SYN_RECEIVED` and otherwise only when established; and whatever descriptor is in a set
belongs to a session that is not closed, or was put there by others. -/
theorem sets_mirror_state {ι : Type*} [DecidableEq ι] (IP_MSS : U16) (shared : Shared)
    (tcpPacket : Packet) (calls : List (ι × Op))
    (hcalls : Along (callStep IP_MSS) (NewDescriptor shared.fdSets)
      (Sessions.start IP_MSS shared tcpPacket) calls) :
    let w := run (callStep IP_MSS) (Sessions.start IP_MSS shared tcpPacket) calls
    (∀ j, Mirrors (w.data j) (w.has j)) ∧
      ∀ f k, f ∈ w.shared.fdSets k → f ∈ shared.fdSets k ∨
        ∃ j, (w.data j).socket = some f ∧ (w.data j).state ≠ .CLOSED := by
  obtain ⟨ho, hx⟩ := @start_inv _ _ _ _ (fun _ _ => True) (mirrors_init IP_MSS)
    (fun hf hx _ => hx.call (step_sets IP_MSS _ _) hf) _ _ _ (hcalls.mono fun w c hn => ⟨hn, trivial⟩)
  refine ⟨hx, ?_⟩
  intro f k hf
  rcases ho.owned f k hf with h1 | ⟨j, h1⟩
  · exact .inl h1
  · refine .inr ⟨j, h1, ?_⟩
    intro hc
    exact absurd ((hx j).socket.mpr hc) (by simp [h1])

/-- no descriptor is watched at the start -/
def unwatched : Shared := ⟨fun _ => ∅, 0⟩

/-- one session is opened and closed, another one waits for its server -/
def openings : List (Bool × Op) :=
  [(false, .receiveFromClient (synPacket clientA serverA 100 1000) connected),
   (true, .receiveFromClient (synPacket serverA clientA 100 1000) ⟨6, .returned (-1), 1000, 0, 0⟩),
   (false, .onSocketError)]

theorem sets_mirror_openings :
    let w := run (callStep 576) (Sessions.start 576 unwatched (unused 576).packet) openings
    (∀ j, Mirrors (w.data j) (w.has j)) ∧
      ∀ f k, f ∈ w.shared.fdSets k → f ∈ unwatched.fdSets k ∨
        ∃ j, (w.data j).socket = some f ∧ (w.data j).state ≠ .CLOSED :=
  sets_mirror_state 576 unwatched (unused 576).packet openings (by decide)

/-! ## bytes and a FIN on their way to the server -/

/-- while the handshake is not over, nothing came in -/
structure Untouched (d : Data) : Prop where
  receiveFromClientFinished : d.receiveFromClientFinished = false
  receiveFromServerFinished : d.receiveFromServerFinished = false
  flushToServerFinished : d.flushToServerFinished = false
  receiveBuffer : d.receiveBuffer.bytes = []
  sendBuffer : d.sendBuffer.bytes = []

theorem Untouched.keep {d d' : Data} (h : Untouched d) (hd : KeepsFlow d d') : Untouched d' where
  receiveFromClientFinished := hd.receiveFromClientFinished.trans h.receiveFromClientFinished
  receiveFromServerFinished := hd.receiveFromServerFinished.trans h.receiveFromServerFinished
  flushToServerFinished := hd.flushToServerFinished.trans h.flushToServerFinished
  receiveBuffer := by rw [hd.receiveBuffer]; exact h.receiveBuffer
  sendBuffer := by rw [hd.sendBuffer]; exact h.sendBuffer

/-- the handshake is going on -/
def Shaking (d : Data) : Prop := d.state = .SYN_RECEIVED ∨ d.state = .SYN_ACK_SENT

theorem untouched_call {s s' : St} {op : Op} (h : Shaking s.data → Untouched s.data)
    (hs : SetsStep s op s') : Shaking s'.data → Untouched s'.data := by
  have absurd_of : s'.data.state = .ESTABLISHED → Shaking s'.data → Untouched s'.data := by
    intro he hsh
    rcases hsh with h1 | h1
    · exact absurd (he.symm.trans h1) (by decide)
    · exact absurd (he.symm.trans h1) (by decide)
  cases hs with
  | quiet hq =>
    intro hsh
    unfold Shaking at hsh
    rw [hq.state] at hsh
    exact (h hsh).keep hq.flow
  | closed state socket sets =>
    intro hsh
    rcases hsh with h1 | h1
    · exact absurd (state.symm.trans h1) (by decide)
    · exact absurd (state.symm.trans h1) (by decide)
  | opened hs hsyn state socket fin ended flushed sendBuffer receiveBuffer sets =>
    exact fun _ => ⟨fin, ended, flushed, by rw [receiveBuffer]; rfl, by rw [sendBuffer]; rfl⟩
  | established hs state flow sets => exact absurd_of state
  | accepted hacc hopen data sets => exact absurd_of (data.state.trans hacc.2.1)
  | connected hs state flow sets => exact fun _ => (h (.inl hs)).keep flow
  | sent hs hf state socket sendBuffer ended fin rest all sets => exact absurd_of state
  | read hs hf up ended bytes sets => exact absurd_of (up.state.trans hs)

/-- Bytes in the receive buffer, or the client's FIN, were not handed to the server yet.  Once
`flushToServerFinished` holds, what the buffer still shows was handed over. -/
def pending (d : Data) : Prop :=
  d.flushToServerFinished = false ∧
    (d.receiveBuffer.bytes ≠ [] ∨ d.receiveFromClientFinished = true)

structure Scheduled (d : Data) (has : FdSets → Prop) : Prop where
  mirrors : Mirrors d has
  untouched : Shaking d → Untouched d
  done : d.state = .ESTABLISHED → d.flushToServerFinished = true →
    d.receiveFromClientFinished = true
  send : d.state = .ESTABLISHED → (has .sendSet ↔ pending d)

/-- an accepted FIN without payload finds bytes in the receive buffer -/
def FinFindsBytes (s : St) (op : Op) : Prop :=
  ∀ p ∈ op.fromClient, Accepts s.data p → ¬ closes s.data p → takesFin s.data p →
    p.payload = [] → s.data.receiveBuffer.bytes ≠ []

instance (s : St) (op : Op) : Decidable (FinFindsBytes s op) :=
  inferInstanceAs (Decidable (∀ p ∈ op.fromClient, Accepts s.data p → ¬ closes s.data p →
    takesFin s.data p → p.payload = [] → s.data.receiveBuffer.bytes ≠ []))

theorem payload_eq_nil {p : Packet} (h : p.getTCPPayloadSize = 0) : p.payload = [] := by
  have h1 := p.payload_lt
  have h2 := congrArg BitVec.toNat h
  unfold Packet.getTCPPayloadSize at h2
  rw [BitVec.toNat_ofNat] at h2
  exact List.length_eq_zero_iff.mp (by simp at h2; omega)

/-- bytes are taken exactly if there is room for some -/
theorem accepted_ne_nil {d : Data} {p : Packet} : accepted d p ≠ [] ↔ takesPayload d p := by
  have hlen : (St.acceptLength d p).toNat ≤ p.payload.length := by
    have h1 := p.payload_lt
    have h2 : p.getTCPPayloadSize.toNat = p.payload.length := by
      unfold Packet.getTCPPayloadSize
      rw [BitVec.toNat_ofNat]
      omega
    unfold St.acceptLength
    split_ifs with h
    · exact le_of_eq h2
    · rw [← h2]
      exact le_of_lt (by bv_omega)
  unfold accepted takesPayload
  have hz : St.acceptLength d p ≠ 0 ↔ (St.acceptLength d p).toNat ≠ 0 :=
    not_congr ⟨fun h => by rw [h]; rfl, fun h => BitVec.eq_of_toNat_eq h⟩
  rw [hz, ← List.length_pos_iff]
  split_ifs with hf
  · simp [hf]
  · rw [List.length_take]
    simp only [hf, true_and]
    omega

section
variable {s s' : St} {op : Op}

/-- taking in a segment keeps the schedule, if a bare FIN finds bytes to wait for -/
theorem Scheduled.accept {p : Packet} (h : Scheduled s.data s.has) (hs : s.data.state = .ESTABLISHED)
    (hd : Accepted s.data p s'.data)
    (hfin : takesFin s.data p → p.payload = [] → s.data.receiveBuffer.bytes ≠ [])
    (hk : s'.has .sendSet ↔ takesPayload s.data p ∨ s.has .sendSet) :
    s'.has .sendSet ↔ pending s'.data := by
  have hp := h.send hs
  have hd1 := hd.receiveBuffer
  have hd2 := hd.receiveFromClientFinished
  have hflush : takesPayload s.data p → s.data.flushToServerFinished = false := by
    intro ht
    by_contra hc
    have h1 := h.done hs (by simpa using hc)
    exact absurd (ht.1.symm.trans h1) (by decide)
  rw [hk]
  unfold pending at hp ⊢
  rw [hd.flushToServerFinished, hd1]
  constructor
  · rintro (ht | ht)
    · refine ⟨hflush ht, .inl ?_⟩
      simp [accepted_ne_nil.mpr ht]
    · obtain ⟨h1, h2⟩ := hp.mp ht
      refine ⟨h1, h2.imp (fun h3 => by simp [h3]) (fun h3 => hd2.mpr (.inl h3))⟩
  · rintro ⟨h1, h2⟩
    by_cases ht : takesPayload s.data p
    · exact .inl ht
    · refine .inr (hp.mpr ⟨h1, ?_⟩)
      have hnil : accepted s.data p = [] := by
        by_contra hc
        exact ht (accepted_ne_nil.mp hc)
      rcases h2 with h2 | h2
      · exact .inl (by simpa [hnil] using h2)
      · rcases hd2.mp h2 with h3 | h3
        · exact .inr h3
        · -- the FIN comes alone: there was room for all of a payload of which nothing was taken
          refine .inl (hfin h3 (payload_eq_nil ?_))
          have h4 : St.acceptLength s.data p = 0 := by
            by_contra hc
            exact ht ⟨h3.1, hc⟩
          rw [← h3.2.2, h4]

theorem Scheduled.call (h : Scheduled s.data s.has) (hs : SetsStep s op s')
    (hfresh : OpensFresh s op) (hfin : FinFindsBytes s op) : Scheduled s'.data s'.has := by
  have hm := h.mirrors.call hs hfresh
  have hu := untouched_call h.untouched hs
  have hopen : s.data.state = .ESTABLISHED → s.data.socket ≠ none := by
    intro he hc
    exact absurd (he.symm.trans (h.mirrors.socket.mp hc)) (by decide)
  -- a session that is not established is not concerned
  have absurd_of : ∀ {a : States}, s'.data.state = a → a ≠ .ESTABLISHED →
      Scheduled s'.data s'.has := fun h1 h2 =>
    ⟨hm, hu, fun h3 => absurd (h1.symm.trans h3) h2, fun h3 => absurd (h1.symm.trans h3) h2⟩
  have hhas : s.has = isIn s.shared.fdSets s.data.socket := rfl
  cases hs with
  | quiet hq =>
    refine ⟨hm, hu, ?_, ?_⟩
    · rw [hq.state, hq.flow.flushToServerFinished, hq.flow.receiveFromClientFinished]
      exact h.done
    · unfold pending
      rw [hq.has, hq.state, hq.flow.flushToServerFinished, hq.flow.receiveBuffer,
        hq.flow.receiveFromClientFinished]
      exact h.send
  | closed state socket sets => exact absurd_of state (by decide)
  | opened hs hsyn state socket fin ended flushed sendBuffer receiveBuffer sets =>
    rcases state with h1 | h1
    · exact absurd_of h1 (by decide)
    · exact absurd_of h1 (by decide)
  | established hs state flow sets =>
    have hu0 := h.untouched (.inr hs)
    refine ⟨hm, hu, fun _ => ?_, fun _ => ?_⟩
    · rw [flow.flushToServerFinished, hu0.flushToServerFinished]
      simp
    · have h1 : ¬ s.has .sendSet := by
        intro hc
        rcases h.mirrors.send hc with h2 | h2
        · exact absurd (hs.symm.trans h2) (by decide)
        · exact absurd (hs.symm.trans h2) (by decide)
      rw [hhas] at h1
      rw [has_of_becomes flow.socket sets]
      simp [h1, pending, flow.receiveBuffer, flow.receiveFromClientFinished, hu0.receiveBuffer,
        hu0.receiveFromClientFinished]
  | accepted hacc hopen' data sets =>
    have ho := hopen hacc.2.1
    refine ⟨hm, hu, fun _ => ?_, fun _ => h.accept hacc.2.1 data (hfin _ rfl hacc hopen') ?_⟩
    · rw [data.flushToServerFinished, data.receiveFromClientFinished]
      exact fun h1 => .inl (h.done hacc.2.1 h1)
    · rw [has_of_becomes data.socket sets, hhas]
      simp [ho]
  | connected hs state flow sets => exact absurd_of state (by decide)
  | @sent lastError r now now' _ hs hf state socket sendBuffer ended fin rest all sets =>
    have hp := h.send hs
    have hk := has_of_becomes socket sets .sendSet
    rw [← hhas] at hk
    rcases Nat.lt_or_ge (St.sendCount s.data r) s.data.receiveBuffer.bytes.length with hlt | hge
    · -- bytes are left, and they were pending before
      obtain ⟨h1, h2⟩ := rest hlt
      have hne : s.data.receiveBuffer.bytes ≠ [] := List.length_pos_iff.mp (by omega)
      refine ⟨hm, hu, by simp [h1], fun _ => ?_⟩
      rw [hk, hp.mpr ⟨hf, .inl hne⟩ |> eq_true]
      have hdrop : s'.data.receiveBuffer.bytes ≠ [] := by
        rw [h2, ← List.length_pos_iff, List.length_drop]
        omega
      simp [hopen hs, pending, h1, hdrop, Nat.ne_of_lt hlt]
    · have heq := le_antisymm (sendCount_le s.data r) hge
      have hall := all heq
      split_ifs at hall with hfin'
      · refine ⟨hm, hu, fun _ _ => fin.trans hfin', fun _ => ?_⟩
        rw [hk]
        simp [heq, pending, hall.1]
      · refine ⟨hm, hu, by simp [hall.1], fun _ => ?_⟩
        rw [hk]
        simp [heq, pending, hall.2, fin, hfin']
  | read hs hf up ended bytes sets =>
    refine ⟨hm, hu, ?_, fun _ => ?_⟩
    · rw [up.state, up.flushToServerFinished, up.receiveFromClientFinished]
      exact h.done
    · have h1 := h.send hs
      rw [hhas] at h1
      rw [has_of_becomes up.socket sets]
      unfold pending at h1 ⊢
      rw [up.flushToServerFinished, up.receiveBuffer, up.receiveFromClientFinished, ← h1]
      simp [hopen hs]

end

/-- **Pending upstream work is scheduled.**  If every bare FIN that is accepted finds bytes in the
receive buffer, the socket of an established session is watched for writing exactly while bytes or
the FIN wait to be handed to the server. -/
theorem pending_work_scheduled {ι : Type*} [DecidableEq ι] (IP_MSS : U16) (shared : Shared)
    (tcpPacket : Packet) (calls : List (ι × Op))
    (hcalls : Along (callStep IP_MSS) (Calls shared.fdSets FinFindsBytes)
      (Sessions.start IP_MSS shared tcpPacket) calls) (j : ι) :
    let w := run (callStep IP_MSS) (Sessions.start IP_MSS shared tcpPacket) calls
    (w.data j).state = .ESTABLISHED → (w.has j .sendSet ↔ pending (w.data j)) := by
  have h0 : Scheduled (.init IP_MSS) fun _ => False :=
    ⟨mirrors_init IP_MSS, by simp [Shaking, Data.init], by simp [Data.init], by simp [Data.init]⟩
  obtain ⟨_, hx⟩ := start_inv h0 (fun hf hx hok => hx.call (step_sets IP_MSS _ _) hf hok) hcalls
  exact (hx j).send

/-- the handshake, and a segment with two bytes -/
def twoBytesIn : List (Unit × Op) :=
  [((), .receiveFromClient (synPacket clientA serverA 100 1000) connected),
   ((), .receiveFromClient (ackPacket clientA serverA 101 1000 1000) connected),
   ((), .receiveFromClient
     (dataPacket clientA serverA 101 1001 1000 [97, 98] twoBytes_lt) connected)]

theorem pending_work_scheduled_fin :
    let w := run (callStep 576) (Sessions.start 576 unwatched (unused 576).packet)
      (twoBytesIn ++ [((), .receiveFromClient (finPacket clientA serverA 103 1001 1000) connected)])
    (w.data ()).state = .ESTABLISHED → (w.has () .sendSet ↔ pending (w.data ())) :=
  pending_work_scheduled 576 unwatched (unused 576).packet _ (by decide) ()

/-- A FIN without payload arrives at an empty buffer: nobody waits to pass it on. -/
theorem pending_fin_not_scheduled :
    ¬ ∀ (ι : Type) [DecidableEq ι] (IP_MSS : U16) (shared : Shared) (tcpPacket : Packet)
      (calls : List (ι × Op)),
      Along (callStep IP_MSS) (NewDescriptor shared.fdSets)
        (Sessions.start IP_MSS shared tcpPacket) calls →
      ∀ j, let w := run (callStep IP_MSS) (Sessions.start IP_MSS shared tcpPacket) calls
        (w.data j).state = .ESTABLISHED → pending (w.data j) → w.has j .sendSet := by
  intro h
  have h1 := h Unit 576 unwatched (unused 576).packet
    (twoBytesIn.take 2 ++
      [((), .receiveFromClient (finPacket clientA serverA 101 1001 1000) connected)]) (by decide) ()
  revert h1
  unfold Sessions.has pending
  decide

/-! ## the end of the server's stream -/

structure StaysOut (d : Data) (has : FdSets → Prop) : Prop where
  mirrors : Mirrors d has
  untouched : Shaking d → Untouched d
  out : d.receiveFromServerFinished = true → ¬ has .receiveSet

/-- an acknowledgement that frees space finds the server's stream going on -/
def FreesWhileOpen (s : St) (op : Op) : Prop :=
  ∀ p ∈ op.fromClient, Accepts s.data p → ¬ closes s.data p → freesSpace s.data p →
    s.data.receiveFromServerFinished = false

instance (s : St) (op : Op) : Decidable (FreesWhileOpen s op) :=
  inferInstanceAs (Decidable (∀ p ∈ op.fromClient, Accepts s.data p → ¬ closes s.data p →
    freesSpace s.data p → s.data.receiveFromServerFinished = false))

section
variable {s s' : St} {op : Op}

theorem StaysOut.call (h : StaysOut s.data s.has) (hs : SetsStep s op s')
    (hfresh : OpensFresh s op) (hfree : FreesWhileOpen s op) : StaysOut s'.data s'.has := by
  refine ⟨h.mirrors.call hs hfresh, untouched_call h.untouched hs, ?_⟩
  have hhas : s.has = isIn s.shared.fdSets s.data.socket := rfl
  have hout := h.out
  cases hs with
  | quiet hq =>
    rw [hq.has, hq.flow.receiveFromServerFinished]
    exact h.out
  | closed state socket sets => exact fun _ => has_of_closed socket _
  | opened hs hsyn state socket fin ended flushed sendBuffer receiveBuffer sets => simp [ended]
  | established hs state flow sets =>
    rw [flow.receiveFromServerFinished, (h.untouched (.inr hs)).receiveFromServerFinished]
    simp
  | accepted hacc hopen data sets =>
    rw [data.receiveFromServerFinished, has_of_becomes data.socket sets, ← hhas]
    rintro h1 ⟨_, h2⟩
    rcases h2 with ⟨_, h3⟩ | ⟨h3, _⟩ | h3
    · exact absurd (h1.symm.trans (hfree _ rfl hacc hopen h3)) (by decide)
    · cases h3
    · exact h.out h1 h3
  | connected hs state flow sets =>
    rw [flow.receiveFromServerFinished, has_of_becomes flow.socket sets, ← hhas]
    exact fun h1 h2 => h.out h1 h2.2.2
  | sent hs hf state socket sendBuffer ended fin rest all sets =>
    rw [ended, has_of_becomes socket sets, ← hhas]
    exact fun h1 h2 => h.out h1 h2.2.2
  | read hs hf up ended bytes sets =>
    rw [ended, has_of_becomes up.socket sets]
    exact fun h1 h2 => h2.2.1 ⟨rfl, .inl h1⟩

/-- the end of the server's stream is not forgotten before the connection is closed -/
theorem ended_call (hs : SetsStep s op s') (hopen : s.data.state ≠ .CLOSED)
    (h : s.data.receiveFromServerFinished = true) :
    s'.data.receiveFromServerFinished = true ∨ s'.data.state = .CLOSED := by
  cases hs with
  | quiet hq => exact .inl (hq.flow.receiveFromServerFinished.trans h)
  | closed state socket sets => exact .inr state
  | opened hs hsyn state socket fin ended flushed sendBuffer receiveBuffer sets => exact absurd hs hopen
  | established hs state flow sets => exact .inl (flow.receiveFromServerFinished.trans h)
  | accepted hacc hopen data sets => exact .inl (data.receiveFromServerFinished.trans h)
  | connected hs state flow sets => exact .inl (flow.receiveFromServerFinished.trans h)
  | sent hs hf state socket sendBuffer ended fin rest all sets => exact .inl (ended.trans h)
  | read hs hf up ended bytes sets => exact absurd (hf.symm.trans h) (by decide)

end

/-- **A server that has ended its stream is not watched for reading.**  If no acknowledgement frees
space once the stream has ended, then from its end on, which is not forgotten before the connection
is closed, the socket is out of `receiveSet`. -/
theorem ended_stays_out {ι : Type*} [DecidableEq ι] (IP_MSS : U16) (shared : Shared)
    (tcpPacket : Packet) (calls : List (ι × Op))
    (hcalls : Along (callStep IP_MSS) (Calls shared.fdSets FreesWhileOpen)
      (Sessions.start IP_MSS shared tcpPacket) calls) (j : ι) :
    let w := run (callStep IP_MSS) (Sessions.start IP_MSS shared tcpPacket) calls
    (w.data j).receiveFromServerFinished = true →
      ¬ w.has j .receiveSet ∧ ∀ c, (w.data j).state ≠ .CLOSED →
        ((callStep IP_MSS w c).data j).receiveFromServerFinished = true ∨
          ((callStep IP_MSS w c).data j).state = .CLOSED := by
  have h0 : StaysOut (.init IP_MSS) fun _ => False :=
    ⟨mirrors_init IP_MSS, by simp [Shaking, Data.init], by simp [Data.init]⟩
  obtain ⟨_, hx⟩ := start_inv h0 (fun hf hx hok => hx.call (step_sets IP_MSS _ _) hf hok) hcalls
  intro w hended
  refine ⟨(hx j).out hended, ?_⟩
  intro c hopen
  by_cases hj : j = c.1
  · subst hj
    rw [callStep_self]
    exact ended_call (step_sets IP_MSS (w.at c.1) c.2) hopen hended
  · have hother : (callStep IP_MSS w c).data j = w.data j := Function.update_of_ne hj _ _
    rw [hother]
    exact .inl hended

/-- The client's window is closed while the server sends two bytes and ends its stream; then the
client opens its window, and the bytes and the FIN are sent. -/
def endOfStream : List (Unit × Op) :=
  [((), .receiveFromClient (synPacket clientA serverA 100 0) connected),
   ((), .receiveFromClient (ackPacket clientA serverA 101 1000 0) connected),
   ((), .receiveFromServer (.bytes [97, 98]) 0 0),
   ((), .receiveFromServer (.bytes []) 0 0),
   ((), .receiveFromClient (ackPacket clientA serverA 101 1001 1000) connected),
   ((), .flushDataToClient 0 2)]

theorem ended_stays_out_two_bytes :
    let w := run (callStep 1) (Sessions.start 1 unwatched (unused 1).packet) endOfStream
    (w.data ()).receiveFromServerFinished = true →
      ¬ w.has () .receiveSet ∧ ∀ c, (w.data ()).state ≠ .CLOSED →
        ((callStep 1 w c).data ()).receiveFromServerFinished = true ∨
          ((callStep 1 w c).data ()).state = .CLOSED :=
  ended_stays_out 1 unwatched (unused 1).packet endOfStream (by decide) ()

/-- The client acknowledges the two bytes: the ended socket is watched for reading again. -/
theorem ended_watched_again :
    ¬ ∀ (ι : Type) [DecidableEq ι] (IP_MSS : U16) (shared : Shared) (tcpPacket : Packet)
      (calls : List (ι × Op)),
      Along (callStep IP_MSS) (NewDescriptor shared.fdSets)
        (Sessions.start IP_MSS shared tcpPacket) calls →
      ∀ j, let w := run (callStep IP_MSS) (Sessions.start IP_MSS shared tcpPacket) calls
        (w.data j).receiveFromServerFinished = true → ¬ w.has j .receiveSet := by
  intro h
  have h1 := h Unit 1 unwatched (unused 1).packet
    (endOfStream ++ [((), .receiveFromClient (ackPacket clientA serverA 101 1003 1000) connected)])
    (by decide) ()
  revert h1
  unfold Sessions.has
  decide

end TunServer.Sessions2
