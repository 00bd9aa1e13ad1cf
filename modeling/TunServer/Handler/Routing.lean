import TunServer.Handler.Frame
import TunServer.Sessions2.Readiness

/-!
# Which session gets a packet

The handler offers a packet to the sessions in the order of the list, and a closed session takes any.
So the session that serves the packet's ends gets it only if no closed one stands before it: a session
that is closed where it stands stays there until the next time the sessions are checked.

* `serves`          the session is live, and the ends of the packet are its own;
* `closedFirst`     a closed session stands before one that serves the packet;
* `Distinct`        two live sessions have different ends;
* `Routed`          what the handler owes a packet;
* `packets_routed`  it keeps it as long as no packet finds `closedFirst`.
-/

set_option linter.unusedVariables false

namespace TunServer.Handler

def serves (d : Sessions2.Data) (p : Sessions2.Packet) : Bool :=
  d.state ≠ .CLOSED ∧ p.source = d.clientAddress ∧ p.destination = d.serverAddress

/-- a closed session stands before one that serves the packet -/
def closedFirst (p : Sessions2.Packet) : List Sessions2.Data → Bool
  | [] => false
  | d :: ds => if d.state = .CLOSED then ds.any (serves · p) else closedFirst p ds

theorem serves_iff (d : Sessions2.Data) (p : Sessions2.Packet) : serves d p = true ↔
    Live d ∧ p.source = d.clientAddress ∧ p.destination = d.serverAddress := decide_eq_true_iff

theorem canHandle_cases {d : Sessions2.Data} {p : Sessions2.Packet}
    (hcan : Sessions2.canHandle d p = true) : d.state = .CLOSED ∨ serves d p = true := by
  by_cases hs : d.state = .CLOSED
  · exact .inl hs
  · exact .inr ((serves_iff d p).mpr ⟨hs, ((Sessions2.canHandle_iff d p).mp hcan).resolve_left hs⟩)

theorem canHandle_of_serves {d : Sessions2.Data} {p : Sessions2.Packet} (hs : serves d p = true) :
    Sessions2.canHandle d p = true :=
  (Sessions2.canHandle_iff d p).mpr (.inr ((serves_iff d p).mp hs).2)

theorem closedFirst_get {p : Sessions2.Packet} {ds : List Sessions2.Data}
    (h : closedFirst p ds = false) {j k : Nat} {d e : Sessions2.Data} (hk : ds[k]? = some e)
    (he : e.state = .CLOSED) (hj : ds[j]? = some d) (hd : serves d p = true) : j < k := by
  induction ds generalizing j k with
  | nil => cases hk
  | cons x ds ih =>
    have hlive := ((serves_iff d p).mp hd).1
    unfold closedFirst at h
    split_ifs at h with hx
    · rw [List.any_eq_false] at h
      cases j with
      | zero =>
        cases hj
        exact absurd hx hlive
      | succ j => exact absurd hd (h d (List.mem_of_getElem? hj))
    · cases k with
      | zero =>
        cases hk
        exact absurd he hx
      | succ k =>
        cases j with
        | zero => omega
        | succ j =>
          have h1 := ih h hk hj
          omega

/-! ## live sessions have different ends -/

/-- two sessions that are both live have different ends -/
def Differ (d e : Sessions2.Data) : Prop :=
  Live d → Live e → ¬ (d.clientAddress = e.clientAddress ∧ d.serverAddress = e.serverAddress)

theorem Differ.symm {d e : Sessions2.Data} (h : Differ d e) : Differ e d :=
  fun he hd hsame => h hd he ⟨hsame.1.symm, hsame.2.symm⟩

theorem differ_closed {d e : Sessions2.Data} (hd : d.state = .CLOSED) : Differ d e :=
  fun hlive => absurd hd hlive

def Distinct (ds : List Sessions2.Data) : Prop := ds.Pairwise Differ

section
variable {ds es : List Sessions2.Data} {d e : Sessions2.Data} {j k : Nat}

theorem Distinct.index (h : Distinct ds) (hj : ds[j]? = some d) (hk : ds[k]? = some e) (hd : Live d)
    (he : Live e) (hsame : d.clientAddress = e.clientAddress ∧ d.serverAddress = e.serverAddress) :
    j = k := by
  obtain ⟨hjlt, rfl⟩ := List.getElem?_eq_some_iff.mp hj
  obtain ⟨hklt, rfl⟩ := List.getElem?_eq_some_iff.mp hk
  have hp := List.pairwise_iff_getElem.mp h
  rcases Nat.lt_trichotomy j k with hlt | heq | hgt
  · exact absurd hsame (hp j k hjlt hklt hlt hd he)
  · exact heq
  · exact absurd ⟨hsame.1.symm, hsame.2.symm⟩ (hp k j hklt hjlt hgt he hd)

theorem Distinct.older (h : Distinct ds) (ho : Older ds es) : Distinct es := by
  refine List.pairwise_iff_getElem.mpr fun j k hj hk hjk hlj hlk hsame => ?_
  obtain ⟨d, hd, hda⟩ := ho.get (List.getElem?_eq_getElem hj)
  obtain ⟨e, he, hea⟩ := ho.get (List.getElem?_eq_getElem hk)
  obtain ⟨hdl, _, hd1, hd2⟩ := hda hlj
  obtain ⟨hel, _, he1, he2⟩ := hea hlk
  have h1 := h.index hd he hdl hel ⟨hd1.symm.trans (hsame.1.trans he1), hd2.symm.trans (hsame.2.trans he2)⟩
  omega

/-- a session takes new ends that no live one has -/
theorem Distinct.set (h : Distinct ds)
    (hd : ∀ k e, k ≠ j → ds[k]? = some e → Differ d e) : Distinct (ds.set j d) := by
  refine List.pairwise_iff_getElem.mpr fun a b ha hb hab => ?_
  rw [List.length_set] at ha hb
  rw [List.getElem_set, List.getElem_set]
  split_ifs with hja hjb
  · omega
  · exact hd b _ (by omega) (List.getElem?_eq_getElem hb)
  · exact (hd a _ (by omega) (List.getElem?_eq_getElem ha)).symm
  · exact List.pairwise_iff_getElem.mp h a b ha hb hab

theorem Distinct.append (h : Distinct ds) (hd : ∀ e ∈ ds, Differ e d) : Distinct (ds ++ [d]) :=
  List.pairwise_append.mpr ⟨h, List.pairwise_singleton _ _, fun e he f hf => by
    rw [List.mem_singleton] at hf
    subst hf
    exact hd e he⟩

theorem Distinct.toEnd (h : Distinct ds) (hd : d.state = .CLOSED) : Distinct (toEnd ds k d) :=
  Distinct.append (h.sublist (List.eraseIdx_sublist ds k)) fun e _ => (differ_closed hd).symm

end

/-! ## what one packet does -/

/-- What the handler owes a packet: the live session that has its ends, and no other, takes it;
without one it goes to a closed session or a new one, or is dropped when there are too many. -/
def Routed (IP_MSS : U16) (h : St) (p : Sessions2.Packet) (i : Sessions2.ClientInput) (h' : St) : Prop :=
  (∀ j d, h.tcpSessions[j]? = some d → serves d p = true →
    h' = h.put j d (Sessions2.receiveFromClient IP_MSS (h.sessionAt d) p i).2 ∧
      ∀ k ≠ j, h'.tcpSessions[k]? = h.tcpSessions[k]?) ∧
  ((∀ d ∈ h.tcpSessions, serves d p = false) →
    (∃ j d, h.tcpSessions[j]? = some d ∧ d.state = .CLOSED ∧
      h' = h.put j d (Sessions2.receiveFromClient IP_MSS (h.sessionAt d) p i).2) ∨
    h' = h.createSession IP_MSS p i ∨
    h.tcpSessions.length = MAXIMUM_TCP_SESSIONS ∧ h' = h)

section
variable {IP_MSS : U16} {h h' : St}

theorem put_get_ne {j k : Nat} (hk : k ≠ j) (d : Sessions2.Data) (s : Sessions2.St) :
    (h.put j d s).tcpSessions[k]? = h.tcpSessions[k]? := List.getElem?_set_ne (Ne.symm hk)

theorem dispatched_routed {p : Sessions2.Packet} {i : Sessions2.ClientInput}
    (hdis : Distinct h.tcpSessions) (hfirst : closedFirst p h.tcpSessions = false)
    (hd : Dispatched IP_MSS h p i h') : Routed IP_MSS h p i h' := by
  have hends : ∀ {d e : Sessions2.Data}, serves d p = true → serves e p = true →
      d.clientAddress = e.clientAddress ∧ d.serverAddress = e.serverAddress := by
    intro d e hd he
    obtain ⟨_, h1, h2⟩ := (serves_iff d p).mp hd
    obtain ⟨_, h3, h4⟩ := (serves_iff e p).mp he
    exact ⟨h1.symm.trans h3, h2.symm.trans h4⟩
  cases hd with
  | @taken k e hk hcan hbefore =>
    constructor
    · intro j d hj hserves
      have hlive := ((serves_iff d p).mp hserves).1
      -- the session that takes it is the one that serves it
      have hjk : j = k := by
        rcases canHandle_cases hcan with hclosed | hserves'
        · have h1 := closedFirst_get hfirst hk hclosed hj hserves
          have h2 := hbefore j h1 d hj
          rw [canHandle_of_serves hserves] at h2
          cases h2
        · exact hdis.index hj hk hlive ((serves_iff e p).mp hserves').1 (hends hserves hserves')
      subst hjk
      cases hj.symm.trans hk
      exact ⟨rfl, fun k hk => put_get_ne hk _ _⟩
    · intro hnone
      rcases canHandle_cases hcan with hclosed | hserves
      · exact .inl ⟨k, e, hk, hclosed, rfl⟩
      · rw [hnone e (List.mem_of_getElem? hk)] at hserves
        cases hserves
  | created hnone =>
    refine ⟨fun j d hj hserves => ?_, fun _ => .inr (.inl rfl)⟩
    have h1 := hnone d (List.mem_of_getElem? hj)
    rw [canHandle_of_serves hserves] at h1
    cases h1
  | dropped hnone hfull =>
    refine ⟨fun j d hj hserves => ?_, fun _ => .inr (.inr ⟨hfull, rfl⟩)⟩
    have h1 := hnone d (List.mem_of_getElem? hj)
    rw [canHandle_of_serves hserves] at h1
    cases h1

/-! ## the sessions stay distinct -/

/-- the ends a packet can give a session are those of the packet -/
theorem received_differ {d e : Sessions2.Data} {s : Sessions2.St} {p : Sessions2.Incoming}
    {i : Sessions2.ClientInput} (hs : s.data = d) (hclosed : d.state = .CLOSED)
    (he : serves e p.val = false) :
    Differ (Sessions2.receiveFromClient IP_MSS s p i).2.data e := by
  have hlife := Sessions2.receiveFromClient_life IP_MSS s p i
  rw [hs] at hlife
  generalize (Sessions2.receiveFromClient IP_MSS s p i).2.data = d' at hlife
  cases hlife with
  | kept state => exact differ_closed (state.mpr hclosed)
  | closed state => exact differ_closed state
  | opened _ _ _ hclient hserver =>
    intro _ hlive hsame
    have h1 := (serves_iff e p.val).mpr
      ⟨hlive, hclient.symm.trans hsame.1, hserver.symm.trans hsame.2⟩
    rw [he] at h1
    cases h1

theorem ages_received {s : Sessions2.St} (hs : Live s.data) (p : Sessions2.Incoming)
    (i : Sessions2.ClientInput) : Ages s.data (Sessions2.receiveFromClient IP_MSS s p i).2.data := by
  have hlife := Sessions2.receiveFromClient_life IP_MSS s p i
  generalize (Sessions2.receiveFromClient IP_MSS s p i).2.data = d' at hlife
  intro hd
  cases hlife with
  | kept state socket client server => exact ⟨hs, socket, client, server⟩
  | closed state => exact absurd state hd
  | opened hopen => exact absurd (of_decide_eq_true hopen).1 hs

theorem createSession_sessions (h : St) (p : Sessions2.Packet) (i : Sessions2.ClientInput) :
    (h.createSession IP_MSS p i).tcpSessions = h.tcpSessions ++
      [(Sessions2.receiveFromClient IP_MSS (h.sessionAt (.init IP_MSS)) p i).2.data] := by
  have hset : ∀ d d' : Sessions2.Data, (h.tcpSessions ++ [d]).set h.tcpSessions.length d' =
      h.tcpSessions ++ [d'] := by
    intro d d'
    rw [List.set_append_right _ _ (le_refl _), Nat.sub_self]
    rfl
  unfold St.createSession
  dsimp only
  split_ifs
  · exact hset _ _
  · exact hset _ _

theorem dispatched_distinct {p : Sessions2.Incoming} {i : Sessions2.ClientInput}
    (hdis : Distinct h.tcpSessions) (hfirst : closedFirst p.val h.tcpSessions = false)
    (hd : Dispatched IP_MSS h p.val i h') : Distinct h'.tcpSessions := by
  cases hd with
  | @taken k e hk hcan hbefore =>
    by_cases hlive : Live e
    · exact hdis.older (Older.set hk (ages_received (s := h.sessionAt e) hlive p i))
    · have hclosed : e.state = .CLOSED := not_not.mp hlive
      refine Distinct.set hdis fun k' e' hne hk' => received_differ rfl hclosed ?_
      -- nobody else serves the packet: not behind the closed session, and not before it
      rw [← Bool.not_eq_true]
      intro hserves
      have h1 := closedFirst_get hfirst hk hclosed hk' hserves
      have h2 := hbefore k' h1 e' hk'
      rw [canHandle_of_serves hserves] at h2
      cases h2
  | created hnone =>
    rw [createSession_sessions]
    refine hdis.append fun e he => (received_differ rfl rfl ?_).symm
    rw [← Bool.not_eq_true]
    intro hserves
    have h1 := hnone e he
    rw [canHandle_of_serves hserves] at h1
    cases h1
  | dropped => exact hdis

theorem Worked.distinct {g : St} (hw : Worked h g) (hdis : Distinct h.tcpSessions) :
    Distinct g.tcpSessions := by
  obtain ⟨ds, _, _, _, _, _, _, hds, rfl⟩ := hw
  exact hdis.older hds

theorem deactivateSession_distinct {k : Nat} {d : Sessions2.Data} (hdis : Distinct h.tcpSessions)
    (hd : h.tcpSessions[k]? = some d) (hclosed : d.state = .CLOSED) :
    Distinct (h.deactivateSession k).tcpSessions := by
  unfold St.deactivateSession
  rw [hd]
  exact hdis.toEnd hclosed

/-! ## runs -/

/-- the condition on a step: no packet finds a closed session before the one that serves it -/
def ServedFirst (h : St) : Input → Prop
  | .packet p _ => h.pc = .packets → h.hung = false → closedFirst p.val h.tcpSessions = false
  | _ => True

instance (h : St) : ∀ i, Decidable (ServedFirst h i)
  | .packet p _ => inferInstanceAs (Decidable (_ → _ → _))
  | .start _ | .addTunnelSocket _ | .closeTunnel _ | .exit | .activate | .evaluate | .select _ _ _ _
  | .tunnel | .deleteTunnel _ | .packetsDone | .tunnelRest | .session _ | .clock _ | .checkTunnel _
  | .checkSession _ _ _ _ => .isTrue trivial

/-- the step that reads a packet owes it its session -/
def RoutedStep (IP_MSS : U16) (h : St) : Input → Prop
  | .packet p i => h.pc = .packets → h.hung = false → Routed IP_MSS h p.val i (step IP_MSS h (.packet p i))
  | _ => True

theorem step_distinct (h : St) (i : Input) (hdis : Distinct h.tcpSessions) (hok : ServedFirst h i) :
    Distinct (step IP_MSS h i).tcpSessions := by
  have ht := step_turn IP_MSS h i
  generalize step IP_MSS h i = h' at ht
  cases ht with
  | apart ha =>
    rw [ha.tcpSessions]
    exact hdis
  | packet hpc hhung hd => exact dispatched_distinct hdis (hok hpc hhung) hd
  | @session x _ hpc hhung ht =>
    have hpolled : Distinct (h.polled IP_MSS x).tcpSessions := (polled_worked h x).distinct hdis
    cases ht with
    | done => exact hdis
    | past => exact hdis
    | hangs => exact hpolled
    | stays => exact hpolled
    | leaves _ _ _ hw _ hd hclosed => exact deactivateSession_distinct (hw.distinct hdis) hd hclosed
  | check hpc hhung ht =>
    cases ht with
    | done => exact hdis
    | past => exact hdis
    | stays _ hw => exact hw.distinct hdis
    | leaves _ hw hd hclosed => exact deactivateSession_distinct (hw.distinct hdis) hd hclosed

/-- **Packet routing.**  In every run in which no packet finds a closed session before the one that
serves it, each packet goes where it should. -/
theorem packets_routed (IP_MSS : U16) (shared : Sessions2.Shared) (tcpPacket : Sessions2.Packet)
    {inputs : List Input}
    (hinputs : Along (step IP_MSS) ServedFirst (St.init shared tcpPacket) inputs) :
    Along (step IP_MSS) (RoutedStep IP_MSS) (St.init shared tcpPacket) inputs := by
  refine along_inv (fun h : St => Distinct h.tcpSessions) step_distinct ?_ List.Pairwise.nil hinputs
  intro h i hdis hok
  cases i with
  | packet p i =>
    intro hpc hhung
    refine dispatched_routed hdis (hok hpc hhung) ?_
    have he : step IP_MSS h (.packet p i) = h.dispatch IP_MSS p.val i := by
      unfold step St.thread
      dsimp only
      rw [if_neg (by rw [hhung]; decide), if_pos hpc]
    rw [he]
    exact dispatch_dispatched h p.val i
  | _ => trivial

end

open Sessions2 (synPacket ackPacket resetPacket clientA serverA connected unwatched uploadSyn)

def clientB : SockAddr := ⟨0x0a000002, 40001⟩
def serverB : SockAddr := ⟨0x08080808, 443⟩

/-- the handler starts, and its first tunnel has packets -/
def firstPackets : List Input :=
  [.start uploadSyn, .addTunnelSocket ⟨3, false⟩, .activate, .evaluate, .select {3} ∅ ∅ 1, .tunnel]

/-- two clients connect, and the second one finishes its handshake -/
def twoClients : List Input :=
  [.packet (synPacket clientA serverA 100 1000) connected,
   .packet (synPacket clientB serverB 200 1000) { connected with fd := 6 },
   .packet (ackPacket clientB serverB 201 1000 1000) connected]

theorem packets_routed_two_clients :
    Along (step 576) (RoutedStep 576) (St.init unwatched uploadSyn) (firstPackets ++ twoClients) :=
  packets_routed 576 unwatched uploadSyn (by decide)

/-- The first client's session is reset between the two packets of the second: closed where it stands,
it takes the packet that ends the second one's handshake. -/
theorem packets_not_routed :
    ¬ ∀ (IP_MSS : U16) (shared : Sessions2.Shared) (tcpPacket : Sessions2.Packet) (inputs : List Input),
      Along (step IP_MSS) (RoutedStep IP_MSS) (St.init shared tcpPacket) inputs := by
  intro h
  have h1 := h 576 unwatched uploadSyn ((firstPackets ++ twoClients.take 2 ++
    [.packet (resetPacket clientA serverA 101) connected]) ++ twoClients.drop 2)
  obtain ⟨hrouted, _⟩ := ((along_append _ _ _ _ _).mp h1).2
  obtain ⟨h2, _⟩ := (hrouted rfl rfl).1 1 _ rfl (by decide)
  have h3 := congrArg (fun g : St => g.tcpSessions.map (·.state)) h2
  revert h3
  decide

end TunServer.Handler
