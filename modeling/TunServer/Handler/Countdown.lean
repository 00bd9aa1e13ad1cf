import TunServer.Base.Tally
import TunServer.Handler.Scheduling
import TunServer.Handler.Sockets
import TunServer.Handler.Tunnels

/-!
# Counting down what `select` reported

`select` says how many descriptors it put into the three sets, and the loops over the tunnels and the
sessions go down by one for each that they find.

* `Ledger`         the handler, and what the loops counted down since the last call of `select`;
* `Reports`        what `select` and the operating system promise;
* `Lasting`        the condition: what was reported stays there until the loops come to it, and they do;
* `Counting`       what holds between two steps in the loops;
* `count_is_zero`  behind the loops everything was counted down, once.
-/

set_option linter.unusedVariables false

namespace TunServer.Handler

open Sessions2 (FdSets)

/-- a descriptor in one of the sets -/
abbrev Report := (_ : FdSets) × Nat

/-- the descriptor that is held there, if it is in the set -/
def reportOf (k : FdSets) (socket : Option Nat) (set : Finset Nat) : List Report :=
  match socket with
  | some fd => if fd ∈ set then [⟨k, fd⟩] else []
  | none => []

/-- the three sets of an answer of `select` -/
def answer (rcv snd err : Finset Nat) : FdSets → Finset Nat
  | .receiveSet => rcv
  | .sendSet => snd
  | .errorSet => err

namespace St

/-- what `select` reported -/
def reported (h : St) : FdSets → Finset Nat := answer h.rcv h.snd h.err

def reports (h : St) : Finset Report := Finset.univ.sigma h.reported

/-- the socket of the tunnel at the iterator, if it is open -/
def tunnelSocket (h : St) : Option Nat := (h.tunnels[h.iterator]?).bind Tunnel.held

/-- the socket of the session at the iterator -/
def sessionSocket (h : St) : Option Nat := (h.tcpSessions[h.iterator]?).bind (·.socket)

/-- what a turn of the loop over the sessions counts down -/
def sessionCounts (IP_MSS : U16) (h : St) (x : Events) : List Report :=
  if h.remaining = 0 ∨ h.count ≤ 0 then []
  else
    let g := h.event IP_MSS (h.isReady h.rcv) (.receiveFromServer x.received x.nowReceive x.turns)
    reportOf .receiveSet h.sessionSocket h.rcv ++
      if g.hung then []
      else reportOf .sendSet g.sessionSocket h.snd ++
        reportOf .errorSet (h.polled IP_MSS x).sessionSocket h.err

/-- what a step counts down -/
def counts (IP_MSS : U16) (h : St) : Input → List Report
  | .tunnel =>
    if h.pc = .tunnels ∧ 0 < h.remaining ∧ 0 < h.count then reportOf .receiveSet h.tunnelSocket h.rcv else []
  | .tunnelRest =>
    if h.pc = .tunnelRest then
      reportOf .sendSet h.tunnelSocket h.snd ++ reportOf .errorSet h.tunnelSocket h.err
    else []
  | .session x => if h.pc = .sessions then h.sessionCounts IP_MSS x else []
  | _ => []

end St

/-- The handler with what was counted down since the last call of `select`, and whether that call
succeeded. -/
structure Ledger where
  handler : St
  succeeded : Bool
  counted : List Report

/-- a step is entered; a call of `select` opens a new page -/
def Ledger.step (IP_MSS : U16) (w : Ledger) (i : Input) : Ledger :=
  let h := Handler.step IP_MSS w.handler i
  match i with
  | .select rcv snd err count =>
    if w.handler.hung = false ∧ w.handler.pc = .selecting then ⟨h, 0 ≤ count, []⟩ else { w with handler := h }
  | i =>
    if w.handler.hung then { w with handler := h }
    else { w with handler := h, counted := w.counted ++ w.handler.counts IP_MSS i }

def Ledger.init (shared : Sessions2.Shared) (tcpPacket : Sessions2.Packet) : Ledger :=
  ⟨.init shared tcpPacket, false, []⟩

/-! ## the conditions -/

/-- `select` fails, or counts the descriptors it reports: of sockets that sessions have in the sets, or
of open tunnels -/
def Answers (h : St) (rcv snd err : Finset Nat) (count : Int) : Prop :=
  0 ≤ count → count = rcv.card + snd.card + err.card ∧
    ∀ k, ∀ fd ∈ answer rcv snd err k, fd ∈ h.shared.fdSets k ∨ ∃ t ∈ h.tunnels, t.held = some fd

/-- what `select` and the operating system promise -/
def Reports (IP_MSS : U16) (h : St) : Input → Prop
  | .select rcv snd err count => h.pc = .selecting → h.hung = false → Answers h rcv snd err count
  | i => NewSockets IP_MSS h i

/-- the loop has not counted the set `k` of the tunnel at `j` yet -/
def St.aheadTunnel (h : St) (k : FdSets) (j : Nat) : Bool :=
  match h.pc with
  | .tunnels => h.iterator ≤ j
  | .packets | .tunnelRest => if k = .receiveSet then h.iterator < j else h.iterator ≤ j
  | _ => false

/-- nor the session at `j` -/
def St.aheadSession (h : St) (j : Nat) : Bool :=
  match h.pc with
  | .tunnels | .packets | .tunnelRest => true
  | .sessions => h.iterator ≤ j
  | _ => false

/-- the tunnel at `j` has nothing that is still to be counted down -/
def Settled (h : St) (j : Nat) : Prop :=
  0 < h.count → ∀ t ∈ h.tunnels[j]?, ∀ fd ∈ t.held, ∀ k, h.aheadTunnel k j = true → fd ∉ h.reported k

/-- what was reported stands where the loops come to it -/
def InFront (h : St) (reported : FdSets → Finset Nat) : Prop :=
  ∀ k, (∀ t ∈ h.tunnels.drop h.openTunnelsCount, ∀ fd ∈ t.held, fd ∉ reported k) ∧
    ∀ d ∈ h.tcpSessions.drop h.openTCPSessionsCount, ∀ fd ∈ d.socket, fd ∉ reported k

/-- the packet neither closes a session that was reported nor opens one with a descriptor that was -/
def Harmless (h : St) (d : Sessions2.Data) (p : Sessions2.Packet) (i : Sessions2.ClientInput) : Prop :=
  0 < h.count → (∀ fd ∈ d.socket, ∀ k, fd ∈ h.reported k → ¬ Sessions2.closedBy d p) ∧
    (Sessions2.opens d p i = true → ∀ k, i.fd ∉ h.reported k)

/-- a turn of the loop over the sessions: a session that was reported in `err` is still open behind the
first two events, and every turn but the last one ends with such a session, or nothing is left -/
def Finishes (IP_MSS : U16) (h : St) (x : Events) : Prop :=
  0 < h.remaining → 0 < h.count → (h.polled IP_MSS x).hung = false →
    (h.isReady h.err = true → (h.polled IP_MSS x).isReady h.err = true) ∧
    (1 < h.remaining → 0 < (h.polled IP_MSS x).count → (h.polled IP_MSS x).isReady h.err = true)

def Lasting (IP_MSS : U16) (h : St) : Input → Prop
  | .select rcv snd err count =>
    h.pc = .selecting → h.hung = false → 0 ≤ count → InFront h (answer rcv snd err)
  | .closeTunnel j => Settled h j
  | .deleteTunnel id => h.pc = .packets → h.hung = false →
      ∀ j ∈ (h.tunnels.take h.openTunnelsCount).findIdx? fun t => t.id = id, Settled h j
  | .packet p i => h.pc = .packets → h.hung = false → Harmless h (taker IP_MSS h p.val) p.val i
  | .session x => h.pc = .sessions → h.hung = false → Finishes IP_MSS h x
  | _ => True

instance (h : St) (rcv snd err : Finset Nat) (count : Int) : Decidable (Answers h rcv snd err count) :=
  inferInstanceAs (Decidable (_ → _ ∧ _))
instance (h : St) (j : Nat) : Decidable (Settled h j) := inferInstanceAs (Decidable (_ → _))
instance (h : St) (r : FdSets → Finset Nat) : Decidable (InFront h r) := inferInstanceAs (Decidable (∀ _, _))
instance (h : St) (d : Sessions2.Data) (p : Sessions2.Packet) (i : Sessions2.ClientInput) :
    Decidable (Harmless h d p i) := inferInstanceAs (Decidable (_ → _ ∧ _))
instance (IP_MSS : U16) (h : St) (x : Events) : Decidable (Finishes IP_MSS h x) :=
  inferInstanceAs (Decidable (_ → _ → _ → _ ∧ _))

instance (IP_MSS : U16) (h : St) : ∀ i, Decidable (Reports IP_MSS h i)
  | .select _ _ _ _ => inferInstanceAs (Decidable (_ → _ → _))
  | .addTunnelSocket c => inferInstanceAs (Decidable (NewSockets IP_MSS h (.addTunnelSocket c)))
  | .packet p i => inferInstanceAs (Decidable (NewSockets IP_MSS h (.packet p i)))
  | .start _ | .closeTunnel _ | .exit | .activate | .evaluate | .tunnel | .deleteTunnel _ | .packetsDone
  | .tunnelRest | .session _ | .clock _ | .checkTunnel _ | .checkSession _ _ _ _ => .isTrue trivial

instance (IP_MSS : U16) (h : St) : ∀ i, Decidable (Lasting IP_MSS h i)
  | .select _ _ _ _ => inferInstanceAs (Decidable (_ → _ → _ → _))
  | .closeTunnel j => inferInstanceAs (Decidable (Settled h j))
  | .deleteTunnel _ => inferInstanceAs (Decidable (_ → _ → _))
  | .packet _ _ => inferInstanceAs (Decidable (_ → _ → _))
  | .session _ => inferInstanceAs (Decidable (_ → _ → _))
  | .start _ | .addTunnelSocket _ | .exit | .activate | .evaluate | .tunnel | .packetsDone | .tunnelRest
  | .clock _ | .checkTunnel _ | .checkSession _ _ _ _ => .isTrue trivial

/-! ## the invariant -/

/-- the thread is between a call of `select` and the reading of the clock -/
def inLoops : Pc → Bool
  | .tunnels | .packets | .tunnelRest | .sessions | .clock => true
  | _ => false

/-- where the sessions end that the loop will come to -/
def St.endOfSessions (h : St) : Nat :=
  if h.pc = .sessions then h.iterator + h.remaining else h.openTCPSessionsCount

/-- the loops will come to a tunnel that holds the descriptor -/
def DueTunnel (h : St) (k : FdSets) (fd : Nat) : Prop :=
  ∃ j t, h.tunnels[j]? = some t ∧ t.held = some fd ∧ h.aheadTunnel k j = true ∧ j < h.iterator + h.remaining

/-- or to a session -/
def DueSession (h : St) (fd : Nat) : Prop :=
  ∃ j d, h.tcpSessions[j]? = some d ∧ d.socket = some fd ∧ h.aheadSession j = true ∧ j < h.endOfSessions

/-- what holds between two steps in the loops, with the list of what was counted down -/
structure Counting (h : St) (l : List Report) : Prop where
  tally : Tally h.reports h.count l
  turn : h.pc = .packets ∨ h.pc = .tunnelRest → 0 < h.remaining
  due : ∀ k fd, fd ∈ h.reported k → ⟨k, fd⟩ ∈ l ∨ DueTunnel h k fd ∨ DueSession h fd
  /-- what is ahead was not counted down yet -/
  tunnel : ∀ j t k fd, h.tunnels[j]? = some t → t.held = some fd → h.aheadTunnel k j = true →
    (⟨k, fd⟩ : Report) ∉ l
  session : 0 < h.count → ∀ j d k fd, h.tcpSessions[j]? = some d → d.socket = some fd →
    h.aheadSession j = true → (⟨k, fd⟩ : Report) ∉ l

section
variable {IP_MSS : U16} {h g h' : St} {l : List Report} {k : FdSets} {fd : Nat}

theorem mem_reports {r : Report} : r ∈ h.reports ↔ r.2 ∈ h.reported r.1 := by
  unfold St.reports
  rw [Finset.mem_sigma]
  exact and_iff_right (Finset.mem_univ _)

theorem card_reports (h : St) : (h.reports.card : Int) = h.rcv.card + h.snd.card + h.err.card := by
  have hsum : h.reports.card = h.rcv.card + (h.snd.card + (h.err.card + 0)) := Finset.card_sigma _ _
  omega

theorem mem_reportOf {r : Report} {o : Option Nat} {set : Finset Nat} :
    r ∈ reportOf k o set ↔ r.1 = k ∧ o = some r.2 ∧ r.2 ∈ set := by
  obtain ⟨k', fd'⟩ := r
  unfold reportOf
  cases o with
  | none => simp
  | some f =>
    dsimp only
    split_ifs with hf
    · rw [List.mem_singleton, Sigma.mk.injEq, heq_eq_eq, Option.some_inj]
      exact ⟨fun h => ⟨h.1, h.2.symm, h.2 ▸ hf⟩, fun h => ⟨h.1, h.2.1.symm⟩⟩
    · rw [Option.some_inj]
      exact ⟨fun h => absurd h List.not_mem_nil, fun h => absurd (h.2.1 ▸ h.2.2) hf⟩

theorem reportOf_nodup (k : FdSets) (o : Option Nat) (set : Finset Nat) : (reportOf k o set).Nodup := by
  unfold reportOf
  cases o with
  | none => exact List.nodup_nil
  | some f =>
    dsimp only
    split_ifs
    · exact List.nodup_singleton _
    · exact List.nodup_nil

/-- `count` goes down by one for each that is found -/
theorem sub_reportOf (k : FdSets) (o : Option Nat) (set : Finset Nat) (n : Int) :
    n - ((reportOf k o set).length : Int) = if isSetIn o set then n - 1 else n := by
  unfold reportOf isSetIn
  cases o with
  | none => simp
  | some f =>
    dsimp only
    by_cases hf : f ∈ set
    · simp [hf]
    · simp [hf]

theorem Tunnel.isSetIn_eq (t : Tunnel) (set : Finset Nat) : t.isSetIn set = Handler.isSetIn t.held set := by
  unfold Tunnel.isSetIn Tunnel.held Handler.isSetIn
  cases t.isOpen with
  | true => simp
  | false => simp

theorem isReady_eq (h : St) (set : Finset Nat) : h.isReady set = isSetIn h.sessionSocket set := by
  unfold St.isReady St.sessionSocket
  cases h.tcpSessions[h.iterator]? with
  | none => rfl
  | some d => rfl

/-- nothing is missing when `count` is at zero -/
theorem Counting.complete (hs : Counting h l) (hn : h.count ≤ 0) (hfd : fd ∈ h.reported k) :
    (⟨k, fd⟩ : Report) ∈ l := hs.tally.zero_iff.mp hn _ (mem_reports.mpr hfd)

/-- a page of the ledger that is complete stays so in the loop over the sessions -/
theorem Counting.of_complete (htally : Tally h.reports h.count l) (hn : h.count ≤ 0)
    (hpc : h.pc = .sessions) : Counting h l := by
  refine ⟨htally, fun h1 => ?_, fun k fd hfd => .inl (htally.zero_iff.mp hn _ (mem_reports.mpr hfd)),
    fun j t k fd _ _ hj => ?_, fun hpos => absurd hpos (by omega)⟩
  · rw [hpc] at h1
    rcases h1 with h1 | h1 <;> cases h1
  · unfold St.aheadTunnel at hj
    rw [hpc] at hj
    cases hj

/-! ## `select` -/

theorem selected_counting (hs : Sockets h) {rcv snd err : Finset Nat} {count : Int}
    (hok : Answers h rcv snd err count) (hcount : 0 ≤ count) (hfront : InFront h (answer rcv snd err)) :
    Counting (h.selected rcv snd err count) [] := by
  obtain ⟨htotal, hreported⟩ := hok hcount
  have hcard : ((h.selected rcv snd err count).reports.card : Int) = count :=
    (card_reports (h.selected rcv snd err count)).trans htotal.symm
  refine ⟨hcard ▸ Tally.start _, fun hpc => ?_, fun k fd hfd => .inr ?_,
    fun _ _ _ _ _ _ _ => List.not_mem_nil, fun _ _ _ _ _ _ _ _ => List.not_mem_nil⟩
  · rcases hpc with hpc | hpc <;> cases hpc
  · obtain ⟨htunnels, hsessions⟩ := hfront k
    rcases hreported k fd hfd with hset | ⟨t, ht, hheld⟩
    · obtain ⟨d, hd, hsocket⟩ := hs.registered k fd hset
      obtain ⟨j, hj⟩ := List.mem_iff_getElem?.mp hd
      refine .inr ⟨j, d, hj, hsocket, rfl, ?_⟩
      show j < h.openTCPSessionsCount
      by_contra hlt
      refine hsessions d (List.mem_of_getElem? (i := j - h.openTCPSessionsCount) ?_) fd hsocket hfd
      rw [List.getElem?_drop, show h.openTCPSessionsCount + (j - h.openTCPSessionsCount) = j by omega]
      exact hj
    · obtain ⟨j, hj⟩ := List.mem_iff_getElem?.mp ht
      refine .inl ⟨j, t, hj, hheld, decide_eq_true (Nat.zero_le j), ?_⟩
      show j < 0 + h.openTunnelsCount
      by_contra hlt
      refine htunnels t (List.mem_of_getElem? (i := j - h.openTunnelsCount) ?_) fd hheld hfd
      rw [List.getElem?_drop, show h.openTunnelsCount + (j - h.openTunnelsCount) = j by omega]
      exact hj

/-! ## the loop over the tunnels -/

/-- the thread has come to the sessions -/
theorem Counting.toSessions (hs : Counting h l) (hpc : h.pc = .tunnels)
    (hdone : h.remaining = 0 ∨ h.count ≤ 0) :
    Counting { h with iterator := 0, remaining := h.openTCPSessionsCount, pc := .sessions } l := by
  by_cases hn : h.count ≤ 0
  · exact .of_complete hs.tally hn rfl
  have hrem : h.remaining = 0 := hdone.resolve_right hn
  have hahead : ∀ j, h.aheadSession j = true := by
    intro j
    unfold St.aheadSession
    rw [hpc]
  refine ⟨hs.tally, fun h1 => ?_, fun k fd hfd => ?_, fun _ _ _ _ _ _ h1 => Bool.noConfusion h1,
    fun hpos j d k fd hj hsocket _ => hs.session hpos j d k fd hj hsocket (hahead j)⟩
  · rcases h1 with h1 | h1 <;> cases h1
  · rcases hs.due k fd hfd with hl | ⟨j, t, _, _, hj, hlt⟩ | ⟨j, d, hd, hsocket, _, hlt⟩
    · exact .inl hl
    · unfold St.aheadTunnel at hj
      rw [hpc] at hj
      have h2 := of_decide_eq_true hj
      omega
    · refine .inr (.inr ⟨j, d, hd, hsocket, decide_eq_true (Nat.zero_le j), ?_⟩)
      unfold St.endOfSessions at hlt
      rw [if_neg (by rw [hpc]; decide)] at hlt
      show j < 0 + h.openTCPSessionsCount
      omega

/-- a turn for the tunnel at the iterator begins -/
theorem Counting.beginTurn (hsock : Sockets h) (hs : Counting h l) (hpc : h.pc = .tunnels)
    (hmore : 0 < h.remaining) (hpos : 0 < h.count) {t : Tunnel} (ht : h.tunnels[h.iterator]? = some t)
    {pc : Pc} (hpc' : pc = .packets ∨ pc = .tunnelRest) :
    Counting { h with count := h.count - ((reportOf .receiveSet t.held h.rcv).length : Int), pc := pc }
      (l ++ reportOf .receiveSet t.held h.rcv) := by
  have hahead : ∀ k j, h.aheadTunnel k j = true ↔ h.iterator ≤ j := by
    intro k j
    unfold St.aheadTunnel
    rw [hpc]
    exact decide_eq_true_iff
  have hahead' : ∀ k j, St.aheadTunnel { h with
      count := h.count - ((reportOf .receiveSet t.held h.rcv).length : Int), pc := pc } k j = true ↔
      if k = .receiveSet then h.iterator < j else h.iterator ≤ j := by
    intro k j
    unfold St.aheadTunnel
    rcases hpc' with rfl | rfl
    all_goals
      dsimp only
      split_ifs
      · exact decide_eq_true_iff
      · exact decide_eq_true_iff
  have hsession : ∀ j, h.aheadSession j = true := by
    intro j
    unfold St.aheadSession
    rw [hpc]
  have hend : St.endOfSessions { h with
      count := h.count - ((reportOf .receiveSet t.held h.rcv).length : Int), pc := pc } = h.endOfSessions := by
    unfold St.endOfSessions
    rw [hpc]
    rcases hpc' with rfl | rfl
    · rfl
    · rfl
  have hnew : ∀ r ∈ reportOf .receiveSet t.held h.rcv, r ∈ h.reports ∧ r ∉ l := by
    rintro ⟨k, fd⟩ hr
    obtain ⟨rfl, hheld, hfd⟩ := mem_reportOf.mp hr
    exact ⟨mem_reports.mpr hfd, hs.tunnel _ _ _ _ ht hheld ((hahead _ _).mpr (le_refl _))⟩
  refine ⟨hs.tally.enterAll (reportOf_nodup _ _ _) hnew, fun _ => hmore, fun k fd hfd => ?_, ?_, ?_⟩
  · rcases hs.due k fd hfd with hl | ⟨j, t', ht', hheld, hj, hlt⟩ | ⟨j, d, hd, hsocket, _, hlt⟩
    · exact .inl (List.mem_append_left _ hl)
    · have hle := (hahead k j).mp hj
      by_cases hcur : k = .receiveSet ∧ j = h.iterator
      · obtain ⟨rfl, rfl⟩ := hcur
        cases ht.symm.trans ht'
        exact .inl (List.mem_append_right _ (mem_reportOf.mpr ⟨rfl, hheld, hfd⟩))
      · refine .inr (.inl ⟨j, t', ht', hheld, (hahead' k j).mpr ?_, hlt⟩)
        split_ifs with hk
        · have hne : j ≠ h.iterator := fun he => hcur ⟨hk, he⟩
          omega
        · exact hle
    · refine .inr (.inr ⟨j, d, hd, hsocket, ?_, hend ▸ hlt⟩)
      unfold St.aheadSession
      rcases hpc' with rfl | rfl
      · rfl
      · rfl
  · intro j t' k fd ht' hheld hj hr
    have hj' := (hahead' k j).mp hj
    rcases List.mem_append.mp hr with hl | hr
    · refine hs.tunnel j t' k fd ht' hheld ((hahead k j).mpr ?_) hl
      split_ifs at hj'
      · omega
      · exact hj'
    · obtain ⟨hk, hcur, _⟩ := mem_reportOf.mp hr
      rw [if_pos hk] at hj'
      have he := hsock.tunnel_index ht ht' hcur hheld
      omega
  · intro _ j d k fd hd hsocket _ hr
    rcases List.mem_append.mp hr with hl | hr
    · exact hs.session hpos j d k fd hd hsocket (hsession j) hl
    · exact hsock.apart ht hd (mem_reportOf.mp hr).2.1 hsocket

theorem tunnelTurn_counting (hsock : Sockets h) (hs : Counting h l) (hpc : h.pc = .tunnels)
    (hin : inLoops h.tunnelTurn.pc = true) :
    Counting h.tunnelTurn (l ++ h.counts IP_MSS .tunnel) := by
  unfold St.counts
  by_cases hdone : h.remaining = 0 ∨ h.count ≤ 0
  · rw [if_neg (by omega), List.append_nil]
    unfold St.tunnelTurn
    rw [if_pos hdone]
    exact hs.toSessions hpc hdone
  have hmore : 0 < h.remaining := by omega
  have hpos : 0 < h.count := by omega
  rw [if_pos ⟨hpc, hmore, hpos⟩]
  unfold St.tunnelTurn at hin ⊢
  rw [if_neg hdone] at hin ⊢
  cases ht : h.tunnels[h.iterator]? with
  | none =>
    rw [ht] at hin
    cases hin
  | some t =>
    have htunnel : h.tunnelSocket = t.held := by
      unfold St.tunnelSocket
      rw [ht]
      rfl
    have hcount := sub_reportOf .receiveSet t.held h.rcv h.count
    rw [htunnel]
    dsimp only
    rw [Tunnel.isSetIn_eq]
    split_ifs at hcount ⊢
    · have h1 := hs.beginTurn hsock hpc hmore hpos ht (.inl rfl)
      rwa [hcount] at h1
    · have h1 := hs.beginTurn hsock hpc hmore hpos ht (.inr rfl)
      rwa [hcount] at h1

/-- what the rest of a turn for the tunnel `t` counts down -/
theorem Counting.restTally (hs : Counting h l) (hpc : h.pc = .tunnelRest) {t : Tunnel}
    (ht : h.tunnels[h.iterator]? = some t) :
    let as := reportOf .sendSet t.held h.snd ++ reportOf .errorSet t.held h.err
    Tally h.reports (h.count - (as.length : Int)) (l ++ as) := by
  intro as
  refine hs.tally.enterAll ?_ ?_
  · rw [List.nodup_append]
    refine ⟨reportOf_nodup _ _ _, reportOf_nodup _ _ _, fun a ha b hb he => ?_⟩
    have h1 := (mem_reportOf.mp ha).1
    have h2 := (mem_reportOf.mp hb).1
    rw [he, h2] at h1
    cases h1
  · have hahead : ∀ k, k ≠ .receiveSet → h.aheadTunnel k h.iterator = true := by
      intro k hk
      unfold St.aheadTunnel
      rw [hpc]
      dsimp only
      rw [if_neg hk]
      exact decide_eq_true (le_refl _)
    rintro ⟨k, fd⟩ hr
    rcases List.mem_append.mp hr with hr | hr
    · obtain ⟨rfl, hheld, hfd⟩ := mem_reportOf.mp hr
      exact ⟨mem_reports.mpr hfd, hs.tunnel _ _ _ _ ht hheld (hahead _ (by decide))⟩
    · obtain ⟨rfl, hheld, hfd⟩ := mem_reportOf.mp hr
      exact ⟨mem_reports.mpr hfd, hs.tunnel _ _ _ _ ht hheld (hahead _ (by decide))⟩

/-- A turn for the tunnel `t` ends: the thread is at the next one, `ts` are the tunnels now. -/
theorem Counting.endTurn (hsock : Sockets h) (hs : Counting h l) (hpc : h.pc = .tunnelRest) {t : Tunnel}
    (ht : h.tunnels[h.iterator]? = some t) {as : List Report}
    (has : as = reportOf .sendSet t.held h.snd ++ reportOf .errorSet t.held h.err)
    (hpc' : h'.pc = .tunnels) (hcount : h'.count = h.count - (as.length : Int))
    (hreports : h'.reported = h.reported) (hrem : h'.remaining = h.remaining - 1)
    (hsessions : h'.tcpSessions = h.tcpSessions) (hopen : h'.openTCPSessionsCount = h.openTCPSessionsCount)
    (hold : ∀ j t', h.tunnels[j]? = some t' → h.iterator < j → j < h.iterator + h.remaining →
      ∃ m, h'.tunnels[m]? = some t' ∧ h'.iterator ≤ m ∧ m < h'.iterator + h'.remaining)
    (hnew : ∀ m t', h'.tunnels[m]? = some t' → h'.iterator ≤ m → t'.held ≠ none →
      ∃ j, h.tunnels[j]? = some t' ∧ h.iterator < j) : Counting h' (l ++ as) := by
  have hahead : ∀ k j, h.iterator < j → h.aheadTunnel k j = true := by
    intro k j hj
    unfold St.aheadTunnel
    rw [hpc]
    dsimp only
    split_ifs
    · exact decide_eq_true hj
    · exact decide_eq_true (Nat.le_of_lt hj)
  have hahead' : ∀ k j, h'.aheadTunnel k j = true ↔ h'.iterator ≤ j := by
    intro k j
    unfold St.aheadTunnel
    rw [hpc']
    exact decide_eq_true_iff
  have htally := hs.restTally hpc ht
  have hreports' : h'.reports = h.reports := by
    unfold St.reports
    rw [hreports]
  refine ⟨?_, fun h1 => ?_, fun k fd hfd => ?_, fun m t' k fd ht' hheld hm hr => ?_,
    fun hpos j d k fd hd hsocket _ hr => ?_⟩
  · rw [hreports', hcount, has]
    exact htally
  · rw [hpc'] at h1
    rcases h1 with h1 | h1 <;> cases h1
  · rw [hreports] at hfd
    rcases hs.due k fd hfd with hl | ⟨j, t', ht', hheld, hj, hlt⟩ | ⟨j, d, hd, hsocket, _, hlt⟩
    · exact .inl (List.mem_append_left _ hl)
    · by_cases hcur : j = h.iterator
      · subst hcur
        cases ht.symm.trans ht'
        refine .inl (List.mem_append_right _ ?_)
        rw [has]
        unfold St.aheadTunnel at hj
        rw [hpc] at hj
        cases k with
        | receiveSet =>
          have h1 := of_decide_eq_true hj
          omega
        | sendSet => exact List.mem_append_left _ (mem_reportOf.mpr ⟨rfl, hheld, hfd⟩)
        | errorSet => exact List.mem_append_right _ (mem_reportOf.mpr ⟨rfl, hheld, hfd⟩)
      · have hle : h.iterator ≤ j := by
          unfold St.aheadTunnel at hj
          rw [hpc] at hj
          dsimp only at hj
          split_ifs at hj
          · exact Nat.le_of_lt (of_decide_eq_true hj)
          · exact of_decide_eq_true hj
        obtain ⟨m, hm, hge, hlt'⟩ := hold j t' ht' (by omega) hlt
        exact .inr (.inl ⟨m, t', hm, hheld, (hahead' k m).mpr hge, hlt'⟩)
    · refine .inr (.inr ⟨j, d, hsessions ▸ hd, hsocket, ?_, ?_⟩)
      · unfold St.aheadSession
        rw [hpc']
      · unfold St.endOfSessions at hlt ⊢
        rw [hpc] at hlt
        rw [hpc', hopen]
        exact hlt
  · obtain ⟨j, hj, hlt⟩ := hnew m t' ht' ((hahead' k m).mp hm) (by rw [hheld]; exact Option.some_ne_none _)
    rcases List.mem_append.mp hr with hl | hr
    · exact hs.tunnel j t' k fd hj hheld (hahead k j hlt) hl
    · have hcur : t.held = some fd := by
        rw [has] at hr
        rcases List.mem_append.mp hr with hr | hr
        · exact (mem_reportOf.mp hr).2.1
        · exact (mem_reportOf.mp hr).2.1
      have he := hsock.tunnel_index ht hj hcur hheld
      omega
  · rw [hsessions] at hd
    rcases List.mem_append.mp hr with hl | hr
    · refine hs.session (by omega) j d k fd hd hsocket ?_ hl
      unfold St.aheadSession
      rw [hpc]
    · have hcur : t.held = some fd := by
        rw [has] at hr
        rcases List.mem_append.mp hr with hr | hr
        · exact (mem_reportOf.mp hr).2.1
        · exact (mem_reportOf.mp hr).2.1
      exact hsock.apart ht hd hcur hsocket

theorem tunnelRest_counting (hsock : Sockets h) (hs : Counting h l) (hpc : h.pc = .tunnelRest)
    (hin : inLoops h.tunnelRest.pc = true) :
    Counting h.tunnelRest (l ++ h.counts IP_MSS .tunnelRest) := by
  cases ht : h.tunnels[h.iterator]? with
  | none =>
    unfold St.tunnelRest at hin
    rw [ht] at hin
    cases hin
  | some t =>
    have hlt := (List.getElem?_eq_some_iff.mp ht).1
    have hmore := hs.turn (.inr hpc)
    have htunnel : h.tunnelSocket = t.held := by
      unfold St.tunnelSocket
      rw [ht]
      rfl
    have hsent : h.countSent t = h.count - ((reportOf .sendSet t.held h.snd).length : Int) := by
      unfold St.countSent
      rw [sub_reportOf, Tunnel.isSetIn_eq]
    have herrs := sub_reportOf .errorSet t.held h.err (h.countSent t)
    rw [← Tunnel.isSetIn_eq] at herrs
    have hcounts : h.counts IP_MSS .tunnelRest =
        reportOf .sendSet t.held h.snd ++ reportOf .errorSet t.held h.err := by
      unfold St.counts
      rw [if_pos hpc, htunnel]
    have hlength : ((h.counts IP_MSS .tunnelRest).length : Int) =
        (reportOf .sendSet t.held h.snd).length + (reportOf .errorSet t.held h.err).length := by
      rw [hcounts, List.length_append]
      push_cast
      rfl
    rw [tunnelRest_eq ht]
    split_ifs at herrs ⊢ with herr
    · refine hs.endTurn hsock hpc ht hcounts rfl ?_ rfl rfl rfl rfl ?_ ?_
      · show h.countSent t - 1 = _
        omega
      · intro j t' hj hgt hend
        obtain ⟨h1, h2⟩ := @ahead_toEnd _ h.tunnels h.iterator { t.close with active := false } t' j hlt hj hgt
        refine ⟨j - 1, h1, h2, ?_⟩
        have hlen := (List.getElem?_eq_some_iff.mp hj).1
        show j - 1 < St.nextIterator h.iterator h.tunnels.length + (h.remaining - 1)
        rw [nextIterator_of_lt (by omega)]
        omega
      · intro m t' hm hge hheld
        rcases of_ahead_toEnd hlt hm hge with ⟨h1, h2⟩ | h1
        · exact ⟨m + 1, h2, by omega⟩
        · rw [h1] at hheld
          exact absurd rfl hheld
    · refine hs.endTurn hsock hpc ht hcounts rfl ?_ rfl rfl rfl rfl ?_ ?_
      · show h.countSent t = _
        omega
      · intro j t' hj hgt hend
        refine ⟨j, hj, hgt, ?_⟩
        show j < h.iterator + 1 + (h.remaining - 1)
        omega
      · intro m t' hm hge _
        exact ⟨m, hm, hge⟩

/-! ## packets, and tunnels that close -/

theorem modify_counting (hs : Counting h l) {j : Nat} (hok : Settled h j) :
    Counting { h with tunnels := h.tunnels.modify j Tunnel.close } l := by
  refine ⟨hs.tally, hs.turn, fun k fd hfd => ?_, fun m t' k fd ht' hheld hm => ?_, hs.session⟩
  · by_cases hn : h.count ≤ 0
    · exact .inl (hs.complete hn hfd)
    · rcases hs.due k fd hfd with hl | ⟨m, t, ht, hheld, hm, hlt⟩ | hsession
      · exact .inl hl
      · by_cases hj : j = m
        · subst hj
          exact absurd hfd (hok (by omega) t ht fd hheld k hm)
        · refine .inr (.inl ⟨m, t, ?_, hheld, hm, hlt⟩)
          show (h.tunnels.modify j Tunnel.close)[m]? = some t
          rw [List.getElem?_modify_ne _ _ hj]
          exact ht
      · exact .inr (.inr hsession)
  · have ht : (h.tunnels.modify j Tunnel.close)[m]? = some t' := ht'
    by_cases hj : j = m
    · subst hj
      rw [List.getElem?_modify_eq] at ht
      obtain ⟨t, _, rfl⟩ := Option.map_eq_some_iff.mp ht
      exact absurd (Tunnel.held_eq_some.mp hheld).1 Bool.false_ne_true
    · rw [List.getElem?_modify_ne _ _ hj] at ht
      exact hs.tunnel m t' k fd ht hheld hm

theorem onDeleteTunnelRequest_counting (hs : Counting h l) {id : U32}
    (hok : ∀ j ∈ (h.tunnels.take h.openTunnelsCount).findIdx? fun t => t.id = id, Settled h j)
    (hin : inLoops (h.onDeleteTunnelRequest id).pc = true) : Counting (h.onDeleteTunnelRequest id) l := by
  unfold St.onDeleteTunnelRequest at hin ⊢
  cases hj : (h.tunnels.take h.openTunnelsCount).findIdx? fun t => t.id = id with
  | some j => exact modify_counting hs (hok j hj)
  | none =>
    rw [hj] at hin
    dsimp only at hin ⊢
    split_ifs at hin ⊢
    · cases hin
    · exact hs

/-- a session gets a packet -/
theorem put_counting (hsock : Sockets h) (hs : Counting h l) {j : Nat} {d : Sessions2.Data}
    (hd : h.tcpSessions[j]? = some d) {p : Sessions2.Incoming} {i : Sessions2.ClientInput}
    (hok : Harmless h d p.val i) :
    Counting (h.put j d (Sessions2.receiveFromClient IP_MSS (h.sessionAt d) p.val i).2) l := by
  have hlt := (List.getElem?_eq_some_iff.mp hd).1
  have hlife := Sessions2.receiveFromClient_life IP_MSS (h.sessionAt d) p i
  have hkeeps : ∀ k fd, d.socket = some fd → fd ∈ h.reported k → 0 < h.count →
      (Sessions2.receiveFromClient IP_MSS (h.sessionAt d) p.val i).2.data.socket = some fd := by
    intro k fd hsocket hfd hpos
    have hopen : (h.sessionAt d).data.state ≠ .CLOSED := by
      intro hclosed
      rw [hsock.closed d (List.mem_of_getElem? hd) hclosed] at hsocket
      cases hsocket
    exact (Sessions2.receiveFromClient_socket IP_MSS i hopen ((hok hpos).1 fd hsocket k hfd)).trans hsocket
  refine ⟨hs.tally, hs.turn, fun k fd hfd => ?_, hs.tunnel, fun hpos m e k fd he hsocket hm hr => ?_⟩
  · by_cases hn : h.count ≤ 0
    · exact .inl (hs.complete hn hfd)
    · rcases hs.due k fd hfd with hl | htunnel | ⟨m, e, he, hsocket, hm, hend⟩
      · exact .inl hl
      · exact .inr (.inl htunnel)
      · by_cases hj : j = m
        · subst hj
          cases hd.symm.trans he
          exact .inr (.inr ⟨j, _, List.getElem?_set_self hlt, hkeeps k fd hsocket hfd (by omega), hm, hend⟩)
        · refine .inr (.inr ⟨m, e, ?_, hsocket, hm, hend⟩)
          show (h.tcpSessions.set j _)[m]? = some e
          rw [List.getElem?_set_ne hj]
          exact he
  · have he' : (h.tcpSessions.set j _)[m]? = some e := he
    by_cases hj : j = m
    · subst hj
      rw [List.getElem?_set_self hlt] at he'
      cases he'
      generalize (Sessions2.receiveFromClient IP_MSS (h.sessionAt d) p.val i).2.data = d' at hlife hsocket
      cases hlife with
      | kept state socket => exact hs.session hpos j d k fd hd (socket.symm.trans hsocket) hm hr
      | closed state socket =>
        rw [socket] at hsocket
        cases hsocket
      | opened hopens state socket =>
        rw [socket] at hsocket
        cases hsocket
        exact (hok hpos).2 hopens k (mem_reports.mp (hs.tally.sound _ hr))
    · rw [List.getElem?_set_ne hj] at he'
      exact hs.session hpos m e k fd he' hsocket hm hr

theorem dispatch_counting (hsock : Sockets h) (hs : Counting h l) (hpc : h.pc = .packets)
    {p : Sessions2.Incoming} {i : Sessions2.ClientInput}
    (hok : Harmless h (taker IP_MSS h p.val) p.val i) : Counting (h.dispatch IP_MSS p.val i) l := by
  have hd := @dispatch_dispatched IP_MSS h p.val i
  generalize h.dispatch IP_MSS p.val i = h' at hd
  cases hd with
  | taken hd hcan hfirst =>
    rw [taker_of_first hd hcan hfirst] at hok
    exact put_counting hsock hs hd hok
  | dropped => exact hs
  | created hnone =>
    rw [taker_of_none hnone] at hok
    have hfresh : Sockets { h with tcpSessions := h.tcpSessions ++ [Sessions2.Data.init IP_MSS] } :=
      hsock.appendSession IP_MSS
    have hwith : Counting { h with tcpSessions := h.tcpSessions ++ [Sessions2.Data.init IP_MSS] } l := by
      refine ⟨hs.tally, hs.turn, fun k fd hfd => ?_, hs.tunnel, fun hpos m e k fd he hsocket hm => ?_⟩
      · rcases hs.due k fd hfd with hl | htunnel | ⟨m, e, he, hsocket, hm, hend⟩
        · exact .inl hl
        · exact .inr (.inl htunnel)
        · refine .inr (.inr ⟨m, e, ?_, hsocket, hm, hend⟩)
          exact (List.getElem?_append_left (List.getElem?_eq_some_iff.mp he).1).trans he
      · have he' : (h.tcpSessions ++ [Sessions2.Data.init IP_MSS])[m]? = some e := he
        by_cases hlt : m < h.tcpSessions.length
        · rw [List.getElem?_append_left hlt] at he'
          exact hs.session hpos m e k fd he' hsocket hm
        · rcases List.mem_append.mp (List.mem_of_getElem? he') with _ | hmem
          · rw [List.getElem?_append_right (by omega)] at he'
            rw [List.mem_singleton.mp (List.mem_of_getElem? he')] at hsocket
            cases hsocket
          · rw [List.mem_singleton.mp hmem] at hsocket
            cases hsocket
    have hput := @put_counting IP_MSS _ _ hfresh hwith _ _ List.getElem?_concat_length p i hok
    unfold St.createSession
    dsimp only
    split_ifs
    · refine ⟨hput.tally, hput.turn, fun k fd hfd => ?_, hput.tunnel, hput.session⟩
      rcases hput.due k fd hfd with hl | htunnel | ⟨m, e, he, hsocket, hm, hend⟩
      · exact .inl hl
      · exact .inr (.inl htunnel)
      · refine .inr (.inr ⟨m, e, he, hsocket, hm, ?_⟩)
        unfold St.endOfSessions at hend ⊢
        rw [if_neg (show ¬ (St.put _ _ _ _).pc = .sessions by
          show ¬ h.pc = .sessions
          rw [hpc]
          decide)] at hend ⊢
        exact Nat.lt_succ_of_lt hend
    · exact hput

theorem packetsDone_counting (hs : Counting h l) (hpc : h.pc = .packets) :
    Counting { h with pc := .tunnelRest } l := by
  have hahead : ∀ k j, St.aheadTunnel { h with pc := .tunnelRest } k j = h.aheadTunnel k j := by
    intro k j
    unfold St.aheadTunnel
    rw [hpc]
  have hsession : ∀ j, h.aheadSession j = true := by
    intro j
    unfold St.aheadSession
    rw [hpc]
  refine ⟨hs.tally, fun _ => hs.turn (.inl hpc), fun k fd hfd => ?_, fun j t k fd ht hheld hj => ?_,
    fun hpos j d k fd hd hsocket _ => hs.session hpos j d k fd hd hsocket (hsession j)⟩
  · rcases hs.due k fd hfd with hl | ⟨j, t, ht, hheld, hj, hlt⟩ | ⟨j, d, hd, hsocket, _, hlt⟩
    · exact .inl hl
    · exact .inr (.inl ⟨j, t, ht, hheld, (hahead k j).trans hj, hlt⟩)
    · refine .inr (.inr ⟨j, d, hd, hsocket, rfl, ?_⟩)
      unfold St.endOfSessions at hlt
      rw [hpc] at hlt
      exact hlt
  · exact hs.tunnel j t k fd ht hheld ((hahead k j).symm.trans hj)

/-! ## the loop over the sessions -/

/-- Calls of the session at the iterator: no other session changes, and its socket at most closes. -/
structure OnlyAt (h g : St) : Prop where
  worked : Worked h g
  others : ∀ j, j ≠ h.iterator → g.tcpSessions[j]? = h.tcpSessions[j]?
  socket : g.sessionSocket = h.sessionSocket ∨ g.sessionSocket = none

theorem OnlyAt.refl (h : St) : OnlyAt h h := ⟨.refl h, fun _ _ => rfl, .inl rfl⟩

theorem OnlyAt.iterator (hg : OnlyAt h g) : g.iterator = h.iterator := by
  obtain ⟨_, _, _, _, _, _, _, _, rfl⟩ := hg.worked
  rfl

theorem OnlyAt.trans (h1 : OnlyAt h g) (h2 : OnlyAt g h') : OnlyAt h h' := by
  refine ⟨h1.worked.trans h2.worked, fun j hj => ?_, ?_⟩
  · rw [h2.others j (h1.iterator ▸ hj), h1.others j hj]
  · rcases h2.socket with hg | hg
    · rw [hg]
      exact h1.socket
    · exact .inr hg

/-- the socket of the session that is called -/
theorem call_socket {d : Sessions2.Data} (hd : h.tcpSessions[h.iterator]? = some d) (op : Sessions2.Op) :
    (h.call IP_MSS h.iterator op).sessionSocket = (Sessions2.step IP_MSS (h.sessionAt d) op).data.socket := by
  have hlt := (List.getElem?_eq_some_iff.mp hd).1
  unfold St.call
  rw [hd]
  show ((h.tcpSessions.set h.iterator _)[h.iterator]?).bind _ = _
  rw [List.getElem?_set_self hlt]
  rfl

theorem call_onlyAt (h : St) {op : Sessions2.Op} (hop : op.fromClient = none) :
    OnlyAt h (h.call IP_MSS h.iterator op) := by
  refine ⟨call_worked IP_MSS h _ op hop, fun j hj => ?_, ?_⟩
  · unfold St.call
    cases h.tcpSessions[h.iterator]? with
    | none => rfl
    | some d => exact List.getElem?_set_ne (Ne.symm hj)
  · cases hd : h.tcpSessions[h.iterator]? with
    | none =>
      unfold St.call
      rw [hd]
      exact .inl rfl
    | some d =>
      have hlife := Sessions2.step_life IP_MSS (h.sessionAt d) op
      have hbefore : h.sessionSocket = d.socket := by
        unfold St.sessionSocket
        rw [hd]
        rfl
      rw [call_socket hd, hbefore]
      generalize (Sessions2.step IP_MSS (h.sessionAt d) op).data = d' at hlife
      cases hlife with
      | kept state socket => exact .inl socket
      | closed state socket => exact .inr socket
      | opened => cases hop

theorem event_onlyAt (h : St) (ready : Bool) {op : Sessions2.Op} (hop : op.fromClient = none) :
    OnlyAt h (h.event IP_MSS ready op) := by
  unfold St.event
  split_ifs
  · have h1 : OnlyAt h { h with count := h.count - 1 } :=
      ⟨⟨_, _, _, _, _, [], _, Older.refl _, by rw [List.append_nil]⟩, fun _ _ => rfl, .inl rfl⟩
    exact h1.trans (call_onlyAt _ hop)
  · exact .refl h

theorem event_count (h : St) (ready : Bool) (op : Sessions2.Op) :
    (h.event IP_MSS ready op).count = if ready then h.count - 1 else h.count := by
  unfold St.event
  split_ifs
  · exact call_count _ _ _
  · rfl

/-- a read leaves the socket open -/
theorem receive_socket (h : St) (ready : Bool) (r : Sessions2.RecvResult) (now : Int) (turns : Nat) :
    (h.event IP_MSS ready (.receiveFromServer r now turns)).sessionSocket = h.sessionSocket := by
  unfold St.event
  split_ifs
  · cases hd : h.tcpSessions[h.iterator]? with
    | none =>
      unfold St.call
      dsimp only
      rw [hd]
      rfl
    | some d =>
      have hbefore : h.sessionSocket = d.socket := by
        unfold St.sessionSocket
        rw [hd]
        rfl
      rw [@call_socket IP_MSS { h with count := h.count - 1 } d hd, hbefore]
      unfold Sessions2.step
      split_ifs
      · rfl
      · exact Sessions2.receiveFromServer_socket _ r now turns
  · rfl

/-- a turn that does not hang, by its first two events -/
theorem polled_eq {x : Events} (hhung : (h.polled IP_MSS x).hung = false) :
    let g := h.event IP_MSS (h.isReady h.rcv) (.receiveFromServer x.received x.nowReceive x.turns)
    g.hung = false ∧ h.polled IP_MSS x =
      g.event IP_MSS (g.isReady h.snd) (.flushDataToServer x.lastError x.sent x.nowFlush x.nowSynAck) := by
  intro g
  have hsnd : g.snd = h.snd := by
    obtain ⟨_, _, _, _, _, _, _, _, he⟩ := event_worked IP_MSS h (h.isReady h.rcv)
      (.receiveFromServer x.received x.nowReceive x.turns) rfl
    show (h.event IP_MSS _ _).snd = h.snd
    rw [he]
  unfold St.polled at hhung ⊢
  by_cases hg : g.hung = true
  · rw [if_pos hg] at hhung
    exact absurd (hg.symm.trans hhung) (by decide)
  · refine ⟨by simpa using hg, ?_⟩
    rw [if_neg hg, hsnd]

theorem polled_onlyAt {x : Events} (hhung : (h.polled IP_MSS x).hung = false) :
    OnlyAt h (h.polled IP_MSS x) := by
  rw [(polled_eq hhung).2]
  exact (event_onlyAt h _ rfl).trans (event_onlyAt _ _ rfl)

/-- what the three events of a turn count down -/
theorem sessionCounts_eq {x : Events} (hmore : 0 < h.remaining) (hpos : 0 < h.count)
    (hhung : (h.polled IP_MSS x).hung = false) : h.sessionCounts IP_MSS x =
      reportOf .receiveSet h.sessionSocket h.rcv ++ (reportOf .sendSet h.sessionSocket h.snd ++
        reportOf .errorSet (h.polled IP_MSS x).sessionSocket h.err) := by
  unfold St.sessionCounts
  rw [if_neg (by omega)]
  dsimp only
  rw [(polled_eq hhung).1, if_neg Bool.false_ne_true, receive_socket]

theorem polled_count {x : Events} (hhung : (h.polled IP_MSS x).hung = false) :
    (h.polled IP_MSS x).count = h.count - ((reportOf .receiveSet h.sessionSocket h.rcv).length : Int) -
      ((reportOf .sendSet h.sessionSocket h.snd).length : Int) := by
  rw [(polled_eq hhung).2, event_count, event_count, sub_reportOf, sub_reportOf, isReady_eq, isReady_eq,
    receive_socket]

section
variable {x : Events} (hmore : 0 < h.remaining) (hpos : 0 < h.count) (hhung : (h.polled IP_MSS x).hung = false)
include hmore hpos hhung

/-- all of it belongs to the session at the iterator -/
theorem of_mem_sessionCounts {r : Report} (hr : r ∈ h.sessionCounts IP_MSS x) :
    h.sessionSocket = some r.2 ∧ r.2 ∈ h.reported r.1 := by
  obtain ⟨k, fd⟩ := r
  rw [sessionCounts_eq hmore hpos hhung] at hr
  rcases List.mem_append.mp hr with hr | hr
  · obtain ⟨rfl, h1, h2⟩ := mem_reportOf.mp hr
    exact ⟨h1, h2⟩
  rcases List.mem_append.mp hr with hr | hr
  · obtain ⟨rfl, h1, h2⟩ := mem_reportOf.mp hr
    exact ⟨h1, h2⟩
  · obtain ⟨rfl, h1, h2⟩ := mem_reportOf.mp hr
    rcases (polled_onlyAt hhung).socket with he | he
    · exact ⟨he ▸ h1, h2⟩
    · rw [he] at h1
      cases h1

/-- and it is all of its, if it is still open at the third event -/
theorem mem_sessionCounts (hcur : h.sessionSocket = some fd) (hfd : fd ∈ h.reported k)
    (herr : k = .errorSet → (h.polled IP_MSS x).isReady h.err = true) :
    (⟨k, fd⟩ : Report) ∈ h.sessionCounts IP_MSS x := by
  rw [sessionCounts_eq hmore hpos hhung]
  cases k with
  | receiveSet => exact List.mem_append_left _ (mem_reportOf.mpr ⟨rfl, hcur, hfd⟩)
  | sendSet => exact List.mem_append_right _ (List.mem_append_left _ (mem_reportOf.mpr ⟨rfl, hcur, hfd⟩))
  | errorSet =>
    refine List.mem_append_right _ (List.mem_append_right _ (mem_reportOf.mpr ⟨rfl, ?_, hfd⟩))
    have hready := herr rfl
    rcases (polled_onlyAt hhung).socket with he | he
    · exact he.trans hcur
    · rw [isReady_eq, he] at hready
      cases hready

/-- the three events are entered -/
theorem Counting.turnTally (hs : Counting h l) (hpc : h.pc = .sessions) :
    Tally h.reports (if (h.polled IP_MSS x).isReady h.err then (h.polled IP_MSS x).count - 1
      else (h.polled IP_MSS x).count) (l ++ h.sessionCounts IP_MSS x) := by
  have hcounts := sessionCounts_eq hmore hpos hhung
  have hcount := polled_count hhung
  have hlength : ((h.sessionCounts IP_MSS x).length : Int) =
      (reportOf .receiveSet h.sessionSocket h.rcv).length +
        ((reportOf .sendSet h.sessionSocket h.snd).length +
          (reportOf .errorSet (h.polled IP_MSS x).sessionSocket h.err).length) := by
    rw [hcounts, List.length_append, List.length_append]
    push_cast
    rfl
  have hn : h.count - ((h.sessionCounts IP_MSS x).length : Int) =
      (h.polled IP_MSS x).count -
        ((reportOf .errorSet (h.polled IP_MSS x).sessionSocket h.err).length : Int) := by omega
  rw [isReady_eq, ← sub_reportOf .errorSet, ← hn]
  refine hs.tally.enterAll ?_ fun r hr => ?_
  · rw [hcounts]
    refine List.nodup_append.mpr ⟨reportOf_nodup _ _ _, List.nodup_append.mpr ⟨reportOf_nodup _ _ _,
      reportOf_nodup _ _ _, fun a ha b hb he => ?_⟩, fun a ha b hb he => ?_⟩
    · have h1 := (mem_reportOf.mp ha).1
      rw [he, (mem_reportOf.mp hb).1] at h1
      cases h1
    · have h1 := (mem_reportOf.mp ha).1
      rw [he] at h1
      rcases List.mem_append.mp hb with hb | hb
      · rw [(mem_reportOf.mp hb).1] at h1
        cases h1
      · rw [(mem_reportOf.mp hb).1] at h1
        cases h1
  · obtain ⟨hcur, hreported⟩ := of_mem_sessionCounts hmore hpos hhung hr
    obtain ⟨d, hd, hsocket⟩ := Option.bind_eq_some_iff.mp hcur
    refine ⟨mem_reports.mpr hreported, hs.session hpos h.iterator d r.1 r.2 hd hsocket ?_⟩
    unfold St.aheadSession
    rw [hpc]
    exact decide_eq_true (le_refl _)

/-- the last turn that counts: nothing is missing behind it -/
theorem Counting.stays (hs : Counting h l) (hpc : h.pc = .sessions)
    (hready : (h.polled IP_MSS x).isReady h.err = false) (hok : Finishes IP_MSS h x) :
    Counting { h.polled IP_MSS x with remaining := h.remaining - 1 } (l ++ h.sessionCounts IP_MSS x) := by
  obtain ⟨hkept, hlast⟩ := hok hmore hpos hhung
  have htally := hs.turnTally hmore hpos hhung hpc
  rw [hready] at hkept hlast htally
  rw [if_neg Bool.false_ne_true] at htally
  have hzero : (h.polled IP_MSS x).count ≤ 0 := by
    by_cases hmany : 1 < h.remaining
    · by_contra hgt
      exact Bool.false_ne_true (hlast hmany (by omega))
    -- the session of the last turn is the only one that is left
    · refine htally.zero_iff.mpr ?_
      rintro ⟨k, fd⟩ hr
      rcases hs.due k fd (mem_reports.mp hr) with hl | ⟨j, t, _, _, hj, _⟩ | ⟨j, d, hd, hsocket, hj, hlt⟩
      · exact List.mem_append_left _ hl
      · unfold St.aheadTunnel at hj
        rw [hpc] at hj
        cases hj
      · unfold St.aheadSession at hj
        unfold St.endOfSessions at hlt
        rw [hpc] at hj
        rw [if_pos hpc] at hlt
        have hle := of_decide_eq_true hj
        have he : j = h.iterator := by omega
        subst he
        have hcur : h.sessionSocket = some fd := Option.bind_eq_some_iff.mpr ⟨d, hd, hsocket⟩
        have hfd := mem_reports.mp hr
        refine List.mem_append_right _ (mem_sessionCounts hmore hpos hhung hcur hfd ?_)
        rintro rfl
        refine absurd (hkept ?_) Bool.false_ne_true
        rw [isReady_eq, hcur]
        exact decide_eq_true hfd
  have hw := @polled_worked IP_MSS h x
  generalize h.polled IP_MSS x = g at htally hzero hw ⊢
  obtain ⟨_, _, _, _, _, _, _, _, rfl⟩ := hw
  exact .of_complete htally hzero hpc

end

/-- the session at the iterator, which is closed, moves to the end -/
theorem Counting.moveOn (hsock : Sockets h) (hs : Counting h l) (hpc : h.pc = .sessions) (hpos : 0 < h.count)
    {as : List Report} (hw : Worked { h with remaining := h.remaining - 1 } g)
    (hothers : ∀ j, j ≠ h.iterator → g.tcpSessions[j]? = h.tcpSessions[j]?) {d : Sessions2.Data}
    (hd : g.tcpSessions[h.iterator]? = some d) (hnone : d.socket = none)
    (htally : Tally h.reports g.count (l ++ as))
    (hall : ∀ k fd, h.sessionSocket = some fd → fd ∈ h.reported k → (⟨k, fd⟩ : Report) ∈ as)
    (hown : ∀ r ∈ as, h.sessionSocket = some r.2) : Counting (g.deactivateSession h.iterator) (l ++ as) := by
  rw [deactivateSession_eq hd]
  obtain ⟨ds, _, _, _, _, _, _, _, rfl⟩ := hw
  have hlt : h.iterator < ds.length := (List.getElem?_eq_some_iff.mp hd).1
  refine ⟨htally, fun h1 => ?_, fun k fd hfd => ?_, fun j t k fd _ _ hj => ?_,
    fun hpos' j e k fd he hsocket hj hr => ?_⟩
  · have h2 : h.pc = .packets ∨ h.pc = .tunnelRest := h1
    rw [hpc] at h2
    rcases h2 with h2 | h2 <;> cases h2
  · rcases hs.due k fd hfd with hl | ⟨j, t, _, _, hj, _⟩ | ⟨j, e, he, hsocket, hj, hend⟩
    · exact .inl (List.mem_append_left _ hl)
    · unfold St.aheadTunnel at hj
      rw [hpc] at hj
      cases hj
    · unfold St.aheadSession at hj
      unfold St.endOfSessions at hend
      rw [hpc] at hj
      rw [if_pos hpc] at hend
      have hle := of_decide_eq_true hj
      by_cases hcur : j = h.iterator
      · subst hcur
        refine .inl (List.mem_append_right _ (hall k fd ?_ hfd))
        exact Option.bind_eq_some_iff.mpr ⟨e, he, hsocket⟩
      · have he' : ds[j]? = some e := (hothers j hcur).trans he
        have hlen := (List.getElem?_eq_some_iff.mp he').1
        obtain ⟨h1, h2⟩ := @ahead_toEnd _ ds h.iterator d e j hlt he' (by omega)
        refine .inr (.inr ⟨j - 1, e, h1, hsocket, ?_, ?_⟩)
        · unfold St.aheadSession
          dsimp only
          rw [hpc]
          exact decide_eq_true h2
        · unfold St.endOfSessions
          rw [if_pos hpc]
          show j - 1 < St.nextIterator h.iterator ds.length + (h.remaining - 1)
          rw [nextIterator_of_lt (by omega)]
          omega
  · unfold St.aheadTunnel at hj
    dsimp only at hj
    rw [hpc] at hj
    cases hj
  · unfold St.aheadSession at hj
    dsimp only at hj
    rw [hpc] at hj
    rcases of_ahead_toEnd hlt he (of_decide_eq_true hj) with ⟨hge, he'⟩ | rfl
    · have he'' : h.tcpSessions[j + 1]? = some e := (hothers (j + 1) (by omega)).symm.trans he'
      rcases List.mem_append.mp hr with hl | hr
      · refine hs.session hpos (j + 1) e k fd he'' hsocket ?_ hl
        unfold St.aheadSession
        rw [hpc]
        exact decide_eq_true (by omega)
      · obtain ⟨d', hd', hsocket'⟩ := Option.bind_eq_some_iff.mp (hown _ hr)
        have hidx := hsock.session_index hd' he'' hsocket' hsocket
        omega
    · rw [hnone] at hsocket
      cases hsocket

/-- a session that was reported in `err` is closed and moves to the end -/
theorem Counting.leaves (hsock : Sockets h) (hs : Counting h l) (hpc : h.pc = .sessions) {x : Events}
    (hmore : 0 < h.remaining) (hpos : 0 < h.count) (hhung : (h.polled IP_MSS x).hung = false)
    (hready : (h.polled IP_MSS x).isReady h.err = true) :
    Counting ((({ h.polled IP_MSS x with remaining := h.remaining - 1 } : St).event IP_MSS true
      .onSocketError).deactivateSession h.iterator) (l ++ h.sessionCounts IP_MSS x) := by
  have hat := polled_onlyAt hhung
  have htally := hs.turnTally hmore hpos hhung hpc
  rw [if_pos hready] at htally
  obtain ⟨d, fd, hd, _, _⟩ := isReady_get hready
  have hsock' : Sockets { h.polled IP_MSS x with remaining := h.remaining - 1 } :=
    (polled_sockets hsock x).same rfl rfl rfl rfl
  have hless : Worked { h with remaining := h.remaining - 1 }
      { h.polled IP_MSS x with remaining := h.remaining - 1 } := by
    obtain ⟨_, _, _, _, _, _, _, hds, he⟩ := hat.worked
    rw [he]
    exact ⟨_, _, _, _, _, _, _, hds, rfl⟩
  have hothers := hat.others
  have hit := hat.iterator
  generalize hg : ({ h.polled IP_MSS x with remaining := h.remaining - 1 } : St) = g at hsock' hless
  have hgit : g.iterator = h.iterator := by rw [← hg]; exact hit
  have hgds : g.tcpSessions = (h.polled IP_MSS x).tcpSessions := by rw [← hg]
  have hgcount : g.count = (h.polled IP_MSS x).count := by rw [← hg]
  have hghung : ({ g with count := g.count - 1 } : St).hung = false := by rw [← hg]; exact hhung
  have hafter := @event_onlyAt IP_MSS g true .onSocketError rfl
  have hcount := @event_count IP_MSS g true .onSocketError
  rw [if_pos rfl, hgcount] at hcount
  rw [← hgds, hit, ← hgit] at hd
  obtain ⟨d', hd', hclosed⟩ := call_error IP_MSS hghung hd
  have hd'' : (g.event IP_MSS true .onSocketError).tcpSessions[h.iterator]? = some d' := by
    rw [← hgit]
    exact hd'
  have hnone : d'.socket = none :=
    (event_sockets hsock' true rfl).closed d' (List.mem_of_getElem? hd'') hclosed
  refine hs.moveOn hsock hpc hpos (hless.trans hafter.worked) (fun j hj => ?_) hd'' hnone
    (hcount.symm ▸ htally) (fun k fd hcur hfd => mem_sessionCounts hmore hpos hhung hcur hfd fun _ => hready)
    fun r hr => (of_mem_sessionCounts hmore hpos hhung hr).1
  rw [hafter.others j (hgit ▸ hj), hgds]
  exact hothers j hj

theorem sessionTurn_counting (hsock : Sockets h) (hs : Counting h l) (hpc : h.pc = .sessions) {x : Events}
    (hok : Finishes IP_MSS h x) (hhung' : (h.sessionTurn IP_MSS x).hung = false)
    (hin : inLoops (h.sessionTurn IP_MSS x).pc = true) :
    Counting (h.sessionTurn IP_MSS x) (l ++ h.sessionCounts IP_MSS x) := by
  rw [sessionTurn_eq] at hhung' hin ⊢
  by_cases hdone : h.remaining = 0 ∨ h.count ≤ 0
  · rw [if_pos hdone]
    have hnone : h.sessionCounts IP_MSS x = [] := if_pos hdone
    rw [hnone, List.append_nil]
    refine ⟨hs.tally, fun h1 => ?_, fun k fd hfd => .inl ?_, fun _ _ _ _ _ _ h1 => Bool.noConfusion h1,
      fun _ _ _ _ _ _ _ h1 => Bool.noConfusion h1⟩
    · rcases h1 with h1 | h1 <;> cases h1
    · rcases hs.due k fd hfd with hl | ⟨j, t, _, _, hj, _⟩ | ⟨j, d, _, _, hj, hlt⟩
      · exact hl
      · unfold St.aheadTunnel at hj
        rw [hpc] at hj
        cases hj
      · rcases hdone with hrem | hn
        · unfold St.aheadSession at hj
          unfold St.endOfSessions at hlt
          rw [hpc] at hj
          rw [if_pos hpc] at hlt
          have hle := of_decide_eq_true hj
          omega
        · exact hs.complete hn hfd
  rw [if_neg hdone] at hhung' hin ⊢
  have hmore : 0 < h.remaining := by omega
  have hpos : 0 < h.count := by omega
  by_cases hlen : h.tcpSessions.length ≤ h.iterator
  · rw [if_pos hlen] at hin
    cases hin
  rw [if_neg hlen] at hhung' hin ⊢
  by_cases hhung : (h.polled IP_MSS x).hung = true
  · rw [if_pos hhung] at hhung'
    exact absurd (hhung.symm.trans hhung') (by decide)
  rw [if_neg hhung]
  have hhung0 : (h.polled IP_MSS x).hung = false := by simpa using hhung
  split_ifs with hready
  · exact hs.leaves hsock hpc hmore hpos hhung0 hready
  · exact hs.stays hmore hpos hhung0 hpc (by simpa using hready) hok

/-! ## every step -/

theorem checkTunnel_pc (hpc : h.pc = .tickTunnels) (status : Bool) :
    inLoops (h.checkTunnel status).pc = false := by
  unfold St.checkTunnel
  by_cases hdone : h.remaining = 0
  · rw [if_pos hdone]
    rfl
  rw [if_neg hdone]
  cases h.tunnels[h.iterator]? with
  | none => rfl
  | some t =>
    cases status with
    | true => exact congrArg inLoops hpc
    | false => exact congrArg inLoops hpc

theorem checkTurn_pc (hpc : h.pc = .tickSessions) (ht : CheckTurn h h') : inLoops h'.pc = false := by
  cases ht with
  | done => rfl
  | past => rfl
  | @stays g _ hg =>
    show inLoops g.pc = false
    rw [hg.tunnels.2]
    exact congrArg inLoops hpc
  | @leaves g d _ hg =>
    rw [(deactivateSession_tunnels g h.iterator).2, hg.tunnels.2]
    exact congrArg inLoops hpc

theorem clockTurn_pc (h : St) (now : Int) : inLoops (h.clockTurn now).pc = false := by
  unfold St.clockTurn
  split_ifs
  · rfl
  · rfl

theorem activate_pc (h : St) : inLoops h.activate.pc = false := by
  unfold St.activate
  dsimp only
  split_ifs with hpast
  · rw [hpast]
    rfl
  · rfl

/-- A step of the thread, other than a call of `select`, is entered. -/
theorem thread_counting (hsock : Sockets h) (hs : inLoops h.pc = true → Counting h l)
    (hhung : h.hung = false) {i : Input} (hi : ∀ rcv snd err count, i ≠ .select rcv snd err count)
    (hok : Lasting IP_MSS h i) (hhung' : (h.thread IP_MSS i).hung = false)
    (hin : inLoops (h.thread IP_MSS i).pc = true) :
    Counting (h.thread IP_MSS i) (l ++ h.counts IP_MSS i) := by
  -- the thread is there, or the step changes nothing and counts nothing
  have ite : ∀ {c : Prop} [Decidable c] {g : St} {as : List Report}, (¬ c → as = []) →
      (if c then g else h).hung = false → inLoops (if c then g else h).pc = true →
      (c → g.hung = false → inLoops g.pc = true → Counting g (l ++ as)) →
      Counting (if c then g else h) (l ++ as) := by
    intro c _ g as hnone h1 h2 hg
    split_ifs at h1 h2 ⊢ with hc
    · exact hg hc h1 h2
    · rw [hnone hc, List.append_nil]
      exact hs h2
  -- the thread leaves the loops
  have leaves : ∀ {g : St} {as : List Report}, inLoops g.pc = false → inLoops g.pc = true →
      Counting g as := fun h1 h2 => absurd (h1.symm.trans h2) (by decide)
  cases i with
  | select rcv snd err count => exact absurd rfl (hi rcv snd err count)
  | exit => exact ite (fun _ => rfl) hhung' hin fun _ _ h2 => leaves rfl h2
  | activate => exact ite (fun _ => rfl) hhung' hin fun _ _ h2 => leaves (activate_pc h) h2
  | evaluate => exact ite (fun _ => rfl) hhung' hin fun _ _ h2 => leaves rfl h2
  | clock now => exact ite (fun _ => rfl) hhung' hin fun _ _ h2 => leaves (clockTurn_pc h now) h2
  | checkTunnel status =>
    exact ite (fun _ => rfl) hhung' hin fun hpc _ h2 => leaves (checkTunnel_pc hpc status) h2
  | checkSession now now' nowFlush turns =>
    exact ite (fun _ => rfl) hhung' hin fun hpc _ h2 =>
      leaves (checkTurn_pc hpc (@checkSession_turn IP_MSS h now now' nowFlush turns)) h2
  | tunnel =>
    refine ite (fun hpc => if_neg fun h1 => hpc h1.1) hhung' hin fun hpc _ h2 => ?_
    exact tunnelTurn_counting hsock (hs (by rw [hpc]; rfl)) hpc h2
  | tunnelRest =>
    refine ite (fun hpc => if_neg hpc) hhung' hin fun hpc _ h2 => ?_
    exact tunnelRest_counting hsock (hs (by rw [hpc]; rfl)) hpc h2
  | packet p i =>
    refine ite (fun _ => rfl) hhung' hin fun hpc _ _ => ?_
    show Counting _ (l ++ [])
    rw [List.append_nil]
    exact dispatch_counting hsock (hs (by rw [hpc]; rfl)) hpc (hok hpc hhung)
  | deleteTunnel id =>
    refine ite (fun _ => rfl) hhung' hin fun hpc _ h2 => ?_
    show Counting _ (l ++ [])
    rw [List.append_nil]
    exact onDeleteTunnelRequest_counting (hs (by rw [hpc]; rfl)) (hok hpc hhung) h2
  | packetsDone =>
    refine ite (fun _ => rfl) hhung' hin fun hpc _ _ => ?_
    show Counting _ (l ++ [])
    rw [List.append_nil]
    exact packetsDone_counting (hs (by rw [hpc]; rfl)) hpc
  | session x =>
    refine ite (fun hpc => if_neg hpc) hhung' hin fun hpc h1 h2 => ?_
    show Counting _ (l ++ if h.pc = .sessions then h.sessionCounts IP_MSS x else [])
    rw [if_pos hpc]
    exact sessionTurn_counting hsock (hs (by rw [hpc]; rfl)) hpc (hok hpc hhung) h1 h2
  | start tcpPacket =>
    show Counting h (l ++ [])
    rw [List.append_nil]
    exact hs hin
  | addTunnelSocket c =>
    show Counting h (l ++ [])
    rw [List.append_nil]
    exact hs hin
  | closeTunnel k =>
    show Counting h (l ++ [])
    rw [List.append_nil]
    exact hs hin

end

/-- what holds of a ledger between two steps, until the thread leaves the list of the tunnels or hangs -/
structure Entered (w : Ledger) : Prop where
  sockets : w.handler.pc ≠ .pastTunnels → Sockets w.handler
  counting : w.handler.pc ≠ .pastTunnels → w.handler.hung = false → w.succeeded = true →
    inLoops w.handler.pc = true → Counting w.handler w.counted

theorem step_hung (IP_MSS : U16) (h : St) (i : Input) (hhung : h.hung = true) :
    (step IP_MSS h i).hung = true := by
  have hthread : (if h.hung then h else h.thread IP_MSS i).hung = true := by
    rw [if_pos hhung]
    exact hhung
  cases i with
  | start tcpPacket =>
    unfold step
    dsimp only
    split_ifs
    · exact hhung
    · exact hhung
  | addTunnelSocket c =>
    unfold step St.addTunnelSocket
    dsimp only
    split_ifs
    · exact hhung
    · exact hhung
  | closeTunnel k => exact hhung
  | _ => exact hthread

theorem Reports.newSockets {IP_MSS : U16} {h : St} {i : Input} (hok : Reports IP_MSS h i) :
    NewSockets IP_MSS h i := by
  cases i with
  | select rcv snd err count => exact trivial
  | _ => exact hok

theorem ledger_step (IP_MSS : U16) (w : Ledger) (i : Input) :
    (w.step IP_MSS i).handler = step IP_MSS w.handler i := by
  unfold Ledger.step
  cases i <;> dsimp only <;> split_ifs <;> rfl

theorem step_entered {IP_MSS : U16} (w : Ledger) (i : Input) (hs : Entered w)
    (hok : Reports IP_MSS w.handler i ∧ Lasting IP_MSS w.handler i) : Entered (w.step IP_MSS i) := by
  obtain ⟨hreports, hlasting⟩ := hok
  obtain ⟨h, succeeded, l⟩ := w
  have hhandler : (Ledger.step IP_MSS ⟨h, succeeded, l⟩ i).handler = step IP_MSS h i :=
    ledger_step IP_MSS ⟨h, succeeded, l⟩ i
  have hbefore : (step IP_MSS h i).pc ≠ .pastTunnels → Sockets h :=
    fun hpast => hs.sockets fun h1 => hpast (step_past h i h1)
  have hcounting : (step IP_MSS h i).pc ≠ .pastTunnels → h.hung = false → succeeded = true →
      inLoops h.pc = true → Counting h l :=
    fun hpast => hs.counting fun h1 => hpast (step_past h i h1)
  refine ⟨fun hpast => ?_, fun hpast hhung' hsucc hin => ?_⟩
  · rw [hhandler] at hpast ⊢
    exact step_sockets h i (hbefore hpast) hreports.newSockets hpast
  rw [hhandler] at hpast hhung' hin ⊢
  have hsock := hbefore hpast
  have hhung : h.hung = false := by
    by_contra hne
    rw [step_hung IP_MSS h i (by simpa using hne)] at hhung'
    cases hhung'
  have hcount := hcounting hpast hhung
  -- every step of the thread but `select`
  have hthread : (∀ rcv snd err count, i ≠ .select rcv snd err count) → step IP_MSS h i = h.thread IP_MSS i →
      succeeded = true → Counting (step IP_MSS h i) (l ++ h.counts IP_MSS i) := by
    intro hi he hsucc
    rw [he] at hhung' hin ⊢
    exact thread_counting hsock (hcount hsucc) hhung hi hlasting hhung' hin
  have hrun : ∀ {g : St}, (if h.hung = true then h else g) = g := if_neg (by simp [hhung])
  have hentered : ∀ {g : St} {as : List Report}, (if h.hung = true then (⟨g, succeeded, l⟩ : Ledger) else
      ⟨g, succeeded, l ++ as⟩) = ⟨g, succeeded, l ++ as⟩ := if_neg (by simp [hhung])
  cases i with
  | select rcv snd err count =>
    unfold Ledger.step at hsucc ⊢
    dsimp only at hsucc ⊢
    have he : step IP_MSS h (.select rcv snd err count) =
        if h.pc = .selecting then h.selected rcv snd err count else h := hrun
    by_cases hpc : h.pc = .selecting
    · rw [if_pos hpc] at he
      rw [if_pos (show h.hung = false ∧ h.pc = .selecting from ⟨hhung, hpc⟩)] at hsucc ⊢
      rw [he]
      exact selected_counting hsock (hreports hpc hhung) (of_decide_eq_true hsucc)
        (hlasting hpc hhung (of_decide_eq_true hsucc))
    · rw [if_neg hpc] at he
      rw [if_neg (show ¬ (h.hung = false ∧ h.pc = .selecting) from fun h1 => hpc h1.2)] at hsucc ⊢
      rw [he] at hin ⊢
      exact hcount hsucc hin
  | start tcpPacket =>
    unfold Ledger.step at hsucc ⊢
    dsimp only at hsucc ⊢
    rw [hentered] at hsucc ⊢
    show Counting (if h.pc = .stopped then h.start tcpPacket else h) (l ++ [])
    have hin' : inLoops (if h.pc = .stopped then h.start tcpPacket else h).pc = true := hin
    split_ifs at hin' ⊢
    · cases hin'
    · rw [List.append_nil]
      exact hcount hsucc hin'
  | addTunnelSocket c =>
    unfold Ledger.step at hsucc ⊢
    dsimp only at hsucc ⊢
    rw [hentered] at hsucc ⊢
    show Counting (h.addTunnelSocket c).2 (l ++ [])
    have hin' : inLoops (h.addTunnelSocket c).2.pc = true := hin
    rw [List.append_nil]
    unfold St.addTunnelSocket at hin' ⊢
    split_ifs at hin' ⊢
    · exact hcount hsucc hin'
    · have h1 := hcount hsucc hin'
      exact ⟨h1.tally, h1.turn, h1.due, h1.tunnel, h1.session⟩
  | closeTunnel k =>
    unfold Ledger.step at hsucc ⊢
    dsimp only at hsucc ⊢
    rw [hentered] at hsucc ⊢
    show Counting _ (l ++ [])
    rw [List.append_nil]
    exact modify_counting (hcount hsucc hin) hlasting
  | _ =>
    unfold Ledger.step at hsucc ⊢
    dsimp only at hsucc ⊢
    rw [hentered] at hsucc ⊢
    refine hthread (fun _ _ _ _ => Input.noConfusion) hrun hsucc

/-! ## runs -/

/-- the ledger only watches -/
theorem ledger_handler (IP_MSS : U16) (w : Ledger) (inputs : List Input) :
    (run (Ledger.step IP_MSS) w inputs).handler = run (step IP_MSS) w.handler inputs := by
  induction inputs generalizing w with
  | nil => rfl
  | cons i inputs ih =>
    show (run _ (w.step IP_MSS i) inputs).handler = run _ (step IP_MSS w.handler i) inputs
    rw [ih, ledger_step]

theorem ledger_along {IP_MSS : U16} {ok : St → Input → Prop} {w : Ledger} {inputs : List Input}
    (h : Along (step IP_MSS) ok w.handler inputs) :
    Along (Ledger.step IP_MSS) (fun w i => ok w.handler i) w inputs := by
  induction inputs generalizing w with
  | nil => trivial
  | cons i inputs ih =>
    refine ⟨h.1, ih ?_⟩
    rw [ledger_step]
    exact h.2

/-- **Behind the loops `count` is zero.**  As long as nothing is lost between a call of `select` and
the loops, and each turn of the loop over the sessions but the last one ends with a session that fails,
everything that was reported was counted down, once, when the thread reads the clock. -/
theorem count_is_zero (IP_MSS : U16) (lastTimeSentAcknowledge : Int) (tcpPacket : Sessions2.Packet)
    {inputs : List Input}
    (hinputs : Along (step IP_MSS) (fun h i => Reports IP_MSS h i ∧ Lasting IP_MSS h i)
      (.init ⟨fun _ => ∅, lastTimeSentAcknowledge⟩ tcpPacket) inputs) :
    let h := run (step IP_MSS) (.init ⟨fun _ => ∅, lastTimeSentAcknowledge⟩ tcpPacket) inputs
    let w := run (Ledger.step IP_MSS) (.init ⟨fun _ => ∅, lastTimeSentAcknowledge⟩ tcpPacket) inputs
    h.pc = .clock → h.hung = false → w.succeeded = true →
    h.count = 0 ∧ w.counted.Nodup ∧ ∀ k fd, (⟨k, fd⟩ : Report) ∈ w.counted ↔ fd ∈ h.reported k := by
  intro h w hpc hhung hsucc
  have hw : w.handler = h := ledger_handler IP_MSS _ inputs
  have h0 : Entered (.init ⟨fun _ => ∅, lastTimeSentAcknowledge⟩ tcpPacket) := by
    refine ⟨fun _ => ⟨List.nodup_nil, fun k fd hfd => ?_, fun d hd => ?_⟩, fun _ _ h1 => ?_⟩
    · exact absurd hfd (Finset.notMem_empty fd)
    · cases hd
    · cases h1
  have hledger := @ledger_along IP_MSS _ (.init ⟨fun _ => ∅, lastTimeSentAcknowledge⟩ tcpPacket) _ hinputs
  have hs : Entered w := run_inv Entered step_entered h0 hledger
  have hc : Counting h w.counted := by
    rw [← hw] at hpc hhung ⊢
    exact hs.counting (by rw [hpc]; decide) hhung hsucc (by rw [hpc]; rfl)
  have hall : ∀ k fd, fd ∈ h.reported k → (⟨k, fd⟩ : Report) ∈ w.counted := by
    intro k fd hfd
    rcases hc.due k fd hfd with hl | ⟨j, t, _, _, hj, _⟩ | ⟨j, d, _, _, hj, _⟩
    · exact hl
    · unfold St.aheadTunnel at hj
      rw [hpc] at hj
      cases hj
    · unfold St.aheadSession at hj
      rw [hpc] at hj
      cases hj
  refine ⟨le_antisymm (hc.tally.zero_iff.mpr ?_) hc.tally.nonneg, hc.tally.nodup,
    fun k fd => ⟨fun hr => mem_reports.mp (hc.tally.sound _ hr), hall k fd⟩⟩
  rintro ⟨k, fd⟩ hr
  exact hall k fd (mem_reports.mp hr)

open Sessions2 (uploadSyn synPacket resetPacket clientA serverA connected)

/-- the sockets of two sessions fail, and the thread comes to the clock -/
def bothCounted : List Input := bothFail ++ [.session noEvents, .session noEvents]

theorem count_is_zero_both_fail :
    let h := run (step 576) (.init ⟨fun _ => ∅, 0⟩ uploadSyn) bothCounted
    let w := run (Ledger.step 576) (.init ⟨fun _ => ∅, 0⟩ uploadSyn) bothCounted
    h.count = 0 ∧ w.counted.Nodup ∧ ∀ k fd, (⟨k, fd⟩ : Report) ∈ w.counted ↔ fd ∈ h.reported k :=
  @count_is_zero 576 0 uploadSyn bothCounted (by decide) (by decide) (by decide) (by decide)

/-- the tunnel and the socket of a session are ready, and the tunnel brings the client's reset -/
def resetBetween : List Input :=
  firstPackets ++ [.packet (synPacket clientA serverA 100 1000) connected] ++ restOfTunnels ++ [.clock 0] ++
  [.activate, .evaluate, .select {3} ∅ {5} 2, .tunnel, .packet (resetPacket clientA serverA 101) connected] ++
  restOfTunnels ++ [.session noEvents]

/-- The session closes in the loop over the tunnels: its descriptor is never counted down. -/
theorem count_is_not_zero :
    ¬ ∀ (IP_MSS : U16) (lastTimeSentAcknowledge : Int) (tcpPacket : Sessions2.Packet) (inputs : List Input),
      Along (step IP_MSS) (Reports IP_MSS) (.init ⟨fun _ => ∅, lastTimeSentAcknowledge⟩ tcpPacket) inputs →
      let h := run (step IP_MSS) (.init ⟨fun _ => ∅, lastTimeSentAcknowledge⟩ tcpPacket) inputs
      let w := run (Ledger.step IP_MSS) (.init ⟨fun _ => ∅, lastTimeSentAcknowledge⟩ tcpPacket) inputs
      h.pc = .clock → h.hung = false → w.succeeded = true →
      h.count = 0 ∧ w.counted.Nodup ∧ ∀ k fd, (⟨k, fd⟩ : Report) ∈ w.counted ↔ fd ∈ h.reported k := by
  intro h
  obtain ⟨hzero, _⟩ := h 576 0 uploadSyn resetBetween (by decide) (by decide) (by decide) (by decide)
  revert hzero
  decide

end TunServer.Handler
