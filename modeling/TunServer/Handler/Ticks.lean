import TunServer.Base.Sweep
import TunServer.Handler.Loop

/-!
# The ticks

Every `TICK_DELAY` the thread checks its tunnels and then its sessions.  Both loops go through the open
elements in front, and move those that fail to the end of the list while they do.

* `tunnelVisit`, `sessionVisit`   what a turn visits;
* `tunnelTick`, `sessionTick`     the loops;
* `AtTunnels`, `AtSessions`       where they are;
* `ticks_partition`               what they leave.
-/

set_option linter.unusedVariables false

namespace TunServer.Handler

/-! ## the visits -/

/-- the tunnel that a turn checks, and what it is after that -/
def tunnelVisit (h : St) : Input → List (Visit Tunnel)
  | .checkTunnel status =>
    if h.hung = false ∧ h.pc = .tickTunnels ∧ h.remaining ≠ 0 then
      match h.tunnels[h.iterator]? with
      | some t => [⟨t, status, if status then t else { t with active := false }⟩]
      | none => []
    else []
  | _ => []

/-- the session that a turn checks: one that passes is flushed -/
def sessionVisit (IP_MSS : U16) (h : St) : Input → List (Visit Sessions2.Data)
  | .checkSession now now' nowFlush turns =>
    if h.hung = false ∧ h.pc = .tickSessions ∧ h.remaining ≠ 0 then
      match h.tcpSessions[h.iterator]? with
      | some d =>
        let r := (h.sessionAt d).checkStatus now now'
        [⟨d, r.1, if r.1 then (Sessions2.step IP_MSS r.2 (.flushDataToClient nowFlush turns)).data
          else r.2.data⟩]
      | none => []
    else []
  | _ => []

/-- the clock in a turn of the loop that checks the sessions -/
structure Clocks where
  now : Int
  now' : Int
  nowFlush : Int
  turns : Nat

def Clocks.input (c : Clocks) : Input := .checkSession c.now c.now' c.nowFlush c.turns

/-- the loop that checks the tunnels -/
def tunnelTick (IP_MSS : U16) (h : St) (status : List Bool) : St :=
  run (step IP_MSS) h (status.map .checkTunnel)

def tunnelVisits (IP_MSS : U16) (h : St) (status : List Bool) : List (Visit Tunnel) :=
  yields (step IP_MSS) tunnelVisit h (status.map .checkTunnel)

/-- the loop that checks the sessions -/
def sessionTick (IP_MSS : U16) (h : St) (clocks : List Clocks) : St :=
  run (step IP_MSS) h (clocks.map Clocks.input)

def sessionVisits (IP_MSS : U16) (h : St) (clocks : List Clocks) : List (Visit Sessions2.Data) :=
  yields (step IP_MSS) (sessionVisit IP_MSS) h (clocks.map Clocks.input)

section
variable (IP_MSS : U16) {h₀ h : St}

/-! ## the tunnels -/

/-- the loop over the tunnels of `h₀` has made the visits `vs` -/
structure AtTunnels (h₀ h : St) (vs : List (Visit Tunnel)) : Prop where
  pc : h.pc = .tickTunnels
  hung : h.hung = false
  sweep : Sweep h₀.tunnels h₀.openTunnelsCount vs h.tunnels h.iterator h.remaining
  counted : h.openTunnelsCount + (moved vs).length = h₀.openTunnelsCount
  after : ∀ v ∈ vs, v.after = if v.passed then v.before else { v.before with active := false }
  sessions : h.tcpSessions = h₀.tcpSessions ∧ h.openTCPSessionsCount = h₀.openTCPSessionsCount

theorem tunnel_turn {vs : List (Visit Tunnel)} (hs : AtTunnels h₀ h vs)
    (hn : h₀.openTunnelsCount ≤ h₀.tunnels.length) (hr : h.remaining ≠ 0) (status : Bool) :
    ∃ v, tunnelVisit h (.checkTunnel status) = [v] ∧ v.passed = status ∧
      AtTunnels h₀ (step IP_MSS h (.checkTunnel status)) (vs ++ [v]) := by
  have hget := hs.sweep.get hr hn
  obtain ⟨t, ht, -⟩ := hs.sweep.todo hr hn
  rw [ht] at hget
  have hstep : step IP_MSS h (.checkTunnel status) = h.checkTunnel status := by
    show (if h.hung then h else if h.pc = .tickTunnels then h.checkTunnel status else h) = _
    rw [if_neg (by rw [hs.hung]; decide), if_pos hs.pc]
  have hvisit : tunnelVisit h (.checkTunnel status) =
      [⟨t, status, if status then t else { t with active := false }⟩] := by
    unfold tunnelVisit
    dsimp only
    rw [if_pos ⟨hs.hung, hs.pc, hr⟩, hget]
  refine ⟨_, hvisit, rfl, ?_⟩
  rw [hstep]
  unfold St.checkTunnel
  rw [if_neg hr, hget]
  have hcount := hs.counted
  have hafter : ∀ v ∈ vs ++ [⟨t, status, if status then t else { t with active := false }⟩],
      v.after = if v.passed then v.before else { v.before with active := false } := by
    intro v hv
    rcases List.mem_append.mp hv with hv | hv
    · exact hs.after v hv
    · rw [List.mem_singleton.mp hv]
  cases status with
  | true =>
    refine ⟨hs.pc, hs.hung, hs.sweep.pass_same hr hn hget, ?_, hafter, hs.sessions⟩
    rw [if_pos rfl, moved_snoc]
    exact hcount
  | false =>
    have hsw := hs.sweep.fail hr hn hget { t with active := false }
    have hrem := hs.sweep.counted
    have hadd := kept_add_moved vs
    refine ⟨hs.pc, hs.hung, hsw, ?_, hafter, hs.sessions⟩
    show h.openTunnelsCount - 1 + (moved (vs ++ [⟨t, false, _⟩])).length = h₀.openTunnelsCount
    rw [moved_snoc_failed, List.length_append, List.length_singleton]
    omega

theorem tunnel_turns {vs : List (Visit Tunnel)} (hs : AtTunnels h₀ h vs)
    (hn : h₀.openTunnelsCount ≤ h₀.tunnels.length) (status : List Bool)
    (hl : status.length ≤ h.remaining) :
    AtTunnels h₀ (tunnelTick IP_MSS h status) (vs ++ tunnelVisits IP_MSS h status) ∧
      (tunnelVisits IP_MSS h status).map Visit.passed = status := by
  induction status generalizing h vs with
  | nil => exact ⟨(List.append_nil vs).symm ▸ hs, rfl⟩
  | cons b status ih =>
    rw [List.length_cons] at hl
    obtain ⟨v, hv, hb, hs'⟩ := tunnel_turn IP_MSS hs hn (by omega) b
    have hrem := hs.sweep.counted
    have hrem' := hs'.sweep.counted
    rw [List.length_append, List.length_singleton] at hrem'
    obtain ⟨h1, h2⟩ := ih hs' (by omega)
    have hvisits : tunnelVisits IP_MSS h (b :: status) =
        v :: tunnelVisits IP_MSS (step IP_MSS h (.checkTunnel b)) status := by
      show tunnelVisit h (.checkTunnel b) ++ _ = _
      rw [hv]
      rfl
    rw [hvisits]
    refine ⟨?_, ?_⟩
    · rw [List.append_assoc] at h1
      exact h1
    · rw [List.map_cons, hb, h2]

/-! ## the sessions -/

/-- the loop over the sessions of `h₀` has made the visits `vs` -/
structure AtSessions (h₀ h : St) (vs : List (Visit Sessions2.Data)) : Prop where
  pc : h.pc = .tickSessions
  sweep : Sweep h₀.tcpSessions h₀.openTCPSessionsCount vs h.tcpSessions h.iterator h.remaining
  counted : h.openTCPSessionsCount + (moved vs).length = h₀.openTCPSessionsCount

theorem session_turn {vs : List (Visit Sessions2.Data)} (hs : AtSessions h₀ h vs)
    (hhung : h.hung = false) (hn : h₀.openTCPSessionsCount ≤ h₀.tcpSessions.length)
    (hr : h.remaining ≠ 0) (c : Clocks) :
    ∃ v, sessionVisit IP_MSS h c.input = [v] ∧
      AtSessions h₀ (step IP_MSS h c.input) (vs ++ [v]) := by
  have hget := hs.sweep.get hr hn
  obtain ⟨d, hd, -⟩ := hs.sweep.todo hr hn
  rw [hd] at hget
  have hlt := (List.getElem?_eq_some_iff.mp hget).1
  have hstep : step IP_MSS h c.input = h.checkSession IP_MSS c.now c.now' c.nowFlush c.turns := by
    show (if h.hung then h else if h.pc = .tickSessions then _ else h) = _
    rw [if_neg (by rw [hhung]; decide), if_pos hs.pc]
  have hvisit : sessionVisit IP_MSS h c.input = [⟨d, ((h.sessionAt d).checkStatus c.now c.now').1,
      if ((h.sessionAt d).checkStatus c.now c.now').1 then
        (Sessions2.step IP_MSS ((h.sessionAt d).checkStatus c.now c.now').2
          (.flushDataToClient c.nowFlush c.turns)).data
      else ((h.sessionAt d).checkStatus c.now c.now').2.data⟩] := by
    unfold sessionVisit Clocks.input
    dsimp only
    rw [if_pos ⟨hhung, hs.pc, hr⟩, hget]
  refine ⟨_, hvisit, ?_⟩
  rw [hstep]
  unfold St.checkSession
  rw [if_neg hr, hget]
  dsimp only
  have hcount := hs.counted
  generalize (h.sessionAt d).checkStatus c.now c.now' = r
  -- the session is at the iterator again after `checkStatus`
  have hput : (h.tcpSessions.set h.iterator r.2.data)[h.iterator]? = some r.2.data :=
    List.getElem?_set_self hlt
  obtain ⟨passed, s⟩ := r
  cases passed with
  | true =>
    let g : St := { h.put h.iterator d s with remaining := h.remaining - 1 }
    let u := Sessions2.step IP_MSS s (.flushDataToClient c.nowFlush c.turns)
    have hcall : g.call IP_MSS h.iterator (.flushDataToClient c.nowFlush c.turns) =
        g.put h.iterator s.data u := by
      unfold St.call
      rw [show g.tcpSessions[h.iterator]? = some s.data from hput]
      rfl
    have hsw := hs.sweep.pass hr hn hget u.data
    rw [if_pos rfl]
    show AtSessions h₀ { g.call IP_MSS h.iterator _ with iterator := h.iterator + 1 } _
    rw [hcall]
    refine ⟨hs.pc, ?_, ?_⟩
    · show Sweep _ _ _ ((h.tcpSessions.set h.iterator s.data).set h.iterator u.data) _ _
      rw [List.set_set]
      exact hsw
    · rw [if_pos rfl, moved_snoc]
      exact hcount
  | false =>
    let g : St := { h.put h.iterator d s with remaining := h.remaining - 1 }
    have hlen : (h.tcpSessions.set h.iterator s.data).length = h.tcpSessions.length :=
      List.length_set
    have hdeact : g.deactivateSession h.iterator = { g with
        tcpSessions := toEnd h.tcpSessions h.iterator s.data
        openTCPSessionsCount := h.openTCPSessionsCount - 1
        iterator := St.nextIterator h.iterator h.tcpSessions.length } := by
      unfold St.deactivateSession
      rw [show g.tcpSessions[h.iterator]? = some s.data from hput]
      show ({ g with
        tcpSessions := toEnd (h.tcpSessions.set h.iterator s.data) h.iterator s.data
        openTCPSessionsCount := h.openTCPSessionsCount - 1
        iterator := St.nextIterator h.iterator (h.tcpSessions.set h.iterator s.data).length } : St) = _
      rw [hlen, toEnd_set]
    have hsw := hs.sweep.fail hr hn hget s.data
    have hrem := hs.sweep.counted
    have hadd := kept_add_moved vs
    rw [if_neg Bool.false_ne_true, if_neg Bool.false_ne_true]
    show AtSessions h₀ (g.deactivateSession h.iterator) _
    rw [hdeact]
    refine ⟨hs.pc, hsw, ?_⟩
    show h.openTCPSessionsCount - 1 + (moved (vs ++ [⟨d, false, _⟩])).length = _
    rw [moved_snoc_failed, List.length_append, List.length_singleton]
    omega

/-- a thread that does not come back from a flush makes no turn any more -/
theorem session_turn_hung (hhung : h.hung = true) (c : Clocks) :
    step IP_MSS h c.input = h ∧ sessionVisit IP_MSS h c.input = [] := by
  constructor
  · show (if h.hung then h else _) = h
    rw [if_pos hhung]
  · unfold sessionVisit Clocks.input
    dsimp only
    rw [if_neg fun hc => by rw [hhung] at hc; cases hc.1]

theorem sessionTick_hung (clocks : List Clocks) (hhung : h.hung = true) :
    sessionTick IP_MSS h clocks = h ∧ sessionVisits IP_MSS h clocks = [] := by
  induction clocks with
  | nil => exact ⟨rfl, rfl⟩
  | cons c clocks ih =>
    obtain ⟨hstep, hvisit⟩ := session_turn_hung IP_MSS hhung c
    constructor
    · show sessionTick IP_MSS (step IP_MSS h c.input) clocks = h
      rw [hstep]
      exact ih.1
    · show sessionVisit IP_MSS h c.input ++ sessionVisits IP_MSS (step IP_MSS h c.input) clocks = []
      rw [hvisit, hstep]
      exact ih.2

theorem session_turns {vs : List (Visit Sessions2.Data)} (hs : AtSessions h₀ h vs)
    (hn : h₀.openTCPSessionsCount ≤ h₀.tcpSessions.length) (clocks : List Clocks)
    (hl : clocks.length ≤ h.remaining) :
    AtSessions h₀ (sessionTick IP_MSS h clocks) (vs ++ sessionVisits IP_MSS h clocks) ∧
      ((sessionTick IP_MSS h clocks).hung = false →
        (sessionVisits IP_MSS h clocks).length = clocks.length) := by
  induction clocks generalizing h vs with
  | nil => exact ⟨(List.append_nil vs).symm ▸ hs, fun _ => rfl⟩
  | cons c clocks ih =>
    rw [List.length_cons] at hl
    cases hhung : h.hung with
    | true =>
      obtain ⟨hstay, hnone⟩ := sessionTick_hung IP_MSS (c :: clocks) hhung
      rw [hstay, hnone, List.append_nil]
      exact ⟨hs, fun hback => absurd (hhung.symm.trans hback) (by decide)⟩
    | false =>
      obtain ⟨v, hv, hs'⟩ := session_turn IP_MSS hs hhung hn (by omega) c
      have hrem := hs.sweep.counted
      have hrem' := hs'.sweep.counted
      rw [List.length_append, List.length_singleton] at hrem'
      obtain ⟨h1, h2⟩ := ih hs' (by omega)
      have hvisits : sessionVisits IP_MSS h (c :: clocks) =
          v :: sessionVisits IP_MSS (step IP_MSS h c.input) clocks := by
        show sessionVisit IP_MSS h c.input ++ _ = _
        rw [hv]
        rfl
      rw [hvisits]
      refine ⟨?_, fun hback => ?_⟩
      · rw [List.append_assoc] at h1
        exact h1
      · rw [List.length_cons, List.length_cons, h2 hback]

/-! ## one tick -/

/-- the loop over the tunnels is about to begin -/
theorem clock_tunnels {now : Int} (hpc : h.pc = .clock) (hhung : h.hung = false)
    (hdue : TICK_DELAY < now - h.lastTickTime) :
    AtTunnels h (step IP_MSS h (.clock now)) [] ∧
      (step IP_MSS h (.clock now)).remaining = h.openTunnelsCount := by
  have hstep : step IP_MSS h (.clock now) = { h with
      lastTickTime := now
      iterator := 0
      remaining := h.openTunnelsCount
      pc := .tickTunnels } := by
    show (if h.hung then h else if h.pc = .clock then h.clockTurn now else h) = _
    rw [if_neg (by rw [hhung]; decide), if_pos hpc]
    exact if_pos hdue
  rw [hstep]
  exact ⟨⟨rfl, hhung, Sweep.start _ _, rfl, fun v hv => absurd hv List.not_mem_nil, rfl, rfl⟩, rfl⟩

/-- behind it the loop over the sessions begins -/
theorem tunnels_sessions {vs : List (Visit Tunnel)} (hs : AtTunnels h₀ h vs) (hr : h.remaining = 0)
    (status : Bool) : AtSessions h₀ (step IP_MSS h (.checkTunnel status)) [] ∧
      (step IP_MSS h (.checkTunnel status)).remaining = h₀.openTCPSessionsCount := by
  obtain ⟨hlist, hcount⟩ := hs.sessions
  have hstep : step IP_MSS h (.checkTunnel status) =
      { h with iterator := 0, remaining := h.openTCPSessionsCount, pc := .tickSessions } := by
    show (if h.hung then h else if h.pc = .tickTunnels then h.checkTunnel status else h) = _
    rw [if_neg (by rw [hs.hung]; decide), if_pos hs.pc]
    exact if_pos hr
  rw [hstep]
  refine ⟨⟨rfl, ?_, hcount⟩, hcount⟩
  show Sweep h₀.tcpSessions h₀.openTCPSessionsCount [] h.tcpSessions 0 h.openTCPSessionsCount
  rw [hlist, hcount]
  exact Sweep.start _ _

/-- **Deactivation passes are stable partitions.**  In a tick `h₁` is the state behind the loop over the
tunnels, whatever `checkStatus` says of each, and `h₂` the state in front of the loop over the
sessions.  No turn uses the end of a list; the loops visit the open elements once each, in order,
and no other; and they leave those that passed in front, those that were not open behind them, and
those that failed at the end, each in its order.  A thread that does not come back from the flush of
a session has got so far. -/
theorem ticks_partition {now : Int} {status : List Bool} {b : Bool} {clocks : List Clocks} {h₁ h₂ : St}
    (hpc : h.pc = .clock) (hhung : h.hung = false) (hdue : TICK_DELAY < now - h.lastTickTime)
    (htunnels : h.openTunnelsCount ≤ h.tunnels.length)
    (hsessions : h.openTCPSessionsCount ≤ h.tcpSessions.length)
    (hstatus : status.length = h.openTunnelsCount) (hclocks : clocks.length = h.openTCPSessionsCount)
    (h1 : h₁ = tunnelTick IP_MSS (step IP_MSS h (.clock now)) status)
    (h2 : h₂ = step IP_MSS h₁ (.checkTunnel b)) :
    (h₁.pc = .tickTunnels ∧ h₁.remaining = 0 ∧
      (tunnelVisits IP_MSS (step IP_MSS h (.clock now)) status).map Visit.passed = status ∧
      (∀ v ∈ tunnelVisits IP_MSS (step IP_MSS h (.clock now)) status,
        v.after = if v.passed then v.before else { v.before with active := false }) ∧
      Partitioned h.tunnels h.openTunnelsCount
        (tunnelVisits IP_MSS (step IP_MSS h (.clock now)) status) h₁.tunnels h₁.openTunnelsCount) ∧
    AtSessions h (sessionTick IP_MSS h₂ clocks) (sessionVisits IP_MSS h₂ clocks) ∧
    ((sessionTick IP_MSS h₂ clocks).hung = false → (sessionTick IP_MSS h₂ clocks).remaining = 0 ∧
      Partitioned h.tcpSessions h.openTCPSessionsCount (sessionVisits IP_MSS h₂ clocks)
        (sessionTick IP_MSS h₂ clocks).tcpSessions
        (sessionTick IP_MSS h₂ clocks).openTCPSessionsCount) := by
  obtain ⟨hat, hrem⟩ := clock_tunnels IP_MSS hpc hhung hdue
  obtain ⟨ht, hpassed⟩ := tunnel_turns IP_MSS hat htunnels status (by rw [hrem, hstatus])
  rw [List.nil_append, ← h1] at ht
  have hlen := congrArg List.length hpassed
  rw [List.length_map] at hlen
  have hzero : h₁.remaining = 0 := by
    have hcount := ht.sweep.counted
    omega
  have hdone := ht.sweep
  rw [hzero] at hdone
  obtain ⟨hsat, hsrem⟩ := tunnels_sessions IP_MSS ht hzero b
  rw [← h2] at hsat hsrem
  obtain ⟨hse, hslen⟩ := session_turns IP_MSS hsat hsessions clocks (by rw [hsrem, hclocks])
  rw [List.nil_append] at hse
  refine ⟨⟨ht.pc, hzero, hpassed, ht.after, hdone.done htunnels ht.counted⟩, hse, fun hback => ?_⟩
  have hszero : (sessionTick IP_MSS h₂ clocks).remaining = 0 := by
    have hcount := hse.sweep.counted
    have hall := hslen hback
    omega
  have hsdone := hse.sweep
  rw [hszero] at hsdone
  exact ⟨hszero, hsdone.done hsessions hse.counted⟩

end

/-- three tunnels, two of them open, and one open session -/
def atClock : St :=
  { St.init ⟨fun _ => ∅, 0⟩ ⟨⟨1, 1⟩, ⟨2, 2⟩, .syn 0 0, 0, 0, [], noBytes_lt⟩ with
    tunnels := [.new 1 5, .new 2 6, { Tunnel.new 3 7 with active := false }]
    openTunnelsCount := 2
    tcpSessions := [Sessions2.Data.init 1000]
    openTCPSessionsCount := 1
    pc := .clock }

/-- the first tunnel fails -/
theorem ticks_partition_first_fails : Partitioned atClock.tunnels 2
    (tunnelVisits 1000 (step 1000 atClock (.clock 30000000)) [false, true])
    (tunnelTick 1000 (step 1000 atClock (.clock 30000000)) [false, true]).tunnels
    (tunnelTick 1000 (step 1000 atClock (.clock 30000000)) [false, true]).openTunnelsCount :=
  (@ticks_partition 1000 atClock 30000000 [false, true] true [⟨0, 0, 0, 0⟩] _ _ rfl rfl (by decide)
    (by decide) (by decide) rfl rfl rfl rfl).1.2.2.2.2

end TunServer.Handler
