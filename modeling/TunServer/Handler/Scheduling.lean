import TunServer.Handler.Routing

/-!
# The sessions that are looked after

The loops look at the first `openTCPSessionsCount` sessions of the list only.

* `Scheduled`     the live sessions are among these, and the loops come to each of them;
* `reopensBehind` a packet opens a closed session that stands behind them;
* `Counted`       the condition that no packet does;
* `Advances`      the condition that the loop over the sessions comes to the next one;
* `all_scheduled` what they are good for.
-/

set_option linter.unusedVariables false

namespace TunServer.Handler

/-- what holds between two steps -/
structure Scheduled (h : St) : Prop where
  /-- a live session is among those that are looked after -/
  front : Within Live h.openTCPSessionsCount h.tcpSessions
  length : h.openTCPSessionsCount ≤ h.tcpSessions.length
  polling : h.pc = .sessions → h.remaining ≤ h.openTCPSessionsCount ∧ (0 < h.remaining → h.iterator = 0)
  /-- the turns that are left when the sessions are checked are for the sessions that are left -/
  checking : h.pc = .tickSessions → 0 < h.remaining → h.iterator + h.remaining = h.openTCPSessionsCount
  inside : h.pc ≠ .pastSessions

/-- the turns that are left when the sessions are polled are for the sessions that are left -/
def Polling (h : St) : Prop :=
  h.pc = .sessions → 0 < h.remaining → 0 < h.count → h.iterator + h.remaining = h.openTCPSessionsCount

/-! ## the conditions -/

/-- the session that takes the packet is closed, stands behind those that are looked after, and is
opened by it -/
def reopensBehind (h : St) (p : Sessions2.Packet) (i : Sessions2.ClientInput) : Bool :=
  match h.tcpSessions.findIdx? (Sessions2.canHandle · p) with
  | some j => h.openTCPSessionsCount ≤ j ∧ (h.tcpSessions[j]?).any (Sessions2.opens · p i)
  | none => false

/-- the condition on a step for the front -/
def Counted (h : St) : Input → Prop
  | .packet p i => h.pc = .packets → h.hung = false → reopensBehind h p.val i = false
  | _ => True

instance (h : St) : ∀ i, Decidable (Counted h i)
  | .packet p i => inferInstanceAs (Decidable (_ → _ → _))
  | .start _ | .addTunnelSocket _ | .closeTunnel _ | .exit | .activate | .evaluate | .select _ _ _ _
  | .tunnel | .deleteTunnel _ | .packetsDone | .tunnelRest | .session _ | .clock _ | .checkTunnel _
  | .checkSession _ _ _ _ => .isTrue trivial

/-- the condition on a step for the loop over the sessions: a turn that is not the last finds its
socket in `err` -/
def Advances (IP_MSS : U16) (h : St) : Input → Prop
  | .session x => h.pc = .sessions → h.hung = false → 1 < h.remaining → 0 < h.count →
      (h.polled IP_MSS x).hung = false → 0 < (h.polled IP_MSS x).count →
        (h.polled IP_MSS x).isReady h.err = true
  | _ => True

instance (IP_MSS : U16) (h : St) : ∀ i, Decidable (Advances IP_MSS h i)
  | .session x => inferInstanceAs (Decidable (_ → _ → _ → _ → _ → _ → _))
  | .start _ | .addTunnelSocket _ | .closeTunnel _ | .exit | .activate | .evaluate | .select _ _ _ _
  | .tunnel | .packet _ _ | .deleteTunnel _ | .packetsDone | .tunnelRest | .clock _ | .checkTunnel _
  | .checkSession _ _ _ _ => .isTrue trivial

section
variable {IP_MSS : U16} {h h' : St}

/-! ## sessions that grow older -/

theorem Older.within {n : Nat} {ds es : List Sessions2.Data} (ho : Older ds es)
    (hw : Within Live n ds) : Within Live n es :=
  hw.forall₂ (ho.imp fun _ _ hage hlive => (hage hlive).1)

/-- calls of sessions leave the counts and the loops alone -/
theorem Worked.scheduled {g : St} (hw : Worked h g) (hs : Scheduled h) : Scheduled g := by
  obtain ⟨ds, _, _, _, _, _, _, hds, rfl⟩ := hw
  exact ⟨hds.within hs.front, hds.length_eq ▸ hs.length, hs.polling, hs.checking, hs.inside⟩

theorem deactivateSession_front {k : Nat} {d : Sessions2.Data} (hs : Scheduled h)
    (hd : h.tcpSessions[k]? = some d) (hclosed : d.state = .CLOSED) (hk : k < h.openTCPSessionsCount) :
    Within Live (h.openTCPSessionsCount - 1) (toEnd h.tcpSessions k d) ∧
      h.openTCPSessionsCount - 1 ≤ (toEnd h.tcpSessions k d).length := by
  have hlt := (List.getElem?_eq_some_iff.mp hd).1
  have hlen := hs.length
  refine ⟨hs.front.toEnd hlt hk (fun hlive => hlive hclosed), ?_⟩
  rw [length_toEnd hlt]
  omega

theorem deactivateSession_eq {k : Nat} {d : Sessions2.Data} (hd : h.tcpSessions[k]? = some d) :
    h.deactivateSession k = { h with
      tcpSessions := toEnd h.tcpSessions k d
      openTCPSessionsCount := h.openTCPSessionsCount - 1
      iterator := St.nextIterator k h.tcpSessions.length } := by
  unfold St.deactivateSession
  rw [hd]

/-! ## the steps -/

theorem sessionTurn_scheduled {x : Events} (hpc : h.pc = .sessions) (hs : Scheduled h)
    (ht : SessionTurn IP_MSS h x h') : Scheduled h' := by
  obtain ⟨hle, hzero⟩ := hs.polling hpc
  have hlen := hs.length
  have hpolled : Scheduled (h.polled IP_MSS x) := (polled_worked h x).scheduled hs
  have hsame : (h.polled IP_MSS x).pc = h.pc ∧ (h.polled IP_MSS x).iterator = h.iterator ∧
      (h.polled IP_MSS x).openTCPSessionsCount = h.openTCPSessionsCount := by
    obtain ⟨_, _, _, _, _, _, _, _, he⟩ := @polled_worked IP_MSS h x
    rw [he]
    exact ⟨rfl, rfl, rfl⟩
  obtain ⟨hpc', hit, hcount⟩ := hsame
  cases ht with
  | done => exact ⟨hs.front, hs.length, Pc.noConfusion, Pc.noConfusion, Pc.noConfusion⟩
  | past hmore _ hpast =>
    have h1 := hzero hmore
    omega
  | hangs => exact hpolled
  | stays hmore =>
    refine ⟨hpolled.front, hpolled.length, fun _ => ⟨?_, fun hr => ?_⟩, fun h1 => ?_, hpolled.inside⟩
    · show h.remaining - 1 ≤ (h.polled IP_MSS x).openTCPSessionsCount
      omega
    · exact hit.trans (hzero hmore)
    · have h2 : (h.polled IP_MSS x).pc = .tickSessions := h1
      rw [hpc', hpc] at h2
      cases h2
  | @leaves g d hmore _ herr hw hcount hd hclosed =>
    have h1 := hzero hmore
    have hg : Scheduled g := hw.scheduled
      ⟨hs.front, hs.length, fun _ => ⟨Nat.le_trans (Nat.sub_le _ _) hle, fun _ => h1⟩,
        fun h2 => Pc.noConfusion (hpc.symm.trans h2), hs.inside⟩
    have hloop : g.pc = h.pc ∧ g.remaining = h.remaining - 1 ∧
        g.openTCPSessionsCount = h.openTCPSessionsCount ∧ g.tcpSessions.length = h.tcpSessions.length := by
      obtain ⟨ds, _, _, _, _, _, _, hds, rfl⟩ := hw
      exact ⟨rfl, rfl, rfl, hds.length_eq.symm⟩
    obtain ⟨hp, hr, hc, hl⟩ := hloop
    rw [deactivateSession_eq hd]
    obtain ⟨h3, h4⟩ := deactivateSession_front hg hd hclosed (by omega)
    refine ⟨h3, h4, fun _ => ⟨?_, fun hrem => ?_⟩, fun h5 => ?_, hg.inside⟩
    · show g.remaining ≤ g.openTCPSessionsCount - 1
      omega
    · have h5 : 0 < g.remaining := hrem
      show St.nextIterator h.iterator g.tcpSessions.length = 0
      rw [nextIterator_of_lt (by omega)]
      exact h1
    · have h6 : g.pc = .tickSessions := h5
      rw [hp, hpc] at h6
      cases h6

theorem checkTurn_scheduled (hpc : h.pc = .tickSessions) (hs : Scheduled h) (ht : CheckTurn h h') :
    Scheduled h' := by
  have hchk := hs.checking hpc
  have hlen := hs.length
  have hless : ∀ g, Worked { h with remaining := h.remaining - 1 } g → 0 < h.remaining →
      Within Live g.openTCPSessionsCount g.tcpSessions ∧ g.openTCPSessionsCount ≤ g.tcpSessions.length ∧
      g.pc = h.pc ∧ g.remaining = h.remaining - 1 ∧ g.openTCPSessionsCount = h.openTCPSessionsCount := by
    rintro g ⟨ds, _, _, _, _, _, _, hds, rfl⟩ _
    exact ⟨hds.within hs.front, hds.length_eq ▸ hs.length, rfl, rfl, rfl⟩
  cases ht with
  | done => exact ⟨hs.front, hs.length, Pc.noConfusion, Pc.noConfusion, Pc.noConfusion⟩
  | past hmore hd =>
    have h1 := hchk hmore
    rw [List.getElem?_eq_none_iff] at hd
    omega
  | @stays g hmore hw =>
    obtain ⟨h1, h2, h3, h4, h5⟩ := hless g hw hmore
    have h6 := hchk hmore
    refine ⟨h1, h2, fun h7 => ?_, fun _ hr => ?_, ?_⟩
    · have h8 : g.pc = .sessions := h7
      rw [h3, hpc] at h8
      cases h8
    · show h.iterator + 1 + g.remaining = g.openTCPSessionsCount
      omega
    · show g.pc ≠ .pastSessions
      rw [h3, hpc]
      exact Pc.noConfusion
  | @leaves g d hmore hw hd hclosed =>
    obtain ⟨h1, h2, h3, h4, h5⟩ := hless g hw hmore
    have h6 := hchk hmore
    have hlt := (List.getElem?_eq_some_iff.mp hd).1
    rw [deactivateSession_eq hd]
    refine ⟨h1.toEnd hlt (by omega) (fun hlive => hlive hclosed), ?_, fun h7 => ?_, fun _ hr => ?_, ?_⟩
    · show g.openTCPSessionsCount - 1 ≤ (toEnd g.tcpSessions h.iterator d).length
      rw [length_toEnd hlt]
      omega
    · have h8 : g.pc = .sessions := h7
      rw [h3, hpc] at h8
      cases h8
    · have hr' : 0 < g.remaining := hr
      show St.nextIterator h.iterator g.tcpSessions.length + g.remaining = g.openTCPSessionsCount - 1
      rw [nextIterator_of_lt (by omega)]
      omega
    · show g.pc ≠ .pastSessions
      rw [h3, hpc]
      exact Pc.noConfusion

theorem createSession_count (h : St) (p : Sessions2.Packet) (i : Sessions2.ClientInput) :
    (h.createSession IP_MSS p i).openTCPSessionsCount = h.openTCPSessionsCount +
      if Live (Sessions2.receiveFromClient IP_MSS (h.sessionAt (.init IP_MSS)) p i).2.data then 1 else 0 := by
  unfold St.createSession
  by_cases hlive : (Sessions2.receiveFromClient IP_MSS (h.sessionAt (.init IP_MSS)) p i).2.data.state ≠
      .CLOSED
  · rw [if_pos (show Live _ from hlive)]
    dsimp only
    rw [if_pos hlive]
    rfl
  · rw [if_neg (show ¬ Live _ from hlive)]
    dsimp only
    rw [if_neg hlive]
    rfl

theorem createSession_pc (h : St) (p : Sessions2.Packet) (i : Sessions2.ClientInput) :
    (h.createSession IP_MSS p i).pc = h.pc := by
  unfold St.createSession
  dsimp only
  split_ifs
  · rfl
  · rfl

/-- a packet opens a session in front, or a new one behind sessions that are all live -/
theorem dispatched_scheduled {p : Sessions2.Incoming} {i : Sessions2.ClientInput}
    (hpc : h.pc = .packets) (hs : Scheduled h) (hfront : reopensBehind h p.val i = false)
    (hd : Dispatched IP_MSS h p.val i h') : Scheduled h' := by
  have hlen := hs.length
  have away : ∀ {g : St}, g.pc = h.pc → (g.pc = .sessions → False) ∧ (g.pc = .tickSessions → False) ∧
      g.pc ≠ .pastSessions := by
    intro g hg
    rw [hg, hpc]
    exact ⟨Pc.noConfusion, Pc.noConfusion, Pc.noConfusion⟩
  cases hd with
  | @taken j d hj hcan hbefore =>
    have hlt := (List.getElem?_eq_some_iff.mp hj).1
    obtain ⟨a1, a2, a3⟩ := away (g := h.put j d
      (Sessions2.receiveFromClient IP_MSS (h.sessionAt d) p.val i).2) rfl
    refine ⟨hs.front.set hj fun hlive => ?_, ?_, fun h1 => (a1 h1).elim, fun h1 => (a2 h1).elim, a3⟩
    · by_cases hd : Live d
      · exact .inl hd
      · right
        have hclosed : d.state = .CLOSED := not_not.mp hd
        have hlife := Sessions2.receiveFromClient_life IP_MSS (h.sessionAt d) p i
        obtain ⟨p', i', hop, hopens⟩ := hlife.opener hclosed hlive
        cases hop
        have hfind : h.tcpSessions.findIdx? (Sessions2.canHandle · p.val) = some j := by
          rw [List.findIdx?_eq_some_iff_getElem]
          obtain ⟨_, hget⟩ := List.getElem?_eq_some_iff.mp hj
          refine ⟨hlt, by rw [hget]; exact hcan, fun k hk => ?_⟩
          rw [hbefore k hk _ (List.getElem?_eq_getElem (by omega))]
          decide
        unfold reopensBehind at hfront
        rw [hfind] at hfront
        dsimp only at hfront
        rw [hj, decide_eq_false_iff_not, not_and] at hfront
        by_contra hge
        exact hfront (by omega) hopens
    · show h.openTCPSessionsCount ≤ (h.tcpSessions.set j _).length
      rw [List.length_set]
      exact hlen
  | created hnone =>
    have hall : ∀ d ∈ h.tcpSessions, Live d := by
      intro d hd hclosed
      have h1 := hnone d hd
      rw [(Sessions2.canHandle_iff d p.val).mpr (.inl hclosed)] at h1
      cases h1
    have hle := hs.front.all hall
    obtain ⟨a1, a2, a3⟩ := away (createSession_pc h p.val i)
    refine ⟨?_, ?_, fun h1 => (a1 h1).elim, fun h1 => (a2 h1).elim, a3⟩
    · rw [createSession_count, createSession_sessions]
      refine (hs.front.mono (Nat.le_add_right _ _)).append fun hlive => ?_
      rw [if_pos hlive]
      omega
    · rw [createSession_count, createSession_sessions, List.length_append, List.length_singleton]
      split_ifs
      · omega
      · omega
  | dropped => exact hs

theorem step_scheduled (h : St) (i : Input) (hs : Scheduled h) (hok : Counted h i) :
    Scheduled (step IP_MSS h i) := by
  have ht := step_turn IP_MSS h i
  generalize step IP_MSS h i = h' at ht
  cases ht with
  | apart ha hl =>
    have hfront : Within Live h'.openTCPSessionsCount h'.tcpSessions := by
      rw [ha.tcpSessions, ha.openTCPSessionsCount]
      exact hs.front
    have hlen : h'.openTCPSessionsCount ≤ h'.tcpSessions.length := by
      rw [ha.tcpSessions, ha.openTCPSessionsCount]
      exact hs.length
    cases hl with
    | still hpc hit hrem hcount =>
      refine ⟨hfront, hlen, fun h1 => ?_, fun h1 => ?_, ?_⟩
      · rw [hit, hrem, ha.openTCPSessionsCount]
        exact hs.polling (hpc.symm.trans h1)
      · rw [hit, hrem, ha.openTCPSessionsCount]
        exact hs.checking (hpc.symm.trans h1)
      · rw [hpc]
        exact hs.inside
    | away h1 h2 h3 => exact ⟨hfront, hlen, fun h4 => absurd h4 h1, fun h4 => absurd h4 h2, h3⟩
    | enters hit hrem h3 =>
      refine ⟨hfront, hlen, fun _ => ⟨hrem.le, fun _ => hit⟩, fun _ _ => ?_, h3⟩
      rw [hit, hrem, Nat.zero_add]
  | packet hpc hhung hd => exact dispatched_scheduled hpc hs (hok hpc hhung) hd
  | session hpc hhung ht => exact sessionTurn_scheduled hpc hs ht
  | check hpc hhung ht => exact checkTurn_scheduled hpc hs ht

/-! ## polling -/

theorem sessionTurn_polling {x : Events} (hpc : h.pc = .sessions) (hhung : h.hung = false)
    (hs : Scheduled h) (hp : Polling h) (hok : Advances IP_MSS h (.session x))
    (ht : SessionTurn IP_MSS h x h') : Polling h' := by
  obtain ⟨hle, hzero⟩ := hs.polling hpc
  have hlen := hs.length
  have hsame : (h.polled IP_MSS x).iterator = h.iterator ∧ (h.polled IP_MSS x).remaining = h.remaining ∧
      (h.polled IP_MSS x).openTCPSessionsCount = h.openTCPSessionsCount := by
    obtain ⟨_, _, _, _, _, _, _, _, he⟩ := @polled_worked IP_MSS h x
    rw [he]
    exact ⟨rfl, rfl, rfl⟩
  obtain ⟨hit, hrem, hcount⟩ := hsame
  cases ht with
  | done => exact fun h1 => Pc.noConfusion h1
  | past => exact fun h1 => Pc.noConfusion h1
  | hangs hmore hpos =>
    intro _ _ _
    rw [hit, hrem, hcount]
    exact hp hpc hmore hpos
  | stays hmore hpos hopen herr =>
    intro _ hr hc
    have hr' : 0 < h.remaining - 1 := hr
    have h1 := hok hpc hhung (by omega) hpos hopen hc
    rw [herr] at h1
    cases h1
  | @leaves g d hmore hpos herr hw _ hd hclosed =>
    have h1 := hp hpc hmore hpos
    have hloop : g.remaining = h.remaining - 1 ∧ g.openTCPSessionsCount = h.openTCPSessionsCount ∧
        g.tcpSessions.length = h.tcpSessions.length := by
      obtain ⟨ds, _, _, _, _, _, _, hds, rfl⟩ := hw
      exact ⟨rfl, rfl, hds.length_eq.symm⟩
    obtain ⟨hr, hc, hl⟩ := hloop
    rw [deactivateSession_eq hd]
    intro _ hr' _
    have hr'' : 0 < g.remaining := hr'
    show St.nextIterator h.iterator g.tcpSessions.length + g.remaining = g.openTCPSessionsCount - 1
    rw [nextIterator_of_lt (by omega)]
    omega

theorem step_polling (h : St) (i : Input) (hs : Scheduled h) (hp : Polling h)
    (hok : Advances IP_MSS h i) : Polling (step IP_MSS h i) := by
  have ht := step_turn IP_MSS h i
  generalize step IP_MSS h i = h' at ht
  cases ht with
  | apart ha hl =>
    cases hl with
    | still hpc hit hrem hcount =>
      intro h1 h2 h3
      rw [hit, hrem, ha.openTCPSessionsCount]
      exact hp (hpc.symm.trans h1) (hrem ▸ h2) (hcount ▸ h3)
    | away h1 => exact fun h2 => absurd h2 h1
    | enters hit hrem =>
      intro _ _ _
      rw [hit, hrem, Nat.zero_add]
  | packet hpc hhung hd =>
    have hpc' : h'.pc = .packets := by
      cases hd with
      | taken => exact hpc
      | created => exact (createSession_pc _ _ _).trans hpc
      | dropped => exact hpc
    exact fun h1 => Pc.noConfusion (hpc'.symm.trans h1)
  | session hpc hhung ht => exact sessionTurn_polling hpc hhung hs hp hok ht
  | check hpc hhung ht =>
    intro h1
    cases ht with
    | done => cases h1
    | past => cases h1
    | @stays g hmore hw =>
      obtain ⟨_, _, _, _, _, _, _, _, rfl⟩ := hw
      exact Pc.noConfusion (hpc.symm.trans h1)
    | @leaves g d hmore hw hd hclosed =>
      rw [deactivateSession_eq hd] at h1
      obtain ⟨_, _, _, _, _, _, _, _, rfl⟩ := hw
      exact Pc.noConfusion (hpc.symm.trans h1)

end

/-! ## runs -/

/-- **No session escapes the scheduler.**  As long as no packet opens a closed session behind those
that are looked after, every live session is among these, and the loop that checks and flushes them
comes to each.  If moreover the loop over the sessions comes to the next one, it polls each of them. -/
theorem all_scheduled (IP_MSS : U16) (shared : Sessions2.Shared) (tcpPacket : Sessions2.Packet)
    (inputs : List Input) :
    let h := run (step IP_MSS) (St.init shared tcpPacket) inputs
    (Along (step IP_MSS) Counted (St.init shared tcpPacket) inputs → Scheduled h) ∧
    (Along (step IP_MSS) (fun h i => Counted h i ∧ Advances IP_MSS h i) (St.init shared tcpPacket) inputs →
      Polling h) := by
  have h0 : Scheduled (St.init shared tcpPacket) :=
    ⟨Within.nil, Nat.zero_le _, Pc.noConfusion, Pc.noConfusion, Pc.noConfusion⟩
  constructor
  · intro hok
    exact run_inv Scheduled step_scheduled h0 hok
  · intro hok
    have h1 := run_inv (fun h => Scheduled h ∧ Polling h)
      (fun h i hs hok => ⟨step_scheduled h i hs.1 hok.1, step_polling h i hs.1 hs.2 hok.2⟩)
      ⟨h0, Pc.noConfusion⟩ hok
    exact h1.2

open Sessions2 (synPacket resetPacket clientA serverA connected unwatched uploadSyn)

/-- nothing happens to the socket of a session -/
def noEvents : Events := ⟨.wouldBlock, 0, 1, 0, .wouldBlock, 0, 0⟩

/-- the packets of the only tunnel are done, and no session is polled -/
def restOfTunnels : List Input := [.packetsDone, .tunnelRest, .tunnel, .session noEvents]

/-- the thread goes on to `select`, which reports the tunnel or not -/
def nextSelect (rcv err : Finset Nat) (count : Int) : List Input :=
  [.activate, .evaluate, .select rcv ∅ err count, .tunnel]

/-- two clients connect, and the sockets of both sessions fail -/
def bothFail : List Input :=
  firstPackets ++ twoClients ++ restOfTunnels ++ [.clock 0] ++ nextSelect ∅ {5, 6} 2 ++
    [.tunnelRest, .tunnel, .session noEvents]

theorem all_scheduled_both_fail :
    Scheduled (run (step 576) (St.init unwatched uploadSyn) bothFail) ∧
      Polling (run (step 576) (St.init unwatched uploadSyn) bothFail) := by
  obtain ⟨h1, h2⟩ := all_scheduled 576 unwatched uploadSyn bothFail
  exact ⟨h1 (by decide), h2 (by decide)⟩

/-- A session is opened and reset, the next check takes it out of the front, and another client is
served by its object. -/
def reopened : List Input :=
  firstPackets ++ [.packet (synPacket clientA serverA 100 1000) connected,
    .packet (resetPacket clientA serverA 101) connected] ++ restOfTunnels ++
  [.clock 1000000000, .checkTunnel true, .checkTunnel true, .checkSession 0 0 0 1, .checkSession 0 0 0 1] ++
  nextSelect {3} ∅ 1 ++ [.packet (synPacket clientB serverB 200 1000) connected] ++ restOfTunnels ++
  [.clock 1000000000, .activate, .evaluate]

theorem not_all_scheduled :
    ¬ ∀ (IP_MSS : U16) (shared : Sessions2.Shared) (tcpPacket : Sessions2.Packet) (inputs : List Input),
      let h := run (step IP_MSS) (St.init shared tcpPacket) inputs
      h.pc = .selecting → Within Live h.openTCPSessionsCount h.tcpSessions := by
  intro h
  have hopen : ((run (step 576) (St.init unwatched uploadSyn) reopened).tcpSessions[0]?).any
      (fun d => decide (Live d)) = true := by decide
  obtain ⟨d, hd, hlive⟩ := (Option.any_eq_true _ _).mp hopen
  have h1 := h 576 unwatched uploadSyn reopened (by decide) 0 d hd (of_decide_eq_true hlive)
  revert h1
  decide

end TunServer.Handler
