import TunServer.Handler.Candidates
import TunServer.Handler.Threads

/-!
# The steps of the handler, made by its threads

In `World` a critical section is one move, and the thread of the handler is in the middle of none between
two moves.  Each of these moves is a run of the threads, the mutexes and the flags.

* `Regular`     what holds of the handler between two moves, and `Turned` what a step in a turn does;
* `Matches`     the threads are where the handler is, with no mutex held;
* `matched`     every run of the handler is a run of the threads.
-/

set_option linter.unusedVariables false

namespace TunServer.Handler

/-! ## the steps of a turn -/

/-- the thread is behind the head of its loop -/
def Pc.inTurn : Pc → Bool
  | .stopped | .waiting => false
  | _ => true

/-- A step that is no move of its own: nothing of what the threads see changes, or it is one of a turn, in
which the thread stays, or which it ends. -/
inductive Turned (h h' : St) : Prop where
  | stays (hpc : h'.pc = h.pc) (hhung : h'.hung = h.hung) (hopen : h'.openTunnelsCount = h.openTunnelsCount)
  | goes (hin : h.pc.inTurn = true) (hhung : h.hung = false) (hin' : h'.pc.inTurn = true)
  | ends (hin : h.pc.inTurn = true) (hhung : h.hung = false) (hpc : h'.pc = .waiting)
      (hhung' : h'.hung = false)

section
variable {IP_MSS : U16} {h : St}

theorem tunnelTurn_inTurn : h.tunnelTurn.pc.inTurn = true := by
  unfold St.tunnelTurn
  split_ifs
  · rfl
  · cases h.tunnels[h.iterator]? with
    | none => rfl
    | some t =>
      dsimp only
      split_ifs <;> rfl

theorem tunnelRest_inTurn : h.tunnelRest.pc.inTurn = true := by
  unfold St.tunnelRest
  cases h.tunnels[h.iterator]? with
  | none => rfl
  | some t =>
    dsimp only
    split_ifs <;> rfl

theorem onDeleteTunnelRequest_inTurn (hin : h.pc.inTurn = true) (id : U32) :
    (h.onDeleteTunnelRequest id).pc.inTurn = true := by
  unfold St.onDeleteTunnelRequest
  cases (h.tunnels.take h.openTunnelsCount).findIdx? fun t => t.id = id with
  | some k => exact hin
  | none =>
    dsimp only
    split_ifs
    · rfl
    · exact hin

theorem checkTunnel_inTurn (hin : h.pc.inTurn = true) (status : Bool) :
    (h.checkTunnel status).pc.inTurn = true := by
  unfold St.checkTunnel
  by_cases hdone : h.remaining = 0
  · rw [if_pos hdone]
    rfl
  rw [if_neg hdone]
  cases h.tunnels[h.iterator]? with
  | none => rfl
  | some t => cases status <;> exact hin

theorem sessionTurn_inTurn {x : Events} (hin : h.pc.inTurn = true) {h' : St}
    (ht : SessionTurn IP_MSS h x h') : h'.pc.inTurn = true := by
  obtain ⟨_, hp⟩ := (@polled_worked IP_MSS h x).tunnels
  cases ht with
  | done | past => rfl
  | hangs | stays => exact (congrArg Pc.inTurn hp).trans hin
  | @leaves g d _ _ _ hw =>
    have h1 := (deactivateSession_tunnels g h.iterator).2.trans hw.tunnels.2
    exact (congrArg Pc.inTurn h1).trans hin

theorem checkTurn_inTurn (hin : h.pc.inTurn = true) (hhung : h.hung = false) {h' : St}
    (ht : CheckTurn h h') : h'.pc.inTurn = true ∨ h'.pc = .waiting ∧ h'.hung = false := by
  cases ht with
  | done => exact .inr ⟨rfl, hhung⟩
  | past => exact .inl rfl
  | @stays g _ hw => exact .inl ((congrArg Pc.inTurn hw.tunnels.2).trans hin)
  | @leaves g d _ hw =>
    have h1 := (deactivateSession_tunnels g h.iterator).2.trans hw.tunnels.2
    exact .inl ((congrArg Pc.inTurn h1).trans hin)

/-- from a turn to a turn, or to the head of the loop -/
theorem thread_inTurn (hin : h.pc.inTurn = true) (hhung : h.hung = false) (i : Input) :
    (h.thread IP_MSS i).pc.inTurn = true ∨
      (h.thread IP_MSS i).pc = .waiting ∧ (h.thread IP_MSS i).hung = false := by
  have ite {c : Prop} [Decidable c] {g : St}
      (hg : g.pc.inTurn = true ∨ g.pc = .waiting ∧ g.hung = false) :
      (if c then g else h).pc.inTurn = true ∨
        (if c then g else h).pc = .waiting ∧ (if c then g else h).hung = false := by
    split_ifs
    · exact hg
    · exact .inl hin
  have no {pc : Pc} {g : St} (hpc : pc.inTurn = false) : (if h.pc = pc then g else h) = h :=
    if_neg fun e => by rw [e, hpc] at hin; cases hin
  cases i with
  | exit =>
    unfold St.thread
    dsimp only
    rw [no rfl]
    exact .inl hin
  | activate =>
    have hw : ¬ (h.pc = .waiting ∧ h.pred = true) := fun e => by rw [e.1] at hin; cases hin
    unfold St.thread
    dsimp only
    rw [if_neg hw]
    exact .inl hin
  | evaluate | select rcv snd err count | packetsDone => exact ite (.inl rfl)
  | tunnel => exact ite (.inl tunnelTurn_inTurn)
  | packet p i =>
    obtain ⟨_, hpc, _⟩ := dispatched_tunnels (@dispatch_dispatched IP_MSS h p.val i)
    exact ite (.inl ((congrArg Pc.inTurn hpc).trans hin))
  | deleteTunnel id => exact ite (.inl (onDeleteTunnelRequest_inTurn hin id))
  | tunnelRest => exact ite (.inl tunnelRest_inTurn)
  | session x => exact ite (.inl (sessionTurn_inTurn hin (@sessionTurn_turn IP_MSS h x)))
  | clock now =>
    refine ite ?_
    unfold St.clockTurn
    split_ifs
    · exact .inl rfl
    · exact .inr ⟨rfl, hhung⟩
  | checkTunnel status => exact ite (.inl (checkTunnel_inTurn hin status))
  | checkSession now now' nowFlush turns =>
    exact ite (checkTurn_inTurn hin hhung (@checkSession_turn IP_MSS h now now' nowFlush turns))
  | start tcpPacket => exact .inl hin
  | addTunnelSocket c => exact .inl hin
  | closeTunnel k => exact .inl hin

/-- at the head of the loop, and behind its end, the thread makes no step but the two moves of its own -/
theorem thread_waits (hin : h.pc.inTurn = false) {i : Input} (hexit : i ≠ .exit) (hactivate : i ≠ .activate) :
    h.thread IP_MSS i = h := by
  have no {pc : Pc} {g : St} (hpc : pc.inTurn = true) : (if h.pc = pc then g else h) = h :=
    if_neg fun e => by rw [e, hpc] at hin; cases hin
  cases i with
  | exit => exact absurd rfl hexit
  | activate => exact absurd rfl hactivate
  | start tcpPacket => rfl
  | addTunnelSocket c => rfl
  | closeTunnel k => rfl
  | _ => exact no rfl

/-- every step but those that are moves of their own -/
theorem step_turned {i : Input} (hstart : ∀ p, i ≠ .start p) (hexit : i ≠ .exit) (hactivate : i ≠ .activate)
    (hadd : ∀ c, i ≠ .addTunnelSocket c) : Turned h (step IP_MSS h i) := by
  have thread : Turned h (if h.hung then h else h.thread IP_MSS i) := by
    split_ifs with hhung
    · exact .stays rfl rfl rfl
    have hhung : h.hung = false := by simpa using hhung
    by_cases hin : h.pc.inTurn = true
    · rcases @thread_inTurn IP_MSS h hin hhung i with hin' | ⟨hpc, hhung'⟩
      · exact .goes hin hhung hin'
      · exact .ends hin hhung hpc hhung'
    · rw [thread_waits (by simpa using hin) hexit hactivate]
      exact .stays rfl rfl rfl
  cases i with
  | start p => exact absurd rfl (hstart p)
  | addTunnelSocket c => exact absurd rfl (hadd c)
  | closeTunnel k => exact .stays rfl rfl rfl
  | _ => exact thread

end

/-! ## between two moves -/

/-- A call that does not return is one in a turn; and a thread that has decided to go on has something to
do. -/
structure Regular (w : World) : Prop where
  hung : w.handler.hung = true → w.handler.pc.inTurn = true
  goesOn : w.goesOn = true → w.handler.pc = .waiting ∧ w.handler.pred = true

section
variable {IP_MSS : U16} {w : World}

theorem regular_init (shared : Sessions2.Shared) (tcpPacket : Sessions2.Packet) :
    Regular (World.init shared tcpPacket) := by
  constructor
  · exact fun h => by cases h
  · exact fun h => by cases h

/-- the head of the loop is not in a turn -/
theorem Regular.not_hung (h : Regular w) (hin : w.handler.pc.inTurn = false) : w.handler.hung = false := by
  by_contra hc
  have h1 := h.hung (by simpa using hc)
  rw [hin] at h1
  cases h1

theorem Regular.not_goesOn (h : Regular w) (hpc : w.handler.pc ≠ .waiting) : w.goesOn = false := by
  by_contra hc
  exact hpc (h.goesOn (by simpa using hc)).1

theorem pred_append {h : St} {c : TunnelCandidate} (hpred : h.pred = true) :
    (h.addTunnelSocket c).2.pred = true := by
  unfold St.addTunnelSocket
  split_ifs
  · exact hpred
  · exact decide_eq_true (.inr (by simp))

theorem regular_turned (h : Regular w) {h' : St} (ht : Turned w.handler h')
    (hcs : h'.tunnelCandidates = w.handler.tunnelCandidates) : Regular { w with handler := h' } := by
  cases ht with
  | stays hpc hhung hopen =>
    constructor
    · intro hc
      show h'.pc.inTurn = true
      rw [hpc]
      exact h.hung (hhung ▸ hc)
    · intro hc
      obtain ⟨h1, h2⟩ := h.goesOn hc
      refine ⟨hpc.trans h1, ?_⟩
      show h'.pred = true
      unfold St.pred
      rw [hopen, hcs]
      exact h2
  | goes hin hhung hin' =>
    refine ⟨fun _ => hin', fun hc => ?_⟩
    rw [(h.goesOn hc).1] at hin
    cases hin
  | ends hin hhung hpc hhung' =>
    refine ⟨fun hc => absurd (hhung'.symm.trans hc) (by decide), fun hc => ?_⟩
    rw [(h.goesOn hc).1] at hin
    cases hin

/-- a step of the thread, or of its surroundings, that is no move of its own -/
theorem handlerStep_other {i : Input} (hstart : ∀ p, i ≠ .start p) (hactivate : i ≠ .activate) :
    w.handlerStep IP_MSS i = w ∨ w.handlerStep IP_MSS i = { w with handler := step IP_MSS w.handler i } ∧
      Turned w.handler (step IP_MSS w.handler i) ∧
      (step IP_MSS w.handler i).tunnelCandidates = w.handler.tunnelCandidates := by
  cases i with
  | exit => exact .inl rfl
  | addTunnelSocket c => exact .inl rfl
  | activate => exact absurd rfl hactivate
  | start p => exact absurd rfl (hstart p)
  | _ =>
    refine .inr ⟨rfl, step_turned hstart Input.noConfusion hactivate fun _ => Input.noConfusion, ?_⟩
    exact (step_runsOn _ Input.noConfusion hactivate fun _ => Input.noConfusion).candidates

theorem step_exit (h : Regular w) (hpc : w.handler.pc = .waiting) :
    step IP_MSS w.handler .exit = { w.handler with pc := .stopped } := by
  show (if w.handler.hung then w.handler else if w.handler.pc = .waiting then _ else _) = _
  rw [if_neg (by rw [h.not_hung (by rw [hpc]; rfl)]; decide), if_pos hpc]

/-- the thread begins its turn -/
theorem step_activate (h : Regular w) (hgo : w.goesOn = true) :
    step IP_MSS w.handler .activate = w.handler.activate := by
  obtain ⟨hpc, hpred⟩ := h.goesOn hgo
  show (if w.handler.hung then w.handler else w.handler.thread IP_MSS .activate) = _
  rw [if_neg (by rw [h.not_hung (by rw [hpc]; rfl)]; decide)]
  exact if_pos ⟨hpc, hpred⟩

/-- The candidates are tunnels now, or the list of the tunnels was left. -/
theorem activate_past (h : St) : h.activate.pc = .pastTunnels ∨
    h.activate.pc = .activated ∧ h.activate.tunnelCandidates = [] := by
  unfold St.activate
  dsimp only
  split_ifs with hpast
  · exact .inl hpast
  · exact .inr ⟨rfl, rfl⟩

theorem step_start (hpc : w.handler.pc = .stopped) (p : Sessions2.Packet) :
    step IP_MSS w.handler (.start p) = w.handler.start p := if_pos hpc

/-- **What one move preserves.** -/
theorem move_regular (h : Regular w) (m : Move) : Regular (move IP_MSS w m) := by
  cases m with
  | test c =>
    show Regular (if w.started then { w with calls := w.calls ++ [c] } else w)
    split_ifs
    · exact ⟨h.hung, h.goesOn⟩
    · exact h
  | append k =>
    show Regular (w.append k)
    unfold World.append
    cases w.calls[k]? with
    | none => exact h
    | some c =>
      have hpc := (addTunnelSocket_keeps w.handler c).1
      have hhung : (w.handler.addTunnelSocket c).2.hung = w.handler.hung := by
        unfold St.addTunnelSocket
        split_ifs <;> rfl
      constructor
      · intro hc
        show (w.handler.addTunnelSocket c).2.pc.inTurn = true
        rw [hpc]
        exact h.hung (hhung ▸ hc)
      · intro hc
        obtain ⟨h1, h2⟩ := h.goesOn hc
        exact ⟨hpc.trans h1, pred_append h2⟩
  | stop =>
    show Regular (if w.started then { w with shouldStop := true } else w)
    split_ifs
    · exact ⟨h.hung, h.goesOn⟩
    · exact h
  | decide timedOut =>
    show Regular (w.decideExit IP_MSS timedOut)
    unfold World.decideExit
    split_ifs with hleaves hgo
    · obtain ⟨hpc, hno, _⟩ := of_decide_eq_true hleaves
      have hhung := h.not_hung (by rw [hpc]; rfl)
      rw [step_exit h hpc]
      exact ⟨fun hc => absurd (hhung.symm.trans hc) (by decide), fun hc => absurd hc hno⟩
    · exact ⟨h.hung, fun _ => hgo⟩
    · exact h
  | handler i =>
    show Regular (w.handlerStep IP_MSS i)
    by_cases hstart : ∃ p, i = .start p
    · obtain ⟨p, rfl⟩ := hstart
      unfold World.handlerStep
      dsimp only
      split_ifs with hs
      · exact h
      · have hpc : w.handler.pc = .stopped := by
          by_contra hc
          exact hs (started_iff.mpr hc)
        rw [step_start hpc p]
        refine ⟨fun hc => ?_, fun hc => ?_⟩
        · exact absurd ((h.not_hung (by rw [hpc]; rfl)).symm.trans hc) (by decide)
        · exact absurd ((h.not_goesOn (by rw [hpc]; decide)).symm.trans hc) (by decide)
    by_cases hactivate : i = .activate
    · subst hactivate
      unfold World.handlerStep
      dsimp only
      split_ifs with hgo
      · rw [step_activate h hgo]
        refine ⟨fun _ => ?_, fun hc => by cases hc⟩
        show w.handler.activate.pc.inTurn = true
        rcases activate_past w.handler with e | ⟨e, _⟩ <;> rw [e] <;> rfl
      · exact h
    · rcases @handlerStep_other IP_MSS w i (fun p e => hstart ⟨p, e⟩) hactivate with e | ⟨e, ht, hcs⟩
      · rw [e]
        exact h
      · rw [e]
        exact regular_turned h ht hcs

end

/-! ## the runs of the threads -/

namespace Threads

section
variable {t : St} {j k n : Nat}

/-- only calls of `start` have to keep apart -/
theorem along_apart {ms : List Move} (h : ∀ m ∈ ms, ∀ k, m ≠ .start k) (t : St) : Along step Apart t ms := by
  induction ms generalizing t with
  | nil => trivial
  | cons m ms ih =>
    exact ⟨fun k e => absurd e (h m List.mem_cons_self k),
      ih (fun m' hm => h m' (List.mem_cons_of_mem _ hm)) _⟩

/-- nobody is blocked -/
theorem notifyOne_eq (h : LoopPc.blocked false ∉ t.threads) : t.notifyOne = t := by
  unfold St.notifyOne
  rw [List.set_eq_of_length_le (by rw [List.idxOf_eq_length h])]

/-- the thread finds `shouldStop` set, and leaves -/
theorem run_leaves (hk : t.threads[k]? = some .lock) (hm : t.startedMutex = none)
    (hstop : t.shouldStop = true) : run step t (List.replicate 4 (.thread k 0 true)) =
      { t with started := false, threads := t.threads.set k .gone } := by
  obtain ⟨hlt, hk⟩ := List.getElem?_eq_some_iff.mp hk
  simp [List.replicate, run, step, St.handleClient, St.turnTo, hk, hm, hstop, hlt]

/-- its time is over, with nothing to do -/
theorem run_timesOut (hk : t.threads[k]? = some .lock) (hm : t.startedMutex = none)
    (hpred : t.pred = false) : run step t (List.replicate 4 (.thread k 0 true) ++ .wake k true ::
        List.replicate 4 (.thread k 0 true)) =
      { t with started := false, threads := t.threads.set k .gone } := by
  obtain ⟨hlt, hk⟩ := List.getElem?_eq_some_iff.mp hk
  obtain ⟨h1, h2, h3⟩ := pred_eq_false.mp hpred
  simp [List.replicate, run, step, St.handleClient, St.turnTo, St.pred, hk, hm, h1, h2, h3, hlt]

/-- it has something to do, and goes on to the candidates -/
theorem run_goesOn (hk : t.threads[k]? = some .lock) (hm : t.startedMutex = none)
    (hstop : t.shouldStop = false) (hpred : 0 < t.openTunnelsCount ∨ t.tunnelCandidates ≠ 0) :
    run step t (List.replicate 5 (.thread k 0 true)) =
      { t with turns := t.turns + 1, threads := t.threads.set k .testCandidates } := by
  obtain ⟨hlt, hk⟩ := List.getElem?_eq_some_iff.mp hk
  simp [List.replicate, run, step, St.handleClient, St.turnTo, St.pred, hk, hm, hstop, hpred, hlt]

/-- it makes tunnels of the candidates -/
theorem run_activates (hk : t.threads[k]? = some .testCandidates) (hc : t.candidatesMutex = none)
    (hcs : t.tunnelCandidates ≠ 0) (n : Nat) : run step t (List.replicate 4 (.thread k n true)) =
      { t with openTunnelsCount := n, tunnelCandidates := 0, threads := t.threads.set k .turn } := by
  obtain ⟨hlt, hk⟩ := List.getElem?_eq_some_iff.mp hk
  simp [List.replicate, run, step, St.handleClient, St.turnTo, hk, hc, hcs, hlt]

/-- there are none -/
theorem run_skips (hk : t.threads[k]? = some .testCandidates) (hcs : t.tunnelCandidates = 0) :
    run step t [.thread k 0 true] = { t with threads := t.threads.set k .turn } := by
  simp [run, step, St.handleClient, St.turnTo, hk, hcs]

theorem run_turns (hk : t.threads[k]? = some .turn) (n : Nat) (ended : Bool) :
    run step t [.thread k n ended] = { t with
      openTunnelsCount := n
      threads := t.threads.set k (if ended then .lock else .turn) } := by
  simp [run, step, St.handleClient, St.turnTo, hk]

/-- a call of `start` that begins a thread -/
def begins (t : St) : List Move := .callStart :: List.replicate 4 (.start t.starts.length)

theorem run_begins (hs : t.started = false) : run step t (begins t) =
    { t with
      started := true
      shouldStop := false
      starts := t.starts ++ [.returned true]
      threads := t.threads ++ [.lock] } := by
  simp [begins, List.replicate, run, step, St.start, St.startTo, hs]

/-- the call is the only one that looks at `started` -/
theorem begins_apart (hs : t.started = false) (hset : .setStarted ∉ t.starts) :
    Along step Apart t (begins t) := by
  have no {u : St} (h : u.starts[t.starts.length]? ≠ some .testStarted) :
      Apart u (.start t.starts.length) := fun j e hj => by cases e; exact absurd hj h
  refine ⟨fun j e => (by cases e), fun j e hj => ?_, no ?_, no ?_, no ?_, trivial⟩
  · show .setStarted ∉ t.starts ++ [.testStarted]
    simpa using hset
  · simp [step, St.start, St.startTo, hs]
  · simp [step, St.start, St.startTo, hs]
  · simp [step, St.start, St.startTo, hs]

/-- a call of `stop` that finds a thread -/
theorem run_stops (hm : t.startedMutex = none) (hs : t.started = true)
    (hb : LoopPc.blocked false ∉ t.threads) :
    run step t (.callStop :: List.replicate 5 (.stop t.stops.length)) =
      { t with shouldStop := true, stops := t.stops ++ [.returned] } := by
  have hn {u : St} (hu : u.threads = t.threads) : u.notifyOne = u := notifyOne_eq (hu ▸ hb)
  simp [List.replicate, run, step, St.stop, St.stopTo, hm, hs, hn]

/-- the first half of a call of `addTunnelSocket` -/
theorem run_tests (hs : t.started = true) : run step t [.callAdd, .add t.adds.length] =
    { t with adds := t.adds ++ [.lock] } := by
  simp [run, step, St.addTunnelSocket, St.addTo, hs]

/-- its critical section -/
theorem run_refused (hj : t.adds[j]? = some .lock) (hm : t.startedMutex = none)
    (hc : t.candidatesMutex = none) (hfull : t.tunnelCandidates + t.openTunnelsCount = MAXIMUM_TUNNELS) :
    run step t (List.replicate 3 (.add j)) = { t with adds := t.adds.set j (.returned false) } := by
  obtain ⟨hlt, hj⟩ := List.getElem?_eq_some_iff.mp hj
  simp [List.replicate, run, step, St.addTunnelSocket, St.addTo, hj, hm, hc, hfull, hlt]

theorem run_accepted (hj : t.adds[j]? = some .lock) (hm : t.startedMutex = none)
    (hc : t.candidatesMutex = none) (hroom : t.tunnelCandidates + t.openTunnelsCount ≠ MAXIMUM_TUNNELS)
    (hb : LoopPc.blocked false ∉ t.threads) : run step t (List.replicate 5 (.add j)) =
      { t with
        tunnelCandidates := t.tunnelCandidates + 1
        adds := t.adds.set j (.returned true) } := by
  have hn {u : St} (hu : u.threads = t.threads) : u.notifyOne = u := notifyOne_eq (hu ▸ hb)
  obtain ⟨hlt, hj⟩ := List.getElem?_eq_some_iff.mp hj
  simp [List.replicate, run, step, St.addTunnelSocket, St.addTo, hj, hm, hc, hroom, hlt, hn]

end

/-! ## the moves -/

/-- where the thread of the handler is between two moves -/
def place (w : World) : LoopPc :=
  if w.handler.pc = .waiting then if w.goesOn then .testCandidates else .lock else .turn

/-- The threads have come to where the handler is, with no mutex held and nobody blocked. -/
structure Matches (w : World) (t : St) : Prop where
  started : t.started = w.started
  shouldStop : t.shouldStop = w.shouldStop
  tunnelCandidates : t.tunnelCandidates = w.handler.tunnelCandidates.length
  openTunnelsCount : t.openTunnelsCount = w.handler.openTunnelsCount
  startedMutex : t.startedMutex = none
  candidatesMutex : t.candidatesMutex = none
  starts : .setStarted ∉ t.starts
  calls : t.adds.count .lock = w.calls.length
  unblocked : .blocked false ∉ t.threads
  thread : w.started = true → ∃ k : Nat, t.threads[k]? = some (place w)

section
variable {IP_MSS : U16} {w w' : World} {t : St} {k n : Nat} {pc q : LoopPc}

theorem matches_init (shared : Sessions2.Shared) (tcpPacket : Sessions2.Packet) :
    Matches (World.init shared tcpPacket) St.init where
  started := rfl
  shouldStop := rfl
  tunnelCandidates := rfl
  openTunnelsCount := rfl
  startedMutex := rfl
  candidatesMutex := rfl
  starts := List.not_mem_nil
  calls := rfl
  unblocked := List.not_mem_nil
  thread := fun h => by cases h

theorem place_turn (h : w.handler.pc.inTurn = true) : place w = .turn :=
  if_neg fun e => by rw [e] at h; cases h

/-- the thread comes to `q` -/
theorem Matches.goto (h : Matches w t) (hk : t.threads[k]? = some pc) (hne : q ≠ .blocked false) :
    .blocked false ∉ t.threads.set k q ∧ (t.threads.set k q)[k]? = some q := by
  refine ⟨fun hm => ?_, List.getElem?_set_self (List.getElem?_eq_some_iff.mp hk).1⟩
  rcases List.mem_or_eq_of_mem_set hm with hm | e
  · exact h.unblocked hm
  · exact hne e.symm

theorem along_threads (t : St) (l : Nat) : Along step Apart t (List.replicate l (.thread k n true)) :=
  along_apart (fun m hm j e => by rw [List.eq_of_mem_replicate hm] at e; cases e) t

/-- a call that looks at `started` -/
theorem test_matched (h : Matches w t) (c : TunnelCandidate) :
    ∃ ms, Along step Apart t ms ∧ Matches (move IP_MSS w (.test c)) (run step t ms) := by
  by_cases hs : w.started = true
  · refine ⟨[.callAdd, .add t.adds.length], along_apart (by simp) t, ?_⟩
    rw [run_tests (h.started.trans hs)]
    show Matches (if w.started then { w with calls := w.calls ++ [c] } else w) _
    rw [if_pos hs]
    refine { h with calls := ?_ }
    show (t.adds ++ [AddPc.lock]).count AddPc.lock = (w.calls ++ [c]).length
    rw [List.count_append, List.length_append, h.calls]
    rfl
  · refine ⟨[], trivial, ?_⟩
    show Matches (if w.started then { w with calls := w.calls ++ [c] } else w) _
    rw [if_neg hs]
    exact h

/-- the critical section of a call -/
theorem append_matched (h : Matches w t) (k : Nat) :
    ∃ ms, Along step Apart t ms ∧ Matches (move IP_MSS w (.append k)) (run step t ms) := by
  show ∃ ms, _ ∧ Matches (w.append k) (run step t ms)
  unfold World.append
  cases hc : w.calls[k]? with
  | none => exact ⟨[], trivial, h⟩
  | some c =>
    have hk := (List.getElem?_eq_some_iff.mp hc).1
    have hlen := List.length_eraseIdx_of_lt hk
    obtain ⟨j, hj⟩ : ∃ j : Nat, t.adds[j]? = some .lock :=
      List.mem_iff_getElem?.mp (List.count_pos_iff.mp (by rw [h.calls]; omega))
    have hcount (b : Bool) : (t.adds.set j (.returned b)).count AddPc.lock = (w.calls.eraseIdx k).length := by
      have h1 := countP_goto (p := (· == AddPc.lock)) (b := AddPc.returned b) hj
      have h2 := h.calls
      rw [List.count] at h2 ⊢
      rw [h2] at h1
      have h3 : (AddPc.returned b == AddPc.lock) = false := by cases b <;> rfl
      rw [h3] at h1
      rw [hlen]
      exact Nat.eq_sub_of_add_eq h1
    have hall : t.tunnelCandidates + t.openTunnelsCount =
        w.handler.tunnelCandidates.length + w.handler.openTunnelsCount := by
      rw [h.tunnelCandidates, h.openTunnelsCount]
    have along (l : Nat) : Along step Apart t (List.replicate l (.add j)) :=
      along_apart (fun m hm i e => by rw [List.eq_of_mem_replicate hm] at e; cases e) t
    dsimp only
    by_cases hfull : w.handler.tunnelCandidates.length + w.handler.openTunnelsCount = MAXIMUM_TUNNELS
    · refine ⟨_, along 3, ?_⟩
      rw [run_refused hj h.startedMutex h.candidatesMutex (hall.trans hfull)]
      have e : (w.handler.addTunnelSocket c).2 = w.handler := by
        unfold Handler.St.addTunnelSocket
        rw [if_pos hfull]
      rw [e]
      exact { h with calls := hcount false }
    · refine ⟨_, along 5, ?_⟩
      rw [run_accepted hj h.startedMutex h.candidatesMutex (hall ▸ hfull) h.unblocked]
      have e : (w.handler.addTunnelSocket c).2 =
          { w.handler with tunnelCandidates := w.handler.tunnelCandidates ++ [c] } := by
        unfold Handler.St.addTunnelSocket
        rw [if_neg hfull]
      rw [e]
      refine { h with calls := hcount true, tunnelCandidates := ?_ }
      show t.tunnelCandidates + 1 = (w.handler.tunnelCandidates ++ [c]).length
      rw [List.length_append, h.tunnelCandidates]
      rfl

theorem stop_matched (h : Matches w t) :
    ∃ ms, Along step Apart t ms ∧ Matches (move IP_MSS w .stop) (run step t ms) := by
  show ∃ ms, _ ∧ Matches (if w.started then { w with shouldStop := true } else w) (run step t ms)
  split_ifs with hs
  · refine ⟨.callStop :: List.replicate 5 (.stop t.stops.length), along_apart (by simp) t, ?_⟩
    rw [run_stops h.startedMutex (h.started.trans hs) h.unblocked]
    exact { h with shouldStop := rfl }
  · exact ⟨[], trivial, h⟩

/-- the head of the loop -/
theorem decide_matched (hr : Regular w) (h : Matches w t) (timedOut : Bool) :
    ∃ ms, Along step Apart t ms ∧ Matches (move IP_MSS w (.decide timedOut)) (run step t ms) := by
  show ∃ ms, _ ∧ Matches (w.decideExit IP_MSS timedOut) (run step t ms)
  have at_lock (hpc : w.handler.pc = .waiting) (hno : w.goesOn = false) :
      ∃ k : Nat, t.threads[k]? = some .lock := by
    have hs : w.started = true := started_iff.mpr (by rw [hpc]; decide)
    obtain ⟨k, hk⟩ := h.thread hs
    have e : place w = .lock := by
      unfold place
      rw [if_pos hpc, if_neg (by rw [hno]; decide)]
    exact ⟨k, e ▸ hk⟩
  unfold World.decideExit
  split_ifs with hleaves hgo
  · obtain ⟨hpc, hno, hwhy⟩ := of_decide_eq_true hleaves
    obtain ⟨k, hk⟩ := at_lock hpc (by simpa using hno)
    have hgone : Matches { w with handler := { w.handler with pc := .stopped } }
        { t with started := false, threads := t.threads.set k .gone } :=
      { h with
        started := rfl
        unblocked := (h.goto hk (by decide)).1
        thread := fun hc => by cases hc }
    rw [step_exit hr hpc]
    by_cases hstop : w.shouldStop = true
    · refine ⟨_, along_threads (k := k) (n := 0) t 4, ?_⟩
      rw [run_leaves hk h.startedMutex (h.shouldStop.trans hstop)]
      exact hgone
    · obtain ⟨-, hpred⟩ := hwhy.resolve_left hstop
      have hidle : t.pred = false := by
        have h1 := hpred
        unfold Handler.St.pred at h1
        rw [decide_eq_true_eq, not_or, not_not] at h1
        refine pred_eq_false.mpr ⟨?_, ?_, h.shouldStop.trans (by simpa using hstop)⟩
        · rw [h.openTunnelsCount]
          omega
        · rw [h.tunnelCandidates, h1.2]
          rfl
      refine ⟨List.replicate 4 (.thread k 0 true) ++ .wake k true :: List.replicate 4 (.thread k 0 true),
        along_apart (by simp) t, ?_⟩
      rw [run_timesOut hk h.startedMutex hidle]
      exact hgone
  · by_cases hno : w.goesOn = true
    · refine ⟨[], trivial, ?_⟩
      have e : { w with goesOn := true } = w := by rw [← hno]
      rw [e]
      exact h
    · have hno : w.goesOn = false := by simpa using hno
      obtain ⟨k, hk⟩ := at_lock hgo.1 hno
      have hstop : w.shouldStop = false := by
        by_contra hc
        refine hleaves (decide_eq_true ⟨hgo.1, by rw [hno]; decide, .inl (by simpa using hc)⟩)
      have hmore : 0 < t.openTunnelsCount ∨ t.tunnelCandidates ≠ 0 := by
        rw [h.openTunnelsCount, h.tunnelCandidates]
        exact (of_decide_eq_true hgo.2).imp id fun hne he => hne (List.eq_nil_of_length_eq_zero he)
      obtain ⟨h1, h2⟩ := h.goto hk (q := .testCandidates) (by decide)
      refine ⟨_, along_threads (k := k) (n := 0) t 5, ?_⟩
      rw [run_goesOn hk h.startedMutex (h.shouldStop.trans hstop) hmore]
      refine { h with unblocked := h1, thread := fun _ => ⟨k, h2.trans ?_⟩ }
      show _ = some (if w.handler.pc = .waiting then _ else _)
      rw [if_pos hgo.1]
      rfl
  · exact ⟨[], trivial, h⟩

/-- the thread makes tunnels of the candidates, unless it leaves their list -/
theorem activate_matched (hr : Regular w) (h : Matches w t) (hgo : w.goesOn = true) :
    ∃ ms, Along step Apart t ms ∧ (w.handler.activate.pc = .pastTunnels ∨
      Matches { w with handler := w.handler.activate, goesOn := false } (run step t ms)) := by
  have hpc := (hr.goesOn hgo).1
  have hs : w.started = true := started_iff.mpr (by rw [hpc]; decide)
  obtain ⟨k, hk⟩ := h.thread hs
  have e : place w = .testCandidates := by
    unfold place
    rw [if_pos hpc, if_pos hgo]
  rw [e] at hk
  rcases activate_past w.handler with hpast | ⟨hpc', hnil⟩
  · exact ⟨[], trivial, .inl hpast⟩
  obtain ⟨h1, h2⟩ := h.goto hk (q := .turn) (by decide)
  have hstarted : t.started = decide (w.handler.activate.pc ≠ .stopped) := by
    rw [h.started, hs, hpc']
    rfl
  have hplace : some LoopPc.turn =
      some (place { w with handler := w.handler.activate, goesOn := false }) := by
    rw [place_turn (by rw [hpc']; rfl)]
  by_cases hcs : t.tunnelCandidates = 0
  · refine ⟨[.thread k 0 true], along_threads (k := k) (n := 0) t 1, .inr ?_⟩
    rw [run_skips hk hcs]
    have hopen : w.handler.activate.openTunnelsCount = w.handler.openTunnelsCount := by
      have h3 : w.handler.tunnelCandidates = [] :=
        List.eq_nil_of_length_eq_zero (h.tunnelCandidates.symm.trans hcs)
      unfold Handler.St.activate
      rw [h3]
      dsimp only
      split_ifs <;> rfl
    exact { h with
      started := hstarted
      tunnelCandidates := by rw [hnil]; exact hcs
      openTunnelsCount := h.openTunnelsCount.trans hopen.symm
      unblocked := h1
      thread := fun _ => ⟨k, h2.trans hplace⟩ }
  · refine ⟨_, along_threads (k := k) (n := w.handler.activate.openTunnelsCount) t 4, .inr ?_⟩
    rw [run_activates hk h.candidatesMutex hcs]
    exact { h with
      started := hstarted
      tunnelCandidates := by rw [hnil]; rfl
      openTunnelsCount := rfl
      unblocked := h1
      thread := fun _ => ⟨k, h2.trans hplace⟩ }

/-- another step of the thread, or of its surroundings -/
theorem turned_matched (hr : Regular w) (h : Matches w t) {g : Handler.St} (ht : Turned w.handler g)
    (hcs : g.tunnelCandidates = w.handler.tunnelCandidates) :
    ∃ ms, Along step Apart t ms ∧ Matches { w with handler := g } (run step t ms) := by
  have go (hin : w.handler.pc.inTurn = true) (ended : Bool) (hpc : g.pc ≠ .stopped)
      (hplace : (if ended then LoopPc.lock else .turn) = place { w with handler := g }) :
      ∃ ms, Along step Apart t ms ∧ Matches { w with handler := g } (run step t ms) := by
    have hs : w.started = true := started_iff.mpr fun e => by rw [e] at hin; cases hin
    obtain ⟨k, hk⟩ := h.thread hs
    rw [place_turn hin] at hk
    obtain ⟨h1, h2⟩ := h.goto hk (q := if ended then .lock else .turn) (by cases ended <;> decide)
    refine ⟨[.thread k g.openTunnelsCount ended], along_apart (by simp) t, ?_⟩
    rw [run_turns hk]
    exact { h with
      started := (h.started.trans hs).trans (decide_eq_true hpc).symm
      tunnelCandidates := by rw [hcs]; exact h.tunnelCandidates
      openTunnelsCount := rfl
      unblocked := h1
      thread := fun _ => ⟨k, h2.trans (congrArg some hplace)⟩ }
  cases ht with
  | stays hpc hhung hopen =>
    refine ⟨[], trivial, ?_⟩
    have e : place { w with handler := g } = place w := by
      unfold place
      dsimp only
      rw [hpc]
    have hs : World.started { w with handler := g } = w.started := by
      unfold World.started
      dsimp only
      rw [hpc]
    exact { h with
      started := h.started.trans hs.symm
      tunnelCandidates := by rw [hcs]; exact h.tunnelCandidates
      openTunnelsCount := h.openTunnelsCount.trans hopen.symm
      thread := by rw [hs, e]; exact h.thread }
  | goes hin hhung hin' =>
    refine go hin false (fun e => by rw [e] at hin'; cases hin') ?_
    rw [place_turn hin']
    rfl
  | ends hin hhung hpc hhung' =>
    have hno : w.goesOn = false := hr.not_goesOn fun e => by rw [e] at hin; cases hin
    refine go hin true (by rw [hpc]; decide) ?_
    unfold place
    dsimp only
    rw [hpc, hno]
    rfl

/-- **What the threads do for one move.** -/
theorem move_matched (hr : Regular w) (h : Matches w t) (m : Handler.Move) :
    ∃ ms, Along step Apart t ms ∧ ((move IP_MSS w m).handler.pc = .pastTunnels ∨
      Matches (move IP_MSS w m) (run step t ms)) := by
  cases m with
  | test c =>
    obtain ⟨ms, h1, h2⟩ := @test_matched IP_MSS w t h c
    exact ⟨ms, h1, .inr h2⟩
  | append k =>
    obtain ⟨ms, h1, h2⟩ := @append_matched IP_MSS w t h k
    exact ⟨ms, h1, .inr h2⟩
  | stop =>
    obtain ⟨ms, h1, h2⟩ := @stop_matched IP_MSS w t h
    exact ⟨ms, h1, .inr h2⟩
  | decide timedOut =>
    obtain ⟨ms, h1, h2⟩ := @decide_matched IP_MSS w t hr h timedOut
    exact ⟨ms, h1, .inr h2⟩
  | handler i =>
    show ∃ ms, _ ∧ ((w.handlerStep IP_MSS i).handler.pc = .pastTunnels ∨
      Matches (w.handlerStep IP_MSS i) (run step t ms))
    by_cases hstart : ∃ p, i = .start p
    · obtain ⟨p, rfl⟩ := hstart
      unfold World.handlerStep
      dsimp only
      split_ifs with hs
      · exact ⟨[], trivial, .inr h⟩
      · have hpc : w.handler.pc = .stopped := by
          by_contra hc
          exact hs (started_iff.mpr hc)
        have hno := hr.not_goesOn (by rw [hpc]; decide)
        have hs : t.started = false := h.started.trans (by simpa using hs)
        refine ⟨begins t, begins_apart hs h.starts, .inr ?_⟩
        rw [step_start hpc p, run_begins hs]
        exact { h with
          started := rfl
          shouldStop := rfl
          starts := by simpa using h.starts
          unblocked := by simpa using h.unblocked
          thread := fun _ => ⟨t.threads.length, by simp [place, Handler.St.start, hno]⟩ }
    by_cases hactivate : i = .activate
    · subst hactivate
      unfold World.handlerStep
      dsimp only
      split_ifs with hgo
      · rw [step_activate hr hgo]
        exact activate_matched hr h hgo
      · exact ⟨[], trivial, .inr h⟩
    · rcases @handlerStep_other IP_MSS w i (fun p e => hstart ⟨p, e⟩) hactivate with e | ⟨e, ht, hcs⟩
      · rw [e]
        exact ⟨[], trivial, .inr h⟩
      · rw [e]
        obtain ⟨ms, h1, h2⟩ := turned_matched hr h ht hcs
        exact ⟨ms, h1, .inr h2⟩

/-- an iterator that has left the list of the tunnels stays behind it -/
theorem past_move (hpast : w.handler.pc = .pastTunnels) (m : Handler.Move) :
    (move IP_MSS w m).handler.pc = .pastTunnels := by
  have hnot {pc : Pc} (hne : pc ≠ .pastTunnels) : w.handler.pc ≠ pc := fun e => hne (e.symm.trans hpast)
  cases m with
  | test c =>
    show (if w.started then { w with calls := w.calls ++ [c] } else w).handler.pc = _
    split_ifs <;> exact hpast
  | append k =>
    show (w.append k).handler.pc = _
    unfold World.append
    cases w.calls[k]? with
    | none => exact hpast
    | some c => exact (addTunnelSocket_keeps w.handler c).1.trans hpast
  | stop =>
    show (if w.started then { w with shouldStop := true } else w).handler.pc = _
    split_ifs <;> exact hpast
  | decide timedOut =>
    show (w.decideExit IP_MSS timedOut).handler.pc = _
    unfold World.decideExit
    rw [if_neg fun hc => hnot (by decide) (of_decide_eq_true hc).1,
      if_neg fun hc => hnot (by decide) hc.1]
    exact hpast
  | handler i =>
    show (w.handlerStep IP_MSS i).handler.pc = _
    have thread (i : Input) : (if w.handler.hung then w.handler else w.handler.thread IP_MSS i).pc =
        .pastTunnels := by
      split_ifs
      · exact hpast
      unfold Handler.St.thread
      cases i with
      | activate => exact (congrArg _ (if_neg fun hc => hnot (by decide) hc.1)).trans hpast
      | start p => exact hpast
      | addTunnelSocket c => exact hpast
      | closeTunnel k => exact hpast
      | _ => exact (congrArg _ (if_neg (hnot (by decide)))).trans hpast
    cases i with
    | exit => exact hpast
    | addTunnelSocket c => exact hpast
    | start p =>
      have hs : w.started = true := started_iff.mpr (hnot (by decide))
      unfold World.handlerStep
      dsimp only
      rw [if_pos hs]
      exact hpast
    | activate =>
      unfold World.handlerStep
      dsimp only
      split_ifs
      · exact thread .activate
      · exact hpast
    | closeTunnel k => exact hpast
    | _ => exact thread _

/-- **The threads do what the handler does.**  Every run of `World` is a run of the threads in which calls
of `start` keep apart, until an iterator leaves the list of the tunnels: with the same flags and counts
behind every move, and the thread where the handler is. -/
theorem matched (IP_MSS : U16) (shared : Sessions2.Shared) (tcpPacket : Sessions2.Packet)
    (moves : List Handler.Move) :
    let w := run (move IP_MSS) (World.init shared tcpPacket) moves
    ∃ ms, Along step Apart St.init ms ∧
      (w.handler.pc = .pastTunnels ∨ Matches w (run step St.init ms)) := by
  let R (w : World) (t : St) : Prop := Regular w ∧ (w.handler.pc = .pastTunnels ∨ Matches w t)
  have hR : R (World.init shared tcpPacket) St.init :=
    ⟨regular_init shared tcpPacket, .inr (matches_init shared tcpPacket)⟩
  have hstep (w : World) (t : St) (m : Handler.Move) (h : R w t) :
      ∃ ms, Along step Apart t ms ∧ R (move IP_MSS w m) (run step t ms) := by
    obtain ⟨hr, hpast | hm⟩ := h
    · exact ⟨[], trivial, move_regular hr m, .inl (past_move hpast m)⟩
    · obtain ⟨ms, h1, h2⟩ := @move_matched IP_MSS w t hr hm m
      exact ⟨ms, h1, move_regular hr m, h2⟩
  obtain ⟨ms, h1, -, h2⟩ := run_matched R hstep hR moves
  exact ⟨ms, h1, h2⟩

end

end Threads

end TunServer.Handler
