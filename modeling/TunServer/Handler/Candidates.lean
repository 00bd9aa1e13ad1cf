import TunServer.Handler.Tunnels

/-!
# From `addTunnelSocket` to the tunnels

`addTunnelSocket` reads `started` without a lock, and then enters its critical section.  Between the
two the thread may leave its loop.

* `World`            the handler, with the calls of `addTunnelSocket` that are on their way;
* `Move`             one atomic step: of such a call, of `stop`, or of the thread;
* `NotStranded`      what is accepted is accepted by a running loop, and is offered by it;
* `Sound`            the condition on a step; `none_stranded` the result for whole runs.
-/

set_option linter.unusedVariables false

namespace TunServer.Handler

/-! ## the steps -/

structure World where
  handler : St
  shouldStop : Bool
  /-- the thread has decided to go on, and comes to the candidates next -/
  goesOn : Bool
  /-- calls of `addTunnelSocket` that have read `started`, and have not entered their critical
  section yet -/
  calls : List TunnelCandidate

def World.init (shared : Sessions2.Shared) (tcpPacket : Sessions2.Packet) : World where
  handler := .init shared tcpPacket
  shouldStop := true
  goesOn := false
  calls := []

inductive Move where
  /-- a call of `addTunnelSocket` reads `started` -/
  | test (c : TunnelCandidate)
  /-- the `k`-th of those that found it true enters its critical section -/
  | append (k : Nat)
  | stop
  /-- the critical section at the head of the loop, and whether `wait_for` timed out -/
  | decide (timedOut : Bool)
  /-- another step of the thread, or of its surroundings -/
  | handler (i : Input)

namespace World

/-- `started`: the thread is in its loop -/
def started (w : World) : Bool := w.handler.pc ≠ .stopped

/-- the thread leaves its loop -/
def leaves (w : World) (timedOut : Bool) : Bool :=
  w.handler.pc = .waiting ∧ ¬ w.goesOn ∧ (w.shouldStop ∨ timedOut ∧ ¬ w.handler.pred)

def decideExit (IP_MSS : U16) (w : World) (timedOut : Bool) : World :=
  if w.leaves timedOut then { w with handler := step IP_MSS w.handler .exit }
  else if w.handler.pc = .waiting ∧ w.handler.pred then { w with goesOn := true }
  else w

def append (w : World) (k : Nat) : World :=
  match w.calls[k]? with
  | some c => { w with handler := (w.handler.addTunnelSocket c).2, calls := w.calls.eraseIdx k }
  | none => w

/-- `exit` and `addTunnelSocket` are moves of their own -/
def handlerStep (IP_MSS : U16) (w : World) (i : Input) : World :=
  match i with
  | .exit => w
  | .addTunnelSocket _ => w
  | .activate =>
    if w.goesOn then { w with handler := step IP_MSS w.handler .activate, goesOn := false } else w
  | .start tcpPacket =>
    if w.started then w
    else { w with handler := step IP_MSS w.handler (.start tcpPacket), shouldStop := false }
  | i => { w with handler := step IP_MSS w.handler i }

end World

def move (IP_MSS : U16) (w : World) : Move → World
  | .test c => if w.started then { w with calls := w.calls ++ [c] } else w
  | .append k => w.append k
  | .stop => if w.started then { w with shouldStop := true } else w
  | .decide timedOut => w.decideExit IP_MSS timedOut
  | .handler i => w.handlerStep IP_MSS i

/-! ## the property and the condition -/

/-- the candidates that `sendObject` is called for, in one run of the loop over them -/
def offered : List TunnelCandidate → St → List TunnelCandidate
  | [], _ => []
  | c :: cs, h =>
    if h.pc = .pastTunnels ∨ h.openTunnelsCount = MAXIMUM_TUNNELS then []
    else c :: offered cs (if c.throws then h else h.activateTunnel c)

/-- a socket is that of a tunnel in use -/
def HasTunnel (h : St) (socket : Nat) : Prop :=
  ∃ k t, h.tunnels[k]? = some t ∧ k < h.openTunnelsCount ∧ t.socket = socket ∧ t.isOpen = true

/-- `sendObject` was called for every candidate, and those it did not throw for have a tunnel -/
structure Served (h h' : St) : Prop where
  all : offered h.tunnelCandidates h = h.tunnelCandidates
  tunnel : ∀ c ∈ h.tunnelCandidates, c.throws = true ∨ HasTunnel h' c.socket

/-- What a call of `addTunnelSocket` accepts, it accepts while the loop is running; and candidates
stay candidates until they are served. -/
structure NotStranded (IP_MSS : U16) (w : World) (m : Move) : Prop where
  running : ∀ k c, m = .append k → w.calls[k]? = some c → (w.handler.addTunnelSocket c).1 = true →
    w.started = true
  candidates : w.handler.tunnelCandidates <+: (move IP_MSS w m).handler.tunnelCandidates ∨
    Served w.handler (move IP_MSS w m).handler

/-- **The condition on a step**: the thread does not leave its loop while a call of `addTunnelSocket`
is between its test and its critical section, and no activation puts a candidate into an object that
was used before. -/
def Sound (w : World) : Move → Prop
  | .decide timedOut => w.leaves timedOut = true → w.calls = []
  | .handler i => w.goesOn = true → FreshTunnels w.handler i
  | _ => True

instance (w : World) : ∀ m, Decidable (Sound w m)
  | .test _ | .append _ | .stop => .isTrue trivial
  | .decide _ => inferInstanceAs (Decidable (_ → _))
  | .handler _ => inferInstanceAs (Decidable (_ → FreshTunnels _ _))

/-! ## the other steps of the thread -/

/-- the thread is still in its loop, and the candidates are what they were -/
structure RunsOn (h h' : St) : Prop where
  started : h.pc ≠ .stopped → h'.pc ≠ .stopped
  candidates : h'.tunnelCandidates = h.tunnelCandidates

theorem RunsOn.refl (h : St) : RunsOn h h := ⟨id, rfl⟩

section
variable {IP_MSS : U16} {h h' : St}

theorem RunsOn.of_pc (pc : Pc) (hpc : h'.pc = pc) (hne : pc ≠ .stopped)
    (hcs : h'.tunnelCandidates = h.tunnelCandidates) : RunsOn h h' :=
  ⟨fun _ => hpc ▸ hne, hcs⟩

theorem RunsOn.same (hpc : h'.pc = h.pc) (hcs : h'.tunnelCandidates = h.tunnelCandidates) :
    RunsOn h h' := ⟨fun hs => hpc ▸ hs, hcs⟩

theorem RunsOn.ite {c : Prop} [Decidable c] {g : St} (hg : c → RunsOn h g) :
    RunsOn h (if c then g else h) := iteInduction hg fun _ => .refl h

theorem sessionTurn_runsOn {x : Events} (hpc : h.pc = .sessions) (ht : SessionTurn IP_MSS h x h') :
    RunsOn h h' := by
  obtain ⟨hsame, hp⟩ := (@polled_worked IP_MSS h x).tunnels
  cases ht with
  | done => exact .of_pc .clock rfl (by decide) rfl
  | past => exact .of_pc .pastSessions rfl (by decide) rfl
  | hangs => exact .same hp hsame.tunnelCandidates
  | stays => exact .same hp hsame.tunnelCandidates
  | @leaves g d _ _ _ hw =>
    obtain ⟨g1, g2⟩ := hw.tunnels
    obtain ⟨d1, d2⟩ := deactivateSession_tunnels g h.iterator
    exact .same (d2.trans g2) (d1.tunnelCandidates.trans g1.tunnelCandidates)

theorem checkTurn_runsOn (ht : CheckTurn h h') : RunsOn h h' := by
  cases ht with
  | done => exact .of_pc .waiting rfl (by decide) rfl
  | past => exact .of_pc .pastSessions rfl (by decide) rfl
  | @stays g _ hw => exact .same hw.tunnels.2 hw.tunnels.1.tunnelCandidates
  | @leaves g d _ hw =>
    obtain ⟨g1, g2⟩ := hw.tunnels
    obtain ⟨d1, d2⟩ := deactivateSession_tunnels g h.iterator
    exact .same (d2.trans g2) (d1.tunnelCandidates.trans g1.tunnelCandidates)

theorem tunnelTurn_runsOn (h : St) : RunsOn h h.tunnelTurn := by
  unfold St.tunnelTurn
  split_ifs
  · exact .of_pc .sessions rfl (by decide) rfl
  · cases h.tunnels[h.iterator]? with
    | none => exact .of_pc .pastTunnels rfl (by decide) rfl
    | some t =>
      dsimp only
      split_ifs
      · exact .of_pc .packets rfl (by decide) rfl
      · exact .of_pc .tunnelRest rfl (by decide) rfl

theorem tunnelRest_runsOn (h : St) : RunsOn h h.tunnelRest := by
  unfold St.tunnelRest
  cases h.tunnels[h.iterator]? with
  | none => exact .of_pc .pastTunnels rfl (by decide) rfl
  | some t =>
    dsimp only
    split_ifs <;> exact .of_pc .tunnels rfl (by decide) rfl

theorem clockTurn_runsOn (h : St) (now : Int) : RunsOn h (h.clockTurn now) := by
  unfold St.clockTurn
  split_ifs
  · exact .of_pc .tickTunnels rfl (by decide) rfl
  · exact .of_pc .waiting rfl (by decide) rfl

theorem checkTunnel_runsOn (h : St) (status : Bool) : RunsOn h (h.checkTunnel status) := by
  unfold St.checkTunnel
  by_cases hdone : h.remaining = 0
  · rw [if_pos hdone]
    exact .of_pc .tickSessions rfl (by decide) rfl
  rw [if_neg hdone]
  cases h.tunnels[h.iterator]? with
  | none => exact .of_pc .pastTunnels rfl (by decide) rfl
  | some t => cases status <;> exact .same rfl rfl

theorem onDeleteTunnelRequest_runsOn (h : St) (id : U32) : RunsOn h (h.onDeleteTunnelRequest id) := by
  unfold St.onDeleteTunnelRequest
  cases (h.tunnels.take h.openTunnelsCount).findIdx? fun t => t.id = id with
  | some k => exact .same rfl rfl
  | none =>
    dsimp only
    split_ifs
    · exact .of_pc .pastTunnels rfl (by decide) rfl
    · exact .refl h

/-- every step but those that are moves of their own -/
theorem step_runsOn (i : Input) (hexit : i ≠ .exit) (hactivate : i ≠ .activate)
    (hadd : ∀ c, i ≠ .addTunnelSocket c) : RunsOn h (step IP_MSS h i) := by
  have thread : RunsOn h (h.thread IP_MSS i) := by
    cases i with
    | exit => exact absurd rfl hexit
    | activate => exact absurd rfl hactivate
    | evaluate => exact .ite fun _ => .of_pc .selecting rfl (by decide) rfl
    | select rcv snd err count => exact .ite fun _ => .of_pc .tunnels rfl (by decide) rfl
    | tunnel => exact .ite fun _ => tunnelTurn_runsOn h
    | packet p i =>
      refine .ite fun _ => ?_
      obtain ⟨hsame, hpc, _⟩ := dispatched_tunnels (@dispatch_dispatched IP_MSS h p.val i)
      exact .same hpc hsame.tunnelCandidates
    | deleteTunnel id => exact .ite fun _ => onDeleteTunnelRequest_runsOn h id
    | packetsDone => exact .ite fun _ => .of_pc .tunnelRest rfl (by decide) rfl
    | tunnelRest => exact .ite fun _ => tunnelRest_runsOn h
    | session x => exact .ite fun hpc => sessionTurn_runsOn hpc (@sessionTurn_turn IP_MSS h x)
    | clock now => exact .ite fun _ => clockTurn_runsOn h now
    | checkTunnel status => exact .ite fun _ => checkTunnel_runsOn h status
    | checkSession now now' nowFlush turns =>
      exact .ite fun _ => checkTurn_runsOn (@checkSession_turn IP_MSS h now now' nowFlush turns)
    | start tcpPacket => exact .refl h
    | addTunnelSocket c => exact .refl h
    | closeTunnel k => exact .refl h
  have hthread : RunsOn h (if h.hung then h else h.thread IP_MSS i) := by
    split_ifs
    · exact .refl h
    · exact thread
  cases i with
  | start tcpPacket => exact .ite fun _ => .of_pc .waiting rfl (by decide) rfl
  | addTunnelSocket c => exact absurd rfl (hadd c)
  | closeTunnel k => exact .same rfl rfl
  | _ => exact hthread

/-! ## the activation -/

/-- with every object in use, each candidate gets a new one, behind the others -/
theorem activateCandidates_opens {cs : List TunnelCandidate}
    (hlen : h.openTunnelsCount = h.tunnels.length)
    (hroom : h.openTunnelsCount + cs.length ≤ MAXIMUM_TUNNELS) (hpc : h.pc ≠ .pastTunnels) :
    offered cs h = cs ∧
      (St.activateCandidates cs h).openTunnelsCount = (St.activateCandidates cs h).tunnels.length ∧
      h.tunnels <+: (St.activateCandidates cs h).tunnels ∧
      ∀ c ∈ cs, c.throws = true ∨
        ∃ t ∈ (St.activateCandidates cs h).tunnels, t.socket = c.socket ∧ t.isOpen = true := by
  induction cs generalizing h with
  | nil => exact ⟨rfl, hlen, List.prefix_refl _, fun c hc => absurd hc List.not_mem_nil⟩
  | cons c cs ih =>
    rw [List.length_cons] at hroom
    have hgo : ¬ (h.pc = .pastTunnels ∨ h.openTunnelsCount = MAXIMUM_TUNNELS) := by
      rintro (h1 | h1)
      · exact hpc h1
      · omega
    unfold offered St.activateCandidates
    rw [if_neg hgo, if_neg hgo]
    by_cases hthrows : c.throws = true
    · obtain ⟨h1, h2, h3, h4⟩ := @ih h hlen (by omega) hpc
      rw [if_pos hthrows, if_pos hthrows, h1]
      refine ⟨rfl, h2, h3, fun c' hc => ?_⟩
      rcases List.mem_cons.mp hc with rfl | hc
      · exact .inl hthrows
      · exact h4 c' hc
    · have he : h.activateTunnel c = { h with
          tunnelIDCount := h.tunnelIDCount + 1
          handedOut := h.handedOut ++ [c.socket]
          tunnels := h.tunnels ++ [.new h.tunnelIDCount c.socket]
          openTunnelsCount := h.openTunnelsCount + 1 } := if_pos hlen
      have hlen' : (h.activateTunnel c).openTunnelsCount = (h.activateTunnel c).tunnels.length := by
        rw [he]
        show h.openTunnelsCount + 1 = (h.tunnels ++ [_]).length
        rw [List.length_append, List.length_singleton, hlen]
      have hmem : Tunnel.new h.tunnelIDCount c.socket ∈ (h.activateTunnel c).tunnels := by
        rw [he]
        exact List.mem_append_right _ (List.mem_singleton.mpr rfl)
      have hfront : h.tunnels <+: (h.activateTunnel c).tunnels := by
        rw [he]
        exact List.prefix_append _ _
      have hcount : (h.activateTunnel c).openTunnelsCount = h.openTunnelsCount + 1 := by rw [he]
      have hpc' : (h.activateTunnel c).pc ≠ .pastTunnels := by
        rw [he]
        exact hpc
      obtain ⟨h1, h2, h3, h4⟩ := ih hlen' (by omega) hpc'
      rw [if_neg hthrows, if_neg hthrows, h1]
      refine ⟨rfl, h2, hfront.trans h3, fun c' hc => ?_⟩
      rcases List.mem_cons.mp hc with rfl | hc
      · exact .inr ⟨_, h3.subset hmem, rfl, rfl⟩
      · exact h4 c' hc

/-- candidates that `sendObject` throws for change nothing -/
theorem offered_throw {cs : List TunnelCandidate} (hthrow : ∀ c ∈ cs, c.throws = true)
    (hfull : h.openTunnelsCount ≠ MAXIMUM_TUNNELS) (hpc : h.pc ≠ .pastTunnels) :
    offered cs h = cs := by
  induction cs with
  | nil => rfl
  | cons c cs ih =>
    unfold offered
    rw [if_neg (not_or.mpr ⟨hpc, hfull⟩), if_pos (hthrow c List.mem_cons_self),
      ih fun c' hc => hthrow c' (List.mem_cons_of_mem _ hc)]

/-- **An activation that uses no object again serves every candidate.** -/
theorem activate_serves (hs : InUse h) (hfresh : reusesTunnel h = false) :
    Served h h.activate ∧ (h.pc ≠ .stopped → h.activate.pc ≠ .stopped) := by
  have hroom := hs.room
  have hend : h.activate.tunnels = (St.activateCandidates h.tunnelCandidates h).tunnels ∧
      h.activate.openTunnelsCount = (St.activateCandidates h.tunnelCandidates h).openTunnelsCount ∧
      h.activate.pc ≠ .stopped := by
    unfold St.activate
    dsimp only
    split_ifs with hpast
    · exact ⟨rfl, rfl, by rw [hpast]; decide⟩
    · exact ⟨rfl, rfl, Pc.noConfusion⟩
  obtain ⟨htunnels, hcount, hpc⟩ := hend
  refine ⟨?_, fun _ => hpc⟩
  by_cases hlen : h.openTunnelsCount = h.tunnels.length
  · obtain ⟨h1, h2, _, h4⟩ := activateCandidates_opens hlen hroom hs.inside
    refine ⟨h1, fun c hc => (h4 c hc).imp_right ?_⟩
    rintro ⟨t, ht, hsocket, hopen⟩
    obtain ⟨k, hk⟩ := List.mem_iff_getElem?.mp ht
    have hlt := (List.getElem?_eq_some_iff.mp hk).1
    exact ⟨k, t, by rw [htunnels]; exact hk, by rw [hcount, h2]; exact hlt, hsocket, hopen⟩
  · by_cases hfull : h.openTunnelsCount = MAXIMUM_TUNNELS
    · have hnil : h.tunnelCandidates = [] := List.eq_nil_of_length_eq_zero (by omega)
      constructor
      · rw [hnil]
        rfl
      · rw [hnil]
        exact fun c hc => absurd hc List.not_mem_nil
    · have hthrow := all_throw hfresh hlen hfull
      exact ⟨offered_throw hthrow hfull hs.inside, fun c hc => .inl (hthrow c hc)⟩

end

/-! ## runs -/

/-- what holds between two moves -/
structure Accounted (w : World) : Prop where
  inUse : InUse w.handler
  waiting : w.calls ≠ [] → w.started = true

section
variable {IP_MSS : U16} {w : World}

theorem started_iff : w.started = true ↔ w.handler.pc ≠ .stopped := decide_eq_true_iff

theorem addTunnelSocket_keeps (h : St) (c : TunnelCandidate) :
    (h.addTunnelSocket c).2.pc = h.pc ∧
      h.tunnelCandidates <+: (h.addTunnelSocket c).2.tunnelCandidates := by
  unfold St.addTunnelSocket
  split_ifs
  · exact ⟨rfl, List.prefix_refl _⟩
  · exact ⟨rfl, List.prefix_append _ _⟩

/-- what a step of the thread, or of its surroundings, comes to -/
theorem handlerStep_cases (i : Input) (hok : Sound w (.handler i)) : w.handlerStep IP_MSS i = w ∨
    ∃ stop go, w.handlerStep IP_MSS i =
        { w with handler := step IP_MSS w.handler i, shouldStop := stop, goesOn := go } ∧
      i ≠ .exit ∧ (∀ c, i ≠ .addTunnelSocket c) ∧ FreshTunnels w.handler i := by
  cases i with
  | exit => exact .inl rfl
  | addTunnelSocket c => exact .inl rfl
  | activate =>
    unfold World.handlerStep
    dsimp only
    split_ifs with hgo
    · exact .inr ⟨_, _, rfl, Input.noConfusion, fun _ => Input.noConfusion, hok hgo⟩
    · exact .inl rfl
  | start tcpPacket =>
    unfold World.handlerStep
    dsimp only
    split_ifs
    · exact .inl rfl
    · exact .inr ⟨_, _, rfl, Input.noConfusion, fun _ => Input.noConfusion, trivial⟩
  | _ => exact .inr ⟨_, _, rfl, Input.noConfusion, fun _ => Input.noConfusion, trivial⟩

/-- a step of the thread that is no move of its own, or an activation -/
theorem step_keeps (h : St) (hs : InUse h) (i : Input) (hfresh : FreshTunnels h i) (hexit : i ≠ .exit)
    (hadd : ∀ c, i ≠ .addTunnelSocket c) :
    (h.pc ≠ .stopped → (step IP_MSS h i).pc ≠ .stopped) ∧
      (h.tunnelCandidates <+: (step IP_MSS h i).tunnelCandidates ∨ Served h (step IP_MSS h i)) := by
  by_cases hactivate : i = .activate
  · subst hactivate
    show (_ → (if h.hung then h else h.thread IP_MSS .activate).pc ≠ .stopped) ∧
      (_ <+: (if h.hung then h else h.thread IP_MSS .activate).tunnelCandidates ∨
        Served h (if h.hung then h else h.thread IP_MSS .activate))
    by_cases hhung : h.hung = true
    · rw [if_pos hhung]
      exact ⟨id, .inl (List.prefix_refl _)⟩
    rw [if_neg hhung]
    show (_ → (if h.pc = .waiting ∧ h.pred then h.activate else h).pc ≠ .stopped) ∧
      (_ <+: (if h.pc = .waiting ∧ h.pred then h.activate else h).tunnelCandidates ∨
        Served h (if h.pc = .waiting ∧ h.pred then h.activate else h))
    by_cases hgo : h.pc = .waiting ∧ h.pred = true
    · rw [if_pos hgo]
      obtain ⟨h1, h2⟩ := activate_serves hs (hfresh hgo.1 (by simpa using hhung))
      exact ⟨h2, .inr h1⟩
    · rw [if_neg hgo]
      exact ⟨id, .inl (List.prefix_refl _)⟩
  · have hon : RunsOn h (step IP_MSS h i) := step_runsOn i hexit hactivate hadd
    refine ⟨hon.started, .inl ?_⟩
    rw [hon.candidates]

/-- **What one move preserves.** -/
theorem move_accounted (w : World) (m : Move) (h : Accounted w) (hok : Sound w m) :
    Accounted (move IP_MSS w m) := by
  cases m with
  | test c =>
    show Accounted (if w.started then { w with calls := w.calls ++ [c] } else w)
    split_ifs with hstarted
    · exact ⟨h.inUse, fun _ => hstarted⟩
    · exact h
  | append k =>
    show Accounted (w.append k)
    unfold World.append
    cases hc : w.calls[k]? with
    | none => exact h
    | some c =>
      refine ⟨addTunnelSocket_inUse h.inUse c, fun _ => started_iff.mpr ?_⟩
      have hne : w.calls ≠ [] := fun hnil => by
        rw [hnil] at hc
        cases hc
      show (w.handler.addTunnelSocket c).2.pc ≠ .stopped
      rw [(addTunnelSocket_keeps w.handler c).1]
      exact started_iff.mp (h.waiting hne)
  | stop =>
    show Accounted (if w.started then { w with shouldStop := true } else w)
    split_ifs
    · exact ⟨h.inUse, h.waiting⟩
    · exact h
  | decide timedOut =>
    show Accounted (w.decideExit IP_MSS timedOut)
    unfold World.decideExit
    split_ifs with hleaves
    · exact ⟨step_inUse w.handler .exit h.inUse trivial, fun hc => absurd (hok hleaves) hc⟩
    · exact ⟨h.inUse, h.waiting⟩
    · exact h
  | handler i =>
    show Accounted (w.handlerStep IP_MSS i)
    rcases @handlerStep_cases IP_MSS w i hok with he | ⟨stop, go, he, hexit, hadd, hfresh⟩
    · rw [he]
      exact h
    · obtain ⟨hstarted, _⟩ := @step_keeps IP_MSS w.handler h.inUse i hfresh hexit hadd
      rw [he]
      exact ⟨step_inUse w.handler i h.inUse hfresh, fun hc =>
        started_iff.mpr (hstarted (started_iff.mp (h.waiting hc)))⟩

/-- **A sound move strands nobody.** -/
theorem move_notStranded (w : World) (m : Move) (h : Accounted w) (hok : Sound w m) :
    NotStranded IP_MSS w m := by
  have running : ∀ k c, m = .append k → w.calls[k]? = some c → (w.handler.addTunnelSocket c).1 = true →
      w.started = true := by
    intro k c _ hc _
    exact h.waiting fun hnil => by
      rw [hnil] at hc
      cases hc
  refine ⟨running, ?_⟩
  cases m with
  | test c =>
    refine .inl ?_
    show _ <+: (if w.started then { w with calls := w.calls ++ [c] } else w).handler.tunnelCandidates
    split_ifs <;> exact List.prefix_refl _
  | append k =>
    refine .inl ?_
    show _ <+: (w.append k).handler.tunnelCandidates
    unfold World.append
    cases w.calls[k]? with
    | none => exact List.prefix_refl _
    | some c => exact (addTunnelSocket_keeps w.handler c).2
  | stop =>
    refine .inl ?_
    show _ <+: (if w.started then { w with shouldStop := true } else w).handler.tunnelCandidates
    split_ifs <;> exact List.prefix_refl _
  | decide timedOut =>
    refine .inl ?_
    show _ <+: (w.decideExit IP_MSS timedOut).handler.tunnelCandidates
    unfold World.decideExit
    split_ifs
    · show _ <+: (if w.handler.hung then w.handler else
        if w.handler.pc = .waiting then { w.handler with pc := .stopped } else w.handler).tunnelCandidates
      split_ifs <;> exact List.prefix_refl _
    · exact List.prefix_refl _
    · exact List.prefix_refl _
  | handler i =>
    show _ <+: (w.handlerStep IP_MSS i).handler.tunnelCandidates ∨
      Served w.handler (w.handlerStep IP_MSS i).handler
    rcases @handlerStep_cases IP_MSS w i hok with he | ⟨stop, go, he, hexit, hadd, hfresh⟩
    · rw [he]
      exact .inl (List.prefix_refl _)
    · rw [he]
      exact (@step_keeps IP_MSS w.handler h.inUse i hfresh hexit hadd).2

end

/-- **No accepted socket is stranded** in a run in which the thread never leaves its loop beside a call
of `addTunnelSocket` that has read `started`, and no activation uses a tunnel object again. -/
theorem none_stranded (IP_MSS : U16) (shared : Sessions2.Shared) (tcpPacket : Sessions2.Packet)
    {moves : List Move}
    (hmoves : Along (move IP_MSS) Sound (World.init shared tcpPacket) moves) :
    Along (move IP_MSS) (NotStranded IP_MSS) (World.init shared tcpPacket) moves := by
  have h0 : Accounted (World.init shared tcpPacket) :=
    ⟨inUse_init shared tcpPacket, fun hc => absurd rfl hc⟩
  exact along_inv Accounted move_accounted move_notStranded h0 hmoves

open Sessions2 (unwatched uploadSyn)

/-- a socket is accepted and gets a tunnel, and nothing else happens in the turn -/
def servedInTurn (socket : Nat) : List Move :=
  [.test ⟨socket, false⟩, .append 0, .decide false] ++
    [.activate, .evaluate, .select ∅ ∅ ∅ 0, .tunnel, .session ⟨.wouldBlock, 0, 1, 0, .wouldBlock, 0, 0⟩,
     .clock 0].map .handler

/-- Two sockets get tunnels; then the thread is told to stop and leaves, and a third call comes too late. -/
def twoSockets : List Move :=
  .handler (.start uploadSyn) :: servedInTurn 3 ++ servedInTurn 4 ++ [.stop, .decide false, .test ⟨5, false⟩]

theorem none_stranded_two_sockets :
    let w := run (move 576) (World.init unwatched uploadSyn) twoSockets
    w.started = false ∧ w.handler.openTunnelsCount = 2 ∧ w.calls = [] ∧
      Along (move 576) (NotStranded 576) (World.init unwatched uploadSyn) twoSockets :=
  ⟨by decide, by decide, by decide, none_stranded 576 unwatched uploadSyn (by decide)⟩

/-- The call reads `started`, the thread times out and leaves, and then the socket is accepted. -/
theorem stranded :
    ¬ ∀ (IP_MSS : U16) (shared : Sessions2.Shared) (tcpPacket : Sessions2.Packet) (moves : List Move),
      Along (move IP_MSS) (NotStranded IP_MSS) (World.init shared tcpPacket) moves := by
  intro h
  obtain ⟨_, _, _, h1, _⟩ := h 576 unwatched uploadSyn
    [.handler (.start uploadSyn), .test ⟨3, false⟩, .decide true, .append 0]
  have h2 := h1.running 0 ⟨3, false⟩ rfl rfl (by decide)
  revert h2
  decide

end TunServer.Handler
