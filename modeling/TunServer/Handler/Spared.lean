import TunServer.Handler.Countdown

/-!
# When nothing is lost between `select` and the loops

`Lasting` speaks of the tunnels and sessions that `select` reports, and of the state behind the events of a
turn.  Where the fronts of both lists are kept, it follows from what comes into the steps.

* `Shut`             only tunnels in use are open;
* `Spared`           the condition on what comes into the steps;
* `Undisturbed`      with the conditions for the two fronts and for the loop over the sessions;
* `lasting_spared`   that is enough for `Lasting`.
-/

set_option linter.unusedVariables false

namespace TunServer.Handler

/-- a tunnel that is open is in use -/
def Shut (h : St) : Prop := ∀ t ∈ h.tunnels, t.isOpen = true → t.active = true

/-- A tunnel that fails its check is closed; no tunnel closes, and no packet closes or opens a session, with
something reported that is not counted down yet; and a session that is in `err` is in no other set. -/
def Spared (IP_MSS : U16) (h : St) : Input → Prop
  | .checkTunnel status => h.pc = .tickTunnels → h.hung = false → status = false →
      ∀ t ∈ h.tunnels[h.iterator]?, t.isOpen = false
  | .session _ => h.pc = .sessions → h.hung = false → h.isReady h.err = true →
      h.isReady h.rcv = false ∧ h.isReady h.snd = false
  | .closeTunnel j => Settled h j
  | .deleteTunnel id => h.pc = .packets → h.hung = false →
      ∀ j ∈ (h.tunnels.take h.openTunnelsCount).findIdx? fun t => t.id = id, Settled h j
  | .packet p i => h.pc = .packets → h.hung = false → Harmless h (taker IP_MSS h p.val) p.val i
  | _ => True

instance (IP_MSS : U16) (h : St) : ∀ i, Decidable (Spared IP_MSS h i)
  | .checkTunnel _ => inferInstanceAs (Decidable (_ → _ → _ → _))
  | .session _ => inferInstanceAs (Decidable (_ → _ → _ → _))
  | .closeTunnel j => inferInstanceAs (Decidable (Settled h j))
  | .deleteTunnel _ => inferInstanceAs (Decidable (_ → _ → _))
  | .packet _ _ => inferInstanceAs (Decidable (_ → _ → _))
  | .start _ | .addTunnelSocket _ | .exit | .activate | .evaluate | .select _ _ _ _ | .tunnel | .packetsDone
  | .tunnelRest | .clock _ | .checkSession _ _ _ _ => .isTrue trivial

/-- the condition on a step: what the surroundings promise, what keeps the two fronts and lets the loop over
the sessions come to each of them, and what spares the reports -/
structure Undisturbed (IP_MSS : U16) (h : St) (i : Input) : Prop where
  reports : Reports IP_MSS h i
  counted : Counted h i
  advances : Advances IP_MSS h i
  fresh : FreshTunnels h i
  spared : Spared IP_MSS h i

instance (IP_MSS : U16) (h : St) (i : Input) : Decidable (Undisturbed IP_MSS h i) :=
  decidable_of_iff
    (Reports IP_MSS h i ∧ Counted h i ∧ Advances IP_MSS h i ∧ FreshTunnels h i ∧ Spared IP_MSS h i)
    ⟨fun ⟨h1, h2, h3, h4, h5⟩ => ⟨h1, h2, h3, h4, h5⟩, fun ⟨h1, h2, h3, h4, h5⟩ => ⟨h1, h2, h3, h4, h5⟩⟩

section
variable {IP_MSS : U16} {h g h' : St}

/-! ## closed tunnels -/

theorem Shut.same (hs : Shut h) (ht : h'.tunnels = h.tunnels) : Shut h' := by
  unfold Shut
  rw [ht]
  exact hs

theorem Shut.ite {c : Prop} [Decidable c] (hs : Shut h) (hg : c → Shut g) : Shut (if c then g else h) :=
  iteInduction hg fun _ => hs

theorem Shut.close (hs : Shut h) (k : Nat) : Shut { h with tunnels := h.tunnels.modify k Tunnel.close } := by
  intro t' ht' hopen
  obtain ⟨j, hj⟩ := List.mem_iff_getElem?.mp ht'
  rw [List.getElem?_modify] at hj
  obtain ⟨t, ht, he⟩ := Option.map_eq_some_iff.mp hj
  split_ifs at he
  · rw [← he] at hopen
    cases hopen
  · rw [← he] at hopen ⊢
    exact hs t (List.mem_of_getElem? ht) hopen

theorem Shut.deactivate (hs : Shut h) {t : Tunnel} (hopen : t.isOpen = false) (k : Nat) :
    Shut (h.deactivateTunnel k t) := by
  intro t' ht' hopen'
  rcases mem_toEnd ht' with ht' | rfl
  · exact hs t' ht' hopen'
  · exact absurd (hopen.symm.trans hopen') (by decide)

theorem Shut.activateTunnel (hs : Shut h) (c : TunnelCandidate) : Shut (h.activateTunnel c) := by
  unfold St.activateTunnel
  dsimp only
  split_ifs
  · intro t ht hopen
    rcases List.mem_append.mp ht with ht | ht
    · exact hs t ht hopen
    · rw [List.mem_singleton.mp ht]
      rfl
  · cases h.tunnels[h.openTunnelsCount]? with
    | none => exact hs
    | some t0 =>
      intro t ht hopen
      rcases List.mem_or_eq_of_mem_set ht with ht | rfl
      · exact hs t ht hopen
      · rfl

theorem Shut.activateCandidates (cs : List TunnelCandidate) (hs : Shut h) :
    Shut (St.activateCandidates cs h) := by
  induction cs generalizing h with
  | nil => exact hs
  | cons c cs ih =>
    unfold St.activateCandidates
    split_ifs
    · exact hs
    · exact ih hs
    · exact ih (hs.activateTunnel c)

theorem Shut.activate (hs : Shut h) : Shut h.activate := by
  unfold St.activate
  dsimp only
  split_ifs
  · exact hs.activateCandidates _
  · exact hs.activateCandidates _

theorem Shut.tunnelTurn (hs : Shut h) : Shut h.tunnelTurn := by
  unfold St.tunnelTurn
  split_ifs
  · exact hs
  · cases h.tunnels[h.iterator]? with
    | none => exact hs
    | some t =>
      dsimp only
      split_ifs <;> exact hs

theorem Shut.tunnelRest (hs : Shut h) : Shut h.tunnelRest := by
  have hclosed {g : St} (hg : Shut g) (t : Tunnel) (k : Nat) : Shut (g.deactivateTunnel k t.close) :=
    hg.deactivate rfl k
  unfold St.tunnelRest
  cases h.tunnels[h.iterator]? with
  | none => exact hs
  | some t =>
    dsimp only
    split_ifs
    · exact hclosed hs t _
    · exact hs
    · exact hclosed hs t _
    · exact hs

theorem Shut.onDeleteTunnelRequest (hs : Shut h) (id : U32) : Shut (h.onDeleteTunnelRequest id) := by
  unfold St.onDeleteTunnelRequest
  cases (h.tunnels.take h.openTunnelsCount).findIdx? fun t => t.id = id with
  | some k => exact hs.close k
  | none =>
    dsimp only
    split_ifs <;> exact hs

theorem Shut.checkTunnel (hs : Shut h) {status : Bool}
    (hok : status = false → ∀ t ∈ h.tunnels[h.iterator]?, t.isOpen = false) :
    Shut (h.checkTunnel status) := by
  unfold St.checkTunnel
  by_cases hdone : h.remaining = 0
  · rw [if_pos hdone]
    exact hs
  rw [if_neg hdone]
  cases ht : h.tunnels[h.iterator]? with
  | none => exact hs
  | some t =>
    cases status with
    | true => exact hs
    | false => exact Shut.deactivate (h := { h with remaining := h.remaining - 1 }) hs (hok rfl t ht) _

theorem thread_shut (hs : Shut h) (hhung : h.hung = false) (i : Input) (hok : Spared IP_MSS h i) :
    Shut (h.thread IP_MSS i) := by
  cases i with
  | exit | evaluate | select rcv snd err count | packetsDone => exact .ite hs fun _ => hs
  | activate => exact .ite hs fun _ => hs.activate
  | tunnel => exact .ite hs fun _ => hs.tunnelTurn
  | packet p i =>
    exact .ite hs fun _ => hs.same (dispatched_tunnels (@dispatch_dispatched IP_MSS h p.val i)).1.tunnels
  | deleteTunnel id => exact .ite hs fun _ => hs.onDeleteTunnelRequest id
  | tunnelRest => exact .ite hs fun _ => hs.tunnelRest
  | session x =>
    refine .ite hs fun _ => hs.same ?_
    have hp := (@polled_worked IP_MSS h x).tunnels.1.tunnels
    have ht := @sessionTurn_turn IP_MSS h x
    generalize h.sessionTurn IP_MSS x = g at ht
    cases ht with
    | done | past => rfl
    | hangs | stays => exact hp
    | @leaves g d _ _ _ hw =>
      exact (deactivateSession_tunnels g h.iterator).1.tunnels.trans hw.tunnels.1.tunnels
  | clock now =>
    refine .ite hs fun _ => hs.same ?_
    unfold St.clockTurn
    split_ifs <;> rfl
  | checkTunnel status => exact .ite hs fun hpc => hs.checkTunnel (hok hpc hhung)
  | checkSession now now' nowFlush turns =>
    refine .ite hs fun _ => hs.same ?_
    have ht := @checkSession_turn IP_MSS h now now' nowFlush turns
    generalize h.checkSession IP_MSS now now' nowFlush turns = g at ht
    cases ht with
    | done | past => rfl
    | stays _ hw => exact hw.tunnels.1.tunnels
    | @leaves g d _ hw =>
      exact (deactivateSession_tunnels g h.iterator).1.tunnels.trans hw.tunnels.1.tunnels
  | start tcpPacket | addTunnelSocket c | closeTunnel k => exact hs

theorem step_shut (hs : Shut h) (i : Input) (hok : Spared IP_MSS h i) : Shut (step IP_MSS h i) := by
  have hthread : Shut (if h.hung then h else h.thread IP_MSS i) := by
    split_ifs with hhung
    · exact hs
    · exact thread_shut hs (by simpa using hhung) i hok
  cases i with
  | start tcpPacket => exact .ite hs fun _ => hs
  | addTunnelSocket c =>
    unfold step St.addTunnelSocket
    dsimp only
    split_ifs <;> exact hs
  | closeTunnel k => exact hs.close k
  | _ => exact hthread

/-! ## the conditions -/

/-- whatever is reported, it stands in front -/
theorem inFront_kept (hscheduled : Scheduled h) (hused : InUse h) (hsockets : Sockets h) (hshut : Shut h)
    (reported : Sessions2.FdSets → Finset Nat) : InFront h reported := by
  refine fun k => ⟨fun t ht fd hfd _ => ?_, fun d hd fd hfd _ => ?_⟩
  · obtain ⟨j, hj⟩ := List.mem_iff_getElem?.mp ht
    rw [List.getElem?_drop] at hj
    have hactive := hshut t (List.mem_of_getElem? hj) (Tunnel.held_eq_some.mp hfd).1
    have hlt := hused.front _ t hj hactive
    omega
  · obtain ⟨j, hj⟩ := List.mem_iff_getElem?.mp hd
    rw [List.getElem?_drop] at hj
    have hlive : Live d := fun hc => by
      rw [hsockets.closed d (List.mem_of_getElem? hj) hc] at hfd
      cases hfd
    have hlt := hscheduled.front _ d hj hlive
    omega

/-- a turn in which the session has no other events -/
theorem polled_quiet (x : Events) (hrcv : h.isReady h.rcv = false) (hsnd : h.isReady h.snd = false) :
    h.polled IP_MSS x = h := by
  have hno (op : Sessions2.Op) : h.event IP_MSS false op = h := rfl
  unfold St.polled
  dsimp only
  rw [hrcv, hno, hsnd, hno]
  split_ifs <;> rfl

theorem finishes_kept {x : Events} (hpc : h.pc = .sessions) (hhung : h.hung = false)
    (hadvances : Advances IP_MSS h (.session x)) (hspared : Spared IP_MSS h (.session x)) :
    Finishes IP_MSS h x := by
  intro hmore hcount hpolled
  refine ⟨fun herr => ?_, fun hnext hleft => hadvances hpc hhung hnext hcount hpolled hleft⟩
  obtain ⟨hrcv, hsnd⟩ := hspared hpc hhung herr
  rw [polled_quiet x hrcv hsnd]
  exact herr

theorem Undisturbed.lasting {i : Input} (hok : Undisturbed IP_MSS h i) (hscheduled : Scheduled h)
    (hused : InUse h) (hsockets : Sockets h) (hshut : Shut h) : Lasting IP_MSS h i := by
  cases i with
  | select rcv snd err count => exact fun _ _ _ => inFront_kept hscheduled hused hsockets hshut _
  | session x => exact fun hpc hhung => finishes_kept hpc hhung hok.advances hok.spared
  | closeTunnel j => exact hok.spared
  | deleteTunnel id => exact hok.spared
  | packet p i => exact hok.spared
  | _ => trivial

end

/-- **Nothing is lost** in a run that keeps the fronts of both lists and spares the reports. -/
theorem lasting_spared (IP_MSS : U16) (lastTimeSentAcknowledge : Int) (tcpPacket : Sessions2.Packet)
    {inputs : List Input}
    (hinputs : Along (step IP_MSS) (Undisturbed IP_MSS)
      (.init ⟨fun _ => ∅, lastTimeSentAcknowledge⟩ tcpPacket) inputs) :
    Along (step IP_MSS) (fun h i => Reports IP_MSS h i ∧ Lasting IP_MSS h i)
      (.init ⟨fun _ => ∅, lastTimeSentAcknowledge⟩ tcpPacket) inputs := by
  let Inv (h : St) : Prop := Scheduled h ∧ InUse h ∧ Sockets h ∧ Shut h
  have h0 : Inv (.init ⟨fun _ => ∅, lastTimeSentAcknowledge⟩ tcpPacket) := by
    refine ⟨?_, inUse_init _ tcpPacket, ⟨List.nodup_nil, fun k fd hfd => ?_, fun d hd => ?_⟩, fun t ht => ?_⟩
    · exact ⟨Within.nil, Nat.zero_le _, Pc.noConfusion, Pc.noConfusion, Pc.noConfusion⟩
    · exact absurd hfd (Finset.notMem_empty fd)
    · cases hd
    · cases ht
  refine along_inv Inv ?_ ?_ h0 hinputs
  · rintro h i ⟨h1, h2, h3, h4⟩ hok
    have hused := @step_inUse IP_MSS h i h2 hok.fresh
    exact ⟨step_scheduled h i h1 hok.counted, hused,
      step_sockets h i h3 hok.reports.newSockets hused.inside, step_shut h4 i hok.spared⟩
  · rintro h i ⟨h1, h2, h3, h4⟩ hok
    exact ⟨hok.reports, hok.lasting h1 h2 h3 h4⟩

open Sessions2 (uploadSyn)

example : Along (step 576) (Undisturbed 576) (.init ⟨fun _ => ∅, 0⟩ uploadSyn) bothCounted := by decide

end TunServer.Handler
