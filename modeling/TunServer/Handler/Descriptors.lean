import TunServer.Handler.Scheduling
import TunServer.Handler.Tunnels

/-!
# The descriptors that `select` looks at

`select` sees the descriptors below `maxFD`, which is evaluated again only if one of the two counts
changed since the last call of `select`.

* `Holds`           the socket of an open tunnel or of a session that is not closed;
* `Covered`         such a socket is below `maxFD`, or was handed out since the last call of `select`;
* `Noticed`         the condition on the steps;
* `OneWay`          between two calls of `select` neither count goes up and down, and what opens is counted;
* `noticed_oneWay`  that is enough for it;
* `select_sees`     the descriptors at a call of `select`.
-/

set_option linter.unusedVariables false

namespace TunServer.Handler

/-- an open tunnel or a session that is not closed has this socket -/
def Holds (h : St) (socket : Option Nat) : Prop :=
  (∃ t ∈ h.tunnels, t.isOpen = true ∧ some t.socket = socket) ∨
    ∃ d ∈ h.tcpSessions, Live d ∧ d.socket = socket

instance (h : St) (socket : Option Nat) : Decidable (Holds h socket) :=
  inferInstanceAs (Decidable (_ ∨ _))

/-- Where the counts are what they were at the last call of `select`, no descriptor that was handed
out since, and is still held, is out of sight. -/
def Noticed (h : St) : Input → Prop
  | .evaluate => h.pc = .activated → h.hung = false → h.countsDiffer = false →
      ∀ fd ∈ h.handedOut, Holds h (some fd) → fd < h.maxFD
  | _ => True

instance (h : St) : ∀ i, Decidable (Noticed h i)
  | .evaluate => inferInstanceAs (Decidable (_ → _ → _ → _))
  | .start _ | .addTunnelSocket _ | .closeTunnel _ | .exit | .activate | .select _ _ _ _
  | .tunnel | .packet _ _ | .deleteTunnel _ | .packetsDone | .tunnelRest | .session _ | .clock _
  | .checkTunnel _ | .checkSession _ _ _ _ => .isTrue trivial

/-- what holds between two steps -/
structure Covered (h : St) : Prop where
  below : ∀ socket, Holds h socket → ∃ fd, socket = some fd ∧ (fd < h.maxFD ∨ fd ∈ h.handedOut)
  fresh : h.pc = .selecting → h.handedOut = []

section
variable {IP_MSS : U16} {h g h' : St}

/-! ## `evalMaxFD` -/

/-- a socket that is held is below what `evalMaxFD` gives -/
theorem lt_evalMaxFD {fd : Nat} (hfd : Holds h (some fd)) : fd < h.evalMaxFD := by
  unfold St.evalMaxFD
  refine le_foldl_foldl (fun r t => ?_) (fun r d => ?_) ?_ 0
  · split_ifs
    · exact Nat.le_max_right _ _
    · exact Nat.le_refl r
  · split_ifs
    · cases d.socket with
      | some fd => exact Nat.le_max_right _ _
      | none => exact Nat.le_refl r
    · exact Nat.le_refl r
  · rcases hfd with ⟨t, ht, hopen, he⟩ | ⟨d, hd, hlive, he⟩
    · cases he
      refine .inl ⟨t, ht, fun r => ?_⟩
      rw [if_pos hopen]
      exact Nat.le_max_left _ _
    · refine .inr ⟨d, hd, fun r => ?_⟩
      rw [if_pos (show d.state ≠ .CLOSED from hlive), he]
      exact Nat.le_max_left _ _

/-! ## steps that hand out descriptors -/

/-- Each socket that is held after the step was held before, or was handed out. -/
structure Hands (h h' : St) : Prop where
  maxFD : h'.maxFD = h.maxFD
  handedOut : h.handedOut ⊆ h'.handedOut
  held : ∀ socket, Holds h' socket → Holds h socket ∨ ∃ fd ∈ h'.handedOut, socket = some fd

theorem Hands.refl (h : St) : Hands h h := ⟨rfl, List.Subset.refl _, fun _ => .inl⟩

theorem Hands.trans (h1 : Hands h g) (h2 : Hands g h') : Hands h h' := by
  refine ⟨h2.maxFD.trans h1.maxFD, List.Subset.trans h1.handedOut h2.handedOut, fun socket hh => ?_⟩
  rcases h2.held socket hh with hg | hnew
  · rcases h1.held socket hg with hh | ⟨fd, hfd, he⟩
    · exact .inl hh
    · exact .inr ⟨fd, h2.handedOut hfd, he⟩
  · exact .inr hnew

/-- the step hands nothing out, and leaves the sessions alone -/
theorem Hands.tunnels (hmax : h'.maxFD = h.maxFD) (hout : h'.handedOut = h.handedOut)
    (hsessions : h'.tcpSessions = h.tcpSessions)
    (htunnels : ∀ t' ∈ h'.tunnels, t'.isOpen = true →
      ∃ t ∈ h.tunnels, t.isOpen = true ∧ t.socket = t'.socket) : Hands h h' := by
  refine ⟨hmax, hout ▸ List.Subset.refl _, fun socket hh => .inl ?_⟩
  rcases hh with ⟨t', ht', hopen', he⟩ | hd
  · obtain ⟨t, ht, hopen, hs⟩ := htunnels t' ht' hopen'
    exact .inl ⟨t, ht, hopen, by rw [hs, he]⟩
  · rw [hsessions] at hd
    exact .inr hd

/-- the step leaves tunnels and sessions alone -/
theorem Hands.same (hmax : h'.maxFD = h.maxFD) (hout : h'.handedOut = h.handedOut)
    (hsessions : h'.tcpSessions = h.tcpSessions) (htunnels : h'.tunnels = h.tunnels) : Hands h h' :=
  .tunnels hmax hout hsessions fun t ht hopen => ⟨t, htunnels ▸ ht, hopen, rfl⟩

/-- calls of sessions hand nothing out that the session did not hold -/
theorem Worked.hands (hw : Worked h g) : Hands h g := by
  obtain ⟨ds, _, _, _, _, fds, _, hds, rfl⟩ := hw
  refine ⟨rfl, List.subset_append_left _ _, fun socket hh => .inl ?_⟩
  rcases hh with ht | ⟨d', hd', hlive, he⟩
  · exact .inl ht
  · obtain ⟨k, hk⟩ := List.mem_iff_getElem?.mp hd'
    obtain ⟨d, hd, hages⟩ := Older.get hds hk
    obtain ⟨h1, h2, _⟩ := hages hlive
    exact .inr ⟨d, List.mem_of_getElem? hd, h1, by rw [← h2, he]⟩

theorem deactivateSession_hands (h : St) (k : Nat) : Hands h (h.deactivateSession k) := by
  unfold St.deactivateSession
  cases hd : h.tcpSessions[k]? with
  | none => exact .refl h
  | some d =>
    refine ⟨rfl, List.Subset.refl _, fun socket hh => .inl ?_⟩
    rcases hh with ht | ⟨d', hd', hlive, he⟩
    · exact .inl ht
    · rcases mem_toEnd hd' with hd' | rfl
      · exact .inr ⟨d', hd', hlive, he⟩
      · exact .inr ⟨d', List.mem_of_getElem? hd, hlive, he⟩

/-- a packet goes to a session: the socket it opens is handed out -/
theorem put_hands (IP_MSS : U16) {j : Nat} {d : Sessions2.Data} (hd : h.tcpSessions[j]? = some d)
    (p : Sessions2.Incoming) (i : Sessions2.ClientInput) :
    Hands h (h.put j d (Sessions2.receiveFromClient IP_MSS (h.sessionAt d) p.val i).2) := by
  refine ⟨rfl, List.subset_append_left _ _, fun socket hh => ?_⟩
  rcases hh with ht | ⟨d', hd', hlive, he⟩
  · exact .inl (.inl ht)
  · rcases List.mem_or_eq_of_mem_set hd' with hd' | rfl
    · exact .inl (.inr ⟨d', hd', hlive, he⟩)
    · have hlife := Sessions2.receiveFromClient_life IP_MSS (h.sessionAt d) p i
      cases hlife with
      | kept state hsocket =>
        refine .inl (.inr ⟨d, List.mem_of_getElem? hd, fun hs => hlive (state.mpr hs), ?_⟩)
        rw [← he, hsocket]
        rfl
      | closed state => exact absurd state hlive
      | opened hopens _ hsocket =>
        refine .inr ⟨i.fd, List.mem_append_right _ ?_, by rw [← he, hsocket]⟩
        have hclosed : d.state = .CLOSED := (of_decide_eq_true hopens).1
        show i.fd ∈ St.newSocket d _
        unfold St.newSocket
        rw [if_pos hclosed, hsocket]
        exact List.mem_singleton_self _

theorem dispatched_hands {p : Sessions2.Incoming} {i : Sessions2.ClientInput}
    (hd : Dispatched IP_MSS h p.val i h') : Hands h h' := by
  cases hd with
  | taken hd => exact put_hands IP_MSS hd p i
  | dropped => exact .refl h
  | created =>
    have hnew : Hands h { h with tcpSessions := h.tcpSessions ++ [Sessions2.Data.init IP_MSS] } := by
      refine ⟨rfl, List.Subset.refl _, fun socket hh => .inl ?_⟩
      rcases hh with ht | ⟨d', hd', hlive, he⟩
      · exact .inl ht
      · rcases List.mem_append.mp hd' with hd' | hd'
        · exact .inr ⟨d', hd', hlive, he⟩
        · rw [List.mem_singleton.mp hd'] at hlive
          exact absurd rfl hlive
    have hput := hnew.trans (put_hands IP_MSS List.getElem?_concat_length p i)
    unfold St.createSession
    dsimp only
    split_ifs
    · exact hput.trans (.same rfl rfl rfl rfl)
    · exact hput

theorem activateTunnel_hands (h : St) (c : TunnelCandidate) : Hands h (h.activateTunnel c) := by
  have hout : h.handedOut ⊆ h.handedOut ++ [c.socket] := List.subset_append_left _ _
  have hnew : c.socket ∈ h.handedOut ++ [c.socket] := List.mem_append_right _ (List.mem_singleton_self _)
  unfold St.activateTunnel
  dsimp only
  split_ifs
  · refine ⟨rfl, hout, fun socket hh => ?_⟩
    rcases hh with ⟨t, ht, hopen, he⟩ | hd
    · rcases List.mem_append.mp ht with ht | ht
      · exact .inl (.inl ⟨t, ht, hopen, he⟩)
      · rw [List.mem_singleton.mp ht] at he
        exact .inr ⟨c.socket, hnew, he.symm⟩
    · exact .inl (.inr hd)
  · cases h.tunnels[h.openTunnelsCount]? with
    | none => exact ⟨rfl, hout, fun socket hh => .inl hh⟩
    | some t0 =>
      refine ⟨rfl, hout, fun socket hh => ?_⟩
      rcases hh with ⟨t, ht, hopen, he⟩ | hd
      · rcases List.mem_or_eq_of_mem_set ht with ht | rfl
        · exact .inl (.inl ⟨t, ht, hopen, he⟩)
        · exact .inr ⟨c.socket, hnew, he.symm⟩
      · exact .inl (.inr hd)

theorem activateCandidates_hands (cs : List TunnelCandidate) (h : St) :
    Hands h (St.activateCandidates cs h) := by
  induction cs generalizing h with
  | nil => exact .refl h
  | cons c cs ih =>
    unfold St.activateCandidates
    split_ifs
    · exact .refl h
    · exact ih h
    · exact (activateTunnel_hands h c).trans (ih _)

theorem activate_hands (h : St) : Hands h h.activate := by
  unfold St.activate
  dsimp only
  split_ifs
  · exact activateCandidates_hands _ h
  · exact (activateCandidates_hands _ h).trans (.same rfl rfl rfl rfl)

theorem modify_hands (h : St) (k : Nat) : Hands h { h with tunnels := h.tunnels.modify k Tunnel.close } := by
  refine .tunnels rfl rfl rfl fun t' ht' hopen => ?_
  obtain ⟨j, hj⟩ := List.mem_iff_getElem?.mp ht'
  rw [List.getElem?_modify] at hj
  obtain ⟨t, ht, he⟩ := Option.map_eq_some_iff.mp hj
  split_ifs at he
  · rw [← he] at hopen
    cases hopen
  · exact ⟨t, List.mem_of_getElem? ht, he ▸ hopen, he ▸ rfl⟩

/-- a tunnel moves to the end, open or closed -/
theorem deactivateTunnel_hands {k : Nat} {t t' : Tunnel} (ht : h.tunnels[k]? = some t)
    (hopen : t'.isOpen = true → t' = t) : Hands h (h.deactivateTunnel k t') := by
  refine .tunnels rfl rfl rfl fun u hu huopen => ?_
  rcases mem_toEnd hu with hu | rfl
  · exact ⟨u, hu, huopen, rfl⟩
  · have he : t' = t := hopen huopen
    exact ⟨t, List.mem_of_getElem? ht, he ▸ huopen, by rw [he]⟩

/-! ## every step -/

/-- the step is no evaluation of `maxFD`, and does not bring the thread to `select` -/
structure Aside (h h' : St) : Prop where
  hands : Hands h h'
  waits : h'.pc = .selecting → h' = h

theorem Aside.refl (h : St) : Aside h h := ⟨.refl h, fun _ => rfl⟩

theorem Aside.of_pc (hh : Hands h h') (pc : Pc) (hpc : h'.pc = pc) (hne : pc ≠ .selecting) : Aside h h' :=
  ⟨hh, fun h1 => absurd (hpc.symm.trans h1) hne⟩

theorem Aside.ite {c : Prop} [Decidable c] (hg : c → Aside h g) : Aside h (if c then g else h) :=
  iteInduction hg fun _ => .refl h

theorem sessionTurn_aside {x : Events} (hpc : h.pc = .sessions) (ht : SessionTurn IP_MSS h x h') :
    Aside h h' := by
  have hw := @polled_worked IP_MSS h x
  have hp := hw.tunnels.2.trans hpc
  cases ht with
  | done => exact .of_pc (.same rfl rfl rfl rfl) .clock rfl (by decide)
  | past => exact .of_pc (.same rfl rfl rfl rfl) .pastSessions rfl (by decide)
  | hangs => exact .of_pc hw.hands .sessions hp (by decide)
  | stays => exact .of_pc (hw.hands.trans (.same rfl rfl rfl rfl)) .sessions hp (by decide)
  | @leaves g d _ _ _ hg =>
    have h1 : Hands h { h with remaining := h.remaining - 1 } := .same rfl rfl rfl rfl
    refine .of_pc (h1.trans (hg.hands.trans (deactivateSession_hands g h.iterator))) .sessions ?_ (by decide)
    exact (deactivateSession_tunnels g h.iterator).2.trans (hg.tunnels.2.trans hpc)

theorem checkTurn_aside (hpc : h.pc = .tickSessions) (ht : CheckTurn h h') : Aside h h' := by
  have h1 : Hands h { h with remaining := h.remaining - 1 } := .same rfl rfl rfl rfl
  cases ht with
  | done => exact .of_pc (.same rfl rfl rfl rfl) .waiting rfl (by decide)
  | past => exact .of_pc (.same rfl rfl rfl rfl) .pastSessions rfl (by decide)
  | @stays g _ hg =>
    exact .of_pc (h1.trans (hg.hands.trans (.same rfl rfl rfl rfl))) .tickSessions (hg.tunnels.2.trans hpc)
      (by decide)
  | @leaves g d _ hg =>
    refine .of_pc (h1.trans (hg.hands.trans (deactivateSession_hands g h.iterator))) .tickSessions ?_
      (by decide)
    exact (deactivateSession_tunnels g h.iterator).2.trans (hg.tunnels.2.trans hpc)

theorem tunnelTurn_aside (h : St) : Aside h h.tunnelTurn := by
  unfold St.tunnelTurn
  split_ifs
  · exact .of_pc (.same rfl rfl rfl rfl) .sessions rfl (by decide)
  · cases h.tunnels[h.iterator]? with
    | none => exact .of_pc (.same rfl rfl rfl rfl) .pastTunnels rfl (by decide)
    | some t =>
      dsimp only
      split_ifs
      · exact .of_pc (.same rfl rfl rfl rfl) .packets rfl (by decide)
      · exact .of_pc (.same rfl rfl rfl rfl) .tunnelRest rfl (by decide)

theorem tunnelRest_aside (h : St) : Aside h h.tunnelRest := by
  unfold St.tunnelRest
  cases ht : h.tunnels[h.iterator]? with
  | none => exact .of_pc (.same rfl rfl rfl rfl) .pastTunnels rfl (by decide)
  | some t =>
    have hleaves : ∀ n : Int, Hands h (({ h with
        count := n
        remaining := h.remaining - 1
        pc := .tunnels } : St).deactivateTunnel h.iterator t.close) := by
      intro n
      have h1 : Hands h ({ h with
          count := n
          remaining := h.remaining - 1
          pc := .tunnels } : St) := .same rfl rfl rfl rfl
      exact h1.trans (deactivateTunnel_hands ht fun hopen => Bool.noConfusion hopen)
    dsimp only
    split_ifs
    · exact .of_pc (hleaves _) .tunnels rfl (by decide)
    · exact .of_pc (.same rfl rfl rfl rfl) .tunnels rfl (by decide)
    · exact .of_pc (hleaves _) .tunnels rfl (by decide)
    · exact .of_pc (.same rfl rfl rfl rfl) .tunnels rfl (by decide)

theorem clockTurn_aside (h : St) (now : Int) : Aside h (h.clockTurn now) := by
  unfold St.clockTurn
  split_ifs
  · exact .of_pc (.same rfl rfl rfl rfl) .tickTunnels rfl (by decide)
  · exact .of_pc (.same rfl rfl rfl rfl) .waiting rfl (by decide)

theorem checkTunnel_aside (hpc : h.pc = .tickTunnels) (status : Bool) : Aside h (h.checkTunnel status) := by
  unfold St.checkTunnel
  by_cases hdone : h.remaining = 0
  · rw [if_pos hdone]
    exact .of_pc (.same rfl rfl rfl rfl) .tickSessions rfl (by decide)
  rw [if_neg hdone]
  cases ht : h.tunnels[h.iterator]? with
  | none => exact .of_pc (.same rfl rfl rfl rfl) .pastTunnels rfl (by decide)
  | some t =>
    cases status with
    | true => exact .of_pc (.same rfl rfl rfl rfl) .tickTunnels hpc (by decide)
    | false =>
      have h1 : Hands h { h with remaining := h.remaining - 1 } := .same rfl rfl rfl rfl
      exact .of_pc (h1.trans (deactivateTunnel_hands ht fun _ => rfl)) .tickTunnels hpc (by decide)

theorem onDeleteTunnelRequest_aside (hpc : h.pc = .packets) (id : U32) :
    Aside h (h.onDeleteTunnelRequest id) := by
  unfold St.onDeleteTunnelRequest
  cases (h.tunnels.take h.openTunnelsCount).findIdx? fun t => t.id = id with
  | some k => exact .of_pc (modify_hands h k) .packets hpc (by decide)
  | none => exact .ite fun _ => .of_pc (.same rfl rfl rfl rfl) .pastTunnels rfl (by decide)

theorem activate_aside (h : St) : Aside h h.activate := by
  refine ⟨activate_hands h, fun hpc => ?_⟩
  unfold St.activate at hpc
  dsimp only at hpc
  split_ifs at hpc with hpast
  rw [hpast] at hpc
  cases hpc

/-- Every step of the thread but the evaluation of `maxFD`. -/
theorem thread_aside (h : St) {i : Input} (hi : i ≠ .evaluate) : Aside h (h.thread IP_MSS i) := by
  cases i with
  | evaluate => exact absurd rfl hi
  | exit => exact .ite fun _ => .of_pc (.same rfl rfl rfl rfl) .stopped rfl (by decide)
  | activate => exact .ite fun _ => activate_aside h
  | select rcv snd err count => exact .ite fun _ => .of_pc (.same rfl rfl rfl rfl) .tunnels rfl (by decide)
  | tunnel => exact .ite fun _ => tunnelTurn_aside h
  | packet p i =>
    refine .ite fun hpc => ?_
    have hd := @dispatch_dispatched IP_MSS h p.val i
    exact .of_pc (dispatched_hands hd) .packets ((dispatched_tunnels hd).2.1.trans hpc) (by decide)
  | deleteTunnel id => exact .ite fun hpc => onDeleteTunnelRequest_aside hpc id
  | packetsDone => exact .ite fun _ => .of_pc (.same rfl rfl rfl rfl) .tunnelRest rfl (by decide)
  | tunnelRest => exact .ite fun _ => tunnelRest_aside h
  | session x => exact .ite fun hpc => sessionTurn_aside hpc (@sessionTurn_turn IP_MSS h x)
  | clock now => exact .ite fun _ => clockTurn_aside h now
  | checkTunnel status => exact .ite fun hpc => checkTunnel_aside hpc status
  | checkSession now now' nowFlush turns =>
    exact .ite fun hpc => checkTurn_aside hpc (@checkSession_turn IP_MSS h now now' nowFlush turns)
  | start tcpPacket => exact .refl h
  | addTunnelSocket c => exact .refl h
  | closeTunnel k => exact .refl h

/-! ## the invariant -/

theorem Covered.hands (hs : Covered h) (hh : Hands h h') (hfresh : h'.pc = .selecting → h'.handedOut = []) :
    Covered h' := by
  refine ⟨fun socket hheld => ?_, hfresh⟩
  rcases hh.held socket hheld with hheld | ⟨fd, hfd, he⟩
  · obtain ⟨fd, he, hlt | hfd⟩ := hs.below socket hheld
    · exact ⟨fd, he, .inl (hh.maxFD ▸ hlt)⟩
    · exact ⟨fd, he, .inr (hh.handedOut hfd)⟩
  · exact ⟨fd, he, .inr hfd⟩

theorem Covered.aside (hs : Covered h) (ha : Aside h h') : Covered h' :=
  hs.hands ha.hands fun hpc => by
    rw [ha.waits hpc]
    exact hs.fresh (ha.waits hpc ▸ hpc)

/-- after the evaluation every socket that is held is below `maxFD` -/
theorem evaluate_covered (hs : Covered h) (hpc : h.pc = .activated) (hhung : h.hung = false)
    (hok : Noticed h .evaluate) : Covered h.evaluate := by
  refine ⟨fun socket hheld => ?_, fun _ => rfl⟩
  have hheld' : Holds h socket := hheld
  obtain ⟨fd, rfl, hfd⟩ := hs.below socket hheld'
  refine ⟨fd, rfl, .inl ?_⟩
  show fd < if h.countsDiffer then h.evalMaxFD else h.maxFD
  split_ifs with hdiffer
  · exact lt_evalMaxFD hheld'
  · rcases hfd with hlt | hfd
    · exact hlt
    · exact hok hpc hhung (by simpa using hdiffer) fd hfd hheld'

theorem step_covered (h : St) (i : Input) (hs : Covered h) (hok : Noticed h i) :
    Covered (step IP_MSS h i) := by
  have hthread : Covered (if h.hung then h else h.thread IP_MSS i) := by
    split_ifs with hhung
    · exact hs
    · by_cases hi : i = .evaluate
      · subst hi
        show Covered (if h.pc = .activated then h.evaluate else h)
        split_ifs with hpc
        · exact evaluate_covered hs hpc (by simpa using hhung) hok
        · exact hs
      · exact hs.aside (thread_aside h hi)
  cases i with
  | start tcpPacket =>
    exact hs.aside (.ite fun _ => .of_pc (.same rfl rfl rfl rfl) .waiting rfl (by decide))
  | addTunnelSocket c =>
    unfold step St.addTunnelSocket
    dsimp only
    split_ifs
    · exact hs
    · exact hs.hands (.same rfl rfl rfl rfl) hs.fresh
  | closeTunnel k => exact hs.hands (modify_hands h k) hs.fresh
  | _ => exact hthread

end

/-! ## runs -/

/-- **`select` sees every descriptor in use.**  If every evaluation that is left out, because neither
count changed, finds the descriptors handed out since the last call below `maxFD` or not in use any
more, then at each call of `select` the sockets of the open tunnels and of the sessions that are not
closed are below `maxFD`. -/
theorem select_sees (IP_MSS : U16) (shared : Sessions2.Shared) (tcpPacket : Sessions2.Packet)
    {inputs : List Input}
    (hinputs : Along (step IP_MSS) Noticed (St.init shared tcpPacket) inputs) :
    let h := run (step IP_MSS) (St.init shared tcpPacket) inputs
    h.pc = .selecting →
    (∀ t ∈ h.tunnels, t.isOpen = true → t.socket < h.maxFD) ∧
    ∀ d ∈ h.tcpSessions, Live d → ∃ fd, d.socket = some fd ∧ fd < h.maxFD := by
  intro h hpc
  have h0 : Covered (St.init shared tcpPacket) := by
    refine ⟨fun socket hh => ?_, fun _ => rfl⟩
    rcases hh with ⟨t, ht, _⟩ | ⟨d, hd, _⟩
    · cases ht
    · cases hd
  have hs : Covered h := run_inv Covered step_covered h0 hinputs
  have hnone := hs.fresh hpc
  have hbelow : ∀ socket, Holds h socket → ∃ fd, socket = some fd ∧ fd < h.maxFD := by
    intro socket hh
    obtain ⟨fd, he, hlt | hfd⟩ := hs.below socket hh
    · exact ⟨fd, he, hlt⟩
    · rw [hnone] at hfd
      cases hfd
  refine ⟨fun t ht hopen => ?_, fun d hd hlive => hbelow _ (.inr ⟨d, hd, hlive, rfl⟩)⟩
  obtain ⟨fd, he, hlt⟩ := hbelow _ (.inl ⟨t, ht, hopen, rfl⟩)
  cases he
  exact hlt

/-! ## the condition by what the steps do -/

/-- the counts at the last call of `select` are the same -/
def SameStarts (h h' : St) : Prop :=
  h'.startTunnelsCount = h.startTunnelsCount ∧ h'.startTCPSessionsCount = h.startTCPSessionsCount

/-- A step that hands a descriptor out raises a count: it does not put a session into a closed object again.
A count goes up only where it is not below what it was at the last call of `select`, and down only where it
is not above; and a thread is begun only where both are what they were then. -/
def OneWay (IP_MSS : U16) (h : St) (i : Input) : Prop :=
  let h' := step IP_MSS h i
  (h'.handedOut ⊆ h.handedOut ∨ h.openTunnelsCount < h'.openTunnelsCount ∨
    h.openTCPSessionsCount < h'.openTCPSessionsCount) ∧
  (h.openTunnelsCount < h'.openTunnelsCount → h.startTunnelsCount ≤ h.openTunnelsCount) ∧
  (h'.openTunnelsCount < h.openTunnelsCount → h.openTunnelsCount ≤ h.startTunnelsCount) ∧
  (h.openTCPSessionsCount < h'.openTCPSessionsCount → h.startTCPSessionsCount ≤ h.openTCPSessionsCount) ∧
  (h'.openTCPSessionsCount < h.openTCPSessionsCount → h.openTCPSessionsCount ≤ h.startTCPSessionsCount) ∧
  (h.pc = .stopped → h'.pc = .waiting → h.countsDiffer = false)

instance (IP_MSS : U16) (h : St) (i : Input) : Decidable (OneWay IP_MSS h i) :=
  inferInstanceAs (Decidable (_ ∧ _ ∧ _ ∧ _ ∧ _ ∧ _))

/-- what was handed out since the last call of `select` shows in a count -/
def Shown (h : St) : Prop :=
  h.handedOut = [] ∨ h.startTunnelsCount < h.openTunnelsCount ∨
    h.startTCPSessionsCount < h.openTCPSessionsCount

section
variable {IP_MSS : U16} {h g h' : St}

theorem SameStarts.refl (h : St) : SameStarts h h := ⟨rfl, rfl⟩

theorem SameStarts.trans (h1 : SameStarts h g) (h2 : SameStarts g h') : SameStarts h h' :=
  ⟨h2.1.trans h1.1, h2.2.trans h1.2⟩

theorem SameStarts.ite {c : Prop} [Decidable c] (hg : SameStarts h g) :
    SameStarts h (if c then g else h) := iteInduction (fun _ => hg) fun _ => .refl h

theorem Worked.sameStarts (hw : Worked h g) : SameStarts h g := by
  obtain ⟨_, _, _, _, _, _, _, _, rfl⟩ := hw
  exact .refl h

theorem deactivateSession_starts (h : St) (k : Nat) : SameStarts h (h.deactivateSession k) := by
  unfold St.deactivateSession
  cases h.tcpSessions[k]? <;> exact .refl h

theorem activateTunnel_starts (h : St) (c : TunnelCandidate) : SameStarts h (h.activateTunnel c) := by
  unfold St.activateTunnel
  dsimp only
  split_ifs
  · exact .refl h
  · cases h.tunnels[h.openTunnelsCount]? <;> exact .refl h

theorem activateCandidates_starts (cs : List TunnelCandidate) (h : St) :
    SameStarts h (St.activateCandidates cs h) := by
  induction cs generalizing h with
  | nil => exact .refl h
  | cons c cs ih =>
    unfold St.activateCandidates
    split_ifs
    · exact .refl h
    · exact ih h
    · exact (activateTunnel_starts h c).trans (ih _)

theorem activate_starts (h : St) : SameStarts h h.activate := by
  have h1 := activateCandidates_starts h.tunnelCandidates h
  unfold St.activate
  dsimp only
  split_ifs
  · exact h1
  · exact h1

theorem tunnelTurn_starts (h : St) : SameStarts h h.tunnelTurn := by
  unfold St.tunnelTurn
  split_ifs
  · exact .refl h
  · cases h.tunnels[h.iterator]? with
    | none => exact .refl h
    | some t =>
      dsimp only
      split_ifs <;> exact .refl h

theorem tunnelRest_starts (h : St) : SameStarts h h.tunnelRest := by
  unfold St.tunnelRest
  cases h.tunnels[h.iterator]? with
  | none => exact .refl h
  | some t =>
    dsimp only
    split_ifs <;> exact .refl h

theorem onDeleteTunnelRequest_starts (h : St) (id : U32) : SameStarts h (h.onDeleteTunnelRequest id) := by
  unfold St.onDeleteTunnelRequest
  cases (h.tunnels.take h.openTunnelsCount).findIdx? fun t => t.id = id with
  | some k => exact .refl h
  | none =>
    dsimp only
    split_ifs <;> exact .refl h

theorem checkTunnel_starts (h : St) (status : Bool) : SameStarts h (h.checkTunnel status) := by
  unfold St.checkTunnel
  by_cases hdone : h.remaining = 0
  · rw [if_pos hdone]
    exact .refl h
  rw [if_neg hdone]
  cases h.tunnels[h.iterator]? with
  | none => exact .refl h
  | some t => cases status <;> exact .refl h

theorem dispatched_starts {p : Sessions2.Packet} {i : Sessions2.ClientInput}
    (hd : Dispatched IP_MSS h p i h') : SameStarts h h' := by
  cases hd with
  | taken | dropped => exact .refl h
  | created =>
    unfold St.createSession
    dsimp only
    split_ifs <;> exact .refl h

/-- every step of the thread but the evaluation of `maxFD` -/
theorem thread_starts (h : St) {i : Input} (hi : i ≠ .evaluate) : SameStarts h (h.thread IP_MSS i) := by
  cases i with
  | evaluate => exact absurd rfl hi
  | exit | select rcv snd err count | packetsDone => exact .ite (.refl h)
  | activate => exact .ite (activate_starts h)
  | tunnel => exact .ite (tunnelTurn_starts h)
  | packet p i => exact .ite (dispatched_starts (@dispatch_dispatched IP_MSS h p.val i))
  | deleteTunnel id => exact .ite (onDeleteTunnelRequest_starts h id)
  | tunnelRest => exact .ite (tunnelRest_starts h)
  | session x =>
    refine .ite ?_
    have hp := (@polled_worked IP_MSS h x).sameStarts
    have ht := @sessionTurn_turn IP_MSS h x
    generalize h.sessionTurn IP_MSS x = g at ht
    cases ht with
    | done | past => exact .refl h
    | hangs | stays => exact hp
    | @leaves g d _ _ _ hw => exact hw.sameStarts.trans (deactivateSession_starts g h.iterator)
  | clock now =>
    refine .ite ?_
    unfold St.clockTurn
    split_ifs <;> exact .refl h
  | checkTunnel status => exact .ite (checkTunnel_starts h status)
  | checkSession now now' nowFlush turns =>
    refine .ite ?_
    have ht := @checkSession_turn IP_MSS h now now' nowFlush turns
    generalize h.checkSession IP_MSS now now' nowFlush turns = g at ht
    cases ht with
    | done | past => exact .refl h
    | stays _ hw => exact hw.sameStarts
    | @leaves g d _ hw => exact hw.sameStarts.trans (deactivateSession_starts g h.iterator)
  | start tcpPacket | addTunnelSocket c | closeTunnel k => exact .refl h

/-- what was shown stays so, and what is handed out is shown -/
theorem Shown.keep {i : Input} (hs : Shown h) (hok : OneWay IP_MSS h i)
    (hstarts : SameStarts h (step IP_MSS h i)) : Shown (step IP_MSS h i) := by
  obtain ⟨hgrow, hup, hdown, hup', hdown', -⟩ := hok
  obtain ⟨e1, e2⟩ := hstarts
  unfold Shown
  rw [e1, e2]
  rcases hgrow with hsub | hmore | hmore
  · rcases hs with hnil | hlt | hlt
    · rw [hnil] at hsub
      exact .inl (List.eq_nil_of_subset_nil hsub)
    · exact .inr (.inl (by omega))
    · exact .inr (.inr (by omega))
  · exact .inr (.inl (lt_of_le_of_lt (hup hmore) hmore))
  · exact .inr (.inr (lt_of_le_of_lt (hup' hmore) hmore))

theorem step_shown (h : St) (i : Input) (hs : Shown h) (hok : OneWay IP_MSS h i) :
    Shown (step IP_MSS h i) := by
  by_cases hstart : ∃ p, i = .start p
  · obtain ⟨p, rfl⟩ := hstart
    have hdiffer := hok.2.2.2.2.2
    show Shown (if h.pc = .stopped then h.start p else h)
    by_cases hpc : h.pc = .stopped
    · have e : step IP_MSS h (.start p) = h.start p := if_pos hpc
      have hsame := hdiffer hpc (by rw [e]; rfl)
      unfold St.countsDiffer at hsame
      rw [decide_eq_false_iff_not, not_or, not_not, not_not] at hsame
      rw [if_pos hpc]
      refine .inl ?_
      show h.handedOut = []
      rcases hs with hnil | hlt | hlt <;> omega
    · rw [if_neg hpc]
      exact hs
  by_cases hi : i = .evaluate
  · subst hi
    show Shown (if h.hung then h else if h.pc = .activated then h.evaluate else h)
    split_ifs
    · exact hs
    · exact .inl rfl
    · exact hs
  refine hs.keep hok ?_
  have hthread : SameStarts h (if h.hung then h else h.thread IP_MSS i) := by
    split_ifs
    · exact .refl h
    · exact thread_starts h hi
  cases i with
  | start p => exact absurd ⟨p, rfl⟩ hstart
  | addTunnelSocket c =>
    unfold step St.addTunnelSocket
    dsimp only
    split_ifs <;> exact .refl h
  | closeTunnel k => exact .refl h
  | _ => exact hthread

/-- where the counts do not differ, nothing was handed out -/
theorem Shown.noticed (hs : Shown h) (i : Input) : Noticed h i := by
  cases i with
  | evaluate =>
    intro _ _ hdiffer fd hfd
    unfold St.countsDiffer at hdiffer
    rw [decide_eq_false_iff_not, not_or, not_not, not_not] at hdiffer
    rcases hs with hnil | hlt | hlt
    · rw [hnil] at hfd
      cases hfd
    · omega
    · omega
  | _ => trivial

end

/-- **Steps that go one way are noticed**: no closed object is opened again, and between two calls of `select`
nothing is deactivated after something of its kind was added, nor added after something was deactivated. -/
theorem noticed_oneWay (IP_MSS : U16) (shared : Sessions2.Shared) (tcpPacket : Sessions2.Packet)
    {inputs : List Input}
    (hinputs : Along (step IP_MSS) (OneWay IP_MSS) (St.init shared tcpPacket) inputs) :
    Along (step IP_MSS) Noticed (St.init shared tcpPacket) inputs :=
  along_inv Shown step_shown (fun h i hs _ => hs.noticed i) (.inl rfl) hinputs

open Sessions2 (unwatched uploadSyn synPacket resetPacket clientA serverA connected)

/-- two clients connect, and the thread goes on to `select` -/
def bothWatched : List Input :=
  firstPackets ++ twoClients ++ restOfTunnels ++ [.clock 0, .activate, .evaluate]

example : Along (step 576) (OneWay 576) (St.init unwatched uploadSyn) bothWatched := by decide

theorem select_sees_two_clients :
    let h := run (step 576) (St.init unwatched uploadSyn) bothWatched
    (∀ t ∈ h.tunnels, t.isOpen = true → t.socket < h.maxFD) ∧
    ∀ d ∈ h.tcpSessions, Live d → ∃ fd, d.socket = some fd ∧ fd < h.maxFD :=
  select_sees 576 unwatched uploadSyn (show Along (step 576) Noticed _ bothWatched by decide) (by decide)

/-- a client connects; later it resets its session, and the object is used for another client, whose
session gets a larger descriptor -/
def replaced : List Input :=
  firstPackets ++ [.packet (synPacket clientA serverA 100 1000) connected] ++ restOfTunnels ++ [.clock 0] ++
  nextSelect {3} ∅ 1 ++ [.packet (resetPacket clientA serverA 101) connected,
    .packet (synPacket clientB serverB 200 1000) { connected with fd := 9 }] ++ restOfTunnels ++
  [.clock 0, .activate, .evaluate]

/-- One session closed, one opened: the counts are what they were, and `maxFD` stays below the new
descriptor. -/
theorem select_blind :
    ¬ ∀ (IP_MSS : U16) (shared : Sessions2.Shared) (tcpPacket : Sessions2.Packet) (inputs : List Input),
      let h := run (step IP_MSS) (St.init shared tcpPacket) inputs
      h.pc = .selecting →
      (∀ t ∈ h.tunnels, t.isOpen = true → t.socket < h.maxFD) ∧
      ∀ d ∈ h.tcpSessions, Live d → ∃ fd, d.socket = some fd ∧ fd < h.maxFD := by
  intro h
  have hheld : Holds (run (step 576) (St.init unwatched uploadSyn) replaced) (some 9) := by decide
  obtain ⟨htunnels, hsessions⟩ := h 576 unwatched uploadSyn replaced (by decide)
  have hmax : (run (step 576) (St.init unwatched uploadSyn) replaced).maxFD = 6 := by decide
  rw [hmax] at htunnels hsessions
  rcases hheld with ⟨t, ht, hopen, he⟩ | ⟨d, hd, hlive, he⟩
  · have hlt := htunnels t ht hopen
    rw [Option.some_inj.mp he] at hlt
    omega
  · obtain ⟨fd, hfd, hlt⟩ := hsessions d hd hlive
    cases he.symm.trans hfd
    omega

end TunServer.Handler
