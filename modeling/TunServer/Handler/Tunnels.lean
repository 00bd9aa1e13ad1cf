import TunServer.Handler.Frame
import TunServer.Sessions2.Readiness

/-!
# The tunnels in use

The open tunnels stand at the front of the list, and `openTunnelsCount` counts them.

* `InUse`          this, with the place of the loops over the tunnels;
* `reusesTunnel`   a candidate is put into an object that was used before;
* `tunnels_kept`   what holds as long as no activation does that.
-/

set_option linter.unusedVariables false

namespace TunServer.Handler

/-- what holds between two steps -/
structure InUse (h : St) : Prop where
  front : Within (Tunnel.active · = true) h.openTunnelsCount h.tunnels
  fills : Fills (Tunnel.active · = true) h.openTunnelsCount h.tunnels
  room : h.openTunnelsCount + h.tunnelCandidates.length ≤ MAXIMUM_TUNNELS
  /-- the turns that are left in a loop are for the tunnels that are left -/
  loop : h.pc = .tunnels ∨ h.pc = .packets ∨ h.pc = .tunnelRest ∨ h.pc = .tickTunnels →
    0 < h.remaining → h.iterator + h.remaining = h.openTunnelsCount
  turn : h.pc = .packets ∨ h.pc = .tunnelRest → 0 < h.remaining
  inside : h.pc ≠ .pastTunnels

/-- an activation puts a candidate into the object of a tunnel that is not in use any more -/
def reusesTunnel (h : St) : Bool :=
  h.openTunnelsCount ≠ h.tunnels.length ∧ h.openTunnelsCount ≠ MAXIMUM_TUNNELS ∧
    h.tunnelCandidates.any (¬ ·.throws)

/-- the condition on a step -/
def FreshTunnels (h : St) : Input → Prop
  | .activate => h.pc = .waiting → h.hung = false → reusesTunnel h = false
  | _ => True

instance (h : St) : ∀ i, Decidable (FreshTunnels h i)
  | .activate => inferInstanceAs (Decidable (_ → _ → _))
  | .start _ | .addTunnelSocket _ | .closeTunnel _ | .exit | .evaluate | .select _ _ _ _
  | .tunnel | .packet _ _ | .deleteTunnel _ | .packetsDone | .tunnelRest | .session _ | .clock _
  | .checkTunnel _ | .checkSession _ _ _ _ => .isTrue trivial

section
variable {IP_MSS : U16} {h h' : St}

/-! ## steps that leave the tunnels alone -/

/-- the tunnels, their count and the candidates are what they were -/
structure SameTunnels (h h' : St) : Prop where
  tunnels : h'.tunnels = h.tunnels
  openTunnelsCount : h'.openTunnelsCount = h.openTunnelsCount
  tunnelCandidates : h'.tunnelCandidates = h.tunnelCandidates

/-- the thread leaves the loops over the tunnels -/
theorem InUse.away (hs : InUse h) (ht : SameTunnels h h') (pc : Pc) (hpc : h'.pc = pc)
    (hne : pc ≠ .tunnels ∧ pc ≠ .packets ∧ pc ≠ .tunnelRest ∧ pc ≠ .tickTunnels ∧ pc ≠ .pastTunnels) :
    InUse h' := by
  obtain ⟨h1, h2, h3⟩ := ht
  obtain ⟨n1, n2, n3, n4, n5⟩ := hne
  rw [← hpc] at n1 n2 n3 n4 n5
  refine ⟨?_, ?_, ?_, fun h4 => ?_, fun h4 => ?_, n5⟩
  · rw [h1, h2]
    exact hs.front
  · rw [h1, h2]
    exact hs.fills
  · rw [h2, h3]
    exact hs.room
  · rcases h4 with h4 | h4 | h4 | h4
    · exact absurd h4 n1
    · exact absurd h4 n2
    · exact absurd h4 n3
    · exact absurd h4 n4
  · rcases h4 with h4 | h4
    · exact absurd h4 n2
    · exact absurd h4 n3

/-- the thread stays where it is -/
theorem InUse.still (hs : InUse h) (ht : SameTunnels h h') (hpc : h'.pc = h.pc)
    (hit : h'.iterator = h.iterator) (hrem : h'.remaining = h.remaining) : InUse h' := by
  obtain ⟨h1, h2, h3⟩ := ht
  refine ⟨?_, ?_, ?_, ?_, ?_, ?_⟩
  · rw [h1, h2]
    exact hs.front
  · rw [h1, h2]
    exact hs.fills
  · rw [h2, h3]
    exact hs.room
  · rw [hpc, hit, hrem, h2]
    exact hs.loop
  · rw [hpc, hrem]
    exact hs.turn
  · rw [hpc]
    exact hs.inside

theorem dispatched_tunnels {p : Sessions2.Packet} {i : Sessions2.ClientInput}
    (hd : Dispatched IP_MSS h p i h') : SameTunnels h h' ∧ h'.pc = h.pc ∧ h'.iterator = h.iterator ∧
      h'.remaining = h.remaining := by
  cases hd with
  | taken => exact ⟨⟨rfl, rfl, rfl⟩, rfl, rfl, rfl⟩
  | created =>
    unfold St.createSession
    dsimp only
    split_ifs
    · exact ⟨⟨rfl, rfl, rfl⟩, rfl, rfl, rfl⟩
    · exact ⟨⟨rfl, rfl, rfl⟩, rfl, rfl, rfl⟩
  | dropped => exact ⟨⟨rfl, rfl, rfl⟩, rfl, rfl, rfl⟩

theorem Worked.tunnels {g : St} (hw : Worked h g) : SameTunnels h g ∧ g.pc = h.pc := by
  obtain ⟨_, _, _, _, _, _, _, _, rfl⟩ := hw
  exact ⟨⟨rfl, rfl, rfl⟩, rfl⟩

theorem deactivateSession_tunnels (h : St) (k : Nat) :
    SameTunnels h (h.deactivateSession k) ∧ (h.deactivateSession k).pc = h.pc := by
  unfold St.deactivateSession
  cases h.tcpSessions[k]? with
  | some d => exact ⟨⟨rfl, rfl, rfl⟩, rfl⟩
  | none => exact ⟨⟨rfl, rfl, rfl⟩, rfl⟩

theorem sessionTurn_inUse {x : Events} (hpc : h.pc = .sessions) (hs : InUse h)
    (ht : SessionTurn IP_MSS h x h') : InUse h' := by
  obtain ⟨hsame, hp⟩ := (@polled_worked IP_MSS h x).tunnels
  cases ht with
  | done => exact hs.away ⟨rfl, rfl, rfl⟩ .clock rfl (by decide)
  | past => exact hs.away ⟨rfl, rfl, rfl⟩ .pastSessions rfl (by decide)
  | hangs => exact hs.away hsame .sessions (hp.trans hpc) (by decide)
  | stays => exact hs.away ⟨hsame.1, hsame.2, hsame.3⟩ .sessions (hp.trans hpc) (by decide)
  | @leaves g d _ _ _ hw =>
    obtain ⟨⟨g1, g2, g3⟩, g4⟩ := hw.tunnels
    obtain ⟨⟨d1, d2, d3⟩, d4⟩ := deactivateSession_tunnels g h.iterator
    exact hs.away ⟨d1.trans g1, d2.trans g2, d3.trans g3⟩ .sessions (d4.trans (g4.trans hpc)) (by decide)

theorem checkTurn_inUse (hpc : h.pc = .tickSessions) (hs : InUse h) (ht : CheckTurn h h') : InUse h' := by
  cases ht with
  | done => exact hs.away ⟨rfl, rfl, rfl⟩ .waiting rfl (by decide)
  | past => exact hs.away ⟨rfl, rfl, rfl⟩ .pastSessions rfl (by decide)
  | @stays g _ hw =>
    obtain ⟨⟨g1, g2, g3⟩, g4⟩ := hw.tunnels
    exact hs.away ⟨g1, g2, g3⟩ .tickSessions (g4.trans hpc) (by decide)
  | @leaves g d _ hw =>
    obtain ⟨⟨g1, g2, g3⟩, g4⟩ := hw.tunnels
    obtain ⟨⟨d1, d2, d3⟩, d4⟩ := deactivateSession_tunnels g h.iterator
    exact hs.away ⟨d1.trans g1, d2.trans g2, d3.trans g3⟩ .tickSessions (d4.trans (g4.trans hpc))
      (by decide)

/-! ## steps of the tunnels -/

/-- a tunnel closes where it stands -/
theorem InUse.modify (hs : InUse h) (k : Nat) :
    InUse { h with tunnels := h.tunnels.modify k Tunnel.close } :=
  ⟨hs.front.modify fun _ ht => ht, hs.fills.modify fun _ ht => ht, hs.room, hs.loop, hs.turn, hs.inside⟩

theorem addTunnelSocket_inUse (hs : InUse h) (c : TunnelCandidate) : InUse (h.addTunnelSocket c).2 := by
  have hroom := hs.room
  unfold St.addTunnelSocket
  split_ifs with hfull
  · exact hs
  · refine ⟨hs.front, hs.fills, ?_, hs.loop, hs.turn, hs.inside⟩
    show h.openTunnelsCount + (h.tunnelCandidates ++ [c]).length ≤ MAXIMUM_TUNNELS
    rw [List.length_append, List.length_singleton]
    omega

/-- every object is in use, so each candidate gets a new one -/
theorem activateCandidates_fresh {cs : List TunnelCandidate}
    (hfront : Within (Tunnel.active · = true) h.openTunnelsCount h.tunnels)
    (hfills : Fills (Tunnel.active · = true) h.openTunnelsCount h.tunnels)
    (hlen : h.openTunnelsCount = h.tunnels.length)
    (hroom : h.openTunnelsCount + cs.length ≤ MAXIMUM_TUNNELS) (hpc : h.pc ≠ .pastTunnels) :
    let g := St.activateCandidates cs h
    Within (Tunnel.active · = true) g.openTunnelsCount g.tunnels ∧
      Fills (Tunnel.active · = true) g.openTunnelsCount g.tunnels ∧
      g.openTunnelsCount ≤ MAXIMUM_TUNNELS ∧ g.pc = h.pc := by
  induction cs generalizing h with
  | nil => exact ⟨hfront, hfills, hroom, rfl⟩
  | cons c cs ih =>
    rw [List.length_cons] at hroom
    unfold St.activateCandidates
    split_ifs with hstop hthrows
    · exact ⟨hfront, hfills, by omega, rfl⟩
    · exact ih hfront hfills hlen (by omega) hpc
    · have he : h.activateTunnel c = { h with
          tunnelIDCount := h.tunnelIDCount + 1
          handedOut := h.handedOut ++ [c.socket]
          tunnels := h.tunnels ++ [.new h.tunnelIDCount c.socket]
          openTunnelsCount := h.openTunnelsCount + 1 } := if_pos hlen
      rw [he]
      refine ih ?_ (hfills.push hlen rfl) ?_ ?_ hpc
      · exact (hfront.mono (Nat.le_succ _)).append fun _ => by omega
      · show h.openTunnelsCount + 1 = (h.tunnels ++ [_]).length
        rw [List.length_append, List.length_singleton, hlen]
      · show h.openTunnelsCount + 1 + cs.length ≤ MAXIMUM_TUNNELS
        omega

theorem activateCandidates_throw {cs : List TunnelCandidate} (h : St)
    (hthrow : ∀ c ∈ cs, c.throws = true) : St.activateCandidates cs h = h := by
  induction cs with
  | nil => rfl
  | cons c cs ih =>
    unfold St.activateCandidates
    rw [if_pos (hthrow c List.mem_cons_self), ih fun c' hc => hthrow c' (List.mem_cons_of_mem _ hc)]
    split_ifs
    · rfl
    · rfl

theorem activateCandidates_full (cs : List TunnelCandidate)
    (hfull : h.openTunnelsCount = MAXIMUM_TUNNELS) : St.activateCandidates cs h = h := by
  cases cs with
  | nil => rfl
  | cons c cs =>
    unfold St.activateCandidates
    rw [if_pos (.inr hfull)]

/-- an activation that uses no object again, though there is one, is one of candidates that all fail -/
theorem all_throw (hfresh : reusesTunnel h = false) (hlen : h.openTunnelsCount ≠ h.tunnels.length)
    (hfull : h.openTunnelsCount ≠ MAXIMUM_TUNNELS) : ∀ c ∈ h.tunnelCandidates, c.throws = true := by
  intro c hc
  unfold reusesTunnel at hfresh
  rw [decide_eq_false_iff_not, not_and, not_and] at hfresh
  have h1 := hfresh hlen hfull
  rw [Bool.not_eq_true, List.any_eq_false] at h1
  simpa using h1 c hc

theorem activate_inUse (hpc : h.pc = .waiting) (hs : InUse h) (hfresh : reusesTunnel h = false) :
    InUse h.activate := by
  have hroom := hs.room
  have hinside := hs.inside
  have key : Within (Tunnel.active · = true) (St.activateCandidates h.tunnelCandidates h).openTunnelsCount
        (St.activateCandidates h.tunnelCandidates h).tunnels ∧
      Fills (Tunnel.active · = true) (St.activateCandidates h.tunnelCandidates h).openTunnelsCount
        (St.activateCandidates h.tunnelCandidates h).tunnels ∧
      (St.activateCandidates h.tunnelCandidates h).openTunnelsCount ≤ MAXIMUM_TUNNELS ∧
      (St.activateCandidates h.tunnelCandidates h).pc = h.pc := by
    by_cases hlen : h.openTunnelsCount = h.tunnels.length
    · exact activateCandidates_fresh hs.front hs.fills hlen hroom hinside
    · have he : St.activateCandidates h.tunnelCandidates h = h := by
        by_cases hfull : h.openTunnelsCount = MAXIMUM_TUNNELS
        · exact activateCandidates_full _ hfull
        · exact activateCandidates_throw h (all_throw hfresh hlen hfull)
      rw [he]
      exact ⟨hs.front, hs.fills, by omega, rfl⟩
  obtain ⟨k1, k2, k3, k4⟩ := key
  unfold St.activate
  dsimp only
  rw [if_neg (by rw [k4]; exact hinside)]
  refine ⟨k1, k2, k3, fun h1 => ?_, fun h1 => ?_, Pc.noConfusion⟩
  · rcases h1 with h1 | h1 | h1 | h1 <;> cases h1
  · rcases h1 with h1 | h1 <;> cases h1

/-- the tunnel at the iterator, one of those in use, moves to the end -/
theorem deactivateTunnel_inUse {k : Nat} {t : Tunnel} (t' : Tunnel) (hs : InUse h)
    (ht : h.tunnels[k]? = some t) (hk : k < h.openTunnelsCount) :
    Within (Tunnel.active · = true) (h.openTunnelsCount - 1) (h.deactivateTunnel k t').tunnels ∧
      Fills (Tunnel.active · = true) (h.openTunnelsCount - 1) (h.deactivateTunnel k t').tunnels := by
  have hlt := (List.getElem?_eq_some_iff.mp ht).1
  exact ⟨hs.front.toEnd hlt hk Bool.false_ne_true, hs.fills.toEnd hk⟩

theorem tunnelTurn_inUse (hpc : h.pc = .tunnels) (hs : InUse h) : InUse h.tunnelTurn := by
  have hloop := hs.loop (.inl hpc)
  have hlen := hs.fills.length_le
  unfold St.tunnelTurn
  split_ifs with hdone
  · exact hs.away ⟨rfl, rfl, rfl⟩ .sessions rfl (by decide)
  · rw [not_or] at hdone
    have hmore : 0 < h.remaining := by omega
    have h1 := hloop hmore
    rw [List.getElem?_eq_getElem (show h.iterator < h.tunnels.length by omega)]
    dsimp only
    split_ifs
    · exact ⟨hs.front, hs.fills, hs.room, fun _ => hloop, fun _ => hmore, Pc.noConfusion⟩
    · exact ⟨hs.front, hs.fills, hs.room, fun _ => hloop, fun _ => hmore, Pc.noConfusion⟩

theorem tunnelRest_inUse (hpc : h.pc = .tunnelRest) (hs : InUse h) : InUse h.tunnelRest := by
  have hmore := hs.turn (.inr hpc)
  have hloop := hs.loop (.inr (.inr (.inl hpc))) hmore
  have hlen := hs.fills.length_le
  have hroom := hs.room
  have hget := List.getElem?_eq_getElem (show h.iterator < h.tunnels.length by omega)
  unfold St.tunnelRest
  rw [hget]
  dsimp only
  have hnext : ∀ n : Int, InUse { h with
      count := n
      iterator := h.iterator + 1
      remaining := h.remaining - 1
      pc := .tunnels } := by
    intro n
    refine ⟨hs.front, hs.fills, hs.room, fun _ hr => ?_, fun h1 => ?_, Pc.noConfusion⟩
    · have hr' : 0 < h.remaining - 1 := hr
      show h.iterator + 1 + (h.remaining - 1) = h.openTunnelsCount
      omega
    · rcases h1 with h1 | h1 <;> cases h1
  have hless : ∀ (n : Int) (t : Tunnel), InUse (({ h with
      count := n
      remaining := h.remaining - 1
      pc := .tunnels } : St).deactivateTunnel h.iterator t) := by
    intro n t
    obtain ⟨h1, h2⟩ := deactivateTunnel_inUse t hs hget (by omega)
    refine ⟨h1, h2, ?_, fun _ hr => ?_, fun h1 => ?_, Pc.noConfusion⟩
    · show h.openTunnelsCount - 1 + h.tunnelCandidates.length ≤ MAXIMUM_TUNNELS
      omega
    · have hr' : 0 < h.remaining - 1 := hr
      show St.nextIterator h.iterator h.tunnels.length + (h.remaining - 1) = h.openTunnelsCount - 1
      rw [nextIterator_of_lt (by omega)]
      omega
    · rcases h1 with h1 | h1 <;> cases h1
  split_ifs
  · exact hless _ _
  · exact hnext _
  · exact hless _ _
  · exact hnext _

theorem checkTunnel_inUse (hpc : h.pc = .tickTunnels) (hs : InUse h) (status : Bool) :
    InUse (h.checkTunnel status) := by
  have hlen := hs.fills.length_le
  have hroom := hs.room
  unfold St.checkTunnel
  by_cases hdone : h.remaining = 0
  · rw [if_pos hdone]
    exact hs.away ⟨rfl, rfl, rfl⟩ .tickSessions rfl (by decide)
  rw [if_neg hdone]
  have hloop := hs.loop (.inr (.inr (.inr hpc))) (by omega)
  have hget := List.getElem?_eq_getElem (show h.iterator < h.tunnels.length by omega)
  rw [hget]
  have hturn : ∀ {g : St}, g.pc = h.pc → g.pc = .packets ∨ g.pc = .tunnelRest → 0 < g.remaining := by
    intro g hg h1
    rw [hg, hpc] at h1
    rcases h1 with h1 | h1 <;> cases h1
  cases status with
  | true =>
    refine ⟨hs.front, hs.fills, hs.room, fun _ hr => ?_, hturn rfl, hs.inside⟩
    have hr' : 0 < h.remaining - 1 := hr
    show h.iterator + 1 + (h.remaining - 1) = h.openTunnelsCount
    omega
  | false =>
    obtain ⟨h1, h2⟩ := deactivateTunnel_inUse h.tunnels[h.iterator] hs hget (by omega)
    refine ⟨h1, h2, ?_, fun _ hr => ?_, hturn rfl, hs.inside⟩
    · show h.openTunnelsCount - 1 + h.tunnelCandidates.length ≤ MAXIMUM_TUNNELS
      omega
    · have hr' : 0 < h.remaining - 1 := hr
      show St.nextIterator h.iterator h.tunnels.length + (h.remaining - 1) = h.openTunnelsCount - 1
      rw [nextIterator_of_lt (by omega)]
      omega

theorem onDeleteTunnelRequest_inUse (hs : InUse h) (id : U32) : InUse (h.onDeleteTunnelRequest id) := by
  have hlen := hs.fills.length_le
  unfold St.onDeleteTunnelRequest
  cases (h.tunnels.take h.openTunnelsCount).findIdx? fun t => t.id = id with
  | some k => exact hs.modify k
  | none =>
    dsimp only
    rw [if_neg (by omega)]
    exact hs

/-- a loop over the tunnels begins -/
theorem selected_inUse (hs : InUse h) (rcv snd err : Finset Nat) (count : Int) :
    InUse (h.selected rcv snd err count) := by
  refine ⟨hs.front, hs.fills, hs.room, fun _ _ => Nat.zero_add _, fun h1 => ?_, Pc.noConfusion⟩
  rcases h1 with h1 | h1 <;> cases h1

theorem clockTurn_inUse (hs : InUse h) (now : Int) : InUse (h.clockTurn now) := by
  unfold St.clockTurn
  split_ifs
  · refine ⟨hs.front, hs.fills, hs.room, fun _ _ => Nat.zero_add _, fun h1 => ?_, Pc.noConfusion⟩
    rcases h1 with h1 | h1 <;> cases h1
  · exact hs.away ⟨rfl, rfl, rfl⟩ .waiting rfl (by decide)

theorem packetsDone_inUse (hpc : h.pc = .packets) (hs : InUse h) :
    InUse { h with pc := .tunnelRest } :=
  ⟨hs.front, hs.fills, hs.room, fun _ => hs.loop (.inr (.inl hpc)), fun _ => hs.turn (.inl hpc),
    Pc.noConfusion⟩

theorem thread_inUse (hs : InUse h) (hhung : h.hung = false) {i : Input} (hok : FreshTunnels h i) :
    InUse (h.thread IP_MSS i) := by
  have ite : ∀ {c : Prop} [Decidable c] {g : St}, (c → InUse g) → InUse (if c then g else h) := by
    intro c _ g hg
    split_ifs with hc
    · exact hg hc
    · exact hs
  cases i with
  | exit => exact ite fun _ => hs.away ⟨rfl, rfl, rfl⟩ .stopped rfl (by decide)
  | activate => exact ite fun hc => activate_inUse hc.1 hs (hok hc.1 hhung)
  | evaluate => exact ite fun _ => hs.away ⟨rfl, rfl, rfl⟩ .selecting rfl (by decide)
  | select rcv snd err count => exact ite fun _ => selected_inUse hs rcv snd err count
  | tunnel => exact ite fun hpc => tunnelTurn_inUse hpc hs
  | packet p i =>
    refine ite fun _ => ?_
    obtain ⟨hsame, hpc, hit, hrem⟩ := dispatched_tunnels (@dispatch_dispatched IP_MSS h p.val i)
    exact hs.still hsame hpc hit hrem
  | deleteTunnel id => exact ite fun _ => onDeleteTunnelRequest_inUse hs id
  | packetsDone => exact ite fun hpc => packetsDone_inUse hpc hs
  | tunnelRest => exact ite fun hpc => tunnelRest_inUse hpc hs
  | session x => exact ite fun hpc => sessionTurn_inUse hpc hs (@sessionTurn_turn IP_MSS h x)
  | clock now => exact ite fun _ => clockTurn_inUse hs now
  | checkTunnel status => exact ite fun hpc => checkTunnel_inUse hpc hs status
  | checkSession now now' nowFlush turns =>
    exact ite fun hpc => checkTurn_inUse hpc hs
      (@checkSession_turn IP_MSS h now now' nowFlush turns)
  | start tcpPacket => exact hs
  | addTunnelSocket c => exact hs
  | closeTunnel k => exact hs

theorem step_inUse (h : St) (i : Input) (hs : InUse h) (hok : FreshTunnels h i) :
    InUse (step IP_MSS h i) := by
  have hthread : InUse (if h.hung then h else h.thread IP_MSS i) := by
    split_ifs with hhung
    · exact hs
    · exact thread_inUse hs (by simpa using hhung) hok
  cases i with
  | start tcpPacket =>
    unfold step
    dsimp only
    split_ifs
    · exact hs.away ⟨rfl, rfl, rfl⟩ .waiting rfl (by decide)
    · exact hs
  | addTunnelSocket c => exact addTunnelSocket_inUse hs c
  | closeTunnel k => exact hs.modify k
  | _ => exact hthread

end

/-! ## runs -/

theorem inUse_init (shared : Sessions2.Shared) (tcpPacket : Sessions2.Packet) :
    InUse (St.init shared tcpPacket) := by
  refine ⟨Within.nil, Fills.zero, Nat.zero_le _, fun h1 => ?_, fun h1 => ?_, Pc.noConfusion⟩
  · rcases h1 with h1 | h1 | h1 | h1 <;> cases h1
  · rcases h1 with h1 | h1 <;> cases h1

/-- **The tunnels in use are the first `openTunnelsCount` of the list.**  As long as no activation puts
a candidate into an object that was used before, they are counted right, there is room for the
candidates, and no loop leaves the list. -/
theorem tunnels_kept (IP_MSS : U16) (shared : Sessions2.Shared) (tcpPacket : Sessions2.Packet)
    {inputs : List Input}
    (hinputs : Along (step IP_MSS) FreshTunnels (St.init shared tcpPacket) inputs) :
    let h := run (step IP_MSS) (St.init shared tcpPacket) inputs
    h.tunnels.countP Tunnel.active = h.openTunnelsCount ∧
    h.openTunnelsCount ≤ h.tunnels.length ∧
    (∀ k t, h.tunnels[k]? = some t → (t.active = true ↔ k < h.openTunnelsCount)) ∧
    h.openTunnelsCount + h.tunnelCandidates.length ≤ MAXIMUM_TUNNELS ∧
    h.pc ≠ .pastTunnels := by
  intro h
  have hs : InUse h := run_inv InUse step_inUse (inUse_init shared tcpPacket) hinputs
  refine ⟨countP_front hs.front hs.fills, hs.fills.length_le, fun k t hk => ⟨hs.front k t hk, fun hlt => ?_⟩,
    hs.room, hs.inside⟩
  obtain ⟨t', ht', hactive⟩ := hs.fills k hlt
  cases ht'.symm.trans hk
  exact hactive

open Sessions2 (unwatched uploadSyn)

/-- of two tunnels the first one fails -/
def firstFails : List Input :=
  [.start uploadSyn, .addTunnelSocket ⟨3, false⟩, .addTunnelSocket ⟨4, false⟩, .activate, .evaluate,
   .select ∅ ∅ {3} 1, .tunnel, .tunnelRest]

theorem tunnels_kept_first_fails :
    let h := run (step 576) (St.init unwatched uploadSyn) firstFails
    h.tunnels.countP Tunnel.active = h.openTunnelsCount ∧
    h.openTunnelsCount ≤ h.tunnels.length ∧
    (∀ k t, h.tunnels[k]? = some t → (t.active = true ↔ k < h.openTunnelsCount)) ∧
    h.openTunnelsCount + h.tunnelCandidates.length ≤ MAXIMUM_TUNNELS ∧
    h.pc ≠ .pastTunnels :=
  tunnels_kept 576 unwatched uploadSyn (by decide)

/-- the only tunnel fails, and its object is used for the next one -/
def usedAgain : List Input :=
  [.start uploadSyn, .addTunnelSocket ⟨3, false⟩, .activate, .evaluate, .select ∅ ∅ {3} 1, .tunnel,
   .tunnelRest, .tunnel, .session ⟨.wouldBlock, 0, 1, 0, .wouldBlock, 0, 0⟩, .clock 0,
   .addTunnelSocket ⟨4, false⟩, .activate]

/-- The one open tunnel is counted twice. -/
theorem tunnels_not_kept :
    ¬ ∀ (IP_MSS : U16) (shared : Sessions2.Shared) (tcpPacket : Sessions2.Packet) (inputs : List Input),
      let h := run (step IP_MSS) (St.init shared tcpPacket) inputs
      h.tunnels.countP Tunnel.active = h.openTunnelsCount ∧
      h.openTunnelsCount ≤ h.tunnels.length ∧
      (∀ k t, h.tunnels[k]? = some t → (t.active = true ↔ k < h.openTunnelsCount)) ∧
      h.openTunnelsCount + h.tunnelCandidates.length ≤ MAXIMUM_TUNNELS ∧
      h.pc ≠ .pastTunnels := by
  intro h
  obtain ⟨h1, h2, _⟩ := h 576 unwatched uploadSyn usedAgain
  revert h2
  decide

end TunServer.Handler
