import TunServer.Handler.Frame
import TunServer.Sessions2.Readiness

/-!
# The ids of the tunnels

The client knows a tunnel by the id that it was sent when the tunnel was activated, and names it by that
id when it asks to close it.  A tunnel keeps its id when it is deactivated, until its object is used
again.

* `SameIds`           the tunnels may close or change places, and no id is handed out;
* `Numbered`          all ids differ, and are below the next one;
* `numbered_step`     every step keeps that, if the counter does not wrap around;
* `tunnels_numbered`  so a request to close a tunnel closes the one that was given this id, and no other.
-/

set_option linter.unusedVariables false

namespace TunServer.Handler

/-- the ids of the tunnels, in the order of the list -/
def St.ids (h : St) : List U32 := h.tunnels.map Tunnel.id

/-- the ids are where the counter has not been yet -/
structure Numbered (h : St) : Prop where
  nodup : h.ids.Nodup
  below : ∀ id ∈ h.ids, id.toNat < h.tunnelIDCount.toNat

/-- the candidates that may become tunnels in the step do not bring the counter around -/
def FewTunnels (h : St) : Input → Prop
  | .activate => h.tunnelIDCount.toNat + h.tunnelCandidates.length < 2 ^ 32
  | _ => True

instance (h : St) : ∀ i, Decidable (FewTunnels h i)
  | .activate => inferInstanceAs (Decidable (_ < _))
  | .start _ | .addTunnelSocket _ | .closeTunnel _ | .exit | .evaluate | .select _ _ _ _
  | .tunnel | .packet _ _ | .deleteTunnel _ | .packetsDone | .tunnelRest | .session _ | .clock _
  | .checkTunnel _ | .checkSession _ _ _ _ => .isTrue trivial

section
variable {IP_MSS : U16} {h h' : St}

/-! ## steps that hand out no id -/

structure SameIds (h h' : St) : Prop where
  perm : h'.ids.Perm h.ids
  tunnelIDCount : h'.tunnelIDCount = h.tunnelIDCount

theorem SameIds.refl (h : St) : SameIds h h := ⟨.refl _, rfl⟩

/-- the tunnels are the same -/
theorem SameIds.of_tunnels (ht : h'.tunnels = h.tunnels) (hc : h'.tunnelIDCount = h.tunnelIDCount) :
    SameIds h h' := by
  refine ⟨?_, hc⟩
  unfold St.ids
  rw [ht]

theorem SameIds.ite {c : Prop} [Decidable c] (ht : c → SameIds h h') :
    SameIds h (if c then h' else h) := iteInduction ht fun _ => .refl h

theorem Numbered.same (hn : Numbered h) (hs : SameIds h h') : Numbered h' := by
  refine ⟨hs.perm.nodup_iff.mpr hn.nodup, fun id hid => ?_⟩
  rw [hs.tunnelIDCount]
  exact hn.below id (hs.perm.mem_iff.mp hid)

/-- a tunnel closes where it stands -/
theorem modify_ids (h : St) (k : Nat) : (h.tunnels.modify k Tunnel.close).map Tunnel.id = h.ids := by
  unfold St.ids
  refine List.ext_getElem? fun j => ?_
  rw [List.getElem?_map, List.getElem?_map, List.getElem?_modify]
  cases h.tunnels[j]? with
  | none => rfl
  | some t =>
    show some (if k = j then t.close else t).id = some t.id
    split_ifs
    · rfl
    · rfl

theorem closeTunnel_ids (h : St) (k : Nat) :
    SameIds h { h with tunnels := h.tunnels.modify k Tunnel.close } := by
  refine ⟨?_, rfl⟩
  show ((h.tunnels.modify k Tunnel.close).map Tunnel.id).Perm h.ids
  rw [modify_ids]

/-- a tunnel moves to the end -/
theorem deactivateTunnel_ids {k : Nat} {t t' : Tunnel} (hk : h.tunnels[k]? = some t) (hid : t'.id = t.id) :
    SameIds h (h.deactivateTunnel k t') := by
  refine ⟨?_, rfl⟩
  show ((toEnd h.tunnels k { t' with active := false }).map Tunnel.id).Perm h.ids
  have hmap : (toEnd h.tunnels k { t' with active := false }).map Tunnel.id =
      (toEnd h.tunnels k t).map Tunnel.id := by
    unfold toEnd
    rw [List.map_append, List.map_append]
    show _ ++ [t'.id] = _ ++ [t.id]
    rw [hid]
  rw [hmap]
  exact (toEnd_perm hk).map _

theorem onDeleteTunnelRequest_ids (h : St) (id : U32) : SameIds h (h.onDeleteTunnelRequest id) := by
  unfold St.onDeleteTunnelRequest
  cases (h.tunnels.take h.openTunnelsCount).findIdx? fun t => t.id = id with
  | some k => exact closeTunnel_ids h k
  | none => exact .ite fun _ => .of_tunnels rfl rfl

theorem tunnelTurn_ids (h : St) : SameIds h h.tunnelTurn := by
  unfold St.tunnelTurn
  split_ifs
  · exact .of_tunnels rfl rfl
  · cases h.tunnels[h.iterator]? with
    | some t =>
      dsimp only
      split_ifs
      · exact .of_tunnels rfl rfl
      · exact .of_tunnels rfl rfl
    | none => exact .of_tunnels rfl rfl

theorem tunnelRest_ids (h : St) : SameIds h h.tunnelRest := by
  cases ht : h.tunnels[h.iterator]? with
  | some t =>
    rw [tunnelRest_eq ht]
    split_ifs
    · obtain ⟨h1, h2⟩ := @deactivateTunnel_ids ({ h with
        count := h.countSent t - 1, remaining := h.remaining - 1, pc := .tunnels } : St) _ t t.close ht rfl
      exact ⟨h1, h2⟩
    · exact .of_tunnels rfl rfl
  | none =>
    unfold St.tunnelRest
    rw [ht]
    exact .of_tunnels rfl rfl

theorem checkTunnel_ids (h : St) (status : Bool) : SameIds h (h.checkTunnel status) := by
  unfold St.checkTunnel
  by_cases hdone : h.remaining = 0
  · rw [if_pos hdone]
    exact .of_tunnels rfl rfl
  rw [if_neg hdone]
  cases ht : h.tunnels[h.iterator]? with
  | some t =>
    cases status with
    | true => exact .of_tunnels rfl rfl
    | false =>
      obtain ⟨h1, h2⟩ := @deactivateTunnel_ids { h with remaining := h.remaining - 1 } _ t t ht rfl
      exact ⟨h1, h2⟩
  | none => exact .of_tunnels rfl rfl

theorem clockTurn_ids (h : St) (now : Int) : SameIds h (h.clockTurn now) := by
  unfold St.clockTurn
  split_ifs
  · exact .of_tunnels rfl rfl
  · exact .of_tunnels rfl rfl

/-- calls of sessions -/
theorem Worked.ids {g : St} (hw : Worked h g) : SameIds h g := by
  obtain ⟨_, _, _, _, _, _, _, _, rfl⟩ := hw
  exact .of_tunnels rfl rfl

theorem SameIds.trans {h'' : St} (h1 : SameIds h h') (h2 : SameIds h' h'') : SameIds h h'' :=
  ⟨h2.perm.trans h1.perm, h2.tunnelIDCount.trans h1.tunnelIDCount⟩

theorem deactivateSession_ids (h : St) (k : Nat) : SameIds h (h.deactivateSession k) := by
  unfold St.deactivateSession
  cases h.tcpSessions[k]? with
  | some d => exact .of_tunnels rfl rfl
  | none => exact .of_tunnels rfl rfl

theorem SessionTurn.ids {x : Events} (ht : SessionTurn IP_MSS h x h') : SameIds h h' := by
  cases ht with
  | done => exact .of_tunnels rfl rfl
  | past => exact .of_tunnels rfl rfl
  | hangs => exact (polled_worked h x).ids
  | stays =>
    obtain ⟨h1, h2⟩ := (@polled_worked IP_MSS h x).ids
    exact ⟨h1, h2⟩
  | leaves hmore hpos herr hw =>
    obtain ⟨h1, h2⟩ := hw.ids
    exact SameIds.trans ⟨h1, h2⟩ (deactivateSession_ids _ _)

theorem CheckTurn.ids (ht : CheckTurn h h') : SameIds h h' := by
  cases ht with
  | done => exact .of_tunnels rfl rfl
  | past => exact .of_tunnels rfl rfl
  | stays hmore hw =>
    obtain ⟨h1, h2⟩ := hw.ids
    exact ⟨h1, h2⟩
  | leaves hmore hw =>
    obtain ⟨h1, h2⟩ := hw.ids
    exact SameIds.trans ⟨h1, h2⟩ (deactivateSession_ids _ _)

theorem Dispatched.ids {p : Sessions2.Packet} {i : Sessions2.ClientInput}
    (hd : Dispatched IP_MSS h p i h') : SameIds h h' := by
  cases hd with
  | taken => exact .of_tunnels rfl rfl
  | created =>
    unfold St.createSession
    dsimp only
    split_ifs
    · exact .of_tunnels rfl rfl
    · exact .of_tunnels rfl rfl
  | dropped => exact .refl h

/-! ## the activation -/

/-- the next id is given to a tunnel -/
theorem activateTunnel_numbered (hn : Numbered h) (hroom : h.tunnelIDCount.toNat + 1 < 2 ^ 32)
    (c : TunnelCandidate) : Numbered (h.activateTunnel c) ∧
      (h.activateTunnel c).tunnelIDCount.toNat = h.tunnelIDCount.toNat + 1 := by
  have hcount : (h.tunnelIDCount + 1).toNat = h.tunnelIDCount.toNat + 1 := by
    rw [BitVec.toNat_add]
    exact Nat.mod_eq_of_lt hroom
  have hfresh : h.tunnelIDCount ∉ h.ids := fun hmem => absurd (hn.below _ hmem) (lt_irrefl _)
  -- of the ids there are, some stay, and the new one is below the next
  have hnumbered : ∀ {g : St}, g.tunnelIDCount = h.tunnelIDCount + 1 → g.ids.Nodup →
      (∀ id ∈ g.ids, id ∈ h.ids ∨ id = h.tunnelIDCount) →
      Numbered g ∧ g.tunnelIDCount.toNat = h.tunnelIDCount.toNat + 1 := by
    intro g hg hnodup hids
    refine ⟨⟨hnodup, fun id hid => ?_⟩, by rw [hg, hcount]⟩
    rw [hg, hcount]
    rcases hids id hid with hold | rfl
    · exact Nat.lt_succ_of_lt (hn.below id hold)
    · exact Nat.lt_succ_self _
  unfold St.activateTunnel
  dsimp only
  split_ifs with hlen
  · have hids : (h.tunnels ++ [Tunnel.new h.tunnelIDCount c.socket]).map Tunnel.id =
        h.ids ++ [h.tunnelIDCount] := List.map_append
    refine hnumbered rfl ?_ ?_
    · show ((h.tunnels ++ [Tunnel.new h.tunnelIDCount c.socket]).map Tunnel.id).Nodup
      rw [hids, ← List.concat_eq_append]
      exact hn.nodup.concat hfresh
    · intro id hid
      have hid' : id ∈ (h.tunnels ++ [Tunnel.new h.tunnelIDCount c.socket]).map Tunnel.id := hid
      rw [hids] at hid'
      exact (List.mem_append.mp hid').imp_right List.mem_singleton.mp
  · cases ht : h.tunnels[h.openTunnelsCount]? with
    | some t =>
      have hids : (h.tunnels.set h.openTunnelsCount (t.reset h.tunnelIDCount c.socket)).map Tunnel.id =
          h.ids.set h.openTunnelsCount h.tunnelIDCount := List.map_set
      refine hnumbered rfl ?_ ?_
      · show ((h.tunnels.set h.openTunnelsCount (t.reset h.tunnelIDCount c.socket)).map Tunnel.id).Nodup
        rw [hids]
        exact hn.nodup.set hfresh
      · intro id hid
        have hid' : id ∈ (h.tunnels.set h.openTunnelsCount (t.reset h.tunnelIDCount c.socket)).map
            Tunnel.id := hid
        rw [hids] at hid'
        exact (List.mem_or_eq_of_mem_set hid')
    | none => exact hnumbered rfl hn.nodup fun id hid => .inl hid

theorem activateCandidates_numbered {cs : List TunnelCandidate} (hn : Numbered h)
    (hroom : h.tunnelIDCount.toNat + cs.length < 2 ^ 32) : Numbered (St.activateCandidates cs h) := by
  induction cs generalizing h with
  | nil => exact hn
  | cons c cs ih =>
    rw [List.length_cons] at hroom
    unfold St.activateCandidates
    split_ifs
    · exact hn
    · exact ih hn (by omega)
    · obtain ⟨h1, h2⟩ := activateTunnel_numbered hn (by omega) c
      exact ih h1 (by omega)

theorem activate_numbered (hn : Numbered h)
    (hroom : h.tunnelIDCount.toNat + h.tunnelCandidates.length < 2 ^ 32) : Numbered h.activate := by
  have h1 := activateCandidates_numbered hn hroom
  unfold St.activate
  dsimp only
  split_ifs
  · exact h1
  · exact ⟨h1.nodup, h1.below⟩

/-! ## every step -/

theorem thread_numbered (hn : Numbered h) {i : Input} (hfew : FewTunnels h i) :
    Numbered (h.thread IP_MSS i) := by
  have same : ∀ {g : St}, SameIds h g → Numbered g := fun hs => hn.same hs
  have keep : ∀ {c : Prop} [Decidable c] {g : St}, SameIds h g → Numbered (if c then g else h) :=
    fun hs => same (.ite fun _ => hs)
  cases i with
  | activate => exact iteInduction (fun _ => activate_numbered hn hfew) fun _ => hn
  | packet p i => exact keep (dispatch_dispatched h p.val i).ids
  | session x => exact keep (sessionTurn_turn h x).ids
  | checkSession now now' nowFlush turns => exact keep (checkSession_turn h now now' nowFlush turns).ids
  | exit => exact keep (.of_tunnels rfl rfl)
  | evaluate => exact keep (.of_tunnels rfl rfl)
  | select rcv snd err count => exact keep (.of_tunnels rfl rfl)
  | tunnel => exact keep (tunnelTurn_ids h)
  | deleteTunnel id => exact keep (onDeleteTunnelRequest_ids h id)
  | packetsDone => exact keep (.of_tunnels rfl rfl)
  | tunnelRest => exact keep (tunnelRest_ids h)
  | clock now => exact keep (clockTurn_ids h now)
  | checkTunnel status => exact keep (checkTunnel_ids h status)
  | start tcpPacket => exact hn
  | addTunnelSocket c => exact hn
  | closeTunnel k => exact hn

/-- **A step keeps the ids apart**, if the counter does not wrap around. -/
theorem numbered_step (hn : Numbered h) {i : Input} (hfew : FewTunnels h i) :
    Numbered (step IP_MSS h i) := by
  have hthread : Numbered (if h.hung then h else h.thread IP_MSS i) :=
    iteInduction (fun _ => hn) fun _ => thread_numbered hn hfew
  cases i with
  | start tcpPacket => exact hn.same (.ite fun _ => .of_tunnels rfl rfl)
  | addTunnelSocket c =>
    unfold step St.addTunnelSocket
    dsimp only
    split_ifs
    · exact hn
    · exact hn.same (.of_tunnels rfl rfl)
  | closeTunnel k => exact hn.same (closeTunnel_ids h k)
  | _ => exact hthread

/-! ## a request to close a tunnel -/

/-- the tunnel that a request closes -/
theorem delete_exact (hn : h.ids.Nodup) (id : U32) {k : Nat} {t : Tunnel} (ht : h.tunnels[k]? = some t) :
    (h.onDeleteTunnelRequest id).tunnels[k]? =
      some (if k < h.openTunnelsCount ∧ t.id = id then t.close else t) := by
  obtain ⟨hk, rfl⟩ := List.getElem?_eq_some_iff.mp ht
  unfold St.onDeleteTunnelRequest
  cases hfound : (h.tunnels.take h.openTunnelsCount).findIdx? fun t => t.id = id with
  | some j =>
    obtain ⟨hj, hid, _⟩ := List.findIdx?_eq_some_iff_getElem.mp hfound
    rw [List.length_take] at hj
    have hid' : h.tunnels[j].id = id := by
      rw [List.getElem_take] at hid
      exact of_decide_eq_true hid
    have hiff : k < h.openTunnelsCount ∧ h.tunnels[k].id = id ↔ j = k := by
      constructor
      · rintro ⟨_, hkid⟩
        have hj' : j < h.ids.length := by
          unfold St.ids
          rw [List.length_map]
          omega
        have hk' : k < h.ids.length := by
          unfold St.ids
          rwa [List.length_map]
        have hget : ∀ (m : Nat) (hm : m < h.ids.length) (hm' : m < h.tunnels.length),
            h.ids[m] = h.tunnels[m].id := fun m hm hm' => List.getElem_map _
        refine hn.getElem_inj_iff.mp (?_ : h.ids[j] = h.ids[k])
        rw [hget j hj' (by omega), hget k hk' hk, hid', hkid]
      · rintro rfl
        exact ⟨by omega, hid'⟩
    show (h.tunnels.modify j Tunnel.close)[k]? = _
    rw [List.getElem?_modify, ht]
    show some (if j = k then _ else _) = _
    rw [if_congr hiff rfl rfl]
  | none =>
    have hnone := List.findIdx?_eq_none_iff.mp hfound
    have hno : ¬ (k < h.openTunnelsCount ∧ h.tunnels[k].id = id) := by
      rintro ⟨hlt, hkid⟩
      have hmem : h.tunnels[k] ∈ h.tunnels.take h.openTunnelsCount :=
        List.mem_take_iff_getElem.mpr ⟨k, by omega, rfl⟩
      exact absurd hkid (of_decide_eq_false (hnone _ hmem))
    rw [if_neg hno]
    dsimp only
    split_ifs
    · exact ht
    · exact ht

open Sessions2 (unwatched uploadSyn)

/-- two tunnels fail, and their objects are used for the next ones -/
def usedAgainTwice : List Input :=
  [.start uploadSyn, .addTunnelSocket ⟨3, false⟩, .addTunnelSocket ⟨4, false⟩, .activate, .evaluate,
   .select ∅ ∅ {3, 4} 2, .tunnel, .tunnelRest, .tunnel, .tunnelRest, .tunnel, .session
   ⟨.wouldBlock, 0, 1, 0, .wouldBlock, 0, 0⟩, .clock 0, .addTunnelSocket ⟨5, false⟩, .activate]

end

end TunServer.Handler
