import TunServer.Handler.Frame
import TunServer.Sessions2.Readiness

/-!
# Who holds which descriptor

Tunnels, sessions and candidates hold descriptors; the operating system hands out none that is held
(`NewSockets`).

* `held`          the descriptors of the open tunnels, of the sessions and of the candidates;
* `Sockets`       none is held twice, and those in the sets of the sessions are held by sessions;
* `step_sockets`  every step keeps that.
-/

set_option linter.unusedVariables false

namespace TunServer.Handler

def Tunnel.held (t : Tunnel) : Option Nat := if t.isOpen then some t.socket else none

theorem Tunnel.held_eq_some {t : Tunnel} {fd : Nat} : t.held = some fd ↔ t.isOpen = true ∧ t.socket = fd := by
  unfold Tunnel.held
  split_ifs with hopen
  · rw [Option.some_inj]
    exact ⟨fun h => ⟨hopen, h⟩, And.right⟩
  · exact ⟨fun h => (nomatch h), fun h => absurd h.1 hopen⟩

/-- with the candidates `cs` -/
def heldWith (cs : List TunnelCandidate) (h : St) : List Nat :=
  h.tunnels.filterMap Tunnel.held ++ (h.tcpSessions.filterMap (·.socket) ++ cs.map (·.socket))

def held (h : St) : List Nat := heldWith h.tunnelCandidates h

/-- the session that takes the packet, or a new object -/
def taker (IP_MSS : U16) (h : St) (p : Sessions2.Packet) : Sessions2.Data :=
  (h.tcpSessions.find? (Sessions2.canHandle · p)).getD (.init IP_MSS)

/-- a descriptor that comes with a step is not held yet -/
def NewSockets (IP_MSS : U16) (h : St) : Input → Prop
  | .addTunnelSocket c => c.socket ∉ held h
  | .packet p i => h.pc = .packets → h.hung = false →
      Sessions2.opens (taker IP_MSS h p.val) p.val i = true → i.fd ∉ held h
  | _ => True

instance (IP_MSS : U16) (h : St) : ∀ i, Decidable (NewSockets IP_MSS h i)
  | .addTunnelSocket _ => inferInstanceAs (Decidable (_ ∉ _))
  | .packet _ _ => inferInstanceAs (Decidable (_ → _ → _ → _))
  | .start _ | .closeTunnel _ | .exit | .activate | .evaluate | .select _ _ _ _ | .tunnel
  | .deleteTunnel _ | .packetsDone | .tunnelRest | .session _ | .clock _ | .checkTunnel _
  | .checkSession _ _ _ _ => .isTrue trivial

/-- what holds between two steps -/
structure Sockets (h : St) : Prop where
  distinct : (held h).Nodup
  registered : ∀ k fd, fd ∈ h.shared.fdSets k → ∃ d ∈ h.tcpSessions, d.socket = some fd
  closed : ∀ d ∈ h.tcpSessions, d.state = .CLOSED → d.socket = none

section
variable {IP_MSS : U16} {h h' : St}

/-! ## exchanging what one of them holds -/

theorem heldWith_tunnels (cs : List TunnelCandidate) {o : Option Nat} {rest : List Nat}
    (hperm : (h.tunnels.filterMap Tunnel.held).Perm (o.toList ++ rest)) :
    (heldWith cs h).Perm
      (o.toList ++ (rest ++ (h.tcpSessions.filterMap (·.socket) ++ cs.map (·.socket)))) := by
  rw [← List.append_assoc]
  exact List.Perm.append_right _ hperm

theorem heldWith_sessions (cs : List TunnelCandidate) {o : Option Nat} {rest : List Nat}
    (hperm : (h.tcpSessions.filterMap (·.socket)).Perm (o.toList ++ rest)) :
    (heldWith cs h).Perm (o.toList ++ (h.tunnels.filterMap Tunnel.held ++ (rest ++ cs.map (·.socket)))) := by
  have h1 := List.Perm.append_right (cs.map (·.socket)) hperm
  rw [List.append_assoc] at h1
  exact (List.Perm.append_left _ h1).trans (List.perm_append_comm_assoc _ _ _)

theorem heldWith_sublist {cs cs' : List TunnelCandidate} (hsub : cs'.Sublist cs) (h : St) :
    (heldWith cs' h).Sublist (heldWith cs h) :=
  List.Sublist.append_left (List.Sublist.append_left (hsub.map _) _) _

/-- the step leaves tunnels, sessions, candidates and sets alone -/
theorem Sockets.same (hs : Sockets h) (htunnels : h'.tunnels = h.tunnels)
    (hsessions : h'.tcpSessions = h.tcpSessions) (hcandidates : h'.tunnelCandidates = h.tunnelCandidates)
    (hshared : h'.shared = h.shared) : Sockets h' := by
  refine ⟨?_, by rw [hshared, hsessions]; exact hs.registered, by rw [hsessions]; exact hs.closed⟩
  unfold held heldWith
  rw [htunnels, hsessions, hcandidates]
  exact hs.distinct

/-- one tunnel changes -/
theorem Sockets.setTunnel {k : Nat} {t t' : Tunnel} {ts : List Tunnel} (hs : Sockets h)
    (ht : h.tunnels[k]? = some t)
    (hts : (ts.filterMap Tunnel.held).Perm (t'.held.toList ++ (h.tunnels.eraseIdx k).filterMap Tunnel.held))
    (hkeep : ∀ fd, t'.held = some fd → t.held = some fd)
    (htunnels : h'.tunnels = ts) (hsessions : h'.tcpSessions = h.tcpSessions)
    (hcandidates : h'.tunnelCandidates = h.tunnelCandidates) (hshared : h'.shared = h.shared) :
    Sockets h' := by
  refine ⟨?_, by rw [hshared, hsessions]; exact hs.registered, by rw [hsessions]; exact hs.closed⟩
  have h1 := heldWith_tunnels h.tunnelCandidates (filterMap_perm ht)
  have h2 := @heldWith_tunnels h' h.tunnelCandidates _ _ (htunnels ▸ hts)
  rw [hsessions] at h2
  unfold held
  rw [hcandidates]
  exact nodup_of_exchange hs.distinct h1 h2 fun fd hfd => .inl (hkeep fd hfd)

/-- a descriptor has one holder -/
theorem Sockets.tunnel_index (hs : Sockets h) {j k : Nat} {t t' : Tunnel} {fd : Nat}
    (hj : h.tunnels[j]? = some t) (hk : h.tunnels[k]? = some t') (ht : t.held = some fd)
    (ht' : t'.held = some fd) : j = k :=
  index_eq_of_nodup (hs.distinct.sublist (List.sublist_append_left _ _)) hj hk ht ht'

theorem Sockets.session_index (hs : Sockets h) {j k : Nat} {d d' : Sessions2.Data} {fd : Nat}
    (hj : h.tcpSessions[j]? = some d) (hk : h.tcpSessions[k]? = some d') (hd : d.socket = some fd)
    (hd' : d'.socket = some fd) : j = k :=
  @index_eq_of_nodup _ _ (fun d : Sessions2.Data => d.socket) _ _ _ _ _ _
    (hs.distinct.sublist ((List.sublist_append_left _ _).trans (List.sublist_append_right _ _))) hj hk hd hd'

theorem Sockets.apart (hs : Sockets h) {j k : Nat} {t : Tunnel} {d : Sessions2.Data} {fd : Nat}
    (hj : h.tunnels[j]? = some t) (hk : h.tcpSessions[k]? = some d) (ht : t.held = some fd)
    (hd : d.socket = some fd) : False :=
  List.disjoint_of_nodup_append hs.distinct
    (List.mem_filterMap.mpr ⟨t, List.mem_of_getElem? hj, ht⟩)
    (List.mem_append_left _ (List.mem_filterMap.mpr ⟨d, List.mem_of_getElem? hk, hd⟩))

/-! ## calls of sessions -/

/-- a session is called: it keeps its socket, closes it, or gets a new one -/
theorem Sockets.put {j : Nat} {d : Sessions2.Data} {op : Sessions2.Op} {s : Sessions2.St} (hs : Sockets h)
    (hd : h.tcpSessions[j]? = some d) (hstep : Sessions2.SetsStep (h.sessionAt d) op s)
    (hnew : ∀ fd, s.data.socket = some fd → d.socket = some fd ∨ fd ∉ held h) : Sockets (h.put j d s) := by
  have hlt := (List.getElem?_eq_some_iff.mp hd).1
  have hmem := List.mem_of_getElem? hd
  refine ⟨?_, fun k fd hfd => ?_, fun d' hd' hclosed => ?_⟩
  · have h1 := heldWith_sessions h.tunnelCandidates (filterMap_perm hd)
    have h2 := @heldWith_sessions (h.put j d s) h.tunnelCandidates _ _ (filterMap_set_perm hlt s.data)
    exact nodup_of_exchange hs.distinct h1 h2 hnew
  · show ∃ d' ∈ h.tcpSessions.set j s.data, d'.socket = some fd
    have hfd' : fd ∈ s.shared.fdSets k := hfd
    by_cases hafter : s.data.socket = some fd
    · exact ⟨s.data, List.mem_of_getElem? (List.getElem?_set_self hlt), hafter⟩
    by_cases hbefore : d.socket = some fd
    · rcases hstep.socket with h1 | ⟨_, h1⟩ | ⟨p, i, _, h1, _⟩
      · exact absurd (h1.trans hbefore) hafter
      · exact absurd hfd' (h1 fd hbefore k)
      · rw [hs.closed d hmem h1] at hbefore
        cases hbefore
    · obtain ⟨e, he, hsocket⟩ := hs.registered k fd ((hstep.frame hbefore hafter k).mp hfd')
      obtain ⟨m, hm⟩ := List.mem_iff_getElem?.mp he
      have hne : j ≠ m := by
        rintro rfl
        cases hd.symm.trans hm
        exact hbefore hsocket
      exact ⟨e, List.mem_of_getElem? (by rw [List.getElem?_set_ne hne]; exact hm), hsocket⟩
  · rcases List.mem_or_eq_of_mem_set hd' with hd' | rfl
    · exact hs.closed d' hd' hclosed
    · exact hstep.closed_socket (hs.closed d hmem) hclosed

theorem call_sockets (hs : Sockets h) (j : Nat) {op : Sessions2.Op} (hop : op.fromClient = none) :
    Sockets (h.call IP_MSS j op) := by
  unfold St.call
  cases hd : h.tcpSessions[j]? with
  | none => exact hs
  | some d =>
    refine hs.put hd (Sessions2.step_sets IP_MSS (h.sessionAt d) op) fun fd hfd => .inl ?_
    have hlife := Sessions2.step_life IP_MSS (h.sessionAt d) op
    generalize Sessions2.step IP_MSS (h.sessionAt d) op = s at hlife hfd
    generalize hd' : s.data = d' at hlife hfd
    cases hlife with
    | kept state socket => exact socket.symm.trans hfd
    | closed state socket =>
      rw [socket] at hfd
      cases hfd
    | opened => cases hop

theorem event_sockets (hs : Sockets h) (ready : Bool) {op : Sessions2.Op} (hop : op.fromClient = none) :
    Sockets (h.event IP_MSS ready op) := by
  unfold St.event
  split_ifs
  · have h1 : Sockets { h with count := h.count - 1 } := hs.same rfl rfl rfl rfl
    exact call_sockets h1 _ hop
  · exact hs

theorem deactivateSession_sockets (hs : Sockets h) (k : Nat) : Sockets (h.deactivateSession k) := by
  unfold St.deactivateSession
  cases hd : h.tcpSessions[k]? with
  | none => exact hs
  | some d =>
    have hperm := toEnd_perm hd
    refine ⟨?_, fun k' fd hfd => ?_, fun d' hd' => hs.closed d' (hperm.mem_iff.mp hd')⟩
    · refine List.Perm.nodup (List.Perm.append_left _ (List.Perm.append_right _ ?_)) hs.distinct
      exact (hperm.filterMap _).symm
    · obtain ⟨e, he, hsocket⟩ := hs.registered k' fd hfd
      exact ⟨e, hperm.mem_iff.mpr he, hsocket⟩

theorem polled_sockets (hs : Sockets h) (x : Events) : Sockets (h.polled IP_MSS x) := by
  unfold St.polled
  dsimp only
  split_ifs
  · exact event_sockets hs _ rfl
  · exact event_sockets (event_sockets hs _ rfl) _ rfl

theorem sessionTurn_sockets (hs : Sockets h) (x : Events) : Sockets (h.sessionTurn IP_MSS x) := by
  have hp : Sockets (h.polled IP_MSS x) := polled_sockets hs x
  have hr : Sockets { h.polled IP_MSS x with remaining := h.remaining - 1 } := hp.same rfl rfl rfl rfl
  rw [sessionTurn_eq]
  split_ifs
  · exact hs.same rfl rfl rfl rfl
  · exact hs.same rfl rfl rfl rfl
  · exact hp
  · exact deactivateSession_sockets (event_sockets hr _ rfl) _
  · exact hr

theorem checkSession_sockets (hs : Sockets h) (hhung : h.hung = false) (now now' nowFlush : Int)
    (turns : Nat) : Sockets (h.checkSession IP_MSS now now' nowFlush turns) := by
  unfold St.checkSession
  split_ifs with hdone
  · exact hs.same rfl rfl rfl rfl
  cases hd : h.tcpSessions[h.iterator]? with
  | none => exact hs.same rfl rfl rfl rfl
  | some d =>
    have hput : Sockets (h.put h.iterator d ((h.sessionAt d).checkStatus now now').2) := by
      have h1 := @call_sockets IP_MSS h hs h.iterator (.checkStatus now now') rfl
      unfold St.call Sessions2.step at h1
      rw [hd] at h1
      dsimp only at h1
      rwa [if_neg (show ¬ (h.sessionAt d).hung = true by
        rw [show (h.sessionAt d).hung = h.hung from rfl, hhung]
        exact Bool.false_ne_true)] at h1
    have hput' : Sockets { h.put h.iterator d ((h.sessionAt d).checkStatus now now').2 with
        remaining := h.remaining - 1 } := hput.same rfl rfl rfl rfl
    dsimp only
    split_ifs
    · exact (@call_sockets IP_MSS _ hput' h.iterator (.flushDataToClient nowFlush turns) rfl).same rfl rfl
        rfl rfl
    · exact deactivateSession_sockets hput' _

/-! ## packets -/

theorem taker_of_first {j : Nat} {d : Sessions2.Data} {p : Sessions2.Packet}
    (hd : h.tcpSessions[j]? = some d) (hcan : Sessions2.canHandle d p = true)
    (hfirst : ∀ k < j, ∀ d', h.tcpSessions[k]? = some d' → Sessions2.canHandle d' p = false) :
    taker IP_MSS h p = d := by
  obtain ⟨hlt, rfl⟩ := List.getElem?_eq_some_iff.mp hd
  have h1 : h.tcpSessions.find? (Sessions2.canHandle · p) = some h.tcpSessions[j] := by
    rw [List.find?_eq_some_iff_getElem]
    refine ⟨hcan, j, hlt, rfl, fun k hk => ?_⟩
    rw [hfirst k hk _ (List.getElem?_eq_getElem _)]
    rfl
  unfold taker
  rw [h1]
  rfl

theorem taker_of_none {p : Sessions2.Packet}
    (hnone : ∀ d ∈ h.tcpSessions, Sessions2.canHandle d p = false) :
    taker IP_MSS h p = Sessions2.Data.init IP_MSS := by
  have h1 : h.tcpSessions.find? (Sessions2.canHandle · p) = none := by
    rw [List.find?_eq_none]
    intro d hd
    simpa using hnone d hd
  unfold taker
  rw [h1]
  rfl

/-- a session that gets a packet -/
theorem Sockets.packet {j : Nat} {d : Sessions2.Data} (hs : Sockets h) (hd : h.tcpSessions[j]? = some d)
    (p : Sessions2.Incoming) (i : Sessions2.ClientInput)
    (hnew : Sessions2.opens d p.val i = true → i.fd ∉ held h) :
    Sockets (h.put j d (Sessions2.receiveFromClient IP_MSS (h.sessionAt d) p.val i).2) := by
  refine hs.put hd (Sessions2.receiveFromClient_sets IP_MSS (h.sessionAt d) p i) fun fd hfd => ?_
  have hlife := Sessions2.receiveFromClient_life IP_MSS (h.sessionAt d) p i
  generalize (Sessions2.receiveFromClient IP_MSS (h.sessionAt d) p.val i).2.data = d' at hlife hfd
  cases hlife with
  | kept state socket => exact .inl (socket.symm.trans hfd)
  | closed state socket =>
    rw [socket] at hfd
    cases hfd
  | opened hopens state socket =>
    rw [socket] at hfd
    cases hfd
    exact .inr (hnew hopens)

theorem held_appendSession (IP_MSS : U16) (h : St) :
    held { h with tcpSessions := h.tcpSessions ++ [Sessions2.Data.init IP_MSS] } = held h := by
  unfold held heldWith
  rw [List.filterMap_append]
  show _ ++ (_ ++ [] ++ _) = _
  rw [List.append_nil]

/-- a new object has no socket -/
theorem Sockets.appendSession (hs : Sockets h) (IP_MSS : U16) :
    Sockets { h with tcpSessions := h.tcpSessions ++ [Sessions2.Data.init IP_MSS] } := by
  refine ⟨held_appendSession IP_MSS h ▸ hs.distinct, fun k fd hfd => ?_, fun d hd hclosed => ?_⟩
  · obtain ⟨e, he, hsocket⟩ := hs.registered k fd hfd
    exact ⟨e, List.mem_append_left _ he, hsocket⟩
  · rcases List.mem_append.mp hd with hd | hd
    · exact hs.closed d hd hclosed
    · rw [List.mem_singleton.mp hd]
      rfl

theorem dispatch_sockets (hs : Sockets h) {p : Sessions2.Incoming} {i : Sessions2.ClientInput}
    (hnew : Sessions2.opens (taker IP_MSS h p.val) p.val i = true → i.fd ∉ held h) :
    Sockets (h.dispatch IP_MSS p.val i) := by
  have hd := @dispatch_dispatched IP_MSS h p.val i
  generalize h.dispatch IP_MSS p.val i = h' at hd
  cases hd with
  | taken hd hcan hfirst =>
    rw [taker_of_first hd hcan hfirst] at hnew
    exact hs.packet hd p i hnew
  | dropped => exact hs
  | created hnone =>
    rw [taker_of_none hnone] at hnew
    have hput := @Sockets.packet IP_MSS _ _ _ (hs.appendSession IP_MSS) List.getElem?_concat_length p i
      (held_appendSession IP_MSS h ▸ hnew)
    unfold St.createSession
    dsimp only
    split_ifs
    · exact hput.same rfl rfl rfl rfl
    · exact hput

/-! ## tunnels -/

theorem modify_sockets (hs : Sockets h) (k : Nat) :
    Sockets { h with tunnels := h.tunnels.modify k Tunnel.close } := by
  cases ht : h.tunnels[k]? with
  | none =>
    have hk : h.tunnels.length ≤ k := List.getElem?_eq_none_iff.mp ht
    refine hs.same ?_ rfl rfl rfl
    exact List.modify_eq_self hk
  | some t =>
    obtain ⟨hlt, rfl⟩ := List.getElem?_eq_some_iff.mp ht
    refine hs.setTunnel ht (filterMap_set_perm hlt (Tunnel.close h.tunnels[k])) (fun fd hfd => ?_) ?_ rfl
      rfl rfl
    · exact Bool.noConfusion (Tunnel.held_eq_some.mp hfd).1
    · refine List.ext_getElem? fun j => ?_
      show (h.tunnels.modify k Tunnel.close)[j]? = _
      rw [List.getElem?_modify, List.getElem?_set]
      split_ifs with hj
      · subst hj
        rw [ht]
        rfl
      · exact Option.map_id'

theorem deactivateTunnel_sockets (hs : Sockets h) {k : Nat} {t t' : Tunnel} (ht : h.tunnels[k]? = some t)
    (hkeep : ∀ fd, t'.held = some fd → t.held = some fd) : Sockets (h.deactivateTunnel k t') :=
  hs.setTunnel ht (filterMap_toEnd_perm _ k { t' with active := false }) hkeep rfl rfl rfl rfl

/-- a candidate becomes a tunnel -/
theorem activateTunnel_held {c : TunnelCandidate} {cs : List TunnelCandidate}
    (hs : (heldWith (c :: cs) h).Nodup) : (heldWith cs (h.activateTunnel c)).Nodup := by
  have hsplit : (heldWith (c :: cs) h).Perm (c.socket :: heldWith cs h) := by
    unfold heldWith
    rw [List.map_cons]
    exact (List.Perm.append_left _ List.perm_middle).trans List.perm_middle
  have hn := hsplit.nodup_iff.mp hs
  unfold St.activateTunnel
  dsimp only
  split_ifs
  · refine (List.Perm.nodup_iff ?_).mpr hn
    unfold heldWith
    show ((h.tunnels ++ [Tunnel.new h.tunnelIDCount c.socket]).filterMap Tunnel.held ++ _).Perm _
    rw [List.filterMap_append, List.append_assoc]
    exact List.perm_middle
  · cases ht : h.tunnels[h.openTunnelsCount]? with
    | none => exact (List.nodup_cons.mp hn).2
    | some t =>
      have hlt := (List.getElem?_eq_some_iff.mp ht).1
      have h1 := heldWith_tunnels cs (filterMap_perm ht)
      have h2 := heldWith_tunnels cs (h := { h with
        tunnels := h.tunnels.set h.openTunnelsCount (t.reset h.tunnelIDCount c.socket) })
        (filterMap_set_perm hlt (t.reset h.tunnelIDCount c.socket))
      refine nodup_of_exchange (List.nodup_cons.mp hn).2 h1 h2 fun fd hfd => .inr ?_
      have he := (Tunnel.held_eq_some.mp hfd).2
      rw [← he]
      exact (List.nodup_cons.mp hn).1

theorem activateCandidates_held {cs : List TunnelCandidate} (hs : (heldWith cs h).Nodup) :
    (heldWith [] (St.activateCandidates cs h)).Nodup := by
  induction cs generalizing h with
  | nil => exact hs
  | cons c cs ih =>
    unfold St.activateCandidates
    split_ifs
    · exact hs.sublist (heldWith_sublist (List.nil_sublist _) h)
    · exact ih (hs.sublist (heldWith_sublist (List.sublist_cons_self _ _) h))
    · exact ih (activateTunnel_held hs)

/-- unless it leaves the list of the tunnels -/
theorem activate_sockets (hs : Sockets h) (hpast : h.activate.pc ≠ .pastTunnels) : Sockets h.activate := by
  obtain ⟨h1, _, h3⟩ := activateCandidates_apart h.tunnelCandidates h
  have h4 := activateCandidates_held hs.distinct
  unfold St.activate at hpast ⊢
  dsimp only at hpast ⊢
  split_ifs at hpast ⊢ with hc
  · exact absurd hc hpast
  · refine ⟨h4, ?_, ?_⟩
    · show ∀ k fd, fd ∈ (St.activateCandidates h.tunnelCandidates h).shared.fdSets k →
        ∃ d ∈ (St.activateCandidates h.tunnelCandidates h).tcpSessions, d.socket = some fd
      rw [h3, h1]
      exact hs.registered
    · show ∀ d ∈ (St.activateCandidates h.tunnelCandidates h).tcpSessions, d.state = .CLOSED →
        d.socket = none
      rw [h1]
      exact hs.closed

/-! ## every step -/

theorem tunnelTurn_same (h : St) : h.tunnelTurn.tunnels = h.tunnels ∧
    h.tunnelTurn.tcpSessions = h.tcpSessions ∧ h.tunnelTurn.tunnelCandidates = h.tunnelCandidates ∧
    h.tunnelTurn.shared = h.shared := by
  unfold St.tunnelTurn
  split_ifs
  · exact ⟨rfl, rfl, rfl, rfl⟩
  · cases h.tunnels[h.iterator]? with
    | none => exact ⟨rfl, rfl, rfl, rfl⟩
    | some t =>
      dsimp only
      split_ifs
      · exact ⟨rfl, rfl, rfl, rfl⟩
      · exact ⟨rfl, rfl, rfl, rfl⟩

theorem tunnelRest_sockets (hs : Sockets h) : Sockets h.tunnelRest := by
  cases ht : h.tunnels[h.iterator]? with
  | none =>
    unfold St.tunnelRest
    rw [ht]
    exact hs.same rfl rfl rfl rfl
  | some t =>
    rw [tunnelRest_eq ht]
    split_ifs with herr
    · have h1 : Sockets { h with
          count := h.countSent t - 1
          remaining := h.remaining - 1
          pc := .tunnels } := hs.same rfl rfl rfl rfl
      exact deactivateTunnel_sockets h1 ht fun fd hfd =>
        absurd (Tunnel.held_eq_some.mp hfd).1 Bool.false_ne_true
    · exact hs.same rfl rfl rfl rfl

theorem checkTunnel_sockets (hs : Sockets h) (status : Bool) : Sockets (h.checkTunnel status) := by
  unfold St.checkTunnel
  by_cases hdone : h.remaining = 0
  · rw [if_pos hdone]
    exact hs.same rfl rfl rfl rfl
  rw [if_neg hdone]
  cases ht : h.tunnels[h.iterator]? with
  | none => exact hs.same rfl rfl rfl rfl
  | some t =>
    cases status with
    | true => exact hs.same rfl rfl rfl rfl
    | false =>
      have h1 : Sockets { h with remaining := h.remaining - 1 } := hs.same rfl rfl rfl rfl
      exact deactivateTunnel_sockets h1 ht fun fd hfd => hfd

theorem onDeleteTunnelRequest_sockets (hs : Sockets h) (id : U32) : Sockets (h.onDeleteTunnelRequest id) := by
  unfold St.onDeleteTunnelRequest
  cases (h.tunnels.take h.openTunnelsCount).findIdx? fun t => t.id = id with
  | some k => exact modify_sockets hs k
  | none =>
    dsimp only
    split_ifs
    · exact hs.same rfl rfl rfl rfl
    · exact hs

theorem clockTurn_same (h : St) (now : Int) : (h.clockTurn now).tunnels = h.tunnels ∧
    (h.clockTurn now).tcpSessions = h.tcpSessions ∧
    (h.clockTurn now).tunnelCandidates = h.tunnelCandidates ∧ (h.clockTurn now).shared = h.shared := by
  unfold St.clockTurn
  split_ifs
  · exact ⟨rfl, rfl, rfl, rfl⟩
  · exact ⟨rfl, rfl, rfl, rfl⟩

theorem thread_sockets (hs : Sockets h) (hhung : h.hung = false) {i : Input} (hok : NewSockets IP_MSS h i)
    (hpast : (h.thread IP_MSS i).pc ≠ .pastTunnels) : Sockets (h.thread IP_MSS i) := by
  have ite : ∀ {c : Prop} [Decidable c] {g : St}, (c → Sockets g) → Sockets (if c then g else h) := by
    intro c _ g hg
    split_ifs with hc
    · exact hg hc
    · exact hs
  cases i with
  | exit => exact ite fun _ => hs.same rfl rfl rfl rfl
  | activate =>
    refine ite fun hc => activate_sockets hs ?_
    have h1 : h.thread IP_MSS .activate = h.activate := if_pos hc
    rwa [h1] at hpast
  | evaluate => exact ite fun _ => hs.same rfl rfl rfl rfl
  | select rcv snd err count => exact ite fun _ => hs.same rfl rfl rfl rfl
  | tunnel =>
    obtain ⟨h1, h2, h3, h4⟩ := tunnelTurn_same h
    exact ite fun _ => hs.same h1 h2 h3 h4
  | packet p i => exact ite fun hpc => dispatch_sockets hs (hok hpc hhung)
  | deleteTunnel id => exact ite fun _ => onDeleteTunnelRequest_sockets hs id
  | packetsDone => exact ite fun _ => hs.same rfl rfl rfl rfl
  | tunnelRest => exact ite fun _ => tunnelRest_sockets hs
  | session x => exact ite fun _ => sessionTurn_sockets hs x
  | clock now =>
    obtain ⟨h1, h2, h3, h4⟩ := clockTurn_same h now
    exact ite fun _ => hs.same h1 h2 h3 h4
  | checkTunnel status => exact ite fun _ => checkTunnel_sockets hs status
  | checkSession now now' nowFlush turns => exact ite fun _ => checkSession_sockets hs hhung _ _ _ _
  | start tcpPacket => exact hs
  | addTunnelSocket c => exact hs
  | closeTunnel k => exact hs

theorem addTunnelSocket_sockets (hs : Sockets h) {c : TunnelCandidate} (hnew : c.socket ∉ held h) :
    Sockets (h.addTunnelSocket c).2 := by
  unfold St.addTunnelSocket
  split_ifs
  · exact hs
  · refine ⟨?_, hs.registered, hs.closed⟩
    have hperm : (held { h with tunnelCandidates := h.tunnelCandidates ++ [c] }).Perm
        (c.socket :: held h) := by
      unfold held heldWith
      rw [List.map_append, ← List.append_assoc, ← List.append_assoc, ← List.append_assoc]
      exact List.perm_append_comm
    exact hperm.nodup_iff.mpr (List.nodup_cons.mpr ⟨hnew, hs.distinct⟩)

theorem step_sockets (h : St) (i : Input) (hs : Sockets h) (hok : NewSockets IP_MSS h i)
    (hpast : (step IP_MSS h i).pc ≠ .pastTunnels) : Sockets (step IP_MSS h i) := by
  have hthread : (if h.hung then h else h.thread IP_MSS i).pc ≠ .pastTunnels →
      Sockets (if h.hung then h else h.thread IP_MSS i) := by
    split_ifs with hhung
    · exact fun _ => hs
    · exact thread_sockets hs (by simpa using hhung) hok
  cases i with
  | start tcpPacket =>
    unfold step
    dsimp only
    split_ifs
    · exact hs.same rfl rfl rfl rfl
    · exact hs
  | addTunnelSocket c => exact addTunnelSocket_sockets hs hok
  | closeTunnel k => exact modify_sockets hs k
  | _ => exact hthread hpast

/-- a thread that has left the list of the tunnels goes no further -/
theorem step_past (h : St) (i : Input) (hpast : h.pc = .pastTunnels) :
    (step IP_MSS h i).pc = .pastTunnels := by
  have hthread : (if h.hung then h else h.thread IP_MSS i).pc = .pastTunnels := by
    split_ifs
    · exact hpast
    · unfold St.thread
      cases i <;> simp [hpast]
  cases i with
  | start tcpPacket =>
    unfold step
    simp [hpast]
  | addTunnelSocket c =>
    unfold step St.addTunnelSocket
    dsimp only
    split_ifs
    · exact hpast
    · exact hpast
  | closeTunnel k => exact hpast
  | _ => exact hthread

end

end TunServer.Handler
