import TunServer.Handler.Data

/-!
# Asking for new tunnels

When a tunnel is lost, the client is asked over the others to delete it, and for new tunnels if few are
left.  What a tunnel answers to a request comes from a library that is not part of the repository.

* `TunnelAnswers`   whether a tunnel accepts a request to delete, and how many requests for a new tunnel;
* `sendDeleteTunnelRequest`   the requests that are sent, with `LOGGING` defined or without;
* `Recovers`  the requests do not depend on it, and new tunnels are asked for;
* `recovers_iff`   the answers with which this is so.
-/

set_option linter.unusedVariables false

namespace TunServer.Handler

def HEALTHY_TUNNELS_COUNT : Nat := 5

structure TunnelAnswers where
  acceptsDelete : Bool
  acceptsNew : Nat
  deriving DecidableEq, Repr

/-- a request that the `k`-th tunnel has accepted -/
inductive Request where
  | deleteTunnel (k : Nat) (id : U32)
  | newTunnel (k : Nat)
  deriving DecidableEq, Repr

/-! ## the requests -/

/-- The loop that sends the request to delete: where it stops. -/
def deleteLoop (openTunnelsCount : Nat) : List TunnelAnswers → Nat → Nat
  | [], ind => ind
  | t :: ts, ind =>
    if ind < openTunnelsCount ∧ t.acceptsDelete = false then deleteLoop openTunnelsCount ts (ind + 1)
    else ind

/-- The inner loop of the other: a tunnel that accepts `accepts` requests is asked `count` times at most. -/
def askTunnel (k : Nat) : Nat → Nat → List Request × Nat
  | 0, count => ([], count)
  | _ + 1, 0 => ([], 0)
  | accepts + 1, count + 1 =>
    let r := askTunnel k accepts count
    (.newTunnel k :: r.1, r.2)

/-- The loop that asks for `count` new tunnels. -/
def newLoop (openTunnelsCount : Nat) : List TunnelAnswers → Nat → Nat → List Request
  | [], _, _ => []
  | t :: ts, ind, count =>
    if ind < openTunnelsCount ∧ count ≠ 0 then
      let r := askTunnel ind t.acceptsNew count
      r.1 ++ newLoop openTunnelsCount ts (ind + 1) r.2
    else []

/-- the statement behind the output of a debug build -/
def newTunnels (tunnels : List TunnelAnswers) (openTunnelsCount : Nat) : List Request :=
  if openTunnelsCount < HEALTHY_TUNNELS_COUNT then
    newLoop openTunnelsCount tunnels 0 openTunnelsCount
  else []

/-- Without `LOGGING` there is no output, and `if (ind == data->openTunnelsCount)` has the statement
behind it for a body. -/
def sendDeleteTunnelRequest (logging : Bool) (tunnels : List TunnelAnswers) (openTunnelsCount : Nat)
    (id : U32) : List Request :=
  let ind := deleteLoop openTunnelsCount tunnels 0
  (if ind < openTunnelsCount then [.deleteTunnel ind id] else []) ++
    if logging then newTunnels tunnels openTunnelsCount
    else if ind = openTunnelsCount then newTunnels tunnels openTunnelsCount else []

/-! ## what the loops do -/

/-- how many of the tunnels in front refuse the request to delete -/
def refusals (opens : List TunnelAnswers) : Nat := (opens.takeWhile fun t => !t.acceptsDelete).length

theorem refusals_le (opens : List TunnelAnswers) : refusals opens ≤ opens.length :=
  (List.takeWhile_sublist _).length_le

theorem refusals_eq_iff (opens : List TunnelAnswers) :
    refusals opens = opens.length ↔ ∀ t ∈ opens, t.acceptsDelete = false := by
  induction opens with
  | nil => exact ⟨fun _ t ht => absurd ht List.not_mem_nil, fun _ => rfl⟩
  | cons t opens ih =>
    unfold refusals at ih ⊢
    rw [List.takeWhile_cons, List.forall_mem_cons]
    cases ht : t.acceptsDelete with
    | true => exact ⟨fun h => (by cases h), fun h => (by cases h.1)⟩
    | false =>
      rw [if_pos (by decide), List.length_cons, List.length_cons, Nat.add_right_cancel_iff, ih]
      exact ⟨fun h => ⟨rfl, h⟩, fun h => h.2⟩

theorem deleteLoop_eq (opens closed : List TunnelAnswers) (ind : Nat) :
    deleteLoop (ind + opens.length) (opens ++ closed) ind = ind + refusals opens := by
  induction opens generalizing ind with
  | nil =>
    cases closed with
    | nil => rfl
    | cons t closed => exact if_neg fun h => absurd h.1 (lt_irrefl ind)
  | cons t opens ih =>
    have hlt : ind < ind + (t :: opens).length := Nat.lt_add_of_pos_right (Nat.succ_pos _)
    have hcount : ind + (t :: opens).length = ind + 1 + opens.length := by
      rw [List.length_cons]
      omega
    rw [List.cons_append, deleteLoop]
    unfold refusals at ih ⊢
    rw [List.takeWhile_cons]
    cases ht : t.acceptsDelete with
    | true =>
      rw [if_neg fun h => absurd h.2 (by decide), if_neg (by decide)]
      rfl
    | false =>
      rw [if_pos ⟨hlt, rfl⟩, if_pos (by decide), hcount, ih (ind + 1), List.length_cons]
      omega

theorem askTunnel_spec (k accepts count : Nat) :
    (askTunnel k accepts count).1 = List.replicate (min accepts count) (.newTunnel k) ∧
      (askTunnel k accepts count).2 = count - accepts := by
  induction accepts generalizing count with
  | zero =>
    rw [Nat.zero_min]
    exact ⟨rfl, rfl⟩
  | succ accepts ih =>
    cases count with
    | zero => exact ⟨rfl, (Nat.zero_sub _).symm⟩
    | succ count =>
      obtain ⟨h1, h2⟩ := ih count
      unfold askTunnel
      dsimp only
      rw [h1, h2, Nat.succ_min_succ, List.replicate_succ, Nat.succ_sub_succ]
      exact ⟨rfl, rfl⟩

/-- **The new tunnels that are asked for**: as many as are open, if the open ones accept so many
requests together. -/
theorem newLoop_length (opens closed : List TunnelAnswers) (ind count : Nat) :
    (newLoop (ind + opens.length) (opens ++ closed) ind count).length =
      min count (opens.map TunnelAnswers.acceptsNew).sum := by
  induction opens generalizing ind count with
  | nil =>
    have hnone : newLoop (ind + 0) closed ind count = [] := by
      cases closed with
      | nil => rfl
      | cons t closed => exact if_neg fun h => absurd h.1 (lt_irrefl ind)
    rw [List.map_nil, List.sum_nil, Nat.min_zero]
    exact congrArg List.length hnone
  | cons t opens ih =>
    have hcount : ind + (t :: opens).length = ind + 1 + opens.length := by
      rw [List.length_cons]
      omega
    obtain ⟨h1, h2⟩ := askTunnel_spec ind t.acceptsNew count
    rw [List.cons_append, newLoop, List.map_cons, List.sum_cons]
    by_cases hc : count = 0
    · rw [if_neg fun h => h.2 hc, hc, Nat.zero_min]
      rfl
    · rw [if_pos ⟨Nat.lt_add_of_pos_right (Nat.succ_pos _), hc⟩, hcount, List.length_append,
        ih (ind + 1), h1, h2, List.length_replicate]
      omega

theorem newLoop_new (openTunnelsCount : Nat) (tunnels : List TunnelAnswers) (ind count : Nat) :
    ∀ r ∈ newLoop openTunnelsCount tunnels ind count, ∃ k, r = .newTunnel k := by
  induction tunnels generalizing ind count with
  | nil => exact fun r hr => absurd hr List.not_mem_nil
  | cons t tunnels ih =>
    intro r hr
    unfold newLoop at hr
    split_ifs at hr with hc
    · rcases List.mem_append.mp hr with hr | hr
      · rw [(askTunnel_spec ind t.acceptsNew count).1] at hr
        exact ⟨ind, List.eq_of_mem_replicate hr⟩
      · exact ih _ _ r hr
    · exact absurd hr List.not_mem_nil

theorem newTunnels_eq_nil_iff (opens closed : List TunnelAnswers) :
    newTunnels (opens ++ closed) opens.length = [] ↔
      HEALTHY_TUNNELS_COUNT ≤ opens.length ∨ ∀ t ∈ opens, t.acceptsNew = 0 := by
  unfold newTunnels
  by_cases hfew : opens.length < HEALTHY_TUNNELS_COUNT
  · have hlen := newLoop_length opens closed 0 opens.length
    rw [Nat.zero_add] at hlen
    have hsum : (opens.map TunnelAnswers.acceptsNew).sum = 0 ↔ ∀ t ∈ opens, t.acceptsNew = 0 := by
      rw [List.sum_eq_zero_iff, List.forall_mem_map]
    rw [if_pos hfew, ← List.length_eq_zero_iff, hlen, or_iff_right (not_le.mpr hfew), ← hsum]
    constructor
    · intro hmin
      rcases Nat.min_eq_zero_iff.mp hmin with h | h
      · rw [List.length_eq_zero_iff.mp h]
        rfl
      · exact h
    · intro h
      rw [h, Nat.min_zero]
  · rw [if_neg hfew]
    exact ⟨fun _ => .inl (not_lt.mp hfew), fun _ => rfl⟩

/-- new tunnels are asked for, and nothing else -/
theorem newTunnels_asks {opens : List TunnelAnswers} (closed : List TunnelAnswers)
    (hfew : opens.length < HEALTHY_TUNNELS_COUNT) (hnew : ∃ t ∈ opens, 0 < t.acceptsNew) :
    ∃ k, .newTunnel k ∈ newTunnels (opens ++ closed) opens.length := by
  have hne : newTunnels (opens ++ closed) opens.length ≠ [] := by
    rw [Ne, newTunnels_eq_nil_iff, not_or]
    refine ⟨not_le.mpr hfew, fun hnone => ?_⟩
    obtain ⟨t, ht, hpos⟩ := hnew
    have hzero := hnone t ht
    omega
  obtain ⟨r, hr⟩ := List.exists_mem_of_ne_nil _ hne
  have hr' := hr
  unfold newTunnels at hr'
  rw [if_pos hfew] at hr'
  obtain ⟨k, rfl⟩ := newLoop_new _ _ _ _ r hr'
  exact ⟨k, hr⟩

/-! ## both builds -/

/-- The requests for the open tunnels `opens`: with `LOGGING` and without they are the same, and with few
tunnels left new ones are asked for if one of them accepts that. -/
structure Recovers (opens closed : List TunnelAnswers) (id : U32) : Prop where
  same : sendDeleteTunnelRequest true (opens ++ closed) opens.length id =
    sendDeleteTunnelRequest false (opens ++ closed) opens.length id
  asks : ∀ logging, opens.length < HEALTHY_TUNNELS_COUNT → (∃ t ∈ opens, 0 < t.acceptsNew) →
    ∃ k, .newTunnel k ∈ sendDeleteTunnelRequest logging (opens ++ closed) opens.length id

/-- the requests, by the answers -/
theorem sendDeleteTunnelRequest_eq (logging : Bool) (opens closed : List TunnelAnswers) (id : U32) :
    sendDeleteTunnelRequest logging (opens ++ closed) opens.length id =
      (if refusals opens = opens.length then [] else [.deleteTunnel (refusals opens) id]) ++
        if logging = true ∨ refusals opens = opens.length then newTunnels (opens ++ closed) opens.length
        else [] := by
  have hloop := deleteLoop_eq opens closed 0
  rw [Nat.zero_add, Nat.zero_add] at hloop
  have hle := refusals_le opens
  unfold sendDeleteTunnelRequest
  dsimp only
  rw [hloop]
  by_cases hr : refusals opens = opens.length
  · rw [if_neg (by omega), if_pos hr, if_pos hr, if_pos (Or.inr hr)]
    cases logging <;> rfl
  · rw [if_pos (by omega), if_neg hr, if_neg hr]
    cases logging with
    | true => rw [if_pos rfl, if_pos (Or.inl rfl)]
    | false => rw [if_neg Bool.false_ne_true, if_neg fun h => h.elim Bool.false_ne_true hr]

/-- **Logging and the recovery of tunnels.**  The requests are those of both builds, and new tunnels are asked
for when they should be, exactly if no open tunnel accepts the request to delete, or enough are open,
or none accepts a request for a new one. -/
theorem recovers_iff (opens closed : List TunnelAnswers) (id : U32) : Recovers opens closed id ↔
    (∀ t ∈ opens, t.acceptsDelete = false) ∨ HEALTHY_TUNNELS_COUNT ≤ opens.length ∨
      ∀ t ∈ opens, t.acceptsNew = 0 := by
  have hsend := fun logging => sendDeleteTunnelRequest_eq logging opens closed id
  rw [← refusals_eq_iff, ← newTunnels_eq_nil_iff opens closed]
  by_cases hr : refusals opens = opens.length
  · -- nobody accepts the request: both builds come to the new tunnels
    refine ⟨fun _ => .inl hr, fun _ => ⟨?_, fun logging hfew hnew => ?_⟩⟩
    · rw [hsend true, hsend false, if_pos (Or.inl rfl), if_pos (Or.inr hr)]
    · obtain ⟨k, hk⟩ := newTunnels_asks closed hfew hnew
      rw [hsend logging, if_pos (Or.inr hr)]
      exact ⟨k, List.mem_append_right _ hk⟩
  · rw [or_iff_right hr]
    constructor
    · intro h
      have hbody : ¬ (false = true ∨ refusals opens = opens.length) := by
        rintro (hfalse | hall)
        · cases hfalse
        · exact hr hall
      have hsame := h.same
      rw [hsend true, hsend false, if_pos (Or.inl rfl), if_neg hbody] at hsame
      exact List.append_cancel_left hsame
    · intro hnone
      refine ⟨?_, fun logging hfew hnew => ?_⟩
      · rw [hsend true, hsend false, hnone, ite_self, ite_self]
      · obtain ⟨k, hk⟩ := newTunnels_asks closed hfew hnew
        rw [hnone] at hk
        exact absurd hk List.not_mem_nil

/-- two tunnels are left, and both accept everything -/
theorem not_recovers : ¬ ∀ (opens closed : List TunnelAnswers) (id : U32), Recovers opens closed id := by
  intro h
  have hsame := (h [⟨true, 9⟩, ⟨true, 9⟩] [] 3).same
  exact absurd hsame (by decide)

end TunServer.Handler
