import TunServer.Connection.Fetcher

/-!
# How often the fetcher tries again

A turn of the loop fails without a public address or without a response.  The failures in a row are
counted beside the fetcher's own counter, from the last turn that succeeded and the last report.

* `FailedTurn`   a turn that is taken, and fails;
* `counted`      a step together with the count;
* `Bounded`      a failed turn reports and stops the loop if, and only if, the count is over the maximum;
* `WithinMaximum`   the maximum has not been set below the count;
* `retries_bounded_iff`   the runs in which every failed turn is bounded.
-/

set_option linter.unusedVariables false

namespace TunServer.Connection

/-- there is no public address where it is time for one, or the request fails -/
def Fails (s : St) (a : Attempt) : Prop :=
  (a.now - s.lastTimeUpdatedAddress ≥ STUN_INTERVAL ∧ a.address = none) ∨
    a.performed = false ∨ a.httpCode ≠ 200

instance (s : St) (a : Attempt) : Decidable (Fails s a) := inferInstanceAs (Decidable (_ ∨ _))

/-- the turn is taken -/
def Runs (s : St) : Prop := s.data.started = true ∧ s.data.shouldRun = true

instance (s : St) : Decidable (Runs s) := inferInstanceAs (Decidable (_ ∧ _))

def FailedTurn (s : St) : Op → Prop
  | .attempt a => Runs s ∧ Fails s a
  | _ => False

def WholeTurn (s : St) : Op → Prop
  | .attempt a => Runs s ∧ ¬ Fails s a
  | _ => False

instance (s : St) : ∀ op, Decidable (FailedTurn s op)
  | .attempt a => inferInstanceAs (Decidable (_ ∧ _))
  | .setMaximumRetries _ | .start _ _ | .stop | .leave => .isFalse id

instance (s : St) : ∀ op, Decidable (WholeTurn s op)
  | .attempt a => inferInstanceAs (Decidable (_ ∧ _))
  | .setMaximumRetries _ | .start _ _ | .stop | .leave => .isFalse id

/-- `onError` was called between the two states -/
def Reported (s s' : St) : Prop := .onError ∈ s'.log.drop s.log.length

instance (s s' : St) : Decidable (Reported s s') := inferInstanceAs (Decidable (_ ∈ _))

/-- the fetcher and the failures since the last success or report -/
structure Counted where
  st : St
  failures : Nat

def failuresAfter (w : Counted) (op : Op) (s' : St) : Nat :=
  if FailedTurn w.st op then if Reported w.st s' then 0 else w.failures + 1
  else if WholeTurn w.st op then 0 else w.failures

/-- a fetcher that was just made -/
def created (buf : Mem Byte) (size : Nat) : Counted := ⟨{ responseData := .new buf size }, 0⟩

section
variable {J : Type*} (L : Library J)

def counted (w : Counted) (op : Op) : Except Fault Counted :=
  (step L w.st op).map fun s' => ⟨s', failuresAfter w op s'⟩

/-- A failed turn calls `onError`, and clears `shouldRun`, if and only if the failures with this one are
more than the maximum. -/
def Bounded (w : Counted) (op : Op) : Prop :=
  Ends (fun _ => True) (fun s' => FailedTurn w.st op →
    (Reported w.st s' ↔ w.st.data.maxRetries.toNat < w.failures + 1) ∧
      (s'.data.shouldRun = false ↔ w.st.data.maxRetries.toNat < w.failures + 1)) (step L w.st op)

instance (w : Counted) (op : Op) : Decidable (Bounded L w op) :=
  inferInstanceAs (Decidable (Ends _ _ _))

/-- A failed turn finds no more failures before it than the maximum that is set. -/
def WithinMaximum (w : Counted) (op : Op) : Prop :=
  Ends (fun _ => True) (fun _ => FailedTurn w.st op → w.failures ≤ w.st.data.maxRetries.toNat)
    (step L w.st op)

/-! ## what a turn does to the counter -/

/-- what the counter and its test depend on is as before -/
structure SameTries (s t : St) : Prop where
  retryCount : t.data.retryCount = s.data.retryCount
  maxRetries : t.data.maxRetries = s.data.maxRetries
  shouldRun : t.data.shouldRun = s.data.shouldRun
  log : t.log = s.log

theorem checkAddress_same (s : St) (a : Attempt) : SameTries s (checkAddress s a).1 := by
  unfold checkAddress updateAddress
  split_ifs
  · cases a.address with
    | none => exact ⟨rfl, rfl, rfl, rfl⟩
    | some res =>
      dsimp only
      split_ifs
      · exact ⟨rfl, rfl, rfl, rfl⟩
      · exact ⟨rfl, rfl, rfl, rfl⟩
  · exact ⟨rfl, rfl, rfl, rfl⟩

theorem checkAddress_fails (s : St) (a : Attempt) : (checkAddress s a).2 = false ↔
    a.now - s.lastTimeUpdatedAddress ≥ STUN_INTERVAL ∧ a.address = none := by
  unfold checkAddress updateAddress
  split_ifs with h
  · cases a.address with
    | none => exact ⟨fun _ => ⟨h, rfl⟩, fun _ => rfl⟩
    | some res =>
      dsimp only
      split_ifs
      · exact ⟨fun h => (by cases h), fun h => (by cases h.2)⟩
      · exact ⟨fun h => (by cases h), fun h => (by cases h.2)⟩
  · exact ⟨fun h => (by cases h), fun h' => absurd h'.1 h⟩

/-- **A turn that fails** ends in `retry`. -/
theorem attempt_fails {s : St} {a : Attempt} (h : Fails s a) :
    Ends (fun _ => True) (fun s' => ∃ t, SameTries s t ∧ s' = retry t) (attempt L s a) := by
  have hsame := checkAddress_same s a
  unfold attempt
  dsimp only
  by_cases haddr : (checkAddress s a).2 = false
  · rw [if_pos haddr]
    exact ⟨_, hsame, rfl⟩
  · rw [if_neg haddr]
    have hreq : a.performed = false ∨ a.httpCode ≠ 200 :=
      h.resolve_left fun h' => haddr ((checkAddress_fails s a).mpr h')
    cases receive { (checkAddress s a).1.responseData with ind := 0 } a.chunks with
    | error e => exact trivial
    | ok r =>
      show Ends _ _ (if a.performed = false ∨ a.httpCode ≠ 200 then _ else _)
      rw [if_pos hreq]
      exact ⟨{ (checkAddress s a).1 with responseData := r }, ⟨hsame.1, hsame.2, hsame.3, hsame.4⟩, rfl⟩

/-- a turn that succeeds -/
theorem attempt_succeeds {s : St} {a : Attempt} (h : ¬ Fails s a) :
    Ends (fun _ => True) (fun s' => s'.data.retryCount = 0) (attempt L s a) := by
  unfold Fails at h
  rw [not_or] at h
  unfold attempt
  dsimp only
  rw [if_neg fun haddr => h.1 ((checkAddress_fails s a).mp haddr)]
  cases receive { (checkAddress s a).1.responseData with ind := 0 } a.chunks with
  | error e => exact trivial
  | ok r =>
    show Ends _ _ (if a.performed = false ∨ a.httpCode ≠ 200 then _ else _)
    rw [if_neg h.2]
    cases L.deserializeJson (r.buf.read 0 r.size) with
    | none => exact trivial
    | some p => exact rfl

theorem step_runs {s : St} {a : Attempt} (h : Runs s) : step L s (.attempt a) = attempt L s a := if_pos h

theorem FailedTurn.attempt {s : St} {op : Op} (h : FailedTurn s op) :
    ∃ a, op = .attempt a ∧ Runs s ∧ Fails s a := by
  cases op with
  | attempt a => exact ⟨a, rfl, h⟩
  | setMaximumRetries count => exact h.elim
  | start buf size => exact h.elim
  | stop => exact h.elim
  | leave => exact h.elim

theorem reported_retry {s t : St} (h : SameTries s t) :
    Reported s (retry t) ↔ s.data.retryCount = s.data.maxRetries := by
  unfold Reported retry
  rw [h.retryCount, h.maxRetries, ← h.log]
  split_ifs with hc
  · rw [List.drop_left]
    exact ⟨fun _ => hc, fun _ => List.mem_singleton.mpr rfl⟩
  · rw [List.drop_length]
    exact ⟨fun h' => absurd h' List.not_mem_nil, fun h' => absurd h' hc⟩

theorem stopped_retry {s t : St} (h : SameTries s t) (hrun : s.data.shouldRun = true) :
    (retry t).data.shouldRun = false ↔ s.data.retryCount = s.data.maxRetries := by
  unfold retry
  rw [h.retryCount, h.maxRetries]
  split_ifs with hc
  · exact ⟨fun _ => hc, fun _ => rfl⟩
  · refine ⟨fun h' => ?_, fun h' => absurd h' hc⟩
    have h'' : t.data.shouldRun = false := h'
    rw [h.shouldRun, hrun] at h''
    cases h''

/-! ## the count and the counter -/

/-- the counter is the count of the failures -/
def Counts (w : Counted) : Prop := w.st.data.retryCount.toNat = w.failures

/-- the test of the code and the test that is meant -/
theorem test_iff {count max : U32} {n : Nat} (h : count.toNat = n) :
    (count = max ↔ max.toNat < n + 1) ↔ n ≤ max.toNat := by
  rw [BitVec.toNat_inj.symm, h]
  omega

theorem bounded_iff {w : Counted} (hw : Counts w) (op : Op) :
    Bounded L w op ↔ WithinMaximum L w op := by
  unfold Bounded WithinMaximum
  by_cases hf : FailedTurn w.st op
  · obtain ⟨a, rfl, hruns, hfails⟩ := hf.attempt
    have hends := attempt_fails L hfails
    rw [step_runs L hruns]
    cases ha : attempt L w.st a with
    | error e => exact Iff.rfl
    | ok s' =>
      rw [ha] at hends
      obtain ⟨t, ht, rfl⟩ := hends
      show (_ → _ ∧ _) ↔ (_ → _)
      rw [reported_retry ht, stopped_retry ht hruns.2, and_self]
      exact imp_congr_right fun _ => test_iff hw
  · cases step L w.st op with
    | error e => exact Iff.rfl
    | ok s' => exact ⟨fun _ h => absurd h hf, fun _ h => absurd h hf⟩

theorem counted_keeps {w : Counted} (hw : Counts w) {op : Op} (hb : WithinMaximum L w op) :
    Ends (fun _ => True) Counts (counted L w op) := by
  unfold counted
  unfold WithinMaximum at hb
  cases op with
  | attempt a =>
    by_cases hruns : Runs w.st
    · rw [step_runs L hruns] at hb ⊢
      by_cases hfails : Fails w.st a
      · have hf : FailedTurn w.st (.attempt a) := ⟨hruns, hfails⟩
        have hends := attempt_fails L hfails
        cases ha : attempt L w.st a with
        | error e => exact trivial
        | ok s' =>
          rw [ha] at hends hb
          obtain ⟨t, ht, rfl⟩ := hends
          have hle : w.failures ≤ w.st.data.maxRetries.toNat := hb hf
          show (retry t).data.retryCount.toNat = failuresAfter w (.attempt a) (retry t)
          unfold failuresAfter
          rw [if_pos hf]
          by_cases hc : w.st.data.retryCount = w.st.data.maxRetries
          · rw [if_pos ((reported_retry ht).mpr hc)]
            unfold retry
            rw [ht.retryCount, ht.maxRetries, if_pos hc]
            rfl
          · rw [if_neg fun h => hc ((reported_retry ht).mp h)]
            unfold retry
            rw [ht.retryCount, ht.maxRetries, if_neg hc]
            show (w.st.data.retryCount + 1).toNat = w.failures + 1
            rw [← hw] at hle ⊢
            bv_omega
      · have hf : ¬ FailedTurn w.st (.attempt a) := fun h => hfails h.2
        have hends := attempt_succeeds L hfails
        cases ha : attempt L w.st a with
        | error e => exact trivial
        | ok s' =>
          rw [ha] at hends
          have hzero : s'.data.retryCount = 0 := hends
          show s'.data.retryCount.toNat = failuresAfter w (.attempt a) s'
          unfold failuresAfter
          rw [if_neg hf, if_pos ⟨hruns, hfails⟩, hzero]
          rfl
    · have hstep : step L w.st (.attempt a) = .ok w.st := if_neg hruns
      rw [hstep]
      show w.st.data.retryCount.toNat = failuresAfter w (.attempt a) w.st
      unfold failuresAfter
      rw [if_neg fun h => hruns h.1, if_neg fun h => hruns h.1]
      exact hw
  | setMaximumRetries count => exact hw
  | start buf size =>
    show Ends _ Counts (Except.map _ (if w.st.data.started = false then _ else _))
    split_ifs
    · exact hw
    · exact hw
  | stop => exact hw
  | leave =>
    show Ends _ Counts (Except.map _
      (if w.st.data.started = true ∧ w.st.data.shouldRun = false then _ else _))
    split_ifs
    · exact hw
    · exact hw

/-- **The runs in which the tries are bounded**: those where no failed turn finds the maximum set below
the failures before it.  The code tests the two for equality. -/
theorem retries_bounded_iff (buf : Mem Byte) (size : Nat) (ops : List Op) :
    AlongM (counted L) (Bounded L) (created buf size) ops ↔
      AlongM (counted L) (WithinMaximum L) (created buf size) ops := by
  have hcreated : Counts (created buf size) := rfl
  refine alongM_iff Counts ?_ ?_ hcreated ops
  · intro w op hw hb
    exact counted_keeps L hw ((bounded_iff L hw op).mp hb)
  · intro w op hw
    exact bounded_iff L hw op

end

/-- a turn without an address -/
def noAddress : Op := .attempt ⟨STUN_INTERVAL, none, 0, [], false, 0⟩

/-- a library that is never asked -/
def noLibrary : Library Unit :=
  ⟨fun _ => none, fun _ => 0, fun _ => none, fun _ => none, fun _ => none, fun _ _ => none⟩

/-- After two failures the maximum is set to one, and the loop goes on. -/
theorem not_bounded : ¬ AlongM (counted noLibrary) (Bounded noLibrary) (created (fun _ => 0) 1000)
    [.start (fun _ => 0) 1000, noAddress, noAddress, .setMaximumRetries 1, noAddress] := by
  decide

end TunServer.Connection
