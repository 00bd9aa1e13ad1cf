import TunServer.Base.Pool
import TunServer.Base.Run

/-!
# The threads of the fetcher: `start`, `stop` and `fetchConnections`

Any threads call `start` and `stop`, also the callbacks of the fetcher's own thread.  `start` looks at
the flags with the mutex held and begins the thread without it; `stop` is one write; the thread looks
at `shouldRun` before each turn and clears `started` when it leaves.  Every operation on the mutex and
every access to a flag is a step of its own.

* `StartPc`, `FetchPc`   where a call of `start` is, and a thread in `fetchConnections`;
* `St`, `Move`, `step`   the flags, the mutex, the calls and the threads; one atomic step;
* `Inv`                  `started` stands for one thread that runs, or for one call about to begin it;
* `one_fetcher`          no two threads are in `fetchConnections`, whose handle and buffer they would share;
* `stop_lasts`           a `stop` is not undone before the thread is gone, whatever `start` is called.
-/

set_option linter.unusedVariables false

namespace TunServer.Connection.Threads

/-! ## the steps -/

inductive StartPc where
  | lock
  | testStarted
  | setStarted
  | setRun
  /-- the mutex is given back, and a thread begun if it was found that there is none -/
  | unlock (begins : Bool)
  | begin
  | returned (begun : Bool)
  deriving DecidableEq, Repr

inductive FetchPc where
  | testRun
  | body
  | clearStarted
  | gone
  deriving DecidableEq, Repr

/-- `turns` counts the turns that were begun -/
structure St where
  mtx : Option Nat
  started : Bool
  shouldRun : Bool
  starts : List StartPc
  fetchers : List FetchPc
  turns : Nat

def St.init : St := ⟨none, false, false, [], [], 0⟩

inductive Move where
  | callStart
  | callStop
  /-- the `k`-th call of `start` makes its next step -/
  | start (k : Nat)
  /-- the `k`-th thread makes its next step -/
  | fetch (k : Nat)
  deriving DecidableEq, Repr

namespace St

/-- call `k` goes on to `pc` -/
def goto (s : St) (k : Nat) (pc : StartPc) : St := { s with starts := s.starts.set k pc }

/-- thread `k` goes on to `pc` -/
def turnTo (s : St) (k : Nat) (pc : FetchPc) : St := { s with fetchers := s.fetchers.set k pc }

def start (s : St) (k : Nat) : StartPc → St
  | .lock => if s.mtx = none then { s with mtx := some k }.goto k .testStarted else s
  | .testStarted => s.goto k (if s.started then .unlock false else .setStarted)
  | .setStarted => { s with started := true }.goto k .setRun
  | .setRun => { s with shouldRun := true }.goto k (.unlock true)
  | .unlock begins => { s with mtx := none }.goto k (if begins then .begin else .returned false)
  | .begin => { s with fetchers := s.fetchers ++ [FetchPc.testRun] }.goto k (.returned true)
  | .returned _ => s

def fetch (s : St) (k : Nat) : FetchPc → St
  | .testRun =>
    if s.shouldRun then { s with turns := s.turns + 1 }.turnTo k .body else s.turnTo k .clearStarted
  | .body => s.turnTo k .testRun
  | .clearStarted => { s with started := false }.turnTo k .gone
  | .gone => s

end St

def step (s : St) : Move → St
  | .callStart => { s with starts := s.starts ++ [.lock] }
  | .callStop => { s with shouldRun := false }
  | .start k => match s.starts[k]? with
    | some pc => s.start k pc
    | none => s
  | .fetch k => match s.fetchers[k]? with
    | some pc => s.fetch k pc
    | none => s

/-! ## the invariant -/

/-- the call holds the mutex -/
def StartPc.holding : StartPc → Bool
  | .testStarted | .setStarted | .setRun | .unlock _ => true
  | _ => false

/-- the call has set `started`, and not begun the thread yet -/
def StartPc.beginning : StartPc → Bool
  | .setRun | .unlock true | .begin => true
  | _ => false

/-- the thread is in `fetchConnections` -/
def FetchPc.live : FetchPc → Bool
  | .gone => false
  | _ => true

def St.beginning (s : St) : Nat := s.starts.countP StartPc.beginning
def St.live (s : St) : Nat := s.fetchers.countP FetchPc.live

structure Inv (s : St) : Prop where
  holds : Guards StartPc.holding (fun k => k) s.mtx s.starts
  alone : ∀ k : Nat, s.starts[k]? = some StartPc.setStarted → s.started = false
  one : s.beginning + s.live = if s.started then 1 else 0

theorem inv_init : Inv St.init where
  holds := Guards.nil
  alone k h := by simp [St.init] at h
  one := rfl

section
variable {s : St} {k : Nat}

theorem beginning_goto {pc pc' : StartPc} (h : s.starts[k]? = some pc) :
    (s.goto k pc').beginning + pc.beginning.toNat = s.beginning + pc'.beginning.toNat := countP_goto h

theorem live_turnTo {pc pc' : FetchPc} (h : s.fetchers[k]? = some pc) :
    (s.turnTo k pc').live + pc.live.toNat = s.live + pc'.live.toNat := countP_goto h

/-- A call goes on.  `t` is the state with what its step wrote. -/
theorem Inv.goto (h : Inv s) {t : St} {pc' : StartPc} (hstarts : t.starts = s.starts)
    (hother : ∀ j, j ≠ k → s.mtx = some j → t.mtx = some j ∧ t.started = s.started)
    (hnew : pc'.holding = true → t.mtx = some k) (hset : pc' = .setStarted → t.started = false)
    (hone : (t.goto k pc').beginning + t.live = if t.started then 1 else 0) : Inv (t.goto k pc') := by
  refine ⟨fun j pc hj hp => ?_, fun j hj => ?_, hone⟩
  · rcases goto_get hj with ⟨rfl, rfl⟩ | ⟨hjk, hj⟩
    · exact hnew hp
    · rw [hstarts] at hj
      exact (hother j hjk (h.holds j pc hj hp)).1
  · rcases goto_get hj with ⟨rfl, hp⟩ | ⟨hjk, hj⟩
    · exact hset hp.symm
    · rw [hstarts] at hj
      exact (hother j hjk (h.holds j _ hj rfl)).2.trans (h.alone j hj)

theorem inv_start (h : Inv s) {pc : StartPc} (hk : s.starts[k]? = some pc) : Inv (s.start k pc) := by
  have hone := h.one
  -- the call that holds the mutex is the only one
  have hmine : pc.holding = true → ∀ j, j ≠ k → s.mtx ≠ some j := by
    intro hp j hj he
    exact hj (Option.some.inj (he.symm.trans (h.holds k pc hk hp)))
  have hcount : ∀ pc', (s.goto k pc').beginning + pc.beginning.toNat =
      s.beginning + pc'.beginning.toNat := fun pc' => beginning_goto hk
  cases pc with
  | lock =>
    unfold St.start
    dsimp only
    split_ifs with hm
    · refine h.goto rfl (fun j hj he => ?_) (fun _ => rfl) (fun he => by cases he) ?_
      · exact absurd (hm.symm.trans he) (by simp)
      · have h1 := hcount .testStarted
        exact (congrArg (· + s.live) h1).trans hone
    · exact h
  | testStarted =>
    have hm := h.holds k _ hk rfl
    unfold St.start
    dsimp only
    split_ifs with hs
    · refine h.goto rfl (fun j hj he => ⟨he, rfl⟩) (fun _ => hm) (fun he => by cases he) ?_
      exact (congrArg (· + s.live) (hcount (.unlock false))).trans hone
    · refine h.goto rfl (fun j hj he => ⟨he, rfl⟩) (fun _ => hm) (fun _ => by simpa using hs) ?_
      exact (congrArg (· + s.live) (hcount .setStarted)).trans hone
  | setStarted =>
    have hs := h.alone k hk
    refine h.goto rfl (fun j hj he => absurd he (hmine rfl j hj)) (fun _ => h.holds k _ hk rfl)
      (fun he => by cases he) ?_
    have h1 := hcount .setRun
    rw [hs] at hone
    show (s.goto k .setRun).beginning + s.live = 1
    simp only [StartPc.beginning, Bool.toNat_true, Bool.toNat_false, Bool.false_eq_true, if_false] at h1 hone
    omega
  | setRun =>
    refine h.goto rfl (fun j hj he => absurd he (hmine rfl j hj)) (fun _ => h.holds k _ hk rfl)
      (fun he => by cases he) ?_
    have h1 := hcount (.unlock true)
    show (s.goto k (.unlock true)).beginning + s.live = _
    simp only [StartPc.beginning, Bool.toNat_true] at h1
    show _ = if s.started then 1 else 0
    omega
  | unlock begins =>
    unfold St.start
    cases begins with
    | false =>
      refine h.goto rfl (fun j hj he => absurd he (hmine rfl j hj)) (fun he => by cases he)
        (fun he => by cases he) ?_
      exact (congrArg (· + s.live) (hcount (.returned false))).trans hone
    | true =>
      refine h.goto rfl (fun j hj he => absurd he (hmine rfl j hj)) (fun he => by cases he)
        (fun he => by cases he) ?_
      have h1 := hcount .begin
      show (s.goto k .begin).beginning + s.live = if s.started then 1 else 0
      simp only [StartPc.beginning, Bool.toNat_true] at h1
      omega
  | begin =>
    refine h.goto rfl (fun j hj he => ⟨he, rfl⟩) (fun he => by cases he) (fun he => by cases he) ?_
    have h1 := hcount (.returned true)
    have h2 : (s.fetchers ++ [FetchPc.testRun]).countP FetchPc.live = s.live + 1 := by
      rw [List.countP_append]
      rfl
    show (s.goto k (.returned true)).beginning + (s.fetchers ++ [FetchPc.testRun]).countP FetchPc.live = _
    simp only [StartPc.beginning, Bool.toNat_true, Bool.toNat_false] at h1
    show _ = if s.started then 1 else 0
    omega
  | returned b => exact h

theorem inv_fetch (h : Inv s) {pc : FetchPc} (hk : s.fetchers[k]? = some pc) : Inv (s.fetch k pc) := by
  have hone := h.one
  have hcount : ∀ pc', (s.turnTo k pc').live + pc.live.toNat = s.live + pc'.live.toNat :=
    fun pc' => live_turnTo hk
  cases pc with
  | testRun =>
    unfold St.fetch
    dsimp only
    split_ifs
    · have h1 := hcount .body
      simp only [FetchPc.live, Bool.toNat_true] at h1
      refine ⟨h.holds, h.alone, ?_⟩
      show s.beginning + (s.turnTo k .body).live = if s.started then 1 else 0
      omega
    · have h1 := hcount .clearStarted
      simp only [FetchPc.live, Bool.toNat_true] at h1
      refine ⟨h.holds, h.alone, ?_⟩
      show s.beginning + (s.turnTo k .clearStarted).live = if s.started then 1 else 0
      omega
  | body =>
    have h1 := hcount .testRun
    simp only [FetchPc.live, Bool.toNat_true] at h1
    refine ⟨h.holds, h.alone, ?_⟩
    show s.beginning + (s.turnTo k .testRun).live = if s.started then 1 else 0
    omega
  | clearStarted =>
    have h1 := hcount .gone
    simp only [FetchPc.live, Bool.toNat_true, Bool.toNat_false] at h1
    refine ⟨h.holds, fun j hj => rfl, ?_⟩
    show s.beginning + (s.turnTo k .gone).live = 0
    split_ifs at hone <;> omega
  | gone => exact h

theorem inv_step (h : Inv s) (m : Move) : Inv (step s m) := by
  cases m with
  | callStart =>
    refine ⟨fun j pc hj hp => ?_, fun j hj => ?_, ?_⟩
    · rcases begun_get hj with h1 | ⟨_, rfl⟩
      · exact h.holds j pc h1 hp
      · cases hp
    · rcases begun_get hj with h1 | ⟨_, h1⟩
      · exact h.alone j h1
      · cases h1
    · have h1 : (s.starts ++ [StartPc.lock]).countP StartPc.beginning = s.beginning := by
        rw [List.countP_append]
        rfl
      exact (congrArg (· + s.live) h1).trans h.one
  | callStop => exact ⟨h.holds, h.alone, h.one⟩
  | start k =>
    unfold step
    dsimp only
    cases hk : s.starts[k]? with
    | none => exact h
    | some pc => exact inv_start h hk
  | fetch k =>
    unfold step
    dsimp only
    cases hk : s.fetchers[k]? with
    | none => exact h
    | some pc => exact inv_fetch h hk

end

theorem inv_reached (moves : List Move) : Inv (run step St.init moves) :=
  run_inv Inv (fun s m hs _ => inv_step hs m) inv_init (along_true step St.init moves)

/-- **One thread at a time.**  In every run at most one thread is in `fetchConnections`, and while one
is, `isActive` tells so; while none is and no call is about to begin one, it tells that too. -/
theorem one_fetcher (moves : List Move) :
    let s := run step St.init moves
    s.live ≤ 1 ∧ (0 < s.live → s.started = true) ∧
      (s.live = 0 → s.beginning = 0 → s.started = false) := by
  intro s
  have h : s.beginning + s.live = if s.started then 1 else 0 := (inv_reached moves).one
  split_ifs at h with hs
  · exact ⟨by omega, fun _ => hs, fun h1 h2 => by omega⟩
  · exact ⟨by omega, fun h1 => by omega, fun _ _ => by simpa using hs⟩

/-! ## a thread that was stopped -/

/-- how many steps a thread has left that finds `shouldRun` cleared -/
def FetchPc.left : FetchPc → Nat
  | .body => 3
  | .testRun => 2
  | .clearStarted => 1
  | .gone => 0

/-- Nothing has come of the calls since the state `s`: `shouldRun` stays cleared, no turn and no thread
was begun, and every call of `start` since then that returned did nothing. -/
structure Unmoved (s t : St) : Prop where
  shouldRun : t.shouldRun = false
  turns : t.turns = s.turns
  fetchers : t.fetchers.length = s.fetchers.length
  starts : ∀ j : Nat, s.starts.length ≤ j → t.starts[j]? ≠ some (StartPc.returned true)

/-- thread `k` was stopped at `s`, and has made `n` steps since then -/
structure Halting (s : St) (k n : Nat) (t : St) : Prop where
  inv : Inv t
  thread : ∃ pc, t.fetchers[k]? = some pc ∧ (pc = .gone ∨ pc.left + n ≤ 3 ∧ Unmoved s t)

section
variable {s t : St} {k n : Nat}

/-- a call goes on, and does not begin a thread -/
theorem Unmoved.goto (h : Unmoved s t) {j : Nat} {pc' : StartPc} (hpc : pc' ≠ .returned true) :
    Unmoved s (t.goto j pc') := by
  refine ⟨h.shouldRun, h.turns, h.fetchers, fun i hi he => ?_⟩
  rcases goto_get he with ⟨_, e⟩ | ⟨_, e⟩
  · exact hpc e.symm
  · exact h.starts i hi e

/-- while a thread runs, a call of `start` comes to nothing -/
theorem unmoved_start (h : Unmoved s t) (hinv : Inv t) (hlive : 0 < t.live) {j : Nat} {pc : StartPc}
    (hj : t.starts[j]? = some pc) : Unmoved s (t.start j pc) ∧ (t.start j pc).fetchers = t.fetchers := by
  have hone := hinv.one
  have hstarted : t.started = true := by
    by_contra hc
    rw [if_neg hc] at hone
    omega
  have hnone : pc.beginning = false := by
    by_contra hc
    have h1 : 0 < t.starts.countP StartPc.beginning :=
      List.countP_pos_iff.mpr ⟨pc, List.mem_of_getElem? hj, by simpa using hc⟩
    rw [if_pos hstarted] at hone
    have h2 : t.beginning = t.starts.countP StartPc.beginning := rfl
    omega
  cases pc with
  | lock =>
    unfold St.start
    dsimp only
    split_ifs
    · have h1 : Unmoved s { t with mtx := some j } := ⟨h.1, h.2, h.3, h.4⟩
      exact ⟨h1.goto (by decide), rfl⟩
    · exact ⟨h, rfl⟩
  | testStarted =>
    unfold St.start
    dsimp only
    rw [if_pos hstarted]
    exact ⟨h.goto (by decide), rfl⟩
  | setStarted => exact absurd (hstarted.symm.trans (hinv.alone j hj)) (by decide)
  | setRun => cases hnone
  | unlock begins =>
    cases begins with
    | false =>
      have h1 : Unmoved s { t with mtx := none } := ⟨h.1, h.2, h.3, h.4⟩
      have h2 : Unmoved s ({ t with mtx := none }.goto j (.returned false)) := h1.goto (by decide)
      exact ⟨h2, rfl⟩
    | true => cases hnone
  | begin => cases hnone
  | returned b => exact ⟨h, rfl⟩

/-- a thread that makes a step finds `shouldRun` cleared -/
theorem unmoved_fetch (h : Unmoved s t) {j : Nat} {pc : FetchPc} : Unmoved s (t.fetch j pc) := by
  have turnTo : ∀ {u : St} pc', Unmoved s u → Unmoved s (u.turnTo j pc') := fun pc' hu =>
    ⟨hu.shouldRun, hu.turns, (List.length_set ..).trans hu.fetchers, hu.starts⟩
  cases pc with
  | testRun =>
    unfold St.fetch
    dsimp only
    rw [if_neg (by rw [h.shouldRun]; decide)]
    exact turnTo _ h
  | body => exact turnTo _ h
  | clearStarted =>
    have h1 : Unmoved s { t with started := false } := ⟨h.1, h.2, h.3, h.4⟩
    exact turnTo _ h1
  | gone => exact h

/-- only its own steps move a thread -/
theorem fetchers_other {pc : FetchPc} {m : Move} (hk : t.fetchers[k]? = some pc) (hm : m ≠ .fetch k) :
    (step t m).fetchers[k]? = some pc := by
  cases m with
  | callStart => exact hk
  | callStop => exact hk
  | start j =>
    unfold step
    dsimp only
    cases t.starts[j]? with
    | none => exact hk
    | some c =>
      cases c with
      | lock =>
        unfold St.start
        dsimp only
        split_ifs
        · exact hk
        · exact hk
      | begin =>
        show (t.fetchers ++ [FetchPc.testRun])[k]? = some pc
        rw [List.getElem?_append_left (List.getElem?_eq_some_iff.mp hk).1, hk]
      | _ => exact hk
  | fetch j =>
    have hjk : j ≠ k := fun e => hm (by rw [e])
    have hset : ∀ pc', (t.fetchers.set j pc')[k]? = some pc := fun pc' => by
      rw [List.getElem?_set_ne hjk, hk]
    unfold step
    dsimp only
    cases t.fetchers[j]? with
    | none => exact hk
    | some c =>
      cases c with
      | testRun =>
        unfold St.fetch
        dsimp only
        split_ifs
        · exact hset _
        · exact hset _
      | body => exact hset _
      | clearStarted => exact hset _
      | gone => exact hk

/-- a stopped thread makes one of its last steps -/
theorem halting_own (h : Unmoved s t) {pc : FetchPc} (hk : t.fetchers[k]? = some pc) :
    ∃ pc', (t.fetch k pc).fetchers[k]? = some pc' ∧ (pc' = .gone ∨ pc'.left + 1 = pc.left) := by
  have hset : ∀ pc', (t.fetchers.set k pc')[k]? = some pc' := fun pc' =>
    List.getElem?_set_self (List.getElem?_eq_some_iff.mp hk).1
  cases pc with
  | testRun =>
    unfold St.fetch
    dsimp only
    rw [if_neg (by rw [h.shouldRun]; decide)]
    exact ⟨.clearStarted, hset _, .inr rfl⟩
  | body => exact ⟨.testRun, hset _, .inr rfl⟩
  | clearStarted => exact ⟨.gone, hset _, .inl rfl⟩
  | gone => exact ⟨.gone, hk, .inl rfl⟩

theorem halting_step (h : Halting s k n t) (m : Move) :
    Halting s k (n + if m = .fetch k then 1 else 0) (step t m) := by
  obtain ⟨hinv, pc, hk, hpc⟩ := h
  refine ⟨inv_step hinv m, ?_⟩
  by_cases hgone : pc = .gone
  · subst hgone
    by_cases hm : m = .fetch k
    · subst hm
      refine ⟨.gone, ?_, .inl rfl⟩
      unfold step
      dsimp only
      rw [hk]
      exact hk
    · exact ⟨.gone, fetchers_other hk hm, .inl rfl⟩
  obtain ⟨hleft, hun⟩ := hpc.resolve_left hgone
  have hlive : 0 < t.live := by
    refine List.countP_pos_iff.mpr ⟨pc, List.mem_of_getElem? hk, ?_⟩
    cases pc with
    | gone => exact absurd rfl hgone
    | _ => rfl
  by_cases hm : m = .fetch k
  · subst hm
    obtain ⟨pc', hk', hpc'⟩ := halting_own hun hk
    have e : step t (.fetch k) = t.fetch k pc := by
      unfold step
      dsimp only
      rw [hk]
    rw [e, if_pos rfl]
    refine ⟨pc', hk', hpc'.imp_right fun h1 => ⟨by omega, unmoved_fetch hun⟩⟩
  · rw [if_neg hm, Nat.add_zero]
    refine ⟨pc, fetchers_other hk hm, .inr ⟨hleft, ?_⟩⟩
    cases m with
    | callStart =>
      refine ⟨hun.shouldRun, hun.turns, hun.fetchers, fun j hj he => ?_⟩
      rcases begun_get he with he | ⟨_, he⟩
      · exact hun.starts j hj he
      · cases he
    | callStop => exact ⟨rfl, hun.turns, hun.fetchers, hun.starts⟩
    | start j =>
      unfold step
      dsimp only
      cases hj : t.starts[j]? with
      | none => exact hun
      | some c => exact (unmoved_start hun hinv hlive hj).1
    | fetch j =>
      unfold step
      dsimp only
      cases t.fetchers[j]? with
      | none => exact hun
      | some c => exact unmoved_fetch hun

theorem halting_run (h : Halting s k n t) (moves : List Move) :
    Halting s k (n + moves.count (.fetch k)) (run step t moves) := by
  induction moves generalizing n t with
  | nil => exact h
  | cons m moves ih =>
    have h1 := ih (halting_step h m)
    have h2 : (m :: moves).count (.fetch k) = (if m = .fetch k then 1 else 0) + moves.count (.fetch k) := by
      rw [List.count_cons, Nat.add_comm]
      simp
    rw [h2, ← Nat.add_assoc]
    exact h1

/-- **A `stop` lasts.**  Let `shouldRun` be found cleared in a run, thread `k` being there, and let the
run go on in any way.  After at most three steps of its own the thread is gone; and as long as it is
not, no turn and no thread is begun, and every call of `start` that was made since and has returned
has done nothing. -/
theorem stop_lasts {before : List Move} {k : Nat} {pc : FetchPc} (moves : List Move)
    (hk : (run step St.init before).fetchers[k]? = some pc)
    (hstop : (run step St.init before).shouldRun = false) :
    let s := run step St.init before
    let t := run step s moves
    (3 ≤ moves.count (.fetch k) → t.fetchers[k]? = some .gone) ∧
      (t.fetchers[k]? = some .gone ∨ Unmoved s t) := by
  intro s t
  have hnew : ∀ j : Nat, s.starts.length ≤ j → s.starts[j]? ≠ some (StartPc.returned true) := by
    intro j hj he
    rw [List.getElem?_eq_none hj] at he
    cases he
  have hleft : pc.left + 0 ≤ 3 := by
    cases pc <;> decide
  have h0 : Halting s k 0 s := ⟨inv_reached before, pc, hk, .inr ⟨hleft, hstop, rfl, rfl, hnew⟩⟩
  obtain ⟨-, pc', hk', hpc'⟩ := halting_run h0 moves
  rw [Nat.zero_add] at hpc'
  refine ⟨fun hcount => ?_, ?_⟩
  · rcases hpc' with rfl | ⟨h1, _⟩
    · exact hk'
    · have h2 : pc'.left = 0 := by omega
      cases pc' with
      | gone => exact hk'
      | _ => cases h2
  · rcases hpc' with rfl | ⟨_, h1⟩
    · exact .inl hk'
    · exact .inr h1

/-- a thread is in its turn when it is stopped -/
def stopped : List Move :=
  [.callStart, .start 0, .start 0, .start 0, .start 0, .start 0, .start 0, .fetch 0, .callStop]

/-- `start` is called and returns before the thread is gone -/
def startedInVain : List Move :=
  [.callStart, .start 1, .start 1, .start 1, .fetch 0, .fetch 0, .fetch 0]

theorem stop_lasts_in_vain :
    let s := run step St.init stopped
    let t := run step s startedInVain
    t.starts = [.returned true, .returned false] ∧ t.started = false ∧
      (3 ≤ startedInVain.count (.fetch 0) → t.fetchers[0]? = some .gone) ∧
      (t.fetchers[0]? = some .gone ∨ Unmoved s t) :=
  ⟨by decide, by decide, @stop_lasts stopped 0 .body startedInVain (by decide) (by decide)⟩

end

end TunServer.Connection.Threads
