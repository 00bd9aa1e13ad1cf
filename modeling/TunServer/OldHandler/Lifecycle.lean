import TunServer.Base.Run

/-!
# The life of the two loops: `Handler::start`, `stop` and `cleanUp`

Any threads call `start` and `stop`; a `start` that begins the loops waits for them, and holds the
mutex all the while.  Every operation on the mutex and every access to a flag is a step of its own.

* `StartPc`, `StopPc`, `LoopPc`   where a call of `start` or `stop` is, and a loop;
* `St`, `Move`, `step`            the flags, the mutex, the calls and the loops; one atomic step;
* `Sound`                         what is asked of a state;
* `Inv`                           the holder of the mutex and the loops, at every step;
* `run_inv`, `run_shouldRun`      it holds in every run, and `shouldRun` is never cleared;
* `sound_iff`                     the states of a run that are sound;
* `lifecycle_iff`                 the runs all of whose states are.
-/

set_option linter.unusedVariables false

namespace TunServer.OldHandler.Lifecycle

/-! ## the steps -/

inductive StartPc where
  | lock
  | testRun
  | testDown
  | testUp
  | setUp
  | setDown
  | setRun
  | beginUp
  | beginDown
  | joinUp
  | joinDown
  | unlock (result : Bool)
  | returned (result : Bool)
  deriving DecidableEq, Repr

inductive StopPc where
  | lock
  | testRun
  | setRun
  | setUp
  | setDown
  | unlock
  | returned
  deriving DecidableEq, Repr

/-- A call; a call of `start` with whether no loop ran when it was made. -/
inductive Call where
  | start (pc : StartPc) (afterLoops : Bool)
  | stop (pc : StopPc)
  deriving DecidableEq, Repr

/-- where a loop thread is -/
inductive LoopPc where
  /-- there is no thread -/
  | idle
  | test
  | body
  | clearShuttingDown
  | testOther
  /-- in `cleanUp`, with these connections to delete -/
  | cleanUp (rest : List Nat)
  | clearActive
  | exited
  deriving DecidableEq, Repr

/-- a session is used or deleted -/
inductive Event where
  | used (session : Nat)
  | deleted (session : Nat)
  deriving DecidableEq, Repr

/-- sessions are numbered in the order they are created -/
structure St where
  mtx : Option Nat
  shouldRun : Bool
  upStreamShuttingDown : Bool
  downStreamShuttingDown : Bool
  downStreamActive : Bool
  upStreamActive : Bool
  connections : List Nat
  created : Nat
  up : LoopPc
  down : LoopPc
  calls : List Call
  log : List Event

def St.init : St where
  mtx := none
  shouldRun := false
  upStreamShuttingDown := false
  downStreamShuttingDown := false
  downStreamActive := false
  upStreamActive := false
  connections := []
  created := 0
  up := .idle
  down := .idle
  calls := []
  log := []

/-- a loop makes its next step; in its body it may use a connection, or create one -/
inductive Turn where
  | next
  | use (k : Nat)
  | create
  deriving DecidableEq, Repr

inductive Move where
  | callStart
  | callStop
  /-- the `k`-th call makes its next step -/
  | call (k : Nat)
  | up (t : Turn)
  | down (t : Turn)
  deriving DecidableEq, Repr

/-- the thread of a loop is running -/
def LoopPc.running : LoopPc → Bool
  | .idle => false
  | .exited => false
  | _ => true

namespace St

/-- call `k` goes on to `c` -/
def goto (s : St) (k : Nat) (c : Call) : St := { s with calls := s.calls.set k c }

/-- the mutex is taken by call `k`, or waited for -/
def lock (s : St) (k : Nat) (c : Call) : St :=
  if s.mtx = none then { s with mtx := some k }.goto k c else s

/-- one step of `start`.  `shouldRun = downStreamActive = upStreamActive = true` assigns from the right
to the left. -/
def start (s : St) (k : Nat) (after : Bool) : StartPc → St
  | .lock => s.lock k (.start .testRun after)
  | .testRun => s.goto k (.start (if s.shouldRun then .unlock true else .testDown) after)
  | .testDown => s.goto k (.start (if s.downStreamActive then .unlock false else .testUp) after)
  | .testUp => s.goto k (.start (if s.upStreamActive then .unlock false else .setUp) after)
  | .setUp => { s with upStreamActive := true }.goto k (.start .setDown after)
  | .setDown => { s with downStreamActive := true }.goto k (.start .setRun after)
  | .setRun => { s with shouldRun := true }.goto k (.start .beginUp after)
  | .beginUp => { s with up := .test }.goto k (.start .beginDown after)
  | .beginDown => { s with down := .test }.goto k (.start .joinUp after)
  | .joinUp =>
    if s.up = .exited then { s with up := .idle }.goto k (.start .joinDown after) else s
  | .joinDown =>
    if s.down = .exited then { s with down := .idle }.goto k (.start (.unlock true) after) else s
  | .unlock r => { s with mtx := none }.goto k (.start (.returned r) after)
  | .returned _ => s

/-- one step of `stop` -/
def stop (s : St) (k : Nat) : StopPc → St
  | .lock => s.lock k (.stop .testRun)
  | .testRun => s.goto k (.stop (if s.shouldRun then .setRun else .unlock))
  | .setRun => { s with shouldRun := false }.goto k (.stop .setUp)
  | .setUp => { s with upStreamShuttingDown := true }.goto k (.stop .setDown)
  | .setDown => { s with downStreamShuttingDown := true }.goto k (.stop .unlock)
  | .unlock => { s with mtx := none }.goto k (.stop .returned)
  | .returned => s

def call (s : St) (k : Nat) : St :=
  match s.calls[k]? with
  | some (.start pc after) => s.start k after pc
  | some (.stop pc) => s.stop k pc
  | none => s

def emit (s : St) (e : Event) : St := { s with log := s.log ++ [e] }

/-- the body of a loop uses a connection -/
def use (s : St) (k : Nat) : St :=
  match s.connections[k]? with
  | some c => s.emit (.used c)
  | none => s

/-- a new session gets the packet -/
def create (s : St) : St :=
  { s with connections := s.connections ++ [s.created], created := s.created + 1 }.emit
    (.used s.created)

/-- one step of `handleUpStream` -/
def upStep (s : St) (t : Turn) : St :=
  match s.up with
  | .idle => s
  | .test => { s with up := if s.shouldRun then .body else .clearShuttingDown }
  | .body => match t with
    | .next => { s with up := .test }
    | .use k => s.use k
    | .create => s.create
  | .clearShuttingDown => { s with upStreamShuttingDown := false, up := .testOther }
  | .testOther =>
    { s with up := if s.downStreamShuttingDown then .exited else .cleanUp s.connections }
  | .cleanUp [] => { s with up := .clearActive }
  | .cleanUp (c :: cs) => { s with up := .cleanUp cs }.emit (.deleted c)
  | .clearActive => { s with upStreamActive := false, up := .exited }
  | .exited => s

/-- one step of `handleDownStream` -/
def downStep (s : St) (t : Turn) : St :=
  match s.down with
  | .idle => s
  | .test => { s with down := if s.shouldRun then .body else .clearShuttingDown }
  | .body => match t with
    | .next => { s with down := .test }
    | .use k => s.use k
    | .create => s
  | .clearShuttingDown => { s with downStreamShuttingDown := false, down := .testOther }
  | .testOther =>
    { s with down := if s.upStreamShuttingDown then .exited else .cleanUp s.connections }
  | .cleanUp [] => { s with down := .clearActive }
  | .cleanUp (c :: cs) => { s with down := .cleanUp cs }.emit (.deleted c)
  | .clearActive => { s with downStreamActive := false, down := .exited }
  | .exited => s

end St

def step (s : St) : Move → St
  | .callStart =>
    { s with calls := s.calls ++ [.start .lock (¬ s.up.running ∧ ¬ s.down.running)] }
  | .callStop => { s with calls := s.calls ++ [.stop .lock] }
  | .call k => s.call k
  | .up t => s.upStep t
  | .down t => s.downStep t

/-! ## what is asked of a state -/

def StopPending (s : St) : Prop := ∃ pc, Call.stop pc ∈ s.calls ∧ pc ≠ .returned

/-- no loop runs, and none is about to -/
def Stopped (s : St) : Prop :=
  s.shouldRun = false ∧ s.up.running = false ∧ s.down.running = false

/-- A pending `stop` can still take effect; no session is deleted twice, or used after it was deleted;
and a `start` that was called when no loop ran has not returned false. -/
structure Sound (s : St) : Prop where
  stops : StopPending s → ∃ moves, Stopped (run step s moves)
  once : ∀ (j k c : ℕ), s.log[j]? = some (Event.deleted c) → s.log[k]? = some (Event.deleted c) → j = k
  freed : ∀ (j k c : ℕ), s.log[j]? = some (Event.deleted c) → s.log[k]? = some (Event.used c) → k < j
  restarts : ∀ pc, Call.start pc true ∈ s.calls → pc ≠ .returned false

theorem call_none {s : St} {k : ℕ} (h : s.calls[k]? = none) : s.call k = s := by
  unfold St.call
  rw [h]

theorem call_start {s : St} {k : ℕ} {pc : StartPc} {a : Bool}
    (h : s.calls[k]? = some (.start pc a)) : s.call k = s.start k a pc := by
  unfold St.call
  rw [h]

theorem call_stop {s : St} {k : ℕ} {pc : StopPc} (h : s.calls[k]? = some (.stop pc)) :
    s.call k = s.stop k pc := by
  unfold St.call
  rw [h]

/-! ## the invariant -/

/-- the loops have not begun -/
def Asleep (s : St) : Prop := s.shouldRun = false ∧ s.up = .idle ∧ s.down = .idle

/-- a loop that has not read a false `shouldRun` -/
def LoopPc.Looping (l : LoopPc) : Prop := l = .idle ∨ l = .test ∨ l = .body

def Awake (s : St) : Prop := s.shouldRun = true ∧ s.up.Looping ∧ s.down.Looping

/-- no loop is active -/
def Inactive (s : St) : Prop := s.upStreamActive = false ∧ s.downStreamActive = false

/-- a call that does not hold the mutex -/
def Call.outside : Call → Bool
  | .start .lock _ => true
  | .stop .lock => true
  | .stop .returned => true
  | _ => false

/-- the state when the mutex is held by a call that is at `c` -/
def Holds (s : St) : Call → Prop
  | .start .testRun _ => Asleep s ∧ Inactive s
  | .start .testDown _ => Asleep s ∧ Inactive s
  | .start .testUp _ => Asleep s ∧ Inactive s
  | .start .setUp _ => Asleep s
  | .start .setDown _ => Asleep s
  | .start .setRun _ => Asleep s
  | .start .beginUp _ => Awake s
  | .start .beginDown _ => Awake s
  | .start .joinUp _ => Awake s
  | .start .joinDown _ => Awake s
  | .stop .testRun => Asleep s ∧ Inactive s
  | .stop .unlock => Asleep s ∧ Inactive s
  | _ => False

structure Inv (s : St) : Prop where
  others : ∀ k c, s.calls[k]? = some c → s.mtx ≠ some k → c.outside = true
  free : s.mtx = none → Asleep s ∧ Inactive s
  held : ∀ k, s.mtx = some k → ∃ c, s.calls[k]? = some c ∧ Holds s c
  kept : ∀ c, Event.deleted c ∉ s.log

theorem inv_init : Inv St.init where
  others k c h := by simp [St.init] at h
  free _ := ⟨⟨rfl, rfl, rfl⟩, rfl, rfl⟩
  held k h := by simp [St.init] at h
  kept c := by simp [St.init]

/-- the loops are asleep, or they are awake -/
theorem Holds.asleep_or_awake {s : St} {c : Call} (h : Holds s c) : Asleep s ∨ Awake s := by
  cases c with
  | start pc a => cases pc <;> first | exact .inl h | exact .inl h.1 | exact .inr h | exact h.elim
  | stop pc => cases pc <;> first | exact .inl h.1 | exact h.elim

theorem Inv.asleep_or_awake {s : St} (h : Inv s) : Asleep s ∨ Awake s := by
  cases hm : s.mtx with
  | none => exact .inl (h.free hm).1
  | some k =>
    obtain ⟨c, -, hc⟩ := h.held k hm
    exact hc.asleep_or_awake

theorem LoopPc.Looping.ne_exited {l : LoopPc} (h : l.Looping) : l ≠ .exited := by
  rintro rfl
  obtain h | h | h := h <;> cases h

/-! ## the calls -/

theorem Inv.called {s : St} (h : Inv s) {c : Call} (hc : c.outside = true) :
    Inv { s with calls := s.calls ++ [c] } where
  others k d hd hk := by
    rw [List.getElem?_append] at hd
    split at hd
    · exact h.others k d hd hk
    · have hmem := List.mem_of_getElem? hd
      rw [List.mem_singleton] at hmem
      exact hmem ▸ hc
  free := h.free
  held k hk := by
    obtain ⟨d, hd, hs⟩ := h.held k hk
    have hlt : k < s.calls.length := (List.getElem?_eq_some_iff.mp hd).1
    refine ⟨d, ?_, hs⟩
    show (s.calls ++ [c])[k]? = some d
    rw [List.getElem?_append_left hlt, hd]
  kept := h.kept

/-- the holder of the mutex goes on -/
theorem Inv.goes {s t : St} {k : ℕ} {c d : Call} (h : Inv s) (hk : s.mtx = some k)
    (hc : s.calls[k]? = some c) (hmtx : t.mtx = some k) (hcalls : t.calls = s.calls.set k d)
    (hlog : t.log = s.log) (hd : Holds t d) : Inv t where
  others j e he hj := by
    have hne : k ≠ j := fun e => hj (e ▸ hmtx)
    rw [hcalls, List.getElem?_set_ne hne] at he
    exact h.others j e he (fun hs => hne (Option.some.inj (hk.symm.trans hs)))
  free hn := by rw [hmtx] at hn; cases hn
  held j hj := by
    have hkj : k = j := Option.some.inj (hmtx.symm.trans hj)
    have hlt : k < s.calls.length := (List.getElem?_eq_some_iff.mp hc).1
    exact ⟨d, by rw [hcalls, ← hkj, List.getElem?_set_self hlt], hd⟩
  kept e := hlog ▸ h.kept e

/-- the holder of the mutex lets go of it -/
theorem Inv.leaves {s t : St} {k : ℕ} {d : Call} (h : Inv s) (hk : s.mtx = some k)
    (hd : d.outside = true) (hmtx : t.mtx = none) (hcalls : t.calls = s.calls.set k d)
    (hlog : t.log = s.log) (hs : Asleep t ∧ Inactive t) : Inv t where
  others j e he hj := by
    rw [hcalls, List.getElem?_set] at he
    split_ifs at he with hkj hlt
    · exact Option.some.inj he ▸ hd
    · exact h.others j e he (fun hs => hkj (Option.some.inj (hk.symm.trans hs)))
  free _ := hs
  held j hj := by rw [hmtx] at hj; cases hj
  kept e := hlog ▸ h.kept e

theorem Inv.locks {s : St} {k : ℕ} {c d : Call} (h : Inv s) (hc : s.calls[k]? = some c)
    (hd : ∀ t, Asleep t → Inactive t → Holds t d) : Inv (s.lock k d) := by
  unfold St.lock
  split_ifs with hm
  · obtain ⟨hs, hi⟩ := h.free hm
    have hlt : k < s.calls.length := (List.getElem?_eq_some_iff.mp hc).1
    refine ⟨fun j e he hj => ?_, fun hn => ?_, fun j hj => ?_, h.kept⟩
    · have hne : k ≠ j := fun e => hj (e ▸ rfl)
      have he' : s.calls[j]? = some e := (List.getElem?_set_ne hne).symm.trans he
      exact h.others j e he' (by rw [hm]; exact fun h => nomatch h)
    · cases hn
    · obtain rfl : k = j := Option.some.inj hj
      exact ⟨d, List.getElem?_set_self hlt, hd _ hs hi⟩
  · exact h

theorem Inv.start {s : St} {k : ℕ} {a : Bool} {pc : StartPc} (h : Inv s)
    (hk : s.mtx = some k) (hc : s.calls[k]? = some (.start pc a))
    (hs : Holds s (.start pc a)) : Inv (s.start k a pc) := by
  cases pc with
  | lock => exact hs.elim
  | testRun =>
    obtain ⟨⟨hr, -⟩, -⟩ := id hs
    exact h.goes hk hc hk rfl rfl (by rw [if_neg (by rw [hr]; decide)]; exact hs)
  | testDown =>
    obtain ⟨-, -, hd⟩ := id hs
    exact h.goes hk hc hk rfl rfl (by rw [if_neg (by rw [hd]; decide)]; exact hs)
  | testUp =>
    obtain ⟨-, hu, -⟩ := id hs
    exact h.goes hk hc hk rfl rfl (by rw [if_neg (by rw [hu]; decide)]; exact hs.1)
  | setUp => exact h.goes hk hc hk rfl rfl (d := .start .setDown a) hs
  | setDown => exact h.goes hk hc hk rfl rfl (d := .start .setRun a) hs
  | setRun =>
    exact h.goes hk hc hk rfl rfl (d := .start .beginUp a) ⟨rfl, .inl hs.2.1, .inl hs.2.2⟩
  | beginUp =>
    exact h.goes hk hc hk rfl rfl (d := .start .beginDown a) ⟨hs.1, .inr (.inl rfl), hs.2.2⟩
  | beginDown =>
    exact h.goes hk hc hk rfl rfl (d := .start .joinUp a) ⟨hs.1, hs.2.1, .inr (.inl rfl)⟩
  | joinUp =>
    have hne : s.up ≠ .exited := hs.2.1.ne_exited
    unfold St.start
    rw [if_neg hne]
    exact h
  | joinDown =>
    have hne : s.down ≠ .exited := hs.2.2.ne_exited
    unfold St.start
    rw [if_neg hne]
    exact h
  | unlock r => exact hs.elim
  | returned r => exact hs.elim

theorem Inv.stop {s : St} {k : ℕ} {pc : StopPc} (h : Inv s) (hk : s.mtx = some k)
    (hc : s.calls[k]? = some (.stop pc)) (hs : Holds s (.stop pc)) : Inv (s.stop k pc) := by
  cases pc with
  | testRun =>
    obtain ⟨⟨hr, -⟩, -⟩ := id hs
    exact h.goes hk hc hk rfl rfl (by rw [if_neg (by rw [hr]; decide)]; exact hs)
  | unlock => exact h.leaves hk rfl rfl rfl rfl hs
  | lock => exact hs.elim
  | setRun => exact hs.elim
  | setUp => exact hs.elim
  | setDown => exact hs.elim
  | returned => exact hs.elim

/-- a call makes a step: it waits for the mutex, has returned, or holds the mutex -/
theorem Inv.call {s : St} (h : Inv s) (k : ℕ) : Inv (s.call k) := by
  cases hc : s.calls[k]? with
  | none => exact (call_none hc).symm ▸ h
  | some c =>
    by_cases hk : s.mtx = some k
    · obtain ⟨d, hd, hs⟩ := h.held k hk
      obtain rfl : c = d := Option.some.inj (hc.symm.trans hd)
      cases c with
      | start pc a => exact (call_start hc).symm ▸ h.start hk hc hs
      | stop pc => exact (call_stop hc).symm ▸ h.stop hk hc hs
    · have ho := h.others k c hc hk
      cases c with
      | start pc a =>
        rw [call_start hc]
        cases pc with
        | lock => exact h.locks hc (fun _ => And.intro)
        | _ => cases ho
      | stop pc =>
        rw [call_stop hc]
        cases pc with
        | lock => exact h.locks hc (fun _ => And.intro)
        | returned => exact h
        | _ => cases ho

/-! ## the loops -/

/-- a step that touches neither the flags nor the calls, deletes nothing and leaves no loop -/
structure Turns (s t : St) : Prop where
  mtx : t.mtx = s.mtx
  calls : t.calls = s.calls
  shouldRun : t.shouldRun = s.shouldRun
  up : s.up.Looping → t.up.Looping
  down : s.down.Looping → t.down.Looping
  kept : (∀ c, Event.deleted c ∉ s.log) → ∀ c, Event.deleted c ∉ t.log

theorem Turns.refl (s : St) : Turns s s := ⟨rfl, rfl, rfl, id, id, id⟩

theorem turns_use (s : St) (k : ℕ) : Turns s (s.use k) := by
  unfold St.use
  split
  · exact ⟨rfl, rfl, rfl, id, id, fun h c => by simpa [St.emit] using h c⟩
  · exact Turns.refl s

theorem turns_create (s : St) : Turns s s.create :=
  ⟨rfl, rfl, rfl, id, id, fun h c => by simpa [St.create, St.emit] using h c⟩

theorem turns_up {s : St} (h : Awake s) (t : Turn) : Turns s (s.upStep t) := by
  unfold St.upStep
  obtain hu | hu | hu := h.2.1
  · rw [hu]
    exact Turns.refl s
  · rw [hu]
    exact ⟨rfl, rfl, rfl, fun _ => by rw [if_pos h.1]; exact .inr (.inr rfl), id, id⟩
  · rw [hu]
    cases t with
    | next => exact ⟨rfl, rfl, rfl, fun _ => .inr (.inl rfl), id, id⟩
    | use k => exact turns_use s k
    | create => exact turns_create s

theorem turns_down {s : St} (h : Awake s) (t : Turn) : Turns s (s.downStep t) := by
  unfold St.downStep
  obtain hd | hd | hd := h.2.2
  · rw [hd]
    exact Turns.refl s
  · rw [hd]
    exact ⟨rfl, rfl, rfl, id, fun _ => by rw [if_pos h.1]; exact .inr (.inr rfl), id⟩
  · rw [hd]
    cases t with
    | next => exact ⟨rfl, rfl, rfl, id, fun _ => .inr (.inl rfl), id⟩
    | use k => exact turns_use s k
    | create => exact Turns.refl s

theorem Asleep.upStep {s : St} (h : Asleep s) (t : Turn) : s.upStep t = s := by
  unfold St.upStep
  rw [h.2.1]

theorem Asleep.downStep {s : St} (h : Asleep s) (t : Turn) : s.downStep t = s := by
  unfold St.downStep
  rw [h.2.2]

/-- with the loops awake the mutex is held by the call that waits for them -/
theorem Holds.turns {s t : St} {c : Call} (hs : Awake s) (h : Turns s t) (hc : Holds s c) :
    Holds t c := by
  have ht : Awake t := ⟨h.shouldRun.trans hs.1, h.up hs.2.1, h.down hs.2.2⟩
  have hno : ¬ Asleep s := fun h => by
    have := hs.1.symm.trans h.1
    cases this
  cases c with
  | start pc a =>
    cases pc <;> first | exact ht | exact (hno hc).elim | exact (hno hc.1).elim | exact hc.elim
  | stop pc => cases pc <;> first | exact (hno hc.1).elim | exact hc.elim

theorem Inv.turns {s t : St} (h : Inv s) (hs : Awake s) (ht : Turns s t) : Inv t where
  others k c hc hk := h.others k c (ht.calls ▸ hc) (ht.mtx ▸ hk)
  free hn := by
    have := hs.1.symm.trans (h.free (ht.mtx ▸ hn)).1.1
    cases this
  held k hk := by
    obtain ⟨c, hc, hh⟩ := h.held k (ht.mtx ▸ hk)
    exact ⟨c, ht.calls ▸ hc, hh.turns hs ht⟩
  kept := ht.kept h.kept

theorem step_inv {s : St} (h : Inv s) (m : Move) : Inv (step s m) := by
  cases m with
  | callStart => exact h.called rfl
  | callStop => exact h.called rfl
  | call k => exact h.call k
  | up t =>
    obtain hs | hs := h.asleep_or_awake
    · rw [show step s (.up t) = s from hs.upStep t]
      exact h
    · exact h.turns hs (turns_up hs t)
  | down t =>
    obtain hs | hs := h.asleep_or_awake
    · rw [show step s (.down t) = s from hs.downStep t]
      exact h
    · exact h.turns hs (turns_down hs t)

theorem inv_run {s : St} (h : Inv s) (moves : List Move) : Inv (run step s moves) :=
  run_inv Inv (fun s m h _ => step_inv h m) h (along_true step s moves)

/-! ## `shouldRun` is never cleared -/

theorem lock_shouldRun (s : St) (k : ℕ) (c : Call) : (s.lock k c).shouldRun = s.shouldRun := by
  unfold St.lock
  split <;> rfl

theorem start_shouldRun (s : St) (k : ℕ) (a : Bool) (pc : StartPc) :
    (s.start k a pc).shouldRun = (s.shouldRun || decide (pc = .setRun)) := by
  cases pc with
  | setRun => exact (Bool.or_true _).symm
  | lock => exact (lock_shouldRun s k _).trans (Bool.or_false _).symm
  | joinUp =>
    show St.shouldRun (if s.up = .exited then _ else s) = _
    split <;> exact (Bool.or_false _).symm
  | joinDown =>
    show St.shouldRun (if s.down = .exited then _ else s) = _
    split <;> exact (Bool.or_false _).symm
  | _ => exact (Bool.or_false _).symm

theorem stop_shouldRun (s : St) (k : ℕ) {pc : StopPc} (h : pc ≠ .setRun) :
    (s.stop k pc).shouldRun = s.shouldRun := by
  cases pc with
  | setRun => exact absurd rfl h
  | lock => exact lock_shouldRun s k _
  | _ => rfl

/-- No call of `stop` gets past its test of `shouldRun`. -/
theorem Inv.no_setRun {s : St} (h : Inv s) (k : ℕ) : s.calls[k]? ≠ some (.stop .setRun) := by
  intro hc
  by_cases hk : s.mtx = some k
  · obtain ⟨d, hd, hs⟩ := h.held k hk
    obtain rfl : Call.stop .setRun = d := Option.some.inj (hc.symm.trans hd)
    exact hs
  · cases h.others k _ hc hk

/-- what a move makes of `shouldRun` -/
theorem step_shouldRun {s : St} (h : Inv s) (m : Move) :
    (step s m).shouldRun = true ↔ s.shouldRun = true
      ∨ ∃ k a, m = .call k ∧ s.calls[k]? = some (.start .setRun a) := by
  have hsame : (∀ k a, m = .call k → s.calls[k]? ≠ some (.start .setRun a)) →
      (step s m).shouldRun = s.shouldRun → ((step s m).shouldRun = true ↔ s.shouldRun = true
        ∨ ∃ k a, m = .call k ∧ s.calls[k]? = some (.start .setRun a)) := by
    intro hno he
    rw [he]
    refine ⟨.inl, fun h => h.resolve_right ?_⟩
    rintro ⟨k, a, hm, hc⟩
    exact hno k a hm hc
  have hloop : ∀ t, (Awake s → Turns s t) → (Asleep s → t = s) → t.shouldRun = s.shouldRun := by
    intro t hw hs
    obtain ha | ha := h.asleep_or_awake
    · rw [hs ha]
    · exact (hw ha).shouldRun
  cases m with
  | callStart => exact hsame nofun rfl
  | callStop => exact hsame nofun rfl
  | up t => exact hsame nofun (hloop _ (fun h => turns_up h t) (fun h => h.upStep t))
  | down t => exact hsame nofun (hloop _ (fun h => turns_down h t) (fun h => h.downStep t))
  | call k =>
    cases hc : s.calls[k]? with
    | none =>
      refine hsame (fun j a hj hd => ?_) (congrArg St.shouldRun (call_none hc))
      cases hj
      cases hc.symm.trans hd
    | some c =>
      cases c with
      | start pc a =>
        rw [show step s (.call k) = s.start k a pc from call_start hc, start_shouldRun,
          Bool.or_eq_true, decide_eq_true_iff]
        refine or_congr_right ⟨?_, ?_⟩
        · rintro rfl
          exact ⟨k, a, rfl, hc⟩
        · rintro ⟨j, b, hj, hd⟩
          cases hj
          cases hc.symm.trans hd
          rfl
      | stop pc =>
        refine hsame (fun j a hj hd => ?_) ?_
        · cases hj
          cases hc.symm.trans hd
        · rw [show step s (.call k) = s.stop k pc from call_stop hc]
          exact stop_shouldRun s k (fun hp => h.no_setRun k (hp ▸ hc))

theorem run_shouldRun {s : St} (h : Inv s) (hr : s.shouldRun = true) (moves : List Move) :
    (run step s moves).shouldRun = true := by
  induction moves generalizing s with
  | nil => exact hr
  | cons m l ih => exact ih (step_inv h m) ((step_shouldRun h m).mpr (.inl hr))

/-! ## pending calls of `stop` -/

theorem lock_calls (s : St) (k : ℕ) (c : Call) :
    (s.lock k c).calls = s.calls ∨ (s.lock k c).calls = s.calls.set k c := by
  unfold St.lock
  split
  · exact .inr rfl
  · exact .inl rfl

theorem start_calls (s : St) (k : ℕ) (a : Bool) (pc : StartPc) :
    (s.start k a pc).calls = s.calls ∨ ∃ p, (s.start k a pc).calls = s.calls.set k (.start p a) := by
  cases pc with
  | lock => exact (lock_calls s k _).imp_right fun h => ⟨_, h⟩
  | joinUp =>
    unfold St.start
    by_cases h : s.up = .exited
    · rw [if_pos h]
      exact .inr ⟨_, rfl⟩
    · rw [if_neg h]
      exact .inl rfl
  | joinDown =>
    unfold St.start
    by_cases h : s.down = .exited
    · rw [if_pos h]
      exact .inr ⟨_, rfl⟩
    · rw [if_neg h]
      exact .inl rfl
  | returned r => exact .inl rfl
  | _ => exact .inr ⟨_, rfl⟩

theorem StopPending.of_calls {s t : St} (h : StopPending s) (ht : t.calls = s.calls) :
    StopPending t := by
  obtain ⟨pc, hmem, hpc⟩ := h
  exact ⟨pc, ht ▸ hmem, hpc⟩

/-- a call of `stop` is pending from the move that makes it on -/
theorem StopPending.of_step {s : St} (h : Inv s) {m : Move} (hp : StopPending (step s m)) :
    StopPending s ∨ m = .callStop := by
  have hloop : ∀ t, (Awake s → Turns s t) → (Asleep s → t = s) → StopPending t → StopPending s := by
    intro t hw hs ht
    obtain ha | ha := h.asleep_or_awake
    · exact hs ha ▸ ht
    · exact ht.of_calls (hw ha).calls.symm
  cases m with
  | callStop => exact .inr rfl
  | up t => exact .inl (hloop _ (fun h => turns_up h t) (fun h => h.upStep t) hp)
  | down t => exact .inl (hloop _ (fun h => turns_down h t) (fun h => h.downStep t) hp)
  | callStart =>
    obtain ⟨pc, hmem, hpc⟩ := hp
    obtain hmem | hmem := List.mem_append.mp hmem
    · exact .inl ⟨pc, hmem, hpc⟩
    · cases List.mem_singleton.mp hmem
  | call k =>
    left
    have hp' : StopPending (s.call k) := hp
    cases hc : s.calls[k]? with
    | none =>
      rw [call_none hc] at hp'
      exact hp'
    | some c =>
      cases c with
      | start pc a =>
        rw [call_start hc] at hp'
        obtain he | ⟨p, he⟩ := start_calls s k a pc
        · exact hp'.of_calls he.symm
        · obtain ⟨q, hmem, hq⟩ := hp'
          obtain hmem | hmem := List.mem_or_eq_of_mem_set (he ▸ hmem)
          · exact ⟨q, hmem, hq⟩
          · cases hmem
      | stop pc =>
        by_cases hpc : pc = .returned
        · rw [call_stop hc, hpc] at hp'
          exact hp'
        · exact ⟨pc, List.mem_of_getElem? hc, hpc⟩

/-! ## the states that are sound -/

theorem Inv.stopped {s : St} (h : Inv s) (hr : s.shouldRun = false) : Stopped s := by
  obtain ha | ha := h.asleep_or_awake
  · exact ⟨hr, by rw [ha.2.1]; rfl, by rw [ha.2.2]; rfl⟩
  · cases hr.symm.trans ha.1

/-- no call of `start` returns -/
theorem Inv.not_returned {s : St} (h : Inv s) {pc : StartPc} {a : Bool}
    (hmem : Call.start pc a ∈ s.calls) (r : Bool) : pc ≠ .returned r := by
  rintro rfl
  obtain ⟨k, hc⟩ := List.mem_iff_getElem?.mp hmem
  by_cases hk : s.mtx = some k
  · obtain ⟨d, hd, hs⟩ := h.held k hk
    obtain rfl : Call.start (.returned r) a = d := Option.some.inj (hc.symm.trans hd)
    exact hs
  · cases h.others k _ hc hk

/-- a call of `stop` waits while `shouldRun` is set -/
def Blocked (s : St) : Prop := StopPending s ∧ s.shouldRun = true

theorem sound_iff {s : St} (h : Inv s) : Sound s ↔ ¬ Blocked s := by
  constructor
  · rintro hs ⟨hp, hr⟩
    obtain ⟨moves, hf, -⟩ := hs.stops hp
    cases hf.symm.trans (run_shouldRun h hr moves)
  · intro hb
    refine ⟨fun hp => ?_, fun j k c hj _ => ?_, fun j k c hj _ => ?_, fun pc hmem => ?_⟩
    · exact ⟨[], h.stopped (Bool.eq_false_iff.mpr fun hr => hb ⟨hp, hr⟩)⟩
    · exact (h.kept c (List.mem_of_getElem? hj)).elim
    · exact (h.kept c (List.mem_of_getElem? hj)).elim
    · exact h.not_returned hmem false

/-- `stop` is called while `shouldRun` is set, or `start` sets it while a call of `stop` waits -/
def Opposed (s : St) : Move → Prop
  | .callStop => s.shouldRun = true
  | .call k => (∃ a, s.calls[k]? = some (.start .setRun a)) ∧ StopPending s
  | _ => False

theorem blocked_iff {s : St} (h : Inv s) (hb : ¬ Blocked s) (m : Move) :
    Blocked (step s m) ↔ Opposed s m := by
  constructor
  · rintro ⟨hp, hr⟩
    obtain hr | ⟨k, a, rfl, hc⟩ := (step_shouldRun h m).mp hr
    · obtain hp | rfl := hp.of_step h
      · exact (hb ⟨hp, hr⟩).elim
      · exact hr
    · exact ⟨⟨a, hc⟩, (hp.of_step h).resolve_right nofun⟩
  · intro ho
    cases m with
    | callStop => exact ⟨⟨.lock, List.mem_append_right _ (List.mem_singleton_self _), nofun⟩, ho⟩
    | call k =>
      obtain ⟨⟨a, hc⟩, pc, hmem, hpc⟩ := ho
      refine ⟨⟨pc, ?_, hpc⟩, (step_shouldRun h (.call k)).mpr (.inr ⟨k, a, rfl, hc⟩)⟩
      obtain ⟨j, hj⟩ := List.mem_iff_getElem?.mp hmem
      have hne : k ≠ j := by
        rintro rfl
        cases hc.symm.trans hj
      rw [show step s (.call k) = s.start k a .setRun from call_start hc]
      exact List.mem_of_getElem? ((List.getElem?_set_ne hne).trans hj)
    | callStart => exact ho.elim
    | up t => exact ho.elim
    | down t => exact ho.elim

/-- **The lifecycle of the loops.**  All the states of a run are sound exactly when no call of `stop` meets
a `shouldRun` that is set: the `start` that set it holds the mutex until the loops have exited, and
they exit only when a `stop` has cleared it. -/
theorem lifecycle_iff (moves : List Move) :
    (∀ n, Sound (run step St.init (moves.take n)))
      ↔ Along step (fun s m => ¬ Opposed s m) St.init moves := by
  have hs : ∀ n, Sound (run step St.init (moves.take n)) ↔ ¬ Blocked (run step St.init (moves.take n)) :=
    fun n => sound_iff (inv_run inv_init (moves.take n))
  have hfirst : ¬ Blocked St.init := by
    rintro ⟨-, hr⟩
    cases hr
  rw [forall_congr' hs]
  exact along_good Inv (fun s => ¬ Blocked s) (fun s m h => step_inv h m)
    (fun s m h hb => not_congr (blocked_iff h hb m)) inv_init hfirst moves

/-- `start` begins the loops, and then `stop` is called. -/
def started : St :=
  run step St.init ([.callStart] ++ List.replicate 9 (.call 0) ++ [.callStop])

theorem lifecycle_not : ¬ ∀ moves, Sound (run step St.init moves) := by
  intro h
  have hs : Sound started := h _
  have hi : Inv started := inv_run inv_init _
  exact (sound_iff hi).mp hs ⟨⟨.lock, by decide, nofun⟩, by decide⟩

end TunServer.OldHandler.Lifecycle
