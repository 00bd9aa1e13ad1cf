import TunServer.Base.Pool
import TunServer.Base.Run
import TunServer.Handler.Data

/-!
# The threads of the handler: `start`, `stop`, `addTunnelSocket` and `handleClient`

Any threads call `start`, `stop` and `addTunnelSocket`.  The handler's own thread waits for a socket or
for `stop` with `wait_for`, which gives `startedMutex` back as long as it is blocked.  Every operation on
a mutex or the condition variable and every access to a flag is a step of its own, but what `wait_for`
waits for is tested in one step, with the mutex held.  What a turn does to the tunnels is open, and how
long it takes: it may never return.

* `StartPc`, `StopPc`, `AddPc`, `LoopPc`   where a call is, and a thread in `handleClient`;
* `St`, `Move`, `step`   the flags, the mutexes, the calls and the threads; one atomic step;
* `Apart`                no two calls of `start` look at `started` at once;
* `Inv`                  what holds of every state that such calls reach;
* `no_lost_wakeup`       a thread that stays blocked has nothing to wake up for;
* `stop_ends`            a thread that is told to stop begins no turn any more, and leaves.
-/

set_option linter.unusedVariables false

namespace TunServer.Handler.Threads

/-! ## the steps -/

inductive StartPc where
  | testStarted
  | setStarted
  | clearStop
  | begin
  /-- `false` is the exception -/
  | returned (begun : Bool)
  deriving DecidableEq, Repr

inductive StopPc where
  | lock
  | testStarted
  | setStop
  | notify
  | unlock
  | returned
  deriving DecidableEq, Repr

inductive AddPc where
  | testStarted
  /-- both mutexes are taken at once, by `std::lock`, and given back at once -/
  | lock
  | testFull
  | append
  | notify
  | unlock (accepted : Bool)
  | returned (accepted : Bool)
  deriving DecidableEq, Repr

/-- The places from `testPred` to `relock` are those of `wait_for`; `timedOut` tells whether its time is
over. -/
inductive LoopPc where
  | lock
  | testStop
  | testPred (timedOut : Bool)
  | block
  | blocked (woken : Bool)
  | relock (timedOut : Bool)
  | testAgain
  | unlock
  | testCandidates
  | lockCandidates
  | activate
  | unlockCandidates
  | turn
  | clearStarted
  | leave
  | gone
  deriving DecidableEq, Repr

inductive Owner where
  | stop (k : Nat)
  | add (k : Nat)
  | thread (k : Nat)
  deriving DecidableEq, Repr

/-- `turns` counts the turns that were begun -/
structure St where
  startedMutex : Option Owner
  candidatesMutex : Option Owner
  started : Bool
  shouldStop : Bool
  tunnelCandidates : Nat
  openTunnelsCount : Nat
  starts : List StartPc
  stops : List StopPc
  adds : List AddPc
  threads : List LoopPc
  turns : Nat

def St.init : St := ⟨none, none, false, true, 0, 0, [], [], [], [], 0⟩

inductive Move where
  | callStart
  | callStop
  | callAdd
  /-- the `k`-th call makes its next step -/
  | start (k : Nat)
  | stop (k : Nat)
  | add (k : Nat)
  /-- The `k`-th thread makes its next step; where it works on the tunnels, `n` of them are open then,
  and `ended` tells whether the work is over. -/
  | thread (k n : Nat) (ended : Bool)
  /-- `wait_for` wakes up without being notified, and whether its time is over -/
  | wake (k : Nat) (timedOut : Bool)
  deriving DecidableEq, Repr

namespace St

/-- what `wait_for` waits for -/
def pred (s : St) : Bool := 0 < s.openTunnelsCount ∨ s.tunnelCandidates ≠ 0 ∨ s.shouldStop

/-- `notify_one` wakes a thread that is blocked, if one is -/
def notifyOne (s : St) : St :=
  { s with threads := s.threads.set (s.threads.idxOf (.blocked false)) (.blocked true) }

def startTo (s : St) (k : Nat) (pc : StartPc) : St := { s with starts := s.starts.set k pc }
def stopTo (s : St) (k : Nat) (pc : StopPc) : St := { s with stops := s.stops.set k pc }
def addTo (s : St) (k : Nat) (pc : AddPc) : St := { s with adds := s.adds.set k pc }
def turnTo (s : St) (k : Nat) (pc : LoopPc) : St := { s with threads := s.threads.set k pc }

def start (s : St) (k : Nat) : StartPc → St
  | .testStarted => s.startTo k (if s.started then .returned false else .setStarted)
  | .setStarted => { s with started := true }.startTo k .clearStop
  | .clearStop => { s with shouldStop := false }.startTo k .begin
  | .begin => { s with threads := s.threads ++ [LoopPc.lock] }.startTo k (.returned true)
  | .returned _ => s

def stop (s : St) (k : Nat) : StopPc → St
  | .lock =>
    if s.startedMutex = none then { s with startedMutex := some (.stop k) }.stopTo k .testStarted else s
  | .testStarted => s.stopTo k (if s.started then .setStop else .unlock)
  | .setStop => { s with shouldStop := true }.stopTo k .notify
  | .notify => s.notifyOne.stopTo k .unlock
  | .unlock => { s with startedMutex := none }.stopTo k .returned
  | .returned => s

def addTunnelSocket (s : St) (k : Nat) : AddPc → St
  | .testStarted => s.addTo k (if s.started then .lock else .returned false)
  | .lock =>
    if s.startedMutex = none ∧ s.candidatesMutex = none then
      { s with startedMutex := some (.add k), candidatesMutex := some (.add k) }.addTo k .testFull
    else s
  | .testFull =>
    s.addTo k (if s.tunnelCandidates + s.openTunnelsCount = MAXIMUM_TUNNELS then .unlock false
      else .append)
  | .append => { s with tunnelCandidates := s.tunnelCandidates + 1 }.addTo k .notify
  | .notify => s.notifyOne.addTo k (.unlock true)
  | .unlock accepted =>
    { s with startedMutex := none, candidatesMutex := none }.addTo k (.returned accepted)
  | .returned _ => s

def handleClient (s : St) (k n : Nat) (ended : Bool) : LoopPc → St
  | .lock =>
    if s.startedMutex = none then { s with startedMutex := some (.thread k) }.turnTo k .testStop else s
  | .testStop => s.turnTo k (if s.shouldStop then .clearStarted else .testPred false)
  | .testPred timedOut =>
    s.turnTo k (if s.pred then .testAgain else if timedOut then .clearStarted else .block)
  | .block => { s with startedMutex := none }.turnTo k (.blocked false)
  | .blocked woken => if woken then s.turnTo k (.relock false) else s
  | .relock timedOut =>
    if s.startedMutex = none then
      { s with startedMutex := some (.thread k) }.turnTo k (.testPred timedOut)
    else s
  | .testAgain =>
    if s.shouldStop then s.turnTo k .clearStarted
    else { s with turns := s.turns + 1 }.turnTo k .unlock
  | .unlock => { s with startedMutex := none }.turnTo k .testCandidates
  | .testCandidates => s.turnTo k (if s.tunnelCandidates ≠ 0 then .lockCandidates else .turn)
  | .lockCandidates =>
    if s.candidatesMutex = none then
      { s with candidatesMutex := some (.thread k) }.turnTo k .activate
    else s
  | .activate =>
    { s with
      openTunnelsCount := n
      tunnelCandidates := if ended then 0 else s.tunnelCandidates }.turnTo k
        (if ended then .unlockCandidates else .activate)
  | .unlockCandidates => { s with candidatesMutex := none }.turnTo k .turn
  | .turn => { s with openTunnelsCount := n }.turnTo k (if ended then .lock else .turn)
  | .clearStarted => { s with started := false }.turnTo k .leave
  | .leave => { s with startedMutex := none }.turnTo k .gone
  | .gone => s

end St

def step (s : St) : Move → St
  | .callStart => { s with starts := s.starts ++ [.testStarted] }
  | .callStop => { s with stops := s.stops ++ [.lock] }
  | .callAdd => { s with adds := s.adds ++ [.testStarted] }
  | .start k => match s.starts[k]? with
    | some pc => s.start k pc
    | none => s
  | .stop k => match s.stops[k]? with
    | some pc => s.stop k pc
    | none => s
  | .add k => match s.adds[k]? with
    | some pc => s.addTunnelSocket k pc
    | none => s
  | .thread k n ended => match s.threads[k]? with
    | some pc => s.handleClient k n ended pc
    | none => s
  | .wake k timedOut => match s.threads[k]? with
    | some (.blocked _) => s.turnTo k (.relock timedOut)
    | _ => s

/-- **The condition on a step**: no call of `start` looks at `started` while another one has found it
cleared and not set it yet. -/
def Apart (s : St) (m : Move) : Prop :=
  ∀ k, m = .start k → s.starts[k]? = some .testStarted → .setStarted ∉ s.starts

instance (s : St) (m : Move) : Decidable (Apart s m) :=
  match m with
  | .start k => decidable_of_iff (s.starts[k]? = some .testStarted → .setStarted ∉ s.starts)
      ⟨fun h j e hj => by cases e; exact h hj, fun h hk => h k rfl hk⟩
  | .callStart | .callStop | .callAdd | .stop _ | .add _ | .thread _ _ _ | .wake _ _ =>
    .isTrue fun k e => by cases e

/-! ## one thread -/

/-- the call has set `started`, and not begun the thread yet -/
def StartPc.beginning : StartPc → Bool
  | .clearStop | .begin => true
  | _ => false

/-- the call has found `started` cleared, and not set it yet -/
def StartPc.setting : StartPc → Bool
  | .setStarted => true
  | _ => false

/-- the thread has not left its loop -/
def LoopPc.live : LoopPc → Bool
  | .leave | .gone => false
  | _ => true

/-- the thread works on the tunnels, which may take it any time -/
def LoopPc.working : LoopPc → Bool
  | .activate | .turn => true
  | _ => false

def St.beginning (s : St) : Nat := s.starts.countP StartPc.beginning
def St.live (s : St) : Nat := s.threads.countP LoopPc.live
def St.setting (s : St) : Nat := s.starts.countP StartPc.setting

/-- `started` stands for one thread that runs, or for one call about to begin it -/
structure Single (s : St) : Prop where
  one : s.beginning + s.live = if s.started then 1 else 0
  set : s.setting ≤ 1
  unset : 0 < s.setting → s.started = false

section
variable {s t : St} {k n : Nat} {ended : Bool}

theorem Single.live_le (h : Single s) : s.live ≤ 1 := by
  have h1 := h.one
  split_ifs at h1 <;> omega

theorem Single.started (h : Single s) (hlive : 0 < s.live) : s.started = true := by
  by_contra hc
  have h1 := h.one
  rw [if_neg hc] at h1
  omega

/-- what has no part in this -/
theorem Single.same (h : Single s) (hstarts : t.starts = s.starts) (hlive : t.live = s.live)
    (hstarted : t.started = s.started) : Single t := by
  obtain ⟨h1, h2, h3⟩ := h
  unfold St.beginning St.setting at *
  constructor
  · unfold St.beginning
    rw [hstarts, hlive, hstarted]
    exact h1
  · unfold St.setting
    rw [hstarts]
    exact h2
  · unfold St.setting
    rw [hstarts, hstarted]
    exact h3

theorem live_notifyOne (s : St) : s.notifyOne.live = s.live := by
  unfold St.live St.notifyOne
  dsimp only
  by_cases h : LoopPc.blocked false ∈ s.threads
  · have h1 := countP_goto (p := LoopPc.live) (b := LoopPc.blocked true) (List.getElem?_idxOf h)
    simp only [LoopPc.live] at h1
    omega
  · rw [List.set_eq_of_length_le (by rw [List.idxOf_eq_length h])]

/-- A call of `start` goes on.  `t` is the state with what its step wrote. -/
theorem single_startTo {pc pc' : StartPc} (hk : s.starts[k]? = some pc) (hstarts : t.starts = s.starts)
    (hone : s.beginning + pc'.beginning.toNat + t.live =
      (if t.started then 1 else 0) + pc.beginning.toNat)
    (hset : s.setting + pc'.setting.toNat ≤ 1 + pc.setting.toNat)
    (hunset : pc.setting.toNat < s.setting + pc'.setting.toNat → t.started = false) :
    Single (t.startTo k pc') := by
  have h1 : (t.startTo k pc').beginning + pc.beginning.toNat = s.beginning + pc'.beginning.toNat := by
    unfold St.beginning St.startTo
    rw [hstarts]
    exact countP_goto hk
  have h2 : (t.startTo k pc').setting + pc.setting.toNat = s.setting + pc'.setting.toNat := by
    unfold St.setting St.startTo
    rw [hstarts]
    exact countP_goto hk
  refine ⟨?_, by omega, fun hc => hunset (by omega)⟩
  show (t.startTo k pc').beginning + t.live = if t.started then 1 else 0
  omega

theorem single_start (h : Single s) {pc : StartPc} (hk : s.starts[k]? = some pc)
    (hapart : pc = .testStarted → .setStarted ∉ s.starts) : Single (s.start k pc) := by
  have hone := h.one
  have hset := h.set
  cases pc with
  | testStarted =>
    have hnone : s.setting = 0 := by
      by_contra hc
      obtain ⟨pc, hpc, he⟩ := List.countP_pos_iff.mp (Nat.pos_of_ne_zero hc)
      cases pc with
      | setStarted => exact hapart rfl hpc
      | _ => cases he
    unfold St.start
    dsimp only
    split_ifs with hs
    · refine single_startTo hk rfl hone ?_ fun hc => ?_
      · exact hset
      · exact absurd (hc.trans_eq hnone) (lt_irrefl 0)
    · refine single_startTo hk rfl hone ?_ fun _ => by simpa using hs
      show s.setting + 1 ≤ 1
      omega
  | setStarted =>
    have hpos : 0 < s.setting := List.countP_pos_iff.mpr ⟨_, List.mem_of_getElem? hk, rfl⟩
    rw [h.unset hpos, if_neg Bool.false_ne_true] at hone
    refine single_startTo hk rfl ?_ (hset.trans (Nat.le_add_right _ _)) fun hc => ?_
    · show s.beginning + 1 + s.live = 1
      omega
    · exact absurd (lt_of_lt_of_le hc hset) (lt_irrefl 1)
  | clearStop =>
    refine single_startTo hk rfl ?_ hset h.unset
    show s.beginning + 1 + s.live = (if s.started then 1 else 0) + 1
    omega
  | begin =>
    have hlive : (s.threads ++ [LoopPc.lock]).countP LoopPc.live = s.live + 1 := by
      rw [List.countP_append]
      rfl
    refine single_startTo hk rfl ?_ hset h.unset
    show s.beginning + (s.threads ++ [LoopPc.lock]).countP LoopPc.live = (if s.started then 1 else 0) + 1
    omega
  | returned b => exact h

/-- A thread goes on.  `t` is the state with what its step wrote. -/
theorem single_turnTo (h : Single s) {pc pc' : LoopPc} (hk : s.threads[k]? = some pc)
    (hstarts : t.starts = s.starts) (hthreads : t.threads = s.threads)
    (hstarted : t.started = s.started) (hlive : pc'.live = pc.live) : Single (t.turnTo k pc') := by
  refine h.same hstarts ?_ hstarted
  have h1 := countP_goto (p := LoopPc.live) (b := pc') hk
  rw [hlive] at h1
  show (t.threads.set k pc').countP LoopPc.live = _
  rw [hthreads]
  exact Nat.add_right_cancel h1

theorem single_handleClient (h : Single s) {pc : LoopPc} (hk : s.threads[k]? = some pc) :
    Single (s.handleClient k n ended pc) := by
  cases pc with
  | lock | relock timedOut | lockCandidates =>
    unfold St.handleClient
    dsimp only
    split_ifs
    · exact single_turnTo h hk rfl rfl rfl rfl
    · exact h
  | testStop | testPred timedOut | testAgain | testCandidates =>
    unfold St.handleClient
    dsimp only
    split_ifs <;> exact single_turnTo h hk rfl rfl rfl rfl
  | blocked woken =>
    unfold St.handleClient
    dsimp only
    split_ifs
    · exact single_turnTo h hk rfl rfl rfl rfl
    · exact h
  | block | unlock | unlockCandidates | leave => exact single_turnTo h hk rfl rfl rfl rfl
  | activate | turn => cases ended <;> exact single_turnTo h hk rfl rfl rfl rfl
  | clearStarted =>
    have hone := h.one
    have h1 : (s.threads.set k .leave).countP LoopPc.live + 1 = s.live :=
      countP_goto (p := LoopPc.live) (b := LoopPc.leave) hk
    refine ⟨?_, h.set, fun _ => rfl⟩
    show s.beginning + (s.threads.set k .leave).countP LoopPc.live = 0
    split_ifs at hone <;> omega
  | gone => exact h

theorem single_step (h : Single s) {m : Move} (hapart : Apart s m) : Single (step s m) := by
  cases m with
  | callStart =>
    have h1 : (s.starts ++ [StartPc.testStarted]).countP StartPc.beginning = s.beginning := by
      rw [List.countP_append]
      rfl
    have h2 : (s.starts ++ [StartPc.testStarted]).countP StartPc.setting = s.setting := by
      rw [List.countP_append]
      rfl
    exact ⟨(congrArg (· + s.live) h1).trans h.one, h2.trans_le h.set, fun hc => h.unset (hc.trans_eq h2)⟩
  | callStop => exact h.same rfl rfl rfl
  | callAdd => exact h.same rfl rfl rfl
  | start k =>
    unfold step
    dsimp only
    cases hk : s.starts[k]? with
    | none => exact h
    | some pc => exact single_start h hk fun e => hapart k rfl (e ▸ hk)
  | stop k =>
    unfold step
    dsimp only
    cases s.stops[k]? with
    | none => exact h
    | some pc =>
      cases pc with
      | lock =>
        unfold St.stop
        dsimp only
        split_ifs
        · exact h.same rfl rfl rfl
        · exact h
      | notify => exact h.same rfl (live_notifyOne s) rfl
      | returned => exact h
      | _ => exact h.same rfl rfl rfl
  | add k =>
    unfold step
    dsimp only
    cases s.adds[k]? with
    | none => exact h
    | some pc =>
      cases pc with
      | lock =>
        unfold St.addTunnelSocket
        dsimp only
        split_ifs
        · exact h.same rfl rfl rfl
        · exact h
      | notify => exact h.same rfl (live_notifyOne s) rfl
      | returned b => exact h
      | _ => exact h.same rfl rfl rfl
  | thread k n ended =>
    unfold step
    dsimp only
    cases hk : s.threads[k]? with
    | none => exact h
    | some pc => exact single_handleClient h hk
  | wake k timedOut =>
    unfold step
    dsimp only
    split
    · rename_i woken hk
      exact single_turnTo h hk rfl rfl rfl rfl
    · exact h

/-! ## the mutex -/

def StopPc.holding : StopPc → Bool
  | .testStarted | .setStop | .notify | .unlock => true
  | _ => false

def AddPc.holding : AddPc → Bool
  | .testFull | .append | .notify | .unlock _ => true
  | _ => false

def LoopPc.holding : LoopPc → Bool
  | .testStop | .testPred _ | .block | .testAgain | .unlock | .clearStarted | .leave => true
  | _ => false

/-- the places where `candidatesMutex` is held -/
def LoopPc.holdingCandidates : LoopPc → Bool
  | .activate | .unlockCandidates => true
  | _ => false

/-- who is at a place where `startedMutex` is held has it -/
structure Guarded (s : St) : Prop where
  stops : Guards StopPc.holding Owner.stop s.startedMutex s.stops
  adds : Guards AddPc.holding Owner.add s.startedMutex s.adds
  threads : Guards LoopPc.holding Owner.thread s.startedMutex s.threads

theorem guarded_stop (h : Guarded s) {pc : StopPc} (hk : s.stops[k]? = some pc) :
    Guarded (s.stop k pc) := by
  obtain ⟨hstops, hadds, hthreads⟩ := h
  cases pc with
  | lock =>
    unfold St.stop
    dsimp only
    split_ifs with hm
    · rw [hm] at hstops hadds hthreads
      exact ⟨hstops.free.goto fun _ => rfl, hadds.free, hthreads.free⟩
    · exact ⟨hstops, hadds, hthreads⟩
  | testStarted | setStop =>
    have hm := hstops k _ hk rfl
    exact ⟨hstops.goto fun _ => hm, hadds, hthreads⟩
  | notify =>
    have hm := hstops k _ hk rfl
    exact ⟨hstops.goto fun _ => hm, hadds, hthreads.goto fun hc => by cases hc⟩
  | unlock =>
    have hm := hstops k _ hk rfl
    rw [hm] at hstops hadds hthreads
    exact ⟨hstops.leave (fun a b e => by cases e; rfl) rfl, hadds.other fun j e => (by cases e),
      hthreads.other fun j e => (by cases e)⟩
  | returned => exact ⟨hstops, hadds, hthreads⟩

theorem guarded_add (h : Guarded s) {pc : AddPc} (hk : s.adds[k]? = some pc) :
    Guarded (s.addTunnelSocket k pc) := by
  obtain ⟨hstops, hadds, hthreads⟩ := h
  cases pc with
  | testStarted =>
    unfold St.addTunnelSocket
    dsimp only
    split_ifs <;> exact ⟨hstops, hadds.goto fun hc => (by cases hc), hthreads⟩
  | lock =>
    unfold St.addTunnelSocket
    dsimp only
    split_ifs with hm
    · rw [hm.1] at hstops hadds hthreads
      exact ⟨hstops.free, hadds.free.goto fun _ => rfl, hthreads.free⟩
    · exact ⟨hstops, hadds, hthreads⟩
  | testFull | append =>
    have hm := hadds k _ hk rfl
    exact ⟨hstops, hadds.goto fun _ => hm, hthreads⟩
  | notify =>
    have hm := hadds k _ hk rfl
    exact ⟨hstops, hadds.goto fun _ => hm, hthreads.goto fun hc => by cases hc⟩
  | unlock accepted =>
    have hm := hadds k _ hk rfl
    rw [hm] at hstops hadds hthreads
    exact ⟨hstops.other fun j e => (by cases e), hadds.leave (fun a b e => by cases e; rfl) rfl,
      hthreads.other fun j e => (by cases e)⟩
  | returned accepted => exact ⟨hstops, hadds, hthreads⟩

theorem guarded_handleClient (h : Guarded s) {pc : LoopPc} (hk : s.threads[k]? = some pc) :
    Guarded (s.handleClient k n ended pc) := by
  obtain ⟨hstops, hadds, hthreads⟩ := h
  cases pc with
  | lock | relock timedOut =>
    unfold St.handleClient
    dsimp only
    split_ifs with hm
    · rw [hm] at hstops hadds hthreads
      exact ⟨hstops.free, hadds.free, hthreads.free.goto fun _ => rfl⟩
    · exact ⟨hstops, hadds, hthreads⟩
  | testStop | testPred timedOut | clearStarted =>
    have hm := hthreads k _ hk rfl
    exact ⟨hstops, hadds, hthreads.goto fun _ => hm⟩
  | testAgain =>
    have hm := hthreads k _ hk rfl
    unfold St.handleClient
    dsimp only
    split_ifs <;> exact ⟨hstops, hadds, hthreads.goto fun _ => hm⟩
  | block | unlock | leave =>
    have hm := hthreads k _ hk rfl
    rw [hm] at hstops hadds hthreads
    exact ⟨hstops.other fun j e => (by cases e), hadds.other fun j e => (by cases e),
      hthreads.leave (fun a b e => by cases e; rfl) rfl⟩
  | blocked woken =>
    unfold St.handleClient
    dsimp only
    split_ifs
    · exact ⟨hstops, hadds, hthreads.goto fun hc => by cases hc⟩
    · exact ⟨hstops, hadds, hthreads⟩
  | testCandidates =>
    unfold St.handleClient
    dsimp only
    split_ifs <;> exact ⟨hstops, hadds, hthreads.goto fun hc => by cases hc⟩
  | lockCandidates =>
    unfold St.handleClient
    dsimp only
    split_ifs
    · exact ⟨hstops, hadds, hthreads.goto fun hc => by cases hc⟩
    · exact ⟨hstops, hadds, hthreads⟩
  | unlockCandidates => exact ⟨hstops, hadds, hthreads.goto fun hc => by cases hc⟩
  | activate | turn =>
    cases ended <;> exact ⟨hstops, hadds, hthreads.goto fun hc => by cases hc⟩
  | gone => exact ⟨hstops, hadds, hthreads⟩

theorem guarded_step (h : Guarded s) (m : Move) : Guarded (step s m) := by
  cases m with
  | callStart => exact ⟨h.stops, h.adds, h.threads⟩
  | callStop => exact ⟨h.stops.begun rfl, h.adds, h.threads⟩
  | callAdd => exact ⟨h.stops, h.adds.begun rfl, h.threads⟩
  | start k =>
    unfold step
    dsimp only
    cases s.starts[k]? with
    | none => exact h
    | some pc =>
      cases pc with
      | begin => exact ⟨h.stops, h.adds, h.threads.begun rfl⟩
      | _ => exact ⟨h.stops, h.adds, h.threads⟩
  | stop k =>
    unfold step
    dsimp only
    cases hk : s.stops[k]? with
    | none => exact h
    | some pc => exact guarded_stop h hk
  | add k =>
    unfold step
    dsimp only
    cases hk : s.adds[k]? with
    | none => exact h
    | some pc => exact guarded_add h hk
  | thread k n ended =>
    unfold step
    dsimp only
    cases hk : s.threads[k]? with
    | none => exact h
    | some pc => exact guarded_handleClient h hk
  | wake k timedOut =>
    unfold step
    dsimp only
    split
    · exact ⟨h.stops, h.adds, h.threads.goto fun hc => by cases hc⟩
    · exact h

/-! ## waking up -/

/-- a call is about to notify -/
def Notifying (s : St) : Prop := .notify ∈ s.stops ∨ .notify ∈ s.adds

/-- A thread that is going to be blocked has seen that there is nothing to do, and holds the mutex; one
that is blocked has nothing to do, or is woken by the next step of a call that holds the mutex. -/
structure Awake (s : St) : Prop where
  quiet : ∀ k : Nat, s.threads[k]? = some .block → s.pred = false
  awake : ∀ k : Nat, s.threads[k]? = some (.blocked false) → s.pred = false ∨ Notifying s

theorem pred_eq_false : s.pred = false ↔
    s.openTunnelsCount = 0 ∧ s.tunnelCandidates = 0 ∧ s.shouldStop = false := by
  unfold St.pred
  rw [decide_eq_false_iff_not, not_or, not_or, not_not, Bool.not_eq_true, Nat.not_lt, Nat.le_zero]

/-- the threads stay where they are, and there is no more to do -/
theorem Awake.keep (h : Awake s) (hthreads : t.threads = s.threads)
    (hpred : s.pred = false → t.pred = false) (hnotify : Notifying s → Notifying t) : Awake t := by
  constructor
  · rw [hthreads]
    exact fun k hk => hpred (h.quiet k hk)
  · rw [hthreads]
    exact fun k hk => (h.awake k hk).imp hpred hnotify

/-- Something to do comes up: no thread is about to be blocked without seeing it, since it would hold the
mutex, and who brings it notifies next. -/
theorem Awake.bring (hthreads : t.threads = s.threads) {o : Owner} (hm : s.startedMutex = some o)
    (ho : ∀ j, o ≠ .thread j) (hguards : Guarded s) (hnotify : Notifying t) : Awake t := by
  constructor
  · rw [hthreads]
    exact fun k hk => absurd (Option.some.inj (hm.symm.trans (hguards.threads k _ hk rfl))) (ho k)
  · exact fun k hk => .inr hnotify

/-- `notify_one` wakes the only thread that can be blocked -/
theorem Awake.notifyOne (h : Awake s) (hsingle : Single s) (hthreads : t.threads = s.notifyOne.threads)
    (hpred : t.pred = s.pred) : Awake t := by
  have hone := hsingle.live_le
  constructor
  · rw [hthreads, hpred]
    intro k hk
    rcases goto_get hk with ⟨_, e⟩ | ⟨_, hk⟩
    · cases e
    · exact h.quiet k hk
  · rw [hthreads]
    intro k hk
    rcases goto_get hk with ⟨_, e⟩ | ⟨hne, hk⟩
    · cases e
    · have hmem := List.mem_of_getElem? hk
      exact absurd (eq_of_countP_le_one hone hk (List.getElem?_idxOf hmem) rfl rfl) hne

/-- The thread that runs goes on; the others have left their loops. -/
theorem Awake.turnTo (hsingle : Single s) {pc pc' : LoopPc} (hk : s.threads[k]? = some pc)
    (hlive : pc.live = true) (hthreads : t.threads = s.threads)
    (hblock : pc' = .block → t.pred = false) (hblocked : pc' = .blocked false → t.pred = false) :
    Awake (t.turnTo k pc') := by
  have hone := hsingle.live_le
  have honly {j : Nat} {pc₁ : LoopPc} (hpc₁ : pc₁.live = true)
      (hj : (t.threads.set k pc')[j]? = some pc₁) : pc₁ = pc' := by
    rcases goto_get hj with ⟨_, e⟩ | ⟨hne, hj⟩
    · exact e
    · rw [hthreads] at hj
      exact absurd (eq_of_countP_le_one hone hj hk hpc₁ hlive) hne
  exact ⟨fun j hj => hblock (honly rfl hj).symm, fun j hj => .inl (hblocked (honly rfl hj).symm)⟩

theorem awake_start (h : Awake s) {pc : StartPc} : Awake (s.start k pc) := by
  cases pc with
  | clearStop =>
    refine h.keep rfl (fun hp => ?_) id
    rw [pred_eq_false] at hp ⊢
    exact ⟨hp.1, hp.2.1, rfl⟩
  | begin =>
    constructor
    · intro j hj
      rcases begun_get hj with hj | ⟨_, e⟩
      · exact h.quiet j hj
      · cases e
    · intro j hj
      rcases begun_get hj with hj | ⟨_, e⟩
      · exact h.awake j hj
      · cases e
  | testStarted => exact h.keep rfl id id
  | setStarted => exact h.keep rfl id id
  | returned b => exact h

theorem awake_stop (h : Awake s) (hsingle : Single s) (hguards : Guarded s) {pc : StopPc}
    (hk : s.stops[k]? = some pc) : Awake (s.stop k pc) := by
  have keep {pc'} (hne : StopPc.notify ≠ pc) : Notifying s → .notify ∈ s.stops.set k pc' ∨ .notify ∈ s.adds :=
    fun hn => hn.imp_left fun hm => mem_goto hm hk hne
  cases pc with
  | lock =>
    unfold St.stop
    dsimp only
    split_ifs
    · exact h.keep rfl id (keep (by decide))
    · exact h
  | testStarted | unlock => exact h.keep rfl id (keep (by decide))
  | setStop =>
    refine Awake.bring (s := s) rfl (hguards.stops k _ hk rfl) (fun j e => by cases e) hguards (.inl ?_)
    exact List.mem_of_getElem? (List.getElem?_set_self (List.getElem?_eq_some_iff.mp hk).1)
  | notify => exact h.notifyOne hsingle rfl rfl
  | returned => exact h

theorem awake_add (h : Awake s) (hsingle : Single s) (hguards : Guarded s) {pc : AddPc}
    (hk : s.adds[k]? = some pc) : Awake (s.addTunnelSocket k pc) := by
  have keep {pc'} (hne : AddPc.notify ≠ pc) : Notifying s → .notify ∈ s.stops ∨ .notify ∈ s.adds.set k pc' :=
    fun hn => hn.imp_right fun hm => mem_goto hm hk hne
  cases pc with
  | lock =>
    unfold St.addTunnelSocket
    dsimp only
    split_ifs
    · exact h.keep rfl id (keep (by decide))
    · exact h
  | testStarted | testFull => exact h.keep rfl id (keep (by decide))
  | unlock accepted => exact h.keep rfl id (keep (by cases accepted <;> decide))
  | append =>
    refine Awake.bring (s := s) rfl (hguards.adds k _ hk rfl) (fun j e => by cases e) hguards (.inr ?_)
    exact List.mem_of_getElem? (List.getElem?_set_self (List.getElem?_eq_some_iff.mp hk).1)
  | notify => exact h.notifyOne hsingle rfl rfl
  | returned accepted => exact h

theorem awake_handleClient (h : Awake s) (hsingle : Single s) {pc : LoopPc}
    (hk : s.threads[k]? = some pc) : Awake (s.handleClient k n ended pc) := by
  have go {t : St} {pc' : LoopPc} (hlive : pc.live = true) (hthreads : t.threads = s.threads)
      (hb : pc' ≠ .block) (hbl : pc' ≠ .blocked false) : Awake (t.turnTo k pc') :=
    .turnTo hsingle hk hlive hthreads (fun e => absurd e hb) fun e => absurd e hbl
  cases pc with
  | lock | lockCandidates =>
    unfold St.handleClient
    dsimp only
    split_ifs
    · exact go rfl rfl (by decide) (by decide)
    · exact h
  | relock timedOut =>
    unfold St.handleClient
    dsimp only
    split_ifs
    · exact go rfl rfl (fun e => by cases e) (fun e => by cases e)
    · exact h
  | testStop | testAgain | testCandidates =>
    unfold St.handleClient
    dsimp only
    split_ifs <;> exact go rfl rfl (by decide) (by decide)
  | testPred timedOut =>
    unfold St.handleClient
    dsimp only
    split_ifs with hp
    · exact go rfl rfl (by decide) (by decide)
    · exact go rfl rfl (by decide) (by decide)
    · exact .turnTo hsingle hk rfl rfl (fun _ => by simpa using hp) fun e => by cases e
  | block => exact .turnTo hsingle hk rfl rfl (fun e => by cases e) fun _ => h.quiet k hk
  | blocked woken =>
    unfold St.handleClient
    dsimp only
    split_ifs
    · exact go rfl rfl (by decide) (by decide)
    · exact h
  | unlock | unlockCandidates | clearStarted => exact go rfl rfl (by decide) (by decide)
  | activate | turn => cases ended <;> exact go rfl rfl (by decide) (by decide)
  | leave =>
    constructor
    · intro j hj
      rcases goto_get hj with ⟨_, e⟩ | ⟨_, hj⟩
      · cases e
      · exact h.quiet j hj
    · intro j hj
      rcases goto_get hj with ⟨_, e⟩ | ⟨_, hj⟩
      · cases e
      · exact h.awake j hj
  | gone => exact h

theorem awake_step (h : Awake s) (hsingle : Single s) (hguards : Guarded s) (m : Move) :
    Awake (step s m) := by
  cases m with
  | callStart => exact h.keep rfl id id
  | callStop => exact h.keep rfl id (Or.imp_left (List.mem_append_left _))
  | callAdd => exact h.keep rfl id (Or.imp_right (List.mem_append_left _))
  | start k =>
    unfold step
    dsimp only
    cases s.starts[k]? with
    | none => exact h
    | some pc => exact awake_start h
  | stop k =>
    unfold step
    dsimp only
    cases hk : s.stops[k]? with
    | none => exact h
    | some pc => exact awake_stop h hsingle hguards hk
  | add k =>
    unfold step
    dsimp only
    cases hk : s.adds[k]? with
    | none => exact h
    | some pc => exact awake_add h hsingle hguards hk
  | thread k n ended =>
    unfold step
    dsimp only
    cases hk : s.threads[k]? with
    | none => exact h
    | some pc => exact awake_handleClient h hsingle hk
  | wake k timedOut =>
    unfold step
    dsimp only
    split
    · rename_i woken hk
      exact .turnTo hsingle hk rfl rfl (fun e => by cases e) fun e => by cases e
    · exact h

/-! ## every reachable state -/

/-- one thread runs at most, the mutex is kept, and no wakeup is lost -/
structure Inv (s : St) : Prop where
  single : Single s
  guarded : Guarded s
  awake : Awake s

theorem inv_init : Inv St.init where
  single := ⟨rfl, by decide, fun h => absurd h (by decide)⟩
  guarded := ⟨.nil, .nil, .nil⟩
  awake := ⟨fun k h => by simp [St.init] at h, fun k h => by simp [St.init] at h⟩

theorem inv_step (h : Inv s) {m : Move} (hapart : Apart s m) : Inv (step s m) where
  single := single_step h.single hapart
  guarded := guarded_step h.guarded m
  awake := awake_step h.awake h.single h.guarded m

theorem inv_reached {moves : List Move} (h : Along step Apart St.init moves) :
    Inv (run step St.init moves) := run_inv Inv (fun s m hs ho => inv_step hs ho) inv_init h

/-- what a call that notifies does to a thread that is blocked -/
theorem notifyOne_wakes (hsingle : Single s) (hk : s.threads[k]? = some (.blocked false)) :
    s.notifyOne.threads[k]? = some (.blocked true) := by
  have hone := hsingle.live_le
  have hmem := List.mem_of_getElem? hk
  have e : s.threads.idxOf (.blocked false) = k :=
    eq_of_countP_le_one hone (List.getElem?_idxOf hmem) hk rfl rfl
  unfold St.notifyOne
  dsimp only
  rw [e]
  exact List.getElem?_set_self (List.getElem?_eq_some_iff.mp hk).1

/-- **No wakeup is lost.**  As long as calls of `start` keep apart, at most one thread runs, and in every
state of every interleaving a thread that is blocked in `wait_for` has nothing to wake up for, no open
tunnel, no candidate, no `stop`, unless the next step of a call of `stop` or `addTunnelSocket` wakes it. -/
theorem no_lost_wakeup {moves : List Move} (hapart : Along step Apart St.init moves) :
    let s := run step St.init moves
    s.live ≤ 1 ∧ ∀ k : Nat, s.threads[k]? = some (.blocked false) →
      (s.openTunnelsCount = 0 ∧ s.tunnelCandidates = 0 ∧ s.shouldStop = false) ∨
      (∃ j : Nat, s.stops[j]? = some .notify ∧
        (step s (.stop j)).threads[k]? = some (.blocked true)) ∨
      ∃ j : Nat, s.adds[j]? = some .notify ∧ (step s (.add j)).threads[k]? = some (.blocked true) := by
  intro s
  have h : Inv s := inv_reached hapart
  refine ⟨h.single.live_le, fun k hk => ?_⟩
  rcases h.awake.awake k hk with hp | hn | hn
  · exact .inl (pred_eq_false.mp hp)
  · obtain ⟨j, hj⟩ := List.mem_iff_getElem?.mp hn
    refine .inr (.inl ⟨j, hj, ?_⟩)
    unfold step
    dsimp only
    rw [hj]
    exact notifyOne_wakes h.single hk
  · obtain ⟨j, hj⟩ := List.mem_iff_getElem?.mp hn
    refine .inr (.inr ⟨j, hj, ?_⟩)
    unfold step
    dsimp only
    rw [hj]
    exact notifyOne_wakes h.single hk

/-- a thread is begun, and blocked -/
def blocks : List Move :=
  [.callStart, .start 0, .start 0, .start 0, .start 0, .thread 0 0 true, .thread 0 0 true, .thread 0 0 true,
   .thread 0 0 true]

/-- a socket is added, and the thread not notified yet -/
def adds : List Move := [.callAdd, .add 0, .add 0, .add 0, .add 0]

theorem no_lost_wakeup_added :
    let s := run step St.init (blocks ++ adds)
    s.tunnelCandidates = 1 ∧ s.live ≤ 1 ∧ ∀ k : Nat, s.threads[k]? = some (.blocked false) →
      (s.openTunnelsCount = 0 ∧ s.tunnelCandidates = 0 ∧ s.shouldStop = false) ∨
      (∃ j : Nat, s.stops[j]? = some .notify ∧
        (step s (.stop j)).threads[k]? = some (.blocked true)) ∨
      ∃ j : Nat, s.adds[j]? = some .notify ∧ (step s (.add j)).threads[k]? = some (.blocked true) :=
  ⟨by decide, no_lost_wakeup (by decide)⟩

/-! ## a thread that is told to stop -/

/-- how many steps a thread has left at most that finds `shouldStop` set -/
def LoopPc.left : LoopPc → Nat
  | .unlock => 10
  | .testCandidates => 9
  | .lockCandidates => 8
  | .activate => 7
  | .unlockCandidates => 6
  | .turn => 5
  | .lock => 4
  | .block => 7
  | .blocked _ => 6
  | .relock _ => 5
  | .testPred _ => 4
  | .testStop => 3
  | .testAgain => 3
  | .clearStarted => 2
  | .leave => 1
  | .gone => 0

theorem LoopPc.live_iff (pc : LoopPc) : pc.live = true ↔ 2 ≤ pc.left := by
  cases pc <;> simp [LoopPc.live, LoopPc.left]

/-- the steps thread `k` makes in a run, those apart at which it waits for a mutex or stays blocked -/
def stepsOf (k : Nat) : St → List Move → Nat
  | _, [] => 0
  | s, m :: moves =>
    (if (step s m).threads[k]? ≠ s.threads[k]? ∧ (step s m).threads[k]? ≠ some (.blocked true)
      then 1 else 0) + stepsOf k (step s m) moves

/-- Nothing has come of the calls since the state `s`: `shouldStop` stays set, no turn and no thread was
begun, and every call of `start` since then that returned has thrown. -/
structure Unmoved (s t : St) : Prop where
  started : t.started = true
  shouldStop : t.shouldStop = true
  turns : t.turns = s.turns
  threads : t.threads.length = s.threads.length
  starts : ∀ j : Nat, s.starts.length ≤ j → t.starts[j]? ≠ some (.returned true)

/-- thread `k`, which came to `left` steps of its end, has made `m` steps since `s` -/
structure Ending (s : St) (k left m : Nat) (t : St) : Prop where
  inv : Inv t
  thread : ∃ pc, t.threads[k]? = some pc ∧ pc.left + m ≤ left ∧ (pc.live = true → Unmoved s t)

theorem Unmoved.same {u : St} (h : Unmoved s t) (hstarted : u.started = t.started)
    (hstop : u.shouldStop = t.shouldStop) (hturns : u.turns = t.turns)
    (hthreads : u.threads.length = t.threads.length) (hstarts : u.starts = t.starts) : Unmoved s u where
  started := hstarted.trans h.started
  shouldStop := hstop.trans h.shouldStop
  turns := hturns.trans h.turns
  threads := hthreads.trans h.threads
  starts := by rw [hstarts]; exact h.starts

/-- while a thread runs, a call of `start` comes to nothing -/
theorem unmoved_start (h : Unmoved s t) (hsingle : Single t) (hlive : 0 < t.live) {pc : StartPc}
    (hk : t.starts[k]? = some pc) : Unmoved s (t.start k pc) := by
  have hone := hsingle.one
  rw [if_pos h.started] at hone
  have hno : pc.beginning = false := by
    by_contra hc
    have h1 : 0 < t.starts.countP StartPc.beginning :=
      List.countP_pos_iff.mpr ⟨pc, List.mem_of_getElem? hk, by simpa using hc⟩
    have h2 : t.beginning = t.starts.countP StartPc.beginning := rfl
    omega
  cases pc with
  | testStarted =>
    refine ⟨h.started, h.shouldStop, h.turns, h.threads, fun j hj he => ?_⟩
    rcases goto_get he with ⟨_, e⟩ | ⟨_, he⟩
    · rw [if_pos h.started] at e
      cases e
    · exact h.starts j hj he
  | setStarted =>
    have hpos : 0 < t.setting := List.countP_pos_iff.mpr ⟨_, List.mem_of_getElem? hk, rfl⟩
    exact absurd (h.started.symm.trans (hsingle.unset hpos)) (by decide)
  | clearStop => cases hno
  | begin => cases hno
  | returned b => exact h

theorem unmoved_stop (h : Unmoved s t) {pc : StopPc} : Unmoved s (t.stop k pc) := by
  cases pc with
  | lock =>
    unfold St.stop
    dsimp only
    split_ifs
    · exact h.same rfl rfl rfl rfl rfl
    · exact h
  | setStop => exact ⟨h.started, rfl, h.turns, h.threads, h.starts⟩
  | notify => exact h.same rfl rfl rfl (List.length_set ..) rfl
  | returned => exact h
  | _ => exact h.same rfl rfl rfl rfl rfl

theorem unmoved_add (h : Unmoved s t) {pc : AddPc} : Unmoved s (t.addTunnelSocket k pc) := by
  cases pc with
  | lock =>
    unfold St.addTunnelSocket
    dsimp only
    split_ifs
    · exact h.same rfl rfl rfl rfl rfl
    · exact h
  | notify => exact h.same rfl rfl rfl (List.length_set ..) rfl
  | returned accepted => exact h
  | _ => exact h.same rfl rfl rfl rfl rfl

/-- a thread that finds `shouldStop` set begins no turn -/
theorem unmoved_handleClient (h : Unmoved s t) {pc : LoopPc} (hpc : pc ≠ .clearStarted) :
    Unmoved s (t.handleClient k n ended pc) := by
  have go {u : St} {pc' : LoopPc} (hu : Unmoved s u) : Unmoved s (u.turnTo k pc') :=
    hu.same rfl rfl rfl (List.length_set ..) rfl
  cases pc with
  | lock | relock timedOut | lockCandidates | blocked woken =>
    unfold St.handleClient
    dsimp only
    split_ifs
    · exact go (h.same rfl rfl rfl rfl rfl)
    · exact h
  | testAgain =>
    unfold St.handleClient
    dsimp only
    rw [if_pos h.shouldStop]
    exact go h
  | testStop | testPred timedOut | testCandidates => exact go h
  | block | unlock | activate | unlockCandidates | turn | leave => exact go (h.same rfl rfl rfl rfl rfl)
  | clearStarted => exact absurd rfl hpc
  | gone => exact h

/-- only its own steps move a thread, apart from a notification -/
theorem threads_other {pc : LoopPc} {m : Move} (hk : t.threads[k]? = some pc)
    (hm : ∀ n ended, m ≠ .thread k n ended) (hw : ∀ b, m ≠ .wake k b) :
    (step t m).threads[k]? = some pc ∨
      pc = .blocked false ∧ (step t m).threads[k]? = some (.blocked true) := by
  have notify {u : St} (hu : u.threads = t.notifyOne.threads) : u.threads[k]? = some pc ∨
      pc = .blocked false ∧ u.threads[k]? = some (.blocked true) := by
    rw [hu]
    unfold St.notifyOne
    dsimp only
    rw [List.getElem?_set]
    split_ifs with he hlt
    · refine .inr ⟨?_, rfl⟩
      have h1 := List.getElem?_idxOf (List.idxOf_lt_length_iff.mp hlt)
      rw [he, hk] at h1
      exact Option.some.inj h1
    · exact absurd (he ▸ (List.getElem?_eq_some_iff.mp hk).1) hlt
    · exact .inl hk
  cases m with
  | callStart | callStop | callAdd => exact .inl hk
  | start j =>
    unfold step
    dsimp only
    cases t.starts[j]? with
    | none => exact .inl hk
    | some c =>
      cases c with
      | begin =>
        refine .inl ?_
        show (t.threads ++ [LoopPc.lock])[k]? = some pc
        rw [List.getElem?_append_left (List.getElem?_eq_some_iff.mp hk).1, hk]
      | _ => exact .inl hk
  | stop j =>
    unfold step
    dsimp only
    cases t.stops[j]? with
    | none => exact .inl hk
    | some c =>
      cases c with
      | lock =>
        unfold St.stop
        dsimp only
        split_ifs <;> exact .inl hk
      | notify => exact notify rfl
      | _ => exact .inl hk
  | add j =>
    unfold step
    dsimp only
    cases t.adds[j]? with
    | none => exact .inl hk
    | some c =>
      cases c with
      | lock =>
        unfold St.addTunnelSocket
        dsimp only
        split_ifs <;> exact .inl hk
      | notify => exact notify rfl
      | _ => exact .inl hk
  | thread j n ended =>
    have hjk : j ≠ k := fun e => hm n ended (by rw [e])
    have go {u : St} {pc'} (hu : u.threads = t.threads) : (u.turnTo j pc').threads[k]? = some pc := by
      show (u.threads.set j pc')[k]? = some pc
      rw [List.getElem?_set_ne hjk, hu, hk]
    unfold step
    dsimp only
    refine .inl ?_
    cases t.threads[j]? with
    | none => exact hk
    | some c =>
      cases c with
      | lock | relock timedOut | lockCandidates | blocked woken =>
        unfold St.handleClient
        dsimp only
        split_ifs
        · exact go rfl
        · exact hk
      | testAgain =>
        unfold St.handleClient
        dsimp only
        split_ifs <;> exact go rfl
      | gone => exact hk
      | _ => exact go rfl
  | wake j b =>
    have hjk : j ≠ k := fun e => hw b (by rw [e])
    unfold step
    dsimp only
    refine .inl ?_
    split
    · show (t.threads.set j _)[k]? = some pc
      rw [List.getElem?_set_ne hjk, hk]
    · exact hk

theorem step_thread {pc : LoopPc} (hk : t.threads[k]? = some pc) :
    step t (.thread k n ended) = t.handleClient k n ended pc := by
  unfold step
  dsimp only
  rw [hk]

/-- A thread that finds `shouldStop` set comes nearer to its end, or stays where it is. -/
theorem left_own {pc : LoopPc} (hk : t.threads[k]? = some pc)
    (hstop : pc.live = true → t.shouldStop = true) (hblock : pc ≠ .block) :
    ∃ pc', (t.handleClient k n ended pc).threads[k]? = some pc' ∧
      (pc' = pc ∨ pc'.left + 1 ≤ pc.left ∧ pc' ≠ .blocked true) := by
  have go {u : St} {pc' : LoopPc} (hu : u.threads = t.threads) (hleft : pc'.left + 1 ≤ pc.left)
      (hne : pc' ≠ .blocked true) : ∃ pc'', (u.turnTo k pc').threads[k]? = some pc'' ∧
        (pc'' = pc ∨ pc''.left + 1 ≤ pc.left ∧ pc'' ≠ .blocked true) := by
    refine ⟨pc', ?_, .inr ⟨hleft, hne⟩⟩
    show (u.threads.set k pc')[k]? = some pc'
    rw [hu]
    exact List.getElem?_set_self (List.getElem?_eq_some_iff.mp hk).1
  cases pc with
  | lock | lockCandidates =>
    unfold St.handleClient
    dsimp only
    split_ifs
    · exact go rfl (by decide) (by decide)
    · exact ⟨_, hk, .inl rfl⟩
  | relock timedOut =>
    unfold St.handleClient
    dsimp only
    split_ifs
    · exact go rfl (le_refl 5) (fun e => by cases e)
    · exact ⟨_, hk, .inl rfl⟩
  | blocked woken =>
    unfold St.handleClient
    dsimp only
    split_ifs
    · exact go rfl (le_refl 6) (by decide)
    · exact ⟨_, hk, .inl rfl⟩
  | testStop =>
    unfold St.handleClient
    dsimp only
    rw [if_pos (hstop rfl)]
    exact go rfl (by decide) (by decide)
  | testPred timedOut =>
    have hp : t.pred = true := by
      unfold St.pred
      exact decide_eq_true (.inr (.inr (hstop rfl)))
    unfold St.handleClient
    dsimp only
    rw [if_pos hp]
    exact go rfl (le_refl 4) (by decide)
  | testAgain =>
    unfold St.handleClient
    dsimp only
    rw [if_pos (hstop rfl)]
    exact go rfl (by decide) (by decide)
  | testCandidates =>
    unfold St.handleClient
    dsimp only
    split_ifs <;> exact go rfl (by decide) (by decide)
  | block => exact absurd rfl hblock
  | unlock | unlockCandidates | clearStarted | leave => exact go rfl (by decide) (by decide)
  | activate | turn =>
    cases ended with
    | true => exact go rfl (by decide) (by decide)
    | false => exact ⟨_, List.getElem?_set_self (List.getElem?_eq_some_iff.mp hk).1, .inl rfl⟩
  | gone => exact ⟨_, hk, .inl rfl⟩

theorem live_pos {pc : LoopPc} (hk : t.threads[k]? = some pc) (hlive : pc.live = true) : 0 < t.live :=
  List.countP_pos_iff.mpr ⟨pc, List.mem_of_getElem? hk, hlive⟩

/-- as long as thread `k` does not leave its loop -/
theorem unmoved_step (h : Unmoved s t) (hsingle : Single t) {pc : LoopPc} (hk : t.threads[k]? = some pc)
    (hlive : pc.live = true) {m : Move}
    (hm : pc = .clearStarted → ∀ n ended, m ≠ .thread k n ended) :
    Unmoved s (step t m) := by
  have hpos := live_pos hk hlive
  have hone := hsingle.live_le
  cases m with
  | callStart =>
    refine ⟨h.started, h.shouldStop, h.turns, h.threads, fun j hj he => ?_⟩
    rcases begun_get he with he | ⟨_, e⟩
    · exact h.starts j hj he
    · cases e
  | callStop => exact h.same rfl rfl rfl rfl rfl
  | callAdd => exact h.same rfl rfl rfl rfl rfl
  | start j =>
    unfold step
    dsimp only
    cases hj : t.starts[j]? with
    | none => exact h
    | some c => exact unmoved_start h hsingle hpos hj
  | stop j =>
    unfold step
    dsimp only
    cases t.stops[j]? with
    | none => exact h
    | some c => exact unmoved_stop h
  | add j =>
    unfold step
    dsimp only
    cases t.adds[j]? with
    | none => exact h
    | some c => exact unmoved_add h
  | thread j n ended =>
    unfold step
    dsimp only
    cases hj : t.threads[j]? with
    | none => exact h
    | some c =>
      refine unmoved_handleClient h fun e => ?_
      -- a thread about to clear `started` is in its loop, so it is thread `k`
      have hjk : j = k := eq_of_countP_le_one hone hj hk (by rw [e]; rfl) hlive
      subst hjk
      exact hm ((Option.some.inj (hk.symm.trans hj)).trans e) n ended rfl
  | wake j b =>
    unfold step
    dsimp only
    split
    · exact h.same rfl rfl rfl (List.length_set ..) rfl
    · exact h

/-- a thread that is told to stop makes one of its last steps, or another one makes a step -/
theorem ending_step {left m : Nat} (h : Ending s k left m t) {mv : Move} (hapart : Apart t mv) :
    Ending s k left (m + if (step t mv).threads[k]? ≠ t.threads[k]? ∧
      (step t mv).threads[k]? ≠ some (.blocked true) then 1 else 0) (step t mv) := by
  obtain ⟨hinv, pc, hk, hleft, hun⟩ := h
  have hinv' := inv_step hinv hapart
  refine ⟨hinv', ?_⟩
  by_cases hown : ∃ n ended, mv = .thread k n ended
  · obtain ⟨n, ended, rfl⟩ := hown
    have e := @step_thread t k n ended pc hk
    have hblock : pc ≠ .block := by
      rintro rfl
      have h1 := pred_eq_false.mp (hinv.awake.quiet k hk)
      exact absurd (h1.2.2.symm.trans (hun rfl).shouldStop) (by decide)
    obtain ⟨pc', hk', hpc'⟩ := @left_own t k n ended _ hk (fun hl => (hun hl).shouldStop) hblock
    have hlive' (hl : pc.live = true) (hl' : pc'.live = true) : Unmoved s (step t (.thread k n ended)) := by
      refine unmoved_step (hun hl) hinv.single hk hl fun hc => ?_
      subst hc
      have h1 := hinv'.single
      rw [e] at h1
      cases h1.started (live_pos hk' hl')
    rw [e] at hlive' ⊢
    rcases hpc' with rfl | ⟨hlt, hne⟩
    · rw [hk', hk, if_neg (fun hc => hc.1 rfl)]
      exact ⟨pc', rfl, hleft, fun hl => hlive' hl hl⟩
    · rw [hk']
      refine ⟨pc', rfl, ?_, fun hl => ?_⟩
      · split_ifs <;> omega
      · refine hlive' ?_ hl
        rw [LoopPc.live_iff] at hl ⊢
        omega
  have hlive' (hl : pc.live = true) : Unmoved s (step t mv) :=
    unmoved_step (hun hl) hinv.single hk hl fun _ n ended e => hown ⟨n, ended, e⟩
  by_cases hwake : ∃ b, mv = .wake k b
  · obtain ⟨b, rfl⟩ := hwake
    by_cases hb : ∃ woken, pc = .blocked woken
    · obtain ⟨woken, rfl⟩ := hb
      have hk' : (step t (.wake k b)).threads[k]? = some (.relock b) := by
        unfold step
        dsimp only
        rw [hk]
        exact List.getElem?_set_self (List.getElem?_eq_some_iff.mp hk).1
      rw [hk']
      refine ⟨_, rfl, ?_, fun _ => hlive' rfl⟩
      have h1 : 6 + m ≤ left := hleft
      show 5 + _ ≤ left
      split_ifs <;> omega
    · have e : step t (.wake k b) = t := by
        unfold step
        dsimp only
        rw [hk]
        cases pc with
        | blocked woken => exact absurd ⟨woken, rfl⟩ hb
        | _ => rfl
      rw [e] at hlive' ⊢
      rw [if_neg fun hc => hc.1 rfl]
      exact ⟨pc, hk, hleft, hlive'⟩
  · rcases threads_other hk (fun n ended e => hown ⟨n, ended, e⟩) (fun b e => hwake ⟨b, e⟩)
      with hk' | ⟨rfl, hk'⟩
    · rw [hk', hk, if_neg fun hc => hc.1 rfl]
      exact ⟨pc, rfl, hleft, hlive'⟩
    · rw [hk', if_neg fun hc => hc.2 rfl]
      exact ⟨_, rfl, hleft, fun _ => hlive' rfl⟩

theorem ending_run {left m : Nat} {moves : List Move} (h : Ending s k left m t)
    (hapart : Along step Apart t moves) :
    Ending s k left (m + stepsOf k t moves) (run step t moves) := by
  induction moves generalizing m t with
  | nil => exact h
  | cons mv moves ih =>
    have h1 := ih (ending_step h hapart.1) hapart.2
    rw [Nat.add_assoc] at h1
    exact h1

/-- A thread that is told to stop and is not gone goes on, if no other holds a mutex, and its work on the
tunnels is over. -/
theorem goes_on (hinv : Inv t) {pc : LoopPc} (hk : t.threads[k]? = some pc)
    (hstop : pc.live = true → t.shouldStop = true) (hgone : pc ≠ .gone)
    (hm : pc.holding = false → t.startedMutex = none)
    (hc : pc.holdingCandidates = false → t.candidatesMutex = none) (n : Nat) (ended : Bool)
    (hwork : pc.working = true → ended = true) :
    (step t (.thread k n ended)).threads[k]? ≠ some pc := by
  have e := @step_thread t k n ended pc hk
  have go {u : St} {pc' : LoopPc} (hu : u.threads = t.threads) (hne : pc' ≠ pc) :
      (u.turnTo k pc').threads[k]? ≠ some pc := by
    show (u.threads.set k pc')[k]? ≠ some pc
    rw [hu, List.getElem?_set_self (List.getElem?_eq_some_iff.mp hk).1]
    exact fun he => hne (Option.some.inj he)
  rw [e]
  cases pc with
  | lock | relock timedOut =>
    unfold St.handleClient
    dsimp only
    rw [if_pos (hm rfl)]
    exact go rfl fun he => by cases he
  | lockCandidates =>
    unfold St.handleClient
    dsimp only
    rw [if_pos (hc rfl)]
    exact go rfl (by decide)
  | testStop | testAgain | testCandidates =>
    unfold St.handleClient
    dsimp only
    split_ifs <;> exact go rfl (by decide)
  | testPred timedOut =>
    unfold St.handleClient
    dsimp only
    split_ifs <;> exact go rfl fun he => by cases he
  | blocked woken =>
    cases woken with
    | true => exact go rfl fun he => by cases he
    | false =>
      rcases hinv.awake.awake k hk with hp | hn | hn
      · exact absurd ((pred_eq_false.mp hp).2.2.symm.trans (hstop rfl)) (by decide)
      · obtain ⟨j, hj⟩ := List.mem_iff_getElem?.mp hn
        cases (hm rfl).symm.trans (hinv.guarded.stops j _ hj rfl)
      · obtain ⟨j, hj⟩ := List.mem_iff_getElem?.mp hn
        cases (hm rfl).symm.trans (hinv.guarded.adds j _ hj rfl)
  | block | unlock | unlockCandidates | clearStarted | leave => exact go rfl fun he => by cases he
  | activate | turn =>
    rw [hwork rfl]
    exact go rfl (by decide)
  | gone => exact absurd rfl hgone

/-- **A stop ends the handler.**  Let `shouldStop` be found set in a run, thread `k` being in its loop, and
let the run go on in any way in which calls of `start` keep apart.  Then the thread makes at most ten
steps until it is gone; as long as it is in its loop, `shouldStop` stays set, no turn and no thread is
begun, and every call of `start` that was made since and has returned has thrown; and it is held up by
nothing but others that hold a mutex and its own work on the tunnels, which is one of the ten steps however
long it takes, and may never be over. -/
theorem stop_ends {before moves : List Move} {k : Nat} {pc : LoopPc}
    (hbefore : Along step Apart St.init before)
    (hk : (run step St.init before).threads[k]? = some pc) (hlive : pc.live = true)
    (hstop : (run step St.init before).shouldStop = true)
    (hmoves : Along step Apart (run step St.init before) moves) :
    let s := run step St.init before
    let t := run step s moves
    stepsOf k s moves ≤ 10 ∧ ∃ pc', t.threads[k]? = some pc' ∧
      (pc'.live = true → Unmoved s t) ∧
      (pc' ≠ .gone → (pc'.holding = false → t.startedMutex = none) →
        (pc'.holdingCandidates = false → t.candidatesMutex = none) →
        ∀ n ended, (pc'.working = true → ended = true) →
          (step t (.thread k n ended)).threads[k]? ≠ some pc') := by
  intro s t
  have hinv : Inv s := inv_reached hbefore
  have hstarted := hinv.single.started (live_pos hk hlive)
  have hnew (j : Nat) (hj : s.starts.length ≤ j) : s.starts[j]? ≠ some (.returned true) := by
    rw [List.getElem?_eq_none hj]
    exact fun e => by cases e
  have hten : pc.left + 0 ≤ 10 := by
    cases pc <;> simp [LoopPc.left]
  have h0 : Ending s k 10 0 s := ⟨hinv, pc, hk, hten, fun _ => ⟨hstarted, hstop, rfl, rfl, hnew⟩⟩
  obtain ⟨hinv', pc', hk', hleft, hun⟩ := ending_run h0 hmoves
  rw [Nat.zero_add] at hleft
  exact ⟨(Nat.le_add_left _ _).trans hleft, pc', hk', hun,
    fun hgone hm hc n ended hwork =>
      goes_on hinv' hk' (fun hl => (hun hl).shouldStop) hgone hm hc n ended hwork⟩

/-- the thread is told to stop, and not notified yet -/
def stops : List Move := [.callStop, .stop 0, .stop 0, .stop 0]

/-- it is notified, and `start` is called before it is gone -/
def ends : List Move :=
  [.callStart, .stop 0, .stop 0, .thread 0 0 true, .start 1, .thread 0 0 true, .thread 0 0 true,
    .thread 0 0 true]

theorem stop_ends_blocked :
    let s := run step St.init (blocks ++ stops)
    let t := run step s ends
    t.starts = [.returned true, .returned false] ∧
    stepsOf 0 s ends ≤ 10 ∧ ∃ pc', t.threads[0]? = some pc' ∧
      (pc'.live = true → Unmoved s t) ∧
      (pc' ≠ .gone → (pc'.holding = false → t.startedMutex = none) →
        (pc'.holdingCandidates = false → t.candidatesMutex = none) →
        ∀ n ended, (pc'.working = true → ended = true) →
          (step t (.thread 0 n ended)).threads[0]? ≠ some pc') :=
  ⟨by decide, @stop_ends (blocks ++ stops) ends 0 (.blocked false) (by decide) (by decide) (by decide)
    (by decide) (by decide)⟩

end

end TunServer.Handler.Threads
