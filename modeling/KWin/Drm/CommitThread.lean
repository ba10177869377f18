import Mathlib.Data.List.Nodup

/-!
# The DRM commit thread

`DrmCommitThread` (`drm_commit_thread.cpp`) hands atomic commits from the render thread
to a worker thread through a single slot, `m_commit`, guarded by `m_mutex` and the
condition variable `m_commitPending`. The worker sleeps, with the mutex released, until
`m_targetCommitTime`, then calls `commit()` on the slot's content and empties the slot.

The model is one step function over the states of both threads. The worker takes the
steps of its loop one at a time, at the program points below. `setCommit`,
`replaceCommit` and the two halves of the destructor run on the render thread. Each of
them holds the mutex for its whole body, so each is one step, and it can only be taken
while the worker does not hold the mutex. A commit is named by the order in which it was
built; the log records what the code does observably and what the proofs need to
follow each commit.
-/

namespace KWin

namespace DrmCommitThread

/-- Where the worker thread is in the loop of the lambda passed to `QThread::create`. -/
inductive Worker where
  /-- Line 20: about to test `isInterruptionRequested()`. -/
  | interruptionCheck
  /-- Line 23: about to lock `m_mutex`. -/
  | lock
  /-- Line 24, with the lock: about to test `m_commit`. -/
  | slotCheck
  /-- Line 25: blocked in `m_commitPending.wait`, with the lock released. -/
  | waiting
  /-- Line 25: woken by a notification or spuriously, about to take the lock again. -/
  | woken
  /-- Line 27, with the lock: about to test `m_commit` after the wait. -/
  | recheck
  /-- Lines 28 and 29, with the lock: about to read the clock and compare. -/
  | clockRead
  /-- Line 31, with the lock released at line 30: about to call
  `sleep_for(m_targetCommitTime - now)`. -/
  | sleep (now : Int)
  /-- Line 31: asleep until the steady clock reaches `wake`. -/
  | sleeping (wake : Int)
  /-- Line 32: about to take the lock again. -/
  | relock
  /-- Lines 35 to 38, with the lock: `Q_ASSERT(m_commit)`, then `m_commit->commit()`. -/
  | commit
  /-- Line 39, with the lock: `m_commit.reset()`; the scope's end then unlocks. -/
  | reset
  /-- Line 21: the lambda returned. -/
  | exited
  /-- `m_commit->commit()` was reached with a null `m_commit`. -/
  | crashed
  deriving DecidableEq, Repr

namespace Worker

/-- The worker holds `m_mutex` at these program points. -/
def holdsLock : Worker → Bool
  | slotCheck | recheck | clockRead | commit | reset => true
  | _ => false

/-- The program points between finding `m_commit` non-null and emptying it. -/
def foundCommit : Worker → Bool
  | clockRead | sleep _ | sleeping _ | relock | commit | reset => true
  | _ => false

/-- The program points after the worker read the target time for its sleep, where it
no longer reads it. -/
def pastSleepRead : Worker → Bool
  | sleeping _ | relock => true
  | _ => false

/-- `m_commitPending.notify_all()`: a worker blocked in the wait wakes up. -/
def notified : Worker → Worker
  | waiting => woken
  | worker => worker

@[simp] theorem holdsLock_notified (worker : Worker) :
    worker.notified.holdsLock = worker.holdsLock := by
  cases worker <;> rfl

@[simp] theorem foundCommit_notified (worker : Worker) :
    worker.notified.foundCommit = worker.foundCommit := by
  cases worker <;> rfl

@[simp] theorem pastSleepRead_notified (worker : Worker) :
    worker.notified.pastSleepRead = worker.pastSleepRead := by
  cases worker <;> rfl

@[simp] theorem notified_ne_waiting (worker : Worker) : worker.notified ≠ waiting := by
  cases worker <;> simp [notified]

end Worker

/-- The render thread's side of the object's lifetime. -/
inductive Destructor where
  /-- The object is alive: the render thread may call `setCommit` and `replaceCommit`. -/
  | alive
  /-- Line 48 ran: `requestInterruption()`, outside the mutex. -/
  | interruptionRequested
  /-- Lines 49 and 50 ran and the destructor's body returned. -/
  | returned
  deriving DecidableEq, Repr

/-- One call of `m_commit->commit()`. -/
structure Submission where
  commit : Nat
  /-- The steady clock at the call. -/
  time : Int
  /-- `m_targetCommitTime` at the call. -/
  target : Int
  /-- A `setCommit` ran after the worker read the target time for its sleep. -/
  retargeted : Bool
  /-- What `commit()` returned. -/
  committed : Bool
  deriving DecidableEq, Repr

/-- What happened to the commits so far. -/
structure Log where
  /-- Commits built so far by the render thread; the next one is numbered `built`. -/
  built : Nat
  submitted : List Submission
  /-- Commits that `setCommit` or `replaceCommit` overwrote in the slot. -/
  displaced : List Nat
  /-- Arguments of `replaceCommit` calls that returned `false`. -/
  refused : List Nat
  /-- A `setCommit` ran after the worker read the target time for its current sleep. -/
  retargeted : Bool
  deriving DecidableEq, Repr

/-- The commit thread together with the render thread's calls into it. -/
structure State where
  /-- `m_commit`. -/
  commit : Option Nat
  /-- `m_targetCommitTime`. -/
  targetCommitTime : Int
  worker : Worker
  /-- `QThread::isInterruptionRequested()`. -/
  interruptionRequested : Bool
  destructor : Destructor
  /-- `std::chrono::steady_clock`. -/
  clock : Int
  /-- `commitFailed` invocations queued to the owning thread. -/
  queuedCommitFailed : Nat
  log : Log
  deriving DecidableEq, Repr

/-- What can happen next. -/
inductive Action where
  /-- The worker takes its next step; `committed` is what `commit()` returns if that
  step calls it. -/
  | worker (committed : Bool)
  | setCommit (targetCommitTime : Int)
  | replaceCommit
  /-- The destructor takes its next step. -/
  | destroy
  /-- The steady clock moves on. -/
  | advance (elapsed : Nat)
  deriving DecidableEq, Repr

/-- The state right after the constructor started the worker. `m_targetCommitTime` and
the clock start at any values. -/
def initial (targetCommitTime clock : Int) : State :=
  { commit := none
    targetCommitTime := targetCommitTime
    worker := .interruptionCheck
    interruptionRequested := false
    destructor := .alive
    clock := clock
    queuedCommitFailed := 0
    log := ⟨0, [], [], [], false⟩ }

/-- `setCommit(commit, targetCommitTime)` with a newly built commit. -/
def setCommit (s : State) (targetCommitTime : Int) : State :=
  { s with
    commit := some s.log.built
    targetCommitTime := targetCommitTime
    worker := s.worker.notified
    log := { s.log with
      built := s.log.built + 1
      displaced := s.log.displaced ++ s.commit.toList
      retargeted := s.log.retargeted || s.worker.pastSleepRead } }

/-- `replaceCommit(commit)` with a newly built commit, and what it returns. -/
def replaceCommit (s : State) : Bool × State :=
  match s.commit with
  | some previous =>
    (true, { s with
      commit := some s.log.built
      worker := s.worker.notified
      log := { s.log with
        built := s.log.built + 1
        displaced := s.log.displaced ++ [previous] } })
  | none =>
    (false, { s with
      log := { s.log with built := s.log.built + 1, refused := s.log.refused ++ [s.log.built] } })

/-- The worker's next step. The mutex is free whenever the worker does not hold it,
since the render thread's calls run as single steps. -/
def workerStep (s : State) (committed : Bool) : Option State :=
  match s.worker with
  | .interruptionCheck =>
    some { s with worker := if s.interruptionRequested then .exited else .lock }
  | .lock => some { s with worker := .slotCheck }
  | .slotCheck => some { s with worker := if s.commit.isNone then .waiting else .clockRead }
  | .waiting => some { s with worker := .woken }
  | .woken => some { s with worker := .recheck }
  | .recheck =>
    some { s with worker := if s.commit.isNone then .interruptionCheck else .clockRead }
  | .clockRead =>
    some { s with
      worker := if s.targetCommitTime > s.clock then .sleep s.clock else .commit
      log := { s.log with retargeted := false } }
  | .sleep now => some { s with worker := .sleeping (s.clock + (s.targetCommitTime - now)) }
  | .sleeping wake => if wake ≤ s.clock then some { s with worker := .relock } else none
  | .relock => some { s with worker := .commit }
  | .commit =>
    match s.commit with
    | none => some { s with worker := .crashed }
    | some commit =>
      some { s with
        worker := .reset
        queuedCommitFailed := if committed then s.queuedCommitFailed
          else s.queuedCommitFailed + 1
        log := { s.log with
          submitted := s.log.submitted ++
            [⟨commit, s.clock, s.targetCommitTime, s.log.retargeted, committed⟩] } }
  | .reset => some { s with commit := none, worker := .interruptionCheck }
  | .exited | .crashed => none

/-- The destructor's next step: `requestInterruption()`, then, once the mutex is free,
`notify_all()` under it and return. -/
def destroyStep (s : State) : Option State :=
  match s.destructor with
  | .alive => some { s with interruptionRequested := true, destructor := .interruptionRequested }
  | .interruptionRequested =>
    if s.worker.holdsLock then none
    else some { s with worker := s.worker.notified, destructor := .returned }
  | .returned => none

/-- One step of either thread, or of the clock; `none` when it cannot be taken now. -/
def step (s : State) : Action → Option State
  | .worker committed => workerStep s committed
  | .setCommit targetCommitTime =>
    if s.destructor = .alive ∧ s.worker.holdsLock = false then
      some (setCommit s targetCommitTime)
    else none
  | .replaceCommit =>
    if s.destructor = .alive ∧ s.worker.holdsLock = false then
      some (replaceCommit s).2
    else none
  | .destroy => destroyStep s
  | .advance elapsed => some { s with clock := s.clock + elapsed }

/-- A schedule of actions, run until its end or until an action cannot be taken. -/
def run (s : State) : List Action → Option State
  | [] => some s
  | action :: actions => (step s action).bind fun next => run next actions

/-- The states some schedule reaches from the constructor. -/
inductive Reachable : State → Prop where
  | initial (targetCommitTime clock : Int) : Reachable (initial targetCommitTime clock)
  | step {s s' : State} (action : Action) : Reachable s → step s action = some s' →
      Reachable s'

theorem Reachable.run {s s' : State} {actions : List Action} (reachable : Reachable s)
    (ran : run s actions = some s') : Reachable s' := by
  induction actions generalizing s with
  | nil => cases ran; exact reachable
  | cons action actions ih =>
    simp only [DrmCommitThread.run, Option.bind_eq_some] at ran
    obtain ⟨next, stepped, rest⟩ := ran
    exact ih (.step action reachable stepped) rest

end DrmCommitThread

end KWin
