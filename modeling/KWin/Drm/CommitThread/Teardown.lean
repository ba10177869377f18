import KWin.Drm.CommitThread.Mailbox

/-!
# Tearing the commit thread down

`~DrmCommitThread` requests the interruption outside the mutex, then notifies the
condition variable under it, and returns without joining the worker. The worker tests
the interruption flag only at the top of its loop, before it locks the mutex.

Once the destructor has started, the render thread builds no more commits, so the
worker can submit at most the commit already in the slot (`submissions_after_teardown`).
It can do so after the destructor has returned, and it can block in the wait after the
only notification was sent (`teardown_returns_before_worker_stops`).
-/

namespace KWin

namespace DrmCommitThread

variable {s s' : State}

/-- The commits the worker may still submit without a new hand-over: the slot's commit,
unless the worker is about to empty the slot after submitting it. -/
def State.budget (s : State) : Nat :=
  if s.commit.isSome ∧ s.worker ≠ .reset then 1 else 0

/-- One step after the destructor started: the log only grows, and the submissions made
and the budget left never exceed the budget before. -/
theorem step_after_teardown {action : Action} (started : s.destructor ≠ .alive)
    (stepped : step s action = some s') :
    s'.destructor ≠ .alive ∧ (∃ extra, s'.log.submitted = s.log.submitted ++ extra) ∧
      s'.log.submitted.length + s'.budget ≤ s.log.submitted.length + s.budget := by
  cases action with
  | worker committed =>
    simp only [DrmCommitThread.step, workerStep] at stepped
    refine ⟨?_, ?_, ?_⟩ <;> split at stepped <;> (try split at stepped) <;>
      (try cases stepped) <;> simp_all [State.budget]
  | setCommit | replaceCommit =>
    simp only [DrmCommitThread.step, started, false_and, if_false] at stepped
    cases stepped
  | destroy =>
    simp only [DrmCommitThread.step, destroyStep] at stepped
    split at stepped
    · exact absurd ‹_› started
    · split at stepped
      · cases stepped
      · cases stepped
        refine ⟨by simp, ⟨[], by simp⟩, ?_⟩
        cases hw : s.worker <;> simp [State.budget, Worker.notified, hw]
    · cases stepped
  | advance elapsed =>
    cases stepped
    exact ⟨started, ⟨[], by simp⟩, le_refl _⟩

/-- Once the destructor has started, every schedule submits at most one more commit, and
none when the slot is empty. -/
theorem submissions_after_teardown {actions : List Action} (started : s.destructor ≠ .alive)
    (ran : run s actions = some s') :
    ∃ extra, s'.log.submitted = s.log.submitted ++ extra ∧ extra.length ≤ s.budget ∧
      s.budget ≤ 1 := by
  induction actions generalizing s with
  | nil =>
    cases ran
    exact ⟨[], by simp, Nat.zero_le _, by unfold State.budget; split <;> omega⟩
  | cons action actions ih =>
    simp only [DrmCommitThread.run, Option.bind_eq_some] at ran
    obtain ⟨next, stepped, rest⟩ := ran
    obtain ⟨nextStarted, ⟨first, firstLog⟩, decreasing⟩ := step_after_teardown started stepped
    obtain ⟨later, laterLog, laterLength, -⟩ := ih nextStarted rest
    refine ⟨first ++ later, by simp [laterLog, firstLog], ?_, by unfold State.budget; split <;> omega⟩
    simp only [firstLog, List.length_append] at decreasing
    simp only [List.length_append]
    omega

/-- A commit handed over with target time 10; the worker sleeps towards it while the
destructor runs to its end. -/
def tornDown : State :=
  (run (initial 0 0) [.setCommit 10, .worker true, .worker true, .worker true, .worker true,
    .worker true, .destroy, .destroy]).getD (initial 0 0)

/-- The rest of the worker's run after `tornDown`. -/
def afterTeardown : List Action := [.advance 10, .worker true, .worker true, .worker true]

theorem submissions_after_teardown_tornDown :
    tornDown.destructor ≠ .alive ∧
      run tornDown afterTeardown = some ((run tornDown afterTeardown).getD tornDown) ∧
      ∃ extra, ((run tornDown afterTeardown).getD tornDown).log.submitted =
        tornDown.log.submitted ++ extra ∧ extra.length ≤ tornDown.budget ∧ tornDown.budget ≤ 1 :=
  have started : tornDown.destructor ≠ .alive := by decide
  have ran : run tornDown afterTeardown = some ((run tornDown afterTeardown).getD tornDown) := by
    decide
  ⟨started, ran, submissions_after_teardown started ran⟩

/-- The destructor returns while the worker still runs. The worker passes the
interruption check; the destructor requests the interruption and notifies while nobody
waits; the worker then locks the mutex and waits on the empty slot, with the interruption
requested. And a worker sleeping towards a pending commit's target time while the
destructor runs locks the mutex and calls `commit()` after the destructor returned. -/
theorem teardown_returns_before_worker_stops :
    (run (initial 0 0) [.worker true, .destroy, .destroy]).map
        (fun s => (s.interruptionRequested, s.destructor, s.worker)) =
      some (true, .returned, .lock) ∧
    (run (initial 0 0) [.worker true, .destroy, .destroy, .worker true, .worker true]).map
        (fun s => (s.interruptionRequested, s.worker, s.commit)) = some (true, .waiting, none) ∧
    (tornDown.destructor = .returned ∧ tornDown.log.submitted = []) ∧
    (run tornDown afterTeardown).map State.submittedCommits = some [0] := by
  decide

end DrmCommitThread

end KWin
