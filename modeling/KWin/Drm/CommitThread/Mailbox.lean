import KWin.Drm.CommitThread

/-!
# The commit slot as a mailbox

The invariant of the commit thread over every schedule of its two threads: the worker
never finds the slot emptied behind its back, no commit is submitted twice, a commit
overwritten in the slot or refused by `replaceCommit` is never submitted, the slot always
holds the newest commit, and a submission is paced by the target time the worker read.

`Mailbox` collects these facts as one structure; it holds initially and every action
preserves it (one lemma per action), so it holds in every reachable state.
-/

namespace KWin

namespace DrmCommitThread

variable {s s' : State}

/-- The commits passed to `commit()` so far, in order. -/
def State.submittedCommits (s : State) : List Nat :=
  s.log.submitted.map Submission.commit

/-- The invariant of the commit thread. -/
structure Mailbox (s : State) : Prop where
  /-- Between finding the slot full and emptying it, the worker finds it full. -/
  found : s.worker.foundCommit = true → s.commit.isSome
  /-- So the assertion never fails. -/
  notCrashed : s.worker ≠ .crashed
  /-- The slot holds the newest commit built. -/
  newest : ∀ commit, s.commit = some commit → commit + 1 = s.log.built
  /-- At `reset`, the slot holds the commit just submitted. -/
  atReset : s.worker = .reset → ∃ commit, s.commit = some commit ∧
    s.submittedCommits.getLast? = some commit
  /-- Elsewhere the slot's commit has not been submitted yet. -/
  pending : ∀ commit, s.commit = some commit → s.worker ≠ .reset →
    commit ∉ s.submittedCommits
  nodup : s.submittedCommits.Nodup
  displaced : ∀ commit ∈ s.log.displaced, commit ∉ s.submittedCommits ∧ s.commit ≠ some commit
  refused : ∀ commit ∈ s.log.refused, commit ∉ s.submittedCommits ∧ s.commit ≠ some commit
  /-- Every commit the log mentions has been built. -/
  issued : ∀ commit, (commit ∈ s.submittedCommits ∨ commit ∈ s.log.displaced ∨
    commit ∈ s.log.refused) → commit < s.log.built
  /-- Every commit built is in the slot, submitted, displaced or refused. -/
  accounted : ∀ commit < s.log.built, s.commit = some commit ∨
    commit ∈ s.submittedCommits ∨ commit ∈ s.log.displaced ∨ commit ∈ s.log.refused
  /-- The worker only waits on an empty slot. -/
  waiting : s.worker = .waiting → s.commit = none
  failures : s.queuedCommitFailed = (s.log.submitted.filter (!·.committed)).length
  paced : ∀ submission ∈ s.log.submitted, submission.retargeted = false →
    submission.target ≤ submission.time
  sleepStart : ∀ now, s.worker = .sleep now → now ≤ s.clock
  sleepUntil : ∀ wake, s.worker = .sleeping wake → s.log.retargeted = false →
    s.targetCommitTime ≤ wake
  awake : (s.worker = .relock ∨ s.worker = .commit) → s.log.retargeted = false →
    s.targetCommitTime ≤ s.clock

theorem Mailbox.initial (targetCommitTime clock : Int) :
    Mailbox (initial targetCommitTime clock) where
  found := by simp [DrmCommitThread.initial, Worker.foundCommit]
  notCrashed := by simp [DrmCommitThread.initial]
  newest := by simp [DrmCommitThread.initial]
  atReset := by simp [DrmCommitThread.initial]
  pending := by simp [DrmCommitThread.initial]
  nodup := by simp [DrmCommitThread.initial, State.submittedCommits]
  displaced := by simp [DrmCommitThread.initial]
  refused := by simp [DrmCommitThread.initial]
  issued := by simp [DrmCommitThread.initial, State.submittedCommits]
  accounted := by simp [DrmCommitThread.initial]
  waiting := by simp [DrmCommitThread.initial]
  failures := by simp [DrmCommitThread.initial]
  paced := by simp [DrmCommitThread.initial]
  sleepStart := by simp [DrmCommitThread.initial]
  sleepUntil := by simp [DrmCommitThread.initial]
  awake := by simp [DrmCommitThread.initial]

theorem Worker.notified_eq_iff {worker other : Worker} (notWaiting : other ≠ .waiting)
    (notWoken : other ≠ .woken) : worker.notified = other ↔ worker = other := by
  cases worker <;> simp [Worker.notified, eq_comm, notWaiting, notWoken]

theorem Mailbox.not_mem_submitted_of_built (inv : Mailbox s) :
    s.log.built ∉ s.submittedCommits :=
  fun mem => Nat.lt_irrefl _ (inv.issued _ (.inl mem))

/-- The worker moves to another program point; besides, only the pacing flag, the
interruption flag and the destructor may change. -/
theorem Mailbox.moveWorker (inv : Mailbox s) {worker : Worker} (retargeted : Bool)
    (interruptionRequested : Bool) (destructor : Destructor) (fromNotReset : s.worker ≠ .reset)
    (toNotReset : worker ≠ .reset) (toNotCrashed : worker ≠ .crashed)
    (found : worker.foundCommit = true → s.commit.isSome)
    (waiting : worker = .waiting → s.commit = none)
    (sleepStart : ∀ now, worker = .sleep now → now ≤ s.clock)
    (sleepUntil : ∀ wake, worker = .sleeping wake → retargeted = false →
      s.targetCommitTime ≤ wake)
    (awake : (worker = .relock ∨ worker = .commit) → retargeted = false →
      s.targetCommitTime ≤ s.clock) :
    Mailbox { s with
      worker := worker
      interruptionRequested := interruptionRequested
      destructor := destructor
      log := { s.log with retargeted := retargeted } } where
  found := found
  notCrashed := toNotCrashed
  newest := inv.newest
  atReset := fun atReset => absurd atReset toNotReset
  pending := fun commit inSlot _ => inv.pending commit inSlot fromNotReset
  nodup := inv.nodup
  displaced := inv.displaced
  refused := inv.refused
  issued := inv.issued
  accounted := inv.accounted
  waiting := waiting
  failures := inv.failures
  paced := inv.paced
  sleepStart := sleepStart
  sleepUntil := sleepUntil
  awake := awake

/-- The program points where the invariant asserts nothing about the worker. -/
def Worker.idle : Worker → Bool
  | .interruptionCheck | .lock | .slotCheck | .woken | .recheck | .exited => true
  | _ => false

/-- The worker moves, from anywhere but `reset`, to a point where nothing is asserted. -/
theorem Mailbox.moveIdle (inv : Mailbox s) {worker : Worker} (fromNotReset : s.worker ≠ .reset)
    (idle : worker.idle = true) : Mailbox { s with worker := worker } :=
  inv.moveWorker s.log.retargeted s.interruptionRequested s.destructor fromNotReset
    (by rintro rfl; simp [Worker.idle] at idle) (by rintro rfl; simp [Worker.idle] at idle)
    (by cases worker <;> simp_all [Worker.idle, Worker.foundCommit])
    (by rintro rfl; simp [Worker.idle] at idle)
    (by rintro now rfl; simp [Worker.idle] at idle)
    (by rintro wake rfl; simp [Worker.idle] at idle)
    (by rintro (rfl | rfl) <;> simp [Worker.idle] at idle)

/-- The second half of the destructor: a `notify_all()` moves a waiting worker to
`woken`. -/
theorem Mailbox.notify (inv : Mailbox s) (free : s.worker.holdsLock = false) :
    Mailbox { s with worker := s.worker.notified, destructor := .returned } := by
  have notReset : s.worker ≠ .reset := by rintro atReset; simp [atReset, Worker.holdsLock] at free
  have notifiedIff : ∀ {other : Worker}, other ≠ .waiting → other ≠ .woken →
      (s.worker.notified = other ↔ s.worker = other) :=
    fun notWaiting notWoken => Worker.notified_eq_iff notWaiting notWoken
  refine inv.moveWorker s.log.retargeted s.interruptionRequested .returned notReset ?_ ?_ ?_
    (fun atWaiting => absurd atWaiting (Worker.notified_ne_waiting _)) ?_ ?_ ?_
  · rw [Ne, notifiedIff (by simp) (by simp)]; exact notReset
  · rw [Ne, notifiedIff (by simp) (by simp)]; exact inv.notCrashed
  · simpa using inv.found
  · exact fun now asleep => inv.sleepStart now ((notifiedIff (by simp) (by simp)).mp asleep)
  · exact fun wake asleep => inv.sleepUntil wake ((notifiedIff (by simp) (by simp)).mp asleep)
  · rintro (atPoint | atPoint)
    · exact inv.awake (.inl ((notifiedIff (by simp) (by simp)).mp atPoint))
    · exact inv.awake (.inr ((notifiedIff (by simp) (by simp)).mp atPoint))

/-- The first half of the destructor: `requestInterruption()`, which the invariant does
not read. -/
theorem Mailbox.interrupt (inv : Mailbox s) :
    Mailbox { s with interruptionRequested := true, destructor := .interruptionRequested } :=
  ⟨inv.found, inv.notCrashed, inv.newest, inv.atReset, inv.pending, inv.nodup, inv.displaced,
    inv.refused, inv.issued, inv.accounted, inv.waiting, inv.failures, inv.paced,
    inv.sleepStart, inv.sleepUntil, inv.awake⟩

theorem Mailbox.advance (inv : Mailbox s) (elapsed : Nat) :
    Mailbox { s with clock := s.clock + elapsed } where
  found := inv.found
  notCrashed := inv.notCrashed
  newest := inv.newest
  atReset := inv.atReset
  pending := inv.pending
  nodup := inv.nodup
  displaced := inv.displaced
  refused := inv.refused
  issued := inv.issued
  accounted := inv.accounted
  waiting := inv.waiting
  failures := inv.failures
  paced := inv.paced
  sleepStart := fun now asleep => by have := inv.sleepStart now asleep; dsimp only; omega
  sleepUntil := inv.sleepUntil
  awake := fun atPoint fresh => by have := inv.awake atPoint fresh; dsimp only; omega

theorem Worker.ne_reset_of_free {worker : Worker} (free : worker.holdsLock = false) :
    worker ≠ .reset := by
  rintro rfl; simp [Worker.holdsLock] at free

/-- The render thread puts a newly built commit in the slot; the commit there before, if
any, is displaced. `setCommit` and a successful `replaceCommit` are such hand-overs. -/
theorem Mailbox.handOver (inv : Mailbox s) (free : s.worker.holdsLock = false)
    (targetCommitTime : Int) (retargeted : Bool)
    (sleepUntil : ∀ wake, s.worker = .sleeping wake → retargeted = false →
      targetCommitTime ≤ wake)
    (relock : s.worker = .relock → retargeted = false → targetCommitTime ≤ s.clock) :
    Mailbox { s with
      commit := some s.log.built
      targetCommitTime := targetCommitTime
      worker := s.worker.notified
      log := { s.log with
        built := s.log.built + 1
        displaced := s.log.displaced ++ s.commit.toList
        retargeted := retargeted } } := by
  have notReset := Worker.ne_reset_of_free free
  have older : ∀ commit, (commit ∈ s.submittedCommits ∨ commit ∈ s.log.displaced ∨
      commit ∈ s.log.refused) → some s.log.built ≠ some commit :=
    fun commit mentioned same => by
      have := inv.issued commit mentioned; simp only [Option.some.injEq] at same; omega
  have notifiedIff : ∀ {other : Worker}, other ≠ .waiting → other ≠ .woken →
      (s.worker.notified = other ↔ s.worker = other) :=
    fun notWaiting notWoken => Worker.notified_eq_iff notWaiting notWoken
  refine ⟨fun _ => rfl, ?_, fun commit inSlot => ?_, fun atReset => ?_,
    fun commit inSlot _ => ?_,
    inv.nodup, fun commit mem => ?_, fun commit mem => ?_, fun commit mentioned => ?_,
    fun commit below => ?_, fun atWaiting => ?_, inv.failures, inv.paced,
    fun now asleep => ?_, fun wake asleep => ?_, fun atPoint => ?_⟩
  · exact fun crashed => inv.notCrashed ((notifiedIff (by simp) (by simp)).mp crashed)
  · cases inSlot; rfl
  · exact absurd ((notifiedIff (by simp) (by simp)).mp atReset) notReset
  · cases inSlot; exact inv.not_mem_submitted_of_built
  · simp only [List.mem_append, Option.mem_toList, Option.mem_def] at mem
    rcases mem with old | inSlot
    · exact ⟨(inv.displaced commit old).1, older commit (.inr (.inl old))⟩
    · refine ⟨inv.pending commit inSlot notReset, fun same => ?_⟩
      have := inv.newest commit inSlot
      simp only [Option.some.injEq] at same; omega
  · exact ⟨(inv.refused commit mem).1, older commit (.inr (.inr mem))⟩
  · simp only [List.mem_append, Option.mem_toList, Option.mem_def] at mentioned
    rcases mentioned with submitted | (displaced | inSlot) | refused
    · have := inv.issued commit (.inl submitted); dsimp only; omega
    · have := inv.issued commit (.inr (.inl displaced)); dsimp only; omega
    · have := inv.newest commit inSlot; dsimp only; omega
    · have := inv.issued commit (.inr (.inr refused)); dsimp only; omega
  · dsimp only at below ⊢
    rcases Nat.lt_succ_iff_lt_or_eq.mp below with older | rfl
    · rcases inv.accounted commit older with inSlot | rest
      · exact .inr (.inr (.inl (by simp [inSlot])))
      · rcases rest with submitted | displaced | refused
        · exact .inr (.inl submitted)
        · exact .inr (.inr (.inl (by simp [displaced])))
        · exact .inr (.inr (.inr refused))
    · exact .inl rfl
  · exact absurd atWaiting (Worker.notified_ne_waiting _)
  · exact inv.sleepStart now ((notifiedIff (by simp) (by simp)).mp asleep)
  · exact sleepUntil wake ((notifiedIff (by simp) (by simp)).mp asleep)
  · rcases atPoint with atRelock | atCommit
    · exact relock ((notifiedIff (by simp) (by simp)).mp atRelock)
    · have := (notifiedIff (by simp) (by simp)).mp atCommit
      simp [this, Worker.holdsLock] at free

theorem Mailbox.setCommit (inv : Mailbox s) (free : s.worker.holdsLock = false)
    (targetCommitTime : Int) : Mailbox (setCommit s targetCommitTime) :=
  inv.handOver free targetCommitTime _
    (fun wake asleep fresh => by simp [asleep, Worker.pastSleepRead] at fresh)
    (fun atRelock fresh => by simp [atRelock, Worker.pastSleepRead] at fresh)

theorem Mailbox.replaceCommit (inv : Mailbox s) (free : s.worker.holdsLock = false) :
    Mailbox (replaceCommit s).2 := by
  unfold DrmCommitThread.replaceCommit
  split
  · rename_i previous inSlot
    have handed := inv.handOver free s.targetCommitTime s.log.retargeted
      (fun wake asleep fresh => inv.sleepUntil wake asleep fresh)
      (fun atRelock fresh => inv.awake (.inl atRelock) fresh)
    simpa [inSlot] using handed
  · rename_i inSlot
    refine ⟨inv.found, inv.notCrashed, fun commit filled => (nomatch inSlot.symm.trans filled),
      inv.atReset, inv.pending, inv.nodup, inv.displaced,
      fun commit mem => ?_, fun commit mentioned => ?_, fun commit below => ?_, inv.waiting,
      inv.failures, inv.paced, inv.sleepStart, inv.sleepUntil, inv.awake⟩
    · simp only [List.mem_append, List.mem_singleton] at mem
      rcases mem with old | rfl
      · exact inv.refused commit old
      · exact ⟨inv.not_mem_submitted_of_built, by simp [inSlot]⟩
    · simp only [List.mem_append, List.mem_singleton] at mentioned
      rcases mentioned with submitted | displaced | refused | rfl
      · have := inv.issued commit (.inl submitted); dsimp only; omega
      · have := inv.issued commit (.inr (.inl displaced)); dsimp only; omega
      · have := inv.issued commit (.inr (.inr refused)); dsimp only; omega
      · dsimp only; omega
    · dsimp only at below ⊢
      rcases Nat.lt_succ_iff_lt_or_eq.mp below with older | rfl
      · rcases inv.accounted commit older with inSlot' | rest
        · simp [inSlot] at inSlot'
        · simp only [List.mem_append, List.mem_singleton]
          tauto
      · simp

/-- `m_commit->commit()` on the slot's commit, queuing `commitFailed` when it fails. -/
theorem Mailbox.submit (inv : Mailbox s) (atCommit : s.worker = .commit) {commit : Nat}
    (inSlot : s.commit = some commit) (committed : Bool) :
    Mailbox { s with
      worker := .reset
      queuedCommitFailed := if committed then s.queuedCommitFailed
        else s.queuedCommitFailed + 1
      log := { s.log with
        submitted := s.log.submitted ++
          [⟨commit, s.clock, s.targetCommitTime, s.log.retargeted, committed⟩] } } := by
  have fresh : commit ∉ s.submittedCommits := inv.pending commit inSlot (by simp [atCommit])
  have appended : ∀ other, other ∈ (s.log.submitted ++
      [(⟨commit, s.clock, s.targetCommitTime, s.log.retargeted, committed⟩ : Submission)]).map
        Submission.commit ↔ other ∈ s.submittedCommits ∨ other = commit := by
    simp [State.submittedCommits]
  refine ⟨fun _ => by simp [inSlot], nofun, inv.newest, fun _ => ⟨commit, inSlot, ?_⟩,
    fun _ _ atReset => absurd rfl atReset, ?_, fun other mem => ?_, fun other mem => ?_,
    fun other mentioned => ?_, fun other below => ?_, fun atWaiting => (nomatch atWaiting), ?_,
    fun submission mem fresh' => ?_, fun now asleep => (nomatch asleep),
    fun wake asleep => (nomatch asleep), fun atPoint => ?_⟩
  · simp [State.submittedCommits]
  · simpa [State.submittedCommits, List.nodup_append] using
      And.intro inv.nodup fresh
  · refine ⟨fun inLog => ?_, (inv.displaced other mem).2⟩
    rcases (appended other).mp inLog with old | rfl
    · exact (inv.displaced other mem).1 old
    · exact (inv.displaced other mem).2 inSlot
  · refine ⟨fun inLog => ?_, (inv.refused other mem).2⟩
    rcases (appended other).mp inLog with old | rfl
    · exact (inv.refused other mem).1 old
    · exact (inv.refused other mem).2 inSlot
  · rcases mentioned with inLog | rest
    · rcases (appended other).mp inLog with old | rfl
      · exact inv.issued other (.inl old)
      · have := inv.newest other inSlot; dsimp only; omega
    · exact inv.issued other (.inr rest)
  · rcases inv.accounted other below with filled | inLog | rest
    · exact .inl filled
    · exact .inr (.inl ((appended other).mpr (.inl inLog)))
    · exact .inr (.inr rest)
  · cases committed <;> simp [inv.failures, List.filter_append]
  · simp only [List.mem_append, List.mem_singleton] at mem
    rcases mem with old | rfl
    · exact inv.paced submission old fresh'
    · exact inv.awake (.inr atCommit) fresh'
  · rcases atPoint with atPoint | atPoint <;> exact nomatch atPoint

/-- `m_commit.reset()` after the submission, and back to the top of the loop. -/
theorem Mailbox.resetSlot (inv : Mailbox s) (atReset : s.worker = .reset) :
    Mailbox { s with commit := none, worker := .interruptionCheck } := by
  obtain ⟨submitted, inSlot, last⟩ := inv.atReset atReset
  refine ⟨fun found => (nomatch found), nofun, fun _ filled => (nomatch filled),
    fun atReset' => (nomatch atReset'), fun _ filled => (nomatch filled), inv.nodup,
    fun other mem => ⟨(inv.displaced other mem).1, nofun⟩,
    fun other mem => ⟨(inv.refused other mem).1, nofun⟩, inv.issued, fun other below => ?_,
    fun atWaiting => (nomatch atWaiting), inv.failures, inv.paced, fun _ asleep => (nomatch asleep),
    fun _ asleep => (nomatch asleep), fun atPoint => ?_⟩
  · rcases inv.accounted other below with filled | rest
    · rw [inSlot, Option.some.injEq] at filled
      subst filled
      exact .inr (.inl (List.mem_of_getLast?_eq_some last))
    · exact .inr rest
  · rcases atPoint with atPoint | atPoint <;> exact nomatch atPoint

theorem Mailbox.workerStep (inv : Mailbox s) (committed : Bool)
    (stepped : workerStep s committed = some s') : Mailbox s' := by
  unfold DrmCommitThread.workerStep at stepped
  split at stepped
  next atPoint =>
    cases stepped
    exact inv.moveIdle (by simp [atPoint]) (by split <;> rfl)
  next atPoint =>
    cases stepped
    exact inv.moveIdle (by simp [atPoint]) rfl
  next atPoint =>
    cases stepped
    split
    · next empty =>
      exact inv.moveWorker _ _ _ (by simp [atPoint]) (by simp) (by simp) (by simp [Worker.foundCommit])
        (fun _ => by simpa using empty) nofun nofun (by simp)
    · next filled =>
      exact inv.moveWorker _ _ _ (by simp [atPoint]) (by simp) (by simp)
        (fun _ => Option.ne_none_iff_isSome.mp (by simpa using filled))
        nofun nofun nofun (by simp)
  next atPoint =>
    cases stepped
    exact inv.moveIdle (by simp [atPoint]) rfl
  next atPoint =>
    cases stepped
    exact inv.moveIdle (by simp [atPoint]) rfl
  next atPoint =>
    cases stepped
    split
    · exact inv.moveIdle (by simp [atPoint]) rfl
    · next filled =>
      exact inv.moveWorker _ _ _ (by simp [atPoint]) (by simp) (by simp)
        (fun _ => Option.ne_none_iff_isSome.mp (by simpa using filled))
        nofun nofun nofun (by simp)
  next atPoint =>
    cases stepped
    have filled := inv.found (by simp [atPoint, Worker.foundCommit])
    split
    · exact inv.moveWorker false _ _ (by simp [atPoint]) (by simp) (by simp) (fun _ => filled) nofun
        (fun _ asleep => by cases asleep; exact Int.le_refl _) nofun (by simp)
    · next notLater =>
      exact inv.moveWorker false _ _ (by simp [atPoint]) (by simp) (by simp) (fun _ => filled) nofun
        nofun nofun (fun _ _ => by omega)
  next now atPoint =>
    cases stepped
    have started := inv.sleepStart now atPoint
    exact inv.moveWorker _ _ _ (by simp [atPoint]) (by simp) (by simp)
      (fun _ => inv.found (by simp [atPoint, Worker.foundCommit])) nofun nofun
      (fun _ asleep _ => by cases asleep; omega) (by simp)
  next wake atPoint =>
    split at stepped
    · next due =>
      cases stepped
      exact inv.moveWorker _ _ _ (by simp [atPoint]) (by simp) (by simp)
        (fun _ => inv.found (by simp [atPoint, Worker.foundCommit])) nofun nofun nofun
        (fun _ fresh => by have := inv.sleepUntil wake atPoint fresh; omega)
    · exact nomatch stepped
  next atPoint =>
    cases stepped
    exact inv.moveWorker _ _ _ (by simp [atPoint]) (by simp) (by simp)
      (fun _ => inv.found (by simp [atPoint, Worker.foundCommit])) nofun nofun nofun
      (fun _ fresh => inv.awake (.inl atPoint) fresh)
  next atPoint =>
    have filled := inv.found (by simp [atPoint, Worker.foundCommit])
    split at stepped
    · next empty => simp [empty] at filled
    · next commit inSlot =>
      cases stepped
      exact inv.submit atPoint inSlot committed
  next atPoint =>
    cases stepped
    exact inv.resetSlot atPoint
  all_goals cases stepped

/-- Every action preserves the invariant. -/
theorem Mailbox.step (inv : Mailbox s) {action : Action} (stepped : step s action = some s') :
    Mailbox s' := by
  cases action with
  | worker committed => exact inv.workerStep committed stepped
  | setCommit targetCommitTime =>
    simp only [DrmCommitThread.step] at stepped
    split at stepped
    · next allowed => cases stepped; exact inv.setCommit allowed.2 targetCommitTime
    · exact nomatch stepped
  | replaceCommit =>
    simp only [DrmCommitThread.step] at stepped
    split at stepped
    · next allowed => cases stepped; exact inv.replaceCommit allowed.2
    · exact nomatch stepped
  | destroy =>
    simp only [DrmCommitThread.step, destroyStep] at stepped
    split at stepped
    · cases stepped; exact inv.interrupt
    · split at stepped
      · exact nomatch stepped
      · next free => cases stepped; exact inv.notify (by simpa using free)
    · exact nomatch stepped
  | advance elapsed =>
    cases stepped
    exact inv.advance elapsed

theorem Reachable.mailbox {s : State} (reachable : Reachable s) : Mailbox s := by
  induction reachable with
  | initial targetCommitTime clock => exact Mailbox.initial targetCommitTime clock
  | step action _ stepped ih => exact ih.step stepped

/-- Only the worker's `commit()` step adds to the submission log, and it adds the slot's
commit. -/
theorem step_submitted {action : Action} (stepped : step s action = some s') :
    s'.log.submitted = s.log.submitted ∨
      s.worker = .commit ∧ ∃ commit committed, action = .worker committed ∧
        s.commit = some commit ∧ s'.log.submitted = s.log.submitted ++
          [⟨commit, s.clock, s.targetCommitTime, s.log.retargeted, committed⟩] := by
  cases action with
  | worker committed =>
    simp only [DrmCommitThread.step, workerStep] at stepped
    split at stepped <;> (try split at stepped) <;> (try cases stepped) <;> (try exact .inl rfl)
    next atCommit _ commit inSlot =>
      exact .inr ⟨atCommit, commit, committed, rfl, inSlot, rfl⟩
  | setCommit targetCommitTime =>
    simp only [DrmCommitThread.step] at stepped
    split at stepped <;> cases stepped
    exact .inl rfl
  | replaceCommit =>
    simp only [DrmCommitThread.step, DrmCommitThread.replaceCommit] at stepped
    split at stepped <;> cases stepped
    split <;> exact .inl rfl
  | destroy =>
    simp only [DrmCommitThread.step, destroyStep] at stepped
    split at stepped <;> (try split at stepped) <;> cases stepped <;> exact .inl rfl
  | advance elapsed =>
    cases stepped
    exact .inl rfl

/-- The commit slot over every interleaving. (a) From finding the slot full to the
`Q_ASSERT`, the worker finds it full, so it never calls `commit()` on a null commit.
(b) No commit is passed to `commit()` twice, and `commit()` is only called, with the
mutex held, on the slot's content. (c) `replaceCommit` succeeds iff the slot is full and
otherwise leaves it as it is; a commit it displaced, and its refused argument, are never
submitted nor back in the slot; the slot holds the newest commit built, so the next
submission is the last commit handed over. (d) The worker waits only on an empty slot,
and never sleeps with the mutex held. -/
theorem commit_slot_safety {s : State} (reachable : Reachable s) :
    (s.worker.foundCommit = true → s.commit.isSome) ∧ s.worker ≠ .crashed ∧
    s.submittedCommits.Nodup ∧
    (∀ action s', step s action = some s' → s'.log.submitted ≠ s.log.submitted →
      s.worker = .commit ∧ s.worker.holdsLock = true ∧ ∃ commit, s.commit = some commit ∧
        s'.submittedCommits = s.submittedCommits ++ [commit]) ∧
    ((replaceCommit s).1 = s.commit.isSome ∧
      ((replaceCommit s).1 = false → (replaceCommit s).2.commit = s.commit)) ∧
    (∀ commit ∈ s.log.displaced ++ s.log.refused,
      commit ∉ s.submittedCommits ∧ s.commit ≠ some commit) ∧
    (∀ commit, s.commit = some commit → commit + 1 = s.log.built) ∧
    (s.worker = .waiting → s.commit = none) ∧
    (∀ wake, s.worker = .sleeping wake → s.worker.holdsLock = false) := by
  have inv := reachable.mailbox
  refine ⟨inv.found, inv.notCrashed, inv.nodup, fun action s' stepped changed => ?_,
    ⟨?_, ?_⟩, fun commit mem => ?_, inv.newest, inv.waiting, fun _ asleep => by simp [asleep,
      Worker.holdsLock]⟩
  · rcases step_submitted stepped with same | ⟨atCommit, commit, committed, -, inSlot, appended⟩
    · exact absurd same changed
    · refine ⟨atCommit, by simp [atCommit, Worker.holdsLock], commit, inSlot, ?_⟩
      simp [State.submittedCommits, appended]
  · unfold DrmCommitThread.replaceCommit; split <;> simp_all
  · unfold DrmCommitThread.replaceCommit; split <;> simp_all
  · rcases List.mem_append.mp mem with displaced | refused
    · exact inv.displaced commit displaced
    · exact inv.refused commit refused

/-- A commit handed over and then replaced, before the worker runs. -/
def replacedOnce : State := (replaceCommit (setCommit (initial 0 0) 5)).2

theorem replacedOnce_reachable : Reachable replacedOnce :=
  .step .replaceCommit (.step (.setCommit 5) (.initial 0 0) rfl) rfl

theorem commit_slot_safety_replacedOnce :
    Reachable replacedOnce ∧ replacedOnce.log.displaced = [0] ∧
      (0 ∉ replacedOnce.submittedCommits ∧ replacedOnce.commit ≠ some 0) :=
  ⟨replacedOnce_reachable, rfl,
    (commit_slot_safety replacedOnce_reachable).2.2.2.2.2.1 0 (by decide)⟩

/-- A successful `replaceCommit` is not always followed by the submission of its
replacement: a second `replaceCommit` displaces the first replacement, and the worker
submits the second. -/
theorem replacement_displaced_before_submission :
    (replaceCommit (setCommit (initial 0 0) 0)).1 = true ∧
      (replaceCommit (setCommit (initial 0 0) 0)).2.commit = some 1 ∧
      (run (replaceCommit (setCommit (initial 0 0) 0)).2
        [.replaceCommit, .worker true, .worker true, .worker true, .worker true,
          .worker true]).map State.submittedCommits = some [2] := by
  decide

end DrmCommitThread

end KWin
