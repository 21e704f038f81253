import AddonHost.Proofs.Callbacks
import AddonHost.Proofs.Session.Onward

/-!
The states of a job.

`JobState.Change` is the state machine of async work.  Every change that a run makes to the state of
a job is one of it, whatever is done to the job and wherever that is done, with one exception:
deleting a job that is completed, and still registered, takes it from `completed` to `deleted`
(`Reachable.stateChanges`).  A deleted job stays deleted, and a completed one stays completed until
it is deleted.

A submission that is handed back takes the job from `queued` to `created` within the operation that
queued it, so it is told apart from the steps of a run (`AsyncJob.change_of_dispatch`).
-/

namespace AddonHost

/-- The state machine of async work. -/
inductive JobState.Change : JobState → JobState → Prop where
  | queue : Change created queued
  /-- The submission was handed back. -/
  | handBack : Change queued created
  | cancelCreated : Change created cancelled
  | cancelQueued : Change queued cancelled
  | complete : Change queued completed
  | completeCancelled : Change cancelled completed
  | deleteCreated : Change created deleted
  | deleteQueued : Change queued deleted
  | deleteCancelled : Change cancelled deleted

/-- The machine has no way out of `completed` or `deleted`. -/
theorem JobState.Change.not_ended {state state' : JobState} (h : state.Change state') :
    state ≠ .completed ∧ state ≠ .deleted := by
  cases h <;> simp

theorem JobState.eq_of_changes_ended {state state' : JobState}
    (hended : state = .completed ∨ state = .deleted)
    (h : Relation.ReflTransGen JobState.Change state state') : state' = state := by
  induction h with
  | refl => rfl
  | tail _ hchange ih =>
    subst ih
    rcases hended with hended | hended
    · exact absurd hended hchange.not_ended.1
    · exact absurd hended hchange.not_ended.2

/-- Queueing a job changes its state by the machine, and so does taking the submission back, which
leaves the job as it was. -/
theorem AsyncJob.change_of_dispatch {job job' : AsyncJob} (h : job.dispatch = .ok job') :
    Relation.ReflGen JobState.Change job.state job'.state ∧
      Relation.ReflGen JobState.Change job'.state job'.retract.state ∧ job'.retract = job := by
  rw [retract_of_dispatch h]
  rcases JobLife.dispatch_state h with ⟨hold, hnew⟩ | ⟨hold, hnew⟩ <;> rw [hold, hnew]
  · exact ⟨.single .queue, .single .handBack, rfl⟩
  · exact ⟨.refl, .refl, rfl⟩

namespace JobLife

variable {j : HandleId} {l l' : JobLife} {doing kept : Multiset Work} {own own' : List Work}
  {job job' : AsyncJob}

/-- A job is `created` only as long as no invoker has taken its task, and `completed` only when its
task is over. -/
@[mk_iff]
structure Ordered (j : HandleId) (l : JobLife) (doing : Multiset Work) : Prop where
  created : ∀ job, l.job = some job → job.state = .created → job.dispatched = false
  completed : ∀ job, l.job = some job → job.state = .completed → .started ∈ l.marks j ∧ doing = 0

/-- While a thread is in the complete step of a job, the job waits for its end, or was deleted. -/
theorem Run.state_of_completing (h : Run j l (([.completing] : List Work) + kept))
    (ho : Ordered j l (([.completing] : List Work) + kept)) (hl : l.job = some job) :
    job.state = .queued ∨ job.state = .cancelled ∨ job.state = .deleted := by
  obtain ⟨stage, hstaged⟩ := h.staged
  obtain ⟨-, hwork⟩ := JobStage.eq_of_work hstaged.doing
  obtain rfl := JobStage.eq_completing hwork
  have hdispatched : job.dispatched = true := (hstaged.dispatched job hl).2 (by simp)
  have hcreated : job.state ≠ .created := fun hstate => by
    simp [ho.created job hl hstate] at hdispatched
  have hcompleted : job.state ≠ .completed := fun hstate => by
    simpa using (ho.completed job hl hstate).2
  cases hstate : job.state <;> simp_all

/-- A task that is queued, or about to run, has not started. -/
theorem Staged.not_started {stage : JobStage} (h : Staged j stage l doing)
    (hstage : stage.hasStarted = false) : .started ∉ l.marks j := by
  rw [h.started, hstage]
  simp

theorem Run.ordered (h : Run j l doing) : Ordered j l doing := by
  induction h with
  | unborn n => exact ⟨nofun, nofun⟩
  | @step l l' own own' kept hr hs ih =>
    have ih' := ih
    rw [ordered_iff] at ih ⊢
    obtain ⟨hcreated, hcompleted⟩ := ih
    -- a job whose task is being run is not completed
    have hbusy {w : Work} (hown : own = [w]) : ∀ job, l.job = some job → job.state ≠ .completed := by
      rintro job hl hstate
      subst hown
      simpa using (hcompleted job hl hstate).2
    cases hs with
    | aside | displace => exact ⟨hcreated, hcompleted⟩
    | absent own hl => exact ⟨by simp [hl], by simp [hl]⟩
    | create env data hl hn => simp
    | @queue job job' i sub env hl hjob hsub =>
      have hstate := dispatch_state hjob
      have hflag := (dispatch_eq_ok hjob).2
      simp only [job_tell, job_enqueue, job_become, Option.some.injEq, forall_eq']
      grind
    | @cancel job job' changed hl hjob =>
      obtain rfl := cancel_eq_ok hjob
      simp
    | delete hregistered =>
      obtain ⟨job, hl⟩ := hr.exists_of_registered hregistered
      simp [hl, AsyncJob.delete]
    | @start i env rest hq =>
      obtain ⟨stage, hstaged⟩ := hr.staged
      have hstart := hq
      rw [hstaged.queued] at hstart
      obtain ⟨rfl, -⟩ := JobStage.eq_queued hstart
      refine ⟨hcreated, fun job hl hstate => ?_⟩
      exact absurd (hcompleted job hl hstate).1 (hstaged.not_started rfl)
    | discard i hsubs =>
      refine ⟨hcreated, fun job hl hstate => ?_⟩
      obtain ⟨hmem, hdoing⟩ := hcompleted job hl hstate
      exact ⟨by simp [hmem], hdoing⟩
    | @finish job hl =>
      obtain ⟨stage, hstaged⟩ := hr.staged
      obtain ⟨hkept, -⟩ := JobStage.eq_of_work hstaged.doing
      simp only [job_become, Option.some.injEq, forall_eq', marks_become]
      refine ⟨?_, fun _ => ⟨hr.started_of_completing, by simp [hkept]⟩⟩
      rw [AsyncJob.finish]
      split_ifs <;> simp_all
    | ignore hl | execute hl | skipExecute hl | complete hl =>
      exact ⟨hcreated, fun job' hl' hstate => absurd hstate (hbusy rfl job' hl')⟩

/-- What one step makes of the state of a job. -/
theorem Run.step_state (h : Run j l (own + kept)) (hs : Step j l own l' own')
    (hl : l.job = some job) :
    ∃ job', l'.job = some job' ∧ (Relation.ReflGen JobState.Change job.state job'.state ∨
      job.state = .completed ∧ job'.state = .deleted ∧ l.registered = true ∧
        l'.marks j = l.marks j ++ [.deleted]) := by
  cases hs with
  | absent own hnone | create env data hnone => simp [hl] at hnone
  | aside | displace | start | discard | ignore | execute | skipExecute | complete =>
    exact ⟨job, hl, .inl .refl⟩
  | @queue job₁ job' i sub env hjob hdispatch hsub =>
    obtain rfl := Option.some.inj (hl.symm.trans hjob)
    exact ⟨job', rfl, .inl (AsyncJob.change_of_dispatch hdispatch).1⟩
  | @cancel job₁ job' changed hjob hcancel =>
    obtain rfl := Option.some.inj (hl.symm.trans hjob)
    obtain rfl := cancel_eq_ok hcancel
    refine ⟨_, rfl, .inl ?_⟩
    obtain ⟨hcompleted, hdeleted⟩ := state_of_cancel hcancel
    cases hstate : job.state with
    | created => exact .single .cancelCreated
    | queued => exact .single .cancelQueued
    | cancelled => exact .refl
    | completed => exact absurd hstate hcompleted
    | deleted => exact absurd hstate hdeleted
  | delete hregistered =>
    refine ⟨job.delete, by simp [hl], ?_⟩
    cases hstate : job.state with
    | created => exact .inl (.single .deleteCreated)
    | queued => exact .inl (.single .deleteQueued)
    | cancelled => exact .inl (.single .deleteCancelled)
    | deleted => exact .inl .refl
    | completed => exact .inr ⟨rfl, rfl, hregistered, by simp [Event.jobMark?]⟩
  | @finish job₁ hjob =>
    obtain rfl := Option.some.inj (hl.symm.trans hjob)
    refine ⟨_, rfl, .inl ?_⟩
    rw [AsyncJob.finish]
    rcases h.state_of_completing h.ordered hl with hstate | hstate | hstate <;> rw [hstate]
    · exact .single .complete
    · exact .single .completeCancelled
    · exact .refl

end JobLife

namespace Session

variable {s s' : Session} {j : HandleId} {t : ThreadId} {job : AsyncJob}

/-- What a step of a run makes of the state of a job: nothing, or a change of the state machine, or
the job was completed and has been deleted. -/
def ChangesState (j : HandleId) (job : AsyncJob) (s s' : Session) : Prop :=
  ∃ job', s'.jobs.object? j = some job' ∧
    (Relation.ReflGen JobState.Change job.state job'.state ∨
      job.state = .completed ∧ job'.state = .deleted ∧ s.jobs.owns j = true ∧
        s'.jobMarks j = s.jobMarks j ++ [.deleted])

theorem changesState_of_jobStep {own own' : List Work} {kept : Multiset Work}
    (hrun : JobLife.Run j (s.jobLife j) (own + kept))
    (hstep : JobLife.Step j (s.jobLife j) own (s'.jobLife j) own')
    (hjob : s.jobs.object? j = some job) : ChangesState j job s s' := by
  obtain ⟨job', hjob', hstate⟩ := hrun.step_state hstep hjob
  rw [marks_jobLife, marks_jobLife] at hstate
  exact ⟨job', hjob', hstate⟩

theorem Reachable.changesState_step (h : s.Reachable) (hstep : s.step t = some s')
    (hjob : s.jobs.object? j = some job) : ChangesState j job s s' := by
  obtain ⟨th, below, m, own, works, ht⟩ := h.sound.exists_taken hstep
  obtain ⟨kept, hworks, -⟩ := ht.exists_kept_works j
  have hlife : s'.jobLife j = m.session.jobLife j := by
    rw [ht.result]
    rfl
  have hrun := h.jobRun j
  have hwork := ht.does.work j
  rw [hworks] at hrun
  rw [← hlife] at hwork
  exact changesState_of_jobStep hrun hwork hjob

theorem Reachable.changesState_lose (h : s.Reachable) (hjob : s.jobs.object? j = some job)
    (i : InvokerId) (position : ℕ) : ChangesState j job s (s.loseTask i position) := by
  have hrun : JobLife.Run j (s.jobLife j) (([] : List Work) + s.worksFor j) := by
    simpa using h.jobRun j
  exact changesState_of_jobStep hrun (loseTask_jobStep j i position) hjob

/-- What a run that goes on makes of the state of a job. -/
structure StateAfter (j : HandleId) (job : AsyncJob) (s' : Session) (job' : AsyncJob) : Prop where
  object : s'.jobs.object? j = some job'
  changes : Relation.ReflTransGen JobState.Change job.state job'.state ∨
    Relation.ReflTransGen JobState.Change job.state .completed ∧ job'.state = .deleted ∧
      .deleted ∈ s'.jobMarks j

/-- Nothing that was told of a job is forgotten. -/
theorem Reachable.deleted_mem (h : s.Reachable) (hjob : s.jobs.object? j = some job)
    (hdeleted : job.state = .deleted) : .deleted ∈ s.jobMarks j := by
  rw [← marks_jobLife]
  exact ((h.jobRun j).stated.deleted job hjob).1 hdeleted

theorem StateAfter.step {job₀ : AsyncJob} (h : StateAfter j job₀ s job)
    (hr : s'.Reachable) (hstep : ChangesState j job s s') : ∃ job', StateAfter j job₀ s' job' := by
  obtain ⟨job', hjob', hchange⟩ := hstep
  refine ⟨job', hjob', ?_⟩
  rcases hchange with hchange | ⟨hcompleted, hdeleted, -, -⟩
  · rcases h.changes with hway | ⟨hway, hdeleted, -⟩
    · exact .inl (hway.trans hchange.to_reflTransGen)
    · have hstay := JobState.eq_of_changes_ended (.inr hdeleted) hchange.to_reflTransGen
      exact .inr ⟨hway, hstay.trans hdeleted, hr.deleted_mem hjob' (hstay.trans hdeleted)⟩
  · rcases h.changes with hway | ⟨-, hdeleted', -⟩
    · exact .inr ⟨hcompleted ▸ hway, hdeleted, hr.deleted_mem hjob' hdeleted⟩
    · simp [hdeleted'] at hcompleted

theorem Reachable.stateAfter (h : s.Reachable) (hjob : s.jobs.object? j = some job)
    (ho : s.Onward s') : ∃ job', StateAfter j job s' job' := by
  induction ho with
  | refl => exact ⟨job, hjob, .inl .refl⟩
  | act a _ _ ih =>
    obtain ⟨job', hjob', hchanges⟩ := ih
    exact ⟨job', hjob', hchanges⟩
  | step t ho hrest hstep ih =>
    obtain ⟨job', hafter⟩ := ih
    have hr := h.onward ho
    exact hafter.step (hr.step t hrest hstep) (hr.changesState_step hstep hafter.object)
  | lose i position ho ih =>
    obtain ⟨job', hafter⟩ := ih
    have hr := h.onward ho
    exact hafter.step (hr.lose i position) (hr.changesState_lose hafter.object i position)

/-- The states of a job in the course of a run: each step makes one change of the state machine at
most, or deletes a completed job; what is deleted stays so, and what is completed stays so until it
is deleted. -/
theorem Reachable.stateChanges (h : s.Reachable) (hjob : s.jobs.object? j = some job) :
    (∀ t s', s.step t = some s' → ChangesState j job s s') ∧
      (∀ i position, ChangesState j job s (s.loseTask i position)) ∧
      (∀ job', job.dispatch = .ok job' →
        Relation.ReflGen JobState.Change job.state job'.state ∧
          Relation.ReflGen JobState.Change job'.state job'.retract.state ∧ job'.retract = job) ∧
      ∀ s', s.Onward s' → ∃ job', StateAfter j job s' job' ∧
        (job.state = .deleted → job'.state = .deleted) ∧
        (job.state = .completed → .deleted ∉ s'.jobMarks j → job'.state = .completed) := by
  refine ⟨fun t s' hstep => h.changesState_step hstep hjob,
    fun i position => h.changesState_lose hjob i position,
    fun job' hdispatch => AsyncJob.change_of_dispatch hdispatch, fun s' ho => ?_⟩
  obtain ⟨job', hafter⟩ := h.stateAfter hjob ho
  refine ⟨job', hafter, fun hdeleted => ?_, fun hcompleted hnot => ?_⟩
  · rcases hafter.changes with hway | ⟨-, hdeleted', -⟩
    · exact (JobState.eq_of_changes_ended (.inr hdeleted) hway).trans hdeleted
    · exact hdeleted'
  · rcases hafter.changes with hway | ⟨-, -, hmem⟩
    · exact (JobState.eq_of_changes_ended (.inl hcompleted) hway).trans hcompleted
    · exact absurd hmem hnot

/-- A session with a job that has run, and that the embedder has kept. -/
def workedOff : Session :=
  ((start [] none).performed?
    [.createInvoker "queue" .unlimited,
      .bind (.word 1) "queue",
      .createJob "job" (.word 1) (.word 5) true,
      .queueJob (.named "job") (.word 1) false,
      .pump "queue" .one]).get (by decide +kernel)

/-- The job has run; then it is deleted, and its state with it. -/
theorem stateChanges_workedOff :
    ∃ s' job job', workedOff.jobs.object? ⟨1⟩ = some job ∧ job.state = .completed ∧
      workedOff.Onward s' ∧ StateAfter ⟨1⟩ job s' job' ∧ job'.state = .deleted := by
  have hreachable : workedOff.Reachable :=
    (Reachable.start [] none).performed? (Option.some_get _).symm
  have hcompleted : (workedOff.jobs.object? ⟨1⟩).map AsyncJob.state = some .completed := by
    decide +kernel
  obtain ⟨job, hjob, hstate⟩ := Option.map_eq_some_iff.1 hcompleted
  obtain ⟨s', hs'⟩ : ∃ s', workedOff.performed? [.deleteJob (.named "job")] = some s' :=
    Option.isSome_iff_exists.1 (by decide +kernel)
  have honward : workedOff.Onward s' := Onward.refl.performed? hs'
  obtain ⟨-, -, -, hall⟩ := hreachable.stateChanges hjob
  obtain ⟨job', hafter, -, -⟩ := hall s' honward
  refine ⟨s', job, job', hjob, hstate, honward, hafter, ?_⟩
  have hdeleted : (workedOff.performed? [.deleteJob (.named "job")]).bind
      (fun s => (s.jobs.object? ⟨1⟩).map AsyncJob.state) = some .deleted := by decide +kernel
  rw [hs', Option.bind_some, hafter.object] at hdeleted
  exact Option.some.inj hdeleted

end Session

end AddonHost
