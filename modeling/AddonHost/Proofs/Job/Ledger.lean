import AddonHost.Proofs.Job.Life

/-!
The way of a job.

A job is idle until an invoker takes its task; then the task is queued, runs, and is over, or it is
lost (`JobStage`).  At every moment of a run a job is in one stage, and the stage tells which of its
tasks are queued, what threads do for it, and how many submissions were accepted (`Run.staged`).  So
no second submission is ever accepted, and the task runs at most once.

What a job is in is told by its state too.  Until the task starts, the state is `cancelled` exactly
if a cancellation has succeeded and the job was not deleted (`Run.stated`).
-/

namespace AddonHost

/-- A callback of a job. -/
inductive JobCall where
  | execute
  | complete (status : Status)
  deriving DecidableEq

/-- What an event means to one job. -/
inductive JobMark where
  /-- An invoker took the job's task. -/
  | accepted
  /-- The task was discarded. -/
  | lost
  /-- A cancellation has succeeded. -/
  | cancelled
  | deleted
  /-- The task has started. -/
  | started
  | called (call : JobCall)
  deriving DecidableEq

/-- What an event means to a job. -/
def Event.jobMark? (j : HandleId) : Event → Option JobMark
  | execute k .. => if k = j then some (.called .execute) else none
  | complete k _ status _ => if k = j then some (.called (.complete status)) else none
  | jobCancelled k => if k = j then some .cancelled else none
  | jobDeleted k => if k = j then some .deleted else none
  | workStarted k => if k = j then some .started else none
  | queued _ sub => (sub.task.workOf? j).map fun _ => .accepted
  | discarded _ sub => (sub.task.workOf? j).map fun _ => .lost
  | log .. | callJs .. | finalize .. | engine .. | engineRegister .. | engineFatal .. | clientTask
  | did .. | functionCalled _ | appended .. | taken .. | drainOffered .. | drainStarted _
  | acquired .. | released .. | aborted _ | closed _ | teardownOffered .. | teardownStarted _
  | finalizerCalled _ | teardownEnded _ | started .. | ended .. | failed .. | ranInline _ => none

/-- An event means something to the jobs that it concerns alone. -/
theorem Event.jobMark?_eq_none {j : HandleId} {e : Event} (h : e.concernsJob j = false) :
    e.jobMark? j = none := by
  cases e <;> simp_all [concernsJob, jobMark?]

/-- Where a job is on its way. -/
inductive JobStage where
  /-- No invoker has taken its task. -/
  | idle
  | queued (i : InvokerId) (env : Word)
  | starting (env : Word)
  | executing (env : Word)
  | completing
  | done
  | lost
  deriving DecidableEq

namespace JobStage

/-- The envs of the tasks that are queued in a stage. -/
def tasks : JobStage → InvokerId → List Word
  | queued i env => Function.update (fun _ => []) i [env]
  | _ => fun _ => []

/-- What threads do for a job in a stage. -/
def work : JobStage → Multiset Work
  | starting env => {.starting env}
  | executing env => {.executing env}
  | completing => {.completing}
  | idle | queued .. | done | lost => 0

/-- Whether the task has started. -/
def hasStarted : JobStage → Bool
  | executing _ | completing | done => true
  | idle | queued .. | starting _ | lost => false

variable {stage : JobStage} {kept : Multiset Work}

/-- In a stage in which a thread does something for a job, it does nothing else for it. -/
theorem eq_of_work {w : Work} (h : ([w] : List Work) + kept = stage.work) :
    kept = 0 ∧ stage.work = {w} := by
  have hcard := congrArg Multiset.card h
  have hle : stage.work.card ≤ 1 := by cases stage <;> simp [work]
  have hkept : kept = 0 := by
    rw [← Multiset.card_eq_zero]
    rw [Multiset.card_add, Multiset.coe_card, List.length_singleton] at hcard
    omega
  refine ⟨hkept, ?_⟩
  rw [← h, hkept]
  rfl

theorem eq_starting {env : Word} (h : stage.work = {.starting env}) : stage = .starting env := by
  cases stage <;> simp_all [work]

theorem eq_executing {env : Word} (h : stage.work = {.executing env}) :
    stage = .executing env := by
  cases stage <;> simp_all [work]

theorem eq_completing (h : stage.work = {.completing}) : stage = .completing := by
  cases stage <;> simp_all [work]

/-- At most one task is queued. -/
theorem length_tasks_le (stage : JobStage) (i : InvokerId) : (stage.tasks i).length ≤ 1 := by
  cases stage with
  | queued i' env =>
    rw [tasks, Function.update_apply]
    split <;> simp
  | _ => simp [tasks]

/-- A task is queued in one stage alone. -/
theorem eq_queued {i : InvokerId} {env : Word} {rest : List Word}
    (h : stage.tasks i = env :: rest) : stage = .queued i env ∧ rest = [] := by
  cases stage with
  | queued i' env' =>
    rcases eq_or_ne i i' with rfl | hne
    · simp_all [tasks]
    · simp [tasks, hne] at h
  | _ => simp [tasks] at h

/-- Tasks that are discarded are none, or the one that is queued. -/
theorem eq_of_discarded {i : InvokerId} {rest lost : List Word}
    (h : (rest ++ lost).Perm (stage.tasks i)) :
    stage.tasks i = rest ∧ lost = [] ∨ ∃ env, stage = .queued i env ∧ rest = [] ∧ lost = [env] := by
  have hlength := h.length_eq
  have hle := length_tasks_le stage i
  rw [List.length_append] at hlength
  cases lost with
  | nil =>
    left
    rw [List.append_nil] at h
    refine ⟨?_, rfl⟩
    cases rest with
    | nil => exact h.nil_eq.symm
    | cons env rest =>
      obtain rfl : rest = [] := List.length_eq_zero_iff.1 (by simp at hlength; omega)
      exact List.perm_singleton.1 h.symm
  | cons env lost =>
    right
    simp only [List.length_cons] at hlength
    obtain rfl : rest = [] := List.length_eq_zero_iff.1 (by omega)
    obtain rfl : lost = [] := List.length_eq_zero_iff.1 (by omega)
    exact ⟨env, (eq_queued (List.perm_singleton.1 h.symm)).1, rfl, rfl⟩

end JobStage

namespace JobLife

variable {j : HandleId} {l l' : JobLife} {doing : Multiset Work} {own own' : List Work}
  {job job' : AsyncJob}

/-- What the events told mean to the job. -/
def marks (j : HandleId) (l : JobLife) : List JobMark := l.told.filterMap (Event.jobMark? j)

/-! ### Lives after a change -/

@[simp] theorem job_become (l : JobLife) (job : AsyncJob) : (l.become job).job = some job := rfl

@[simp] theorem queued_become (l : JobLife) (job : AsyncJob) :
    (l.become job).queued = l.queued := rfl

@[simp] theorem registered_become (l : JobLife) (job : AsyncJob) :
    (l.become job).registered = l.registered := rfl

@[simp] theorem nextId_become (l : JobLife) (job : AsyncJob) :
    (l.become job).nextId = l.nextId := rfl

@[simp] theorem marks_become (l : JobLife) (job : AsyncJob) :
    (l.become job).marks j = l.marks j := rfl

@[simp] theorem job_tell (l : JobLife) (es : List Event) : (l.tell es).job = l.job := rfl

@[simp] theorem queued_tell (l : JobLife) (es : List Event) : (l.tell es).queued = l.queued := rfl

@[simp] theorem registered_tell (l : JobLife) (es : List Event) :
    (l.tell es).registered = l.registered := rfl

@[simp] theorem nextId_tell (l : JobLife) (es : List Event) : (l.tell es).nextId = l.nextId := rfl

@[simp] theorem marks_tell (l : JobLife) (es : List Event) :
    (l.tell es).marks j = l.marks j ++ es.filterMap (Event.jobMark? j) :=
  List.filterMap_append

@[simp] theorem job_requeue (l : JobLife) (i : InvokerId) (envs : List Word) :
    (l.requeue i envs).job = l.job := rfl

@[simp] theorem queued_requeue (l : JobLife) (i : InvokerId) (envs : List Word) :
    (l.requeue i envs).queued = Function.update l.queued i envs := rfl

@[simp] theorem registered_requeue (l : JobLife) (i : InvokerId) (envs : List Word) :
    (l.requeue i envs).registered = l.registered := rfl

@[simp] theorem nextId_requeue (l : JobLife) (i : InvokerId) (envs : List Word) :
    (l.requeue i envs).nextId = l.nextId := rfl

@[simp] theorem marks_requeue (l : JobLife) (i : InvokerId) (envs : List Word) :
    (l.requeue i envs).marks j = l.marks j := rfl

@[simp] theorem job_enqueue (l : JobLife) (i : InvokerId) (env : Word) :
    (l.enqueue i env).job = l.job := rfl

@[simp] theorem queued_enqueue (l : JobLife) (i : InvokerId) (env : Word) :
    (l.enqueue i env).queued = Function.update l.queued i (l.queued i ++ [env]) := rfl

@[simp] theorem registered_enqueue (l : JobLife) (i : InvokerId) (env : Word) :
    (l.enqueue i env).registered = l.registered := rfl

@[simp] theorem nextId_enqueue (l : JobLife) (i : InvokerId) (env : Word) :
    (l.enqueue i env).nextId = l.nextId := rfl

@[simp] theorem marks_enqueue (l : JobLife) (i : InvokerId) (env : Word) :
    (l.enqueue i env).marks j = l.marks j := rfl

@[simp] theorem marks_mk (l : JobLife) (job : Option AsyncJob) (registered : Bool)
    (queued : InvokerId → List Word) (nextId : ℕ) :
    marks j { l with job, registered, queued, nextId } = l.marks j := rfl

/-- What is told of tasks that are discarded. -/
theorem filterMap_discarded (i : InvokerId) (subs : List Submission) :
    ((subs.map (Event.discarded i)).filter (Event.concernsJob j)).filterMap (Event.jobMark? j)
      = (subs.filterMap fun sub => sub.task.workOf? j).map fun _ => JobMark.lost := by
  induction subs with
  | nil => rfl
  | cons sub subs ih =>
    cases h : sub.task.workOf? j <;> simp_all [Event.concernsJob, Event.jobMark?]

/-! ### Stages -/

/-- A job is in a stage. -/
@[mk_iff]
structure Staged (j : HandleId) (stage : JobStage) (l : JobLife) (doing : Multiset Work) :
    Prop where
  queued : l.queued = stage.tasks
  doing : doing = stage.work
  absent : l.job = none → stage = .idle ∧ l.marks j = []
  accepted : (l.marks j).count .accepted = if stage = .idle then 0 else 1
  dispatched : ∀ job, l.job = some job → (job.dispatched = true ↔ stage ≠ .idle)
  started : .started ∈ l.marks j ↔ stage.hasStarted = true

theorem dispatch_eq_ok (h : job.dispatch = .ok job') :
    job.dispatched = false ∧ job'.dispatched = true := by
  unfold AsyncJob.dispatch at h
  grind

theorem cancel_eq_ok {changed : Bool} (h : job.cancel = .ok (job', changed)) :
    job' = { job with state := .cancelled } := by
  unfold AsyncJob.cancel at h
  obtain ⟨env, data, state, dispatched⟩ := job
  cases state <;> simp_all

/-- What is registered is a job. -/
theorem Run.exists_of_registered (h : Run j l doing) (hl : l.registered = true) :
    ∃ job, l.job = some job := by
  induction h with
  | unborn n => cases hl
  | @step l l' own own' kept hr hs ih =>
    cases hs with
    | aside | absent | start | discard => exact ih hl
    | displace | delete => cases hl
    | create | queue | cancel | finish => exact ⟨_, rfl⟩
    | ignore h | execute h | skipExecute h | complete h => exact ⟨_, h⟩

theorem Run.staged (h : Run j l doing) : ∃ stage, Staged j stage l doing := by
  induction h with
  | unborn n =>
    exact ⟨.idle, rfl, rfl, fun _ => ⟨rfl, rfl⟩, rfl, nofun, ⟨nofun, nofun⟩⟩
  | @step l l' own own' kept hr hs ih =>
    obtain ⟨stage, ih⟩ := ih
    rw [staged_iff] at ih
    obtain ⟨hqueued, hdoing, habsent, haccepted, hdispatched, hstarted⟩ := ih
    cases hs with
    | aside own hn | displace own hn hout =>
      exact ⟨stage, hqueued, hdoing, habsent, haccepted, hdispatched, hstarted⟩
    | absent own hl =>
      obtain ⟨rfl, -⟩ := habsent hl
      have hnil : own = [] ∧ kept = 0 := by simpa [JobStage.work] using hdoing
      obtain ⟨rfl, rfl⟩ := hnil
      exact ⟨.idle, hqueued, hdoing, habsent, haccepted, hdispatched, hstarted⟩
    | create env data hl hn =>
      obtain ⟨rfl, -⟩ := habsent hl
      exact ⟨.idle, hqueued, hdoing, by simp, haccepted, by simp, hstarted⟩
    | @queue job job' i sub env hl hjob hsub =>
      obtain ⟨hold, hnew⟩ := dispatch_eq_ok hjob
      obtain rfl : stage = .idle := by
        by_contra hne
        have := (hdispatched job hl).2 hne
        simp [hold] at this
      refine ⟨.queued i env, ?_, hdoing, by simp, ?_, by simp [hnew], ?_⟩
      · simp [hqueued, JobStage.tasks]
      · simp [haccepted, Event.jobMark?, hsub, Task.workOf?]
      · simpa [Event.jobMark?, hsub, Task.workOf?, JobStage.hasStarted] using hstarted
    | @cancel job job' changed hl hjob =>
      obtain rfl := cancel_eq_ok hjob
      refine ⟨stage, hqueued, hdoing, by simp, ?_, ?_, ?_⟩
      · simpa [Event.jobMark?] using haccepted
      · simpa using hdispatched job hl
      · simpa [Event.jobMark?] using hstarted
    | delete hregistered =>
      obtain ⟨job, hl⟩ := hr.exists_of_registered hregistered
      refine ⟨stage, hqueued, hdoing, by simp [hl], ?_, ?_, ?_⟩
      · simpa [Event.jobMark?] using haccepted
      · simpa [hl, AsyncJob.delete] using hdispatched job hl
      · simpa [Event.jobMark?] using hstarted
    | @start i env rest hq =>
      rw [hqueued] at hq
      obtain ⟨rfl, rfl⟩ := JobStage.eq_queued hq
      refine ⟨.starting env, ?_, ?_, fun hl => by simpa using habsent hl, by simpa using haccepted,
        by simpa using hdispatched, by simpa [JobStage.hasStarted] using hstarted⟩
      · simp [hqueued, JobStage.tasks]
      · have hkept : kept = 0 := by simpa [JobStage.work] using hdoing
        simp [hkept, JobStage.work]
    | @discard i rest subs hsubs =>
      rw [hqueued] at hsubs
      have htold := filterMap_discarded (j := j) i subs
      generalize subs.filterMap (fun sub => sub.task.workOf? j) = lost at hsubs htold
      rcases JobStage.eq_of_discarded hsubs with ⟨hrest, rfl⟩ | ⟨env, rfl, rfl, rfl⟩
      · have hsame : Function.update l.queued i rest = l.queued := by
          rw [hqueued, ← hrest, Function.update_eq_self]
        refine ⟨stage, ?_, hdoing, ?_, ?_, hdispatched, ?_⟩
        · rw [queued_tell, queued_requeue, hsame, hqueued]
        all_goals rw [marks_tell, marks_requeue, htold, List.map_nil, List.append_nil]
        · exact habsent
        · exact haccepted
        · exact hstarted
      · refine ⟨.lost, ?_, hdoing, fun hl => ?_, ?_, by simpa using hdispatched, ?_⟩
        · simp [hqueued, JobStage.tasks]
        · simpa using habsent hl
        · simpa [htold] using haccepted
        · simpa [htold, JobStage.hasStarted] using hstarted
    | @ignore job env hl hgone =>
      obtain ⟨rfl, hwork⟩ := JobStage.eq_of_work hdoing
      obtain rfl := JobStage.eq_starting hwork
      refine ⟨.done, hqueued, rfl, by simp [hl], ?_, ?_, ?_⟩
      · simpa [Event.jobMark?] using haccepted
      · simpa using hdispatched
      · simp [Event.jobMark?, JobStage.hasStarted]
    | @execute job env hl hstate =>
      obtain ⟨rfl, hwork⟩ := JobStage.eq_of_work hdoing
      obtain rfl := JobStage.eq_starting hwork
      refine ⟨.executing env, hqueued, rfl, by simp [hl], ?_, ?_, ?_⟩
      · simpa [Event.jobMark?] using haccepted
      · simpa using hdispatched
      · simp [Event.jobMark?, JobStage.hasStarted]
    | @skipExecute job env hl hstate hdeleted =>
      obtain ⟨rfl, hwork⟩ := JobStage.eq_of_work hdoing
      obtain rfl := JobStage.eq_starting hwork
      refine ⟨.completing, hqueued, rfl, by simp [hl], ?_, ?_, ?_⟩
      · simpa [Event.jobMark?] using haccepted
      · simpa using hdispatched
      · simp [Event.jobMark?, JobStage.hasStarted]
    | @complete job env hl =>
      obtain ⟨rfl, hwork⟩ := JobStage.eq_of_work hdoing
      obtain rfl := JobStage.eq_executing hwork
      refine ⟨.completing, hqueued, rfl, by simp [hl], ?_, ?_, ?_⟩
      · simpa [Event.jobMark?] using haccepted
      · simpa using hdispatched
      · simpa [Event.jobMark?, JobStage.hasStarted] using hstarted
    | @finish job hl =>
      obtain ⟨rfl, hwork⟩ := JobStage.eq_of_work hdoing
      obtain rfl := JobStage.eq_completing hwork
      refine ⟨.done, hqueued, rfl, by simp, haccepted, ?_, ?_⟩
      · simpa [AsyncJob.finish] using hdispatched job hl
      · simpa [JobStage.hasStarted] using hstarted

end JobLife

end AddonHost
