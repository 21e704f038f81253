import Mathlib
import AddonHost.Session.History

/-!
The life of one job.

As `Life` is to a threadsafe function, so `JobLife` is to a job: what a session shows of it, apart
from what threads are in the middle of doing for it (`Work`).  `JobLife.Step` says what one step of
a thread can do to a job, and `JobLife.Run` what a run can.  Nothing is said about who steps: a job
may be cancelled, deleted and queued again while its task runs, by its own callbacks too.
-/

namespace AddonHost

/-- The env that the task of a job was queued with, if a task is the job's. -/
def Task.workOf? (j : HandleId) : Task → Option Word
  | .work k env => if k = j then some env else none
  | _ => none

theorem Task.workOf?_eq_some {j : HandleId} {env : Word} {task : Task} :
    task.workOf? j = some env ↔ task = .work j env := by
  cases task <;> simp [workOf?]

/-- Whether an event is about a job. -/
def Event.concernsJob (j : HandleId) : Event → Bool
  | execute k .. | complete k .. | jobCancelled k | jobDeleted k | workStarted k => k = j
  | queued _ sub | discarded _ sub => (sub.task.workOf? j).isSome
  | log .. | callJs .. | finalize .. | engine .. | engineRegister .. | engineFatal .. | clientTask
  | did .. | functionCalled _ | appended .. | taken .. | drainOffered .. | drainStarted _
  | acquired .. | released .. | aborted _ | closed _ | teardownOffered .. | teardownStarted _
  | finalizerCalled _ | teardownEnded _ | started .. | ended .. | failed .. | ranInline _ => false

/-- What a thread is in the middle of doing for a job. -/
inductive Work where
  /-- About to run the task that was queued with an env. -/
  | starting (env : Word)
  /-- In the task, with the execute step on its way. -/
  | executing (env : Word)
  /-- In the task, with the complete step on its way. -/
  | completing
  deriving DecidableEq

/-- What a session shows of one job. -/
structure JobLife where
  job : Option AsyncJob
  registered : Bool
  /-- The envs of its tasks in the queue of each invoker. -/
  queued : InvokerId → List Word
  /-- The events about it, in the order of time. -/
  told : List Event
  /-- The number that the next handle id takes. -/
  nextId : ℕ

namespace JobLife

/-- Nothing has been heard of the job. -/
def unborn (nextId : ℕ) : JobLife where
  job := none
  registered := false
  queued _ := []
  told := []
  nextId := nextId

/-- The job becomes another. -/
def become (l : JobLife) (job : AsyncJob) : JobLife := { l with job := some job }

/-- Events are told. -/
def tell (l : JobLife) (es : List Event) : JobLife := { l with told := l.told ++ es }

/-- The queue of an invoker becomes another. -/
def requeue (l : JobLife) (i : InvokerId) (envs : List Word) : JobLife :=
  { l with queued := Function.update l.queued i envs }

/-- A task is appended to the queue of an invoker. -/
def enqueue (l : JobLife) (i : InvokerId) (env : Word) : JobLife :=
  l.requeue i (l.queued i ++ [env])

variable (j : HandleId)

/-- What one step of a thread does to the life of a job: the work that it gives up is on the left,
and that which it takes on is on the right. -/
inductive Step : JobLife → List Work → JobLife → List Work → Prop where
  /-- Something else happens. -/
  | aside {l : JobLife} (own : List Work) {n : ℕ} (hn : l.nextId ≤ n) :
    Step l own { l with nextId := n } own
  /-- Another object takes the job's place in the registry; there are enough handles for 2 ^ 64
  objects. -/
  | displace {l : JobLife} (own : List Work) {n : ℕ} (hn : l.nextId ≤ n) (hout : 2 ^ 64 < n) :
    Step l own { l with registered := false, nextId := n } own
  /-- A thread has something to do for a job that does not exist. -/
  | absent {l : JobLife} (own : List Work) (hl : l.job = none) : Step l own l []
  /-- The job is created. -/
  | create {l : JobLife} {n : ℕ} (env data : Word) (hl : l.job = none) (hn : l.nextId ≤ n) :
    Step l [] { l.become { env := env, data := data } with registered := true, nextId := n } []
  /-- The job is queued. -/
  | queue {l : JobLife} {job job' : AsyncJob} (i : InvokerId) {sub : Submission} {env : Word}
      (hl : l.job = some job) (hjob : job.dispatch = .ok job') (hsub : sub.task = .work j env) :
    Step l [] (((l.become job').enqueue i env).tell [.queued i sub]) []
  /-- The job is cancelled, or was so before. -/
  | cancel {l : JobLife} {job job' : AsyncJob} {changed : Bool} (hl : l.job = some job)
      (hjob : job.cancel = .ok (job', changed)) :
    Step l [] ((l.become job').tell [.jobCancelled j]) []
  /-- The job is deleted. -/
  | delete {l : JobLife} (hregistered : l.registered = true) :
    Step l []
      ({ l with job := l.job.map AsyncJob.delete, registered := false }.tell [.jobDeleted j]) []
  /-- The job's task is taken off the queue of an invoker. -/
  | start {l : JobLife} (i : InvokerId) {env : Word} {rest : List Word}
      (hq : l.queued i = env :: rest) : Step l [] (l.requeue i rest) [.starting env]
  /-- Tasks in the queue of an invoker are discarded. -/
  | discard {l : JobLife} (i : InvokerId) {rest : List Word} {subs : List Submission}
      (hsubs : (rest ++ subs.filterMap fun sub => sub.task.workOf? j).Perm (l.queued i)) :
    Step l []
      ((l.requeue i rest).tell ((subs.map (Event.discarded i)).filter (Event.concernsJob j))) []
  /-- The task finds that the job is gone. -/
  | ignore {l : JobLife} {job : AsyncJob} {env : Word} (hl : l.job = some job)
      (hgone : l.registered = false ∨ job.state = .deleted) :
    Step l [.starting env] (l.tell [.workStarted j]) []
  /-- The task calls the execute step. -/
  | execute {l : JobLife} {job : AsyncJob} {env : Word} (hl : l.job = some job)
      (hstate : job.state = .queued) :
    Step l [.starting env] (l.tell [.workStarted j, .execute j job.env job.data]) [.executing env]
  /-- The task skips the execute step and calls the complete step. -/
  | skipExecute {l : JobLife} {job : AsyncJob} {env : Word} (hl : l.job = some job)
      (hqueued : job.state ≠ .queued) (hdeleted : job.state ≠ .deleted) :
    Step l [.starting env] (l.tell [.workStarted j, .complete j env .cancelled job.data])
      [.completing]
  /-- The execute step has returned: the task calls the complete step. -/
  | complete {l : JobLife} {job : AsyncJob} {env : Word} (hl : l.job = some job) :
    Step l [.executing env] (l.tell [.complete j env .ok job.data]) [.completing]
  /-- The complete step has returned. -/
  | finish {l : JobLife} {job : AsyncJob} (hl : l.job = some job) :
    Step l [.completing] (l.become job.finish) []

/-- What a run makes of a job, with all that threads are in the middle of doing for it. -/
inductive Run : JobLife → Multiset Work → Prop where
  | unborn (n : ℕ) : Run (.unborn n) 0
  | step {l l' : JobLife} {own own' : List Work} {kept : Multiset Work} :
    Run l (own + kept) → Step j l own l' own' → Run l' (own' + kept)

end JobLife

end AddonHost
