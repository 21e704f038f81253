import AddonHost.Proofs.Job.Trace
import AddonHost.Proofs.Session.Simulation

/-!
The callbacks of a job.

`Reachable.callbacks` says what a job calls in the course of a run, whatever is done to it and
wherever that is done, its own callbacks included:

* an invoker takes its task at most once, and a task that was taken starts at most once;
* it calls nothing, or the complete step alone with the status `cancelled`, or the execute step and
  then the complete step with the status `ok`; only while a thread is in the execute step is the
  complete step missing;
* what was done to it before its task started decides which, and what is done later changes nothing.

`queueJob_tells`, `cancelJob_tells` and `deleteJob_tells` tie what the journal tells of a job to the
outcomes of the operations.
-/

namespace AddonHost

open JobMark (expected)

namespace Session

variable {s : Session} {j : HandleId}

/-- What the journal tells of a job. -/
def jobMarks (s : Session) (j : HandleId) : List JobMark := s.history.filterMap (Event.jobMark? j)

/-- The callbacks of a job that were called, in the order of time. -/
def jobCalls (s : Session) (j : HandleId) : List JobCall := JobMark.calls (s.jobMarks j)

/-- Whether a thread is in the execute step of a job. -/
def IsExecuting (s : Session) (j : HandleId) : Prop :=
  ∃ p ∈ s.threads, ∃ env, Frame.executed j env ∈ p.2.stack

@[simp] theorem marks_jobLife (s : Session) (j : HandleId) :
    (s.jobLife j).marks j = s.jobMarks j := by
  rw [jobMarks, JobLife.marks, jobLife, toldOfJob, List.filterMap_filter]
  congr 1
  funext e
  by_cases he : e.concernsJob j = true
  · rw [if_pos he]
  · rw [if_neg he, Event.jobMark?_eq_none (by simpa using he)]

theorem mem_worksOf {l : List (ThreadId × Thread)} {w : Work} :
    w ∈ worksOf j l ↔ ∃ p ∈ l, w ∈ p.2.works j := by
  induction l with
  | nil => simp [worksOf]
  | cons p l ih => simp [worksOf_cons, ih]

theorem inExecute_iff : JobLife.InExecute (s.worksFor j) ↔ s.IsExecuting j := by
  have hmem (th : Thread) (env : Word) :
      Work.executing env ∈ th.works j ↔ Frame.executed j env ∈ th.stack := by
    have hcontrol : Work.executing env ∉ th.control.works j := by
      obtain ⟨control, stack⟩ := th
      cases control with
      | run c =>
        cases c with
        | task i task => cases task <;> simp [Control.works, Code.works]
        | _ => simp [Control.works, Code.works]
      | _ => simp [Control.works]
    rw [Thread.works, List.mem_append, or_iff_right hcontrol, List.mem_flatMap]
    constructor
    · rintro ⟨fr, hfr, hw⟩
      cases fr <;> simp_all [Frame.works]
    · intro hfr
      exact ⟨_, hfr, by simp [Frame.works]⟩
  constructor
  · rintro ⟨env, henv⟩
    obtain ⟨p, hp, hw⟩ := mem_worksOf.1 henv
    exact ⟨p, hp, env, (hmem p.2 env).1 hw⟩
  · rintro ⟨p, hp, env, hfr⟩
    exact ⟨env, mem_worksOf.2 ⟨p, hp, (hmem p.2 env).2 hfr⟩⟩

/-! ### What operations tell of a job -/

/-- An operation on a session tells something of a job exactly if it has succeeded. -/
def Tells (j : HandleId) (mark : JobMark) (s : Session) (p : Outcome × Session) : Prop :=
  p.2.jobMarks j = s.jobMarks j ++ if p.1 = .ok () then [mark] else []

theorem queueJob_tells (s : Session) (t : ThreadId) (j : HandleId) (env : Word) :
    Tells j .accepted s (s.queueJob t j env) := by
  unfold queueJob
  split
  · simp [Tells]
  · next job hj =>
    split
    · simp [Tells, ← marks_jobLife]
    · next i inv hlive =>
      split
      · simp [Tells]
      · next job' hdispatch =>
        obtain ⟨o, s', hoffer⟩ : ∃ o s',
            (s.modifyJob j fun _ => job').offer t i false (.work j env) = (o, s') := ⟨_, _, rfl⟩
        have hlife := jobLife_modifyJob hj fun _ => job'
        rw [hoffer]
        rcases jobLife_of_offer (j := j) hoffer with ⟨rfl, hlife'⟩ | ⟨rfl, sub, hsub, hlife'⟩
        · have hj' : s'.jobs.object? j = some job' := by
            rw [hlife] at hlife'
            exact congrArg JobLife.job hlife'
          simp [Tells, ← marks_jobLife, jobLife_modifyJob hj', hlife', hlife]
        · simp [Tells, ← marks_jobLife, hlife', hlife, Event.jobMark?, hsub, Task.workOf?]

theorem cancelJob_tells (s : Session) (j : HandleId) :
    Tells j .cancelled s (s.cancelJob j) := by
  unfold cancelJob
  split
  · simp [Tells]
  · next job hj =>
    split
    · simp [Tells]
    · simp [Tells, ← marks_jobLife, Event.concernsJob, Event.jobMark?]
    · simp [Tells, ← marks_jobLife, jobLife_modifyJob hj, Event.concernsJob, Event.jobMark?]

theorem deleteJob_tells (s : Session) {h j : HandleId} (hj : s.jobs.find? h = some j) :
    Tells j .deleted s (s.deleteJob h) := by
  have hmarks : (({ s with jobs := s.jobs.erase j } : Session).modifyJob j
      AsyncJob.delete).jobMarks j = s.jobMarks j := rfl
  simp [deleteJob, hj, Tells, ← marks_jobLife, Event.concernsJob, Event.jobMark?] at hmarks ⊢
  exact hmarks

/-! ### The callbacks -/

/-- What a job calls in the course of a run. -/
theorem Reachable.callbacks (h : s.Reachable) (j : HandleId) :
    (s.jobMarks j).count .started ≤ (s.jobMarks j).count .accepted ∧
      (s.jobMarks j).count .accepted ≤ 1 ∧
      (s.jobCalls j = [] ∨ s.jobCalls j = [.complete .cancelled] ∨
        s.jobCalls j = [.execute, .complete .ok] ∨
        s.jobCalls j = [.execute] ∧ s.IsExecuting j) ∧
      (∀ before after, s.jobMarks j = before ++ .started :: after →
        s.jobCalls j <+: expected before) ∧
      (s.ids.next ≤ 2 ^ 64 →
        (∀ before after, s.jobMarks j = before ++ .started :: after → ¬s.IsExecuting j →
          s.jobCalls j = expected before) ∧
        (s.jobCalls j ≠ [] ↔
          ∃ before after, s.jobMarks j = before ++ .started :: after ∧ .deleted ∉ before) ∧
        (s.jobCalls j = [.complete .cancelled] ↔
          ∃ before after, s.jobMarks j = before ++ .started :: after ∧ .deleted ∉ before ∧
            .cancelled ∈ before)) := by
  have hrun := h.jobRun j
  have hcount := hrun.count_started_le
  rw [marks_jobLife] at hcount
  -- once the task has started, what was told before the start decides the callbacks
  have hstarted : ∀ before after, s.jobMarks j = before ++ .started :: after →
      s.IsExecuting j ∧ expected before = [.execute, .complete .ok] ∧ s.jobCalls j = [.execute] ∨
        ¬s.IsExecuting j ∧ (s.jobCalls j = expected before ∨
          s.jobCalls j = [] ∧ 2 ^ 64 < s.ids.next) := by
    intro before after hmarks
    rw [← marks_jobLife] at hmarks
    rw [← inExecute_iff, jobCalls, ← marks_jobLife]
    exact hrun.calls_of_started hmarks
  -- and before that there are none
  have hwaiting : .started ∉ s.jobMarks j → s.jobCalls j = [] := by
    intro hnot
    rw [← marks_jobLife] at hnot
    rw [jobCalls, ← marks_jobLife]
    exact (hrun.calls_of_not_started hnot).1
  have hsplit : s.jobCalls j ≠ [] →
      ∃ before after, s.jobMarks j = before ++ .started :: after := by
    intro hcalls
    by_contra hnone
    exact hcalls (hwaiting fun hmem => hnone (List.append_of_mem hmem))
  refine ⟨hcount.1, hcount.2, ?_, fun before after hmarks => ?_, fun hids => ?_⟩
  · by_cases hcalls : s.jobCalls j = []
    · exact .inl hcalls
    · obtain ⟨before, after, hmarks⟩ := hsplit hcalls
      rcases hstarted before after hmarks with ⟨hexec, -, hone⟩ | ⟨-, hall | ⟨hnil, -⟩⟩
      · exact .inr (.inr (.inr ⟨hone, hexec⟩))
      · have := JobMark.expected_cases before
        rw [← hall] at this
        tauto
      · exact absurd hnil hcalls
  · rcases hstarted before after hmarks with ⟨-, hexpected, hone⟩ | ⟨-, hall | ⟨hnil, -⟩⟩
    · rw [hexpected, hone]
      exact ⟨[.complete .ok], rfl⟩
    · rw [hall]
    · rw [hnil]
      exact List.nil_prefix
  · have hall : ∀ before after, s.jobMarks j = before ++ .started :: after →
        s.IsExecuting j ∧ expected before = [.execute, .complete .ok] ∧
            s.jobCalls j = [.execute] ∨
          ¬s.IsExecuting j ∧ s.jobCalls j = expected before := by
      intro before after hmarks
      exact (hstarted before after hmarks).imp_right fun ⟨hnot, h⟩ =>
        ⟨hnot, h.resolve_right fun h => absurd h.2 (not_lt.2 hids)⟩
    refine ⟨fun before after hmarks hnot => ?_, ⟨fun hcalls => ?_, ?_⟩, fun hcalls => ?_, ?_⟩
    · exact ((hall before after hmarks).resolve_left fun h => hnot h.1).2
    · obtain ⟨before, after, hmarks⟩ := hsplit hcalls
      refine ⟨before, after, hmarks, ?_⟩
      rw [← JobMark.expected_eq_nil_iff]
      rcases hall before after hmarks with ⟨-, hexpected, -⟩ | ⟨-, hsame⟩
      · simp [hexpected]
      · rwa [← hsame]
    · rintro ⟨before, after, hmarks, hdeleted⟩
      rw [← JobMark.expected_eq_nil_iff] at hdeleted
      rcases hall before after hmarks with ⟨-, -, hone⟩ | ⟨-, hsame⟩
      · simp [hone]
      · rwa [hsame]
    · obtain ⟨before, after, hmarks⟩ := hsplit (by simp [hcalls])
      refine ⟨before, after, hmarks, ?_⟩
      rw [← JobMark.expected_eq_cancelled_iff]
      rcases hall before after hmarks with ⟨-, -, hone⟩ | ⟨-, hsame⟩
      · simp [hone] at hcalls
      · rwa [← hsame]
    · rintro ⟨before, after, hmarks, hdeleted, hcancelled⟩
      have hexpected := JobMark.expected_eq_cancelled_iff.2 ⟨hdeleted, hcancelled⟩
      rcases hall before after hmarks with ⟨-, hboth, -⟩ | ⟨-, hsame⟩
      · simp [hexpected] at hboth
      · rwa [hsame]

/-- A session in which a job is cancelled and queued again by its own execute step, and deleted by
its complete step. -/
def cancelledInExecute : Session :=
  ((start [] none).performed?
    [.createInvoker "queue" .unlimited,
      .bind (.word 1) "queue",
      .createJob "job" (.word 1) (.word 5) true,
      .script (.execute (.word 5))
        [.cancelJob (.named "job") true, .queueJob (.named "job") (.word 1) true],
      .script (.complete (.word 5)) [.cancelJob (.named "job") false, .deleteJob (.named "job")],
      .queueJob (.named "job") (.word 1) false,
      .pump "queue" (.drained 0)]).get (by decide +kernel)

theorem callbacks_cancelledInExecute :
    cancelledInExecute.jobMarks ⟨1⟩
        = [.accepted, .started, .called .execute, .cancelled, .called (.complete .ok), .cancelled,
          .deleted] ∧
      cancelledInExecute.jobCalls ⟨1⟩ = [.execute, .complete .ok] := by
  have hreachable : cancelledInExecute.Reachable :=
    (Reachable.start [] none).performed? (Option.some_get _).symm
  have hmarks : cancelledInExecute.jobMarks ⟨1⟩
      = [.accepted, .started, .called .execute, .cancelled, .called (.complete .ok), .cancelled,
        .deleted] := by
    decide +kernel
  obtain ⟨-, -, -, -, hall⟩ := hreachable.callbacks ⟨1⟩
  obtain ⟨hexpected, -, -⟩ := hall (by decide +kernel)
  refine ⟨hmarks, hexpected [.accepted] _ hmarks ?_⟩
  rintro ⟨p, hp, env, hfr⟩
  have hidle : ∀ p ∈ cancelledInExecute.threads, p.2.stack.length = 0 := by decide +kernel
  simp [List.length_eq_zero_iff.1 (hidle p hp)] at hfr

end Session

end AddonHost
