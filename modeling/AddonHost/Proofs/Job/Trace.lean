import AddonHost.Proofs.Job.Ledger

/-!
The callbacks of a job.

What a job's task calls is decided when the task starts, by what was done to the job before
(`JobMark.expected`): nothing for a deleted job, the complete step alone for a cancelled one, and
both steps otherwise.  What is done to the job later changes nothing (`Run.traced`).
-/

namespace AddonHost

namespace JobMark

/-- The callback that was called. -/
def call? : JobMark → Option JobCall
  | called c => some c
  | accepted | lost | cancelled | deleted | started => none

/-- The callbacks that were called. -/
def calls (marks : List JobMark) : List JobCall := marks.filterMap call?

/-- What a task is to call that starts after some marks. -/
def expected (before : List JobMark) : List JobCall :=
  if .deleted ∈ before then []
  else if .cancelled ∈ before then [.complete .cancelled]
  else [.execute, .complete .ok]

@[simp] theorem call?_called (c : JobCall) : (called c).call? = some c := rfl

@[simp] theorem calls_nil : calls [] = [] := rfl

@[simp] theorem calls_append (marks marks' : List JobMark) :
    calls (marks ++ marks') = calls marks ++ calls marks' :=
  List.filterMap_append

theorem expected_eq_nil_iff {before : List JobMark} :
    expected before = [] ↔ .deleted ∈ before := by
  unfold expected
  split_ifs <;> simp_all

theorem expected_eq_cancelled_iff {before : List JobMark} :
    expected before = [.complete .cancelled] ↔ .deleted ∉ before ∧ .cancelled ∈ before := by
  unfold expected
  split_ifs <;> simp_all

theorem expected_cases (before : List JobMark) :
    expected before = [] ∨ expected before = [.complete .cancelled] ∨
      expected before = [.execute, .complete .ok] := by
  unfold expected
  split_ifs <;> simp

theorem calls_eq_nil {marks : List JobMark} (h : ∀ m ∈ marks, m.call? = none) :
    calls marks = [] :=
  List.filterMap_eq_nil_iff.2 h

end JobMark

open JobMark (calls expected)

namespace JobLife

variable {j : HandleId} {l l' : JobLife} {doing : Multiset Work} {own own' : List Work}
  {job job' : AsyncJob}

/-- The state of a job agrees with what was told of it, and the job is registered until it is
deleted, unless another object took its handle. -/
@[mk_iff]
structure Stated (j : HandleId) (l : JobLife) : Prop where
  deleted : ∀ job, l.job = some job → (job.state = .deleted ↔ .deleted ∈ l.marks j)
  waiting : ∀ job, l.job = some job → .started ∉ l.marks j →
    job.state ≠ .completed ∧ (job.dispatched = true → job.state ≠ .created) ∧
      (job.state = .cancelled ↔ .cancelled ∈ l.marks j ∧ .deleted ∉ l.marks j)
  registered : l.job ≠ none → .deleted ∉ l.marks j → l.nextId ≤ 2 ^ 64 → l.registered = true

/-- The task of a job that is in its complete step has started. -/
theorem Run.started_of_completing {kept : Multiset Work}
    (h : Run j l (([.completing] : List Work) + kept)) : .started ∈ l.marks j := by
  obtain ⟨stage, hstaged⟩ := h.staged
  obtain ⟨-, hwork⟩ := JobStage.eq_of_work hstaged.doing
  obtain rfl := JobStage.eq_completing hwork
  exact hstaged.started.2 rfl

/-- A job that can be queued is new or cancelled, and a cancelled one stays so. -/
theorem dispatch_state (h : job.dispatch = .ok job') :
    job.state = .created ∧ job'.state = .queued ∨
      job.state = .cancelled ∧ job'.state = .cancelled := by
  unfold AsyncJob.dispatch at h
  grind

theorem state_of_cancel {changed : Bool} (h : job.cancel = .ok (job', changed)) :
    job.state ≠ .completed ∧ job.state ≠ .deleted := by
  unfold AsyncJob.cancel at h
  grind

theorem Run.stated (h : Run j l doing) : Stated j l := by
  induction h with
  | unborn n => exact ⟨nofun, nofun, fun h => absurd rfl h⟩
  | @step l l' own own' kept hr hs ih =>
    rw [stated_iff] at ih ⊢
    obtain ⟨hdeleted, hwaiting, hregistered⟩ := ih
    cases hs with
    | aside own hn =>
      exact ⟨hdeleted, hwaiting, fun hl hm h => hregistered hl hm (hn.trans h)⟩
    | displace own hn hout =>
      exact ⟨hdeleted, hwaiting, fun _ _ h => absurd hout (not_lt.2 h)⟩
    | absent own hl | start i hq => exact ⟨hdeleted, hwaiting, hregistered⟩
    | create env data hl hn =>
      obtain ⟨stage, hstaged⟩ := hr.staged
      obtain ⟨-, hmarks⟩ := hstaged.absent hl
      simp [hmarks]
    | @queue job job' i sub env hl hjob hsub =>
      have hstate := dispatch_state hjob
      have hd := hdeleted job hl
      have hw := hwaiting job hl
      simp only [job_tell, job_enqueue, job_become, marks_tell, marks_enqueue, marks_become,
        List.filterMap_cons, List.filterMap_nil, Event.jobMark?, hsub, Task.workOf?, nextId_tell,
        nextId_enqueue, nextId_become, registered_tell, registered_enqueue, registered_become]
      grind
    | @cancel job job' changed hl hjob =>
      have hstate := state_of_cancel hjob
      obtain rfl := cancel_eq_ok hjob
      have hd := hdeleted job hl
      have hw := hwaiting job hl
      simp only [job_tell, job_become, marks_tell, marks_become, List.filterMap_cons,
        List.filterMap_nil, Event.jobMark?, nextId_tell, nextId_become, registered_tell,
        registered_become]
      grind
    | delete hregistered =>
      obtain ⟨job, hl⟩ := hr.exists_of_registered hregistered
      simp [hl, Event.jobMark?, AsyncJob.delete]
    | discard i hsubs =>
      have hmem (m : JobMark) (hm : m ≠ .lost) (envs : List Word) :
          m ∉ envs.map fun _ => JobMark.lost := by
        intro h
        obtain ⟨-, -, rfl⟩ := List.mem_map.1 h
        exact hm rfl
      simp only [job_tell, job_requeue, marks_tell, marks_requeue, filterMap_discarded,
        List.mem_append, hmem .deleted (by simp), hmem .started (by simp),
        hmem .cancelled (by simp), or_false]
      exact ⟨hdeleted, hwaiting, hregistered⟩
    | @finish job hl =>
      have hstarted := hr.started_of_completing
      have hd := hdeleted job hl
      simp only [job_become, marks_become, Option.some.injEq, forall_eq']
      refine ⟨?_, fun h => absurd hstarted h, fun _ => hregistered (by simp [hl])⟩
      rw [← hd, AsyncJob.finish]
      split <;> simp_all
    | _ => simp_all [Event.jobMark?]

/-- Whether a thread is in the middle of an execute step. -/
def InExecute (doing : Multiset Work) : Prop := ∃ env, Work.executing env ∈ doing

/-- The callbacks of a job are those that are expected. -/
@[mk_iff]
structure Traced (j : HandleId) (l : JobLife) (doing : Multiset Work) : Prop where
  waiting : .started ∉ l.marks j → calls (l.marks j) = []
  running : .started ∈ l.marks j → ∃ before after, l.marks j = before ++ .started :: after ∧
    .started ∉ before ∧ .started ∉ after ∧ calls before = [] ∧
      (InExecute doing ∧ expected before = [.execute, .complete .ok] ∧ calls after = [.execute] ∨
        ¬InExecute doing ∧
          (calls after = expected before ∨ calls after = [] ∧ 2 ^ 64 < l.nextId))

/-- Marks that call nothing, and tell of no start, leave the trace alone. -/
theorem Traced.append (h : Traced j l doing) {es : List Event} {job : Option AsyncJob}
    {registered : Bool} {queued : InvokerId → List Word}
    (hes : ∀ m ∈ es.filterMap (Event.jobMark? j), m ≠ .started ∧ m.call? = none) :
    Traced j ({ l with job, registered, queued }.tell es) doing := by
  have hstarted : .started ∉ es.filterMap (Event.jobMark? j) := fun hm => (hes _ hm).1 rfl
  have hcalls : calls (es.filterMap (Event.jobMark? j)) = [] :=
    JobMark.calls_eq_nil fun m hm => (hes m hm).2
  rw [traced_iff, marks_tell, marks_mk]
  rw [List.mem_append, or_iff_left hstarted]
  refine ⟨fun hnot => ?_, fun hmem => ?_⟩
  · rw [JobMark.calls_append, hcalls, h.waiting hnot, List.append_nil]
  · obtain ⟨before, after, hmarks, hbefore, hafter, hnone, htrace⟩ := h.running hmem
    refine ⟨before, after ++ es.filterMap (Event.jobMark? j), by simp [hmarks], hbefore,
      by simp [hafter, hstarted], hnone, ?_⟩
    simpa [hcalls] using htrace

/-- The task starts. -/
theorem Traced.start {l' : JobLife} (after : List JobMark) (h : Traced j l doing)
    (hstarted : .started ∉ l.marks j) (hmarks : l'.marks j = l.marks j ++ .started :: after)
    (hafter : .started ∉ after) {doing' : Multiset Work}
    (htrace : InExecute doing' ∧ expected (l.marks j) = [.execute, .complete .ok] ∧
        calls after = [.execute] ∨
      ¬InExecute doing' ∧
        (calls after = expected (l.marks j) ∨ calls after = [] ∧ 2 ^ 64 < l'.nextId)) :
    Traced j l' doing' :=
  ⟨fun hnot => absurd (by simp [hmarks]) hnot,
    fun _ => ⟨_, after, hmarks, hstarted, hafter, h.waiting hstarted, htrace⟩⟩

/-- A task that is about to run has not started, and its job is not idle. -/
theorem Run.of_starting {env : Word} {kept : Multiset Work}
    (h : Run j l (([.starting env] : List Work) + kept)) (hl : l.job = some job) :
    kept = 0 ∧ .started ∉ l.marks j ∧ job.dispatched = true := by
  obtain ⟨stage, hstaged⟩ := h.staged
  obtain ⟨hkept, hwork⟩ := JobStage.eq_of_work hstaged.doing
  obtain rfl := JobStage.eq_starting hwork
  refine ⟨hkept, ?_, (hstaged.dispatched job hl).2 (by simp)⟩
  rw [hstaged.started]
  simp [JobStage.hasStarted]

theorem Run.traced (h : Run j l doing) : Traced j l doing := by
  induction h with
  | unborn n => exact ⟨fun _ => rfl, nofun⟩
  | @step l l' own own' kept hr hs ih =>
    cases hs with
    | aside own hn | displace own hn hout =>
      refine ⟨ih.waiting, fun hm => ?_⟩
      obtain ⟨before, after, hmarks, hbefore, hafter, hnone, htrace⟩ := ih.running hm
      refine ⟨before, after, hmarks, hbefore, hafter, hnone, ?_⟩
      exact htrace.imp_right fun ⟨hnot, h⟩ =>
        ⟨hnot, h.imp_right fun ⟨hnil, hlt⟩ => ⟨hnil, hlt.trans_le hn⟩⟩
    | absent own hl =>
      obtain ⟨stage, hstaged⟩ := hr.staged
      obtain ⟨-, hmarks⟩ := hstaged.absent hl
      exact ⟨fun _ => by rw [hmarks]; rfl, by simp [hmarks]⟩
    | create env data hl hn =>
      obtain ⟨stage, hstaged⟩ := hr.staged
      obtain ⟨-, hmarks⟩ := hstaged.absent hl
      rw [traced_iff, marks_mk, marks_become, hmarks]
      exact ⟨fun _ => rfl, nofun⟩
    | queue i hl hjob hsub =>
      exact ih.append (by simp [Event.jobMark?, hsub, Task.workOf?, JobMark.call?])
    | cancel hl hjob => exact ih.append (by simp [Event.jobMark?, JobMark.call?])
    | delete hregistered => exact ih.append (by simp [Event.jobMark?, JobMark.call?])
    | discard i hsubs =>
      refine ih.append fun m hm => ?_
      rw [filterMap_discarded] at hm
      obtain ⟨-, -, rfl⟩ := List.mem_map.1 hm
      exact ⟨by simp, rfl⟩
    | @start i env rest hq =>
      have hnot : .started ∉ l.marks j := by
        obtain ⟨stage, hstaged⟩ := hr.staged
        rw [hstaged.queued] at hq
        obtain ⟨rfl, -⟩ := JobStage.eq_queued hq
        rw [hstaged.started]
        simp [JobStage.hasStarted]
      exact ⟨ih.waiting, fun hm => absurd hm hnot⟩
    | @ignore job env hl hgone =>
      obtain ⟨rfl, hnot, -⟩ := hr.of_starting hl
      refine ih.start [] hnot (by simp [Event.jobMark?]) (by simp) (.inr ⟨?_, ?_⟩)
      · simp [InExecute]
      · by_cases hdeleted : .deleted ∈ l.marks j
        · exact .inl (by simp [expected, hdeleted])
        · refine .inr ⟨rfl, lt_of_not_ge fun hids => hdeleted ?_⟩
          have hregistered := hr.stated.registered (by simp [hl]) hdeleted hids
          rw [hregistered] at hgone
          exact (hr.stated.deleted job hl).1 (by simpa using hgone)
    | @execute job env hl hstate =>
      obtain ⟨rfl, hnot, -⟩ := hr.of_starting hl
      have hdeleted : .deleted ∉ l.marks j := by
        rw [← hr.stated.deleted job hl, hstate]
        simp
      have hcancelled : .cancelled ∉ l.marks j := fun hc => by
        have := ((hr.stated.waiting job hl hnot).2.2).2 ⟨hc, hdeleted⟩
        simp [hstate] at this
      refine ih.start [.called .execute] hnot (by simp [Event.jobMark?]) (by simp)
        (.inl ⟨⟨env, by simp⟩, ?_, rfl⟩)
      simp [expected, hdeleted, hcancelled]
    | @skipExecute job env hl hqueued hstate =>
      obtain ⟨rfl, hnot, hdispatched⟩ := hr.of_starting hl
      obtain ⟨hcompleted, hcreated, hcancelled⟩ := hr.stated.waiting job hl hnot
      have hcancel : job.state = .cancelled := by
        have := hcreated hdispatched
        cases h : job.state <;> simp_all
      obtain ⟨hmem, hdeleted⟩ := hcancelled.1 hcancel
      refine ih.start [.called (.complete .cancelled)] hnot (by simp [Event.jobMark?])
        (by simp) (.inr ⟨by simp [InExecute], .inl ?_⟩)
      simp [expected, hdeleted, hmem, calls]
    | @complete job env hl =>
      obtain ⟨stage, hstaged⟩ := hr.staged
      obtain ⟨rfl, hwork⟩ := JobStage.eq_of_work hstaged.doing
      obtain rfl := JobStage.eq_executing hwork
      obtain ⟨before, after, hmarks, hbefore, hafter, hnone, htrace⟩ :=
        ih.running (hstaged.started.2 rfl)
      have hin : InExecute (([.executing env] : List Work) + 0 : Multiset Work) := ⟨env, by simp⟩
      obtain ⟨-, hexpected, hcalls⟩ := htrace.resolve_right fun h => h.1 hin
      have htold : (l.tell [.complete j env .ok job.data]).marks j
          = before ++ .started :: (after ++ [.called (.complete .ok)]) := by
        simp [hmarks, Event.jobMark?]
      refine ⟨fun hnot => absurd (by simp [htold]) hnot, fun _ => ⟨before, _, htold, hbefore,
        by simp [hafter], hnone, .inr ⟨by simp [InExecute], .inl ?_⟩⟩⟩
      rw [JobMark.calls_append, hcalls, hexpected]
      rfl
    | @finish job hl =>
      obtain ⟨stage, hstaged⟩ := hr.staged
      obtain ⟨rfl, hwork⟩ := JobStage.eq_of_work hstaged.doing
      refine ⟨ih.waiting, fun hm => ?_⟩
      obtain ⟨before, after, hmarks, hbefore, hafter, hnone, htrace⟩ := ih.running hm
      refine ⟨before, after, hmarks, hbefore, hafter, hnone, .inr ⟨by simp [InExecute], ?_⟩⟩
      have hout : ¬InExecute (([.completing] : List Work) + 0 : Multiset Work) := by
        simp [InExecute]
      exact (htrace.resolve_left fun h => hout h.1).2

/-- The callbacks of a job whose task has started: what was told before that decides them. -/
theorem Run.calls_of_started (h : Run j l doing) {before after : List JobMark}
    (hmarks : l.marks j = before ++ .started :: after) :
    InExecute doing ∧ expected before = [.execute, .complete .ok] ∧
        calls (l.marks j) = [.execute] ∨
      ¬InExecute doing ∧ (calls (l.marks j) = expected before ∨
        calls (l.marks j) = [] ∧ 2 ^ 64 < l.nextId) := by
  obtain ⟨before', after', hsplit, hbefore, hafter, hnone, htrace⟩ :=
    h.traced.running (by simp [hmarks])
  -- the task starts once, so there is one way to split what was told at its start
  have hsame : before' = before := by
    rw [hsplit] at hmarks
    exact ((List.append_cons_inj_of_notMem hbefore hafter).1 hmarks).1
  have hcalls : calls (l.marks j) = calls after' := by
    rw [hsplit, JobMark.calls_append, hnone]
    rfl
  rwa [hcalls, ← hsame]

/-- The callbacks of a job whose task has not started. -/
theorem Run.calls_of_not_started (h : Run j l doing) (hnot : .started ∉ l.marks j) :
    calls (l.marks j) = [] ∧ ¬InExecute doing := by
  refine ⟨h.traced.waiting hnot, ?_⟩
  rintro ⟨env, henv⟩
  obtain ⟨stage, hstaged⟩ := h.staged
  rw [hstaged.doing] at henv
  have hexecuting : stage.hasStarted = true := by
    cases stage <;> simp_all [JobStage.work, JobStage.hasStarted]
  exact hnot (hstaged.started.2 hexecuting)

/-- A task starts at most once, and only if an invoker has taken it. -/
theorem Run.count_started_le (h : Run j l doing) :
    (l.marks j).count .started ≤ (l.marks j).count .accepted ∧
      (l.marks j).count .accepted ≤ 1 := by
  obtain ⟨stage, hstaged⟩ := h.staged
  rw [hstaged.accepted]
  refine ⟨?_, by split <;> simp⟩
  by_cases hstarted : .started ∈ l.marks j
  · obtain ⟨before, after, hmarks, hbefore, hafter, -⟩ := h.traced.running hstarted
    have hidle : stage ≠ .idle := by
      rintro rfl
      simp [hstaged.started, JobStage.hasStarted] at hstarted
    simp [hmarks, hidle, List.count_eq_zero.2 hbefore, List.count_eq_zero.2 hafter]
  · rw [List.count_eq_zero.2 hstarted]
    exact Nat.zero_le _

end JobLife

end AddonHost
