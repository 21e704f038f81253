import AddonHost.Proofs.Callbacks
import AddonHost.Proofs.Session.Onward

/-!
The envs of a job.

Two envs travel with a job.  The one that it was created with stays in the job, and its execute step
gets that one.  The one that it was queued with chooses the invoker and travels in the task, and its
complete step gets that one (`Run.served`).  An invoker takes the task of a job once at most, so a
job has one env of each kind, and its callbacks get the same env exactly if it was queued with the
env that it was created with (`Reachable.jobEnvs`).  The data of both callbacks are the job's.
-/

namespace AddonHost

/-- The env that a job was queued with, when an invoker takes its task. -/
def Event.queuedWith? (j : HandleId) : Event → Option Word
  | queued _ sub => sub.task.workOf? j
  | _ => none

/-- The env and the data of an execute step, when it is called. -/
def Event.executedWith? (j : HandleId) : Event → Option (Word × Word)
  | execute k env data => if k = j then some (env, data) else none
  | _ => none

/-- The env and the data of a complete step, when it is called. -/
def Event.completedWith? (j : HandleId) : Event → Option (Word × Word)
  | complete k env _ data => if k = j then some (env, data) else none
  | _ => none

theorem Event.executedWith?_eq_some {j : HandleId} {e : Event} {p : Word × Word} :
    e.executedWith? j = some p ↔ e = .execute j p.1 p.2 := by
  cases e <;> simp [executedWith?]
  grind

theorem Event.completedWith?_eq_some {j : HandleId} {e : Event} {p : Word × Word} :
    e.completedWith? j = some p ↔ ∃ status, e = .complete j p.1 status p.2 := by
  cases e <;> simp [completedWith?]
  grind

theorem Event.queuedWith?_eq_none {j : HandleId} {e : Event} (h : e.concernsJob j = false) :
    e.queuedWith? j = none := by
  cases e <;> simp_all [concernsJob, queuedWith?]

namespace AsyncJob

variable {job job' : AsyncJob}

/-- What a job was created with. -/
def origin (job : AsyncJob) : Word × Word := (job.env, job.data)

theorem origin_dispatch (h : job.dispatch = .ok job') : job'.origin = job.origin := by
  unfold dispatch at h
  split at h
  · split at h
    · cases h
    · cases h
      rfl
  · split at h
    · cases h
    · cases h
      rfl
  · cases h

theorem origin_cancel {changed : Bool} (h : job.cancel = .ok (job', changed)) :
    job'.origin = job.origin := by
  rw [JobLife.cancel_eq_ok h]
  rfl

end AsyncJob

namespace JobLife

variable {j : HandleId} {l l' : JobLife} {doing : Multiset Work} {own own' : List Work}
  {p : Word × Word}

/-- What the job was created with, if there is a job. -/
def origin (l : JobLife) : Option (Word × Word) := l.job.map AsyncJob.origin

/-- The envs that the job was queued with. -/
def queuedWith (j : HandleId) (l : JobLife) : List Word := l.told.filterMap (Event.queuedWith? j)

theorem origin_eq_some {job : AsyncJob} (h : l.job = some job) : l.origin = some job.origin := by
  rw [origin, h]
  rfl

/-- A job keeps what it was created with. -/
theorem Step.origin (h : Step j l own l' own') (hl : l.origin = some p) : l'.origin = some p := by
  cases h with
  | create env data hnone => simp [JobLife.origin, hnone] at hl
  | queue i hjob hdispatch =>
    rw [origin_eq_some hjob] at hl
    rw [← hl, ← AsyncJob.origin_dispatch hdispatch]
    rfl
  | cancel hjob hcancel =>
    rw [origin_eq_some hjob] at hl
    rw [← hl, ← AsyncJob.origin_cancel hcancel]
    rfl
  | delete hregistered =>
    rw [← hl, JobLife.origin, JobLife.origin, job_tell, Option.map_map]
    rfl
  | finish hjob =>
    rw [origin_eq_some hjob] at hl
    exact hl
  | _ => exact hl

/-- Where the envs come from that the callbacks of a job get, and the tasks that may get to them. -/
structure Served (j : HandleId) (l : JobLife) (doing : Multiset Work) : Prop where
  execute : ∀ env data, .execute j env data ∈ l.told → l.origin = some (env, data)
  complete : ∀ env status data, .complete j env status data ∈ l.told →
    env ∈ l.queuedWith j ∧ l.origin.map Prod.snd = some data
  queued : ∀ i, ∀ env ∈ l.queued i, env ∈ l.queuedWith j
  starting : ∀ env, .starting env ∈ doing → env ∈ l.queuedWith j
  executing : ∀ env, .executing env ∈ doing → env ∈ l.queuedWith j

@[simp] theorem queuedWith_tell (l : JobLife) (es : List Event) :
    (l.tell es).queuedWith j = l.queuedWith j ++ es.filterMap (Event.queuedWith? j) :=
  List.filterMap_append

/-- Nothing is served that the events of a step and the job do not account for. -/
theorem Served.step {doing' : Multiset Work} {es : List Event} (h : Served j l doing)
    (hstep : Step j l own l' own') (htold : l'.told = l.told ++ es)
    (hexecute : ∀ env data, .execute j env data ∈ es → l'.origin = some (env, data))
    (hcomplete : ∀ env status data, .complete j env status data ∈ es →
      env ∈ l'.queuedWith j ∧ l'.origin.map Prod.snd = some data)
    (hqueued : ∀ i, ∀ env ∈ l'.queued i, env ∈ l.queued i ∨ env ∈ l'.queuedWith j)
    (hstarting : ∀ env, .starting env ∈ doing' → .starting env ∈ doing ∨ env ∈ l'.queuedWith j)
    (hexecuting : ∀ env, .executing env ∈ doing' →
      .executing env ∈ doing ∨ env ∈ l'.queuedWith j) : Served j l' doing' := by
  have hkept (env : Word) (henv : env ∈ l.queuedWith j) : env ∈ l'.queuedWith j := by
    rw [queuedWith, htold, List.filterMap_append]
    exact List.mem_append_left _ henv
  refine ⟨fun env data hmem => ?_, fun env status data hmem => ?_, fun i env henv => ?_,
    fun env henv => ?_, fun env henv => ?_⟩
  · rw [htold, List.mem_append] at hmem
    rcases hmem with hmem | hmem
    · exact hstep.origin (h.execute env data hmem)
    · exact hexecute env data hmem
  · rw [htold, List.mem_append] at hmem
    rcases hmem with hmem | hmem
    · obtain ⟨henv, hdata⟩ := h.complete env status data hmem
      obtain ⟨p, hp, rfl⟩ := Option.map_eq_some_iff.1 hdata
      exact ⟨hkept env henv, by rw [hstep.origin hp]; rfl⟩
    · exact hcomplete env status data hmem
  · exact (hqueued i env henv).elim (fun hold => hkept env (h.queued i env hold)) id
  · exact (hstarting env henv).elim (fun hold => hkept env (h.starting env hold)) id
  · exact (hexecuting env henv).elim (fun hold => hkept env (h.executing env hold)) id

theorem Run.served (h : Run j l doing) : Served j l doing := by
  induction h with
  | unborn n => exact ⟨nofun, nofun, nofun, nofun, nofun⟩
  | @step l l' own own' kept hr hs ih =>
    have hstep := hs
    cases hs with
    | aside own hn | displace own hn hout | create env data hl hn =>
      exact ih.step hstep (List.append_nil _).symm nofun nofun (fun _ _ => .inl)
        (fun _ => .inl) fun _ => .inl
    | absent own hl =>
      exact ih.step hstep (List.append_nil _).symm nofun nofun (fun _ _ => .inl)
        (fun _ henv => .inl (by simp_all)) fun _ henv => .inl (by simp_all)
    | @queue job job' i sub env hl hjob hsub =>
      refine ih.step hstep rfl (by simp) (by simp) (fun i' env' henv' => ?_) (fun _ => .inl)
        fun _ => .inl
      rw [queued_tell, queued_enqueue, queued_become, Function.update_apply] at henv'
      split at henv'
      · next heq =>
        subst heq
        rcases List.mem_append.1 henv' with hold | hnew
        · exact .inl hold
        · obtain rfl := List.mem_singleton.1 hnew
          exact .inr (by simp [Event.queuedWith?, hsub, Task.workOf?])
      · exact .inl henv'
    | cancel hl hcancel =>
      exact ih.step hstep rfl (by simp) (by simp) (fun _ _ => .inl) (fun _ => .inl) fun _ => .inl
    | delete hregistered =>
      exact ih.step hstep rfl (by simp) (by simp) (fun _ _ => .inl) (fun _ => .inl) fun _ => .inl
    | @start i env rest hq =>
      have henv : env ∈ l.queuedWith j := ih.queued i env (by simp [hq])
      refine ih.step hstep (List.append_nil _).symm nofun nofun
        (fun i' env' henv' => .inl ?_) (fun env' henv' => ?_) fun _ henv' => .inl (by simp_all)
      · rw [queued_requeue, Function.update_apply] at henv'
        split at henv'
        · next heq =>
          rw [heq, hq]
          exact List.mem_cons_of_mem _ henv'
        · exact henv'
      · rcases Multiset.mem_add.1 henv' with hnew | hold
        · obtain rfl : env' = env := by simpa using hnew
          exact .inr henv
        · exact .inl (by simpa using hold)
    | @discard i rest subs hsubs =>
      refine ih.step hstep rfl (by simp) (by simp) (fun i' env henv => .inl ?_) (fun _ => .inl)
        fun _ => .inl
      rw [queued_tell, queued_requeue, Function.update_apply] at henv
      split at henv
      · next heq =>
        rw [heq]
        exact hsubs.subset (List.mem_append_left _ henv)
      · exact henv
    | ignore hl hgone =>
      exact ih.step hstep rfl (by simp) (by simp) (fun _ _ => .inl)
        (fun _ henv => .inl (by simp_all)) fun _ henv => .inl (by simp_all)
    | @execute job env hl hstate =>
      have henv : env ∈ l.queuedWith j := ih.starting env (by simp)
      refine ih.step hstep rfl (fun env' data hmem => ?_) (by simp) (fun _ _ => .inl)
        (fun _ henv' => .inl (by simp_all)) fun env' henv' => ?_
      · obtain ⟨rfl, rfl⟩ : env' = job.env ∧ data = job.data := by simpa using hmem
        exact origin_eq_some hl
      · rcases Multiset.mem_add.1 henv' with hnew | hold
        · obtain rfl : env' = env := by simpa using hnew
          exact .inr (by simp [henv])
        · exact .inl (by simp [hold])
    | @skipExecute job env hl hqueued hdeleted =>
      have henv : env ∈ l.queuedWith j := ih.starting env (by simp)
      refine ih.step hstep rfl (by simp) (fun env' status data hmem => ?_) (fun _ _ => .inl)
        (fun _ henv' => .inl (by simp_all)) fun _ henv' => .inl (by simp_all)
      obtain ⟨rfl, -, rfl⟩ : env' = env ∧ status = .cancelled ∧ data = job.data := by
        simpa using hmem
      exact ⟨by simp [henv], congrArg (Option.map Prod.snd) (origin_eq_some hl)⟩
    | @complete job env hl =>
      have henv : env ∈ l.queuedWith j := ih.executing env (by simp)
      refine ih.step hstep rfl (by simp) (fun env' status data hmem => ?_) (fun _ _ => .inl)
        (fun _ henv' => .inl (by simp_all)) fun _ henv' => .inl (by simp_all)
      obtain ⟨rfl, -, rfl⟩ : env' = env ∧ status = .ok ∧ data = job.data := by simpa using hmem
      exact ⟨by simp [henv], congrArg (Option.map Prod.snd) (origin_eq_some hl)⟩
    | finish hl =>
      exact ih.step hstep (List.append_nil _).symm nofun nofun (fun _ _ => .inl)
        (fun _ henv => .inl (by simp_all)) fun _ henv => .inl (by simp_all)

/-- An invoker takes the task of a job at most once. -/
theorem Run.length_queuedWith_le (h : Run j l doing) : (l.queuedWith j).length ≤ 1 := by
  have hcount : (l.marks j).count .accepted = (l.queuedWith j).length := by
    rw [marks, queuedWith]
    induction l.told with
    | nil => rfl
    | cons e es ih =>
      have hmark : e.jobMark? j = some .accepted ↔ (e.queuedWith? j).isSome = true := by
        cases e with
        | queued i sub =>
          cases h : sub.task.workOf? j <;> simp [Event.jobMark?, Event.queuedWith?, h]
        | discarded i sub => simp [Event.jobMark?, Event.queuedWith?]
        | _ => simp [Event.jobMark?, Event.queuedWith?]
      cases hqueued : e.queuedWith? j <;> cases hm : e.jobMark? j <;> simp_all
  exact hcount ▸ h.count_started_le.2

/-- The env that the complete step gets is the one that the job was queued with. -/
theorem Run.queuedWith_eq (h : Run j l doing) {env : Word} (henv : env ∈ l.queuedWith j) :
    l.queuedWith j = [env] := by
  have hle := h.length_queuedWith_le
  obtain ⟨env', hone⟩ := List.length_eq_one_iff.1 (le_antisymm hle (List.length_pos_of_mem henv))
  rw [hone] at henv ⊢
  rw [List.mem_singleton.1 henv]

end JobLife

namespace Session

variable {s s' : Session} {t : ThreadId} {j : HandleId} {job : AsyncJob}

/-- The envs that a job was queued with. -/
def queuedWith (s : Session) (j : HandleId) : List Word :=
  s.history.filterMap (Event.queuedWith? j)

/-- What the execute step of a job was called with. -/
def executedWith (s : Session) (j : HandleId) : List (Word × Word) :=
  s.history.filterMap (Event.executedWith? j)

/-- What the complete step of a job was called with. -/
def completedWith (s : Session) (j : HandleId) : List (Word × Word) :=
  s.history.filterMap (Event.completedWith? j)

@[simp] theorem queuedWith_jobLife (s : Session) (j : HandleId) :
    (s.jobLife j).queuedWith j = s.queuedWith j := by
  rw [queuedWith, JobLife.queuedWith, jobLife, toldOfJob, List.filterMap_filter]
  congr 1
  funext e
  by_cases he : e.concernsJob j = true
  · rw [if_pos he]
  · rw [if_neg he, Event.queuedWith?_eq_none (by simpa using he)]

/-- What a job is created with. -/
theorem object?_createJob (s : Session) (env data : Word) :
    (s.createJob env data).2.jobs.object? (s.createJob env data).1
      = some { env := env, data := data } := by
  have hlog (s : Session) (level : Log.Level) (text : String) (j : HandleId) :
      (s.log level text).jobs.object? j = s.jobs.object? j :=
    congrArg JobLife.job (jobLife_log s level text j)
  rw [createJob, hlog]
  simp [freshId]

theorem Onward.origin (ho : s.Onward s') (h : s.Reachable) {p : Word × Word}
    (hp : (s.jobLife j).origin = some p) : (s'.jobLife j).origin = some p := by
  induction ho with
  | refl => exact hp
  | act a _ _ ih => exact ih
  | @step u u' t hu _ hstep ih =>
    obtain ⟨th, below, m, own, works, ht⟩ := (h.onward hu).sound.exists_taken hstep
    have hlife : u'.jobLife j = m.session.jobLife j := by
      rw [ht.result]
      rfl
    rw [hlife]
    exact (ht.does.work j).origin ih
  | @lose u i position _ ih => exact (loseTask_jobStep j i position).origin ih

/-- Which envs and data the callbacks of a job get in the course of a run. -/
theorem Reachable.jobEnvs (h : s.Reachable) (hjob : s.jobs.object? j = some job)
    (ho : s.Onward s') :
    (∃ job', s'.jobs.object? j = some job' ∧ job'.origin = job.origin) ∧
      (∀ p ∈ s'.executedWith j, p = (job.env, job.data)) ∧
      (∀ p ∈ s'.completedWith j, p.2 = job.data ∧ s'.queuedWith j = [p.1]) := by
  have horigin : (s'.jobLife j).origin = some (job.env, job.data) :=
    ho.origin h (JobLife.origin_eq_some hjob)
  have hrun := (h.onward ho).jobRun j
  have htold {e : Event} (he : e ∈ s'.history) (hj : e.concernsJob j = true) :
      e ∈ (s'.jobLife j).told := List.mem_filter.2 ⟨he, hj⟩
  refine ⟨Option.map_eq_some_iff.1 horigin, fun p hp => ?_, fun p hp => ?_⟩
  · obtain ⟨e, he, hep⟩ := List.mem_filterMap.1 hp
    obtain rfl := Event.executedWith?_eq_some.1 hep
    have hexecute := hrun.served.execute _ _ (htold he (by simp [Event.concernsJob]))
    exact Option.some.inj (hexecute.symm.trans horigin)
  · obtain ⟨e, he, hep⟩ := List.mem_filterMap.1 hp
    obtain ⟨status, rfl⟩ := Event.completedWith?_eq_some.1 hep
    obtain ⟨hqueued, hdata⟩ :=
      hrun.served.complete _ _ _ (htold he (by simp [Event.concernsJob]))
    rw [horigin] at hdata
    exact ⟨(Option.some.inj hdata).symm, queuedWith_jobLife s' j ▸ hrun.queuedWith_eq hqueued⟩

/-- A job was created with one env and is about to be queued with another; both are bound. -/
def boundTwice : Session :=
  ((start [] none).performed?
    [.createInvoker "queue" .unlimited,
      .bind (.word 1) "queue",
      .bind (.word 2) "queue",
      .createJob "job" (.word 1) (.word 5) true]).get (by decide +kernel)

/-- The job was queued, and has run. -/
def queuedElsewhere : Session :=
  (boundTwice.performed? [.queueJob (.named "job") (.word 2) false, .pump "queue" .one]).get
    (by decide +kernel)

/-- The execute step got the env that the job was created with, and the complete step the one that
it was queued with. -/
theorem jobEnvs_queuedElsewhere :
    queuedElsewhere.executedWith ⟨1⟩ = [(1, 5)] ∧ queuedElsewhere.completedWith ⟨1⟩ = [(2, 5)] ∧
      (∀ p ∈ queuedElsewhere.executedWith ⟨1⟩, p = (1, 5)) ∧
      queuedElsewhere.queuedWith ⟨1⟩ = [2] := by
  have hreachable : boundTwice.Reachable :=
    (Reachable.start [] none).performed? (Option.some_get _).symm
  have hjob : boundTwice.jobs.object? ⟨1⟩ = some { env := 1, data := 5 } := by decide +kernel
  have honward : boundTwice.Onward queuedElsewhere :=
    Onward.refl.performed? (Option.some_get _).symm
  have hcompleted : queuedElsewhere.completedWith ⟨1⟩ = [(2, 5)] := by decide +kernel
  obtain ⟨-, hexecute, hcomplete⟩ := hreachable.jobEnvs hjob honward
  exact ⟨by decide +kernel, hcompleted, hexecute, (hcomplete (2, 5) (by simp [hcompleted])).2⟩

end Session

end AddonHost
