import AddonHost.Proofs.Session.Follows

/-!
What operations do to the life of a job.

As for a threadsafe function, the equations below read a chain of operations off as a change of the
job's life, from the last operation on.
-/

namespace AddonHost

namespace JobLife

@[simp] theorem tell_nil (l : JobLife) : l.tell [] = l := by
  simp [tell]

@[simp] theorem tell_tell (l : JobLife) (es es' : List Event) :
    (l.tell es).tell es' = l.tell (es ++ es') := by
  simp [tell]

end JobLife

namespace Session

variable {s s' : Session} {j : HandleId} {i : InvokerId}

/-- What does not concern a job changes its life in nothing but the ids that are left. -/
theorem jobLife_of_follows {quiet : Topic → Prop} (h : Follows quiet s s') (hj : quiet (.job j)) :
    s'.jobLife j = { s.jobLife j with nextId := s'.ids.next } := by
  obtain ⟨hobject, hregistered, hwork, htold⟩ := View.job.inj (h.same _ hj)
  simp only [jobLife, hobject, hregistered, hwork, htold]

@[simp] theorem jobLife_emit (s : Session) (e : Event) (j : HandleId) :
    (s.emit e).jobLife j = (s.jobLife j).tell ([e].filter (Event.concernsJob j)) := by
  simp only [jobLife, JobLife.tell, toldOfJob_emit]
  rfl

@[simp] theorem jobLife_log (s : Session) (level : Log.Level) (text : String) (j : HandleId) :
    (s.log level text).jobLife j = s.jobLife j := by
  have h : Unconcerned s (s.log level text) := by simp
  have hids : (s.log level text).ids = s.ids := by
    simp only [log]
    split_ifs <;> rfl
  rw [jobLife_of_follows h trivial, hids]
  rfl

@[simp] theorem jobLife_signal (s : Session) (completion : Option Nat) (j : HandleId) :
    (s.signal completion).jobLife j = s.jobLife j := by
  unfold signal
  split <;> rfl

@[simp] theorem jobLife_fire (s : Session) (key : ScriptKey) (j : HandleId) :
    (s.fire key).2.jobLife j = s.jobLife j := by
  unfold fire
  split <;> rfl

/-- A job becomes another. -/
theorem jobLife_modifyJob {job : AsyncJob} (hj : s.jobs.object? j = some job)
    (g : AsyncJob → AsyncJob) : (s.modifyJob j g).jobLife j = (s.jobLife j).become (g job) := by
  simp only [jobLife, modifyJob, JobLife.become, Registry.object?_modify, hj]
  rfl

theorem workOf_eq {inv : Invoker} (hi : s.invokers.get? i = some inv) :
    s.workOf j i = inv.workOf j := by
  simp [workOf, hi]

/-- The queue of an invoker changes. -/
theorem jobLife_modifyInvoker {inv : Invoker} (hi : s.invokers.get? i = some inv)
    (g : Invoker → Invoker) :
    (s.modifyInvoker i g).jobLife j = (s.jobLife j).requeue i ((g inv).workOf j) := by
  have hwork : (s.modifyInvoker i g).workOf j
      = Function.update (s.workOf j) i ((g inv).workOf j) := by
    funext k
    rw [workOf_modifyInvoker, Function.update_apply]
    rcases eq_or_ne i k with rfl | hne
    · simp [hi]
    · rw [if_neg hne, if_neg hne.symm]
  simp only [jobLife, JobLife.requeue, hwork]
  rfl

theorem jobLife_modifyInvoker_of_queue (i : InvokerId) {g : Invoker → Invoker}
    (hg : ∀ inv, (g inv).queue = inv.queue) : (s.modifyInvoker i g).jobLife j = s.jobLife j :=
  jobLife_of_follows
    (show Unconcerned s (s.modifyInvoker i g) by simp [follows_modifyInvoker_of_queue i hg]) trivial

/-- The task of a job is queued. -/
theorem jobLife_enqueue {inv : Invoker} (hi : s.invokers.get? i = some inv) (env : Word)
    (completion : Option Nat) (inv' : Invoker) :
    (s.enqueue i inv' (.work j env) completion).jobLife j
      = ((s.jobLife j).enqueue i env).tell
          [.queued i (inv'.queue.submission (.work j env) completion)] := by
  have hwork : (inv.withQueue (inv.queue.push (.work j env) completion)).workOf j
      = (s.jobLife j).queued i ++ [env] := by
    have hqueued : (s.jobLife j).queued i = inv.workOf j := workOf_eq hi
    rw [hqueued]
    simp [Invoker.workOf, TaskQueue.submission, Task.workOf?]
  simp [enqueue, jobLife_modifyInvoker hi, hwork, JobLife.enqueue, Event.concernsJob,
    TaskQueue.submission, Task.workOf?]

/-- A job's task for which nobody waits is handed back, or queued. -/
theorem jobLife_of_offer {t : ThreadId} {env : Word} {o : Offer}
    (h : s.offer t i false (.work j env) = (o, s')) :
    o = .handedBack ∧ s'.jobLife j = s.jobLife j ∨
      o = .accepted ∧ ∃ sub : Submission, sub.task = .work j env ∧
        s'.jobLife j = ((s.jobLife j).enqueue i env).tell [.queued i sub] := by
  unfold offer at h
  split at h
  · obtain ⟨rfl, rfl⟩ := Prod.mk.inj h
    exact .inl ⟨rfl, rfl⟩
  · next inv hi =>
    split at h
    · have hcount := jobLife_modifyInvoker_of_queue (s := s) (j := j) i
        (g := (·.mapManual fun m => { m with offered := m.offered + 1 }))
        (Invoker.queue_mapManual · fun _ => rfl)
      have hi' := get?_modifyInvoker hi (·.mapManual fun m => { m with offered := m.offered + 1 })
      simp only [Bool.not_false, ↓reduceIte] at h
      split at h
      · obtain ⟨rfl, rfl⟩ := Prod.mk.inj h
        exact .inl ⟨rfl, hcount⟩
      · obtain ⟨rfl, rfl⟩ := Prod.mk.inj h
        refine .inr ⟨rfl, _, ?_, by rw [jobLife_enqueue hi', hcount]⟩
        rfl
    · simp only [Bool.not_false, ↓reduceIte] at h
      split at h
      · obtain ⟨rfl, rfl⟩ := Prod.mk.inj h
        exact .inl ⟨rfl, by simp⟩
      · obtain ⟨rfl, rfl⟩ := Prod.mk.inj h
        refine .inr ⟨rfl, _, ?_, by rw [jobLife_enqueue hi]⟩
        rfl

end Session

end AddonHost
