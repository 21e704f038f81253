import AddonHost.Proofs.Handle.Value
import AddonHost.Proofs.Session.Does

/-!
The moves of a job.

Queueing, cancelling and deleting a job are steps of its life, and so are the beginning of its task
and what follows each of its two callbacks.  The proofs read the operation's session off as a change
of the job's life and name the step.
-/

namespace AddonHost

/-- A job that was queued and handed back is as it was. -/
theorem AsyncJob.retract_of_dispatch {job job' : AsyncJob} (h : job.dispatch = .ok job') :
    job'.retract = job := by
  obtain ⟨env, data, state, dispatched⟩ := job
  cases state <;> cases dispatched <;> simp [dispatch] at h <;> subst h <;> rfl

namespace Move

variable {s : Session} {t : ThreadId} {below : List Frame} {m : Move}

/-- What a move does that concerns one job. -/
theorem Does.of_job {works : HandleId → List Work} (hs : s.Sane) (k : HandleId)
    (h : Session.Follows (.job k ≠ ·) s m.session)
    (hg : Thread.Guarded { control := m.control, stack := m.frames ++ below })
    (hask : asksWell m.control m.frames = true)
    (hactivities : ∀ f, m.activities f t below = [])
    (hother : ∀ j, k ≠ j → works j = [] ∧ m.works j = [])
    (hself : JobLife.Step k (s.jobLife k) (works k) (m.session.jobLife k) (m.works k)) :
    m.Does s t below (fun _ => []) works := by
  refine .of_follows hs h hg hask (fun f => .inl ⟨by simp, (hactivities f).symm⟩) (fun j => ?_)
    (.inl (by simp))
  by_cases hj : k = j
  · subst hj
    exact .inr hself
  · exact .inl ⟨by simpa using hj, (hother j hj).1.trans (hother j hj).2.symm⟩

end Move

namespace Session

variable {s s' : Session} {t : ThreadId} {below : List Frame} {k : HandleId} {job : AsyncJob}
  {own : List Work}

/-- A reply after an operation on one job. -/
theorem give_does_job (hs : s.Sane) (hb : guarded below = true) (h : Follows (.job k ≠ ·) s s')
    (hstep : JobLife.Step k (s.jobLife k) own (s'.jobLife k) []) (r : Reply) :
    (s'.give r).Does s t below (fun _ => []) fun j => if k = j then own else [] :=
  .of_job hs k h ⟨fun hm => by simp [give, Control.mayFail] at hm, hb⟩ rfl (fun _ => rfl)
    (fun j hne => ⟨if_neg hne, rfl⟩) (by simpa using hstep)

/-- A callback after an operation on one job. -/
theorem script_does_job {actions : List Action} {fr : Frame} (hs : s.Sane)
    (hb : guarded (fr :: below) = true) (hask : fr.asks = false)
    (h : Follows (.job k ≠ ·) s s') (hactivities : ∀ f, fr.activities f below = [])
    (hother : ∀ j, k ≠ j → fr.works j = [])
    (hstep : JobLife.Step k (s.jobLife k) own (s'.jobLife k) (fr.works k)) :
    (s'.run (.script .callback actions) [fr]).Does s t below (fun _ => [])
      fun j => if k = j then own else [] := by
  refine .of_job hs k h ⟨fun hm => by simp [run, Control.mayFail] at hm, hb⟩
    (by simp [run, asksWell, hask]) (fun f => ?_) (fun j hne => ⟨if_neg hne, ?_⟩) ?_
  · simpa [Code.activities, framesOver] using hactivities f
  · simpa [Code.works] using hother j hne
  · simpa [Code.works] using hstep

/-! ### Queueing and cancelling -/

/-- What an operation does to one job: nothing to all else, and a step of the job's life in which no
work is given up or taken on. -/
structure ActsOn (k : HandleId) (s s' : Session) : Prop where
  follows : Follows (.job k ≠ ·) s s'
  step : JobLife.Step k (s.jobLife k) [] (s'.jobLife k) []

theorem ActsOn.refl (k : HandleId) (s : Session) : ActsOn k s s := ⟨.refl s, .aside [] le_rfl⟩

theorem ActsOn.does (h : ActsOn k s s') (hs : s.Sane) (hb : guarded below = true) (r : Reply) :
    (s'.give r).Does s t below fun _ => [] := by
  simpa using give_does_job hs hb h.follows h.step r

theorem queueJob_actsOn (t : ThreadId) (k : HandleId) (env : Word) :
    ActsOn k s (s.queueJob t k env).2 := by
  unfold queueJob
  split
  · exact .refl k s
  · next job hk =>
    split
    · exact ⟨by simp, by simpa using JobLife.Step.aside [] le_rfl⟩
    · next i inv hlive =>
      split
      · exact .refl k s
      · next job' hdispatch =>
        obtain ⟨o, s', hoffer⟩ : ∃ o s',
            (s.modifyJob k fun _ => job').offer t i false (.work k env) = (o, s') := ⟨_, _, rfl⟩
        have hl : (s.jobLife k).job = some job := hk
        have hfollows : Follows (.job k ≠ ·) s s' :=
          ((follows_modifyJob (by simp) _).2 (.refl s)).trans
            (.of_offer hoffer fun x hx => by simpa [Task.topic?] using hx)
        have hlife := jobLife_modifyJob hk fun _ => job'
        rw [hoffer]
        rcases jobLife_of_offer (j := k) hoffer with ⟨rfl, hlife'⟩ | ⟨rfl, sub, hsub, hlife'⟩
        · have hk' : s'.jobs.object? k = some job' := by
            rw [hlife] at hlife'
            exact congrArg JobLife.job hlife'
          refine ⟨by simpa [follows_modifyJob] using hfollows, ?_⟩
          have hsame : (s.jobLife k).become job = s.jobLife k := by simp [JobLife.become, ← hl]
          simp only [jobLife_log, jobLife_modifyJob hk', hlife', hlife,
            AsyncJob.retract_of_dispatch hdispatch]
          rw [show ((s.jobLife k).become job').become job = (s.jobLife k).become job from rfl, hsame]
          exact .aside [] le_rfl
        · refine ⟨hfollows, ?_⟩
          simp only [hlife', hlife]
          exact .queue i hl hdispatch hsub

theorem cancelJob_actsOn (k : HandleId) : ActsOn k s (s.cancelJob k).2 := by
  unfold cancelJob
  split
  · exact .refl k s
  · next job hk =>
    have hl : (s.jobLife k).job = some job := hk
    have habout : ∀ x, .job k ≠ x → ¬(Event.jobCancelled k).isAbout x := fun x hx => by
      simpa [Event.topic?] using hx
    split
    · exact .refl k s
    · next job' hcancel =>
      obtain rfl : job' = job := by
        unfold AsyncJob.cancel at hcancel
        grind
      have hstep := JobLife.Step.cancel (j := k) hl hcancel
      rw [show (s.jobLife k).become job' = s.jobLife k by simp [JobLife.become, ← hl]] at hstep
      exact ⟨(follows_emit habout).2 (.refl s), by simpa [Event.concernsJob] using hstep⟩
    · next job' hcancel =>
      refine ⟨?_, ?_⟩
      · rw [follows_log, follows_emit habout, follows_modifyJob (by simp)]
      · simpa [jobLife_modifyJob hk, Event.concernsJob] using
          JobLife.Step.cancel (j := k) hl hcancel

theorem queueJobById_does (hs : s.Sane) (hb : guarded below = true) (t' : ThreadId)
    (k : HandleId) (env : Word) (r : Reply) :
    ((s.queueJobById t' k env).2.give r).Does s t below fun _ => [] := by
  unfold queueJobById
  split
  · exact (ActsOn.refl k s).does hs hb r
  · exact (queueJob_actsOn ..).does hs hb r

theorem cancelJobById_does (hs : s.Sane) (hb : guarded below = true) (k : HandleId) (r : Reply) :
    ((s.cancelJobById k).2.give r).Does s t below fun _ => [] := by
  unfold cancelJobById
  split
  · exact (ActsOn.refl k s).does hs hb r
  · exact (cancelJob_actsOn _).does hs hb r

/-! ### Creating and deleting -/

/-- The life of a job when another object takes its handle, or may have taken it. -/
theorem displace_jobStep {j : HandleId} {registered : Bool} {n : ℕ} (hs : s.Sane) (hne : k ≠ j)
    (hn : s.ids.next ≤ n) (hk : k.number < n)
    (hreg : registered = (s.jobs.owns j && j.value != k.value)) :
    JobLife.Step j (s.jobLife j) [] { s.jobLife j with registered := registered, nextId := n } [] := by
  by_cases hgone : s.jobs.owns j = true ∧ j.value = k.value
  · obtain ⟨howns, hv⟩ := hgone
    obtain rfl : registered = false := by simp [hreg, hv]
    refine .displace [] hn ?_
    exact HandleId.lt_of_value_eq hne.symm hv ((hs.jobs (.inr howns)).2.trans_le hn) hk
  · obtain rfl : registered = s.jobs.owns j := by
      rw [hreg]
      by_cases howns : s.jobs.owns j = true
      · have hv : (j.value != k.value) = true := by simpa [howns] using hgone
        rw [hv, Bool.and_true]
      · simp [Bool.eq_false_iff.2 howns]
    exact .aside [] hn

/-- What creating a job is to another job. -/
theorem jobLife_createJob_of_ne {j : HandleId} (env data : Word)
    (hne : (⟨s.ids.next⟩ : HandleId) ≠ j) :
    (s.createJob env data).2.jobLife j
      = { s.jobLife j with
          registered := s.jobs.owns j && j.value != (⟨s.ids.next⟩ : HandleId).value
          nextId := s.ids.next + 1 } := by
  simp only [createJob, freshId, IdSource.take, jobLife_log]
  simp only [jobLife, Registry.owns_insert_of_ne _ hne, Registry.object?_insert, if_neg hne]
  rfl

/-- What erasing a job is to another job. -/
theorem jobLife_eraseJob_of_ne {j : HandleId} (hne : k ≠ j) :
    (({ s with jobs := s.jobs.erase k } : Session).modifyJob k AsyncJob.delete).jobLife j
      = { s.jobLife j with registered := s.jobs.owns j && j.value != k.value } := by
  have herased := Registry.owns_erase s.jobs k j
  simp only [Registry.owns] at herased
  simp only [jobLife, modifyJob, Registry.owns, Registry.object?_modify, Registry.ids_modify,
    if_neg hne, Registry.object?_erase, herased]
  rfl

theorem createJob_does (hs : s.Sane) (hb : guarded below = true) (env data : Word) {m : Move}
    (hm : m.Plain (s.createJob env data).2) : m.Does s t below fun _ => [] := by
  have hfresh : s.jobs.object? ⟨s.ids.next⟩ = none := by
    cases h : s.jobs.object? ⟨s.ids.next⟩ with
    | none => rfl
    | some job =>
      have hlt := (hs.jobs (j := ⟨s.ids.next⟩) (.inl (by simp [h]))).2
      exact absurd hlt (Nat.lt_irrefl _)
  have hn : s.ids.next ≤ m.session.ids.next := (Nat.le_succ _).trans (by
    simpa [createJob, freshId, IdSource.take] using hm.session.ids)
  have hlt : s.ids.next < m.session.ids.next := Nat.lt_of_succ_le (by
    simpa [createJob, freshId, IdSource.take] using hm.session.ids)
  have hfollows : Follows (fun x => ∀ j, x ≠ .job j) s (s.createJob env data).2 := by
    unfold createJob freshId
    simp only [IdSource.take, follows_log]
    exact (Follows.refl s).insertJob (by simp) _
  refine .of_follows hs (hfollows.trans (hm.session.weaken fun _ _ => trivial)) (hm.guarded hb)
    (asksWell_of_isPlain _ hm.frames) (fun f => .inl ⟨by simp, (hm.activities f t below).symm⟩)
    (fun j => .inr ?_) (.inl (by simp))
  rw [hm.works, jobLife_of_follows hm.session trivial]
  by_cases hne : (⟨s.ids.next⟩ : HandleId) = j
  · subst hne
    have hlife : (s.createJob env data).2.jobLife ⟨s.ids.next⟩
        = { (s.jobLife ⟨s.ids.next⟩).become { env := env, data := data } with
            registered := true
            nextId := s.ids.next + 1 } := by
      simp only [createJob, freshId, IdSource.take, jobLife_log]
      simp only [jobLife, Registry.owns_insert_self, Registry.object?_insert, ↓reduceIte]
      rfl
    rw [hlife]
    exact .create env data hfresh hn
  · rw [jobLife_createJob_of_ne env data hne]
    exact displace_jobStep hs hne hn hlt rfl

theorem deleteJob_does (hs : s.Sane) (hb : guarded below = true) (h : HandleId) (r : Reply) :
    ((s.deleteJob h).2.give r).Does s t below fun _ => [] := by
  unfold deleteJob
  split
  · exact (ActsOn.refl h s).does hs hb r
  · next k hfind =>
    have howns : s.jobs.owns k = true := by
      simpa [Registry.owns] using List.mem_of_find?_eq_some hfind
    have hfollows : Follows (fun x => ∀ j, x ≠ .job j) s
        (((({ s with jobs := s.jobs.erase k } : Session).modifyJob k AsyncJob.delete).emit
          (.jobDeleted k)).log .debug (jobText k ++ " deleted")) := by
      rw [follows_log, follows_emit fun x hx => by simpa [Event.topic?] using (hx k).symm,
        follows_modifyJob (by simp)]
      exact (Follows.refl s).eraseJob (by simp) k
    refine .of_follows hs hfollows ⟨?_, hb⟩ rfl (fun f => .inl ⟨by simp, rfl⟩) (fun j => .inr ?_)
      (.inl (by simp))
    · simp [give, Control.mayFail]
    · simp only [session_give, works_give, jobLife_log, jobLife_emit]
      by_cases hne : k = j
      · subst hne
        have hlife : (({ s with jobs := s.jobs.erase k } : Session).modifyJob k
            AsyncJob.delete).jobLife k
              = { s.jobLife k with
                  job := (s.jobLife k).job.map AsyncJob.delete
                  registered := false } := by
          have herased : (s.jobs.erase k).owns k = false := by simp [Registry.owns_erase]
          simp only [Registry.owns] at herased
          simp only [jobLife, modifyJob, Registry.owns, Registry.object?_modify, Registry.ids_modify,
            ↓reduceIte, Registry.object?_erase, herased]
          rfl
        rw [hlife]
        simpa [Event.concernsJob] using JobLife.Step.delete (j := k) howns
      · rw [jobLife_eraseJob_of_ne hne]
        have hstep := displace_jobStep hs hne le_rfl (hs.jobs (.inr howns)).2 rfl
        simpa [Event.concernsJob, hne, jobLife] using hstep

/-! ### The task -/

theorem completeJob_does (hs : s.Sane) (hb : guarded below = true) (env : Word) (status : Status)
    (h : Follows (.job k ≠ ·) s s')
    (hstep : JobLife.Step k (s.jobLife k) own
      ((s'.jobLife k).tell [.complete k env status job.data]) [.completing]) :
    (s'.completeJob k job env status).Does s t below (fun _ => [])
      fun j => if k = j then own else [] := by
  unfold completeJob
  simp only
  refine script_does_job hs (by simpa [guarded] using hb) rfl (.fire ?_ _) (fun _ => rfl)
    (fun j hne => by simp [Frame.works, hne]) ?_
  · rw [follows_emit fun x hx => by simpa [Event.topic?] using hx]
    exact h
  · simpa [Event.concernsJob, Frame.works] using hstep

theorem work_does (hs : s.Sane) (hb : guarded below = true) (env : Word) :
    (s.work k env).Does s t below (fun _ => [])
      fun j => if k = j then [.starting env] else [] := by
  unfold work
  split
  · next hk => exact give_does_job hs hb (.refl s) (.absent _ hk) _
  · next job hk =>
    have hl : (s.jobLife k).job = some job := hk
    have hfollows : Follows (.job k ≠ ·) s (s.emit (.workStarted k)) := by
      rw [follows_emit fun x hx => by simpa [Event.topic?] using hx]
    have hlife : (s.emit (.workStarted k)).jobLife k = (s.jobLife k).tell [.workStarted k] := by
      simp [Event.concernsJob]
    simp only
    split
    · next hheld =>
      have hgone : (s.jobLife k).registered = false := by
        simp only [holdsJob, Bool.not_eq_true', Bool.or_eq_false_iff] at hheld
        exact hheld.1
      refine give_does_job hs hb (by simpa using hfollows) ?_ _
      simpa [Event.concernsJob] using JobLife.Step.ignore (j := k) hl (.inl hgone)
    · split
      · next hstate =>
        refine give_does_job hs hb (by simpa using hfollows) ?_ _
        simpa [Event.concernsJob] using JobLife.Step.ignore (j := k) hl (.inr hstate)
      · next hstate =>
        refine script_does_job hs (by simpa [guarded] using hb) rfl (.fire ?_ _) (fun _ => rfl)
          (fun j hne => by simp [Frame.works, hne]) ?_
        · rw [follows_emit fun x hx => by simpa [Event.topic?] using hx]
          exact hfollows
        · simpa [Event.concernsJob, Frame.works] using JobLife.Step.execute (j := k) hl hstate
      · next hdeleted hqueued =>
        refine completeJob_does hs hb env .cancelled hfollows ?_
        rw [hlife, JobLife.tell_tell]
        exact .skipExecute hl hqueued hdeleted

theorem afterExecute_does (hs : s.Sane) (hb : guarded below = true) (env : Word) :
    (s.afterExecute k env).Does s t below (fun _ => [])
      fun j => if k = j then [.executing env] else [] := by
  unfold afterExecute
  split
  · next hk => exact give_does_job hs hb (.refl s) (.absent _ hk) _
  · next job hk =>
    have hl : (s.jobLife k).job = some job := hk
    exact completeJob_does hs hb env .ok (.refl s) (.complete hl)

theorem finishJob_does (hs : s.Sane) (hb : guarded below = true) :
    ((s.modifyJob k AsyncJob.finish).give .unit).Does s t below (fun _ => [])
      fun j => if k = j then [.completing] else [] := by
  have hfollows : Follows (.job k ≠ ·) s (s.modifyJob k AsyncJob.finish) := by
    simp [follows_modifyJob]
  cases hk : s.jobs.object? k with
  | none =>
    have hlife : (s.modifyJob k AsyncJob.finish).jobLife k = s.jobLife k := by
      simp only [jobLife, modifyJob, Registry.object?_modify, hk]
      rfl
    refine give_does_job hs hb hfollows ?_ _
    rw [hlife]
    exact .absent _ hk
  | some job =>
    refine give_does_job hs hb hfollows ?_ _
    rw [jobLife_modifyJob hk]
    exact .finish hk

end Session

end AddonHost
