import AddonHost.Proofs.Job.Moves
import AddonHost.Proofs.Routing

/-!
The jobs of several hosts.

All hosts share one registry of jobs, and the handle of a job passes through a multiplexer as it is.
The env of a call says which host gets the call, and on which invoker a job is queued; it does not
say which jobs the call may reach.  So a call of async work reaches the job whose handle it is
given, whoever created it, and no other job:

* `Calls.jobs_isolated`: a call through a wrapped env takes at most three steps, and none of them
  changes the state, the registration or the queued tasks of a job that the call does not name.

Nothing is said about what other threads do between the steps.
-/

namespace AddonHost

namespace Request

/-- The env of a call of async work. -/
def workEnv? : Request → Option Word
  | createAsyncWork env .. | deleteAsyncWork env _ | queueAsyncWork env _
  | cancelAsyncWork env _ => some env
  | _ => none

/-- The handle of the job that a call of async work is about. -/
def work? : Request → Option Word
  | deleteAsyncWork _ work | queueAsyncWork _ work | cancelAsyncWork _ work => some work
  | _ => none

variable {r : Request} {env raw : Word}

@[simp] theorem work?_withEnv (r : Request) (raw : Word) : (r.withEnv raw).work? = r.work? := by
  cases r <;> rfl

theorem workEnv?_withEnv (h : r.workEnv? = some env) : (r.withEnv raw).workEnv? = some raw := by
  cases r <;> first | rfl | simp [workEnv?] at h

/-- A call of async work is found by its env. -/
theorem route_of_workEnv? (h : r.workEnv? = some env) : r.route = .env env := by
  cases r <;> simp_all [workEnv?, route]

theorem lacksResult_of_workEnv? (h : r.workEnv? = some env) : r.lacksResult = false := by
  cases r <;> first | rfl | simp [workEnv?] at h

end Request

namespace Session

variable {s s' s'' : Session} {t : ThreadId} {r : Request} {below : List Frame} {j : HandleId}
  {env : Word} {named : Option Word}

/-! ### The same jobs -/

/-- A job is as it was: its state, whether it is registered, its tasks in the queues of invokers,
and what has been told of it. -/
structure SameJob (s s' : Session) (j : HandleId) : Prop where
  job : s'.jobs.object? j = s.jobs.object? j
  registered : s'.jobs.owns j = s.jobs.owns j
  queued : s'.workOf j = s.workOf j
  told : s'.toldOfJob j = s.toldOfJob j

/-- A job is as it was if nothing in its life has changed but the ids that are left. -/
theorem sameJob_of_jobLife {n : ℕ} (h : s'.jobLife j = { s.jobLife j with nextId := n }) :
    s.SameJob s' j :=
  ⟨congrArg JobLife.job h, congrArg JobLife.registered h, congrArg JobLife.queued h,
    congrArg JobLife.told h⟩

/-- All jobs that there are, but the named one, are as they were. -/
def SameBut (named : Option Word) (s s' : Session) : Prop :=
  ∀ j, (s.jobs.object? j).isSome → named ≠ some j.value → s.SameJob s' j

theorem sameBut_of_unconcerned (h : Unconcerned s s') : SameBut named s s' :=
  fun _ _ _ => sameJob_of_jobLife (jobLife_of_follows h trivial)

/-- The thread that has taken a step is no job. -/
theorem SameBut.apply {m : Move} (h : SameBut named s m.session) (t : ThreadId)
    (below : List Frame) : SameBut named s (apply m t below) := fun j hj hother =>
  have hsame := h j hj hother
  ⟨hsame.job, hsame.registered, hsame.queued, hsame.told⟩

/-! ### The runtime's entries -/

/-- An operation on the job behind a handle. -/
theorem sameBut_of_actsOn {k : HandleId} {work : Word} (hk : k.value = work)
    (h : ActsOn k s s') : SameBut (some work) s s' := by
  intro j _ hother
  have hne : Topic.job k ≠ .job j := by
    rintro ⟨⟩
    exact hother (congrArg some hk.symm)
  exact sameJob_of_jobLife (jobLife_of_follows h.follows hne)

theorem sameBut_queueJobById (t : ThreadId) (work env : Word) :
    SameBut (some work) s (s.queueJobById t ⟨work⟩ env).2 := by
  unfold queueJobById
  split
  · exact sameBut_of_unconcerned (.refl s)
  · next k job hentry =>
    obtain ⟨-, hk, -⟩ := Registry.entry?_eq_some hentry
    exact sameBut_of_actsOn (hk.trans (HandleId.value_toNat work)) (queueJob_actsOn t k env)

theorem sameBut_cancelJobById (work : Word) :
    SameBut (some work) s (s.cancelJobById ⟨work⟩).2 := by
  unfold cancelJobById
  split
  · exact sameBut_of_unconcerned (.refl s)
  · next k job hentry =>
    obtain ⟨-, hk, -⟩ := Registry.entry?_eq_some hentry
    exact sameBut_of_actsOn (hk.trans (HandleId.value_toNat work)) (cancelJob_actsOn k)

theorem sameBut_deleteJob (work : Word) : SameBut (some work) s (s.deleteJob ⟨work⟩).2 := by
  unfold deleteJob
  split
  · exact sameBut_of_unconcerned (.refl s)
  · next k hfind =>
    have hk : k.value = work := by
      simpa using List.find?_some hfind
    intro j _ hother
    have hvalue : j.value ≠ k.value := fun heq => hother (congrArg some (heq.trans hk).symm)
    have hne : k ≠ j := fun heq => hvalue (congrArg HandleId.value heq.symm)
    have hregistered : (s.jobs.owns j && j.value != k.value) = s.jobs.owns j := by simp [hvalue]
    have hnone : [Event.jobDeleted k].filter (Event.concernsJob j) = [] := by
      simp [Event.concernsJob, hne]
    have hlife := jobLife_eraseJob_of_ne (s := s) hne
    rw [hregistered] at hlife
    apply sameJob_of_jobLife (n := s.ids.next)
    rw [jobLife_log, jobLife_emit, hnone, JobLife.tell_nil, hlife]
    rfl

/-- A job is created under a fresh id, and takes no other job's place. -/
theorem sameBut_createJob (hs : s.Sane) (hids : s.ids.next < 2 ^ 64) (env data : Word) :
    SameBut named s (s.createJob env data).2 := by
  intro j hj _
  obtain ⟨-, hlt⟩ := hs.jobs (.inl hj)
  have hne : (⟨s.ids.next⟩ : HandleId) ≠ j := by
    rintro rfl
    exact Nat.lt_irrefl _ hlt
  have hvalue : j.value ≠ (⟨s.ids.next⟩ : HandleId).value :=
    fun heq => hne ((HandleId.value_inj (hlt.trans hids) hids).1 heq).symm
  have hlife := jobLife_createJob_of_ne env data hne
  have hregistered : (s.jobs.owns j && j.value != (⟨s.ids.next⟩ : HandleId).value)
      = s.jobs.owns j := by simp [hvalue]
  rw [hregistered] at hlife
  exact sameJob_of_jobLife hlife

/-- The runtime answers a call of async work at once. -/
theorem runtimeEntry_of_workEnv? (hs : s.Sane) (hids : s.ids.next < 2 ^ 64)
    (hwork : r.workEnv? = some env) :
    ∃ s' response, s.runtimeEntry t r = s'.give (.response response) ∧ SameBut r.work? s s' := by
  cases r with
  | createAsyncWork env resource resourceName execute complete data out =>
    simp only [runtimeEntry]
    split
    · exact ⟨s, _, rfl, sameBut_of_unconcerned (.refl s)⟩
    · exact ⟨_, _, rfl, sameBut_createJob hs hids env data⟩
  | deleteAsyncWork env work => exact ⟨_, _, rfl, sameBut_deleteJob work⟩
  | queueAsyncWork env work => exact ⟨_, _, rfl, sameBut_queueJobById t work env⟩
  | cancelAsyncWork env work => exact ⟨_, _, rfl, sameBut_cancelJobById work⟩
  | _ => simp [Request.workEnv?] at hwork

/-! ### Calls through a multiplexer -/

/-- A thread answers what it has been asked in `n` steps, whatever other threads do in between while
there are fresh handles, and each of the steps leaves all jobs but the named one as they were. -/
def AnswersApart (t : ThreadId) (below : List Frame) (named : Option Word) : ℕ → Session → Prop
  | 0, s => ∃ response,
    s.threads.get? t = some { control := .give (.response response), stack := below }
  | n + 1, s => ∃ s', s.step t = some s' ∧ SameBut named s s' ∧
    ∀ u : Session, u.Reachable → u.halted = false → u.ids.next < 2 ^ 64 →
      u.threads.get? t = s'.threads.get? t → AnswersApart t below named n u

/-- A call that reaches no host is answered in one step. -/
theorem answersApart_of_refuseRoute (h : s.Calls t r below) (problem : RouteProblem)
    (hforward : s.forward r = s.refuseRoute r.entry problem) : AnswersApart t below named 1 s := by
  have hstep := h.step
  rw [hforward] at hstep
  have hsame : SameBut named s (s.refuseRoute r.entry problem).session :=
    sameBut_of_unconcerned (by simp [refuseRoute, respond])
  exact ⟨_, hstep, hsame.apply t below,
    fun u _ _ _ hthread => ⟨_, hthread.trans (threads_apply _ t below)⟩⟩

theorem answersApart_of_forwarded {response : Response} {host : HostId}
    (hrunning : s.halted = false)
    (hthread : s.threads.get? t
      = some { control := .give (.response response), stack := .forwarded host :: below }) :
    AnswersApart t below named 1 s := by
  have hsame : SameBut named s (s.releaseHost host) := sameBut_of_unconcerned (by simp)
  exact ⟨_, step_give hrunning hthread, hsame.apply (m := give _ _) t below,
    fun u _ _ _ hthread' => ⟨response, hthread'.trans (threads_apply _ t below)⟩⟩

theorem answersApart_of_runtime (hs : s.Sane) (hids : s.ids.next < 2 ^ 64)
    (hwork : r.workEnv? = some env) {host : HostId} (hrunning : s.halted = false)
    (hthread : s.threads.get? t
      = some { control := .run (.entry .runtime r), stack := .forwarded host :: below }) :
    AnswersApart t below r.work? 2 s := by
  obtain ⟨s', response, hmove, hsame⟩ := runtimeEntry_of_workEnv? (t := t) hs hids hwork
  have hstep := step_run hrunning hthread (m := s'.give (.response response))
    (by rw [← hmove]; rfl)
  exact ⟨_, hstep, SameBut.apply hsame t _, fun u _ hu _ hthread' =>
    answersApart_of_forwarded hu (hthread'.trans (threads_apply _ t _))⟩

/-- A call of async work through a wrapped env leaves all jobs alone but the one that it names. -/
theorem Calls.jobs_isolated (hcall : s.Calls t r below) (hwork : r.workEnv? = some env)
    (hruntime : ∀ e table, s.wrapped.envs.get? ⟨env⟩ = some e → s.liveHost? e.host = some table →
      table.provider? r.entry = some .runtime) :
    ∃ n ≤ 3, AnswersApart t below r.work? n s := by
  have hforward := forward_of_lacksResult (s := s) (Request.lacksResult_of_workEnv? hwork)
  have hroute := Request.route_of_workEnv? hwork
  cases henv : s.wrapped.envs.get? ⟨env⟩ with
  | none =>
    refine ⟨1, by omega, answersApart_of_refuseRoute hcall (.unknownEnv env) ?_⟩
    simp only [hforward, route, hroute, findEnv, henv]
    rfl
  | some e =>
    cases hhost : s.liveHost? e.host with
    | none =>
      refine ⟨1, by omega, answersApart_of_refuseRoute hcall .hostGone ?_⟩
      simp only [hforward, route, hroute, findEnv, henv, hhost]
      rfl
    | some table =>
      have hmove : s.forward r
          = (s.keepHost e.host).run (.entry .runtime (r.withEnv e.raw)) [.forwarded e.host] := by
        have hdestination : s.route r
            = .ok { host := e.host, table := table, request := r.withEnv e.raw } := by
          simp only [route, hroute, findEnv, henv, hhost]
          rfl
        rw [hforward, hdestination]
        simp only [hruntime e table henv hhost]
        cases r <;> first | rfl | simp [Request.workEnv?] at hwork
      have hstep := hcall.step
      rw [hmove] at hstep
      have hsame : SameBut r.work? s (s.keepHost e.host) := sameBut_of_unconcerned (by simp)
      refine ⟨3, le_rfl, _, hstep, SameBut.apply hsame t below, fun u hu hrunning hids hthread => ?_⟩
      rw [← r.work?_withEnv e.raw]
      exact answersApart_of_runtime hu.sound.sane hids (Request.workEnv?_withEnv hwork) hrunning
        (hthread.trans (threads_apply _ t below))

/-- A session with a host for each of two wrapped envs, in which two jobs were created through the
left env and one of them is about to be deleted through the right one. -/
def crossed : Session :=
  ((start [] none).during?
    [.createHost "left host" 0 [] ["abi"],
      .createHost "right host" 1 [] ["abi"],
      .createMultiplexer "multiplexer" false false,
      .wrap "multiplexer" "left host" (.word 16) "left",
      .wrap "multiplexer" "right host" (.word 32) "right",
      .entry "multiplexer" .createAsyncWork
        { env := .named "left", execute := true, complete := true, data := .word 5,
          out := some "work" },
      .entry "multiplexer" .createAsyncWork
        { env := .named "left", execute := true, complete := true, data := .word 6,
          out := some "other work" }]
    (.entry "multiplexer" .deleteAsyncWork { env := .named "right", work := .named "work" })
    1).get (by decide +kernel)

/-- The call, and the frame of the action that makes it. -/
def crossedCall : Request × List Frame := (crossed.calling? .main).get (by decide +kernel)

theorem reachable_crossed : crossed.Reachable :=
  (Reachable.start [] none).during? (Option.some_get _).symm

theorem calls_crossed : crossed.Calls .main crossedCall.1 crossedCall.2 :=
  calls_of_calling? (by decide +kernel)
    (Option.some_get (by decide +kernel : (crossed.calling? .main).isSome = true)).symm

theorem crossed_otherKept :
    ∃ n ≤ 3, AnswersApart .main crossedCall.2 (some 3) n crossed ∧
      (crossed.jobs.object? ⟨4⟩).isSome ∧ some (3 : Word) ≠ some (⟨4⟩ : HandleId).value := by
  have henv : crossed.wrapped.envs.get? ⟨2⟩ = some { raw := 32, host := 1 } := by decide +kernel
  have hcall : crossedCall.1.workEnv? = some 2 := by decide +kernel
  obtain ⟨n, hn, hanswers⟩ := calls_crossed.jobs_isolated hcall
    fun e table he htable => by
      obtain rfl := Option.some.inj (henv.symm.trans he)
      obtain rfl := Option.some.inj
        ((Option.some_get (by decide +kernel : (crossed.liveHost? 1).isSome = true)).trans htable)
      decide +kernel
  have hwork : crossedCall.1.work? = some 3 := by decide +kernel
  exact ⟨n, hn, hwork ▸ hanswers, by decide +kernel, by decide +kernel⟩

/-- A job that was created through one env is deleted through another. -/
theorem crossed_deleted :
    crossed.Reachable ∧ crossed.Calls .main crossedCall.1 crossedCall.2 ∧
      crossed.wrapped.envs.get? ⟨1⟩ = some { raw := 16, host := 0 } ∧
      crossed.wrapped.envs.get? ⟨2⟩ = some { raw := 32, host := 1 } ∧
      crossedCall.1.workEnv? = some 2 ∧
      (crossed.jobs.object? ⟨3⟩).map (fun job => (job.env, job.state)) = some (16, .created) ∧
      crossed.jobs.owns ⟨3⟩ = true ∧
      ∃ s', (crossed.step .main >>= (·.step .main) >>= (·.step .main)) = some s' ∧
        (s'.jobs.object? ⟨3⟩).map (fun job => (job.env, job.state)) = some (16, .deleted) ∧
        s'.jobs.owns ⟨3⟩ = false := by
  exact ⟨reachable_crossed, calls_crossed, by decide +kernel, by decide +kernel, by decide +kernel,
    by decide +kernel, by decide +kernel, _, (Option.some_get (by decide +kernel)).symm,
    by decide +kernel, by decide +kernel⟩

end Session

end AddonHost
