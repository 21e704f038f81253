import AddonHost.Proofs.Handle.Moves

/-!
Who creates functions.

A threadsafe function comes into being in one way: a thread that has been asked for one, and has got
the reference to what it calls, if there is any, registers it (`Thread.creates?`).  Every other move
leaves the functions that exist to themselves (`Moves.object?_eq_none`).  So a function that was not
there before a step is made from the arguments with which the thread that took the step was asked
(`Reachable.exists_create`).
-/

namespace AddonHost

/-- The arguments from which a thread is about to register a function, if there is no reference to
ask for, or there was one. -/
def Thread.creates? (th : Thread) : Option FunctionSpec :=
  match th.control, th.stack with
  | .run (.createFunction _ spec _ _), _ => some spec
  | .give _, .referenced _ spec _ _ :: _ => some spec
  | _, _ => none

namespace Session

variable {s s' : Session} {t : ThreadId} {th : Thread} {below : List Frame} {m : Move}
  {f : HandleId} {fn : ThreadsafeFunction}

@[simp] theorem functions_log (s : Session) (level : Log.Level) (text : String) :
    (s.log level text).functions = s.functions := by
  simp only [log]
  split_ifs <;> rfl

theorem object?_of_functions (h : s'.functions = s.functions)
    (hf : s.functions.object? f = none) : s'.functions.object? f = none := by
  rw [h, hf]

theorem object?_of_handles (h : s'.handles = s.handles) (hf : s.functions.object? f = none) :
    s'.functions.object? f = none := by
  have hcreated : (s'.functions.object? f).isSome = (s.functions.object? f).isSome :=
    congrFun (congrFun (congrArg Handles.created h) .functions) f
  simpa [hf] using hcreated

theorem object?_of_plain (h : m.Plain s) (hf : s.functions.object? f = none) :
    m.session.functions.object? f = none := by
  obtain ⟨hobject, -⟩ := View.function.inj (h.session.same (.function f) trivial)
  exact hobject.trans hf

theorem functions_createJob (s : Session) (env data : Word) :
    (s.createJob env data).2.functions = s.functions := by
  simp [createJob, freshId]

theorem functions_deleteJob (s : Session) (j : HandleId) :
    (s.deleteJob j).2.functions = s.functions := by
  unfold deleteJob
  split
  · rfl
  · rw [functions_log]
    rfl

theorem functions_forwardCreate (s : Session) (env : Word) (spec : FunctionSpec) (d : Destination)
    (p : Provider) : (s.forwardCreate env spec d p).session.functions = s.functions := by
  unfold forwardCreate
  split
  · simp [refuseRoute, respond]
  · rfl

theorem object?_perform (a : Action) (hf : s.functions.object? f = none) :
    (s.perform t a).session.functions.object? f = none := by
  by_cases ha : a.isPlain = true
  · exact object?_of_plain (plain_perform t ha) hf
  cases a with
  | createInvoker name spec => exact object?_of_handles (handles_createInvoker name spec) hf
  | submit invoker sync actions rejected =>
    refine object?_of_handles ?_ hf
    simp only [perform, withInvoker]
    split
    · rfl
    · rw [handles_submit, handles_keepInvoker]
  | spawnSubmit name invoker actions =>
    simp only [perform, withInvoker]
    split <;> exact hf
  | spawnCall name func data mode =>
    simp only [perform, withFound]
    split <;> exact hf
  | fail => exact hf
  | acquire func =>
    refine object?_of_handles ?_ hf
    simp only [perform, withFound]
    split
    · rfl
    · simp only [acquire]
      split <;> simp [answerOutcome, reply]
  | setReferenced func on =>
    refine object?_of_handles ?_ hf
    simp only [perform, withFound]
    split
    · rfl
    · simp [setReferenced, reply]
  | createJob name env data keep =>
    simp only [perform, createJobNamed, reply, session_give]
    split <;> exact object?_of_functions (functions_createJob s (s.value env) (s.value data)) hf
  | queueJob job env direct =>
    refine object?_of_handles ?_ hf
    simp only [perform, onJob]
    split
    · exact handles_queueJob ..
    · exact handles_queueJobById ..
  | cancelJob job direct =>
    refine object?_of_handles ?_ hf
    simp only [perform, onJob]
    split
    · exact handles_cancelJob _
    · exact handles_cancelJobById _
  | deleteJob job => exact object?_of_functions (functions_deleteJob s ⟨s.value job⟩) hf
  | createMultiplexer name register fatal =>
    simp only [perform, createMultiplexer, reply, session_give]
    split <;> exact hf
  | dropMultiplexer name =>
    simp only [perform, dropMultiplexer]
    split <;> exact hf
  | wrap multiplexer host env out =>
    simp only [perform, wrapEnv]
    split
    · simpa [freshId, reply, setVariable] using hf
    · exact hf
  | _ => simp [Action.isPlain] at ha

theorem object?_entry (p : Provider) (r : Request) (hf : s.functions.object? f = none) :
    (s.entry t p r).session.functions.object? f = none := by
  by_cases hr : r.touchesTopic p = true
  · cases p with
    | engine slot => simp [Request.touchesTopic] at hr
    | injected => simp [Request.touchesTopic] at hr
    | runtime =>
      cases r with
      | createAsyncWork env resource resourceName execute complete data out =>
        simp only [entry, runtimeEntry]
        split
        · exact hf
        · exact object?_of_functions (functions_createJob s env data) hf
      | deleteAsyncWork env work => exact object?_of_functions (functions_deleteJob s ⟨work⟩) hf
      | queueAsyncWork env work => exact object?_of_handles (handles_queueJobById _ _) hf
      | cancelAsyncWork env work => exact object?_of_handles (handles_cancelJobById _) hf
      | acquireThreadsafeFunction func =>
        refine object?_of_handles ?_ hf
        simp only [entry, runtimeEntry, withFunction]
        split
        · rfl
        · simp only [acquire]
          split <;> simp [respondOutcome, respond]
      | refThreadsafeFunction env func | unrefThreadsafeFunction env func =>
        refine object?_of_handles ?_ hf
        simp only [entry, runtimeEntry, withFunction]
        split
        · rfl
        · simp [setReferenced, respond]
      | _ => simp [Request.touchesTopic] at hr
    | multiplexer =>
      cases r with
      | createThreadsafeFunction env spec out =>
        simp only [entry, forward]
        split
        · exact hf
        · split
          · simpa [refuseRoute, respond] using hf
          · split
            · simpa [refuseRoute, respond] using hf
            · exact object?_of_functions (functions_forwardCreate ..) hf
      | _ => simp [Request.touchesTopic] at hr
  · exact object?_of_plain (plain_entry t (by simpa using hr)) hf

/-- A piece of code that is asked for no function creates none. -/
theorem object?_code {c : Code} (hm : c.step t s = some m)
    (hc : Thread.creates? { control := .run c, stack := below } = none)
    (hf : s.functions.object? f = none) : m.session.functions.object? f = none := by
  cases c with
  | perform a =>
    obtain rfl := Option.some.inj hm
    exact object?_perform a hf
  | script owner actions =>
    cases actions <;> obtain rfl := Option.some.inj hm <;> exact hf
  | entry p r =>
    obtain rfl := Option.some.inj hm
    exact object?_entry p r hf
  | register p moduleHandle =>
    obtain rfl := Option.some.inj hm
    exact object?_of_plain ((plain_registerEntry ..).2 (.refl s)) hf
  | createFunction env spec delivery invoker => cases hc
  | call g data mode =>
    obtain rfl := Option.some.inj hm
    exact object?_of_handles (handles_call g data mode) hf
  | awaitSpace g data => exact object?_of_handles (handles_awaitSpace hm) hf
  | release g mode =>
    obtain rfl := Option.some.inj hm
    exact object?_of_handles (handles_release g mode) hf
  | deliver g data =>
    obtain rfl := Option.some.inj hm
    exact object?_of_handles (handles_deliver g data) hf
  | teardown g =>
    obtain rfl := Option.some.inj hm
    exact object?_of_handles (handles_teardown g) hf
  | finalizer owner fin env hint =>
    obtain rfl := Option.some.inj hm
    exact object?_of_handles (handles_finalizer owner fin env hint) hf
  | submit i sync actions rejected =>
    obtain rfl := Option.some.inj hm
    exact object?_of_handles (handles_submit i sync actions rejected) hf
  | task i task =>
    obtain rfl := Option.some.inj hm
    exact object?_of_handles (handles_task i task) hf
  | awaitTask i completion => exact object?_of_plain (plain_awaitTask hm) hf
  | pump i goal =>
    obtain rfl := Option.some.inj hm
    exact object?_of_handles (handles_pump i goal) hf
  | loop i => exact object?_of_handles (handles_loop hm) hf
  | awaitOccupied i => exact object?_of_plain (plain_awaitOccupied hm) hf
  | occupied i => exact object?_of_plain (plain_occupied hm) hf
  | awaitEnd i r => exact object?_of_plain (plain_awaitEnd hm) hf
  | letGo i r =>
    obtain rfl := Option.some.inj hm
    exact object?_of_handles (handles_letGo i r) hf

/-- A frame that waits for no reference creates no function. -/
theorem object?_resume (r : Reply) (fr : Frame)
    (hfr : Thread.creates? { control := .give r, stack := fr :: below } = none)
    (hf : s.functions.object? f = none) :
    (fr.resume t s r).session.functions.object? f = none := by
  by_cases hplain : fr.isPlain = true ∧ fr.touchesTopic = false
  · exact object?_of_plain (plain_resume t hplain.1 hplain.2 r) hf
  cases fr with
  | performed owner a rest => exact hf
  | referenced env spec delivery invoker => cases hfr
  | gotFunction g data => exact object?_of_handles (handles_afterReference g data _) hf
  | gotReceiver g func => exact object?_of_handles (handles_afterReceiver g func _) hf
  | drained g wasEmpty => exact object?_of_handles (handles_afterDrain g wasEmpty) hf
  | finalized g => exact object?_of_handles (handles_afterFinalizer g) hf
  | unreferenced g =>
    simp only [Frame.resume, unregisterFunction]
    split
    · exact hf
    · simpa [emit] using hf
  | unwrapped handle => exact hf
  | executed j env => exact object?_of_handles (handles_afterExecute j env) hf
  | completed j => exact hf
  | forwardedCreate host id =>
    simp only [Frame.resume, afterForwardCreate]
    split <;> exact hf
  | forwardedHook host env out =>
    simp only [Frame.resume, afterForwardHook]
    split
    · split <;> exact hf
    · exact hf
  | forwardedUnhook host handle =>
    simp only [Frame.resume, afterForwardUnhook]
    split <;> exact hf
  | _ => simp [Frame.isPlain, Frame.touchesTopic] at hplain

/-- A move of a thread that is asked for no function creates none. -/
theorem Moves.object?_eq_none (hm : s.Moves t th m below) (hth : th.creates? = none)
    (hf : s.functions.object? f = none) : m.session.functions.object? f = none := by
  cases hm with
  | run hm => exact object?_code hm hth hf
  | give r fr below => exact object?_resume r fr hth hf
  | unwind fr below =>
    refine object?_of_handles ?_ hf
    unfold Frame.unwind
    simp only
    split <;> simp [abort, endTask, loopFailed, modifyInterpreter]
  | refuse => exact hf

/-- A function is registered as it was asked for. -/
theorem eq_create_of_registerFunction {env reference : Word} {spec : FunctionSpec}
    {delivery : Delivery} {invoker : Option InvokerId} (hf : s.functions.object? f = none)
    (hfn : (s.registerFunction env reference spec delivery invoker).session.functions.object? f
      = some fn) : fn = .create env reference spec delivery invoker := by
  simp only [registerFunction, freshId, IdSource.take, session_give, functions_log,
    Registry.object?_insert] at hfn
  split at hfn
  · exact (Option.some.inj hfn).symm
  · simp [hf] at hfn

theorem Moves.exists_create (hm : s.Moves t th m below) (hf : s.functions.object? f = none)
    (hfn : m.session.functions.object? f = some fn) :
    ∃ env reference spec delivery invoker, th.creates? = some spec ∧
      fn = .create env reference spec delivery invoker := by
  have hcreates : th.creates? ≠ none := fun hnone => by
    simp [hm.object?_eq_none hnone hf] at hfn
  obtain ⟨control, stack⟩ := th
  unfold Thread.creates? at hcreates ⊢
  split at hcreates
  · next stack env spec delivery invoker hc =>
    obtain rfl : control = .run (.createFunction env spec delivery invoker) := hc
    cases hm with
    | run hm =>
      obtain rfl := Option.some.inj hm
      unfold createFunction at hfn
      split at hfn
      · simp [hf] at hfn
      · exact ⟨env, 0, spec, delivery, invoker, rfl, eq_create_of_registerFunction hf hfn⟩
  · next r env spec delivery invoker rest hc hst =>
    obtain rfl : control = .give r := hc
    obtain rfl : stack = .referenced env spec delivery invoker :: rest := hst
    cases hm with
    | give r fr below =>
      simp only [Frame.resume, afterCreateReference] at hfn
      split at hfn
      · exact ⟨env, _, spec, delivery, invoker, rfl, eq_create_of_registerFunction hf hfn⟩
      · have hplain := (plain_fatalError "" "Failed to create JS function reference").2
          (Unconcerned.refl s)
        simp [object?_of_plain hplain hf] at hfn
  · exact absurd rfl hcreates

/-- A function that was not there before a step is made from the arguments with which the thread
that has taken the step was asked for it. -/
theorem Reachable.exists_create (h : s.Reachable) (hstep : s.step t = some s')
    (hf : s.functions.object? f = none) (hfn : s'.functions.object? f = some fn) :
    ∃ th env reference spec delivery invoker, s.threads.get? t = some th ∧
      th.creates? = some spec ∧ fn = .create env reference spec delivery invoker := by
  obtain ⟨th, _, _, _, _, ht⟩ := h.sound.exists_taken hstep
  obtain ⟨m, below, hm, rfl⟩ := exists_moves hstep ht.thread
  obtain ⟨env, reference, spec, delivery, invoker, hspec, rfl⟩ := hm.exists_create hf hfn
  exact ⟨th, env, reference, spec, delivery, invoker, ht.thread, hspec, rfl⟩

end Session

end AddonHost
