import AddonHost.Proofs.Handle.Registered
import AddonHost.Proofs.Multiplexer.Owned
import AddonHost.Proofs.Session.Onward

/-!
What moves do to handles.

Most moves leave all registries alone: they change objects in their places, queues, the journal or
the log, none of which `Session.handles` shows.  Six moves register an object, each under the next
id, and eight take ids away.  Which ids a thread is about to take away is told by its control and by
the frame on top of its stack (`Thread.Erases`).
-/

namespace AddonHost

/-- What a multiplexer has wrapped, with what was created through its envs. -/
def Session.Wraps (s : Session) (m : MultiplexerHandle) : RegistryKind → HandleId → Prop
  | .envs, id => id ∈ m.envs
  | .wrappedFunctions, id => ∃ f, s.wrapped.functions.object? id = some f ∧ f.env ∈ m.envs
  | .hooks, id => ∃ k, s.wrapped.hooks.object? id = some k ∧ k.env ∈ m.envs
  | .functions, _ | .jobs, _ => False

/-- The causes for which the next step of a thread may make an id stop resolving. -/
inductive Thread.Erases (s : Session) : Thread → RegistryKind → HandleId → Prop where
  /-- The finalization of a function is over. -/
  | finalized {r : Reply} {f : HandleId} {below : List Frame} :
    Erases s { control := .give r, stack := .unreferenced f :: below } .functions f
  /-- A job is deleted by the embedder. -/
  | deleted {job : Ref} {id : HandleId} {below : List Frame} (hid : id.value = s.value job) :
    Erases s { control := .run (.perform (.deleteJob job)), stack := below } .jobs id
  /-- A job is deleted by the addon. -/
  | deletedByAddon {env work : Word} {id : HandleId} {below : List Frame} (hid : id.value = work) :
    Erases s { control := .run (.entry .runtime (.deleteAsyncWork env work)), stack := below }
      .jobs id
  /-- The finalizer of a wrapped function was called. -/
  | unwrapped {r : Reply} {handle id : HandleId} {below : List Frame}
      (hid : id.value = handle.value) :
    Erases s { control := .give r, stack := .unwrapped handle :: below } .wrappedFunctions id
  /-- The host has failed to create a wrapped function. -/
  | failedCreate {r : Reply} {host : HostId} {handle id : HandleId} {below : List Frame}
      (hid : id.value = handle.value) (hr : r.toResponse.status ≠ .ok) :
    Erases s { control := .give r, stack := .forwardedCreate host handle :: below }
      .wrappedFunctions id
  /-- The host has removed a cleanup hook. -/
  | unhooked {r : Reply} {host : HostId} {handle : Word} {id : HandleId} {below : List Frame}
      (hid : id.value = handle) (hr : r.toResponse.status = .ok) :
    Erases s { control := .give r, stack := .forwardedUnhook host handle :: below } .hooks id
  /-- A multiplexer is dropped. -/
  | dropped {name : String} {m : MultiplexerHandle} {k : RegistryKind} {id : HandleId}
      {below : List Frame} (hm : s.names.multiplexers.get? name = some m) (hid : s.Wraps m k id) :
    Erases s { control := .run (.perform (.dropMultiplexer name)), stack := below } k id
  /-- A multiplexer is dropped for another one that takes its name. -/
  | replaced {name : String} {register fatal : Bool} {m : MultiplexerHandle} {k : RegistryKind}
      {id : HandleId} {below : List Frame} (hm : s.names.multiplexers.get? name = some m)
      (hid : s.Wraps m k id) :
    Erases s { control := .run (.perform (.createMultiplexer name register fatal)), stack := below }
      k id

namespace Session

variable {s s' : Session} {t : ThreadId} {erased : RegistryKind → HandleId → Prop}

/-! ### What leaves the registries alone -/

@[simp] theorem handles_emit (s : Session) (e : Event) : (s.emit e).handles = s.handles := rfl

@[simp] theorem handles_log (s : Session) (level : Log.Level) (text : String) :
    (s.log level text).handles = s.handles := by
  simp only [log]
  split_ifs <;> rfl

@[simp] theorem handles_halt (s : Session) : s.halt.handles = s.handles := rfl

@[simp] theorem handles_signal (s : Session) (completion : Option Nat) :
    (s.signal completion).handles = s.handles := by
  cases completion <;> rfl

@[simp] theorem handles_setVariable (s : Session) (name : String) (w : Word) :
    (s.setVariable name w).handles = s.handles := rfl

@[simp] theorem handles_keepHost (s : Session) (h : HostId) :
    (s.keepHost h).handles = s.handles := rfl

@[simp] theorem handles_releaseHost (s : Session) (h : HostId) :
    (s.releaseHost h).handles = s.handles := rfl

@[simp] theorem handles_modifyInvoker (s : Session) (i : InvokerId) (g : Invoker → Invoker) :
    (s.modifyInvoker i g).handles = s.handles := rfl

@[simp] theorem handles_keepInvoker (s : Session) (i : InvokerId) :
    (s.keepInvoker i).handles = s.handles := rfl

/-- A change of an object in its place. -/
theorem handles_of_modify {k : RegistryKind} {id : HandleId} {g : k.Object → k.Object}
    (hk : s'.registry k = (s.registry k).modify id g)
    (hother : ∀ k', k' ≠ k → s'.registry k' = s.registry k') (hids : s'.ids = s.ids) :
    s'.handles = s.handles := by
  ext k' own
  · by_cases hk' : k' = k
    · subst hk'
      simp only [handles, hk, Registry.object?_modify]
      split <;> simp
    · simp only [handles, hother k' hk']
  · by_cases hk' : k' = k
    · subst hk'
      simp only [handles, hk, Registry.isSome_live?_modify]
    · simp only [handles, hother k' hk']
  · simp only [handles, hids]

@[simp] theorem handles_modifyFunction (s : Session) (f : HandleId)
    (g : ThreadsafeFunction → ThreadsafeFunction) : (s.modifyFunction f g).handles = s.handles :=
  handles_of_modify (k := .functions) rfl (fun k hk => by cases k <;> first | rfl | simp at hk) rfl

@[simp] theorem handles_modifyJob (s : Session) (j : HandleId) (g : AsyncJob → AsyncJob) :
    (s.modifyJob j g).handles = s.handles :=
  handles_of_modify (k := .jobs) rfl (fun k hk => by cases k <;> first | rfl | simp at hk) rfl

theorem handles_bindFunction (s : Session) (id : HandleId) (raw : Word) :
    ({ s with wrapped := s.wrapped.bindFunction id raw } : Session).handles = s.handles := by
  unfold Wrapped.bindFunction
  split
  · rfl
  · exact handles_of_modify (k := .wrappedFunctions) rfl
      (fun k hk => by cases k <;> first | rfl | simp at hk) rfl

@[simp] theorem handles_enqueue (s : Session) (i : InvokerId) (inv : Invoker) (task : Task)
    (completion : Option Nat) : (s.enqueue i inv task completion).handles = s.handles := rfl

@[simp] theorem handles_offer (s : Session) (t : ThreadId) (i : InvokerId) (sync : Bool)
    (task : Task) : (s.offer t i sync task).2.handles = s.handles := by
  unfold offer
  split
  · rfl
  · split
    all_goals
      simp only [enqueueAwaited]
      split_ifs <;> first | rfl | exact handles_log ..

theorem handles_of_offer {i : InvokerId} {sync : Bool} {task : Task} {o : Offer}
    (h : s.offer t i sync task = (o, s')) : s'.handles = s.handles := by
  have := handles_offer s t i sync task
  rwa [h] at this

@[simp] theorem handles_fire (s : Session) (key : ScriptKey) :
    (s.fire key).2.handles = s.handles := by
  unfold fire
  split <;> rfl

@[simp] theorem handles_discardQueue (s : Session) (i : InvokerId) (inv : Invoker) :
    (s.discardQueue i inv).handles = s.handles := by
  have hfold (subs : List Submission) (s : Session) :
      (subs.foldl (fun s sub => (s.emit (.discarded i sub)).signal sub.completion) s).handles
        = s.handles := by
    induction subs generalizing s with
    | nil => rfl
    | cons sub subs ih => rw [List.foldl_cons, ih, handles_signal, handles_emit]
  rw [discardQueue, handles_modifyInvoker, hfold]

@[simp] theorem handles_loseTask (s : Session) (i : InvokerId) (position : Nat) :
    (s.loseTask i position).handles = s.handles := by
  unfold loseTask
  split
  · rfl
  · split
    · rfl
    · rw [handles_signal, handles_emit, handles_modifyInvoker]

theorem handles_start (vars : Log.Variables) (level : Option Log.Level) :
    (Session.start vars level).handles = .initial := by
  cases level <;> ext k id <;> first | rfl | (cases k <;> rfl)

/-- What concerns no topic registers and erases nothing. -/
theorem handles_of_unconcerned (h : Unconcerned s s') :
    s'.handles = { s.handles with nextId := s'.ids.next } := by
  have hfunction (f : HandleId) := View.function.inj (h.same (.function f) trivial)
  have hjob (j : HandleId) := View.job.inj (h.same (.job j) trivial)
  obtain ⟨hwrapped, -⟩ := View.multiplexers.inj (h.same .multiplexers trivial)
  have hlive {α : Type} {r r' : Registry α} {id : HandleId} (hobject : r'.object? id = r.object? id)
      (howns : r'.owns id = r.owns id) : (r'.live? id).isSome = (r.live? id).isSome := by
    rw [Registry.live?, Registry.live?, hobject, howns]
  ext k id
  · cases k with
    | functions => exact congrArg Option.isSome (hfunction id).1
    | jobs => exact congrArg Option.isSome (hjob id).1
    | _ => simp only [handles, registry, hwrapped]
  · cases k with
    | functions => exact hlive (hfunction id).1 (hfunction id).2.1
    | jobs => exact hlive (hjob id).1 (hjob id).2.1
    | _ => simp only [handles, registry, hwrapped]
  · rfl

/-- A move that leaves the registries alone. -/
theorem step_of_handles {m : Move} (h : m.session.handles = s.handles) :
    Handles.Step erased s.handles m.session.handles := by
  rw [h]
  exact .aside le_rfl

/-- A move that concerns no topic. -/
theorem step_of_plain {m : Move} (h : m.Plain s) :
    Handles.Step erased s.handles m.session.handles := by
  rw [handles_of_unconcerned h.session]
  exact .aside h.session.ids

/-! ### The moves of functions -/

theorem handles_appendItem (f : HandleId) (fn : ThreadsafeFunction) (data : Word) :
    (s.appendItem t f fn data).session.handles = s.handles := by
  unfold appendItem
  simp only
  split
  · simp
  · split
    all_goals
      next h =>
        have hs := handles_of_offer h
        simpa using hs

theorem handles_call (f : HandleId) (data : Word) (mode : CallMode) :
    (s.call t f data mode).session.handles = s.handles := by
  unfold call
  split
  · rfl
  · split
    · rfl
    · simp
    · exact handles_appendItem ..

theorem handles_awaitSpace {f : HandleId} {data : Word} {m : Move}
    (h : s.awaitSpace t f data = some m) : m.session.handles = s.handles := by
  unfold awaitSpace at h
  split at h
  · obtain rfl := Option.some.inj h
    rfl
  · split_ifs at h
    · obtain rfl := Option.some.inj h
      rfl
    · obtain rfl := Option.some.inj h
      simp
    · obtain rfl := Option.some.inj h
      exact handles_appendItem ..

theorem handles_closeThen (f : HandleId) (r : Reply) :
    (s.closeThen t f r).session.handles = s.handles := by
  unfold closeThen
  split
  · rfl
  · split
    · rfl
    · simp only
      split
      · simp
      · split
        all_goals
          next h =>
            have hs := handles_of_offer h
            simpa using hs

theorem handles_release (f : HandleId) (mode : ReleaseMode) :
    (s.release t f mode).session.handles = s.handles := by
  unfold release
  split
  · rfl
  · split
    · rfl
    · split
      · simp [handles_closeThen]
      · simp only
        split <;> simp [handles_closeThen]

theorem handles_drain (f : HandleId) : (s.drain f).session.handles = s.handles := by
  unfold drain
  split
  · rfl
  · simp only
    split
    · simp
    · split <;> simp

theorem handles_afterDrain (f : HandleId) (wasEmpty : Bool) :
    (s.afterDrain t f wasEmpty).session.handles = s.handles := by
  unfold afterDrain
  split
  · rfl
  · split
    · exact handles_closeThen f .unit
    · rfl

theorem handles_deliverWith (f : HandleId) (fn : ThreadsafeFunction) (func data : Word) :
    (s.deliverWith f fn func data).session.handles = s.handles := by
  unfold deliverWith
  split
  · simp
  · split <;> rfl

theorem handles_deliver (f : HandleId) (data : Word) :
    (s.deliver f data).session.handles = s.handles := by
  unfold deliver
  split
  · rfl
  · split
    · rfl
    · exact handles_deliverWith ..

theorem handles_afterReference (f : HandleId) (data : Word) (r : Response) :
    (s.afterReference f data r).session.handles = s.handles := by
  unfold afterReference
  split
  · rfl
  · split
    · exact handles_deliverWith ..
    · rw [handles_deliverWith, handles_log]

theorem handles_afterReceiver (f : HandleId) (func : Word) (r : Response) :
    (s.afterReceiver f func r).session.handles = s.handles := by
  unfold afterReceiver
  split <;> rfl

theorem handles_teardown (f : HandleId) : (s.teardown f).session.handles = s.handles := by
  unfold teardown
  split
  · rfl
  · simp only
    split <;> rfl

theorem handles_finalizer (owner : Option HandleId) (fin : Finalizer) (env hint : Word) :
    (s.finalizer owner fin env hint).session.handles = s.handles := by
  unfold finalizer
  split
  · cases owner <;> simp
  · rfl
  · rfl

theorem handles_afterFinalizer (f : HandleId) :
    (s.afterFinalizer f).session.handles = s.handles := by
  unfold afterFinalizer
  split
  · rfl
  · simp only
    split <;> simp

/-! ### The moves of jobs -/

theorem handles_queueJob (j : HandleId) (env : Word) :
    (s.queueJob t j env).2.handles = s.handles := by
  unfold queueJob
  split
  · rfl
  · split
    · simp
    · split
      · rfl
      · split
        all_goals
          next h =>
            have hs := handles_of_offer h
            simpa using hs

theorem handles_cancelJob (j : HandleId) : (s.cancelJob j).2.handles = s.handles := by
  unfold cancelJob
  split
  · rfl
  · split <;> simp

theorem handles_queueJobById (j : HandleId) (env : Word) :
    (s.queueJobById t j env).2.handles = s.handles := by
  unfold queueJobById
  split
  · rfl
  · exact handles_queueJob ..

theorem handles_cancelJobById (j : HandleId) : (s.cancelJobById j).2.handles = s.handles := by
  unfold cancelJobById
  split
  · rfl
  · exact handles_cancelJob _

theorem handles_completeJob (j : HandleId) (job : AsyncJob) (env : Word) (status : Status) :
    (s.completeJob j job env status).session.handles = s.handles := by
  simp [completeJob]

theorem handles_work (j : HandleId) (env : Word) : (s.work j env).session.handles = s.handles := by
  unfold work
  split
  · rfl
  · simp only
    split
    · simp
    · split <;> simp [handles_completeJob]

theorem handles_afterExecute (j : HandleId) (env : Word) :
    (s.afterExecute j env).session.handles = s.handles := by
  unfold afterExecute
  split
  · rfl
  · exact handles_completeJob ..

/-! ### The moves of invokers -/

theorem handles_task (i : InvokerId) (task : Task) :
    (s.task i task).session.handles = s.handles := by
  cases task with
  | drain f => exact handles_drain f
  | work j env => exact handles_work j env
  | _ => rfl

theorem handles_runNext {i : InvokerId} {inv : Invoker} {after : Frame} {m : Move}
    (h : s.runNext i inv after = some m) : m.session.handles = s.handles := by
  obtain ⟨⟨sub, s'⟩, hstart, rfl⟩ := Option.map_eq_some_iff.1 h
  obtain ⟨⟨sub', q⟩, -, hs'⟩ := Option.map_eq_some_iff.1 hstart
  obtain ⟨-, rfl⟩ := Prod.mk.inj hs'
  rfl

theorem handles_pump (i : InvokerId) (goal : PumpGoal) :
    (s.pump i goal).session.handles = s.handles := by
  unfold pump
  split
  · rfl
  · split
    · next h => exact handles_runNext h
    · split
      · rfl
      · rfl
      · rfl
      · split <;> rfl

theorem handles_loop {i : InvokerId} {m : Move} (h : s.loop i = some m) :
    m.session.handles = s.handles := by
  unfold loop at h
  split at h
  · simp at h
  · split at h
    · simp at h
    · split at h
      · obtain rfl := Option.some.inj h
        exact handles_discardQueue ..
      · exact handles_runNext h

theorem handles_letGo (i : InvokerId) (r : Reply) :
    (s.letGo t i r).session.handles = s.handles := by
  unfold letGo
  split
  · rfl
  · simp only
    split
    · rfl
    · split
      · exact handles_discardQueue ..
      · split <;> rfl

theorem handles_submit (i : InvokerId) (sync : Bool) (actions : List Action) (rejected : Rejected) :
    (s.submit t i sync actions rejected).session.handles = s.handles := by
  unfold submit
  split
  case h_4 =>
    next h =>
      have hs := handles_of_offer h
      split <;> exact hs
  all_goals
    next h => exact handles_of_offer h

theorem handles_startProducer (name : String) (c : Code) :
    (s.startProducer name c).session.handles = s.handles := rfl

theorem handles_nameInvoker (name : String) (i : InvokerId) :
    (s.nameInvoker name i).session.handles = s.handles := by
  unfold nameInvoker
  simp only
  split <;> rfl

theorem handles_createInvoker (name : String) (spec : InvokerSpec) :
    (s.createInvoker t name spec).session.handles = s.handles := by
  unfold createInvoker
  split
  · exact handles_nameInvoker ..
  · split
    · rfl
    · rfl
    · rw [handles_nameInvoker, handles_log]
      rfl

/-! ### Registering -/

variable {k : RegistryKind} {handle : HandleId}

/-- An object is registered under the next id. -/
theorem step_of_insert {a : k.Object} (hbelow : (s.registry k).Below s.ids.next)
    (hn : s.ids.next < 2 ^ 64) (hk : s'.registry k = (s.registry k).insert ⟨s.ids.next⟩ a)
    (hother : ∀ k', k' ≠ k →
      s'.handles.created k' = s.handles.created k' ∧ s'.handles.live k' = s.handles.live k')
    (hids : s'.ids.next = s.ids.next + 1) : Handles.Step erased s.handles s'.handles := by
  have heq : s'.handles = s.handles.register k := by
    ext k' id
    · by_cases hk' : k' = k
      · subst hk'
        by_cases hid : id = ⟨s.ids.next⟩
        · simp [handles, Handles.register, hk, hid]
        · simp [handles, Handles.register, hk, hid, Ne.symm hid]
      · simp [(hother k' hk').1, Handles.register, hk']
    · by_cases hk' : k' = k
      · subst hk'
        have hlive : s'.handles.live k' id = ((s'.registry k').live? id).isSome := rfl
        rw [hlive, hk, hbelow.live?_insert hn, Function.update_apply]
        by_cases hid : id = ⟨s.ids.next⟩ <;> simp [handles, Handles.register, hid]
      · simp [(hother k' hk').2, Handles.register, hk']
    · exact hids
  rw [heq]
  exact .register k

theorem step_registerFunction (hbelow : s.functions.Below s.ids.next) (hn : s.ids.next < 2 ^ 64)
    (env reference : Word) (spec : FunctionSpec) (delivery : Delivery)
    (invoker : Option InvokerId) :
    Handles.Step erased s.handles
      (s.registerFunction env reference spec delivery invoker).session.handles := by
  simp only [registerFunction, freshId, IdSource.take, session_give, handles_log]
  exact step_of_insert (k := .functions) hbelow hn rfl
    (fun k hk => by cases k <;> first | exact ⟨rfl, rfl⟩ | simp at hk) rfl

theorem step_createJob (hbelow : s.jobs.Below s.ids.next) (hn : s.ids.next < 2 ^ 64)
    (env data : Word) : Handles.Step erased s.handles (s.createJob env data).2.handles := by
  simp only [createJob, freshId, IdSource.take, handles_log]
  exact step_of_insert (k := .jobs) hbelow hn rfl
    (fun k hk => by cases k <;> first | exact ⟨rfl, rfl⟩ | simp at hk) rfl

theorem step_wrapEnv (hbelow : s.wrapped.envs.Below s.ids.next) (hn : s.ids.next < 2 ^ 64)
    (multiplexer host : String) (env : Ref) (out : String) :
    Handles.Step erased s.handles (s.wrapEnv multiplexer host env out).session.handles := by
  unfold wrapEnv
  split
  · simp only [freshId, IdSource.take, reply, session_give, handles_setVariable, handles_log]
    exact step_of_insert (k := .envs) hbelow hn rfl
      (fun k hk => by cases k <;> first | exact ⟨rfl, rfl⟩ | simp at hk) rfl
  · exact step_of_handles rfl

/-- What was created through an env is listed by it: the env stays in its place. -/
theorem handles_listed {r : Registry WrappedEnv} {env : HandleId} {g : WrappedEnv → WrappedEnv}
    (hr : s'.wrapped.envs = r.modify env g) :
    s'.handles.created .envs = (fun id => (r.object? id).isSome) ∧
      s'.handles.live .envs = fun id => (r.live? id).isSome := by
  constructor
  · funext id
    show (s'.wrapped.envs.object? id).isSome = _
    rw [hr, Registry.object?_modify]
    split <;> simp
  · funext id
    show (s'.wrapped.envs.live? id).isSome = _
    rw [hr, Registry.isSome_live?_modify]

theorem step_forwardCreate (hbelow : s.wrapped.functions.Below s.ids.next)
    (hn : s.ids.next < 2 ^ 64) (env : Word) (spec : FunctionSpec) (d : Destination) (p : Provider) :
    Handles.Step erased s.handles (s.forwardCreate env spec d p).session.handles := by
  unfold forwardCreate
  split
  · exact step_of_plain ((plain_respond _).2 (by simp))
  · simp only [freshId, IdSource.take, session_run, handles_keepHost]
    exact step_of_insert (k := .wrappedFunctions) hbelow hn rfl
      (fun k hk => by cases k <;> first | exact ⟨rfl, rfl⟩ | exact handles_listed rfl | simp at hk)
      rfl

theorem step_afterForwardHook (hbelow : s.wrapped.hooks.Below s.ids.next)
    (hn : s.ids.next < 2 ^ 64) (host : HostId) (env : Word) (out : Bool) (r : Response) :
    Handles.Step erased s.handles (s.afterForwardHook host env out r).session.handles := by
  unfold afterForwardHook
  simp only
  split
  · split
    · exact step_of_handles rfl
    · simp only [freshId, IdSource.take, session_give]
      exact step_of_insert (k := .hooks) hbelow hn rfl
        (fun k hk => by
          cases k <;> first | exact ⟨rfl, rfl⟩ | exact handles_listed rfl | simp at hk)
        rfl
  · exact step_of_handles rfl

/-! ### Erasing -/

/-- The ids of a handle stop resolving. -/
theorem step_of_erase (hk : s'.registry k = (s.registry k).erase handle)
    (hother : ∀ k', k' ≠ k →
      s'.handles.created k' = s.handles.created k' ∧ s'.handles.live k' = s.handles.live k')
    (hids : s'.ids = s.ids)
    (herased : ∀ id ∈ (s.registry k).ids, id.value = handle.value → erased k id) :
    Handles.Step erased s.handles s'.handles := by
  have hlive' (id : HandleId) : s'.handles.live k id = true ↔
      s.handles.live k id = true ∧ id.value ≠ handle.value := by
    simp only [handles, hk, Option.isSome_iff_exists, Registry.live?_eq_some_iff,
      Registry.mem_ids_erase, Registry.object?_erase]
    tauto
  refine .of_fewer ?_ (by simp [handles, hids]) (fun k' id hl => ?_) fun k' id hl hnone => ?_
  · funext k' id
    by_cases hk' : k' = k
    · subst hk'
      simp [handles, hk]
    · rw [(hother k' hk').1]
  · by_cases hk' : k' = k
    · subst hk'
      exact ((hlive' id).1 hl).1
    · rwa [(hother k' hk').2] at hl
  · by_cases hk' : k' = k
    · subst hk'
      obtain ⟨a, ha⟩ := Option.isSome_iff_exists.1 hl
      refine herased id (Registry.live?_eq_some_iff.1 ha).1 ?_
      by_contra hvalue
      simp [(hlive' id).2 ⟨hl, hvalue⟩] at hnone
    · simp [(hother k' hk').2, hl] at hnone

theorem step_unregisterFunction (hs : s.Sane) (hbelow : s.functions.Below s.ids.next)
    (hn : s.ids.next ≤ 2 ^ 64) (f : HandleId) (herased : erased .functions f) :
    Handles.Step erased s.handles (s.unregisterFunction f).session.handles := by
  unfold unregisterFunction
  split
  · exact step_of_handles rfl
  · next fn hf =>
    rw [session_give, handles_emit, handles_log]
    refine step_of_erase (k := .functions) rfl
      (fun k hk => by cases k <;> first | exact ⟨rfl, rfl⟩ | simp at hk) rfl fun id hid hvalue => ?_
    have hlt := (hs.functions (.inl (by rw [hf]; rfl))).2
    rwa [(hbelow.value_inj hn hid hlt).1 hvalue]

theorem step_deleteJob (j : HandleId) (herased : ∀ id, id.value = j.value → erased .jobs id) :
    Handles.Step erased s.handles (s.deleteJob j).2.handles := by
  unfold deleteJob
  split
  · exact .aside le_rfl
  · next own hown =>
    have hvalue : own.value = j.value := by simpa using List.find?_some hown
    rw [handles_log, handles_emit, handles_modifyJob]
    exact step_of_erase (k := .jobs) rfl
      (fun k hk => by cases k <;> first | exact ⟨rfl, rfl⟩ | simp at hk) rfl
      fun id _ hid => herased id (hid.trans hvalue)

/-- What was erased is taken off the list of its env. -/
theorem handles_unlisted {w : Wrapped} {env : HandleId} {g : WrappedEnv → WrappedEnv}
    (hw : s'.wrapped = w.modifyEnv env g) :
    s'.handles.created .envs = (fun id => (w.envs.object? id).isSome) ∧
      s'.handles.live .envs = fun id => (w.envs.live? id).isSome := by
  unfold Wrapped.modifyEnv at hw
  split at hw
  · simp only [handles, registry, hw, and_self]
  · exact handles_listed (by rw [hw])

theorem step_eraseFunction (handle : HandleId)
    (herased : ∀ id, id.value = handle.value → erased .wrappedFunctions id) :
    Handles.Step erased s.handles
      ({ s with wrapped := s.wrapped.eraseFunction handle } : Session).handles := by
  unfold Wrapped.eraseFunction
  split
  · exact .aside le_rfl
  · refine step_of_erase (k := .wrappedFunctions) (Wrapped.functions_modifyEnv ..)
      (fun k hk => ?_) rfl fun id _ hid => herased id hid
    cases k with
    | functions | jobs => exact ⟨rfl, rfl⟩
    | envs =>
      exact handles_unlisted
        (w := { s.wrapped with functions := s.wrapped.functions.erase handle }) rfl
    | wrappedFunctions => simp at hk
    | hooks => simp only [handles, registry, Wrapped.hooks_modifyEnv, and_self]

theorem step_eraseHook (handle : HandleId)
    (herased : ∀ id, id.value = handle.value → erased .hooks id) :
    Handles.Step erased s.handles
      ({ s with wrapped := s.wrapped.eraseHook handle } : Session).handles := by
  unfold Wrapped.eraseHook
  split
  · exact .aside le_rfl
  · refine step_of_erase (k := .hooks) (Wrapped.hooks_modifyEnv ..) (fun k hk => ?_) rfl
      fun id _ hid => herased id hid
    cases k with
    | functions | jobs => exact ⟨rfl, rfl⟩
    | envs =>
      exact handles_unlisted (w := { s.wrapped with hooks := s.wrapped.hooks.erase handle }) rfl
    | wrappedFunctions => simp only [handles, registry, Wrapped.functions_modifyEnv, and_self]
    | hooks => simp at hk

/-- Erasing envs forgets no object. -/
theorem created_eraseEnvs (w : Wrapped) (envs : List HandleId) :
    (envs.foldl Wrapped.eraseEnv w).envs.objects = w.envs.objects ∧
      (envs.foldl Wrapped.eraseEnv w).functions.objects = w.functions.objects ∧
      (envs.foldl Wrapped.eraseEnv w).hooks.objects = w.hooks.objects := by
  have hfold {α : Type} (ids : List HandleId) (r : Registry α) :
      (ids.foldl Registry.erase r).objects = r.objects := by
    induction ids generalizing r with
    | nil => rfl
    | cons id ids ih => exact ih (r.erase id)
  induction envs generalizing w with
  | nil => exact ⟨rfl, rfl, rfl⟩
  | cons env envs ih =>
    obtain ⟨henvs, hfunctions, hhooks⟩ := ih (w.eraseEnv env)
    rw [List.foldl_cons, henvs, hfunctions, hhooks, Wrapped.eraseEnv]
    split
    · exact ⟨rfl, rfl, rfl⟩
    · exact ⟨rfl, hfold _ _, hfold _ _⟩

/-- A multiplexer is dropped, with what it has wrapped. -/
theorem step_eraseEnvs {name : String} {m : MultiplexerHandle} (howned : s.multiplexers.Owned)
    (hn : s.ids.next ≤ 2 ^ 64) (hm : s.names.multiplexers.get? name = some m)
    (hwrapped : s'.wrapped = m.envs.foldl Wrapped.eraseEnv s.wrapped)
    (hsame : s'.functions = s.functions ∧ s'.jobs = s.jobs ∧ s'.ids = s.ids)
    (herased : ∀ k id, s.Wraps m k id → erased k id) :
    Handles.Step erased s.handles s'.handles := by
  obtain ⟨hfunctions, hjobs, hids⟩ := hsame
  have henvsOf : s.multiplexers.envsOf name = m.envs := by
    simp [Multiplexers.envsOf, multiplexers, hm]
  obtain ⟨-, hgone, -⟩ := howned.eraseEnvsOf hn name
  rw [Multiplexers.eraseEnvsOf, henvsOf, show s.multiplexers.wrapped = s.wrapped from rfl,
    ← hwrapped] at hgone
  obtain ⟨henvs, hfuncs, hhooks⟩ := created_eraseEnvs s.wrapped m.envs
  rw [← hwrapped] at henvs hfuncs hhooks
  -- what is live afterwards was so before, and does not belong to the multiplexer
  refine .of_fewer ?_ (by simp only [handles, hids]) (fun k id hl => ?_) fun k id hl hnone => ?_
  · funext k id
    cases k with
    | functions => simp only [handles, registry, hfunctions]
    | jobs => simp only [handles, registry, hjobs]
    | envs => simp only [handles, registry, Registry.object?, henvs]
    | wrappedFunctions => simp only [handles, registry, Registry.object?, hfuncs]
    | hooks => simp only [handles, registry, Registry.object?, hhooks]
  · cases k with
    | functions => simpa only [handles, registry, hfunctions] using hl
    | jobs => simpa only [handles, registry, hjobs] using hl
    | envs =>
      simp only [handles, registry, hgone.envs] at hl ⊢
      split at hl <;> simp_all
    | wrappedFunctions =>
      simp only [handles, registry, hgone.functions] at hl ⊢
      exact Option.isSome_of_isSome_filter _ _ hl
    | hooks =>
      simp only [handles, registry, hgone.hooks] at hl ⊢
      exact Option.isSome_of_isSome_filter _ _ hl
  · refine herased k id ?_
    cases k with
    | functions =>
      simp only [handles, registry, hfunctions] at hl hnone
      simp [hl] at hnone
    | jobs =>
      simp only [handles, registry, hjobs] at hl hnone
      simp [hl] at hnone
    | envs =>
      simp only [handles, registry, hgone.envs] at hl hnone
      show id ∈ m.envs
      by_contra hmem
      simp [hl, hmem] at hnone
    | wrappedFunctions =>
      simp only [handles, registry, hgone.functions] at hl hnone
      obtain ⟨f, hf⟩ := Option.isSome_iff_exists.1 hl
      refine ⟨f, (Registry.live?_eq_some_iff.1 hf).2, ?_⟩
      by_contra hmem
      simp [hf, hmem] at hnone
    | hooks =>
      simp only [handles, registry, hgone.hooks] at hl hnone
      obtain ⟨hook, hhook⟩ := Option.isSome_iff_exists.1 hl
      refine ⟨hook, (Registry.live?_eq_some_iff.1 hhook).2, ?_⟩
      by_contra hmem
      simp [hhook, hmem] at hnone

/-! ### Moves of threads -/

variable {th : Thread} {below : List Frame} {m : Move}

theorem step_perform (hbelow : ∀ k, (s.registry k).Below s.ids.next) (howned : s.multiplexers.Owned)
    (hn : s.ids.next < 2 ^ 64) (a : Action) :
    Handles.Step (Thread.Erases s { control := .run (.perform a), stack := below }) s.handles
      (s.perform t a).session.handles := by
  by_cases ha : a.isPlain = true
  · exact step_of_plain (plain_perform t ha)
  cases a with
  | createInvoker name spec => exact step_of_handles (handles_createInvoker name spec)
  | submit invoker sync actions rejected =>
    refine step_of_handles ?_
    simp only [perform, withInvoker]
    split
    · rfl
    · rw [handles_submit, handles_keepInvoker]
  | spawnSubmit name invoker actions =>
    refine step_of_handles ?_
    simp only [perform, withInvoker]
    split <;> rfl
  | spawnCall name func data mode =>
    refine step_of_handles ?_
    simp only [perform, withFound]
    split <;> rfl
  | fail => exact step_of_handles rfl
  | acquire func =>
    refine step_of_handles ?_
    simp only [perform, withFound]
    split
    · rfl
    · simp only [acquire]
      split <;> simp [answerOutcome, reply]
  | setReferenced func on =>
    refine step_of_handles ?_
    simp only [perform, withFound]
    split
    · rfl
    · simp [setReferenced, reply]
  | createJob name env data keep =>
    simp only [perform, createJobNamed, reply, session_give]
    split <;> exact step_createJob (hbelow .jobs) hn (s.value env) (s.value data)
  | queueJob job env direct =>
    refine step_of_handles ?_
    simp only [perform, onJob]
    split
    · exact handles_queueJob ..
    · exact handles_queueJobById ..
  | cancelJob job direct =>
    refine step_of_handles ?_
    simp only [perform, onJob]
    split
    · exact handles_cancelJob _
    · exact handles_cancelJobById _
  | deleteJob job =>
    exact step_deleteJob _ fun id hid => .deleted (by simpa using hid)
  | createMultiplexer name register fatal =>
    simp only [perform, createMultiplexer, reply, session_give]
    split
    · exact .aside le_rfl
    · next multiplexer hm =>
      exact step_eraseEnvs howned hn.le hm rfl ⟨rfl, rfl, rfl⟩ fun _ _ => .replaced hm
  | dropMultiplexer name =>
    simp only [perform, dropMultiplexer]
    split
    · exact .aside le_rfl
    · next multiplexer hm =>
      exact step_eraseEnvs howned hn.le hm rfl ⟨rfl, rfl, rfl⟩ fun _ _ => .dropped hm
  | wrap multiplexer host env out => exact step_wrapEnv (hbelow .envs) hn ..
  | _ => simp [Action.isPlain] at ha

theorem step_entry (hbelow : ∀ k, (s.registry k).Below s.ids.next) (hn : s.ids.next < 2 ^ 64)
    (p : Provider) (r : Request) :
    Handles.Step (Thread.Erases s { control := .run (.entry p r), stack := below }) s.handles
      (s.entry t p r).session.handles := by
  by_cases hr : r.touchesTopic p = true
  · cases p with
    | engine slot => simp [Request.touchesTopic] at hr
    | injected => simp [Request.touchesTopic] at hr
    | runtime =>
      cases r with
      | createAsyncWork env resource resourceName execute complete data out =>
        simp only [entry, runtimeEntry]
        split
        · exact step_of_handles rfl
        · exact step_createJob (hbelow .jobs) hn env data
      | deleteAsyncWork env work =>
        exact step_deleteJob _ fun id hid => .deletedByAddon (by simpa using hid)
      | queueAsyncWork env work => exact step_of_handles (handles_queueJobById _ _)
      | cancelAsyncWork env work => exact step_of_handles (handles_cancelJobById _)
      | acquireThreadsafeFunction func =>
        refine step_of_handles ?_
        simp only [entry, runtimeEntry, withFunction]
        split
        · rfl
        · simp only [acquire]
          split <;> simp [respondOutcome, respond]
      | refThreadsafeFunction env func | unrefThreadsafeFunction env func =>
        refine step_of_handles ?_
        simp only [entry, runtimeEntry, withFunction]
        split
        · rfl
        · simp [setReferenced, respond]
      | _ => simp [Request.touchesTopic] at hr
    | multiplexer =>
      cases r with
      | createThreadsafeFunction env spec out =>
        simp only [entry, forward]
        split
        · exact step_of_handles rfl
        · split
          · exact step_of_plain ((plain_respond _).2 (by simp))
          · split
            · exact step_of_plain ((plain_respond _).2 (by simp))
            · exact step_forwardCreate (hbelow .wrappedFunctions) hn ..
      | _ => simp [Request.touchesTopic] at hr
  · exact step_of_plain (plain_entry t (by simpa using hr))

theorem step_code (hbelow : ∀ k, (s.registry k).Below s.ids.next) (howned : s.multiplexers.Owned)
    (hn : s.ids.next < 2 ^ 64) {c : Code} (hm : c.step t s = some m) :
    Handles.Step (Thread.Erases s { control := .run c, stack := below }) s.handles
      m.session.handles := by
  cases c with
  | perform a =>
    obtain rfl := Option.some.inj hm
    exact step_perform hbelow howned hn a
  | script owner actions =>
    cases actions <;> obtain rfl := Option.some.inj hm <;> exact step_of_handles rfl
  | entry p r =>
    obtain rfl := Option.some.inj hm
    exact step_entry hbelow hn p r
  | register p moduleHandle =>
    obtain rfl := Option.some.inj hm
    exact step_of_plain ((plain_registerEntry ..).2 (.refl s))
  | createFunction env spec delivery invoker =>
    obtain rfl := Option.some.inj hm
    unfold createFunction
    split
    · exact step_of_handles rfl
    · exact step_registerFunction (hbelow .functions) hn ..
  | call f data mode =>
    obtain rfl := Option.some.inj hm
    exact step_of_handles (handles_call f data mode)
  | awaitSpace f data => exact step_of_handles (handles_awaitSpace hm)
  | release f mode =>
    obtain rfl := Option.some.inj hm
    exact step_of_handles (handles_release f mode)
  | deliver f data =>
    obtain rfl := Option.some.inj hm
    exact step_of_handles (handles_deliver f data)
  | teardown f =>
    obtain rfl := Option.some.inj hm
    exact step_of_handles (handles_teardown f)
  | finalizer owner fin env hint =>
    obtain rfl := Option.some.inj hm
    exact step_of_handles (handles_finalizer owner fin env hint)
  | submit i sync actions rejected =>
    obtain rfl := Option.some.inj hm
    exact step_of_handles (handles_submit i sync actions rejected)
  | task i task =>
    obtain rfl := Option.some.inj hm
    exact step_of_handles (handles_task i task)
  | awaitTask i completion => exact step_of_plain (plain_awaitTask hm)
  | pump i goal =>
    obtain rfl := Option.some.inj hm
    exact step_of_handles (handles_pump i goal)
  | loop i => exact step_of_handles (handles_loop hm)
  | awaitOccupied i => exact step_of_plain (plain_awaitOccupied hm)
  | occupied i => exact step_of_plain (plain_occupied hm)
  | awaitEnd i r => exact step_of_plain (plain_awaitEnd hm)
  | letGo i r =>
    obtain rfl := Option.some.inj hm
    exact step_of_handles (handles_letGo i r)

theorem step_resume (hs : s.Sane) (hbelow : ∀ k, (s.registry k).Below s.ids.next)
    (hn : s.ids.next < 2 ^ 64) (r : Reply) (fr : Frame) :
    Handles.Step (Thread.Erases s { control := .give r, stack := fr :: below }) s.handles
      (fr.resume t s r).session.handles := by
  by_cases hplain : fr.isPlain = true ∧ fr.touchesTopic = false
  · exact step_of_plain (plain_resume t hplain.1 hplain.2 r)
  cases fr with
  | performed owner a rest => exact step_of_handles rfl
  | referenced env spec delivery invoker =>
    simp only [Frame.resume, afterCreateReference]
    split
    · exact step_registerFunction (hbelow .functions) hn ..
    · exact step_of_plain ((plain_fatalError _ _).2 (.refl s))
  | gotFunction f data => exact step_of_handles (handles_afterReference f data _)
  | gotReceiver f func => exact step_of_handles (handles_afterReceiver f func _)
  | drained f wasEmpty => exact step_of_handles (handles_afterDrain f wasEmpty)
  | finalized f => exact step_of_handles (handles_afterFinalizer f)
  | unreferenced f => exact step_unregisterFunction hs (hbelow .functions) hn.le f .finalized
  | unwrapped handle => exact step_eraseFunction handle fun id hid => .unwrapped hid
  | executed j env => exact step_of_handles (handles_afterExecute j env)
  | completed j => exact step_of_handles (handles_modifyJob ..)
  | forwardedCreate host id =>
    simp only [Frame.resume, afterForwardCreate]
    split
    · exact step_of_handles (handles_bindFunction (s.releaseHost host) id _)
    · next hr =>
      exact step_eraseFunction (s := s.releaseHost host) id fun own hid => .failedCreate hid hr
  | forwardedHook host env out => exact step_afterForwardHook (hbelow .hooks) hn host env out _
  | forwardedUnhook host handle =>
    simp only [Frame.resume, afterForwardUnhook]
    split
    · next hr =>
      exact step_eraseHook (s := s.releaseHost host) _ fun id hid =>
        .unhooked (by simpa using hid) hr
    · exact step_of_handles rfl
  | _ => simp [Frame.isPlain, Frame.touchesTopic] at hplain

theorem step_unwind (fr : Frame) : Handles.Step erased s.handles (fr.unwind s).session.handles := by
  refine step_of_handles ?_
  unfold Frame.unwind
  simp only
  split <;> simp [abort, endTask, loopFailed, modifyInterpreter]

/-- What a move of a thread does to the registries. -/
theorem Moves.handlesStep (hm : s.Moves t th m below) (hs : s.Sane)
    (hbelow : ∀ k, (s.registry k).Below s.ids.next) (howned : s.multiplexers.Owned)
    (hn : s.ids.next < 2 ^ 64) : Handles.Step (th.Erases s) s.handles m.session.handles := by
  cases hm with
  | run hm => exact step_code hbelow howned hn hm
  | give r fr below => exact step_resume hs hbelow hn r fr
  | unwind fr below => exact step_unwind fr
  | refuse => exact step_of_handles rfl

/-- The ids of a registry were given out. -/
theorem Reachable.registry_below (h : s.Reachable) (hn : s.ids.next < 2 ^ 64) (k : RegistryKind) :
    (s.registry k).Below s.ids.next := by
  have hwrapped := (h.multiplexersRun.owned hn.le).wrapped
  have hsane := h.sound.sane
  cases k with
  | functions => exact fun id hid => hsane.functions (.inr (List.contains_iff_mem.2 hid))
  | jobs => exact fun id hid => hsane.jobs (.inr (List.contains_iff_mem.2 hid))
  | envs => exact hwrapped.envs
  | wrappedFunctions => exact hwrapped.functions
  | hooks => exact hwrapped.hooks

/-- What a step of a thread does to the registries. -/
theorem Reachable.handlesStep (h : s.Reachable) (hn : s.ids.next < 2 ^ 64)
    (hstep : s.step t = some s') :
    ∃ th, s.threads.get? t = some th ∧ Handles.Step (th.Erases s) s.handles s'.handles := by
  obtain ⟨th, below, m', own, works, ht⟩ := h.sound.exists_taken hstep
  obtain ⟨m, below, hm, rfl⟩ := exists_moves hstep ht.thread
  exact ⟨th, ht.thread, hm.handlesStep h.sound.sane (h.registry_below hn)
    (h.multiplexersRun.owned hn.le) hn⟩

end Session

end AddonHost
