import AddonHost.Proofs.Session.Onward

/-!
How finalizers get about.

A finalizer is named in the arguments of a creation, and in a call of it (`Code.finalizer?`,
`Frame.finalizer?`).  Engines and functions remember the one that they were created with.  Most of
what a session does has nothing to do with finalizers: it calls none, no engine comes to remember
another one, and the threads that it starts hold none (`Session.Spares`).  A move passes on what its
thread holds (`Move.Passes`); `Moves.passes` says so of all but the few that matter: calling a
finalizer, the return of a multiplexer's, the answer of an engine, and a forwarded creation.
-/

namespace AddonHost

/-- The finalizer in the arguments of a call. -/
@[simp] def Request.finalizer? : Request → Option Finalizer
  | .createThreadsafeFunction _ spec _ => spec.finalizer
  | _ => none

/-- The finalizer that a piece of code holds. -/
@[simp] def Code.finalizer? : Code → Option Finalizer
  | .entry _ r => r.finalizer?
  | .createFunction _ spec _ _ => spec.finalizer
  | .finalizer _ fin _ _ => some fin
  | _ => none

/-- The finalizer that the control of a thread holds. -/
@[simp] def Control.finalizer? : Control → Option Finalizer
  | .run c => c.finalizer?
  | _ => none

/-- The finalizer that a frame holds. -/
@[simp] def Frame.finalizer? : Frame → Option Finalizer
  | .referenced _ spec _ _ => spec.finalizer
  | .engineScripted _ r => r.finalizer?
  | _ => none

/-- Whether a frame waits for the finalizer inside a multiplexer's. -/
@[simp] def Frame.isUnwrapped : Frame → Bool
  | .unwrapped _ => true
  | _ => false

/-- Whether a piece of code is the call of a finalizer. -/
@[simp] def Code.isFinalizer : Code → Bool
  | .finalizer .. => true
  | _ => false

/-- Whether a thread is about to call a finalizer. -/
@[simp] def Control.isFinalizer : Control → Bool
  | .run c => c.isFinalizer
  | _ => false

/-- Whether a frame has nothing to do with finalizers. -/
def Frame.isBare (fr : Frame) : Bool := fr.finalizer?.isNone && !fr.isUnwrapped

/-- Whether a thread has nothing to do with finalizers. -/
def Thread.isBare (th : Thread) : Bool :=
  th.control.finalizer?.isNone && th.stack.all Frame.isBare

/-- The env, the data and the hint that the addon's finalizer is called with. -/
@[simp] def Event.finalized? : Event → Option (Word × Word × Word)
  | finalize env data hint => some (env, data, hint)
  | _ => none

namespace Session

/-- What the addon's finalizers were called with, in the order of time. -/
def finalized (s : Session) : List (Word × Word × Word) := s.history.filterMap Event.finalized?

/-- From `s` to `s'`, nothing has had to do with finalizers. -/
structure Spares (s s' : Session) : Prop where
  engines : s'.engines.functions = s.engines.functions
  finalized : s'.finalized = s.finalized
  threads : ∀ p ∈ s'.threads, p ∈ s.threads ∨ p.2.isBare = true

variable {s s' s'' : Session}

@[simp, refl] theorem Spares.refl (s : Session) : Spares s s := ⟨rfl, rfl, fun _ => .inl⟩

theorem Spares.trans (h : Spares s s') (h' : Spares s' s'') : Spares s s'' where
  engines := h'.engines.trans h.engines
  finalized := h'.finalized.trans h.finalized
  threads p hp := (h'.threads p hp).elim (h.threads p) .inr

/-- An operation that leaves what engines remember, the calls of finalizers and the threads as they
are. -/
theorem spares_iff (he : s''.engines.functions = s'.engines.functions)
    (hf : s''.finalized = s'.finalized) (ht : s''.threads = s'.threads) :
    Spares s s'' ↔ Spares s s' := by
  constructor
  · exact fun h => ⟨he ▸ h.engines, hf ▸ h.finalized, ht ▸ h.threads⟩
  · exact fun h => ⟨he ▸ h.engines, hf ▸ h.finalized, ht ▸ h.threads⟩

/-! ### Operations -/

@[simp] theorem spares_update (environment : Log.Variables) (logger : Log.Logger)
    (config : Option RuntimeConfig) (ids : IdSource) (functions : Registry ThreadsafeFunction)
    (jobs : Registry AsyncJob) (bindings : Assoc Word InvokerId) (injected : HostTable)
    (wrapped : Wrapped) (invokers : Assoc InvokerId Invoker) (hosts : Assoc HostId Host)
    (names : Names)
    (scripts : Assoc ScriptKey (List (List Action))) (completions : Nat) (signalled : List Nat)
    (occupations : Assoc InvokerId Occupation) (producers : List Producer)
    (written complaints : List String) (halted : Bool) :
    Spares s
        { s' with
          environment, logger, config, ids, functions, jobs, bindings, injected, wrapped, invokers,
          hosts, names, scripts, completions, signalled, occupations, producers, written,
          complaints, halted } ↔ Spares s s' :=
  spares_iff rfl rfl rfl

@[simp] theorem spares_emit {e : Event} (he : ¬e.finalized?.isSome) :
    Spares s (s'.emit e) ↔ Spares s s' := by
  rw [Option.not_isSome_iff_eq_none] at he
  exact spares_iff rfl (by rw [Session.finalized, history_emit, List.filterMap_append,
    List.filterMap_cons_none he, List.filterMap_nil, List.append_nil, Session.finalized]) rfl

@[simp] theorem spares_log (level : Log.Level) (text : String) :
    Spares s (s'.log level text) ↔ Spares s s' := by
  simp only [log]
  split_ifs <;> simp

@[simp] theorem spares_setLogger (g : Log.Logger) : Spares s (s'.setLogger g) ↔ Spares s s' := by
  simp [setLogger]

@[simp] theorem spares_complain (line : String) : Spares s (s'.complain line) ↔ Spares s s' := by
  simp [complain]

@[simp] theorem spares_halt : Spares s s'.halt ↔ Spares s s' := by
  simp [halt]

@[simp] theorem spares_freshId : Spares s s'.freshId.2 ↔ Spares s s' := by
  simp [freshId]

@[simp] theorem spares_setVariable (name : String) (w : Word) :
    Spares s (s'.setVariable name w) ↔ Spares s s' := by
  simp [setVariable]

@[simp] theorem spares_modifyFunction (f : HandleId) (g : ThreadsafeFunction → ThreadsafeFunction) :
    Spares s (s'.modifyFunction f g) ↔ Spares s s' := by
  simp [modifyFunction]

@[simp] theorem spares_modifyJob (j : HandleId) (g : AsyncJob → AsyncJob) :
    Spares s (s'.modifyJob j g) ↔ Spares s s' := by
  simp [modifyJob]

@[simp] theorem spares_modifyInvoker (i : InvokerId) (g : Invoker → Invoker) :
    Spares s (s'.modifyInvoker i g) ↔ Spares s s' := by
  simp [modifyInvoker]

@[simp] theorem spares_keepInvoker (i : InvokerId) :
    Spares s (s'.keepInvoker i) ↔ Spares s s' := by
  simp [keepInvoker]

@[simp] theorem spares_modifyInterpreter (i : InvokerId)
    (g : InterpreterThread → InterpreterThread) :
    Spares s (s'.modifyInterpreter i g) ↔ Spares s s' := by
  simp [modifyInterpreter]

@[simp] theorem spares_requestShutdown (i : InvokerId) :
    Spares s (s'.requestShutdown i) ↔ Spares s s' := by
  simp [requestShutdown]

@[simp] theorem spares_countExecuted (i : InvokerId) :
    Spares s (s'.countExecuted i) ↔ Spares s s' := by
  simp [countExecuted]

@[simp] theorem spares_releaseOccupation (i : InvokerId) :
    Spares s (s'.releaseOccupation i) ↔ Spares s s' := by
  unfold releaseOccupation
  split <;> simp

@[simp] theorem spares_keepHost (h : HostId) : Spares s (s'.keepHost h) ↔ Spares s s' := by
  simp [keepHost]

@[simp] theorem spares_releaseHost (h : HostId) : Spares s (s'.releaseHost h) ↔ Spares s s' := by
  simp [releaseHost]

@[simp] theorem spares_signal (completion : Option Nat) :
    Spares s (s'.signal completion) ↔ Spares s s' := by
  unfold signal
  split <;> simp

@[simp] theorem spares_readConfig : Spares s s'.readConfig.2 ↔ Spares s s' := by
  unfold readConfig
  split <;> simp

@[simp] theorem spares_fire (key : ScriptKey) : Spares s (s'.fire key).2 ↔ Spares s s' := by
  unfold fire
  split <;> simp

@[simp] theorem spares_setReferenced (f : HandleId) (on : Bool) :
    Spares s (s'.setReferenced f on) ↔ Spares s s' := by
  simp [setReferenced]

@[simp] theorem spares_endProducer (n : Nat) (a : Answer) :
    Spares s (s'.endProducer n a) ↔ Spares s s' := by
  simp [endProducer]

@[simp] theorem spares_setRegistry (name : String) (r : Registry String) :
    Spares s (s'.setRegistry name r) ↔ Spares s s' := by
  simp [setRegistry]

@[simp] theorem spares_eraseEnvs (m : MultiplexerHandle) :
    Spares s (s'.eraseEnvs m) ↔ Spares s s' := by
  simp [eraseEnvs]

@[simp] theorem spares_injectTable (table : HostTable) :
    Spares s (s'.injectTable table) ↔ Spares s s' := by
  simp [injectTable]

@[simp] theorem spares_reportFatal (location message : RawText) :
    Spares s (s'.reportFatal location message) ↔ Spares s s' := by
  simp [reportFatal]

@[simp] theorem spares_enqueue (i : InvokerId) (inv : Invoker) (task : Task)
    (completion : Option Nat) :
    Spares s (s'.enqueue i inv task completion) ↔ Spares s s' := by
  simp [enqueue]

theorem spares_of_offer {t : ThreadId} {i : InvokerId} {sync : Bool} {task : Task} {o : Offer}
    {u : Session} (h : s'.offer t i sync task = (o, u)) : Spares s u ↔ Spares s s' := by
  unfold offer at h
  split at h
  · obtain ⟨-, rfl⟩ := Prod.mk.inj h
    rfl
  · split at h
    all_goals
      simp only at h
      split_ifs at h <;>
        · obtain ⟨-, rfl⟩ := Prod.mk.inj h
          simp

theorem spares_of_startTask {i : InvokerId} {inv : Invoker} {sub : Submission} {u : Session}
    (h : s'.startTask i inv = some (sub, u)) : Spares s u ↔ Spares s s' := by
  obtain ⟨p, -, heq⟩ := Option.map_eq_some_iff.1 h
  obtain ⟨-, rfl⟩ := Prod.mk.inj heq
  simp

@[simp] theorem spares_discardQueue (i : InvokerId) (inv : Invoker) :
    Spares s (s'.discardQueue i inv) ↔ Spares s s' := by
  simp only [discardQueue, spares_modifyInvoker]
  induction inv.queue.pending generalizing s' with
  | nil => rfl
  | cons sub subs ih =>
    rw [List.foldl_cons, ih]
    simp

@[simp] theorem spares_endTask {e : Event} (he : ¬e.finalized?.isSome) (sub : Submission) :
    Spares s (s'.endTask e sub) ↔ Spares s s' := by
  simp [endTask, spares_emit he]

@[simp] theorem spares_acquire (f : HandleId) (fn : ThreadsafeFunction) :
    Spares s (s'.acquire f fn).2 ↔ Spares s s' := by
  unfold acquire
  split <;> simp

@[simp] theorem spares_createJob (env data : Word) :
    Spares s (s'.createJob env data).2 ↔ Spares s s' := by
  simp [createJob, freshId]

@[simp] theorem spares_cancelJob (j : HandleId) : Spares s (s'.cancelJob j).2 ↔ Spares s s' := by
  unfold cancelJob
  split
  · rfl
  · split <;> simp

@[simp] theorem spares_cancelJobById (j : HandleId) :
    Spares s (s'.cancelJobById j).2 ↔ Spares s s' := by
  unfold cancelJobById
  split <;> simp

@[simp] theorem spares_deleteJob (j : HandleId) : Spares s (s'.deleteJob j).2 ↔ Spares s s' := by
  unfold deleteJob
  split <;> simp

@[simp] theorem spares_queueJob (t : ThreadId) (j : HandleId) (env : Word) :
    Spares s (s'.queueJob t j env).2 ↔ Spares s s' := by
  unfold queueJob
  split
  · rfl
  · split
    · simp
    · split
      · rfl
      · split <;> next h => simp [spares_of_offer h]

@[simp] theorem spares_queueJobById (t : ThreadId) (j : HandleId) (env : Word) :
    Spares s (s'.queueJobById t j env).2 ↔ Spares s s' := by
  unfold queueJobById
  split <;> simp

end Session

end AddonHost
