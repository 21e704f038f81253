import AddonHost.Proofs.Session.Topic

/-!
What a chain of operations leaves alone.

Most of what a session does concerns neither a thread nor any topic: it logs, gives out ids, keeps
and releases invokers and hosts, and sets names.  `Session.Follows quiet s s'` says that no
operation between `s` and `s'` concerns a thread, and that none concerns one of the `quiet` topics.
The lemmas below read the last operation of a chain off the relation; those of one direction only
are for operations that cannot be undone.
-/

namespace AddonHost

namespace Session

/-- From `s` to `s'`, nothing has concerned a thread or a quiet topic. -/
structure Follows (quiet : Topic → Prop) (s s' : Session) : Prop where
  threads : s'.threads = s.threads
  producers : s'.producers.length = s.producers.length
  invokers : s'.invokers.length = s.invokers.length
  known (i : InvokerId) : (s'.invokers.get? i).isSome = (s.invokers.get? i).isSome
  ids : s.ids.next ≤ s'.ids.next
  /-- Objects that were created meanwhile have fresh ids. -/
  created (x : Topic) :
    s'.Knows x → s.Knows x ∨ s.ids.next ≤ x.number ∧ x.number < s'.ids.next
  /-- Callbacks of engines that were ever given scripts stay known. -/
  scripts (slot : Nat) (e : Entry) :
    (s.scripts.get? (.engine slot e)).isSome → (s'.scripts.get? (.engine slot e)).isSome
  same (x : Topic) : quiet x → s'.view x = s.view x

/-- From `s` to `s'`, nothing has concerned a thread or any topic. -/
abbrev Unconcerned (s s' : Session) : Prop := Follows (fun _ => True) s s'

variable {quiet : Topic → Prop} {s s' s'' : Session}

@[simp, refl] theorem Follows.refl (s : Session) : Follows quiet s s :=
  ⟨rfl, rfl, rfl, fun _ => rfl, Nat.le_refl _, fun _ => .inl, fun _ _ h => h, fun _ _ => rfl⟩

theorem Unconcerned.refl (s : Session) : Unconcerned s s := Follows.refl s

theorem Follows.trans (h : Follows quiet s s') (h' : Follows quiet s' s'') :
    Follows quiet s s'' where
  threads := h'.threads.trans h.threads
  producers := h'.producers.trans h.producers
  invokers := h'.invokers.trans h.invokers
  known i := (h'.known i).trans (h.known i)
  ids := h.ids.trans h'.ids
  created x hx := by
    have h1 := h.ids
    have h2 := h'.ids
    rcases h'.created x hx with hx | hx
    · exact (h.created x hx).imp_right fun hx => ⟨hx.1, by omega⟩
    · exact .inr ⟨by omega, hx.2⟩
  scripts slot e hs := h'.scripts slot e (h.scripts slot e hs)
  same x hx := (h'.same x hx).trans (h.same x hx)

theorem Follows.weaken {quiet' : Topic → Prop} (h : Follows quiet s s')
    (hq : ∀ x, quiet' x → quiet x) : Follows quiet' s s' :=
  { h with same := fun x hx => h.same x (hq x hx) }

/-- An operation that can be undone does not matter at the end of a chain. -/
theorem follows_iff (h : Follows quiet s' s'') (h' : Follows quiet s'' s') :
    Follows quiet s s'' ↔ Follows quiet s s' :=
  ⟨fun hs => hs.trans h', fun hs => hs.trans h⟩

/-- An operation that gives out no ids and starts nothing can be undone. -/
theorem follows_iff_of_view (ht : s''.threads = s'.threads)
    (hp : s''.producers.length = s'.producers.length)
    (hi : s''.invokers.length = s'.invokers.length)
    (hk : ∀ i, (s''.invokers.get? i).isSome = (s'.invokers.get? i).isSome)
    (hids : s''.ids = s'.ids) (hs : s''.scripts = s'.scripts)
    (hknows : ∀ x, s''.Knows x ↔ s'.Knows x) (hview : ∀ x, quiet x → s''.view x = s'.view x) :
    Follows quiet s s'' ↔ Follows quiet s s' :=
  follows_iff
    ⟨ht, hp, hi, hk, by rw [hids], fun x hx => .inl ((hknows x).1 hx), fun _ _ h => hs ▸ h, hview⟩
    ⟨ht.symm, hp.symm, hi.symm, fun i => (hk i).symm, by rw [hids],
      fun x hx => .inl ((hknows x).2 hx), fun _ _ h => hs ▸ h, fun x hx => (hview x hx).symm⟩

/-- Changes of the fields that no topic shows. -/
@[simp] theorem follows_update (environment : Log.Variables) (logger : Log.Logger)
    (config : Option RuntimeConfig) (bindings : Assoc Word InvokerId)
    (injected : HostTable) (hosts : Assoc HostId Host) (engines : Engines)
    (names : Names) (completions : Nat) (signalled : List Nat)
    (occupations : Assoc InvokerId Occupation) (written complaints : List String)
    (halted : Bool) (hnames : names.multiplexers = s'.names.multiplexers) :
    Follows quiet s
        { s' with
          environment, logger, config, bindings, injected, hosts, engines, names,
          completions, signalled, occupations, written, complaints, halted } ↔
      Follows quiet s s' := by
  refine follows_iff_of_view rfl rfl rfl (fun _ => rfl) rfl rfl (fun x => ?_) fun x _ => ?_
  · cases x <;> rfl
  · cases x with
    | function f => rfl
    | job j => rfl
    | multiplexers => simp only [view, hnames]

/-- A change of the multiplexers and their wrapped handles. -/
theorem follows_multiplexers (hq : ¬quiet .multiplexers) (wrapped : Wrapped) (names : Names) :
    Follows quiet s { s' with wrapped, names } ↔ Follows quiet s s' := by
  refine follows_iff_of_view rfl rfl rfl (fun _ => rfl) rfl rfl (fun x => ?_) fun x hx => ?_
  · cases x <;> rfl
  · cases x with
    | function f => rfl
    | job j => rfl
    | multiplexers => exact absurd hx hq

/-! ### Operations -/

/-- An event that is about no quiet topic. -/
theorem follows_emit {e : Event} (he : ∀ x, quiet x → ¬e.isAbout x) :
    Follows quiet s (s'.emit e) ↔ Follows quiet s s' := by
  refine follows_iff_of_view rfl rfl rfl (fun _ => rfl) rfl rfl (fun x => ?_) fun x hx => ?_
  · cases x <;> rfl
  · exact view_emit (he x hx)

@[simp] theorem follows_log (level : Log.Level) (text : String) :
    Follows quiet s (s'.log level text) ↔ Follows quiet s s' := by
  simp only [log]
  split_ifs <;> simp [follows_emit, Event.topic?]

@[simp] theorem follows_setLogger (g : Log.Logger) :
    Follows quiet s (s'.setLogger g) ↔ Follows quiet s s' := by
  simp [setLogger]

@[simp] theorem follows_complain (line : String) :
    Follows quiet s (s'.complain line) ↔ Follows quiet s s' := by
  simp [complain]

@[simp] theorem follows_halt : Follows quiet s s'.halt ↔ Follows quiet s s' := by
  simp [halt]

@[simp] theorem follows_setVariable (name : String) (w : Word) :
    Follows quiet s (s'.setVariable name w) ↔ Follows quiet s s' := by
  simp [setVariable]

@[simp] theorem follows_keepHost (h : HostId) :
    Follows quiet s (s'.keepHost h) ↔ Follows quiet s s' := by
  simp [keepHost]

@[simp] theorem follows_releaseHost (h : HostId) :
    Follows quiet s (s'.releaseHost h) ↔ Follows quiet s s' := by
  simp [releaseHost]

@[simp] theorem follows_signal (completion : Option Nat) :
    Follows quiet s (s'.signal completion) ↔ Follows quiet s s' := by
  unfold signal
  split
  · rfl
  · simp

@[simp] theorem follows_readConfig :
    Follows quiet s s'.readConfig.2 ↔ Follows quiet s s' := by
  unfold readConfig
  split
  · rfl
  · simp

@[simp] theorem follows_setRegistry (name : String) (r : Registry String) :
    Follows quiet s (s'.setRegistry name r) ↔ Follows quiet s s' := by
  simp [setRegistry]

@[simp] theorem follows_injectTable (table : HostTable) :
    Follows quiet s (s'.injectTable table) ↔ Follows quiet s s' := by
  simp [injectTable]

@[simp] theorem follows_reportFatal (location message : RawText) :
    Follows quiet s (s'.reportFatal location message) ↔ Follows quiet s s' := by
  simp [reportFatal]

/-- A change of an invoker that leaves the tasks of quiet topics in its queue alone. -/
theorem follows_modifyInvoker (i : InvokerId) {g : Invoker → Invoker}
    (hg : ∀ x, quiet x → ∀ inv, (g inv).about x = inv.about x) :
    Follows quiet s (s'.modifyInvoker i g) ↔ Follows quiet s s' := by
  refine follows_iff_of_view rfl rfl (Assoc.length_modify ..) (fun k => ?_) rfl rfl (fun x => ?_)
    fun x hx => view_modifyInvoker (hg x hx)
  · simp only [modifyInvoker, Assoc.get?_modify]
    split <;> simp
  · cases x <;> rfl

/-- A change of an invoker that leaves its queue alone. -/
theorem follows_modifyInvoker_of_queue (i : InvokerId) {g : Invoker → Invoker}
    (hg : ∀ inv, (g inv).queue = inv.queue) :
    Follows quiet s (s'.modifyInvoker i g) ↔ Follows quiet s s' :=
  follows_modifyInvoker i fun x _ inv => by rw [Invoker.about, hg, Invoker.about]

@[simp] theorem follows_keepInvoker (i : InvokerId) :
    Follows quiet s (s'.keepInvoker i) ↔ Follows quiet s s' :=
  follows_modifyInvoker_of_queue i fun _ => rfl

@[simp] theorem follows_releaseOccupation (i : InvokerId) :
    Follows quiet s (s'.releaseOccupation i) ↔ Follows quiet s s' := by
  unfold releaseOccupation
  split
  · simp
  · rfl

@[simp] theorem follows_countExecuted (i : InvokerId) :
    Follows quiet s (s'.countExecuted i) ↔ Follows quiet s s' :=
  follows_modifyInvoker_of_queue i (Invoker.queue_mapManual · fun _ => rfl)

/-- A change of an interpreter thread that leaves its queue alone. -/
theorem follows_modifyInterpreter (i : InvokerId) {g : InterpreterThread → InterpreterThread}
    (hg : ∀ r, (g r).queue = r.queue) :
    Follows quiet s (s'.modifyInterpreter i g) ↔ Follows quiet s s' :=
  follows_modifyInvoker_of_queue i (Invoker.queue_mapThread · hg)

@[simp] theorem follows_requestShutdown (i : InvokerId) :
    Follows quiet s (s'.requestShutdown i) ↔ Follows quiet s s' :=
  follows_modifyInterpreter i fun _ => rfl

@[simp] theorem follows_endTask {e : Event} (he : e.topic? = none) (sub : Submission) :
    Follows quiet s (s'.endTask e sub) ↔ Follows quiet s s' := by
  simp [endTask, follows_emit, he]

@[simp] theorem follows_endProducer (n : Nat) (a : Answer) :
    Follows quiet s (s'.endProducer n a) ↔ Follows quiet s s' := by
  refine follows_iff_of_view rfl (by simp [endProducer]) rfl (fun _ => rfl) rfl rfl (fun x => ?_)
    fun x _ => ?_ <;>
    cases x <;> rfl

/-- A change of a function that is not quiet. -/
theorem follows_modifyFunction {f : HandleId} (hf : ¬quiet (.function f))
    (change : ThreadsafeFunction → ThreadsafeFunction) :
    Follows quiet s (s'.modifyFunction f change) ↔ Follows quiet s s' := by
  refine follows_iff_of_view rfl rfl rfl (fun _ => rfl) rfl rfl (fun x => ?_) fun x hx => ?_
  · cases x with
    | function g =>
      simp only [Knows, modifyFunction, Registry.object?_modify, Registry.owns, Registry.ids_modify]
      split <;> simp
    | _ => rfl
  · cases x with
    | function g =>
      have hne : f ≠ g := fun h => hf (h ▸ hx)
      simp only [view, modifyFunction, Registry.object?_modify, if_neg hne]
      rfl
    | _ => rfl

/-- A change of a job that is not quiet. -/
theorem follows_modifyJob {j : HandleId} (hj : ¬quiet (.job j)) (change : AsyncJob → AsyncJob) :
    Follows quiet s (s'.modifyJob j change) ↔ Follows quiet s s' := by
  refine follows_iff_of_view rfl rfl rfl (fun _ => rfl) rfl rfl (fun x => ?_) fun x hx => ?_
  · cases x with
    | job k =>
      simp only [Knows, modifyJob, Registry.object?_modify, Registry.owns, Registry.ids_modify]
      split <;> simp
    | _ => rfl
  · cases x with
    | job k =>
      have hne : j ≠ k := fun h => hj (h ▸ hx)
      simp only [view, modifyJob, Registry.object?_modify, if_neg hne]
      rfl
    | _ => rfl

/-- A task is queued that is about no quiet topic. -/
theorem follows_enqueue (i : InvokerId) (inv : Invoker) {task : Task} (completion : Option Nat)
    (hk : ∀ x, quiet x → ¬task.isAbout x) :
    Follows quiet s (s'.enqueue i inv task completion) ↔ Follows quiet s s' := by
  unfold enqueue
  rw [follows_emit, follows_modifyInvoker]
  · intro x hx inv
    have hne := hk x hx
    simp_all [Invoker.about, TaskQueue.submission]
  · intro x hx
    have hne := hk x hx
    cases task <;> simp_all [Event.topic?, Task.topic?, TaskQueue.submission]

/-- A task is submitted that is about no quiet topic. -/
theorem follows_offer (t : ThreadId) (i : InvokerId) (sync : Bool) {task : Task}
    (hk : ∀ x, quiet x → ¬task.isAbout x) :
    Follows quiet s (s'.offer t i sync task).2 ↔ Follows quiet s s' := by
  unfold offer
  split
  · rfl
  · split
    · have hcount := fun inv : Invoker => inv.queue_mapManual
        (f := fun m => { m with offered := m.offered + 1 }) fun _ => rfl
      simp only
      split_ifs <;>
        simp [enqueueAwaited, follows_enqueue _ _ _ hk, follows_modifyInvoker_of_queue i hcount]
    · have hcount := fun inv : Invoker => inv.queue_mapThread
        (f := fun r => { r with syncTasks := r.syncTasks + 1 }) fun _ => rfl
      simp only
      split_ifs <;>
        simp [enqueueAwaited, follows_enqueue _ _ _ hk, follows_modifyInvoker_of_queue i hcount]

theorem Follows.of_offer {t : ThreadId} {i : InvokerId} {sync : Bool} {task : Task} {o : Offer}
    (h : s.offer t i sync task = (o, s')) (hk : ∀ x, quiet x → ¬task.isAbout x) :
    Follows quiet s s' := by
  have hs := (follows_offer (s := s) t i sync hk).2 (.refl s)
  rwa [h] at hs

/-- Ids are given out. -/
theorem Follows.freshId (h : Follows quiet s s') : Follows quiet s s'.freshId.2 := by
  refine h.trans ⟨rfl, rfl, rfl, fun _ => rfl, Nat.le_succ _, fun x hx => .inl ?_, fun _ _ h => h,
    fun x _ => ?_⟩ <;>
    cases x <;> first | exact hx | rfl

/-- A function stops resolving, and none is quiet. -/
theorem Follows.eraseFunction (h : Follows quiet s s') (hq : ∀ f, ¬quiet (.function f))
    (g : HandleId) : Follows quiet s { s' with functions := s'.functions.erase g } := by
  refine h.trans ⟨rfl, rfl, rfl, fun _ => rfl, Nat.le_refl _, fun x hx => .inl ?_, fun _ _ h => h,
    fun x hx => ?_⟩
  · cases x with
    | function f =>
      refine hx.imp_right fun howns => ?_
      rw [Registry.owns_erase, Bool.and_eq_true] at howns
      exact howns.1
    | _ => exact hx
  · cases x with
    | function f => exact absurd hx (hq f)
    | _ => rfl

/-- A job stops resolving, and none is quiet. -/
theorem Follows.eraseJob (h : Follows quiet s s') (hq : ∀ j, ¬quiet (.job j)) (k : HandleId) :
    Follows quiet s { s' with jobs := s'.jobs.erase k } := by
  refine h.trans ⟨rfl, rfl, rfl, fun _ => rfl, Nat.le_refl _, fun x hx => .inl ?_, fun _ _ h => h,
    fun x hx => ?_⟩
  · cases x with
    | job j =>
      refine hx.imp_right fun howns => ?_
      rw [Registry.owns_erase, Bool.and_eq_true] at howns
      exact howns.1
    | _ => exact hx
  · cases x with
    | job j => exact absurd hx (hq j)
    | _ => rfl

theorem knows_insert {α : Type} (r : Registry α) (n : ℕ) (a : α) {id : HandleId}
    (h : ((r.insert ⟨n⟩ a).object? id).isSome ∨ (r.insert ⟨n⟩ a).owns id = true) :
    ((r.object? id).isSome ∨ r.owns id = true) ∨ n ≤ id.number ∧ id.number < n + 1 := by
  by_cases hne : (⟨n⟩ : HandleId) = id
  · subst hne
    exact .inr ⟨le_rfl, Nat.lt_succ_self _⟩
  · rw [Registry.object?_insert, if_neg hne, Registry.owns_insert_of_ne _ hne,
      Bool.and_eq_true] at h
    exact .inl (h.imp_right And.left)

/-- A function is registered under a fresh id, and none is quiet. -/
theorem Follows.insertFunction (h : Follows quiet s s') (hq : ∀ f, ¬quiet (.function f))
    (fn : ThreadsafeFunction) :
    Follows quiet s { s' with
      ids := ⟨s'.ids.next + 1⟩, functions := s'.functions.insert ⟨s'.ids.next⟩ fn } := by
  refine h.trans ⟨rfl, rfl, rfl, fun _ => rfl, Nat.le_succ _, fun x hx => ?_, fun _ _ h => h,
    fun x hx => ?_⟩
  · cases x with
    | function f => exact knows_insert _ _ _ hx
    | _ => exact .inl hx
  · cases x with
    | function f => exact absurd hx (hq f)
    | _ => rfl

/-- A job is registered under a fresh id, and none is quiet. -/
theorem Follows.insertJob (h : Follows quiet s s') (hq : ∀ j, ¬quiet (.job j)) (job : AsyncJob) :
    Follows quiet s { s' with
      ids := ⟨s'.ids.next + 1⟩, jobs := s'.jobs.insert ⟨s'.ids.next⟩ job } := by
  refine h.trans ⟨rfl, rfl, rfl, fun _ => rfl, Nat.le_succ _, fun x hx => ?_, fun _ _ h => h,
    fun x hx => ?_⟩
  · cases x with
    | job j => exact knows_insert _ _ _ hx
    | _ => exact .inl hx
  · cases x with
    | job j => exact absurd hx (hq j)
    | _ => rfl

/-- A callback is given scripts. -/
theorem Follows.insertScripts (h : Follows quiet s s') (key : ScriptKey)
    (scripts : List (List Action)) :
    Follows quiet s { s' with scripts := s'.scripts.insert key scripts } := by
  refine h.trans ⟨rfl, rfl, rfl, fun _ => rfl, Nat.le_refl _, fun x hx => .inl ?_, ?_,
    fun x _ => ?_⟩
  · cases x <;> exact hx
  · intro slot e hs
    simp only [Assoc.get?_insert]
    split
    · rfl
    · exact hs
  · cases x <;> rfl

/-- A script is used up. -/
theorem Follows.fire (h : Follows quiet s s') (key : ScriptKey) :
    Follows quiet s (s'.fire key).2 := by
  unfold Session.fire
  split
  · exact h.insertScripts key _
  · exact h

end Session

end AddonHost
