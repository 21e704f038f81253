import AddonHost.Proofs.Function.Life

/-!
What a run keeps in order.

A `Mark` is what one event means to one threadsafe function; `Life.marks` are those of a life, and
`Life.tasks` are its tasks in the queue of the invoker that it was created for.  The invariants here
hold in every run (`Life.Run`), whoever acts:

* a function that does not exist has left no trace (`Run.eq_unborn`);
* every task is queued and run on the function's own invoker (`Run.invoker?_of_mem`,
  `Run.invoker?_of_runner?`);
* what was appended is what was taken and what is queued (`Run.appended_eq`);
* every queued item has a dispatch task that is queued or started, or that was lost
  (`Run.length_queue`).
-/

namespace AddonHost

/-- What an event means to one threadsafe function. -/
inductive Mark where
  | appended (data : Word)
  | taken (data : Word)
  /-- The addon was handed an item. -/
  | delivered (data : Word)
  /-- The function behind the reference was called for an item. -/
  | functionCalled
  /-- A dispatch task was handed back, or discarded. -/
  | drainLost
  | aborted
  | closed
  | teardownOffered (accepted : Bool)
  | teardownLost
  | teardownStarted
  | finalizerCalled
  | teardownEnded
  deriving DecidableEq

namespace Mark

/-- The item that was appended. -/
def appended? : Mark → Option Word
  | appended data => some data
  | _ => none

/-- The item that was taken. -/
def taken? : Mark → Option Word
  | taken data => some data
  | _ => none

/-- The item that was delivered. -/
def delivered? : Mark → Option Word
  | delivered data => some data
  | _ => none

@[simp] theorem appended?_appended (data : Word) : (appended data).appended? = some data := rfl

@[simp] theorem appended?_eq_none_iff {m : Mark} :
    m.appended? = none ↔ ∀ data, m ≠ .appended data := by
  cases m <;> simp [appended?]

@[simp] theorem taken?_taken (data : Word) : (taken data).taken? = some data := rfl

@[simp] theorem taken?_eq_none_iff {m : Mark} : m.taken? = none ↔ ∀ data, m ≠ .taken data := by
  cases m <;> simp [taken?]

@[simp] theorem delivered?_delivered (data : Word) :
    (delivered data).delivered? = some data := rfl

@[simp] theorem delivered?_eq_none_iff {m : Mark} :
    m.delivered? = none ↔ ∀ data, m ≠ .delivered data := by
  cases m <;> simp [delivered?]

end Mark

/-- What is lost when a queued task is discarded. -/
def FunctionTask.lost : FunctionTask → Mark
  | drain => .drainLost
  | teardown => .teardownLost

/-- What an event means to a threadsafe function. -/
def Event.mark? (f : HandleId) : Event → Option Mark
  | appended g data => if g = f then some (.appended data) else none
  | taken g data => if g = f then some (.taken data) else none
  | callJs g _ _ _ data => if g = f then some (.delivered data) else none
  | functionCalled g => if g = f then some .functionCalled else none
  | drainOffered g accepted => if g = f ∧ accepted = false then some .drainLost else none
  | aborted g => if g = f then some .aborted else none
  | closed g => if g = f then some .closed else none
  | teardownOffered g accepted => if g = f then some (.teardownOffered accepted) else none
  | discarded _ sub => (sub.task.part? f).map FunctionTask.lost
  | teardownStarted g => if g = f then some .teardownStarted else none
  | finalizerCalled g => if g = f then some .finalizerCalled else none
  | teardownEnded g => if g = f then some .teardownEnded else none
  | log .. | finalize .. | execute .. | complete .. | engine .. | engineRegister ..
  | engineFatal .. | clientTask | did .. | drainStarted .. | acquired .. | released .. | jobCancelled ..
  | jobDeleted ..
  | workStarted .. | queued .. | started .. | ended .. | failed .. | ranInline .. => none

/-- An event means something to the functions that it concerns alone. -/
theorem Event.mark?_eq_none {f : HandleId} {e : Event} (h : e.concerns f = false) :
    e.mark? f = none := by
  cases e <;> simp_all [concerns, mark?]

@[simp] theorem Event.filterMap_mark?_acquired (f g : HandleId) (n : Word) (es : List Event) :
    (acquired g n :: es).filterMap (mark? f) = es.filterMap (mark? f) := rfl

@[simp] theorem Event.filterMap_mark?_released (f g : HandleId) (n : Word) (es : List Event) :
    (released g n :: es).filterMap (mark? f) = es.filterMap (mark? f) := rfl

namespace Activity

/-- Whether a dispatch task is about to run. -/
def isStarting : Activity → Bool
  | starting _ => true
  | waiting _ | delivering .. | calling _ | draining .. | ending _ | finalizerDue _ | finalizing _
  | unregistering _ => false

/-- The invoker whose task is being run, if what is done belongs to a dispatch task. -/
def runner? : Activity → Option (Option InvokerId)
  | starting i | delivering i _ | calling i | draining i _ => some i
  | waiting _ | ending _ | finalizerDue _ | finalizing _ | unregistering _ => none

end Activity

/-- How many of some activities are of a kind. -/
def tally (p : Activity → Bool) (doing : Multiset Activity) : ℕ := doing.countP (p · = true)

@[simp] theorem tally_zero (p : Activity → Bool) : tally p 0 = 0 := rfl

@[simp] theorem tally_cons (p : Activity → Bool) (a : Activity) (kept : Multiset Activity) :
    tally p (a ::ₘ kept) = tally p kept + if p a then 1 else 0 :=
  Multiset.countP_cons _ _ _

theorem tally_add (p : Activity → Bool) (own : List Activity) (kept : Multiset Activity) :
    tally p (own + kept) = own.countP p + tally p kept := by
  rw [tally, Multiset.countP_add, Multiset.coe_countP]
  simp [tally]

namespace Life

/-- The items that are queued. -/
def queue (l : Life) : List Word := (l.function.map ThreadsafeFunction.queue).getD []

/-- The invoker that the function was created for. -/
def invoker? (l : Life) : Option InvokerId := l.function.bind ThreadsafeFunction.invoker

/-- The tasks in the queue of the invoker that the function was created for. -/
def tasks (l : Life) : List FunctionTask := (l.invoker?.map l.queued).getD []

/-- What the events told mean to the function. -/
def marks (f : HandleId) (l : Life) : List Mark := l.told.filterMap (Event.mark? f)

variable {f : HandleId} {alone : Prop} {l l' : Life} {doing : Multiset Activity}
  {own own' : List Activity} {fn fn' : ThreadsafeFunction} {es : List Event}

/-! ### Lives after a change -/

@[simp] theorem function_become (l : Life) (fn : ThreadsafeFunction) :
    (l.become fn).function = some fn := rfl

@[simp] theorem told_become (l : Life) (fn : ThreadsafeFunction) :
    (l.become fn).told = l.told := rfl

@[simp] theorem queued_become (l : Life) (fn : ThreadsafeFunction) :
    (l.become fn).queued = l.queued := rfl

@[simp] theorem function_tell (l : Life) (es : List Event) :
    (l.tell es).function = l.function := rfl

@[simp] theorem told_tell (l : Life) (es : List Event) : (l.tell es).told = l.told ++ es := rfl

@[simp] theorem queued_tell (l : Life) (es : List Event) : (l.tell es).queued = l.queued := rfl

@[simp] theorem function_requeue (l : Life) (i : InvokerId) (tasks : List FunctionTask) :
    (l.requeue i tasks).function = l.function := rfl

@[simp] theorem told_requeue (l : Life) (i : InvokerId) (tasks : List FunctionTask) :
    (l.requeue i tasks).told = l.told := rfl

@[simp] theorem queued_requeue (l : Life) (i : InvokerId) (tasks : List FunctionTask) :
    (l.requeue i tasks).queued = Function.update l.queued i tasks := rfl

@[simp] theorem function_enqueue (l : Life) (i : InvokerId) (k : FunctionTask) :
    (l.enqueue i k).function = l.function := rfl

@[simp] theorem told_enqueue (l : Life) (i : InvokerId) (k : FunctionTask) :
    (l.enqueue i k).told = l.told := rfl

@[simp] theorem queued_enqueue (l : Life) (i : InvokerId) (k : FunctionTask) :
    (l.enqueue i k).queued = Function.update l.queued i (l.queued i ++ [k]) := rfl

@[simp] theorem registered_become (l : Life) (fn : ThreadsafeFunction) :
    (l.become fn).registered = l.registered := rfl

@[simp] theorem registered_tell (l : Life) (es : List Event) :
    (l.tell es).registered = l.registered := rfl

@[simp] theorem registered_requeue (l : Life) (i : InvokerId) (tasks : List FunctionTask) :
    (l.requeue i tasks).registered = l.registered := rfl

@[simp] theorem registered_enqueue (l : Life) (i : InvokerId) (k : FunctionTask) :
    (l.enqueue i k).registered = l.registered := rfl

@[simp] theorem nextId_become (l : Life) (fn : ThreadsafeFunction) :
    (l.become fn).nextId = l.nextId := rfl

@[simp] theorem nextId_tell (l : Life) (es : List Event) : (l.tell es).nextId = l.nextId := rfl

@[simp] theorem nextId_requeue (l : Life) (i : InvokerId) (tasks : List FunctionTask) :
    (l.requeue i tasks).nextId = l.nextId := rfl

@[simp] theorem nextId_enqueue (l : Life) (i : InvokerId) (k : FunctionTask) :
    (l.enqueue i k).nextId = l.nextId := rfl

@[simp] theorem marks_become (f : HandleId) (l : Life) (fn : ThreadsafeFunction) :
    (l.become fn).marks f = l.marks f := rfl

@[simp] theorem marks_tell (f : HandleId) (l : Life) (es : List Event) :
    (l.tell es).marks f = l.marks f ++ es.filterMap (Event.mark? f) :=
  List.filterMap_append

@[simp] theorem marks_requeue (f : HandleId) (l : Life) (i : InvokerId)
    (tasks : List FunctionTask) : (l.requeue i tasks).marks f = l.marks f := rfl

@[simp] theorem marks_enqueue (f : HandleId) (l : Life) (i : InvokerId) (k : FunctionTask) :
    (l.enqueue i k).marks f = l.marks f := rfl

@[simp] theorem marks_mk (f : HandleId) (l : Life) (function : Option ThreadsafeFunction)
    (registered : Bool) (queued : InvokerId → List FunctionTask) (nextId : ℕ) :
    marks f { l with function, registered, queued, nextId } = l.marks f := rfl

@[simp] theorem marks_unborn (f : HandleId) (n : ℕ) : (unborn n).marks f = [] := rfl

@[simp] theorem queued_unborn (n : ℕ) (i : InvokerId) : (unborn n).queued i = [] := rfl

/-! ### Functions that do not exist, and what never changes -/

theorem Step.function_eq_none (h : Step f l own l' own') (hl : l'.function = none) :
    l.function = none := by
  cases h <;> simp_all

theorem concerns_discarded (f : HandleId) (i : InvokerId) (subs : List Submission) :
    (subs.map (Event.discarded i)).filter (Event.concerns f)
      = (subs.filter fun sub => (sub.task.part? f).isSome).map (Event.discarded i) := by
  rw [List.filter_map]
  rfl

/-- A function that does not exist has left no trace. -/
theorem Run.eq_unborn (h : Run f alone l doing) (hl : l.function = none) :
    l = .unborn l.nextId ∧ doing = 0 := by
  induction h with
  | unborn n => exact ⟨rfl, rfl⟩
  | @step l l' own own' kept hr hs _ ih =>
    obtain ⟨hl', h0⟩ := ih (hs.function_eq_none hl)
    obtain ⟨rfl, rfl⟩ : own = [] ∧ kept = 0 := by simpa using h0
    generalize l.nextId = n at hl'
    subst hl'
    cases hs with
    | aside | displace | absent => exact ⟨rfl, rfl⟩
    | start i hq => cases hq
    | @discard i rest subs hrest hsubs =>
      rw [queued_unborn, List.perm_nil, List.append_eq_nil_iff] at hsubs
      obtain ⟨rfl, hsubs⟩ := hsubs
      have hnone : subs.filter (fun sub => (sub.task.part? f).isSome) = [] := by
        simpa [List.filter_eq_nil_iff] using hsubs
      rw [concerns_discarded, hnone]
      exact ⟨by simp [tell, requeue, Life.unborn], rfl⟩
    | create => simp at hl
    | _ => simp_all [Life.unborn]

/-- What threads have to do for a function that does not exist. -/
theorem Run.eq_nil_of_absent {kept : Multiset Activity} (h : Run f alone l (own + kept))
    (hl : l.function = none) : l = .unborn l.nextId ∧ own = [] ∧ kept = 0 := by
  obtain ⟨hunborn, h0⟩ := h.eq_unborn hl
  exact ⟨hunborn, by simpa using h0⟩

/-- A cause of closing changes the count of holders, the sleepers and flags alone. -/
theorem Cause.eq (h : Cause f fn own fn' es) :
    ∃ n a c sl, fn' = { fn with threadCount := n, aborted := a, closing := c, sleepers := sl } := by
  cases h with
  | abort => exact ⟨_, _, _, _, rfl⟩
  | lastHolder => exact ⟨_, _, _, _, rfl⟩
  | lastItem => exact ⟨_, _, _, _, rfl⟩

theorem Cause.isOpen (h : Cause f fn own fn' es) : fn.closing = false := by
  cases h <;> assumption

theorem pop_fst (fn : ThreadsafeFunction) : fn.pop.1 = fn.queue.head? := by
  unfold ThreadsafeFunction.pop
  cases fn.queue <;> rfl

theorem pop_snd (fn : ThreadsafeFunction) :
    fn.pop.2
      = { fn with
          queue := fn.queue.tail
          sleepers :=
            if fn.queue = [] ∨ fn.maxQueueSize = 0 then fn.sleepers else fn.sleepers.drop 1 } := by
  obtain ⟨⟩ := fn
  unfold ThreadsafeFunction.pop
  split <;> simp_all

theorem exists_of_mem_deliveries {i : Option InvokerId} {a : Activity}
    (h : a ∈ deliveries fn i) : ∃ data, a = .delivering i data := by
  unfold deliveries at h
  split at h
  · simp at h
  · obtain ⟨data, -, rfl⟩ := List.mem_map.1 h
    exact ⟨data, rfl⟩

/-- What is told of an item that is taken. -/
theorem filterMap_takenEvents (f : HandleId) (fn : ThreadsafeFunction) :
    (.drainStarted f :: takenEvents f fn).filterMap (Event.mark? f)
      = fn.queue.head?.toList.map Mark.taken := by
  rw [takenEvents, pop_fst]
  cases fn.queue <;> simp [List.filterMap_cons, Event.mark?]

/-- What a function is created with is never changed. -/
theorem Step.exists_function (h : Step f l own l' own') (hl : l.function = some fn) :
    ∃ fn', l'.function = some fn' ∧ fn'.invoker = fn.invoker ∧ fn'.callJs = fn.callJs ∧
      fn'.maxQueueSize = fn.maxQueueSize := by
  cases h with
  | closeAgain hl' hc | closeQueued _ hl' hc | closeAtOnce hl' hc =>
    obtain ⟨n, a, c, sl, rfl⟩ := hc.eq
    obtain rfl := Option.some.inj (hl'.symm.trans hl)
    exact ⟨_, rfl, rfl, rfl, rfl⟩
  | drain i hl' =>
    obtain rfl := Option.some.inj (hl'.symm.trans hl)
    exact ⟨_, rfl, by rw [pop_snd], by rw [pop_snd], by rw [pop_snd]⟩
  | _ => simp_all [ThreadsafeFunction.acquire, ThreadsafeFunction.push,
      ThreadsafeFunction.dropHolder, ThreadsafeFunction.sleep]

/-- A teardown has at most one finalizer to call. -/
theorem finalizersDue_eq (fn : ThreadsafeFunction) :
    finalizersDue fn = [] ∨ ∃ calls, finalizersDue fn = [.finalizerDue calls] := by
  unfold finalizersDue
  cases fn.finalizer with
  | none => exact .inl rfl
  | some fin => exact .inr ⟨_, rfl⟩

/-! ### The invoker of the tasks -/

theorem Step.invoker?_eq (h : Step f l own l' own') {i : InvokerId} (hi : l.invoker? = some i) :
    l'.invoker? = some i := by
  obtain ⟨fn, hl, hi⟩ := Option.bind_eq_some_iff.1 hi
  obtain ⟨fn', hl', hinvoker, -⟩ := h.exists_function hl
  rw [invoker?, hl', Option.bind_some, hinvoker, hi]

/-- A task is queued on no invoker but the function's own. -/
theorem Run.invoker?_of_mem (h : Run f alone l doing) {i : InvokerId} {k : FunctionTask}
    (hk : k ∈ l.queued i) : l.invoker? = some i := by
  induction h generalizing k with
  | unborn n => simp at hk
  | @step l l' own own' kept hr hs _ ih =>
    by_cases hold : ∃ k, k ∈ l.queued i
    · obtain ⟨k, hold⟩ := hold
      exact hs.invoker?_eq (ih hold)
    · have hnone : l.queued i = [] := by simpa [List.eq_nil_iff_forall_not_mem] using hold
      cases hs with
      | @appendQueued fn _ data j hl _ _ _ hj =>
        by_cases hij : i = j
        · simp [invoker?, ThreadsafeFunction.push, hj, hij]
        · simp [Function.update_of_ne hij, hnone] at hk
      | @closeQueued fn _ _ _ j hl hc _ hj =>
        by_cases hij : i = j
        · obtain ⟨n, a, c, sl, rfl⟩ := hc.eq
          simp [invoker?, ThreadsafeFunction.close, ThreadsafeFunction.wakeAll, hj, hij]
        · simp [Function.update_of_ne hij, hnone] at hk
      | @start j _ rest hq =>
        by_cases hij : i = j
        · simp [← hij, hnone] at hq
        · simp [Function.update_of_ne hij, hnone] at hk
      | @discard j rest subs hrest =>
        by_cases hij : i = j
        · subst hij
          simp_all
        · simp [Function.update_of_ne hij, hnone] at hk
      | _ => simp_all

/-- What belongs to a dispatch task is done on the function's own invoker. -/
theorem Run.invoker?_of_runner? (h : Run f alone l doing) {a : Activity} {o : Option InvokerId}
    (ha : a ∈ doing) (ho : a.runner? = some o) : ∃ i, o = some i ∧ l.invoker? = some i := by
  induction h generalizing a o with
  | unborn n => simp at ha
  | @step l l' own own' kept hr hs _ ih =>
    have hold : ∀ b ∈ own + kept, b.runner? = some o → ∃ i, o = some i ∧ l'.invoker? = some i := by
      intro b hb hbo
      obtain ⟨i, hoi, hi⟩ := ih hb hbo
      exact ⟨i, hoi, hs.invoker?_eq hi⟩
    rcases Multiset.mem_add.1 ha with ha | ha
    · cases hs with
      | @appendInline fn _ data i hl _ _ _ hi =>
        simp_all [Activity.runner?, invoker?, ThreadsafeFunction.push]
      | @start i k rest hq =>
        have hi := hr.invoker?_of_mem (i := i) (k := k) (by simp [hq])
        cases k <;> simp_all [Activity.ofTask, Activity.runner?, invoker?, requeue]
      | @drain fn i hl =>
        have hrunner : a.runner? = some i := by
          rcases List.mem_append.1 (Multiset.mem_coe.1 ha) with ha | ha
          · obtain ⟨data, rfl⟩ := exists_of_mem_deliveries ha
            rfl
          · obtain rfl := List.mem_singleton.1 ha
            rfl
        exact hold (.starting i) (by simp) (hrunner.symm.trans ho)
      | @find fn i data hl hjs =>
        exact hold (.delivering i data) (by simp) (by simp_all [Activity.runner?])
      | @teardown fn atOnce hl =>
        have hnone : a.runner? = none := by
          rcases finalizersDue_eq fn with hdue | ⟨calls, hdue⟩ <;> simp [hdue] at ha
          · exact ha ▸ rfl
          · rcases ha with rfl | rfl <;> rfl
        exact absurd (hnone.symm.trans ho) (by simp)
      | aside | displace => exact hold a (by simp_all) ho
      | _ => simp_all [Activity.runner?]
    · exact hold a (by simp [ha]) ho

/-! ### The tasks of the function -/

@[simp] theorem tasks_tell (l : Life) (es : List Event) : (l.tell es).tasks = l.tasks := rfl

/-- The tasks, when it is known for which invoker the function was created. -/
theorem tasks_eq {i : InvokerId} (hi : l.invoker? = some i) : l.tasks = l.queued i := by
  simp [tasks, hi]

theorem tasks_become (hl : l.function = some fn) (hi : fn'.invoker = fn.invoker) :
    (l.become fn').tasks = l.tasks := by
  simp [tasks, invoker?, hl, hi]

theorem tasks_enqueue {i : InvokerId} (hi : l.invoker? = some i) (k : FunctionTask) :
    (l.enqueue i k).tasks = l.tasks ++ [k] := by
  have hi' : (l.enqueue i k).invoker? = some i := hi
  rw [tasks_eq hi', tasks_eq hi]
  exact Function.update_self ..

theorem tasks_requeue_self {i : InvokerId} (hi : l.invoker? = some i)
    (rest : List FunctionTask) : (l.requeue i rest).tasks = rest := by
  have hi' : (l.requeue i rest).invoker? = some i := hi
  rw [tasks_eq hi']
  exact Function.update_self ..

theorem tasks_requeue_of_ne {i : InvokerId} (hi : l.invoker? ≠ some i)
    (rest : List FunctionTask) : (l.requeue i rest).tasks = l.tasks := by
  have hinvoker : (l.requeue i rest).invoker? = l.invoker? := rfl
  unfold tasks
  rw [hinvoker]
  cases hj : l.invoker? with
  | none => rfl
  | some j => exact Function.update_of_ne (fun h : j = i => hi (h ▸ hj)) ..

theorem Run.tasks_start (h : Run f alone l doing) {i : InvokerId} {k : FunctionTask}
    {rest : List FunctionTask} (hq : l.queued i = k :: rest) :
    l.tasks = k :: rest ∧ (l.requeue i rest).tasks = rest := by
  have hi := h.invoker?_of_mem (i := i) (k := k) (by simp [hq])
  exact ⟨(tasks_eq hi).trans hq, tasks_requeue_self hi rest⟩

/-- What is told of discarded tasks means that they are lost. -/
theorem filterMap_mark?_discarded (f : HandleId) (i : InvokerId) (subs : List Submission) :
    ((subs.map (Event.discarded i)).filter (Event.concerns f)).filterMap (Event.mark? f)
      = (subs.filterMap fun sub => sub.task.part? f).map FunctionTask.lost := by
  induction subs with
  | nil => rfl
  | cons sub subs ih =>
    rw [List.map_cons, List.filter_cons]
    cases hpart : sub.task.part? f <;>
      simp_all [Event.concerns, Event.mark?]

/-- What is lost is no item. -/
theorem filterMap_lost {α : Type} {g : Mark → Option α} (hd : g .drainLost = none)
    (ht : g .teardownLost = none) (lost : List FunctionTask) :
    (lost.map FunctionTask.lost).filterMap g = [] := by
  rw [List.filterMap_map, List.filterMap_eq_nil_iff]
  rintro (_ | _) _
  · exact hd
  · exact ht

/-- Nothing but losses is told of what is lost. -/
theorem notMem_lost {m : Mark} (hd : m ≠ .drainLost) (ht : m ≠ .teardownLost)
    (lost : List FunctionTask) : m ∉ lost.map FunctionTask.lost := by
  rw [List.mem_map]
  rintro ⟨_ | _, -, rfl⟩
  · exact hd rfl
  · exact ht rfl

theorem count_lost {m : Mark} (hd : m ≠ .drainLost) (ht : m ≠ .teardownLost)
    (lost : List FunctionTask) : (lost.map FunctionTask.lost).count m = 0 :=
  List.count_eq_zero.2 (notMem_lost hd ht lost)

/-- The tasks after some were discarded; what was lost is told. -/
theorem Run.tasks_discard (h : Run f alone l doing) {i : InvokerId} {rest : List FunctionTask}
    {subs : List Submission} (hrest : rest.Sublist (l.queued i))
    (hsubs : (rest ++ subs.filterMap fun sub => sub.task.part? f).Perm (l.queued i)) :
    ∃ lost, (l.requeue i rest).tasks.Sublist l.tasks ∧
      ((l.requeue i rest).tasks ++ lost).Perm l.tasks ∧
      ((subs.map (Event.discarded i)).filter (Event.concerns f)).filterMap (Event.mark? f)
        = lost.map FunctionTask.lost := by
  refine ⟨_, ?_, ?_, filterMap_mark?_discarded f i subs⟩
  · by_cases hi : l.invoker? = some i
    · rw [tasks_eq hi, tasks_requeue_self hi]
      exact hrest
    · rw [tasks_requeue_of_ne hi]
  · by_cases hi : l.invoker? = some i
    · rw [tasks_eq hi, tasks_requeue_self hi]
      exact hsubs
    · have hnone : l.queued i = [] :=
        List.eq_nil_iff_forall_not_mem.2 fun k hk => hi (h.invoker?_of_mem hk)
      rw [hnone, List.perm_nil, List.append_eq_nil_iff] at hsubs
      rw [tasks_requeue_of_ne hi, hsubs.2, List.append_nil]

/-- What was appended is what was taken, and then what is queued. -/
theorem Run.appended_eq (h : Run f alone l doing) :
    (l.marks f).filterMap Mark.appended? = (l.marks f).filterMap Mark.taken? ++ l.queue := by
  induction h with
  | unborn n => rfl
  | @step l l' own own' kept hr hs _ ih =>
    cases hs with
    | @drain fn i hl =>
      rw [marks_tell, filterMap_takenEvents]
      cases hqueue : fn.queue <;> simp_all [queue, pop_snd]
    | discard i hrest hsubs =>
      obtain ⟨lost, -, -, hlost⟩ := hr.tasks_discard hrest hsubs
      simp only [marks_tell, marks_requeue, List.filterMap_append, hlost]
      rw [filterMap_lost rfl rfl, filterMap_lost rfl rfl, List.append_nil, List.append_nil]
      exact ih
    | closeAgain hl hc hs | closeQueued i hl hc hs hi | closeAtOnce hl hc hs =>
      cases hc <;>
        simp_all [queue, Event.mark?,
          ThreadsafeFunction.close, ThreadsafeFunction.wakeAll, ThreadsafeFunction.abort,
          ThreadsafeFunction.dropHolder]
    | _ =>
      simp_all [queue, Event.mark?,
        ThreadsafeFunction.create, ThreadsafeFunction.acquire, ThreadsafeFunction.push,
        ThreadsafeFunction.dropHolder, ThreadsafeFunction.sleep]

theorem count_lost_drain (lost : List FunctionTask) :
    (lost.map FunctionTask.lost).count .drainLost = lost.count .drain := by
  induction lost with
  | nil => rfl
  | cons k lost ih => cases k <;> simp_all [FunctionTask.lost]

/-- Every queued item has a dispatch task that is queued or started, or that was lost. -/
theorem Run.length_queue (h : Run f alone l doing) :
    l.queue.length = l.tasks.count .drain + tally Activity.isStarting doing
      + (l.marks f).count .drainLost := by
  induction h with
  | unborn n => rfl
  | @step l l' own own' kept hr hs _ ih =>
    rw [tally_add] at ih ⊢
    cases hs with
    | absent own hl =>
      obtain ⟨-, rfl, rfl⟩ := hr.eq_nil_of_absent hl
      exact ih
    | create env reference spec delivery invoker hl hn =>
      obtain ⟨hunborn, -, rfl⟩ := hr.eq_nil_of_absent hl
      rw [hunborn]
      cases invoker <;> rfl
    | appendLost data hl _ _ hown | appendQueued data i hl _ _ hown hi
    | appendInline data i hl _ _ hown hi =>
      rcases hown with rfl | ⟨t, rfl, -⟩ <;>
        simp_all [queue, tasks, invoker?, Event.mark?, Activity.isStarting,
          ThreadsafeFunction.push] <;>
        omega
    | sleep t hl _ _ hown =>
      rcases hown with rfl | ⟨rfl, -⟩ <;>
        simp_all [queue, tasks, invoker?, Activity.isStarting, ThreadsafeFunction.sleep]
    | closeAgain hl hc hs | closeQueued i hl hc hs hi | closeAtOnce hl hc hs =>
      cases hc <;>
        simp_all [queue, tasks, invoker?, Event.mark?, Activity.isStarting,
          ThreadsafeFunction.close, ThreadsafeFunction.wakeAll, ThreadsafeFunction.abort,
          ThreadsafeFunction.dropHolder]
    | @start i k rest hq =>
      obtain ⟨htasks, htasks'⟩ := hr.tasks_start hq
      rw [htasks] at ih
      rw [htasks']
      cases k with
      | drain =>
        simp_all [queue, Activity.ofTask, Activity.isStarting]
        omega
      | teardown => simp_all [queue, Activity.ofTask, Activity.isStarting]
    | discard i hrest hsubs =>
      obtain ⟨lost, -, hperm, hlost⟩ := hr.tasks_discard hrest hsubs
      have hcount := hperm.count_eq .drain
      have hlosses := count_lost_drain lost
      simp only [marks_tell, marks_requeue, hlost, List.count_append, tasks_tell] at hcount ⊢
      change l.queue.length = _
      omega
    | @drain fn i hl =>
      have hlength : fn.queue ≠ [] := by
        rintro hnil
        simp only [queue, hl, hnil, Activity.isStarting, Option.map_some, Option.getD_some,
          List.length_nil, List.countP_singleton, if_true] at ih
        omega
      obtain ⟨data, rest, hqueue⟩ := List.exists_cons_of_ne_nil hlength
      unfold deliveries
      split <;>
        simp_all [queue, tasks, invoker?, filterMap_takenEvents, pop_fst, pop_snd,
          Activity.isStarting] <;>
        omega
    | @teardown fn atOnce hl =>
      rcases finalizersDue_eq fn with hdue | ⟨calls, hdue⟩ <;>
        simp_all [queue, tasks, invoker?, Event.mark?, Activity.isStarting]
    | _ =>
      simp_all [queue, tasks, invoker?, Event.mark?, Activity.isStarting,
        ThreadsafeFunction.acquire, ThreadsafeFunction.dropHolder]

end Life

end AddonHost
