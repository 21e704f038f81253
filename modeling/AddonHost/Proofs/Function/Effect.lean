import AddonHost.Proofs.Session.Follows

/-!
What operations do to the life of a function.

Each operation that a step is made of changes the life of a function in one way: an event is told
if it concerns the function, a task is queued if it is the function's own, and so on.  The equations
below read a chain of operations off as a change of the life, from the last operation on.
-/

namespace AddonHost

/-- Whether a submission was queued. -/
def Offer.isQueued : Offer → Bool
  | .accepted | .awaited _ => true
  | .handedBack | .inline => false

namespace Life

@[simp] theorem tell_nil (l : Life) : l.tell [] = l := by
  simp [tell]

@[simp] theorem tell_tell (l : Life) (es es' : List Event) :
    (l.tell es).tell es' = l.tell (es ++ es') := by
  simp [tell]

@[simp] theorem become_tell (l : Life) (es : List Event) (fn : ThreadsafeFunction) :
    (l.tell es).become fn = (l.become fn).tell es := rfl

@[simp] theorem become_become (l : Life) (fn fn' : ThreadsafeFunction) :
    (l.become fn).become fn' = l.become fn' := rfl

@[simp] theorem enqueue_tell (l : Life) (es : List Event) (i : InvokerId) (k : FunctionTask) :
    (l.tell es).enqueue i k = (l.enqueue i k).tell es := rfl

/-- A task is queued that may be the function's. -/
def offer (l : Life) (i : InvokerId) : Option FunctionTask → Life
  | none => l
  | some k => l.enqueue i k

end Life

namespace Session

variable {s s' : Session} {f : HandleId}

/-- What a life is read off. -/
theorem life_congr (hf : s'.functions = s.functions) (hi : s'.tasksOf f = s.tasksOf f)
    (ht : s'.told f = s.told f) (hids : s'.ids = s.ids) : s'.life f = s.life f := by
  simp only [life, hf, hi, ht, hids]

/-- What does not concern a function changes its life in nothing but the ids that are left. -/
theorem life_of_follows {quiet : Topic → Prop} (h : Follows quiet s s')
    (hf : quiet (.function f)) : s'.life f = { s.life f with nextId := s'.ids.next } := by
  obtain ⟨hobject, hregistered, htasks, htold⟩ := View.function.inj (h.same _ hf)
  simp only [life, hobject, hregistered, htasks, htold]

@[simp] theorem life_emit (s : Session) (e : Event) (f : HandleId) :
    (s.emit e).life f = (s.life f).tell ([e].filter (Event.concerns f)) := by
  simp only [life, Life.tell, told_emit]
  rfl

@[simp] theorem ids_log (s : Session) (level : Log.Level) (text : String) :
    (s.log level text).ids = s.ids := by
  simp only [log]
  split_ifs <;> rfl

@[simp] theorem life_log (s : Session) (level : Log.Level) (text : String) (f : HandleId) :
    (s.log level text).life f = s.life f := by
  have h : Unconcerned s (s.log level text) := by simp
  rw [life_of_follows h trivial, ids_log]
  rfl

@[simp] theorem life_signal (s : Session) (completion : Option Nat) (f : HandleId) :
    (s.signal completion).life f = s.life f := by
  unfold signal
  split <;> rfl

@[simp] theorem life_fire (s : Session) (key : ScriptKey) (f : HandleId) :
    (s.fire key).2.life f = s.life f := by
  unfold fire
  split <;> rfl

@[simp] theorem life_keepInvoker (s : Session) (i : InvokerId) (f : HandleId) :
    (s.keepInvoker i).life f = s.life f :=
  life_of_follows (show Unconcerned s (s.keepInvoker i) by simp) trivial

/-- A function becomes another. -/
theorem life_modifyFunction_self {fn : ThreadsafeFunction} (hf : s.functions.object? f = some fn)
    (g : ThreadsafeFunction → ThreadsafeFunction) :
    (s.modifyFunction f g).life f = (s.life f).become (g fn) := by
  simp only [life, modifyFunction, Life.become, Registry.object?_modify, hf]
  rfl

theorem life_modifyFunction_of_ne {h : HandleId} (hne : h ≠ f)
    (g : ThreadsafeFunction → ThreadsafeFunction) : (s.modifyFunction h g).life f = s.life f := by
  simp only [life, modifyFunction, Registry.object?_modify, hne]
  rfl

/-- The queue of an invoker changes. -/
theorem life_modifyInvoker {i : InvokerId} {inv : Invoker} (hi : s.invokers.get? i = some inv)
    (g : Invoker → Invoker) :
    (s.modifyInvoker i g).life f = (s.life f).requeue i ((g inv).tasksOf f) := by
  have htasks : (s.modifyInvoker i g).tasksOf f
      = Function.update (s.tasksOf f) i ((g inv).tasksOf f) := by
    funext j
    rw [tasksOf_modifyInvoker, Function.update_apply]
    rcases eq_or_ne i j with rfl | hne
    · simp [hi]
    · rw [if_neg hne, if_neg hne.symm]
  simp only [life, Life.requeue, htasks]
  rfl

theorem tasksOf_eq {i : InvokerId} {inv : Invoker} (hi : s.invokers.get? i = some inv) :
    s.tasksOf f i = inv.tasksOf f := by
  simp [tasksOf, hi]

theorem life_modifyInvoker_of_queue (i : InvokerId) {g : Invoker → Invoker}
    (hg : ∀ inv, (g inv).queue = inv.queue) : (s.modifyInvoker i g).life f = s.life f :=
  life_of_follows
    (show Unconcerned s (s.modifyInvoker i g) by simp [follows_modifyInvoker_of_queue i hg]) trivial

theorem life_enqueue {i : InvokerId} {inv : Invoker} (hi : s.invokers.get? i = some inv)
    (task : Task) (completion : Option Nat) (inv' : Invoker) :
    (s.enqueue i inv' task completion).life f = (s.life f).offer i (task.part? f) := by
  have hqueued : (s.life f).queued i = inv.tasksOf f := tasksOf_eq hi
  have htasks : (inv.withQueue (inv.queue.push task completion)).tasksOf f
      = (s.life f).queued i ++ (task.part? f).toList := by
    rw [hqueued]
    cases h : task.part? f <;> simp [Invoker.tasksOf, TaskQueue.submission, h]
  simp only [enqueue, life_emit, life_modifyInvoker hi, htasks, List.filter_cons, Event.concerns,
    List.filter_nil]
  cases task.part? f with
  | none =>
    simp [Life.offer, Life.requeue]
  | some k => simp [Life.offer, Life.enqueue]

theorem life_of_enqueueAwaited {i : InvokerId} {inv inv' : Invoker} {task : Task} {o : Offer}
    (hi : s.invokers.get? i = some inv) (h : s.enqueueAwaited i inv' task = (o, s'))
    (f : HandleId) : o.isQueued = true ∧ s'.life f = (s.life f).offer i (task.part? f) := by
  obtain ⟨rfl, rfl⟩ := Prod.mk.inj h
  let counted : Session := { s with completions := s.completions + 1 }
  have hi' : counted.invokers.get? i = some inv := hi
  exact ⟨rfl, life_enqueue hi' task _ inv'⟩

/-- A submission queues its task, or leaves every function alone. -/
theorem life_of_offer {t : ThreadId} {i : InvokerId} {sync : Bool} {task : Task} {o : Offer}
    (h : s.offer t i sync task = (o, s')) (f : HandleId) :
    s'.life f = if o.isQueued then (s.life f).offer i (task.part? f) else s.life f := by
  unfold offer at h
  split at h
  · obtain ⟨rfl, rfl⟩ := Prod.mk.inj h
    rfl
  · next inv hi =>
    split at h
    · have hcount := life_modifyInvoker_of_queue (s := s) (f := f) i
        (g := (·.mapManual fun m => { m with offered := m.offered + 1 }))
        (Invoker.queue_mapManual · fun _ => rfl)
      have hi' := get?_modifyInvoker hi (·.mapManual fun m => { m with offered := m.offered + 1 })
      simp only at h
      split_ifs at h
      case neg =>
        obtain ⟨ho, hs⟩ := life_of_enqueueAwaited hi' h f
        rw [hs, hcount, if_pos ho]
      all_goals
        obtain ⟨rfl, rfl⟩ := Prod.mk.inj h
        simp [Offer.isQueued, life_enqueue hi', hcount]
    · have hcount := life_modifyInvoker_of_queue (s := s) (f := f) i
        (g := (·.mapThread fun r => { r with syncTasks := r.syncTasks + 1 }))
        (Invoker.queue_mapThread · fun _ => rfl)
      have hi' := get?_modifyInvoker hi (·.mapThread fun r => { r with syncTasks := r.syncTasks + 1 })
      simp only at h
      split_ifs at h
      pick_goal 5
      · obtain ⟨ho, hs⟩ := life_of_enqueueAwaited hi' h f
        rw [hs, hcount, if_pos ho]
      all_goals
        obtain ⟨rfl, rfl⟩ := Prod.mk.inj h
        simp [Offer.isQueued, life_enqueue hi, hcount]

/-- A task for which nobody waits is queued or handed back. -/
theorem offer_eq_of_async {t : ThreadId} {i : InvokerId} {task : Task} {o : Offer}
    (h : s.offer t i false task = (o, s')) : o = .accepted ∨ o = .handedBack := by
  unfold offer at h
  grind

end Session

end AddonHost
