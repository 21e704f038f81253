import AddonHost.Proofs.Invoker.Aside
import AddonHost.Proofs.Session.Steps

/-!
The moves of an invoker.

Submitting a task, running it and waiting for it are steps of the service of the invokers, and so
are pumping, the loop of an interpreter thread, and its end.  The proofs read the operation's
session off as a change of the service and name the steps.
-/

namespace AddonHost

namespace Service

/-- What a thread can do to the invokers and to its own duties, step by step. -/
def Steps (unfailing : Prop) (t : ThreadId) : Service × List Duty → Service × List Duty → Prop :=
  Relation.ReflTransGen fun p p' => ∃ i, Step unfailing t i p p'

variable {unfailing : Prop} {t : ThreadId} {i : InvokerId} {p p' p'' : Service × List Duty}

theorem Steps.refl (p : Service × List Duty) : Steps unfailing t p p := Relation.ReflTransGen.refl

theorem Steps.trans (h : Steps unfailing t p p') (h' : Steps unfailing t p' p'') :
    Steps unfailing t p p'' := Relation.ReflTransGen.trans h h'

theorem Step.steps (h : Step unfailing t i p p') : Steps unfailing t p p' := .single ⟨i, h⟩

theorem Step.then (h : Step unfailing t i p p') (h' : Steps unfailing t p' p'') :
    Steps unfailing t p p'' := .head ⟨i, h⟩ h'

theorem modify_eq_set {l : Service} {core : InvokerCore} (hi : l.cores i = some core)
    (f : InvokerCore → InvokerCore) : l.modify i f = l.set i (f core) := by
  rw [modify, set, hi, Option.map_some]

/-- What is set anew need not be set before. -/
theorem enqueue_set (l : Service) (i : InvokerId) (core core' : InvokerCore) (task : Task)
    (completion : Option ℕ) :
    (l.set i core').enqueue i core task completion = l.enqueue i core task completion := by
  simp only [enqueue, set, Function.update_idem]

/-- A run goes on with the steps of a thread. -/
theorem Onward.steps {l₀ l l' : Service} {duties₀ duties : ThreadId → List Duty} {ds : List Duty}
    (h : Onward unfailing l₀ duties₀ l duties) (hs : Steps unfailing t (l, duties t) (l', ds)) :
    Onward unfailing l₀ duties₀ l' (Function.update duties t ds) := by
  generalize hp : (l, duties t) = p at hs
  generalize hp' : (l', ds) = p' at hs
  induction hs generalizing l' ds with
  | refl =>
    obtain ⟨rfl, rfl⟩ := Prod.mk.inj (hp.trans hp'.symm)
    simpa using h
  | @tail q q' _ hstep ih =>
    obtain ⟨i, hstep⟩ := hstep
    subst hp'
    have hrun : Onward unfailing l₀ duties₀ q.1 (Function.update duties t q.2) := ih rfl
    have hlast : Step unfailing t i (q.1, Function.update duties t q.2 t) (l', ds) := by
      simpa using hstep
    simpa using hrun.next (.step hlast)

theorem set_set (l : Service) (i : InvokerId) (core core' : InvokerCore) :
    (l.set i core').set i core = l.set i core := by
  simp only [set, Function.update_idem]

/-- Tasks of an invoker are told to be dropped. -/
def discard (l : Service) (i : InvokerId) (subs : List Submission) : Service :=
  { l with
    told := l.told ++ subs.map (.discarded i)
    signalled := l.signalled ∪ { c | ∃ sub ∈ subs, sub.completion = some c } }

theorem discard_nil (l : Service) (i : InvokerId) : l.discard i [] = l := by
  simp [discard]

theorem discard_cons (l : Service) (i : InvokerId) (sub : Submission) (subs : List Submission) :
    l.discard i (sub :: subs) = ((l.tell [.discarded i sub]).signal sub.completion).discard i subs := by
  ext c <;> simp [discard, tell, signal, or_assoc]

/-- The oldest task of an invoker is dropped, and then the others. -/
theorem discard_dequeue (l : Service) (i : InvokerId) (core core' : InvokerCore)
    (sub : Submission) (rest : List Submission) :
    ((((l.dequeue i core rest).tell [.discarded i sub]).signal sub.completion).discard i rest).set i
      core' = (l.discard i (sub :: rest)).set i core' := by
  rw [discard_cons]
  simp only [dequeue, set, tell, signal, discard, Function.update_idem]

theorem discard_steps {l : Service} {ds : List Duty} {m : ManualInvoker}
    (hi : l.cores i = some (.manual m)) :
    Steps unfailing t (l, ds)
      ((l.discard i m.queue.pending).set i (.manual { m with queue := m.queue.clear }), ds) := by
  generalize hq : m.queue.pending = subs
  induction subs generalizing l m with
  | nil =>
    have hm : ({ m with queue := m.queue.clear } : ManualInvoker) = m := by
      rw [TaskQueue.clear, ← hq]
    rw [discard_nil, hm, set, ← hi, Function.update_eq_self]
    exact .refl _
  | cons sub rest ih =>
    refine (Step.discard hi hq).then ?_
    rw [← discard_dequeue l i (.manual m)]
    exact ih (m := { m with queue := { m.queue with pending := rest } })
      (Function.update_self ..) rfl

theorem exit_steps {l : Service} {ds : List Duty} {r : InterpreterThread}
    (hi : l.cores i = some (.thread r)) (hstop : r.shutdown = true) :
    Steps unfailing t (l, .loop i :: ds)
      ((l.discard i r.queue.pending).set i (.thread { r with
        queue := r.queue.clear
        phase := .exited
        dropped := r.dropped + r.queue.pending.length }), ds) := by
  generalize hq : r.queue.pending = subs
  induction subs generalizing l r with
  | nil =>
    have hr : r.queue.clear = r.queue := by rw [TaskQueue.clear, ← hq]
    rw [discard_nil, hr]
    exact (Step.exit hi hstop hq).steps
  | cons sub rest ih =>
    refine (Step.drop hi hstop hq).then ?_
    have hdropped : r.dropped + (rest.length + 1) = r.dropped + 1 + rest.length := by omega
    rw [← discard_dequeue l i (.thread { r with dropped := r.dropped + 1 }), List.length_cons,
      hdropped]
    exact ih (r := { r with
      dropped := r.dropped + 1
      queue := { r.queue with pending := rest } }) (Function.update_self ..) hstop rfl

end Service

open Service

/-- What a change of a session does for the invokers, when a thread comes to other duties. -/
structure Session.Serves (unfailing : Prop) (t : ThreadId) (s : Session) (ds : List Duty)
    (s' : Session) (ds' : List Duty) : Prop where
  duties (u : ThreadId) : s'.duties u = s.duties u
  interpreters (i : InvokerId) :
    s'.threads.get? (.interpreter i) = s.threads.get? (.interpreter i)
  steps : Steps unfailing t (s.service, ds) (s'.service, ds')

/-- What a move does for the invokers, when the thread gives up some duties. -/
abbrev Move.Serves (unfailing : Prop) (t : ThreadId) (s : Session) (own below : List Duty)
    (m : Move) : Prop :=
  Session.Serves unfailing t s (own ++ below) m.session (m.duties ++ below)

/-- The duty of a submitter. -/
def Offer.duties (i : InvokerId) : Offer → List Duty
  | .inline => [.inline i]
  | .awaited c => [.awaiting i c]
  | .accepted | .handedBack => []

namespace Session

variable {unfailing : Prop} {s s' s'' : Session} {t : ThreadId} {i : InvokerId} {inv : Invoker}
  {ds ds' ds'' own below : List Duty} {m : Move}

theorem duties_of_threads (h : s'.threads = s.threads) (u : ThreadId) :
    s'.duties u = s.duties u := by
  rw [duties, h, duties]

namespace Serves

theorem of_steps (hthreads : s'.threads = s.threads)
    (hsteps : Steps unfailing t (s.service, ds) (s'.service, ds')) :
    Serves unfailing t s ds s' ds' :=
  ⟨duties_of_threads hthreads, fun i => by rw [hthreads], hsteps⟩

/-- What no invoker shows. -/
theorem of_service (hthreads : s'.threads = s.threads) (hservice : s'.service = s.service) :
    Serves unfailing t s ds s' ds :=
  .of_steps hthreads (by rw [hservice]; exact .refl _)

theorem of_backstage (h : s'.backstage = s.backstage) : Serves unfailing t s ds s' ds :=
  .of_service (threads_of_backstage h) (service_of_backstage h)

theorem trans (h : Serves unfailing t s ds s' ds') (h' : Serves unfailing t s' ds' s'' ds'') :
    Serves unfailing t s ds s'' ds'' :=
  ⟨fun u => (h'.duties u).trans (h.duties u),
    fun i => (h'.interpreters i).trans (h.interpreters i), h.steps.trans h'.steps⟩

end Serves

/-- What leaves the invokers alone is no step. -/
theorem serves_of_aside (h : m.Aside s) : m.Serves unfailing t s [] below := by
  rw [Move.Serves, h.duties]
  exact .of_backstage h.backstage

theorem serves_keepInvoker (s : Session) (i : InvokerId) :
    Serves unfailing t s ds (s.keepInvoker i) ds :=
  .of_service rfl (service_keepInvoker s i)

/-- A step of one invoker. -/
theorem serves_of_step {l' : Service} (hthreads : s'.threads = s.threads)
    (hservice : s'.service = l') (hstep : Step unfailing t i (s.service, ds) (l', ds')) :
    Serves unfailing t s ds s' ds' :=
  .of_steps hthreads (hservice ▸ hstep.steps)

/-! ### Submitting -/

/-- A task is queued behind an invoker that was changed before. -/
theorem service_enqueueAwaited {o : Offer} {task : Task} (hi : s.invokers.get? i = some inv)
    (old : Invoker) (hold : old.queue = inv.queue) (h : s.enqueueAwaited i old task = (o, s')) :
    o = .awaited s.completions ∧ s'.threads = s.threads ∧
      s'.service = { s.service with completions := s.completions + 1 }.enqueue i inv.core task
        (some s.completions) := by
  obtain ⟨rfl, rfl⟩ := Prod.mk.inj h
  refine ⟨rfl, rfl, ?_⟩
  have hi' : ({ s with completions := s.completions + 1 } : Session).invokers.get? i
      = some inv := hi
  rw [service_enqueue hi' hold]
  rfl

theorem offer_manual_serves {sync : Bool} {task : Task} {o : Offer} {holders : ℕ}
    {m : ManualInvoker} (hi : s.invokers.get? i = some { holders := holders, core := .manual m })
    (h : s.offer t i sync task = (o, s')) :
    Serves unfailing t s ds s' (o.duties i ++ ds) := by
  obtain ⟨m', hm'⟩ : ∃ m' : ManualInvoker, m' = { m with offered := m.offered + 1 } := ⟨_, rfl⟩
  obtain ⟨u, hu⟩ : ∃ u, u = s.modifyInvoker i
      (·.mapManual fun m => { m with offered := m.offered + 1 }) := ⟨_, rfl⟩
  have hi' : u.invokers.get? i = some { holders := holders, core := .manual m' } := by
    rw [hu, hm', get?_modifyInvoker hi]
    rfl
  have hcore : u.service.cores i = some (.manual m') := cores_eq hi'
  have hcounted : u.service = s.service.modify i
      (.mapManual fun m => { m with offered := m.offered + 1 }) := by
    rw [hu, service_modifyInvoker (Invoker.core_mapManual · _)]
  have hcount : Serves unfailing t s ds u ds :=
    serves_of_step (by rw [hu]; rfl) hcounted (.count fun _ => rfl)
  have hqueue : (⟨holders, .manual m⟩ : Invoker).queue
      = (⟨holders, .manual m'⟩ : Invoker).queue := by
    rw [hm']
    rfl
  simp only [offer, hi, ← hu] at h
  split_ifs at h
  · obtain ⟨rfl, rfl⟩ := Prod.mk.inj h
    exact hcount
  · obtain ⟨rfl, rfl⟩ := Prod.mk.inj h
    exact hcount.trans (serves_of_step rfl (service_enqueue hi' hqueue ..)
      (.accept task hcore trivial))
  · obtain ⟨rfl, rfl⟩ := Prod.mk.inj h
    have hsame : u.service = u.service.set i (InvokerCore.manual m').countSync := by
      rw [show (InvokerCore.manual m').countSync = .manual m' from rfl, Service.set, ← hcore,
        Function.update_eq_self]
    exact hcount.trans (serves_of_step rfl hsame (.inline hcore (by simp)))
  · obtain ⟨rfl, hthreads, hservice⟩ := service_enqueueAwaited hi' _ hqueue h
    exact hcount.trans (serves_of_step hthreads hservice (.await task hcore trivial))

theorem offer_thread_serves {sync : Bool} {task : Task} {o : Offer} {holders : ℕ}
    {r : InterpreterThread}
    (hi : s.invokers.get? i = some { holders := holders, core := .thread r })
    (h : s.offer t i sync task = (o, s')) (hown : sync = true → t = .interpreter i → .looped i ∈ ds) :
    Serves unfailing t s ds s' (o.duties i ++ ds) := by
  obtain ⟨r', hr'⟩ : ∃ r' : InterpreterThread, r' = { r with syncTasks := r.syncTasks + 1 } :=
    ⟨_, rfl⟩
  obtain ⟨u, hu⟩ : ∃ u, u = s.modifyInvoker i
      (·.mapThread fun r => { r with syncTasks := r.syncTasks + 1 }) := ⟨_, rfl⟩
  have hi' : u.invokers.get? i = some { holders := holders, core := .thread r' } := by
    rw [hu, hr', get?_modifyInvoker hi]
    rfl
  have hthreads : u.threads = s.threads := by rw [hu]; rfl
  have hcore : s.service.cores i = some (.thread r) := cores_eq hi
  have hcounted : u.service = s.service.set i (InvokerCore.thread r).countSync := by
    rw [hu, service_modifyInvoker (Invoker.core_mapThread · _), modify_eq_set hcore]
    rfl
  simp only [offer, hi, ← hu] at h
  split_ifs at h with hsync hstop hself hstop
  · obtain ⟨rfl, rfl⟩ := Prod.mk.inj h
    exact .of_backstage (by simp)
  · obtain ⟨rfl, rfl⟩ := Prod.mk.inj h
    exact serves_of_step rfl (service_enqueue hi rfl ..)
      (.accept task hcore (eq_false_of_ne_true hstop))
  · obtain ⟨rfl, rfl⟩ := Prod.mk.inj h
    exact serves_of_step hthreads hcounted (.inline hcore fun _ _ =>
      ⟨hself, hown (by simpa using hsync) hself⟩)
  · obtain ⟨rfl, rfl⟩ := Prod.mk.inj h
    exact .of_backstage (by simp)
  · obtain ⟨rfl, hthreads', hservice⟩ := service_enqueueAwaited hi'
      { holders := holders, core := .thread r } (by rw [hr']; rfl) h
    have hcompletions : u.completions = s.completions := by rw [hu]; rfl
    have hset : ({ u.service with completions := s.completions + 1 } : Service)
        = ({ s.service with completions := s.completions + 1 } : Service).set i
          (InvokerCore.thread r).countSync := by
      rw [hcounted]
      rfl
    rw [hcompletions, hset, enqueue_set, hr'] at hservice
    rw [hcompletions]
    exact serves_of_step (hthreads'.trans hthreads) hservice
      (.await task hcore (eq_false_of_ne_true hstop))

/-- Submitting a task is a step, and leaves the submitter with what it waits for. -/
theorem offer_serves {sync : Bool} {task : Task} {o : Offer} (h : s.offer t i sync task = (o, s'))
    (hown : sync = true → t = .interpreter i → .looped i ∈ ds) :
    Serves unfailing t s ds s' (o.duties i ++ ds) := by
  cases hi : s.invokers.get? i with
  | none =>
    simp only [offer, hi] at h
    obtain ⟨rfl, rfl⟩ := Prod.mk.inj h
    exact .of_backstage rfl
  | some inv =>
    obtain ⟨holders, m | r⟩ := inv
    · exact offer_manual_serves hi h
    · exact offer_thread_serves hi h hown

/-- Nobody waits for a task that is submitted asynchronously. -/
theorem offer_async_serves {task : Task} {o : Offer} (h : s.offer t i false task = (o, s')) :
    Serves unfailing t s ds s' ds := by
  have hoffer : Serves unfailing t s ds s' (o.duties i ++ ds) := offer_serves h (by simp)
  rcases offer_eq_of_async h with rfl | rfl <;> exact hoffer

/-! ### Threadsafe functions -/

theorem appendItem_serves {f : HandleId} {fn : ThreadsafeFunction} (data : Word)
    (hown : ∀ i, t = .interpreter i → .looped i ∈ below) :
    (s.appendItem t f fn data).Serves unfailing t s [] below := by
  have hpush : Serves unfailing t s below
      ((s.modifyFunction f (·.push data)).emit (.appended f data)) below :=
    .of_backstage (by simp [backstage_emit, Event.isService])
  have hquiet (s' : Session) (accepted : Bool) (ds : List Duty) :
      Serves unfailing t s' ds (s'.emit (.drainOffered f accepted)) ds :=
    .of_backstage (backstage_emit (by simp [Event.isService]))
  unfold appendItem
  refine hpush.trans ?_
  simp only
  split
  · exact (hquiet _ false _).trans (.of_backstage (by simp))
  · next i _ _ =>
    split
    · next hoffer => exact (offer_serves hoffer fun _ => hown i).trans (hquiet _ true _)
    · next hoffer =>
      exact (offer_serves hoffer fun _ => hown i).trans
        ((hquiet _ false _).trans (.of_backstage (by simp)))
    · next hoffer =>
      exact (offer_serves hoffer fun _ => hown i).trans
        ((hquiet _ true _).trans (serves_keepInvoker ..))
    · next hoffer =>
      exact (offer_serves hoffer fun _ => hown i).trans
        ((hquiet _ true _).trans (serves_keepInvoker ..))

theorem call_serves (f : HandleId) (data : Word) (mode : CallMode)
    (hown : ∀ i, t = .interpreter i → .looped i ∈ below) :
    (s.call t f data mode).Serves unfailing t s [] below := by
  unfold call
  split
  · exact .of_backstage rfl
  · split
    · exact .of_backstage rfl
    · exact .of_backstage rfl
    · exact appendItem_serves data hown

theorem awaitSpace_serves {f : HandleId} {data : Word}
    (hown : ∀ i, t = .interpreter i → .looped i ∈ below) (hm : s.awaitSpace t f data = some m) :
    m.Serves unfailing t s [] below := by
  unfold awaitSpace at hm
  split at hm
  · obtain rfl := Option.some.inj hm
    exact .of_backstage rfl
  · split_ifs at hm <;> obtain rfl := Option.some.inj hm
    · exact .of_backstage rfl
    · exact .of_backstage rfl
    · exact appendItem_serves data hown

theorem closeThen_serves (f : HandleId) (r : Reply) :
    (s.closeThen t f r).Serves unfailing t s [] below := by
  have hquiet (s' : Session) (accepted : Bool) :
      Serves unfailing t s' below (s'.emit (.teardownOffered f accepted)) below :=
    .of_backstage (backstage_emit (by simp [Event.isService]))
  have hclose : Serves unfailing t s below ((s.modifyFunction f (·.close)).emit (.closed f)) below :=
    .of_backstage (by simp [backstage_emit, Event.isService])
  unfold closeThen
  split
  · exact .of_backstage rfl
  · split
    · exact .of_backstage rfl
    · refine hclose.trans ?_
      simp only
      split
      · exact (hquiet _ false).trans (.of_backstage (by simp))
      · split
        · next hoffer => exact (offer_async_serves hoffer).trans (hquiet _ true)
        · next hoffer =>
          exact (offer_async_serves hoffer).trans
            ((hquiet _ false).trans (.of_backstage (by simp)))

theorem release_serves (f : HandleId) (mode : ReleaseMode) :
    (s.release t f mode).Serves unfailing t s [] below := by
  unfold release
  split
  · exact .of_backstage rfl
  · split
    · exact .of_backstage rfl
    · split
      · refine Serves.trans ?_ (closeThen_serves f _)
        exact .of_backstage (by simp [backstage_emit, Event.isService])
      · have hdrop (fn : ThreadsafeFunction) (g : ThreadsafeFunction → ThreadsafeFunction) :
            Serves unfailing t s below
              ((s.modifyFunction f g).emit (.released f fn.dropHolder.threadCount)) below :=
          .of_backstage (by simp [backstage_emit, Event.isService])
        simp only
        split
        · exact (hdrop ..).trans (closeThen_serves f _)
        · exact hdrop ..

theorem afterDrain_serves (f : HandleId) (wasEmpty : Bool) :
    (s.afterDrain t f wasEmpty).Serves unfailing t s [] below := by
  unfold afterDrain
  split
  · exact .of_backstage rfl
  · split
    · exact closeThen_serves f _
    · exact .of_backstage rfl

/-! ### Jobs -/

theorem queueJob_serves (j : HandleId) (env : Word) :
    Serves unfailing t s ds (s.queueJob t j env).2 ds := by
  have hmodify (g : AsyncJob → AsyncJob) : Serves unfailing t s ds (s.modifyJob j g) ds :=
    .of_backstage rfl
  unfold queueJob
  split
  · exact .of_backstage rfl
  · split
    · exact .of_backstage (by simp)
    · split
      · exact .of_backstage rfl
      · split
        · next hoffer => exact (hmodify _).trans (offer_async_serves hoffer)
        · next hoffer =>
          refine (hmodify _).trans ((offer_async_serves hoffer).trans (.of_backstage ?_))
          simp

theorem queueJobById_serves (j : HandleId) (env : Word) :
    Serves unfailing t s ds (s.queueJobById t j env).2 ds := by
  unfold queueJobById
  split
  · exact .of_backstage rfl
  · exact queueJob_serves ..

/-! ### Running tasks -/

theorem runNext_eq_some_iff {after : Frame} :
    s.runNext i inv after = some m ↔ ∃ sub rest, inv.queue.pending = sub :: rest ∧
      m = (((s.modifyInvoker i (·.withQueue { inv.queue with pending := rest })).emit
        (.started i sub)).run (.task i sub.task) [.taskEnded i sub, after]) := by
  cases hq : inv.queue.pending with
  | nil => simp [runNext, startTask, TaskQueue.pop, hq]
  | cons sub rest => simp [runNext, startTask, TaskQueue.pop, hq, eq_comm]

theorem service_startTask (hi : s.invokers.get? i = some inv) (sub : Submission)
    (rest : List Submission) :
    ((s.modifyInvoker i (·.withQueue { inv.queue with pending := rest })).emit
      (.started i sub)).service = (s.service.dequeue i inv.core rest).tell [.started i sub] := by
  have hcore : (inv.withQueue { inv.queue with pending := rest }).core
      = inv.core.withQueue { inv.core.queue with pending := rest } := by
    rw [Invoker.core_withQueue, Invoker.queue_core]
  rw [service_emit rfl, service_modifyInvoker_of_eq hi hcore]
  rfl

theorem pump_serves (i : InvokerId) (goal : PumpGoal) :
    (s.pump i goal).Serves unfailing t s [.pumping i] below := by
  have hend (s' : Session) (c : Code) (hc : c.duties = []) (hs' : s' = s) :
      (s'.run c).Serves unfailing t s [.pumping i] below := by
    subst hs'
    rw [Move.Serves, Move.duties, run, Control.duties, hc]
    exact serves_of_step rfl rfl .endPump
  unfold pump
  split
  · exact serves_of_step rfl rfl .endPump
  · next inv hi =>
    split
    · next m hm =>
      obtain ⟨sub, rest, hq, rfl⟩ := runNext_eq_some_iff.1 hm
      exact serves_of_step rfl (service_startTask hi sub rest)
        (.pump (cores_eq hi) (by rw [Invoker.queue_core, hq]))
    · split
      · exact hend _ _ rfl rfl
      · exact hend _ _ rfl rfl
      · exact hend _ _ rfl rfl
      · split_ifs
        · exact hend _ _ rfl rfl
        · exact .of_backstage rfl

/-- A task that has returned is counted. -/
theorem serves_countExecuted (s : Session) (i : InvokerId) :
    Serves unfailing t s ds (s.countExecuted i) ds :=
  serves_of_step rfl (service_countExecuted s i) (.count fun _ => rfl)

theorem afterPumped_serves (i : InvokerId) (goal : PumpGoal) :
    (s.afterPumped i goal).Serves unfailing t s [.pumping i] below := by
  unfold afterPumped
  refine (serves_countExecuted s i).trans ?_
  cases goal with
  | one => exact serves_of_step rfl rfl .endPump
  | drained n | executed n | polls n => exact .of_backstage rfl

theorem ranInline_serves (i : InvokerId) :
    (((s.countExecuted i).emit (.ranInline i)).give .unit).Serves unfailing t s [.inline i] below :=
  (serves_countExecuted s i).trans (serves_of_step rfl (service_emit rfl) .ranInline)

theorem endTask_serves {e : Event} {sub : Submission}
    (he : e = .ended i sub ∨ e = .failed i sub ∧ ¬unfailing) :
    Serves unfailing t s (.running i sub :: ds) (s.endTask e sub) ds := by
  have hservice (he : e.isService = true) :
      (s.endTask e sub).service = (s.service.tell [e]).signal sub.completion := by
    rw [endTask, service_signal, service_emit he]
  have hthreads : (s.endTask e sub).threads = s.threads := by
    unfold endTask signal
    split <;> rfl
  rcases he with rfl | ⟨rfl, hfails⟩
  · exact serves_of_step hthreads (hservice rfl) (.ended sub)
  · exact serves_of_step hthreads (hservice rfl) (.failed sub hfails)

theorem awaitTask_serves {completion : ℕ} (hm : s.awaitTask i completion = some m) :
    m.Serves unfailing t s [.awaiting i completion] below := by
  unfold awaitTask at hm
  split at hm
  · next hsignalled =>
    obtain rfl := Option.some.inj hm
    exact serves_of_step rfl rfl (.goOn (.inl (List.contains_iff_mem.1 hsignalled)))
  · split at hm
    · next r hi =>
      split at hm
      · next hfinished =>
        obtain rfl := Option.some.inj hm
        have hstep : Serves unfailing t s (.awaiting i completion :: below) s below :=
          serves_of_step rfl rfl (.goOn (.inr ⟨r, hi, hfinished⟩))
        exact hstep.trans (.of_backstage (by simp))
      · simp at hm
    · simp at hm

theorem submit_serves (sync : Bool) (actions : List Action) (rejected : Rejected)
    (hown : ∀ i, t = .interpreter i → .looped i ∈ below) :
    (s.submit t i sync actions rejected).Serves unfailing t s [] below := by
  unfold submit
  split
  · next hoffer => exact offer_serves hoffer fun _ => hown i
  · next hoffer => exact offer_serves hoffer fun _ => hown i
  · next hoffer => exact offer_serves hoffer fun _ => hown i
  · next hoffer =>
    split
    · exact offer_serves hoffer fun _ => hown i
    · exact offer_serves hoffer fun _ => hown i

/-! ### Queues that are dropped -/

theorem service_foldl_discarded (i : InvokerId) (subs : List Submission) :
    (subs.foldl (fun s sub => (s.emit (.discarded i sub)).signal sub.completion) s).service
      = s.service.discard i subs := by
  induction subs generalizing s with
  | nil => simp [Service.discard]
  | cons sub subs ih =>
    rw [List.foldl_cons, ih, service_signal, service_emit rfl, Service.discard_cons]

theorem threads_foldl_discarded (i : InvokerId) (subs : List Submission) :
    (subs.foldl (fun s sub => (s.emit (.discarded i sub)).signal sub.completion) s).threads
      = s.threads := by
  induction subs generalizing s with
  | nil => rfl
  | cons sub subs ih =>
    rw [List.foldl_cons, ih]
    unfold signal
    split <;> rfl

theorem threads_discardQueue (s : Session) (i : InvokerId) (inv : Invoker) :
    (s.discardQueue i inv).threads = s.threads := by
  rw [discardQueue]
  exact threads_foldl_discarded i _

theorem service_discardQueue {old : Invoker} (hi : s.invokers.get? i = some inv)
    (hold : old.queue = inv.queue) :
    (s.discardQueue i old).service
      = (s.service.discard i inv.queue.pending).set i (inv.core.withQueue inv.queue.clear) := by
  have hi' := invokers_foldl_discarded (s := s) i old.queue.pending ▸ hi
  rw [discardQueue, service_modifyInvoker_of_eq hi' (Invoker.core_withQueue ..),
    service_foldl_discarded, hold]

theorem get?_discardQueue {old : Invoker} (hi : s.invokers.get? i = some inv) :
    (s.discardQueue i old).invokers.get? i = some (inv.withQueue inv.queue.clear) := by
  have hi' := invokers_foldl_discarded (s := s) i old.queue.pending ▸ hi
  exact get?_modifyInvoker hi' _

/-- An invoker that its owner pumps is dropped. -/
theorem discardQueue_serves {old : Invoker} {holders : ℕ} {m : ManualInvoker}
    (hi : s.invokers.get? i = some { holders := holders, core := .manual m })
    (hold : old.queue = m.queue) : Serves unfailing t s ds (s.discardQueue i old) ds := by
  refine .of_steps (threads_discardQueue s i old) ?_
  rw [service_discardQueue hi hold]
  exact discard_steps (cores_eq hi)

theorem loop_serves (hm : s.loop i = some m) : m.Serves unfailing t s [.loop i] below := by
  unfold loop at hm
  split at hm
  · simp at hm
  · next inv hi =>
    split at hm
    · simp at hm
    · next r hr =>
      split at hm
      · next hstop =>
        obtain rfl := Option.some.inj hm
        refine .of_steps (threads_discardQueue s i inv) ?_
        have hcore : ((inv.withQueue inv.queue.clear).mapThread fun r =>
            { r with phase := .exited, dropped := r.dropped + inv.queue.size }).core
              = .thread { r with
                  queue := r.queue.clear
                  phase := .exited
                  dropped := r.dropped + r.queue.pending.length } := by
          obtain ⟨holders, core⟩ := inv
          subst hr
          rfl
        show Steps unfailing t (s.service, .loop i :: below) (Session.service _, below)
        rw [give, modifyInterpreter, service_modifyInvoker_of_eq (get?_discardQueue hi) hcore,
          service_discardQueue hi rfl, set_set]
        have hqueue : inv.queue = r.queue := by rw [Invoker.queue, hr]
        rw [hqueue]
        exact exit_steps (hr ▸ cores_eq hi) hstop
      · next hopen =>
        obtain ⟨sub, rest, hq, rfl⟩ := runNext_eq_some_iff.1 hm
        have hstart : Step unfailing t i (s.service, .loop i :: below)
            ((s.service.dequeue i (.thread r) rest).tell [.started i sub],
              .running i sub :: .looped i :: below) :=
          .start (hr ▸ cores_eq hi) (by simpa using hopen) (by rw [← hq, Invoker.queue, hr])
        exact serves_of_step rfl (service_startTask hi sub rest) (hr ▸ hstart)

/-! ### Interpreter threads that are stopped -/

theorem requestShutdown_serves (s : Session) (i : InvokerId) :
    Serves unfailing t s ds (s.requestShutdown i) ds :=
  serves_of_step rfl (service_modifyInterpreter ..) .stop

/-- An interpreter thread that was told to stop and that nobody has waited for. -/
theorem join_serves {r : InterpreterThread} (hi : s.invokers.get? i = some inv)
    (hcore : inv.core = .thread r) (hstop : r.shutdown = true) (hr : r.joined = false)
    (asks : Bool) :
    Serves unfailing t s ds (s.modifyInterpreter i fun r => { r with joined := true })
      (.ending i :: if asks then .joined i :: ds else ds) := by
  refine serves_of_step rfl (service_modifyInvoker_of_eq hi ?_)
    (.join asks (hcore ▸ cores_eq hi) hstop hr)
  rw [Invoker.core_mapThread, hcore]
  rfl

theorem letGo_serves (i : InvokerId) (r : Reply) :
    (s.letGo t i r).Serves unfailing t s [] below := by
  have hheld (holders : Invoker → ℕ) :
      Serves unfailing t s below
        (s.modifyInvoker i fun inv => { inv with holders := holders inv }) below :=
    .of_service rfl
      (service_modifyInvoker_same (f := fun inv => { inv with holders := holders inv })
        (fun _ => rfl) s i)
  unfold letGo
  split
  · exact .of_backstage rfl
  · next inv hi =>
    have hi' := get?_modifyInvoker hi fun inv => { inv with holders := inv.holders - 1 }
    refine (hheld fun inv => inv.holders - 1).trans ?_
    simp only
    split
    · exact .of_backstage rfl
    · obtain ⟨holders, m | r'⟩ := inv
      · exact discardQueue_serves hi' rfl
      · refine (requestShutdown_serves _ i).trans ?_
        have hi'' := get?_modifyInvoker hi' (·.mapThread fun r => { r with shutdown := true })
        simp only
        split
        · exact .of_backstage rfl
        · next hown =>
          exact join_serves hi'' rfl rfl (by simp_all) false

theorem awaitEnd_serves {r : Reply} (hm : s.awaitEnd i r = some m) :
    m.Serves unfailing t s [.ending i] below := by
  unfold awaitEnd at hm
  split at hm
  · next hended =>
    obtain rfl := Option.some.inj hm
    refine serves_of_step rfl rfl (.awaitedEnd fun r hr => ?_)
    rw [cores_service] at hr
    obtain ⟨inv, hi, hcore⟩ := Option.map_eq_some_iff.1 hr
    unfold hasEnded at hended
    rw [hi] at hended
    simpa [hcore] using hended
  · simp at hm

theorem afterJoined_serves (i : InvokerId) :
    (s.afterJoined i).Serves unfailing t s [.joined i] below := by
  have hreport : Serves unfailing t s (.joined i :: below) s below :=
    serves_of_step rfl rfl .report
  unfold afterJoined
  split
  · split
    · refine hreport.trans (.of_backstage ?_)
      simp [reply, give]
    · exact hreport
  · exact hreport

theorem afterLooped_serves (i : InvokerId) :
    (s.afterLooped i).Serves unfailing t s [.looped i] below :=
  serves_of_step rfl (service_modifyInterpreter ..) .looped

theorem loopFailed_serves (i : InvokerId) (hfails : ¬unfailing) :
    (s.loopFailed i).Serves unfailing t s [.looped i] below :=
  serves_of_step rfl (service_modifyInterpreter ..) (.loopFailed hfails)

end Session

end AddonHost
