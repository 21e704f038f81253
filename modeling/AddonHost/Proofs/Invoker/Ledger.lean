import AddonHost.Proofs.Invoker.Life

/-!
The ledger of an interpreter thread.

An invoker's tasks are told in the order of time, so its journal is a ledger: which tasks were
queued, started, ended and dropped.  An interpreter thread is in one stage of its loop at a time
(`LoopStage`), and only its own thread has the duties of that stage.  `Service.Ledger` balances the
ledger against the queue, the counters and the stage; `Run.ledger` says that every run keeps it
balanced.
-/

namespace AddonHost

namespace Event

/-- The task that an event queues behind an invoker. -/
def queuedOn? (i : InvokerId) : Event → Option Submission
  | queued j sub => if j = i then some sub else none
  | _ => none

/-- The task of an invoker that an event starts. -/
def startedOn? (i : InvokerId) : Event → Option Submission
  | started j sub => if j = i then some sub else none
  | _ => none

/-- The task of an invoker that has returned or failed with an event. -/
def finishedOn? (i : InvokerId) : Event → Option Submission
  | ended j sub | failed j sub => if j = i then some sub else none
  | _ => none

/-- The task of an invoker that an event drops. -/
def discardedOn? (i : InvokerId) : Event → Option Submission
  | discarded j sub => if j = i then some sub else none
  | _ => none

/-- Whether a synchronous task of an invoker's own thread has returned with an event. -/
def isInlineOn (i : InvokerId) : Event → Bool
  | ranInline j => j = i
  | _ => false

variable (i : InvokerId) (es : List Event)

/-- The tasks that were queued behind an invoker. -/
def queuedOn : List Submission := es.filterMap (queuedOn? i)

/-- The queued tasks of an invoker that were started. -/
def startedOn : List Submission := es.filterMap (startedOn? i)

/-- The queued tasks of an invoker that have returned or failed. -/
def finishedOn : List Submission := es.filterMap (finishedOn? i)

/-- The queued tasks of an invoker that were dropped. -/
def discardedOn : List Submission := es.filterMap (discardedOn? i)

/-- How many synchronous tasks an invoker's own thread has run. -/
def inlineOn : ℕ := es.countP (isInlineOn i)

/-- How many of the queued tasks of an invoker had someone who waited for them. -/
def awaitedOn : ℕ := (queuedOn i es).countP fun sub => sub.completion.isSome

variable (es' : List Event)

@[simp] theorem queuedOn_append : queuedOn i (es ++ es') = queuedOn i es ++ queuedOn i es' :=
  List.filterMap_append

@[simp] theorem startedOn_append : startedOn i (es ++ es') = startedOn i es ++ startedOn i es' :=
  List.filterMap_append

@[simp] theorem finishedOn_append :
    finishedOn i (es ++ es') = finishedOn i es ++ finishedOn i es' := List.filterMap_append

@[simp] theorem discardedOn_append :
    discardedOn i (es ++ es') = discardedOn i es ++ discardedOn i es' := List.filterMap_append

@[simp] theorem inlineOn_append : inlineOn i (es ++ es') = inlineOn i es + inlineOn i es' :=
  List.countP_append

@[simp] theorem awaitedOn_append : awaitedOn i (es ++ es') = awaitedOn i es + awaitedOn i es' := by
  rw [awaitedOn, queuedOn_append, List.countP_append]
  rfl

variable (e : Event)

@[simp] theorem queuedOn_singleton : queuedOn i [e] = (e.queuedOn? i).toList := by
  cases h : e.queuedOn? i <;> simp [queuedOn, h]

@[simp] theorem startedOn_singleton : startedOn i [e] = (e.startedOn? i).toList := by
  cases h : e.startedOn? i <;> simp [startedOn, h]

@[simp] theorem finishedOn_singleton : finishedOn i [e] = (e.finishedOn? i).toList := by
  cases h : e.finishedOn? i <;> simp [finishedOn, h]

@[simp] theorem discardedOn_singleton : discardedOn i [e] = (e.discardedOn? i).toList := by
  cases h : e.discardedOn? i <;> simp [discardedOn, h]

@[simp] theorem inlineOn_singleton : inlineOn i [e] = if e.isInlineOn i then 1 else 0 := by
  simp [inlineOn, List.countP_cons]

@[simp] theorem awaitedOn_singleton :
    awaitedOn i [e] = ((e.queuedOn? i).bind Submission.completion).toList.length := by
  rw [awaitedOn, queuedOn_singleton]
  cases h : e.queuedOn? i with
  | none => rfl
  | some sub => cases hc : sub.completion <;> simp [hc]

attribute [simp] queuedOn? startedOn? finishedOn? discardedOn? isInlineOn

end Event

/-- Whether a duty is one that only the own thread of an interpreter has. -/
def Duty.isHome (i : InvokerId) : Duty → Bool
  | loop j | looped j | running j _ | inline j => j = i
  | pumping _ | awaiting .. | ending _ | joined _ => false

/-- The stages of the loop of an interpreter thread, with the number of synchronous tasks that are
being run inside. -/
inductive LoopStage where
  /-- About to ask for a task. -/
  | idle
  | busy (inside : ℕ) (sub : Submission)
  /-- After a task, which is not counted yet. -/
  | between (inside : ℕ)
  /-- The loop was left. -/
  | left

namespace LoopStage

/-- The duties of a stage. -/
def duties (i : InvokerId) : LoopStage → List Duty
  | idle => [.loop i]
  | busy inside sub => List.replicate inside (.inline i) ++ [.running i sub, .looped i]
  | between inside => List.replicate inside (.inline i) ++ [.looped i]
  | left => []

/-- The task that is being run. -/
def running : LoopStage → List Submission
  | busy _ sub => [sub]
  | _ => []

/-- The number of synchronous tasks that are being run inside. -/
def inside : LoopStage → ℕ
  | busy n _ | between n => n
  | idle | left => 0

/-- The number of tasks that have ended and are not counted yet. -/
def uncounted : LoopStage → ℕ
  | between _ => 1
  | _ => 0

/-- A synchronous task begins inside. -/
def enter : LoopStage → LoopStage
  | busy n sub => busy (n + 1) sub
  | between n => between (n + 1)
  | stage => stage

variable {i : InvokerId} {stage : LoopStage} {ds : List Duty} {sub : Submission}

@[simp] theorem running_enter (stage : LoopStage) : stage.enter.running = stage.running := by
  cases stage <;> rfl

@[simp] theorem uncounted_enter (stage : LoopStage) : stage.enter.uncounted = stage.uncounted := by
  cases stage <;> rfl

theorem enter_eq_left_iff (stage : LoopStage) : stage.enter = .left ↔ stage = .left := by
  cases stage <;> simp [enter]

theorem eq_idle (h : .loop i :: ds = stage.duties i) : stage = .idle ∧ ds = [] := by
  cases stage with
  | idle => exact ⟨rfl, (List.cons.inj h).2⟩
  | busy n sub | between n => cases n <;> simp [duties, List.replicate_succ] at h
  | left => simp [duties] at h

theorem eq_between (h : .looped i :: ds = stage.duties i) : stage = .between 0 ∧ ds = [] := by
  cases stage with
  | between n =>
    cases n with
    | zero => exact ⟨rfl, (List.cons.inj h).2⟩
    | succ n => simp [duties, List.replicate_succ] at h
  | busy n sub => cases n <;> simp [duties, List.replicate_succ] at h
  | idle | left => simp [duties] at h

theorem eq_busy (h : .running i sub :: ds = stage.duties i) :
    stage = .busy 0 sub ∧ ds = [.looped i] := by
  cases stage with
  | busy n sub' =>
    cases n with
    | zero => simpa [duties, eq_comm] using h
    | succ n => simp [duties, List.replicate_succ] at h
  | between n => cases n <;> simp [duties, List.replicate_succ] at h
  | idle | left => simp [duties] at h

/-- The synchronous task that began last is the first to end. -/
theorem exists_enter (h : .inline i :: ds = stage.duties i) :
    ∃ stage', stage = enter stage' ∧ ds = stage'.duties i ∧ stage.inside = stage'.inside + 1 := by
  cases stage with
  | busy n sub =>
    cases n with
    | zero => simp [duties] at h
    | succ n => exact ⟨.busy n sub, rfl, (List.cons.inj h).2, rfl⟩
  | between n =>
    cases n with
    | zero => simp [duties] at h
    | succ n => exact ⟨.between n, rfl, (List.cons.inj h).2, rfl⟩
  | idle | left => simp [duties] at h

/-- A synchronous task begins in the loop only. -/
theorem duties_enter (h : .looped i ∈ stage.duties i) :
    stage.enter.duties i = .inline i :: stage.duties i ∧ stage.enter.inside = stage.inside + 1 := by
  cases stage with
  | busy n sub | between n => exact ⟨rfl, rfl⟩
  | idle | left => simp [duties] at h

end LoopStage

namespace Service

open Event

/-- Which threads have the duties of an interpreter's loop. -/
structure Placed (i : InvokerId) (duties : ThreadId → List Duty) (stage : LoopStage) : Prop where
  own : (duties (.interpreter i)).filter (Duty.isHome i) = stage.duties i
  elsewhere (t : ThreadId) : t ≠ .interpreter i → (duties t).filter (Duty.isHome i) = []
  unpumped (t : ThreadId) : .pumping i ∉ duties t

/-- The ledger of an interpreter thread in a stage of its loop. -/
structure Ledger (unfailing : Prop) (i : InvokerId) (es : List Event) (r : InterpreterThread)
    (stage : LoopStage) : Prop where
  left : stage = .left ↔ r.phase ≠ .running
  exited : r.phase = .exited → r.shutdown = true ∧ r.queue.pending = []
  failed : unfailing → r.phase ≠ .failed
  joined : r.joined = true → r.shutdown = true
  queued : queuedOn i es = startedOn i es ++ discardedOn i es ++ r.queue.pending
  tickets : (queuedOn i es).map Submission.ticket = List.range r.queue.nextTicket
  started : startedOn i es = finishedOn i es ++ stage.running
  discarded : discardedOn i es ≠ [] → r.shutdown = true
  dropped : r.dropped = (discardedOn i es).length
  tasksRun : unfailing → (finishedOn i es).length = r.tasksRun + stage.uncounted
  syncTasks : unfailing → r.syncTasks = awaitedOn i es + inlineOn i es + stage.inside

variable {unfailing : Prop} {i j : InvokerId} {t : ThreadId} {l l' : Service}
  {duties : ThreadId → List Duty} {ds ds' : List Duty} {r r' : InterpreterThread}
  {stage stage' : LoopStage}

/-! ### Which threads have the duties -/

/-- A duty of the loop is one of the thread itself. -/
theorem Placed.eq_interpreter (h : Placed i duties stage) {d : Duty} (hd : d ∈ duties t)
    (hhome : d.isHome i = true) : t = .interpreter i := by
  by_contra hne
  have hmem : d ∈ (duties t).filter (Duty.isHome i) := List.mem_filter.2 ⟨hd, hhome⟩
  rw [h.elsewhere t hne] at hmem
  simp at hmem

/-- A thread changes its duties, and none of the loop. -/
theorem Placed.update (h : Placed i duties stage)
    (hhome : ds.filter (Duty.isHome i) = (duties t).filter (Duty.isHome i))
    (hpump : .pumping i ∉ ds) : Placed i (Function.update duties t ds) stage := by
  refine ⟨?_, fun u hu => ?_, fun u => ?_⟩
  · by_cases ht : .interpreter i = t
    · subst ht
      rw [Function.update_self, hhome, h.own]
    · rw [Function.update_of_ne ht, h.own]
  · by_cases ht : u = t
    · subst ht
      rw [Function.update_self, hhome, h.elsewhere u hu]
    · rw [Function.update_of_ne ht, h.elsewhere u hu]
  · by_cases ht : u = t
    · subst ht
      rwa [Function.update_self]
    · rw [Function.update_of_ne ht]
      exact h.unpumped u

/-- The thread of the loop goes on to another stage. -/
theorem Placed.advance (h : Placed i duties stage)
    (hhome : ds.filter (Duty.isHome i) = stage'.duties i) (hpump : .pumping i ∉ ds) :
    Placed i (Function.update duties (.interpreter i) ds) stage' := by
  refine ⟨by rw [Function.update_self, hhome], fun u hu => ?_, fun u => ?_⟩
  · rw [Function.update_of_ne hu, h.elsewhere u hu]
  · by_cases ht : u = .interpreter i
    · rwa [ht, Function.update_self]
    · rw [Function.update_of_ne ht]
      exact h.unpumped u

/-! ### What a step tells -/

@[simp] theorem cores_set (l : Service) (i : InvokerId) (core : InvokerCore) :
    (l.set i core).cores = Function.update l.cores i (some core) := rfl

@[simp] theorem cores_modify (l : Service) (i : InvokerId) (f : InvokerCore → InvokerCore) :
    (l.modify i f).cores = Function.update l.cores i ((l.cores i).map f) := rfl

@[simp] theorem cores_tell (l : Service) (es : List Event) : (l.tell es).cores = l.cores := rfl

@[simp] theorem cores_signal (l : Service) (c : Option ℕ) : (l.signal c).cores = l.cores := rfl

@[simp] theorem told_set (l : Service) (i : InvokerId) (core : InvokerCore) :
    (l.set i core).told = l.told := rfl

@[simp] theorem told_modify (l : Service) (i : InvokerId) (f : InvokerCore → InvokerCore) :
    (l.modify i f).told = l.told := rfl

@[simp] theorem told_tell (l : Service) (es : List Event) : (l.tell es).told = l.told ++ es := rfl

@[simp] theorem told_signal (l : Service) (c : Option ℕ) : (l.signal c).told = l.told := rfl

/-- What a step that concerns another invoker leaves alone. -/
structure Apart (i : InvokerId) (p p' : Service × List Duty) : Prop where
  cores : p'.1.cores i = p.1.cores i
  queued : queuedOn i p'.1.told = queuedOn i p.1.told
  started : startedOn i p'.1.told = startedOn i p.1.told
  finished : finishedOn i p'.1.told = finishedOn i p.1.told
  discarded : discardedOn i p'.1.told = discardedOn i p.1.told
  inline : inlineOn i p'.1.told = inlineOn i p.1.told
  home : p'.2.filter (Duty.isHome i) = p.2.filter (Duty.isHome i)
  pumping : .pumping i ∈ p'.2 → .pumping i ∈ p.2

theorem Step.apart {p p' : Service × List Duty} (h : Step unfailing t j p p') (hne : j ≠ i) :
    Apart i p p' := by
  have hne' : i ≠ j := hne.symm
  cases h with
  | join asks => cases asks <;> constructor <;> simp [Duty.isHome, hne']
  | _ =>
    constructor <;>
      simp [enqueue, dequeue, Duty.isHome, hne, hne']

theorem Ledger.of_apart (h : Ledger unfailing i l.told r stage) (ha : Apart i (l, ds) (l', ds')) :
    Ledger unfailing i l'.told r stage where
  left := h.left
  exited := h.exited
  failed := h.failed
  joined := h.joined
  queued := by rw [ha.queued, ha.started, ha.discarded, h.queued]
  tickets := by rw [ha.queued, h.tickets]
  started := by rw [ha.started, ha.finished, h.started]
  discarded := by
    rw [ha.discarded]
    exact h.discarded
  dropped := by rw [ha.discarded, h.dropped]
  tasksRun hu := by rw [ha.finished, h.tasksRun hu]
  syncTasks hu := by rw [awaitedOn, ha.queued, ha.inline, h.syncTasks hu, awaitedOn]

/-! ### The steps of the loop -/

variable {es : List Event} {sub : Submission} {rest : List Submission}

/-- A thread that takes tasks has not left its loop by itself. -/
theorem Ledger.enqueue (h : Ledger unfailing i es r stage) (hopen : r.shutdown = false)
    (task : Task) (completion : Option ℕ) :
    Ledger unfailing i (es ++ [.queued i (r.queue.submission task completion)])
      { r with
        queue := r.queue.push task completion
        syncTasks := r.syncTasks + completion.toList.length } stage where
  left := h.left
  exited hphase := by simp [(h.exited hphase).1] at hopen
  failed := h.failed
  joined := h.joined
  queued := by simp [h.queued]
  tickets := by simp [h.tickets, TaskQueue.submission, TaskQueue.push, List.range_succ]
  started := by simpa using h.started
  discarded := by simpa using h.discarded
  dropped := by simpa using h.dropped
  tasksRun hu := by simpa using h.tasksRun hu
  syncTasks hu := by
    have hsync := h.syncTasks hu
    simp [TaskQueue.submission]
    omega

theorem Ledger.start (h : Ledger unfailing i es r .idle) (hopen : r.shutdown = false)
    (hq : r.queue.pending = sub :: rest) :
    Ledger unfailing i (es ++ [.started i sub]) { r with queue := { r.queue with pending := rest } }
      (.busy 0 sub) where
  left := by simpa using h.left
  exited hphase := by simp [(h.exited hphase).1] at hopen
  failed := h.failed
  joined := h.joined
  queued := by
    have hnone : discardedOn i es = [] := by
      by_contra hne
      simp [h.discarded hne] at hopen
    simpa [hnone, hq] using h.queued
  tickets := by simpa using h.tickets
  started := by simpa [LoopStage.running] using h.started
  discarded := by simpa using h.discarded
  dropped := by simpa using h.dropped
  tasksRun hu := by simpa [LoopStage.uncounted] using h.tasksRun hu
  syncTasks hu := by simpa [LoopStage.inside] using h.syncTasks hu

/-- A task is over, be it that it returned or failed. -/
theorem Ledger.finish (h : Ledger unfailing i es r (.busy 0 sub)) {e : Event}
    (he : e = .ended i sub ∨ e = .failed i sub) :
    Ledger unfailing i (es ++ [e]) r (.between 0) where
  left := by simpa using h.left
  exited := h.exited
  failed := h.failed
  joined := h.joined
  queued := by rcases he with rfl | rfl <;> simpa using h.queued
  tickets := by rcases he with rfl | rfl <;> simpa using h.tickets
  started := by rcases he with rfl | rfl <;> simpa [LoopStage.running] using h.started
  discarded := by rcases he with rfl | rfl <;> simpa using h.discarded
  dropped := by rcases he with rfl | rfl <;> simpa using h.dropped
  tasksRun hu := by
    have hrun := h.tasksRun hu
    rcases he with rfl | rfl <;> simp_all [LoopStage.uncounted]
  syncTasks hu := by
    have hsync := h.syncTasks hu
    rcases he with rfl | rfl <;> simp_all [LoopStage.inside]

theorem Ledger.loop (h : Ledger unfailing i es r (.between 0)) :
    Ledger unfailing i es { r with tasksRun := r.tasksRun + 1 } .idle :=
  { h with
    left := by simpa using h.left
    tasksRun := by simpa [LoopStage.uncounted] using h.tasksRun }

theorem Ledger.loopFailed (h : Ledger unfailing i es r (.between 0)) (hfails : ¬unfailing) :
    Ledger unfailing i es { r with phase := .failed } .left :=
  { h with
    left := by simp
    exited := by simp
    failed := fun hu => absurd hu hfails
    tasksRun := fun hu => absurd hu hfails }

theorem Ledger.drop (h : Ledger unfailing i es r .idle) (hstop : r.shutdown = true)
    (hq : r.queue.pending = sub :: rest) :
    Ledger unfailing i (es ++ [.discarded i sub])
      { r with dropped := r.dropped + 1, queue := { r.queue with pending := rest } } .idle where
  left := h.left
  exited hphase := by simp [(h.exited hphase).2] at hq
  failed := h.failed
  joined := h.joined
  queued := by simpa [hq] using h.queued
  tickets := by simpa using h.tickets
  started := by simpa using h.started
  discarded _ := hstop
  dropped := by simpa using h.dropped
  tasksRun hu := by simpa using h.tasksRun hu
  syncTasks hu := by simpa using h.syncTasks hu

theorem Ledger.exit (h : Ledger unfailing i es r .idle) (hstop : r.shutdown = true)
    (hq : r.queue.pending = []) : Ledger unfailing i es { r with phase := .exited } .left :=
  { h with
    left := by simp
    exited := fun _ => ⟨hstop, hq⟩
    failed := by simp }

theorem Ledger.stop (h : Ledger unfailing i es r stage) :
    Ledger unfailing i es { r with shutdown := true } stage :=
  { h with
    exited := fun hphase => ⟨rfl, (h.exited hphase).2⟩
    joined := fun _ => rfl
    discarded := fun _ => rfl }

theorem Ledger.join (h : Ledger unfailing i es r stage) (hstop : r.shutdown = true) :
    Ledger unfailing i es { r with joined := true } stage :=
  { h with joined := fun _ => hstop }

theorem Ledger.enter (h : Ledger unfailing i es r stage)
    (hinside : stage.enter.inside = stage.inside + 1) :
    Ledger unfailing i es { r with syncTasks := r.syncTasks + 1 } stage.enter :=
  { h with
    left := stage.enter_eq_left_iff.trans h.left
    started := by simpa using h.started
    tasksRun := by simpa using h.tasksRun
    syncTasks := fun hu => by
      have hsync := h.syncTasks hu
      rw [hinside]
      simp only
      omega }

/-- A synchronous task inside has returned. -/
theorem Ledger.leave (h : Ledger unfailing i es r stage.enter)
    (hinside : stage.enter.inside = stage.inside + 1) :
    Ledger unfailing i (es ++ [.ranInline i]) r stage where
  left := stage.enter_eq_left_iff.symm.trans h.left
  exited := h.exited
  failed := h.failed
  joined := h.joined
  queued := by simpa using h.queued
  tickets := by simpa using h.tickets
  started := by simpa using h.started
  discarded := by simpa using h.discarded
  dropped := by simpa using h.dropped
  tasksRun hu := by simpa using h.tasksRun hu
  syncTasks hu := by
    have hsync := h.syncTasks hu
    simp
    omega

theorem Ledger.failInside (h : Ledger unfailing i es r stage.enter) (hfails : ¬unfailing) :
    Ledger unfailing i es r stage :=
  { h with
    left := stage.enter_eq_left_iff.symm.trans h.left
    started := by simpa using h.started
    tasksRun := fun hu => absurd hu hfails
    syncTasks := fun hu => absurd hu hfails }

/-- What is known of an interpreter thread. -/
def Kept (unfailing : Prop) (i : InvokerId) (l : Service) (duties : ThreadId → List Duty) : Prop :=
  ∃ r stage, l.cores i = some (.thread r) ∧ Ledger unfailing i l.told r stage ∧
    Placed i duties stage

/-- A step of a thread keeps the ledger. -/
theorem Kept.step_self (h : Kept unfailing i l duties)
    (hs : Step unfailing t i (l, duties t) (l', ds)) :
    Kept unfailing i l' (Function.update duties t ds) := by
  obtain ⟨r, stage, hi, hl, hp⟩ := h
  have hunpumped := hp.unpumped t
  have hown := hp.own
  generalize hds : duties t = ds₀ at hs hunpumped
  -- the thread that gives up a duty of the loop is the loop's own
  have htop {d : Duty} {below : List Duty} (hd : ds₀ = d :: below) (hhome : d.isHome i = true) :
      t = .interpreter i ∧ stage.duties i = d :: below.filter (Duty.isHome i) := by
    have ht := hp.eq_interpreter (t := t) (d := d) (by simp [hds, hd]) hhome
    refine ⟨ht, ?_⟩
    rw [← hown, ← ht, hds, hd, List.filter_cons_of_pos hhome]
  cases hs with
  | create hnone => simp [hi] at hnone
  | discard hcore | beginPump hcore => simp [hi] at hcore
  | pump | endPump => simp at hunpumped
  | count hf =>
    exact ⟨r, stage, by simp [hi, InvokerCore.mapManual], hl, hp.update (by rw [hds]) hunpumped⟩
  | accept task hcore hopen =>
    obtain rfl := Option.some.inj (hi.symm.trans hcore)
    exact ⟨_, stage, Function.update_self .., hl.enqueue hopen task none,
      hp.update (by rw [hds]) hunpumped⟩
  | await task hcore hopen =>
    obtain rfl := Option.some.inj (hi.symm.trans hcore)
    exact ⟨_, stage, Function.update_self .., hl.enqueue hopen task (some l.completions),
      hp.update (by simp [hds, Duty.isHome]) (by simpa using hunpumped)⟩
  | inline hcore hloop =>
    obtain rfl := Option.some.inj (hi.symm.trans hcore)
    obtain ⟨rfl, hlooped⟩ := hloop r rfl
    have hmem : .looped i ∈ stage.duties i := by
      rw [← hown, hds]
      exact List.mem_filter.2 ⟨hlooped, by simp [Duty.isHome]⟩
    obtain ⟨hduties, hinside⟩ := LoopStage.duties_enter hmem
    refine ⟨_, stage.enter, Function.update_self .., hl.enter hinside,
      hp.advance ?_ (by simpa using hunpumped)⟩
    rw [hduties, ← hown, hds, List.filter_cons_of_pos (by simp [Duty.isHome])]
  | ranInline =>
    obtain ⟨rfl, hstage⟩ := htop rfl (by simp [Duty.isHome])
    obtain ⟨stage, rfl, hduties, hinside⟩ := LoopStage.exists_enter hstage.symm
    exact ⟨r, stage, hi, hl.leave hinside, hp.advance hduties (by simpa using hunpumped)⟩
  | failedInline hfails =>
    obtain ⟨rfl, hstage⟩ := htop rfl (by simp [Duty.isHome])
    obtain ⟨stage, rfl, hduties, -⟩ := LoopStage.exists_enter hstage.symm
    exact ⟨r, stage, hi, hl.failInside hfails, hp.advance hduties (by simpa using hunpumped)⟩
  | start hcore hopen hq =>
    obtain rfl := InvokerCore.thread.inj (Option.some.inj (hi.symm.trans hcore))
    obtain ⟨rfl, hstage⟩ := htop rfl (by simp [Duty.isHome])
    obtain ⟨rfl, hbelow⟩ := LoopStage.eq_idle hstage.symm
    exact ⟨_, .busy 0 _, Function.update_self .., hl.start hopen hq,
      hp.advance (by simp [Duty.isHome, hbelow, LoopStage.duties]) (by simpa using hunpumped)⟩
  | ended sub =>
    obtain ⟨rfl, hstage⟩ := htop rfl (by simp [Duty.isHome])
    obtain ⟨rfl, hbelow⟩ := LoopStage.eq_busy hstage.symm
    exact ⟨r, .between 0, hi, hl.finish (.inl rfl), hp.advance hbelow (by simpa using hunpumped)⟩
  | failed sub =>
    obtain ⟨rfl, hstage⟩ := htop rfl (by simp [Duty.isHome])
    obtain ⟨rfl, hbelow⟩ := LoopStage.eq_busy hstage.symm
    exact ⟨r, .between 0, hi, hl.finish (.inr rfl), hp.advance hbelow (by simpa using hunpumped)⟩
  | looped =>
    obtain ⟨rfl, hstage⟩ := htop rfl (by simp [Duty.isHome])
    obtain ⟨rfl, hbelow⟩ := LoopStage.eq_between hstage.symm
    exact ⟨_, .idle, by simp [hi, InvokerCore.mapThread], hl.loop,
      hp.advance (by simp [Duty.isHome, hbelow, LoopStage.duties]) (by simpa using hunpumped)⟩
  | loopFailed hfails =>
    obtain ⟨rfl, hstage⟩ := htop rfl (by simp [Duty.isHome])
    obtain ⟨rfl, hbelow⟩ := LoopStage.eq_between hstage.symm
    exact ⟨_, .left, by simp [hi, InvokerCore.mapThread], hl.loopFailed hfails,
      hp.advance (by simp [hbelow, LoopStage.duties]) (by simpa using hunpumped)⟩
  | drop hcore hstop hq =>
    obtain rfl := InvokerCore.thread.inj (Option.some.inj (hi.symm.trans hcore))
    obtain ⟨rfl, hstage⟩ := htop rfl (by simp [Duty.isHome])
    obtain ⟨rfl, -⟩ := LoopStage.eq_idle hstage.symm
    exact ⟨_, .idle, Function.update_self .., hl.drop hstop hq, hp.update (by rw [hds]) hunpumped⟩
  | exit hcore hstop hq =>
    obtain rfl := InvokerCore.thread.inj (Option.some.inj (hi.symm.trans hcore))
    obtain ⟨rfl, hstage⟩ := htop rfl (by simp [Duty.isHome])
    obtain ⟨rfl, hbelow⟩ := LoopStage.eq_idle hstage.symm
    exact ⟨_, .left, Function.update_self .., hl.exit hstop hq,
      hp.advance (by simp [hbelow, LoopStage.duties]) (by simpa using hunpumped)⟩
  | stop =>
    exact ⟨_, stage, by simp [hi, InvokerCore.mapThread], hl.stop, hp.update (by rw [hds]) hunpumped⟩
  | join asks hcore hstop =>
    obtain rfl := InvokerCore.thread.inj (Option.some.inj (hi.symm.trans hcore))
    refine ⟨_, stage, Function.update_self .., hl.join hstop, hp.update ?_ ?_⟩
    · cases asks <;> simp [hds, Duty.isHome]
    · cases asks <;> simpa using hunpumped
  | goOn | awaitedEnd | report =>
    exact ⟨r, stage, hi, hl, hp.update (by simp [hds, Duty.isHome]) (by simpa using hunpumped)⟩

/-! ### Runs -/

/-- Nothing was heard of an invoker that does not exist. -/
structure Unheard (i : InvokerId) (es : List Event) (duties : ThreadId → List Duty) : Prop where
  queued : queuedOn i es = []
  started : startedOn i es = []
  finished : finishedOn i es = []
  discarded : discardedOn i es = []
  inline : inlineOn i es = 0
  home (t : ThreadId) : (duties t).filter (Duty.isHome i) = []
  unpumped (t : ThreadId) : .pumping i ∉ duties t

theorem Unheard.update (h : Unheard i l.told duties) (ha : Apart i (l, duties t) (l', ds)) :
    Unheard i l'.told (Function.update duties t ds) where
  queued := ha.queued.trans h.queued
  started := ha.started.trans h.started
  finished := ha.finished.trans h.finished
  discarded := ha.discarded.trans h.discarded
  inline := ha.inline.trans h.inline
  home u := by
    by_cases hu : u = t
    · subst hu
      rw [Function.update_self, ha.home, h.home]
    · rw [Function.update_of_ne hu, h.home]
  unpumped u := by
    by_cases hu : u = t
    · subst hu
      rw [Function.update_self]
      exact fun hmem => h.unpumped u (ha.pumping hmem)
    · rw [Function.update_of_ne hu]
      exact h.unpumped u

/-- A thread can do nothing to an invoker that does not exist. -/
theorem Unheard.apart (h : Unheard i l.told duties) (hnone : l'.cores i = none)
    (hs : Step unfailing t i (l, duties t) (l', ds)) : Apart i (l, duties t) (l', ds) := by
  have hhome := h.home t
  have hunpumped := h.unpumped t
  generalize duties t = ds₀ at hs hhome hunpumped
  cases hs with
  | create | accept | await | inline | start | drop | discard | exit | join =>
    simp [enqueue, dequeue] at hnone
  | beginPump hi => simp [hi] at hnone
  | pump | endPump => simp at hunpumped
  | ranInline | failedInline | ended | failed | looped | loopFailed => simp [Duty.isHome] at hhome
  | _ => constructor <;> simp_all [Duty.isHome]

/-- What stands behind an invoker does not go away. -/
theorem Step.cores_eq_none (hs : Step unfailing t i (l, ds) (l', ds')) (hi : l'.cores i = none) :
    l.cores i = none := by
  cases hs <;> simp_all [Service.enqueue, dequeue]

/-- The creation of an interpreter thread leaves other invokers alone. -/
theorem apart_spawn (name : String) (hnil : duties (.interpreter j) = []) (hne : i ≠ j) :
    Apart i (l, duties (.interpreter j)) (l.set j (.thread { name := name }), [.loop j]) :=
  ⟨by simp [hne], rfl, rfl, rfl, rfl, rfl, by simp [hnil, Duty.isHome, hne.symm], by simp⟩

theorem Run.unheard (h : Run unfailing l duties) (hi : l.cores i = none) :
    Unheard i l.told duties := by
  induction h with
  | refl => constructor <;> simp [Service.initial, queuedOn, startedOn, finishedOn, discardedOn,
      inlineOn]
  | @next l _ duties _ _ hn ih =>
    cases hn with
    | @step _ _ _ t j ds hs =>
      by_cases hj : j = i
      · subst hj
        have hnone := hs.cores_eq_none hi
        exact (ih hnone).update ((ih hnone).apart hi hs)
      · have ha := hs.apart hj
        exact (ih (ha.cores ▸ hi)).update ha
    | @spawn _ _ j name hj hnil =>
      have hne : i ≠ j := fun h => by simp [h] at hi
      have hnone : l.cores i = none := by simpa [hne] using hi
      exact (ih hnone).update (apart_spawn name hnil hne)

theorem Kept.of_apart (h : Kept unfailing i l duties) (ha : Apart i (l, duties t) (l', ds)) :
    Kept unfailing i l' (Function.update duties t ds) := by
  obtain ⟨r, stage, hi, hl, hp⟩ := h
  exact ⟨r, stage, ha.cores.trans hi, hl.of_apart ha,
    hp.update ha.home fun hmem => hp.unpumped t (ha.pumping hmem)⟩

/-- What stands behind an invoker stays of its kind. -/
theorem Step.exists_thread (hs : Step unfailing t i (l, ds) (l', ds'))
    (hi : l'.cores i = some (.thread r')) : ∃ r, l.cores i = some (.thread r) := by
  cases hs with
  | count =>
    cases hcore : l.cores i with
    | none => simp [hcore] at hi
    | some core => cases core <;> simp_all [InvokerCore.mapManual]
  | looped | loopFailed | stop =>
    cases hcore : l.cores i with
    | none => simp [hcore] at hi
    | some core => cases core <;> simp_all [InvokerCore.mapThread]
  | @accept _ _ core task hcore | @pump _ _ core _ _ hcore =>
    cases core <;> simp_all [enqueue, dequeue, InvokerCore.withQueue]
  | @await _ _ core task hcore | @inline _ _ core hcore =>
    cases core <;>
      simp_all [enqueue, InvokerCore.withQueue, InvokerCore.countSync, InvokerCore.mapThread]
  | _ => simp_all [dequeue, InvokerCore.withQueue]

/-- Every run keeps the ledger of every interpreter thread. -/
theorem Run.kept (h : Run unfailing l duties) (hi : l.cores i = some (.thread r)) :
    Kept unfailing i l duties := by
  induction h generalizing r with
  | refl => simp [Service.initial] at hi
  | @next l _ duties _ hrun hn ih =>
    cases hn with
    | @step _ _ _ t j ds hs =>
      by_cases hj : j = i
      · subst hj
        obtain ⟨r₀, hr₀⟩ := hs.exists_thread hi
        exact (ih hr₀).step_self hs
      · have ha := hs.apart hj
        exact (ih (ha.cores ▸ hi)).of_apart ha
    | @spawn _ _ j name hj hnil =>
      by_cases hne : i = j
      · subst hne
        have hu := Run.unheard hrun hj
        refine ⟨{ name := name }, .idle, Function.update_self .., ?_, ?_⟩
        · constructor <;>
            simp [hu.queued, hu.started, hu.finished, hu.discarded, hu.inline, LoopStage.running,
              LoopStage.uncounted, LoopStage.inside, awaitedOn]
        · have hp : Placed i duties .left := ⟨hu.home _, fun t _ => hu.home t, hu.unpumped⟩
          exact hp.advance (by simp [Duty.isHome, LoopStage.duties]) (by simp)
      · have hi' : l.cores i = some (.thread r) := by simpa [hne] using hi
        exact (ih hi').of_apart (apart_spawn name hnil hne)

theorem Step.unfailed {p p' : Service × List Duty} (hs : Step unfailing t j p p')
    (hu : unfailing) {sub : Submission} (h : .failed i sub ∉ p.1.told) :
    .failed i sub ∉ p'.1.told := by
  cases hs <;> simp_all [enqueue, dequeue]

/-- In an unfailing run, no task has failed. -/
theorem Run.unfailed (h : Run unfailing l duties) (hu : unfailing) (i : InvokerId)
    (sub : Submission) : .failed i sub ∉ l.told := by
  induction h with
  | refl => simp [Service.initial]
  | next _ hn ih =>
    cases hn with
    | step hs => exact hs.unfailed hu ih
    | spawn => exact ih

end Service

end AddonHost
