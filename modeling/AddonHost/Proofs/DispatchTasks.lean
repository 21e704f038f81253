import AddonHost.Proofs.Function.Dispatch
import AddonHost.Proofs.Sleepers

/-!
One dispatch task for each queued item.

A call appends an item and submits a dispatch task, and a dispatch task takes one item off the
queue.  Nothing ties the two to each other: when a task is lost, its item stays, and the tasks that
are left take the items that have waited longest.  What holds all the same is a count.
`Reachable.dispatch_tasks` says of every threadsafe function:

* unless a thread is in the middle of a call whose task it runs at once, as many items are queued as
  dispatch tasks were accepted and not started (`Session.acceptedDrains`) or lost
  (`Session.lostDrains`);
* so a thread that is about to run a dispatch task never finds the queue empty;
* and each dispatch task that was started has taken one item.
-/

namespace AddonHost

/-- Whether a thread is in the middle of a synchronous call on the invoker's own thread: the item is
appended, and its dispatch task, which is not queued, is about to start. -/
def Thread.submitsAtOnce (f : HandleId) (th : Thread) : Bool :=
  match th.control, th.stack with
  | .run (.task _ (.drain g)), .ranInline _ :: _ => g = f
  | _, _ => false

/-- Whether a thread has taken a dispatch task off a queue and is about to start it. -/
def Thread.takesUpDrain (f : HandleId) (th : Thread) : Bool :=
  th.startsDrain f && !th.submitsAtOnce f

/-- Whether an event is the start of a dispatch task of a function. -/
def Event.startsDrain (f : HandleId) : Event → Bool
  | drainStarted g => g = f
  | _ => false

theorem Event.concerns_of_startsDrain {f : HandleId} {e : Event} (h : e.startsDrain f = true) :
    e.concerns f = true := by
  cases e with
  | drainStarted g => exact h
  | _ => cases h

/-- A thread is about to run one dispatch task, or none. -/
theorem countP_isStarting_activities (f : HandleId) (t : ThreadId) (th : Thread) :
    (th.activities f t).countP Activity.isStarting = if th.startsDrain f then 1 else 0 := by
  have hframes : (framesOver f th.stack []).countP Activity.isStarting = 0 :=
    List.countP_eq_zero.2 fun a ha => by simp [isStarting_of_mem_framesOver ha]
  rw [Thread.activities, List.countP_append, hframes, Nat.add_zero]
  obtain ⟨control, stack⟩ := th
  cases control with
  | run c =>
    cases c with
    | task i task =>
      cases task with
      | drain g =>
        by_cases hg : g = f <;>
          simp [Control.activities, Code.activities, Thread.startsDrain, hg, Activity.isStarting]
      | teardown g =>
        by_cases hg : g = f <;>
          simp [Control.activities, Code.activities, Thread.startsDrain, hg, Activity.isStarting]
      | _ => rfl
    | finalizer owner =>
      cases owner with
      | none => rfl
      | some g =>
        by_cases hg : g = f <;>
          simp [Control.activities, Code.activities, Thread.startsDrain, hg, Activity.isStarting]
    | awaitSpace g | deliver g | teardown g =>
      by_cases hg : g = f <;>
        simp [Control.activities, Code.activities, Thread.startsDrain, hg, Activity.isStarting]
    | _ => rfl
  | _ => rfl

namespace Life

variable {f : HandleId} {alone : Prop} {l : Life} {doing : Multiset Activity}

theorem countP_startsDrain_discarded (f : HandleId) (i : InvokerId) (subs : List Submission) :
    ((subs.map (Event.discarded i)).filter (Event.concerns f)).countP (Event.startsDrain f)
      = 0 := by
  rw [List.countP_eq_zero]
  intro e he
  obtain ⟨sub, -, rfl⟩ := List.mem_map.1 (List.mem_of_mem_filter he)
  simp [Event.startsDrain]

/-- Each dispatch task that was started has taken one item. -/
theorem Run.countP_startsDrain (h : Run f alone l doing) :
    l.told.countP (Event.startsDrain f) = (l.taken f).length := by
  induction h with
  | unborn n => rfl
  | @step l l' own own' kept hr hs _ ih =>
    cases hs with
    | @drain fn i hl =>
      -- the task finds an item, and tells that it has started and what it has taken
      obtain ⟨data, rest, hqueue⟩ := List.exists_cons_of_ne_nil hr.queue_ne_nil
      rw [queue, hl, Option.map_some, Option.getD_some] at hqueue
      have hstarted : (.drainStarted f :: takenEvents f fn).countP (Event.startsDrain f) = 1 := by
        simp [takenEvents, pop_fst, hqueue, Event.startsDrain]
      rw [taken, marks_tell, told_tell, filterMap_takenEvents, hqueue, List.countP_append, hstarted]
      simp [ih, taken]
    | discard i hrest hsubs =>
      obtain ⟨lost, -, -, hlost⟩ := hr.tasks_discard hrest hsubs
      have hnone : (lost.map FunctionTask.lost).filterMap Mark.taken? = [] :=
        filterMap_lost rfl rfl _
      rw [taken, marks_tell, told_tell, hlost, List.filterMap_append, hnone, List.append_nil,
        List.countP_append, countP_startsDrain_discarded, Nat.add_zero]
      exact ih
    | closeAgain hl hc hs | closeQueued i hl hc hs hi | closeAtOnce hl hc hs =>
      cases hc <;> simp_all [taken, Event.startsDrain, Event.mark?]
    | _ => simp_all [taken, Event.startsDrain, Event.mark?]

end Life

namespace Session

variable {s : Session} {f : HandleId} {fn : ThreadsafeFunction}

/-- The dispatch tasks of a function that its invoker has accepted and that were not started: those
that are queued, and those that a thread has taken off the queue to start them. -/
def acceptedDrains (s : Session) (f : HandleId) : ℕ :=
  (s.pendingTasks f).count .drain + s.threads.countP fun p => p.2.takesUpDrain f

/-- The dispatch tasks of a function that were lost: handed back, submitted to no invoker, or
discarded. -/
def lostDrains (s : Session) (f : HandleId) : ℕ := (s.marks f).count .drainLost

/-- The threads that are about to run a dispatch task. -/
theorem tally_isStarting_doing (s : Session) (f : HandleId) :
    tally Activity.isStarting (s.doing f) = s.threads.countP fun p => p.2.startsDrain f := by
  show tally Activity.isStarting (doingOf f s.threads) = _
  induction s.threads with
  | nil => rfl
  | cons p threads ih =>
    rw [doingOf_cons, tally_add, ih, countP_isStarting_activities, List.countP_cons, Nat.add_comm]

/-- A thread that is about to run a dispatch task has taken it off a queue, or runs it at once. -/
theorem countP_startsDrain (threads : List (ThreadId × Thread)) (f : HandleId) :
    threads.countP (fun p => p.2.startsDrain f)
      = threads.countP (fun p => p.2.takesUpDrain f)
        + threads.countP fun p => p.2.startsDrain f && p.2.submitsAtOnce f := by
  induction threads with
  | nil => rfl
  | cons p threads ih =>
    simp only [List.countP_cons, ih, Thread.takesUpDrain]
    cases p.2.startsDrain f <;> cases p.2.submitsAtOnce f <;> simp <;> omega

/-- What is queued is counted by the dispatch tasks that are queued, that threads are about to run,
and that were lost. -/
theorem Reachable.length_queue (h : s.Reachable) (hf : s.functions.object? f = some fn) :
    fn.queue.length = (s.pendingTasks f).count .drain
      + s.threads.countP (fun p => p.2.startsDrain f) + s.lostDrains f := by
  have hl : (s.life f).function = some fn := hf
  have hlength := (h.run f id).length_queue
  rwa [Life.queue, hl, Option.map_some, Option.getD_some, tally_isStarting_doing, marks_life]
    at hlength

/-- Unless a thread is in the middle of a call whose dispatch task it runs at once, as many items
are queued as dispatch tasks were accepted and not started, or lost.  So a thread that is about to
run a dispatch task finds an item, and as many items were taken as dispatch tasks were started. -/
theorem Reachable.dispatch_tasks (h : s.Reachable) (hf : s.functions.object? f = some fn) :
    ((∀ p ∈ s.threads, p.2.submitsAtOnce f = false) →
        fn.queue.length = s.acceptedDrains f + s.lostDrains f) ∧
      (∀ p ∈ s.threads, p.2.startsDrain f = true → fn.queue ≠ []) ∧
      s.history.countP (Event.startsDrain f) = (s.takenFrom f).length := by
  have hlength := h.length_queue hf
  refine ⟨fun hbetween => ?_, fun p hp hstarts hnil => ?_, ?_⟩
  · have hnone : s.threads.countP (fun p => p.2.startsDrain f && p.2.submitsAtOnce f) = 0 := by
      rw [List.countP_eq_zero]
      intro p hp
      simp [hbetween p hp]
    rw [countP_startsDrain, hnone] at hlength
    rw [acceptedDrains]
    omega
  · -- the task that is about to run is one of those that are counted
    have hpos : 0 < s.threads.countP fun p => p.2.startsDrain f :=
      List.countP_pos_iff.2 ⟨p, hp, hstarts⟩
    rw [hnil, List.length_nil] at hlength
    omega
  · have hstarted := (h.run f id).countP_startsDrain
    rw [Life.taken, marks_life, ← takenFrom_eq] at hstarted
    rw [← hstarted]
    show _ = (s.history.filter (Event.concerns f)).countP (Event.startsDrain f)
    rw [List.countP_filter]
    refine List.countP_congr fun e _ => ?_
    simpa using Event.concerns_of_startsDrain

/-- A session in which a callback has appended an item whose dispatch task was handed back, has then
aborted the function, and pumps: the dispatch task of the second item is about to run. -/
def pumpingAfterAbort : Session :=
  ((start [] none).during?
    [.createInvoker "queue" (.limited 2),
      .createFunction { name := "f", callJs := true, invoker := some "queue" },
      .script (.callJs (.word 1))
        [.call (.named "f") (.word 3) .nonBlocking, .release (.named "f") .abort,
          .pump "queue" .one],
      .call (.named "f") (.word 1) .nonBlocking,
      .call (.named "f") (.word 2) .nonBlocking]
    (.pump "queue" .one) 21).get (by decide +kernel)

theorem dispatch_tasks_pumpingAfterAbort :
    ∃ fn, pumpingAfterAbort.functions.object? ⟨1⟩ = some fn ∧
      fn.aborted = true ∧ fn.queue.length = 1 + 1 ∧ fn.queue ≠ [] ∧
      pumpingAfterAbort.history.countP (Event.startsDrain ⟨1⟩) = 1 := by
  have hreachable : pumpingAfterAbort.Reachable :=
    (Reachable.start [] none).during? (Option.some_get _).symm
  have hfunction : pumpingAfterAbort.functions.object? ⟨1⟩ = some _ :=
    (Option.some_get (by decide +kernel)).symm
  obtain ⟨hlength, hfound, hstarted⟩ := hreachable.dispatch_tasks hfunction
  have haccepted : pumpingAfterAbort.acceptedDrains ⟨1⟩ = 1 := by decide +kernel
  have hlost : pumpingAfterAbort.lostDrains ⟨1⟩ = 1 := by decide +kernel
  have htaken : (pumpingAfterAbort.takenFrom ⟨1⟩).length = 1 := by decide +kernel
  have hstarting : ∃ p ∈ pumpingAfterAbort.threads, p.2.startsDrain ⟨1⟩ = true := by decide +kernel
  have hbetween : ∀ p ∈ pumpingAfterAbort.threads, p.2.submitsAtOnce ⟨1⟩ = false := by
    decide +kernel
  obtain ⟨p, hp, hstarts⟩ := hstarting
  refine ⟨_, hfunction, by decide +kernel, ?_, hfound p hp hstarts, hstarted.trans htaken⟩
  rw [hlength hbetween, haccepted, hlost]

end Session

end AddonHost
