import AddonHost.Proofs.Session.Simulation
import AddonHost.Proofs.Function.Waiting
import AddonHost.Proofs.Function.Delivery

/-!
What a session shows of the runs of its functions.

The invariants of a run (`Life.Run`) are about marks, tasks and activities.  Here these are read off
the session: its journal, the queues of its invokers and the stacks of its threads.
-/

namespace AddonHost

/-- The invoker whose task is run above a frame. -/
def Frame.runner? : Frame → Option InvokerId
  | .taskEnded i _ | .ranInline i => some i
  | _ => none

/-- Code whose task belongs to an invoker has a frame of the invoker below it. -/
theorem exists_of_runner? {i : InvokerId} {frames : List Frame} (h : runner? frames = some i) :
    ∃ fr ∈ frames, fr.runner? = some i := by
  induction frames with
  | nil => simp [AddonHost.runner?] at h
  | cons fr frames ih =>
    cases fr with
    | taskEnded j sub | ranInline j => exact ⟨_, List.mem_cons_self, h⟩
    | _ =>
      obtain ⟨fr, hfr, hi⟩ := ih h
      exact ⟨fr, List.mem_cons_of_mem _ hfr, hi⟩

/-- What belongs to a task of an invoker is done above a frame of the invoker. -/
theorem exists_of_mem_framesOver {f : HandleId} {a : Activity} {i : InvokerId}
    {frames : List Frame} (ha : a ∈ framesOver f frames []) (hi : a.runner? = some (some i)) :
    ∃ fr ∈ frames, fr.runner? = some i := by
  induction frames with
  | nil => simp [framesOver] at ha
  | cons fr frames ih =>
    rcases List.mem_append.1 ha with ha | ha
    · have hrunner : runner? frames = some i := by
        cases fr <;> simp_all [Frame.activities, Activity.runner?]
      obtain ⟨fr, hfr, hi⟩ := exists_of_runner? hrunner
      exact ⟨fr, List.mem_cons_of_mem _ hfr, hi⟩
    · obtain ⟨fr, hfr, hi⟩ := ih ha
      exact ⟨fr, List.mem_cons_of_mem _ hfr, hi⟩

/-- No dispatch task is about to run in a frame: it is about to run when the thread says so. -/
theorem isStarting_of_mem_framesOver {f : HandleId} {a : Activity} {frames below : List Frame}
    (ha : a ∈ framesOver f frames below) : a.isStarting = false := by
  induction frames with
  | nil => simp [framesOver] at ha
  | cons fr frames ih =>
    rcases List.mem_append.1 ha with ha | ha
    · cases fr <;> simp_all [Frame.activities, Activity.isStarting]
    · exact ih ha

theorem exists_of_mem_activities {f : HandleId} {t : ThreadId} {th : Thread} {a : Activity}
    {i : InvokerId} (ha : a ∈ th.activities f t) (hi : a.runner? = some (some i)) :
    ∃ fr ∈ th.stack, fr.runner? = some i := by
  rcases List.mem_append.1 ha with ha | ha
  · refine exists_of_runner? ?_
    obtain ⟨control, stack⟩ := th
    cases control with
    | run c =>
      cases c with
      | task j task => cases task <;> simp_all [Control.activities, Code.activities, Activity.runner?]
      | finalizer owner =>
        cases owner <;> simp_all [Control.activities, Code.activities, Activity.runner?]
      | _ => simp_all [Control.activities, Code.activities, Activity.runner?]
    | _ => simp [Control.activities] at ha
  · exact exists_of_mem_framesOver ha hi

namespace Session

variable {s : Session} {f : HandleId} {fn : ThreadsafeFunction}

/-- What the journal tells of a function. -/
def marks (s : Session) (f : HandleId) : List Mark := s.history.filterMap (Event.mark? f)

/-- The tasks of a function that its invoker has queued. -/
def pendingTasks (s : Session) (f : HandleId) : List FunctionTask := (s.life f).tasks

/-- Whether a thread is running a task of an invoker. -/
def isRunning (s : Session) (i : InvokerId) : Bool :=
  s.threads.any fun p => p.2.stack.any fun fr => fr.runner? = some i

/-- Whether no thread is in the middle of an operation. -/
def AtRest (s : Session) : Prop := ∀ t ∈ s.precedence, s.isBusy t = false

instance (s : Session) : Decidable s.AtRest :=
  inferInstanceAs (Decidable (∀ t ∈ s.precedence, s.isBusy t = false))

@[simp] theorem marks_life (s : Session) (f : HandleId) : (s.life f).marks f = s.marks f := by
  rw [marks, Life.marks, life, told, List.filterMap_filter]
  congr 1
  funext e
  by_cases he : e.concerns f = true
  · rw [if_pos he]
  · rw [if_neg he, Event.mark?_eq_none (by simpa using he)]

theorem appendedTo_eq (s : Session) (f : HandleId) :
    s.appendedTo f = (s.marks f).filterMap Mark.appended? := by
  rw [marks, appendedTo, List.filterMap_filterMap]
  congr 1
  funext e
  cases e with
  | discarded i sub =>
    simp only [Event.appendedTo?, Event.mark?]
    rcases sub.task.part? f with _ | _ | _ <;> rfl
  | _ =>
    simp only [Event.appendedTo?, Event.mark?]
    first | rfl | split_ifs <;> rfl

theorem takenFrom_eq (s : Session) (f : HandleId) :
    s.takenFrom f = (s.marks f).filterMap Mark.taken? := by
  rw [marks, takenFrom, List.filterMap_filterMap]
  congr 1
  funext e
  cases e with
  | discarded i sub =>
    simp only [Event.takenFrom?, Event.mark?]
    rcases sub.task.part? f with _ | _ | _ <;> rfl
  | _ =>
    simp only [Event.takenFrom?, Event.mark?]
    first | rfl | split_ifs <;> rfl

theorem deliveredFor_eq (s : Session) (f : HandleId) :
    s.deliveredFor f = (s.marks f).filterMap Mark.delivered? := by
  rw [marks, deliveredFor, List.filterMap_filterMap]
  congr 1
  funext e
  cases e with
  | discarded i sub =>
    simp only [Event.deliveredFor?, Event.mark?]
    rcases sub.task.part? f with _ | _ | _ <;> rfl
  | _ =>
    simp only [Event.deliveredFor?, Event.mark?]
    first | rfl | split_ifs <;> rfl

/-- While no thread is in the middle of an operation, nothing is being delivered. -/
theorem Sound.inFlight_eq_zero (h : s.Sound) (hsilent : s.EnginesSilent) (hrest : s.AtRest) :
    inFlight (s.doing f) = 0 := by
  refine AddonHost.inFlight_eq_zero fun a ha => ?_
  obtain ⟨p, hp, ha⟩ := mem_doingOf.1 ha
  exact h.isDelivery_of_not_isBusy hsilent hp (hrest p.1 (h.sane.placed p hp)) a ha

/-- While no task of its invoker is running, nothing is done that belongs to a dispatch task. -/
theorem Reachable.runner?_eq_none (h : s.Reachable) (hf : s.functions.object? f = some fn)
    (hidle : ∀ i, fn.invoker = some i → s.isRunning i = false) :
    ∀ a ∈ s.doing f, a.runner? = none := by
  intro a ha
  cases hrunner : a.runner? with
  | none => rfl
  | some o =>
    obtain ⟨i, rfl, hi⟩ := (h.run f id).invoker?_of_runner? ha hrunner
    have hl : (s.life f).function = some fn := hf
    rw [Life.invoker?, hl, Option.bind_some] at hi
    obtain ⟨p, hp, ha⟩ := mem_doingOf.1 ha
    obtain ⟨fr, hfr, hfri⟩ := exists_of_mem_activities ha hrunner
    have hrunning : s.isRunning i = true := by
      rw [isRunning, List.any_eq_true]
      exact ⟨p, hp, List.any_eq_true.2 ⟨fr, hfr, by simp [hfri]⟩⟩
    simp [hidle i hi] at hrunning

end Session

end AddonHost
