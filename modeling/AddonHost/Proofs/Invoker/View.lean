import AddonHost.Proofs.Invoker.Life
import AddonHost.Session.Reachable

/-!
The invokers of a session.

`Session.backstage` is what a session has of invokers and threads: what happens there is not seen by
the addon or an engine.  `Session.service` is what it shows of them, apart from who keeps an invoker
alive, and `Thread.duties` is what a thread is in the middle of doing for an invoker.
-/

namespace AddonHost

/-- The invokers and the threads of a session. -/
structure Backstage where
  invokers : Assoc InvokerId Invoker
  completions : ℕ
  signalled : List ℕ
  threads : Assoc ThreadId Thread
  /-- What was told of tasks, in the order of time. -/
  told : List Event

/-- What a session shows of its invokers. -/
def Backstage.service (b : Backstage) : Service where
  cores i := (b.invokers.get? i).map Invoker.core
  completions := b.completions
  signalled := { c | c ∈ b.signalled }
  told := b.told

namespace Invoker

theorem core_mapManual (inv : Invoker) (f : ManualInvoker → ManualInvoker) :
    (inv.mapManual f).core = inv.core.mapManual f := by
  obtain ⟨holders, core⟩ := inv
  cases core <;> rfl

theorem core_mapThread (inv : Invoker) (f : InterpreterThread → InterpreterThread) :
    (inv.mapThread f).core = inv.core.mapThread f := by
  obtain ⟨holders, core⟩ := inv
  cases core <;> rfl

theorem core_withQueue (inv : Invoker) (q : TaskQueue) :
    (inv.withQueue q).core = inv.core.withQueue q := by
  obtain ⟨holders, core⟩ := inv
  cases core <;> rfl

theorem holders_mapManual (inv : Invoker) (g : ManualInvoker → ManualInvoker) :
    (inv.mapManual g).holders = inv.holders := by
  obtain ⟨holders, core⟩ := inv
  cases core <;> rfl

theorem holders_mapThread (inv : Invoker) (g : InterpreterThread → InterpreterThread) :
    (inv.mapThread g).holders = inv.holders := by
  obtain ⟨holders, core⟩ := inv
  cases core <;> rfl

theorem holders_withQueue (inv : Invoker) (q : TaskQueue) :
    (inv.withQueue q).holders = inv.holders := by
  obtain ⟨holders, core⟩ := inv
  cases core <;> rfl

theorem queue_core (inv : Invoker) : inv.core.queue = inv.queue := by
  obtain ⟨holders, core⟩ := inv
  cases core <;> rfl

end Invoker

/-- What a piece of code is in the middle of doing for an invoker. -/
def Code.duties : Code → List Duty
  | .loop i => [.loop i]
  | .pump i _ => [.pumping i]
  | .awaitTask i completion => [.awaiting i completion]
  | .awaitEnd i _ => [.ending i]
  | _ => []

/-- What a frame is in the middle of doing for an invoker. -/
def Frame.duties : Frame → List Duty
  | .ranInline i => [.inline i]
  | .taskEnded i sub => [.running i sub]
  | .pumped i _ => [.pumping i]
  | .looped i => [.looped i]
  | .joined i => [.joined i]
  | _ => []

/-- What the control of a thread is in the middle of doing for an invoker. -/
def Control.duties : Control → List Duty
  | .run c => c.duties
  | _ => []

/-- What frames are in the middle of doing for an invoker. -/
abbrev dutiesOf (frames : List Frame) : List Duty := frames.flatMap Frame.duties

/-- What a thread is in the middle of doing for an invoker. -/
def Thread.duties (th : Thread) : List Duty := th.control.duties ++ dutiesOf th.stack

/-- What a thread is in the middle of doing for an invoker after a move, apart from the frames that
were left below. -/
def Move.duties (m : Move) : List Duty := m.control.duties ++ dutiesOf m.frames

namespace Session

/-- The invokers and the threads of a session. -/
def backstage (s : Session) : Backstage where
  invokers := s.invokers
  completions := s.completions
  signalled := s.signalled
  threads := s.threads
  told := s.history.filter Event.isService

/-- What a session shows of its invokers. -/
def service (s : Session) : Service := s.backstage.service

/-- What a thread is in the middle of doing for an invoker. -/
def duties (s : Session) (t : ThreadId) : List Duty :=
  ((s.threads.get? t).map Thread.duties).getD []

variable {s s' : Session} {i : InvokerId} {inv : Invoker} {t : ThreadId}

theorem cores_service (s : Session) (i : InvokerId) :
    s.service.cores i = (s.invokers.get? i).map Invoker.core := rfl

theorem cores_eq (hi : s.invokers.get? i = some inv) : s.service.cores i = some inv.core := by
  rw [cores_service, hi, Option.map_some]

theorem service_of_backstage (h : s'.backstage = s.backstage) : s'.service = s.service := by
  rw [service, h, service]

theorem threads_of_backstage (h : s'.backstage = s.backstage) : s'.threads = s.threads :=
  congrArg Backstage.threads h

theorem duties_eq {th : Thread} (ht : s.threads.get? t = some th) : s.duties t = th.duties := by
  rw [duties, ht, Option.map_some, Option.getD_some]

/-- What is told of tasks is in the history. -/
theorem mem_told {e : Event} (he : e.isService = true) : e ∈ s.service.told ↔ e ∈ s.history := by
  simp [service, backstage, Backstage.service, he]

/-! ### Operations behind the stage -/

theorem service_emit {e : Event} (he : e.isService = true) :
    (s.emit e).service = s.service.tell [e] := by
  have htold : (s.emit e).history.filter Event.isService
      = s.history.filter Event.isService ++ [e] := by
    simp [he]
  simp only [service, backstage, Backstage.service, htold]
  rfl

theorem service_signal (s : Session) (completion : Option ℕ) :
    (s.signal completion).service = s.service.signal completion := by
  cases completion with
  | none => simp [signal, Service.signal]
  | some c =>
    ext : 1
    · rfl
    · rfl
    · ext c'
      simp [signal, service, backstage, Backstage.service, Service.signal, eq_comm]
    · rfl

theorem service_modifyInvoker {f : Invoker → Invoker} {g : InvokerCore → InvokerCore}
    (hfg : ∀ inv, (f inv).core = g inv.core) (s : Session) (i : InvokerId) :
    (s.modifyInvoker i f).service = s.service.modify i g := by
  ext : 1
  · funext j
    rw [cores_service, modifyInvoker, Assoc.get?_modify, Service.modify, cores_service]
    by_cases hj : i = j
    · subst hj
      cases s.invokers.get? i <;> simp [hfg]
    · simp [hj, Ne.symm hj, cores_service]
  all_goals rfl

/-- A change of an invoker that is there. -/
theorem service_modifyInvoker_of_eq {f : Invoker → Invoker} {core : InvokerCore}
    (hi : s.invokers.get? i = some inv) (hf : (f inv).core = core) :
    (s.modifyInvoker i f).service = s.service.set i core := by
  ext : 1
  · funext j
    rw [cores_service, modifyInvoker, Assoc.get?_modify, Service.set]
    by_cases hj : i = j
    · subst hj
      simp [hi, hf]
    · simp [hj, Ne.symm hj, cores_service]
  all_goals rfl

/-- A change of an invoker that leaves alone what stands behind it. -/
theorem service_modifyInvoker_same {f : Invoker → Invoker} (hf : ∀ inv, (f inv).core = inv.core)
    (s : Session) (i : InvokerId) : (s.modifyInvoker i f).service = s.service := by
  ext : 1
  · funext j
    rw [cores_service, modifyInvoker, Assoc.get?_modify, cores_service]
    by_cases hj : i = j
    · subst hj
      cases s.invokers.get? i <;> simp [hf]
    · simp [hj]
  all_goals rfl

@[simp] theorem service_keepInvoker (s : Session) (i : InvokerId) :
    (s.keepInvoker i).service = s.service :=
  service_modifyInvoker_same (f := fun inv => { inv with holders := inv.holders + 1 })
    (fun _ => rfl) s i

theorem service_modifyInterpreter (s : Session) (i : InvokerId)
    (g : InterpreterThread → InterpreterThread) :
    (s.modifyInterpreter i g).service = s.service.modify i (.mapThread g) :=
  service_modifyInvoker (Invoker.core_mapThread · g) s i

theorem service_countExecuted (s : Session) (i : InvokerId) :
    (s.countExecuted i).service
      = s.service.modify i (.mapManual fun m => { m with executed := m.executed + 1 }) :=
  service_modifyInvoker (Invoker.core_mapManual · _) s i

theorem service_enqueue (hi : s.invokers.get? i = some inv) {old : Invoker}
    (hold : old.queue = inv.queue) (task : Task) (completion : Option ℕ) :
    (s.enqueue i old task completion).service = s.service.enqueue i inv.core task completion := by
  have hcore : (inv.withQueue (inv.queue.push task completion)).core
      = inv.core.withQueue (inv.core.queue.push task completion) := by
    rw [Invoker.core_withQueue, Invoker.queue_core]
  rw [enqueue, service_emit rfl, service_modifyInvoker_of_eq hi hcore, hold, ← Invoker.queue_core]
  rfl

end Session

end AddonHost
