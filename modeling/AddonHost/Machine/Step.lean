import AddonHost.Perform

/-!
The step of a thread.

`Code.step` runs a piece of code, `Frame.resume` hands a reply to a frame, and `Frame.unwind` passes
a failure on.  `Session.step` puts them together: it takes one step of one thread, if the thread can
take one.
-/

namespace AddonHost

/-- One step of a piece of code on a thread; none while it has to wait. -/
def Code.step (c : Code) (t : ThreadId) (s : Session) : Option Move :=
  match c with
  | .perform a => some (s.perform t a)
  | .script _ [] => some (s.give .unit)
  | .script owner (a :: rest) => some (s.run (.perform a) [.performed owner a rest])
  | .entry p r => some (s.entry t p r)
  | .register p moduleHandle => some (s.registerEntry p moduleHandle)
  | .createFunction env spec delivery invoker =>
    some (s.createFunction env spec delivery invoker)
  | .call f data mode => some (s.call t f data mode)
  | .awaitSpace f data => s.awaitSpace t f data
  | .release f mode => some (s.release t f mode)
  | .deliver f data => some (s.deliver f data)
  | .teardown f => some (s.teardown f)
  | .finalizer owner fin env hint => some (s.finalizer owner fin env hint)
  | .submit i sync actions rejected => some (s.submit t i sync actions rejected)
  | .task i work => some (s.task i work)
  | .awaitTask i completion => s.awaitTask i completion
  | .pump i goal => some (s.pump i goal)
  | .loop i => s.loop i
  | .awaitOccupied i => s.awaitOccupied i
  | .occupied i => s.occupied i
  | .awaitEnd i r => s.awaitEnd i r
  | .letGo i r => some (s.letGo t i r)

/-- The outcome in a reply. -/
def Reply.toOutcome : Reply → Outcome
  | .outcome r => r
  | _ => .error .genericFailure

/-- The response in a reply. -/
def Reply.toResponse : Reply → Response
  | .response r => r
  | _ => { status := .genericFailure }

/-- The handle in a reply. -/
def Reply.toHandle : Reply → HandleId
  | .handle id => id
  | _ => .null

/-- What a reply answers. -/
def Reply.toAnswer : Reply → Answer
  | .answer a => a
  | .outcome r => .outcome r
  | _ => .done

namespace Session

/-- A producer has returned. -/
def endProducer (s : Session) (n : Nat) (a : Answer) : Session :=
  { s with producers := s.producers.modify n fun p => { p with result := some a } }

/-- The answer of an action that has called an entry. -/
def answerResponse (s : Session) (out : Option String) (r : Response) : Move :=
  match out with
  | none => s.reply (.response r.status none)
  | some name =>
    let w := r.out.getD 0
    (s.setVariable name w).reply (.response r.status (some w))

end Session

/-- A frame gets the reply that it waits for. -/
def Frame.resume (f : Frame) (t : ThreadId) (s : Session) (r : Reply) : Move :=
  match f with
  | .thenReply r' => s.give r'
  | .performed owner a rest => (s.emit (.did a r.toAnswer)).run (.script owner rest)
  | .outcomeAnswer => s.reply (.outcome r.toOutcome)
  | .responseAnswer out => s.answerResponse out r.toResponse
  | .createdAnswer name keep => s.nameFunction name keep r.toHandle
  | .outcomeResponse => s.respond (Status.ofOutcome r.toOutcome)
  | .createdResponse => s.give (.response { status := .ok, out := some r.toHandle.value })
  | .referenced env spec delivery invoker =>
    s.afterCreateReference env spec delivery invoker r.toResponse
  | .called i => s.run (.letGo i (.outcome (.ok ())))
  | .ranInline i => ((s.countExecuted i).emit (.ranInline i)).give .unit
  | .gotFunction f data => s.afterReference f data r.toResponse
  | .gotReceiver f func => s.afterReceiver f func r.toResponse
  | .gotResult f => s.afterResult f r.toResponse
  | .drained f wasEmpty => s.afterDrain t f wasEmpty
  | .finalized f => s.afterFinalizer f
  | .unreferenced f => s.unregisterFunction f
  | .unwrapped handle => { s with wrapped := s.wrapped.eraseFunction handle }.give .unit
  | .executed j env => s.afterExecute j env
  | .completed j => (s.modifyJob j AsyncJob.finish).give .unit
  | .taskEnded i sub => (s.endTask (.ended i sub) sub).give .unit
  | .pumped i goal => s.afterPumped i goal
  | .looped i => s.afterLooped i
  | .submitted i => s.run (.letGo i (.answer .done))
  | .ranRejected i => s.run (.letGo i (.answer .handedBack))
  | .spawned n => (s.endProducer n r.toAnswer).give .unit
  | .joined i => s.afterJoined i
  | .engineScripted slot request => s.engineAnswer slot request
  | .forwarded host => (s.releaseHost host).give r
  | .forwardedCreate host id => s.afterForwardCreate host id r.toResponse
  | .forwardedHook host env out => s.afterForwardHook host env out r.toResponse
  | .forwardedUnhook host handle => s.afterForwardUnhook host handle r.toResponse

/-- A failure reaches a frame: tasks signal whoever waits for them, pumps and embedders answer that
the task failed, an interpreter thread ends, and a callback cannot be left, so the process is
aborted. -/
def Frame.unwind (f : Frame) (s : Session) : Move :=
  let passOn (s : Session) : Move := { session := s, control := .fail }
  match f with
  | .performed .callback _ _ => s.abort
  | .taskEnded i sub => passOn (s.endTask (.failed i sub) sub)
  | .pumped i _ | .submitted i | .ranRejected i => s.run (.letGo i (.answer .failed))
  | .looped i => s.loopFailed i
  | _ => passOn s

namespace Session

/-- What a move makes of the session: the thread goes on above the frames that were left. -/
def apply (m : Move) (t : ThreadId) (rest : List Frame) : Session :=
  m.session.setThread t { control := m.control, stack := m.frames ++ rest }

/-- One step of a thread, if it can take one: a thread that has given its last reply is over, and
nothing moves after an abort. -/
def step (s : Session) (t : ThreadId) : Option Session :=
  if s.halted then none
  else
    match s.threads.get? t with
    | none => none
    | some th =>
      match th.control, th.stack with
      | .run c, stack => (c.step t s).map fun m => apply m t stack
      | .give _, [] => none
      | .give r, f :: rest => some (apply (f.resume t s r) t rest)
      | .fail, [] => some (apply (s.refuse .unknownAction) t [])
      | .fail, f :: rest => some (apply (f.unwind s) t rest)

variable {s : Session} {t : ThreadId} {below : List Frame} {c : Code}

theorem threads_apply (m : Move) (t : ThreadId) (below : List Frame) :
    (apply m t below).threads.get? t
      = some { control := m.control, stack := m.frames ++ below } := by
  simp [apply, setThread, Assoc.get?_insert]

theorem halted_apply (m : Move) (t : ThreadId) (below : List Frame) :
    (apply m t below).halted = m.session.halted := rfl

theorem wrapped_apply (m : Move) (t : ThreadId) (below : List Frame) :
    (apply m t below).wrapped = m.session.wrapped := rfl

/-- A thread with a piece of code runs it, or waits. -/
theorem step_eq_map (hrunning : s.halted = false)
    (hthread : s.threads.get? t = some { control := .run c, stack := below }) :
    s.step t = (c.step t s).map fun m => apply m t below := by
  unfold Session.step
  simp [hrunning, hthread]

/-- A thread runs a piece of code. -/
theorem step_run {m : Move} (hrunning : s.halted = false)
    (hthread : s.threads.get? t = some { control := .run c, stack := below })
    (hm : c.step t s = some m) : s.step t = some (apply m t below) := by
  rw [step_eq_map hrunning hthread, hm, Option.map_some]

/-- A thread gives a reply to a frame. -/
theorem step_give {reply : Reply} {fr : Frame} (hrunning : s.halted = false)
    (hthread : s.threads.get? t = some { control := .give reply, stack := fr :: below }) :
    s.step t = some (apply (fr.resume t s reply) t below) := by
  unfold Session.step
  simp [hrunning, hthread]

end Session

end AddonHost
