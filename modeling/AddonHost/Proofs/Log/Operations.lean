import AddonHost.Proofs.Session.Onward

/-!
What an embedder does with the logger.

A `Log.Operation` is one use of the logger or of the configuration.  While there is nobody but an
idle main thread (`Session.Solitary`), an operation is performed in a single step, and what it makes
of the session is `Session.afterOperation`.  So a sequence of operations is always performed to its
end, and makes of the session what the operations do, one after the other
(`Solitary.performed?_operations`).
-/

namespace AddonHost

namespace Log

/-- A use of the logger or of the configuration. -/
inductive Operation where
  /-- Consult the environment. -/
  | init
  | setLevel (level : Level)
  | setFlush (on : Bool)
  /-- Offer a record. -/
  | record (level : Level) (text : String)
  /-- Ask whether lines are flushed. -/
  | askFlush
  /-- Ask for the settings. -/
  | askSettings
  /-- Install a configuration. -/
  | configure (config : RuntimeConfig)
  /-- Ask for the configuration. -/
  | askConfig
  deriving DecidableEq, Repr

/-- The action of an embedder that is an operation. -/
def Operation.action : Operation → Action
  | init => .initLog
  | setLevel level => .setLogLevel level
  | setFlush on => .setFlush on
  | record level text => .log level text
  | askFlush => .flushState
  | askSettings => .logState
  | configure config => .configure config
  | askConfig => .readConfig

end Log

namespace Session

variable {s : Session} {a : Action} {x : Answer}

/-- What an operation makes of a session. -/
def afterOperation (s : Session) : Log.Operation → Session
  | .init | .askFlush | .askSettings => s.setLogger (s.logger.settle s.environment)
  | .setLevel level => s.setLogger (s.logger.setLevel s.environment level)
  | .setFlush on => s.setLogger (s.logger.setFlush s.environment on)
  | .record level text => s.log level text
  | .configure config => (s.configure config).toOption.getD s
  | .askConfig => s.readConfig.2

/-- There is nobody but an idle main thread. -/
structure Solitary (s : Session) : Prop where
  running : s.halted = false
  idle : s.MainIdle
  invokers : s.invokers = []
  producers : s.producers = []

theorem solitary_start (vars : Log.Variables) (level : Option Log.Level) :
    (start vars level).Solitary := by
  cases level <;> exact ⟨rfl, ⟨_, rfl⟩, rfl, rfl⟩

namespace Solitary

theorem precedence (hi : s.invokers = []) (hp : s.producers = []) : s.precedence = [.main] := by
  simp [Session.precedence, hi, hp]

/-- A main thread that begins an action takes the next step, and after an answer there is none. -/
theorem performOnMain {u : Session} (hrunning : s.halted = false) (hi : s.invokers = [])
    (hp : s.producers = []) (hperform : (s.beginAction a).perform .main a = u.reply x)
    (hi' : u.invokers = []) (hp' : u.producers = []) :
    s.performOnMain a = u.setThread .main { control := .give (.answer x) } := by
  have hthread : (s.beginAction a).threads.get? .main = some { control := .run (.perform a) } := by
    rw [beginAction, setThread, Assoc.get?_insert, if_pos rfl]
  have hstep : (s.beginAction a).step .main = some (apply (u.reply x) .main []) :=
    step_run hrunning hthread (congrArg some hperform)
  have hnext : (s.beginAction a).next? = some (apply (u.reply x) .main []) := by
    have hbusy : (s.beginAction a).isBusy .main = false := by
      rw [isBusy, hthread]
      rfl
    rw [next?, precedence (s := s.beginAction a) hi hp]
    simp [hbusy, hstep]
  have hlast : (apply (u.reply x) .main []).next? = none := by
    have hover : (apply (u.reply x) .main []).threads.get? .main
        = some { control := .give (.answer x) } := threads_apply ..
    have hbusy : (apply (u.reply x) .main []).isBusy .main = false := by
      rw [isBusy, hover]
      rfl
    have hnone : (apply (u.reply x) .main []).step .main = none := by
      rw [Session.step, hover]
      split <;> rfl
    rw [next?, precedence (s := apply (u.reply x) .main []) hi' hp']
    simp [hbusy, hnone]
  obtain ⟨limit, hlimit⟩ : ∃ limit, stepLimit = limit + 2 := ⟨_, rfl⟩
  rw [Session.performOnMain, hlimit]
  simp only [settle, hnext, hlast]
  rfl

end Solitary

/-! ### Operations -/

/-- A configuration is installed if it is valid and the first one; else nothing happens. -/
theorem afterOperation_configure (s : Session) (c : RuntimeConfig) :
    s.afterOperation (.configure c)
      = if c.check = .ok () ∧ s.config = none then
          { s with
            config := some c
            logger := (s.logger.setLevel s.environment c.logLevel).setFlush s.environment
              c.flushLogs }
        else s := by
  simp only [afterOperation, configure]
  cases c.check with
  | error problem => simp [Except.toOption]
  | ok u => cases s.config <;> simp [Except.toOption]

/-- After it was asked for, there is a configuration. -/
theorem afterOperation_askConfig (s : Session) :
    s.afterOperation .askConfig
      = { s with config := some (s.config.getD (.ofVariables s.environment)) } := by
  simp only [afterOperation, readConfig]
  cases hconfig : s.config with
  | none => rfl
  | some c =>
    show s = { s with config := some c }
    rw [← hconfig]

/-- No operation sees or changes the threads. -/
theorem afterOperation_threads (s : Session) (threads : Assoc ThreadId Thread)
    (op : Log.Operation) :
    { s with threads := threads }.afterOperation op
      = { s.afterOperation op with threads := threads } := by
  cases op with
  | record level text =>
    simp only [afterOperation, log]
    split_ifs <;> rfl
  | configure config =>
    simp only [afterOperation_configure]
    split_ifs <;> rfl
  | askConfig => simp only [afterOperation_askConfig]
  | _ => rfl

theorem foldl_afterOperation_threads (s : Session) (threads : Assoc ThreadId Thread)
    (ops : List Log.Operation) :
    ops.foldl afterOperation { s with threads := threads }
      = { ops.foldl afterOperation s with threads := threads } := by
  induction ops generalizing s with
  | nil => rfl
  | cons op rest ih => rw [List.foldl_cons, afterOperation_threads, ih, List.foldl_cons]

/-- What an operation leaves alone. -/
theorem afterOperation_frame (s : Session) (op : Log.Operation) :
    (s.afterOperation op).halted = s.halted ∧ (s.afterOperation op).invokers = s.invokers ∧
      (s.afterOperation op).producers = s.producers ∧
      (s.afterOperation op).environment = s.environment := by
  cases op with
  | record level text =>
    simp only [afterOperation, log]
    split_ifs <;> exact ⟨rfl, rfl, rfl, rfl⟩
  | configure config =>
    rw [afterOperation_configure]
    split_ifs <;> exact ⟨rfl, rfl, rfl, rfl⟩
  | askConfig =>
    rw [afterOperation_askConfig]
    exact ⟨rfl, rfl, rfl, rfl⟩
  | _ => exact ⟨rfl, rfl, rfl, rfl⟩

/-- The answer tells whether a configuration was installed. -/
theorem exists_perform_configure (s : Session) (t : ThreadId) (c : RuntimeConfig) :
    ∃ x, s.perform t (.configure c) = (s.afterOperation (.configure c)).reply x ∧
      (x = .done ↔ c.check = .ok () ∧ s.config = none) := by
  simp only [perform, configureAction, afterOperation, configure]
  cases c.check with
  | error problem => exact ⟨_, rfl, by simp⟩
  | ok u =>
    cases s.config with
    | none => exact ⟨_, rfl, by simp⟩
    | some installed => exact ⟨_, rfl, by simp⟩

/-- An operation is answered at once. -/
theorem exists_perform_operation (s : Session) (t : ThreadId) (op : Log.Operation) :
    ∃ x, s.perform t op.action = (s.afterOperation op).reply x := by
  cases op with
  | configure c =>
    obtain ⟨x, hperform, -⟩ := s.exists_perform_configure t c
    exact ⟨x, hperform⟩
  | _ => exact ⟨_, rfl⟩

namespace Solitary

/-- An operation ends in the session that it makes, with its answer. -/
theorem performOnMain_operation (h : s.Solitary) (op : Log.Operation)
    (hperform : (s.beginAction op.action).perform .main op.action
      = ((s.beginAction op.action).afterOperation op).reply x) :
    s.performOnMain op.action
      = ((s.beginAction op.action).afterOperation op).setThread .main
          { control := .give (.answer x) } := by
  obtain ⟨-, hinvokers, hproducers, -⟩ := (s.beginAction op.action).afterOperation_frame op
  exact performOnMain h.running h.invokers h.producers hperform (hinvokers.trans h.invokers)
    (hproducers.trans h.producers)

theorem mainAnswer?_operation (h : s.Solitary) (op : Log.Operation)
    (hperform : (s.beginAction op.action).perform .main op.action
      = ((s.beginAction op.action).afterOperation op).reply x) :
    (s.performOnMain op.action).mainAnswer? = some x := by
  rw [h.performOnMain_operation op hperform, mainAnswer?, setThread, Assoc.get?_insert, if_pos rfl]

/-- An operation is performed, and only the thread that performs it sees the difference to
`afterOperation`. -/
theorem exists_performOnMain (h : s.Solitary) (op : Log.Operation) :
    ∃ threads, s.performOnMain op.action = { s.afterOperation op with threads := threads } ∧
      (s.performOnMain op.action).Solitary := by
  obtain ⟨x, hperform⟩ := (s.beginAction op.action).exists_perform_operation .main op
  obtain ⟨hrunning, hinvokers, hproducers, -⟩ := (s.beginAction op.action).afterOperation_frame op
  have hdone := h.performOnMain_operation op hperform
  refine ⟨(s.performOnMain op.action).threads, ?_, ?_⟩
  · have hbegun : (s.beginAction op.action).afterOperation op
        = { s.afterOperation op with threads := (s.beginAction op.action).threads } :=
      afterOperation_threads s _ op
    rw [hdone, hbegun]
    rfl
  · rw [hdone]
    refine ⟨hrunning.trans h.running, ⟨.answer x, ?_⟩, hinvokers.trans h.invokers,
      hproducers.trans h.producers⟩
    rw [setThread, Assoc.get?_insert, if_pos rfl]

/-- A sequence of operations is performed to its end, and makes of the session what the operations
do, one after the other. -/
theorem performed?_operations (h : s.Solitary) (ops : List Log.Operation) :
    ∃ threads, s.performed? (ops.map Log.Operation.action)
      = some { ops.foldl afterOperation s with threads := threads } ∧
      { ops.foldl afterOperation s with threads := threads }.Solitary := by
  induction ops generalizing s with
  | nil => exact ⟨s.threads, rfl, h⟩
  | cons op rest ih =>
    obtain ⟨threads, hdone, hsolitary⟩ := h.exists_performOnMain op
    obtain ⟨threads', hrest, hsolitary'⟩ := ih hsolitary
    obtain ⟨r, hidle⟩ := h.idle
    have hnext : s.performed? ((op :: rest).map Log.Operation.action)
        = (s.performOnMain op.action).performed? (rest.map Log.Operation.action) := by
      rw [List.map_cons, Session.performed?, hidle]
    have hfold : { rest.foldl afterOperation (s.performOnMain op.action) with threads := threads' }
        = { (op :: rest).foldl afterOperation s with threads := threads' } := by
      rw [hdone, foldl_afterOperation_threads, List.foldl_cons]
    exact ⟨threads', hnext.trans (hrest.trans (congrArg some hfold)), hfold ▸ hsolitary'⟩

end Solitary

end Session

end AddonHost
