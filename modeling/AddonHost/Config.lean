import AddonHost.Log.Logger

/-!
Runtime configuration.

A configuration says how threadsafe functions submit their dispatch tasks and how much is logged.
It is built from the standard one, or read from the environment (`RuntimeConfig.ofVariables`), and
it is valid unless it asks for flushed logs with logging off (`RuntimeConfig.check`).
-/

namespace AddonHost

/-- How the dispatch task of a threadsafe function is submitted. -/
inductive Delivery where
  /-- The producer goes on as soon as the item is queued. -/
  | async
  /-- The producer waits until a task submitted for the item has run. -/
  | sync
  deriving DecidableEq, Repr, Inhabited

/-- The name of a delivery mode. -/
def Delivery.name : Delivery → String
  | async => "async"
  | sync => "sync"

/-- The name of a delivery mode in the description of a record. -/
def Delivery.debugText : Delivery → String
  | async => "Async"
  | sync => "Sync"

/-- The configuration of the runtime. -/
structure RuntimeConfig where
  delivery : Delivery := .async
  logLevel : Log.Level := .standard
  flushLogs : Bool := false
  deriving DecidableEq, Repr, Inhabited

namespace RuntimeConfig

/-- The variable that asks for synchronous delivery. -/
def syncVariable : String := "NAPI_HOST_SYNC_DELIVERY"

/-- Whether the value of a variable switches a setting on; blanks around the word do not count. -/
def isAffirmative (value : String) : Bool := Log.affirmatives.contains (Text.trim value)

/-- The standard configuration with what the environment overrides. -/
def ofVariables (vars : Log.Variables) : RuntimeConfig where
  delivery := if ((vars.get? syncVariable).map isAffirmative).getD false then .sync else .async
  logLevel := ((vars.get? Log.levelVariable).bind Log.Level.parse?).getD .standard
  flushLogs := ((vars.get? Log.flushVariable).map isAffirmative).getD false

/-- Why a configuration is refused. -/
inductive Problem where
  | flushWithoutLogging
  | alreadyConfigured
  deriving DecidableEq, Repr

/-- What a problem says. -/
def Problem.message : Problem → String
  | flushWithoutLogging => "flush_logs requires logging to be enabled"
  | alreadyConfigured => "runtime already configured"

/-- Flushed logs need logging. -/
def check (c : RuntimeConfig) : Except Problem Unit :=
  if c.flushLogs && c.logLevel = .off then .error .flushWithoutLogging else .ok ()

/-- The description of a configuration. -/
def debugText (c : RuntimeConfig) : String :=
  "RuntimeConfig \x7b delivery: " ++ c.delivery.debugText ++ ", log_level: " ++
    c.logLevel.debugText ++ ", flush_logs: " ++ toString c.flushLogs ++ " \x7d"

theorem check_eq_ok_iff (c : RuntimeConfig) :
    c.check = .ok () ↔ ¬(c.flushLogs = true ∧ c.logLevel = .off) := by
  unfold check
  split <;> simp_all

end RuntimeConfig

end AddonHost
