import AddonHost.Assoc
import AddonHost.Log.Level

/-!
The logger.

The logger reads its level and its flush setting from the environment once, on first use
(`settle`), and both can be set by the program.  A record passes when its level is not `off` and at
most the level in force (`Logger.passes`).  A record that passes reaches the capture sink, if one
is installed, and standard output, in this order and with the same text.
-/

namespace AddonHost.Log

/-- The environment variables of a process. -/
abbrev Variables := Assoc String String

/-- The variable that holds the level. -/
def levelVariable : String := "NAPI_HOST_LOG_LEVEL"

/-- The variable that holds the flush setting. -/
def flushVariable : String := "NAPI_HOST_FLUSH_LOG"

/-- Words that switch a setting on. -/
def affirmatives : List String := ["1", "true", "yes", "on"]

/-- The settings of the logger. -/
structure Logger where
  /-- Whether the environment has been consulted. -/
  settled : Bool := false
  level : Level := .standard
  /-- Whether each line is flushed. -/
  flush : Bool := false
  /-- Whether a capture sink is installed. -/
  capturing : Bool := true
  deriving DecidableEq, Repr, Inhabited

namespace Logger

/-- Consult the environment, unless this has been done. -/
def settle (g : Logger) (vars : Variables) : Logger :=
  if g.settled then g
  else
    { g with
      settled := true
      flush := match vars.get? flushVariable with
        | some value => affirmatives.contains value
        | none => g.flush
      level := match (vars.get? levelVariable).bind Level.parse? with
        | some level => level
        | none => g.level }

/-- Set the level by program. -/
def setLevel (g : Logger) (vars : Variables) (level : Level) : Logger :=
  { g.settle vars with level := level }

/-- Set the flush setting by program. -/
def setFlush (g : Logger) (vars : Variables) (on : Bool) : Logger :=
  { g.settle vars with flush := on }

/-- Whether a settled logger shows records of a level. -/
def passes (g : Logger) (level : Level) : Bool :=
  level != .off && level.rank ≤ g.level.rank

/-- The logger after a record of a level was offered: asking for the level in force settles it, and
a record at level `off` does not ask. -/
def afterRecord (g : Logger) (vars : Variables) (level : Level) : Logger :=
  if level = .off then g else g.settle vars

@[simp] theorem settled_settle (g : Logger) (vars : Variables) : (g.settle vars).settled = true := by
  unfold settle
  split
  · assumption
  · rfl

@[simp] theorem settle_settle (g : Logger) (vars : Variables) :
    (g.settle vars).settle vars = g.settle vars := by
  rw [settle, if_pos (settled_settle g vars)]

@[simp] theorem capturing_settle (g : Logger) (vars : Variables) :
    (g.settle vars).capturing = g.capturing := by
  unfold settle
  split <;> rfl

end Logger

/-- A record as it is written to standard output. -/
def writtenLine (level : Level) (text : String) : String :=
  "[NodeApiHost] " ++ level.tag ++ " " ++ text

end AddonHost.Log
