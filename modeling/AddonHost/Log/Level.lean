import AddonHost.Text.Blank

/-!
Log levels.

Six levels, ranked from `off` to `trace`; a record is shown when its level is at most the level in
force.  `Level.parse?` reads a name or a digit, with blanks around it and in any letter case.
-/

namespace AddonHost.Log

/-- How much is logged, or how important a record is. -/
inductive Level where
  | off
  | error
  | warn
  | info
  | debug
  | trace
  deriving DecidableEq, Repr, Inhabited

namespace Level

/-- Every level, by rank. -/
def all : List Level := [off, error, warn, info, debug, trace]

/-- The rank of a level. -/
def rank : Level → Nat
  | off => 0
  | error => 1
  | warn => 2
  | info => 3
  | debug => 4
  | trace => 5

/-- The level of a rank; every rank above the last is the last. -/
def ofRank : Nat → Level
  | 0 => off
  | 1 => error
  | 2 => warn
  | 3 => info
  | 4 => debug
  | _ => trace

/-- The name of a level. -/
def name : Level → String
  | off => "off"
  | error => "error"
  | warn => "warn"
  | info => "info"
  | debug => "debug"
  | trace => "trace"

/-- The name of a level in the description of a record. -/
def debugText : Level → String
  | off => "Off"
  | error => "Error"
  | warn => "Warn"
  | info => "Info"
  | debug => "Debug"
  | trace => "Trace"

/-- What a written line bears in front; tags are padded to one width. -/
def tag : Level → String
  | off => ""
  | error => "[ERROR]"
  | warn => "[WARN] "
  | info => "[INFO] "
  | debug => "[DEBUG]"
  | trace => "[TRACE]"

/-- Read a level's name or digit. -/
def parse? (s : String) : Option Level :=
  let word := Text.lowerAscii (Text.trim s)
  all.find? fun level => word == level.name || word == Nat.repr level.rank

/-- The level in force when nothing is configured. -/
def standard : Level := debug

@[simp] theorem ofRank_rank (level : Level) : ofRank level.rank = level := by
  cases level <;> rfl

end Level

end AddonHost.Log
