import AddonHost.Proofs.Log.Operations

/-!
The settings of the logger, and what it shows.

The level and the flush setting can come from the program, from the environment, or from neither.
`logging_performed` says who wins after any sequence of operations (`Log.Operation`):

* what the program has set last counts, by a setter or by a configuration that was installed
  (`Programmed.after`); else the environment; else the standard setting (`Programmed.levelIn`,
  `Programmed.flushIn`);
* the environment is consulted at most once: until then the logger is as it was at first, and
  afterwards another environment makes no difference (`LogsAlike`);
* a record is shown if its level is not `off` and at most the level in force at that moment
  (`Programmed.shows`), and the capture sink and standard output get the same records in the same
  order.

That a program's own setting is not overwritten later rests on one fact about the setters: each of
them consults the environment first (`settle_setLevel`, `settle_setFlush`).
-/

namespace AddonHost

namespace Log

/-! ### What is set -/

namespace Logger

variable {g : Logger} {vars : Variables}

theorem settle_of_settled (h : g.settled = true) (vars : Variables) : g.settle vars = g := by
  rw [settle, if_pos h]

@[simp] theorem settle_setLevel (g : Logger) (vars vars' : Variables) (level : Level) :
    (g.setLevel vars level).settle vars' = g.setLevel vars level := by
  have hsettled : (g.setLevel vars level).settled = true := settled_settle g vars
  exact settle_of_settled hsettled vars'

@[simp] theorem settle_setFlush (g : Logger) (vars vars' : Variables) (on : Bool) :
    (g.setFlush vars on).settle vars' = g.setFlush vars on := by
  have hsettled : (g.setFlush vars on).settled = true := settled_settle g vars
  exact settle_of_settled hsettled vars'

theorem capturing_afterRecord (g : Logger) (vars : Variables) (level : Level) :
    (g.afterRecord vars level).capturing = g.capturing := by
  unfold afterRecord
  split
  · rfl
  · exact capturing_settle g vars

theorem passes_iff {level : Level} :
    g.passes level = true ↔ level ≠ .off ∧ level.rank ≤ g.level.rank := by
  simp [passes]

/-- A record is judged by the level in force. -/
theorem passes_afterRecord (g : Logger) (vars : Variables) (level : Level) :
    (g.afterRecord vars level).passes level = true ↔
      level ≠ .off ∧ level.rank ≤ (g.settle vars).level.rank := by
  by_cases hoff : level = .off
  · simp [hoff, passes_iff]
  · rw [passes_iff, afterRecord, if_neg hoff]

end Logger

/-- What a program has set. -/
structure Programmed where
  level : Option Level := none
  flush : Option Bool := none
  /-- Whether there is a configuration, so that none can be installed any more. -/
  configured : Bool := false

namespace Programmed

/-- A configuration is accepted if it is the first one and does not ask for flushed logs with
logging off. -/
def accepts (p : Programmed) (c : RuntimeConfig) : Bool :=
  !p.configured && !(c.flushLogs && c.logLevel = .off)

/-- What is set after an operation. -/
def after (p : Programmed) : Operation → Programmed
  | .setLevel level => { p with level := some level }
  | .setFlush on => { p with flush := some on }
  | .configure c =>
    if p.accepts c then
      { level := some c.logLevel, flush := some c.flushLogs, configured := true }
    else p
  | .askConfig => { p with configured := true }
  | .init | .record .. | .askFlush | .askSettings => p

/-- The level in force. -/
def levelIn (p : Programmed) (vars : Variables) : Level :=
  p.level.getD (((vars.get? levelVariable).bind Level.parse?).getD .standard)

/-- The flush setting in force. -/
def flushIn (p : Programmed) (vars : Variables) : Bool :=
  p.flush.getD (((vars.get? flushVariable).map affirmatives.contains).getD false)

/-- The record that an operation shows, if it shows one. -/
def shows (p : Programmed) (vars : Variables) : Operation → List (Level × String)
  | .record level text =>
    if level ≠ .off ∧ level.rank ≤ (p.levelIn vars).rank then [(level, text)] else []
  | _ => []

/-- The records that operations show, one after the other. -/
def shown (p : Programmed) (vars : Variables) : List Operation → List (Level × String)
  | [] => []
  | op :: rest => p.shows vars op ++ (p.after op).shown vars rest

theorem accepts_iff {p : Programmed} {c : RuntimeConfig} :
    p.accepts c = true ↔ p.configured = false ∧ c.check = .ok () := by
  rw [RuntimeConfig.check_eq_ok_iff, accepts, Bool.and_eq_true, Bool.not_eq_true',
    Bool.not_eq_true', ← Bool.not_eq_true (_ && _), Bool.and_eq_true, decide_eq_true_eq]

end Programmed

end Log

/-- The record that an event tells. -/
def Event.record? : Event → Option (Log.Level × String)
  | log level text => some (level, text)
  | _ => none

namespace Session

open Log

/-- The records that the capture sink got. -/
def records (s : Session) : List (Level × String) := s.history.filterMap Event.record?

/-- The lines on standard output, in order. -/
def lines (s : Session) : List String := s.written.reverse

variable {s s' : Session} {vars : Variables} {p : Programmed}

/-- The logger and the configuration are what a program has made of them. -/
structure SetBy (vars : Variables) (p : Programmed) (s : Session) : Prop where
  environment : s.environment = vars
  capturing : s.logger.capturing = true
  level : (s.logger.settle vars).level = p.levelIn vars
  flush : (s.logger.settle vars).flush = p.flushIn vars
  configured : s.config.isSome = p.configured
  /-- Nothing was set as long as the environment was not consulted. -/
  unsettled : s.logger.settled = false → s.logger = {}

theorem setBy_start (vars : Variables) (level : Option Level) :
    (start vars level).SetBy vars { level := level } := by
  have hdefault : (({} : Logger).settle vars).level = ({} : Programmed).levelIn vars ∧
      (({} : Logger).settle vars).flush = ({} : Programmed).flushIn vars := by
    simp only [Logger.settle, Programmed.levelIn, Programmed.flushIn]
    constructor
    · cases (Assoc.get? vars levelVariable).bind Level.parse? <;> rfl
    · cases Assoc.get? vars flushVariable <;> rfl
  cases level with
  | none => exact ⟨rfl, rfl, hdefault.1, hdefault.2, rfl, fun _ => rfl⟩
  | some level =>
    -- setting a level has consulted the environment, for the flush setting
    refine ⟨rfl, ?_, ?_, ?_, rfl, fun h => ?_⟩
    · exact Logger.capturing_settle {} vars
    · exact congrArg Logger.level (Logger.settle_setLevel {} vars vars level)
    · exact (congrArg Logger.flush (Logger.settle_setLevel {} vars vars level)).trans hdefault.2
    · exact absurd ((Logger.settled_settle {} vars).symm.trans h) (by decide)

/-- A logger that is consulted is settled, and its settings are those in force. -/
theorem SetBy.settle (h : s.SetBy vars p) :
    (s.setLogger (s.logger.settle s.environment)).SetBy vars p := by
  obtain rfl := h.environment
  refine ⟨rfl, ?_, ?_, ?_, h.configured, fun hs => ?_⟩
  · exact (Logger.capturing_settle ..).trans h.capturing
  · exact (congrArg Logger.level (Logger.settle_settle ..)).trans h.level
  · exact (congrArg Logger.flush (Logger.settle_settle ..)).trans h.flush
  · exact absurd ((Logger.settled_settle ..).symm.trans hs) (by decide)

theorem SetBy.setLevel (h : s.SetBy vars p) (level : Level) :
    (s.setLogger (s.logger.setLevel s.environment level)).SetBy vars
      { p with level := some level } := by
  obtain rfl := h.environment
  have hsettle := Logger.settle_setLevel s.logger s.environment s.environment level
  refine ⟨rfl, ?_, ?_, ?_, h.configured, fun hs => ?_⟩
  · exact (Logger.capturing_settle ..).trans h.capturing
  · exact congrArg Logger.level hsettle
  · exact (congrArg Logger.flush hsettle).trans h.flush
  · exact absurd ((Logger.settled_settle ..).symm.trans hs) (by decide)

theorem SetBy.setFlush (h : s.SetBy vars p) (on : Bool) :
    (s.setLogger (s.logger.setFlush s.environment on)).SetBy vars
      { p with flush := some on } := by
  obtain rfl := h.environment
  have hsettle := Logger.settle_setFlush s.logger s.environment s.environment on
  refine ⟨rfl, ?_, ?_, ?_, h.configured, fun hs => ?_⟩
  · exact (Logger.capturing_settle ..).trans h.capturing
  · exact (congrArg Logger.level hsettle).trans h.level
  · exact congrArg Logger.flush hsettle
  · exact absurd ((Logger.settled_settle ..).symm.trans hs) (by decide)

/-- A record that is offered changes nothing but that the environment may have been consulted. -/
theorem SetBy.record (h : s.SetBy vars p) (level : Level) (text : String) :
    (s.log level text).SetBy vars p := by
  have hasked : (s.setLogger (s.logger.afterRecord s.environment level)).SetBy vars p := by
    by_cases hoff : level = .off
    · rw [Logger.afterRecord, if_pos hoff]
      exact h
    · rw [Logger.afterRecord, if_neg hoff]
      exact h.settle
  simp only [log]
  split_ifs <;> exact { hasked with }

/-- A record that is shown reaches the sink and standard output, and another one neither. -/
theorem SetBy.records_lines (h : s.SetBy vars p) (op : Operation) :
    (s.afterOperation op).records = s.records ++ p.shows vars op ∧
      (s.afterOperation op).lines
        = s.lines ++ (p.shows vars op).map fun r => writtenLine r.1 r.2 := by
  cases op with
  | record level text =>
    have hcapturing : (s.logger.afterRecord s.environment level).capturing = true :=
      (Logger.capturing_afterRecord ..).trans h.capturing
    have hpasses := s.logger.passes_afterRecord s.environment level
    obtain rfl := h.environment
    rw [h.level] at hpasses
    simp only [Session.afterOperation, log, Programmed.shows, hcapturing, if_true]
    by_cases hshown : level ≠ .off ∧ level.rank ≤ (p.levelIn s.environment).rank
    · rw [if_pos (hpasses.2 hshown), if_pos hshown]
      simp [records, lines, history, emit, Event.record?]
    · rw [if_neg (mt hpasses.1 hshown), if_neg hshown]
      simp [records, lines, history]
  | configure c =>
    rw [afterOperation_configure]
    split_ifs <;> simp [records, lines, history, Programmed.shows]
  | init | askFlush | askSettings | setLevel | setFlush =>
    exact ⟨(List.append_nil _).symm, (List.append_nil _).symm⟩
  | askConfig =>
    rw [afterOperation_askConfig]
    exact ⟨(List.append_nil _).symm, (List.append_nil _).symm⟩

/-- A configuration is installed when there is none yet and it is valid. -/
theorem SetBy.accepts_iff (h : s.SetBy vars p) (c : RuntimeConfig) :
    p.accepts c = true ↔ c.check = .ok () ∧ s.config = none := by
  rw [Programmed.accepts_iff, ← h.configured, and_comm, Option.isSome_eq_false_iff,
    Option.isNone_iff_eq_none]

/-- Each operation sets what it is meant to set. -/
theorem SetBy.afterOperation (h : s.SetBy vars p) (op : Operation) :
    (s.afterOperation op).SetBy vars (p.after op) := by
  cases op with
  | init | askFlush | askSettings => exact h.settle
  | setLevel level => exact h.setLevel level
  | setFlush on => exact h.setFlush on
  | record level text => exact h.record level text
  | configure c =>
    rw [afterOperation_configure, Programmed.after]
    by_cases haccepts : p.accepts c = true
    · -- to install a configuration is to set its level and its flush setting
      rw [if_pos ((h.accepts_iff c).1 haccepts), if_pos haccepts]
      have hset := (h.setLevel c.logLevel).setFlush c.flushLogs
      exact { hset with configured := rfl }
    · rw [if_neg (mt (h.accepts_iff c).2 haccepts), if_neg haccepts]
      exact h
  | askConfig =>
    rw [afterOperation_askConfig]
    exact { h with configured := rfl }

/-- After a sequence of operations, the settings are what the operations have set, and what they
have shown was added to the records. -/
theorem SetBy.run (h : s.SetBy vars p) (ops : List Operation) :
    (ops.foldl Session.afterOperation s).SetBy vars (ops.foldl Programmed.after p) ∧
      (ops.foldl Session.afterOperation s).records = s.records ++ p.shown vars ops ∧
      (ops.foldl Session.afterOperation s).lines
        = s.lines ++ (p.shown vars ops).map fun r => writtenLine r.1 r.2 := by
  induction ops generalizing s p with
  | nil => exact ⟨h, (List.append_nil _).symm, (List.append_nil _).symm⟩
  | cons op rest ih =>
    obtain ⟨hset, hrecords, hlines⟩ := ih (h.afterOperation op)
    obtain ⟨hrecord, hline⟩ := h.records_lines op
    rw [hrecord, List.append_assoc] at hrecords
    rw [hline, List.append_assoc, ← List.map_append] at hlines
    exact ⟨hset, hrecords, hlines⟩

/-- The logger reports the settings in force. -/
theorem SetBy.mainAnswer?_askSettings (h : s.SetBy vars p) (hsolitary : s.Solitary) :
    (s.performOnMain .logState).mainAnswer?
      = some (.logger (p.levelIn vars) (p.flushIn vars)
          (Level.all.filter fun l => l ≠ .off ∧ l.rank ≤ (p.levelIn vars).rank)) := by
  have hanswer := hsolitary.mainAnswer?_operation .askSettings rfl
  have hpasses : (s.logger.settle vars).passes
      = fun l => decide (l ≠ .off ∧ l.rank ≤ (p.levelIn vars).rank) := by
    funext l
    rw [Bool.eq_iff_iff, Logger.passes_iff, h.level, decide_eq_true_iff]
  obtain rfl := h.environment
  rw [← hpasses, ← h.level, ← h.flush]
  exact hanswer

/-- The answer tells whether a configuration was accepted. -/
theorem SetBy.mainAnswer?_configure (h : s.SetBy vars p) (hsolitary : s.Solitary)
    (c : RuntimeConfig) :
    (s.performOnMain (.configure c)).mainAnswer? = some .done ↔ p.accepts c = true := by
  obtain ⟨x, hperform, hdone⟩ := exists_perform_configure (s.beginAction (.configure c)) .main c
  have hanswer := hsolitary.mainAnswer?_operation (.configure c) hperform
  rw [h.accepts_iff c]
  refine Iff.trans ?_ hdone
  exact ⟨fun hx => Option.some.inj (hanswer.symm.trans hx),
    fun hx => hanswer.trans (congrArg some hx)⟩

/-! ### The environment is consulted once -/

/-- Two sessions, perhaps in different environments, whose loggers have consulted theirs and are
the same, and that have shown the same. -/
structure LogsAlike (s s' : Session) : Prop where
  settled : s.logger.settled = true
  logger : s'.logger = s.logger
  unconfigured : s'.config = none ↔ s.config = none
  journal : s'.journal = s.journal
  written : s'.written = s.written

/-- A logger that has consulted its environment does not see it any more. -/
theorem LogsAlike.afterOperation (h : s.LogsAlike s') (op : Operation) :
    (s.afterOperation op).LogsAlike (s'.afterOperation op) := by
  obtain ⟨hsettled, hlogger, hnone, hjournal, hwritten⟩ := h
  have hsettle : ∀ vars, s.logger.settle vars = s.logger :=
    Logger.settle_of_settled hsettled
  cases op with
  | init | askFlush | askSettings | setLevel | setFlush =>
    refine ⟨?_, ?_, hnone, hjournal, hwritten⟩
    · simpa [Session.afterOperation, setLogger, Logger.setLevel, Logger.setFlush, hsettle]
    · simp [Session.afterOperation, setLogger, Logger.setLevel, Logger.setFlush, hsettle, hlogger]
  | record level text =>
    have hasked : ∀ vars, s.logger.afterRecord vars level = s.logger := by
      intro vars
      rw [Logger.afterRecord, hsettle, ite_self]
    simp only [Session.afterOperation, log, hlogger, hasked]
    split_ifs
    · exact ⟨hsettled, rfl, hnone, congrArg (_ :: ·) hjournal, congrArg (_ :: ·) hwritten⟩
    · exact ⟨hsettled, rfl, hnone, hjournal, congrArg (_ :: ·) hwritten⟩
    · exact ⟨hsettled, rfl, hnone, hjournal, hwritten⟩
  | configure c =>
    simp only [afterOperation_configure, hnone]
    split_ifs
    · refine ⟨?_, ?_, by simp, hjournal, hwritten⟩
      · simp [Logger.setLevel, Logger.setFlush, hsettle, hsettled]
      · simp [Logger.setLevel, Logger.setFlush, Logger.settle, hsettled, hlogger]
    · exact ⟨hsettled, hlogger, hnone, hjournal, hwritten⟩
  | askConfig =>
    rw [afterOperation_askConfig, afterOperation_askConfig]
    exact ⟨hsettled, hlogger, by simp, hjournal, hwritten⟩

theorem LogsAlike.run (h : s.LogsAlike s') (ops : List Operation) :
    (ops.foldl Session.afterOperation s).LogsAlike (ops.foldl Session.afterOperation s') := by
  induction ops generalizing s s' with
  | nil => exact h
  | cons op rest ih => exact ih (h.afterOperation op)

/-- Whatever the embedder does with the logger from now on comes out the same in every
environment. -/
def ConsultsNoMore (s : Session) : Prop :=
  ∀ (vars : Variables) (ops : List Operation), ∃ u u',
    s.performed? (ops.map Operation.action) = some u ∧
    { s with environment := vars }.performed? (ops.map Operation.action) = some u' ∧
    u'.logger = u.logger ∧ u'.records = u.records ∧ u'.lines = u.lines

theorem Solitary.consultsNoMore (h : s.Solitary) (hsettled : s.logger.settled = true) :
    s.ConsultsNoMore := by
  intro vars ops
  have hsolitary : { s with environment := vars }.Solitary :=
    ⟨h.running, h.idle, h.invokers, h.producers⟩
  obtain ⟨threads, hu, -⟩ := h.performed?_operations ops
  obtain ⟨threads', hu', -⟩ := hsolitary.performed?_operations ops
  have hstart : s.LogsAlike { s with environment := vars } := ⟨hsettled, rfl, .rfl, rfl, rfl⟩
  have halike := hstart.run ops
  refine ⟨_, _, hu, hu', halike.logger, ?_, ?_⟩
  · simp only [records, history, halike.journal]
  · simp only [lines, halike.written]

/-! ### Who wins -/

/-- What a program has set with some operations, after it has perhaps set a level at the start. -/
def programmed (level : Option Level) (ops : List Operation) : Programmed :=
  ops.foldl Programmed.after { level := level }

/-- A sequence of operations is performed to its end, and then everything is as the operations have
set it. -/
theorem exists_setBy (vars : Variables) (level : Option Level) (ops : List Operation) :
    ∃ s, (start vars level).performed? (ops.map Operation.action) = some s ∧ s.Solitary ∧
      s.SetBy vars (programmed level ops) ∧
      s.records = Programmed.shown { level := level } vars ops ∧
      s.lines = s.records.map fun r => writtenLine r.1 r.2 := by
  obtain ⟨threads, hperformed, hsolitary⟩ := (solitary_start vars level).performed?_operations ops
  obtain ⟨hset, hrecords, hlines⟩ := (setBy_start vars level).run ops
  have hnothing : (start vars level).records = [] ∧ (start vars level).lines = [] := by
    cases level <;> exact ⟨rfl, rfl⟩
  rw [hnothing.1, List.nil_append] at hrecords
  rw [hnothing.2, List.nil_append, ← hrecords] at hlines
  exact ⟨_, hperformed, hsolitary, { hset with }, hrecords, hlines⟩

/-- After any sequence of operations, the settings that the logger reports are those that the
program has set last, else those of the environment, else the standard ones; a configuration is
installed exactly if it is accepted; the environment is consulted at most once; and the sink and
standard output have got exactly the records that the settings of their moment let pass, in
order. -/
theorem logging_performed (vars : Variables) (level : Option Level) (ops : List Operation) :
    ∃ s, (start vars level).performed? (ops.map Operation.action) = some s ∧
      (s.performOnMain .logState).mainAnswer?
        = some (.logger ((programmed level ops).levelIn vars) ((programmed level ops).flushIn vars)
            (Level.all.filter fun l =>
              l ≠ .off ∧ l.rank ≤ ((programmed level ops).levelIn vars).rank)) ∧
      (∀ c, (s.performOnMain (.configure c)).mainAnswer? = some .done ↔
        (programmed level ops).accepts c = true) ∧
      (s.logger = {} ∨ s.ConsultsNoMore) ∧
      s.records = Programmed.shown { level := level } vars ops ∧
      s.lines = s.records.map fun r => writtenLine r.1 r.2 := by
  obtain ⟨s, hperformed, hsolitary, hset, hrecords, hlines⟩ := exists_setBy vars level ops
  refine ⟨s, hperformed, hset.mainAnswer?_askSettings hsolitary,
    hset.mainAnswer?_configure hsolitary, ?_, hrecords, hlines⟩
  cases hsettled : s.logger.settled with
  | false => exact .inl (hset.unsettled hsettled)
  | true => exact .inr (hsolitary.consultsNoMore hsettled)

/-- A level that was set before the logger was first used stays, whatever the environment says. -/
example :
    (programmed none [.setLevel .warn, .init, .record .info "ready"]).levelIn
      [(levelVariable, "trace")] = .warn := by
  decide

end Session

end AddonHost
