import AddonHost.Proofs.Configuration.Moves

/-!
The uses of the configuration.

A run may be told by what it does with the configuration: configurations are offered for
installation, the configuration is read, and the options of threadsafe functions are made
(`ConfigUse`, `Session.ConfigHistory`).  `ConfigChange` says what one step can do, and
`ConfigHistory.kept` what follows for a run, whatever the order of its threads: the first use that
settles the configuration determines it, and what every use comes to is a matter of the uses before
it (`ConfigUse.Follows`).
-/

namespace AddonHost

/-- The answer that a thread gives, if it gives one. -/
def Control.answer? : Control → Option Answer
  | .give (.answer a) => some a
  | _ => none

/-- What is done with the configuration. -/
inductive ConfigUse where
  /-- A configuration is offered for installation, and this is the answer. -/
  | configure (c : RuntimeConfig) (answer : Option Answer)
  | read (answer : Option Answer)
  /-- The options of a threadsafe function are made: the delivery that the caller asks for, and the
  one that the function gets. -/
  | options (asked : Option Delivery) (given : Delivery)

namespace ConfigUse

/-- Whether the configuration is settled after this use. -/
def settles : ConfigUse → Bool
  | configure c _ => c.check.isOk
  | read _ | options .. => true

/-- The configuration that a use settles. -/
def settled (vars : Log.Variables) : ConfigUse → RuntimeConfig
  | configure c _ => c
  | read _ | options .. => .ofVariables vars

/-- Whether a configuration was installed. -/
def succeeds : ConfigUse → Bool
  | configure _ (some .done) => true
  | _ => false

/-- Whether the configuration is read. -/
def isRead : ConfigUse → Bool
  | read _ => true
  | _ => false

/-- Whether options are made whose delivery is left to the configuration. -/
def leavesDelivery : ConfigUse → Bool
  | options none _ => true
  | _ => false

theorem exists_of_isRead {u : ConfigUse} (h : u.isRead = true) : ∃ answer, u = read answer := by
  unfold isRead at h
  split at h
  · exact ⟨_, rfl⟩
  · cases h

theorem exists_of_leavesDelivery {u : ConfigUse} (h : u.leavesDelivery = true) :
    ∃ given, u = options none given := by
  unfold leavesDelivery at h
  split at h
  · exact ⟨_, rfl⟩
  · cases h

theorem succeeds_configure {c : RuntimeConfig} {answer : Option Answer} :
    (configure c answer).succeeds = false ↔ answer ≠ some .done := by
  unfold succeeds
  split <;> simp_all

end ConfigUse

/-- The configuration that is settled by the first use that settles one. -/
def settledBy? (vars : Log.Variables) (uses : List ConfigUse) : Option RuntimeConfig :=
  (uses.find? ConfigUse.settles).map (ConfigUse.settled vars)

/-- The configuration that is in force after some uses: the first that was offered and is valid, if
nothing else has settled it before, else the one of the environment. -/
def inForce (vars : Log.Variables) (uses : List ConfigUse) : RuntimeConfig :=
  (settledBy? vars uses).getD (.ofVariables vars)

/-- What a use of the configuration comes to after some others. -/
def ConfigUse.Follows (vars : Log.Variables) (before : List ConfigUse) : ConfigUse → Prop
  | configure c answer =>
    match c.check with
    | .error p => answer = some (.configProblem p)
    | .ok () =>
      answer = some (if (settledBy? vars before).isSome then .configProblem .alreadyConfigured
        else .done)
  | read answer => answer = some (.config (inForce vars before))
  | options asked given => given = asked.getD (inForce vars before).delivery

/-- What a step of a thread does with the configuration that leads from one control to another. -/
def Control.configUse? (c c' : Control) : Option ConfigUse :=
  match c, c' with
  | .run (.perform (.configure config)), c' => some (.configure config c'.answer?)
  | .run (.perform .readConfig), c' => some (.read c'.answer?)
  | .run (.perform (.createFunction a)), .run (.createFunction _ _ delivery _) =>
    some (.options a.delivery delivery)
  | .run (.entry .runtime (.createThreadsafeFunction ..)), .run (.createFunction _ _ delivery _) =>
    some (.options none delivery)
  | _, _ => none

theorem Control.configUse?_of_usesConfig {c : Code} (hc : c.usesConfig = false) (c' : Control) :
    (Control.run c).configUse? c' = none := by
  unfold configUse?
  split <;> simp_all [Code.usesConfig]

theorem Control.eq_of_configUse? {c c' : Control} {config : RuntimeConfig} {answer : Option Answer}
    (h : c.configUse? c' = some (.configure config answer)) :
    c = .run (.perform (.configure config)) ∧ answer = c'.answer? := by
  unfold configUse? at h
  split at h <;> simp_all

/-- What a step can do with the installed configuration and the environment. -/
inductive ConfigChange : Option RuntimeConfig × Log.Variables → Option ConfigUse →
    Option RuntimeConfig × Log.Variables → Prop where
  | aside (k : Option RuntimeConfig × Log.Variables) : ConfigChange k none k
  /-- An invalid configuration. -/
  | refuse {c : RuntimeConfig} {p : RuntimeConfig.Problem}
      (k : Option RuntimeConfig × Log.Variables) (hc : c.check = .error p) :
    ConfigChange k (some (.configure c (some (.configProblem p)))) k
  /-- A valid configuration that comes too late. -/
  | late {c : RuntimeConfig} (installed : RuntimeConfig) (vars : Log.Variables)
      (hc : c.check = .ok ()) :
    ConfigChange (some installed, vars)
      (some (.configure c (some (.configProblem .alreadyConfigured)))) (some installed, vars)
  | install {c : RuntimeConfig} (vars : Log.Variables) (hc : c.check = .ok ()) :
    ConfigChange (none, vars) (some (.configure c (some .done))) (some c, vars)
  | read (config : Option RuntimeConfig) (vars : Log.Variables) :
    ConfigChange (config, vars) (some (.read (some (.config (config.getD (.ofVariables vars))))))
      (some (config.getD (.ofVariables vars)), vars)
  | options (config : Option RuntimeConfig) (vars : Log.Variables) (asked : Option Delivery) :
    ConfigChange (config, vars)
      (some (.options asked (asked.getD (config.getD (.ofVariables vars)).delivery)))
      (some (config.getD (.ofVariables vars)), vars)

namespace Session

variable {s s' : Session} {t : ThreadId} {th : Thread} {vars : Log.Variables}
  {uses : List ConfigUse}

/-! ### Steps -/

theorem fst_readConfig (s : Session) :
    s.readConfig.1 = s.config.getD (.ofVariables s.environment) := by
  unfold readConfig
  split <;> simp_all

theorem configuration_readConfig (s : Session) :
    s.readConfig.2.configuration
      = (some (s.config.getD (.ofVariables s.environment)), s.environment) := by
  unfold readConfig configuration
  split <;> simp_all

/-- A configuration is refused, and nothing happens, or it is installed. -/
theorem configureAction_cases (s : Session) (c : RuntimeConfig) :
    (∃ p, c.check = .error p ∧ s.configureAction c = s.reply (.configProblem p)) ∨
    (∃ d, c.check = .ok () ∧ s.config = some d ∧
      s.configureAction c = s.reply (.configProblem .alreadyConfigured)) ∨
    c.check = .ok () ∧ s.config = none ∧ ∃ logger,
      s.configureAction c = { s with config := some c, logger := logger }.reply .done := by
  unfold configureAction configure
  cases hc : c.check with
  | error p => exact .inl ⟨p, rfl, rfl⟩
  | ok u =>
    cases hconfig : s.config with
    | some d => exact .inr (.inl ⟨d, rfl, rfl, rfl⟩)
    | none => exact .inr (.inr ⟨rfl, rfl, _, rfl⟩)

/-- The options of a threadsafe function are made, unless its invoker is unknown. -/
theorem createFunctionNamed_cases (s : Session) (a : FunctionArgs) :
    s.createFunctionNamed a = s.refuse .unknownInvoker ∨ ∃ env spec invoker frames,
      s.createFunctionNamed a
        = s.readConfig.2.run
            (.createFunction env spec (a.delivery.getD s.readConfig.1.delivery) invoker)
            frames := by
  unfold createFunctionNamed
  simp only
  split
  · exact .inr ⟨_, _, _, _, rfl⟩
  · unfold withInvoker
    split
    · exact .inl rfl
    · exact .inr ⟨_, _, _, _, rfl⟩

/-- The runtime's entry makes the options, unless its arguments are refused. -/
theorem createFunctionEntry_cases (s : Session) (env : Word) (spec : FunctionSpec) (out : Bool) :
    (∃ u : Session, u.configuration = s.configuration ∧
      s.createFunctionEntry env spec out = u.respond .invalidArg) ∨
    ∃ invoker frames, s.createFunctionEntry env spec out
      = s.readConfig.2.run (.createFunction env spec s.readConfig.1.delivery invoker) frames := by
  unfold createFunctionEntry
  split
  · exact .inl ⟨s, rfl, rfl⟩
  · split
    · exact .inl ⟨_, configuration_log _ _, rfl⟩
    · exact .inr ⟨_, _, rfl⟩

/-- What a move that makes options does with the configuration. -/
theorem configChange_options (s : Session) (asked : Option Delivery) :
    ConfigChange s.configuration (some (.options asked (asked.getD s.readConfig.1.delivery)))
      s.readConfig.2.configuration := by
  rw [fst_readConfig, configuration_readConfig]
  exact .options s.config s.environment asked

theorem configChange_perform (a : Action) :
    ConfigChange s.configuration ((Control.run (.perform a)).configUse? (s.perform t a).control)
      (s.perform t a).session.configuration := by
  cases ha : (Code.perform a).usesConfig with
  | false =>
    rw [Control.configUse?_of_usesConfig ha, configuration_perform ha]
    exact .aside _
  | true =>
    cases a with
    | configure c =>
      show ConfigChange _ (some (.configure c (s.configureAction c).control.answer?))
        (s.configureAction c).session.configuration
      rcases s.configureAction_cases c with ⟨p, hc, heq⟩ | ⟨d, hc, hd, heq⟩ | ⟨hc, hnone, g, heq⟩
      · rw [heq]
        exact .refuse _ hc
      · have hlate : s.configuration = (some d, s.environment) := by rw [configuration, hd]
        rw [heq, configuration_reply, hlate]
        exact .late d _ hc
      · have hfirst : s.configuration = (none, s.environment) := by rw [configuration, hnone]
        rw [heq, hfirst]
        exact .install _ hc
    | readConfig =>
      show ConfigChange _ (some (.read (some (.config s.readConfig.1))))
        s.readConfig.2.configuration
      rw [fst_readConfig, configuration_readConfig]
      exact .read _ _
    | createFunction args =>
      show ConfigChange _ _ (s.createFunctionNamed args).session.configuration
      rcases s.createFunctionNamed_cases args with heq | ⟨env, spec, invoker, frames, heq⟩
      · simp only [perform, heq]
        exact .aside _
      · simp only [perform, heq]
        exact s.configChange_options args.delivery
    | _ => simp [Code.usesConfig] at ha

theorem configChange_entry (p : Provider) (r : Request) :
    ConfigChange s.configuration ((Control.run (.entry p r)).configUse? (s.entry t p r).control)
      (s.entry t p r).session.configuration := by
  cases hr : (Code.entry p r).usesConfig with
  | false =>
    rw [Control.configUse?_of_usesConfig hr, configuration_entry hr]
    exact .aside _
  | true =>
    unfold Code.usesConfig at hr
    split at hr
    case h_4 hcode =>
      obtain ⟨rfl, rfl⟩ := Code.entry.inj hcode
      next env spec out =>
      show ConfigChange _ _ (s.createFunctionEntry env spec out).session.configuration
      rcases s.createFunctionEntry_cases env spec out with ⟨u, hu, heq⟩ | ⟨invoker, frames, heq⟩
      · simp only [entry, runtimeEntry, heq, configuration_respond, hu]
        exact .aside _
      · simp only [entry, runtimeEntry, heq]
        exact s.configChange_options none
    all_goals simp_all

/-- Each step of a thread does one of these things with the configuration. -/
theorem exists_configChange (hth : s.threads.get? t = some th) (hstep : s.step t = some s') :
    ∃ th', s'.threads.get? t = some th' ∧
      ConfigChange s.configuration (th.control.configUse? th'.control) s'.configuration := by
  obtain ⟨m, below, hm, rfl⟩ := exists_moves hstep hth
  refine ⟨_, threads_apply m t below, ?_⟩
  show ConfigChange s.configuration (th.control.configUse? m.control) m.session.configuration
  cases hm with
  | @run c m below hm =>
    by_cases hperform : (∃ a, c = .perform a) ∨ ∃ p r, c = .entry p r
    · rcases hperform with ⟨a, rfl⟩ | ⟨p, r, rfl⟩
      · obtain rfl := Option.some.inj hm
        exact configChange_perform a
      · obtain rfl := Option.some.inj hm
        exact configChange_entry p r
    · -- the other pieces of code do not use the configuration
      have hc : c.usesConfig = false := by
        cases c <;> simp_all [Code.usesConfig]
      rw [Control.configUse?_of_usesConfig hc, configuration_step hc hm]
      exact .aside _
  | give r fr =>
    rw [configuration_resume]
    exact .aside _
  | unwind fr =>
    rw [configuration_unwind]
    exact .aside _
  | refuse => exact .aside _

/-! ### Runs -/

/-- What a step of a thread from one session to another does with the configuration. -/
def configUses (s s' : Session) (t : ThreadId) : List ConfigUse :=
  match s.threads.get? t, s'.threads.get? t with
  | some th, some th' => (th.control.configUse? th'.control).toList
  | _, _ => []

/-- A run in some environment that arrives at a session, with threads that step in any order, told
by what it has done with the configuration. -/
inductive ConfigHistory (vars : Log.Variables) : Session → List ConfigUse → Prop where
  | start (level : Option Log.Level) : ConfigHistory vars (start vars level) []
  | act {s : Session} {uses : List ConfigUse} (a : Action) :
    ConfigHistory vars s uses → s.MainIdle → ConfigHistory vars (s.beginAction a) uses
  | step {s s' : Session} {uses : List ConfigUse} (t : ThreadId) :
    ConfigHistory vars s uses → s.step t = some s' →
      ConfigHistory vars s' (uses ++ s.configUses s' t)
  | lose {s : Session} {uses : List ConfigUse} (i : InvokerId) (position : Nat) :
    ConfigHistory vars s uses → ConfigHistory vars (s.loseTask i position) uses

/-- Every run has such a history. -/
theorem Reachable.exists_configHistory (h : s.Reachable) :
    ∃ vars uses, ConfigHistory vars s uses := by
  induction h with
  | start vars level => exact ⟨vars, [], .start level⟩
  | act a _ hidle ih =>
    obtain ⟨vars, uses, huses⟩ := ih
    exact ⟨vars, uses, huses.act a hidle⟩
  | step t _ _ hstep ih =>
    obtain ⟨vars, uses, huses⟩ := ih
    exact ⟨vars, _, huses.step t hstep⟩
  | lose i position _ ih =>
    obtain ⟨vars, uses, huses⟩ := ih
    exact ⟨vars, uses, huses.lose i position⟩

end Session

/-! ### What the first use settles -/

variable {vars : Log.Variables} {uses before after : List ConfigUse} {u : ConfigUse}

theorem settledBy?_append (uses after : List ConfigUse) :
    settledBy? vars (uses ++ after) = (settledBy? vars uses).or (settledBy? vars after) := by
  rw [settledBy?, List.find?_append, Option.map_or]
  rfl

theorem settledBy?_singleton (u : ConfigUse) :
    settledBy? vars [u] = if u.settles then some (u.settled vars) else none := by
  unfold settledBy?
  cases hu : u.settles <;> simp [hu]

namespace Session

variable {s s' : Session} {t : ThreadId}

/-- What is kept of a history: what is installed, what every use came to, and that at most one
configuration was installed. -/
structure ConfigKept (vars : Log.Variables) (s : Session) (uses : List ConfigUse) : Prop where
  configuration : s.configuration = (settledBy? vars uses, vars)
  follows : ∀ before u, before ++ [u] <+: uses → u.Follows vars before
  once : uses.countP ConfigUse.succeeds ≤ if (settledBy? vars uses).isSome then 1 else 0

/-- One more use of the configuration, which comes to what the uses before it say. -/
theorem ConfigKept.snoc (h : ConfigKept vars s uses)
    (hconfiguration : s'.configuration = (settledBy? vars (uses ++ [u]), vars))
    (hfollows : u.Follows vars uses)
    (hfirst : u.succeeds = true → settledBy? vars uses = none ∧ u.settles = true) :
    ConfigKept vars s' (uses ++ [u]) where
  configuration := hconfiguration
  follows before v hbegins := by
    rcases List.prefix_concat_iff.1 hbegins with heq | hbegins
    · obtain ⟨rfl, rfl⟩ := List.append_singleton_inj.1 heq
      exact hfollows
    · exact h.follows before v hbegins
  once := by
    have honce := h.once
    rw [List.countP_append, List.countP_singleton, settledBy?_append, settledBy?_singleton]
    -- what succeeds is the first use, so that nothing was counted before it
    cases hu : u.succeeds with
    | false =>
      cases hsettled : settledBy? vars uses with
      | none =>
        have hzero : uses.countP ConfigUse.succeeds = 0 := by simpa [hsettled] using honce
        simp [hzero]
      | some c => simpa [hsettled] using honce
    | true =>
      obtain ⟨hnone, hsettles⟩ := hfirst hu
      simp_all

theorem ConfigKept.change {use? : Option ConfigUse} (h : ConfigKept vars s uses)
    (hc : ConfigChange s.configuration use? s'.configuration) :
    ConfigKept vars s' (uses ++ use?.toList) := by
  rw [h.configuration] at hc
  generalize hk : (settledBy? vars uses, vars) = k at hc
  generalize hk' : s'.configuration = k' at hc
  cases hc with
  | aside =>
    simp only [Option.toList_none, List.append_nil]
    exact ⟨hk'.trans hk.symm, h.follows, h.once⟩
  | @refuse c p _ hcheck =>
    refine h.snoc ?_ ?_ (by simp [ConfigUse.succeeds])
    · rw [settledBy?_append, settledBy?_singleton, hk', ← hk]
      simp [ConfigUse.settles, hcheck, Except.isOk, Except.toBool]
    · simp [ConfigUse.Follows, hcheck]
  | @late c installed _ hcheck =>
    obtain ⟨hsettled, rfl⟩ := Prod.mk.inj hk
    refine h.snoc ?_ ?_ (by simp [ConfigUse.succeeds])
    · rw [settledBy?_append, hsettled, hk', Option.some_or]
    · simp [ConfigUse.Follows, hcheck, hsettled]
  | @install c _ hcheck =>
    obtain ⟨hsettled, rfl⟩ := Prod.mk.inj hk
    have hsettles : (ConfigUse.configure c (some .done)).settles = true := by
      simp [ConfigUse.settles, hcheck, Except.isOk, Except.toBool]
    refine h.snoc ?_ ?_ fun _ => ⟨hsettled, hsettles⟩
    · rw [settledBy?_append, settledBy?_singleton, hsettled, hk', if_pos hsettles]
      rfl
    · simp [ConfigUse.Follows, hcheck, hsettled]
  | read config =>
    obtain ⟨hsettled, rfl⟩ := Prod.mk.inj hk
    refine h.snoc ?_ ?_ (by simp [ConfigUse.succeeds])
    · rw [settledBy?_append, settledBy?_singleton, hsettled, hk']
      cases config <;> rfl
    · rw [ConfigUse.Follows, inForce, hsettled]
  | options config _ asked =>
    obtain ⟨hsettled, rfl⟩ := Prod.mk.inj hk
    refine h.snoc ?_ ?_ (by simp [ConfigUse.succeeds])
    · rw [settledBy?_append, settledBy?_singleton, hsettled, hk']
      cases config <;> rfl
    · rw [ConfigUse.Follows, inForce, hsettled]

theorem ConfigKept.of_configuration (h : ConfigKept vars s uses)
    (hs : s'.configuration = s.configuration) : ConfigKept vars s' uses :=
  ⟨hs.trans h.configuration, h.follows, h.once⟩

/-- Whatever a run does and whoever acts next, the first use settles the configuration. -/
theorem ConfigHistory.kept (h : ConfigHistory vars s uses) : ConfigKept vars s uses := by
  induction h with
  | start level =>
    refine ⟨by cases level <;> rfl, fun before u hbegins => ?_, by simp⟩
    simp at hbegins
  | act a _ _ ih => exact ih.of_configuration (configuration_setThread _)
  | @step s s' uses t _ hstep ih =>
    cases hth : s.threads.get? t with
    | none =>
      unfold Session.step at hstep
      simp [hth] at hstep
    | some th =>
      obtain ⟨th', hth', hchange⟩ := exists_configChange hth hstep
      simp only [configUses, hth, hth']
      exact ih.change hchange
  | lose i position _ ih => exact ih.of_configuration (configuration_loseTask i position)

end Session

end AddonHost
