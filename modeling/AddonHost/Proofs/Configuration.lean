import AddonHost.Proofs.Configuration.Uses

/-!
The configuration of the runtime.

Whatever configurations are offered, and whenever the configuration is read or the options of a
threadsafe function are made, the first use that settles the configuration settles it for good.
`ConfigHistory.settled_once` says so of every run, whatever else its threads do:

* all reads give the same configuration, and it is the delivery of that one that a function gets
  unless its creator asks for another;
* it is the first configuration that was offered and is valid, if that was before every read and
  every creation of options, else the one of the environment;
* at most one configuration is installed, and one that is refused changes neither what is installed
  nor the logger.

A configuration that was offered is valid, but that of the environment need not be:
`ConfigHistory.valid_iff` says when the one that is read is.
-/

namespace AddonHost

/-- Whether the environment asks for flushed logs and switches logging off. -/
def FlushesNothing (vars : Log.Variables) : Prop :=
  (vars.get? Log.levelVariable).bind Log.Level.parse? = some .off ∧
    (vars.get? Log.flushVariable).map RuntimeConfig.isAffirmative = some true

instance (vars : Log.Variables) : Decidable (FlushesNothing vars) :=
  inferInstanceAs (Decidable (_ ∧ _))

/-- The configuration of an environment is valid unless it asks for flushed logs with logging
off. -/
theorem RuntimeConfig.check_ofVariables (vars : Log.Variables) :
    (ofVariables vars).check = .ok () ↔ ¬FlushesNothing vars := by
  have hlevel (level : Option Log.Level) : level.getD .standard = .off ↔ level = some .off := by
    cases level <;> simp [Log.Level.standard]
  have hflush (on : Option Bool) : on.getD false = true ↔ on = some true := by
    cases on <;> simp
  rw [check_eq_ok_iff, FlushesNothing, and_comm]
  simp only [ofVariables, hlevel, hflush]

section

variable {vars : Log.Variables} {uses before after : List ConfigUse} {u : ConfigUse}

/-- A use that settles the configuration of the environment changes nothing. -/
theorem inForce_append (hu : u.settles = true) (hvars : u.settled vars = .ofVariables vars) :
    inForce vars (before ++ u :: after) = inForce vars before := by
  have hrest : settledBy? vars (u :: after) = some (.ofVariables vars) := by
    rw [settledBy?, List.find?_cons_of_pos hu, Option.map_some, hvars]
  rw [inForce, settledBy?_append, hrest, inForce]
  cases settledBy? vars before <;> rfl

end

namespace Session

variable {s s' : Session} {t : ThreadId} {vars : Log.Variables} {uses : List ConfigUse}

theorem ConfigKept.read (h : ConfigKept vars s uses) {answer : Option Answer}
    (hread : .read answer ∈ uses) : answer = some (.config (inForce vars uses)) := by
  obtain ⟨before, after, rfl⟩ := List.append_of_mem hread
  have hfollows := h.follows before (.read answer) ⟨after, by simp⟩
  rw [inForce_append rfl rfl]
  exact hfollows

theorem ConfigKept.options (h : ConfigKept vars s uses) {asked : Option Delivery} {given : Delivery}
    (hoptions : .options asked given ∈ uses) :
    given = asked.getD (inForce vars uses).delivery := by
  obtain ⟨before, after, rfl⟩ := List.append_of_mem hoptions
  have hfollows := h.follows before (.options asked given) ⟨after, by simp⟩
  rw [inForce_append rfl rfl]
  exact hfollows

/-- A configuration that is refused changes neither what is installed nor the logger. -/
theorem unchanged_of_refused {c : RuntimeConfig} {answer : Option Answer}
    (hstep : s.step t = some s') (huse : .configure c answer ∈ s.configUses s' t)
    (hrefused : (ConfigUse.configure c answer).succeeds = false) :
    s'.config = s.config ∧ s'.logger = s.logger := by
  unfold configUses at huse
  split at huse
  · next th th' hth hth' =>
    obtain ⟨hcontrol, rfl⟩ := Control.eq_of_configUse? (Option.mem_toList.1 huse)
    obtain ⟨control, stack⟩ := th
    obtain rfl := hcontrol
    obtain ⟨m, below, hm, rfl⟩ := exists_moves hstep hth
    rw [threads_apply] at hth'
    obtain rfl := Option.some.inj hth'
    cases hm with
    | run hm =>
      obtain rfl := Option.some.inj hm
      simp only [perform] at hrefused ⊢
      rcases s.configureAction_cases c with ⟨p, -, heq⟩ | ⟨d, -, -, heq⟩ | ⟨-, -, g, heq⟩
      · rw [heq]
        exact ⟨rfl, rfl⟩
      · rw [heq]
        exact ⟨rfl, rfl⟩
      · rw [heq] at hrefused
        cases hrefused
  · simp at huse

/-- A configuration is installed if it is valid and nothing was settled before. -/
theorem ConfigKept.configure (h : ConfigKept vars s uses) {before : List ConfigUse}
    {c : RuntimeConfig} {answer : Option Answer}
    (hbegins : before ++ [.configure c answer] <+: uses) :
    answer = some .done ↔ c.check = .ok () ∧ ∀ u ∈ before, u.settles = false := by
  have hfollows := h.follows before (.configure c answer) hbegins
  have hsettled : (settledBy? vars before).isSome = false ↔ ∀ u ∈ before, u.settles = false := by
    simp [settledBy?]
  unfold ConfigUse.Follows at hfollows
  rw [← hsettled]
  cases hc : c.check with
  | error p =>
    simp only [hc] at hfollows
    simp [hfollows]
  | ok x =>
    simp only [hc] at hfollows
    cases hbefore : (settledBy? vars before).isSome <;> simp [hfollows, hbefore]

/-- The configuration is settled once: all reads agree, options follow it, at most one configuration
is installed, and one that is refused changes nothing.  Every action of a run that was not aborted
can be taken. -/
theorem ConfigHistory.settled_once (h : ConfigHistory vars s uses) :
    (∀ answer, .read answer ∈ uses → answer = some (.config (inForce vars uses))) ∧
      (∀ asked given, .options asked given ∈ uses →
        given = asked.getD (inForce vars uses).delivery) ∧
      (∀ before c answer, before ++ [.configure c answer] <+: uses →
        (answer = some .done ↔ c.check = .ok () ∧ ∀ u ∈ before, u.settles = false)) ∧
      uses.countP ConfigUse.succeeds ≤ 1 ∧
      (∀ t s' c answer, s.step t = some s' → .configure c answer ∈ s.configUses s' t →
        (ConfigUse.configure c answer).succeeds = false →
          s'.config = s.config ∧ s'.logger = s.logger) ∧
      ∀ t a below, s.halted = false →
        s.threads.get? t = some { control := .run (.perform a), stack := below } →
          (s.step t).isSome = true := by
  have hkept := h.kept
  refine ⟨fun _ => hkept.read, fun _ _ => hkept.options, fun _ _ _ => hkept.configure, ?_,
    fun _ _ _ _ => unchanged_of_refused, fun t a below hrunning hth => ?_⟩
  · have honce := hkept.once
    split at honce <;> omega
  · rw [step_run hrunning hth rfl]
    rfl

/-- The configuration that is read is valid exactly if it was offered, or the environment does not
ask for flushed logs with logging off. -/
theorem ConfigHistory.valid_iff {c : RuntimeConfig} (h : ConfigHistory vars s uses)
    (hread : .read (some (.config c)) ∈ uses) :
    c.check = .ok () ↔
      (∃ d answer, uses.find? ConfigUse.settles = some (.configure d answer)) ∨
        ¬FlushesNothing vars := by
  obtain rfl : c = inForce vars uses := by simpa using h.kept.read hread
  rw [inForce, settledBy?]
  cases hfirst : uses.find? ConfigUse.settles with
  | none => simp [RuntimeConfig.check_ofVariables]
  | some u =>
    have hsettles : u.settles = true := List.find?_some hfirst
    cases u with
    | configure d answer =>
      have hcheck : d.check = .ok () := by
        cases hd : d.check with
        | ok x => rfl
        | error p => simp [ConfigUse.settles, hd, Except.isOk, Except.toBool] at hsettles
      simp [ConfigUse.settled, hcheck]
    | read | options => simp [ConfigUse.settled, RuntimeConfig.check_ofVariables]

/-! ### Runs of the main thread -/

/-- The session after so many steps of the main thread, and the uses of the configuration. -/
def stepUses? (s : Session) : Nat → Option (Session × List ConfigUse)
  | 0 => some (s, [])
  | n + 1 =>
    (s.step .main).bind fun s' =>
      (s'.stepUses? n).map fun (u, uses) => (u, s.configUses s' .main ++ uses)

/-- The session after the main thread has begun some actions, one after the other, and has taken so
many steps in each, and the uses of the configuration. -/
def performUses? (s : Session) : List (Action × Nat) → Option (Session × List ConfigUse)
  | [] => some (s, [])
  | (a, n) :: rest =>
    if s.MainIdle then
      ((s.beginAction a).stepUses? n).bind fun (u, uses) =>
        (u.performUses? rest).map fun (v, later) => (v, uses ++ later)
    else none

theorem ConfigHistory.stepUses? {n : Nat} {later : List ConfigUse} (h : ConfigHistory vars s uses)
    (hs : s.stepUses? n = some (s', later)) : ConfigHistory vars s' (uses ++ later) := by
  induction n generalizing s uses later with
  | zero =>
    obtain ⟨rfl, rfl⟩ := Prod.mk.inj (Option.some.inj hs)
    rwa [List.append_nil]
  | succ n ih =>
    obtain ⟨u, hu, hs⟩ := Option.bind_eq_some_iff.1 hs
    obtain ⟨⟨v, rest⟩, hv, heq⟩ := Option.map_eq_some_iff.1 hs
    obtain ⟨rfl, rfl⟩ := Prod.mk.inj heq
    rw [← List.append_assoc]
    exact ih (h.step .main hu) hv

theorem ConfigHistory.performUses? {actions : List (Action × Nat)} {later : List ConfigUse}
    (h : ConfigHistory vars s uses) (hs : s.performUses? actions = some (s', later)) :
    ConfigHistory vars s' (uses ++ later) := by
  induction actions generalizing s uses later with
  | nil =>
    obtain ⟨rfl, rfl⟩ := Prod.mk.inj (Option.some.inj hs)
    rwa [List.append_nil]
  | cons p rest ih =>
    obtain ⟨a, n⟩ := p
    unfold Session.performUses? at hs
    split at hs
    · next hidle =>
      obtain ⟨⟨u, first⟩, hu, hs⟩ := Option.bind_eq_some_iff.1 hs
      obtain ⟨⟨v, rest⟩, hv, heq⟩ := Option.map_eq_some_iff.1 hs
      obtain ⟨rfl, rfl⟩ := Prod.mk.inj heq
      rw [← List.append_assoc]
      exact ih ((h.act a hidle).stepUses? hu) hv
    · cases hs

theorem configHistory_of_performUses? {level : Option Log.Level} {actions : List (Action × Nat)}
    {p : Session × List ConfigUse} (hs : (start vars level).performUses? actions = some p) :
    ConfigHistory vars p.1 p.2 := by
  have h := (ConfigHistory.start level).performUses? hs
  rwa [List.nil_append] at h

/-- A session in an environment that asks for synchronous delivery, in which an invalid
configuration, a valid one and another one were offered, the configuration was read, and a function
was created. -/
def configuredOnce : Session × List ConfigUse :=
  ((start [(RuntimeConfig.syncVariable, "1")] none).performUses?
    [(.configure { logLevel := .off, flushLogs := true }, 1),
      (.configure { logLevel := .warn }, 1),
      (.configure { delivery := .sync }, 1),
      (.readConfig, 1),
      (.createFunction { name := "f", callJs := true }, 3)]).get (by decide +kernel)

/-- The same session, about to be offered yet another configuration. -/
def configuringAgain : Session := configuredOnce.1.beginAction (.configure { logLevel := .trace })

theorem settled_once_configuredOnce :
    .read (some (.config { logLevel := .warn })) ∈ configuredOnce.2 ∧
      .options none .async ∈ configuredOnce.2 ∧
      configuredOnce.2.countP ConfigUse.succeeds = 1 ∧
      ∃ s', configuringAgain.step .main = some s' ∧ s'.config = some { logLevel := .warn } ∧
        s'.logger.level = .warn := by
  have hhistory : ConfigHistory [(RuntimeConfig.syncVariable, "1")] configuringAgain
      configuredOnce.2 :=
    (configHistory_of_performUses? (Option.some_get _).symm).act _ (by decide +kernel)
  obtain ⟨hread, hoptions, -, honce, hrefused, hsteps⟩ := hhistory.settled_once
  have hforce : inForce [(RuntimeConfig.syncVariable, "1")] configuredOnce.2
      = { logLevel := .warn } := by decide +kernel
  rw [hforce] at hread hoptions
  refine ⟨?_, ?_, ?_, ?_⟩
  · obtain ⟨u, hu, hisRead⟩ := List.any_eq_true.1
      (show configuredOnce.2.any ConfigUse.isRead = true by decide +kernel)
    obtain ⟨answer, rfl⟩ := ConfigUse.exists_of_isRead hisRead
    obtain rfl := hread answer hu
    exact hu
  · obtain ⟨u, hu, hleaves⟩ := List.any_eq_true.1
      (show configuredOnce.2.any ConfigUse.leavesDelivery = true by decide +kernel)
    obtain ⟨given, rfl⟩ := ConfigUse.exists_of_leavesDelivery hleaves
    obtain rfl := hoptions none given hu
    exact hu
  · have hpos : 0 < configuredOnce.2.countP ConfigUse.succeeds := by decide +kernel
    omega
  · have hthread : configuringAgain.threads.get? .main
        = some { control := .run (.perform (.configure { logLevel := .trace })) } := by
      rw [configuringAgain, beginAction, setThread, Assoc.get?_insert, if_pos rfl]
    obtain ⟨s', hs'⟩ := Option.isSome_iff_exists.1
      (hsteps .main _ [] (by decide +kernel) hthread)
    obtain ⟨th', hth', -⟩ := exists_configChange hthread hs'
    have huse : configuringAgain.configUses s' .main
        = [.configure { logLevel := .trace } th'.control.answer?] := by
      simp only [configUses, hthread, hth']
      rfl
    have hlate : th'.control.answer? ≠ some .done := by
      -- the answer follows from what the longer run has done before
      obtain ⟨-, -, hinstalled, -⟩ := (hhistory.step .main hs').settled_once
      rw [huse] at hinstalled
      intro hdone
      have hnothing := ((hinstalled _ _ _ (List.prefix_refl _)).1 hdone).2
      exact absurd hnothing (by decide +kernel)
    obtain ⟨hconfig, hlogger⟩ := hrefused .main s' _ _ hs' (by rw [huse]; exact .head _)
      (ConfigUse.succeeds_configure.2 hlate)
    exact ⟨s', hs', hconfig.trans (by decide +kernel), by rw [hlogger]; decide +kernel⟩

/-- A session in an environment that asks for flushed logs with logging off, after the configuration
was read. -/
def readFlushingNothing : Session × List ConfigUse :=
  ((start [(Log.levelVariable, "off"), (Log.flushVariable, "1")] none).performUses?
    [(.readConfig, 1)]).get (by decide +kernel)

theorem valid_iff_readFlushingNothing :
    ∃ c, .read (some (.config c)) ∈ readFlushingNothing.2 ∧ c.check ≠ .ok () := by
  have hhistory : ConfigHistory [(Log.levelVariable, "off"), (Log.flushVariable, "1")]
      readFlushingNothing.1 readFlushingNothing.2 :=
    configHistory_of_performUses? (Option.some_get _).symm
  obtain ⟨u, hu, hisRead⟩ := List.any_eq_true.1
    (show readFlushingNothing.2.any ConfigUse.isRead = true by decide +kernel)
  obtain ⟨answer, rfl⟩ := ConfigUse.exists_of_isRead hisRead
  obtain rfl := hhistory.kept.read hu
  refine ⟨_, hu, fun hvalid => ?_⟩
  have hfirst : (readFlushingNothing.2.find? ConfigUse.settles).all ConfigUse.isRead = true := by
    decide +kernel
  rcases (hhistory.valid_iff hu).1 hvalid with ⟨d, answer, hconfigure⟩ | hnot
  · rw [hconfigure] at hfirst
    cases hfirst
  · exact hnot (by decide +kernel)

end Session

end AddonHost
