import AddonHost.Proofs.LogSettings

/-!
The two readers of the log variables.

The level and the flush setting of the environment are read twice: by the logger when it is first
used, and by whoever asks for the runtime configuration.  `first_use_agrees` compares what they make
of the same environment, after any operations that set nothing:

* they always agree on the level;
* they agree on the flush setting, except for a value that is an affirmative word only after blanks
  around it are dropped: the configuration drops them, the logger does not.
-/

namespace AddonHost

namespace Log

/-- Whether an operation sets nothing: the logger and the configuration are only used. -/
def Operation.setsNothing : Operation → Bool
  | setLevel _ | setFlush _ | configure _ => false
  | _ => true

/-- Affirmative words have no blanks around them. -/
theorem trim_of_mem_affirmatives {word : String} (h : word ∈ affirmatives) :
    Text.trim word = word := by
  have hwords : ∀ word ∈ affirmatives, Text.trim word = word := by decide
  exact hwords word h

namespace Programmed

variable {p : Programmed}

/-- A level that is not set is read from the environment as that of the configuration is. -/
theorem levelIn_of_unset (h : p.level = none) (vars : Variables) :
    p.levelIn vars = (RuntimeConfig.ofVariables vars).logLevel := by
  rw [levelIn, h]
  rfl

/-- A flush setting that is not set is that of the configuration, unless the value is affirmative
only without the blanks around it. -/
theorem flushIn_of_unset_iff (h : p.flush = none) (vars : Variables) :
    p.flushIn vars = (RuntimeConfig.ofVariables vars).flushLogs ↔
      ∀ value, vars.get? flushVariable = some value →
        RuntimeConfig.isAffirmative value = true → Text.trim value = value := by
  simp only [flushIn, h, RuntimeConfig.ofVariables]
  cases Assoc.get? vars flushVariable with
  | none => simp
  | some value =>
    show affirmatives.contains value = affirmatives.contains (Text.trim value) ↔ _
    have hbare : value ∈ affirmatives → Text.trim value = value := trim_of_mem_affirmatives
    constructor
    · intro heq value' hvalue haffirmative
      obtain rfl := Option.some.inj hvalue
      have hcontains : affirmatives.contains value = true := heq.trans haffirmative
      exact hbare (List.contains_iff_mem.1 hcontains)
    · intro hblanks
      by_cases haffirmative : affirmatives.contains (Text.trim value) = true
      · rw [hblanks value rfl haffirmative]
      · -- an affirmative word would have been trimmed to itself
        have hnot : value ∉ affirmatives := by
          intro hmem
          rw [hbare hmem] at haffirmative
          exact haffirmative (List.contains_iff_mem.2 hmem)
        rw [Bool.not_eq_true] at haffirmative
        rw [haffirmative, ← Bool.not_eq_true, List.contains_iff_mem]
        exact hnot

/-- What sets nothing leaves nothing set. -/
theorem after_of_setsNothing {op : Operation}
    (h : op.setsNothing = true) :
    (p.after op).level = p.level ∧ (p.after op).flush = p.flush := by
  cases op with
  | setLevel | setFlush | configure => simp [Operation.setsNothing] at h
  | init | record | askFlush | askSettings | askConfig => exact ⟨rfl, rfl⟩

end Programmed

end Log

namespace Session

open Log

theorem programmed_of_setsNothing {ops : List Operation}
    (hops : ∀ op ∈ ops, op.setsNothing = true) :
    (programmed none ops).level = none ∧ (programmed none ops).flush = none := by
  suffices ∀ p : Programmed, (ops.foldl Programmed.after p).level = p.level ∧
      (ops.foldl Programmed.after p).flush = p.flush from this {}
  induction ops with
  | nil => exact fun p => ⟨rfl, rfl⟩
  | cons op rest ih =>
    intro p
    obtain ⟨hlevel, hflush⟩ := ih (fun op hop => hops op (.tail _ hop)) (p.after op)
    obtain ⟨hlevel', hflush'⟩ := Programmed.after_of_setsNothing (hops op (.head _))
    exact ⟨hlevel.trans hlevel', hflush.trans hflush'⟩

/-- When nothing was set by program, the logger reports the level of the configuration that is read
from the same environment, and the same flush setting, unless the value of the variable is
affirmative only without the blanks around it. -/
theorem first_use_agrees (vars : Variables) (ops : List Operation)
    (hops : ∀ op ∈ ops, op.setsNothing = true) :
    ∃ s level flush shown, (start vars none).performed? (ops.map Operation.action) = some s ∧
      (s.performOnMain .logState).mainAnswer? = some (.logger level flush shown) ∧
      level = (RuntimeConfig.ofVariables vars).logLevel ∧
      (flush = (RuntimeConfig.ofVariables vars).flushLogs ↔
        ∀ value, vars.get? flushVariable = some value →
          RuntimeConfig.isAffirmative value = true → Text.trim value = value) := by
  obtain ⟨s, hperformed, hsolitary, hset, -⟩ := exists_setBy vars none ops
  obtain ⟨hlevel, hflush⟩ := programmed_of_setsNothing hops
  exact ⟨s, _, _, _, hperformed, hset.mainAnswer?_askSettings hsolitary,
    Programmed.levelIn_of_unset hlevel vars, Programmed.flushIn_of_unset_iff hflush vars⟩

/-- An affirmative word between blanks: the logger does not flush, and the configuration asks for
it. -/
theorem first_use_differs :
    ∃ s level shown, (start [(flushVariable, " 1 ")] none).performed? [.initLog] = some s ∧
      (s.performOnMain .logState).mainAnswer? = some (.logger level false shown) ∧
      (RuntimeConfig.ofVariables [(flushVariable, " 1 ")]).flushLogs = true := by
  obtain ⟨s, level, flush, shown, hperformed, hanswer, -, hflush⟩ :=
    first_use_agrees [(flushVariable, " 1 ")] [.init] (by decide)
  have hconfig : (RuntimeConfig.ofVariables [(flushVariable, " 1 ")]).flushLogs = true := by
    decide
  have hoff : flush = false := by
    rw [← Bool.not_eq_true, ← hconfig, hflush]
    intro hbare
    exact absurd (hbare " 1 " rfl (by decide)) (by decide)
  exact ⟨s, level, shown, hperformed, hoff ▸ hanswer, hconfig⟩

end Session

end AddonHost
