import AddonHost.Proofs.Interchange.Acting
import AddonHost.Proofs.Interchange.Draining

/-!
An operation of the main thread.

The main threads of two sessions begin the same operation while nothing is queued.  They take the
same steps (`Session.Together`), and neither session can go on in another way, until the operation
delivers an item at once: then the one main thread runs the dispatch task and the other waits for
the interpreter thread, which does the same (`Operating.inside`).  So the operation comes to the
same in both (`Session.Operated`): to a reply, or to where the item is delivered.  From there on
either thread of the two may go first.
-/

namespace AddonHost

namespace Session

open Relation

variable {i : InvokerId} {name : String} {kept kept' k k' : ℕ} {control : Control}
  {inner tail below stack : List Frame} {r : Reply} {sub : Submission} {th : Thread}
  {s d : Session} {m m' : Move} {c : ℕ} {code : Code} {work : List (Task × Option ℕ)}
  {f : HandleId} {fn : ThreadsafeFunction} {data : Word}

/-- Two main threads do the same, one of them alone and one beside an idle interpreter thread. -/
structure Together (i : InvokerId) (name : String) (th : Thread) (s d : Session) : Prop where
  abreast : Abreast i name .main (.interpreter i) 0 0 s d
  alone : s.Alone th
  paired : d.Paired i th { control := .run (.loop i) }
  made : d.SignalsMade

/-- Where an operation of two main threads comes to: the process is aborted, both wait for space for
ever, both have given the same reply, or the item is delivered that they were to deliver at once. -/
inductive Operated (i : InvokerId) (name : String) : Session → Session → Prop where
  | halted {s d : Session} (honstage : s.onstage = d.onstage) (hs : s.halted = true) :
    Operated i name s d
  | waiting {s d : Session} {code : Code} {stack : List Frame}
    (htogether : Together i name { control := .run code, stack } s d) (hs : ∀ u, ¬ s.Goes u)
    (hd : ∀ u, ¬ d.Goes u) : Operated i name s d
  | replied {s d : Session} {r : Reply} (htogether : Together i name { control := .give r } s d) :
    Operated i name s d
  | delivered {s d : Session} {tail : List Frame} {c : ℕ} (htail : Tail tail)
    (habreast : Abreast i name .main (.interpreter i) 1 1 s d)
    (hs : s.Alone { control := .give .unit, stack := .called i :: tail })
    (hd : d.Paired i { control := .run (.awaitTask i c), stack := .called i :: tail }
      { control := .run (.loop i) })
    (hc : c ∈ d.signalled) (hmade : d.SignalsMade) : Operated i name s d

/-- Where an operation that two main threads have begun may have come to. -/
inductive Operating (i : InvokerId) (name : String) : Session → Session → Prop where
  /-- Nothing was submitted. -/
  | acting {s d : Session} {th : Thread} (hacting : Acting th)
    (htogether : Together i name th s d) (hempty : s.Employs i .main [] 0)
    (hempty' : d.Employs i (.interpreter i) [] 0) : Operating i name s d
  /-- A dispatch task runs at once in one session, and is awaited in the other. -/
  | inside {s d : Session} {control : Control} {inner tail : List Frame} {c : ℕ} {sub : Submission}
    (htail : Tail tail) (hinner : Inner i name .main (.interpreter i) 1 1 control inner s d)
    (hs : s.Alone { control, stack := inner ++ .ranInline i :: .called i :: tail })
    (hd : d.Paired i { control := .run (.awaitTask i c), stack := .called i :: tail }
      { control, stack := inner ++ [.taskEnded i sub, .looped i] })
    (hsub : sub.completion = some c) (hc : c ∉ d.signalled) (hlt : c < d.completions)
    (hmade : d.SignalsMade) : Operating i name s d
  /-- Nothing more will be submitted. -/
  | handing {s d : Session} {r : Reply} {stack : List Frame}
    (hstack : stack.all Frame.isCreating = true)
    (htogether : Together i name { control := .give r, stack } s d) : Operating i name s d
  | operated {s d : Session} (h : Operated i name s d) : Operating i name s d

theorem Operated.onstage (h : Operated i name s d) : s.onstage = d.onstage := by
  cases h with
  | halted honstage => exact honstage
  | waiting htogether | replied htogether => exact htogether.abreast.onstage
  | delivered _ habreast => exact habreast.onstage

theorem Operating.onstage (h : Operating i name s d) : s.onstage = d.onstage := by
  cases h with
  | acting _ htogether | handing _ htogether => exact htogether.abreast.onstage
  | inside _ hinner => exact hinner.abreast.onstage
  | operated h => exact h.onstage

theorem Together.onstage (h : Together i name th s d) : s.onstage = d.onstage :=
  h.abreast.onstage

/-- The two main threads move on together. -/
theorem Together.apply (h : Together i name th s d) (m m' : Move)
    (hadvance : Advance i name .main (.interpreter i) 0 0 s d m.session m'.session)
    (hcontrol : m.control = m'.control) (hframes : m.frames = m'.frames) (below : List Frame) :
    Together i name { control := m.control, stack := m.frames ++ below }
      (Session.apply m .main below) (Session.apply m' .main below) := by
  refine ⟨hadvance.abreast.apply .main .main below below,
    h.alone.apply (congrArg Desk.threads hadvance.desk) below, ?_,
    h.made.apply hadvance.desk' .main below⟩
  rw [hcontrol, hframes]
  exact h.paired.apply_main (congrArg Desk.threads hadvance.desk')
    (congrArg Desk.invokers hadvance.desk') below

/-- The two main threads run a piece of code, and nothing is queued. -/
theorem Together.run (h : Together i name { control := .run code, stack := below } s d)
    (hempty' : d.Employs i (.interpreter i) [] 0) (hrunning : s.halted = false)
    (hm : code.step .main s = some m) (hm' : code.step .main d = some m') :
    s.Only (Session.apply m .main below) ∧ d.Only (Session.apply m' .main below) :=
  ⟨h.alone.run hrunning hm, h.paired.run_main (halted_eq h.onstage ▸ hrunning) rfl
    (h.paired.step_loop hempty') hm'⟩

/-! ### Replying -/

/-- The two main threads hand a reply on. -/
theorem Together.hand (h : Together i name { control := .give r, stack } s d)
    (hstack : stack.all Frame.isCreating = true) (hrunning : s.halted = false) :
    Operated i name s d ∨
      ∃ s' d', TransGen Only s s' ∧ TransGen Only d d' ∧ Operating i name s' d' := by
  cases stack with
  | nil => exact .inl (.replied h)
  | cons fr below =>
    obtain ⟨hfr, hbelow⟩ := Bool.and_eq_true_iff.1 hstack
    obtain ⟨hlight, haside⟩ := Frame.isLight_of_isCreating hfr
    have hagrees : (fr.resume .main s r).Agrees i name true (fr.resume .main d r) :=
      agrees_resume h.onstage h.abreast.order .main .main hlight haside r
    have hadvance := h.abreast.agrees hagrees (aside_resume .main haside r)
      (aside_resume .main haside r)
    have hgo := h.alone.give hrunning
    have hgo' := h.paired.give_main (halted_eq h.onstage ▸ hrunning) rfl
    obtain ⟨s', r₁, hs'⟩ := resume_eq_give (s := s) (t := .main) hfr r
    obtain ⟨d', r₂, hd'⟩ := resume_eq_give (s := d) (t := .main) hfr r
    rw [hs', hd'] at hagrees hadvance
    rw [hs'] at hgo
    rw [hd'] at hgo'
    exact .inr ⟨_, _, .single hgo, .single hgo', .handing hbelow
      (h.apply (s'.give r₁) (d'.give r₂) hadvance hagrees.control hagrees.frames below)⟩

/-- What the two main threads do comes to a reply that is handed on. -/
theorem Together.given {s' d' : Session}
    (h : Together i name { control := .run code, stack } s d)
    (hempty' : d.Employs i (.interpreter i) [] 0) (hrunning : s.halted = false)
    (hm : code.step .main s = some (s'.give r)) (hm' : code.step .main d = some (d'.give r))
    (hadvance : Advance i name .main (.interpreter i) 0 0 s d s' d')
    (hstack : stack.all Frame.isCreating = true) :
    ∃ s' d', TransGen Only s s' ∧ TransGen Only d d' ∧ Operating i name s' d' := by
  obtain ⟨hgo, hgo'⟩ := h.run hempty' hrunning hm hm'
  have hmove := advance_give hadvance r
  exact ⟨_, _, .single hgo, .single hgo', .handing hstack
    (h.apply _ _ hmove.advance hmove.control hmove.frames stack)⟩

/-! ### Delivering at once -/

/-- The main thread waits for a task that is not over. -/
theorem Paired.step_eq_none (h : d.Paired i { control := .run (.awaitTask i c), stack } th)
    (hwork : d.Employs i (.interpreter i) work kept) (hc : c ∉ d.signalled) :
    d.step .main = none := by
  unfold Session.step
  simp [h.main, Code.step, hwork.awaitTask_eq_none hc]

/-- An item is appended by the main thread, and the interpreter thread takes its dispatch task:
nothing else is queued. -/
theorem Paired.append
    (h : d.Paired i { control := .run code, stack := tail } { control := .run (.loop i) })
    (hempty : d.Employs i (.interpreter i) [] 0) (hmade : d.SignalsMade)
    (hrunning : d.halted = false) (hover : fn.invoker = some i) (hsync : fn.delivery = .sync)
    (hm : code.step .main d = some (d.appendItem .main f fn data)) :
    ∃ d' c sub, TransGen Only d d' ∧
      d'.Paired i { control := .run (.awaitTask i c), stack := .called i :: tail }
        { control := .run (.task i (.drain f)), stack := [.taskEnded i sub, .looped i] } ∧
      sub.completion = some c ∧ c ∉ d'.signalled ∧ c < d'.completions ∧ d'.SignalsMade ∧
      d'.onstage = (d.pushed f data).onstage ∧ d'.Employs i (.interpreter i) [] 1 := by
  obtain ⟨d₁, hd₁, honstage, hdesk, hwork⟩ := hempty.appendItem_main hover hsync f data
  have hc : d.completions ∉ d.signalled := fun hc => lt_irrefl _ (hmade _ hc)
  rw [hd₁] at hm
  have hpaired := h.apply_main (m := d₁.run (.awaitTask i d.completions) [.called i])
    (congrArg Desk.threads hdesk) (congrArg Desk.invokers hdesk) tail
  have hgo := h.run_main hrunning rfl (h.step_loop hempty) hm
  generalize hd₂ : apply (d₁.run (.awaitTask i d.completions) [.called i]) .main tail = d₂
    at hgo hpaired
  have hwork₂ : d₂.Employs i (.interpreter i) [(.drain f, some d.completions)] 1 :=
    hwork.of_invokers (congrArg invokers hd₂).symm
  have hsignalled₂ : d₂.signalled = d.signalled :=
    (congrArg signalled hd₂).symm.trans (congrArg Desk.signalled hdesk)
  have hcompletions₂ : d₂.completions = d.completions + 1 :=
    (congrArg completions hd₂).symm.trans (congrArg Desk.completions hdesk)
  have honstage₂ : d₂.onstage = (d.pushed f data).onstage :=
    (congrArg Session.onstage hd₂).symm.trans honstage
  have hrunning₂ : d₂.halted = false := (halted_eq honstage₂).trans hrunning
  obtain ⟨sub, d₃, hloop, hsub, hbehind, hwork₃⟩ := hwork₂.loop
  have hwait : d₂.step .main = none := hpaired.step_eq_none hwork₂ (hsignalled₂ ▸ hc)
  have hsignalled₃ : d₃.signalled = d.signalled :=
    (congrArg Desk.signalled hbehind.desk).trans hsignalled₂
  have hcompletions₃ : d₃.completions = d.completions + 1 :=
    (congrArg Desk.completions hbehind.desk).trans hcompletions₂
  refine ⟨_, d.completions, sub, .tail (.single hgo)
    (hpaired.run_interpreter hrunning₂ rfl hwait hloop), hpaired.apply_interpreter
      (m := d₃.run (.task i (.drain f)) [.taskEnded i sub, .looped i])
      (congrArg Desk.threads hbehind.desk) (congrArg Desk.invokers hbehind.desk) [], hsub,
    ?_, ?_, ?_, hbehind.onstage.trans honstage₂, hwork₃.of_invokers rfl⟩
  · show d.completions ∉ d₃.signalled
    rwa [hsignalled₃]
  · show d.completions < d₃.completions
    rw [hcompletions₃]
    exact Nat.lt_succ_self _
  · show ∀ c ∈ d₃.signalled, c < d₃.completions
    rw [hsignalled₃, hcompletions₃]
    exact fun c hc => (hmade c hc).trans (Nat.lt_succ_self _)

/-- An item is appended on the two main threads. -/
theorem Together.append (h : Together i name { control := .run code, stack := tail } s d)
    (data : Word)
    (htail : Tail tail) (hempty : s.Employs i .main [] 0)
    (hempty' : d.Employs i (.interpreter i) [] 0) (hrunning : s.halted = false)
    (hover : s.IsServedBy i) (hf : s.functions.object? f = some fn)
    (hm : code.step .main s = some (s.appendItem .main f fn data))
    (hm' : code.step .main d = some (d.appendItem .main f fn data)) :
    ∃ s' d', TransGen Only s s' ∧ TransGen Only d d' ∧ Operating i name s' d' := by
  by_cases hsync : fn.delivery = .sync
  · have hpushed := h.abreast.pushed f data
    obtain ⟨s', hs', hbehind, hwork⟩ := hempty.appendItem_own (hover f fn hf) hsync f data
    obtain ⟨d', c, sub, hgo', hpaired, hsub, hc, hlt, hmade, honstage, hwork'⟩ :=
      h.paired.append hempty' h.made (halted_eq h.onstage ▸ hrunning) (hover f fn hf) hsync hm'
    rw [hs'] at hm
    have hthreads : s'.threads = s.threads :=
      (congrArg Desk.threads hbehind.desk).trans (congrArg Desk.threads hpushed.desk)
    have halone := h.alone.apply (m := s'.run (.task i (.drain f)) [.ranInline i, .called i])
      hthreads tail
    have hinner : Inner i name .main (.interpreter i) 1 1 (.run (.task i (.drain f))) []
        (Session.apply (s'.run (.task i (.drain f)) [.ranInline i, .called i]) .main tail) d' := by
      refine ⟨⟨?_, ?_, [], by simp, hwork.of_invokers rfl, hwork'⟩, rfl, rfl⟩
      · exact hbehind.onstage.trans (hpushed.abreast.onstage.trans honstage.symm)
      · exact (inOrder_iff hbehind.onstage).2 hpushed.abreast.order
    exact ⟨_, d', .single (h.alone.run hrunning hm), hgo',
      .inside htail hinner halone hpaired hsub hc hlt hmade⟩
  · obtain ⟨s', d', hs', hd', hadvance⟩ :=
      h.abreast.appendItem hover hf hsync .main .main data
    exact h.given hempty' hrunning (hm.trans (congrArg some hs')) (hm'.trans (congrArg some hd'))
      hadvance htail.all_isCreating

/-- The main thread has run the dispatch task. -/
theorem Alone.delivered (h : s.Alone { control := .give r, stack := .ranInline i :: below })
    (hrunning : s.halted = false) (hwork : s.Employs i .main work kept) :
    ∃ s', s.Only s' ∧ s'.Alone { control := .give .unit, stack := below } ∧
      s'.onstage = s.onstage ∧ s'.Employs i .main work kept := by
  have hbehind : Behind s ((s.countExecuted i).emit (.ranInline i)) :=
    (behind_modifyInvoker s i _).trans (behind_emit rfl)
  exact ⟨_, h.give hrunning, h.apply (congrArg Desk.threads hbehind.desk) below, hbehind.onstage,
    hwork.countExecuted.of_invokers rfl⟩

/-- The interpreter thread has run the dispatch task. -/
theorem Paired.delivered
    (h : d.Paired i { control := .run (.awaitTask i c), stack := below }
      { control := .give r, stack := [.taskEnded i sub, .looped i] })
    (hrunning : d.halted = false) (hwork : d.Employs i (.interpreter i) work kept)
    (hsub : sub.completion = some c) (hlt : c < d.completions) (hmade : d.SignalsMade) :
    ∃ d', TransGen Only d d' ∧
      d'.Paired i { control := .run (.awaitTask i c), stack := below }
        { control := .run (.loop i) } ∧
      d'.onstage = d.onstage ∧ d'.Employs i (.interpreter i) work kept ∧ c ∈ d'.signalled ∧
      d'.SignalsMade := by
  obtain ⟨d₁, hd₁, hpaired, honstage, hinvokers, hcompletions, hsignalled⟩ := h.taskEnded hrunning
  rw [hsub] at hsignalled
  have hmade₁ : d₁.SignalsMade := by
    rw [SignalsMade, hsignalled, hcompletions]
    exact List.forall_mem_cons.2 ⟨hlt, hmade⟩
  have hgo := only_of_isBusy h.mem_precedence h.isBusy_interpreter
    (h.othersAtRest_interpreter.2 rfl) hd₁
  obtain ⟨d₂, hd₂, hpaired₂, honstage₂, hsignalled₂, hcompletions₂, hwork₂⟩ :=
    hpaired.looped rfl ((halted_eq honstage).trans hrunning) (hwork.of_invokers hinvokers)
  refine ⟨d₂, .tail (.single hgo) hd₂, hpaired₂, honstage₂.trans honstage, hwork₂, ?_,
    hmade₁.of_eq hcompletions₂ hsignalled₂⟩
  rw [hsignalled₂, hsignalled]
  exact List.mem_cons_self

/-- The dispatch task that delivers an item at once goes on or is over in both. -/
theorem Inner.deliver (hinner : Inner i name .main (.interpreter i) 1 1 control inner s d)
    (htail : Tail tail)
    (hs : s.Alone { control, stack := inner ++ .ranInline i :: .called i :: tail })
    (hd : d.Paired i { control := .run (.awaitTask i c), stack := .called i :: tail }
      { control, stack := inner ++ [.taskEnded i sub, .looped i] })
    (hsub : sub.completion = some c) (hc : c ∉ d.signalled) (hlt : c < d.completions)
    (hmade : d.SignalsMade) (hover : s.IsServedBy i) (hrunning : s.halted = false) :
    ∃ s' d', TransGen Only s s' ∧ TransGen Only d d' ∧ Operating i name s' d' := by
  have hrunning' : d.halted = false := halted_eq hinner.abreast.onstage ▸ hrunning
  obtain ⟨tasks, htasks, hwork, hwork'⟩ := hinner.abreast.work
  rcases hinner.step hover hrunning hs.main hd.interpreter with
    ⟨r', rfl, rfl⟩ | ⟨m, m', rest, hm, hm', hcontrol, hframes, hdesk, hdesk', hnext⟩
  · obtain ⟨s₁, hs₁, halone, honstage, hwork₁⟩ := hs.delivered hrunning hwork
    obtain ⟨d₁, hd₁, hpaired, honstage', hwork₁', hmem, hmade₁⟩ :=
      hd.delivered hrunning' hwork' hsub hlt hmade
    have hsame : s₁.onstage = d₁.onstage :=
      honstage.trans (hinner.abreast.onstage.trans honstage'.symm)
    exact ⟨s₁, d₁, .single hs₁, hd₁, .operated (.delivered htail ⟨hsame,
      (inOrder_iff honstage).2 hinner.abreast.order, tasks, htasks, hwork₁, hwork₁'⟩ halone hpaired
      hmem hmade₁)⟩
  · have halone := hs.apply (congrArg Desk.threads hdesk)
      (rest ++ .ranInline i :: .called i :: tail)
    have hpaired := hd.apply_interpreter (congrArg Desk.threads hdesk')
      (congrArg Desk.invokers hdesk') (rest ++ [.taskEnded i sub, .looped i])
    rw [← List.append_assoc] at halone hpaired
    rw [← hcontrol, ← hframes] at hpaired
    have hgo := hd.only_interpreter rfl (hd.step_eq_none hwork' hc) hm'
    refine ⟨_, _, .single (hs.only hm), .single hgo,
      .inside htail hnext halone hpaired hsub ?_ ?_ (hmade.apply hdesk' _ _)⟩
    · show c ∉ m'.session.signalled
      rwa [show m'.session.signalled = d.signalled from congrArg Desk.signalled hdesk']
    · show c < m'.session.completions
      rwa [show m'.session.completions = d.completions from congrArg Desk.completions hdesk']

/-! ### Operations that submit -/

section Submitting

variable (htail : Tail tail) (hempty : s.Employs i .main [] 0)
  (hempty' : d.Employs i (.interpreter i) [] 0) (hrunning : s.halted = false)

include htail hempty hempty' hrunning

/-- The two main threads wait for space. -/
theorem Together.sleep (h : Together i name { control := .run code, stack := tail } s d)
    (f : HandleId) (data : Word)
    (hm : code.step .main s = some ((s.modifyFunction f (·.sleep .main)).run (.awaitSpace f data)))
    (hm' : code.step .main d
      = some ((d.modifyFunction f (·.sleep .main)).run (.awaitSpace f data))) :
    ∃ s' d', TransGen Only s s' ∧ TransGen Only d d' ∧ Operating i name s' d' := by
  have hadvance : Advance i name .main (.interpreter i) 0 0 s d
      (s.modifyFunction f (·.sleep .main)) (d.modifyFunction f (·.sleep .main)) :=
    h.abreast.advance rfl rfl (by simp [h.onstage]) (by simpa using h.abreast.order)
  have hnext : Together i name { control := .run (.awaitSpace f data), stack := tail } _ _ :=
    h.apply ((s.modifyFunction f (·.sleep .main)).run (.awaitSpace f data))
      ((d.modifyFunction f (·.sleep .main)).run (.awaitSpace f data)) hadvance rfl rfl tail
  obtain ⟨hgo, hgo'⟩ := h.run hempty' hrunning hm hm'
  exact ⟨_, _, .single hgo, .single hgo', .acting (.awaitSpace htail) hnext
    (hempty.of_invokers rfl) (hempty'.of_invokers rfl)⟩

variable (hover : s.IsServedBy i)

include hover

/-- The two main threads call a function. -/
theorem Together.call {mode : CallMode}
    (h : Together i name { control := .run (.call f data mode), stack := tail } s d) :
    ∃ s' d', TransGen Only s s' ∧ TransGen Only d d' ∧ Operating i name s' d' := by
  have hfunctions := functions_eq h.onstage
  cases hf : s.functions.object? f with
  | none =>
    have hf' := hfunctions ▸ hf
    exact h.given (r := .outcome (.error .invalidArg)) hempty' hrunning
      (by simp [Code.step, Session.call, hf])
      (by simp [Code.step, Session.call, hf']) h.abreast.refl htail.all_isCreating
  | some fn =>
    have hf' := hfunctions ▸ hf
    cases hadmission : fn.admission mode with
    | refuse e =>
      exact h.given (r := .outcome (.error e)) hempty' hrunning
        (by simp [Code.step, Session.call, hf, hadmission])
        (by simp [Code.step, Session.call, hf', hadmission]) h.abreast.refl htail.all_isCreating
    | wait =>
      exact h.sleep htail hempty hempty' hrunning f data
        (by simp [Code.step, Session.call, hf, hadmission])
        (by simp [Code.step, Session.call, hf', hadmission])
    | append =>
      exact h.append data htail hempty hempty' hrunning hover hf
        (by simp [Code.step, Session.call, hf, hadmission])
        (by simp [Code.step, Session.call, hf', hadmission])

/-- The two main threads wait for space in a queue. -/
theorem Together.awaitSpace
    (h : Together i name { control := .run (.awaitSpace f data), stack := tail } s d) :
    Operated i name s d ∨
      ∃ s' d', TransGen Only s s' ∧ TransGen Only d d' ∧ Operating i name s' d' := by
  have hfunctions := functions_eq h.onstage
  cases hf : s.functions.object? f with
  | none =>
    have hf' := hfunctions ▸ hf
    exact .inr (h.given (r := .outcome (.error .invalidArg)) hempty' hrunning
      (by simp [Code.step, Session.awaitSpace, hf]) (by simp [Code.step, Session.awaitSpace, hf'])
      h.abreast.refl htail.all_isCreating)
  | some fn =>
    have hf' := hfunctions ▸ hf
    by_cases hasleep : .main ∈ fn.sleepers
    · -- Nothing wakes the main thread: no task is queued.
      have hstep : s.step .main = none := by
        rw [step_eq_map hrunning h.alone.main]
        simp [Code.step, Session.awaitSpace, hf, hasleep]
      have hstep' : d.step .main = none := by
        rw [step_eq_map (halted_eq h.onstage ▸ hrunning) h.paired.main]
        simp [Code.step, Session.awaitSpace, hf', hasleep]
      exact .inl (.waiting h (h.alone.rests_of_step hstep)
        (h.paired.rests hstep' (h.paired.step_loop hempty')))
    by_cases hclosing : fn.closing = true
    · exact .inr (h.given (r := .outcome (.error .closing)) hempty' hrunning
        (by simp [Code.step, Session.awaitSpace, hf, hasleep, hclosing])
        (by simp [Code.step, Session.awaitSpace, hf', hasleep, hclosing])
        h.abreast.refl htail.all_isCreating)
    by_cases hfull : fn.isFull = true
    · exact .inr (h.sleep htail hempty hempty' hrunning f data
        (by simp [Code.step, Session.awaitSpace, hf, hasleep, hclosing, hfull])
        (by simp [Code.step, Session.awaitSpace, hf', hasleep, hclosing, hfull]))
    · exact .inr (h.append data htail hempty hempty' hrunning hover hf
        (by simp [Code.step, Session.awaitSpace, hf, hasleep, hclosing, hfull])
        (by simp [Code.step, Session.awaitSpace, hf', hasleep, hclosing, hfull]))

end Submitting

/-- The two main threads go on with what neither calls a function nor waits. -/
theorem Together.act (h : Together i name { control := .run code, stack } s d)
    (hacting : Acting { control := .run code, stack }) (hempty : s.Employs i .main [] 0)
    (hempty' : d.Employs i (.interpreter i) [] 0) (hrunning : s.halted = false)
    (hover : s.IsServedBy i) (hcall : ∀ f data mode, code ≠ .call f data mode)
    (hwait : ∀ f data, code ≠ .awaitSpace f data) :
    ∃ s' d', TransGen Only s s' ∧ TransGen Only d d' ∧ Operating i name s' d' := by
  cases hsubmits : code.submits with
  | true =>
    obtain ⟨s', d', r, hs', hd', hadvance⟩ := h.abreast.submit hover .main .main hsubmits
    exact h.given hempty' hrunning hs' hd' hadvance hacting.all_isCreating
  | false =>
    obtain ⟨m, m', hm, hm', hagrees, hs, hd⟩ := h.abreast.exists_agrees
      (isLight_of_acting hacting hwait) hcall hsubmits .main .main
    obtain ⟨hgo, hgo'⟩ := h.run hempty' hrunning hm hm'
    have hnext := acting_step h.abreast.order.enginesSilent hacting hcall hwait hsubmits hm
    exact ⟨_, _, .single hgo, .single hgo', .acting hnext
      (h.apply m m' (h.abreast.agrees hagrees hs hd) hagrees.control hagrees.frames stack)
      (hempty.of_backstage hs.backstage |>.of_invokers rfl)
      (hempty'.of_backstage hd.backstage |>.of_invokers rfl)⟩

/-- The two main threads go on with something that submits nothing, or hand a reply on. -/
theorem Together.create (h : Together i name { control, stack } s d)
    (hcontrol : control.isCreating = true) (hstack : stack.all Frame.isCreating = true)
    (hempty : s.Employs i .main [] 0) (hempty' : d.Employs i (.interpreter i) [] 0)
    (hrunning : s.halted = false) (hover : s.IsServedBy i) :
    Operated i name s d ∨
      ∃ s' d', TransGen Only s s' ∧ TransGen Only d d' ∧ Operating i name s' d' := by
  cases control with
  | fail => simp [Control.isCreating] at hcontrol
  | give r => exact h.hand hstack hrunning
  | run code =>
    refine .inr (h.act (.creating hcontrol hstack) hempty hempty' hrunning hover ?_ ?_)
    · rintro f data mode rfl
      simp [Control.isCreating, Code.isCreating] at hcontrol
    · rintro f data rfl
      simp [Control.isCreating, Code.isCreating] at hcontrol

/-- An operation comes to its end in both sessions, or goes on in both. -/
theorem Operating.advance (h : Operating i name s d) (hover : s.IsServedBy i) :
    Operated i name s d ∨
      ∃ s' d', TransGen Only s s' ∧ TransGen Only d d' ∧ Operating i name s' d' := by
  by_cases hhalted : s.halted = true
  · exact .inl (.halted h.onstage hhalted)
  have hrunning : s.halted = false := Bool.eq_false_iff.2 hhalted
  cases h with
  | operated h => exact .inl h
  | handing hstack htogether => exact htogether.hand hstack hrunning
  | inside htail hinner hs hd hsub hc hlt hmade =>
    exact .inr (hinner.deliver htail hs hd hsub hc hlt hmade hover hrunning)
  | acting hacting htogether hempty hempty' =>
    cases hacting with
    | call htail => exact .inr (htogether.call htail hempty hempty' hrunning hover)
    | awaitSpace htail => exact htogether.awaitSpace htail hempty hempty' hrunning hover
    | creating hcontrol hstack =>
      exact htogether.create hcontrol hstack hempty hempty' hrunning hover
    | perform ha =>
      exact .inr (htogether.act (.perform ha) hempty hempty' hrunning hover (by simp) (by simp))
    | entry hout =>
      exact .inr (htogether.act (.entry hout) hempty hempty' hrunning hover (by simp) (by simp))
    | release htail =>
      exact .inr (htogether.act (.release htail) hempty hempty' hrunning hover (by simp) (by simp))

end Session

end AddonHost
