import AddonHost.Proofs.Transparency.Entries

/-!
Tasks, pumps and actions in both sessions.
-/

namespace AddonHost

variable {A : Addon} {past : List Event} {pairs : List Pair} {hosts : Assoc HostId Host}
  {s d : Session} {fs fs' : List Frame} {w f f' j j' : HandleId} {X : Expected}

namespace Twin

/-! ### Jobs -/

/-- The complete step of a job is called. -/
theorem completeJob (h : Twin A past pairs hosts none s d) (hp : .job j j' ∈ pairs) (job : AsyncJob)
    (env : Word) (status : Status) (hstack : StackAlike A pairs hosts .between .nothing fs fs') :
    Move.Alike A past fs fs' (s.completeJob j job env status) (d.completeJob j' job env status) := by
  have hcalled := h.emitSeen rfl rfl (.complete env status job.data hp)
  obtain ⟨actions, actions', s₁, d₁, hs, hd, hactions, h₁⟩ := hcalled.fire (.complete job.data)
  simp only [Session.completeJob, hs, hd]
  exact h₁.run (.script hactions) (.completed hp hstack)

/-- The execute step of a job has returned. -/
theorem afterExecute (h : Twin A past pairs hosts none s d) (hp : .job j j' ∈ pairs) (env : Word)
    (hstack : StackAlike A pairs hosts .between .nothing fs fs') :
    Move.Alike A past fs fs' (s.afterExecute j env) (d.afterExecute j' env) := by
  obtain ⟨job, hjob', hjob⟩ := (h.jobs hp).object
  unfold Session.afterExecute
  simp only [hjob, hjob']
  exact h.completeJob hp job env .ok hstack

/-- The task of a job runs. -/
theorem work (h : Twin A past pairs hosts none s d) (hp : .job j j' ∈ pairs) (env : Word)
    (hstack : StackAlike A pairs hosts .between .nothing fs fs') :
    Move.Alike A past fs fs' (s.work j env) (d.work j' env) := by
  obtain ⟨job, hjob', hjob⟩ := (h.jobs hp).object
  have hholds : (d.emit (.workStarted j')).holdsJob j' = (s.emit (.workStarted j)).holdsJob j := by
    simp [Session.holdsJob, Session.emit, h.kept, h.kept', (h.jobs hp).owns]
  have hstarted : Twin A past pairs hosts none (s.emit (.workStarted j)) (d.emit (.workStarted j')) :=
    h.emit rfl rfl
  unfold Session.work
  simp only [hjob, hjob', hholds]
  split
  · exact (hstarted.log ..).give (X := .nothing) trivial hstack
  cases job.state with
  | deleted => exact (hstarted.log ..).give (X := .nothing) trivial hstack
  | queued =>
    have hcalled := hstarted.emitSeen rfl rfl (.execute job.env job.data hp)
    obtain ⟨actions, actions', s₁, d₁, hs, hd, hactions, h₁⟩ := hcalled.fire (.execute job.data)
    simp only [hs, hd]
    exact h₁.run (.script hactions) (.executed hp env hstack)
  | created | completed | cancelled => exact hstarted.completeJob hp job env .cancelled hstack

/-! ### Invokers -/

/-- A task of an invoker runs. -/
theorem task (h : Twin A past pairs hosts none s d) (i : InvokerId) {task task' : Task}
    (htask : task.Alike pairs task') (hstack : StackAlike A pairs hosts .between .nothing fs fs') :
    Move.Alike A past fs fs' (s.task i task) (d.task i task') := by
  cases htask with
  | drain hp => exact h.drain hp hstack
  | teardown hp => exact h.run (.teardown hp) hstack
  | work env hp => exact h.work hp env hstack

/-- An invoker is let go, and its queue is dropped with the last one who keeps it. -/
theorem letGo (h : Twin A past pairs hosts none s d) (i : InvokerId) {r : Reply}
    (hr : r.Alike [] X r) (hstack : StackAlike A pairs hosts .between X fs fs') :
    Move.Alike A past fs fs' (s.letGo .main i r) (d.letGo .main i r) := by
  have hr' : r.Alike pairs X r := hr.mono (List.nil_subset _)
  have hreleased : Twin A past pairs hosts none
      (s.modifyInvoker i fun inv => { inv with holders := inv.holders - 1 })
      (d.modifyInvoker i fun inv => { inv with holders := inv.holders - 1 }) := by
    refine h.modifyInvoker i ?_
    rintro _ _ ⟨holders, takes, offered, executed, tickets, hpending⟩
    exact ⟨_, takes, offered, executed, tickets, hpending⟩
  have hi := h.invokers i
  unfold Session.letGo
  generalize s.invokers.get? i = left, d.invokers.get? i = right at hi
  cases hi with
  | none => exact h.give hr' hstack
  | some hinv =>
    obtain ⟨holders, takes, offered, executed, tickets, hpending⟩ := hinv
    simp only
    split
    · exact hreleased.give hr' hstack
    · exact (hreleased.discardQueue ⟨holders, takes, offered, executed, tickets, hpending⟩).give hr'
        hstack

/-- Queued tasks are run, one after the other. -/
theorem pump (h : Twin A past pairs hosts none s d) (i : InvokerId) (goal : PumpGoal) {name : String}
    {asked : PumpGoal} (hstack : StackAlike A pairs hosts .between (.answer (.pump name asked)) fs fs') :
    Move.Alike A past fs fs' (s.pump i goal) (d.pump i goal) := by
  have hi := h.invokers i
  unfold Session.pump
  generalize s.invokers.get? i = left, d.invokers.get? i = right at hi
  cases hi with
  | none => exact h.give (X := .answer (.pump name asked)) rfl hstack
  | some hinv =>
    unfold Session.runNext
    rcases h.startTask hinv (i := i) with
      ⟨hs, hd⟩ | ⟨sub, sub', s₁, d₁, hs, hd, hsub, -, h₁⟩ <;> simp only [hs, hd, Option.map]
    · have hletGo : ∀ answer : Answer, Move.Alike A past fs fs' (s.run (.letGo i (.answer answer)))
          (d.run (.letGo i (.answer answer))) := fun answer =>
        h.run (.letGo i (X := .answer (.pump name asked)) rfl) hstack
      obtain ⟨holders, takes, offered, executed, tickets, -⟩ := hinv
      cases goal with
      | one | drained n | executed n => exact hletGo _
      | polls n =>
        simp only
        split
        · exact hletGo _
        · exact h.run (.pump i _ name asked) hstack
    · have htask := hsub
      obtain ⟨ticket, htask⟩ := htask
      exact h₁.run (.task i htask) (.taskEnded i hsub (.pumped i goal hstack))

/-- A pumped task has returned. -/
theorem afterPumped (h : Twin A past pairs hosts none s d) (i : InvokerId) (goal : PumpGoal)
    {name : String} {asked : PumpGoal}
    (hstack : StackAlike A pairs hosts .between (.answer (.pump name asked)) fs fs') :
    Move.Alike A past fs fs' (s.afterPumped i goal) (d.afterPumped i goal) := by
  have hcounted := h.countExecuted i
  cases goal with
  | one => exact hcounted.run (.letGo i (X := .answer (.pump name asked)) rfl) hstack
  | drained n | executed n | polls n => exact hcounted.run (.pump i _ name asked) hstack

/-! ### Actions -/

/-- What is found under the name of an invoker is the same. -/
theorem findInvoker (h : Twin A past pairs hosts none s d) (name : String) :
    s.findInvoker? name = none ∧ d.findInvoker? name = none ∨
      ∃ i inv inv', s.findInvoker? name = some (i, inv) ∧ d.findInvoker? name = some (i, inv') ∧
        inv.Alike pairs inv' := by
  unfold Session.findInvoker?
  rw [h.named]
  cases hi : s.names.invokers.get? name with
  | none => exact .inl ⟨rfl, rfl⟩
  | some i =>
    have hrel := h.invokers i
    simp only [Option.bind_eq_bind, Option.bind_some]
    generalize s.invokers.get? i = left, d.invokers.get? i = right at hrel
    cases hrel with
    | none => exact .inl ⟨rfl, rfl⟩
    | some hinv => exact .inr ⟨i, _, _, rfl, rfl, hinv⟩

/-- Both threads give an action the same answer. -/
theorem answer (h : Twin A past pairs hosts none s d) {a : Action}
    (ha : ∀ r, Addon.AlikeAnswers pairs a r r) (r : Answer)
    (hstack : StackAlike A pairs hosts .between (.answer a) fs fs') :
    Move.Alike A past fs fs' (s.reply r) (d.reply r) :=
  h.give (X := .answer a) (ha r) hstack

/-- A value that is no handle is the same in both sessions. -/
theorem value_eq {ending : Option HandleId} (h : Twin A past pairs hosts ending s d) {r : Ref}
    (hr : A.IsData r) : d.value r = s.value r := by
  cases r with
  | word w | written text w => rfl
  | named name =>
    have hvalues := h.values name
    rw [show A.kind name = .data from hr] at hvalues
    exact hvalues.symm

/-- An invoker is bound to an env. -/
theorem bind (h : Twin A past pairs hosts none s d) {env : Ref} (henv : A.IsData env)
    (invoker : String) {a : Action} (ha : ∀ r, Addon.AlikeAnswers pairs a r r)
    (hstack : StackAlike A pairs hosts .between (.answer a) fs fs') :
    Move.Alike A past fs fs' (s.bind env invoker) (d.bind env invoker) := by
  unfold Session.bind Session.withInvoker
  rcases h.findInvoker invoker with ⟨hs, hd⟩ | ⟨i, inv, inv', hs, hd, -⟩ <;> rw [hs, hd]
  · exact h.answer ha _ hstack
  · simp only [h.value_eq henv, h.bindings]
    exact ((h.withBindings _).log ..).answer ha _ hstack

/-- The binding of an env is removed. -/
theorem unbind (h : Twin A past pairs hosts none s d) {env : Ref} (henv : A.IsData env) {a : Action}
    (ha : ∀ r, Addon.AlikeAnswers pairs a r r)
    (hstack : StackAlike A pairs hosts .between (.answer a) fs fs') :
    Move.Alike A past fs fs' (s.unbind env) (d.unbind env) := by
  unfold Session.unbind
  simp only [h.value_eq henv, h.bindings]
  exact (h.withBindings _).answer ha _ hstack

/-- An invoker is pumped. -/
theorem pumpNamed (h : Twin A past pairs hosts none s d) (name : String) (goal : PumpGoal)
    (hstack : StackAlike A pairs hosts .between (.answer (.pump name goal)) fs fs') :
    Move.Alike A past fs fs' (s.pumpNamed name goal) (d.pumpNamed name goal) := by
  have hinside : s.producersInside = false ∧ d.producersInside = false := by
    simp [Session.producersInside, h.producers, h.producers']
  unfold Session.pumpNamed Session.withInvoker
  rcases h.findInvoker name with ⟨hs, hd⟩ | ⟨i, inv, inv', hs, hd, hinv⟩ <;> rw [hs, hd]
  · exact h.answer (fun _ => by rfl) _ hstack
  · obtain ⟨holders, takes, offered, executed, tickets, -⟩ := hinv
    simp only [hinside, Bool.and_false, Bool.false_eq_true, if_false]
    exact (h.keepInvoker i).run (.pump i goal name goal) hstack

/-- A callback is set up. -/
theorem addScript (h : Twin A past pairs hosts none s d) {target : ScriptTarget}
    (htarget : A.IsTarget target) {actions actions' : List Action}
    (hactions : List.Forall₂ A.Counterpart actions actions')
    (hstack : StackAlike A pairs hosts .between (.answer (.script target actions)) fs fs') :
    Move.Alike A past fs fs' (s.addScript target actions) (d.addScript target actions') := by
  have hadded : ∀ key : ScriptKey, (∀ slot e, key ≠ .engine slot e) →
      Twin A past pairs hosts none
        { s with scripts := s.scripts.insert key ((s.scripts.get? key).getD [] ++ [actions]) }
        { d with scripts := d.scripts.insert key ((d.scripts.get? key).getD [] ++ [actions']) } :=
    fun key hkey => h.insertScripts hkey (List.rel_append (h.scripts key) (.cons hactions .nil))
  unfold Session.addScript
  cases target with
  | engine slot e => cases htarget
  | callJs data | finalize data | execute data | complete data =>
    simp only [h.value_eq htarget]
    exact (hadded _ (by simp)).answer (fun _ => by rfl) _ hstack

end Twin

end AddonHost
