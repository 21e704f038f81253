import AddonHost.Proofs.Interchange.Stage
import AddonHost.Proofs.Invoker.View

/-!
An invoker at work.

`Session.Employs i own work kept` says that the invoker `i` takes every task, that the thread `own`
runs its tasks, what it has queued, and that more than `kept` keep it alive.  Here is what
submitting to it, running its tasks and letting go of it do; all of that happens behind the stage
(`Session.Behind`), and it is the same for a queue that the main thread pumps and for an interpreter
thread.  They differ in a synchronous task of the main thread, which runs at once on the one and is
awaited from the other.
-/

namespace AddonHost

/-- The tasks that an invoker has queued, each with what to signal when it is over. -/
def Invoker.work (inv : Invoker) : List (Task × Option ℕ) :=
  inv.queue.pending.map fun sub => (sub.task, sub.completion)

/-- An invoker takes every task, and the thread `own` runs them: it is a queue that the main thread
pumps, or an interpreter thread. -/
def Invoker.IsRunBy (inv : Invoker) (i : InvokerId) (own : ThreadId) : Prop :=
  match inv.core with
  | .manual m => own = .main ∧ m.owner = .main ∧ ∀ n, m.takes n = true
  | .thread r => own = .interpreter i ∧ r.shutdown = false ∧ r.isFinished = false

/-- The threads of a session, its completions, and how many invokers it has had. -/
structure Desk where
  threads : Assoc ThreadId Thread
  completions : ℕ
  signalled : List ℕ
  invokers : ℕ

namespace Session

/-- The invoker `i` takes every task, `own` runs them, it has this work queued, and more than `kept`
keep it alive. -/
def Employs (s : Session) (i : InvokerId) (own : ThreadId) (work : List (Task × Option ℕ))
    (kept : ℕ) : Prop :=
  ∃ inv, s.invokers.get? i = some inv ∧ inv.IsRunBy i own ∧ inv.work = work ∧ kept < inv.holders

/-- What is on the desk of a session. -/
def desk (s : Session) : Desk where
  threads := s.threads
  completions := s.completions
  signalled := s.signalled
  invokers := s.invokers.length

/-- What a change leaves alone that is made to an invoker only. -/
structure Behind (s s' : Session) : Prop where
  onstage : s'.onstage = s.onstage
  desk : s'.desk = s.desk

variable {s s' s'' d : Session} {i : InvokerId} {own t : ThreadId}
  {work work' : List (Task × Option ℕ)}
  {kept kept' : ℕ} {task : Task} {completion : Option ℕ}

theorem Behind.trans (h : Behind s s') (h' : Behind s' s'') : Behind s s'' :=
  ⟨h'.onstage.trans h.onstage, h'.desk.trans h.desk⟩

theorem behind_modifyInvoker (s : Session) (i : InvokerId) (g : Invoker → Invoker) :
    Behind s (s.modifyInvoker i g) := by
  refine ⟨?_, by simp [desk, modifyInvoker, Assoc.length_modify]⟩
  have hkeys : (s.invokers.modify i g).map (fun p => (p.1, (default : Invoker)))
      = s.invokers.map fun p => (p.1, default) := by
    induction s.invokers with
    | nil => rfl
    | cons p rest ih =>
      simp only [Assoc.modify]
      split <;> simp [ih]
  simp only [onstage, modifyInvoker, hkeys]

theorem behind_emit {e : Event} (he : e.isShown = false) : Behind s (s.emit e) :=
  ⟨by simp [onstage_emit, he], rfl⟩

theorem Behind.emit (h : Behind s s') (e : Event) : Behind (s.emit e) (s'.emit e) :=
  ⟨by rw [onstage_emit, onstage_emit, h.onstage], h.desk⟩

theorem desk_of_backstage (h : s'.backstage = s.backstage) : s'.desk = s.desk :=
  congrArg (fun b : Backstage => Desk.mk b.threads b.completions b.signalled b.invokers.length) h

theorem Employs.of_invokers (h : s.Employs i own work kept) (hs : s'.invokers = s.invokers) :
    s'.Employs i own work kept := by
  unfold Employs
  rw [hs]
  exact h

theorem Employs.of_backstage (h : s.Employs i own work kept) (hs : s'.backstage = s.backstage) :
    s'.Employs i own work kept := h.of_invokers (congrArg Backstage.invokers hs)

theorem Employs.mono (h : s.Employs i own work kept) (hkept : kept' ≤ kept) :
    s.Employs i own work kept' := by
  obtain ⟨inv, hi, hrun, hwork, hholders⟩ := h
  exact ⟨inv, hi, hrun, hwork, hkept.trans_lt hholders⟩

/-- A change of the invoker. -/
theorem Employs.modify (h : s.Employs i own work kept) {g : Invoker → Invoker}
    (hrun : ∀ inv : Invoker, inv.IsRunBy i own → (g inv).IsRunBy i own)
    (hwork : ∀ inv : Invoker, inv.work = work → (g inv).work = work')
    (hkept : ∀ inv : Invoker, kept < inv.holders → kept' < (g inv).holders) :
    (s.modifyInvoker i g).Employs i own work' kept' := by
  obtain ⟨inv, hi, hr, hw, hk⟩ := h
  refine ⟨g inv, ?_, hrun inv hr, hwork inv hw, hkept inv hk⟩
  simp [modifyInvoker, Assoc.get?_modify, hi]

theorem Employs.exists_live (h : s.Employs i own work kept) :
    ∃ inv, s.liveInvoker? (some i) = some (i, inv) := by
  obtain ⟨inv, hi, -, -, hk⟩ := h
  exact ⟨inv, by simp [liveInvoker?, hi, Nat.ne_of_gt (Nat.zero_lt_of_lt hk)]⟩

end Session

namespace Invoker

variable {inv : Invoker} {i : InvokerId} {own : ThreadId}

theorem IsRunBy.mapManual (h : inv.IsRunBy i own) {g : ManualInvoker → ManualInvoker}
    (howner : ∀ m, (g m).owner = m.owner) (htakes : ∀ m, (g m).takes = m.takes) :
    (inv.mapManual g).IsRunBy i own := by
  obtain ⟨holders, core⟩ := inv
  cases core with
  | manual m => exact ⟨h.1, (howner m).trans h.2.1, fun n => by rw [htakes]; exact h.2.2 n⟩
  | thread r => exact h

theorem IsRunBy.mapThread (h : inv.IsRunBy i own) {g : InterpreterThread → InterpreterThread}
    (hshutdown : ∀ r, (g r).shutdown = r.shutdown)
    (hfinished : ∀ r, (g r).isFinished = r.isFinished) : (inv.mapThread g).IsRunBy i own := by
  obtain ⟨holders, core⟩ := inv
  cases core with
  | manual m => exact h
  | thread r => exact ⟨h.1, (hshutdown r).trans h.2.1, (hfinished r).trans h.2.2⟩

theorem IsRunBy.withQueue (h : inv.IsRunBy i own) (q : TaskQueue) :
    (inv.withQueue q).IsRunBy i own := by
  obtain ⟨holders, core⟩ := inv
  cases core <;> exact h

theorem work_mapManual {g : ManualInvoker → ManualInvoker} (hg : ∀ m, (g m).queue = m.queue) :
    (inv.mapManual g).work = inv.work := by
  rw [work, queue_mapManual inv hg, work]

theorem work_mapThread {g : InterpreterThread → InterpreterThread}
    (hg : ∀ r, (g r).queue = r.queue) : (inv.mapThread g).work = inv.work := by
  rw [work, queue_mapThread inv hg, work]

theorem work_push (inv : Invoker) (task : Task) (completion : Option ℕ) :
    (inv.withQueue (inv.queue.push task completion)).work = inv.work ++ [(task, completion)] := by
  simp [work, TaskQueue.submission]

end Invoker

namespace Session

variable {s s' : Session} {i : InvokerId} {own t : ThreadId} {work : List (Task × Option ℕ)}
  {kept : ℕ} {task : Task} {completion : Option ℕ}

/-! ### Counters -/

theorem Employs.mapManual (h : s.Employs i own work kept) {g : ManualInvoker → ManualInvoker}
    (howner : ∀ m, (g m).owner = m.owner) (htakes : ∀ m, (g m).takes = m.takes)
    (hqueue : ∀ m, (g m).queue = m.queue) :
    (s.modifyInvoker i (·.mapManual g)).Employs i own work kept :=
  h.modify (fun _ hrun => hrun.mapManual howner htakes)
    (fun _ hwork => (Invoker.work_mapManual hqueue).trans hwork)
    (fun inv hkept => by rwa [Invoker.holders_mapManual])

theorem Employs.mapThread (h : s.Employs i own work kept)
    {g : InterpreterThread → InterpreterThread} (hshutdown : ∀ r, (g r).shutdown = r.shutdown)
    (hfinished : ∀ r, (g r).isFinished = r.isFinished) (hqueue : ∀ r, (g r).queue = r.queue) :
    (s.modifyInvoker i (·.mapThread g)).Employs i own work kept :=
  h.modify (fun _ hrun => hrun.mapThread hshutdown hfinished)
    (fun _ hwork => (Invoker.work_mapThread hqueue).trans hwork)
    (fun inv hkept => by rwa [Invoker.holders_mapThread])

theorem Employs.countExecuted (h : s.Employs i own work kept) :
    (s.countExecuted i).Employs i own work kept :=
  h.mapManual (fun _ => rfl) (fun _ => rfl) fun _ => rfl

/-! ### Those who keep the invoker -/

theorem Employs.keepInvoker (h : s.Employs i own work kept) :
    (s.keepInvoker i).Employs i own work (kept + 1) :=
  h.modify (fun _ hrun => hrun) (fun _ hwork => hwork) fun _ hkept => Nat.succ_lt_succ hkept

/-- One of several lets go. -/
theorem Employs.letGo (h : s.Employs i own work (kept + 1)) (t : ThreadId) (r : Reply) :
    ∃ s', s.letGo t i r = s'.give r ∧ Behind s s' ∧ s'.Employs i own work kept := by
  have hless := h.modify (g := fun inv => { inv with holders := inv.holders - 1 })
    (fun _ hrun => hrun) (fun _ hwork => hwork) fun _ hkept => Nat.lt_sub_of_add_lt hkept
  obtain ⟨inv, hi, -, -, hk⟩ := h
  refine ⟨_, ?_, behind_modifyInvoker s i _, hless⟩
  have hne : inv.holders ≠ 1 := by omega
  simp [Session.letGo, hi, hne]

/-! ### Submissions -/

theorem behind_enqueue (s : Session) (i : InvokerId) (inv : Invoker) (task : Task)
    (completion : Option ℕ) : Behind s (s.enqueue i inv task completion) :=
  (behind_modifyInvoker s i _).trans (behind_emit rfl)

theorem Employs.enqueue (h : s.Employs i own work kept) (inv : Invoker) (task : Task)
    (completion : Option ℕ) :
    (s.enqueue i inv task completion).Employs i own (work ++ [(task, completion)]) kept :=
  (h.modify (fun _ hrun => hrun.withQueue _)
    (fun inv hwork => (Invoker.work_push inv task completion).trans (by rw [hwork]))
    fun inv hkept => by rwa [Invoker.holders_withQueue]).of_invokers rfl

/-- An asynchronous task is queued, whoever submits it. -/
theorem Employs.offer (h : s.Employs i own work kept) (t : ThreadId) (task : Task) :
    ∃ s', s.offer t i false task = (.accepted, s') ∧ Behind s s' ∧
      s'.Employs i own (work ++ [(task, none)]) kept := by
  obtain ⟨⟨holders, core⟩, hi, hrun, -⟩ := id h
  cases core with
  | manual m =>
    refine ⟨_, ?_,
      (behind_modifyInvoker s i _).trans (behind_enqueue _ i ⟨holders, .manual m⟩ task none),
      (h.mapManual (g := fun m => { m with offered := m.offered + 1 }) (fun _ => rfl)
        (fun _ => rfl) fun _ => rfl).enqueue ⟨holders, .manual m⟩ task none⟩
    simp [Session.offer, hi, hrun.2.2]
  | thread r =>
    refine ⟨_, ?_, behind_enqueue s i ⟨holders, .thread r⟩ task none,
      h.enqueue ⟨holders, .thread r⟩ task none⟩
    simp [Session.offer, hi, hrun.2.1]

/-- A synchronous task of the thread that runs the invoker's tasks runs at once. -/
theorem Employs.offer_own (h : s.Employs i own work kept) (task : Task) :
    ∃ s', s.offer own i true task = (.inline, s') ∧ Behind s s' ∧ s'.Employs i own work kept := by
  obtain ⟨⟨holders, core⟩, hi, hrun, -⟩ := id h
  cases core with
  | manual m =>
    refine ⟨_, ?_, behind_modifyInvoker s i _,
      h.mapManual (g := fun m => { m with offered := m.offered + 1 }) (fun _ => rfl)
        (fun _ => rfl) fun _ => rfl⟩
    simp [Session.offer, hi, hrun.2.2, hrun.1, hrun.2.1]
  | thread r =>
    refine ⟨_, ?_, behind_modifyInvoker s i _,
      h.mapThread (g := fun r => { r with syncTasks := r.syncTasks + 1 }) (fun _ => rfl)
        (fun _ => rfl) fun _ => rfl⟩
    simp [Session.offer, hi, hrun.1]

/-- A synchronous task of the main thread for an interpreter thread is queued and awaited. -/
theorem Employs.offer_main (h : s.Employs i (.interpreter i) work kept) (task : Task) :
    ∃ s', s.offer .main i true task = (.awaited s.completions, s') ∧ s'.onstage = s.onstage ∧
      s'.desk = { s.desk with completions := s.completions + 1 } ∧
      s'.Employs i (.interpreter i) (work ++ [(task, some s.completions)]) kept := by
  obtain ⟨⟨holders, core⟩, hi, hrun, -⟩ := id h
  cases core with
  | manual m => exact absurd hrun.1 (by simp)
  | thread r =>
    have hcounted := behind_modifyInvoker s i
      (·.mapThread fun r => { r with syncTasks := r.syncTasks + 1 })
    have hqueued := behind_enqueue
      { s.modifyInvoker i (·.mapThread fun r => { r with syncTasks := r.syncTasks + 1 }) with
        completions := s.completions + 1 } i ⟨holders, .thread r⟩ task (some s.completions)
    refine ⟨_, ?_, hqueued.onstage.trans hcounted.onstage, hqueued.desk.trans ?_,
      ((h.mapThread (g := fun r => { r with syncTasks := r.syncTasks + 1 }) (fun _ => rfl)
        (fun _ => rfl) fun _ => rfl).of_invokers rfl).enqueue ⟨holders, .thread r⟩ task _⟩
    · simp [Session.offer, hi, hrun.2.1, enqueueAwaited]
      exact ⟨rfl, rfl⟩
    · rw [← hcounted.desk]
      rfl

/-! ### Items -/

/-- An item is appended to a function, and its dispatch task is taken. -/
def pushed (s : Session) (f : HandleId) (data : Word) : Session :=
  ((s.modifyFunction f (·.push data)).emit (.appended f data)).emit (.drainOffered f true)

section Items

variable {fn : ThreadsafeFunction} (h : s.Employs i own work kept) (hover : fn.invoker = some i)

include h

theorem Employs.push (f : HandleId) (data : Word) :
    ((s.modifyFunction f (·.push data)).emit (.appended f data)).Employs i own work kept :=
  h.of_invokers rfl

include hover

/-- An item is appended, and its dispatch task is queued. -/
theorem Employs.appendItem (hasync : fn.delivery ≠ .sync) (t : ThreadId) (f : HandleId)
    (data : Word) :
    ∃ s', s.appendItem t f fn data = s'.give (.outcome (.ok ())) ∧ Behind (s.pushed f data) s' ∧
      s'.Employs i own (work ++ [(.drain f, none)]) kept := by
  have hpush := h.push f data
  obtain ⟨inv, hinv⟩ := hpush.exists_live
  obtain ⟨s', hs', hbehind, hwork⟩ := hpush.offer t (.drain f)
  refine ⟨s'.emit (.drainOffered f true), ?_, hbehind.emit _, hwork.of_invokers rfl⟩
  simp [Session.appendItem, hover, hinv, hasync, hs']

/-- An item is appended on the thread that runs its dispatch task, which runs at once. -/
theorem Employs.appendItem_own (hsync : fn.delivery = .sync) (f : HandleId) (data : Word) :
    ∃ s', s.appendItem own f fn data
        = s'.run (.task i (.drain f)) [.ranInline i, .called i] ∧ Behind (s.pushed f data) s' ∧
      s'.Employs i own work (kept + 1) := by
  have hpush := h.push f data
  obtain ⟨inv, hinv⟩ := hpush.exists_live
  obtain ⟨s', hs', hbehind, hwork⟩ := hpush.offer_own (.drain f)
  have htold : (s'.emit (.drainOffered f true)).Employs i own work kept := hwork.of_invokers rfl
  refine ⟨(s'.emit (.drainOffered f true)).keepInvoker i, ?_,
    (hbehind.emit _).trans (behind_modifyInvoker _ i _), htold.keepInvoker⟩
  simp [Session.appendItem, hover, hinv, hsync, hs']

end Items

/-- An item is appended on the main thread, which awaits that the interpreter thread delivers it. -/
theorem Employs.appendItem_main {fn : ThreadsafeFunction}
    (h : s.Employs i (.interpreter i) work kept) (hover : fn.invoker = some i)
    (hsync : fn.delivery = .sync) (f : HandleId) (data : Word) :
    ∃ s' : Session, s.appendItem .main f fn data = s'.run (.awaitTask i s.completions) [.called i] ∧
      s'.onstage = (s.pushed f data).onstage ∧
      s'.desk = { s.desk with completions := s.completions + 1 } ∧
      s'.Employs i (.interpreter i) (work ++ [(.drain f, some s.completions)]) (kept + 1) := by
  have hpush := h.push f data
  obtain ⟨inv, hinv⟩ := hpush.exists_live
  obtain ⟨s', hs', honstage, hdesk, hwork⟩ := hpush.offer_main (.drain f)
  have htold : (s'.emit (.drainOffered f true)).Employs i (.interpreter i)
      (work ++ [(.drain f, some s.completions)]) kept := hwork.of_invokers rfl
  have hkept := behind_modifyInvoker (s'.emit (.drainOffered f true)) i
    fun inv => { inv with holders := inv.holders + 1 }
  refine ⟨(s'.emit (.drainOffered f true)).keepInvoker i, ?_, hkept.onstage.trans ?_,
    hkept.desk.trans hdesk, htold.keepInvoker⟩
  · simp [Session.appendItem, hover, hinv, hsync, hs']
    rfl
  · rw [pushed, onstage_emit, onstage_emit, honstage]

/-! ### Tasks -/

/-- The oldest task is taken and run. -/
theorem Employs.runNext (h : s.Employs i own ((task, completion) :: work) kept) {inv : Invoker}
    (hi : s.invokers.get? i = some inv) (after : Frame) :
    ∃ sub s', s.runNext i inv after = some (s'.run (.task i task) [.taskEnded i sub, after]) ∧
      sub.completion = completion ∧ Behind s s' ∧ s'.Employs i own work kept := by
  obtain ⟨inv', hi', hrun, hwork, hkept⟩ := h
  obtain rfl : inv' = inv := Option.some.inj (hi'.symm.trans hi)
  obtain ⟨sub, rest, hpending, hsub, hrest⟩ := List.map_eq_cons_iff.1 hwork
  obtain ⟨rfl, rfl⟩ := Prod.mk.inj hsub
  have hpop : inv'.queue.pop = some (sub, { inv'.queue with pending := rest }) := by
    simp [TaskQueue.pop_eq_some_iff, hpending]
  refine ⟨sub, _, by simp [Session.runNext, startTask, hpop]; rfl, rfl,
    (behind_modifyInvoker s i _).trans (behind_emit rfl), ?_⟩
  refine ⟨inv'.withQueue { inv'.queue with pending := rest }, ?_, hrun.withQueue _, ?_, ?_⟩
  · simp [emit, modifyInvoker, Assoc.get?_modify, hi]
  · simp [Invoker.work, hrest]
  · rwa [Invoker.holders_withQueue]

theorem Employs.runNext_nil (h : s.Employs i own [] kept) {inv : Invoker}
    (hi : s.invokers.get? i = some inv) (after : Frame) : s.runNext i inv after = none := by
  obtain ⟨inv', hi', -, hwork, -⟩ := h
  obtain rfl : inv' = inv := Option.some.inj (hi'.symm.trans hi)
  have hpending : inv'.queue.pending = [] := List.map_eq_nil_iff.1 hwork
  simp [Session.runNext, startTask, TaskQueue.pop, hpending]

theorem Employs.loop_eq (h : s.Employs i (.interpreter i) work kept) :
    ∃ inv, s.invokers.get? i = some inv ∧ s.loop i = s.runNext i inv (.looped i) := by
  obtain ⟨⟨holders, core⟩, hi, hrun, -⟩ := h
  cases core with
  | manual m => exact absurd hrun.1 (by simp)
  | thread r => exact ⟨_, hi, by simp [Session.loop, hi, hrun.2.1]⟩

/-- The loop of an interpreter thread runs the oldest task. -/
theorem Employs.loop (h : s.Employs i (.interpreter i) ((task, completion) :: work) kept) :
    ∃ sub s', s.loop i = some (s'.run (.task i task) [.taskEnded i sub, .looped i]) ∧
      sub.completion = completion ∧ Behind s s' ∧ s'.Employs i (.interpreter i) work kept := by
  obtain ⟨inv, hi, hloop⟩ := h.loop_eq
  rw [hloop]
  exact h.runNext hi _

theorem Employs.loop_nil (h : s.Employs i (.interpreter i) [] kept) : s.loop i = none := by
  obtain ⟨inv, hi, hloop⟩ := h.loop_eq
  rw [hloop]
  exact h.runNext_nil hi _

/-- A pump runs the oldest task. -/
theorem Employs.pump (h : s.Employs i own ((task, completion) :: work) kept) (goal : PumpGoal) :
    ∃ sub s', s.pump i goal = s'.run (.task i task) [.taskEnded i sub, .pumped i goal] ∧
      Behind s s' ∧ s'.Employs i own work kept := by
  obtain ⟨inv, hi, -⟩ := id h
  obtain ⟨sub, s', hnext, -, hs'⟩ := h.runNext hi (.pumped i goal)
  exact ⟨sub, s', by simp [Session.pump, hi, hnext], hs'⟩

theorem Employs.pump_nil (h : s.Employs i own [] kept) (n : ℕ) :
    s.pump i (.drained n) = s.run (.letGo i (.answer (.count n))) := by
  obtain ⟨inv, hi, -⟩ := id h
  simp [Session.pump, hi, h.runNext_nil hi]

/-- The end of a task signals whoever waits for it. -/
theorem endTask_eq (s : Session) (i : InvokerId) (sub : Submission) :
    (s.endTask (.ended i sub) sub).onstage = s.onstage ∧
      (s.endTask (.ended i sub) sub).desk =
        { s.desk with signalled := sub.completion.toList ++ s.signalled } ∧
      (s.endTask (.ended i sub) sub).invokers = s.invokers := by
  have hemit := (behind_emit (s := s) (e := .ended i sub) rfl).onstage
  unfold endTask
  cases sub.completion with
  | none => exact ⟨hemit, rfl, rfl⟩
  | some c => exact ⟨hemit, rfl, rfl⟩

theorem Employs.afterLooped (h : s.Employs i own work kept) :
    ∃ s', s.afterLooped i = s'.run (.loop i) ∧ Behind s s' ∧ s'.Employs i own work kept :=
  ⟨_, rfl, behind_modifyInvoker s i _,
    h.mapThread (g := fun r => { r with tasksRun := r.tasksRun + 1 }) (fun _ => rfl)
      (fun _ => rfl) fun _ => rfl⟩

theorem Employs.afterPumped (h : s.Employs i own work kept) (n : ℕ) :
    ∃ s', s.afterPumped i (.drained n) = s'.run (.pump i (.drained (n + 1))) ∧ Behind s s' ∧
      s'.Employs i own work kept :=
  ⟨_, rfl, behind_modifyInvoker s i _, h.countExecuted⟩

/-- A task that is not over is waited for. -/
theorem Employs.awaitTask_eq_none (h : s.Employs i (.interpreter i) work kept) {c : ℕ}
    (hc : c ∉ s.signalled) : s.awaitTask i c = none := by
  obtain ⟨⟨holders, core⟩, hi, hrun, -⟩ := h
  cases core with
  | manual m => exact absurd hrun.1 (by simp)
  | thread r => simp [awaitTask, hc, hi, hrun.2.2]

end Session

end AddonHost
