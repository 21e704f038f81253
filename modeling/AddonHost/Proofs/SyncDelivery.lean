import AddonHost.Proofs.Function.Dispatch
import AddonHost.Proofs.Invoker.Queues
import AddonHost.Proofs.Items
import AddonHost.Proofs.Lifecycle

/-!
What a synchronous call waits for.

A call of a function that delivers synchronously appends its item and submits one dispatch task, and
returns when this task has been run.  The task takes the item that has waited longest, which may be
another one:

* when the call comes from the thread that runs the tasks, its task is run at once, ahead of those
  that are queued.  It takes the item at the front of the queue, so the call's own item only if the
  queue was empty;
* when the call comes from another thread, its task is queued behind those of the items that were
  appended before (`Session.InTurn`), so the own item is taken when the task has been started, unless
  a dispatch task of the function was lost.

`Reachable.sync_delivery` says both.  What was taken was delivered when the call returns, unless the
function was aborted (`Session.DoneWith`).
-/

namespace AddonHost

open Service

namespace Session

variable {s s' s'' u : Session} {t : ThreadId} {f : HandleId} {fn : ThreadsafeFunction}
  {i : InvokerId} {c n : ℕ} {data : Word} {below : List Frame} {m : Move}

theorem appended_life (s : Session) (f : HandleId) : (s.life f).appended f = s.appendedTo f := by
  rw [Life.appended, marks_life, ← appendedTo_eq]

theorem taken_life (s : Session) (f : HandleId) : (s.life f).taken f = s.takenFrom f := by
  rw [Life.taken, marks_life, ← takenFrom_eq]

/-! ### Tasks in turn -/

/-- How many of some tasks are dispatch tasks of a function. -/
def drainsOf (f : HandleId) (subs : List Submission) : ℕ :=
  (subs.filterMap fun sub => sub.task.part? f).count .drain

theorem drainsOf_append (f : HandleId) (subs subs' : List Submission) :
    drainsOf f (subs ++ subs') = drainsOf f subs + drainsOf f subs' := by
  rw [drainsOf, List.filterMap_append, List.count_append]
  rfl

theorem drainsOf_le_of_sublist {subs subs' : List Submission} (h : subs.Sublist subs')
    (f : HandleId) : drainsOf f subs ≤ drainsOf f subs' :=
  (h.filterMap _).count_le _

/-- The dispatch tasks that are queued on the invoker of a function. -/
theorem count_tasks (hi : (s.life f).invoker? = some i) :
    (s.life f).tasks.count .drain = drainsOf f (s.service.pendingOn i) := by
  have hqueued : (s.life f).queued i
      = (s.service.pendingOn i).filterMap fun sub => sub.task.part? f := by
    rw [pendingOn_eq]
    change ((s.invokers.get? i).map fun inv => inv.tasksOf f).getD [] = _
    cases s.invokers.get? i <;> rfl
  rw [Life.tasks, hi, Option.map_some, Option.getD_some, hqueued, drainsOf]

/-- A dispatch task that someone waits for comes after those of the first items: fewer dispatch tasks
are queued behind it than items were appended behind these; or it has been started, and no more are
queued at all; or a dispatch task was lost. -/
inductive InTurn (s : Session) (f : HandleId) (i : InvokerId) (c n : ℕ) : Prop where
  | queued {before after : List Submission} {sub : Submission} :
    s.service.pendingOn i = before ++ sub :: after → sub.completion = some c →
      sub.task = .drain f → drainsOf f after + n ≤ (s.appendedTo f).length → InTurn s f i c n
  | due : (s.life f).Due f n → InTurn s f i c n
  | lost : .drainLost ∈ s.marks f → InTurn s f i c n

/-- How many dispatch tasks are queued behind a suffix of what was queued. -/
theorem suffix_cases {pending before after : List Submission} {sub : Submission}
    (h : pending <:+ before ++ sub :: after) :
    (∃ before', pending = before' ++ sub :: after) ∨ pending <:+ after := by
  obtain ⟨gone, hgone⟩ := h
  rcases List.append_eq_append_iff.1 hgone with ⟨rest, -, hrest⟩ | ⟨rest, -, hrest⟩
  · exact .inl ⟨rest, hrest⟩
  · cases rest with
    | nil => exact .inl ⟨[], hrest.symm⟩
    | cons sub' rest =>
      obtain ⟨rfl, rfl⟩ := List.cons_eq_cons.1 hrest
      exact .inr ⟨rest, rfl⟩

theorem InTurn.step (h : s.InTurn f i c n) (hs : s.Reachable) (hi : (s.life f).invoker? = some i)
    (hstep : s.step t = some s') : s'.InTurn f i c n := by
  obtain ⟨th, frames, m, own, works, ht⟩ := hs.sound.exists_taken hstep
  obtain ⟨others, -, hdoing, -⟩ := ht.exists_kept hs.sound.sane f
  have hlife : Life.Step f (s.life f) (own f) (s'.life f) (m.activities f t frames) := by
    rw [show s'.life f = m.session.life f by rw [ht.result]; rfl]
    exact ht.does.step f
  have hrun : Life.Run f False (s.life f) (own f + (framesOver f frames [] + doingOf f others)) := by
    have : Life.Run f False (s.life f) (s.doing f) := hs.run f False.elim
    rwa [hdoing] at this
  have hi' := hlife.invoker?_eq hi
  have happended : (s.appendedTo f).length ≤ (s'.appendedTo f).length := by
    have := hlife.appended_mono.length_le
    rwa [appended_life, appended_life] at this
  cases h with
  | lost hlost =>
    have hmarks := hlife.marks_mono
    rw [marks_life, marks_life] at hmarks
    exact .lost (hmarks.subset hlost)
  | due hdue => exact .due (hrun.due_step hlife hdue)
  | @queued before after sub hpending hc htask hcount =>
    rcases hs.sound.appends_or_takes hstep with happends | htakes
    · obtain ⟨new, hnew⟩ := happends.pendingOn i
      have hpending' : s'.service.pendingOn i = before ++ sub :: (after ++ new) := by
        rw [← hnew, hpending, List.append_assoc, List.cons_append]
      refine .queued hpending' hc htask ?_
      -- whatever is queued behind was appended with an item
      have hle := hrun.count_drain_le hlife
      rw [count_tasks hi, count_tasks hi', ← hnew, drainsOf_append, appended_life,
        appended_life] at hle
      rw [drainsOf_append]
      omega
    · rcases suffix_cases (hpending ▸ htakes.pendingOn i) with ⟨before', hpending'⟩ | hsuffix
      · exact .queued hpending' hc htask (hcount.trans happended)
      · refine .due ?_
        have hle := drainsOf_le_of_sublist hsuffix.sublist f
        rw [Life.Due, count_tasks hi', appended_life]
        omega

/-- When an invoker loses a task, it is gone from its queue, and told to be discarded. -/
theorem pendingOn_loseTask (s : Session) (i j : InvokerId) (position : ℕ) :
    (s.loseTask j position).service.pendingOn i = s.service.pendingOn i ∨
      ∃ gone, (s.service.pendingOn i)[position]? = some gone ∧
        (s.loseTask j position).service.pendingOn i = (s.service.pendingOn i).eraseIdx position ∧
        (s.loseTask j position).history = s.history ++ [.discarded i gone] := by
  unfold loseTask
  split
  · exact .inl rfl
  · next inv hj =>
    split
    · exact .inl rfl
    · next gone hgone =>
      have hpending : s.service.pendingOn j = inv.queue.pending := by
        rw [pendingOn_eq, hj]
        rfl
      by_cases hij : j = i
      · subst hij
        refine .inr ⟨gone, by rw [hpending, hgone], ?_, ?_⟩
        · rw [pendingOn_signal, pendingOn_emit, hpending, pendingOn_eq, modifyInvoker,
            Assoc.get?_modify, if_pos rfl, hj]
          simp
        · have hjournal (s : Session) : (s.signal gone.completion).journal = s.journal := by
            unfold signal
            split <;> rfl
          rw [history, hjournal, ← history, history_emit]
          rfl
      · refine .inl ?_
        rw [pendingOn_signal, pendingOn_emit, pendingOn_eq, pendingOn_eq, modifyInvoker,
          Assoc.get?_modify, if_neg hij]

theorem InTurn.lose (h : s.InTurn f i c n) (hs : s.Reachable) (j : InvokerId)
    (position : ℕ) : (s.loseTask j position).InTurn f i c n := by
  obtain ⟨hlife, -⟩ := loseTask_step (s := s) f j position
  have hrun : Life.Run f False (s.life f) (([] : List Activity) + s.doing f) := by
    have : Life.Run f False (s.life f) (s.doing f) := hs.run f False.elim
    simpa using this
  have hmarks := hlife.marks_mono
  rw [marks_life, marks_life] at hmarks
  have happended : (s.appendedTo f).length ≤ ((s.loseTask j position).appendedTo f).length := by
    have := hlife.appended_mono.length_le
    rwa [appended_life, appended_life] at this
  cases h with
  | lost hlost => exact .lost (hmarks.subset hlost)
  | due hdue => exact .due (hrun.due_step hlife hdue)
  | @queued before after sub hpending hc htask hcount =>
    rcases pendingOn_loseTask s i j position with hsame | ⟨gone, hgone, herased, htold⟩
    · exact .queued (hsame.trans hpending) hc htask (hcount.trans happended)
    · rw [hpending] at hgone herased
      rcases lt_or_ge position before.length with hlt | hge
      · rw [List.eraseIdx_append_of_lt_length hlt] at herased
        exact .queued herased hc htask (hcount.trans happended)
      · rw [List.eraseIdx_append_of_length_le hge] at herased
        rw [List.getElem?_append_right hge] at hgone
        cases hposition : position - before.length with
        | zero =>
          -- the task itself is lost
          obtain rfl : sub = gone := by simpa [hposition] using hgone
          have hmark : (Event.discarded i sub).mark? f = some .drainLost := by
            simp [Event.mark?, htask, Task.part?, FunctionTask.lost]
          refine .lost ?_
          rw [marks, htold, List.filterMap_append]
          simp [hmark]
        | succ k =>
          rw [hposition, List.eraseIdx_cons_succ] at herased
          refine .queued herased hc htask (le_trans ?_ (hcount.trans happended))
          exact Nat.add_le_add_right (drainsOf_le_of_sublist (List.eraseIdx_sublist _ _) f) n

/-- A dispatch task that someone waits for stays in turn when the run goes on. -/
theorem InTurn.onward (h : s.InTurn f i c n) (hs : s.Reachable)
    (hi : (s.life f).invoker? = some i) (ho : s.Onward s') :
    s'.InTurn f i c n ∧ (s'.life f).invoker? = some i := by
  induction ho with
  | refl => exact ⟨h, hi⟩
  | @act u a _ _ ih =>
    obtain ⟨hturn, hi⟩ := ih
    refine ⟨?_, hi⟩
    cases hturn with
    | queued hpending hc htask hcount => exact .queued hpending hc htask hcount
    | due hdue => exact .due hdue
    | lost hlost => exact .lost hlost
  | @step u u' t hu _ hstep ih =>
    have hr := hs.onward hu
    refine ⟨ih.1.step hr ih.2 hstep, ?_⟩
    obtain ⟨th, below, m, own, works, ht⟩ := hr.sound.exists_taken hstep
    rw [show u'.life f = m.session.life f by rw [ht.result]; rfl]
    exact (ht.does.step f).invoker?_eq ih.2
  | @lose u j position hu ih =>
    exact ⟨ih.1.lose (hs.onward hu) j position,
      (loseTask_step (s := u) f j position).1.invoker?_eq ih.2⟩

/-! ### Calls that have returned -/

/-- Whether code is a call, or goes on with one that has waited for space. -/
def IsCall (f : HandleId) (data : Word) (d : Code) : Prop :=
  (∃ mode, d = .call f data mode) ∨ d = .awaitSpace f data

/-- A call has returned, above some frames, while no other thread is in the middle of an
operation. -/
structure Returned (s : Session) (t : ThreadId) (below : List Frame) : Prop where
  thread : s.threads.get? t = some { control := .give (.outcome (.ok ())), stack := below }
  rest : s.OthersAtRest t

/-- Some items of a function were taken; each one was delivered, unless the function was aborted. -/
structure DoneWith (s : Session) (f : HandleId) (items : List Word) : Prop where
  taken : items <+: s.takenFrom f
  delivered (fn : ThreadsafeFunction) : s.functions.object? f = some fn → fn.callJs = true →
    s.EnginesSilent → .aborted ∉ s.marks f → items <+: s.deliveredFor f

/-- A thread that is between two operations, or gives a reply, is not about to run a dispatch
task. -/
theorem isStarting_activities {th : Thread} {a : Activity}
    (h : th.atRest = true ∨ ∃ r, th.control = .give r) (ha : a ∈ th.activities f t) :
    a.isStarting = false := by
  rcases List.mem_append.1 ha with ha | ha
  · obtain ⟨control, stack⟩ := th
    cases control with
    | run d =>
      cases d with
      | task j task => simp [Thread.atRest] at h
      | finalizer owner =>
        cases owner <;> simp_all [Control.activities, Code.activities, Activity.isStarting]
      | _ => simp_all [Control.activities, Code.activities, Activity.isStarting]
    | _ => simp [Control.activities] at ha
  · exact isStarting_of_mem_framesOver ha

variable (hr : s.Reachable) (hret : s.Returned t below)
include hr hret

/-- When a call has returned, no dispatch task is about to run. -/
theorem Returned.starting : tally Activity.isStarting (s.doing f) = 0 := by
  rw [tally, Multiset.countP_eq_zero]
  intro a ha
  obtain ⟨p, hp, ha⟩ := mem_doingOf.1 ha
  have hth := Assoc.get?_of_mem hr.sound.sane.keys hp
  refine Bool.eq_false_iff.1 (isStarting_activities ?_ ha)
  by_cases hp' : p.1 = t
  · rw [hp', hret.thread] at hth
    exact .inr ⟨_, (congrArg Thread.control (Option.some.inj hth)).symm⟩
  · have hbusy := hret.rest p.1 (hr.sound.sane.placed p hp) hp'
    rw [isBusy, hth] at hbusy
    exact .inl (by simpa using hbusy)

/-- When a call has returned, above frames that wait for no answer, no delivery is on its way, as
long as engines are silent. -/
theorem Returned.inFlight (hsilent : s.EnginesSilent) (hasks : below.any Frame.asks = false) :
    inFlight (s.doing f) = 0 := by
  refine inFlight_eq_zero fun a ha => ?_
  obtain ⟨p, hp, ha⟩ := mem_doingOf.1 ha
  by_cases hp' : p.1 = t
  · have hth := Assoc.get?_of_mem hr.sound.sane.keys hp
    rw [hp', hret.thread] at hth
    rw [← Option.some.inj hth] at ha
    exact isDelivery_framesOver hasks a (by simpa [Thread.activities, Control.activities] using ha)
  · exact hr.sound.isDelivery_of_not_isBusy hsilent hp
      (hret.rest p.1 (hr.sound.sane.placed p hp) hp') a ha

/-- When a call has returned, the first items are done with, if so many were taken. -/
theorem Returned.doneWith {items : List Word} (hf : s.functions.object? f = some fn)
    (hasks : s.EnginesSilent → below.any Frame.asks = false) (happended : items <+: s.appendedTo f)
    (hlength : items.length ≤ (s.takenFrom f).length) :
    s.DoneWith f items := by
  have htaken : items <+: s.takenFrom f := by
    rw [hr.appendedTo_eq hf] at happended
    exact List.prefix_of_prefix_length_le happended (List.prefix_append ..) hlength
  refine ⟨htaken, fun fn' hf' hjs hsilent hopen => ?_⟩
  obtain ⟨w, hw, hdelivered⟩ := hr.exists_inFlight hf' hjs hsilent
  rw [hret.inFlight hr hsilent (hasks hsilent), eq_comm, Multiset.coe_eq_zero] at hw
  rw [Mark.takenBeforeAbort_of_notMem hopen, ← takenFrom_eq, hw, List.append_nil] at hdelivered
  rwa [← hdelivered]

omit hr hret

/-! ### The task of a call -/

theorem pendingOn_enqueue {inv old : Invoker} (hi : s.invokers.get? i = some inv) (task : Task)
    (completion : Option ℕ) :
    (s.enqueue i old task completion).service.pendingOn i
      = s.service.pendingOn i ++ [inv.queue.submission task completion] := by
  rw [enqueue, pendingOn_emit, pendingOn_eq, pendingOn_eq, modifyInvoker, Assoc.get?_modify,
    if_pos rfl, hi]
  simp

/-- A task that someone waits for is run at once, handed back, or queued last. -/
theorem offer_sync {task : Task} {o : Offer} (h : s.offer t i true task = (o, s')) :
    o = .handedBack ∨ o = .inline ∨ ∃ c sub, o = .awaited c ∧
      s'.service.pendingOn i = s.service.pendingOn i ++ [sub] ∧ sub.completion = some c ∧
      sub.task = task := by
  have hqueued {u : Session} {inv old : Invoker} (hi : u.invokers.get? i = some inv)
      (hu : u.service.pendingOn i = s.service.pendingOn i)
      (h : u.enqueueAwaited i old task = (o, s')) :
      ∃ c sub, o = .awaited c ∧ s'.service.pendingOn i = s.service.pendingOn i ++ [sub] ∧
        sub.completion = some c ∧ sub.task = task := by
    obtain ⟨rfl, rfl⟩ := Prod.mk.inj h
    have hi' : ({ u with completions := u.completions + 1 } : Session).invokers.get? i = some inv :=
      hi
    exact ⟨_, _, rfl, by rw [pendingOn_enqueue hi', ← hu]; rfl, rfl, rfl⟩
  unfold offer at h
  split at h
  · exact .inl (Prod.mk.inj h).1.symm
  · next inv hi =>
    split at h
    · simp only [Bool.not_true, Bool.false_eq_true, if_false] at h
      split_ifs at h
      · exact .inl (Prod.mk.inj h).1.symm
      · exact .inr (.inl (Prod.mk.inj h).1.symm)
      · have hoffered := pendingOn_modifyInvoker
          (f := (·.mapManual fun m => { m with offered := m.offered + 1 }))
          (fun inv => inv.queue_mapManual fun _ => rfl) s i
        exact .inr (.inr (hqueued (get?_modifyInvoker hi _) (congrFun hoffered i) h))
    · simp only [Bool.not_true, Bool.false_eq_true, if_false] at h
      split_ifs at h
      · exact .inr (.inl (Prod.mk.inj h).1.symm)
      · exact .inl (Prod.mk.inj h).1.symm
      · have hcounted := pendingOn_modifyInvoker
          (f := (·.mapThread fun r => { r with syncTasks := r.syncTasks + 1 }))
          (fun inv => inv.queue_mapThread fun _ => rfl) s i
        exact .inr (.inr (hqueued (get?_modifyInvoker hi _) (congrFun hcounted i) h))

/-- What a synchronous call that has appended its item goes on with: the task was lost, is run at
once, or is queued last and waited for. -/
inductive Submitted (s : Session) (f : HandleId) (fn : ThreadsafeFunction) (m : Move) : Prop where
  | lost : .drainLost ∈ m.session.marks f → Submitted s f fn m
  | inline (i : InvokerId) : m.control = .run (.task i (.drain f)) →
      m.frames = [.ranInline i, .called i] → Submitted s f fn m
  | queued (i : InvokerId) (c : ℕ) (sub : Submission) : fn.invoker = some i →
      m.control = .run (.awaitTask i c) → m.frames = [.called i] →
      m.session.service.pendingOn i = s.service.pendingOn i ++ [sub] →
      sub.completion = some c → sub.task = .drain f → Submitted s f fn m

theorem submitted_appendItem (hsync : fn.delivery = .sync) :
    Submitted s f fn (s.appendItem t f fn data) := by
  have hlost (u : Session) (level : Log.Level) (text : String) :
      .drainLost ∈ ((u.emit (.drainOffered f false)).log level text).marks f := by
    rw [← marks_life, life_log, life_emit]
    simp [Event.concerns, Event.mark?]
  have hpushed : ((s.modifyFunction f (·.push data)).emit (.appended f data)).service.pendingOn
      = s.service.pendingOn := rfl
  unfold appendItem
  simp only
  split
  · exact .lost (hlost ..)
  · next i inv hlive =>
    have hi := liveInvoker?_eq_some hlive
    obtain ⟨o, s', hoffer⟩ : ∃ o s', ((s.modifyFunction f (·.push data)).emit
        (.appended f data)).offer t i (fn.delivery = .sync) (.drain f) = (o, s') := ⟨_, _, rfl⟩
    rw [hoffer]
    rw [hsync, decide_eq_true rfl] at hoffer
    rcases offer_sync hoffer with rfl | rfl | ⟨c, sub, rfl, hpending, hc, htask⟩
    · exact .lost (hlost ..)
    · exact .inline i rfl rfl
    · refine .queued i c sub hi rfl rfl ?_ hc htask
      rw [hpushed] at hpending
      simp only [run]
      rw [pendingOn_keepInvoker, pendingOn_emit, hpending]

theorem submitted_step {d : Code} (hf : s.functions.object? f = some fn)
    (hsync : fn.delivery = .sync) (hcall : IsCall f data d) (hm : d.step t s = some m)
    (happended : m.session.appendedTo f = s.appendedTo f ++ [data]) : Submitted s f fn m := by
  have hno : m.session.appendedTo f ≠ s.appendedTo f := by simp [happended]
  rcases hcall with ⟨mode, rfl⟩ | rfl
  · obtain rfl := Option.some.inj hm
    simp only [call, hf] at hno ⊢
    split at hno
    · exact absurd rfl hno
    · exact absurd rfl hno
    · exact submitted_appendItem hsync
  · simp only [Code.step, awaitSpace, hf] at hm
    split_ifs at hm <;> obtain rfl := Option.some.inj hm
    · exact absurd rfl hno
    · exact absurd rfl hno
    · exact submitted_appendItem hsync

/-! ### Synchronous delivery -/

/-- A thread that is about to run a dispatch task finds an item. -/
theorem exists_queue_of_starting (hs : s.Reachable)
    (hth : s.threads.get? t = some { control := .run (.task i (.drain f)), stack := below }) :
    ∃ fn item rest, s.functions.object? f = some fn ∧ fn.queue = item :: rest := by
  have hstarting : .starting (runner? below) ∈ s.doing f :=
    mem_doingOf.2 ⟨_, Assoc.mem_of_get? hth, by
      simp [Thread.activities, Control.activities, Code.activities]⟩
  obtain ⟨kept, hkept⟩ := Multiset.exists_cons_of_mem hstarting
  have hrun : Life.Run f False (s.life f) (s.doing f) := hs.run f False.elim
  rw [hkept, ← Multiset.singleton_add] at hrun
  have hqueue := hrun.queue_ne_nil
  cases hf : s.functions.object? f with
  | none => simp [Life.queue, life, hf] at hqueue
  | some fn =>
    obtain ⟨item, rest, hrest⟩ := List.exists_cons_of_ne_nil
      (show fn.queue ≠ [] by simpa [Life.queue, life, hf] using hqueue)
    exact ⟨fn, item, rest, rfl, hrest⟩

/-- A thread that runs a dispatch task takes an item. -/
theorem takenFrom_of_drain (hs : s.Reachable)
    (hth : s.threads.get? t = some { control := .run (.task i (.drain f)), stack := below })
    (hstep : s.step t = some s') : ∃ item, s'.takenFrom f = s.takenFrom f ++ [item] := by
  obtain ⟨fn, item, rest, hf, hqueue⟩ := exists_queue_of_starting hs hth
  refine ⟨item, ?_⟩
  rw [step_eq_map (running_of_step hstep) hth, Code.step, Option.map_some, Option.some.injEq] at hstep
  have hpop : fn.pop.1 = some item := by rw [Life.pop_fst, hqueue, List.head?_cons]
  have hstarted : ((s.emit (.drainStarted f)).modifyFunction f fun _ => fn.pop.2).takenFrom f
      = s.takenFrom f := by
    show (s.emit (.drainStarted f)).takenFrom f = _
    simp [takenFrom_emit, Event.takenFrom?]
  have htaken : (((s.emit (.drainStarted f)).modifyFunction f fun _ => fn.pop.2).emit
      (.taken f item)).takenFrom f = s.takenFrom f ++ [item] := by
    simp [takenFrom_emit, Event.takenFrom?, hstarted]
  rw [← hstep]
  show (s.drain f).session.takenFrom f = _
  simp only [drain, hf, hpop]
  split <;> exact htaken

/-! ### Synchronous delivery -/

/-- Nothing that was told of a function is taken back. -/
theorem Onward.marks_mono (ho : s.Onward s') (h : s.Reachable) (f : HandleId) :
    s.marks f <+: s'.marks f := by
  induction ho with
  | refl => exact List.prefix_rfl
  | act a _ _ ih => exact ih
  | step t hu _ hstep ih =>
    obtain ⟨own, own', hlife⟩ := (h.onward hu).lifeStep hstep f
    have hmarks := hlife.marks_mono
    rw [marks_life, marks_life] at hmarks
    exact ih.trans hmarks
  | @lose u i position _ ih =>
    have hmarks := (loseTask_step (s := u) f i position).1.marks_mono
    rw [marks_life, marks_life] at hmarks
    exact ih.trans hmarks

theorem Onward.appendedTo_mono (ho : s.Onward s') (h : s.Reachable) (f : HandleId) :
    s.appendedTo f <+: s'.appendedTo f := by
  rw [appendedTo_eq, appendedTo_eq]
  exact (ho.marks_mono h f).filterMap _

theorem Onward.takenFrom_mono (ho : s.Onward s') (h : s.Reachable) (f : HandleId) :
    s.takenFrom f <+: s'.takenFrom f := by
  rw [takenFrom_eq, takenFrom_eq]
  exact (ho.marks_mono h f).filterMap _

/-- A dispatch task that a thread is about to run has taken an item, when the thread is done with
what it does above some frames. -/
theorem Onward.takenFrom_of_task (ho : s.Onward s') (h : s.Reachable) (above : List Frame)
    (hth : s.threads.get? t = some
      { control := .run (.task i (.drain f)), stack := above ++ below })
    (hret : s'.Returned t below) : (s.takenFrom f).length + 1 ≤ (s'.takenFrom f).length := by
  have hkeeps := ho.keeps h
    (P := (· = { control := .run (.task i (.drain f)), stack := above ++ below }))
    (Q := fun u => (s.takenFrom f).length + 1 ≤ (u.takenFrom f).length) ⟨_, hth, rfl⟩
    (by rintro _ rfl r; simp) fun {u u' th} hu hth' hP hstep => ?_
  · rcases hkeeps with ⟨th, hth', rfl⟩ | ⟨u, hu, hlength, hu'⟩
    · simp [hret.thread] at hth'
    · exact hlength.trans (hu'.takenFrom_mono (h.onward hu) f).length_le
  · subst hP
    obtain ⟨item, hitem⟩ := takenFrom_of_drain (h.onward hu) hth' hstep
    have hle := (hu.takenFrom_mono h f).length_le
    exact .inr (by rw [hitem]; simpa using hle)

/-- What a synchronous call that has appended its item waits for, unless its task was lost.  When
its task is run at once, the item that has waited longest is done with when the call returns.  When
its task is queued, all items up to its own are, unless a dispatch task of the function was lost. -/
theorem Reachable.sync_delivery (h : s.Reachable) (hrest : s.OthersAtRest t)
    (hf : s.functions.object? f = some fn) (hsync : fn.delivery = .sync) {d : Code}
    (hth : s.threads.get? t = some { control := .run d, stack := below })
    (hcall : IsCall f data d) (hstep : s.step t = some s')
    (happended : s'.appendedTo f = s.appendedTo f ++ [data]) :
    .drainLost ∈ s'.marks f ∨
      (∃ i, s'.threads.get? t = some
          { control := .run (.task i (.drain f)), stack := .ranInline i :: .called i :: below } ∧
        ∀ s'', s'.Onward s'' → s''.Returned t below →
          ∃ item rest, fn.queue ++ [data] = item :: rest ∧
            s''.DoneWith f (s.takenFrom f ++ [item])) ∨
      ∃ i c, s'.threads.get? t = some
          { control := .run (.awaitTask i c), stack := .called i :: below } ∧
        ∀ s'', s'.Onward s'' → s''.Returned t below →
          (∀ sub ∈ s''.service.pendingOn i, sub.completion ≠ some c) →
          .drainLost ∉ s''.marks f → s''.DoneWith f (s.appendedTo f ++ [data]) := by
  have hs' : s'.Reachable := h.step t hrest hstep
  have htaken := h.appendedTo_eq hf
  have hfirst : s.Onward s' := Onward.refl.step t hrest hstep
  obtain ⟨m, hm, hresult⟩ := Option.map_eq_some_iff.1
    (step_eq_map (running_of_step hstep) hth ▸ hstep)
  have hthread : s'.threads.get? t = some { control := m.control, stack := m.frames ++ below } := by
    rw [← hresult, threads_apply]
  have hasks {s'' : Session} (ho : s'.Onward s'') (hsilent : s''.EnginesSilent) :
      below.any Frame.asks = false := by
    rw [Bool.eq_false_iff]
    intro hasks
    have := h.sound.asks ((hfirst.trans ho).silent h hsilent) _ (Assoc.mem_of_get? hth) hasks
    rcases hcall with ⟨mode, rfl⟩ | rfl <;> simp [Thread.isAnswering] at this
  have happended' : m.session.appendedTo f = s.appendedTo f ++ [data] := by
    rw [← happended, ← hresult]
    rfl
  cases submitted_step hf hsync hcall hm happended' with
  | lost hlost => exact .inl (by rw [← hresult]; exact hlost)
  | inline i hcontrol hframes =>
    rw [hcontrol, hframes] at hthread
    refine .inr (.inl ⟨i, hthread, fun s'' ho hret => ?_⟩)
    obtain ⟨item, rest, hitem⟩ := List.exists_cons_of_ne_nil (show fn.queue ++ [data] ≠ [] by simp)
    obtain ⟨fn'', hf'', -⟩ := (hfirst.trans ho).ages h hf
    refine ⟨item, rest, hitem, hret.doneWith (hs'.onward ho) hf'' (hasks ho) ?_ ?_⟩
    · refine List.IsPrefix.trans ?_ (ho.appendedTo_mono hs' f)
      rw [happended, htaken, List.append_assoc, hitem]
      exact ⟨rest, by simp⟩
    · have hlength := ho.takenFrom_of_task hs' [.ranInline i, .called i] hthread hret
      have := (hfirst.takenFrom_mono h f).length_le
      rw [List.length_append, List.length_singleton]
      omega
  | queued i c sub hi hcontrol hframes hpending hc htask =>
    rw [hcontrol, hframes] at hthread
    refine .inr (.inr ⟨i, c, hthread, fun s'' ho hret hrun hlost => ?_⟩)
    obtain ⟨fn', hf', -⟩ := hfirst.ages h hf
    have hi' : (s.life f).invoker? = some i := by
      simp [Life.invoker?, life, hf, hi]
    have hpending' : s'.service.pendingOn i = s.service.pendingOn i ++ [sub] := by
      rw [← hpending, ← hresult]
      rfl
    have hturn : s'.InTurn f i c (s.appendedTo f ++ [data]).length :=
      .queued hpending' hc htask (by simp [happended, drainsOf])
    obtain ⟨own, own', hlife⟩ := h.lifeStep hstep f
    obtain ⟨fn'', hf'', -⟩ := (hfirst.trans ho).ages h hf
    refine hret.doneWith (hs'.onward ho) hf'' (hasks ho)
      (happended ▸ ho.appendedTo_mono hs' f) ?_
    cases (hturn.onward hs' (hlife.invoker?_eq hi') ho).1 with
    | queued hqueued hc' =>
      exact absurd hc' (hrun _ (by rw [hqueued]; simp))
    | due hdue =>
      have hrun : Life.Run f False (s''.life f) (s''.doing f) := (hs'.onward ho).run f False.elim
      have hle := hrun.le_taken hdue (hret.starting (hs'.onward ho)) (by rwa [marks_life])
      rwa [taken_life] at hle
    | lost hlost' => exact absurd hlost' hlost

/-- A function that delivers synchronously. -/
def synchronous : List Action :=
  [.createInvoker "queue" .unlimited,
    .createFunction
      { name := "f", callJs := true, delivery := some .sync, invoker := some "queue" }]

/-- A producer is about to call the function. -/
def callingFirst : Session :=
  ((start [] none).during? synchronous (.spawnCall "p" (.named "f") (.word 1) .nonBlocking) 1).get
    (by decide +kernel)

/-- The producer waits. -/
def calledFirst : Session := (callingFirst.step (.spawned 0)).get (by decide +kernel)

/-- Its call has returned, because its task was run. -/
def returnedFirst : Session := (calledFirst.beginAction (.pump "queue" .one)).settle 12

/-- The producer waits, and the owner of the queue is about to call the function, too. -/
def callingSecond : Session :=
  (calledFirst.beginAction (.call (.named "f") (.word 2) .nonBlocking)).settle 1

/-- The owner of the queue is about to run its task. -/
def calledSecond : Session := (callingSecond.step .main).get (by decide +kernel)

/-- Its call has returned. -/
def returnedSecond : Session := calledSecond.settle 7

/-- The producer's call returns when its item was delivered.  The call of the owner returns when the
item of the producer was delivered, and its own is queued. -/
theorem sync_delivery_calledSecond :
    calledFirst.Onward returnedFirst ∧ returnedFirst.Returned (.spawned 0) [.spawned 0] ∧
      returnedFirst.DoneWith ⟨1⟩ [1] ∧
      calledSecond.Onward returnedSecond ∧ returnedSecond.Returned .main [.outcomeAnswer] ∧
      returnedSecond.DoneWith ⟨1⟩ [1] ∧ returnedSecond.appendedTo ⟨1⟩ = [1, 2] ∧
      returnedSecond.takenFrom ⟨1⟩ = [1] := by
  have hfirst : callingFirst.Reachable := (Reachable.start [] none).during? (Option.some_get _).symm
  have hstep : callingFirst.step (.spawned 0) = some calledFirst := (Option.some_get _).symm
  have hfunction : callingFirst.functions.object? ⟨1⟩ = some _ :=
    (Option.some_get (by decide +kernel)).symm
  have hrest : callingFirst.OthersAtRest (.spawned 0) := by decide +kernel
  have hcalled : calledFirst.Reachable := hfirst.step _ hrest hstep
  have hwaiting : calledFirst.threads.get? (.spawned 0)
      = some { control := .run (.awaitTask 0 0), stack := [.called 0, .spawned 0] } := rfl
  have hidle : calledFirst.MainIdle := ⟨_, rfl⟩
  have honward : calledFirst.Onward returnedFirst := .settle (.act _ .refl hidle) 12
  have hreturned : returnedFirst.Returned (.spawned 0) [.spawned 0] := ⟨rfl, by decide +kernel⟩
  have hsecond : callingSecond.Reachable := (hcalled.act _ hidle).settle 1
  have hstep' : callingSecond.step .main = some calledSecond := (Option.some_get _).symm
  have hfunction' : callingSecond.functions.object? ⟨1⟩ = some _ :=
    (Option.some_get (by decide +kernel)).symm
  have hqueue : ((callingSecond.functions.object? ⟨1⟩).get (by decide +kernel)).queue = [1] := by
    decide +kernel
  have hrunning : calledSecond.threads.get? .main
      = some { control := .run (.task 0 (.drain ⟨1⟩)),
               stack := [.ranInline 0, .called 0, .outcomeAnswer] } := rfl
  have honward' : calledSecond.Onward returnedSecond := .settle .refl 7
  have hreturned' : returnedSecond.Returned .main [.outcomeAnswer] := ⟨rfl, by decide +kernel⟩
  refine ⟨honward, hreturned, ?_, honward', hreturned', ?_, by decide +kernel, by decide +kernel⟩
  · rcases hfirst.sync_delivery hrest hfunction (by decide +kernel) rfl (.inl ⟨.nonBlocking, rfl⟩)
      hstep (by decide +kernel) with hlost | ⟨i, hthread, -⟩ | ⟨i, c, hthread, hdone⟩
    · exact absurd hlost (by decide +kernel)
    · simp [hwaiting] at hthread
    · have hcontrol := (Thread.mk.inj (Option.some.inj (hwaiting.symm.trans hthread))).1
      obtain ⟨rfl, rfl⟩ := Code.awaitTask.inj (Control.run.inj hcontrol)
      exact hdone _ honward hreturned (by decide +kernel) (by decide +kernel)
  · rcases hsecond.sync_delivery (by decide +kernel) hfunction' (by decide +kernel) rfl
      (.inl ⟨.nonBlocking, rfl⟩) hstep' (by decide +kernel)
      with hlost | ⟨i, -, hdone⟩ | ⟨i, c, hthread, -⟩
    · exact absurd hlost (by decide +kernel)
    · obtain ⟨item, rest, hitem, hdone⟩ := hdone _ honward' hreturned'
      obtain rfl : item = 1 := by
        rw [hqueue] at hitem
        exact (List.cons_eq_cons.1 hitem).1.symm
      exact hdone
    · simp [hrunning] at hthread

end Session

end AddonHost
