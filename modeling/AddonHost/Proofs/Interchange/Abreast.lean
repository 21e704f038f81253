import AddonHost.Proofs.Interchange.Agreement
import AddonHost.Proofs.Interchange.Employer

/-!
Two sessions abreast.

Two sessions are abreast (`Session.Abreast`) if they are the same on stage and the invoker has the
same tasks queued in both, whoever runs them.  A callback does the same in both: each step that it
takes on the thread that runs the invoker's tasks is the same move, and leaves the sessions abreast
(`Abreast.step`, `Abreast.resume`).  What operations submit is queued in both, or runs at once in
both.  That needs every function to be over the invoker (`Session.IsServedBy`): without one, a
function that closes is torn down at once.
-/

namespace AddonHost

/-- Whether a callback may come to a piece of code. -/
def Code.isInner (i : InvokerId) : Code → Bool
  | .letGo j _ => j = i
  | c => c.isLight true

/-- Whether a callback may come to a frame. -/
def Frame.isInner (i : InvokerId) : Frame → Bool
  | .called j | .ranInline j => j = i
  | fr => fr.isLight

/-- Whether a callback may come to a control. -/
def Control.isInner (i : InvokerId) : Control → Bool
  | .run c => c.isInner i
  | .give _ => true
  | .fail => false

/-- Whether a piece of code submits a task that nothing waits for, and is over then. -/
def Code.submits : Code → Bool
  | .perform (.queueJob ..) | .entry .runtime (.queueAsyncWork ..) | .release .. => true
  | _ => false

/-- How many keep the invoker alive for a piece of code. -/
def Code.keeps : Code → ℕ
  | .letGo .. | .pump .. => 1
  | _ => 0

/-- How many keep the invoker alive for a control. -/
def Control.keeps : Control → ℕ
  | .run c => c.keeps
  | _ => 0

/-- How many keep the invoker alive for a frame. -/
def Frame.keeps : Frame → ℕ
  | .called _ | .pumped .. => 1
  | _ => 0

/-- How many keep the invoker alive for frames. -/
def keepsOf (frames : List Frame) : ℕ := (frames.map Frame.keeps).sum

/-- How many keep the invoker alive for a thread. -/
def Thread.keeps (th : Thread) : ℕ := th.control.keeps + keepsOf th.stack

/-- How many keep the invoker alive for what a thread goes on with after a move. -/
def Move.keeps (m : Move) : ℕ := m.control.keeps + keepsOf m.frames

@[simp] theorem keepsOf_nil : keepsOf [] = 0 := rfl

@[simp] theorem keepsOf_cons (fr : Frame) (frames : List Frame) :
    keepsOf (fr :: frames) = fr.keeps + keepsOf frames := by
  simp [keepsOf]

@[simp] theorem keepsOf_append (frames below : List Frame) :
    keepsOf (frames ++ below) = keepsOf frames + keepsOf below := by
  simp [keepsOf]

theorem Code.keeps_of_isLight {nested : Bool} {c : Code} (h : c.isLight nested = true) :
    c.keeps = 0 := by
  cases c <;> simp_all [isLight, keeps]

theorem Frame.keeps_of_isLight {fr : Frame} (h : fr.isLight = true) : fr.keeps = 0 := by
  cases fr <;> simp_all [isLight, keeps]

theorem Frame.isInner_of_isLight {i : InvokerId} {fr : Frame} (h : fr.isLight = true) :
    fr.isInner i = true := by
  cases fr <;> simp_all [isLight, isInner]

theorem Control.isInner_of_isLight {i : InvokerId} {c : Control} (h : c.isLight true = true) :
    c.isInner i = true := by
  cases c with
  | run c => cases c <;> simp_all [isLight, isInner, Code.isLight, Code.isInner]
  | give r => rfl
  | fail => simp [isLight] at h

theorem keepsOf_of_isLight {frames : List Frame} (h : frames.all Frame.isLight = true) :
    keepsOf frames = 0 := by
  induction frames with
  | nil => rfl
  | cons fr frames ih =>
    obtain ⟨hfr, hframes⟩ := Bool.and_eq_true_iff.1 h
    simp [Frame.keeps_of_isLight hfr, ih hframes]

theorem Move.keeps_of_isLight {nested : Bool} {m : Move}
    (h : m.control.isLight nested = true ∧ m.frames.all Frame.isLight = true) : m.keeps = 0 := by
  have hcontrol : m.control.keeps = 0 := by
    obtain ⟨session, control, frames⟩ := m
    cases control with
    | run c => exact Code.keeps_of_isLight h.1
    | _ => rfl
  rw [keeps, hcontrol, keepsOf_of_isLight h.2]

namespace Session

/-- Every threadsafe function is over the invoker `i`. -/
def IsServedBy (s : Session) (i : InvokerId) : Prop :=
  ∀ f fn, s.functions.object? f = some fn → fn.invoker = some i

/-- Two sessions are the same on stage, and the invoker has the same tasks queued in both, which
operations have submitted; more than `kept` and `kept'` keep it alive. -/
structure Abreast (i : InvokerId) (name : String) (own own' : ThreadId) (kept kept' : ℕ)
    (s d : Session) : Prop where
  onstage : s.onstage = d.onstage
  order : s.InOrder i name
  work : ∃ tasks : List Task, (∀ task ∈ tasks, task.isLight = true) ∧
    s.Employs i own (tasks.map (·, none)) kept ∧ d.Employs i own' (tasks.map (·, none)) kept'

/-- Two sessions go on abreast, while their threads and completions stay as they are. -/
structure Advance (i : InvokerId) (name : String) (own own' : ThreadId) (kept kept' : ℕ)
    (s d s' d' : Session) : Prop where
  abreast : Abreast i name own own' kept kept' s' d'
  desk : s'.desk = s.desk
  desk' : d'.desk = d.desk

end Session

/-- Two moves are the same for a callback, and the sessions go on abreast. -/
structure Move.Abreast (i : InvokerId) (name : String) (own own' : ThreadId) (kept kept' : ℕ)
    (s d : Session) (m m' : Move) : Prop where
  control : m.control = m'.control
  frames : m.frames = m'.frames
  inner : m.control.isInner i = true ∧ m.frames.all (Frame.isInner i) = true
  advance : Session.Advance i name own own' (kept + m.keeps) (kept' + m.keeps) s d m.session
    m'.session

namespace Session

variable {i : InvokerId} {name : String} {nested : Bool} {own own' t t' : ThreadId}
  {kept kept' : ℕ} {s d s' d' s'' d'' : Session} {m m' : Move} {f : HandleId}
  {fn : ThreadsafeFunction}

theorem Advance.trans (h : Advance i name own own' kept kept' s d s' d')
    (h' : Advance i name own own' kept kept' s' d' s'' d'') :
    Advance i name own own' kept kept' s d s'' d'' :=
  ⟨h'.abreast, h'.desk.trans h.desk, h'.desk'.trans h.desk'⟩

theorem Abreast.refl (h : Abreast i name own own' kept kept' s d) :
    Advance i name own own' kept kept' s d s d := ⟨h, rfl, rfl⟩

/-- What happens on stage alone leaves two sessions abreast, if it leaves them the same. -/
theorem Abreast.advance (h : Abreast i name own own' kept kept' s d)
    (hs : s'.backstage = s.backstage) (hd : d'.backstage = d.backstage)
    (ho : s'.onstage = d'.onstage) (hr : s'.InOrder i name) :
    Advance i name own own' kept kept' s d s' d' := by
  obtain ⟨tasks, htasks, hs', hd'⟩ := h.work
  exact ⟨⟨ho, hr, tasks, htasks, hs'.of_backstage hs, hd'.of_backstage hd⟩, desk_of_backstage hs,
    desk_of_backstage hd⟩

theorem Abreast.agrees (h : Abreast i name own own' kept kept' s d)
    (ha : m.Agrees i name nested m') (hs : m.Aside s) (hd : m'.Aside d) :
    Advance i name own own' kept kept' s d m.session m'.session :=
  h.advance hs.backstage hd.backstage ha.onstage ha.order

theorem Abreast.move_agrees (h : Abreast i name own own' kept kept' s d)
    (ha : m.Agrees i name true m') (hs : m.Aside s) (hd : m'.Aside d) :
    Move.Abreast i name own own' kept kept' s d m m' := by
  refine ⟨ha.control, ha.frames, ⟨Control.isInner_of_isLight ha.light.1, ?_⟩, ?_⟩
  · exact List.all_eq_true.2 fun fr hfr =>
      Frame.isInner_of_isLight (List.all_eq_true.1 ha.light.2 fr hfr)
  · simpa [Move.keeps_of_isLight ha.light] using h.agrees ha hs hd

/-- A change behind the stage of both. -/
theorem Abreast.behind (h : Abreast i name own own' kept kept' s d) (hs : Behind s s')
    (hd : Behind d d') {tasks : List Task} (htasks : ∀ task ∈ tasks, task.isLight = true)
    {k k' : ℕ} (hs' : s'.Employs i own (tasks.map (·, none)) k)
    (hd' : d'.Employs i own' (tasks.map (·, none)) k') :
    Advance i name own own' k k' s d s' d' :=
  ⟨⟨hs.onstage.trans (h.onstage.trans hd.onstage.symm), (inOrder_iff hs.onstage).2 h.order, tasks,
    htasks, hs', hd'⟩, hs.desk, hd.desk⟩

/-- A task is queued behind the stage of both. -/
theorem Abreast.behind_append (h : Abreast i name own own' kept kept' s d) (hs : Behind s s')
    (hd : Behind d d') {tasks : List Task} (htasks : ∀ task ∈ tasks, task.isLight = true)
    {task : Task} (htask : task.isLight = true) {k k' : ℕ}
    (hs' : s'.Employs i own (tasks.map (·, none) ++ [(task, none)]) k)
    (hd' : d'.Employs i own' (tasks.map (·, none) ++ [(task, none)]) k') :
    Advance i name own own' k k' s d s' d' := by
  have happend : (tasks.map (·, none)) ++ [(task, none)]
      = (tasks ++ [task]).map (·, (none : Option ℕ)) := by simp
  rw [happend] at hs' hd'
  refine h.behind hs hd (fun task' htask' => ?_) hs' hd'
  rcases List.mem_append.1 htask' with htask' | htask'
  · exact htasks task' htask'
  · rwa [List.mem_singleton.1 htask']

theorem isServedBy_iff (h : s.onstage = d.onstage) : s.IsServedBy i ↔ d.IsServedBy i := by
  unfold IsServedBy
  rw [functions_eq h]

theorem IsServedBy.modify (h : s.IsServedBy i) {g : ThreadsafeFunction → ThreadsafeFunction}
    (hg : ∀ fn, (g fn).invoker = fn.invoker) (f : HandleId) :
    (s.modifyFunction f g).IsServedBy i := by
  intro f' fn' hf'
  simp only [modifyFunction, Registry.object?_modify] at hf'
  split at hf'
  · obtain ⟨fn, hfn, rfl⟩ := Option.map_eq_some_iff.1 hf'
    exact (hg fn).trans (h f' fn hfn)
  · exact h f' fn' hf'

/-! ### Submissions -/

theorem Abreast.offer (h : Abreast i name own own' kept kept' s d) (t t' : ThreadId) {task : Task}
    (htask : task.isLight = true) :
    ∃ s' d', s.offer t i false task = (.accepted, s') ∧ d.offer t' i false task = (.accepted, d') ∧
      Advance i name own own' kept kept' s d s' d' := by
  obtain ⟨tasks, htasks, hs, hd⟩ := h.work
  obtain ⟨s', hs', hbehind, hwork⟩ := hs.offer t task
  obtain ⟨d', hd', hbehind', hwork'⟩ := hd.offer t' task
  exact ⟨s', d', hs', hd', h.behind_append hbehind hbehind' htasks htask hwork hwork'⟩

theorem Abreast.exists_live (h : Abreast i name own own' kept kept' s d) :
    ∃ inv inv', s.liveInvoker? (some i) = some (i, inv) ∧
      d.liveInvoker? (some i) = some (i, inv') := by
  obtain ⟨tasks, -, hs, hd⟩ := h.work
  obtain ⟨inv, hinv⟩ := hs.exists_live
  obtain ⟨inv', hinv'⟩ := hd.exists_live
  exact ⟨inv, inv', hinv, hinv'⟩

/-- A function is closed: its teardown is queued. -/
theorem Abreast.closeThen (h : Abreast i name own own' kept kept' s d) (hover : s.IsServedBy i)
    (t t' : ThreadId) (f : HandleId) (r : Reply) :
    ∃ s' d', s.closeThen t f r = s'.give r ∧ d.closeThen t' f r = d'.give r ∧
      Advance i name own own' kept kept' s d s' d' := by
  unfold Session.closeThen
  rw [← functions_eq h.onstage]
  cases hf : s.functions.object? f with
  | none => exact ⟨s, d, rfl, rfl, h.refl⟩
  | some fn =>
    by_cases hscheduled : fn.finalizeScheduled = true
    · exact ⟨s, d, by simp [hscheduled], by simp [hscheduled], h.refl⟩
    have hclosed : Advance i name own own' kept kept' s d
        ((s.modifyFunction f (·.close)).emit (.closed f))
        ((d.modifyFunction f (·.close)).emit (.closed f)) :=
      h.advance (by simp [backstage_emit, Event.isService])
        (by simp [backstage_emit, Event.isService])
        (by simp [onstage_emit, h.onstage]) (by simpa using h.order)
    obtain ⟨inv, inv', hinv, hinv'⟩ := hclosed.abreast.exists_live
    obtain ⟨s', d', hs', hd', hoffer⟩ :=
      hclosed.abreast.offer t t' (rfl : (Task.teardown f).isLight = true)
    refine ⟨s'.emit (.teardownOffered f true), d'.emit (.teardownOffered f true), ?_, ?_,
      (hclosed.trans hoffer).trans (hoffer.abreast.advance
        (by simp [backstage_emit, Event.isService]) (by simp [backstage_emit, Event.isService])
        (by simp [onstage_emit, hoffer.abreast.onstage]) (by simpa using hoffer.abreast.order))⟩
    · simp [hscheduled, hover f fn hf, hinv, hs']
    · simp [hscheduled, hover f fn hf, hinv', hd']

theorem advance_give (h : Advance i name own own' kept kept' s d s' d') (r : Reply) :
    Move.Abreast i name own own' kept kept' s d (s'.give r) (d'.give r) :=
  ⟨rfl, rfl, ⟨rfl, rfl⟩, h⟩

theorem Abreast.release (h : Abreast i name own own' kept kept' s d) (hover : s.IsServedBy i)
    (t t' : ThreadId) (f : HandleId) (mode : ReleaseMode) :
    ∃ s' d' r, s.release t f mode = s'.give r ∧ d.release t' f mode = d'.give r ∧
      Advance i name own own' kept kept' s d s' d' := by
  unfold Session.release
  rw [← functions_eq h.onstage]
  cases hf : s.functions.object? f with
  | none => exact ⟨s, d, _, rfl, rfl, h.refl⟩
  | some fn =>
    by_cases hclosing : fn.closing = true
    · exact ⟨s, d, .outcome (.error .closing), by simp [hclosing], by simp [hclosing], h.refl⟩
    cases mode with
    | abort =>
      have habort : Advance i name own own' kept kept' s d
          ((((s.modifyFunction f fun fn => fn.abort.dropHolder).emit
            (.released f fn.dropHolder.threadCount)).emit (.aborted f)).log .debug
              (functionText f ++ " aborted"))
          ((((d.modifyFunction f fun fn => fn.abort.dropHolder).emit
            (.released f fn.dropHolder.threadCount)).emit (.aborted f)).log .debug
              (functionText f ++ " aborted")) :=
        h.advance (by simp [backstage_emit, Event.isService])
          (by simp [backstage_emit, Event.isService]) (by simp [onstage_emit, h.onstage])
          (by simpa using h.order)
      have hover' := hover.modify (g := fun fn => fn.abort.dropHolder) (fun _ => rfl) f
      obtain ⟨s', d', hs', hd', hclose⟩ :=
        habort.abreast.closeThen ((isServedBy_iff (onstage_log ..)).2 hover') t t' f
          (.outcome (.ok ()))
      exact ⟨s', d', _, by simpa [hclosing] using hs', by simpa [hclosing] using hd',
        habort.trans hclose⟩
    | release =>
      have hdrop : Advance i name own own' kept kept' s d
          ((s.modifyFunction f (·.dropHolder)).emit (.released f fn.dropHolder.threadCount))
          ((d.modifyFunction f (·.dropHolder)).emit (.released f fn.dropHolder.threadCount)) :=
        h.advance (by simp [backstage_emit, Event.isService])
          (by simp [backstage_emit, Event.isService]) (by simp [onstage_emit, h.onstage])
          (by simpa using h.order)
      by_cases hspent : fn.dropHolder.isSpent = true
      · have hover' := hover.modify (g := (·.dropHolder)) (fun _ => rfl) f
        obtain ⟨s', d', hs', hd', hclose⟩ :=
          hdrop.abreast.closeThen hover' t t' f (.outcome (.ok ()))
        exact ⟨s', d', _, by simpa [hclosing, hspent] using hs',
          by simpa [hclosing, hspent] using hd', hdrop.trans hclose⟩
      · exact ⟨_, _, .outcome (.ok ()), by simp [hclosing, hspent], by simp [hclosing, hspent],
          hdrop⟩

theorem Abreast.afterDrain (h : Abreast i name own own' kept kept' s d) (hover : s.IsServedBy i)
    (t t' : ThreadId) (f : HandleId) (wasEmpty : Bool) :
    ∃ s' d', s.afterDrain t f wasEmpty = s'.give .unit ∧
      d.afterDrain t' f wasEmpty = d'.give .unit ∧
      Advance i name own own' kept kept' s d s' d' := by
  unfold Session.afterDrain
  rw [← functions_eq h.onstage]
  cases hf : s.functions.object? f with
  | none => exact ⟨s, d, rfl, rfl, h.refl⟩
  | some fn =>
    dsimp only
    split
    · exact h.closeThen hover t t' f .unit
    · exact ⟨s, d, rfl, rfl, h.refl⟩

theorem Abreast.pushed (h : Abreast i name own own' kept kept' s d) (f : HandleId) (data : Word) :
    Advance i name own own' kept kept' s d (s.pushed f data) (d.pushed f data) :=
  h.advance (by simp [Session.pushed, backstage_emit, Event.isService])
    (by simp [Session.pushed, backstage_emit, Event.isService])
    (by simp [Session.pushed, onstage_emit, h.onstage]) (by simpa [Session.pushed] using h.order)

/-- An item is appended, and its dispatch task is queued. -/
theorem Abreast.appendItem (h : Abreast i name own own' kept kept' s d) (hover : s.IsServedBy i)
    (hf : s.functions.object? f = some fn) (hasync : fn.delivery ≠ .sync) (t t' : ThreadId)
    (data : Word) :
    ∃ s' d', s.appendItem t f fn data = s'.give (.outcome (.ok ())) ∧
      d.appendItem t' f fn data = d'.give (.outcome (.ok ())) ∧
      Advance i name own own' kept kept' s d s' d' := by
  have hpushed := h.pushed f data
  obtain ⟨tasks, htasks, hs, hd⟩ := h.work
  obtain ⟨s', hs', hbehind, hwork⟩ := hs.appendItem (hover f fn hf) hasync t f data
  obtain ⟨d', hd', hbehind', hwork'⟩ := hd.appendItem (hover f fn hf) hasync t' f data
  exact ⟨s', d', hs', hd', hpushed.trans
    (hpushed.abreast.behind_append hbehind hbehind' htasks rfl hwork hwork')⟩

/-- An item is appended on the thread that runs its dispatch task, which runs at once. -/
theorem Abreast.appendItem_own (h : Abreast i name own own' kept kept' s d) (hover : s.IsServedBy i)
    (hf : s.functions.object? f = some fn) (hsync : fn.delivery = .sync) (data : Word) :
    Move.Abreast i name own own' kept kept' s d (s.appendItem own f fn data)
      (d.appendItem own' f fn data) := by
  have hpushed := h.pushed f data
  obtain ⟨tasks, htasks, hs, hd⟩ := h.work
  obtain ⟨s', hs', hbehind, hwork⟩ := hs.appendItem_own (hover f fn hf) hsync f data
  obtain ⟨d', hd', hbehind', hwork'⟩ := hd.appendItem_own (hover f fn hf) hsync f data
  have hinline := hpushed.abreast.behind hbehind hbehind' htasks hwork hwork'
  rw [hs', hd']
  exact ⟨rfl, rfl, ⟨rfl, by simp [run, Frame.isInner]⟩, hinline.abreast,
    hinline.desk.trans hpushed.desk, hinline.desk'.trans hpushed.desk'⟩

theorem admission_nonBlocking (fn : ThreadsafeFunction) : fn.admission .nonBlocking ≠ .wait := by
  unfold ThreadsafeFunction.admission
  split_ifs <;> simp

/-- A call that does not wait. -/
theorem Abreast.call (h : Abreast i name own own' kept kept' s d) (hover : s.IsServedBy i)
    (f : HandleId) (data : Word) :
    Move.Abreast i name own own' kept kept' s d (s.call own f data .nonBlocking)
      (d.call own' f data .nonBlocking) := by
  unfold Session.call
  rw [← functions_eq h.onstage]
  cases hf : s.functions.object? f with
  | none => exact advance_give h.refl _
  | some fn =>
    dsimp only
    split
    · exact advance_give h.refl _
    · next hwait => exact absurd hwait (admission_nonBlocking fn)
    · by_cases hsync : fn.delivery = .sync
      · exact h.appendItem_own hover hf hsync data
      · obtain ⟨s', d', hs', hd', happend⟩ := h.appendItem hover hf hsync own own' data
        rw [hs', hd']
        exact advance_give happend _

/-- What an env is bound to keeps no invoker alive in either session, or it is the invoker. -/
theorem Abreast.liveInvoker?_cases (h : Abreast i name own own' kept kept' s d)
    (bound : Option InvokerId) :
    s.liveInvoker? bound = none ∧ d.liveInvoker? bound = none ∨ bound = some i := by
  cases bound with
  | none => exact .inl ⟨rfl, rfl⟩
  | some k =>
    cases hs : s.invokers.get? k with
    | none =>
      have hd : d.invokers.get? k = none := by
        have := isSome_invoker_eq h.onstage k
        simpa [hs] using this
      exact .inl ⟨by simp [liveInvoker?, hs], by simp [liveInvoker?, hd]⟩
    | some inv => exact .inr (congrArg some (h.order.2.2.2 k (by simp [hs])))

/-- A job is queued in both, or refused in both. -/
theorem Abreast.queueJob (h : Abreast i name own own' kept kept' s d) (t t' : ThreadId)
    (j : HandleId) (env : Word) :
    ∃ s' d' r, s.queueJob t j env = (r, s') ∧ d.queueJob t' j env = (r, d') ∧
      Advance i name own own' kept kept' s d s' d' := by
  unfold Session.queueJob
  rw [← jobs_eq h.onstage, ← bindings_eq h.onstage]
  cases hj : s.jobs.object? j with
  | none => exact ⟨s, d, _, rfl, rfl, h.refl⟩
  | some job =>
    rcases h.liveInvoker?_cases (s.bindings.get? env) with ⟨hs, hd⟩ | hbound
    · rw [hs, hd]
      exact ⟨_, _, _, rfl, rfl, h.advance (backstage_log ..) (backstage_log ..)
        (by simp [h.onstage]) (by simpa using h.order)⟩
    · obtain ⟨inv, inv', hinv, hinv'⟩ := h.exists_live
      rw [hbound, hinv, hinv']
      cases hdispatch : job.dispatch with
      | error e => exact ⟨s, d, .error e, by simp [hdispatch], by simp [hdispatch], h.refl⟩
      | ok job' =>
        have hjob : Advance i name own own' kept kept' s d (s.modifyJob j fun _ => job')
            (d.modifyJob j fun _ => job') :=
          h.advance rfl rfl (by simp [h.onstage]) (by simpa using h.order)
        obtain ⟨s', d', hs', hd', hoffer⟩ :=
          hjob.abreast.offer t t' (rfl : (Task.work j env).isLight = true)
        exact ⟨s', d', .ok (), by simp [hdispatch, hs'], by simp [hdispatch, hd'],
          hjob.trans hoffer⟩

theorem Abreast.queueJobById (h : Abreast i name own own' kept kept' s d) (t t' : ThreadId)
    (j : HandleId) (env : Word) :
    ∃ s' d' r, s.queueJobById t j env = (r, s') ∧ d.queueJobById t' j env = (r, d') ∧
      Advance i name own own' kept kept' s d s' d' := by
  unfold Session.queueJobById
  rw [← jobs_eq h.onstage]
  cases s.jobs.entry? j with
  | none => exact ⟨s, d, _, rfl, rfl, h.refl⟩
  | some p => exact h.queueJob t t' p.1 env

/-- What submits a task and is over then is the same in both. -/
theorem Abreast.submit (h : Abreast i name own own' kept kept' s d) (hover : s.IsServedBy i)
    (t t' : ThreadId) {c : Code} (hc : c.submits = true) :
    ∃ s' d' r, c.step t s = some (s'.give r) ∧ c.step t' d = some (d'.give r) ∧
      Advance i name own own' kept kept' s d s' d' := by
  unfold Code.submits at hc
  split at hc
  · next job env direct =>
    simp only [Code.step, perform, onJob, ← keptJob?_eq h.onstage, ← value_eq h.onstage]
    cases (if direct = true then s.keptJob? job else none) with
    | none =>
      obtain ⟨s', d', r, hs', hd', hqueue⟩ :=
        h.queueJobById t t' ⟨s.value job⟩ (s.value env)
      exact ⟨s', d', .answer (.outcome r), by rw [hs']; rfl, by rw [hd']; rfl, hqueue⟩
    | some j =>
      obtain ⟨s', d', r, hs', hd', hqueue⟩ := h.queueJob t t' j (s.value env)
      exact ⟨s', d', .answer (.outcome r), by simp only [hs']; rfl, by simp only [hd']; rfl,
        hqueue⟩
  · next env work =>
    obtain ⟨s', d', r, hs', hd', hqueue⟩ := h.queueJobById t t' ⟨work⟩ env
    exact ⟨s', d', _, by simp [Code.step, Session.entry, runtimeEntry, hs']; rfl,
      by simp [Code.step, Session.entry, runtimeEntry, hd']; rfl, hqueue⟩
  · next f mode =>
    obtain ⟨s', d', r, hs', hd', hrelease⟩ := h.release hover t t' f mode
    exact ⟨s', d', r, congrArg some hs', congrArg some hd', hrelease⟩
  · simp at hc

/-! ### Steps of a callback -/

/-- What operations lead to leaves the invokers alone, unless it submits a task. -/
theorem isAside_of_isLight {c : Code} (hlight : c.isLight nested = true)
    (hcall : ∀ f data mode, c ≠ .call f data mode) (hsubmits : c.submits = false) :
    c.isAside = true ∧ (∀ a, c = .perform a → a.isAside = true) ∧
      ∀ r, c = .entry .runtime r → r.isAside = true := by
  refine ⟨?_, ?_, ?_⟩
  · cases c <;> simp_all [Code.isLight, Code.isAside, Code.submits]
  · rintro a rfl
    cases a <;> simp_all [Code.isLight, Action.isOperation, Action.isAside, Code.submits]
  · rintro r rfl
    cases r <;> simp_all [Request.isAside, Code.submits]

/-- A step that leaves the invokers alone is the same in both. -/
theorem Abreast.exists_agrees (h : Abreast i name own own' kept kept' s d) {c : Code}
    (hlight : c.isLight nested = true) (hcall : ∀ f data mode, c ≠ .call f data mode)
    (hsubmits : c.submits = false) (t t' : ThreadId) :
    ∃ m m', c.step t s = some m ∧ c.step t' d = some m' ∧ m.Agrees i name nested m' ∧
      m.Aside s ∧ m'.Aside d := by
  obtain ⟨haside, hperform, hentry⟩ := isAside_of_isLight hlight hcall hsubmits
  obtain ⟨m, m', hm, hm', hagrees⟩ :=
    agrees_step h.onstage h.order t t' hlight haside hperform hentry
  exact ⟨m, m', hm, hm', hagrees, aside_step haside hperform hentry hm,
    aside_step haside hperform hentry hm'⟩

/-- A step of a callback is the same in both. -/
theorem Abreast.step {c : Code} (hc : c.isInner i = true)
    (h : Abreast i name own own' (kept + c.keeps) (kept' + c.keeps) s d) (hover : s.IsServedBy i) :
    ∃ m m', c.step own s = some m ∧ c.step own' d = some m' ∧
      Move.Abreast i name own own' kept kept' s d m m' := by
  by_cases hletGo : ∃ j r, c = .letGo j r
  · obtain ⟨j, r, rfl⟩ := hletGo
    obtain rfl : j = i := by simpa [Code.isInner] using hc
    obtain ⟨tasks, htasks, hs, hd⟩ := h.work
    obtain ⟨s', hs', hbehind, hwork⟩ := hs.letGo own r
    obtain ⟨d', hd', hbehind', hwork'⟩ := hd.letGo own' r
    exact ⟨_, _, congrArg some hs', congrArg some hd',
      advance_give (h.behind hbehind hbehind' htasks hwork hwork') r⟩
  have hlight : c.isLight true = true := by
    cases c <;> simp_all [Code.isInner]
  rw [Code.keeps_of_isLight hlight, Nat.add_zero, Nat.add_zero] at h
  by_cases hcall : ∃ f data mode, c = .call f data mode
  · obtain ⟨f, data, mode, rfl⟩ := hcall
    obtain rfl : mode = .nonBlocking := by simpa [Code.isLight] using hlight
    exact ⟨_, _, rfl, rfl, h.call hover f data⟩
  cases hsubmits : c.submits with
  | true =>
    obtain ⟨s', d', r, hs', hd', hadvance⟩ := h.submit hover own own' hsubmits
    exact ⟨_, _, hs', hd', advance_give hadvance r⟩
  | false =>
    obtain ⟨m, m', hm, hm', hagrees, hs, hd⟩ := h.exists_agrees hlight
      (fun f data mode heq => hcall ⟨f, data, mode, heq⟩) hsubmits own own'
    exact ⟨m, m', hm, hm', h.move_agrees hagrees hs hd⟩

/-- What a callback does with a reply is the same in both. -/
theorem Abreast.resume {fr : Frame} (hfr : fr.isInner i = true)
    (h : Abreast i name own own' (kept + fr.keeps) (kept' + fr.keeps) s d) (hover : s.IsServedBy i)
    (r : Reply) :
    Move.Abreast i name own own' kept kept' s d (fr.resume own s r) (fr.resume own' d r) := by
  cases fr with
  | called j =>
    obtain rfl : j = i := by simpa [Frame.isInner] using hfr
    exact ⟨rfl, rfl, ⟨by simp [Frame.resume, run, Control.isInner, Code.isInner], rfl⟩, h.refl⟩
  | ranInline j =>
    obtain rfl : j = i := by simpa [Frame.isInner] using hfr
    obtain ⟨tasks, htasks, hs, hd⟩ := h.work
    exact advance_give (h.behind
      ((behind_modifyInvoker s j _).trans (behind_emit rfl))
      ((behind_modifyInvoker d j _).trans (behind_emit rfl)) htasks
      (hs.countExecuted.of_invokers rfl) (hd.countExecuted.of_invokers rfl)) .unit
  | drained f wasEmpty =>
    obtain ⟨s', d', hs', hd', hclose⟩ := h.afterDrain hover own own' f wasEmpty
    simp only [Frame.resume, hs', hd']
    exact advance_give hclose .unit
  | taskEnded | pumped | looped | joined | submitted | ranRejected | spawned =>
    simp [Frame.isInner, Frame.isLight] at hfr
  | performed owner a rest =>
    have hlight : (Frame.performed owner a rest).isLight = true := hfr
    exact h.move_agrees (agrees_resume h.onstage h.order own own' hlight rfl r)
      (aside_resume own rfl r) (aside_resume own' rfl r)
  | _ =>
    exact h.move_agrees (agrees_resume h.onstage h.order own own' rfl rfl r)
      (aside_resume own rfl r) (aside_resume own' rfl r)

end Session

end AddonHost
