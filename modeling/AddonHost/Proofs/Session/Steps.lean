import AddonHost.Proofs.Function.Moves
import AddonHost.Proofs.Job.Moves
import AddonHost.Proofs.Multiplexer.Moves

/-!
Every move is a step.

Tasks that are taken off a queue start, queues that are dropped lose their tasks, and what else a
thread does is plain or a move of one function, of one job or of the multiplexers.
`Code.step_does`, `Frame.resume_does` and `Frame.unwind_does` put this together for each piece of
code and each frame.
-/

namespace AddonHost

namespace Session

variable {s s' : Session} {t : ThreadId} {below : List Frame} {g : HandleId}
  {fn : ThreadsafeFunction} {own : List Activity}

/-! ### Tasks -/

theorem task_does (hs : s.Sane) {i : InvokerId} {task : Task}
    (hg : Thread.Guarded { control := .run (.task i task), stack := below }) :
    (s.task i task).Does s t below (fun f => (Code.task i task).activities f t below)
      fun j => (Code.task i task).works j := by
  unfold Session.task
  split
  · exact drain_does hs hg.stack
  · next g =>
    refine run_does hs hg.stack (.refl s) rfl rfl (fun _ => rfl) ?_ ?_
    · intro f hne
      simp [hne, Code.activities, framesOver]
    · simpa [Code.activities, framesOver] using
        Life.Step.aside (f := g) [.ending (runsAtOnce below)] le_rfl
  · exact work_does hs hg.stack _
  · next actions =>
    have h : Unconcerned s (s.emit .clientTask) := by simp [follows_emit, Event.topic?]
    exact unconcerned_run_does hs h ⟨fun _ => hg.control rfl, hg.stack⟩ rfl (fun _ => rfl)
      fun _ => rfl
  · exact (plain_run _ _).2 ⟨by simp, rfl, rfl⟩ |>.does hs hg.stack

/-- What a thread does that has taken a task off a queue. -/
theorem activities_task (f : HandleId) (t : ThreadId) (i : InvokerId) (sub : Submission)
    (frames : List Frame) :
    (Code.task i sub.task).activities f t (.taskEnded i sub :: frames)
      = ((sub.task.part? f).map (Activity.ofTask i)).toList := by
  cases sub.task with
  | drain g =>
    simp only [Code.activities, Task.part?, runner?]
    split <;> rfl
  | teardown g =>
    simp only [Code.activities, Task.part?, runsAtOnce]
    split <;> rfl
  | _ => rfl

/-- What a thread does for a job that has taken a task off a queue. -/
theorem works_task (j : HandleId) (i : InvokerId) (task : Task) :
    (Code.task i task).works j = ((task.workOf? j).map Work.starting).toList := by
  cases task with
  | work k env =>
    simp only [Code.works, Task.workOf?]
    split <;> rfl
  | _ => rfl

/-- The life of a function after a task was taken off a queue. -/
theorem start_step (f : HandleId) {i : InvokerId} {inv : Invoker}
    (hi : s.invokers.get? i = some inv) {sub : Submission} {q : TaskQueue}
    (hpop : inv.queue.pop = some (sub, q)) :
    Life.Step f (s.life f) []
      (((s.modifyInvoker i (·.withQueue q)).emit (.started i sub)).life f)
      ((sub.task.part? f).map (Activity.ofTask i)).toList := by
  obtain ⟨hpending, -⟩ := (TaskQueue.pop_eq_some_iff ..).1 hpop
  have hqueued : (s.life f).queued i
      = (sub.task.part? f).toList ++ (inv.withQueue q).tasksOf f := by
    show s.tasksOf f i = _
    rw [tasksOf_eq hi, Invoker.tasksOf, hpending, Invoker.tasksOf, Invoker.queue_withQueue]
    cases h : sub.task.part? f <;> simp [h]
  rw [life_emit, life_modifyInvoker hi]
  simp only [Event.concerns, List.filter_cons, List.filter_nil, Bool.false_eq_true, ↓reduceIte,
    Life.tell_nil]
  cases h : sub.task.part? f with
  | none =>
    have hsame : (inv.withQueue q).tasksOf f = (s.life f).queued i := by
      simpa [h] using hqueued.symm
    rw [Life.requeue, hsame, Function.update_eq_self]
    exact .aside [] le_rfl
  | some k => exact .start i (by simpa [h] using hqueued)

/-- The life of a job after a task was taken off a queue. -/
theorem start_jobStep (j : HandleId) {i : InvokerId} {inv : Invoker}
    (hi : s.invokers.get? i = some inv) {sub : Submission} {q : TaskQueue}
    (hpop : inv.queue.pop = some (sub, q)) :
    JobLife.Step j (s.jobLife j) []
      (((s.modifyInvoker i (·.withQueue q)).emit (.started i sub)).jobLife j)
      ((sub.task.workOf? j).map Work.starting).toList := by
  obtain ⟨hpending, -⟩ := (TaskQueue.pop_eq_some_iff ..).1 hpop
  have hqueued : (s.jobLife j).queued i
      = (sub.task.workOf? j).toList ++ (inv.withQueue q).workOf j := by
    show s.workOf j i = _
    rw [workOf_eq hi, Invoker.workOf, hpending, Invoker.workOf, Invoker.queue_withQueue]
    cases h : sub.task.workOf? j <;> simp [h]
  rw [jobLife_emit, jobLife_modifyInvoker hi]
  simp only [Event.concernsJob, List.filter_cons, List.filter_nil, Bool.false_eq_true, ↓reduceIte,
    JobLife.tell_nil]
  cases h : sub.task.workOf? j with
  | none =>
    have hsame : (inv.withQueue q).workOf j = (s.jobLife j).queued i := by
      simpa [h] using hqueued.symm
    rw [JobLife.requeue, hsame, Function.update_eq_self]
    exact .aside [] le_rfl
  | some env => exact .start i (by simpa [h] using hqueued)

/-- A task off a queue is run above frames that catch its failure. -/
theorem runNext_does (hs : s.Sane) (hb : guarded below = true) {i : InvokerId} {inv : Invoker}
    (hi : s.invokers.get? i = some inv) {after : Frame} (hafter : after.isPlain = true)
    (hcatch : caught (after :: below) = true) {m : Move} (hm : s.runNext i inv after = some m) :
    m.Does s t below fun _ => [] := by
  unfold runNext startTask at hm
  simp only [Option.map_map, Option.map_eq_some_iff] at hm
  obtain ⟨⟨sub, q⟩, hpop, rfl⟩ := hm
  have hfollows : Follows (· = .multiplexers) s
      ((s.modifyInvoker i (·.withQueue q)).emit (.started i sub)) := by
    rw [follows_emit (by simp [Event.topic?]), follows_modifyInvoker _ (by simp)]
  have hplain : [Frame.taskEnded i sub, after].all Frame.isPlain = true := by
    simpa [Frame.isPlain] using hafter
  refine .of_follows hs hfollows ⟨fun _ => hcatch, guarded_append hplain hb⟩
    (asksWell_of_isPlain _ hplain) (fun f => .inr ?_) (fun j => .inr ?_) (.inl rfl)
  · have hstep := start_step f hi hpop
    rw [← activities_task f t i sub (after :: below)] at hstep
    simpa [framesOver_of_isPlain hplain] using hstep
  · have hstep := start_jobStep j hi hpop
    rw [← works_task j i sub.task] at hstep
    simpa [flatMap_works_of_isPlain hplain] using hstep

theorem pump_does (hs : s.Sane) (hb : guarded below = true) (i : InvokerId) (goal : PumpGoal) :
    (s.pump i goal).Does s t below fun _ => [] := by
  unfold pump
  split
  · exact (plain_reply _).2 (.refl s) |>.does hs hb
  · next inv hi =>
    split
    · next m hm => exact runNext_does hs hb hi rfl rfl hm
    · refine Move.Plain.does ?_ hs hb
      split
      · simp [Code.isPlain]
      · simp [Code.isPlain]
      · simp [Code.isPlain]
      · split <;> simp [Code.isPlain]

/-! ### Queues that are dropped -/

/-- Dropping tasks tells of each. -/
theorem life_foldl_discarded (f : HandleId) (i : InvokerId) (subs : List Submission) :
    (subs.foldl (fun s sub => (s.emit (.discarded i sub)).signal sub.completion) s).life f
      = (s.life f).tell ((subs.map (Event.discarded i)).filter (Event.concerns f)) := by
  induction subs generalizing s with
  | nil => simp
  | cons sub subs ih =>
    rw [List.foldl_cons, ih, life_signal, life_emit, Life.tell_tell, List.map_cons,
      List.filter_cons, List.filter_cons, List.filter_nil]
    split <;> rfl

/-- Dropping tasks tells of each. -/
theorem jobLife_foldl_discarded (j : HandleId) (i : InvokerId) (subs : List Submission) :
    (subs.foldl (fun s sub => (s.emit (.discarded i sub)).signal sub.completion) s).jobLife j
      = (s.jobLife j).tell ((subs.map (Event.discarded i)).filter (Event.concernsJob j)) := by
  induction subs generalizing s with
  | nil => simp
  | cons sub subs ih =>
    rw [List.foldl_cons, ih, jobLife_signal, jobLife_emit, JobLife.tell_tell, List.map_cons,
      List.filter_cons, List.filter_cons, List.filter_nil]
    split <;> rfl

/-- A task that is discarded is not about multiplexers. -/
theorem topic?_discarded_ne (i : InvokerId) (sub : Submission) :
    (Event.discarded i sub).topic? ≠ some .multiplexers := by
  cases h : sub.task <;> simp [Event.topic?, Task.topic?, h]

theorem follows_foldl_discarded (i : InvokerId) (subs : List Submission) :
    Follows (· = .multiplexers) s
      (subs.foldl (fun s sub => (s.emit (.discarded i sub)).signal sub.completion) s) := by
  induction subs generalizing s with
  | nil => rfl
  | cons sub subs ih =>
    refine .trans ?_ ih
    rw [follows_signal, follows_emit]
    rintro x rfl
    simpa using topic?_discarded_ne i sub

theorem invokers_foldl_discarded (i : InvokerId) (subs : List Submission) :
    (subs.foldl (fun s sub => (s.emit (.discarded i sub)).signal sub.completion) s).invokers
      = s.invokers := by
  induction subs generalizing s with
  | nil => rfl
  | cons sub subs ih =>
    rw [List.foldl_cons, ih]
    unfold signal
    split <;> rfl

theorem follows_discardQueue (i : InvokerId) (inv : Invoker) :
    Follows (· = .multiplexers) s (s.discardQueue i inv) := by
  unfold discardQueue
  simp only
  rw [follows_modifyInvoker _ (by simp)]
  exact follows_foldl_discarded i _

/-- A queue is dropped: each task of the function in it is discarded. -/
theorem discardQueue_step (f : HandleId) {i : InvokerId} {inv inv' : Invoker}
    (hi : s.invokers.get? i = some inv') (hq : inv'.queue = inv.queue) :
    Life.Step f (s.life f) [] ((s.discardQueue i inv).life f) [] := by
  unfold discardQueue
  have hi' := invokers_foldl_discarded (s := s) i inv.queue.pending ▸ hi
  have htasks : (inv'.withQueue inv'.queue.clear).tasksOf f = [] := by
    simp [Invoker.tasksOf, TaskQueue.clear]
  have hqueued : (s.life f).queued i
      = inv.queue.pending.filterMap fun sub => sub.task.part? f := by
    show s.tasksOf f i = _
    rw [tasksOf_eq hi, Invoker.tasksOf, hq]
  simp only
  rw [life_modifyInvoker hi', life_foldl_discarded, htasks]
  refine .discard i (List.nil_sublist _) ?_
  rw [hqueued, List.nil_append]

/-- A queue is dropped: each task of the job in it is discarded. -/
theorem discardQueue_jobStep (j : HandleId) {i : InvokerId} {inv inv' : Invoker}
    (hi : s.invokers.get? i = some inv') (hq : inv'.queue = inv.queue) :
    JobLife.Step j (s.jobLife j) [] ((s.discardQueue i inv).jobLife j) [] := by
  unfold discardQueue
  have hi' := invokers_foldl_discarded (s := s) i inv.queue.pending ▸ hi
  have hwork : (inv'.withQueue inv'.queue.clear).workOf j = [] := by
    simp [Invoker.workOf, TaskQueue.clear]
  have hqueued : (s.jobLife j).queued i
      = inv.queue.pending.filterMap fun sub => sub.task.workOf? j := by
    show s.workOf j i = _
    rw [workOf_eq hi, Invoker.workOf, hq]
  simp only
  rw [jobLife_modifyInvoker hi', jobLife_foldl_discarded, hwork]
  refine .discard i ?_
  rw [hqueued, List.nil_append]

/-- A queue is dropped, and nothing else happens that matters. -/
theorem discardQueue_does (hs : s.Sane) (hb : guarded below = true) {i : InvokerId}
    {inv inv' : Invoker} (hi : s.invokers.get? i = some inv') (hq : inv'.queue = inv.queue)
    {m : Move} (hm : m.Plain (s.discardQueue i inv))
    (hids : m.session.ids = (s.discardQueue i inv).ids) : m.Does s t below fun _ => [] := by
  have hfollows : Follows (· = .multiplexers) s m.session :=
    (follows_discardQueue i inv).trans (hm.session.weaken fun _ _ => trivial)
  refine .of_follows hs hfollows (hm.guarded hb) (asksWell_of_isPlain _ hm.frames)
    (fun f => .inr ?_) (fun j => .inr ?_) (.inl rfl)
  · rw [hm.activities, life_of_follows hm.session trivial, hids]
    exact discardQueue_step f hi hq
  · rw [hm.works, jobLife_of_follows hm.session trivial, hids]
    exact discardQueue_jobStep j hi hq

theorem loop_does (hs : s.Sane) (hb : guarded below = true) {i : InvokerId} {m : Move}
    (hm : s.loop i = some m) : m.Does s t below fun _ => [] := by
  unfold loop at hm
  split at hm
  · simp at hm
  · next inv hi =>
    split at hm
    · simp at hm
    · split at hm
      · obtain rfl := Option.some.inj hm
        refine discardQueue_does hs hb hi rfl ?_ rfl
        simp [follows_modifyInterpreter]
      · exact runNext_does hs hb hi rfl rfl hm

theorem letGo_does (hs : s.Sane) (hb : guarded below = true) (i : InvokerId) (r : Reply) :
    (s.letGo t i r).Does s t below fun _ => [] := by
  unfold letGo
  split
  · exact (plain_give _).2 (.refl s) |>.does hs hb
  · next inv hi =>
    have hqueue : ∀ inv : Invoker, { inv with holders := inv.holders - 1 }.queue = inv.queue :=
      fun _ => rfl
    have hheld : Unconcerned s
        (s.modifyInvoker i fun inv => { inv with holders := inv.holders - 1 }) :=
      (follows_modifyInvoker_of_queue i hqueue).2 (.refl s)
    have hgrows := hheld.grows hs
    simp only
    split
    · exact (plain_give _).2 hheld |>.does hs hb
    · split
      · have hi' := get?_modifyInvoker hi fun inv => { inv with holders := inv.holders - 1 }
        refine .of_view ?_ hgrows (funext fun x => hheld.same x trivial) rfl
        exact discardQueue_does hgrows.sane hb hi' (hqueue inv) ((plain_give _).2 (.refl _)) rfl
      · split
        · refine Move.Plain.does ?_ hs hb
          simpa using hheld
        · refine Move.Plain.does ?_ hs hb
          simpa [follows_modifyInterpreter, Code.isPlain] using hheld

/-! ### Submissions of an embedder -/

theorem submit_does (hs : s.Sane) (hb : guarded below = true) (i : InvokerId) (sync : Bool)
    (actions : List Action) (rejected : Rejected) (h : Unconcerned s s') :
    (s'.submit t i sync actions rejected).Does s t below fun _ => [] := by
  unfold submit
  obtain ⟨o, s'', hoffer⟩ : ∃ o s'', s'.offer t i sync (.client actions) = (o, s'') := ⟨_, _, rfl⟩
  have hfollows : Unconcerned s s'' := h.trans (.of_offer hoffer (by simp [Task.topic?]))
  rw [hoffer]
  cases o with
  | accepted => exact Move.Plain.does (by simpa [Code.isPlain] using hfollows) hs hb
  | awaited c =>
    exact Move.Plain.does (by simpa [Code.isPlain, Frame.isPlain] using hfollows) hs hb
  | inline =>
    exact unconcerned_run_does hs hfollows ⟨fun _ => rfl, by simpa [guarded] using hb⟩ rfl
      (fun _ => rfl) fun _ => rfl
  | handedBack =>
    cases rejected with
    | dropped => exact Move.Plain.does (by simpa [Code.isPlain] using hfollows) hs hb
    | run =>
      exact unconcerned_run_does hs hfollows ⟨fun _ => rfl, by simpa [guarded] using hb⟩ rfl
        (fun _ => rfl) fun _ => rfl

/-! ### New invokers and threads -/

theorem plain_nameInvoker (name : String) (i : InvokerId) : (s.nameInvoker name i).Plain s := by
  unfold nameInvoker
  simp only
  split <;> simp [Code.isPlain]

theorem createInvoker_does (hs : s.Sane) (hb : guarded below = true) (name : String)
    (spec : InvokerSpec) : (s.createInvoker t name spec).Does s t below fun _ => [] := by
  unfold createInvoker
  split
  · next takes =>
    let s' : Session := { s with
      invokers := s.invokers.insert s.invokers.length
        { core := .manual { owner := t, takes := takes } } }
    obtain ⟨hlength, hbound⟩ : s'.invokers.length = s.invokers.length + 1 ∧
        ∀ j, (s'.invokers.get? j).isSome → j < s'.invokers.length := hs.invokers_insert rfl
    have hview : s'.view = s.view := funext fun x => hs.view_insert rfl x
    have hgrows : Grows s s' :=
      hs.grows_of_new hview rfl rfl (hlength ▸ Nat.le_succ _) hbound le_rfl (.inl rfl)
    exact .of_view ((plain_nameInvoker ..).does hgrows.sane hb) hgrows hview rfl
  · next config =>
    split
    · exact (plain_reply _).2 (.refl s) |>.does hs hb
    · exact (plain_reply _).2 (.refl s) |>.does hs hb
    · let i := s.invokers.length
      let s' : Session := Session.setThread { s with
        invokers := s.invokers.insert i { core := .thread { name := config.threadName } } }
        (.interpreter i) { control := .run (.loop i) }
      obtain ⟨hlength, hbound⟩ : s'.invokers.length = s.invokers.length + 1 ∧
          ∀ j, (s'.invokers.get? j).isSome → j < s'.invokers.length := hs.invokers_insert rfl
      have hview : s'.view = s.view := funext fun x => hs.view_insert rfl x
      have hgrows : Grows s s' := by
        refine hs.grows_of_new hview rfl rfl (hlength ▸ Nat.le_succ _) hbound le_rfl
          (.inr ⟨.interpreter i, _, ?_, ?_, ?_, rfl⟩)
        · simp [mem_precedence, i]
        · exact mem_precedence.2 (.inr (.inl ⟨i, hlength ▸ Nat.lt_succ_self _, rfl⟩))
        · rfl
      have hplain := plain_nameInvoker (s := s'.log .debug
        ("interpreter thread '" ++ config.threadName ++ "' started")) name i
      have hplain' : Move.Plain s' _ :=
        ⟨.trans (by simp) hplain.session, hplain.control, hplain.frames⟩
      exact .of_view (hplain'.does hgrows.sane hb) hgrows hview rfl

theorem startProducer_does (hs : s.Sane) (hb : guarded below = true) (h : Unconcerned s s')
    (hids : s'.ids = s.ids) (name : String) {c : Code} (hc : c.isPlain = true) :
    (s'.startProducer name c).Does s t below fun _ => [] := by
  let n := s'.producers.length
  let s'' : Session := Session.setThread { s' with
    producers := s'.producers ++ [Producer.mk name none] } (.spawned n)
    { control := .run c, stack := [.spawned n] }
  have hs' := (h.grows hs).sane
  have hview : s''.view = s'.view := by
    funext x
    cases x <;> rfl
  have hgrows : Grows s' s'' := by
    refine hs'.grows_of_new hview rfl rfl le_rfl hs'.invokers (by simp [s'', setThread])
      (.inr ⟨.spawned n, _, ?_, ?_, ?_, rfl⟩)
    · simp [mem_precedence, n]
    · exact mem_precedence.2 (.inr (.inr ⟨n, by simp [s'', setThread, n], rfl⟩))
    · simpa [Thread.isPlain, Control.isPlain, Frame.isPlain] using hc
  have hdoes : (s''.reply .done).Does s'' t below fun _ => [] :=
    ((plain_reply .done).2 (.refl s'')).does hgrows.sane hb
  have hsame : s'.view = s.view := funext fun x => h.same x trivial
  exact hdoes.of_view ((h.grows hs).trans hgrows) (hview.trans hsame) hids

/-! ### Actions -/

theorem object?_of_findFunction? {r : Ref} (h : s.findFunction? r = some (g, fn)) :
    s.functions.object? g = some fn := by
  unfold findFunction? at h
  split at h
  · obtain ⟨fn', hfn, h⟩ := Option.map_eq_some_iff.1 h
    obtain ⟨rfl, rfl⟩ := Prod.mk.inj h
    exact hfn
  · exact (Registry.entry?_eq_some h).2.2

theorem createJobNamed_does (hs : s.Sane) (hb : guarded below = true) (name : String)
    (env data : Ref) (keep : Bool) :
    (s.createJobNamed name env data keep).Does s t below fun _ => [] := by
  unfold createJobNamed
  refine createJob_does hs hb (s.value env) (s.value data) ?_
  simp only
  split <;> simp

theorem onJob_does (job : Ref) (direct : Bool) {kept byId : HandleId → Outcome × Session}
    (hkept : ∀ j r, ((kept j).2.give r).Does s t below fun _ => [])
    (hbyId : ∀ j r, ((byId j).2.give r).Does s t below fun _ => []) :
    (s.onJob job direct kept byId).Does s t below fun _ => [] := by
  unfold onJob
  split
  · exact hkept ..
  · exact hbyId ..

theorem perform_does (hs : s.Sane) {a : Action}
    (hg : Thread.Guarded { control := .run (.perform a), stack := below }) :
    (s.perform t a).Does s t below fun _ => [] := by
  have hb := hg.stack
  by_cases ha : a.isPlain = true
  · exact (plain_perform t ha).does hs hb
  · cases a with
    | createInvoker name spec => exact createInvoker_does hs hb name spec
    | submit invoker sync actions rejected =>
      simp only [perform, withInvoker]
      split
      · exact (plain_refuse _).2 (.refl s) |>.does hs hb
      · exact submit_does hs hb _ sync actions rejected (by simp)
    | spawnSubmit name invoker actions =>
      simp only [perform, withInvoker]
      split
      · exact (plain_refuse _).2 (.refl s) |>.does hs hb
      · exact startProducer_does hs hb ((follows_keepInvoker _).2 (.refl s)) rfl name rfl
    | fail =>
      exact .of_follows hs (Unconcerned.refl s) ⟨fun _ => hg.control rfl, hb⟩ rfl
        (fun f => .inl ⟨trivial, rfl⟩) (fun j => .inl ⟨trivial, rfl⟩) (.inl trivial)
    | spawnCall name func data mode =>
      simp only [perform, withFound]
      split
      · exact (plain_refuse _).2 (.refl s) |>.does hs hb
      · exact startProducer_does hs hb (.refl s) rfl name rfl
    | acquire func =>
      simp only [perform, withFound]
      split
      · exact (plain_refuse _).2 (.refl s) |>.does hs hb
      · next f fn hf =>
        obtain ⟨hfollows, hstep⟩ := follows_acquire (object?_of_findFunction? hf)
        simpa [answerOutcome, reply] using give_does hs hb hfollows hstep _
    | setReferenced func on =>
      simp only [perform, withFound]
      split
      · exact (plain_refuse _).2 (.refl s) |>.does hs hb
      · next f fn hf =>
        obtain ⟨hfollows, hstep⟩ := follows_setReferenced (object?_of_findFunction? hf) on
        simpa [reply] using give_does hs hb hfollows hstep _
    | createJob name env data keep => exact createJobNamed_does hs hb name env data keep
    | queueJob job env direct =>
      exact onJob_does job direct (fun j r => (queueJob_actsOn ..).does hs hb r)
        fun j r => queueJobById_does hs hb ..
    | cancelJob job direct =>
      exact onJob_does job direct (fun j r => (cancelJob_actsOn _).does hs hb r)
        fun j r => cancelJobById_does hs hb ..
    | deleteJob job => exact deleteJob_does hs hb _ _
    | createMultiplexer name register fatal => exact createMultiplexer_does hs hb name register fatal
    | dropMultiplexer name => exact dropMultiplexer_does hs hb name
    | wrap multiplexer host env out => exact wrapEnv_does hs hb multiplexer host env out
    | _ => exact absurd rfl ha

/-! ### Entries of the runtime -/

theorem withFunction_does (hs : s.Sane) (hb : guarded below = true) (func : Word)
    {act : HandleId → ThreadsafeFunction → Move}
    (h : ∀ f fn, s.functions.object? f = some fn → (act f fn).Does s t below fun _ => []) :
    (s.withFunction func act).Does s t below fun _ => [] := by
  unfold withFunction
  split
  · exact (plain_respond _).2 (.refl s) |>.does hs hb
  · next f fn hf => exact h f fn (Registry.entry?_eq_some hf).2.2

theorem runtimeEntry_does (hs : s.Sane) (hb : guarded below = true) (r : Request) :
    (s.runtimeEntry t r).Does s t below fun _ => [] := by
  by_cases hr : r.touchesTopic .runtime = true
  · cases r with
    | createAsyncWork env resource resourceName execute complete data out =>
      simp only [runtimeEntry]
      split
      · exact (plain_respond _).2 (.refl s) |>.does hs hb
      · exact createJob_does hs hb env data ((plain_give _).2 (.refl _))
    | deleteAsyncWork env work => exact deleteJob_does hs hb _ _
    | queueAsyncWork env work => exact queueJobById_does hs hb ..
    | cancelAsyncWork env work => exact cancelJobById_does hs hb ..
    | acquireThreadsafeFunction func =>
      refine withFunction_does hs hb func fun f fn hf => ?_
      obtain ⟨hfollows, hstep⟩ := follows_acquire hf
      simpa [respondOutcome, respond] using give_does hs hb hfollows hstep _
    | refThreadsafeFunction env func =>
      refine withFunction_does hs hb func fun f fn hf => ?_
      obtain ⟨hfollows, hstep⟩ := follows_setReferenced hf true
      simpa [respond] using give_does hs hb hfollows hstep _
    | unrefThreadsafeFunction env func =>
      refine withFunction_does hs hb func fun f fn hf => ?_
      obtain ⟨hfollows, hstep⟩ := follows_setReferenced hf false
      simpa [respond] using give_does hs hb hfollows hstep _
    | _ => simp [Request.touchesTopic] at hr
  · exact (plain_runtimeEntry t (by simpa using hr)).does hs hb

theorem entry_does (hs : s.Sane) (hb : guarded below = true) (p : Provider) (r : Request) :
    (s.entry t p r).Does s t below fun _ => [] := by
  cases p with
  | engine slot => exact (plain_entry t rfl).does hs hb
  | runtime => exact runtimeEntry_does hs hb r
  | injected => exact (plain_entry t rfl).does hs hb
  | multiplexer => exact forward_does hs hb r

end Session

/-! ### Every move -/

variable {s : Session} {t : ThreadId} {below : List Frame} {m : Move}

/-- What a piece of code does in one step. -/
theorem Code.step_does {c : Code} (hs : s.Sane)
    (hg : Thread.Guarded { control := .run c, stack := below }) (hm : c.step t s = some m) :
    m.Does s t below (fun f => c.activities f t below) fun j => c.works j := by
  have hb := hg.stack
  cases c with
  | awaitSpace f data => exact Session.awaitSpace_does hs hb hm
  | awaitTask i completion => exact (Session.plain_awaitTask hm).does hs hb
  | awaitOccupied i => exact (Session.plain_awaitOccupied hm).does hs hb
  | occupied i => exact (Session.plain_occupied hm).does hs hb
  | awaitEnd i r => exact (Session.plain_awaitEnd hm).does hs hb
  | loop i => exact Session.loop_does hs hb hm
  | script owner actions =>
    cases actions with
    | nil =>
      obtain rfl := Option.some.inj hm
      exact (Session.plain_give _).2 (.refl s) |>.does hs hb
    | cons a rest =>
      obtain rfl := Option.some.inj hm
      refine Session.unconcerned_run_does hs (.refl s) ⟨fun _ => ?_, ?_⟩ rfl (fun _ => rfl)
        fun _ => rfl
      · cases owner with
        | callback => rfl
        | clientTask => exact hg.control rfl
      · cases owner with
        | callback => exact hb
        | clientTask => simpa [guarded] using And.intro (hg.control rfl) hb
  | finalizer owner fin env hint =>
    obtain rfl := Option.some.inj hm
    cases owner with
    | none => exact (Session.plain_finalizer fin env hint).does hs hb
    | some f => exact Session.finalizer_does hs hb fin env hint
  | _ =>
    obtain rfl := Option.some.inj hm
    first
    | exact Session.perform_does hs hg
    | exact Session.entry_does hs hb _ _
    | exact (Session.plain_registerEntry _ _).2 (.refl s) |>.does hs hb
    | exact Session.createFunction_does hs hb _ _ _ _
    | exact Session.call_does hs hb _ _
    | exact Session.release_does hs hb _
    | exact Session.deliver_does hs hb _
    | exact Session.teardown_does hs hb
    | exact Session.submit_does hs hb _ _ _ _ (.refl s)
    | exact Session.task_does hs hg
    | exact Session.pump_does hs hb _ _
    | exact Session.letGo_does hs hb _ _

/-- What a frame does with a reply. -/
theorem Frame.resume_does {fr : Frame} (hs : s.Sane) (hg : AddonHost.guarded (fr :: below) = true)
    (r : Reply) :
    (fr.resume t s r).Does s t below (fun f => fr.activities f below) fun j => fr.works j := by
  have hb := guarded_of_cons hg
  cases fr with
  | performed owner a rest =>
    have h : s.Unconcerned (s.emit (.did a r.toAnswer)) := by
      simp [Session.follows_emit, Event.topic?]
    refine Session.unconcerned_run_does hs h ⟨fun hm => ?_, hb⟩ rfl (fun _ => rfl) fun _ => rfl
    cases owner with
    | callback => simp [Control.mayFail] at hm
    | clientTask => exact (Bool.and_eq_true_iff.1 hg).1
  | referenced env spec delivery invoker =>
    exact Session.afterCreateReference_does hs hb env spec delivery invoker r.toResponse
  | gotFunction f data => exact Session.afterReference_does hs hb data r.toResponse
  | gotReceiver f func => exact Session.afterReceiver_does hs hb func r.toResponse
  | drained f wasEmpty => exact Session.afterDrain_does hs hb wasEmpty
  | finalized f => exact Session.afterFinalizer_does hs hb
  | unreferenced f => exact Session.unregisterFunction_does hs hb
  | executed j env => exact Session.afterExecute_does hs hb env
  | completed j => exact Session.finishJob_does hs hb
  | unwrapped handle => exact Session.unwrapped_does hs hb handle
  | forwardedCreate host id => exact Session.afterForwardCreate_does hs hb host id _
  | forwardedHook host env out => exact Session.afterForwardHook_does hs hb host env out _
  | forwardedUnhook host handle => exact Session.afterForwardUnhook_does hs hb host handle _
  | _ => exact (Session.plain_resume t rfl rfl r).does hs hb

/-- A failure is passed on. -/
theorem passOn_does {s' : Session} (hs : s.Sane) (hc : caught below = true)
    (hb : guarded below = true) (h : s.Unconcerned s') :
    Move.Does s t below (fun _ => []) { session := s', control := .fail } :=
  .of_follows hs h ⟨fun _ => hc, hb⟩ rfl (fun _ => .inl ⟨trivial, rfl⟩)
    (fun _ => .inl ⟨trivial, rfl⟩) (.inl trivial)

/-- What a frame does with a failure that is caught in time. -/
theorem Frame.unwind_does {fr : Frame} (hs : s.Sane) (hc : caught (fr :: below) = true)
    (hg : AddonHost.guarded (fr :: below) = true) :
    (fr.unwind s).Does s t below (fun f => fr.activities f below) fun j => fr.works j := by
  have hb := guarded_of_cons hg
  cases fr with
  | gotFunction | gotReceiver | drained | finalized | unreferenced | executed | completed =>
    simp [caught] at hc
  | performed owner a rest =>
    cases owner with
    | callback => exact Session.plain_abort.2 (.refl s) |>.does hs hb
    | clientTask => exact passOn_does hs (by simpa [caught] using hc) hb (.refl s)
  | taskEnded i sub =>
    exact passOn_does hs (by simpa [caught] using hc) hb
      ((Session.follows_endTask (e := .failed i sub) rfl sub).2 (.refl s))
  | pumped i goal => exact (Session.plain_run _ _).2 ⟨.refl s, rfl, rfl⟩ |>.does hs hb
  | submitted i => exact (Session.plain_run _ _).2 ⟨.refl s, rfl, rfl⟩ |>.does hs hb
  | ranRejected i => exact (Session.plain_run _ _).2 ⟨.refl s, rfl, rfl⟩ |>.does hs hb
  | looped i => exact (Session.plain_loopFailed i).does hs hb
  | _ => exact passOn_does hs (by simpa [caught] using hc) hb (.refl s)

end AddonHost
