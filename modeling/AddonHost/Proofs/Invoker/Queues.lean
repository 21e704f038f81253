import AddonHost.Proofs.Invoker.Interleaving

/-!
The order in which an invoker's tasks wait.

A step of a thread either appends tasks behind those that wait already, or takes tasks from the front
of the queues; no step does both (`Sound.appends_or_takes`).  So a task that waits is only overtaken
by tasks that waited before it, and by tasks that are never queued.
-/

namespace AddonHost

open Service

namespace Session

variable {s s' s'' : Session} {t : ThreadId} {i j : InvokerId} {inv : Invoker} {m : Move}

/-- No task leaves a queue, and those that are new are last. -/
structure Appends (s s' : Session) : Prop where
  pendingOn (i : InvokerId) : s.service.pendingOn i <+: s'.service.pendingOn i

/-- No task enters a queue, and those that are gone were first. -/
structure Takes (s s' : Session) : Prop where
  pendingOn (i : InvokerId) : s'.service.pendingOn i <:+ s.service.pendingOn i

theorem Appends.trans (h : s.Appends s') (h' : s'.Appends s'') : s.Appends s'' :=
  ⟨fun i => (h.pendingOn i).trans (h'.pendingOn i)⟩

theorem Takes.trans (h : s.Takes s') (h' : s'.Takes s'') : s.Takes s'' :=
  ⟨fun i => (h'.pendingOn i).trans (h.pendingOn i)⟩

theorem Appends.of_pendingOn (h : s'.service.pendingOn = s.service.pendingOn) : s.Appends s' :=
  ⟨fun i => by rw [h]⟩

theorem Takes.of_pendingOn (h : s'.service.pendingOn = s.service.pendingOn) : s.Takes s' :=
  ⟨fun i => by rw [h]⟩

theorem Appends.of_backstage (h : s'.backstage = s.backstage) : s.Appends s' :=
  .of_pendingOn (by rw [service_of_backstage h])

/-! ### Queues after an operation -/

theorem pendingOn_eq (s : Session) (i : InvokerId) :
    s.service.pendingOn i
      = ((s.invokers.get? i).map fun inv => inv.queue.pending).getD [] := by
  rw [pendingOn, cores_service, Option.map_map]
  rfl

/-- Changes that leave queues alone. -/
theorem pendingOn_modifyInvoker {f : Invoker → Invoker}
    (hf : ∀ inv, (f inv).queue = inv.queue) (s : Session) (i : InvokerId) :
    (s.modifyInvoker i f).service.pendingOn = s.service.pendingOn := by
  funext j
  rw [pendingOn_eq, pendingOn_eq, modifyInvoker, Assoc.get?_modify]
  split
  · next hij =>
    subst hij
    cases s.invokers.get? i <;> simp [hf]
  · rfl

theorem pendingOn_modifyInterpreter {g : InterpreterThread → InterpreterThread}
    (hg : ∀ r, (g r).queue = r.queue) (s : Session) (i : InvokerId) :
    (s.modifyInterpreter i g).service.pendingOn = s.service.pendingOn :=
  pendingOn_modifyInvoker (fun inv => inv.queue_mapThread hg) s i

theorem pendingOn_countExecuted (s : Session) (i : InvokerId) :
    (s.countExecuted i).service.pendingOn = s.service.pendingOn :=
  pendingOn_modifyInvoker (f := fun inv => inv.mapManual fun m =>
    { m with executed := m.executed + 1 }) (fun inv => inv.queue_mapManual fun _ => rfl) s i

theorem pendingOn_keepInvoker (s : Session) (i : InvokerId) :
    (s.keepInvoker i).service.pendingOn = s.service.pendingOn := by
  rw [service_keepInvoker]

/-- Telling of a task changes no queue. -/
theorem pendingOn_emit (s : Session) (e : Event) :
    (s.emit e).service.pendingOn = s.service.pendingOn := rfl

theorem pendingOn_signal (s : Session) (completion : Option ℕ) :
    (s.signal completion).service.pendingOn = s.service.pendingOn := by
  rw [service_signal]
  rfl

theorem pendingOn_endTask (s : Session) (e : Event) (sub : Submission) :
    (s.endTask e sub).service.pendingOn = s.service.pendingOn := by
  rw [endTask, pendingOn_signal, pendingOn_emit]

/-! ### Submitting -/

theorem appends_enqueue (s : Session) (i : InvokerId) (old : Invoker) (task : Task)
    (completion : Option ℕ) : s.Appends (s.enqueue i old task completion) := by
  refine ⟨fun j => ?_⟩
  rw [enqueue, pendingOn_emit, pendingOn_eq, pendingOn_eq, modifyInvoker, Assoc.get?_modify]
  split
  · next hij =>
    subst hij
    cases s.invokers.get? i <;> simp
  · exact List.prefix_rfl

theorem appends_offer {sync : Bool} {task : Task} {o : Offer}
    (h : s.offer t i sync task = (o, s')) : s.Appends s' := by
  have hcounted (s : Session) {f : Invoker → Invoker} (hf : ∀ inv, (f inv).queue = inv.queue) :
      s.Appends (s.modifyInvoker i f) := .of_pendingOn (pendingOn_modifyInvoker hf s i)
  have hcompletion (s : Session) : s.Appends { s with completions := s.completions + 1 } :=
    .of_pendingOn rfl
  have hawaited (s : Session) (old : Invoker) : s.Appends (s.enqueueAwaited i old task).2 :=
    (hcompletion s).trans (appends_enqueue _ i old task _)
  unfold offer at h
  split at h
  · obtain ⟨rfl, rfl⟩ := Prod.mk.inj h
    exact .of_backstage rfl
  · next inv hi =>
    split at h
    · have hcount := hcounted s (f := (·.mapManual fun m => { m with offered := m.offered + 1 }))
        fun inv => inv.queue_mapManual fun _ => rfl
      simp only at h
      split_ifs at h
      · obtain ⟨rfl, rfl⟩ := Prod.mk.inj h
        exact hcount
      · obtain ⟨rfl, rfl⟩ := Prod.mk.inj h
        exact hcount.trans (appends_enqueue ..)
      · obtain ⟨rfl, rfl⟩ := Prod.mk.inj h
        exact hcount
      · obtain ⟨-, rfl⟩ := Prod.mk.inj h
        exact hcount.trans (hawaited _ inv)
    · have hcount := hcounted s
        (f := (·.mapThread fun r => { r with syncTasks := r.syncTasks + 1 }))
        fun inv => inv.queue_mapThread fun _ => rfl
      simp only at h
      split_ifs at h
      · obtain ⟨rfl, rfl⟩ := Prod.mk.inj h
        exact .of_backstage (by simp)
      · obtain ⟨rfl, rfl⟩ := Prod.mk.inj h
        exact appends_enqueue ..
      · obtain ⟨rfl, rfl⟩ := Prod.mk.inj h
        exact hcount
      · obtain ⟨rfl, rfl⟩ := Prod.mk.inj h
        exact .of_backstage (by simp)
      · obtain ⟨-, rfl⟩ := Prod.mk.inj h
        exact hcount.trans (hawaited _ inv)

theorem appends_appendItem (f : HandleId) (fn : ThreadsafeFunction) (data : Word) :
    s.Appends (s.appendItem t f fn data).session := by
  have hpush : s.Appends ((s.modifyFunction f (·.push data)).emit (.appended f data)) :=
    .of_pendingOn rfl
  unfold appendItem
  refine hpush.trans ?_
  simp only
  split
  · exact .of_backstage (by simp [give, backstage_emit, Event.isService])
  · next i _ _ =>
    split <;> next hoffer =>
      refine (appends_offer hoffer).trans ?_
      first
        | exact .of_pendingOn (by rw [run, pendingOn_keepInvoker, pendingOn_emit])
        | exact .of_backstage (by simp [give, backstage_emit, Event.isService])

theorem appends_call (f : HandleId) (data : Word) (mode : CallMode) :
    s.Appends (s.call t f data mode).session := by
  unfold call
  split
  · exact .of_backstage rfl
  · split
    · exact .of_backstage rfl
    · exact .of_backstage rfl
    · exact appends_appendItem ..

theorem appends_awaitSpace {f : HandleId} {data : Word} (hm : s.awaitSpace t f data = some m) :
    s.Appends m.session := by
  unfold awaitSpace at hm
  split at hm
  · obtain rfl := Option.some.inj hm
    exact .of_backstage rfl
  · split_ifs at hm <;> obtain rfl := Option.some.inj hm
    · exact .of_backstage rfl
    · exact .of_backstage rfl
    · exact appends_appendItem ..

theorem appends_closeThen (f : HandleId) (r : Reply) :
    s.Appends (s.closeThen t f r).session := by
  have hclose : s.Appends ((s.modifyFunction f (·.close)).emit (.closed f)) := .of_pendingOn rfl
  unfold closeThen
  split
  · exact .of_backstage rfl
  · split
    · exact .of_backstage rfl
    · refine hclose.trans ?_
      simp only
      split
      · exact .of_backstage (by simp [run, backstage_emit, Event.isService])
      · split <;> next hoffer =>
          refine (appends_offer hoffer).trans ?_
          exact .of_backstage (by simp [run, give, backstage_emit, Event.isService])

theorem appends_release (f : HandleId) (mode : ReleaseMode) :
    s.Appends (s.release t f mode).session := by
  unfold release
  split
  · exact .of_backstage rfl
  · split
    · exact .of_backstage rfl
    · split
      · refine Appends.trans ?_ (appends_closeThen f _)
        exact .of_backstage (by simp [backstage_emit, Event.isService])
      · have hdrop (fn : ThreadsafeFunction) (g : ThreadsafeFunction → ThreadsafeFunction) :
            s.Appends ((s.modifyFunction f g).emit (.released f fn.dropHolder.threadCount)) :=
          .of_pendingOn rfl
        simp only
        split
        · exact (hdrop ..).trans (appends_closeThen f _)
        · exact hdrop ..

theorem appends_afterDrain (f : HandleId) (wasEmpty : Bool) :
    s.Appends (s.afterDrain t f wasEmpty).session := by
  unfold afterDrain
  split
  · exact .of_backstage rfl
  · split
    · exact appends_closeThen ..
    · exact .of_backstage rfl

theorem appends_queueJob (j : HandleId) (env : Word) : s.Appends (s.queueJob t j env).2 := by
  have hmodify (g : AsyncJob → AsyncJob) : s.Appends (s.modifyJob j g) := .of_backstage rfl
  unfold queueJob
  split
  · exact .of_backstage rfl
  · split
    · exact .of_backstage (by simp)
    · split
      · exact .of_backstage rfl
      · split <;> next hoffer =>
          refine ((hmodify _).trans (appends_offer hoffer)).trans ?_
          exact .of_backstage (by simp)

theorem appends_queueJobById (j : HandleId) (env : Word) :
    s.Appends (s.queueJobById t j env).2 := by
  unfold queueJobById
  split
  · exact .of_backstage rfl
  · exact appends_queueJob ..

theorem appends_submit (i : InvokerId) (sync : Bool) (actions : List Action)
    (rejected : Rejected) : s.Appends (s.submit t i sync actions rejected).session := by
  unfold submit
  split <;> next hoffer =>
    refine (appends_offer hoffer).trans ?_
    first
      | exact .of_backstage rfl
      | (split <;> exact .of_backstage rfl)

/-! ### Taking tasks -/

theorem takes_runNext {after : Frame} (hi : s.invokers.get? i = some inv)
    (hm : s.runNext i inv after = some m) : s.Takes m.session := by
  obtain ⟨sub, rest, hq, rfl⟩ := runNext_eq_some_iff.1 hm
  refine ⟨fun j => ?_⟩
  rw [run, pendingOn_emit, pendingOn_eq, pendingOn_eq, modifyInvoker, Assoc.get?_modify]
  split
  · next hij =>
    subst hij
    simp [hi, hq]
  · exact List.suffix_rfl

theorem takes_discardQueue (s : Session) (i : InvokerId) (inv : Invoker) :
    s.Takes (s.discardQueue i inv) := by
  refine ⟨fun j => ?_⟩
  have hinvokers := invokers_foldl_discarded (s := s) i inv.queue.pending
  rw [pendingOn_eq, pendingOn_eq, discardQueue, modifyInvoker, Assoc.get?_modify, hinvokers]
  split
  · next hij =>
    subst hij
    cases s.invokers.get? i <;> simp [TaskQueue.clear]
  · exact List.suffix_rfl

theorem takes_pump (i : InvokerId) (goal : PumpGoal) : s.Takes (s.pump i goal).session := by
  unfold pump
  split
  · exact .of_pendingOn rfl
  · next inv hi =>
    split
    · next m hm => exact takes_runNext hi hm
    · split
      · exact .of_pendingOn rfl
      · exact .of_pendingOn rfl
      · exact .of_pendingOn rfl
      · split_ifs <;> exact .of_pendingOn rfl

theorem takes_loop (hm : s.loop i = some m) : s.Takes m.session := by
  unfold loop at hm
  split at hm
  · simp at hm
  · next inv hi =>
    split at hm
    · simp at hm
    · split_ifs at hm
      · obtain rfl := Option.some.inj hm
        refine (takes_discardQueue s i inv).trans (.of_pendingOn ?_)
        exact pendingOn_modifyInterpreter (by intro; rfl) _ i
      · exact takes_runNext hi hm

theorem takes_letGo (i : InvokerId) (r : Reply) : s.Takes (s.letGo t i r).session := by
  unfold letGo
  split
  · exact .of_pendingOn rfl
  · next inv hi =>
    have hheld : s.Takes
        (s.modifyInvoker i fun inv => { inv with holders := inv.holders - 1 }) :=
      .of_pendingOn (pendingOn_modifyInvoker (by intro; rfl) s i)
    refine hheld.trans ?_
    simp only
    split_ifs
    · exact .of_pendingOn rfl
    · split
      · exact takes_discardQueue ..
      · have hstop (s : Session) : s.Takes (s.requestShutdown i) :=
          .of_pendingOn (pendingOn_modifyInterpreter (by intro; rfl) s i)
        refine (hstop _).trans ?_
        split_ifs
        · exact .of_pendingOn rfl
        · exact .of_pendingOn (pendingOn_modifyInterpreter (by intro; rfl) _ i)

/-! ### Actions, code and frames -/

/-- A new invoker takes the place of none. -/
theorem appends_insertInvoker (hs : s.Sane) (inv : Invoker) :
    s.Appends { s with invokers := s.invokers.insert s.invokers.length inv } := by
  refine ⟨fun j => ?_⟩
  rw [pendingOn_eq, pendingOn_eq, Assoc.get?_insert]
  split
  · next hj =>
    rw [← hj, hs.get?_length]
    exact List.nil_prefix
  · exact List.prefix_rfl

theorem appends_nameInvoker (s : Session) (name : String) (i : InvokerId) :
    s.Appends (s.nameInvoker name i).session :=
  .of_backstage (aside_nameInvoker s name i).backstage

theorem appends_createInvoker (hs : s.Sane) (name : String) (spec : InvokerSpec) :
    s.Appends (s.createInvoker t name spec).session := by
  unfold createInvoker
  simp only
  split
  · exact (appends_insertInvoker hs _).trans (appends_nameInvoker ..)
  · next config =>
    split
    · exact .of_backstage rfl
    · exact .of_backstage rfl
    · have hinsert := appends_insertInvoker hs { core := .thread { name := config.threadName } }
      refine (hinsert.trans ?_).trans (appends_nameInvoker ..)
      exact .of_pendingOn (by rw [service_of_backstage (backstage_log ..)]; rfl)

theorem appends_requestShutdown (s : Session) (i : InvokerId) : s.Appends (s.requestShutdown i) :=
  .of_pendingOn (pendingOn_modifyInterpreter (by intro; rfl) s i)

theorem appends_keepInvoker (s : Session) (i : InvokerId) : s.Appends (s.keepInvoker i) :=
  .of_pendingOn (pendingOn_keepInvoker s i)

theorem appends_withInvoker (name : String) {act : InvokerId → Invoker → Move}
    (h : ∀ i inv, s.Appends (act i inv).session) : s.Appends (s.withInvoker name act).session := by
  unfold withInvoker
  split
  · exact .of_backstage rfl
  · exact h _ _

theorem appends_withThread (name : String) {act : InvokerId → InterpreterThread → Move}
    (h : ∀ i r, s.Appends (act i r).session) : s.Appends (s.withThread name act).session := by
  unfold withThread
  split
  · exact .of_backstage rfl
  · exact h _ _

theorem appends_startProducer (s : Session) (name : String) (c : Code) :
    s.Appends (s.startProducer name c).session :=
  .of_pendingOn rfl

theorem appends_holdThread (name : String) : s.Appends (s.holdThread t name).session := by
  unfold holdThread
  split
  · exact .of_backstage rfl
  · split <;> next hoffer => exact (appends_offer hoffer).trans (.of_backstage rfl)

theorem appends_shutdownThread (name : String) :
    s.Appends (s.shutdownThread t name).session := by
  refine appends_withThread name fun i r => ?_
  have hstopped : s.Appends ((s.requestShutdown i).releaseOccupation i) :=
    (appends_requestShutdown s i).trans (.of_backstage (backstage_releaseOccupation ..))
  refine hstopped.trans ?_
  simp only
  split
  · exact .of_backstage rfl
  · exact .of_pendingOn (pendingOn_modifyInterpreter (by intro; rfl) _ i)

theorem appends_dropInvoker (name : String) : s.Appends (s.dropInvoker name).session := by
  have hnamed (names : Names) : s.Appends { s with names := names } := .of_backstage rfl
  unfold dropInvoker
  split
  · exact .of_backstage rfl
  · refine (hnamed { s.names with invokers := s.names.invokers.erase name }).trans ?_
    split
    · exact .of_backstage rfl
    · simp only
      split
      · exact (appends_requestShutdown _ _).trans (.of_backstage (backstage_releaseOccupation ..))
      · exact .of_backstage rfl

theorem appends_pumpNamed (name : String) (goal : PumpGoal) :
    s.Appends (s.pumpNamed name goal).session := by
  refine appends_withInvoker name fun i inv => ?_
  split
  · exact .of_backstage rfl
  · split
    · exact .of_backstage rfl
    · exact appends_keepInvoker s i

theorem appends_perform (hs : s.Sane) (a : Action) : s.Appends (s.perform t a).session := by
  by_cases haside : a.isAside = true
  · exact .of_backstage (aside_perform t haside).backstage
  · cases a with
    | createInvoker name spec => exact appends_createInvoker hs name spec
    | dropInvoker name => exact appends_dropInvoker name
    | submit invoker sync actions rejected =>
      exact appends_withInvoker invoker fun i _ =>
        (appends_keepInvoker s i).trans (appends_submit i sync actions rejected)
    | spawnSubmit name invoker actions =>
      exact appends_withInvoker invoker fun i _ =>
        (appends_keepInvoker s i).trans (appends_startProducer ..)
    | pump invoker goal => exact appends_pumpNamed invoker goal
    | hold invoker => exact appends_holdThread invoker
    | requestShutdown invoker =>
      exact appends_withThread invoker fun i _ => appends_requestShutdown s i
    | shutdown invoker => exact appends_shutdownThread invoker
    | spawnCall name func data mode =>
      unfold perform withFound
      simp only
      split
      · exact .of_backstage rfl
      · exact appends_startProducer ..
    | queueJob job env direct =>
      unfold perform onJob
      simp only
      split
      · exact appends_queueJob ..
      · exact appends_queueJobById ..
    | _ => exact absurd rfl haside

theorem appends_entry (p : Provider) (r : Request) : s.Appends (s.entry t p r).session := by
  by_cases haside : p = .runtime → r.isAside = true
  · exact .of_backstage (aside_entry t haside).backstage
  · obtain ⟨rfl, hr⟩ := Classical.not_imp.1 haside
    cases r with
    | queueAsyncWork env work => exact appends_queueJobById ..
    | _ => exact absurd rfl hr

theorem code_appends_or_takes {c : Code} (hs : s.Sane) (hm : c.step t s = some m) :
    s.Appends m.session ∨ s.Takes m.session := by
  have haside (hc : c.isAside = true) (hperform : ∀ a, c = .perform a → a.isAside = true)
      (hentry : ∀ r, c = .entry .runtime r → r.isAside = true) : s.Appends m.session :=
    .of_backstage (aside_step hc hperform hentry hm).backstage
  cases c with
  | perform a =>
    obtain rfl := Option.some.inj hm
    exact .inl (appends_perform hs a)
  | entry p r =>
    obtain rfl := Option.some.inj hm
    exact .inl (appends_entry p r)
  | call f data mode =>
    obtain rfl := Option.some.inj hm
    exact .inl (appends_call f data mode)
  | awaitSpace f data => exact .inl (appends_awaitSpace hm)
  | release f mode =>
    obtain rfl := Option.some.inj hm
    exact .inl (appends_release f mode)
  | submit i sync actions rejected =>
    obtain rfl := Option.some.inj hm
    exact .inl (appends_submit i sync actions rejected)
  | awaitTask i completion =>
    simp only [Code.step, awaitTask] at hm
    split at hm
    · obtain rfl := Option.some.inj hm
      exact .inl (.of_backstage rfl)
    · split at hm
      · split_ifs at hm
        obtain rfl := Option.some.inj hm
        exact .inl (.of_backstage (backstage_log ..))
      · simp at hm
  | pump i goal =>
    obtain rfl := Option.some.inj hm
    exact .inr (takes_pump i goal)
  | loop i => exact .inr (takes_loop hm)
  | awaitEnd i r =>
    simp only [Code.step, awaitEnd] at hm
    split_ifs at hm
    obtain rfl := Option.some.inj hm
    exact .inl (.of_backstage rfl)
  | letGo i r =>
    obtain rfl := Option.some.inj hm
    exact .inr (takes_letGo i r)
  | _ => exact .inl (haside rfl (by simp) (by simp))

theorem appends_afterJoined (i : InvokerId) : s.Appends (s.afterJoined i).session := by
  unfold afterJoined
  split
  · split
    · exact .of_backstage (by simp [reply, give])
    · exact .of_backstage rfl
  · exact .of_backstage rfl

theorem appends_afterPumped (i : InvokerId) (goal : PumpGoal) :
    s.Appends (s.afterPumped i goal).session := by
  unfold afterPumped
  refine Appends.trans (.of_pendingOn (pendingOn_countExecuted s i)) ?_
  cases goal <;> exact .of_backstage rfl

theorem frame_appends (fr : Frame) (r : Reply) : s.Appends (fr.resume t s r).session := by
  by_cases haside : fr.isAside = true
  · exact .of_backstage (aside_resume t haside r).backstage
  · cases fr with
    | ranInline i => exact .of_pendingOn (pendingOn_countExecuted s i)
    | drained f wasEmpty => exact appends_afterDrain f wasEmpty
    | taskEnded i sub => exact .of_pendingOn (pendingOn_endTask ..)
    | pumped i goal => exact appends_afterPumped i goal
    | looped i => exact .of_pendingOn (pendingOn_modifyInterpreter (by intro; rfl) s i)
    | joined i => exact appends_afterJoined i
    | _ => exact absurd rfl haside

theorem unwind_appends (fr : Frame) : s.Appends (fr.unwind s).session := by
  cases fr with
  | performed owner a rest => cases owner <;> exact .of_backstage rfl
  | taskEnded i sub => exact .of_pendingOn (pendingOn_endTask ..)
  | looped i => exact .of_pendingOn (pendingOn_modifyInterpreter (by intro; rfl) s i)
  | _ => exact .of_backstage rfl

/-- A step of a thread appends tasks or takes tasks, and does not do both. -/
theorem Sound.appends_or_takes (h : s.Sound) (hstep : s.step t = some s') :
    s.Appends s' ∨ s.Takes s' := by
  obtain ⟨th, _, _, _, _, ht⟩ := h.exists_taken hstep
  obtain ⟨m, frames, hm, rfl⟩ := exists_moves hstep ht.thread
  have happly : (apply m t frames).service.pendingOn = m.session.service.pendingOn := rfl
  have hmove : s.Appends m.session ∨ s.Takes m.session := by
    cases hm with
    | run hc => exact code_appends_or_takes h.sane hc
    | give r fr => exact .inl (frame_appends fr r)
    | unwind fr => exact .inl (unwind_appends fr)
    | refuse => exact .inl (.of_backstage rfl)
  exact hmove.imp (·.trans (.of_pendingOn happly)) (·.trans (.of_pendingOn happly))

end Session

end AddonHost
