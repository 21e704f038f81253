import AddonHost.Proofs.Invoker.Joins
import AddonHost.Proofs.Invoker.Moves
import AddonHost.Proofs.Session.Onward

/-!
Runs in which threads interleave freely.

`Session.Interleaves` lets any thread take the next step, also when others are in the middle of
operations of their own; what is atomic is one step.  In an unfailing run no task fails.  Every such
run is a run of the invokers' service (`Interleaves.goesOn`): a step of a thread is one of its moves,
and each move is a few steps of the service.
-/

namespace AddonHost

open Service

/-- Whether a thread is about to pass a failure on. -/
def Thread.isFailing : Thread → Bool
  | { control := .fail, stack := _ :: _ } => true
  | _ => false

/-- Whether a thread is where the thread of an invoker may be: about to ask for a task, inside the
loop, or at its end. -/
inductive Thread.InLoop (i : InvokerId) : Thread → Prop where
  | loop : InLoop i { control := .run (.loop i) }
  | inside {th : Thread} (h : th.stack.getLast? = some (.looped i)) : InLoop i th
  | ended (r : Reply) : InLoop i { control := .give r }

namespace Session

/-- The sessions that a run may arrive at when it goes on from a session, and threads step in any
order. -/
inductive Interleaves (unfailing : Prop) (s : Session) : Session → Prop where
  | refl : Interleaves unfailing s s
  | act {s' : Session} (a : Action) :
    Interleaves unfailing s s' → s'.MainIdle → Interleaves unfailing s (s'.beginAction a)
  | step {s' s'' : Session} (t : ThreadId) : Interleaves unfailing s s' →
    (unfailing → ∀ th, s'.threads.get? t = some th → th.isFailing = false) →
      s'.step t = some s'' → Interleaves unfailing s s''

variable {unfailing : Prop} {s s' s'' : Session} {t : ThreadId} {i : InvokerId} {inv : Invoker}
  {ds own below : List Duty} {m : Move} {th : Thread} {frames : List Frame}

theorem Interleaves.trans (h : Interleaves unfailing s s') (h' : Interleaves unfailing s' s'') :
    Interleaves unfailing s s'' := by
  induction h' with
  | refl => exact h
  | act a _ hidle ih => exact ih.act a hidle
  | step t _ hunfailing hstep ih => exact ih.step t hunfailing hstep

/-! ### Actions -/

theorem withInvoker_serves (name : String) {act : InvokerId → Invoker → Move}
    (h : ∀ i inv, s.invokers.get? i = some inv →
      (act i inv).Serves unfailing t s [] below) :
    (s.withInvoker name act).Serves unfailing t s [] below := by
  unfold withInvoker
  split
  · exact .of_backstage rfl
  · next i inv hfound =>
    refine h i inv ?_
    simp only [findInvoker?, Option.bind_eq_bind, Option.pure_def, Option.bind_eq_some_iff] at hfound
    obtain ⟨j, -, inv', hinv, hpair⟩ := hfound
    obtain ⟨rfl, rfl⟩ := Prod.mk.inj (Option.some.inj hpair)
    exact hinv

theorem get?_of_findThread? {name : String} {r : InterpreterThread}
    (h : s.findThread? name = some (i, r)) :
    ∃ inv, s.invokers.get? i = some inv ∧ inv.core = .thread r := by
  simp only [findThread?, findInvoker?, Option.bind_eq_bind, Option.pure_def,
    Option.bind_eq_some_iff] at h
  obtain ⟨⟨j, inv⟩, ⟨k, -, inv', hinv, hpair⟩, hcore⟩ := h
  obtain ⟨rfl, rfl⟩ := Prod.mk.inj (Option.some.inj hpair)
  split at hcore
  · simp at hcore
  · next r' hr =>
    obtain ⟨rfl, rfl⟩ := Prod.mk.inj (Option.some.inj hcore)
    exact ⟨_, hinv, hr⟩

theorem withThread_serves (name : String) {act : InvokerId → InterpreterThread → Move}
    (h : ∀ i inv r, s.invokers.get? i = some inv → inv.core = .thread r →
      (act i r).Serves unfailing t s [] below) :
    (s.withThread name act).Serves unfailing t s [] below := by
  unfold withThread
  split
  · exact .of_backstage rfl
  · next hfound =>
    obtain ⟨inv, hinv, hr⟩ := get?_of_findThread? hfound
    exact h _ _ _ hinv hr

/-- A producer begins with nothing to do for an invoker. -/
theorem startProducer_serves (hs : s.Sane) (name : String) {c : Code} (hc : c.duties = []) :
    (s.startProducer name c).Serves unfailing t s [] below := by
  have hnone : s.threads.get? (.spawned s.producers.length) = none :=
    hs.get?_thread (by simp [mem_precedence])
  refine ⟨fun u => ?_, fun i => ?_, .refl _⟩
  · by_cases hu : u = .spawned s.producers.length
    · subst hu
      simp [startProducer, reply, give, duties, setThread, Assoc.get?_insert, hnone,
        Thread.duties, Control.duties, Frame.duties, hc]
    · simp [startProducer, reply, give, duties, setThread, Assoc.get?_insert, Ne.symm hu]
  · simp [startProducer, reply, give, setThread, Assoc.get?_insert]

theorem holdThread_serves (name : String) :
    (s.holdThread t name).Serves unfailing t s [] below := by
  unfold holdThread
  split
  · exact .of_backstage rfl
  · split <;> next hoffer => exact (offer_async_serves hoffer).trans (.of_backstage rfl)

theorem serves_releaseOccupation (s : Session) (i : InvokerId) :
    Serves unfailing t s ds (s.releaseOccupation i) ds := .of_backstage (by simp)

/-- The first who asks to wait for an interpreter thread has the claim to its report. -/
theorem shutdownThread_serves (name : String) :
    (s.shutdownThread t name).Serves unfailing t s [] below := by
  refine withThread_serves name fun i inv r hi hcore => ?_
  simp only
  refine ((requestShutdown_serves s i).trans (serves_releaseOccupation _ i)).trans ?_
  have hcore' : (inv.mapThread fun r => { r with shutdown := true }).core
      = .thread { r with shutdown := true } := by
    rw [Invoker.core_mapThread, hcore]
    rfl
  have hi' : ((s.requestShutdown i).releaseOccupation i).invokers.get? i
      = some (inv.mapThread fun r => { r with shutdown := true }) := by
    have hinvokers : ((s.requestShutdown i).releaseOccupation i).invokers
        = (s.requestShutdown i).invokers := by
      unfold releaseOccupation
      split <;> rfl
    rw [hinvokers]
    exact get?_modifyInvoker hi _
  split
  · exact .of_backstage rfl
  · next hown =>
    exact join_serves hi' hcore' rfl (by simpa using (Bool.or_eq_false_iff.1
      (eq_false_of_ne_true hown)).2) true

theorem dropInvoker_serves (name : String) :
    (s.dropInvoker name).Serves unfailing t s [] below := by
  have hnamed (names : Names) : Serves unfailing t s below { s with names := names } below :=
    .of_backstage rfl
  unfold dropInvoker
  split
  · exact .of_backstage rfl
  · refine (hnamed { s.names with invokers := s.names.invokers.erase name }).trans ?_
    split
    · exact .of_backstage rfl
    · simp only
      split
      · exact (requestShutdown_serves _ _).trans (serves_releaseOccupation _ _)
      · exact .of_backstage rfl

theorem pumpNamed_serves (name : String) (goal : PumpGoal) :
    (s.pumpNamed name goal).Serves unfailing t s [] below := by
  refine withInvoker_serves name fun i inv hi => ?_
  split
  · exact .of_backstage rfl
  · next m hm =>
    split
    · exact .of_backstage rfl
    · have hbegin : Step unfailing t i ((s.keepInvoker i).service, below)
          ((s.keepInvoker i).service, .pumping i :: below) :=
        .beginPump (m := m) (by rw [service_keepInvoker, cores_eq hi, hm])
      exact (serves_keepInvoker s i).trans (serves_of_step rfl rfl hbegin)

/-- Naming an invoker is nothing to the invokers. -/
theorem aside_nameInvoker (s : Session) (name : String) (i : InvokerId) :
    (s.nameInvoker name i).Aside s := by
  unfold nameInvoker
  simp only
  split <;> exact ⟨rfl, rfl⟩

/-- A new invoker. -/
theorem service_insert (s : Session) (i : InvokerId) (inv : Invoker) :
    ({ s with invokers := s.invokers.insert i inv } : Session).service
      = s.service.set i inv.core := by
  ext : 1
  · funext j
    rw [cores_service, Assoc.get?_insert, Service.set]
    by_cases hj : i = j
    · subst hj
      simp
    · simp [hj, Ne.symm hj, cores_service]
  all_goals rfl

theorem createManual_serves (hs : s.Sane) (name : String) (takes : ℕ → Bool) :
    (s.createInvoker t name (.manual takes)).Serves unfailing t s [] below := by
  have hcreate : Step unfailing t s.invokers.length (s.service, below)
      (s.service.set s.invokers.length (.manual { owner := t, takes := takes }), below) :=
    .create (by rw [cores_service, hs.get?_length, Option.map_none]) rfl
  refine Serves.trans (serves_of_step ?_ ?_ hcreate) (serves_of_aside (aside_nameInvoker _ name _))
  · rfl
  · exact service_insert ..

theorem perform_serves (hs : s.Sane) (a : Action)
    (ha : ∀ name config, a ≠ .createInvoker name (.thread config))
    (hown : ∀ i, t = .interpreter i → .looped i ∈ below) :
    (s.perform t a).Serves unfailing t s [] below := by
  by_cases haside : a.isAside = true
  · exact serves_of_aside (aside_perform t haside)
  · cases a with
    | createInvoker name spec =>
      cases spec with
      | manual takes => exact createManual_serves hs name takes
      | thread config => exact absurd rfl (ha name config)
    | dropInvoker name => exact dropInvoker_serves name
    | submit invoker sync actions rejected =>
      exact withInvoker_serves invoker fun i inv _ =>
        (serves_keepInvoker s i).trans (submit_serves sync actions rejected hown)
    | spawnSubmit name invoker actions =>
      refine withInvoker_serves invoker fun i inv _ => (serves_keepInvoker s i).trans ?_
      have hkept : s.Unconcerned (s.keepInvoker i) := by simp
      exact startProducer_serves (hkept.grows hs).sane name rfl
    | pump invoker goal => exact pumpNamed_serves invoker goal
    | hold invoker => exact holdThread_serves invoker
    | requestShutdown invoker =>
      exact withThread_serves invoker fun i _ _ _ _ => requestShutdown_serves s i
    | shutdown invoker => exact shutdownThread_serves invoker
    | spawnCall name func data mode =>
      unfold perform withFound
      simp only
      split
      · exact .of_backstage rfl
      · exact startProducer_serves hs name rfl
    | queueJob job env direct =>
      unfold perform onJob
      simp only
      split
      · exact queueJob_serves ..
      · exact queueJobById_serves ..
    | _ => exact absurd rfl haside

/-! ### Code and frames -/

theorem entry_serves (p : Provider) (r : Request) :
    (s.entry t p r).Serves unfailing t s [] below := by
  by_cases haside : p = .runtime → r.isAside = true
  · exact serves_of_aside (aside_entry t haside)
  · obtain ⟨rfl, hr⟩ := Classical.not_imp.1 haside
    cases r with
    | queueAsyncWork env work => exact queueJobById_serves ..
    | _ => exact absurd rfl hr

theorem code_serves {c : Code} (hs : s.Sane)
    (hspawn : ∀ name config, c ≠ .perform (.createInvoker name (.thread config)))
    (hown : ∀ i, t = .interpreter i → c ≠ .loop i → .looped i ∈ below)
    (hm : c.step t s = some m) : m.Serves unfailing t s c.duties below := by
  have haside (hc : c.isAside = true) (hperform : ∀ a, c = .perform a → a.isAside = true)
      (hentry : ∀ r, c = .entry .runtime r → r.isAside = true) (hnil : c.duties = []) :
      m.Serves unfailing t s c.duties below := by
    rw [hnil]
    exact serves_of_aside (aside_step hc hperform hentry hm)
  cases c with
  | perform a =>
    obtain rfl := Option.some.inj hm
    exact perform_serves hs a (fun name config ha => hspawn name config (by rw [ha]))
      fun i hi => hown i hi (by simp)
  | entry p r =>
    obtain rfl := Option.some.inj hm
    exact entry_serves p r
  | call f data mode =>
    obtain rfl := Option.some.inj hm
    exact call_serves f data mode fun i hi => hown i hi (by simp)
  | awaitSpace f data => exact awaitSpace_serves (fun i hi => hown i hi (by simp)) hm
  | release f mode =>
    obtain rfl := Option.some.inj hm
    exact release_serves f mode
  | submit i sync actions rejected =>
    obtain rfl := Option.some.inj hm
    exact submit_serves sync actions rejected fun i hi => hown i hi (by simp)
  | awaitTask i completion => exact awaitTask_serves hm
  | pump i goal =>
    obtain rfl := Option.some.inj hm
    exact pump_serves i goal
  | loop i => exact loop_serves hm
  | awaitEnd i r => exact awaitEnd_serves hm
  | letGo i r =>
    obtain rfl := Option.some.inj hm
    exact letGo_serves i r
  | _ => exact haside rfl (by simp) (by simp) rfl

theorem frame_serves (fr : Frame) (r : Reply) :
    (fr.resume t s r).Serves unfailing t s fr.duties below := by
  by_cases haside : fr.isAside = true
  · have hnil : fr.duties = [] := by cases fr <;> simp_all [Frame.isAside, Frame.duties]
    rw [hnil]
    exact serves_of_aside (aside_resume t haside r)
  · cases fr with
    | ranInline i => exact ranInline_serves i
    | drained f wasEmpty => exact afterDrain_serves f wasEmpty
    | taskEnded i sub => exact endTask_serves (.inl rfl)
    | pumped i goal => exact afterPumped_serves i goal
    | looped i => exact afterLooped_serves i
    | joined i => exact afterJoined_serves i
    | _ => exact absurd rfl haside

/-- Only in runs that are not unfailing is a failure passed on. -/
theorem unwind_serves (fr : Frame) (hfails : ¬unfailing) :
    (fr.unwind s).Serves unfailing t s fr.duties below := by
  cases fr with
  | performed owner a rest => cases owner <;> exact .of_backstage rfl
  | taskEnded i sub => exact endTask_serves (.inr ⟨rfl, hfails⟩)
  | pumped i goal => exact serves_of_step rfl rfl .endPump
  | looped i => exact loopFailed_serves i hfails
  | ranInline i => exact serves_of_step rfl rfl (.failedInline hfails)
  | joined i => exact serves_of_step rfl rfl .report
  | _ => exact .of_backstage rfl

/-- The creation of an invoker with a thread of its own is refused, or makes both. -/
theorem createThread_cases (hs : s.Sane) (name : String) (config : InvokerConfig) :
    (s.createInvoker t name (.thread config)).Aside s ∨
      ∃ i thread, s.service.cores i = none ∧ s.threads.get? (.interpreter i) = none ∧
        (s.createInvoker t name (.thread config)).duties = [] ∧
        (s.createInvoker t name (.thread config)).session.threads
          = s.threads.insert (.interpreter i) { control := .run (.loop i) } ∧
        (s.createInvoker t name (.thread config)).session.service
          = s.service.set i (.thread { name := thread }) := by
  unfold createInvoker
  simp only
  split
  · exact .inl (by simp)
  · exact .inl (by simp)
  · right
    obtain ⟨inv, hinv⟩ : ∃ inv : Invoker, inv = { core := .thread { name := config.threadName } } :=
      ⟨_, rfl⟩
    obtain ⟨u, hu⟩ : ∃ u, u = ({ s with invokers := s.invokers.insert s.invokers.length inv }
      : Session).setThread (.interpreter s.invokers.length)
        { control := .run (.loop s.invokers.length) } := ⟨_, rfl⟩
    have hnone : s.threads.get? (.interpreter s.invokers.length) = none :=
      hs.get?_thread (by simp [mem_precedence])
    rw [← hinv, ← hu]
    have hname := aside_nameInvoker (u.log .debug
      ("interpreter thread '" ++ config.threadName ++ "' started")) name s.invokers.length
    have hbackstage := hname.backstage.trans (backstage_log ..)
    refine ⟨s.invokers.length, config.threadName, ?_, hnone, hname.duties,
      (threads_of_backstage hbackstage).trans (by rw [hu]; rfl),
      (service_of_backstage hbackstage).trans ?_⟩
    · rw [cores_service, hs.get?_length, Option.map_none]
    · have hservice : u.service
          = ({ s with invokers := s.invokers.insert s.invokers.length inv } : Session).service := by
        rw [hu]
        rfl
      rw [hservice, service_insert, hinv]

/-! ### Runs -/

/-- What holds of a session in a run: the run of the service, and where the interpreter threads are
in their loops. -/
structure Served (unfailing : Prop) (s : Session) : Prop where
  sound : s.Sound
  run : Run unfailing s.service s.duties
  inLoop (i : InvokerId) (th : Thread) :
    s.threads.get? (.interpreter i) = some th → th.InLoop i

theorem duties_apply (m : Move) (t u : ThreadId) (frames : List Frame) :
    (apply m t frames).duties u
      = Function.update m.session.duties t (m.duties ++ dutiesOf frames) u := by
  by_cases hu : u = t
  · subst hu
    rw [Function.update_self, duties_eq (threads_apply ..)]
    simp [Thread.duties, Move.duties]
  · rw [Function.update_of_ne hu]
    simp [duties, apply, setThread, Assoc.get?_insert, Ne.symm hu]

/-- Where an interpreter thread is after a move. -/
theorem Moves.inLoop (hm : s.Moves (.interpreter i) th m frames) (h : th.InLoop i) :
    Thread.InLoop i { control := m.control, stack := m.frames ++ frames } := by
  have hlast {frames' : List Frame} (h : frames.getLast? = some (.looped i)) :
      (frames' ++ frames).getLast? = some (.looped i) := by
    rw [List.getLast?_append, h, Option.some_or]
  cases h with
  | ended r => cases hm
  | loop =>
    cases hm with
    | run hstep =>
      simp only [Code.step, loop] at hstep
      split at hstep
      · simp at hstep
      · split at hstep
        · simp at hstep
        · split at hstep
          · obtain rfl := Option.some.inj hstep
            exact .ended _
          · obtain ⟨sub, rest, -, rfl⟩ := runNext_eq_some_iff.1 hstep
            exact .inside rfl
  | inside h =>
    cases hm with
    | run hstep => exact .inside (hlast h)
    | give r fr =>
      cases frames with
      | nil =>
        obtain rfl : fr = .looped i := by simpa using h
        exact .loop
      | cons fr' frames => exact .inside (hlast (by simpa using h))
    | unwind fr =>
      cases frames with
      | nil =>
        obtain rfl : fr = .looped i := by simpa using h
        exact .ended _
      | cons fr' frames => exact .inside (hlast (by simpa using h))
    | refuse => simp at h

/-- An interpreter thread that is not about to ask for a task is inside its loop. -/
theorem looped_mem (h : Thread.InLoop i { control := .run c, stack := frames })
    (hc : c ≠ .loop i) : .looped i ∈ dutiesOf frames := by
  cases h with
  | loop => exact absurd rfl hc
  | inside h =>
    refine List.mem_flatMap.2 ⟨.looped i, List.mem_of_getLast? h, ?_⟩
    simp [Frame.duties]

/-- A step of a thread is a move that serves the invokers, or makes an interpreter thread. -/
theorem Moves.serves (hm : s.Moves t th m frames) (hs : s.Sane)
    (hin : ∀ i, t = .interpreter i → th.InLoop i)
    (hunfailing : unfailing → th.isFailing = false) :
    ∃ own, th.duties = own ++ dutiesOf frames ∧ (m.Serves unfailing t s own (dutiesOf frames) ∨
      own = [] ∧ ∃ i thread, s.service.cores i = none ∧ s.threads.get? (.interpreter i) = none ∧
        m.duties = [] ∧
        m.session.threads = s.threads.insert (.interpreter i) { control := .run (.loop i) } ∧
        m.session.service = s.service.set i (.thread { name := thread })) := by
  cases hm with
  | @run c m _ hstep =>
    refine ⟨c.duties, rfl, ?_⟩
    by_cases hspawn : ∃ name config, c = .perform (.createInvoker name (.thread config))
    · obtain ⟨name, config, rfl⟩ := hspawn
      obtain rfl := Option.some.inj hstep
      rcases createThread_cases (t := t) hs name config with haside | h
      · exact .inl (serves_of_aside haside)
      · exact .inr ⟨rfl, h⟩
    · refine .inl (code_serves hs (fun name config hc => hspawn ⟨name, config, hc⟩)
        (fun i hi hc => ?_) hstep)
      exact looped_mem (hin i hi) hc
  | give r fr => exact ⟨fr.duties, rfl, .inl (frame_serves fr r)⟩
  | unwind fr =>
    exact ⟨fr.duties, rfl, .inl (unwind_serves fr fun hu => by simpa [Thread.isFailing] using hunfailing hu)⟩
  | refuse => exact ⟨[], rfl, .inl (.of_backstage rfl)⟩

/-- A step of a thread is a few steps of the service, and leaves interpreter threads in their
loops. -/
theorem Served.goesOn (h : Served unfailing s)
    (hunfailing : unfailing → ∀ th, s.threads.get? t = some th → th.isFailing = false)
    (hstep : s.step t = some s') :
    Service.Onward unfailing s.service s.duties s'.service s'.duties ∧
      ∀ i th, s'.threads.get? (.interpreter i) = some th → th.InLoop i := by
  obtain ⟨th, _, _, _, _, htaken⟩ := h.sound.exists_taken hstep
  have hth := htaken.thread
  obtain ⟨m, frames, hm, rfl⟩ := exists_moves hstep hth
  have hin (i : InvokerId) (hi : t = .interpreter i) : th.InLoop i := h.inLoop i th (hi ▸ hth)
  obtain ⟨own, hown, hserves⟩ := hm.serves h.sound.sane hin fun hu => hunfailing hu th hth
  have hduties : s.duties t = own ++ dutiesOf frames := by rw [duties_eq hth, hown]
  rcases hserves with hserves | ⟨rfl, i, thread, hi, hnone, hnil, hthreads, hservice⟩
  · refine ⟨?_, fun j th' hj => ?_⟩
    · have hgoes : Service.Onward unfailing s.service s.duties m.session.service
          (Function.update s.duties t (m.duties ++ dutiesOf frames)) :=
        Service.Onward.refl.steps (hduties ▸ hserves.steps)
      have hsame : (apply m t frames).duties
          = Function.update s.duties t (m.duties ++ dutiesOf frames) := by
        funext u
        rw [duties_apply, funext hserves.duties]
      rw [hsame]
      exact hgoes
    · simp only [apply, setThread, Assoc.get?_insert] at hj
      split at hj
      · next ht =>
        subst ht
        obtain rfl := Option.some.inj hj
        exact hm.inLoop (hin j rfl)
      · exact h.inLoop j th' (hserves.interpreters j ▸ hj)
  · have hne : .interpreter i ≠ t := by
      rintro rfl
      simp [hnone] at hth
    refine ⟨?_, fun j th' hj => ?_⟩
    · have hgoes : Service.Onward unfailing s.service s.duties
          (s.service.set i (.thread { name := thread }))
          (Function.update s.duties (.interpreter i) [.loop i]) :=
        Service.Onward.refl.next (.spawn thread hi (by rw [duties, hnone]; rfl))
      have hsame : (apply m t frames).duties
          = Function.update s.duties (.interpreter i) [.loop i] := by
        funext u
        rw [duties_apply, hnil]
        by_cases hut : u = t
        · subst hut
          rw [Function.update_self, Function.update_of_ne hne.symm, hduties]
        · rw [Function.update_of_ne hut]
          by_cases hui : u = .interpreter i
          · subst hui
            rw [Function.update_self, duties, hthreads, Assoc.get?_insert, if_pos rfl]
            rfl
          · rw [Function.update_of_ne hui, duties, hthreads, Assoc.get?_insert,
              if_neg (Ne.symm hui), duties]
      rw [hsame]
      exact hservice ▸ hgoes
    · simp only [apply, setThread, Assoc.get?_insert] at hj
      split at hj
      · next ht =>
        subst ht
        obtain rfl := Option.some.inj hj
        exact hm.inLoop (hin j rfl)
      · rw [hthreads, Assoc.get?_insert] at hj
        split at hj
        · next hji =>
          obtain rfl := ThreadId.interpreter.inj hji
          obtain rfl := Option.some.inj hj
          exact .loop
        · exact h.inLoop j th' hj

theorem served_start (vars : Log.Variables) (level : Option Log.Level) :
    Served unfailing (Session.start vars level) := by
  have hservice : (Session.start vars level).service = .initial := by
    cases level <;> simp [Session.start, service, backstage, Backstage.service, setThread,
      setLogger, Service.initial, history]
  have hthreads : (Session.start vars level).threads = [(.main, { control := .give .unit })] := by
    cases level <;> rfl
  have hduties : (Session.start vars level).duties = fun _ => [] := by
    funext u
    rw [duties, hthreads]
    cases u <;> rfl
  refine ⟨sound_start vars level, hservice ▸ hduties ▸ .refl, fun i th hi => ?_⟩
  simp [hthreads, Assoc.get?] at hi

theorem duties_beginAction (hidle : s.MainIdle) (a : Action) :
    (s.beginAction a).duties = s.duties := by
  obtain ⟨r, hmain⟩ := hidle
  funext u
  by_cases hu : .main = u
  · subst hu
    rw [duties_eq hmain, duties, beginAction, setThread, Assoc.get?_insert, if_pos rfl]
    rfl
  · rw [duties, beginAction, setThread, Assoc.get?_insert, if_neg hu, duties]

/-- Every run of a session is a run of the service of its invokers. -/
theorem Interleaves.goesOn (h : Interleaves unfailing s s') (hs : Served unfailing s) :
    Served unfailing s' ∧ Service.Onward unfailing s.service s.duties s'.service s'.duties := by
  induction h with
  | refl => exact ⟨hs, .refl⟩
  | @act u a _ hidle ih =>
    obtain ⟨hu, honward⟩ := ih
    have hduties := duties_beginAction hidle a
    refine ⟨⟨hu.sound.act hidle a, ?_, fun i th hi => ?_⟩, ?_⟩
    · rw [hduties]
      exact hu.run
    · rw [beginAction, setThread, Assoc.get?_insert, if_neg (by simp)] at hi
      exact hu.inLoop i th hi
    · rw [hduties]
      exact honward
  | step t _ hunfailing hstep ih =>
    obtain ⟨hu, honward⟩ := ih
    obtain ⟨hgoes, hin⟩ := hu.goesOn hunfailing hstep
    exact ⟨⟨hu.sound.step hstep, hu.run.trans hgoes, hin⟩, honward.trans hgoes⟩

theorem Interleaves.served {vars : Log.Variables} {level : Option Log.Level}
    (h : Interleaves unfailing (Session.start vars level) s) : Served unfailing s :=
  (h.goesOn (served_start vars level)).1

/-! ### Played runs -/

/-- Whether no failure is passed on while threads step until none can. -/
def calmFor (s : Session) : ℕ → Bool
  | 0 => true
  | limit + 1 => (s.threads.all fun p => !p.2.isFailing) &&
    match s.next? with
    | none => true
    | some s' => s'.calmFor limit

/-- Whether no failure is passed on while the main thread performs some actions. -/
def staysCalm (s : Session) : List Action → Bool
  | [] => true
  | a :: rest => (s.beginAction a).calmFor stepLimit && (s.performOnMain a).staysCalm rest

/-- Letting threads step until none can is part of a run. -/
theorem Interleaves.settle (h : Interleaves unfailing s s') (limit : ℕ)
    (hcalm : unfailing → s'.calmFor limit = true) : Interleaves unfailing s (s'.settle limit) := by
  induction limit generalizing s' with
  | zero => exact h
  | succ n ih =>
    unfold Session.settle
    split
    · exact h
    · next u hu =>
      obtain ⟨t, -, hstep⟩ := exists_step_of_next? hu
      simp only [calmFor, hu, Bool.and_eq_true, List.all_eq_true] at hcalm
      refine ih (h.step t (fun hun th hth => ?_) hstep) fun hun => (hcalm hun).2
      simpa using (hcalm hun).1 _ (Assoc.mem_of_get? hth)

/-- Performing actions, one after the other, is part of a run. -/
theorem Interleaves.performed? {actions : List Action} (h : Interleaves unfailing s s')
    (hs : s'.performed? actions = some s'') (hcalm : unfailing → s'.staysCalm actions = true) :
    Interleaves unfailing s s'' := by
  induction actions generalizing s' with
  | nil =>
    obtain rfl := Option.some.inj hs
    exact h
  | cons a rest ih =>
    unfold Session.performed? at hs
    simp only [staysCalm, Bool.and_eq_true] at hcalm
    split at hs
    · next r hr =>
      exact ih ((h.act a ⟨r, hr⟩).settle stepLimit fun hun => (hcalm hun).1) hs
        fun hun => (hcalm hun).2
    · simp at hs

/-- A session in the middle of an action. -/
theorem Interleaves.during? {actions : List Action} {a : Action} {steps : ℕ}
    (h : Interleaves unfailing s s') (hs : s'.during? actions a steps = some s'')
    (hcalm : unfailing → s'.staysCalm actions = true ∧
      ∀ u, s'.performed? actions = some u → (u.beginAction a).calmFor steps = true) :
    Interleaves unfailing s s'' := by
  obtain ⟨u, hu, hs⟩ := Option.bind_eq_some_iff.1 hs
  split at hs
  · next r hr =>
    obtain rfl := Option.some.inj hs
    exact ((h.performed? hu fun hun => (hcalm hun).1).act a ⟨r, hr⟩).settle steps
      fun hun => (hcalm hun).2 u hu
  · simp at hs

end Session

end AddonHost
