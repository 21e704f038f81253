import AddonHost.Proofs.Session.Onward

/-!
A call that fails leaves everything as it was.

The runtime's entries check before they act, so a call that returns anything but `ok` has touched
nothing: `Reachable.error_untouched` says so of every entry, every argument and every invoker,
unless the call has waited for space in between, when others have acted.

The proof follows a call from its first step (`Stage`).  It checks, and may be refused, with nothing
touched so far; or it commits itself, and from then on its thread has a frame on its stack, or a
reply to give, that makes the call return `ok` whatever callbacks and engines do above it
(`Thread.Commits`).
-/

namespace AddonHost

/-- What a move leaves a thread with, above some frames. -/
abbrev Move.thread (m : Move) (below : List Frame) : Thread :=
  { control := m.control, stack := m.frames ++ below }

/-- A thread is in the middle of a call that was made above some frames. -/
def Thread.IsInside (below : List Frame) (th : Thread) : Prop :=
  ∃ above, th.stack = above ++ below ∧ (above = [] → ∃ c, th.control = .run c)

/-- The call itself waits for space in a queue. -/
def Thread.IsSuspended (below : List Frame) (th : Thread) : Prop :=
  ∃ f data, th = { control := .run (.awaitSpace f data), stack := .outcomeResponse :: below }

/-- A frame, with those under it, that makes a call above some frames return `ok`. -/
inductive Frame.Commits (below : List Frame) : Frame → List Frame → Prop where
  /-- A release is in the teardown that it has begun. -/
  | released : Commits below (.thenReply (.outcome (.ok ()))) (.outcomeResponse :: below)
  /-- A call is in the dispatch task that it runs or waits for. -/
  | called {i : InvokerId} : Commits below (.called i) (.outcomeResponse :: below)
  /-- A creation is on its way. -/
  | creating : Commits below .createdResponse below

/-- A call above some frames is bound to return `ok` if it returns. -/
inductive Thread.Commits (below : List Frame) : Thread → Prop where
  | inside {control : Control} (above : List Frame) {base : List Frame} {fr : Frame}
      (h : fr.Commits below base) :
    Commits below { control := control, stack := above ++ fr :: base }
  | lettingGo {i : InvokerId} :
    Commits below
      { control := .run (.letGo i (.outcome (.ok ()))), stack := .outcomeResponse :: below }
  | joining {i : InvokerId} :
    Commits below
      { control := .run (.awaitEnd i (.outcome (.ok ()))), stack := .outcomeResponse :: below }
  | succeeded :
    Commits below { control := .give (.outcome (.ok ())), stack := .outcomeResponse :: below }
  | returned {r : Response} (hr : r.status = .ok) :
    Commits below { control := .give (.response r), stack := below }
  /-- A failure passes through the call, which does not return then. -/
  | failing : Commits below { control := .fail, stack := .outcomeResponse :: below }
  | failed : Commits below { control := .fail, stack := below }

/-- Whether a thread is about to queue a job by an entry of the runtime. -/
def Thread.queues (env work : Word) : Thread → Bool
  | { control := .run (.entry .runtime (.queueAsyncWork env' work')), .. } =>
    env' = env && work' = work
  | _ => false

theorem Thread.exists_of_queues {env work : Word} {th : Thread} (h : th.queues env work = true) :
    ∃ below,
      th = { control := .run (.entry .runtime (.queueAsyncWork env work)), stack := below } := by
  unfold queues at h
  split at h
  · simp only [Bool.and_eq_true, decide_eq_true_eq] at h
    obtain ⟨rfl, rfl⟩ := h
    exact ⟨_, rfl⟩
  · cases h

namespace Session

variable {s s' s'' u u' : Session} {t : ThreadId} {below : List Frame} {r : Request}

/-- A thread is in a call, and steps of threads lead to where the call returns; the call itself has
waited for nothing. -/
inductive Returns (t : ThreadId) (below : List Frame) (reply : Reply) : Session → Session → Prop where
  | now {s : Session} (hth : s.threads.get? t = some { control := .give reply, stack := below }) :
    Returns t below reply s s
  | later {s s₁ s' : Session} {v : ThreadId} {th : Thread} (hth : s.threads.get? t = some th)
      (hinside : th.IsInside below) (hawake : ¬th.IsSuspended below) (hrest : s.OthersAtRest v)
      (hstep : s.step v = some s₁) (hreturns : Returns t below reply s₁ s') :
    Returns t below reply s s'

/-- A thread's call has left everything as it was, apart from the log. -/
structure Untouched (s : Session) (t : ThreadId) (s' : Session) : Prop where
  functions : s'.functions = s.functions
  jobs : s'.jobs = s.jobs
  wrapped : s'.wrapped = s.wrapped
  bindings : s'.bindings = s.bindings
  ids : s'.ids = s.ids
  config : s'.config = s.config
  injected : s'.injected = s.injected
  hosts : s'.hosts = s.hosts
  names : s'.names = s.names
  queues (i : InvokerId) :
    (s'.invokers.get? i).map Invoker.queue = (s.invokers.get? i).map Invoker.queue
  /-- No callback has run, and no engine was called. -/
  scripts : s'.scripts = s.scripts
  engines : s'.engines = s.engines
  events : ∃ logged, s'.journal = logged ++ s.journal ∧
    ∀ e ∈ logged, ∃ level text, e = .log level text
  threads (u : ThreadId) : u ≠ t → s'.threads.get? u = s.threads.get? u

theorem Untouched.refl (s : Session) (t : ThreadId) : s.Untouched t s :=
  ⟨rfl, rfl, rfl, rfl, rfl, rfl, rfl, rfl, rfl, fun _ => rfl, rfl, rfl, ⟨[], rfl, by simp⟩,
    fun _ _ => rfl⟩

theorem Untouched.trans (h : s.Untouched t s') (h' : s'.Untouched t s'') : s.Untouched t s'' where
  functions := h'.functions.trans h.functions
  jobs := h'.jobs.trans h.jobs
  wrapped := h'.wrapped.trans h.wrapped
  bindings := h'.bindings.trans h.bindings
  ids := h'.ids.trans h.ids
  config := h'.config.trans h.config
  injected := h'.injected.trans h.injected
  hosts := h'.hosts.trans h.hosts
  names := h'.names.trans h.names
  queues i := (h'.queues i).trans (h.queues i)
  scripts := h'.scripts.trans h.scripts
  engines := h'.engines.trans h.engines
  events := by
    obtain ⟨logged, hlogged, hlogs⟩ := h.events
    obtain ⟨logged', hlogged', hlogs'⟩ := h'.events
    refine ⟨logged' ++ logged, by rw [hlogged', hlogged, List.append_assoc], fun e he => ?_⟩
    rcases List.mem_append.1 he with he | he
    · exact hlogs' e he
    · exact hlogs e he
  threads u hu := (h'.threads u hu).trans (h.threads u hu)

theorem untouched_log (level : Log.Level) (text : String) : s.Untouched t (s.log level text) := by
  simp only [log]
  split_ifs
  · exact ⟨rfl, rfl, rfl, rfl, rfl, rfl, rfl, rfl, rfl, fun _ => rfl, rfl, rfl,
      ⟨[.log level text], rfl, by simp⟩, fun _ _ => rfl⟩
  all_goals
    exact ⟨rfl, rfl, rfl, rfl, rfl, rfl, rfl, rfl, rfl, fun _ => rfl, rfl, rfl, ⟨[], rfl, by simp⟩,
      fun _ _ => rfl⟩

/-- An invoker that hands a task back has not queued it. -/
theorem untouched_of_offer {i : InvokerId} {sync : Bool} {task : Task}
    (h : s.offer t i sync task = (.handedBack, s')) : s.Untouched t s' := by
  have hcount (g : Invoker → Invoker) (hg : ∀ inv, (g inv).queue = inv.queue) :
      s.Untouched t (s.modifyInvoker i g) := by
    refine { Untouched.refl s t with queues := fun k => ?_, events := ⟨[], rfl, by simp⟩ }
    simp only [modifyInvoker, Assoc.get?_modify]
    split
    · rw [Option.map_map]
      exact congrArg (fun f => Option.map f _) (funext hg)
    · rfl
  unfold offer at h
  split at h
  · obtain ⟨-, rfl⟩ := Prod.mk.inj h
    exact .refl s t
  · split at h
    · simp only at h
      split_ifs at h
      · obtain ⟨-, rfl⟩ := Prod.mk.inj h
        exact hcount _ fun inv => inv.queue_mapManual fun _ => rfl
      all_goals simp [enqueueAwaited] at h
    · simp only at h
      split_ifs at h
      · obtain ⟨-, rfl⟩ := Prod.mk.inj h
        exact untouched_log ..
      · simp at h
      · simp at h
      · obtain ⟨-, rfl⟩ := Prod.mk.inj h
        exact untouched_log ..
      · simp [enqueueAwaited] at h

/-- A step that has touched nothing leaves the other threads alone. -/
theorem Untouched.apply {m : Move} (h : s.Untouched t m.session) (rest : List Frame) :
    s.Untouched t (apply m t rest) := by
  refine { h with threads := fun u hu => ?_ }
  rw [Session.apply, setThread, Assoc.get?_insert, if_neg hu.symm]
  exact h.threads u hu

/-! ### The stages of a call -/

/-- How far a call of a runtime's entry has come that was made in a session. -/
inductive Stage (s : Session) (t : ThreadId) (below : List Frame) (u : Session) : Thread → Prop where
  | entered {r : Request} (hu : s.Untouched t u) :
    Stage s t below u { control := .run (.entry .runtime r), stack := below }
  | calling {f : HandleId} {data : Word} {mode : CallMode} (hu : s.Untouched t u) :
    Stage s t below u
      { control := .run (.call f data mode), stack := .outcomeResponse :: below }
  | releasing {f : HandleId} {mode : ReleaseMode} (hu : s.Untouched t u) :
    Stage s t below u { control := .run (.release f mode), stack := .outcomeResponse :: below }
  | refused {e : HostError} (hu : s.Untouched t u) :
    Stage s t below u { control := .give (.outcome (.error e)), stack := .outcomeResponse :: below }
  | answered {status : Status} (hu : s.Untouched t u) :
    Stage s t below u { control := .give (.response { status := status }), stack := below }
  | suspended {th : Thread} (hth : th.IsSuspended below) : Stage s t below u th
  | committed {th : Thread} (hth : th.Commits below) : Stage s t below u th

/-! ### Entries -/

theorem untouched_deleteJob {j : HandleId} {e : HostError} (he : (s.deleteJob j).1 = .error e) :
    s.Untouched t (s.deleteJob j).2 := by
  unfold deleteJob at he ⊢
  split at he
  · exact .refl s t
  · simp at he

theorem untouched_cancelJob {j : HandleId} {e : HostError} (he : (s.cancelJob j).1 = .error e) :
    s.Untouched t (s.cancelJob j).2 := by
  unfold cancelJob at he ⊢
  split at he
  · exact .refl s t
  · split at he
    · exact .refl s t
    · simp at he
    · simp at he

theorem untouched_cancelJobById {j : HandleId} {e : HostError}
    (he : (s.cancelJobById j).1 = .error e) : s.Untouched t (s.cancelJobById j).2 := by
  unfold cancelJobById at he ⊢
  split at he
  · exact .refl s t
  · exact untouched_cancelJob he

/-- A job whose task is handed back is as it was before. -/
theorem untouched_queueJob {j : HandleId} {env : Word} {e : HostError}
    (he : (s.queueJob t j env).1 = .error e) : s.Untouched t (s.queueJob t j env).2 := by
  unfold queueJob at he ⊢
  split at he
  · exact .refl s t
  · next job hj =>
    split at he
    · exact untouched_log ..
    · split at he
      · exact .refl s t
      · next i _ _ job' hdispatch =>
        split at he
        · simp at he
        · next o u hne hoffer =>
          obtain rfl : o = .handedBack := (offer_eq_of_async hoffer).resolve_left hne
          have hoffered := untouched_of_offer hoffer
          have hjobs : (u.modifyJob j AsyncJob.retract).jobs = s.jobs := by
            rw [modifyJob, hoffered.jobs]
            have hretract := AsyncJob.retract_of_dispatch hdispatch
            simp only [modifyJob, Registry.modify]
            rw [Assoc.modify_modify_of_eq hj hretract]
          refine Untouched.trans ?_ (untouched_log ..)
          exact { hoffered with jobs := hjobs }

theorem untouched_queueJobById {j : HandleId} {env : Word} {e : HostError}
    (he : (s.queueJobById t j env).1 = .error e) : s.Untouched t (s.queueJobById t j env).2 := by
  unfold queueJobById at he ⊢
  split at he
  · exact .refl s t
  · exact untouched_queueJob he

theorem untouched_acquire {f : HandleId} {fn : ThreadsafeFunction} {e : HostError}
    (he : (s.acquire f fn).1 = .error e) : s.Untouched t (s.acquire f fn).2 := by
  unfold acquire at he ⊢
  split_ifs at he ⊢
  exact .refl s t

/-- An entry that refuses at once. -/
theorem stage_respond (hu : s.Untouched t u) (status : Status) :
    Stage s t below (apply (u.respond status) t below) ((u.respond status).thread below) :=
  .answered (Untouched.apply (m := u.respond status) hu below)

theorem stage_respondOutcome {p : Outcome × Session} (hu : s.Untouched t u)
    (h : ∀ e, p.1 = .error e → u.Untouched t p.2) :
    Stage s t below (apply (respondOutcome p) t below) ((respondOutcome p).thread below) := by
  obtain ⟨o, v⟩ := p
  cases o with
  | ok => exact .committed (.returned rfl)
  | error e => exact stage_respond (hu.trans (h e rfl)) _

theorem stage_withFunction (hu : s.Untouched t u) {func : Word}
    {act : HandleId → ThreadsafeFunction → Move}
    (h : ∀ f fn, Stage s t below (apply (act f fn) t below) ((act f fn).thread below)) :
    Stage s t below (apply (u.withFunction func act) t below)
      ((u.withFunction func act).thread below) := by
  unfold withFunction
  split
  · exact stage_respond hu _
  · exact h _ _

/-- An entry checks its arguments, and then it acts, or goes on with a call or a release. -/
theorem stage_runtimeEntry (hu : s.Untouched t u) (r : Request) :
    Stage s t below (apply (u.runtimeEntry t r) t below) ((u.runtimeEntry t r).thread below) := by
  unfold runtimeEntry
  split
  · split
    · exact stage_respond hu _
    · exact .committed (.returned rfl)
  · exact stage_respondOutcome hu fun e => untouched_deleteJob
  · exact stage_respondOutcome hu fun e => untouched_queueJobById
  · exact stage_respondOutcome hu fun e => untouched_cancelJobById
  · unfold createFunctionEntry
    split
    · exact stage_respond hu _
    · split
      · exact stage_respond (hu.trans (untouched_log ..)) _
      · exact .committed (.inside [] .creating)
  · split
    · exact stage_respond hu _
    · exact stage_withFunction hu fun f fn => .committed (.returned rfl)
  · split
    · exact stage_respond hu _
    · exact stage_withFunction hu fun f fn => .calling (Untouched.apply (m := u.run _ _) hu below)
  · exact stage_withFunction hu fun f fn => stage_respondOutcome hu fun e => untouched_acquire
  · split
    · exact stage_respond hu _
    · exact stage_withFunction hu fun f fn => .releasing (Untouched.apply (m := u.run _ _) hu below)
  · exact stage_withFunction hu fun f fn => .committed (.returned rfl)
  · exact stage_withFunction hu fun f fn => .committed (.returned rfl)
  · exact stage_respond hu _

/-! ### Calls and releases -/

theorem commits_appendItem {f : HandleId} {fn : ThreadsafeFunction} {data : Word} :
    ((s.appendItem t f fn data).thread (.outcomeResponse :: below)).Commits below := by
  unfold appendItem
  simp only
  split
  · exact .succeeded
  · split
    · exact .succeeded
    · exact .succeeded
    · exact .inside [.ranInline _] .called
    · exact .inside [] .called

theorem stage_call (hu : s.Untouched t u) {f : HandleId} {data : Word} {mode : CallMode} :
    Stage s t below (apply (u.call t f data mode) t (.outcomeResponse :: below))
      ((u.call t f data mode).thread (.outcomeResponse :: below)) := by
  unfold call
  split
  · exact .refused (Untouched.apply (m := u.give _) hu _)
  · split
    · exact .refused (Untouched.apply (m := u.give _) hu _)
    · exact .suspended ⟨f, data, rfl⟩
    · exact .committed commits_appendItem

theorem commits_closeThen {f : HandleId} :
    ((s.closeThen t f (.outcome (.ok ()))).thread (.outcomeResponse :: below)).Commits below := by
  unfold closeThen
  split
  · exact .succeeded
  · split
    · exact .succeeded
    · simp only
      split
      · exact .inside [] .released
      · split
        · exact .succeeded
        · exact .inside [] .released

theorem stage_release (hu : s.Untouched t u) {f : HandleId} {mode : ReleaseMode} :
    Stage s t below (apply (u.release t f mode) t (.outcomeResponse :: below))
      ((u.release t f mode).thread (.outcomeResponse :: below)) := by
  unfold release
  split
  · exact .refused (Untouched.apply (m := u.give _) hu _)
  · split
    · exact .refused (Untouched.apply (m := u.give _) hu _)
    · split
      · exact .committed commits_closeThen
      · simp only
        split
        · exact .committed commits_closeThen
        · exact .committed .succeeded

theorem commits_letGo {i : InvokerId} :
    ((s.letGo t i (.outcome (.ok ()))).thread (.outcomeResponse :: below)).Commits below := by
  unfold letGo
  split
  · exact .succeeded
  · simp only
    split
    · exact .succeeded
    · split
      · exact .succeeded
      · split
        · exact .succeeded
        · exact .joining

/-! ### Steps -/

variable {th : Thread} {m : Move} {rest : List Frame}

/-- A thread that is in a call has not returned from it. -/
theorem not_isInside_give (r : Reply) :
    ¬Thread.IsInside below { control := .give r, stack := below } := by
  rintro ⟨above, hstack, hrun⟩
  obtain ⟨c, hc⟩ := hrun (List.self_eq_append_left.1 hstack)
  cases hc

theorem not_isInside_fail : ¬Thread.IsInside below { control := .fail, stack := below } := by
  rintro ⟨above, hstack, hrun⟩
  obtain ⟨c, hc⟩ := hrun (List.self_eq_append_left.1 hstack)
  cases hc

/-- A call that is bound to return `ok` goes on so. -/
theorem Moves.commits (hm : u.Moves t th m rest) (hc : th.Commits below)
    (hinside : th.IsInside below) : (m.thread rest).Commits below := by
  cases hc with
  | inside above h =>
    rcases hm.stack_or with ⟨above', hstack⟩ | ⟨rfl, ⟨r, -, rfl⟩ | ⟨-, rfl⟩⟩
    · rw [Move.thread, hstack]
      exact .inside above' h
    · cases h with
      | released => exact .succeeded
      | called => exact .lettingGo
      | creating => exact .returned rfl
    · cases h with
      | released => exact .failing
      | called => exact .failing
      | creating => exact .failed
  | lettingGo =>
    cases hm with
    | run hm =>
      obtain rfl := Option.some.inj hm
      exact commits_letGo
  | joining =>
    cases hm with
    | run hm =>
      simp only [Code.step, awaitEnd] at hm
      split_ifs at hm
      obtain rfl := Option.some.inj hm
      exact .succeeded
  | succeeded =>
    cases hm with
    | give r fr rest => exact .returned rfl
  | returned hr => exact absurd hinside (not_isInside_give _)
  | failing =>
    cases hm with
    | unwind fr rest => exact .failed
  | failed => exact absurd hinside not_isInside_fail

/-- Each step of its thread takes a call from one stage to another. -/
theorem Stage.moves (hm : u.Moves t th m rest) (h : Stage s t below u th)
    (hinside : th.IsInside below) (hawake : ¬th.IsSuspended below) :
    Stage s t below (apply m t rest) (m.thread rest) := by
  cases h with
  | entered hu =>
    cases hm with
    | run hm =>
      obtain rfl := Option.some.inj hm
      exact stage_runtimeEntry hu _
  | calling hu =>
    cases hm with
    | run hm =>
      obtain rfl := Option.some.inj hm
      exact stage_call hu
  | releasing hu =>
    cases hm with
    | run hm =>
      obtain rfl := Option.some.inj hm
      exact stage_release hu
  | refused hu =>
    cases hm with
    | give r fr rest => exact stage_respond hu _
  | answered hu => exact absurd hinside (not_isInside_give _)
  | suspended hth => exact absurd hth hawake
  | committed hth => exact .committed (hm.commits hth hinside)

/-- A thread that checks whether it may act is in the middle of an operation. -/
theorem Stage.atRest_eq_false (h : Stage s t below u th) (hinside : th.IsInside below)
    (hawake : ¬th.IsSuspended below) : th.Commits below ∨ th.atRest = false := by
  cases h with
  | answered => exact absurd hinside (not_isInside_give _)
  | suspended hth => exact absurd hth hawake
  | committed hth => exact .inl hth
  | _ => exact .inr rfl

theorem Stage.step {v : ThreadId} (hu : u.Reachable) (hth : u.threads.get? t = some th)
    (h : Stage s t below u th) (hinside : th.IsInside below) (hawake : ¬th.IsSuspended below)
    (hrest : u.OthersAtRest v) (hstep : u.step v = some u') :
    ∃ th', u'.threads.get? t = some th' ∧ Stage s t below u' th' := by
  by_cases hv : v = t
  · subst hv
    obtain ⟨m, rest, hm, rfl⟩ := exists_moves hstep hth
    exact ⟨_, threads_apply .., h.moves hm hinside hawake⟩
  refine ⟨th, hu.get?_of_step_of_ne hstep hv hth, ?_⟩
  rcases h.atRest_eq_false hinside hawake with hth' | hbusy
  · exact .committed hth'
  · -- no other thread takes a step while this one checks
    have hplaced : t ∈ u.precedence := hu.sound.sane.placed _ (Assoc.mem_of_get? hth)
    have := hrest t hplaced (Ne.symm hv)
    simp [isBusy, hth, hbusy] at this

/-- A call that has returned was refused with nothing touched, or has returned `ok`. -/
theorem Stage.returned {resp : Response}
    (h : Stage s t below u { control := .give (.response resp), stack := below }) :
    resp.status = .ok ∨ s.Untouched t u ∧ resp.out = none := by
  generalize hth : ({ control := .give (.response resp), stack := below } : Thread) = th at h
  cases h with
  | answered hu =>
    obtain ⟨hc, -⟩ := Thread.mk.inj hth
    obtain rfl : resp = _ := Reply.response.inj (Control.give.inj hc)
    exact .inr ⟨hu, rfl⟩
  | suspended h =>
    obtain ⟨f, data, rfl⟩ := h
    cases hth
  | committed h =>
    cases h with
    | inside above hfr =>
      obtain ⟨-, hstack⟩ := Thread.mk.inj hth
      have := congrArg List.length hstack
      cases hfr <;> simp at this <;> omega
    | returned hr =>
      obtain ⟨hc, -⟩ := Thread.mk.inj hth
      obtain rfl : resp = _ := Reply.response.inj (Control.give.inj hc)
      exact .inl hr
    | _ => cases hth
  | _ => cases hth

/-- A call that returns from a stage was refused, or returns `ok`. -/
theorem Stage.returns {resp : Response} (hreturns : u.Returns t below (.response resp) u')
    (hu : u.Reachable) (hth : u.threads.get? t = some th) (h : Stage s t below u th) :
    resp.status = .ok ∨ s.Untouched t u' ∧ resp.out = none := by
  induction hreturns generalizing th with
  | now hnow =>
    obtain rfl := Option.some.inj (hth.symm.trans hnow)
    exact h.returned
  | @later v v₁ v' w _ hth' hinside hawake hrest hstep _ ih =>
    obtain rfl := Option.some.inj (hth.symm.trans hth')
    obtain ⟨th₁, hth₁, h₁⟩ := h.step hu hth hinside hawake hrest hstep
    exact ih (hu.step w hrest hstep) hth₁ h₁

/-- A call that fails leaves everything as it was, and gives no result. -/
theorem Reachable.error_untouched {resp : Response} (h : s.Reachable)
    (hth : s.threads.get? t = some { control := .run (.entry .runtime r), stack := below })
    (hreturns : s.Returns t below (.response resp) s') (hstatus : resp.status ≠ .ok) :
    s.Untouched t s' ∧ resp.out = none :=
  (Stage.returns hreturns h hth (.entered (.refl s t))).resolve_left hstatus

/-- A session in which a job is about to be queued on an invoker that takes no task. -/
def handingBack : Session :=
  ((start [] none).during?
    [.createInvoker "queue" (.limited 0),
      .bind (.word 7) "queue",
      .createJob "job" (.word 7) (.word 8) false]
    (.entry "abi" .queueAsyncWork { env := .word 7, work := .named "job" }) 1).get
    (by decide +kernel)

/-- The same session after the call has returned. -/
def handedBack : Session := (handingBack.step .main).get (by decide +kernel)

theorem error_untouched_handedBack :
    ∃ below, handingBack.Returns .main below
        (.response { status := Status.ofOutcome (.error .noInvoker) }) handedBack ∧
      handingBack.Untouched .main handedBack := by
  have hreachable : handingBack.Reachable :=
    (Reachable.start [] none).during? (Option.some_get _).symm
  have hrest : ∀ u ∈ handingBack.precedence, u ≠ .main → handingBack.isBusy u = false := by
    decide +kernel
  have houtcome : (handingBack.queueJobById .main ⟨1⟩ 7).1 = .error .noInvoker := by decide +kernel
  obtain ⟨main, hmain, hqueues⟩ := (Option.any_eq_true ..).1
    (by decide +kernel : (handingBack.threads.get? .main).any (Thread.queues 7 1) = true)
  obtain ⟨below, rfl⟩ := Thread.exists_of_queues hqueues
  have hstep : handingBack.step .main = some handedBack := (Option.some_get _).symm
  obtain ⟨m, rest, hm, happly⟩ := exists_moves hstep hmain
  cases hm with
  | run hm =>
    obtain rfl := Option.some.inj hm
    have hreplied : handedBack.threads.get? .main = some
        { control := .give (.response { status := Status.ofOutcome (.error .noInvoker) })
          stack := below } := by
      rw [happly, threads_apply, ← houtcome]
      rfl
    have hreturns : handingBack.Returns .main below
        (.response { status := Status.ofOutcome (.error .noInvoker) }) handedBack :=
      .later hmain ⟨[], rfl, fun _ => ⟨_, rfl⟩⟩ (fun ⟨_, _, h⟩ => by cases h) hrest hstep
        (.now hreplied)
    exact ⟨below, hreturns, (hreachable.error_untouched hmain hreturns (by decide)).1⟩

end Session

end AddonHost
