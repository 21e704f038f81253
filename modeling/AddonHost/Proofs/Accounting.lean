import AddonHost.Proofs.Invoker.Interleaving

/-!
The accounts of an interpreter thread.

In a run in which no task fails, with any threads interleaved, an interpreter thread accounts for
each task that it has accepted.

* Tasks start in the order in which they were accepted, one after the other; once the thread is told
  to stop none starts, and the task that is running is the last one (`Session.Accounts`).
* When the thread has ended, each task has been run or dropped, once.  The first who asks for its
  report learns how many there were, and how many submitters have waited; afterwards nothing is
  queued, and whoever asks again learns nothing (`Session.Reported`).
* Whoever waits for a task that was run or dropped can go on.

`Session.Interleaves.accounts` puts this together.
-/

namespace AddonHost

namespace Session

open Event

variable {s s' : Session} {t : ThreadId} {i : InvokerId} {inv : Invoker} {r : InterpreterThread}

/-- What is known of the tasks of an interpreter thread while no task fails. -/
structure Accounts (s : Session) (i : InvokerId) (r : InterpreterThread) : Prop where
  /-- Tickets number the tasks in the order in which they were accepted. -/
  tickets : (queuedOn i s.history).map Submission.ticket = List.range r.queue.nextTicket
  nodup : (queuedOn i s.history).Nodup
  order : startedOn i s.history <+: queuedOn i s.history
  /-- At most one task has started and not ended. -/
  alone : ∃ running : List Submission, running.length ≤ 1 ∧
    startedOn i s.history = finishedOn i s.history ++ running
  unfailed (sub : Submission) : .failed i sub ∉ s.history
  /-- Tasks are dropped only after the thread was told to stop. -/
  dropped : discardedOn i s.history ≠ [] → r.shutdown = true
  /-- At the end each task has ended or was dropped. -/
  settled : r.phase ≠ .running →
    queuedOn i s.history = finishedOn i s.history ++ discardedOn i s.history
  /-- Whoever waits for a task that has ended or was dropped can go on. -/
  released (t : ThreadId) (completion : ℕ) (below : List Frame) (sub : Submission) :
    s.halted = false →
      s.threads.get? t = some { control := .run (.awaitTask i completion), stack := below } →
      .queued i sub ∈ s.history → sub.completion = some completion →
      (.ended i sub ∈ s.history ∨ .discarded i sub ∈ s.history) → (s.step t).isSome = true

/-- What is known of an interpreter thread on which was reported. -/
structure Reported (s : Session) (i : InvokerId) : Prop where
  idle : ∃ inv r, s.invokers.get? i = some inv ∧ inv.core = .thread r ∧ r.phase = .exited ∧
    r.queue.pending = []
  /-- Nobody is about to report on it. -/
  unasked (t : ThreadId) (th : Thread) : s.threads.get? t = some th → .joined i ∉ th.stack
  /-- Whoever asks learns nothing. -/
  nothing (t : ThreadId) (name : String) (r : InterpreterThread) :
    s.findThread? name = some (i, r) →
      (s.shutdownThread t name).control = .give (.answer .nothing) ∧
        (s.shutdownThread t name).frames = []

/-! ### The history -/

theorem filterMap_told {α : Type} {f : Event → Option α} (hf : ∀ e, ¬e.isService → f e = none)
    (s : Session) : s.service.told.filterMap f = s.history.filterMap f := by
  show (s.history.filter Event.isService).filterMap f = _
  rw [List.filterMap_filter]
  refine List.filterMap_congr fun e _ => ?_
  split_ifs with he
  · rfl
  · exact (hf e he).symm

theorem queuedOn_told (s : Session) (i : InvokerId) :
    queuedOn i s.service.told = queuedOn i s.history :=
  filterMap_told (fun e he => by cases e <;> simp_all [isService]) s

theorem startedOn_told (s : Session) (i : InvokerId) :
    startedOn i s.service.told = startedOn i s.history :=
  filterMap_told (fun e he => by cases e <;> simp_all [isService]) s

theorem finishedOn_told (s : Session) (i : InvokerId) :
    finishedOn i s.service.told = finishedOn i s.history :=
  filterMap_told (fun e he => by cases e <;> simp_all [isService]) s

theorem discardedOn_told (s : Session) (i : InvokerId) :
    discardedOn i s.service.told = discardedOn i s.history :=
  filterMap_told (fun e he => by cases e <;> simp_all [isService]) s

theorem awaitedOn_told (s : Session) (i : InvokerId) :
    awaitedOn i s.service.told = awaitedOn i s.history := by
  rw [awaitedOn, queuedOn_told, awaitedOn]

theorem inlineOn_told (s : Session) (i : InvokerId) :
    inlineOn i s.service.told = inlineOn i s.history := by
  show (s.history.filter Event.isService).countP _ = _
  rw [List.countP_filter, inlineOn]
  refine List.countP_congr fun e _ => ?_
  cases e <;> simp [isService]

/-! ### Accounts -/

/-- A thread that waits for a task that is over can go on. -/
theorem isSome_step_of_signalled {completion : ℕ} {below : List Frame} (hrunning : s.halted = false)
    (hth : s.threads.get? t = some { control := .run (.awaitTask i completion), stack := below })
    (hc : completion ∈ s.service.signalled) : (s.step t).isSome = true := by
  have hsignalled : s.signalled.contains completion = true := List.contains_iff_mem.2 hc
  rw [step_eq_map hrunning hth, Code.step, awaitTask, if_pos hsignalled]
  rfl

theorem Served.books (h : Served True s) (hi : s.invokers.get? i = some inv)
    (hr : inv.core = .thread r) : s.Accounts i r := by
  have hcore : s.service.cores i = some (.thread r) := hr ▸ cores_eq hi
  obtain ⟨r', stage, hr', hledger, -⟩ := h.run.kept hcore
  obtain rfl := InvokerCore.thread.inj (Option.some.inj (hcore.symm.trans hr'))
  obtain ⟨hleft, hexited, hfailed, -, hqueued, htickets, hstarted, hdropped, -⟩ := hledger
  simp only [queuedOn_told, startedOn_told, finishedOn_told, discardedOn_told] at *
  refine ⟨htickets, List.Nodup.of_map _ (htickets ▸ List.nodup_range), ?_,
    ⟨stage.running, by cases stage <;> simp [LoopStage.running], hstarted⟩,
    fun sub => (mem_told rfl).not.1 (h.run.unfailed trivial i sub), hdropped, fun hended => ?_,
    fun t c below sub hrunning hth hsub hc hover => ?_⟩
  · rw [hqueued, List.append_assoc]
    exact List.prefix_append ..
  · obtain rfl := hleft.2 hended
    have hphase : r.phase = .exited := by
      cases hphase : r.phase with
      | running => exact absurd hphase hended
      | exited => rfl
      | failed => exact absurd hphase (hfailed trivial)
    rw [hqueued, hstarted, (hexited hphase).2]
    simp [LoopStage.running]
  · have hover' : IsOver i sub s.service.told :=
      hover.imp (mem_told rfl).2 fun hover => .inr ((mem_told rfl).2 hover)
    exact isSome_step_of_signalled hrunning hth (h.run.completions.signalled hover' hc)

/-! ### Reports -/

/-- A thread that is about to report does nothing else that is told of. -/
theorem duties_of_joined {x : Reply} {below : List Frame}
    (hth : s.threads.get? t = some { control := .give x, stack := .joined i :: below }) :
    s.duties t = .joined i :: dutiesOf below := by
  rw [duties_eq hth]
  rfl

/-- Frames do not wait for the end of a thread. -/
theorem ending_notMem (i : InvokerId) (frames : List Frame) : .ending i ∉ dutiesOf frames := by
  intro hmem
  obtain ⟨fr, -, hfr⟩ := List.mem_flatMap.1 hmem
  cases fr <;> simp [Frame.duties] at hfr

theorem joined_mem {th : Thread} (hth : s.threads.get? t = some th) (hmem : .joined i ∈ th.stack) :
    .joined i ∈ s.duties t := by
  rw [duties_eq hth]
  exact List.mem_append_right _ (List.mem_flatMap.2 ⟨_, hmem, by simp [Frame.duties]⟩)

/-- Whoever is about to report on a thread has waited for its end, and is the only one. -/
theorem Served.joined {unfailing : Prop} {x : Reply} {below : List Frame} (h : Served unfailing s)
    (hth : s.threads.get? t = some { control := .give x, stack := .joined i :: below }) :
    ∃ r, s.service.cores i = some (.thread r) ∧ r.phase ≠ .running ∧ r.joined = true ∧
      .joined i ∉ dutiesOf below ∧ ∀ u, u ≠ t → .joined i ∉ s.duties u := by
  obtain ⟨asker, hjoins⟩ := h.run.joins i
  have hduties := duties_of_joined hth
  have hasker : asker = some t := hjoins.eq_of_mem (by rw [hduties]; simp)
  obtain ⟨r, hi, hr⟩ := hjoins.joined (by simp [hasker])
  have hended : s.service.HasEnded i := by
    refine (hjoins.ended t (by rw [hduties]; simp)).resolve_right ?_
    rw [hduties, List.mem_cons, not_or]
    exact ⟨by simp, ending_notMem i below⟩
  refine ⟨r, hi, hended r hi, hr, fun hmem => ?_, fun u hu hmem => ?_⟩
  · have hclaim := hjoins.claim t
    have hbelow : .joined i ∈ (dutiesOf below).filter (Duty.isReport i) :=
      List.mem_filter.2 ⟨hmem, by simp [Duty.isReport]⟩
    rw [hduties, List.filter_cons_of_pos (by simp [Duty.isReport]), if_pos hasker] at hclaim
    exact absurd (List.length_eq_zero_iff.1 (Nat.succ_injective hclaim)) (List.ne_nil_of_mem hbelow)
  · rw [hjoins.eq_of_mem hmem] at hasker
    exact hu (Option.some.inj hasker)

theorem aside_afterJoined (s : Session) (i : InvokerId) : (s.afterJoined i).Aside s := by
  unfold afterJoined
  split
  · split <;> simp
  · simp

/-- Whoever has reported has no other claim than those below. -/
theorem duties_of_report {x : Reply} {below : List Frame}
    (hth : s.threads.get? t = some { control := .give x, stack := .joined i :: below })
    (hstep : s.step t = some s') (u : ThreadId) :
    s'.duties u = if u = t then dutiesOf below else s.duties u := by
  have hgive := step_give (running_of_step hstep) hth
  rw [hstep, Option.some.injEq] at hgive
  have haside := aside_afterJoined s i
  rw [hgive, duties_apply, Function.update_apply, Frame.resume, haside.duties,
    duties_of_threads (threads_of_backstage haside.backstage)]
  rfl

/-- The report on a thread that has ended balances its accounts. -/
theorem Served.report {x : Reply} {below : List Frame} (h : Served True s)
    (hth : s.threads.get? t = some { control := .give x, stack := .joined i :: below })
    (hstep : s.step t = some s') :
    ∃ report : ThreadReport,
      s'.threads.get? t = some { control := .give (.answer (.report report)), stack := below } ∧
        report.tasksRun + report.dropped = (queuedOn i s.history).length ∧
        report.syncTasks = awaitedOn i s.history + inlineOn i s.history := by
  obtain ⟨r, hi, hended, -⟩ := h.joined hth
  obtain ⟨r', stage, hr', hledger, -⟩ := h.run.kept hi
  obtain rfl := InvokerCore.thread.inj (Option.some.inj (hi.symm.trans hr'))
  obtain rfl := hledger.left.2 hended
  have hfailed : r.phase ≠ .failed := hledger.failed trivial
  have hexited : r.phase = .exited := by cases hphase : r.phase <;> simp_all
  have hcore : (s.invokers.get? i).map Invoker.core = some (.thread r) := hi
  have happly : s' = apply (s.reply (.report r.report)) t below := by
    have hgive := step_give (running_of_step hstep) hth
    rw [hstep, Option.some.injEq] at hgive
    rw [hgive, Frame.resume, afterJoined, hcore]
    simp [hfailed]
  refine ⟨r.report, ?_, ?_, ?_⟩
  · rw [happly, threads_apply]
    rfl
  · have htasksRun := hledger.tasksRun trivial
    have hqueued := congrArg List.length hledger.queued
    rw [hledger.started, (hledger.exited hexited).2] at hqueued
    rw [← queuedOn_told, hqueued, InterpreterThread.report, hledger.dropped]
    simp_all [LoopStage.running, LoopStage.uncounted]
  · rw [InterpreterThread.report, hledger.syncTasks trivial, awaitedOn_told, inlineOn_told]
    rfl

/-- Afterwards there is nothing to report. -/
theorem Served.reported {x : Reply} {below : List Frame} (h : Served True s)
    (hth : s.threads.get? t = some { control := .give x, stack := .joined i :: below })
    (hstep : s.step t = some s') {s'' : Session} (ho : Interleaves True s' s'') :
    s''.Reported i := by
  obtain ⟨r, hi, hended, hjoined, hbelow, hothers⟩ := h.joined hth
  have hcalm : True → ∀ th, s.threads.get? t = some th → th.isFailing = false := by
    rintro - th' hth'
    obtain rfl := Option.some.inj (hth.symm.trans hth')
    rfl
  have ho' : Interleaves True s s'' := .trans (Interleaves.refl.step t hcalm hstep) ho
  obtain ⟨hs', hgoes⟩ := (Interleaves.refl.step t hcalm hstep).goesOn h
  obtain ⟨hs'', hgoes''⟩ := ho'.goesOn h
  obtain ⟨r', hi', hsince'⟩ := hgoes.since h.run hi
  obtain ⟨r'', hi'', hsince''⟩ := hgoes''.since h.run hi
  -- the report was the last claim, and no one has made another since
  have hunasked (u : ThreadId) : .joined i ∉ s'.duties u := by
    rw [duties_of_report hth hstep]
    split_ifs with hu
    · exact hbelow
    · exact hothers u hu
  have hnobody (u : ThreadId) (th : Thread) (hu : s''.threads.get? u = some th) :
      .joined i ∉ th.stack := fun hmem =>
    hunasked u ((ho.goesOn hs').2.report_mem hs'.run hi' (hsince'.joined hjoined)
      (joined_mem hu hmem))
  obtain ⟨inv, hinv, hr⟩ := Option.map_eq_some_iff.1 (cores_service s'' i ▸ hi'')
  obtain ⟨_, stage, hr₁, hledger, -⟩ := hs''.run.kept hi''
  obtain rfl := InvokerCore.thread.inj (Option.some.inj (hi''.symm.trans hr₁))
  have hphase : r''.phase = .exited := by
    have hended'' := hsince''.ended hended
    have hfailed := hledger.failed trivial
    cases hphase : r''.phase <;> simp_all
  refine ⟨⟨inv, r'', hinv, hr, hphase, (hledger.exited hphase).2⟩, hnobody, fun u name r₂ hfound => ?_⟩
  obtain ⟨inv₂, hinv₂, hr₂⟩ := get?_of_findThread? hfound
  obtain rfl := Option.some.inj (hinv.symm.trans hinv₂)
  obtain rfl := InvokerCore.thread.inj (hr.symm.trans hr₂)
  rw [shutdownThread, withThread, hfound]
  simp [hsince''.joined hjoined, reply, give]

/-- The accounts of an interpreter thread, in every run in which no task fails: what is known of its
tasks at any time, that none starts once it was told to stop, and what is reported at its end. -/
theorem Interleaves.accounts {vars : Log.Variables} {level : Option Log.Level}
    (h : Interleaves True (start vars level) s) (hi : s.invokers.get? i = some inv)
    (hr : inv.core = .thread r) :
    s.Accounts i r ∧
      (r.shutdown = true → ∀ s', s.Interleaves True s' →
        startedOn i s'.history = startedOn i s.history ∧
        ∃ inv' r', s'.invokers.get? i = some inv' ∧ inv'.core = .thread r' ∧ r'.shutdown = true ∧
          s'.Accounts i r') ∧
      ∀ t x below s', s.step t = some s' →
        s.threads.get? t = some { control := .give x, stack := .joined i :: below } →
        (∃ report : ThreadReport,
          s'.threads.get? t = some { control := .give (.answer (.report report)), stack := below } ∧
          report.tasksRun + report.dropped = (queuedOn i s.history).length ∧
          report.syncTasks = awaitedOn i s.history + inlineOn i s.history) ∧
        ∀ s'', s'.Interleaves True s'' → s''.Reported i := by
  have hs := h.served
  refine ⟨hs.books hi hr, fun hstop s' ho => ?_, fun t x below s' hstep hth =>
    ⟨hs.report hth hstep, fun s'' ho => hs.reported hth hstep ho⟩⟩
  obtain ⟨hs', hgoes⟩ := ho.goesOn hs
  obtain ⟨r', hi', hsince⟩ := hgoes.since hs.run (hr ▸ cores_eq hi)
  obtain ⟨inv', hinv', hr'⟩ := Option.map_eq_some_iff.1 (cores_service s' i ▸ hi')
  rw [← startedOn_told, ← startedOn_told]
  exact ⟨hsince.idle hstop, inv', r', hinv', hr', hsince.stopped hstop, hs'.books hinv' hr'⟩

/-- Three tasks for an interpreter thread: one that someone waits for, and that runs another inside,
one that occupies the thread, and one that is still queued when the thread is told to stop. -/
def threeTasks : List Action :=
  [.createInvoker "thread" (.thread {}),
    .submit "thread" true [.submit "thread" true [] .dropped] .dropped,
    .hold "thread",
    .submit "thread" false [] .dropped]

/-- The main thread is about to report on the interpreter thread. -/
def stopped : Session :=
  ((start [] none).during? threeTasks (.shutdown "thread") 6).get (by decide +kernel)

theorem interleaves_stopped : Interleaves True (start [] none) stopped := by
  refine Interleaves.refl.during? (Option.some_get _).symm fun _ => ⟨by decide +kernel, ?_⟩
  have hcalm : ((start [] none).performed? threeTasks).all
      (fun u => (u.beginAction (.shutdown "thread")).calmFor 6) = true := by decide +kernel
  intro u hu
  simpa [hu] using hcalm

/-- All three tasks are in the report, and so are the two for which someone has waited. -/
theorem accounts_stopped :
    ∃ inv r s' report, stopped.invokers.get? 0 = some inv ∧ inv.core = .thread r ∧
      stopped.Accounts 0 r ∧ stopped.step .main = some s' ∧
      s'.threads.get? .main = some { control := .give (.answer (.report report)) } ∧
      report.tasksRun + report.dropped = 3 ∧ report.syncTasks = 2 := by
  obtain ⟨inv, r, hinv, hr⟩ : ∃ inv r, stopped.invokers.get? 0 = some inv ∧
      inv.core = .thread r := ⟨_, _, rfl, rfl⟩
  have hmain : stopped.threads.get? .main
      = some { control := .give .unit, stack := [.joined 0] } := rfl
  have hhistory : (queuedOn 0 stopped.history).length = 3 ∧
      awaitedOn 0 stopped.history + inlineOn 0 stopped.history = 2 := by decide +kernel
  obtain ⟨s', hstep⟩ : ∃ s', stopped.step .main = some s' :=
    Option.isSome_iff_exists.1 (by decide +kernel)
  obtain ⟨hbooks, -, hreport⟩ := interleaves_stopped.accounts hinv hr
  obtain ⟨⟨report, hanswer, hqueued, hsync⟩, -⟩ := hreport _ _ _ s' hstep hmain
  rw [hhistory.1] at hqueued
  rw [hhistory.2] at hsync
  exact ⟨inv, r, s', report, hinv, hr, hbooks, hstep, hanswer, hqueued, hsync⟩

end Session

end AddonHost
