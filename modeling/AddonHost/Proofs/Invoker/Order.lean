import AddonHost.Proofs.Invoker.Ledger

/-!
The order of tasks.

What a service shows of the tasks of one invoker is a `TaskRecord`: the queue, and the tasks that
were queued, taken off the queue, started, dropped and finished so far.  Whatever a thread does is
one of six things to the record and to the tasks that the thread is in the middle of
(`TaskRecord.Step`), so the following holds in every run (`TaskRecord.Fair`, `Run.fair`).

* Tasks are queued under tickets that grow, and leave the queue in the order in which they were
  queued.
* A task starts at most once; it has finished, or one thread is in the middle of it.
-/

namespace AddonHost

namespace Event

/-- The task that an event takes off the queue of an invoker, to run or to drop it. -/
def takenOn? (i : InvokerId) : Event → Option Submission
  | started j sub | discarded j sub => if j = i then some sub else none
  | _ => none

/-- The tasks that were taken off the queue of an invoker. -/
def takenOn (i : InvokerId) (es : List Event) : List Submission := es.filterMap (takenOn? i)

@[simp] theorem takenOn_append (i : InvokerId) (es es' : List Event) :
    takenOn i (es ++ es') = takenOn i es ++ takenOn i es' := List.filterMap_append

@[simp] theorem takenOn_singleton (i : InvokerId) (e : Event) :
    takenOn i [e] = (e.takenOn? i).toList := by
  cases h : e.takenOn? i <;> simp [takenOn, h]

attribute [simp] takenOn?

/-- Nothing was dropped, so what was taken was started. -/
theorem takenOn_eq_startedOn {i : InvokerId} {es : List Event} (h : discardedOn i es = []) :
    takenOn i es = startedOn i es := by
  refine List.filterMap_congr fun e he => ?_
  have hnone : e.discardedOn? i = none := List.filterMap_eq_nil_iff.1 h e he
  cases e <;> simp_all

end Event

/-- The task that a duty is in the middle of. -/
def Duty.runningOn? (i : InvokerId) : Duty → Option Submission
  | running j sub => if j = i then some sub else none
  | _ => none

/-- The tasks of an invoker that a thread is in the middle of. -/
def Duty.runningOn (i : InvokerId) (ds : List Duty) : List Submission :=
  ds.filterMap (runningOn? i)

attribute [simp] Duty.runningOn?

@[simp] theorem Duty.runningOn_cons (i : InvokerId) (d : Duty) (ds : List Duty) :
    runningOn i (d :: ds) = (d.runningOn? i).toList ++ runningOn i ds := by
  cases h : d.runningOn? i with
  | none => exact List.filterMap_cons_none h
  | some sub => exact List.filterMap_cons_some h

theorem Duty.mem_runningOn {i : InvokerId} {sub : Submission} {ds : List Duty} :
    sub ∈ runningOn i ds ↔ .running i sub ∈ ds := by
  constructor
  · intro h
    obtain ⟨d, hd, hsub⟩ := List.mem_filterMap.1 h
    cases d with
    | running j sub' =>
      obtain ⟨rfl, rfl⟩ : j = i ∧ sub' = sub := by simpa using hsub
      exact hd
    | _ => simp at hsub
  · intro h
    exact List.mem_filterMap.2 ⟨_, h, by simp⟩

/-- What is known of the tasks of an invoker. -/
@[ext]
structure TaskRecord where
  queue? : Option TaskQueue
  queued : List Submission
  taken : List Submission
  started : List Submission
  finished : List Submission

namespace TaskRecord

variable {k k' : TaskRecord} {ran ran' : List Submission} {sub : Submission} {q : TaskQueue}

/-- What a thread can do to the tasks of an invoker, and to those that it is in the middle of. -/
inductive Step : TaskRecord × List Submission → TaskRecord × List Submission → Prop where
  | idle (p : TaskRecord × List Submission) : Step p p
  /-- The invoker is created. -/
  | create {k : TaskRecord} {ran : List Submission} {q : TaskQueue} (hk : k.queue? = none)
      (hq : q.pending = []) : Step (k, ran) ({ k with queue? := some q }, ran)
  | queue {k : TaskRecord} {ran : List Submission} {q : TaskQueue} (task : Task)
      (completion : Option ℕ) (hk : k.queue? = some q) :
    Step (k, ran)
      ({ k with
        queue? := some (q.push task completion)
        queued := k.queued ++ [q.submission task completion] }, ran)
  | start {k : TaskRecord} {ran : List Submission} {q : TaskQueue} {sub : Submission}
      {rest : List Submission} (hk : k.queue? = some q) (hq : q.pending = sub :: rest) :
    Step (k, ran)
      ({ k with
        queue? := some { q with pending := rest }
        taken := k.taken ++ [sub]
        started := k.started ++ [sub] }, sub :: ran)
  | drop {k : TaskRecord} {ran : List Submission} {q : TaskQueue} {sub : Submission}
      {rest : List Submission} (hk : k.queue? = some q) (hq : q.pending = sub :: rest) :
    Step (k, ran)
      ({ k with
        queue? := some { q with pending := rest }
        taken := k.taken ++ [sub] }, ran)
  /-- The task has returned or failed. -/
  | finish {k : TaskRecord} {ran : List Submission} (sub : Submission) :
    Step (k, sub :: ran) ({ k with finished := k.finished ++ [sub] }, ran)

theorem Step.of_eq (hk : k' = k) (hran : ran' = ran) : Step (k, ran) (k', ran') := by
  rw [hk, hran]
  exact .idle _

/-- What holds of the tasks of an invoker, and of those that each thread is in the middle of. -/
structure Fair (k : TaskRecord) (ran : ThreadId → List Submission) : Prop where
  /-- Tickets tell in which order tasks were queued. -/
  tickets : k.queued.Pairwise fun sub sub' => sub.ticket < sub'.ticket
  absent : k.queue? = none → k.queued = []
  fresh (q : TaskQueue) : k.queue? = some q → ∀ sub ∈ k.queued, sub.ticket < q.nextTicket
  queue : k.queued = k.taken ++ (k.queue?.map TaskQueue.pending).getD []
  order : k.started.Sublist k.taken
  running {t : ThreadId} {sub : Submission} : sub ∈ ran t → sub ∈ k.started ∧ sub ∉ k.finished
  nodup (t : ThreadId) : (ran t).Nodup
  alone {t u : ThreadId} {sub : Submission} : sub ∈ ran t → sub ∈ ran u → t = u
  once : k.finished.Nodup
  begun {sub : Submission} : sub ∈ k.finished → sub ∈ k.started
  goesOn {sub : Submission} : sub ∈ k.started → sub ∈ k.finished ∨ ∃ t, sub ∈ ran t

theorem Fair.nodup_queued {ran : ThreadId → List Submission} (h : k.Fair ran) : k.queued.Nodup :=
  h.tickets.imp fun hlt heq => absurd (congrArg Submission.ticket heq) hlt.ne

/-- The head of a queue was never started. -/
theorem Fair.head_notMem {ran : ThreadId → List Submission} (h : k.Fair ran)
    {rest : List Submission} (hk : k.queue? = some q) (hq : q.pending = sub :: rest) :
    sub ∉ k.started := by
  have hnodup := h.nodup_queued
  rw [h.queue, hk, Option.map_some, Option.getD_some, hq] at hnodup
  exact fun hmem => (List.nodup_append.1 hnodup).2.2 sub (h.order.subset hmem) sub (by simp) rfl

/-- A thread has begun a task. -/
theorem mem_update_cons {ran : ThreadId → List Submission} {t u : ThreadId} {sub' : Submission} :
    sub' ∈ Function.update ran t (sub :: ran t) u ↔ sub' ∈ ran u ∨ u = t ∧ sub' = sub := by
  by_cases hu : u = t
  · subst hu
    simp [or_comm]
  · simp [hu]

/-- A thread is done with a task. -/
theorem Fair.mem_update_tail {ran : ThreadId → List Submission} (h : k.Fair ran) {t u : ThreadId}
    {rest : List Submission} {sub' : Submission} (hran : ran t = sub :: rest) :
    sub' ∈ Function.update ran t rest u ↔ sub' ∈ ran u ∧ sub' ≠ sub := by
  have hnodup := h.nodup t
  rw [hran, List.nodup_cons] at hnodup
  by_cases hu : u = t
  · subst hu
    rw [Function.update_self, hran]
    constructor
    · intro hmem
      exact ⟨List.mem_cons_of_mem _ hmem, fun heq => hnodup.1 (heq ▸ hmem)⟩
    · rintro ⟨hmem, hne⟩
      exact (List.mem_cons.1 hmem).resolve_left hne
  · rw [Function.update_of_ne hu]
    -- no other thread is in the middle of the same task
    refine ⟨fun hmem => ⟨hmem, ?_⟩, And.left⟩
    rintro rfl
    exact hu (h.alone hmem (by simp [hran]))

theorem Fair.start {ran : ThreadId → List Submission} (h : k.Fair ran) {rest : List Submission}
    (hk : k.queue? = some q) (hq : q.pending = sub :: rest) (t : ThreadId) :
    Fair
      { k with
        queue? := some { q with pending := rest }
        taken := k.taken ++ [sub]
        started := k.started ++ [sub] }
      (Function.update ran t (sub :: ran t)) := by
  have hfresh : sub ∉ k.started := h.head_notMem hk hq
  have hidle (u : ThreadId) : sub ∉ ran u := fun hmem => hfresh (h.running hmem).1
  refine ⟨h.tickets, nofun, fun q' hq' => ?_, ?_, h.order.append (.refl _), fun {u sub'} hmem => ?_,
    fun u => ?_, fun {u u' sub'} hu hu' => ?_, h.once, fun hmem => ?_, fun {sub'} hmem => ?_⟩
  · obtain rfl := Option.some.inj hq'
    exact h.fresh q hk
  · simpa [hk, hq] using h.queue
  · rcases mem_update_cons.1 hmem with hmem | ⟨-, rfl⟩
    · exact ⟨List.mem_append_left _ (h.running hmem).1, (h.running hmem).2⟩
    · exact ⟨by simp, fun hfinished => hfresh (h.begun hfinished)⟩
  · by_cases hu : u = t
    · subst hu
      rw [Function.update_self, List.nodup_cons]
      exact ⟨hidle u, h.nodup u⟩
    · rw [Function.update_of_ne hu]
      exact h.nodup u
  · rcases mem_update_cons.1 hu with hran | ⟨rfl, rfl⟩
    · rcases mem_update_cons.1 hu' with hran' | ⟨-, rfl⟩
      · exact h.alone hran hran'
      · exact absurd hran (hidle u)
    · rcases mem_update_cons.1 hu' with hran' | ⟨rfl, -⟩
      · exact absurd hran' (hidle u')
      · rfl
  · exact List.mem_append_left _ (h.begun hmem)
  · rcases List.mem_append.1 hmem with hmem | hmem
    · exact (h.goesOn hmem).imp_right fun ⟨u, hu⟩ => ⟨u, mem_update_cons.2 (.inl hu)⟩
    · exact .inr ⟨t, mem_update_cons.2 (.inr ⟨rfl, List.mem_singleton.1 hmem⟩)⟩

theorem Fair.finish {ran : ThreadId → List Submission} (h : k.Fair ran) {rest : List Submission}
    {t : ThreadId} (hran : ran t = sub :: rest) :
    Fair { k with finished := k.finished ++ [sub] } (Function.update ran t rest) := by
  have hsub : sub ∈ ran t := by simp [hran]
  refine ⟨h.tickets, h.absent, h.fresh, h.queue, h.order, fun {u sub'} hmem => ?_, fun u => ?_,
    fun {u u' sub'} hu hu' => ?_, ?_, fun {sub'} hmem => ?_, fun {sub'} hmem => ?_⟩
  · obtain ⟨hmem, hne⟩ := (h.mem_update_tail hran).1 hmem
    exact ⟨(h.running hmem).1, by simpa [hne] using (h.running hmem).2⟩
  · by_cases hu : u = t
    · subst hu
      have hnodup := h.nodup u
      rw [hran, List.nodup_cons] at hnodup
      rw [Function.update_self]
      exact hnodup.2
    · rw [Function.update_of_ne hu]
      exact h.nodup u
  · exact h.alone ((h.mem_update_tail hran).1 hu).1 ((h.mem_update_tail hran).1 hu').1
  · exact h.once.append (List.nodup_singleton sub) (by simpa using (h.running hsub).2)
  · rcases List.mem_append.1 hmem with hmem | hmem
    · exact h.begun hmem
    · rw [List.mem_singleton.1 hmem]
      exact (h.running hsub).1
  · by_cases hsame : sub' = sub
    · exact .inl (by simp [hsame])
    · refine (h.goesOn hmem).imp (List.mem_append_left _) fun ⟨u, hu⟩ => ⟨u, ?_⟩
      exact (h.mem_update_tail hran).2 ⟨hu, hsame⟩

theorem Fair.step {ran : ThreadId → List Submission} {t : ThreadId} {now : List Submission}
    (h : k.Fair ran) (hs : Step (k, ran t) (k', now)) : k'.Fair (Function.update ran t now) := by
  generalize hran : ran t = before at hs
  have hsame : Function.update ran t before = ran := by rw [← hran, Function.update_eq_self]
  cases hs with
  | idle => rwa [hsame]
  | create hk hq =>
    -- nothing can have been queued before there was a queue
    have hempty : k.queued = [] := h.absent hk
    have hqueue := h.queue
    rw [hk] at hqueue
    rw [hsame]
    exact { h with
      absent := nofun
      fresh := fun _ _ sub hsub => by simp [hempty] at hsub
      queue := by simpa [hq] using hqueue }
  | @queue _ _ q task completion hk =>
    rw [hsame]
    exact { h with
      tickets := by
        refine List.pairwise_append.2
          ⟨h.tickets, List.pairwise_singleton .., fun sub hsub sub' hsub' => ?_⟩
        rw [List.mem_singleton.1 hsub']
        exact h.fresh q hk sub hsub
      absent := nofun
      fresh := by
        rintro _ ⟨⟩ sub hsub
        rcases List.mem_append.1 hsub with hsub | hsub
        · exact Nat.lt_succ_of_lt (h.fresh q hk sub hsub)
        · rw [List.mem_singleton.1 hsub]
          exact Nat.lt_succ_self _
      queue := by simp [h.queue, hk] }
  | start hk hq =>
    rw [← hran]
    exact h.start hk hq t
  | @drop _ _ q sub rest hk hq =>
    rw [hsame]
    exact { h with
      absent := nofun
      fresh := by
        rintro _ ⟨⟩
        exact h.fresh q hk
      queue := by simpa [hk, hq] using h.queue
      order := h.order.trans (List.sublist_append_left ..) }
  | finish sub => exact h.finish hran

end TaskRecord

namespace Service

open Event

variable {unfailing : Prop} {i j : InvokerId} {t : ThreadId} {l l' : Service}
  {duties : ThreadId → List Duty} {ds ds' : List Duty}

/-- What a service shows of the tasks of an invoker. -/
def record (l : Service) (i : InvokerId) : TaskRecord where
  queue? := (l.cores i).map InvokerCore.queue
  queued := queuedOn i l.told
  taken := takenOn i l.told
  started := startedOn i l.told
  finished := finishedOn i l.told

theorem record_modify {f : InvokerCore → InvokerCore} (hf : ∀ core, (f core).queue = core.queue)
    (l : Service) (i : InvokerId) : (l.modify i f).record i = l.record i := by
  have hqueue : ((l.modify i f).cores i).map InvokerCore.queue
      = (l.cores i).map InvokerCore.queue := by
    rw [cores_modify, Function.update_self, Option.map_map]
    exact congrArg (Option.map · _) (funext hf)
  ext : 1
  · exact hqueue
  all_goals rfl

theorem record_set {core core' : InvokerCore} (hi : l.cores i = some core)
    (hcore : core'.queue = core.queue) : (l.set i core').record i = l.record i := by
  ext : 1
  · simp [record, hi, hcore]
  all_goals rfl

/-- A task is queued. -/
theorem record_enqueue {core core' : InvokerCore} (hi : l.cores i = some core)
    (hcore : core'.queue = core.queue) (task : Task) (completion : Option ℕ) :
    TaskRecord.Step (l.record i, Duty.runningOn i ds)
      ((l.enqueue i core' task completion).record i, Duty.runningOn i ds) := by
  have hk : (l.record i).queue? = some core.queue := by simp [record, hi]
  have hrecord : (l.enqueue i core' task completion).record i
      = { l.record i with
          queue? := some (core.queue.push task completion)
          queued := (l.record i).queued ++ [core.queue.submission task completion] } := by
    ext : 1 <;> simp [record, Service.enqueue, hcore]
  rw [hrecord]
  exact .queue task completion hk

/-- A task is taken off a queue, to run it. -/
theorem record_start {core : InvokerCore} {sub : Submission} {rest : List Submission}
    (hi : l.cores i = some core) (hq : core.queue.pending = sub :: rest) (base : List Duty)
    (hbase : Duty.runningOn i base = Duty.runningOn i ds) :
    TaskRecord.Step (l.record i, Duty.runningOn i ds)
      (((l.dequeue i core rest).tell [.started i sub]).record i,
        Duty.runningOn i (.running i sub :: base)) := by
  have hk : (l.record i).queue? = some core.queue := by simp [record, hi]
  have hrecord : ((l.dequeue i core rest).tell [.started i sub]).record i
      = { l.record i with
          queue? := some { core.queue with pending := rest }
          taken := (l.record i).taken ++ [sub]
          started := (l.record i).started ++ [sub] } := by
    ext : 1 <;> simp [record, dequeue]
  have hran : Duty.runningOn i (.running i sub :: base) = sub :: Duty.runningOn i ds := by
    simp [hbase]
  rw [hrecord, hran]
  exact .start hk hq

/-- A task is taken off a queue, to drop it. -/
theorem record_drop {core core' : InvokerCore} {sub : Submission} {rest : List Submission}
    (hi : l.cores i = some core) (hcore : core'.queue = core.queue)
    (hq : core.queue.pending = sub :: rest) :
    TaskRecord.Step (l.record i, Duty.runningOn i ds)
      ((((l.dequeue i core' rest).tell [.discarded i sub]).signal sub.completion).record i,
        Duty.runningOn i ds) := by
  have hk : (l.record i).queue? = some core.queue := by simp [record, hi]
  have hrecord : (((l.dequeue i core' rest).tell [.discarded i sub]).signal sub.completion).record i
      = { l.record i with
          queue? := some { core.queue with pending := rest }
          taken := (l.record i).taken ++ [sub] } := by
    ext : 1 <;> simp [record, dequeue, hcore]
  rw [hrecord]
  exact .drop hk hq

/-- A task has returned or failed. -/
theorem record_finish {e : Event} {sub : Submission} (he : e = .ended i sub ∨ e = .failed i sub) :
    TaskRecord.Step (l.record i, Duty.runningOn i (.running i sub :: ds))
      (((l.tell [e]).signal sub.completion).record i, Duty.runningOn i ds) := by
  have hrecord : ((l.tell [e]).signal sub.completion).record i
      = { l.record i with finished := (l.record i).finished ++ [sub] } := by
    rcases he with rfl | rfl <;> (ext : 1) <;> simp [record]
  have hran : Duty.runningOn i (.running i sub :: ds) = sub :: Duty.runningOn i ds := by
    simp
  rw [hrecord, hran]
  exact .finish sub

theorem Step.record_ne (hs : Step unfailing t j (l, ds) (l', ds')) (hne : j ≠ i) :
    TaskRecord.Step (l.record i, Duty.runningOn i ds) (l'.record i, Duty.runningOn i ds') := by
  have ha := hs.apart hne
  have htaken : takenOn i l'.told = takenOn i l.told := by
    cases hs <;> simp [Service.enqueue, dequeue, hne]
  have hran : Duty.runningOn i ds' = Duty.runningOn i ds := by
    cases hs with
    | join asks => cases asks <;> simp
    | _ => simp [hne]
  refine .of_eq ?_ hran
  ext : 1
  · exact congrArg (Option.map InvokerCore.queue) ha.cores
  · exact ha.queued
  · exact htaken
  · exact ha.started
  · exact ha.finished

/-- What a step is to the tasks of an invoker. -/
theorem Step.record (hs : Step unfailing t j (l, ds) (l', ds')) (i : InvokerId) :
    TaskRecord.Step (l.record i, Duty.runningOn i ds) (l'.record i, Duty.runningOn i ds') := by
  by_cases hne : j ≠ i
  · exact hs.record_ne hne
  obtain rfl : j = i := not_not.1 hne
  cases hs with
  | create hi hm =>
    have hrecord (m : ManualInvoker) :
        (l.set j (.manual m)).record j = { l.record j with queue? := some m.queue } := by
      ext : 1 <;> simp [Service.record, InvokerCore.queue]
    rw [hrecord]
    exact .create (by simp [Service.record, hi]) hm
  | count hf => exact .of_eq (record_modify (fun core => core.queue_mapManual hf) l j) rfl
  | accept task hi => exact record_enqueue hi rfl task none
  | await task hi =>
    have hran : Duty.runningOn j (.awaiting j l.completions :: ds) = Duty.runningOn j ds := by simp
    rw [hran]
    exact record_enqueue (l := { l with completions := l.completions + 1 }) hi
      (InvokerCore.queue_countSync _) task (some l.completions)
  | inline hi => exact .of_eq (record_set hi (InvokerCore.queue_countSync _)) rfl
  | ranInline => exact .of_eq (by ext : 1 <;> simp [Service.record]) (by simp)
  | failedInline | goOn | awaitedEnd | report | endPump | beginPump => exact .of_eq rfl rfl
  | start hi _ hq => exact record_start hi hq _ rfl
  | pump hi hq => exact record_start hi hq _ rfl
  | ended sub => exact record_finish (.inl rfl)
  | failed sub => exact record_finish (.inr rfl)
  | looped =>
    refine .of_eq (record_modify (fun core => ?_) l j) rfl
    exact core.queue_mapThread fun _ => rfl
  | loopFailed =>
    refine .of_eq (record_modify (fun core => ?_) l j) rfl
    exact core.queue_mapThread fun _ => rfl
  | stop =>
    refine .of_eq (record_modify (fun core => ?_) l j) rfl
    exact core.queue_mapThread fun _ => rfl
  | drop hi _ hq => exact record_drop hi rfl hq
  | discard hi hq => exact record_drop hi rfl hq
  | exit hi => exact .of_eq (record_set hi rfl) rfl
  | join asks hi => exact .of_eq (record_set hi rfl) (by cases asks <;> rfl)

theorem fair_initial (i : InvokerId) : (Service.initial.record i).Fair fun _ => [] := by
  constructor <;> simp [Service.record, Service.initial, queuedOn, takenOn, startedOn, finishedOn]

/-- The tasks of an invoker in the course of a run. -/
theorem Run.fair (h : Run unfailing l duties) (i : InvokerId) :
    (l.record i).Fair fun t => Duty.runningOn i (duties t) := by
  have hupdate (duties : ThreadId → List Duty) (t : ThreadId) (ds : List Duty) :
      (fun u => Duty.runningOn i (Function.update duties t ds u))
        = Function.update (fun u => Duty.runningOn i (duties u)) t (Duty.runningOn i ds) := by
    funext u
    by_cases hu : u = t
    · subst hu
      simp
    · simp [hu]
  induction h with
  | refl => exact fair_initial i
  | next _ hn ih =>
    cases hn with
    | step hs =>
      rw [hupdate]
      exact ih.step (hs.record i)
    | @spawn l duties j name hj hnil =>
      rw [hupdate]
      refine ih.step ?_
      by_cases hne : j = i
      · subst hne
        have hrecord (l : Service) : (l.set j (.thread { name := name })).record j
            = { l.record j with queue? := some {} } := by
          ext : 1 <;> simp [Service.record, InvokerCore.queue]
        rw [hrecord, hnil]
        exact .create (by simp [Service.record, hj]) rfl
      · refine .of_eq ?_ (by simp [hnil])
        ext : 1 <;> simp [Service.record, Ne.symm hne]

end Service

end AddonHost
