import AddonHost.Proofs.Session.Observed

/-!
Producers that sleep can be woken.

A slot in a bounded queue is freed by a dispatch task, so a producer that sleeps depends on one.
`Reachable.drains_of_sleepers` counts them: while a producer sleeps, as many dispatch tasks are
queued or about to run as the queue has slots, less those that were lost and those slots that
producers which were woken have yet to fill.  A lost task leaves its item in the queue for ever
(`starved` is a session in which a producer sleeps and nothing can wake it).
-/

namespace AddonHost

/-- Whether a thread waits for space in the queue of a function, asleep or woken. -/
def Thread.waitsFor (f : HandleId) (th : Thread) : Bool :=
  match th.control with
  | .run (.awaitSpace g _) => g = f
  | _ => false

/-- Whether a thread is about to run a dispatch task of a function. -/
def Thread.startsDrain (f : HandleId) (th : Thread) : Bool :=
  match th.control with
  | .run (.task _ (.drain g)) => g = f
  | _ => false

theorem filterMap_waiter?_framesOver (f : HandleId) (frames below : List Frame) :
    (framesOver f frames below).filterMap Activity.waiter? = [] := by
  induction frames with
  | nil => rfl
  | cons fr frames ih =>
    rw [framesOver, List.filterMap_append, ih, List.append_nil]
    cases fr <;> simp only [Frame.activities, List.filterMap_nil]
    all_goals split <;> rfl

/-- A thread waits for space with all that it does. -/
theorem filterMap_waiter?_activities (f : HandleId) (t : ThreadId) (th : Thread) :
    (th.activities f t).filterMap Activity.waiter? = if th.waitsFor f then [t] else [] := by
  rw [Thread.activities, List.filterMap_append, filterMap_waiter?_framesOver, List.append_nil]
  obtain ⟨control, stack⟩ := th
  cases control with
  | run c =>
    cases c with
    | task i task =>
      cases task <;> simp only [Control.activities, Code.activities, Thread.waitsFor] <;>
        first | rfl | (split <;> rfl)
    | finalizer owner =>
      cases owner with
      | none => rfl
      | some g =>
        simp only [Control.activities, Code.activities, Thread.waitsFor]
        split <;> rfl
    | awaitSpace g data =>
      by_cases hg : g = f <;>
        simp [Control.activities, Code.activities, Thread.waitsFor, hg]
    | _ =>
      simp only [Control.activities, Code.activities, Thread.waitsFor]
      first | rfl | (split <;> rfl)
  | _ => rfl

/-- A dispatch task is about to run on a thread when the thread says so. -/
theorem startsDrain_of_mem_activities {f : HandleId} {t : ThreadId} {th : Thread} {a : Activity}
    (ha : a ∈ th.activities f t) (hstarting : a.isStarting = true) : th.startsDrain f = true := by
  have hframes : a ∉ framesOver f th.stack [] := fun ha => by
    simp [isStarting_of_mem_framesOver ha] at hstarting
  have ha := (List.mem_append.1 ha).resolve_right hframes
  obtain ⟨control, stack⟩ := th
  cases control with
  | run c =>
    cases c with
    | task i task =>
      cases task <;>
        simp_all [Control.activities, Code.activities, Activity.isStarting, Thread.startsDrain]
    | finalizer owner =>
      cases owner <;> simp_all [Control.activities, Code.activities, Activity.isStarting]
    | _ => simp_all [Control.activities, Code.activities, Activity.isStarting]
  | _ => simp [Control.activities] at ha

/-- What is left of the members of a list without repetitions, after some of them are taken out. -/
theorem card_sub_eq_length_filter {α : Type} [DecidableEq α] {l sub : List α} (hl : l.Nodup)
    (hsub : (sub : Multiset α) ≤ l) :
    ((l : Multiset α) - sub).card = (l.filter fun a => a ∉ sub).length := by
  have hnodup : sub.Nodup := Multiset.nodup_of_le hsub hl
  have hperm : (l.filter fun a => a ∈ sub).Perm sub := by
    refine (List.perm_ext_iff_of_nodup (hl.filter _) hnodup).2 fun a => ?_
    simpa using fun ha => Multiset.mem_coe.1 (Multiset.mem_of_le hsub (Multiset.mem_coe.2 ha))
  have hsplit := List.length_eq_length_filter_add (l := l) fun a => decide (a ∈ sub)
  have hlength := hperm.length_eq
  rw [Multiset.card_sub hsub, Multiset.coe_card, Multiset.coe_card]
  simp only [decide_not]
  omega

namespace Session

variable {s : Session} {f : HandleId} {fn : ThreadsafeFunction}

/-- The producers that wait for space in the queue of a function, asleep or woken. -/
def waitingProducers (s : Session) (f : HandleId) : List ThreadId :=
  (s.threads.filter fun p => p.2.waitsFor f).map Prod.fst

/-- The producers that were woken and have yet to go on. -/
def wokenProducers (s : Session) (f : HandleId) (fn : ThreadsafeFunction) : List ThreadId :=
  (s.waitingProducers f).filter fun t => t ∉ fn.sleepers

theorem waiters_doing (s : Session) (f : HandleId) :
    waiters (s.doing f) = (s.waitingProducers f : Multiset ThreadId) := by
  show waiters (doingOf f s.threads) = ((s.threads.filter fun p => p.2.waitsFor f).map Prod.fst :)
  induction s.threads with
  | nil => rfl
  | cons p threads ih =>
    rw [doingOf_cons, waiters_add, ih, filterMap_waiter?_activities]
    cases hp : p.2.waitsFor f <;> simp [hp]

theorem Sane.nodup_waitingProducers (h : s.Sane) (f : HandleId) : (s.waitingProducers f).Nodup :=
  h.keys.sublist ((List.filter_sublist ..).map _)

theorem Reachable.woken_eq (h : s.Reachable) (hf : s.functions.object? f = some fn) :
    (s.life f).woken (s.doing f) = (s.wokenProducers f fn).length := by
  have hsleepers : (s.life f).sleepers = fn.sleepers := by
    rw [Life.sleepers, show (s.life f).function = some fn from hf]
    rfl
  have hle := (h.run f id).waiting.sleepers
  rw [hsleepers, waiters_doing] at hle
  rw [Life.woken, hsleepers, waiters_doing,
    card_sub_eq_length_filter (h.sound.sane.nodup_waitingProducers f) hle]
  rfl

/-- While a producer sleeps on the queue of a function, there is a dispatch task for each slot, but
for those that were lost and for the slots of the producers that were woken.  When none was lost and
none was woken, a dispatch task is queued or about to run, and it frees a slot for the producer that
has slept longest. -/
theorem Reachable.drains_of_sleepers (h : s.Reachable) (hf : s.functions.object? f = some fn)
    (hsleepers : fn.sleepers ≠ []) :
    0 < fn.maxQueueSize.toNat ∧
      fn.maxQueueSize.toNat ≤ (s.pendingTasks f).count .drain
        + tally Activity.isStarting (s.doing f) + (s.marks f).count .drainLost
        + (s.wokenProducers f fn).length ∧
      (.drainLost ∉ s.marks f → s.wokenProducers f fn = [] →
        (.drain ∈ s.pendingTasks f ∨ ∃ p ∈ s.threads, p.2.startsDrain f = true) ∧
          fn.pop.2.queue.length < fn.queue.length ∧ fn.pop.2.sleepers = fn.sleepers.tail) := by
  have hrun := h.run f id
  have hl : (s.life f).function = some fn := hf
  have hasleep : (s.life f).sleepers ≠ [] := by rwa [Life.sleepers, hl]
  have hmax : (s.life f).maxQueueSize = fn.maxQueueSize.toNat := by rw [Life.maxQueueSize, hl]; rfl
  obtain ⟨hpos, hle⟩ := hrun.maxQueueSize_le hasleep
  rw [hmax, h.woken_eq hf, marks_life] at hle
  rw [hmax] at hpos
  refine ⟨hpos, hle, fun hkept hwoken => ?_⟩
  rw [hwoken, List.count_eq_zero.2 hkept] at hle
  have hqueue : fn.queue ≠ [] := by
    have hspace := (hrun.waiting.space hasleep).2
    have hcard := Multiset.card_sub hrun.waiting.sleepers
    have hzero := h.woken_eq hf
    rw [hwoken, Life.woken, hcard, List.length_nil, Multiset.coe_card] at hzero
    rw [hmax, Life.queue, hl, Option.map_some, Option.getD_some] at hspace
    exact List.length_pos_iff.1 (by omega)
  refine ⟨?_, ?_, ?_⟩
  · rw [or_iff_not_imp_left]
    intro hpending
    rw [pendingTasks] at hpending
    rw [List.count_eq_zero.2 hpending] at hle
    have hstarting : 0 < tally Activity.isStarting (s.doing f) := by
      rw [List.length_nil] at hle
      omega
    obtain ⟨a, ha, hstarts⟩ := Multiset.countP_pos.1 hstarting
    obtain ⟨p, hp, ha⟩ := mem_doingOf.1 ha
    exact ⟨p, hp, startsDrain_of_mem_activities ha hstarts⟩
  · rw [Life.pop_snd, List.length_tail]
    have := List.length_pos_iff.2 hqueue
    omega
  · have hbounded : fn.maxQueueSize ≠ 0 := by
      rintro h0
      simp [h0] at hpos
    rw [Life.pop_snd]
    simp [hqueue, hbounded]

/-- A session in which a producer sleeps and nothing was lost. -/
def producerAsleep : Session :=
  ((start [] none).performed?
    [.createInvoker "queue" .unlimited,
      .createFunction { name := "f", max := 1, callJs := true, invoker := some "queue" },
      .call (.named "f") (.word 1) .nonBlocking,
      .spawnCall "p" (.named "f") (.word 2) .blocking]).get (by decide +kernel)

theorem drains_of_sleepers_producerAsleep :
    ∃ fn, producerAsleep.functions.object? ⟨1⟩ = some fn ∧ fn.sleepers = [.spawned 0] ∧
      (.drain ∈ producerAsleep.pendingTasks ⟨1⟩ ∨
        ∃ p ∈ producerAsleep.threads, p.2.startsDrain ⟨1⟩ = true) := by
  have hreachable : producerAsleep.Reachable :=
    (Reachable.start [] none).performed? (Option.some_get _).symm
  have hfunction : producerAsleep.functions.object? ⟨1⟩ = some _ :=
    (Option.some_get (by decide +kernel)).symm
  have hsleepers : (producerAsleep.functions.object? ⟨1⟩).map ThreadsafeFunction.sleepers
      = some [.spawned 0] := by
    decide +kernel
  rw [hfunction, Option.map_some, Option.some_inj] at hsleepers
  obtain ⟨-, -, htask⟩ := hreachable.drains_of_sleepers hfunction (by rw [hsleepers]; simp)
  exact ⟨_, hfunction, hsleepers, (htask (by decide +kernel) (by decide +kernel)).1⟩

/-- A session in which a producer sleeps on a queue whose only item has lost its dispatch task. -/
def starved : Session :=
  ((start [] none).performed?
    [.createInvoker "queue" (.limited 0),
      .createFunction { name := "f", max := 1, callJs := true, invoker := some "queue" },
      .call (.named "f") (.word 1) .nonBlocking,
      .spawnCall "p" (.named "f") (.word 2) .blocking]).get (by decide +kernel)

/-- A producer may sleep while the function is open and no dispatch task is left. -/
theorem starved_asleep :
    starved.Reachable ∧ ∃ fn, starved.functions.object? ⟨1⟩ = some fn ∧
      fn.maxQueueSize = 1 ∧ fn.sleepers = [.spawned 0] ∧ fn.closing = false ∧
      starved.pendingTasks ⟨1⟩ = [] ∧ starved.doing ⟨1⟩ = {.waiting (.spawned 0)} := by
  have hfunction : starved.functions.object? ⟨1⟩ = some _ :=
    (Option.some_get (by decide +kernel)).symm
  exact ⟨(Reachable.start [] none).performed? (Option.some_get _).symm, _, hfunction,
    by decide +kernel, by decide +kernel, by decide +kernel, by decide +kernel, by decide +kernel⟩

end Session

end AddonHost
