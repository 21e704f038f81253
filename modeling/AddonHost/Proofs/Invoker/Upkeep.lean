import AddonHost.Proofs.Accounting
import AddonHost.Proofs.Invoker.Keepers

/-!
The upkeep of an invoker.

`Session.upkeep` is what a session shows of one invoker, apart from what it has queued: who keeps it
and how many it says do, which of its tasks were dropped, how many have returned, and how many it
has counted if its owner pumps it.  `Upkeep.Tends` says what an operation may do to that for a
thread that gives up some share in the invoker and gets another: those who keep it never outgrow its
count, nothing is dropped unless nobody is left, and a task that has returned is counted or still to
be counted.  An invoker that nobody keeps stays so.

The lemmas below say so of each operation on invokers; most of them show no difference at all.
-/

namespace AddonHost

namespace Event

variable (i : InvokerId)

/-- The task of an invoker that has returned with an event. -/
def endedOn? : Event → Option Submission
  | ended j sub => if j = i then some sub else none
  | _ => none

variable (es es' : List Event)

/-- The queued tasks of an invoker that have returned. -/
def endedOn : List Submission := es.filterMap (endedOn? i)

/-- How many tasks of an invoker have returned: queued ones, and synchronous ones of its own
thread. -/
def returnedOn : ℕ := (endedOn i es).length + inlineOn i es

theorem returnedOn_append : returnedOn i (es ++ es') = returnedOn i es + returnedOn i es' := by
  simp only [returnedOn, endedOn, List.filterMap_append, List.length_append, inlineOn_append]
  omega

/-- Whether an event tells that a task of an invoker has returned. -/
def isReturnOn : Event → Bool
  | ended j _ | ranInline j => j = i
  | _ => false

theorem returnedOn_singleton (e : Event) : returnedOn i [e] = if e.isReturnOn i then 1 else 0 := by
  cases e with
  | ended j sub | ranInline j =>
    by_cases hj : j = i <;> simp [returnedOn, endedOn, endedOn?, isReturnOn, hj]
  | _ => rfl

end Event

/-- What a thread has to do with an invoker: those that it lets go of later, and whether it is about
to count a task that has returned. -/
structure Share where
  owes : List InvokerId := []
  late : ℕ := 0

/-- The names of invokers and the threads of a session, and what it shows of one invoker. -/
structure Upkeep where
  names : Assoc String InvokerId
  threads : Assoc ThreadId Thread
  /-- How many keep the invoker, and how many tasks it has counted if its owner pumps it. -/
  held : Option (ℕ × Option ℕ)
  discarded : List Submission
  returned : ℕ

/-- Whether a thread has just begun, and not to wait for a task. -/
def Thread.IsFresh (th : Thread) : Prop :=
  ∃ c, th.control = .run c ∧ c.duties.all (fun d => d matches .loop _) = true ∧
    th.stack.all (fun fr => fr matches .spawned _) = true

/-- How many tasks a manual invoker has counted. -/
def Invoker.counted? (inv : Invoker) : Option ℕ :=
  match inv.core with
  | .manual m => some m.executed
  | .thread _ => none

namespace Upkeep

variable {i : InvokerId} {u u' u'' : Upkeep} {own own' own'' : Share}

/-- How many keep an invoker: names that it has, and threads that let go of it later. -/
def claims (u : Upkeep) (i : InvokerId) : ℕ :=
  u.names.countP (fun p => p.2 = i) + (u.threads.map fun p => p.2.owes.count i).sum

/-- How many the invoker says keep it. -/
def holders (u : Upkeep) : ℕ := (u.held.map Prod.fst).getD 0

/-- How many tasks the invoker has counted. -/
def executed (u : Upkeep) : ℕ := (u.held.bind Prod.snd).getD 0

/-- Nobody keeps the invoker any more. -/
def IsGone (u : Upkeep) : Prop := u.held.map Prod.fst = some 0

/-- The invoker has a thread of its own. -/
def IsThread (u : Upkeep) : Prop := u.held.map Prod.snd = some none

/-- What an operation may do to an invoker for a thread that has some share in it, and then
another. -/
structure Tends (i : InvokerId) (u : Upkeep) (own : Share) (u' : Upkeep) (own' : Share) : Prop where
  threads : ∃ new, u'.threads = u.threads ++ new ∧ ∀ p ∈ new, p.2.IsFresh
  thread : u.IsThread → u'.IsThread
  gone : u.IsGone → u'.IsGone
  claims : u'.claims i + own'.owes.count i + u.holders
    ≤ u.claims i + own.owes.count i + u'.holders
  discarded : ¬u'.IsThread → ¬u'.IsGone → u'.discarded = u.discarded
  counted : ¬u'.IsThread →
    u'.executed + own'.late + u.returned = u.executed + own.late + u'.returned

namespace Tends

theorem refl (u : Upkeep) (own : Share) : u.Tends i own u own :=
  ⟨⟨[], by simp, by simp⟩, id, id, le_rfl, fun _ _ => rfl, fun _ => rfl⟩

theorem of_eq (h : u' = u) (own : Share) : u.Tends i own u' own := by
  rw [h]
  exact .refl u own

theorem trans (h : u.Tends i own u' own') (h' : u'.Tends i own' u'' own'') :
    u.Tends i own u'' own'' where
  threads := by
    obtain ⟨new, hnew, hfresh⟩ := h.threads
    obtain ⟨new', hnew', hfresh'⟩ := h'.threads
    refine ⟨new ++ new', by rw [hnew', hnew, List.append_assoc], fun p hp => ?_⟩
    rcases List.mem_append.1 hp with hp | hp
    · exact hfresh p hp
    · exact hfresh' p hp
  thread hu := h'.thread (h.thread hu)
  gone hu := h'.gone (h.gone hu)
  claims := by
    have h₁ := h.claims
    have h₂ := h'.claims
    omega
  discarded ht hg :=
    (h'.discarded ht hg).trans (h.discarded (mt h'.thread ht) (mt h'.gone hg))
  counted ht := by
    have h₁ := h.counted (mt h'.thread ht)
    have h₂ := h'.counted ht
    omega

/-- A thread may end with less to let go of. -/
theorem mono (h : u.Tends i own u' own') (hlate : own''.late = own'.late)
    (howes : own''.owes.count i ≤ own'.owes.count i) : u.Tends i own u' own'' :=
  { h with
    claims := by
      have hclaims := h.claims
      omega
    counted := hlate ▸ h.counted }

end Tends

end Upkeep

namespace Session

open Event Upkeep

variable {s s' : Session} {t : ThreadId} {i j : InvokerId} {inv : Invoker} {own own' : Share}

/-- The names of invokers and the threads, and what is to be seen of one invoker. -/
def upkeep (s : Session) (i : InvokerId) : Upkeep where
  names := s.names.invokers
  threads := s.threads
  held := (s.invokers.get? i).map fun inv => (inv.holders, inv.counted?)
  discarded := discardedOn i s.history
  returned := returnedOn i s.history

theorem returnedOn_told (s : Session) (i : InvokerId) :
    returnedOn i s.service.told = returnedOn i s.history := by
  rw [returnedOn, returnedOn, inlineOn_told]
  congr 2
  exact filterMap_told (fun e he => by cases e <;> simp_all [isService, endedOn?]) s

/-! ### Operations that show no difference -/

theorem upkeep_of_backstage (hb : s'.backstage = s.backstage)
    (hn : s'.names.invokers = s.names.invokers) (i : InvokerId) : s'.upkeep i = s.upkeep i := by
  have hinvokers : s'.invokers = s.invokers := congrArg Backstage.invokers hb
  simp only [upkeep, ← discardedOn_told, ← returnedOn_told, service_of_backstage hb, hn,
    threads_of_backstage hb, hinvokers]

theorem upkeep_log (s : Session) (level : Log.Level) (text : String) (i : InvokerId) :
    (s.log level text).upkeep i = s.upkeep i := upkeep_of_backstage (by simp) (by simp) i

/-- Most events tell of no task that was dropped or has returned. -/
theorem upkeep_emit {e : Event} (hd : e.discardedOn? i = none) (hr : e.isReturnOn i = false) :
    (s.emit e).upkeep i = s.upkeep i := by
  simp only [upkeep, history_emit, discardedOn_append, discardedOn_singleton, hd,
    returnedOn_append, returnedOn_singleton, hr]
  simp [emit]

theorem upkeep_modifyInvoker {g : Invoker → Invoker} (hh : ∀ inv, (g inv).holders = inv.holders)
    (hc : ∀ inv, (g inv).counted? = inv.counted?) (s : Session) (j i : InvokerId) :
    (s.modifyInvoker j g).upkeep i = s.upkeep i := by
  have hheld : ((s.invokers.modify j g).get? i).map (fun inv => (inv.holders, inv.counted?))
      = (s.invokers.get? i).map fun inv => (inv.holders, inv.counted?) := by
    rw [Assoc.get?_modify]
    split_ifs with hj
    · cases s.invokers.get? i <;> simp [hh, hc]
    · rfl
  exact congrArg (fun held => { s.upkeep i with held }) hheld

/-- A change of an invoker shows nothing of another one. -/
theorem upkeep_modifyInvoker_ne (hne : j ≠ i) (s : Session) (g : Invoker → Invoker) :
    (s.modifyInvoker j g).upkeep i = s.upkeep i := by
  simp only [upkeep, modifyInvoker, Assoc.get?_modify, if_neg hne]
  rfl

theorem counted?_withQueue (inv : Invoker) (q : TaskQueue) :
    (inv.withQueue q).counted? = inv.counted? := by
  obtain ⟨holders, core⟩ := inv
  cases core <;> rfl

theorem upkeep_withQueue (s : Session) (j : InvokerId) (q : Invoker → TaskQueue) (i : InvokerId) :
    (s.modifyInvoker j fun inv => inv.withQueue (q inv)).upkeep i = s.upkeep i :=
  upkeep_modifyInvoker (fun inv => inv.holders_withQueue _) (fun inv => counted?_withQueue inv _)
    s j i

theorem upkeep_mapManual {g : ManualInvoker → ManualInvoker}
    (hg : ∀ m, (g m).executed = m.executed) (s : Session) (j i : InvokerId) :
    (s.modifyInvoker j (·.mapManual g)).upkeep i = s.upkeep i := by
  refine upkeep_modifyInvoker (fun inv => inv.holders_mapManual g) (fun inv => ?_) s j i
  obtain ⟨holders, core⟩ := inv
  cases core with
  | manual m => exact congrArg some (hg m)
  | thread r => rfl

theorem upkeep_modifyInterpreter (s : Session) (j : InvokerId)
    (g : InterpreterThread → InterpreterThread) (i : InvokerId) :
    (s.modifyInterpreter j g).upkeep i = s.upkeep i := by
  refine upkeep_modifyInvoker (fun inv => inv.holders_mapThread g) (fun inv => ?_) s j i
  obtain ⟨holders, core⟩ := inv
  cases core <;> rfl

theorem upkeep_signal (s : Session) (completion : Option ℕ) (i : InvokerId) :
    (s.signal completion).upkeep i = s.upkeep i := by
  cases completion <;> rfl

theorem upkeep_enqueue (s : Session) (j : InvokerId) (inv : Invoker) (task : Task)
    (completion : Option ℕ) (i : InvokerId) :
    (s.enqueue j inv task completion).upkeep i = s.upkeep i := by
  rw [enqueue, upkeep_emit (by simp) rfl, upkeep_withQueue]

theorem upkeep_offer (s : Session) (t : ThreadId) (j : InvokerId) (sync : Bool) (task : Task)
    (i : InvokerId) : (s.offer t j sync task).2.upkeep i = s.upkeep i := by
  have hawaited (s : Session) (inv : Invoker) :
      (s.enqueueAwaited j inv task).2.upkeep i = s.upkeep i := by
    rw [enqueueAwaited, upkeep_enqueue]
    rfl
  unfold offer
  split
  · rfl
  · split
    · have hcount := upkeep_mapManual (g := fun m => { m with offered := m.offered + 1 })
        (fun _ => rfl) s j i
      simp only
      split_ifs
      · exact hcount
      · rw [upkeep_enqueue, hcount]
      · exact hcount
      · rw [hawaited, hcount]
    · have hcount := upkeep_modifyInterpreter s j
        (fun r => { r with syncTasks := r.syncTasks + 1 }) i
      simp only
      split_ifs
      · exact upkeep_log ..
      · exact upkeep_enqueue ..
      · exact hcount
      · exact upkeep_log ..
      · rw [hawaited]
        exact hcount

theorem upkeep_of_offer {sync : Bool} {task : Task} {o : Offer}
    (h : s.offer t j sync task = (o, s')) (i : InvokerId) : s'.upkeep i = s.upkeep i := by
  rw [← upkeep_offer s t j sync task i, h]

theorem upkeep_queueJob (s : Session) (t : ThreadId) (k : HandleId) (env : Word) (i : InvokerId) :
    (s.queueJob t k env).2.upkeep i = s.upkeep i := by
  unfold queueJob
  split
  · rfl
  · split
    · exact upkeep_log ..
    · split
      · rfl
      · split
        · next hoffer => exact upkeep_of_offer hoffer i
        · next hoffer => exact (upkeep_log ..).trans (upkeep_of_offer hoffer i)

theorem upkeep_queueJobById (s : Session) (t : ThreadId) (k : HandleId) (env : Word)
    (i : InvokerId) : (s.queueJobById t k env).2.upkeep i = s.upkeep i := by
  unfold queueJobById
  split
  · rfl
  · exact upkeep_queueJob ..

theorem upkeep_requestShutdown (s : Session) (j i : InvokerId) :
    (s.requestShutdown j).upkeep i = s.upkeep i := upkeep_modifyInterpreter ..

theorem upkeep_releaseOccupation (s : Session) (j i : InvokerId) :
    (s.releaseOccupation j).upkeep i = s.upkeep i := upkeep_of_backstage (by simp) (by simp) i

theorem upkeep_endTask_ne {e : Event} (hd : e.discardedOn? i = none) (hr : e.isReturnOn i = false)
    (s : Session) (sub : Submission) : (s.endTask e sub).upkeep i = s.upkeep i := by
  rw [endTask, upkeep_signal, upkeep_emit hd hr]

/-! ### Operations that do -/

/-- Only one who finds an invoker alive keeps it. -/
theorem keepInvoker_tends (hj : s.invokers.get? j = some inv) (halive : inv.holders ≠ 0)
    (i : InvokerId) (owes : List InvokerId) :
    (s.upkeep i).Tends i { owes } ((s.keepInvoker j).upkeep i) { owes := j :: owes } := by
  by_cases hne : j = i
  · subst hne
    have hheld : ((s.keepInvoker j).upkeep j).held = some (inv.holders + 1, inv.counted?) := by
      simp [upkeep, keepInvoker, modifyInvoker, Assoc.get?_modify, hj, Invoker.counted?]
    have hheld' : (s.upkeep j).held = some (inv.holders, inv.counted?) := by simp [upkeep, hj]
    refine ⟨⟨[], by simp [upkeep, keepInvoker, modifyInvoker], by simp⟩, fun h => ?_,
      fun h => ?_, ?_, fun _ _ => rfl, fun _ => ?_⟩
    · simp_all [IsThread]
    · simp_all [IsGone]
    · have hclaims : ((s.keepInvoker j).upkeep j).claims j = (s.upkeep j).claims j := rfl
      simp only [hclaims, holders, hheld, hheld', Option.map_some, Option.getD_some,
        List.count_cons_self]
      omega
    · have hreturned : ((s.keepInvoker j).upkeep j).returned = (s.upkeep j).returned := rfl
      simp [executed, hheld, hheld', hreturned]
  · rw [keepInvoker, upkeep_modifyInvoker_ne hne]
    exact (Tends.refl _ _).mono rfl (by simp [hne])

/-- A task that was taken off the queue has returned, and is still to be counted. -/
theorem endTask_ended_tends (s : Session) (j : InvokerId) (sub : Submission) (i : InvokerId) :
    (s.upkeep i).Tends i {} ((s.endTask (.ended j sub) sub).upkeep i)
      { late := if j = i then 1 else 0 } := by
  by_cases hne : j = i
  · subst hne
    rw [endTask, upkeep_signal]
    have hreturned : ((s.emit (.ended j sub)).upkeep j).returned = (s.upkeep j).returned + 1 := by
      simp [upkeep, returnedOn_append, returnedOn_singleton, isReturnOn]
    have hdiscarded : ((s.emit (.ended j sub)).upkeep j).discarded = (s.upkeep j).discarded := by
      simp [upkeep]
    refine ⟨⟨[], by simp [upkeep, emit], by simp⟩, id, id, le_rfl, fun _ _ => hdiscarded,
      fun _ => ?_⟩
    have hexecuted : ((s.emit (.ended j sub)).upkeep j).executed = (s.upkeep j).executed := rfl
    simp only [hreturned, hexecuted, if_true]
    omega
  · rw [upkeep_endTask_ne rfl (by simp [isReturnOn, hne]), if_neg hne]
    exact .refl _ _

/-- How a count changes an invoker. -/
theorem upkeep_countExecuted (s : Session) (i : InvokerId) :
    (s.countExecuted i).upkeep i
      = { s.upkeep i with held := (s.upkeep i).held.map fun p => (p.1, p.2.map (· + 1)) } := by
  have hheld : ((s.countExecuted i).upkeep i).held
      = (s.upkeep i).held.map fun p => (p.1, p.2.map (· + 1)) := by
    simp only [upkeep, countExecuted, modifyInvoker, Assoc.get?_modify, if_true]
    cases s.invokers.get? i with
    | none => rfl
    | some inv =>
      obtain ⟨holders, core⟩ := inv
      cases core <;> rfl
  rw [← hheld]
  rfl

/-- The task that has returned is counted. -/
theorem countExecuted_tends (hj : s.invokers.get? j = some inv) (i : InvokerId)
    (owes : List InvokerId) :
    (s.upkeep i).Tends i { owes, late := if j = i then 1 else 0 }
      ((s.countExecuted j).upkeep i) { owes } := by
  by_cases hne : j = i
  · subst hne
    rw [upkeep_countExecuted]
    have hheld : (s.upkeep j).held = some (inv.holders, inv.counted?) := by simp [upkeep, hj]
    refine ⟨⟨[], by simp, by simp⟩, fun h => ?_, fun h => ?_, ?_, fun _ _ => rfl, fun h => ?_⟩
    · simp_all [IsThread]
    · simp_all [IsGone]
    · simp [Upkeep.claims, holders, hheld]
    · cases hc : inv.counted? with
      | none => simp [IsThread, hheld, hc] at h
      | some n => simp [executed, hheld, hc]
  · rw [countExecuted, upkeep_modifyInvoker_ne hne, if_neg hne]
    exact .refl _ _

end Session

end AddonHost
