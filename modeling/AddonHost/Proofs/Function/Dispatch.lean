import AddonHost.Proofs.Function.Ledger

/-!
What dispatch tasks find.

Each dispatch task takes the item that has waited longest.  So a task may find the last item, or
an item that another task was submitted for:

* a dispatch task that found the queue empty has taken the last item, and what is queued since was
  appended since (`Run.tookLast`, `Run.appendedSince`);
* when as many dispatch tasks are queued as items were appended since some point, or fewer, then all
  items of that point are taken, unless a task was lost or is about to run (`Life.Due`,
  `Run.le_taken`), and this stays so (`Run.due_step`).
-/

namespace AddonHost

namespace Life

variable {f : HandleId} {alone : Prop} {l l' : Life} {doing kept : Multiset Activity}
  {fn : ThreadsafeFunction} {own own' : List Activity} {i : Option InvokerId} {n : ℕ}

/-- Nothing that was told is taken back. -/
theorem Step.marks_mono (h : Step f l own l' own') : l.marks f <+: l'.marks f := by
  cases h with
  | aside | displace | absent | create | mark | sleep | giveUp | start | find | ignore | drained
  | skipFinalizer | finalized => exact List.prefix_rfl
  | _ => exact ⟨_, (marks_tell ..).symm⟩

/-- An item was taken when nothing else was queued, and since then some items were appended that
were not taken yet. -/
def AppendedSince (ms : List Mark) (items : List Word) : Prop :=
  ∃ before data after, ms = before ++ .taken data :: after ∧
    before.filterMap Mark.appended? = before.filterMap Mark.taken? ++ [data] ∧
    after.filterMap Mark.appended? = after.filterMap Mark.taken? ++ items

/-- An item was taken when nothing else was queued. -/
def TookLast (ms : List Mark) : Prop :=
  ∃ before data after, ms = before ++ .taken data :: after ∧
    before.filterMap Mark.appended? = before.filterMap Mark.taken? ++ [data]

theorem TookLast.append {ms : List Mark} (h : TookLast ms) (ms' : List Mark) :
    TookLast (ms ++ ms') := by
  obtain ⟨before, data, after, rfl, heq⟩ := h
  exact ⟨before, data, after ++ ms', by simp, heq⟩

/-- What is queued after the last item was taken was appended since. -/
theorem Run.appendedSince (h : Run f alone l doing) (htook : TookLast (l.marks f)) :
    AppendedSince (l.marks f) l.queue := by
  obtain ⟨before, data, after, hmarks, hlast⟩ := htook
  refine ⟨before, data, after, hmarks, hlast, ?_⟩
  have happended := h.appended_eq
  rw [hmarks] at happended
  simpa [hlast] using happended

/-- A dispatch task that starts finds an item. -/
theorem Run.queue_ne_nil (h : Run f alone l (([.starting i] : List Activity) + kept)) : l.queue ≠ [] := by
  intro hnil
  have hlength := h.length_queue
  rw [tally_add, hnil] at hlength
  simp only [List.length_nil, List.countP_singleton, Activity.isStarting, if_true] at hlength
  omega

/-- A dispatch task that found the queue empty took the last item. -/
theorem Run.tookLast (h : Run f alone l doing) (hmem : .draining i true ∈ doing) :
    TookLast (l.marks f) := by
  induction h with
  | unborn n => simp at hmem
  | @step l l' own own' kept hr hs _ ih =>
    obtain ⟨ms, hms⟩ := hs.marks_mono
    have hkeeps (hold : .draining i true ∈ (own : Multiset Activity) + kept) :
        TookLast (l'.marks f) := by
      rw [← hms]
      exact (ih hold).append ms
    rcases Multiset.mem_add.1 hmem with hnew | hkept
    · -- no other step takes on the end of a dispatch task
      cases hs with
      | aside own hn | displace own hn => exact hkeeps (Multiset.mem_add.2 (.inl hnew))
      | @drain fn j hl =>
        obtain ⟨data, rest, hqueue⟩ := List.exists_cons_of_ne_nil hr.queue_ne_nil
        have happended := hr.appended_eq
        simp only [queue, hl, Option.map_some, Option.getD_some] at hqueue happended
        have hrest : rest = [] := by
          rw [Multiset.mem_coe, List.mem_append, List.mem_singleton] at hnew
          rcases hnew with hnew | hnew
          · obtain ⟨_, hnew⟩ := exists_of_mem_deliveries hnew
            cases hnew
          · have hempty := (Activity.draining.inj hnew).2
            simpa [pop_snd, hqueue] using hempty
        subst hrest
        refine ⟨l.marks f, data, [], ?_, by rw [happended, hqueue]⟩
        rw [marks_tell, filterMap_takenEvents, hqueue]
        rfl
      | @start j k rest hq => cases k <;> simp [Activity.ofTask] at hnew
      | @teardown fn atOnce hl =>
        rcases finalizersDue_eq fn with hdue | ⟨calls, hdue⟩ <;> simp [hdue] at hnew
      | _ => simp at hnew
    · exact hkeeps (Multiset.mem_add.2 (.inr hkept))

/-! ### Items that are due -/

/-- The items that were appended. -/
def appended (f : HandleId) (l : Life) : List Word := (l.marks f).filterMap Mark.appended?

/-- The items that were taken. -/
def taken (f : HandleId) (l : Life) : List Word := (l.marks f).filterMap Mark.taken?

theorem Step.appended_mono (h : Step f l own l' own') : l.appended f <+: l'.appended f :=
  h.marks_mono.filterMap _

/-- A step that queues a dispatch task appends an item. -/
theorem Run.count_drain_le (h : Run f alone l (own + kept)) (hs : Step f l own l' own') :
    l'.tasks.count .drain + (l.appended f).length
      ≤ l.tasks.count .drain + (l'.appended f).length := by
  have happended := hs.appended_mono.length_le
  cases hs with
  | create env reference spec delivery invoker hl hn =>
    obtain ⟨hunborn, -, -⟩ := h.eq_nil_of_absent hl
    rw [hunborn]
    cases invoker <;> exact le_rfl
  | appendQueued data i hl _ _ _ hi =>
    simp_all [tasks, invoker?, appended, Event.mark?, ThreadsafeFunction.push]
    omega
  | closeAgain hl hc | closeQueued i hl hc hs hi | closeAtOnce hl hc =>
    cases hc <;>
      simp_all [tasks, invoker?, appended, Event.mark?, ThreadsafeFunction.close,
        ThreadsafeFunction.wakeAll, ThreadsafeFunction.abort, ThreadsafeFunction.dropHolder]
  | @start i k rest hq =>
    obtain ⟨htasks, htasks'⟩ := h.tasks_start hq
    rw [htasks, htasks', List.count_cons]
    omega
  | discard i hrest hsubs =>
    obtain ⟨lost, hsublist, -, -⟩ := h.tasks_discard hrest hsubs
    have := hsublist.count_le FunctionTask.drain
    rw [tasks_tell]
    omega
  | drain i hl => simp_all [tasks, invoker?, pop_snd]
  | _ =>
    simp_all [tasks, invoker?, ThreadsafeFunction.acquire, ThreadsafeFunction.push,
      ThreadsafeFunction.dropHolder, ThreadsafeFunction.sleep]

/-- No more dispatch tasks are queued than items were appended after the first `n`. -/
def Due (f : HandleId) (n : ℕ) (l : Life) : Prop :=
  l.tasks.count .drain + n ≤ (l.appended f).length

theorem Run.due_step (h : Run f alone l (own + kept)) (hs : Step f l own l' own')
    (hdue : l.Due f n) : l'.Due f n := by
  have hcount := h.count_drain_le hs
  unfold Due at *
  omega

/-- Items that are due are taken, once no dispatch task is about to run, if none was lost. -/
theorem Run.le_taken (h : Run f alone l doing) (hdue : l.Due f n)
    (hstarting : tally Activity.isStarting doing = 0) (hkept : .drainLost ∉ l.marks f) :
    n ≤ (l.taken f).length := by
  have hlength := h.length_queue
  have happended := congrArg List.length h.appended_eq
  rw [hstarting, List.count_eq_zero.2 hkept] at hlength
  rw [List.length_append] at happended
  unfold Due appended at hdue
  unfold taken
  omega

end Life

end AddonHost
