import AddonHost.Proofs.Function.Closing

/-!
In which order items are delivered.

While deliveries are alone, no two of them are on their way at once, so items are delivered in the
order in which they were taken, up to the abort (`Run.takenBeforeAbort_eq`).  Whoever closes a
function leaves no item behind in its queue, unless the function is aborted or closes early
(`ClosedEarly`).  A teardown that was queued starts after every dispatch task, and so only a
teardown that was handed back can precede a delivery (`Run.endedEarly_of_late`).
-/

namespace AddonHost

namespace Activity

/-- The item that is being delivered. -/
def item? : Activity → Option Word
  | delivering _ data => some data
  | _ => none

@[simp] theorem item?_delivering (i : Option InvokerId) (data : Word) :
    (delivering i data).item? = some data := rfl

@[simp] theorem item?_eq_none_iff {a : Activity} :
    a.item? = none ↔ ∀ i data, a ≠ delivering i data := by
  cases a <;> simp [item?]

/-- Whether an item is being handed over. -/
def isHandover : Activity → Bool
  | delivering .. | calling _ => true
  | waiting _ | starting _ | draining .. | ending _ | finalizerDue _ | finalizing _
  | unregistering _ => false

end Activity

/-- The items that are being delivered. -/
def inFlight (doing : Multiset Activity) : Multiset Word := doing.filterMap Activity.item?

theorem inFlight_add (own : List Activity) (kept : Multiset Activity) :
    inFlight (own + kept) = own.filterMap Activity.item? + inFlight kept := by
  rw [inFlight, Multiset.filterMap_add, Multiset.filterMap_coe]
  rfl

/-- Nothing is being delivered while no delivery is on its way. -/
theorem inFlight_eq_zero {kept : Multiset Activity} (h : ∀ a ∈ kept, a.isDelivery = false) :
    inFlight kept = 0 := by
  refine Multiset.eq_zero_of_forall_notMem fun data hdata => ?_
  obtain ⟨a, ha, hitem⟩ := (Multiset.mem_filterMap _ _).1 hdata
  have := h a ha
  cases a <;> simp_all [Activity.item?, Activity.isDelivery]

theorem tally_eq_zero {p : Activity → Bool} {kept : Multiset Activity}
    (hp : ∀ a, p a = true → a.isDelivery = true) (h : ∀ a ∈ kept, a.isDelivery = false) :
    tally p kept = 0 :=
  Multiset.countP_eq_zero.2 fun a ha hpa => by simpa [h a ha] using hp a hpa

theorem tally_le {p q : Activity → Bool} (hp : ∀ a, p a = true → q a = true)
    (doing : Multiset Activity) : tally p doing ≤ tally q doing := by
  rw [tally, tally, Multiset.countP_eq_card_filter, Multiset.countP_eq_card_filter]
  exact Multiset.card_le_card (Multiset.monotone_filter_right _ hp)

namespace Mark

/-- What was told before the function was aborted. -/
def beforeAbort (ms : List Mark) : List Mark := ms.takeWhile (· ≠ .aborted)

/-- The items that were taken before the function was aborted. -/
def takenBeforeAbort (ms : List Mark) : List Word := (beforeAbort ms).filterMap taken?

/-- Whether an item is handed over. -/
def isHandover : Mark → Bool
  | delivered _ | functionCalled => true
  | _ => false

@[simp] theorem isHandover_eq_false_iff {m : Mark} :
    m.isHandover = false ↔ (∀ data, m ≠ .delivered data) ∧ m ≠ .functionCalled := by
  cases m with
  | delivered data => exact ⟨nofun, fun h => absurd rfl (h.1 data)⟩
  | functionCalled => exact ⟨nofun, fun h => absurd rfl h.2⟩
  | _ => exact ⟨fun _ => ⟨nofun, nofun⟩, fun _ => rfl⟩

theorem takenBeforeAbort_prefix (ms : List Mark) :
    takenBeforeAbort ms <+: ms.filterMap taken? :=
  (List.takeWhile_prefix _).filterMap _

theorem takenBeforeAbort_of_notMem {ms : List Mark} (h : .aborted ∉ ms) :
    takenBeforeAbort ms = ms.filterMap taken? := by
  have hall : ∀ m ∈ ms, decide (m ≠ .aborted) = true := by
    intro m hm
    simp only [decide_eq_true_eq]
    rintro rfl
    exact h hm
  rw [takenBeforeAbort, beforeAbort, List.takeWhile_eq_self_iff.2 hall]

/-- What is told after an abort does not count. -/
theorem takenBeforeAbort_append_of_mem {ms : List Mark} (h : .aborted ∈ ms) (ms' : List Mark) :
    takenBeforeAbort (ms ++ ms') = takenBeforeAbort ms := by
  induction ms with
  | nil => simp at h
  | cons m ms ih =>
    by_cases hm : m = .aborted
    · simp [takenBeforeAbort, beforeAbort, hm]
    · have hmem : .aborted ∈ ms := by simpa [Ne.symm hm] using h
      have := ih hmem
      cases ht : m.taken? <;> simp_all [takenBeforeAbort, beforeAbort]

theorem takenBeforeAbort_append_of_notMem {ms : List Mark} (h : .aborted ∉ ms)
    (ms' : List Mark) :
    takenBeforeAbort (ms ++ ms') = takenBeforeAbort ms ++ takenBeforeAbort ms' := by
  induction ms with
  | nil => rfl
  | cons m ms ih =>
    have hm : m ≠ .aborted := fun h' => h (by simp [h'])
    have := ih fun h' => h (by simp [h'])
    cases ht : m.taken? <;> simp_all [takenBeforeAbort, beforeAbort]

/-- Marks that tell of no item taken do not count. -/
theorem takenBeforeAbort_append {ms' : List Mark} (h : ms'.filterMap taken? = [])
    (ms : List Mark) : takenBeforeAbort (ms ++ ms') = takenBeforeAbort ms := by
  by_cases hmem : .aborted ∈ ms
  · exact takenBeforeAbort_append_of_mem hmem ms'
  · have hnil : takenBeforeAbort ms' = [] := by
      rw [takenBeforeAbort, List.filterMap_eq_nil_iff] at *
      exact fun m hm => h m (List.takeWhile_subset _ hm)
    rw [takenBeforeAbort_append_of_notMem hmem, hnil, List.append_nil]

end Mark

namespace Life

variable {f : HandleId} {alone : Prop} {l l' : Life} {doing : Multiset Activity}
  {own own' : List Activity} {fn fn' : ThreadsafeFunction} {es : List Event}

/-- Whether the addon delivers items itself. -/
def callJs (l : Life) : Bool := (l.function.map ThreadsafeFunction.callJs).getD false

theorem callJs_eq (hl : l.function = some fn) : l.callJs = fn.callJs := by
  simp [callJs, hl]

theorem Step.callJs_eq (h : Step f l own l' own') (hl : l.function = some fn) :
    l'.callJs = fn.callJs := by
  obtain ⟨fn', hl', -, hjs, -⟩ := h.exists_function hl
  rw [Life.callJs_eq hl', hjs]

/-- An item that is taken counts unless the function was aborted. -/
theorem takenBeforeAbort_append_head? (hflags : Flags f l) (hl : l.function = some fn) :
    Mark.takenBeforeAbort (l.marks f ++ fn.queue.head?.toList.map Mark.taken)
      = Mark.takenBeforeAbort (l.marks f) ++ if fn.aborted then [] else fn.queue.head?.toList := by
  have haborted : l.aborted = fn.aborted := by simp [aborted, hl]
  by_cases hmem : .aborted ∈ l.marks f
  · rw [Mark.takenBeforeAbort_append_of_mem hmem, if_pos (haborted ▸ hflags.aborted.1 hmem),
      List.append_nil]
  · have hfalse : ¬fn.aborted = true := haborted ▸ fun h => hmem (hflags.aborted.2 h)
    rw [Mark.takenBeforeAbort_append_of_notMem hmem, if_neg hfalse]
    cases fn.queue <;> simp [Mark.takenBeforeAbort, Mark.beforeAbort]

theorem starting_ne_deliveries (fn : ThreadsafeFunction) (i : Option InvokerId) :
    [.starting i] ≠ deliveries fn i ++ [.draining i fn.pop.2.queue.isEmpty] := by
  intro h
  have := congrArg List.getLast? h
  simp at this

/-- What was taken before the abort was delivered, and then comes what is being delivered. -/
theorem Run.takenBeforeAbort_eq (h : Run f alone l doing) (ha : alone) (hjs : l.callJs = true) :
    ∃ w : List Word, inFlight doing = w ∧ Mark.takenBeforeAbort (l.marks f)
      = (l.marks f).filterMap Mark.delivered? ++ w := by
  induction h with
  | unborn n => simp [Life.callJs, Life.unborn] at hjs
  | @step l l' own own' kept hr hs halone ih =>
    by_cases hnone : l.function = none
    · cases hs with
      | create =>
        obtain ⟨hunborn, -, rfl⟩ := hr.eq_nil_of_absent hnone
        rw [hunborn]
        exact ⟨[], rfl, rfl⟩
      | _ => simp_all [Life.callJs]
    obtain ⟨fn, hfunction⟩ := Option.ne_none_iff_exists'.1 hnone
    have hold : l.callJs = true := by
      rw [hs.callJs_eq hfunction] at hjs
      rw [Life.callJs_eq hfunction, hjs]
    obtain ⟨w, hw, heq⟩ := ih hold
    rw [inFlight_add] at hw ⊢
    have halone := halone ha
    cases hs with
    | @drain fn' i hl =>
      have hkept := halone.resolve_left fun h => starting_ne_deliveries fn' i h.1
      have hw : w = [] := by
        rw [← Multiset.coe_eq_zero, ← hw, inFlight_eq_zero hkept]
        simp
      rw [hw, List.append_nil] at heq
      refine ⟨(deliveries fn' i).filterMap Activity.item?, ?_, ?_⟩
      · rw [inFlight_eq_zero hkept]
        simp [List.filterMap_append]
      · rw [marks_tell, marks_become, filterMap_takenEvents, List.filterMap_append,
          takenBeforeAbort_append_head? hr.flags hl, heq, deliveries, pop_fst]
        split <;> cases fn'.queue <;> simp_all
    | @callJs fn' i func data hl hcall =>
      have hkept : ∀ a ∈ kept, a.isDelivery = false := by simpa using halone
      have hw : w = [data] := by
        rw [← List.perm_singleton, ← Multiset.coe_eq_coe, ← hw, inFlight_eq_zero hkept]
        simp
      refine ⟨[], ?_, ?_⟩
      · simp [inFlight_eq_zero hkept]
      · simp_all [Mark.takenBeforeAbort_append, Event.mark?]
    | find | ignore => simp_all [Life.callJs]
    | @discard i rest subs hrest hsubs =>
      obtain ⟨lost, -, -, hlost⟩ := hr.tasks_discard hrest hsubs
      refine ⟨w, hw, ?_⟩
      rw [marks_tell, marks_requeue, hlost, Mark.takenBeforeAbort_append (filterMap_lost rfl rfl _),
        List.filterMap_append, filterMap_lost rfl rfl, List.append_nil, heq]
    | @teardown fn atOnce hl =>
      refine ⟨w, ?_, ?_⟩
      · rcases finalizersDue_eq fn with hdue | ⟨calls, hdue⟩ <;> simp_all
      · simp_all [Mark.takenBeforeAbort_append, Event.mark?]
    | closeAgain hl hc hs | closeQueued i hl hc hs hi | closeAtOnce hl hc hs =>
      refine ⟨w, ?_, ?_⟩ <;> cases hc <;>
        simp_all [Mark.takenBeforeAbort_append, Event.mark?]
    | appendLost data hl _ _ hown | appendQueued data i hl _ _ hown hi
    | appendInline data i hl _ _ hown hi =>
      rcases hown with rfl | ⟨t, rfl, -⟩ <;> refine ⟨w, ?_, ?_⟩ <;>
        simp_all [Mark.takenBeforeAbort_append, Event.mark?]
    | sleep t hl _ _ hown =>
      rcases hown with rfl | ⟨rfl, -⟩ <;> refine ⟨w, ?_, ?_⟩ <;> simp_all
    | @start i k rest hq =>
      refine ⟨w, ?_, heq⟩
      cases k <;> simpa [Activity.ofTask] using hw
    | _ =>
      refine ⟨w, ?_, ?_⟩ <;> simp_all [Mark.takenBeforeAbort_append, Event.mark?]

/-! ### Items that are left behind -/

/-- The function closed while items were queued, although it was not aborted. -/
def ClosedEarly (ms : List Mark) : Prop :=
  ∃ before after, ms = before ++ .closed :: after ∧ .aborted ∉ before ∧
    before.filterMap Mark.appended? ≠ before.filterMap Mark.taken?

theorem ClosedEarly.append {ms : List Mark} (h : ClosedEarly ms) (ms' : List Mark) :
    ClosedEarly (ms ++ ms') := by
  obtain ⟨before, after, rfl, haborted, hne⟩ := h
  exact ⟨before, after ++ ms', by simp, haborted, hne⟩

/-- A function that closes while items are queued, without an abort, closes early. -/
theorem Run.closedEarly (h : Run f alone l doing) (hopen : l.closing = false) (hq : l.queue ≠ [])
    (after : List Mark) : ClosedEarly (l.marks f ++ .closed :: after) := by
  refine ⟨l.marks f, after, rfl, fun hmem => ?_, fun heq => hq ?_⟩
  · have := h.flags.closing (h.flags.aborted.1 hmem)
    simp [hopen] at this
  · have happended := h.appended_eq
    rwa [heq, List.self_eq_append_right] at happended

/-- A function that is closing has nothing queued, or it was aborted, or it closed early. -/
theorem Run.queue_of_closing (h : Run f alone l doing) (hc : l.closing = true) :
    l.queue = [] ∨ l.aborted = true ∨ ClosedEarly (l.marks f) := by
  induction h with
  | unborn n => exact .inl rfl
  | @step l l' own own' kept hr hs _ ih =>
    have hgrows (es : List Event) (h : ClosedEarly (l.marks f)) :
        ClosedEarly ((l.tell es).marks f) := by
      rw [marks_tell]
      exact h.append _
    cases hs with
    | create env reference spec delivery invoker hl hn => exact .inl rfl
    | acquire hl hopen | appendLost data hl hopen | appendQueued data i hl hopen
    | appendInline data i hl hopen | sleep t hl hopen | dropHolder hl hopen =>
      simp_all [closing, ThreadsafeFunction.acquire, ThreadsafeFunction.push,
        ThreadsafeFunction.sleep, ThreadsafeFunction.dropHolder]
    | closeAgain hl hc' hs =>
      have hflags := hr.flags
      cases hc' <;>
        simp_all [flags_iff, scheduled, closing, ThreadsafeFunction.abort,
          ThreadsafeFunction.dropHolder, ThreadsafeFunction.wakeAll]
    | @closeQueued fn _ _ _ i hl hc' hs hi | @closeAtOnce fn _ _ _ hl hc' hs =>
      cases hc' with
      | abort hopen => exact .inr (.inl rfl)
      | lastHolder hopen hspent =>
        left
        simp_all [queue, ThreadsafeFunction.isSpent, ThreadsafeFunction.close,
          ThreadsafeFunction.wakeAll]
      | lastItem j hopen hcount =>
        by_cases hq : l.queue = []
        · left
          simp_all [queue, ThreadsafeFunction.close, ThreadsafeFunction.wakeAll]
        · have hearly := hr.closedEarly (by simp [closing, hl, hopen]) hq
          exact .inr (.inr (by simpa [Event.mark?] using hearly _))
    | @drain fn i hl =>
      rcases ih (by simp_all [closing, pop_snd]) with h | h | h
      · exact .inl (by simp_all [queue, pop_snd])
      · exact .inr (.inl (by simp_all [aborted, pop_snd]))
      · exact .inr (.inr (hgrows _ h))
    | discard i hrest hsubs =>
      rcases ih hc with h | h | h
      · exact .inl h
      · exact .inr (.inl h)
      · exact .inr (.inr (hgrows _ h))
    | _ =>
      rcases ih (by simp_all [closing]) with h | h | h
      · exact .inl (by simp_all [queue])
      · exact .inr (.inl (by simp_all [aborted]))
      · exact .inr (.inr (by first | exact h | exact hgrows _ h))

/-! ### Dispatch tasks before the teardown -/

/-- A function that is open has no teardown. -/
theorem Run.teardowns_of_open (h : Run f alone l doing) (hopen : l.closing = false) :
    .teardown ∉ l.tasks ∧ tally Activity.isTeardown doing = 0 ∧
      (l.marks f).count .teardownEnded = 0 := by
  have hflags := h.flags.closed
  have hclosed := h.teardowns.closed
  rw [hopen, Bool.toNat_false] at hflags
  refine ⟨List.count_eq_zero.1 ?_, ?_, ?_⟩ <;> omega

/-- Nothing is queued behind a teardown. -/
theorem Run.pairwise_tasks (h : Run f alone l doing) :
    l.tasks.Pairwise fun k _ => k = .drain := by
  induction h with
  | unborn n => exact .nil
  | @step l l' own own' kept hr hs _ ih =>
    have happend (hopen : l.closing = false) (k : FunctionTask) :
        (l.tasks ++ [k]).Pairwise fun k _ => k = .drain := by
      have hmem := (hr.teardowns_of_open hopen).1
      refine List.pairwise_append.2 ⟨ih, by simp, fun k' hk' _ _ => ?_⟩
      cases k' with
      | drain => rfl
      | teardown => exact absurd hk' hmem
    cases hs with
    | create env reference spec delivery invoker hl hn =>
      obtain ⟨hunborn, -, -⟩ := hr.eq_nil_of_absent hl
      rw [hunborn]
      cases invoker <;> exact .nil
    | @appendQueued fn _ data i hl hopen _ _ hi =>
      have hi' : (l.become (fn.push data)).invoker? = some i := hi
      have htasks : (l.become (fn.push data)).tasks = l.tasks := tasks_become hl rfl
      rw [tasks_tell, tasks_enqueue hi', htasks]
      exact happend (by simp [closing, hl, hopen]) .drain
    | @closeQueued fn fn' own es i hl hc hs hi =>
      have hinvoker : fn'.close.invoker = fn.invoker := by
        obtain ⟨n, a, c, sl, rfl⟩ := hc.eq
        rfl
      have hi' : (l.become fn'.close).invoker? = some i := hinvoker.trans hi
      rw [tasks_tell, tasks_enqueue hi', tasks_become hl hinvoker]
      exact happend (by simp [closing, hl, hc.isOpen]) .teardown
    | closeAgain hl hc | closeAtOnce hl hc =>
      cases hc <;> simpa [tasks, invoker?, hl, ThreadsafeFunction.close, ThreadsafeFunction.wakeAll,
        ThreadsafeFunction.abort, ThreadsafeFunction.dropHolder] using ih
    | @start i k rest hq =>
      obtain ⟨htasks, htasks'⟩ := hr.tasks_start hq
      rw [htasks'] 
      rw [htasks] at ih
      exact (List.pairwise_cons.1 ih).2
    | discard i hrest hsubs =>
      obtain ⟨lost, hsublist, -, -⟩ := hr.tasks_discard hrest hsubs
      exact ih.sublist hsublist
    | drain i hl => simpa [tasks, invoker?, hl, pop_snd] using ih
    | _ =>
      simp_all [tasks, invoker?, ThreadsafeFunction.acquire, ThreadsafeFunction.push,
        ThreadsafeFunction.sleep, ThreadsafeFunction.dropHolder]

/-- Once a teardown that was queued is under way, no dispatch task is left. -/
theorem Run.drains_of_teardown (h : Run f alone l doing) (ha : alone) :
    (l.marks f).count (.teardownOffered false) = 0 →
      0 < tally Activity.isTeardown doing + (l.marks f).count .teardownEnded →
        l.tasks.count .drain + tally Activity.isStarting doing = 0 := by
  induction h with
  | unborn n => exact fun _ _ => rfl
  | @step l l' own own' kept hr hs halone ih =>
    have halone := halone ha
    rw [tally_add, tally_add] at ih ⊢
    cases hs with
    | absent own hl =>
      obtain ⟨-, rfl, rfl⟩ := hr.eq_nil_of_absent hl
      exact ih
    | create env reference spec delivery invoker hl hn =>
      obtain ⟨hunborn, -, rfl⟩ := hr.eq_nil_of_absent hl
      rw [hunborn]
      cases invoker <;> exact fun _ _ => rfl
    | appendLost data hl hopen _ hown | appendQueued data i hl hopen _ hown hi
    | appendInline data i hl hopen _ hown hi =>
      have hteardowns := hr.teardowns_of_open (by simp [closing, hl, hopen])
      rcases hown with rfl | ⟨t, rfl, -⟩ <;>
        simp_all [Event.mark?, Activity.isTeardown, Activity.isStarting]
    | sleep t hl hopen _ hown =>
      have hteardowns := hr.teardowns_of_open (by simp [closing, hl, hopen])
      rcases hown with rfl | ⟨rfl, -⟩ <;>
        simp_all [Activity.isTeardown, Activity.isStarting]
    | closeAgain hl hc hs | closeQueued i hl hc hs hi =>
      have hteardowns := hr.teardowns_of_open (by simp [closing, hl, hc.isOpen])
      cases hc <;> simp_all [Event.mark?, Activity.isTeardown, Activity.isStarting]
    | closeAtOnce hl hc hs => simp [Event.mark?]
    | @start i k rest hq =>
      obtain ⟨htasks, htasks'⟩ := hr.tasks_start hq
      cases k with
      | drain => simp_all [Activity.ofTask, Activity.isTeardown]
      | teardown =>
        have hrest : rest = [] := by
          have hpairwise := hr.pairwise_tasks
          rw [htasks, List.pairwise_cons] at hpairwise
          exact List.eq_nil_iff_forall_not_mem.2 fun k hk => by simpa using hpairwise.1 k hk
        have hkept : ∀ a ∈ kept, a.isDelivery = false := by simpa using halone
        have hstarting := tally_eq_zero (p := Activity.isStarting) (fun a ha => by
          cases a <;> simp_all [Activity.isStarting, Activity.isDelivery]) hkept
        simp_all [Activity.ofTask, Activity.isStarting]
    | discard i hrest hsubs =>
      obtain ⟨lost, hsublist, -, hlost⟩ := hr.tasks_discard hrest hsubs
      have hcount := hsublist.count_le .drain
      simp only [marks_tell, marks_requeue, hlost, List.count_append, tasks_tell, ne_eq,
        reduceCtorEq, not_false_eq_true, count_lost]
      omega
    | @drain fn i hl =>
      rw [marks_tell, filterMap_takenEvents]
      unfold deliveries
      cases fn.queue <;> split <;> simp_all [Activity.isTeardown, Activity.isStarting]
    | @teardown fn atOnce hl =>
      rcases finalizersDue_eq fn with hdue | ⟨calls, hdue⟩ <;>
        simp_all [Event.mark?, tasks, invoker?, Activity.isTeardown, Activity.isStarting]
    | _ =>
      simp_all [tasks, invoker?, Activity.isTeardown, Activity.isStarting, Event.mark?,
        ThreadsafeFunction.acquire, ThreadsafeFunction.dropHolder]

/-! ### Deliveries after the teardown has started -/

/-- The function closed early, and its teardown was handed back. -/
def EndedEarly (ms : List Mark) : Prop := ClosedEarly ms ∧ .teardownOffered false ∈ ms

theorem EndedEarly.append {ms : List Mark} (h : EndedEarly ms) (ms' : List Mark) :
    EndedEarly (ms ++ ms') :=
  ⟨h.1.append ms', List.mem_append_left _ h.2⟩

/-- A dispatch task that starts after the teardown has items to deliver only if the function ended
early. -/
theorem Run.endedEarly_of_starting (h : Run f alone l doing) (ha : alone)
    (hstarted : .teardownStarted ∈ l.marks f) (hstarting : 0 < tally Activity.isStarting doing) :
    l.aborted = true ∨ EndedEarly (l.marks f) := by
  have hteardowns := h.teardowns
  have hle : tally Activity.isTeardownStarted doing ≤ tally Activity.isTeardown doing :=
    tally_le (fun a => by cases a <;> simp [Activity.isTeardownStarted, Activity.isTeardown]) _
  have hpos := List.count_pos_iff.2 hstarted
  have hunderway : 0 < tally Activity.isTeardown doing + (l.marks f).count .teardownEnded := by
    have := hteardowns.started
    omega
  have hoffered : .teardownOffered false ∈ l.marks f := by
    by_contra hnot
    have := h.drains_of_teardown ha (List.count_eq_zero.2 hnot) hunderway
    omega
  have hclosing : l.closing = true := by
    have hclosed := hteardowns.closed
    have hflags := h.flags.closed
    cases hc : l.closing with
    | true => rfl
    | false =>
      rw [hc, Bool.toNat_false] at hflags
      omega
  rcases h.queue_of_closing hclosing with hq | haborted | hearly
  · have := h.length_queue
    rw [hq, List.length_nil] at this
    omega
  · exact .inl haborted
  · exact .inr ⟨hearly, hoffered⟩

/-- An item is handed over after the teardown has started only if the function ended early. -/
theorem Run.endedEarly_of_handover (h : Run f alone l doing) (ha : alone)
    (hstarted : .teardownStarted ∈ l.marks f) (hhandover : 0 < tally Activity.isHandover doing) :
    EndedEarly (l.marks f) := by
  induction h with
  | unborn n => simp at hhandover
  | @step l l' own own' kept hr hs halone ih =>
    have halone := halone ha
    have hgrows (es : List Event) (h : EndedEarly (l.marks f)) : EndedEarly ((l.tell es).marks f) := by
      rw [marks_tell]
      exact h.append _
    rw [tally_add] at hhandover ih
    cases hs with
    | absent own hl =>
      obtain ⟨-, rfl, rfl⟩ := hr.eq_nil_of_absent hl
      simp at hhandover
    | create env reference spec delivery invoker hl hn =>
      obtain ⟨-, -, rfl⟩ := hr.eq_nil_of_absent hl
      simp at hhandover
    | @drain fn i hl =>
      have hkept := halone.resolve_left fun h => starting_ne_deliveries fn i h.1
      have hnone := tally_eq_zero (p := Activity.isHandover) (fun a ha => by
        cases a <;> simp_all [Activity.isHandover, Activity.isDelivery]) hkept
      have hopen : l.aborted = false := by
        by_contra haborted
        rw [Bool.not_eq_false, aborted, hl] at haborted
        simp [hnone, deliveries, show fn.aborted = true from haborted, Activity.isHandover]
          at hhandover
      have hstarted : .teardownStarted ∈ l.marks f := by
        rw [marks_tell, filterMap_takenEvents] at hstarted
        simpa using hstarted
      have hstarting : 0 < tally Activity.isStarting (([.starting i] : List Activity) + kept) := by
        simp [Activity.isStarting]
      rcases hr.endedEarly_of_starting ha hstarted hstarting with h | h
      · simp [hopen] at h
      · exact hgrows _ h
    | @teardown fn atOnce hl =>
      have hkept : ∀ a ∈ kept, a.isDelivery = false := by
        refine halone.resolve_left fun h => ?_
        have := congrArg List.getLast? h.1
        simp at this
      have hnone := tally_eq_zero (p := Activity.isHandover) (fun a ha => by
        cases a <;> simp_all [Activity.isHandover, Activity.isDelivery]) hkept
      rcases finalizersDue_eq fn with hdue | ⟨calls, hdue⟩ <;>
        simp [hdue, hnone, Activity.isHandover] at hhandover
    | @start i k rest hq =>
      refine ih hstarted ?_
      cases k <;> simpa [Activity.ofTask, Activity.isHandover] using hhandover
    | discard i hrest hsubs =>
      obtain ⟨lost, -, -, hlost⟩ := hr.tasks_discard hrest hsubs
      refine hgrows _ (ih ?_ hhandover)
      rw [marks_tell, marks_requeue, hlost, List.mem_append] at hstarted
      exact hstarted.resolve_right (notMem_lost (by simp) (by simp) lost)
    | closeAgain hl hc | closeQueued i hl hc | closeAtOnce hl hc =>
      cases hc <;> exact hgrows _ (ih (by simpa [Event.mark?] using hstarted)
        (by simpa [Activity.isHandover] using hhandover))
    | appendLost data hl hopen _ hown | appendQueued data i hl hopen _ hown hi
    | appendInline data i hl hopen _ hown hi =>
      rcases hown with rfl | ⟨t, rfl, -⟩ <;>
        exact hgrows _ (ih (by simpa [Event.mark?] using hstarted)
          (by simpa [Activity.isHandover] using hhandover))
    | sleep t hl hopen _ hown =>
      rcases hown with rfl | ⟨rfl, -⟩ <;>
        exact ih hstarted (by simpa [Activity.isHandover] using hhandover)
    | aside | displace => exact ih hstarted hhandover
    | _ =>
      have hold := ih (by simp_all [Event.mark?]) (by simp_all [Activity.isHandover])
      first | exact hold | exact hgrows _ hold

/-- An item was handed over after the teardown had started. -/
def Late (ms : List Mark) : Prop :=
  ∃ before after m, ms = before ++ .teardownStarted :: after ∧ m ∈ after ∧ m.isHandover = true

theorem Late.mem {ms : List Mark} (h : Late ms) : .teardownStarted ∈ ms := by
  obtain ⟨before, after, m, rfl, -, -⟩ := h
  simp

theorem Late.of_append {ms ms' : List Mark} (h : Late (ms ++ ms'))
    (hms' : ∀ m ∈ ms', m.isHandover = false) : Late ms := by
  obtain ⟨before, after, m, heq, hm, hhandover⟩ := h
  have hnot : m ∉ ms' := fun hmem => by simp [hms' m hmem] at hhandover
  rcases List.append_eq_append_iff.1 heq with ⟨as, rfl, rfl⟩ | ⟨bs, rfl, hbs⟩
  · exact absurd (by simp [hm]) hnot
  · cases bs with
    | nil =>
      obtain rfl : .teardownStarted :: after = ms' := by simpa using hbs
      exact absurd (by simp [hm]) hnot
    | cons b bs =>
      obtain ⟨rfl, rfl⟩ := List.cons_eq_cons.1 hbs
      exact ⟨before, bs, m, rfl, (List.mem_append.1 hm).resolve_right hnot, hhandover⟩

/-- Only of a function that ended early are items handed over after the teardown has started. -/
theorem Run.endedEarly_of_late (h : Run f alone l doing) (ha : alone)
    (hlate : Late (l.marks f)) : EndedEarly (l.marks f) := by
  induction h with
  | unborn n => exact absurd hlate.mem (by simp)
  | @step l l' own own' kept hr hs _ ih =>
    have hquiet (ms : List Mark) (hms : l'.marks f = l.marks f ++ ms)
        (hnone : ∀ m ∈ ms, m.isHandover = false) : EndedEarly (l'.marks f) := by
      rw [hms] at hlate ⊢
      exact (ih (hlate.of_append hnone)).append ms
    cases hs with
    | callJs i func data hl hjs | callFunction i hl =>
      have hstarted : .teardownStarted ∈ l.marks f := by simpa [Event.mark?] using hlate.mem
      rw [marks_tell]
      exact (hr.endedEarly_of_handover ha hstarted (by simp [Activity.isHandover])).append _
    | drain i hl =>
      refine hquiet _ (by rw [marks_tell, filterMap_takenEvents, marks_become]) ?_
      simp
    | discard i hrest hsubs =>
      obtain ⟨lost, -, -, hlost⟩ := hr.tasks_discard hrest hsubs
      refine hquiet _ (by rw [marks_tell, hlost, marks_requeue]) ?_
      simp only [List.mem_map, forall_exists_index, and_imp]
      rintro m (_ | _) - rfl <;> rfl
    | closeAgain hl hc | closeQueued i hl hc | closeAtOnce hl hc =>
      cases hc <;> exact hquiet _ (marks_tell ..) (by simp [Event.mark?])
    | _ => first | exact ih hlate | exact hquiet _ (marks_tell ..) (by simp [Event.mark?])

/-- A step that tells of a teardown that starts tells of nothing else, and leaves no delivery on its
way. -/
theorem Run.exists_marks {kept : Multiset Activity} (h : Run f alone l (own + kept))
    (hs : Step f l own l' own') (halone : own = own' ∧ l'.function = l.function ∨
      ∀ a ∈ kept, a.isDelivery = false) :
    ∃ ms, l'.marks f = l.marks f ++ ms ∧
      (.teardownStarted ∉ ms ∨ ms = [.teardownStarted] ∧ inFlight (own' + kept) = 0) := by
  have hnil : ∃ ms, l.marks f = l.marks f ++ ms ∧
      (.teardownStarted ∉ ms ∨ ms = [.teardownStarted] ∧ inFlight (own' + kept) = 0) :=
    ⟨[], by simp, .inl (by simp)⟩
  cases hs with
  | @teardown fn atOnce hl =>
    have hkept : ∀ a ∈ kept, a.isDelivery = false := by
      refine halone.resolve_left fun h => ?_
      have := congrArg List.getLast? h.1
      simp at this
    refine ⟨_, marks_tell .., .inr ⟨by simp [Event.mark?], ?_⟩⟩
    rw [inFlight_add, inFlight_eq_zero hkept]
    rcases finalizersDue_eq fn with hdue | ⟨calls, hdue⟩ <;> simp [hdue]
  | drain i hl =>
    refine ⟨_, marks_tell .., .inl ?_⟩
    rw [filterMap_takenEvents]
    simp
  | discard i hrest hsubs =>
    obtain ⟨lost, -, -, hlost⟩ := h.tasks_discard hrest hsubs
    refine ⟨_, marks_tell .., .inl ?_⟩
    rw [hlost]
    exact notMem_lost (by simp) (by simp) lost
  | closeAgain hl hc | closeQueued i hl hc | closeAtOnce hl hc =>
    cases hc <;> exact ⟨_, marks_tell .., .inl (by simp [Event.mark?])⟩
  | _ => first | exact hnil | exact ⟨_, marks_tell .., .inl (by simp [Event.mark?])⟩

/-- No delivery was on its way when the teardown started. -/
theorem Run.exists_started (h : Run f alone l doing) (ha : alone) {before after : List Mark}
    (hmarks : l.marks f = before ++ .teardownStarted :: after) :
    ∃ l₀ doing₀, Run f alone l₀ doing₀ ∧ l₀.marks f = before ++ [.teardownStarted] ∧
      inFlight doing₀ = 0 ∧ l₀.callJs = l.callJs := by
  induction h generalizing after with
  | unborn n => simp at hmarks
  | @step l l' own own' kept hr hs halone ih =>
    obtain ⟨ms, hms, hcases⟩ := hr.exists_marks hs (halone ha)
    rw [hms] at hmarks
    rcases List.append_eq_append_iff.1 hmarks with ⟨as, rfl, rfl⟩ | ⟨bs, hbs, hafter⟩
    · have hsingle := hcases.resolve_left (by simp)
      obtain ⟨rfl, rfl⟩ : as = [] ∧ after = [] := by
        simpa [List.append_eq_singleton_iff] using hsingle.1
      exact ⟨l', _, hr.step hs halone, by simpa using hms, hsingle.2, rfl⟩
    · cases bs with
      | nil =>
        rw [List.append_nil] at hbs
        obtain rfl : .teardownStarted :: after = ms := hafter
        have hsingle := hcases.resolve_left (by simp)
        obtain rfl : after = [] := by simpa using hsingle.1
        exact ⟨l', _, hr.step hs halone, by rw [hms, hbs], hsingle.2, rfl⟩
      | cons b bs =>
        obtain ⟨rfl, rfl⟩ := List.cons_eq_cons.1 hafter
        obtain ⟨l₀, doing₀, h₀, hmarks₀, hflight₀, hjs₀⟩ := ih hbs
        have hfunction : l.function ≠ none := by
          intro hnone
          have hunborn := (hr.eq_nil_of_absent hnone).1
          rw [hunborn, marks_unborn] at hbs
          simp at hbs
        obtain ⟨fn, hfunction⟩ := Option.ne_none_iff_exists'.1 hfunction
        refine ⟨l₀, doing₀, h₀, hmarks₀, hflight₀, ?_⟩
        rw [hjs₀, hs.callJs_eq hfunction, Life.callJs_eq hfunction]

/-- What is taken after the teardown has started is delivered, unless the function was aborted. -/
theorem Run.late_taken_eq (h : Run f alone l doing) (ha : alone) (hjs : l.callJs = true)
    (haborted : l.aborted = false) {before after : List Mark}
    (hmarks : l.marks f = before ++ .teardownStarted :: after) :
    ∃ w : List Word, inFlight doing = w ∧
      after.filterMap Mark.taken? = after.filterMap Mark.delivered? ++ w := by
  obtain ⟨l₀, doing₀, h₀, hmarks₀, hflight₀, hjs₀⟩ := h.exists_started ha hmarks
  have hnot : .aborted ∉ l.marks f := fun hmem => by
    simp [h.flags.aborted.1 hmem] at haborted
  have hnot₀ : .aborted ∉ l₀.marks f := by
    rw [hmarks₀]
    rw [hmarks] at hnot
    simp_all
  obtain ⟨w, hw, htaken⟩ := h.takenBeforeAbort_eq ha hjs
  obtain ⟨w₀, hw₀, htaken₀⟩ := h₀.takenBeforeAbort_eq ha (hjs₀.trans hjs)
  obtain rfl : w₀ = [] := by rwa [hflight₀, eq_comm, Multiset.coe_eq_zero] at hw₀
  rw [Mark.takenBeforeAbort_of_notMem hnot, hmarks] at htaken
  rw [Mark.takenBeforeAbort_of_notMem hnot₀, hmarks₀] at htaken₀
  refine ⟨w, hw, ?_⟩
  have hbefore : before.filterMap Mark.taken? = before.filterMap Mark.delivered? := by
    simpa using htaken₀
  simpa [hbefore] using htaken

end Life

end AddonHost
