import AddonHost.Proofs.Session.Plain
import AddonHost.Session.Run

/-!
What holds of every session between two steps.

Ids are fresh: functions and jobs have smaller ids than the next one, and each thread has a place in
the order of threads (`Session.Sane`).
`Session.Grows` is what every move keeps up with: it may add threads, and nothing else is lost.
-/

namespace AddonHost

/-- Ids are fresh, and threads have places. -/
structure Session.Sane (s : Session) : Prop where
  positive : 0 < s.ids.next
  knows (x : Topic) : s.Knows x → 0 < x.number ∧ x.number < s.ids.next
  invokers (i : InvokerId) : (s.invokers.get? i).isSome → i < s.invokers.length
  keys : (s.threads.map Prod.fst).Nodup
  placed : ∀ p ∈ s.threads, p.1 ∈ s.precedence

/-- Whether a thread has nothing to do for a function or a job, now or when it goes on. -/
def Thread.isPlain (th : Thread) : Bool := th.control.isPlain && th.stack.all Frame.isPlain

/-- What a move leaves of a session: threads may be added that have nothing to do for a function or
a job. -/
structure Session.Grows (s s' : Session) : Prop where
  sane : s'.Sane
  ids : s.ids.next ≤ s'.ids.next
  scripts (slot : Nat) (e : Entry) :
    (s.scripts.get? (.engine slot e)).isSome → (s'.scripts.get? (.engine slot e)).isSome
  threads : ∃ new, s'.threads = s.threads ++ new ∧ ∀ p ∈ new, p.2.isPlain = true

namespace Session

variable {quiet : Topic → Prop} {s s' : Session}

theorem Sane.functions (hs : s.Sane) {f : HandleId}
    (hf : (s.functions.object? f).isSome ∨ s.functions.owns f = true) :
    0 < f.number ∧ f.number < s.ids.next := hs.knows (.function f) hf

/-- No function has taken the id that is next. -/
theorem Sane.object?_next (hs : s.Sane) : s.functions.object? ⟨s.ids.next⟩ = none := by
  rw [← Option.not_isSome_iff_eq_none]
  exact fun hsome => lt_irrefl _ (hs.functions (.inl hsome)).2

theorem Sane.jobs (hs : s.Sane) {j : HandleId}
    (hj : (s.jobs.object? j).isSome ∨ s.jobs.owns j = true) :
    0 < j.number ∧ j.number < s.ids.next := hs.knows (.job j) hj

theorem mem_precedence {t : ThreadId} : t ∈ s.precedence ↔
    t = .main ∨ (∃ i < s.invokers.length, t = .interpreter i) ∨
      ∃ n < s.producers.length, t = .spawned n := by
  simp [precedence, eq_comm]

theorem Follows.grows (h : Follows quiet s s') (hs : s.Sane) : Grows s s' where
  sane :=
    { positive := hs.positive.trans_le h.ids
      knows := fun x hx => by
        have hids := h.ids
        have hpos := hs.positive
        rcases h.created x hx with hx | hx
        · have := hs.knows x hx
          omega
        · omega
      invokers := fun i hi => by
        rw [h.invokers]
        exact hs.invokers i (h.known i ▸ hi)
      keys := by
        rw [h.threads]
        exact hs.keys
      placed := fun p hp => by
        rw [h.threads] at hp
        have := hs.placed p hp
        rwa [mem_precedence, h.invokers, h.producers, ← mem_precedence] }
  ids := h.ids
  scripts := h.scripts
  threads := ⟨[], by simp [h.threads], by simp⟩

theorem Grows.trans {s'' : Session} (h : Grows s s') (h' : Grows s' s'') : Grows s s'' where
  sane := h'.sane
  ids := h.ids.trans h'.ids
  scripts slot e hs := h'.scripts slot e (h.scripts slot e hs)
  threads := by
    obtain ⟨new, hnew, hplain⟩ := h.threads
    obtain ⟨new', hnew', hplain'⟩ := h'.threads
    refine ⟨new ++ new', by rw [hnew', hnew, List.append_assoc], fun p hp => ?_⟩
    rcases List.mem_append.1 hp with hp | hp
    · exact hplain p hp
    · exact hplain' p hp

/-! ### New invokers and threads -/

theorem Sane.get?_length (hs : s.Sane) : s.invokers.get? s.invokers.length = none := by
  cases h : s.invokers.get? s.invokers.length with
  | none => rfl
  | some inv =>
    exact absurd (hs.invokers s.invokers.length (by simp [h])) (Nat.lt_irrefl _)

/-- A thread without a place is not there. -/
theorem Sane.get?_thread (hs : s.Sane) {t : ThreadId} (ht : t ∉ s.precedence) :
    s.threads.get? t = none := by
  cases h : s.threads.get? t with
  | none => rfl
  | some th => exact absurd (hs.placed _ (Assoc.mem_of_get? h)) ht

/-- A topic's view after an invoker with an empty queue was added. -/
theorem Sane.view_insert (hs : s.Sane) {inv : Invoker} (hinv : inv.queue.pending = [])
    (x : Topic) :
    ({ s with invokers := s.invokers.insert s.invokers.length inv } : Session).view x
      = s.view x := by
  cases x with
  | function f =>
    have htasks : ({ s with
        invokers := s.invokers.insert s.invokers.length inv } : Session).tasksOf f
          = s.tasksOf f := by
      funext i
      simp only [tasksOf, Assoc.get?_insert]
      split
      · next h =>
        rw [← h, hs.get?_length]
        simp [Invoker.tasksOf, hinv]
      · rfl
    simp only [view, htasks]
    rfl
  | job j =>
    have hwork : ({ s with
        invokers := s.invokers.insert s.invokers.length inv } : Session).workOf j
          = s.workOf j := by
      funext i
      simp only [workOf, Assoc.get?_insert]
      split
      · next h =>
        rw [← h, hs.get?_length]
        simp [Invoker.workOf, hinv]
      · rfl
    simp only [view, hwork]
    rfl
  | multiplexers => rfl

/-- The invokers of a session after one was added. -/
theorem Sane.invokers_insert (hs : s.Sane) {inv : Invoker}
    (hi : s'.invokers = s.invokers.insert s.invokers.length inv) :
    s'.invokers.length = s.invokers.length + 1 ∧
      ∀ i, (s'.invokers.get? i).isSome → i < s'.invokers.length := by
  have hlength : s'.invokers.length = s.invokers.length + 1 := by
    rw [hi, Assoc.insert_of_get?_eq_none hs.get?_length]
    simp
  refine ⟨hlength, fun i h => ?_⟩
  rw [hi, Assoc.get?_insert] at h
  rw [hlength]
  split at h
  · next hi => exact hi ▸ Nat.lt_succ_self _
  · exact Nat.lt_succ_of_lt (hs.invokers i h)

/-- A session with more invokers or producers, and perhaps a thread for the new one. -/
theorem Sane.grows_of_new (hs : s.Sane) (hview : s'.view = s.view) (hids : s'.ids = s.ids)
    (hscripts : s'.scripts = s.scripts) (hilen : s.invokers.length ≤ s'.invokers.length)
    (hi : ∀ i, (s'.invokers.get? i).isSome → i < s'.invokers.length)
    (hplen : s.producers.length ≤ s'.producers.length)
    (ht : s'.threads = s.threads ∨ ∃ t th, t ∉ s.precedence ∧ t ∈ s'.precedence ∧
      th.isPlain = true ∧ s'.threads = s.threads.insert t th) : Grows s s' := by
  have hprec : ∀ t ∈ s.precedence, t ∈ s'.precedence := by
    intro t ht
    rw [mem_precedence] at ht ⊢
    rcases ht with h | ⟨i, hi, h⟩ | ⟨n, hn, h⟩
    · exact .inl h
    · exact .inr (.inl ⟨i, by omega, h⟩)
    · exact .inr (.inr ⟨n, by omega, h⟩)
  have hpos : 0 < s'.ids.next := hids ▸ hs.positive
  have hknows : ∀ x, s'.Knows x → 0 < x.number ∧ x.number < s'.ids.next := fun x hx =>
    hids ▸ hs.knows x (knows_of_view (congrFun hview x) hx)
  have hscr : ∀ slot e, (s.scripts.get? (.engine slot e)).isSome →
      (s'.scripts.get? (.engine slot e)).isSome := fun slot e h => hscripts ▸ h
  have hid : s.ids.next ≤ s'.ids.next := by rw [hids]
  rcases ht with ht | ⟨t, th, hfresh, hplaced, hplain, ht⟩
  · refine ⟨⟨hpos, hknows, hi, ht ▸ hs.keys, fun p hp => hprec _ (hs.placed p (ht ▸ hp))⟩, hid, hscr,
      [], by simp [ht], by simp⟩
  · have hnone := hs.get?_thread hfresh
    rw [Assoc.insert_of_get?_eq_none hnone] at ht
    refine ⟨⟨hpos, hknows, hi, ?_, fun p hp => ?_⟩, hid, hscr, [(t, th)], ht, by simpa using hplain⟩
    · rw [ht, List.map_append, List.nodup_append]
      refine ⟨hs.keys, by simp, ?_⟩
      rintro u hu v hv rfl
      obtain ⟨p, hp, rfl⟩ := List.mem_map.1 hu
      obtain rfl : p.1 = t := by simpa using hv
      exact hfresh (hs.placed p hp)
    · rw [ht, List.mem_append] at hp
      rcases hp with hp | hp
      · exact hprec _ (hs.placed p hp)
      · obtain rfl : p = (t, th) := by simpa using hp
        exact hplaced

end Session

end AddonHost
