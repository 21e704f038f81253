import AddonHost.Proofs.Invoker.Upkeep

/-!
How moves tend an invoker.

Each move of a thread is one that `Upkeep.Tends` allows, and leaves the thread's stack in order
(`Move.Tends`): where a task of a manual invoker was taken off the queue, the frame that waits for
its end stands right above the pump's, and whoever waits for a task has a frame below that lets go
of the invoker afterwards.

`Code.tends`, `Frame.tends` and `Frame.unwind_tends` put the moves together.
-/

namespace AddonHost

open Upkeep

namespace Assoc

theorem countP_erase_le {κ α : Type} [DecidableEq κ] (m : Assoc κ α) (k : κ) (p : κ × α → Bool) :
    (m.erase k).countP p ≤ m.countP p := by
  induction m with
  | nil => exact le_rfl
  | cons q rest ih =>
    obtain ⟨k', a⟩ := q
    unfold Assoc.erase
    split
    · exact ih.trans (List.countP_cons ▸ Nat.le_add_right ..)
    · simp only [List.countP_cons]
      omega

theorem countP_erase_lt {κ α : Type} [DecidableEq κ] {m : Assoc κ α} {k : κ} {a : α}
    (h : m.get? k = some a) {p : κ × α → Bool} (hp : p (k, a) = true) :
    (m.erase k).countP p < m.countP p := by
  induction m with
  | nil => simp at h
  | cons q rest ih =>
    obtain ⟨k', b⟩ := q
    unfold Assoc.erase
    unfold Assoc.get? at h
    by_cases hk : k' = k
    · subst hk
      obtain rfl : b = a := by simpa using h
      have hle := countP_erase_le rest k' p
      simp only [if_true, List.countP_cons, hp]
      omega
    · rw [if_neg hk] at h ⊢
      have hlt := ih h
      simp only [List.countP_cons]
      omega

end Assoc

namespace Frame

/-- Whether a frame is in the middle of pumping an invoker: in a task, or right after it. -/
def isTurn (i : InvokerId) : Frame → Bool
  | .taskEnded j _ | .pumped j _ => j = i
  | _ => false

/-- Each task that was taken off the queue of an invoker stands right above the pump. -/
inductive Paired (i : InvokerId) : List Frame → Prop where
  | nil : Paired i []
  | turn {sub : Submission} {goal : PumpGoal} {rest : List Frame} : Paired i rest →
    Paired i (.taskEnded i sub :: .pumped i goal :: rest)
  | other {fr : Frame} {rest : List Frame} : fr.isTurn i = false → Paired i rest →
    Paired i (fr :: rest)

variable {i : InvokerId} {frames frames' : List Frame}

theorem Paired.append (h : Paired i frames) (h' : Paired i frames') :
    Paired i (frames ++ frames') := by
  induction h with
  | nil => exact h'
  | turn _ ih => exact .turn ih
  | other hfr _ ih => exact .other hfr ih

theorem paired_of_all (h : ∀ fr ∈ frames, fr.isTurn i = false) : Paired i frames := by
  induction frames with
  | nil => exact .nil
  | cons fr rest ih =>
    exact .other (h fr (by simp)) (ih fun fr' hfr' => h fr' (by simp [hfr']))

theorem paired_of_duties (h : dutiesOf frames = []) : Paired i frames := by
  refine paired_of_all fun fr hfr => ?_
  have hnil := List.flatMap_eq_nil_iff.1 h fr hfr
  cases fr <;> simp_all [isTurn, Frame.duties]

/-- A pump's frame is never on top. -/
theorem Paired.ne_pumped {goal : PumpGoal} {rest : List Frame}
    (h : Paired i (.pumped i goal :: rest)) : False := by
  cases h with
  | other hfr => simp [isTurn] at hfr

theorem Paired.tail {fr : Frame} {rest : List Frame} (h : Paired i (fr :: rest))
    (hfr : fr.isTurn i = false) : Paired i rest := by
  cases h with
  | turn => simp [isTurn] at hfr
  | other _ h => exact h

end Frame

/-- A move tends an invoker and leaves its thread's stack in order. -/
structure Move.Tends (i : InvokerId) (s : Session) (own : Share) (m : Move) : Prop where
  upkeep : (s.upkeep i).Tends i own (m.session.upkeep i) { owes := m.owes }
  paired : ¬(m.session.upkeep i).IsThread → Frame.Paired i m.frames
  waits (c : ℕ) : m.control = .run (.awaitTask i c) →
    ∃ fr rest, m.frames = fr :: rest ∧ fr.owes = [i]

/-- What may be done for a thread that has its share by now. -/
theorem Move.Tends.after {i : InvokerId} {s s' : Session} {own own' : Share} {m : Move}
    (hm : m.Tends i s' own') (h : (s.upkeep i).Tends i own (s'.upkeep i) own') : m.Tends i s own :=
  ⟨h.trans hm.upkeep, hm.paired, hm.waits⟩

namespace Session

variable {s s' : Session} {t : ThreadId} {i j : InvokerId} {inv : Invoker} {m : Move} {own : Share}
  {owes : List InvokerId}

theorem tends_give (h : (s.upkeep i).Tends i own (s'.upkeep i) {}) (r : Reply) :
    (s'.give r).Tends i s own :=
  ⟨h, fun _ => .nil, by simp [give]⟩

theorem tends_run {c : Code} {frames : List Frame}
    (h : (s.upkeep i).Tends i own (s'.upkeep i) { owes := c.owes ++ frames.flatMap Frame.owes })
    (hp : ¬(s'.upkeep i).IsThread → Frame.Paired i frames)
    (hw : ∀ n, c = .awaitTask i n → ∃ fr rest, frames = fr :: rest ∧ fr.owes = [i]) :
    (s'.run c frames).Tends i s own :=
  ⟨h, hp, fun n hn => hw n (Control.run.inj hn)⟩

/-- A thread may give up what it has to let go of. -/
theorem tends_nil (hu : s'.upkeep i = s.upkeep i) :
    (s.upkeep i).Tends i { owes } (s'.upkeep i) {} :=
  (Tends.of_eq hu { owes }).mono rfl (by simp)

/-- A move that shows no difference, and leaves nothing to do for an invoker. -/
theorem tends_of_quiet (hu : m.session.upkeep i = s.upkeep i) (hk : m.owes = [])
    (hd : m.duties = []) : m.Tends i s { owes } := by
  obtain ⟨hcontrol, hframes⟩ := List.append_eq_nil_iff.1 hd
  refine ⟨?_, fun _ => Frame.paired_of_duties hframes, fun c hc => ?_⟩
  · rw [hk]
    exact tends_nil hu
  · simp [hc, Control.duties, Code.duties] at hcontrol

theorem tends_of_aside (h : m.Aside s) (hu : m.Uninvolved s) : m.Tends i s { owes } :=
  tends_of_quiet (upkeep_of_backstage h.backstage hu.names i) hu.owes h.duties

/-! ### Letting go -/

theorem upkeep_foldl_discarded_ne (hne : j ≠ i) (s : Session) (subs : List Submission) :
    (subs.foldl (fun s sub => (s.emit (.discarded j sub)).signal sub.completion) s).upkeep i
      = s.upkeep i := by
  induction subs generalizing s with
  | nil => rfl
  | cons sub rest ih =>
    rw [List.foldl_cons, ih, upkeep_signal, upkeep_emit (by simp [hne]) rfl]

theorem upkeep_discardQueue_ne (hne : j ≠ i) (s : Session) (inv : Invoker) :
    (s.discardQueue j inv).upkeep i = s.upkeep i := by
  rw [discardQueue, upkeep_modifyInvoker_ne hne, upkeep_foldl_discarded_ne hne]

theorem upkeep_foldl_discarded (s : Session) (i : InvokerId) (subs : List Submission) :
    ∃ discarded, (subs.foldl (fun s sub => (s.emit (.discarded i sub)).signal sub.completion)
      s).upkeep i = { s.upkeep i with discarded } := by
  induction subs generalizing s with
  | nil => exact ⟨_, rfl⟩
  | cons sub rest ih =>
    obtain ⟨discarded, hrest⟩ := ih ((s.emit (.discarded i sub)).signal sub.completion)
    refine ⟨discarded, ?_⟩
    rw [List.foldl_cons, hrest, upkeep_signal]
    have hreturned : Event.returnedOn i (s.emit (.discarded i sub)).history
        = Event.returnedOn i s.history := by
      rw [history_emit, Event.returnedOn_append]
      rfl
    simp only [upkeep, hreturned]
    rfl

/-- Dropping a queue shows nothing but what was dropped. -/
theorem upkeep_discardQueue (s : Session) (i : InvokerId) (inv : Invoker) :
    ∃ discarded, (s.discardQueue i inv).upkeep i = { s.upkeep i with discarded } := by
  rw [discardQueue, upkeep_withQueue]
  exact upkeep_foldl_discarded s i _

theorem upkeep_letGo_ne (hne : j ≠ i) (s : Session) (t : ThreadId) (r : Reply) :
    (s.letGo t j r).session.upkeep i = s.upkeep i := by
  have hless := upkeep_modifyInvoker_ne hne s fun inv => { inv with holders := inv.holders - 1 }
  unfold letGo
  split
  · rfl
  · simp only
    split
    · exact hless
    · split
      · exact (upkeep_discardQueue_ne hne _ _).trans hless
      · split
        · exact (upkeep_requestShutdown ..).trans hless
        · exact (upkeep_modifyInterpreter ..).trans ((upkeep_requestShutdown ..).trans hless)

/-- One less keeps an invoker that is let go of, and its queue may be dropped if nobody is left. -/
theorem upkeep_letGo (hj : s.invokers.get? j = some inv) (t : ThreadId) (r : Reply) :
    ∃ discarded, (s.letGo t j r).session.upkeep j
        = { s.upkeep j with held := some (inv.holders - 1, inv.counted?), discarded } ∧
      (inv.holders ≠ 1 → discarded = (s.upkeep j).discarded) := by
  have hless : (s.modifyInvoker j fun inv => { inv with holders := inv.holders - 1 }).upkeep j
      = { s.upkeep j with held := some (inv.holders - 1, inv.counted?) } := by
    simp only [upkeep, modifyInvoker, Assoc.get?_modify, if_true, hj, Option.map_some,
      Invoker.counted?]
    rfl
  unfold letGo
  simp only [hj]
  split
  · exact ⟨_, hless, fun _ => rfl⟩
  · next hone =>
    split
    · obtain ⟨discarded, hdiscarded⟩ := upkeep_discardQueue
        (s.modifyInvoker j fun inv => { inv with holders := inv.holders - 1 }) j inv
      exact ⟨discarded, by rw [session_give, hdiscarded, hless], fun h => absurd h hone⟩
    · split
      · exact ⟨_, (upkeep_requestShutdown ..).trans hless, fun _ => rfl⟩
      · exact ⟨_, (upkeep_modifyInterpreter ..).trans ((upkeep_requestShutdown ..).trans hless),
          fun _ => rfl⟩

theorem letGo_leaves (s : Session) (t : ThreadId) (j : InvokerId) (r : Reply) :
    (s.letGo t j r).frames = [] ∧ ((s.letGo t j r).control = .give r ∨
      (s.letGo t j r).control = .run (.awaitEnd j r)) := by
  unfold letGo
  split
  · exact ⟨rfl, .inl rfl⟩
  · simp only
    split
    · exact ⟨rfl, .inl rfl⟩
    · split
      · exact ⟨rfl, .inl rfl⟩
      · split
        · exact ⟨rfl, .inl rfl⟩
        · exact ⟨rfl, .inr rfl⟩

theorem letGo_tends (s : Session) (t : ThreadId) (j : InvokerId) (r : Reply) (i : InvokerId) :
    (s.letGo t j r).Tends i s { owes := [j] } := by
  obtain ⟨hframes, hcontrol⟩ := letGo_leaves s t j r
  have howes : (s.letGo t j r).owes = [] := by
    rw [Move.owes, hframes]
    rcases hcontrol with hcontrol | hcontrol <;> rw [hcontrol] <;> rfl
  refine ⟨?_, fun _ => hframes ▸ .nil, fun c hc => ?_⟩
  · rw [howes]
    by_cases hne : j = i
    · subst hne
      cases hj : s.invokers.get? j with
      | none =>
        have hgive : s.letGo t j r = s.give r := by simp [letGo, hj]
        exact tends_nil (by rw [hgive, session_give])
      | some inv =>
        obtain ⟨discarded, hupkeep, hkept⟩ := upkeep_letGo hj t r
        have hheld : (s.upkeep j).held = some (inv.holders, inv.counted?) := by simp [upkeep, hj]
        rw [hupkeep]
        refine ⟨⟨[], by simp, by simp⟩, fun h => ?_, fun h => ?_, ?_, fun _ hg => ?_, fun _ => ?_⟩
        · simpa [IsThread, hheld] using h
        · simp_all [IsGone]
        · simp only [claims, holders, hheld, Option.map_some, Option.getD_some,
            List.count_cons_self, List.count_nil]
          omega
        · refine hkept fun hone => hg ?_
          simp [IsGone, hone]
        · simp [executed, hheld]
    · exact tends_nil (upkeep_letGo_ne hne s t r)
  · rcases hcontrol with hcontrol | hcontrol <;> simp [hcontrol] at hc

/-! ### Submitting and running tasks -/

theorem get?_of_liveInvoker? {o : Option InvokerId} (h : s.liveInvoker? o = some (j, inv)) :
    s.invokers.get? j = some inv ∧ inv.holders ≠ 0 := by
  obtain rfl := liveInvoker?_eq_some h
  simp only [liveInvoker?, Option.bind_eq_bind, Option.bind_some] at h
  obtain ⟨inv', hinv', h⟩ := Option.bind_eq_some_iff.1 h
  split at h
  · simp at h
  · next hholders =>
    obtain ⟨-, rfl⟩ := Prod.mk.inj (Option.some.inj h)
    exact ⟨hinv', hholders⟩

/-- An invoker that is there is known by its upkeep. -/
theorem held_upkeep (hj : s.invokers.get? j = some inv) :
    (s.upkeep j).held = some (inv.holders, inv.counted?) := by
  rw [upkeep, hj, Option.map_some]

theorem exists_get?_of_held {n : ℕ} {c : Option ℕ} (h : (s.upkeep j).held = some (n, c)) :
    ∃ inv, s.invokers.get? j = some inv ∧ inv.holders = n ∧ inv.counted? = c := by
  obtain ⟨inv, hj, hinv⟩ := Option.map_eq_some_iff.1 h
  exact ⟨inv, hj, Prod.mk.inj hinv⟩

/-- An invoker that was found alive is kept from now on, whatever was shown in between. -/
theorem keepLive_tends {o : Option InvokerId} (hlive : s.liveInvoker? o = some (j, inv))
    (hu : ∀ i, s'.upkeep i = s.upkeep i) (i : InvokerId) :
    (s.upkeep i).Tends i {} ((s'.keepInvoker j).upkeep i) { owes := [j] } := by
  obtain ⟨hj, hholders⟩ := get?_of_liveInvoker? hlive
  obtain ⟨inv', hj', hholders', -⟩ := exists_get?_of_held ((hu j).symm ▸ held_upkeep hj)
  rw [← hu i]
  exact keepInvoker_tends hj' (hholders'.trans_ne hholders) i []

theorem appendItem_tends (t : ThreadId) (f : HandleId) (fn : ThreadsafeFunction) (data : Word)
    (i : InvokerId) : (s.appendItem t f fn data).Tends i s {} := by
  obtain ⟨u, hu⟩ : ∃ u, u = (s.modifyFunction f (·.push data)).emit (.appended f data) := ⟨_, rfl⟩
  have hpush (i : InvokerId) : u.upkeep i = s.upkeep i := by
    rw [hu, upkeep_emit rfl rfl]
    rfl
  have hoffered (v : Session) (accepted : Bool) (i : InvokerId) :
      (v.emit (.drainOffered f accepted)).upkeep i = v.upkeep i := upkeep_emit rfl rfl
  have hlive (o : Option InvokerId) : u.liveInvoker? o = s.liveInvoker? o := by
    rw [hu]
    rfl
  unfold appendItem
  simp only [← hu]
  split
  · exact tends_give (tends_nil (by rw [upkeep_log, hoffered, hpush])) _
  · next j inv hfound =>
    rw [hlive] at hfound
    split
    · next hoffer =>
      exact tends_give (tends_nil (by rw [hoffered, upkeep_of_offer hoffer, hpush])) _
    · next hoffer =>
      exact tends_give (tends_nil (by rw [upkeep_log, hoffered, upkeep_of_offer hoffer, hpush])) _
    · next hoffer =>
      refine tends_run (keepLive_tends hfound (fun i => ?_) i) (fun _ => ?_) (by simp)
      · rw [hoffered, upkeep_of_offer hoffer, hpush]
      · exact Frame.paired_of_all (by simp [Frame.isTurn])
    · next hoffer =>
      refine tends_run (keepLive_tends hfound (fun i => ?_) i) (fun _ => ?_) fun n hn => ?_
      · rw [hoffered, upkeep_of_offer hoffer, hpush]
      · exact Frame.paired_of_all (by simp [Frame.isTurn])
      · obtain ⟨rfl, -⟩ := Code.awaitTask.inj hn
        exact ⟨_, _, rfl, rfl⟩

theorem call_tends (t : ThreadId) (f : HandleId) (data : Word) (mode : CallMode) (i : InvokerId) :
    (s.call t f data mode).Tends i s {} := by
  unfold call
  split
  · exact tends_give (.refl _ _) _
  · split
    · exact tends_give (.refl _ _) _
    · exact tends_run (.refl _ _) (fun _ => .nil) (by simp)
    · exact appendItem_tends ..

theorem awaitSpace_tends {f : HandleId} {data : Word} (hm : s.awaitSpace t f data = some m)
    (i : InvokerId) : m.Tends i s {} := by
  unfold awaitSpace at hm
  split at hm
  · obtain rfl := Option.some.inj hm
    exact tends_give (.refl _ _) _
  · split_ifs at hm <;> obtain rfl := Option.some.inj hm
    · exact tends_give (.refl _ _) _
    · exact tends_run (.refl _ _) (fun _ => .nil) (by simp)
    · exact appendItem_tends ..

theorem closeThen_tends (hu : s'.upkeep i = s.upkeep i) (t : ThreadId) (f : HandleId) (r : Reply) :
    (s'.closeThen t f r).Tends i s {} := by
  obtain ⟨u, hclose⟩ : ∃ u, u = (s'.modifyFunction f (·.close)).emit (.closed f) := ⟨_, rfl⟩
  have hclosed : u.upkeep i = s.upkeep i := by
    rw [hclose, upkeep_emit rfl rfl, ← hu]
    rfl
  have hoffered (v : Session) (accepted : Bool) :
      (v.emit (.teardownOffered f accepted)).upkeep i = v.upkeep i := upkeep_emit rfl rfl
  have hatOnce (v : Session) (text : String) (hv : v.upkeep i = s.upkeep i) :
      (((v.emit (.teardownOffered f false)).log .debug text).run (.teardown f)
        [.thenReply r]).Tends i s {} := by
    refine tends_run (tends_nil (by rw [upkeep_log, hoffered, hv])) (fun _ => ?_) (by simp)
    exact Frame.paired_of_all (by simp [Frame.isTurn])
  unfold closeThen
  split
  · exact tends_give (tends_nil hu) r
  · split
    · exact tends_give (tends_nil hu) r
    · simp only [← hclose]
      split
      · exact hatOnce u _ hclosed
      · split
        · next hoffer =>
          exact tends_give (tends_nil (by rw [hoffered, upkeep_of_offer hoffer, hclosed])) r
        · next hoffer => exact hatOnce _ _ (by rw [upkeep_of_offer hoffer, hclosed])

theorem release_tends (t : ThreadId) (f : HandleId) (mode : ReleaseMode) (i : InvokerId) :
    (s.release t f mode).Tends i s {} := by
  have hdropped (g : ThreadsafeFunction → ThreadsafeFunction) (count : Word) :
      ((s.modifyFunction f g).emit (.released f count)).upkeep i = s.upkeep i := by
    rw [upkeep_emit rfl rfl]
    rfl
  unfold release
  split
  · exact tends_give (.refl _ _) _
  · split
    · exact tends_give (.refl _ _) _
    · split
      · refine closeThen_tends ?_ t f _
        rw [upkeep_log, upkeep_emit rfl rfl, hdropped]
      · simp only
        split
        · exact closeThen_tends (hdropped ..) t f _
        · exact tends_give (tends_nil (hdropped ..)) _

theorem afterDrain_tends (t : ThreadId) (f : HandleId) (wasEmpty : Bool) (i : InvokerId) :
    (s.afterDrain t f wasEmpty).Tends i s {} := by
  unfold afterDrain
  split
  · exact tends_give (.refl _ _) _
  · split
    · exact closeThen_tends rfl t f _
    · exact tends_give (.refl _ _) _

theorem submit_tends (t : ThreadId) (j : InvokerId) (sync : Bool) (actions : List Action)
    (rejected : Rejected) (i : InvokerId) :
    (s.submit t j sync actions rejected).Tends i s { owes := [j] } := by
  have hsame {o : Offer} {s' : Session} (h : s.offer t j sync (.client actions) = (o, s')) :
      (s.upkeep i).Tends i { owes := [j] } (s'.upkeep i) { owes := [j] } :=
    .of_eq (upkeep_of_offer h i) _
  unfold submit
  split
  · next hoffer => exact tends_run (hsame hoffer) (fun _ => .nil) (by simp)
  · next hoffer =>
    refine tends_run (hsame hoffer) (fun _ => ?_) fun n hn => ?_
    · exact Frame.paired_of_all (by simp [Frame.isTurn])
    · obtain ⟨rfl, -⟩ := Code.awaitTask.inj hn
      exact ⟨_, _, rfl, rfl⟩
  · next hoffer =>
    refine tends_run (hsame hoffer) (fun _ => ?_) (by simp)
    exact Frame.paired_of_all (by simp [Frame.isTurn])
  · next hoffer =>
    split
    · exact tends_run (hsame hoffer) (fun _ => .nil) (by simp)
    · refine tends_run (hsame hoffer) (fun _ => ?_) (by simp)
      exact Frame.paired_of_all (by simp [Frame.isTurn])

theorem upkeep_startTask (s : Session) (j : InvokerId) (q : TaskQueue) (sub : Submission)
    (i : InvokerId) :
    ((s.modifyInvoker j (·.withQueue q)).emit (.started j sub)).upkeep i = s.upkeep i := by
  rw [upkeep_emit (by simp) rfl, upkeep_withQueue s j fun _ => q]

theorem pump_tends (j : InvokerId) (goal : PumpGoal) (i : InvokerId) :
    (s.pump j goal).Tends i s { owes := [j] } := by
  have hon (c : Code) (howes : c.owes = [j]) (hawait : ∀ n, c ≠ .awaitTask i n) :
      (s.run c).Tends i s { owes := [j] } := by
    refine tends_run ((Tends.refl _ _).mono rfl ?_) (fun _ => .nil) fun n hn => absurd hn (hawait n)
    simp [howes]
  unfold pump
  split
  · exact tends_give (tends_nil rfl) _
  · split
    · next inv hj m hm =>
      obtain ⟨sub, rest, -, rfl⟩ := runNext_eq_some_iff.1 hm
      refine tends_run ((Tends.of_eq (upkeep_startTask ..) _).mono rfl ?_) (fun _ => ?_) (by simp)
      · simp [Code.owes, Frame.owes]
      · by_cases hne : j = i
        · subst hne
          exact .turn .nil
        · exact Frame.paired_of_all (by simp [Frame.isTurn, hne])
    · split
      · exact hon _ rfl (by simp)
      · exact hon _ rfl (by simp)
      · exact hon _ rfl (by simp)
      · split_ifs
        · exact hon _ rfl (by simp)
        · exact hon _ rfl (by simp)

theorem afterPumped_tends (hj : s.invokers.get? j = some inv) (goal : PumpGoal) (i : InvokerId) :
    (s.afterPumped j goal).Tends i s { owes := [j], late := if j = i then 1 else 0 } := by
  have hcounted := countExecuted_tends hj i [j]
  cases goal <;> exact tends_run hcounted (fun _ => .nil) (by simp)

theorem awaitTask_tends {completion : ℕ} (hm : s.awaitTask j completion = some m) (i : InvokerId) :
    m.Tends i s {} := by
  unfold awaitTask at hm
  split at hm
  · obtain rfl := Option.some.inj hm
    exact tends_give (.refl _ _) _
  · split at hm
    · split at hm
      · obtain rfl := Option.some.inj hm
        exact tends_give (tends_nil (upkeep_log ..)) _
      · simp at hm
    · simp at hm

/-- The loop of an interpreter thread drops only tasks of its own. -/
theorem loop_tends (hm : s.loop j = some m) (i : InvokerId) : m.Tends i s {} := by
  unfold loop at hm
  split at hm
  · simp at hm
  · next inv hj =>
    split at hm
    · simp at hm
    · next r hr =>
      have hthread : (s.upkeep j).IsThread := by
        simp [IsThread, held_upkeep hj, Invoker.counted?, hr]
      split at hm
      · obtain rfl := Option.some.inj hm
        refine tends_give ?_ _
        by_cases hne : j = i
        · subst hne
          obtain ⟨discarded, hdiscarded⟩ := upkeep_discardQueue s j inv
          rw [upkeep_modifyInterpreter, hdiscarded]
          exact ⟨⟨[], by simp, by simp⟩, id, id, le_rfl, fun h => absurd hthread h,
            fun h => absurd hthread h⟩
        · exact tends_nil (by rw [upkeep_modifyInterpreter, upkeep_discardQueue_ne hne])
      · obtain ⟨sub, rest, -, rfl⟩ := runNext_eq_some_iff.1 hm
        refine tends_run (tends_nil (upkeep_startTask ..)) (fun h => ?_) (by simp)
        -- the loop runs a task without a pump, which only matters to a manual invoker
        have hne : j ≠ i := by
          rintro rfl
          exact h ((upkeep_startTask ..).symm ▸ hthread)
        exact Frame.paired_of_all (by simp [Frame.isTurn, hne])

/-- A synchronous task of the own thread is counted as it returns. -/
theorem ranInline_tends (hj : s.invokers.get? j = some inv) (i : InvokerId) :
    (((s.countExecuted j).emit (.ranInline j)).give .unit).Tends i s {} := by
  refine tends_give ?_ _
  by_cases hne : j = i
  · subst hne
    have hcounted := countExecuted_tends hj j []
    have hreturned : ((s.countExecuted j).emit (.ranInline j)).upkeep j
        = { (s.countExecuted j).upkeep j with
            returned := ((s.countExecuted j).upkeep j).returned + 1 } := by
      simp only [upkeep, history_emit, Event.discardedOn_append, Event.discardedOn_singleton,
        Event.returnedOn_append, Event.returnedOn_singleton]
      simp [Event.isReturnOn, emit]
    rw [hreturned]
    -- one more is counted and one more has returned
    refine ⟨hcounted.threads, hcounted.thread, hcounted.gone, hcounted.claims, hcounted.discarded,
      fun h => ?_⟩
    have hbalance := hcounted.counted h
    simp only [if_true, executed] at hbalance ⊢
    omega
  · refine tends_nil ?_
    rw [upkeep_emit rfl (by simp [Event.isReturnOn, hne]), countExecuted,
      upkeep_modifyInvoker_ne hne]

/-! ### Names and new invokers -/

/-- Who finds an invoker by a name keeps it, and so do threads that let go of it later. -/
theorem exists_alive (hclaims : (s.upkeep j).claims j ≤ (s.upkeep j).holders)
    (hpos : 0 < (s.upkeep j).claims j) :
    ∃ inv, s.invokers.get? j = some inv ∧ inv.holders ≠ 0 := by
  cases hj : s.invokers.get? j with
  | none =>
    have hzero : (s.upkeep j).holders = 0 := by simp [holders, upkeep, hj]
    omega
  | some inv =>
    have hholders : (s.upkeep j).holders = inv.holders := by simp [holders, held_upkeep hj]
    exact ⟨inv, rfl, by omega⟩

theorem claims_pos_of_named {name : String} (h : s.names.invokers.get? name = some j) :
    0 < (s.upkeep j).claims j := by
  have hcount : 0 < s.names.invokers.countP fun p => p.2 = j :=
    List.countP_pos_iff.2 ⟨(name, j), Assoc.mem_of_get? h, by simp⟩
  exact Nat.add_pos_left hcount _

theorem get?_of_findInvoker? {name : String} (h : s.findInvoker? name = some (j, inv)) :
    s.names.invokers.get? name = some j ∧ s.invokers.get? j = some inv := by
  simp only [findInvoker?, Option.bind_eq_bind, Option.pure_def, Option.bind_eq_some_iff] at h
  obtain ⟨k, hname, inv', hinv, hpair⟩ := h
  obtain ⟨rfl, rfl⟩ := Prod.mk.inj (Option.some.inj hpair)
  exact ⟨hname, hinv⟩

theorem withInvoker_tends (hclaims : ∀ j, (s.upkeep j).claims j ≤ (s.upkeep j).holders)
    (name : String) {act : InvokerId → Invoker → Move}
    (h : ∀ j inv, s.invokers.get? j = some inv → inv.holders ≠ 0 → (act j inv).Tends i s {}) :
    (s.withInvoker name act).Tends i s {} := by
  unfold withInvoker
  split
  · exact tends_give (.refl _ _) _
  · next j inv hfound =>
    obtain ⟨hname, hj⟩ := get?_of_findInvoker? hfound
    obtain ⟨inv', hj', hholders⟩ := exists_alive (hclaims j) (claims_pos_of_named hname)
    obtain rfl := Option.some.inj (hj.symm.trans hj')
    exact h j inv hj hholders

/-- Only the names and the threads of invokers have changed. -/
theorem tends_of_claims {names : Assoc String InvokerId} (new : Assoc ThreadId Thread)
    (hnew : ∀ p ∈ new, p.2.IsFresh)
    (hu : s'.upkeep i = { s.upkeep i with names, threads := s.threads ++ new })
    {owes' : List InvokerId}
    (hclaims : (s'.upkeep i).claims i + owes'.count i ≤ (s.upkeep i).claims i + owes.count i) :
    (s.upkeep i).Tends i { owes } (s'.upkeep i) { owes := owes' } := by
  have hheld : (s'.upkeep i).held = (s.upkeep i).held := by rw [hu]
  refine ⟨⟨new, by rw [hu]; rfl, hnew⟩, fun h => ?_, fun h => ?_, ?_, fun _ _ => ?_, fun _ => ?_⟩
  · rwa [IsThread, hheld]
  · rwa [IsGone, hheld]
  · simp only [holders, hheld]
    omega
  · rw [hu]
  · rw [hu]
    rfl

/-- Whoever keeps an invoker gives it a name instead, and lets go of the one that had the name. -/
theorem nameInvoker_tends (name : String) (j i : InvokerId) :
    (s.nameInvoker name j).Tends i s { owes := [j] } := by
  obtain ⟨u, hu⟩ : ∃ u, u
      = ({ s with
          names := { s.names with invokers := s.names.invokers.insert name j } } : Session) :=
    ⟨_, rfl⟩
  have hupkeep : u.upkeep i
      = { s.upkeep i with
          names := s.names.invokers.insert name j
          threads := s.threads ++ [] } := by
    rw [hu, List.append_nil]
    rfl
  have hnames (owes' : List InvokerId)
      (hcount : (s.names.invokers.insert name j).countP (fun p => p.2 = i) + owes'.count i
        ≤ s.names.invokers.countP (fun p => p.2 = i) + [j].count i) :
      (s.upkeep i).Tends i { owes := [j] } (u.upkeep i) { owes := owes' } := by
    refine tends_of_claims [] (by simp) hupkeep ?_
    rw [hupkeep]
    simp only [claims, upkeep, List.append_nil]
    omega
  unfold nameInvoker
  simp only [← hu]
  cases hold : s.names.invokers.get? name with
  | none =>
    refine tends_give (hnames [] ?_) _
    rw [Assoc.insert_of_get?_eq_none hold]
    by_cases hji : j = i <;> simp [hji]
  | some k =>
    -- the name passes from one invoker to the other, so the thread lets go of the former
    refine tends_run (hnames _ ?_) (fun _ => .nil) (by simp)
    obtain ⟨before, after, hm, hne⟩ := Assoc.exists_of_get? hold
    rw [hm, Assoc.insert_append_cons hne]
    by_cases hji : j = i <;> by_cases hki : k = i <;> simp [hji, hki, Code.owes]
    all_goals omega

/-- An invoker loses its name, and is let go of. -/
theorem dropInvoker_tends (name : String) (i : InvokerId) : (s.dropInvoker name).Tends i s {} := by
  unfold dropInvoker
  split
  · exact tends_give (.refl _ _) _
  · next j inv hfound =>
    obtain ⟨hname, -⟩ := get?_of_findInvoker? hfound
    obtain ⟨u, hu⟩ : ∃ u, u
        = ({ s with
            names := { s.names with invokers := s.names.invokers.erase name } } : Session) :=
      ⟨_, rfl⟩
    have hupkeep : u.upkeep i
        = { s.upkeep i with
            names := s.names.invokers.erase name
            threads := s.threads ++ [] } := by
      rw [hu, List.append_nil]
      rfl
    have hcount : (s.names.invokers.erase name).countP (fun p => p.2 = i) + [j].count i
        ≤ s.names.invokers.countP (fun p => p.2 = i) := by
      by_cases hji : j = i
      · have hlt := Assoc.countP_erase_lt hname (p := fun p => p.2 = i) (by simp [hji])
        simp only [hji, List.count_cons_self, List.count_nil]
        omega
      · simpa [hji] using Assoc.countP_erase_le s.names.invokers name fun p => p.2 = i
    have herased : (s.upkeep i).Tends i {} (u.upkeep i) { owes := [j] } := by
      refine tends_of_claims [] (by simp) hupkeep ?_
      rw [hupkeep]
      simp only [claims, upkeep, List.append_nil, List.count_nil]
      omega
    have hleft {u' : Session} (hsame : u'.upkeep i = u.upkeep i) :
        (u'.run (.letGo j (.answer (.flag true)))).Tends i s {} := by
      refine tends_run ?_ (fun _ => .nil) (by simp)
      rw [hsame]
      exact herased
    simp only [← hu]
    refine hleft ?_
    split
    · rfl
    · split
      · rw [upkeep_releaseOccupation, upkeep_requestShutdown]
      · rfl

/-- A new invoker is kept once. -/
theorem insert_tends (hs : s.Sane) {inv : Invoker} (hinv : inv.holders = 1)
    (hcounted : inv.counted? = none ∨ inv.counted? = some 0) (i : InvokerId) :
    (s.upkeep i).Tends i {}
      (({ s with invokers := s.invokers.insert s.invokers.length inv } : Session).upkeep i)
      { owes := [s.invokers.length] } := by
  have hupkeep : ({ s with invokers := s.invokers.insert s.invokers.length inv } : Session).upkeep i
      = { s.upkeep i with
          held :=
            if s.invokers.length = i then some (1, inv.counted?) else (s.upkeep i).held } := by
    simp only [upkeep, Assoc.get?_insert]
    split
    · rw [Option.map_some, hinv]
      rfl
    · rfl
  by_cases hne : s.invokers.length = i
  · have hnone : (s.upkeep i).held = none := by
      rw [upkeep, ← hne, hs.get?_length, Option.map_none]
    rw [hupkeep, if_pos hne, hne]
    refine ⟨⟨[], by simp, by simp⟩, fun h => ?_, fun h => ?_, ?_, fun _ _ => rfl, fun _ => ?_⟩
    · simp [IsThread, hnone] at h
    · simp [IsGone, hnone] at h
    · simp [claims, holders, hnone]
    · rcases hcounted with hcounted | hcounted <;> simp [executed, hnone, hcounted]
  · rw [hupkeep, if_neg hne]
    exact (Tends.refl _ _).mono rfl (by simp [hne])

/-- A new thread takes over what its code keeps. -/
theorem setThread_tends {u : ThreadId} {th : Thread} (hnone : s.threads.get? u = none)
    (hfresh : th.IsFresh) (i : InvokerId) (owes : List InvokerId) :
    (s.upkeep i).Tends i { owes := th.owes ++ owes }
      ((s.setThread u th).upkeep i) { owes } := by
  have hthreads : (s.setThread u th).threads = s.threads ++ [(u, th)] :=
    Assoc.insert_of_get?_eq_none hnone th
  have hupkeep : (s.setThread u th).upkeep i
      = { s.upkeep i with
          names := s.names.invokers
          threads := s.threads ++ [(u, th)] } := by
    rw [← hthreads]
    rfl
  refine tends_of_claims _ (by simpa using hfresh) hupkeep ?_
  rw [hupkeep]
  simp only [claims, upkeep, List.map_append, List.sum_append, List.map_cons, List.map_nil,
    List.sum_singleton, List.count_append]
  omega

theorem createInvoker_tends (hs : s.Sane) (t : ThreadId) (name : String) (spec : InvokerSpec)
    (i : InvokerId) : (s.createInvoker t name spec).Tends i s {} := by
  have hnamed {u : Session}
      (hu : (s.upkeep i).Tends i {} (u.upkeep i) { owes := [s.invokers.length] }) :
      (u.nameInvoker name s.invokers.length).Tends i s {} := by
    exact (nameInvoker_tends name s.invokers.length i).after hu
  unfold createInvoker
  simp only
  split
  · exact hnamed (insert_tends hs rfl (.inr rfl) i)
  · next config =>
    split
    · exact tends_give (.refl _ _) _
    · exact tends_give (.refl _ _) _
    · obtain ⟨u, hu⟩ : ∃ u, u = ({ s with
          invokers := s.invokers.insert s.invokers.length
            { core := .thread { name := config.threadName } } } : Session) := ⟨_, rfl⟩
      have hnone : u.threads.get? (.interpreter s.invokers.length) = none := by
        rw [hu]
        exact hs.get?_thread (by simp [mem_precedence])
      have hinsert : (s.upkeep i).Tends i {} (u.upkeep i) { owes := [s.invokers.length] } := by
        rw [hu]
        exact insert_tends hs rfl (.inl rfl) i
      have hfresh : Thread.IsFresh { control := .run (.loop s.invokers.length) } :=
        ⟨_, rfl, rfl, rfl⟩
      have hset := setThread_tends hnone hfresh i [s.invokers.length]
      rw [← hu]
      refine hnamed ?_
      rw [upkeep_log]
      exact hinsert.trans hset

/-! ### Actions -/

/-- A producer that begins keeps what its code keeps. -/
theorem startProducer_tends (hs : s.Sane) (name : String) {c : Code} (hc : c.duties = [])
    (i : InvokerId) : (s.startProducer name c).Tends i s { owes := c.owes } := by
  obtain ⟨u, hu⟩ : ∃ u, u = ({ s with producers := s.producers ++ [Producer.mk name none] }
    : Session) := ⟨_, rfl⟩
  have hnone : u.threads.get? (.spawned s.producers.length) = none := by
    rw [hu]
    exact hs.get?_thread (by simp [mem_precedence])
  have hfresh : Thread.IsFresh { control := .run c, stack := [.spawned s.producers.length] } :=
    ⟨c, rfl, by rw [hc]; rfl, rfl⟩
  have hsame : u.upkeep i = s.upkeep i := by
    rw [hu]
    rfl
  have hset := setThread_tends hnone hfresh i []
  have howes : Thread.owes { control := .run c, stack := [.spawned s.producers.length] } ++ []
      = c.owes := by
    simp [Thread.owes, Frame.owes]
  rw [howes, hsame, hu] at hset
  exact tends_give hset _

theorem pumpNamed_tends (hclaims : ∀ j, (s.upkeep j).claims j ≤ (s.upkeep j).holders)
    (name : String) (goal : PumpGoal) (i : InvokerId) : (s.pumpNamed name goal).Tends i s {} := by
  refine withInvoker_tends hclaims name fun j inv hj hholders => ?_
  split
  · exact tends_give (.refl _ _) _
  · split
    · exact tends_give (.refl _ _) _
    · exact tends_run (keepInvoker_tends hj hholders i []) (fun _ => .nil) (by simp)

theorem holdThread_tends (name : String) (i : InvokerId) : (s.holdThread t name).Tends i s {} := by
  unfold holdThread
  split
  · exact tends_give (.refl _ _) _
  · split
    · next hoffer =>
      exact tends_run (tends_nil (upkeep_of_offer hoffer i)) (fun _ => .nil) (by simp)
    · next hoffer => exact tends_give (tends_nil (upkeep_of_offer hoffer i)) _

theorem shutdownThread_tends (name : String) (i : InvokerId) :
    (s.shutdownThread t name).Tends i s {} := by
  unfold shutdownThread withThread
  split
  · exact tends_give (.refl _ _) _
  · next j r _ =>
    have hstop : ((s.requestShutdown j).releaseOccupation j).upkeep i = s.upkeep i := by
      rw [upkeep_releaseOccupation, upkeep_requestShutdown]
    simp only
    split
    · exact tends_give (tends_nil hstop) _
    · refine tends_run (tends_nil ?_) (fun _ => ?_) (by simp)
      · rw [upkeep_modifyInterpreter, hstop]
      · exact Frame.paired_of_all (by simp [Frame.isTurn])

theorem perform_tends (hs : s.Sane)
    (hclaims : ∀ j, (s.upkeep j).claims j ≤ (s.upkeep j).holders) (t : ThreadId) (a : Action)
    (i : InvokerId) : (s.perform t a).Tends i s {} := by
  by_cases haside : a.isAside = true
  · by_cases hinvolves : a.involves = false
    · exact tends_of_aside (aside_perform t haside) (uninvolved_perform t hinvolves)
    · cases a <;> simp_all [Action.isAside, Action.involves]
  · cases a with
    | createInvoker name spec => exact createInvoker_tends hs t name spec i
    | dropInvoker name => exact dropInvoker_tends name i
    | submit invoker sync actions rejected =>
      refine withInvoker_tends hclaims invoker fun j inv hj hholders => ?_
      exact (submit_tends t j sync actions rejected i).after (keepInvoker_tends hj hholders i [])
    | spawnSubmit name invoker actions =>
      refine withInvoker_tends hclaims invoker fun j inv hj hholders => ?_
      have hkept : s.Unconcerned (s.keepInvoker j) := by simp
      have hstart := startProducer_tends (c := .submit j true actions .dropped)
        (hkept.grows hs).sane name rfl i
      exact hstart.after (keepInvoker_tends hj hholders i [])
    | pump invoker goal => exact pumpNamed_tends hclaims invoker goal i
    | hold invoker => exact holdThread_tends invoker i
    | requestShutdown invoker =>
      simp only [perform, withThread]
      split
      · exact tends_give (.refl _ _) _
      · exact tends_give (tends_nil (upkeep_requestShutdown ..)) _
    | shutdown invoker => exact shutdownThread_tends invoker i
    | spawnCall name func data mode =>
      simp only [perform, withFound]
      split
      · exact tends_give (.refl _ _) _
      · next f fn _ =>
        exact startProducer_tends (c := .call f (s.value data) mode) hs name rfl i
    | queueJob job env direct =>
      simp only [perform, onJob]
      split
      · exact tends_give (tends_nil (upkeep_queueJob ..)) _
      · exact tends_give (tends_nil (upkeep_queueJobById ..)) _
    | _ => exact absurd rfl haside

/-! ### Code and frames -/

theorem entry_tends (t : ThreadId) (p : Provider) (r : Request) (i : InvokerId) :
    (s.entry t p r).Tends i s {} := by
  by_cases haside : p = .runtime → r.isAside = true
  · exact tends_of_aside (aside_entry t haside) (uninvolved_entry t p r)
  · obtain ⟨rfl, hr⟩ := Classical.not_imp.1 haside
    cases r with
    | queueAsyncWork env work => exact tends_give (tends_nil (upkeep_queueJobById ..)) _
    | _ => exact absurd rfl hr

end Session

/-- What a piece of code does to an invoker that it may keep. -/
theorem Code.tends {s : Session} {t : ThreadId} {c : Code} {m : Move} (hs : s.Sane)
    (hclaims : ∀ j, (s.upkeep j).claims j ≤ (s.upkeep j).holders) (hm : c.step t s = some m)
    (i : InvokerId) : m.Tends i s { owes := c.owes } := by
  cases c with
  | perform a =>
    obtain rfl := Option.some.inj hm
    exact Session.perform_tends hs hclaims t a i
  | entry p r =>
    obtain rfl := Option.some.inj hm
    exact Session.entry_tends t p r i
  | call f data mode =>
    obtain rfl := Option.some.inj hm
    exact Session.call_tends t f data mode i
  | awaitSpace f data => exact Session.awaitSpace_tends hm i
  | release f mode =>
    obtain rfl := Option.some.inj hm
    exact Session.release_tends t f mode i
  | submit j sync actions rejected =>
    obtain rfl := Option.some.inj hm
    exact Session.submit_tends t j sync actions rejected i
  | awaitTask j completion => exact Session.awaitTask_tends hm i
  | pump j goal =>
    obtain rfl := Option.some.inj hm
    exact Session.pump_tends j goal i
  | loop j => exact Session.loop_tends hm i
  | awaitEnd j r =>
    simp only [Code.step, Session.awaitEnd] at hm
    split at hm
    · obtain rfl := Option.some.inj hm
      exact Session.tends_give (.refl _ _) _
    · simp at hm
  | letGo j r =>
    obtain rfl := Option.some.inj hm
    exact Session.letGo_tends s t j r i
  | _ =>
    exact Session.tends_of_aside (Session.aside_step rfl (by simp) (by simp) hm)
      (Session.uninvolved_step rfl (by simp) hm)

namespace Frame

variable {s : Session} {t : ThreadId} {i : InvokerId}

/-- A frame that lets go of an invoker next. -/
theorem tends_letGo (s : Session) (j : InvokerId) (r : Reply) (i : InvokerId) :
    (s.run (.letGo j r)).Tends i s { owes := [j] } :=
  Session.tends_run ((Tends.refl _ _).mono rfl (by simp [Code.owes])) (fun _ => .nil) (by simp)

/-- What a frame does to an invoker, unless it is in the middle of pumping it. -/
theorem tends {fr : Frame} (hturn : fr.isTurn i = false)
    (hthere : ∀ j, .inline j ∈ fr.duties ∨ .pumping j ∈ fr.duties →
      ∃ inv, s.invokers.get? j = some inv) (r : Reply) :
    (fr.resume t s r).Tends i s { owes := fr.owes } := by
  by_cases haside : fr.isAside = true
  · cases fr with
    | called j | submitted j | ranRejected j => exact tends_letGo s j _ i
    | ranInline | drained | taskEnded | pumped | looped | joined => simp [isAside] at haside
    | _ =>
      exact Session.tends_of_aside (Session.aside_resume t haside r)
        (Session.uninvolved_resume t rfl r)
  · cases fr with
    | ranInline j =>
      obtain ⟨inv, hj⟩ := hthere j (.inl (by simp [duties]))
      exact Session.ranInline_tends hj i
    | drained f wasEmpty => exact Session.afterDrain_tends t f wasEmpty i
    | taskEnded j sub =>
      have hne : j ≠ i := by simpa [isTurn] using hturn
      refine Session.tends_give (Session.tends_nil ?_) _
      exact Session.upkeep_endTask_ne rfl (by simp [Event.isReturnOn, hne]) s sub
    | pumped j goal =>
      have hne : j ≠ i := by simpa [isTurn] using hturn
      obtain ⟨inv, hj⟩ := hthere j (.inr (by simp [duties]))
      have hcounted := Session.afterPumped_tends hj goal i
      rwa [if_neg hne] at hcounted
    | looped j =>
      exact Session.tends_run (Session.tends_nil (Session.upkeep_modifyInterpreter ..))
        (fun _ => .nil) (by simp)
    | joined j =>
      exact Session.tends_of_aside (Session.aside_afterJoined s j)
        (Session.uninvolved_afterJoined j)
    | _ => exact absurd rfl haside

/-- A failure leaves the invokers of manual queues alone. -/
theorem unwind_tends (fr : Frame) (s : Session) (i : InvokerId) :
    (fr.unwind s).Tends i s { owes := fr.owes } := by
  cases fr with
  | performed owner a rest => cases owner <;> exact Session.tends_of_quiet rfl rfl rfl
  | taskEnded j sub =>
    exact Session.tends_of_quiet (Session.upkeep_endTask_ne rfl rfl s sub) rfl rfl
  | pumped j | submitted j | ranRejected j => exact tends_letGo s j _ i
  | looped j => exact Session.tends_of_quiet (Session.upkeep_modifyInterpreter ..) rfl rfl
  | _ => exact Session.tends_of_quiet rfl rfl rfl

end Frame

end AddonHost
