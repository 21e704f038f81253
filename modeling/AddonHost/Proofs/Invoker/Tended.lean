import AddonHost.Proofs.Invoker.Tending

/-!
Invokers in the course of a run.

In a run in which no invoker loses a task, with any threads interleaved, the following holds of each
invoker (`Session.Tended`).

* At least as many are said to keep it as do: names that it has, and threads that let go of it
  later.
* The stack of each thread is in order, if the invoker is pumped (`Thread.InOrder`).
* Nothing that it has queued was dropped while someone keeps it.
* It has counted each of its tasks that has returned, apart from those that a thread is about to
  count in its next step (`Thread.late`).

`Session.Moves.attends` is the step of one thread, `Session.Tended.apply` puts it into the session,
and `Session.Interleaves.tended` is the run.
-/

namespace AddonHost

open Upkeep

namespace Thread

variable {i : InvokerId} {th : Thread}

/-- Whether a thread has returned from a pumped task of an invoker, and is about to count it. -/
def late (i : InvokerId) (th : Thread) : ℕ :=
  match th.control, th.stack with
  | .give _, .pumped j _ :: _ => if j = i then 1 else 0
  | _, _ => 0

/-- How the stack of a thread may be while an invoker is pumped: each task stands right above the
pump, a pump without one is about to go on, and whoever waits for a task keeps the invoker. -/
inductive InOrder (i : InvokerId) (th : Thread) : Prop where
  | plain (hstack : Frame.Paired i th.stack)
    (hwaits : ∀ c, th.control = .run (.awaitTask i c) →
      ∃ fr rest, th.stack = fr :: rest ∧ fr.owes = [i])
  | between {goal : PumpGoal} {rest : List Frame} (hcontrol : ∀ c, th.control ≠ .run c)
    (hstack : th.stack = .pumped i goal :: rest) (hrest : Frame.Paired i rest)

variable {c : Code} {r : Reply} {fr : Frame} {sub : Submission} {goal : PumpGoal}
  {control : Control} {below : List Frame}

theorem late_of_ne (h : ∀ goal, fr ≠ .pumped i goal) :
    late i { control := .give r, stack := fr :: below } = 0 := by
  cases fr with
  | pumped j goal =>
    have hne : j ≠ i := by
      rintro rfl
      exact h goal rfl
    exact if_neg hne
  | _ => rfl

theorem late_of_paired (h : Frame.Paired i th.stack) : th.late i = 0 := by
  obtain ⟨control, stack⟩ := th
  cases control with
  | run c | fail => rfl
  | give r =>
    cases stack with
    | nil => rfl
    | cons fr below =>
      refine late_of_ne fun goal hfr => ?_
      subst hfr
      exact h.ne_pumped

theorem InOrder.run (h : InOrder i { control := .run c, stack := below }) :
    Frame.Paired i below := by
  cases h with
  | plain hstack => exact hstack
  | between hcontrol => exact absurd rfl (hcontrol c)

/-- What is below a frame that has nothing to do with pumping the invoker. -/
theorem InOrder.tail (h : InOrder i { control, stack := fr :: below }) (hfr : fr.isTurn i = false) :
    Frame.Paired i below := by
  cases h with
  | plain hstack => exact hstack.tail hfr
  | between _ hstack =>
    obtain ⟨rfl, -⟩ := List.cons.inj hstack
    simp [Frame.isTurn] at hfr

/-- The pump is right below its task. -/
theorem InOrder.taskEnded (h : InOrder i { control, stack := .taskEnded i sub :: below }) :
    ∃ goal rest, below = .pumped i goal :: rest ∧ Frame.Paired i rest := by
  cases h with
  | plain hstack =>
    cases hstack with
    | turn hrest => exact ⟨_, _, rfl, hrest⟩
    | other hfr => simp [Frame.isTurn] at hfr
  | between _ hstack => simp at hstack

theorem InOrder.pumped (h : InOrder i { control, stack := .pumped i goal :: below }) :
    Frame.Paired i below := by
  cases h with
  | plain hstack => exact hstack.ne_pumped.elim
  | between _ hstack hrest =>
    obtain ⟨-, rfl⟩ := List.cons.inj hstack
    exact hrest

theorem IsFresh.inOrder (h : th.IsFresh) (i : InvokerId) : th.InOrder i := by
  obtain ⟨c, hc, hduties, hstack⟩ := h
  refine .plain (Frame.paired_of_all fun fr hfr => ?_) fun n hn => ?_
  · have hspawned := List.all_eq_true.1 hstack fr hfr
    cases fr <;> simp_all [Frame.isTurn]
  · obtain rfl : c = .awaitTask i n := Control.run.inj (hc.symm.trans hn)
    simp [Code.duties] at hduties

theorem IsFresh.late_eq_zero (h : th.IsFresh) (i : InvokerId) : th.late i = 0 := by
  obtain ⟨c, hc, -⟩ := h
  simp [late, hc]

end Thread

/-- The count of tasks is of no interest for an invoker with a thread of its own. -/
theorem Upkeep.Tends.of_isThread {i : InvokerId} {u u' : Upkeep} {owes owes' : List InvokerId}
    {late late' : ℕ} (h : u.Tends i { owes, late } u' { owes := owes', late := late' })
    (ht : u'.IsThread) (n n' : ℕ) :
    u.Tends i { owes, late := n } u' { owes := owes', late := n' } :=
  ⟨h.threads, h.thread, h.gone, h.claims, h.discarded, fun hn => absurd ht hn⟩

namespace Session

variable {s s' : Session} {t : ThreadId} {th th' : Thread} {i : InvokerId} {m : Move}
  {below : List Frame} {own : Share}

/-! ### Steps -/

/-- How a thread goes on after a move, above the frames that were left. -/
def goesOn (m : Move) (below : List Frame) : Thread :=
  { control := m.control, stack := m.frames ++ below }

/-- What a thread does that has some share in an invoker, and how it goes on. -/
structure Attends (s : Session) (i : InvokerId) (own : Share) (m : Move) (below : List Frame) :
    Prop where
  tends : (s.upkeep i).Tends i own (m.session.upkeep i)
    { owes := m.owes, late := (goesOn m below).late i }
  order : ¬(m.session.upkeep i).IsThread → (goesOn m below).InOrder i

theorem attends_of_tends (h : m.Tends i s own)
    (hbelow : ¬(s.upkeep i).IsThread → Frame.Paired i below) : s.Attends i own m below := by
  by_cases ht : (m.session.upkeep i).IsThread
  · exact ⟨h.upkeep.of_isThread ht _ _, fun hn => absurd ht hn⟩
  · have hstack : Frame.Paired i (goesOn m below).stack :=
      (h.paired ht).append (hbelow (mt h.upkeep.thread ht))
    refine ⟨?_, fun _ => .plain hstack fun c hc => ?_⟩
    · rw [Thread.late_of_paired hstack]
      exact h.upkeep
    · obtain ⟨fr, rest, hframes, hfr⟩ := h.waits c hc
      exact ⟨fr, rest ++ below, by rw [goesOn, hframes, List.cons_append], hfr⟩

/-- A frame gets a reply. -/
theorem attends_resume {r : Reply} {fr : Frame}
    (hthere : ∀ j, .inline j ∈ fr.duties ∨ .pumping j ∈ fr.duties →
      ∃ inv, s.invokers.get? j = some inv)
    (horder : ¬(s.upkeep i).IsThread →
      Thread.InOrder i { control := .give r, stack := fr :: below }) :
    s.Attends i
      { owes := fr.owes, late := Thread.late i { control := .give r, stack := fr :: below } }
      (fr.resume t s r) below := by
  by_cases hturn : fr.isTurn i = false
  · have hlate : Thread.late i { control := .give r, stack := fr :: below } = 0 := by
      refine Thread.late_of_ne fun goal hfr => ?_
      simp [hfr, Frame.isTurn] at hturn
    rw [hlate]
    exact attends_of_tends (Frame.tends hturn hthere r) fun hn => (horder hn).tail hturn
  · cases fr with
    | taskEnded j sub =>
      obtain rfl : j = i := by simpa [Frame.isTurn] using hturn
      -- the task has returned, and its pump is about to count it
      have hended := endTask_ended_tends s j sub j
      rw [if_pos rfl] at hended
      by_cases ht : ((s.endTask (.ended j sub) sub).upkeep j).IsThread
      · exact ⟨hended.of_isThread ht _ _, fun hn => absurd ht hn⟩
      · obtain ⟨goal, rest, rfl, hrest⟩ := (horder (mt hended.thread ht)).taskEnded
        refine ⟨?_, fun _ => .between (fun c hc => by cases hc) rfl hrest⟩
        have hlate :
            Thread.late j { control := .give .unit, stack := .pumped j goal :: rest } = 1 :=
          if_pos rfl
        rw [← hlate] at hended
        exact hended
    | pumped j goal =>
      obtain rfl : j = i := by simpa [Frame.isTurn] using hturn
      obtain ⟨inv, hj⟩ := hthere j (.inr (by simp [Frame.duties]))
      exact attends_of_tends (afterPumped_tends hj goal j) fun hn => (horder hn).pumped
    | _ => simp [Frame.isTurn] at hturn

/-- A failure reaches a frame: the task is over, and is not counted. -/
theorem attends_unwind {fr : Frame}
    (horder : ¬(s.upkeep i).IsThread →
      Thread.InOrder i { control := .fail, stack := fr :: below }) :
    s.Attends i { owes := fr.owes } (fr.unwind s) below := by
  by_cases hturn : fr.isTurn i = false
  · exact attends_of_tends (fr.unwind_tends s i) fun hn => (horder hn).tail hturn
  · cases fr with
    | taskEnded j sub =>
      obtain rfl : j = i := by simpa [Frame.isTurn] using hturn
      -- the failure goes on to the pump, which is not going to count the task
      have htends := (Frame.unwind_tends (.taskEnded j sub) s j).upkeep
      refine ⟨htends, fun hn => ?_⟩
      obtain ⟨goal, rest, rfl, hrest⟩ := (horder (mt htends.thread hn)).taskEnded
      exact .between (fun c hc => by cases hc) rfl hrest
    | pumped j goal =>
      obtain rfl : j = i := by simpa [Frame.isTurn] using hturn
      exact attends_of_tends (Frame.unwind_tends (.pumped j goal) s j) fun hn => (horder hn).pumped
    | _ => simp [Frame.isTurn] at hturn

/-- What the step of a thread does to an invoker in which it has a share. -/
theorem Moves.attends (hm : s.Moves t th m below) (hs : s.Sane)
    (hclaims : ∀ j, (s.upkeep j).claims j ≤ (s.upkeep j).holders)
    (hthere : ∀ j, .inline j ∈ th.duties ∨ .pumping j ∈ th.duties →
      ∃ inv, s.invokers.get? j = some inv)
    (horder : ¬(s.upkeep i).IsThread → th.InOrder i) :
    ∃ owes, th.owes = owes ++ below.flatMap Frame.owes ∧
      s.Attends i { owes, late := th.late i } m below := by
  cases hm with
  | @run c m _ hstep =>
    exact ⟨c.owes, rfl, attends_of_tends (Code.tends hs hclaims hstep i) fun hn => (horder hn).run⟩
  | give r fr =>
    have hduties {d : Duty} (hd : d ∈ fr.duties) :
        d ∈ Thread.duties { control := .give r, stack := fr :: below } := by
      simp [Thread.duties, hd]
    exact ⟨fr.owes, rfl, attends_resume (fun j hj => hthere j (hj.imp hduties hduties)) horder⟩
  | unwind fr => exact ⟨fr.owes, rfl, attends_unwind horder⟩
  | refuse => exact ⟨[], rfl, attends_of_tends (tends_give (.refl _ _) _) fun _ => .nil⟩

/-! ### Runs -/

/-- What holds of an invoker in the course of a run. -/
structure Tended (s : Session) (i : InvokerId) : Prop where
  claims : (s.upkeep i).claims i ≤ (s.upkeep i).holders
  order : ¬(s.upkeep i).IsThread → ∀ p ∈ s.threads, p.2.InOrder i
  kept : ¬(s.upkeep i).IsThread → ¬(s.upkeep i).IsGone → (s.upkeep i).discarded = []
  counted : ¬(s.upkeep i).IsThread →
    (s.upkeep i).executed + (s.threads.map fun p => p.2.late i).sum = (s.upkeep i).returned

/-- A thread goes on in place of what it was, and new ones are behind the others. -/
theorem exists_threads_goesOn (hth : s.threads.get? t = some th) {new : Assoc ThreadId Thread}
    (hnew : m.session.threads = s.threads ++ new) (below : List Frame) :
    ∃ before after, s.threads = before ++ (t, th) :: after ∧
      (Session.apply m t below).threads = before ++ (t, goesOn m below) :: (after ++ new) := by
  obtain ⟨before, after, hs, hne⟩ := Assoc.exists_of_get? hth
  refine ⟨before, after, hs, ?_⟩
  show Assoc.insert m.session.threads t (goesOn m below) = _
  rw [hnew, hs, List.append_assoc, List.cons_append, Assoc.insert_append_cons hne]

/-- What threads add up to when one of them goes on. -/
theorem sum_goesOn (hth : s.threads.get? t = some th) {new : Assoc ThreadId Thread}
    (hnew : m.session.threads = s.threads ++ new) (below : List Frame) (g : Thread → ℕ) :
    ((Session.apply m t below).threads.map fun p => g p.2).sum + g th
      = (s.threads.map fun p => g p.2).sum + (new.map fun p => g p.2).sum + g (goesOn m below) := by
  obtain ⟨before, after, hs, happly⟩ := exists_threads_goesOn hth hnew below
  simp only [hs, happly, List.map_append, List.map_cons, List.sum_append, List.sum_cons]
  omega

theorem Tended.apply (h : s.Tended i) (hth : s.threads.get? t = some th) {owes : List InvokerId}
    (howes : th.owes = owes ++ below.flatMap Frame.owes)
    (ha : s.Attends i { owes, late := th.late i } m below) :
    (Session.apply m t below).Tended i := by
  obtain ⟨new, hnew, hfresh⟩ := ha.tends.threads
  have hback (hn : ¬((Session.apply m t below).upkeep i).IsThread) : ¬(s.upkeep i).IsThread :=
    mt ha.tends.thread hn
  refine ⟨?_, fun hn p hp => ?_, fun hn hg => ?_, fun hn => ?_⟩
  · -- what the frames below let go of cancels out, and the rest is what the move did
    have hsum := sum_goesOn hth hnew below fun th => th.owes.count i
    have hafter : (goesOn m below).owes = m.owes ++ below.flatMap Frame.owes := by
      simp [goesOn, Thread.owes, Move.owes]
    have hmoved : (m.session.upkeep i).claims i
        = m.session.names.invokers.countP (fun p => p.2 = i)
          + ((s.threads.map fun p => p.2.owes.count i).sum
            + (new.map fun p => p.2.owes.count i).sum) := by
      rw [Upkeep.claims, hnew, List.map_append, List.sum_append]
      rfl
    have hwas : (s.upkeep i).claims i = s.names.invokers.countP (fun p => p.2 = i)
        + (s.threads.map fun p => p.2.owes.count i).sum := rfl
    have hbefore := h.claims
    have hclaims : (m.session.upkeep i).claims i + m.owes.count i + (s.upkeep i).holders
        ≤ (s.upkeep i).claims i + owes.count i + (m.session.upkeep i).holders := ha.tends.claims
    show m.session.names.invokers.countP (fun p => p.2 = i)
        + ((Session.apply m t below).threads.map fun p => p.2.owes.count i).sum
      ≤ (m.session.upkeep i).holders
    simp only [howes, hafter, List.count_append] at hsum
    omega
  · obtain ⟨before, after, hs, happly⟩ := exists_threads_goesOn hth hnew below
    rw [happly] at hp
    have hwas := h.order (hback hn)
    rw [hs] at hwas
    rcases List.mem_append.1 hp with hp | hp
    · exact hwas p (List.mem_append_left _ hp)
    · rcases List.mem_cons.1 hp with rfl | hp
      · exact ha.order hn
      · rcases List.mem_append.1 hp with hp | hp
        · exact hwas p (List.mem_append_right _ (List.mem_cons_of_mem _ hp))
        · exact (hfresh p hp).inOrder i
  · exact (ha.tends.discarded hn hg).trans (h.kept (hback hn) (mt ha.tends.gone hg))
  · have hsum := sum_goesOn hth hnew below fun th => th.late i
    have hnone : (new.map fun p => p.2.late i).sum = 0 := by
      refine List.sum_eq_zero fun n hmem => ?_
      obtain ⟨p, hp, rfl⟩ := List.mem_map.1 hmem
      exact (hfresh p hp).late_eq_zero i
    have hbefore := h.counted (hback hn)
    have hcounted : (m.session.upkeep i).executed + (goesOn m below).late i + (s.upkeep i).returned
        = (s.upkeep i).executed + th.late i + (m.session.upkeep i).returned := ha.tends.counted hn
    show (m.session.upkeep i).executed + ((Session.apply m t below).threads.map _).sum
      = (m.session.upkeep i).returned
    omega

/-- The frames of a thread pump and run tasks only of invokers that are there. -/
theorem Served.exists_get? {unfailing : Prop} (h : Served unfailing s)
    (hth : s.threads.get? t = some th) {j : InvokerId}
    (hj : .inline j ∈ th.duties ∨ .pumping j ∈ th.duties) :
    ∃ inv, s.invokers.get? j = some inv := by
  cases hnone : s.invokers.get? j with
  | some inv => exact ⟨inv, rfl⟩
  | none =>
    have hunheard := h.run.unheard (i := j) (by rw [cores_service, hnone, Option.map_none])
    rw [← duties_eq hth] at hj
    rcases hj with hj | hj
    · have hhome := hunheard.home t
      simp only [List.filter_eq_nil_iff] at hhome
      exact absurd (hhome _ hj) (by simp [Duty.isHome])
    · exact absurd hj (hunheard.unpumped t)

theorem Tended.step {unfailing : Prop} (hs : Served unfailing s) (h : ∀ i, s.Tended i)
    (hstep : s.step t = some s') (i : InvokerId) : s'.Tended i := by
  obtain ⟨th, _, _, _, _, htaken⟩ := hs.sound.exists_taken hstep
  have hth := htaken.thread
  obtain ⟨m, below, hm, rfl⟩ := exists_moves hstep hth
  obtain ⟨owes, howes, hattends⟩ := hm.attends hs.sound.sane (fun j => (h j).claims)
    (fun j => hs.exists_get? hth) fun hn => (h i).order hn (t, th) (Assoc.mem_of_get? hth)
  exact (h i).apply hth howes hattends

/-- The idle main thread begins an action. -/
theorem Tended.act (h : s.Tended i) (hidle : s.MainIdle) (a : Action) :
    (s.beginAction a).Tended i := by
  obtain ⟨r, hmain⟩ := hidle
  have hattends : s.Attends i { owes := [], late := 0 } (s.run (.perform a)) [] :=
    attends_of_tends (tends_run (.refl _ _) (fun _ => .nil) (by simp)) fun _ => .nil
  exact h.apply hmain rfl hattends

theorem tended_start (vars : Log.Variables) (level : Option Log.Level) (i : InvokerId) :
    (start vars level).Tended i := by
  have hupkeep : (start vars level).upkeep i
      = { names := [], threads := [(.main, { control := .give .unit })], held := none,
          discarded := [], returned := 0 } := by
    cases level <;> rfl
  have hthreads : (start vars level).threads = [(.main, { control := .give .unit })] := by
    cases level <;> rfl
  refine ⟨?_, fun _ p hp => ?_, fun _ _ => ?_, fun _ => ?_⟩
  · simp [hupkeep, Upkeep.claims, Thread.owes]
  · rw [hthreads, List.mem_singleton] at hp
    subst hp
    exact .plain .nil (by simp)
  · rw [hupkeep]
  · rw [hupkeep, hthreads]
    rfl

theorem Interleaves.tended {unfailing : Prop} {vars : Log.Variables} {level : Option Log.Level}
    (h : Interleaves unfailing (start vars level) s) (i : InvokerId) : s.Tended i := by
  induction h generalizing i with
  | refl => exact tended_start vars level i
  | act a _ hidle ih => exact (ih i).act hidle a
  | step t hrun hunfailing hstep ih => exact Tended.step hrun.served ih hstep i

end Session

end AddonHost
