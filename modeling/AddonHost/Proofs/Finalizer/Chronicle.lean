import AddonHost.Proofs.Finalizer.Treatment
import AddonHost.Proofs.Function.Creation
import AddonHost.Proofs.Lifecycle

/-!
The chronicle of finalizers.

A run may be told by what it does with finalizers: a multiplexer gives one to a host in the place of
another one, and finalizers are called, by hosts and by the finalizers of multiplexers
(`Chronicle`).  Every run has a chronicle (`Reachable.exists_chronicle`).  What `Chronicle.kept`
says of it is kept by every step:

* a multiplexer's finalizer that someone holds was given to a host by a multiplexer, which has
  reserved a handle for it alone;
* the finalizers inside multiplexers' are called, or are about to be, as those around them were;
* the addon is called when its finalizers are;
* no failure gets past the frame that waits for the end of a multiplexer's finalizer.
-/

namespace AddonHost

/-- Whether two finalizers are the same. -/
def Finalizer.decEq : (fin fin' : Finalizer) → Decidable (fin = fin')
  | .extension data, .extension data' => decidable_of_iff (data = data') (by simp)
  | .wrapped id none, .wrapped id' none => decidable_of_iff (id = id') (by simp)
  | .wrapped id (some inner), .wrapped id' (some inner') =>
    have := inner.decEq inner'
    decidable_of_iff (id = id' ∧ inner = inner') (by simp)
  | .extension _, .wrapped _ _ | .wrapped _ _, .extension _ | .wrapped _ none, .wrapped _ (some _)
  | .wrapped _ (some _), .wrapped _ none => isFalse (by simp)

instance : DecidableEq Finalizer := Finalizer.decEq

deriving instance DecidableEq for FinalizerCall

/-- What is done with finalizers. -/
inductive FinalizerMark where
  /-- A multiplexer has reserved a handle, was given a finalizer with the creation of a function,
  and gives another one to the host. -/
  | forwarded (id : HandleId) (given substituted : Option Finalizer)
  /-- A finalizer is called, by the finalizer of a wrapped handle or by a host. -/
  | called (caller : Option HandleId) (call : FinalizerCall)
  deriving DecidableEq

namespace FinalizerMark

/-- The handle that a multiplexer has reserved. -/
def handle? : FinalizerMark → Option HandleId
  | forwarded id _ _ => some id
  | called _ _ => none

/-- The call of a finalizer. -/
def call? : FinalizerMark → Option FinalizerCall
  | forwarded .. => none
  | called _ call => some call

/-- The call of a finalizer by the finalizer of a wrapped handle. -/
def callBy? (id : HandleId) : FinalizerMark → Option FinalizerCall
  | called (some id') call => if id' = id then some call else none
  | _ => none

end FinalizerMark

/-- What a step of a thread does with finalizers. -/
def Thread.finalizerMarks (th th' : Thread) : List FinalizerMark :=
  (th.finalizerCall?.map fun c => FinalizerMark.called c.1 c.2).toList ++
    ((th.forwarded? th').map fun f => FinalizerMark.forwarded f.1 f.2.1 f.2.2).toList

/-- What a function is created with was held by the thread that creates it. -/
theorem Thread.Holds.of_creates {P : Finalizer → Prop} {th : Thread} (h : th.Holds P)
    {spec : FunctionSpec} (hspec : th.creates? = some spec) {fin : Finalizer}
    (hfin : spec.finalizer = some fin) : P fin := by
  obtain ⟨control, stack⟩ := th
  unfold creates? at hspec
  split at hspec
  · next hc =>
    obtain rfl := Option.some.inj hspec
    obtain rfl := hc
    exact h.control fin hfin
  · next hst =>
    obtain rfl := Option.some.inj hspec
    obtain rfl := hst
    exact h.stack _ List.mem_cons_self fin hfin
  · cases hspec

theorem Thread.finalizer?_of_finalizerCall? {th : Thread} {caller : Option HandleId}
    {call : FinalizerCall} (h : th.finalizerCall? = some (caller, call)) :
    th.control.finalizer? = some call.finalizer := by
  obtain ⟨control, stack⟩ := th
  unfold finalizerCall? at h
  split at h
  case h_3 => cases h
  all_goals
    next hc _ =>
      obtain ⟨-, rfl⟩ := Prod.mk.inj (Option.some.inj h)
      obtain rfl := hc
      rfl

namespace Life

variable {f : HandleId} {l l' : Life} {fn fn' : ThreadsafeFunction} {own own' : List Activity}
  {es : List Event}

theorem Cause.finalizer (h : Cause f fn own fn' es) : fn'.finalizer = fn.finalizer := by
  cases h <;> rfl

/-- A function keeps the finalizer that it was created with. -/
theorem Step.finalizer (h : Step f l own l' own') (hl : l.function = some fn) :
    ∃ fn', l'.function = some fn' ∧ fn'.finalizer = fn.finalizer := by
  cases h with
  | absent own hnone => simp [hnone] at hl
  | create env reference spec delivery invoker hnone => simp [hnone] at hl
  | acquire hl' | appendLost data hl' | appendQueued data i hl' | appendInline data i hl'
  | sleep t hl' | dropHolder hl' | mark on hl' | finalized atOnce hl' =>
    obtain rfl := Option.some.inj (hl'.symm.trans hl)
    exact ⟨_, rfl, rfl⟩
  | closeAgain hl' hc | closeQueued i hl' hc | closeAtOnce hl' hc =>
    obtain rfl := Option.some.inj (hl'.symm.trans hl)
    exact ⟨_, rfl, hc.finalizer⟩
  | drain i hl' =>
    obtain rfl := Option.some.inj (hl'.symm.trans hl)
    exact ⟨_, rfl, by rw [pop_snd]⟩
  | _ => exact ⟨fn, hl, rfl⟩

end Life

section

variable {th th' : Thread}

theorem mem_finalizerMarks_called {caller : Option HandleId} {call : FinalizerCall} :
    .called caller call ∈ th.finalizerMarks th' ↔ th.finalizerCall? = some (caller, call) := by
  simp [Thread.finalizerMarks]

theorem mem_finalizerMarks_forwarded {id : HandleId} {given substituted : Option Finalizer} :
    .forwarded id given substituted ∈ th.finalizerMarks th'
      ↔ th.forwarded? th' = some (id, given, substituted) := by
  simp [Thread.finalizerMarks]

theorem handles_finalizerMarks (th th' : Thread) :
    (th.finalizerMarks th').filterMap FinalizerMark.handle?
      = ((th.forwarded? th').map Prod.fst).toList := by
  unfold Thread.finalizerMarks
  cases th.finalizerCall? <;> cases th.forwarded? th' <;> rfl

theorem calls_finalizerMarks {α : Type} (g : FinalizerCall → Option α) (th th' : Thread) :
    ((th.finalizerMarks th').filterMap fun mark => mark.call?.bind g)
      = (th.finalizerCall?.bind fun c => g c.2).toList := by
  unfold Thread.finalizerMarks
  cases th.finalizerCall? with
  | none => cases th.forwarded? th' <;> rfl
  | some c =>
    cases th.forwarded? th' <;> cases h : g c.2 <;> simp [FinalizerMark.call?, h]

theorem callBy?_finalizerMarks (id : HandleId) (th th' : Thread) :
    (th.finalizerMarks th').filterMap (FinalizerMark.callBy? id) = (th.innerCall? id).toList := by
  unfold Thread.finalizerMarks Thread.innerCall?
  cases th.finalizerCall? with
  | none => cases th.forwarded? th' <;> rfl
  | some c =>
    obtain ⟨_ | id', call⟩ := c
    · cases th.forwarded? th' <;> rfl
    · by_cases hid : id' = id <;> cases th.forwarded? th' <;> simp [FinalizerMark.callBy?, hid]

end

namespace Session

/-- What a step of a thread from one session to another does with finalizers. -/
def finalizerMarks (s s' : Session) (t : ThreadId) : List FinalizerMark :=
  match s.threads.get? t, s'.threads.get? t with
  | some th, some th' => th.finalizerMarks th'
  | _, _ => []

/-- A run that arrives at a session, told by what it has done with finalizers. -/
inductive Chronicle : Session → List FinalizerMark → Prop where
  | start (vars : Log.Variables) (level : Option Log.Level) :
    Chronicle (Session.start vars level) []
  | act {s : Session} {ms : List FinalizerMark} (a : Action) :
    Chronicle s ms → s.MainIdle → Chronicle (s.beginAction a) ms
  | step {s s' : Session} {ms : List FinalizerMark} (t : ThreadId) :
    Chronicle s ms → s.OthersAtRest t → s.step t = some s' →
      Chronicle s' (ms ++ s.finalizerMarks s' t)
  | lose {s : Session} {ms : List FinalizerMark} (i : InvokerId) (position : Nat) :
    Chronicle s ms → Chronicle (s.loseTask i position) ms

variable {s s' : Session} {ms ms' : List FinalizerMark} {t : ThreadId} {th : Thread}

theorem Chronicle.reachable (h : Chronicle s ms) : s.Reachable := by
  induction h with
  | start vars level => exact .start vars level
  | act a _ hidle ih => exact ih.act a hidle
  | step t _ hrest hstep ih => exact ih.step t hrest hstep
  | lose i position _ ih => exact ih.lose i position

/-- Every run has a chronicle. -/
theorem Reachable.exists_chronicle (h : s.Reachable) : ∃ ms, Chronicle s ms := by
  induction h with
  | start vars level => exact ⟨[], .start vars level⟩
  | act a _ hidle ih =>
    obtain ⟨ms, hms⟩ := ih
    exact ⟨ms, hms.act a hidle⟩
  | step t _ hrest hstep ih =>
    obtain ⟨ms, hms⟩ := ih
    exact ⟨_, hms.step t hrest hstep⟩
  | lose i position _ ih =>
    obtain ⟨ms, hms⟩ := ih
    exact ⟨ms, hms.lose i position⟩

/-- A chronicle goes on as the run does. -/
theorem Chronicle.onward (h : Chronicle s ms) (ho : s.Onward s') :
    ∃ later, Chronicle s' (ms ++ later) := by
  induction ho with
  | refl => exact ⟨[], by simpa using h⟩
  | act a _ hidle ih =>
    obtain ⟨later, hlater⟩ := ih
    exact ⟨later, hlater.act a hidle⟩
  | step t _ hrest hstep ih =>
    obtain ⟨later, hlater⟩ := ih
    exact ⟨_, List.append_assoc .. ▸ hlater.step t hrest hstep⟩
  | lose i position _ ih =>
    obtain ⟨later, hlater⟩ := ih
    exact ⟨later, hlater.lose i position⟩

/-! ### What is kept -/

/-- A finalizer is the addon's, or a multiplexer has given it to a host. -/
def Vouched (ms : List FinalizerMark) (fin : Finalizer) : Prop :=
  ∀ id inner, fin = .wrapped id inner → .forwarded id inner (some fin) ∈ ms

/-- Where finalizers are, they are vouched for. -/
structure Traced (s : Session) (ms : List FinalizerMark) : Prop where
  functions : ∀ f fn, s.functions.object? f = some fn → ∀ fin, fn.finalizer = some fin →
    Vouched ms fin
  engines : s.engines.Hold (Vouched ms)
  threads : ∀ p ∈ s.threads, p.2.Holds (Vouched ms)
  called : ∀ caller call, .called caller call ∈ ms → Vouched ms call.finalizer
  forwarded : ∀ id given substituted, .forwarded id given substituted ∈ ms →
    id.number < s.ids.next ∧ substituted = some (.wrapped id given) ∧
      ∀ fin, given = some fin → Vouched ms fin
  handles : (ms.filterMap FinalizerMark.handle?).Nodup

/-- The calls that threads are about to make in the finalizer of a wrapped handle. -/
def innerCalls (s : Session) (id : HandleId) : List FinalizerCall :=
  s.threads.filterMap fun p => p.2.innerCall? id

/-- What is kept of a chronicle. -/
structure Kept (s : Session) (ms : List FinalizerMark) : Prop where
  traced : Traced s ms
  shielded : ∀ p ∈ s.threads, p.2.isShielded = true
  finalized : s.finalized = ms.filterMap fun mark => mark.call?.bind FinalizerCall.event?
  inner : ∀ id, (↑(ms.filterMap (FinalizerMark.callBy? id)) + ↑(s.innerCalls id) :
      Multiset FinalizerCall)
    = ↑(ms.filterMap fun mark => mark.call?.bind (FinalizerCall.inner? id))

theorem Vouched.mono {fin : Finalizer} (h : Vouched ms fin) (hms : ms ⊆ ms') : Vouched ms' fin :=
  fun id inner heq => hms (h id inner heq)

theorem vouched_extension (ms : List FinalizerMark) (data : Word) :
    Vouched ms (.extension data) := nofun

/-- What is inside a multiplexer's finalizer is vouched for as well. -/
theorem Traced.vouched_inner (h : Traced s ms) {id : HandleId} {inner : Finalizer}
    (hfin : Vouched ms (.wrapped id (some inner))) : Vouched ms inner :=
  (h.forwarded _ _ _ (hfin _ _ rfl)).2.2 _ rfl

/-! ### Beginning, acting and losing -/

theorem threads_start (vars : Log.Variables) (level : Option Log.Level) :
    (start vars level).threads = [(.main, { control := .give .unit })] := by
  cases level <;> rfl

theorem kept_start (vars : Log.Variables) (level : Option Log.Level) :
    Kept (start vars level) [] := by
  have hfunctions : (start vars level).functions = {} := by cases level <;> rfl
  have hengines : (start vars level).engines = {} := by cases level <;> rfl
  have hfinalized : (start vars level).finalized = [] := by cases level <;> rfl
  refine ⟨⟨?_, ?_, ?_, by simp, by simp, List.nodup_nil⟩, ?_, hfinalized, fun id => ?_⟩
  · rw [hfunctions]
    intro f fn hfn
    cases hfn
  · rw [hengines]
    intro w fn hfn
    cases hfn
  · rw [threads_start, List.forall_mem_singleton]
    exact ⟨by simp, by simp⟩
  · rw [threads_start, List.forall_mem_singleton]
    rfl
  · rw [innerCalls, threads_start]
    rfl

/-- Beginning an action has nothing to do with finalizers. -/
theorem Kept.act (h : Kept s ms) (hidle : s.MainIdle) (a : Action) : Kept (s.beginAction a) ms := by
  obtain ⟨before, after, r, hbefore, hafter⟩ := hidle.exists_threads a
  have hmem : ∀ p ∈ (s.beginAction a).threads, p ∈ s.threads ∨
      p = (.main, { control := .run (.perform a) }) := by
    intro p hp
    rw [hafter] at hp
    rw [hbefore]
    grind
  have hcalls (id : HandleId) : (s.beginAction a).innerCalls id = s.innerCalls id := by
    simp [innerCalls, hbefore, hafter, Thread.innerCall?, Thread.finalizerCall?]
  refine ⟨⟨h.traced.functions, h.traced.engines, fun p hp => ?_, h.traced.called,
    h.traced.forwarded, h.traced.handles⟩, fun p hp => ?_, h.finalized, fun id => ?_⟩
  · rcases hmem p hp with hp | rfl
    · exact h.traced.threads p hp
    · exact ⟨by simp, by simp⟩
  · rcases hmem p hp with hp | rfl
    · exact h.shielded p hp
    · rfl
  · rw [hcalls]
    exact h.inner id

/-- Losing a task has nothing to do with finalizers. -/
theorem Kept.lose (h : Kept s ms) (i : InvokerId) (position : Nat) :
    Kept (s.loseTask i position) ms := by
  have hspares : Spares s (s.loseTask i position) := by
    unfold loseTask
    split
    · rfl
    · split <;> simp
  have hthreads := (follows_loseTask (s := s) i position).threads
  have hids := (follows_loseTask (s := s) i position).ids
  have hfunctions : (s.loseTask i position).functions = s.functions := by
    unfold loseTask signal
    split
    · rfl
    · split
      · rfl
      · split <;> rfl
  refine ⟨⟨?_, ?_, ?_, h.traced.called, fun id given substituted hms => ?_, h.traced.handles⟩, ?_,
    hspares.finalized.trans h.finalized, fun id => ?_⟩
  · rw [hfunctions]
    exact h.traced.functions
  · rw [Engines.Hold, hspares.engines]
    exact h.traced.engines
  · rw [hthreads]
    exact h.traced.threads
  · have hforwarded := h.traced.forwarded id given substituted hms
    exact ⟨hforwarded.1.trans_le hids, hforwarded.2⟩
  · rw [hthreads]
    exact h.shielded
  · rw [innerCalls, hthreads]
    exact h.inner id

/-! ### Taking a step -/

/-- The move that a step was, with the threads before and after it. -/
theorem Traced.exists_treats (h : Traced s ms) (hs : s.Reachable) (hstep : s.step t = some s') :
    ∃ th m below before after new, s.Moves t th m below ∧ Move.Treats (Vouched ms) s th m below ∧
      s' = apply m t below ∧ s.finalizerMarks s' t = th.finalizerMarks (m.after below) ∧
      s.threads = before ++ (t, th) :: after ∧
      s'.threads = before ++ (t, m.after below) :: (after ++ new) ∧
      ∀ p ∈ new, p.2.isBare = true := by
  obtain ⟨th, below', m', _, _, ht⟩ := hs.sound.exists_taken hstep
  obtain ⟨before, after, new, hbefore, -, hafter, -⟩ := ht.exists_threads
  have hkeys := ht.sane.keys
  obtain ⟨m, below, hm, rfl⟩ := exists_moves hstep ht.thread
  have hget : (apply m t below).threads.get? t = some (m.after below) := threads_apply m t below
  have hmem : (t, { control := m'.control, stack := m'.frames ++ below' })
      ∈ (apply m t below).threads := by
    simp [hafter]
  rw [← Option.some.inj (hget.symm.trans (Assoc.get?_of_mem hkeys hmem))] at hafter
  have hth := h.threads (t, th) (by simp [hbefore])
  have htreats := hm.treats hth (vouched_extension ms) h.functions
  -- keys differ, so a thread that is new was not there before
  have hdisjoint : ∀ p ∈ new, ∀ q ∈ s.threads, p.1 ≠ q.1 := by
    rw [hafter, ← List.cons_append, ← List.append_assoc, List.map_append,
      List.nodup_append] at hkeys
    intro p hp q hq heq
    refine hkeys.2.2 q.1 ?_ p.1 (List.mem_map_of_mem hp) heq.symm
    have hq' : q.1 ∈ s.threads.map Prod.fst := List.mem_map_of_mem hq
    simpa [hbefore] using hq'
  refine ⟨th, m, below, before, after, new, hm, htreats, rfl, ?_, hbefore, hafter, fun p hp => ?_⟩
  · rw [finalizerMarks, ht.thread, hget]
  · have hp' : p ∈ (apply m t below).threads := by simp [hafter, hp]
    rcases Assoc.mem_of_mem_insert hp' with rfl | hp'
    · exact absurd rfl (hdisjoint _ hp (t, th) (by simp [hbefore]))
    · exact (htreats.threads p hp').resolve_left fun hold => hdisjoint p hp p hold rfl

/-- Functions have finalizers that are vouched for: those that a thread has asked for were. -/
theorem Traced.functions_step (h : Traced s ms) (hs : s.Reachable) (hstep : s.step t = some s')
    (f : HandleId) (fn : ThreadsafeFunction) (hfn : s'.functions.object? f = some fn)
    (fin : Finalizer) (hfin : fn.finalizer = some fin) : Vouched ms fin := by
  cases hf : s.functions.object? f with
  | none =>
    obtain ⟨th, env, reference, spec, delivery, invoker, hth, hspec, rfl⟩ :=
      hs.exists_create hstep hf hfn
    exact (h.threads _ (Assoc.mem_of_get? hth)).of_creates hspec hfin
  | some fn₀ =>
    obtain ⟨own, own', hlife⟩ := hs.lifeStep hstep f
    obtain ⟨fn', hfn', heq⟩ := hlife.finalizer hf
    obtain rfl : fn' = fn := Option.some.inj (hfn'.symm.trans hfn)
    exact h.functions f fn₀ hf fin (heq.symm.trans hfin)

theorem Traced.step (h : Traced s ms) (hs : s.Reachable) (hstep : s.step t = some s') :
    Traced s' (ms ++ s.finalizerMarks s' t) := by
  have hids : s.ids.next ≤ s'.ids.next := (hs.multiplexersStep hstep).nextId_le
  have hfunctions := h.functions_step hs hstep
  obtain ⟨th, m, below, before, after, new, hm, htreats, rfl, hmarks, hbefore, hafter, hnew⟩ :=
    h.exists_treats hs hstep
  have hth := h.threads (t, th) (by simp [hbefore])
  have hmono : ∀ fin, Vouched ms fin → Vouched (ms ++ s.finalizerMarks (apply m t below) t) fin :=
    fun fin hfin => hfin.mono (List.subset_append_left ..)
  rw [hmarks] at hmono ⊢
  obtain ⟨hholds, hengines⟩ := htreats.holds hth hm.mem_stack h.engines
    (fun _ _ => h.vouched_inner) hmono fun id given fin hforward => by
      obtain ⟨-, heq, -⟩ := htreats.forwarded hforward
      obtain rfl := Option.some.inj heq
      intro id' inner heq
      obtain ⟨rfl, rfl⟩ := Finalizer.wrapped.inj heq
      exact List.mem_append_right ms (mem_finalizerMarks_forwarded.2 hforward)
  refine ⟨fun f fn hfn fin hfin => hmono fin (hfunctions f fn hfn fin hfin), hengines,
    fun p hp => ?_, fun caller call hmem => ?_, fun id given substituted hmem => ?_, ?_⟩
  · rcases mem_threads_apply htreats hp with rfl | hp | hbare
    · exact hholds
    · exact (h.threads p hp).mono hmono
    · exact .of_isBare hbare
  · rcases List.mem_append.1 hmem with hmem | hmem
    · exact hmono _ (h.called caller call hmem)
    · have hcall := Thread.finalizer?_of_finalizerCall? (mem_finalizerMarks_called.1 hmem)
      exact hmono _ (hth.control _ hcall)
  · rcases List.mem_append.1 hmem with hmem | hmem
    · obtain ⟨hlt, heq, hgiven⟩ := h.forwarded _ _ _ hmem
      exact ⟨hlt.trans_le hids, heq, fun fin hfin => hmono fin (hgiven fin hfin)⟩
    · obtain ⟨rfl, heq, hnext, hgiven⟩ := htreats.forwarded (mem_finalizerMarks_forwarded.1 hmem)
      have hlt : s.ids.next < (apply m t below).ids.next := by
        rw [show (apply m t below).ids.next = _ from hnext]
        exact Nat.lt_succ_self _
      exact ⟨hlt, heq, fun fin hfin => hmono fin (hth.control fin (hgiven.trans hfin))⟩
  · rw [List.filterMap_append, List.nodup_append, handles_finalizerMarks]
    refine ⟨h.handles, by cases th.forwarded? (m.after below) <;> simp, fun id hold id' hnew => ?_⟩
    obtain ⟨mark, hmem, hid⟩ := List.mem_filterMap.1 hold
    rw [Option.mem_toList, Option.map_eq_some_iff] at hnew
    obtain ⟨⟨_, given', substituted'⟩, hforward, rfl⟩ := hnew
    -- the handle is the next one, and those that were reserved before are not
    obtain ⟨rfl, -⟩ := htreats.forwarded hforward
    cases mark with
    | called => cases hid
    | forwarded id given substituted =>
      cases hid
      rintro rfl
      exact lt_irrefl _ (h.forwarded _ _ _ hmem).1

/-- A step of a thread keeps what is kept of a chronicle. -/
theorem Kept.step (h : Kept s ms) (hs : s.Reachable) (hstep : s.step t = some s') :
    Kept s' (ms ++ s.finalizerMarks s' t) := by
  refine ⟨h.traced.step hs hstep, ?_, ?_, ?_⟩
  all_goals
    obtain ⟨th, m, below, before, after, new, hm, htreats, rfl, hmarks, hbefore, hafter, hnew⟩ :=
      h.traced.exists_treats hs hstep
  · intro p hp
    rcases mem_threads_apply htreats hp with rfl | hp | hbare
    · exact hm.isShielded htreats (h.shielded (t, th) (by simp [hbefore]))
    · exact h.shielded p hp
    · exact Thread.isShielded_of_isBare hbare
  · rw [List.filterMap_append, ← h.finalized, hmarks, calls_finalizerMarks]
    exact htreats.finalized_eq
  · intro id
    have hnone : new.filterMap (fun p => p.2.innerCall? id) = [] :=
      List.filterMap_eq_nil_iff.2 fun p hp => Thread.innerCall?_of_isBare (hnew p hp) id
    have hcons (th : Thread) (l : List (ThreadId × Thread)) :
        ((t, th) :: l).filterMap (fun p => p.2.innerCall? id)
          = (th.innerCall? id).toList ++ l.filterMap fun p => p.2.innerCall? id := by
      rw [List.filterMap_cons]
      cases th.innerCall? id <;> rfl
    have hinner := h.inner id
    rw [innerCalls, hbefore] at hinner
    rw [List.filterMap_append, List.filterMap_append, hmarks, calls_finalizerMarks,
      callBy?_finalizerMarks, ← htreats.innerCall? id, innerCalls, hafter]
    simp only [List.filterMap_append, hcons, hnone, List.append_nil, ← Multiset.coe_add] at hinner ⊢
    -- the call that the thread was about to make is made, and the one inside it is about to be
    rw [← hinner]
    abel

/-- What is kept of a chronicle. -/
theorem Chronicle.kept (h : Chronicle s ms) : Kept s ms := by
  induction h with
  | start vars level => exact kept_start vars level
  | act a _ hidle ih => exact ih.act hidle a
  | step t hc _ hstep ih => exact ih.step hc.reachable hstep
  | lose i position _ ih => exact ih.lose i position

end Session

end AddonHost
