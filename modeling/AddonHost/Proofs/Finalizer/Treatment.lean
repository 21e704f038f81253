import AddonHost.Proofs.Finalizer.Moves
import AddonHost.Proofs.Session.Onward

/-!
How moves treat finalizers.

Four things can happen to finalizers in a move (`Move.Treats`).  Most moves only pass them on.  A
thread calls one; then it performs the addon's actions, or it goes on to the finalizer inside a
multiplexer's, whose end it waits for in a frame.  An engine answers, and may call the finalizer of
a function, or remember it.  And a multiplexer forwards the creation of a function, with a finalizer
of its own in the place of the one that it was given.
-/

namespace AddonHost

/-! ### Threads and their finalizers -/

/-- The finalizer that a thread is about to call, with its arguments; before it the wrapped handle
whose finalizer makes the call, if one does. -/
def Thread.finalizerCall? (th : Thread) : Option (Option HandleId × FinalizerCall) :=
  match th.control, th.stack with
  | .run (.finalizer _ fin env hint), .unwrapped id :: _ => some (some id, ⟨fin, env, hint⟩)
  | .run (.finalizer _ fin env hint), _ => some (none, ⟨fin, env, hint⟩)
  | _, _ => none

/-- The call that the finalizer of a wrapped handle makes when it is called itself. -/
def FinalizerCall.inner? (id : HandleId) : FinalizerCall → Option FinalizerCall
  | ⟨.wrapped id' (some inner), env, hint⟩ => if id' = id then some ⟨inner, env, hint⟩ else none
  | _ => none

/-- The arguments of the call of the addon's finalizer, if that is called. -/
def FinalizerCall.event? : FinalizerCall → Option (Word × Word × Word)
  | ⟨.extension data, env, hint⟩ => some (env, data, hint)
  | _ => none

/-- The call that a thread is about to make in the finalizer of a wrapped handle. -/
def Thread.innerCall? (id : HandleId) (th : Thread) : Option FinalizerCall :=
  match th.finalizerCall? with
  | some (some id', call) => if id' = id then some call else none
  | _ => none

/-- The handle that a multiplexer has reserved, the finalizer that it was given with the creation of
a function, and the one that it has given to the host, if that is what a thread has just done. -/
def Thread.forwarded? (th th' : Thread) : Option (HandleId × Option Finalizer × Option Finalizer) :=
  match th.control, th'.control, th'.stack with
  | .run (.entry .multiplexer (.createThreadsafeFunction _ spec _)),
    .run (.entry _ (.createThreadsafeFunction _ spec' _)), .forwardedCreate _ id :: _ =>
    some (id, spec.finalizer, spec'.finalizer)
  | _, _, _ => none

/-- Whether no failure can come out of what a thread does next, other than out of what it calls. -/
def Control.isSafe : Control → Bool
  | .give _ | .run (.finalizer ..) | .run (.script .callback _) => true
  | _ => false

/-- Whether a frame lets no failure through. -/
def Frame.shields : Frame → Bool
  | .performed .callback _ _ | .unwrapped _ => true
  | _ => false

/-- Whether no failure gets to a frame that waits for the finalizer inside a multiplexer's. -/
def shielded : Bool → List Frame → Bool
  | _, [] => true
  | safe, fr :: below => (!fr.isUnwrapped || safe) && shielded fr.shields below

/-- Whether the end of a multiplexer's finalizer cannot be skipped by a failure. -/
def Thread.isShielded (th : Thread) : Bool := shielded th.control.isSafe th.stack

/-- A thread holds no finalizer but those that satisfy a predicate. -/
structure Thread.Holds (P : Finalizer → Prop) (th : Thread) : Prop where
  control : ∀ fin, th.control.finalizer? = some fin → P fin
  stack : ∀ fr ∈ th.stack, ∀ fin, fr.finalizer? = some fin → P fin

/-- The finalizers that engines remember satisfy a predicate. -/
def Engines.Hold (P : Finalizer → Prop) (e : Engines) : Prop :=
  ∀ w fn, e.functions.get? w = some fn → ∀ fin, fn.finalizer = some fin → P fin

variable {P : Finalizer → Prop} {s : Session} {t : ThreadId} {th : Thread} {m : Move}
  {below : List Frame}

theorem Thread.isBare_control (h : th.isBare = true) : th.control.finalizer? = none := by
  rw [isBare, Bool.and_eq_true, Option.isNone_iff_eq_none] at h
  exact h.1

theorem Thread.isBare_stack (h : th.isBare = true) {fr : Frame} (hfr : fr ∈ th.stack) :
    fr.finalizer? = none ∧ fr.isUnwrapped = false := by
  rw [isBare, Bool.and_eq_true, List.all_eq_true] at h
  have hbare := h.2 fr hfr
  rwa [Frame.isBare, Bool.and_eq_true, Option.isNone_iff_eq_none, Bool.not_eq_true'] at hbare

theorem Thread.Holds.mono {Q : Finalizer → Prop} (h : th.Holds P) (hPQ : ∀ fin, P fin → Q fin) :
    th.Holds Q where
  control fin hfin := hPQ fin (h.control fin hfin)
  stack fr hfr fin hfin := hPQ fin (h.stack fr hfr fin hfin)

/-- A thread that has nothing to do with finalizers holds none. -/
theorem Thread.Holds.of_isBare (h : th.isBare = true) : th.Holds P where
  control _ hfin := nomatch (isBare_control h).symm.trans hfin
  stack _ hfr _ hfin := nomatch (isBare_stack h hfr).1.symm.trans hfin

theorem Thread.finalizerCall?_of_control (h : th.control.isFinalizer = false) :
    th.finalizerCall? = none := by
  obtain ⟨control, stack⟩ := th
  unfold finalizerCall?
  split <;> simp_all

theorem Thread.exists_finalizerCall? (owner : Option HandleId) (fin : Finalizer) (env hint : Word)
    (stack : List Frame) :
    ∃ caller, finalizerCall? { control := .run (.finalizer owner fin env hint), stack := stack }
      = some (caller, ⟨fin, env, hint⟩) := by
  cases stack with
  | nil => exact ⟨none, rfl⟩
  | cons fr below => cases fr <;> exact ⟨_, rfl⟩

theorem Control.isFinalizer_of_finalizer? {c : Control} (h : c.finalizer? = none) :
    c.isFinalizer = false := by
  cases c with
  | run c => cases c <;> simp_all
  | _ => rfl

theorem Thread.innerCall?_of_isBare (h : th.isBare = true) (id : HandleId) :
    th.innerCall? id = none := by
  simp [innerCall?,
    finalizerCall?_of_control (Control.isFinalizer_of_finalizer? (isBare_control h))]

theorem shielded_mono {safe safe' : Bool} {frames : List Frame} (h : shielded safe frames = true)
    (hsafe : safe = true → safe' = true) : shielded safe' frames = true := by
  cases frames with
  | nil => rfl
  | cons fr below =>
    simp only [shielded, Bool.and_eq_true, Bool.or_eq_true] at h ⊢
    exact ⟨h.1.imp_right hsafe, h.2⟩

/-- Frames that wait for no finalizer may be put above others. -/
theorem shielded_append {safe : Bool} {frames : List Frame}
    (hframes : ∀ fr ∈ frames, fr.isUnwrapped = false) (hbelow : shielded false below = true) :
    shielded safe (frames ++ below) = true := by
  induction frames generalizing safe with
  | nil => exact shielded_mono hbelow nofun
  | cons fr frames ih =>
    rw [List.forall_mem_cons] at hframes
    simp only [List.cons_append, shielded, Bool.and_eq_true, Bool.or_eq_true]
    exact ⟨.inl (by simp only [hframes.1, Bool.not_false]), ih hframes.2⟩

theorem Thread.isShielded_of_isBare (h : th.isBare = true) : th.isShielded = true := by
  rw [isShielded, ← List.append_nil th.stack]
  exact shielded_append (fun fr hfr => (isBare_stack h hfr).2) rfl

/-! ### Engines -/

/-- An engine comes to remember no finalizer but the one that it was given. -/
theorem Engines.finalizer_of_answer (e : Engines) (slot : Nat) (r : Request) {w : Word}
    {fn : EngineFunction} (h : (e.answer slot r).1.functions.get? w = some fn) :
    e.functions.get? w = some fn ∨ fn.finalizer = r.finalizer? := by
  unfold answer at h
  simp only at h
  split at h
  · exact .inl h
  · cases r with
    | createThreadsafeFunction env spec out =>
      simp only at h
      split at h
      · exact .inl h
      · rw [Assoc.get?_insert] at h
        split at h
        · obtain rfl := Option.some.inj h
          exact .inr rfl
        · exact .inl h
    | releaseThreadsafeFunction func mode =>
      simp only at h
      split at h
      · exact .inl h
      · split at h
        · exact .inl h
        · rw [Assoc.get?_erase] at h
          split at h
          · cases h
          · exact .inl h
    | getThreadsafeFunctionContext func out =>
      simp only at h
      split at h <;> exact .inl h
    | _ => exact .inl h

/-- An engine calls no finalizer but the one that it was given, or one that it remembers. -/
theorem Engines.call_of_answer (e : Engines) (slot : Nat) (r : Request) {c : FinalizerCall}
    (h : (e.answer slot r).2.2 = some c) :
    r.finalizer? = some c.finalizer ∨
      ∃ w fn, e.functions.get? w = some fn ∧ fn.finalizer = some c.finalizer := by
  unfold answer at h
  simp only at h
  split at h
  · cases h
  · cases r with
    | createThreadsafeFunction env spec out =>
      simp only at h
      split at h
      · obtain ⟨fin, hfin, rfl⟩ := Option.map_eq_some_iff.1 h
        exact .inl hfin
      · cases h
    | releaseThreadsafeFunction func mode =>
      simp only at h
      split at h
      · cases h
      · split at h
        · cases h
        · next fn hfn =>
          obtain ⟨fin, hfin, rfl⟩ := Option.map_eq_some_iff.1 h
          exact .inr ⟨_, fn, hfn, hfin⟩
    | getThreadsafeFunctionContext func out =>
      simp only at h
      split at h <;> cases h
    | _ => cases h

/-! ### Moves -/

/-- What a move of a thread above some frames does with finalizers. -/
inductive Move.Treats (P : Finalizer → Prop) (s : Session) :
    Thread → Move → List Frame → Prop where
  /-- Finalizers are passed on. -/
  | passes {th : Thread} {m : Move} {below : List Frame} (hm : m.Passes P s)
      (hcall : th.control.isFinalizer = false)
      (hforward : th.forwarded? { control := m.control, stack := m.frames ++ below } = none) :
    Treats P s th m below
  /-- A finalizer is called. -/
  | calls (owner : Option HandleId) (fin : Finalizer) (env hint : Word) (below : List Frame) :
    Treats P s { control := .run (.finalizer owner fin env hint), stack := below }
      (s.finalizer owner fin env hint) below
  /-- An engine answers. -/
  | answers (reply : Reply) (slot : Nat) (r : Request) (below : List Frame) :
    Treats P s { control := .give reply, stack := .engineScripted slot r :: below }
      (s.engineAnswer slot r) below
  /-- The creation of a function is forwarded. -/
  | forwards {m : Move} {env raw : Word} {spec : FunctionSpec} {out out' : Bool} {p : Provider}
      {host : HostId} {below : List Frame} (hs : Session.Spares s m.session)
      (hids : m.session.ids.next = s.ids.next + 1)
      (hcontrol : m.control = .run (.entry p (.createThreadsafeFunction raw
        { spec with finalizer := some (.wrapped ⟨s.ids.next⟩ spec.finalizer) } out')))
      (hframes : m.frames = [.forwardedCreate host ⟨s.ids.next⟩]) :
    Treats P s
      { control := .run (.entry .multiplexer (.createThreadsafeFunction env spec out))
        stack := below }
      m below

theorem Session.treats_refuseRoute (s : Session) (e : Entry) (p : RouteProblem) {c : Code}
    (hc : c.isFinalizer = false) (below : List Frame) :
    Move.Treats P s { control := .run c, stack := below } (s.refuseRoute e p) below := by
  refine .passes (passes_refuseRoute ..) hc ?_
  unfold Thread.forwarded?
  split
  · next heq _ => cases heq
  · rfl

theorem Session.treats_forward (s : Session) (env : Word) (spec : FunctionSpec) (out : Bool)
    (below : List Frame) :
    Move.Treats P s
      { control := .run (.entry .multiplexer (.createThreadsafeFunction env spec out))
        stack := below }
      (s.forward (.createThreadsafeFunction env spec out)) below := by
  unfold forward
  split
  · exact .passes (by simp) rfl rfl
  · split
    · exact treats_refuseRoute _ _ _ rfl _
    · next d hd =>
      obtain ⟨raw, hraw⟩ := request_of_route rfl hd
      split
      · exact treats_refuseRoute _ _ _ rfl _
      · next p hp =>
        show Move.Treats P s _ (s.forwardCreate env spec d p) below
        unfold forwardCreate
        split
        · exact treats_refuseRoute _ _ _ rfl _
        · rw [hraw]
          exact .forwards (by simp [freshId]) rfl rfl rfl

/-- What a thread does treats finalizers in one of four ways. -/
theorem Session.Moves.treats (hm : s.Moves t th m below) (hth : th.Holds P)
    (hext : ∀ data, P (.extension data))
    (hfns : ∀ f fn, s.functions.object? f = some fn → ∀ fin, fn.finalizer = some fin → P fin) :
    Move.Treats P s th m below := by
  cases hm with
  | @run c m _ hm =>
    by_cases hc : c.concernsFinalizers = true
    · cases c with
      | finalizer owner fin env hint =>
        obtain rfl := Option.some.inj hm
        exact .calls ..
      | entry p r =>
        obtain rfl := Option.some.inj hm
        obtain ⟨rfl, env, spec, out, rfl⟩ : p = .multiplexer ∧
            ∃ env spec out, r = .createThreadsafeFunction env spec out := by
          cases p <;> cases r <;> simp_all [Code.concernsFinalizers]
        exact treats_forward ..
      | _ => exact absurd hc (by simp [Code.concernsFinalizers])
    · rw [Bool.not_eq_true] at hc
      refine .passes (c.step_passes hm hc hth.control hext hfns) ?_ ?_
      · cases c <;> simp_all [Code.concernsFinalizers]
      · unfold Thread.forwarded?
        split
        · next heq _ _ => simp_all [Code.concernsFinalizers]
        · rfl
  | give r fr below =>
    by_cases hfr : ∃ slot r, fr = .engineScripted slot r
    · obtain ⟨slot, r, rfl⟩ := hfr
      exact .answers ..
    · exact .passes (fr.resume_passes (fun slot r h => hfr ⟨slot, r, h⟩) r) rfl rfl
  | unwind fr below => exact .passes fr.unwind_passes rfl rfl
  | refuse => exact .passes (by simp) rfl rfl

/-! ### What comes of a move -/

namespace Session

theorem finalized_emit (s : Session) (e : Event) :
    (s.emit e).finalized = s.finalized ++ e.finalized?.toList := by
  rw [Session.finalized, history_emit, List.filterMap_append, Session.finalized]
  cases h : e.finalized? <;> simp [-Event.finalized?, h]

theorem finalized_finalizer (s : Session) (owner : Option HandleId) (data env hint : Word) :
    (s.finalizer owner (.extension data) env hint).session.finalized
      = s.finalized ++ [(env, data, hint)] := by
  cases owner with
  | none => exact ((spares_fire _).2 (.refl _)).finalized.trans (finalized_emit ..)
  | some f =>
    have howner : Spares s (s.emit (.finalizerCalled f)) := by simp
    rw [← howner.finalized]
    exact ((spares_fire _).2 (.refl _)).finalized.trans (finalized_emit ..)

theorem threads_finalizer (s : Session) (owner : Option HandleId) (fin : Finalizer)
    (env hint : Word) : (s.finalizer owner fin env hint).session.threads = s.threads := by
  unfold finalizer fire
  split
  · cases owner <;> simp only <;> split <;> rfl
  · rfl
  · rfl

theorem engines_finalizer (s : Session) (owner : Option HandleId) (fin : Finalizer)
    (env hint : Word) : (s.finalizer owner fin env hint).session.engines = s.engines := by
  unfold finalizer fire
  split
  · cases owner <;> simp only <;> split <;> rfl
  · rfl
  · rfl

theorem session_engineAnswer (s : Session) (slot : Nat) (r : Request) :
    (s.engineAnswer slot r).session = { s with engines := (s.engines.answer slot r).1 } := by
  simp only [engineAnswer]
  split <;> rfl

end Session

namespace Move

/-- The thread after a move above some frames. -/
def after (m : Move) (below : List Frame) : Thread :=
  { control := m.control, stack := m.frames ++ below }

/-- A thread that passes finalizers on does not go on to a call in a multiplexer's. -/
theorem Passes.innerCall? (hm : m.Passes P s) (id : HandleId) (below : List Frame) :
    (m.after below).innerCall? id = none := by
  cases hcall : m.control.isFinalizer with
  | false =>
    have hnone : (m.after below).finalizerCall? = none := Thread.finalizerCall?_of_control hcall
    simp [Thread.innerCall?, hnone]
  | true =>
    obtain ⟨fr, frames, hframes⟩ := List.exists_cons_of_ne_nil (hm.waits hcall)
    have hfr := (hm.frames fr (by simp [hframes])).1
    simp only [Thread.innerCall?, Thread.finalizerCall?, after, hframes, List.cons_append]
    split
    · next heq =>
      split at heq
      · next h => cases (List.cons.inj h).1; cases hfr
      · cases heq
      · cases heq
    · rfl

/-- A thread goes on to the call inside the finalizer that it has called, and to no other one. -/
theorem Treats.innerCall? (h : Treats P s th m below) (id : HandleId) :
    (m.after below).innerCall? id = th.finalizerCall?.bind fun c => c.2.inner? id := by
  cases h with
  | passes hm hcall => rw [hm.innerCall?, Thread.finalizerCall?_of_control hcall, Option.bind_none]
  | calls owner fin env hint =>
    obtain ⟨caller, hcall⟩ := Thread.exists_finalizerCall? owner fin env hint below
    rw [hcall, Option.bind_some]
    match fin with
    | .extension data => rfl
    | .wrapped handle none => rfl
    | .wrapped handle (some inner) => rfl
  | answers reply slot r =>
    simp only [Session.engineAnswer]
    split <;> rfl
  | forwards hs hids hcontrol hframes =>
    simp [after, hcontrol, hframes, Thread.innerCall?, Thread.finalizerCall?]

/-- The addon's finalizer is called when a thread calls it. -/
theorem Treats.finalized_eq (h : Treats P s th m below) :
    m.session.finalized
      = s.finalized ++ (th.finalizerCall?.bind fun c => c.2.event?).toList := by
  cases h with
  | passes hm hcall =>
    rw [hm.session.finalized, Thread.finalizerCall?_of_control hcall]
    simp
  | calls owner fin env hint =>
    obtain ⟨caller, hcall⟩ := Thread.exists_finalizerCall? owner fin env hint below
    rw [hcall, Option.bind_some]
    match fin with
    | .extension data => exact Session.finalized_finalizer ..
    | .wrapped handle none | .wrapped handle (some inner) => exact (List.append_nil _).symm
  | answers reply slot r =>
    rw [Session.session_engineAnswer]
    exact (List.append_nil _).symm
  | forwards hs => simpa [Thread.finalizerCall?] using hs.finalized

/-- A move starts no thread that has to do with finalizers. -/
theorem Treats.threads (h : Treats P s th m below) :
    ∀ p ∈ m.session.threads, p ∈ s.threads ∨ p.2.isBare = true := by
  cases h with
  | passes hm => exact hm.session.threads
  | calls owner fin env hint =>
    rw [Session.threads_finalizer]
    exact fun _ => .inl
  | answers reply slot r =>
    rw [Session.session_engineAnswer]
    exact fun _ => .inl
  | forwards hs => exact hs.threads

/-- What a thread and the engines hold after a move: what they held before, what is inside a
finalizer that is called, and what a multiplexer gives to a host. -/
theorem Treats.holds {Q : Finalizer → Prop} (h : Treats P s th m below) (hth : th.Holds P)
    (hbelow : ∀ fr ∈ below, fr ∈ th.stack) (hengines : s.engines.Hold P)
    (hinner : ∀ id inner, P (.wrapped id (some inner)) → P inner) (hPQ : ∀ fin, P fin → Q fin)
    (hforward : ∀ id given fin,
      th.forwarded? (m.after below) = some (id, given, some fin) → Q fin) :
    (m.after below).Holds Q ∧ m.session.engines.Hold Q := by
  have hkept : ∀ fr ∈ below, ∀ fin, fr.finalizer? = some fin → Q fin :=
    fun fr hfr fin hfin => hPQ fin (hth.stack fr (hbelow fr hfr) fin hfin)
  have hengines' : s.engines.Hold Q := fun w fn hfn fin hfin => hPQ fin (hengines w fn hfn fin hfin)
  have hnone : ∀ fin, (none : Option Finalizer) = some fin → Q fin := by simp
  cases h with
  | passes hm =>
    refine ⟨⟨fun fin hfin => hPQ fin (hm.control fin hfin), fun fr hfr => ?_⟩, ?_⟩
    · rcases List.mem_append.1 hfr with hfr | hfr
      · exact fun fin hfin => hPQ fin ((hm.frames fr hfr).2 fin hfin)
      · exact hkept fr hfr
    · rwa [Engines.Hold, hm.session.engines]
  | calls owner fin env hint =>
    refine ⟨?_, by rwa [Session.engines_finalizer]⟩
    cases fin with
    | extension data => exact ⟨hnone, hkept⟩
    | wrapped handle inner =>
      cases inner with
      | none => exact ⟨hnone, List.forall_mem_cons.2 ⟨hnone, hkept⟩⟩
      | some inner =>
        refine ⟨fun fin hfin => ?_, List.forall_mem_cons.2 ⟨hnone, hkept⟩⟩
        obtain rfl := Option.some.inj hfin
        exact hPQ _ (hinner _ _ (hth.control _ rfl))
  | answers reply slot r =>
    have hr : ∀ fin, r.finalizer? = some fin → Q fin :=
      fun fin hfin => hPQ fin (hth.stack _ List.mem_cons_self fin hfin)
    constructor
    · simp only [Session.engineAnswer]
      split
      · exact ⟨hnone, hkept⟩
      · next c hc =>
        refine ⟨fun fin hfin => ?_, List.forall_mem_cons.2 ⟨hnone, hkept⟩⟩
        obtain rfl := Option.some.inj hfin
        rcases Engines.call_of_answer _ _ _ hc with hfin | ⟨w, fn, hfn, hfin⟩
        · exact hr _ hfin
        · exact hengines' w fn hfn _ hfin
    · rw [Session.session_engineAnswer]
      intro w fn hfn
      rcases Engines.finalizer_of_answer _ _ _ hfn with hfn | hfin
      · exact hengines' w fn hfn
      · rw [hfin]
        exact hr
  | @forwards m env raw spec out out' p host _ hs hids hcontrol hframes =>
    refine ⟨⟨fun fin hfin => ?_, fun fr hfr => ?_⟩, by rwa [Engines.Hold, hs.engines]⟩
    · refine hforward ⟨s.ids.next⟩ spec.finalizer fin ?_
      simp only [after, hcontrol] at hfin
      obtain rfl := Option.some.inj hfin
      simp [Thread.forwarded?, after, hcontrol, hframes]
    · rcases List.mem_append.1 hfr with hfr | hfr
      · rw [hframes] at hfr
        obtain rfl := List.mem_singleton.1 hfr
        exact hnone
      · exact hkept fr hfr

/-- A multiplexer gives the host a finalizer of its own, for the handle that it has reserved, around
the one that it was given. -/
theorem Treats.forwarded (h : Treats P s th m below) {id : HandleId}
    {given substituted : Option Finalizer}
    (hforward : th.forwarded? (m.after below) = some (id, given, substituted)) :
    id = ⟨s.ids.next⟩ ∧ substituted = some (.wrapped id given) ∧
      m.session.ids.next = s.ids.next + 1 ∧ th.control.finalizer? = given := by
  cases h with
  | passes hm hcall hnone => cases hnone.symm.trans hforward
  | calls | answers => cases hforward
  | forwards hs hids hcontrol hframes =>
    simp only [Thread.forwarded?, after, hcontrol, hframes, List.singleton_append,
      Option.some.injEq, Prod.mk.injEq] at hforward
    obtain ⟨rfl, rfl, rfl⟩ := hforward
    exact ⟨rfl, rfl, hids, rfl⟩

/-- A thread that calls a multiplexer's finalizer waits for its end. -/
theorem Treats.mem_stack (h : Treats P s th m below) {caller : Option HandleId} {id : HandleId}
    {inner : Option Finalizer} {env hint : Word}
    (hcall : th.finalizerCall? = some (caller, ⟨.wrapped id inner, env, hint⟩)) :
    .unwrapped id ∈ (m.after below).stack := by
  cases h with
  | passes hm hnone => simp [Thread.finalizerCall?_of_control hnone] at hcall
  | calls owner fin env' hint' =>
    obtain ⟨caller', hcall'⟩ := Thread.exists_finalizerCall? owner fin env' hint' below
    obtain rfl : fin = .wrapped id inner := by
      rw [hcall] at hcall'
      simp_all
    cases inner <;> exact List.mem_cons_self
  | answers => simp [Thread.finalizerCall?] at hcall
  | forwards => simp [Thread.finalizerCall?] at hcall

end Move

namespace Session

/-- A thread after a step is the one that has moved, was there before, or has nothing to do with
finalizers. -/
theorem mem_threads_apply (ht : Move.Treats P s th m below) {p : ThreadId × Thread}
    (hp : p ∈ (apply m t below).threads) :
    p = (t, m.after below) ∨ p ∈ s.threads ∨ p.2.isBare = true :=
  (Assoc.mem_of_mem_insert hp).imp_right (ht.threads p)

/-- The frames below a move were on the stack before it. -/
theorem Moves.mem_stack (hm : s.Moves t th m below) : ∀ fr ∈ below, fr ∈ th.stack := by
  cases hm with
  | run => exact fun _ => id
  | give | unwind => exact fun _ => List.mem_cons_of_mem _
  | refuse => exact List.forall_mem_nil _

/-- No failure gets to a frame that waits for the finalizer inside a multiplexer's. -/
theorem Moves.isShielded (hm : s.Moves t th m below) (ht : Move.Treats P s th m below)
    (h : th.isShielded = true) : (m.after below).isShielded = true := by
  cases ht with
  | calls owner fin env hint =>
    cases fin with
    | extension data => exact h
    | wrapped handle inner => cases inner <;> exact h
  | answers reply slot r =>
    have hbelow : shielded false below = true := h
    simp only [engineAnswer]
    split
    · exact shielded_mono hbelow (by simp)
    · exact hbelow
  | forwards hs hids hcontrol hframes =>
    refine shielded_append (fun fr hfr => ?_) h
    rw [hframes] at hfr
    obtain rfl := List.mem_singleton.1 hfr
    rfl
  | passes hpasses hcall =>
    have hframes : ∀ fr ∈ m.frames, fr.isUnwrapped = false :=
      fun fr hfr => (hpasses.frames fr hfr).1
    cases hm with
    | @run c m _ hm =>
      cases c with
      | finalizer => cases hcall
      | script owner actions =>
        cases owner with
        | clientTask => exact shielded_append hframes h
        | callback =>
          cases actions <;>
            · obtain rfl := Option.some.inj hm
              exact h
      | _ => exact shielded_append hframes h
    | give r fr =>
      have hbelow : shielded fr.shields below = true := (Bool.and_eq_true_iff.1 h).2
      cases fr with
      | performed owner a rest =>
        cases owner with
        | clientTask => exact shielded_append hframes hbelow
        | callback => exact hbelow
      | unwrapped handle => exact hbelow
      | _ => exact shielded_append hframes hbelow
    | unwind fr =>
      have hbelow : shielded fr.shields below = true := (Bool.and_eq_true_iff.1 h).2
      cases fr with
      | performed owner a rest =>
        cases owner with
        | clientTask => exact shielded_append hframes hbelow
        | callback => exact hbelow
      | unwrapped handle => cases h
      | _ => exact shielded_append hframes hbelow
    | refuse => rfl

/-- A frame that waits for the finalizer inside a multiplexer's stays until it gets its reply. -/
theorem Moves.mem_below (hm : s.Moves t th m below) (h : th.isShielded = true) {id : HandleId}
    (hid : .unwrapped id ∈ th.stack) :
    .unwrapped id ∈ below ∨
      ∃ r, th.control = .give r ∧ m = (Frame.unwrapped id).resume t s r := by
  cases hm with
  | run => exact .inl hid
  | give r fr =>
    rcases List.mem_cons.1 hid with rfl | hid
    · exact .inr ⟨r, rfl, rfl⟩
    · exact .inl hid
  | unwind fr =>
    rcases List.mem_cons.1 hid with rfl | hid
    · cases h
    · exact .inl hid
  | refuse => cases hid

end Session

end AddonHost
