import AddonHost.Proofs.Function.Creation
import AddonHost.Proofs.Lifecycle
import AddonHost.Proofs.Finalization

/-!
How many holders a function has.

A function starts with the holders that it was created with.  While it is open, whoever acquires it
adds one, and whoever releases it drops one.  A release that finds no holder is answered as any
other and changes nothing: a function without holders stays open while items are queued, and the
count stops at zero.  So the count follows from the order of the acquires and releases
(`holdersAfter`), and it is the balance of their numbers but for the releases that found no holder
(`holdersAfter_add_count`).

`Step.holders_eq` says so of one step in the life of a function, `Onward.holders_eq` of a run that
goes on, and `Reachable.holder_count` of every function from its creation on.  Nothing is said of a
count that has wrapped.  `acquire_tells` and `release_tells` tie what the journal tells of holders
to the outcomes of the operations.
-/

namespace AddonHost

/-- What an operation does to the holders of a function. -/
inductive HolderChange where
  | added
  | dropped
  deriving DecidableEq

/-- How many holders are left of so many after some changes; where there is none, none is
dropped. -/
def holdersAfter (n : ℕ) : List HolderChange → ℕ
  | [] => n
  | .added :: rest => holdersAfter (n + 1) rest
  | .dropped :: rest => holdersAfter (n - 1) rest

/-- How often one is to be dropped where there is none. -/
def idleDrops (n : ℕ) : List HolderChange → ℕ
  | [] => 0
  | .added :: rest => idleDrops (n + 1) rest
  | .dropped :: rest => idleDrops (n - 1) rest + if n = 0 then 1 else 0

theorem holdersAfter_append (n : ℕ) (cs cs' : List HolderChange) :
    holdersAfter n (cs ++ cs') = holdersAfter (holdersAfter n cs) cs' := by
  induction cs generalizing n with
  | nil => rfl
  | cons c cs ih => cases c <;> exact ih _

/-- The balance of what was added and dropped, but for drops that found none. -/
theorem holdersAfter_add_count (n : ℕ) (cs : List HolderChange) :
    holdersAfter n cs + cs.count .dropped = n + cs.count .added + idleDrops n cs := by
  induction cs generalizing n with
  | nil => rfl
  | cons c cs ih =>
    cases c with
    | added =>
      have := ih (n + 1)
      simp only [holdersAfter, idleDrops, List.count_cons_self, ne_eq, reduceCtorEq,
        not_false_eq_true, List.count_cons_of_ne]
      omega
    | dropped =>
      have := ih (n - 1)
      simp only [holdersAfter, idleDrops, List.count_cons_self, ne_eq, reduceCtorEq,
        not_false_eq_true, List.count_cons_of_ne]
      split <;> omega

/-- What an event tells of the holders of a function. -/
def Event.holderChange? (f : HandleId) : Event → Option HolderChange
  | acquired g _ => if g = f then some .added else none
  | released g _ => if g = f then some .dropped else none
  | _ => none

theorem Event.holderChange?_eq_none {f : HandleId} {e : Event} (h : e.concerns f = false) :
    e.holderChange? f = none := by
  cases e <;> simp_all [concerns, holderChange?]

namespace Life

variable {f : HandleId} {l l' : Life} {own own' : List Activity} {fn fn' : ThreadsafeFunction}

/-- What was told of the holders of the function. -/
def holderChanges (f : HandleId) (l : Life) : List HolderChange :=
  l.told.filterMap (Event.holderChange? f)

@[simp] theorem holderChanges_tell (l : Life) (es : List Event) :
    (l.tell es).holderChanges f = l.holderChanges f ++ es.filterMap (Event.holderChange? f) :=
  List.filterMap_append

@[simp] theorem holderChanges_mk (l : Life) (function : Option ThreadsafeFunction)
    (registered : Bool) (queued : InvokerId → List FunctionTask) (nextId : ℕ) :
    holderChanges f { l with function, registered, queued, nextId } = l.holderChanges f := rfl

@[simp] theorem holderChanges_become (l : Life) (fn : ThreadsafeFunction) :
    (l.become fn).holderChanges f = l.holderChanges f := rfl

@[simp] theorem holderChanges_enqueue (l : Life) (i : InvokerId) (k : FunctionTask) :
    (l.enqueue i k).holderChanges f = l.holderChanges f := rfl

@[simp] theorem holderChanges_requeue (l : Life) (i : InvokerId) (tasks : List FunctionTask) :
    (l.requeue i tasks).holderChanges f = l.holderChanges f := rfl

@[simp] theorem holderChanges_offer (l : Life) (i : InvokerId) (k : Option FunctionTask) :
    (l.offer i k).holderChanges f = l.holderChanges f := by
  cases k <;> rfl

/-- A discarded task tells nothing of holders. -/
theorem holderChange?_discarded (i : InvokerId) (subs : List Submission) :
    ((subs.map (Event.discarded i)).filter (Event.concerns f)).filterMap (Event.holderChange? f)
      = [] := by
  rw [concerns_discarded, List.filterMap_map, List.filterMap_eq_nil_iff]
  exact fun _ _ => rfl

/-- What one step makes of the holders of a function that stays open and whose count has not
wrapped. -/
def Counts (f : HandleId) (l : Life) (fn : ThreadsafeFunction) (l' : Life)
    (fn' : ThreadsafeFunction) : Prop :=
  fn.closing = false ∧ .acquired f 0 ∉ l.told ∧ ∃ cs, l'.holderChanges f = l.holderChanges f ++ cs ∧
    fn'.threadCount.toNat = holdersAfter fn.threadCount.toNat cs

/-- Nothing happens to the holders. -/
theorem Counts.refl (hopen : fn.closing = false) (hwrap : .acquired f 0 ∉ l.told) :
    Counts f l fn l fn :=
  ⟨hopen, hwrap, [], (List.append_nil _).symm, rfl⟩

theorem Counts.trans {l'' : Life} {fn'' : ThreadsafeFunction} (h : Counts f l fn l' fn')
    (h' : Counts f l' fn' l'' fn'') : Counts f l fn l'' fn'' := by
  obtain ⟨hopen, hwrap, cs, hcs, hcount⟩ := h
  obtain ⟨-, -, cs', hcs', hcount'⟩ := h'
  exact ⟨hopen, hwrap, cs ++ cs', by rw [hcs', hcs, List.append_assoc],
    by rw [hcount', hcount, holdersAfter_append]⟩

/-- A holder more, unless the count wraps. -/
theorem toNat_acquire (hwrap : fn.acquire.threadCount ≠ 0) :
    fn.acquire.threadCount.toNat = fn.threadCount.toNat + 1 := by
  have hlt := fn.threadCount.toNat_lt
  have hne : (fn.threadCount + 1).toNat ≠ 0 := fun h => hwrap (UInt64.toNat_inj.1 h)
  rw [UInt64.toNat_add] at hne
  rw [ThreadsafeFunction.acquire, UInt64.toNat_add]
  simp only [UInt64.toNat_one] at hne ⊢
  omega

theorem Step.holders_eq (h : Step f l own l' own') (hl : l.function = some fn)
    (hl' : l'.function = some fn') (hopen : fn'.closing = false)
    (hwrap : .acquired f 0 ∉ l'.told) : Counts f l fn l' fn' := by
  cases h with
  | create env reference spec delivery invoker hnone | absent own hnone => simp [hl] at hnone
  | acquire hfn hclosing =>
    obtain rfl := Option.some.inj (hl.symm.trans hfn)
    obtain rfl := Option.some.inj hl'
    refine ⟨hopen, fun h => hwrap (by simp [h]), [.added], by simp [Event.holderChange?], ?_⟩
    refine toNat_acquire fun hzero => hwrap ?_
    simp [hzero]
  | dropHolder hfn hclosing hspent =>
    obtain rfl := Option.some.inj (hl.symm.trans hfn)
    obtain rfl := Option.some.inj hl'
    exact ⟨hopen, fun h => hwrap (by simp [h]), [.dropped], by simp [Event.holderChange?],
      Word.toNat_pred _⟩
  | closeAgain hfn hc hs =>
    obtain rfl := Option.some.inj (hl.symm.trans hfn)
    obtain rfl := Option.some.inj hl'
    have hwrap' : .acquired f 0 ∉ l.told := fun h => hwrap (by simp [h])
    cases hc with
    | abort =>
      simp [ThreadsafeFunction.abort, ThreadsafeFunction.wakeAll, ThreadsafeFunction.dropHolder]
        at hopen
    | lastHolder =>
      exact ⟨hopen, hwrap', [.dropped], by simp [Event.holderChange?], Word.toNat_pred _⟩
    | lastItem => exact ⟨hopen, hwrap', [], by simp, rfl⟩
  | closeQueued i hfn hc | closeAtOnce hfn hc =>
    obtain rfl := Option.some.inj hl'
    simp [ThreadsafeFunction.close, ThreadsafeFunction.wakeAll] at hopen
  | discard i hrest hsubs =>
    obtain rfl := Option.some.inj (hl.symm.trans hl')
    refine ⟨hopen, fun h => hwrap (by simp [h]), [], ?_, rfl⟩
    rw [holderChanges_tell, holderChange?_discarded, holderChanges_requeue]
  | drain i hfn =>
    obtain rfl := Option.some.inj (hl.symm.trans hfn)
    obtain rfl := Option.some.inj hl'
    rw [pop_snd] at hopen ⊢
    refine ⟨hopen, fun h => hwrap (by simp [h]), [], ?_, rfl⟩
    rw [holderChanges_tell, takenEvents]
    cases fn.pop.1 <;> simp [Event.holderChange?]
  | mark on hfn | finalized atOnce hfn =>
    obtain rfl := Option.some.inj (hl.symm.trans hfn)
    obtain rfl := Option.some.inj hl'
    exact ⟨hopen, hwrap, [], by simp, rfl⟩
  | appendLost data hfn | appendQueued data i hfn | appendInline data i hfn =>
    obtain rfl := Option.some.inj (hl.symm.trans hfn)
    obtain rfl := Option.some.inj hl'
    exact ⟨hopen, fun h => hwrap (by simp [h]), [], by simp [Event.holderChange?], rfl⟩
  | sleep t hfn =>
    obtain rfl := Option.some.inj (hl.symm.trans hfn)
    obtain rfl := Option.some.inj hl'
    exact ⟨hopen, hwrap, [], by simp, rfl⟩
  | aside | displace | giveUp | start | find | ignore | drained | skipFinalizer =>
    obtain rfl := Option.some.inj (hl.symm.trans hl')
    exact ⟨hopen, hwrap, [], by simp, rfl⟩
  | callJs | callFunction | teardown | callFinalizer | unregister =>
    obtain rfl := Option.some.inj (hl.symm.trans hl')
    exact ⟨hopen, fun h => hwrap (by simp [h]), [], by simp [Event.holderChange?], rfl⟩

/-- The creation of a function tells nothing. -/
theorem Step.told_of_create (h : Step f l own l' own') (hl : l.function = none)
    (hl' : l'.function = some fn) : l'.told = l.told := by
  cases h <;> simp_all

end Life

namespace Session

variable {s s' s₁ : Session} {t : ThreadId} {f : HandleId} {fn fn' : ThreadsafeFunction}

/-- What the journal tells of the holders of a function. -/
def holderChanges (s : Session) (f : HandleId) : List HolderChange :=
  s.history.filterMap (Event.holderChange? f)

@[simp] theorem holderChanges_life (s : Session) (f : HandleId) :
    (s.life f).holderChanges f = s.holderChanges f := by
  rw [holderChanges, Life.holderChanges, life, told, List.filterMap_filter]
  congr 1
  funext e
  by_cases he : e.concerns f = true
  · rw [if_pos he]
  · rw [if_neg he, Event.holderChange?_eq_none (by simpa using he)]

theorem count_added (s : Session) (f : HandleId) :
    (s.holderChanges f).count .added = (s.acquisitions f).length := by
  rw [holderChanges, acquisitions]
  induction s.history with
  | nil => rfl
  | cons e es ih =>
    cases e <;> simp only [List.filterMap_cons, Event.holderChange?, Event.acquired?] <;>
      first | exact ih | (split_ifs <;> simp_all)

theorem count_dropped (s : Session) (f : HandleId) :
    (s.holderChanges f).count .dropped = (s.releases f).length := by
  rw [holderChanges, releases]
  induction s.history with
  | nil => rfl
  | cons e es ih =>
    cases e <;> simp only [List.filterMap_cons, Event.holderChange?, Event.released?] <;>
      first | exact ih | (split_ifs <;> simp_all)

/-! ### What operations tell of holders -/

/-- An acquire adds a holder exactly if it succeeds. -/
theorem acquire_tells (s : Session) (f : HandleId) (fn : ThreadsafeFunction) :
    (s.acquire f fn).2.holderChanges f
      = s.holderChanges f ++ if (s.acquire f fn).1 = .ok () then [.added] else [] := by
  unfold acquire
  split
  · simp
  · simp [holderChanges, modifyFunction, Event.holderChange?, history, emit]

theorem holderChanges_closeThen (s : Session) (t : ThreadId) (f : HandleId) (r : Reply) :
    (s.closeThen t f r).session.holderChanges f = s.holderChanges f := by
  have htell (s : Session) (e : Event) (he : e.holderChange? f = none) :
      (s.emit e).holderChanges f = s.holderChanges f := by
    simp [holderChanges, he]
  have hlog (s : Session) (level : Log.Level) (text : String) :
      (s.log level text).holderChanges f = s.holderChanges f := by
    rw [← holderChanges_life, life_log, holderChanges_life]
  unfold closeThen
  split
  · rfl
  · split
    · rfl
    · simp only
      split
      · simp only [session_run, hlog, htell _ (.teardownOffered f false) rfl,
          htell _ (.closed f) rfl]
        rfl
      · next i inv _ =>
        have hoffered {o : Offer} {s' : Session}
            (h : ((s.modifyFunction f (·.close)).emit (.closed f)).offer t i false (.teardown f)
              = (o, s')) : s'.holderChanges f = s.holderChanges f := by
          rw [← holderChanges_life, life_of_offer h f]
          split <;>
            simp only [Life.holderChanges_offer, holderChanges_life, htell _ (.closed f) rfl] <;>
            rfl
        split
        · next h => simp only [session_give, htell _ (.teardownOffered f true) rfl, hoffered h]
        · next h =>
          simp only [session_run, hlog, htell _ (.teardownOffered f false) rfl, hoffered h]

/-- A release is refused by a closing function.  Otherwise it drops a holder and succeeds, at once
or after the teardown of the function. -/
theorem release_tells (mode : ReleaseMode) (hf : s.functions.object? f = some fn) :
    (fn.closing = true → s.release t f mode = s.give (.outcome (.error .closing))) ∧
    (fn.closing = false →
      (s.release t f mode).session.holderChanges f = s.holderChanges f ++ [.dropped] ∧
        ((s.release t f mode).control = .give (.outcome (.ok ())) ∨
          (s.release t f mode).control = .run (.teardown f) ∧
            (s.release t f mode).frames = [.thenReply (.outcome (.ok ()))])) := by
  have hclose (u : Session) (r : Reply) : (u.closeThen t f r).control = .give r ∨
      (u.closeThen t f r).control = .run (.teardown f) ∧
        (u.closeThen t f r).frames = [.thenReply r] := by
    unfold closeThen
    split
    · exact .inl rfl
    · split
      · exact .inl rfl
      · simp only
        split
        · exact .inr ⟨rfl, rfl⟩
        · split
          · exact .inl rfl
          · exact .inr ⟨rfl, rfl⟩
  have htell (u : Session) (n : Word) :
      (u.emit (.released f n)).holderChanges f = u.holderChanges f ++ [.dropped] := by
    simp [holderChanges, Event.holderChange?]
  refine ⟨fun hclosing => by simp [release, hf, hclosing], fun hopen => ?_⟩
  simp only [release, hf, hopen, Bool.false_eq_true, if_false]
  cases mode with
  | abort =>
    refine ⟨?_, hclose _ _⟩
    simp only [holderChanges_closeThen]
    rw [← holderChanges_life, life_log, holderChanges_life, holderChanges, history_emit,
      List.filterMap_append, ← holderChanges, htell]
    exact List.append_nil _
  | release =>
    simp only
    split
    · exact ⟨(holderChanges_closeThen ..).trans (htell ..), hclose _ _⟩
    · exact ⟨htell .., .inl rfl⟩

/-! ### Runs -/

/-- While a function stays open and its count does not wrap, a run that goes on makes of its holders
what the journal tells. -/
theorem Onward.holders_eq (ho : s.Onward s') (h : s.Reachable)
    (hf : s.functions.object? f = some fn) (hf' : s'.functions.object? f = some fn')
    (hopen : fn'.closing = false) (hwrap : .acquired f 0 ∉ s'.told f) :
    (s.life f).Counts f fn (s'.life f) fn' := by
  induction ho generalizing fn' with
  | refl =>
    obtain rfl := Option.some.inj (hf.symm.trans hf')
    exact .refl hopen hwrap
  | act a _ _ ih => exact ih hf' hopen hwrap
  | @step u u' t hu _ hstep ih =>
    obtain ⟨fn₁, hf₁, -⟩ := hu.ages h hf
    obtain ⟨own, own', hlife⟩ := (h.onward hu).lifeStep hstep f
    have hcounts := hlife.holders_eq hf₁ hf' hopen hwrap
    exact (ih hf₁ hcounts.1 hcounts.2.1).trans hcounts
  | @lose u i position hu ih =>
    obtain ⟨fn₁, hf₁, -⟩ := hu.ages h hf
    obtain ⟨hlife, -⟩ := loseTask_step (s := u) f i position
    have hcounts := hlife.holders_eq hf₁ hf' hopen hwrap
    exact (ih hf₁ hcounts.1 hcounts.2.1).trans hcounts

/-- Nothing was told of the holders of a function that has just been created. -/
theorem Reachable.holderChanges_eq_nil (h : s.Reachable) (hstep : s.step t = some s')
    (hf : s.functions.object? f = none) (hf' : s'.functions.object? f = some fn) :
    s'.holderChanges f = [] := by
  obtain ⟨own, own', hlife⟩ := h.lifeStep hstep f
  obtain ⟨hunborn, -⟩ := (h.run f id).eq_unborn (show (s.life f).function = none from hf)
  have htold : (s'.life f).told = (s.life f).told := hlife.told_of_create hf hf'
  rw [← holderChanges_life, Life.holderChanges, htold, hunborn]
  rfl

/-- The holders of a function, from its creation to its closing. -/
theorem Reachable.holder_count (h : s.Reachable) (hrest : s.OthersAtRest t)
    (hstep : s.step t = some s₁) (hf : s.functions.object? f = none)
    (hf₁ : s₁.functions.object? f = some fn) :
    ∃ th spec, s.threads.get? t = some th ∧ th.creates? = some spec ∧
      fn.threadCount = spec.threadCount ∧
      ∀ s', s₁.Onward s' → ∃ fn', s'.functions.object? f = some fn' ∧
        (fn'.closing = false → 0 ∉ s'.acquisitions f →
          fn'.threadCount.toNat = holdersAfter spec.threadCount.toNat (s'.holderChanges f) ∧
          fn'.threadCount.toNat + (s'.releases f).length
            = spec.threadCount.toNat + (s'.acquisitions f).length
              + idleDrops spec.threadCount.toNat (s'.holderChanges f)) := by
  obtain ⟨th, env, reference, spec, delivery, invoker, hth, hspec, rfl⟩ :=
    h.exists_create hstep hf hf₁
  refine ⟨th, spec, hth, hspec, rfl, fun s' ho => ?_⟩
  have hreachable : s₁.Reachable := h.step t hrest hstep
  obtain ⟨fn', hf', -⟩ := ho.ages hreachable hf₁
  refine ⟨fn', hf', fun hopen hwrap => ?_⟩
  rw [mem_acquisitions, ← mem_told_iff (f := f) (by simp [Event.concerns])] at hwrap
  obtain ⟨-, -, cs, hcs, hcount⟩ := ho.holders_eq hreachable hf₁ hf' hopen hwrap
  rw [holderChanges_life, holderChanges_life, h.holderChanges_eq_nil hstep hf hf₁,
    List.nil_append] at hcs
  have hbalance := holdersAfter_add_count spec.threadCount.toNat cs
  rw [← hcs, count_added, count_dropped] at hbalance
  have hcount : fn'.threadCount.toNat = holdersAfter spec.threadCount.toNat cs := hcount
  rw [hcs, hcount]
  rw [hcs] at hbalance
  exact ⟨rfl, hbalance⟩

/-- A function without holders is about to be created. -/
def askedForNone : Session :=
  ((start [] none).during? [.createInvoker "queue" .unlimited]
    (.createFunction { name := "f", threads := 0, callJs := true, invoker := some "queue" }) 1).get
    (by decide +kernel)

/-- The function exists. -/
def createdWithNone : Session := (askedForNone.step .main).get (by decide +kernel)

/-- While an item is queued, a holder was dropped where there is none, and then one was added. -/
def droppedNone : Session :=
  ((createdWithNone.settle stepLimit).performed?
    [.call (.named "f") (.word 1) .nonBlocking,
      .release (.named "f") .release,
      .acquire (.named "f")]).get (by decide +kernel)

theorem onward_droppedNone : createdWithNone.Onward droppedNone :=
  (Onward.refl.settle stepLimit).performed? (Option.some_get _).symm

/-- The holder that was added is there, because the release before it dropped none. -/
theorem holder_count_droppedNone :
    ∃ fn, droppedNone.functions.object? ⟨1⟩ = some fn ∧ fn.closing = false ∧
      fn.threadCount.toNat = holdersAfter 0 [.dropped, .added] ∧
      fn.threadCount.toNat + 1 = 0 + 1 + idleDrops 0 [.dropped, .added] := by
  have hreachable : askedForNone.Reachable :=
    (Reachable.start [] none).during? (Option.some_get _).symm
  have hstep : askedForNone.step .main = some createdWithNone := (Option.some_get _).symm
  have hcreated : createdWithNone.functions.object? ⟨1⟩ = some _ :=
    (Option.some_get (by decide +kernel)).symm
  obtain ⟨th, spec, -, -, hcount, honward⟩ :=
    hreachable.holder_count (by decide +kernel) hstep (by decide +kernel) hcreated
  obtain ⟨fn, hfn, hholders⟩ := honward _ onward_droppedNone
  have hnone : spec.threadCount = 0 := hcount.symm.trans (by decide +kernel)
  have hopen : (droppedNone.functions.object? ⟨1⟩).map (·.closing) = some false := by
    decide +kernel
  rw [hfn] at hopen
  have hopen : fn.closing = false := Option.some.inj hopen
  have hchanges : droppedNone.holderChanges ⟨1⟩ = [.dropped, .added] := by decide +kernel
  have hacquisitions : droppedNone.acquisitions ⟨1⟩ = [1] := by decide +kernel
  have hreleases : droppedNone.releases ⟨1⟩ = [0] := by decide +kernel
  obtain ⟨hafter, hbalance⟩ := hholders hopen (by rw [hacquisitions]; decide)
  rw [hnone, hchanges] at hafter hbalance
  rw [hacquisitions, hreleases] at hbalance
  exact ⟨fn, hfn, hopen, hafter, hbalance⟩

/-- The count is not what the function was created with, and the acquires, less the releases. -/
theorem unbalanced_droppedNone :
    ∃ fn fn', askedForNone.Reachable ∧ askedForNone.step .main = some createdWithNone ∧
      askedForNone.functions.object? ⟨1⟩ = none ∧
      createdWithNone.functions.object? ⟨1⟩ = some fn ∧ createdWithNone.Onward droppedNone ∧
      droppedNone.functions.object? ⟨1⟩ = some fn' ∧ fn'.closing = false ∧
      (fn'.threadCount.toNat : ℤ) ≠ fn.threadCount.toNat + (droppedNone.acquisitions ⟨1⟩).length
        - (droppedNone.releases ⟨1⟩).length := by
  have hcreated : createdWithNone.functions.object? ⟨1⟩ = some _ :=
    (Option.some_get (by decide +kernel)).symm
  have hkept : droppedNone.functions.object? ⟨1⟩ = some _ :=
    (Option.some_get (by decide +kernel)).symm
  exact ⟨_, _, (Reachable.start [] none).during? (Option.some_get _).symm,
    (Option.some_get _).symm, by decide +kernel, hcreated, onward_droppedNone, hkept,
    by decide +kernel, by decide +kernel⟩

end Session

end AddonHost
