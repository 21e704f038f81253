import AddonHost.Proofs.Transparency.Mirror

/-!
Steps of threadsafe functions in both sessions.
-/

namespace AddonHost

variable {A : Addon} {past : List Event} {pairs : List Pair} {hosts : Assoc HostId Host}
  {s d : Session} {fs fs' : List Frame} {w f f' : HandleId} {X : Expected}
  {fn : ThreadsafeFunction}

@[simp] theorem ThreadsafeFunction.admission_wrappedAs (fn : ThreadsafeFunction) (w : HandleId)
    (mode : CallMode) : (fn.wrappedAs w).admission mode = fn.admission mode := rfl

theorem ThreadsafeFunction.pop_wrappedAs (fn : ThreadsafeFunction) (w : HandleId) :
    (fn.wrappedAs w).pop = (fn.pop.1, fn.pop.2.wrappedAs w) := by
  cases hqueue : fn.queue <;> simp only [pop, wrappedAs, hqueue]

/-- A call that has to wait is a blocking one, and the queue is at its bound. -/
theorem ThreadsafeFunction.full_of_admission {mode : CallMode} (h : fn.admission mode = .wait) :
    mode = .blocking ∧ (fn.isFull && !fn.closing) = true := by
  revert h
  unfold admission
  cases mode <;> cases fn.aborted <;> cases fn.closing <;> cases fn.isFull <;> simp

theorem ThreadsafeFunction.OfAddon.pop (h : fn.OfAddon) :
    fn.pop.2.OfAddon := by
  unfold ThreadsafeFunction.pop
  split <;> exact ⟨h.1, h.2⟩

/-- The addon's finalizer is called, whoever owns it. -/
theorem Session.exists_finalizer_extension (s : Session) (owner : Option HandleId)
    (data env hint : Word) :
    ∃ s₀, s.Shows s₀ [] ∧ s.finalizer owner (.extension data) env hint =
      ((s₀.emit (.finalize env data hint)).fire (.finalize data)).2.run
        (.script .callback ((s₀.emit (.finalize env data hint)).fire (.finalize data)).1) := by
  cases owner with
  | none => exact ⟨s, .refl s, rfl⟩
  | some f => exact ⟨s.emit (.finalizerCalled f), shows_emit_unseen rfl s, rfl⟩

namespace Twin

/-- Both threads give a reply. -/
theorem give (h : Twin A past pairs hosts none s d) {r r' : Reply} (hr : r.Alike pairs X r')
    (hstack : StackAlike A pairs hosts .between X fs fs') :
    Move.Alike A past fs fs' (s.give r) (d.give r') :=
  .goOn .between h trivial (.give hr) hstack

/-- Both threads go on with a piece of code. -/
theorem run (h : Twin A past pairs hosts none s d) {c c' : Code} {frames frames' : List Frame}
    (hc : ControlAlike A pairs s.wrapped s.functions d.functions .between X (.run c) (.run c'))
    (hstack : StackAlike A pairs hosts .between X (frames ++ fs) (frames' ++ fs')) :
    Move.Alike A past fs fs' (s.run c frames) (d.run c' frames') :=
  .goOn .between h trivial hc hstack

/-- Both threads put a frame on their stacks and give it nothing. -/
theorem giveAbove (h : Twin A past pairs hosts none s d) {frames frames' : List Frame}
    (hstack : StackAlike A pairs hosts .between .nothing (frames ++ fs) (frames' ++ fs')) :
    Move.Alike A past fs fs' { s.give .unit with frames := frames }
      { d.give .unit with frames := frames' } :=
  .goOn .between h trivial (.give (X := .nothing) trivial) hstack

/-- A change made by both. -/
theorem changeFunction {ending : Option HandleId} (h : Twin A past pairs hosts ending s d)
    (hp : .function w f f' ∈ pairs) (g : ThreadsafeFunction → ThreadsafeFunction)
    (hg : ∀ fn, g (fn.wrappedAs w) = (g fn).wrappedAs w)
    (hof : ∀ fn : ThreadsafeFunction, fn.OfAddon → (g fn).OfAddon) :
    Twin A past pairs hosts ending (s.modifyFunction f g) (d.modifyFunction f' g) :=
  h.modifyFunction hp fun fn _ hfn => ⟨hg fn, hof fn hfn⟩

/-! ### Calls -/

/-- An item is appended to the queue of a function. -/
theorem appendItem (h : Twin A past pairs hosts none s d) (hp : .function w f f' ∈ pairs)
    (data : Word) (hstack : StackAlike A pairs hosts .between .outcome fs fs') :
    Move.Alike A past fs fs' (s.appendItem .main f (fn.wrappedAs w) data)
      (d.appendItem .main f' fn data) := by
  have hok : Reply.Alike pairs .outcome (.outcome (.ok ())) (.outcome (.ok ())) := ⟨_, rfl, rfl⟩
  have hpushed : Twin A past pairs hosts none
      ((s.modifyFunction f (·.push data)).emit (.appended f data))
      ((d.modifyFunction f' (·.push data)).emit (.appended f' data)) :=
    (h.changeFunction hp (·.push data) (fun _ => rfl) fun _ hof => ⟨hof.1, hof.2⟩).emit rfl rfl
  unfold Session.appendItem
  simp only [show (fn.wrappedAs w).invoker = fn.invoker from rfl,
    show (fn.wrappedAs w).delivery = fn.delivery from rfl]
  rcases hpushed.liveInvoker fn.invoker with ⟨hi, hi'⟩ | ⟨i, inv, inv', hi, hi'⟩
  · rw [hi, hi']
    exact ((hpushed.emit rfl rfl).log ..).give hok hstack
  · rw [hi, hi']
    obtain ⟨o, s₁, d₁, ho, ho', hoffer, h₁⟩ :=
      hpushed.offer i (decide (fn.delivery = .sync)) (.drain hp)
    simp only [ho, ho']
    rcases hoffer with rfl | rfl | ⟨-, rfl⟩
    · exact (h₁.emit rfl rfl).give hok hstack
    · exact ((h₁.emit rfl rfl).log ..).give hok hstack
    · exact ((h₁.emit rfl rfl).keepInvoker i).run (.task i (.drain hp))
        (.ranInline i (.called i hstack))

/-- A function is called, with space in its queue if the call would wait for it. -/
theorem call (h : Twin A past pairs hosts none s d) (hp : .function w f f' ∈ pairs) (data : Word)
    (mode : CallMode) (hspace : mode = .blocking → ∀ fn, d.functions.object? f' = some fn →
      (fn.isFull && !fn.closing) = false)
    (hstack : StackAlike A pairs hosts .between .outcome fs fs') :
    Move.Alike A past fs fs' (s.call .main f data mode) (d.call .main f' data mode) := by
  obtain ⟨fn, hfn', hfn, -⟩ := (h.functions hp).object
  unfold Session.call
  simp only [hfn, hfn', ThreadsafeFunction.admission_wrappedAs]
  cases hadmission : fn.admission mode with
  | refuse e => exact h.give (X := .outcome) ⟨_, rfl, rfl⟩ hstack
  | append => exact h.appendItem hp data hstack
  | wait =>
    obtain ⟨hmode, hfull⟩ := ThreadsafeFunction.full_of_admission hadmission
    simp [hspace hmode fn hfn'] at hfull

/-! ### Closing -/

/-- A function is closed, and torn down at once if no invoker takes the teardown. -/
theorem closeThen (h : Twin A past pairs hosts none s d) (hp : .function w f f' ∈ pairs) {r : Reply}
    (hr : r.Alike [] X r) (hstack : StackAlike A pairs hosts .between X fs fs') :
    Move.Alike A past fs fs' (s.closeThen .main f r) (d.closeThen .main f' r) := by
  have hr' : r.Alike pairs X r := hr.mono (List.nil_subset _)
  obtain ⟨fn, hfn', hfn, -⟩ := (h.functions hp).object
  unfold Session.closeThen
  simp only [hfn, hfn', show (fn.wrappedAs w).finalizeScheduled = fn.finalizeScheduled from rfl,
    show (fn.wrappedAs w).invoker = fn.invoker from rfl]
  split
  · exact h.give hr' hstack
  have hclosed : Twin A past pairs hosts none ((s.modifyFunction f (·.close)).emit (.closed f))
      ((d.modifyFunction f' (·.close)).emit (.closed f')) :=
    (h.changeFunction hp (·.close) (fun _ => rfl) fun _ hof => ⟨hof.1, fun _ => rfl⟩).emit rfl rfl
  have hatOnce : ∀ {s₁ d₁ : Session} (text text' : String), Twin A past pairs hosts none s₁ d₁ →
      Move.Alike A past fs fs'
        (((s₁.emit (.teardownOffered f false)).log .debug text).run (.teardown f) [.thenReply r])
        (((d₁.emit (.teardownOffered f' false)).log .debug text').run (.teardown f')
          [.thenReply r]) := fun _ _ h₁ =>
    ((h₁.emit rfl rfl).log ..).run (.teardown hp) (.thenReply hr hstack)
  rcases hclosed.liveInvoker fn.invoker with ⟨hi, hi'⟩ | ⟨i, inv, inv', hi, hi'⟩
  · rw [hi, hi']
    exact hatOnce _ _ hclosed
  · rw [hi, hi']
    obtain ⟨o, s₁, d₁, ho, ho', hoffer, h₁⟩ := hclosed.offer i false (.teardown hp)
    simp only [ho, ho']
    rcases hoffer with rfl | rfl | ⟨hsync, -⟩
    · exact (h₁.emit rfl rfl).give hr' hstack
    · exact hatOnce _ _ h₁
    · cases hsync

/-- A holder gives up a function. -/
theorem release (h : Twin A past pairs hosts none s d) (hp : .function w f f' ∈ pairs)
    (mode : ReleaseMode) (hstack : StackAlike A pairs hosts .between .outcome fs fs') :
    Move.Alike A past fs fs' (s.release .main f mode) (d.release .main f' mode) := by
  have hok : Reply.Alike [] .outcome (.outcome (.ok ())) (.outcome (.ok ())) := ⟨_, rfl, rfl⟩
  obtain ⟨fn, hfn', hfn, -⟩ := (h.functions hp).object
  unfold Session.release
  simp only [hfn, hfn', show (fn.wrappedAs w).closing = fn.closing from rfl]
  split
  · exact h.give (X := .outcome) ⟨_, rfl, rfl⟩ hstack
  cases mode with
  | abort =>
    refine closeThen ?_ hp hok hstack
    exact (((h.changeFunction hp (·.abort.dropHolder) (fun _ => rfl) fun _ hof =>
      ⟨hof.1, fun _ => rfl⟩).emit rfl rfl).emit rfl rfl).log ..
  | release =>
    have hdropped : Twin A past pairs hosts none
        ((s.modifyFunction f (·.dropHolder)).emit
          (.released f (fn.wrappedAs w).dropHolder.threadCount))
        ((d.modifyFunction f' (·.dropHolder)).emit (.released f' fn.dropHolder.threadCount)) :=
      (h.changeFunction hp (·.dropHolder) (fun _ => rfl) fun _ hof => ⟨hof.1, hof.2⟩).emit rfl rfl
    simp only [show (fn.wrappedAs w).dropHolder.isSpent = fn.dropHolder.isSpent from rfl]
    split
    · exact hdropped.closeThen hp hok hstack
    · exact hdropped.give (X := .outcome) ⟨_, rfl, rfl⟩ hstack

/-! ### Deliveries -/

/-- A dispatch task takes one item. -/
theorem drain (h : Twin A past pairs hosts none s d) (hp : .function w f f' ∈ pairs)
    (hstack : StackAlike A pairs hosts .between .nothing fs fs') :
    Move.Alike A past fs fs' (s.drain f) (d.drain f') := by
  obtain ⟨fn, hfn', hfn, hof⟩ := (h.functions hp).object
  have hpopped : Twin A past pairs hosts none
      ((s.emit (.drainStarted f)).modifyFunction f fun _ => fn.pop.2.wrappedAs w)
      ((d.emit (.drainStarted f')).modifyFunction f' fun _ => fn.pop.2) :=
    (h.emit rfl rfl).modifyFunction hp fun _ _ _ => ⟨rfl, hof.pop⟩
  have hqueue : (fn.pop.2.wrappedAs w).queue = fn.pop.2.queue := rfl
  have haborted : (fn.wrappedAs w).aborted = fn.aborted := rfl
  unfold Session.drain
  simp only [hfn, hfn', ThreadsafeFunction.pop_wrappedAs, hqueue, haborted]
  cases fn.pop.1 with
  | none => exact hpopped.giveAbove (.drained hp _ hstack)
  | some data =>
    have htaken : Twin A past pairs hosts none (Session.emit _ (.taken f data))
        (Session.emit _ (.taken f' data)) := hpopped.emit rfl rfl
    simp only
    split
    · exact htaken.giveAbove (.drained hp _ hstack)
    · exact htaken.run (.deliver hp data) (.drained hp _ hstack)

/-- After a delivery, a function without holders is closed. -/
theorem afterDrain (h : Twin A past pairs hosts none s d) (hp : .function w f f' ∈ pairs)
    (wasEmpty : Bool) (hstack : StackAlike A pairs hosts .between .nothing fs fs') :
    Move.Alike A past fs fs' (s.afterDrain .main f wasEmpty) (d.afterDrain .main f' wasEmpty) := by
  obtain ⟨fn, hfn', hfn, -⟩ := (h.functions hp).object
  unfold Session.afterDrain
  simp only [hfn, hfn', show (fn.wrappedAs w).threadCount = fn.threadCount from rfl,
    show (fn.wrappedAs w).closing = fn.closing from rfl]
  split
  · exact h.closeThen hp (X := .nothing) trivial hstack
  · exact h.give (X := .nothing) trivial hstack

/-- An item is handed to the addon, or to the function that was found. -/
theorem deliverWith (h : Twin A past pairs hosts none s d) (hp : .function w f f' ∈ pairs)
    (func data : Word) (hstack : StackAlike A pairs hosts .between .nothing fs fs') :
    Move.Alike A past fs fs' (s.deliverWith f (fn.wrappedAs w) func data)
      (d.deliverWith f' fn func data) := by
  unfold Session.deliverWith
  simp only [show (fn.wrappedAs w).callJs = fn.callJs from rfl,
    show (fn.wrappedAs w).env = fn.env from rfl, show (fn.wrappedAs w).context = fn.context from rfl]
  split
  · have hcalled := (h.log .trace (functionText f ++ ": call_js")
      (functionText f' ++ ": call_js")).emitSeen rfl rfl (.callJs fn.env func fn.context data hp)
    obtain ⟨actions, actions', s₁, d₁, hs, hd, hactions, h₁⟩ := hcalled.fire (.callJs data)
    simp only [hs, hd]
    exact h₁.run (.script hactions) hstack
  split
  · exact h.run (.asks _ _ _ (.inl rfl) rfl) (.gotReceiver hp func hstack)
  · exact h.give (X := .nothing) trivial hstack

/-- An item is delivered; the function behind the reference is asked for first. -/
theorem deliver (h : Twin A past pairs hosts none s d) (hp : .function w f f' ∈ pairs) (data : Word)
    (hstack : StackAlike A pairs hosts .between .nothing fs fs') :
    Move.Alike A past fs fs' (s.deliver f data) (d.deliver f' data) := by
  obtain ⟨fn, hfn', hfn, -⟩ := (h.functions hp).object
  unfold Session.deliver
  simp only [hfn, hfn', show (fn.wrappedAs w).reference = fn.reference from rfl,
    show (fn.wrappedAs w).env = fn.env from rfl]
  split
  · exact h.run (.asks _ _ _ (.inl rfl) rfl) (.gotFunction hp data hstack)
  · exact h.deliverWith hp 0 data hstack

/-- The function behind the reference was asked for. -/
theorem afterReference (h : Twin A past pairs hosts none s d) (hp : .function w f f' ∈ pairs)
    (data : Word) (r : Response) (hstack : StackAlike A pairs hosts .between .nothing fs fs') :
    Move.Alike A past fs fs' (s.afterReference f data r) (d.afterReference f' data r) := by
  obtain ⟨fn, hfn', hfn, -⟩ := (h.functions hp).object
  unfold Session.afterReference
  simp only [hfn, hfn']
  split
  · exact h.deliverWith hp _ data hstack
  · exact (h.log ..).deliverWith hp 0 data hstack

/-- The receiver was asked for. -/
theorem afterReceiver (h : Twin A past pairs hosts none s d) (hp : .function w f f' ∈ pairs)
    (func : Word) (r : Response) (hstack : StackAlike A pairs hosts .between .nothing fs fs') :
    Move.Alike A past fs fs' (s.afterReceiver f func r) (d.afterReceiver f' func r) := by
  obtain ⟨fn, hfn', hfn, -⟩ := (h.functions hp).object
  unfold Session.afterReceiver
  simp only [hfn, hfn', show (fn.wrappedAs w).env = fn.env from rfl]
  exact (h.emit rfl rfl).run (.asks _ _ _ (.inl rfl) rfl) (.gotResult hp hstack)

/-- The function was called. -/
theorem afterResult (h : Twin A past pairs hosts none s d) (r : Response)
    (hstack : StackAlike A pairs hosts .between .nothing fs fs') :
    Move.Alike A past fs fs' (s.afterResult f r) (d.afterResult f' r) := by
  unfold Session.afterResult
  split
  · exact h.give (X := .nothing) trivial hstack
  · exact (h.log ..).give (X := .nothing) trivial hstack

/-- The addon's finalizer is called. -/
theorem finalizer (h : Twin A past pairs hosts none s d) (owner owner' : Option HandleId)
    (data env hint : Word) (hstack : StackAlike A pairs hosts .between .nothing fs fs') :
    Move.Alike A past fs fs' (s.finalizer owner (.extension data) env hint)
      (d.finalizer owner' (.extension data) env hint) := by
  obtain ⟨s₀, hs₀, hfinalizer⟩ := s.exists_finalizer_extension owner data env hint
  obtain ⟨d₀, hd₀, hfinalizer'⟩ := d.exists_finalizer_extension owner' data env hint
  have hcalled := ((h.showsLeft hs₀).showsRight hd₀).emitSeen rfl rfl (.finalize env data hint)
  obtain ⟨actions, actions', s₁, d₁, hs, hd, hactions, h₁⟩ := hcalled.fire (.finalize data)
  rw [hfinalizer, hfinalizer', hs, hd]
  exact h₁.run (.script hactions) hstack

/-! ### The end of a teardown -/

/-- The finalizer has returned: the reference is deleted, if there is one. -/
theorem afterFinalizer (h : Twin A past pairs hosts (some f) s d) (hp : .function w f f' ∈ pairs)
    (hstack : StackAlike A pairs hosts .between .nothing fs fs') :
    Move.Alike A past fs fs' (s.afterFinalizer f) (d.afterFinalizer f') := by
  obtain ⟨fn, hfn', hfn, -⟩ := (h.functions hp).object
  have hforgotten := h.changeFunction hp (fun fn => { fn with reference := 0 }) (fun _ => rfl)
    fun _ hof => ⟨hof.1, hof.2⟩
  unfold Session.afterFinalizer
  simp only [hfn, hfn', show (fn.wrappedAs w).reference = fn.reference from rfl,
    show (fn.wrappedAs w).env = fn.env from rfl]
  split
  · exact .goOn (.ending f) hforgotten trivial (.asks _ _ _ (.inl rfl) rfl)
      (.unreferenced hp nofun hstack)
  · exact .goOn (.ending f) hforgotten trivial (.give (X := .nothing) trivial)
      (.unreferenced hp nofun hstack)

/-- The reference is gone: the function is unregistered. -/
theorem unregisterFunction (h : Twin A past pairs hosts (some f) s d)
    (hp : .function w f f' ∈ pairs) (hstack : StackAlike A pairs hosts .between .nothing fs fs') :
    Move.Alike A past fs fs' (s.unregisterFunction f) (d.unregisterFunction f') := by
  obtain ⟨fn, hfn', hfn, -⟩ := (h.functions hp).object
  unfold Session.unregisterFunction
  simp only [hfn, hfn']
  exact Twin.give (((h.unregister hp).log ..).emit rfl rfl) (X := .nothing) trivial hstack

/-! ### Creation -/

/-- Both processes are aborted. -/
theorem abort {ending : Option HandleId} (h : Twin A past pairs hosts ending s d) :
    Move.Alike A past fs fs' s.abort d.abort :=
  .halt rfl rfl h.seenAlike

/-- A fatal error is reported in the same way. -/
theorem fatalError {ending : Option HandleId} (h : Twin A past pairs hosts ending s d)
    (location message : String) :
    Move.Alike A past fs fs' (s.fatalError location message) (d.fatalError location message) := by
  have hlogged := h.log .error (fatalLine location message) (fatalLine location message)
  unfold Session.fatalError
  simp only [hlogged.injected]
  cases hp : ((s.log .error (fatalLine location message)).injected.provider? .fatalError) with
  | none => exact abort { hlogged with }
  | some p =>
    obtain ⟨slot, rfl⟩ := hlogged.provided .fatalError rfl p hp
    exact abort (hlogged.emitSeen rfl rfl (.engineFatal slot _ _))

/-- Both threads give the handle of a function that they have registered. -/
theorem giveRegistered {s₁ d₁ : Session} (h : Twin A past pairs hosts none s d) (hs : s.Shows s₁ [])
    (hd : d.Shows d₁ []) (hholds : Reserved A pairs w s.wrapped s.functions d.ids.next)
    (hregistered : Registered pairs w s.functions d.functions f f')
    (hstack : StackAlike A pairs hosts (.creating w) .handle fs fs') :
    Move.Alike A past fs fs' (s₁.give (.handle f)) (d₁.give (.handle f')) := by
  have h₁ := h.shows hs hd .nil
  obtain ⟨_, _, _, _, rfl, -⟩ := hs
  obtain ⟨_, _, _, _, rfl, -⟩ := hd
  exact .goOn (.creating w) h₁ hholds (.registered hregistered) hstack

/-- A function is registered in both sessions. -/
theorem registerFunction (h : Twin A past pairs hosts none s d) (hids : s.ids.next < 2 ^ 64)
    (hreserved : Reserved A pairs w s.wrapped s.functions d.ids.next) (env reference : Word)
    (spec : FunctionSpec) (data : Option Word) (delivery : Delivery) (invoker : Option InvokerId)
    (hstack : StackAlike A pairs hosts (.creating w) .handle fs fs') :
    Move.Alike A past fs fs'
      (s.registerFunction env reference
        { spec with finalizer := some (.wrapped w (data.map .extension)) } delivery invoker)
      (d.registerFunction env reference { spec with finalizer := data.map .extension } delivery
        invoker) := by
  obtain ⟨g, hg, hhost⟩ := hreserved.live
  obtain ⟨hpos, hlt⟩ := h.wrapped.functions w (Registry.live?_eq_some_iff.1 hg).1
  have hne : w ≠ ⟨s.ids.next⟩ := by
    rintro rfl
    exact Nat.lt_irrefl _ hlt
  have hholds : Reserved A pairs w s.wrapped
      (s.functions.insert ⟨s.ids.next⟩ (ThreadsafeFunction.create env reference
        { spec with finalizer := some (.wrapped w (data.map .extension)) } delivery invoker))
      (d.ids.next + 1) := by
    refine ⟨⟨g, hg, hhost⟩, fun hmem => ?_, fun p hp =>
      (hreserved.before p hp).mono le_rfl (Nat.le_succ _)⟩
    rcases (Registry.mem_ids_insert ..).1 hmem with ⟨hmem, -⟩ | heq
    · exact hreserved.foreign hmem
    · exact hne heq
  refine (h.insertFunction hids _ _).giveRegistered (Session.shows_log ..) (Session.shows_log ..) hholds
    ⟨⟨.create env reference { spec with finalizer := data.map .extension } delivery invoker, ?_, ?_,
      ⟨data, rfl⟩, nofun⟩, hreserved.before, hlt.le⟩ hstack
  · simp [Registry.live?, Registry.owns_insert_self]
    rfl
  · simp [Registry.live?, Registry.owns_insert_self]

/-- A function is created: first a reference to what it calls, if it calls anything. -/
theorem createFunction (h : Twin A past pairs hosts none s d) (hids : s.ids.next < 2 ^ 64)
    (hreserved : Reserved A pairs w s.wrapped s.functions d.ids.next) (env : Word)
    (spec : FunctionSpec) (data : Option Word) (delivery : Delivery) (invoker : Option InvokerId)
    (hstack : StackAlike A pairs hosts (.creating w) .handle fs fs') :
    Move.Alike A past fs fs'
      (s.createFunction env { spec with finalizer := some (.wrapped w (data.map .extension)) } delivery
        invoker)
      (d.createFunction env { spec with finalizer := data.map .extension } delivery invoker) := by
  unfold Session.createFunction
  split
  · exact .goOn (.creating w) h hreserved (.asks _ _ _ (.inl rfl) rfl)
      (.referenced env spec data delivery invoker hstack)
  · exact h.registerFunction hids hreserved env 0 spec data delivery invoker hstack

/-- The reference was asked for. -/
theorem afterCreateReference (h : Twin A past pairs hosts none s d) (hids : s.ids.next < 2 ^ 64)
    (hreserved : Reserved A pairs w s.wrapped s.functions d.ids.next) (env : Word)
    (spec : FunctionSpec) (data : Option Word) (delivery : Delivery) (invoker : Option InvokerId)
    (r : Response) (hstack : StackAlike A pairs hosts (.creating w) .handle fs fs') :
    Move.Alike A past fs fs'
      (s.afterCreateReference env { spec with finalizer := some (.wrapped w (data.map .extension)) }
        delivery invoker r)
      (d.afterCreateReference env { spec with finalizer := data.map .extension } delivery invoker
        r) := by
  unfold Session.afterCreateReference
  split
  · exact h.registerFunction hids hreserved env _ spec data delivery invoker hstack
  · exact h.fatalError _ _

end Twin

end AddonHost
