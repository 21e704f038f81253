import AddonHost.Proofs.Transparency.Calls
import AddonHost.Session.Reachable

/-!
The main threads go on in step.

From corresponding sessions, the direct main thread takes one step and the routed one takes one or
more, and the sessions correspond again (`Mirror.advances`).  Two things may come in between.  Both
threads may be at rest.  And a blocking call may find the queue of a function at its bound, when
nobody is there to make space: then the routed thread waits, and the direct session refuses to begin
the call, because it would have to wait.
-/

namespace AddonHost

variable {A : Addon} {past : List Event} {pairs : List Pair} {hosts : Assoc HostId Host}
  {s d : Session} {fs fs' : List Frame} {w f f' j j' : HandleId} {X : Expected} {e : Entry}
  {stage : Stage} {P : Session → Prop} {c c' : Code} {m m' : Move}

/-! ### Creations -/

namespace Session

/-- A function that has nothing to call is not created. -/
theorem createFunctionEntry_refused {spec : FunctionSpec} (s : Session) (env : Word)
    (h : (decide (spec.func = 0) && !spec.callJs) = true) :
    s.createFunctionEntry env spec true =
      (s.log .debug (Entry.createThreadsafeFunction.name ++
        ": neither func nor call_js_cb given")).respond .invalidArg := by
  unfold createFunctionEntry
  rw [if_neg (by simp), if_pos h]

/-- A function that has something to call is created under the configuration in force. -/
theorem createFunctionEntry_eq {spec : FunctionSpec} {config : RuntimeConfig} {s s₁ : Session}
    (env : Word) (h : ¬(decide (spec.func = 0) && !spec.callJs) = true)
    (hread : s.readConfig = (config, s₁)) :
    s.createFunctionEntry env spec true =
      s₁.run (.createFunction env spec config.delivery (s₁.bindings.get? env)) [.createdResponse] := by
  unfold createFunctionEntry
  rw [if_neg (by simp), if_neg h, hread]

end Session

/-! ### Steps of the main thread -/

/-- The main thread comes to a session with a property, and is in the middle of an operation until
then. -/
inductive Leads (P : Session → Prop) : Session → Prop where
  | arrives {s s' : Session} (hstep : s.step .main = some s') (h : P s') : Leads P s
  | passes {s s' : Session} (hstep : s.step .main = some s') (hbusy : s'.isBusy .main = true)
    (h : Leads P s') : Leads P s

theorem Session.isBusy_apply (m : Move) (below : List Frame) :
    (apply m .main below).isBusy .main =
      !(⟨m.control, m.frames ++ below⟩ : Thread).atRest := by
  simp [isBusy, threads_apply]

theorem Leads.run (hrunning : s.halted = false)
    (hs : s.threads.get? .main = some ⟨.run c, fs⟩) (hm : c.step .main s = some m)
    (hbusy : (⟨m.control, m.frames ++ fs⟩ : Thread).atRest = false)
    (h : Leads P (Session.apply m .main fs)) : Leads P s :=
  .passes (Session.step_run hrunning hs hm) (by simp [Session.isBusy_apply, hbusy]) h

theorem Leads.give {fr : Frame} {r : Reply} (hrunning : s.halted = false)
    (hs : s.threads.get? .main = some ⟨.give r, fr :: fs⟩)
    (hbusy : (⟨(fr.resume .main s r).control, (fr.resume .main s r).frames ++ fs⟩ : Thread).atRest
      = false)
    (h : Leads P (Session.apply (fr.resume .main s r) .main fs)) : Leads P s :=
  .passes (Session.step_give hrunning hs) (by simp [Session.isBusy_apply, hbusy]) h

/-- The main thread waits for space in a queue. -/
def Session.Waits (s : Session) : Prop :=
  s.halted = false ∧ ∃ f data below fn, s.threads.get? .main = some ⟨.run (.awaitSpace f data), below⟩ ∧
    s.functions.object? f = some fn ∧ .main ∈ fn.sleepers

/-- The main thread is about to begin a blocking call that would have to wait for space. -/
def Session.WouldWait (s : Session) : Prop :=
  ∃ name args below,
    s.threads.get? .main = some ⟨.run (.perform (.entry name .callThreadsafeFunction args)), below⟩ ∧
      args.mode = CallMode.blocking.raw ∧ s.callWouldWait ⟨s.value args.func⟩ = true

/-- The main thread has answered, or the process was aborted. -/
def Session.Rests (s : Session) : Prop := s.halted = true ∨ s.MainIdle

/-- What the routed session comes to while the direct session takes one step. -/
inductive Reaches (A : Addon) (past : List Event) (d : Session) (s : Session) : Prop where
  | mirror {d' : Session} (hstep : d.step .main = some d') (h : Mirror A past s d')
  | waits (hs : s.Waits) (hd : d.WouldWait) (seen : SeenAlike A past s d)

/-- The direct thread runs a piece of code. -/
theorem Reaches.of_run (hrunning : d.halted = false)
    (hd : d.threads.get? .main = some ⟨.run c', fs'⟩) (hm' : c'.step .main d = some m')
    (halike : Move.Alike A past fs fs' m m') : Reaches A past d (Session.apply m .main fs) :=
  .mirror (Session.step_run hrunning hd hm') halike.mirror

/-- Both threads run a piece of code. -/
theorem leads_of_run {ending : Option HandleId} (h : Twin A past pairs hosts ending s d)
    (hs : s.threads.get? .main = some ⟨.run c, fs⟩) (hd : d.threads.get? .main = some ⟨.run c', fs'⟩)
    (hm : c.step .main s = some m) (hm' : c'.step .main d = some m')
    (halike : Move.Alike A past fs fs' m m') : Leads (Reaches A past d) s :=
  .arrives (Session.step_run h.running hs hm) (.of_run h.running' hd hm' halike)

/-- Both threads give a reply to a frame. -/
theorem leads_of_give {ending : Option HandleId} {r r' : Reply} {fr fr' : Frame}
    (h : Twin A past pairs hosts ending s d)
    (hs : s.threads.get? .main = some ⟨.give r, fr :: fs⟩)
    (hd : d.threads.get? .main = some ⟨.give r', fr' :: fs'⟩)
    (halike : Move.Alike A past fs fs' (fr.resume .main s r) (fr'.resume .main d r')) :
    Leads (Reaches A past d) s :=
  .arrives (Session.step_give h.running hs)
    (.mirror (Session.step_give h.running' hd) halike.mirror)

/-- A step of the routed main thread alone, after which it is somewhere else. -/
theorem Twin.apply {ending : Option HandleId} (h : Twin A past pairs hosts ending m.session d)
    (below : List Frame) :
    Twin A past pairs hosts ending (Session.apply m .main below) d :=
  h.showsLeft (Session.shows_setThread ..)

/-! ### Replies -/

/-- An engine's response is the same in both sessions. -/
theorem Reply.Alike.toResponse_eq {r r' : Reply} (h : r.Alike pairs (.response e) r')
    (he : e.ofRuntime = false) : r.toResponse = r'.toResponse := by
  obtain ⟨status, out, out', rfl, rfl, hout⟩ := h
  rw [Entry.outKind_eq_data he] at hout
  cases hout with
  | none => rfl
  | some hv =>
    obtain rfl := hv
    rfl

/-- What is written through an out-pointer is the same up to handles; without a value it is null. -/
theorem Pair.Match.getD {out out' : Option Word}
    (h : Option.Rel (Pair.Match pairs e.outKind) out out') :
    Pair.Match pairs e.outKind (out.getD 0) (out'.getD 0) := by
  cases h with
  | some hv => exact hv
  | none => cases e <;> first | exact rfl | exact .inl ⟨rfl, rfl⟩

namespace Twin

/-- The addon gets the response of an entry. -/
theorem answerResponse (h : Twin A past pairs hosts none s d) {out : Option String} {table : String}
    {args : EntryArgs} (hout : ∀ name, out = some name → A.kind name = e.outKind) {r r' : Reply}
    (hr : r.Alike pairs (.called e) r')
    (hstack : StackAlike A pairs hosts .between (.answer (.entry table e args)) fs fs') :
    Move.Alike A past fs fs' (s.answerResponse out r.toResponse)
      (d.answerResponse out r'.toResponse) := by
  obtain ⟨status, v, v', rfl, rfl, hv⟩ := hr
  unfold Session.answerResponse
  cases out with
  | none =>
    exact h.give (X := .answer (.entry table e args)) ⟨status, none, none, rfl, rfl, .none⟩ hstack
  | some name =>
    have hname := hout name rfl
    have hset : Twin A past pairs hosts none (s.setVariable name (v.getD 0))
        (d.setVariable name (v'.getD 0)) := by
      refine h.setVariable (fun raw hraw => ?_) (hname ▸ .getD hv)
      rw [hname] at hraw
      cases e <;> cases hraw
    exact hset.give (X := .answer (.entry table e args))
      ⟨status, _, _, rfl, rfl, .some (.getD hv)⟩ hstack

/-- A forwarded call has been answered: its host is let go, and the addon gets the response. -/
theorem leads_forwarded {host : HostId} {out : Option String} {r r' : Reply}
    (h : Twin A past pairs (hosts.keep host) none s d)
    (hs : s.threads.get? .main = some ⟨.give r, .forwarded host :: .responseAnswer out :: fs⟩)
    (hd : d.threads.get? .main = some ⟨.give r', .responseAnswer out :: fs'⟩)
    (hr : r.Alike pairs (.called e) r')
    (hstack : StackAlike A pairs hosts .between (.called e) (.responseAnswer out :: fs)
      (.responseAnswer out :: fs')) : Leads (Reaches A past d) s := by
  refine .give h.running hs rfl ?_
  have h₁ : Twin A past pairs hosts none
      (Session.apply ((s.releaseHost host).give r) .main (.responseAnswer out :: fs)) d :=
    Twin.apply (m := (s.releaseHost host).give r) h.releaseHost _
  cases hstack with
  | responseAnswer table e args hout hstack =>
    exact leads_of_give h₁ (Session.threads_apply ..) hd (h₁.answerResponse hout hr hstack)

/-- A finalizer has returned: the wrapped handle is forgotten, and the teardown goes on. -/
theorem leads_unwrapped {r r' : Reply} (h : Twin A past pairs hosts none s d)
    (hp : .function w f f' ∈ pairs)
    (hs : s.threads.get? .main = some ⟨.give r, .unwrapped w :: .finalized f :: fs⟩)
    (hd : d.threads.get? .main = some ⟨.give r', .finalized f' :: fs'⟩)
    (hstack : StackAlike A pairs hosts .between .nothing fs fs') : Leads (Reaches A past d) s := by
  refine .give h.running hs rfl ?_
  have h₁ : Twin A past pairs hosts (some f)
      (Session.apply ({ s with wrapped := s.wrapped.eraseFunction w }.give .unit) .main
        (.finalized f :: fs)) d :=
    Twin.apply (m := { s with wrapped := s.wrapped.eraseFunction w }.give .unit) (h.unwrap hp) _
  exact leads_of_give h₁ (Session.threads_apply ..) hd (h₁.afterFinalizer hp hstack)

/-- A reply is given to a frame. -/
theorem advances_give (h : Twin A past pairs hosts stage.ending? s d)
    (hholds : stage.Holds A pairs s.wrapped s.functions d.ids.next) (hids : s.ids.next < 2 ^ 64)
    {r r' : Reply} (hs : s.threads.get? .main = some ⟨.give r, fs⟩)
    (hd : d.threads.get? .main = some ⟨.give r', fs'⟩) (hr : r.Alike pairs X r')
    (hstack : StackAlike A pairs hosts stage X fs fs') :
    s.Rests ∧ d.Rests ∨ Leads (Reaches A past d) s := by
  cases hstack with
  | nil => exact .inl ⟨.inr ⟨r, hs⟩, .inr ⟨r', hd⟩⟩
  | performed ha hrest hstack =>
    exact .inr <| leads_of_give h hs hd <|
      (h.emitSeen rfl rfl (.did ha hr)).run (.script hrest) hstack
  | responseAnswer table e args hout hstack =>
    exact .inr <| leads_of_give h hs hd <| h.answerResponse hout hr hstack
  | forwarded host hstack => exact .inr <| h.leads_forwarded hs hd hr hstack
  | created host hstack => cases hr
  | outcomeResponse hstack =>
    obtain ⟨o, rfl, rfl⟩ := hr
    exact .inr <| leads_of_give h hs hd <| h.respond _ hstack
  | thenReply hr' hstack =>
    exact .inr <| leads_of_give h hs hd <| h.give (hr'.mono (List.nil_subset _)) hstack
  | called i hstack =>
    exact .inr <| leads_of_give h hs hd <| h.run (.letGo i (X := .outcome) ⟨_, rfl, rfl⟩) hstack
  | ranInline i hstack =>
    exact .inr <| leads_of_give h hs hd <|
      ((h.countExecuted i).emit rfl rfl).give (X := .nothing) trivial hstack
  | gotFunction hp data hstack =>
    refine .inr <| leads_of_give h hs hd ?_
    simp only [Frame.resume, hr.toResponse_eq rfl]
    exact h.afterReference hp data _ hstack
  | gotReceiver hp func hstack =>
    refine .inr <| leads_of_give h hs hd ?_
    simp only [Frame.resume, hr.toResponse_eq rfl]
    exact h.afterReceiver hp func _ hstack
  | gotResult hp hstack =>
    refine .inr <| leads_of_give h hs hd ?_
    simp only [Frame.resume, hr.toResponse_eq rfl]
    exact h.afterResult _ hstack
  | drained hp wasEmpty hstack =>
    exact .inr <| leads_of_give h hs hd <| h.afterDrain hp wasEmpty hstack
  | unwrapped hp hstack => exact .inr <| h.leads_unwrapped hp hs hd hstack
  | unreferenced hp _ hstack =>
    exact .inr <| leads_of_give h hs hd <| h.unregisterFunction hp hstack
  | executed hp env hstack =>
    exact .inr <| leads_of_give h hs hd <| h.afterExecute hp env hstack
  | completed hp hstack =>
    exact .inr <| leads_of_give h hs hd <|
      (h.modifyJob hp AsyncJob.finish).give (X := .nothing) trivial hstack
  | taskEnded i hsub hstack =>
    obtain ⟨ticket, htask⟩ := hsub
    exact .inr <| leads_of_give h hs hd <| (h.emit rfl rfl).give (X := .nothing) trivial hstack
  | pumped i goal hstack => exact .inr <| leads_of_give h hs hd <| h.afterPumped i goal hstack
  | engineScripted slot q hq hstack =>
    exact .inr <| leads_of_give h hs hd <| h.engineAnswer hholds slot hq hstack
  | referenced env spec data delivery invoker hstack =>
    refine .inr <| leads_of_give h hs hd ?_
    simp only [Frame.resume, hr.toResponse_eq rfl]
    exact h.afterCreateReference hids hholds env spec data delivery invoker _ hstack

/-! ### Forwarded calls -/

/-- A call is forwarded to the runtime, and the runtime performs it in both sessions. -/
theorem leads_forward {q q₁ q' : Request} {host : HostId} (h : Twin A past pairs hosts none s d)
    (hs : s.threads.get? .main = some ⟨.run (.entry .multiplexer q), fs⟩)
    (hd : d.threads.get? .main = some ⟨.run (.entry .runtime q'), fs'⟩)
    (hforward : s.forward q = (s.keepHost host).run (.entry .runtime q₁) [.forwarded host])
    (halike : ∀ s₁, s₁.ids = s.ids → s₁.functions = s.functions →
      Twin A past pairs (hosts.keep host) none s₁ d →
      Move.Alike A past (.forwarded host :: fs) fs' (s₁.runtimeEntry .main q₁)
        (d.runtimeEntry .main q')) : Leads (Reaches A past d) s := by
  refine .run h.running hs (congrArg some hforward) rfl ?_
  have h₁ : Twin A past pairs (hosts.keep host) none
      (Session.apply ((s.keepHost host).run (.entry .runtime q₁) [.forwarded host]) .main fs) d :=
    Twin.apply (m := (s.keepHost host).run (.entry .runtime q₁) [.forwarded host]) (h.keepHost host) _
  exact leads_of_run h₁ (Session.threads_apply ..) hd rfl rfl (halike _ rfl rfl h₁)

/-- The runtime has refused a creation: the reserved handle is forgotten. -/
theorem leads_refused {host : HostId} {r : Response} {n n' : ℕ} (hr : r.status ≠ .ok)
    (h : Twin A past pairs (hosts.keep host) none s d)
    (hs : s.threads.get? .main = some ⟨.give (.response r), .forwardedCreate host w :: fs⟩)
    (hknown : ∀ p ∈ pairs, p.Below n n') (hnw : n ≤ w.number) (hw : w.number < s.ids.next)
    (hP : ∀ s₁, s₁.threads.get? .main = some ⟨.give (.response r), fs⟩ →
      Twin A past pairs hosts none s₁ d → P s₁) : Leads P s := by
  have hmove : Frame.resume (.forwardedCreate host w) .main s (.response r) =
      { s.releaseHost host with wrapped := s.wrapped.eraseFunction w }.give (.response r) := by
    simp only [Frame.resume, Session.afterForwardCreate, Reply.toResponse, hr, if_false]
    rfl
  refine .arrives (Session.step_give h.running hs) (hP _ ?_ ?_)
  · rw [hmove]
    exact Session.threads_apply ..
  · rw [hmove]
    exact Twin.apply (m := { s.releaseHost host with
      wrapped := s.wrapped.eraseFunction w }.give (.response r))
      (h.releaseHost.forgetReserved hknown hnw hw) _

/-- With a handle reserved for it, the runtime refuses the creation of a function, or goes on. -/
theorem leads_reserved {raw : Word} {spec : FunctionSpec} {data : Option Word} {host : HostId}
    {name : Option String} (h : Twin A past pairs (hosts.keep host) none s d)
    (hholds : Reserved A pairs w s.wrapped s.functions d.ids.next)
    (hs : s.threads.get? .main = some ⟨.run (.entry .runtime
      (.createThreadsafeFunction raw
        { spec with finalizer := some (.wrapped w (data.map .extension)) } true)),
      .forwardedCreate host w :: .responseAnswer name :: fs⟩)
    (hd : d.threads.get? .main = some ⟨.run (.entry .runtime
      (.createThreadsafeFunction raw { spec with finalizer := data.map .extension } true)),
      .responseAnswer name :: fs'⟩)
    (hstack : StackAlike A pairs hosts .between (.called .createThreadsafeFunction)
      (.responseAnswer name :: fs) (.responseAnswer name :: fs')) : Leads (Reaches A past d) s := by
  obtain ⟨g, hg, -⟩ := hholds.live
  have hw := (h.wrapped.functions w (Registry.live?_eq_some_iff.1 hg).1).2
  by_cases hcallee : (decide (spec.func = 0) && !spec.callJs) = true
  · refine .run h.running hs (congrArg some (s.createFunctionEntry_refused raw hcallee)) rfl ?_
    refine leads_refused (by simp) (Twin.apply (m := Session.respond _ _)
      (h.showsLeft (Session.shows_log ..)) _) (Session.threads_apply ..) hholds.before le_rfl ?_ ?_
    · rw [← Session.Shows.ids (Session.shows_log s .debug (Entry.createThreadsafeFunction.name ++
        ": neither func nor call_js_cb given"))] at hw
      exact hw
    intro s₁ hs₁ h₁
    refine .mirror (Session.step_run h.running' hd
      (congrArg some (d.createFunctionEntry_refused raw hcallee))) ?_
    refine .running .between hs₁ (Session.threads_apply ..) ?_ trivial
      (.give (X := .called .createThreadsafeFunction) ⟨_, _, _, rfl, rfl, .none⟩) hstack
    exact (h₁.showsRight (Session.shows_log ..)).showsRight (Session.shows_setThread ..)
  · obtain ⟨config, s₁, d₁, hread, hread', hids, hids', hwrapped, hfunctions, h₁⟩ := h.readConfig
    refine leads_of_run h hs hd (congrArg some (Session.createFunctionEntry_eq raw hcallee hread))
      (congrArg some (Session.createFunctionEntry_eq raw hcallee hread')) ?_
    rw [h₁.bindings]
    refine .goOn (.creating w) h₁ ?_ (.createFunction raw spec data _ _) (.created host hstack)
    rw [← hwrapped, ← hfunctions, ← hids'] at hholds
    exact hholds

/-- The creation of a function is forwarded; the runtime refuses it, or goes on with it. -/
theorem leads_create {env raw : Word} {spec : FunctionSpec} {data : Option Word} {out : Bool}
    {name : Option String} (h : Twin A past pairs hosts none s d) (hids : s.ids.next < 2 ^ 64)
    (henv : s.wrapped.StandsFor A env raw)
    (hs : s.threads.get? .main = some ⟨.run (.entry .multiplexer
      (.createThreadsafeFunction env { spec with finalizer := data.map .extension } out)),
      .responseAnswer name :: fs⟩)
    (hd : d.threads.get? .main = some ⟨.run (.entry .runtime
      (.createThreadsafeFunction raw { spec with finalizer := data.map .extension } out)),
      .responseAnswer name :: fs'⟩)
    (hstack : StackAlike A pairs hosts .between (.called .createThreadsafeFunction)
      (.responseAnswer name :: fs) (.responseAnswer name :: fs')) : Leads (Reaches A past d) s := by
  have hrefused : Reply.Alike pairs (.called .createThreadsafeFunction)
      (.response { status := .invalidArg }) (.response { status := .invalidArg }) :=
    ⟨_, _, _, rfl, rfl, .none⟩
  cases out with
  | false => exact leads_of_run h hs hd rfl rfl (h.give hrefused hstack)
  | true =>
    obtain ⟨own, e, hlive, hhost, hforward⟩ := h.forward_create hstack.served henv
      { spec with finalizer := data.map .extension }
    refine .run h.running hs (congrArg some hforward) rfl ?_
    have h₁ := Twin.apply (m := ({ s with
      ids := ⟨s.ids.next + 1⟩
      wrapped := s.wrapped.reserveFunction ⟨s.ids.next⟩ own e.host }.keepHost e.host).run
      (.entry .runtime (.createThreadsafeFunction raw
        { spec with finalizer := some (.wrapped ⟨s.ids.next⟩ (data.map .extension)) } true))
      [.forwardedCreate e.host ⟨s.ids.next⟩])
      ((h.reserveFunction hids hlive e.host).keepHost e.host) (.responseAnswer name :: fs)
    have hholds : Reserved A pairs ⟨s.ids.next⟩ (s.wrapped.reserveFunction ⟨s.ids.next⟩ own e.host)
        s.functions d.ids.next := by
      refine ⟨⟨{ env := own, host := e.host }, ?_, hhost⟩, fun hmem => ?_, h.known⟩
      · simp [Wrapped.reserveFunction, Registry.live?, Registry.owns_insert_self]
      · exact Nat.lt_irrefl _ (h.functionsBelow _ hmem).2
    exact h₁.leads_reserved hholds (Session.threads_apply ..) hd hstack

/-- A function was created: its reserved handle gets the raw one. -/
theorem leads_created {host : HostId} {out : Option String}
    (h : Twin A past pairs (hosts.keep host) none s d)
    (hholds : Reserved A pairs w s.wrapped s.functions d.ids.next)
    (hregistered : Registered pairs w s.functions d.functions f f')
    (hs : s.threads.get? .main = some ⟨.give (.handle f),
      .createdResponse :: .forwardedCreate host w :: .responseAnswer out :: fs⟩)
    (hd : d.threads.get? .main = some ⟨.give (.handle f'),
      .createdResponse :: .responseAnswer out :: fs'⟩)
    (hstack : StackAlike A pairs hosts .between (.called .createThreadsafeFunction)
      (.responseAnswer out :: fs) (.responseAnswer out :: fs')) : Leads (Reaches A past d) s := by
  obtain ⟨g, hg, hhost⟩ := hholds.live
  obtain ⟨fn, hfn, hfn', hof⟩ := hregistered.live
  refine .give h.running hs rfl ?_
  have h₁ := h.apply (m := s.give (.response { status := .ok, out := some f.value }))
    (.forwardedCreate host w :: .responseAnswer out :: fs)
  refine leads_of_give h₁ (Session.threads_apply ..) hd ?_
  have hbound := h₁.releaseHost.bindFunction hg hhost hfn hfn' hof hholds.foreign hregistered.before
    le_rfl hregistered.after le_rfl
  exact hbound.give (X := .called .createThreadsafeFunction)
    ⟨.ok, some w.value, some f'.value, rfl, rfl,
      .some (.inr ⟨w, f, f', List.mem_cons_self .., rfl, rfl⟩)⟩
    (hstack.mono (List.subset_cons_self ..))

/-- A call of an entry is forwarded and performed, or refused by both. -/
theorem leads_routed {q q' : Request} (h : Twin A past pairs hosts none s d)
    (hids : s.ids.next < 2 ^ 64) (hq : Routed A pairs s.wrapped d.functions q q')
    (hs : s.threads.get? .main = some ⟨.run (.entry .multiplexer q), fs⟩)
    (hd : d.threads.get? .main = some ⟨.run (.entry .runtime q'), fs'⟩)
    (hstack : StackAlike A pairs hosts .between (.called q.entry) fs fs') :
    Leads (Reaches A past d) s := by
  have hserved := hstack.served
  obtain ⟨name, gs, gs', rfl, rfl⟩ :
      ∃ name gs gs', fs = .responseAnswer name :: gs ∧ fs' = .responseAnswer name :: gs' := by
    cases hstack with
    | responseAnswer table e args hout hstack => exact ⟨_, _, _, rfl, rfl⟩
  cases hq with
  | createAsyncWork henv resource resource' job job' execute complete data out =>
    obtain ⟨host, hforward⟩ := h.forward_env hserved henv
      (.createAsyncWork _ resource job execute complete data out) rfl rfl (by simp [Request.entry])
    exact h.leads_forward hs hd hforward fun s₁ hids₁ _ h₁ =>
      h₁.createAsyncWork (hids₁ ▸ hids) _ _ _ _ _ _ _ _ _ (.forwarded host hstack)
  | deleteAsyncWork henv hwork =>
    obtain ⟨host, hforward⟩ := h.forward_env hserved henv (.deleteAsyncWork _ _) rfl rfl
      (by simp [Request.entry])
    exact h.leads_forward hs hd hforward fun s₁ _ _ h₁ =>
      respondOutcome (h₁.deleteJob hwork) (.forwarded host hstack)
  | queueAsyncWork henv hwork =>
    obtain ⟨host, hforward⟩ := h.forward_env hserved henv (.queueAsyncWork _ _) rfl rfl
      (by simp [Request.entry])
    exact h.leads_forward hs hd hforward fun s₁ _ _ h₁ =>
      respondOutcome (h₁.queueJob hwork _) (.forwarded host hstack)
  | cancelAsyncWork henv hwork =>
    obtain ⟨host, hforward⟩ := h.forward_env hserved henv (.cancelAsyncWork _ _) rfl rfl
      (by simp [Request.entry])
    exact h.leads_forward hs hd hforward fun s₁ _ _ h₁ =>
      respondOutcome (h₁.cancelJob hwork) (.forwarded host hstack)
  | createThreadsafeFunction henv spec data out => exact h.leads_create hids henv hs hd hstack
  | @function c env raw func func' henv hfunc hspace =>
    rcases h.resolveFunction hfunc with
      ⟨hg, hfn'⟩ | ⟨w, f, f', fn, g, hp, hg, hraw, hnull, hhost, hfn, hfn', hobject'⟩
    · refine leads_of_run h hs hd (congrArg some (h.forward_unknown hserved c henv hg))
        (congrArg some (d.runtimeEntry_unknown .main c raw hfn')) ?_
      refine (h.showsLeft (Session.shows_log ..)).give ?_ hstack
      exact ⟨_, _, _, rfl, rfl, .none⟩
    · rw [← hraw] at hnull hfn
      obtain ⟨host, hforward⟩ := h.forward_function hserved c env _ henv hg hnull hhost
      refine h.leads_forward hs hd hforward fun s₁ _ hfunctions h₁ => ?_
      rw [← hfunctions] at hfn
      refine h₁.functionCall hp c raw hfn hfn' hobject' (fun data hc => ?_) ?_
      · exact hspace data hc fn (by simp [Registry.get?, hfn'])
      · have hentry : (c.request raw g.raw).entry = (c.request env func).entry := by cases c <;> rfl
        rw [hentry]
        exact .forwarded host hstack

/-! ### Teardowns and blocking calls -/

/-- A teardown calls the finalizer; the multiplexer's comes first and calls the addon's. -/
theorem leads_teardown (h : Twin A past pairs hosts none s d) (hp : .function w f f' ∈ pairs)
    (hs : s.threads.get? .main = some ⟨.run (.teardown f), fs⟩)
    (hd : d.threads.get? .main = some ⟨.run (.teardown f'), fs'⟩)
    (hstack : StackAlike A pairs hosts .between .nothing fs fs') : Leads (Reaches A past d) s := by
  obtain ⟨fn, hfn', hfn, ⟨data, hfinalizer⟩, -⟩ := (h.functions hp).object
  have hm : s.teardown f = (s.emit (.teardownStarted f)).run
      (.finalizer (some f) (.wrapped w fn.finalizer) fn.env fn.context) [.finalized f] := by
    unfold Session.teardown
    simp only [hfn]
    rfl
  refine .run h.running hs (congrArg some hm) rfl ?_
  have hstarted : Twin A past pairs hosts none (s.emit (.teardownStarted f))
      (d.emit (.teardownStarted f')) := h.emit rfl rfl
  have h₁ := Twin.apply (m := (s.emit (.teardownStarted f)).run
      (.finalizer (some f) (.wrapped w fn.finalizer) fn.env fn.context) [.finalized f]) hstarted fs
  have hs₁ := Session.threads_apply ((s.emit (.teardownStarted f)).run
      (.finalizer (some f) (.wrapped w fn.finalizer) fn.env fn.context) [.finalized f]) .main fs
  have hm' : d.teardown f' = match data with
      | none => { (d.emit (.teardownStarted f')).give .unit with frames := [.finalized f'] }
      | some data => (d.emit (.teardownStarted f')).run
        (.finalizer (some f') (.extension data) fn.env fn.context) [.finalized f'] := by
    unfold Session.teardown
    simp only [hfn', hfinalizer]
    cases data <;> rfl
  cases data with
  | none =>
    rw [show fn.finalizer = none from hfinalizer] at h₁ hs₁ ⊢
    exact .arrives (Session.step_run h₁.running hs₁ rfl)
      (.of_run h.running' hd (congrArg some hm') (h₁.giveAbove (.unwrapped hp hstack)))
  | some data =>
    rw [show fn.finalizer = some (.extension data) from hfinalizer] at h₁ hs₁ ⊢
    exact .arrives (Session.step_run h₁.running hs₁ rfl)
      (.of_run h.running' hd (congrArg some hm')
        (h₁.run (.finalizer (some f) (some f') data _ _) (.unwrapped hp hstack)))

/-- A blocking call that finds no space waits for it. -/
theorem leads_awaitSpace {func data : Word} {fn : ThreadsafeFunction}
    (h : Twin A past pairs hosts none s d) (hof : fn.OfAddon)
    (hfull : (fn.isFull && !fn.closing) = true)
    (hfn : s.functions.entry? ⟨func⟩ = some (f, fn.wrappedAs w))
    (hs : s.threads.get? .main = some ⟨.run (.entry .runtime
      (.callThreadsafeFunction func data CallMode.blocking.raw)), fs⟩) (hd : d.WouldWait) :
    Leads (Reaches A past d) s := by
  obtain ⟨-, -, hobject⟩ := Registry.entry?_eq_some hfn
  have hclosing : fn.closing = false := by simp_all
  have haborted : fn.aborted = false := by
    cases haborted : fn.aborted with
    | false => rfl
    | true => exact (Bool.false_ne_true (hclosing ▸ hof.closing haborted)).elim
  have hadmission : fn.admission .blocking = .wait := by
    simp_all [ThreadsafeFunction.admission]
  have hentry : s.runtimeEntry .main (.callThreadsafeFunction func data CallMode.blocking.raw) =
      s.run (.call f data .blocking) [.outcomeResponse] := by
    simp only [Session.runtimeEntry, CallMode.ofRaw?_raw, Session.withFunction, hfn]
  refine .run h.running hs (congrArg some hentry) rfl ?_
  have h₁ := h.apply (m := s.run (.call f data .blocking) [.outcomeResponse]) fs
  generalize hs₁ : Session.apply (s.run (.call f data .blocking) [.outcomeResponse]) .main fs = s₁ at h₁
  have hobject₁ : s₁.functions.object? f = some (fn.wrappedAs w) := hs₁ ▸ hobject
  have hthread₁ : s₁.threads.get? .main = some ⟨.run (.call f data .blocking), .outcomeResponse :: fs⟩ :=
    hs₁ ▸ Session.threads_apply ..
  have hcall : s₁.call .main f data .blocking =
      (s₁.modifyFunction f (·.sleep .main)).run (.awaitSpace f data) := by
    simp only [Session.call, hobject₁, ThreadsafeFunction.admission_wrappedAs, hadmission]
  refine .arrives (Session.step_run h₁.running hthread₁ (congrArg some hcall)) (.waits ?_ hd h₁.seenAlike)
  refine ⟨h₁.running, f, data, _, (fn.wrappedAs w).sleep .main, Session.threads_apply .., ?_, ?_⟩
  · exact (Registry.object?_modify ..).trans (by simp [hobject₁])
  · simp [ThreadsafeFunction.sleep]

/-! ### Actions -/

/-- The addon's call of an entry goes to its multiplexer. -/
theorem callEntry_multiplexer (h : Twin A past pairs hosts none s d) {table : String}
    (htable : A.calls table) (he : e.ofRuntime = true) {a a' : EntryArgs} (ha : A.Args e a a')
    {q : Request} (hq : s.buildRequest e a = some q) :
    s.callEntry table e a = s.run (.entry .multiplexer q) [.responseAnswer a.out] := by
  obtain ⟨hname, m, hm, hprovider⟩ := h.tables table htable
  have hfind : s.findTable? table = some m.table := by
    simp only [List.mem_cons, List.not_mem_nil, or_false, not_or] at hname
    simp [Session.findTable?, hname, hm]
  refine s.callEntry_eq hfind he (hprovider e he) (by simp) hq fun hcall _ => ?_
  have hfunc := h.matchFunction (ha.func (by simp [hcall]))
  simp [Session.callWouldWait, h.get?_of_match hfunc]

/-- A blocking call that would have to wait: the routed thread waits. -/
theorem leads_blocked (h : Twin A past pairs hosts none s d) (hserved : A.Served hosts)
    {table : String} (htable : A.calls table) {a a' : EntryArgs}
    (ha : A.Args .callThreadsafeFunction a a') (hmode : a.mode = CallMode.blocking.raw)
    (hwait : d.callWouldWait ⟨d.value a.func⟩ = true)
    (hs : s.threads.get? .main = some ⟨.run (.perform (.entry table .callThreadsafeFunction a)), fs⟩)
    (hd : d.threads.get? .main = some ⟨.run (.perform (.entry "abi" .callThreadsafeFunction a')), fs'⟩) :
    Leads (Reaches A past d) s := by
  obtain ⟨env', rfl⟩ : ∃ env', a' = { a with env := env' } := ⟨_, ha.same⟩
  have hcall : s.callEntry table .callThreadsafeFunction a =
      s.run (.entry .multiplexer
        (.callThreadsafeFunction (s.value a.func) (s.value a.data) CallMode.blocking.raw))
        [.responseAnswer a.out] :=
    h.callEntry_multiplexer htable rfl ha (by rw [← hmode]; rfl)
  rcases h.resolveFunction (h.matchFunction (ha.func (by simp))) with
    ⟨-, hfn'⟩ | ⟨w, f, f', fn, g, hp, hg, hraw, hnull, hhost, hfn, hfn', hobject'⟩
  · simp [Session.callWouldWait, Registry.get?, hfn'] at hwait
  have hfull : (fn.isFull && !fn.closing) = true := by
    simpa [Session.callWouldWait, Registry.get?, hfn'] using hwait
  have hof : fn.OfAddon := by
    obtain ⟨fn₁, hfn₁, -, hof⟩ := (h.functions hp).object
    obtain rfl : fn = fn₁ := Option.some.inj (hobject'.symm.trans hfn₁)
    exact hof
  refine .run h.running hs (congrArg some hcall) rfl ?_
  rw [← hraw] at hnull hfn
  have h₁ := h.apply (m := s.run (.entry .multiplexer
    (.callThreadsafeFunction (s.value a.func) (s.value a.data) CallMode.blocking.raw))
    [.responseAnswer a.out]) fs
  have hs₁ := Session.threads_apply (s.run (.entry .multiplexer
    (.callThreadsafeFunction (s.value a.func) (s.value a.data) CallMode.blocking.raw))
    [.responseAnswer a.out]) .main fs
  obtain ⟨host, hforward⟩ := h₁.forward_function hserved (.call (s.value a.data) CallMode.blocking.raw)
    0 0 (fun hc => by simp [FunctionCall.TakesEnv] at hc) hg hnull hhost
  refine .run h₁.running hs₁ (congrArg some hforward) rfl ?_
  refine leads_awaitSpace ((h₁.keepHost host).apply (m := Session.run _ _ _) _) hof hfull hfn
    (Session.threads_apply ..) ⟨_, _, _, hd, hmode, hwait⟩

/-- An action is performed. -/
theorem leads_perform {a a' : Action} (h : Twin A past pairs hosts none s d)
    (ha : A.Counterpart a a') (hs : s.threads.get? .main = some ⟨.run (.perform a), fs⟩)
    (hd : d.threads.get? .main = some ⟨.run (.perform a'), fs'⟩)
    (hstack : StackAlike A pairs hosts .between (.answer a) fs fs') : Leads (Reaches A past d) s := by
  cases ha with
  | @entry table e a a' htable he hargs =>
    by_cases hwait : e = .callThreadsafeFunction ∧ a.mode = CallMode.blocking.raw ∧
        d.callWouldWait ⟨d.value a.func⟩ = true
    · obtain ⟨rfl, hmode, hwait⟩ := hwait
      exact h.leads_blocked hstack.served htable hargs hmode hwait hs hd
    have hspace : e = .callThreadsafeFunction → a.mode = CallMode.blocking.raw →
        d.callWouldWait ⟨d.value a.func⟩ = false := by simpa using hwait
    obtain ⟨q, q', hq, hq', rfl, hrouted⟩ := h.buildRequest he hargs hspace
    have hm := h.callEntry_multiplexer htable he hargs hq
    have hm' : d.callEntry "abi" q.entry a' = d.run (.entry .runtime q') [.responseAnswer a.out] := by
      obtain ⟨env', rfl⟩ : ∃ env', a' = { a with env := env' } := ⟨_, hargs.same⟩
      have htable' : d.findTable? "abi" = some .runtime := rfl
      exact d.callEntry_eq htable' he (by simp [HostTable.runtime, he]) (by simp) hq' hspace
    exact leads_of_run h hs hd (congrArg some hm) (congrArg some hm')
      (h.run (.routed hrouted) (.responseAnswer table q.entry a hargs.out hstack))
  | bind invoker henv | attach invoker henv =>
    exact leads_of_run h hs hd rfl rfl (h.bind henv invoker (fun _ => by rfl) hstack)
  | unbind henv | detach henv =>
    exact leads_of_run h hs hd rfl rfl (h.unbind henv (fun _ => by rfl) hstack)
  | pump invoker goal => exact leads_of_run h hs hd rfl rfl (h.pumpNamed invoker goal hstack)
  | script htarget hactions =>
    exact leads_of_run h hs hd rfl rfl (h.addScript htarget hactions hstack)

end Twin

/-! ### Every step -/

/-- From corresponding sessions the main threads go on in step, or they are at rest. -/
theorem Mirror.advances (h : Mirror A past s d) (hids : s.ids.next < 2 ^ 64) :
    s.Rests ∧ d.Rests ∨ Leads (Reaches A past d) s := by
  cases h with
  | halted hs hd => exact .inl ⟨.inl hs, .inl hd⟩
  | running stage hs hd h hholds hcontrol hstack =>
    cases hcontrol with
    | give hr => exact h.advances_give hholds hids hs hd hr hstack
    | registered hregistered =>
      cases hstack with
      | created host hstack => exact .inr (h.leads_created hholds hregistered hs hd hstack)
    | @script actions actions' hactions =>
      right
      cases hactions with
      | nil => exact leads_of_run h hs hd rfl rfl (h.give (X := .nothing) trivial hstack)
      | cons ha hrest =>
        exact leads_of_run h hs hd rfl rfl (h.run (.perform ha) (.performed ha hrest hstack))
    | silent stage =>
      exact .inr <| leads_of_run h hs hd rfl rfl <|
        .goOn _ h hholds (.give (X := .script) trivial) hstack
    | perform ha => exact .inr (h.leads_perform ha hs hd hstack)
    | routed hq => exact .inr (h.leads_routed hids hq hs hd hstack)
    | asks stage p q hp hq =>
      exact .inr <| leads_of_run h hs hd rfl rfl <| h.asks hholds hp hq hstack
    | createFunction env spec data delivery invoker =>
      exact .inr <| leads_of_run h hs hd rfl rfl <|
        h.createFunction hids hholds env spec data delivery invoker hstack
    | call hp data mode hspace =>
      exact .inr <| leads_of_run h hs hd rfl rfl <| h.call hp data mode hspace hstack
    | release hp mode => exact .inr <| leads_of_run h hs hd rfl rfl <| h.release hp mode hstack
    | deliver hp data => exact .inr <| leads_of_run h hs hd rfl rfl <| h.deliver hp data hstack
    | teardown hp => exact .inr <| h.leads_teardown hp hs hd hstack
    | finalizer owner owner' data env hint =>
      exact .inr <| leads_of_run h hs hd rfl rfl <| h.finalizer owner owner' data env hint hstack
    | task i htask => exact .inr <| leads_of_run h hs hd rfl rfl <| h.task i htask hstack
    | pump i goal name asked => exact .inr <| leads_of_run h hs hd rfl rfl <| h.pump i goal hstack
    | letGo i hr => exact .inr <| leads_of_run h hs hd rfl rfl <| h.letGo i hr hstack

end AddonHost
