import AddonHost.Proofs.Interchange.Abreast

/-!
An operation of the outside thread.

An operation that a thread performs outside callbacks submits at most one task, and after that it
does nothing but hand its outcome on.  `Acting` lists what the thread may be doing before: it begins
the operation, is about to call, to release or to queue, or creates something, for which it may have
to ask the engine for a reference.  What is left to do after a submission is a `Tail`.
-/

namespace AddonHost

/-- Whether a call asks for a reference. -/
def Request.asksReference : Request → Bool
  | .createReference .. => true
  | _ => false

/-- Whether the runtime's entry may submit a task. -/
def Request.submits : Request → Bool
  | .callThreadsafeFunction .. | .releaseThreadsafeFunction .. | .queueAsyncWork .. => true
  | _ => false

/-- Whether a piece of code creates something and submits nothing. -/
def Code.isCreating : Code → Bool
  | .createFunction .. | .script _ [] => true
  | .entry _ r => r.asksReference
  | _ => false

/-- Whether a control creates something and submits nothing. -/
def Control.isCreating : Control → Bool
  | .run c => c.isCreating
  | .give _ => true
  | .fail => false

/-- Whether a frame creates something, or hands an outcome on. -/
def Frame.isCreating : Frame → Bool
  | .outcomeAnswer | .outcomeResponse | .responseAnswer _ | .createdAnswer .. | .createdResponse
  | .referenced .. | .forwarded _ => true
  | .engineScripted _ r => r.asksReference
  | _ => false

/-- Whether a thread goes on creating something after a move. -/
def Move.IsCreating (m : Move) : Prop :=
  m.control.isCreating = true ∧ m.frames.all Frame.isCreating = true

/-- Frames that hand the outcome of a call or of a release on. -/
inductive Tail : List Frame → Prop where
  | answer : Tail [.outcomeAnswer]
  | response : Tail [.outcomeResponse, .responseAnswer none]

/-- What these frames answer when the outcome is a success. -/
def accepted : List Frame → Answer
  | [.outcomeAnswer] => .outcome (.ok ())
  | _ => .response .ok none

/-- What a thread may be doing in an operation that has not submitted a task. -/
inductive Acting : Thread → Prop where
  | perform {a : Action} (ha : a.isOperation false = true) :
    Acting { control := .run (.perform a) }
  | entry {r : Request} {out : Option String} (hout : r.submits = true → out = none) :
    Acting { control := .run (.entry .runtime r), stack := [.responseAnswer out] }
  | call {f : HandleId} {data : Word} {mode : CallMode} {stack : List Frame} (hstack : Tail stack) :
    Acting { control := .run (.call f data mode), stack }
  | awaitSpace {f : HandleId} {data : Word} {stack : List Frame} (hstack : Tail stack) :
    Acting { control := .run (.awaitSpace f data), stack }
  | release {f : HandleId} {mode : ReleaseMode} {stack : List Frame} (hstack : Tail stack) :
    Acting { control := .run (.release f mode), stack }
  | creating {control : Control} {stack : List Frame} (hcontrol : control.isCreating = true)
    (hstack : stack.all Frame.isCreating = true) : Acting { control, stack }

theorem Acting.of_isCreating {m : Move} {below : List Frame} (h : m.IsCreating)
    (hbelow : below.all Frame.isCreating = true) :
    Acting { control := m.control, stack := m.frames ++ below } :=
  .creating h.1 (by rw [List.all_append, h.2, hbelow, Bool.and_self])

theorem Tail.all_isCreating {frames : List Frame} (h : Tail frames) :
    frames.all Frame.isCreating = true := by
  cases h <;> rfl

theorem Acting.all_isCreating {th : Thread} (h : Acting th) :
    th.stack.all Frame.isCreating = true := by
  cases h with
  | perform => rfl
  | entry => rfl
  | call htail | awaitSpace htail | release htail => exact htail.all_isCreating
  | creating hcontrol hstack => exact hstack

theorem Code.isLight_of_isCreating {c : Code} {nested : Bool} (h : c.isCreating = true) :
    c.isLight nested = true := by
  cases c with
  | script owner actions => cases actions <;> simp_all [isCreating, isLight, Action.areNested]
  | entry p r =>
    cases r <;> simp_all [isCreating, isLight, Request.asksReference, Request.isBlocking]
  | _ => simp_all [isCreating, isLight]

theorem Frame.isLight_of_isCreating {fr : Frame} (h : fr.isCreating = true) :
    fr.isLight = true ∧ fr.isAside = true := by
  cases fr <;> simp_all [isCreating, isLight, isAside]

namespace Session

variable {i : InvokerId} {name : String} {s : Session} {t : ThreadId}

/-! ### Creating -/

@[simp] theorem isCreating_give (r : Reply) : (s.give r).IsCreating := ⟨rfl, rfl⟩

@[simp] theorem isCreating_reply (a : Answer) : (s.reply a).IsCreating := ⟨rfl, rfl⟩

@[simp] theorem isCreating_respond (status : Status) : (s.respond status).IsCreating := ⟨rfl, rfl⟩

@[simp] theorem isCreating_refuse (r : Refusal) : (s.refuse r).IsCreating := ⟨rfl, rfl⟩

@[simp] theorem isCreating_abort : s.abort.IsCreating := ⟨rfl, rfl⟩

@[simp] theorem isCreating_answerOutcome (p : Outcome × Session) :
    (answerOutcome p).IsCreating := ⟨rfl, rfl⟩

@[simp] theorem isCreating_respondOutcome (p : Outcome × Session) :
    (respondOutcome p).IsCreating := ⟨rfl, rfl⟩

@[simp] theorem isCreating_run (c : Code) (frames : List Frame) : (s.run c frames).IsCreating ↔
    c.isCreating = true ∧ frames.all Frame.isCreating = true := Iff.rfl

theorem isCreating_registerFunction (env reference : Word) (spec : FunctionSpec)
    (delivery : Delivery) (invoker : Option InvokerId) :
    (s.registerFunction env reference spec delivery invoker).IsCreating := by
  simp [registerFunction]

theorem isCreating_createFunction (env : Word) (spec : FunctionSpec) (delivery : Delivery)
    (invoker : Option InvokerId) : (s.createFunction env spec delivery invoker).IsCreating := by
  unfold createFunction
  split
  · simp [Code.isCreating, Request.asksReference, Frame.isCreating]
  · exact isCreating_registerFunction ..

theorem isCreating_forward {r : Request} (hr : r.asksReference = true) :
    (s.forward r).IsCreating := by
  obtain ⟨env, value, count, out, rfl⟩ : ∃ env value count out,
      r = .createReference env value count out := by
    cases r <;> simp_all [Request.asksReference]
  unfold forward
  split
  · simp
  · split
    · simp [refuseRoute]
    · next d hd =>
      have hroute : (Request.createReference env value count out).route = .env env := rfl
      obtain ⟨env', hrequest⟩ := request_of_route hroute hd
      split
      · simp [refuseRoute]
      · simp [Code.isCreating, hrequest, Request.withEnv, Request.asksReference, Frame.isCreating]

/-- Asking for a reference comes to an answer, as engines are silent. -/
theorem isCreating_entry (hs : s.EnginesSilent) (p : Provider) {r : Request}
    (hr : r.asksReference = true) : (s.entry t p r).IsCreating := by
  unfold entry
  split
  · rw [engineEntry_of_silent hs]
    simp [Code.isCreating, Frame.isCreating, hr]
  · cases r <;> simp_all [Request.asksReference, runtimeEntry]
  · split <;> simp [Code.isCreating, hr]
  · exact isCreating_forward hr

theorem isCreating_step (hs : s.EnginesSilent) {c : Code} (hc : c.isCreating = true) {m : Move}
    (hm : c.step t s = some m) : m.IsCreating := by
  cases c with
  | createFunction env spec delivery invoker =>
    obtain rfl := Option.some.inj hm
    exact isCreating_createFunction ..
  | script owner actions =>
    cases actions with
    | nil =>
      obtain rfl := Option.some.inj hm
      simp
    | cons a rest => simp [Code.isCreating] at hc
  | entry p r =>
    obtain rfl := Option.some.inj hm
    exact isCreating_entry hs p hc
  | _ => simp [Code.isCreating] at hc

/-- Such a frame hands its reply on at once. -/
theorem resume_eq_give {fr : Frame} (hfr : fr.isCreating = true) (r : Reply) :
    ∃ (s' : Session) (r' : Reply), fr.resume t s r = s'.give r' := by
  cases fr with
  | responseAnswer out => cases out <;> exact ⟨_, _, rfl⟩
  | referenced env spec delivery invoker =>
    simp only [Frame.resume, afterCreateReference]
    split
    · exact ⟨_, _, rfl⟩
    · unfold fatalError
      simp only
      split <;> exact ⟨_, _, rfl⟩
  | engineScripted slot request =>
    have hnone : (s.engines.answer slot request).2.2 = none := by
      refine Engines.finalizerCall_answer _ _ ?_
      cases request <;> simp_all [Frame.isCreating, Request.asksReference, Request.entry,
        Entry.ofRuntime]
    exact ⟨_, _, by simp [Frame.resume, engineAnswer, hnone]; rfl⟩
  | outcomeAnswer | outcomeResponse | createdAnswer | createdResponse | forwarded =>
    exact ⟨_, _, rfl⟩
  | _ => simp [Frame.isCreating] at hfr

/-! ### Beginning -/

theorem acting_withFound (r : Ref) {act : HandleId → ThreadsafeFunction → Move}
    (h : ∀ f fn, Acting { control := (act f fn).control, stack := (act f fn).frames }) :
    Acting { control := (s.withFound r act).control, stack := (s.withFound r act).frames } := by
  unfold withFound
  split
  · exact .creating rfl rfl
  · exact h _ _

theorem isCreating_createFunctionNamed (a : FunctionArgs) :
    (s.createFunctionNamed a).IsCreating := by
  unfold createFunctionNamed withInvoker
  simp only
  split
  · simp [Code.isCreating, Frame.isCreating]
  · split <;> simp [Code.isCreating, Frame.isCreating]

theorem acting_callEntry {e : Entry} {a : EntryArgs}
    (ha : (Action.entry "abi" e a).isOperation false = true) :
    Acting
      { control := (s.callEntry "abi" e a).control, stack := (s.callEntry "abi" e a).frames } := by
  simp only [Action.isOperation, Bool.and_eq_true] at ha
  obtain ⟨⟨⟨-, he⟩, hout⟩, -⟩ := ha
  obtain ⟨r, hbuild, heq⟩ := callEntry_runtime (s := s) he a
  rw [heq]
  split
  · exact .creating rfl rfl
  · refine .entry fun hsubmits => ?_
    have hentry := entry_buildRequest hbuild
    cases r <;> simp_all [Request.submits, Request.entry] <;> subst hentry <;>
      simpa [Entry.writes] using hout

/-- An operation begins. -/
theorem acting_perform {a : Action} (ha : a.isOperation false = true) (haside : a.isAside = true) :
    Acting { control := (s.perform t a).control, stack := (s.perform t a).frames } := by
  have of_isCreating {m : Move} (hm : m.IsCreating) :
      Acting { control := m.control, stack := m.frames } := .creating hm.1 hm.2
  cases a with
  | createFunction args => exact of_isCreating (isCreating_createFunctionNamed args)
  | call func data mode =>
    refine acting_withFound func fun f fn => ?_
    split
    · exact .creating rfl rfl
    · exact .call .answer
  | release func mode => exact acting_withFound func fun f fn => .release .answer
  | acquire | setReferenced | functionContext | describeFunction | functionState =>
    exact acting_withFound _ fun f fn => .creating rfl rfl
  | describeJob job =>
    simp only [perform]
    split <;> exact .creating rfl rfl
  | cancelJob job direct =>
    simp only [perform, onJob]
    split <;> exact .creating rfl rfl
  | bind env invoker | attach env invoker =>
    simp only [perform, bind, withInvoker]
    split <;> exact .creating rfl rfl
  | entry table e args =>
    obtain rfl : table = "abi" := by
      simp only [Action.isOperation, Bool.and_eq_true] at ha
      simpa using ha.1.1.1
    exact acting_callEntry ha
  | forgetFunction | createJob | deleteJob | script | unbind | detach => exact .creating rfl rfl
  | _ => simp [Action.isOperation, Action.isAside] at ha haside

theorem acting_withFunction (func : Word) {act : HandleId → ThreadsafeFunction → Move}
    {below : List Frame} (hbelow : below.all Frame.isCreating = true)
    (h : ∀ f fn, Acting { control := (act f fn).control, stack := (act f fn).frames ++ below }) :
    Acting
      { control := (s.withFunction func act).control
        stack := (s.withFunction func act).frames ++ below } := by
  unfold withFunction
  split
  · exact .of_isCreating (isCreating_respond _) hbelow
  · exact h _ _

/-- The runtime's entry is called. -/
theorem acting_runtimeEntry {r : Request} {out : Option String}
    (hout : r.submits = true → out = none) (haside : r.isAside = true) :
    Acting
      { control := (s.runtimeEntry t r).control
        stack := (s.runtimeEntry t r).frames ++ [.responseAnswer out] } := by
  cases r with
  | queueAsyncWork => simp [Request.isAside] at haside
  | callThreadsafeFunction func data mode =>
    obtain rfl := hout rfl
    simp only [runtimeEntry]
    split
    · exact .creating rfl rfl
    · exact acting_withFunction func rfl fun f fn => .call .response
  | releaseThreadsafeFunction func mode =>
    obtain rfl := hout rfl
    simp only [runtimeEntry]
    split
    · exact .creating rfl rfl
    · exact acting_withFunction func rfl fun f fn => .release .response
  | createAsyncWork =>
    simp only [runtimeEntry]
    split <;> exact .creating rfl rfl
  | createThreadsafeFunction env spec passed =>
    simp only [runtimeEntry, createFunctionEntry]
    split
    · exact .creating rfl rfl
    · split <;> exact .creating rfl rfl
  | getThreadsafeFunctionContext func passed =>
    simp only [runtimeEntry]
    split
    · exact .creating rfl rfl
    · exact acting_withFunction func rfl fun f fn => .creating rfl rfl
  | acquireThreadsafeFunction func | refThreadsafeFunction env func
  | unrefThreadsafeFunction env func =>
    exact acting_withFunction func rfl fun f fn => .creating rfl rfl
  | _ => exact .creating rfl rfl

/-- An operation goes on. -/
theorem acting_step (hs : s.EnginesSilent) {c : Code} {stack : List Frame}
    (h : Acting { control := .run c, stack }) (hcall : ∀ f data mode, c ≠ .call f data mode)
    (hwait : ∀ f data, c ≠ .awaitSpace f data) (hsubmits : c.submits = false) {m : Move}
    (hm : c.step t s = some m) :
    Acting { control := m.control, stack := m.frames ++ stack } := by
  cases h with
  | @perform a ha =>
    obtain rfl := Option.some.inj hm
    have haside : a.isAside = true := by
      cases a <;> simp_all [Action.isOperation, Action.isAside, Code.submits]
    simpa using acting_perform ha haside
  | @entry r out hout =>
    obtain rfl := Option.some.inj hm
    have haside : r.isAside = true := by
      cases r <;> simp_all [Request.isAside, Code.submits]
    exact acting_runtimeEntry hout haside
  | call => exact absurd rfl (hcall _ _ _)
  | awaitSpace => exact absurd rfl (hwait _ _)
  | release => simp [Code.submits] at hsubmits
  | creating hcontrol hstack => exact .of_isCreating (isCreating_step hs hcontrol hm) hstack

theorem isLight_of_acting {c : Code} {stack : List Frame} (h : Acting { control := .run c, stack })
    (hwait : ∀ f data, c ≠ .awaitSpace f data) : c.isLight false = true := by
  cases h with
  | perform ha => exact ha
  | awaitSpace => exact absurd rfl (hwait _ _)
  | creating hcontrol => exact Code.isLight_of_isCreating hcontrol
  | _ => rfl

end Session

end AddonHost
