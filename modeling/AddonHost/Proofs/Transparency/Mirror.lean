import AddonHost.Machine.Step
import AddonHost.Proofs.Transparency.Handles

/-!
What the main threads do.

`Mirror` extends `Twin` to the main threads: their controls and their stacks correspond.  The routed
stack has a few frames more, those of the multiplexer: a forwarded call keeps its host, a forwarded
creation binds its handle, and a wrapped finalizer forgets its handle.  A `Stage` tells how far the
creation or the teardown of a function has come.

Both threads go on in step but for the multiplexer's own steps, so a step of the direct session
corresponds to one or more of the routed one (`Leads`).  Each piece of code and each frame is the
matter of one lemma about `Move.Alike`, the moves after which the sessions correspond again.
-/

namespace AddonHost

variable {A : Addon} {past : List Event} {pairs pairs' : List Pair} {hosts : Assoc HostId Host}
  {s s₁ d d₁ : Session} {fs fs' : List Frame} {w f f' j j' : HandleId}

/-! ### Stages -/

/-- How far the creation or the teardown of a function has come. -/
inductive Stage where
  /-- No function is being created or about to be unregistered. -/
  | between
  /-- A wrapped handle is reserved for a function that is being created. -/
  | creating (w : HandleId)
  /-- The finalizer of a function has returned, and its wrapped handle is forgotten. -/
  | ending (f : HandleId)

/-- The function whose wrapped handle is forgotten already. -/
def Stage.ending? : Stage → Option HandleId
  | .ending f => some f
  | _ => none

/-- A wrapped handle is reserved for a function that is being created; `next` is the next id of the
direct session. -/
structure Reserved (A : Addon) (pairs : List Pair) (w : HandleId) (m : Wrapped)
    (r : Registry ThreadsafeFunction) (next : ℕ) : Prop where
  live : ∃ g, m.functions.live? w = some g ∧ A.hosts g.host
  foreign : w ∉ r.ids
  before : ∀ p ∈ pairs, p.Below w.number next

/-- What holds at a stage. -/
def Stage.Holds (A : Addon) (pairs : List Pair) (m : Wrapped) (r : Registry ThreadsafeFunction)
    (next : ℕ) : Stage → Prop
  | .creating w => Reserved A pairs w m r next
  | _ => True

/-! ### Replies -/

/-- What a stack waits for. -/
inductive Expected where
  | nothing
  /-- The end of an engine's script. -/
  | script
  | outcome
  /-- The response of an entry that the addon has called. -/
  | called (e : Entry)
  /-- The response of an entry that a multiplexer or the runtime has called. -/
  | response (e : Entry)
  /-- The handle of a new function. -/
  | handle
  | answer (a : Action)

/-- Replies that are the same up to handles. -/
def Reply.Alike (pairs : List Pair) : Expected → Reply → Reply → Prop
  | .nothing, _, _ | .script, _, _ => True
  | .outcome, r, r' => ∃ o, r = .outcome o ∧ r' = .outcome o
  | .called e, r, r' | .response e, r, r' => ∃ status out out', r = .response ⟨status, out⟩ ∧
    r' = .response ⟨status, out'⟩ ∧ Option.Rel (Pair.Match pairs e.outKind) out out'
  | .handle, _, _ => False
  | .answer a, r, r' => Addon.AlikeAnswers pairs a r.toAnswer r'.toAnswer

theorem Reply.Alike.mono (hsub : pairs ⊆ pairs') {X : Expected} {r r' : Reply}
    (h : r.Alike pairs X r') : r.Alike pairs' X r' := by
  cases X with
  | nothing | script | outcome | handle => exact h
  | called e | response e =>
    obtain ⟨status, out, out', hr, hr', hout⟩ := h
    refine ⟨status, out, out', hr, hr', ?_⟩
    cases hout with
    | none => exact .none
    | some hv => exact .some (hv.mono hsub)
  | answer a => exact Addon.AlikeAnswers.mono hsub h

/-! ### Stacks -/

/-- Stacks of frames that do the same with replies that are the same.  Below them the hosts are kept
as often as at the start. -/
inductive StackAlike (A : Addon) (pairs : List Pair) :
    Assoc HostId Host → Stage → Expected → List Frame → List Frame → Prop where
  | nil {hosts : Assoc HostId Host} (h : A.Served hosts) :
    StackAlike A pairs hosts .between .nothing [] []
  | performed {hosts : Assoc HostId Host} {a a' : Action} {rest rest' : List Action}
    {fs fs' : List Frame} (ha : A.Counterpart a a') (hrest : List.Forall₂ A.Counterpart rest rest')
    (h : StackAlike A pairs hosts .between .nothing fs fs') :
    StackAlike A pairs hosts .between (.answer a) (.performed .callback a rest :: fs)
      (.performed .callback a' rest' :: fs')
  | responseAnswer {hosts : Assoc HostId Host} {out : Option String} {fs fs' : List Frame}
    (table : String) (e : Entry) (args : EntryArgs)
    (hout : ∀ name, out = some name → A.kind name = e.outKind)
    (h : StackAlike A pairs hosts .between (.answer (.entry table e args)) fs fs') :
    StackAlike A pairs hosts .between (.called e) (.responseAnswer out :: fs)
      (.responseAnswer out :: fs')
  | forwarded {hosts : Assoc HostId Host} {out : Option String} {fs fs' : List Frame} {e : Entry}
    (host : HostId)
    (h : StackAlike A pairs hosts .between (.called e) (.responseAnswer out :: fs)
      (.responseAnswer out :: fs')) :
    StackAlike A pairs (hosts.keep host) .between (.response e)
      (.forwarded host :: .responseAnswer out :: fs) (.responseAnswer out :: fs')
  | created {hosts : Assoc HostId Host} {out : Option String} {fs fs' : List Frame} {w : HandleId}
    (host : HostId)
    (h : StackAlike A pairs hosts .between (.called .createThreadsafeFunction)
      (.responseAnswer out :: fs) (.responseAnswer out :: fs')) :
    StackAlike A pairs (hosts.keep host) (.creating w) .handle
      (.createdResponse :: .forwardedCreate host w :: .responseAnswer out :: fs)
      (.createdResponse :: .responseAnswer out :: fs')
  | outcomeResponse {hosts : Assoc HostId Host} {e : Entry} {fs fs' : List Frame}
    (h : StackAlike A pairs hosts .between (.response e) fs fs') :
    StackAlike A pairs hosts .between .outcome (.outcomeResponse :: fs) (.outcomeResponse :: fs')
  | thenReply {hosts : Assoc HostId Host} {r : Reply} {X : Expected} {fs fs' : List Frame}
    (hr : r.Alike [] X r) (h : StackAlike A pairs hosts .between X fs fs') :
    StackAlike A pairs hosts .between .nothing (.thenReply r :: fs) (.thenReply r :: fs')
  | called {hosts : Assoc HostId Host} {fs fs' : List Frame} (i : InvokerId)
    (h : StackAlike A pairs hosts .between .outcome fs fs') :
    StackAlike A pairs hosts .between .nothing (.called i :: fs) (.called i :: fs')
  | ranInline {hosts : Assoc HostId Host} {fs fs' : List Frame} (i : InvokerId)
    (h : StackAlike A pairs hosts .between .nothing fs fs') :
    StackAlike A pairs hosts .between .nothing (.ranInline i :: fs) (.ranInline i :: fs')
  | gotFunction {hosts : Assoc HostId Host} {w f f' : HandleId} {fs fs' : List Frame}
    (hp : .function w f f' ∈ pairs) (data : Word)
    (h : StackAlike A pairs hosts .between .nothing fs fs') :
    StackAlike A pairs hosts .between (.response .getReferenceValue) (.gotFunction f data :: fs)
      (.gotFunction f' data :: fs')
  | gotReceiver {hosts : Assoc HostId Host} {w f f' : HandleId} {fs fs' : List Frame}
    (hp : .function w f f' ∈ pairs) (func : Word)
    (h : StackAlike A pairs hosts .between .nothing fs fs') :
    StackAlike A pairs hosts .between (.response .getUndefined) (.gotReceiver f func :: fs)
      (.gotReceiver f' func :: fs')
  | gotResult {hosts : Assoc HostId Host} {w f f' : HandleId} {fs fs' : List Frame}
    (hp : .function w f f' ∈ pairs) (h : StackAlike A pairs hosts .between .nothing fs fs') :
    StackAlike A pairs hosts .between (.response .callFunction) (.gotResult f :: fs)
      (.gotResult f' :: fs')
  | drained {hosts : Assoc HostId Host} {w f f' : HandleId} {fs fs' : List Frame}
    (hp : .function w f f' ∈ pairs) (wasEmpty : Bool)
    (h : StackAlike A pairs hosts .between .nothing fs fs') :
    StackAlike A pairs hosts .between .nothing (.drained f wasEmpty :: fs) (.drained f' wasEmpty :: fs')
  | unwrapped {hosts : Assoc HostId Host} {w f f' : HandleId} {fs fs' : List Frame}
    (hp : .function w f f' ∈ pairs) (h : StackAlike A pairs hosts .between .nothing fs fs') :
    StackAlike A pairs hosts .between .nothing (.unwrapped w :: .finalized f :: fs)
      (.finalized f' :: fs')
  | unreferenced {hosts : Assoc HostId Host} {w f f' : HandleId} {fs fs' : List Frame}
    (hp : .function w f f' ∈ pairs) {X : Expected} (hX : X ≠ .script)
    (h : StackAlike A pairs hosts .between .nothing fs fs') :
    StackAlike A pairs hosts (.ending f) X (.unreferenced f :: fs) (.unreferenced f' :: fs')
  | executed {hosts : Assoc HostId Host} {j j' : HandleId} {fs fs' : List Frame}
    (hp : .job j j' ∈ pairs) (env : Word) (h : StackAlike A pairs hosts .between .nothing fs fs') :
    StackAlike A pairs hosts .between .nothing (.executed j env :: fs) (.executed j' env :: fs')
  | completed {hosts : Assoc HostId Host} {j j' : HandleId} {fs fs' : List Frame}
    (hp : .job j j' ∈ pairs) (h : StackAlike A pairs hosts .between .nothing fs fs') :
    StackAlike A pairs hosts .between .nothing (.completed j :: fs) (.completed j' :: fs')
  | taskEnded {hosts : Assoc HostId Host} {fs fs' : List Frame} {sub sub' : Submission} (i : InvokerId)
    (hsub : sub.Alike pairs sub') (h : StackAlike A pairs hosts .between .nothing fs fs') :
    StackAlike A pairs hosts .between .nothing (.taskEnded i sub :: fs) (.taskEnded i sub' :: fs')
  | pumped {hosts : Assoc HostId Host} {fs fs' : List Frame} (i : InvokerId) (goal : PumpGoal)
    {name : String} {asked : PumpGoal}
    (h : StackAlike A pairs hosts .between (.answer (.pump name asked)) fs fs') :
    StackAlike A pairs hosts .between .nothing (.pumped i goal :: fs) (.pumped i goal :: fs')
  | engineScripted {hosts : Assoc HostId Host} {stage : Stage} {fs fs' : List Frame} (slot : ℕ)
    (r : Request) (hr : r.entry.ofRuntime = false)
    (h : StackAlike A pairs hosts stage (.response r.entry) fs fs') :
    StackAlike A pairs hosts stage .script (.engineScripted slot r :: fs) (.engineScripted slot r :: fs')
  | referenced {hosts : Assoc HostId Host} {w : HandleId} {fs fs' : List Frame} (env : Word)
    (spec : FunctionSpec) (data : Option Word) (delivery : Delivery) (invoker : Option InvokerId)
    (h : StackAlike A pairs hosts (.creating w) .handle fs fs') :
    StackAlike A pairs hosts (.creating w) (.response .createReference)
      (.referenced env { spec with finalizer := some (.wrapped w (data.map .extension)) } delivery
        invoker :: fs)
      (.referenced env { spec with finalizer := data.map .extension } delivery invoker :: fs')

namespace StackAlike

variable {stage : Stage} {X : Expected}

theorem mono (hsub : pairs ⊆ pairs') (h : StackAlike A pairs hosts stage X fs fs') :
    StackAlike A pairs' hosts stage X fs fs' := by
  induction h with
  | nil h => exact .nil h
  | performed ha hrest _ ih => exact .performed ha hrest ih
  | responseAnswer table e args hout _ ih => exact .responseAnswer table e args hout ih
  | forwarded host _ ih => exact .forwarded host ih
  | created host _ ih => exact .created host ih
  | outcomeResponse _ ih => exact .outcomeResponse ih
  | thenReply hr _ ih => exact .thenReply hr ih
  | called i _ ih => exact .called i ih
  | ranInline i _ ih => exact .ranInline i ih
  | gotFunction hp data _ ih => exact .gotFunction (hsub hp) data ih
  | gotReceiver hp func _ ih => exact .gotReceiver (hsub hp) func ih
  | gotResult hp _ ih => exact .gotResult (hsub hp) ih
  | drained hp wasEmpty _ ih => exact .drained (hsub hp) wasEmpty ih
  | unwrapped hp _ ih => exact .unwrapped (hsub hp) ih
  | unreferenced hp hX _ ih => exact .unreferenced (hsub hp) hX ih
  | executed hp env _ ih => exact .executed (hsub hp) env ih
  | completed hp _ ih => exact .completed (hsub hp) ih
  | taskEnded i hsubmission _ ih => exact .taskEnded i (hsubmission.mono hsub) ih
  | pumped i goal _ ih => exact .pumped i goal ih
  | engineScripted slot r hr _ ih => exact .engineScripted slot r hr ih
  | referenced env spec data delivery invoker _ ih =>
    exact .referenced env spec data delivery invoker ih

/-- The hosts are alive, as they were at the start. -/
theorem served (h : StackAlike A pairs hosts stage X fs fs') : A.Served hosts := by
  induction h with
  | nil h => exact h
  | forwarded host _ ih | created host _ ih => exact ih.keep host
  | _ => assumption

end StackAlike

/-! ### Calls of entries -/

/-- A wrapped env and the raw env that it stands for. -/
def Wrapped.StandsFor (m : Wrapped) (A : Addon) (env raw : Word) : Prop :=
  ∃ own e, m.envs.entry? ⟨env⟩ = some (own, e) ∧ m.envs.live? own = some e ∧ e.raw = raw ∧
    A.hosts e.host

/-- A call of an entry that takes a threadsafe function. -/
inductive FunctionCall where
  | context (out : Bool)
  | call (data : Word) (mode : ℤ)
  | acquire
  | release (mode : ℤ)
  | ref
  | unref

namespace FunctionCall

/-- The call with an env, if it takes one, and a threadsafe function. -/
def request (c : FunctionCall) (env func : Word) : Request :=
  match c with
  | context out => .getThreadsafeFunctionContext func out
  | call data mode => .callThreadsafeFunction func data mode
  | acquire => .acquireThreadsafeFunction func
  | release mode => .releaseThreadsafeFunction func mode
  | ref => .refThreadsafeFunction env func
  | unref => .unrefThreadsafeFunction env func

/-- Whether the call takes an env. -/
def TakesEnv (c : FunctionCall) : Prop := c = ref ∨ c = unref

end FunctionCall

/-- Calls of the runtime's entries through a multiplexer and directly.  The queue of a function is
not at its bound when a blocking call begins. -/
inductive Routed (A : Addon) (pairs : List Pair) (m : Wrapped) (r' : Registry ThreadsafeFunction) :
    Request → Request → Prop where
  | createAsyncWork {env raw : Word} (henv : m.StandsFor A env raw)
    (resource resource' name name' : Word) (execute complete : Bool) (data : Word) (out : Bool) :
    Routed A pairs m r' (.createAsyncWork env resource name execute complete data out)
      (.createAsyncWork raw resource' name' execute complete data out)
  | deleteAsyncWork {env raw work work' : Word} (henv : m.StandsFor A env raw)
    (hwork : Pair.Match pairs .job work work') :
    Routed A pairs m r' (.deleteAsyncWork env work) (.deleteAsyncWork raw work')
  | queueAsyncWork {env raw work work' : Word} (henv : m.StandsFor A env raw)
    (hwork : Pair.Match pairs .job work work') :
    Routed A pairs m r' (.queueAsyncWork env work) (.queueAsyncWork raw work')
  | cancelAsyncWork {env raw work work' : Word} (henv : m.StandsFor A env raw)
    (hwork : Pair.Match pairs .job work work') :
    Routed A pairs m r' (.cancelAsyncWork env work) (.cancelAsyncWork raw work')
  | createThreadsafeFunction {env raw : Word} (henv : m.StandsFor A env raw) (spec : FunctionSpec)
    (data : Option Word) (out : Bool) :
    Routed A pairs m r'
      (.createThreadsafeFunction env { spec with finalizer := data.map .extension } out)
      (.createThreadsafeFunction raw { spec with finalizer := data.map .extension } out)
  | function (c : FunctionCall) (env raw : Word) {func func' : Word} (henv : c.TakesEnv → m.StandsFor A env raw)
    (hfunc : Pair.Match pairs .function func func')
    (hspace : ∀ data, c = .call data CallMode.blocking.raw → ∀ fn, r'.get? ⟨func'⟩ = some fn →
      (fn.isFull && !fn.closing) = false) :
    Routed A pairs m r' (c.request env func) (c.request raw func')

/-! ### Controls -/

/-- A function that both sessions have just registered, under handles that are in no pair yet. -/
structure Registered (pairs : List Pair) (w : HandleId) (r r' : Registry ThreadsafeFunction)
    (f f' : HandleId) : Prop where
  live : ∃ fn, r.live? f = some (fn.wrappedAs w) ∧ r'.live? f' = some fn ∧ fn.OfAddon
  before : ∀ p ∈ pairs, p.Below w.number f'.number
  after : w.number ≤ f.number

/-- Threads that go on in the same way. -/
inductive ControlAlike (A : Addon) (pairs : List Pair) (m : Wrapped)
    (r r' : Registry ThreadsafeFunction) : Stage → Expected → Control → Control → Prop where
  | give {stage : Stage} {X : Expected} {reply reply' : Reply} (h : reply.Alike pairs X reply') :
    ControlAlike A pairs m r r' stage X (.give reply) (.give reply')
  | registered {w f f' : HandleId} (h : Registered pairs w r r' f f') :
    ControlAlike A pairs m r r' (.creating w) .handle (.give (.handle f)) (.give (.handle f'))
  | script {actions actions' : List Action} (h : List.Forall₂ A.Counterpart actions actions') :
    ControlAlike A pairs m r r' .between .nothing (.run (.script .callback actions))
      (.run (.script .callback actions'))
  | silent (stage : Stage) :
    ControlAlike A pairs m r r' stage .script (.run (.script .callback [])) (.run (.script .callback []))
  | perform {a a' : Action} (h : A.Counterpart a a') :
    ControlAlike A pairs m r r' .between (.answer a) (.run (.perform a)) (.run (.perform a'))
  | routed {q q' : Request} (h : Routed A pairs m r' q q') :
    ControlAlike A pairs m r r' .between (.called q.entry) (.run (.entry .multiplexer q))
      (.run (.entry .runtime q'))
  | asks (stage : Stage) (p : Provider) (q : Request) (hp : p = .injected ∨ ∃ slot, p = .engine slot)
    (hq : q.entry.ofRuntime = false) :
    ControlAlike A pairs m r r' stage (.response q.entry) (.run (.entry p q))
      (.run (.entry p q))
  | createFunction {w : HandleId} (env : Word) (spec : FunctionSpec) (data : Option Word)
    (delivery : Delivery) (invoker : Option InvokerId) :
    ControlAlike A pairs m r r' (.creating w) .handle
      (.run (.createFunction env
        { spec with finalizer := some (.wrapped w (data.map .extension)) } delivery invoker))
      (.run (.createFunction env { spec with finalizer := data.map .extension } delivery invoker))
  | call {w f f' : HandleId} (hp : .function w f f' ∈ pairs) (data : Word) (mode : CallMode)
    (hspace : mode = .blocking → ∀ fn, r'.object? f' = some fn →
      (fn.isFull && !fn.closing) = false) :
    ControlAlike A pairs m r r' .between .outcome (.run (.call f data mode)) (.run (.call f' data mode))
  | release {w f f' : HandleId} (hp : .function w f f' ∈ pairs) (mode : ReleaseMode) :
    ControlAlike A pairs m r r' .between .outcome (.run (.release f mode)) (.run (.release f' mode))
  | deliver {w f f' : HandleId} (hp : .function w f f' ∈ pairs) (data : Word) :
    ControlAlike A pairs m r r' .between .nothing (.run (.deliver f data)) (.run (.deliver f' data))
  | teardown {w f f' : HandleId} (hp : .function w f f' ∈ pairs) :
    ControlAlike A pairs m r r' .between .nothing (.run (.teardown f)) (.run (.teardown f'))
  | finalizer (owner owner' : Option HandleId) (data env hint : Word) :
    ControlAlike A pairs m r r' .between .nothing
      (.run (.finalizer owner (.extension data) env hint))
      (.run (.finalizer owner' (.extension data) env hint))
  | task (i : InvokerId) {task task' : Task} (h : task.Alike pairs task') :
    ControlAlike A pairs m r r' .between .nothing (.run (.task i task)) (.run (.task i task'))
  | pump (i : InvokerId) (goal : PumpGoal) (name : String) (asked : PumpGoal) :
    ControlAlike A pairs m r r' .between (.answer (.pump name asked)) (.run (.pump i goal))
      (.run (.pump i goal))
  | letGo (i : InvokerId) {X : Expected} {reply : Reply} (h : reply.Alike [] X reply) :
    ControlAlike A pairs m r r' .between X (.run (.letGo i reply)) (.run (.letGo i reply))

/-! ### Mirrors -/

/-- Sessions whose main threads are about to do the same. -/
inductive Mirror (A : Addon) (past : List Event) (s d : Session) : Prop where
  | running {pairs : List Pair} {hosts : Assoc HostId Host} (stage : Stage) {X : Expected}
    {c c' : Control} {fs fs' : List Frame} (hs : s.threads.get? .main = some ⟨c, fs⟩)
    (hd : d.threads.get? .main = some ⟨c', fs'⟩) (twin : Twin A past pairs hosts stage.ending? s d)
    (holds : stage.Holds A pairs s.wrapped s.functions d.ids.next)
    (control : ControlAlike A pairs s.wrapped s.functions d.functions stage X c c')
    (stack : StackAlike A pairs hosts stage X fs fs')
  | halted (hs : s.halted = true) (hd : d.halted = true) (seen : SeenAlike A past s d)

/-- Moves above two stacks after which the sessions correspond again. -/
inductive Move.Alike (A : Addon) (past : List Event) (fs fs' : List Frame) (m m' : Move) : Prop where
  | goOn {pairs : List Pair} {hosts : Assoc HostId Host} (stage : Stage) {X : Expected}
    (twin : Twin A past pairs hosts stage.ending? m.session m'.session)
    (holds : stage.Holds A pairs m.session.wrapped m.session.functions m'.session.ids.next)
    (control : ControlAlike A pairs m.session.wrapped m.session.functions m'.session.functions stage X
      m.control m'.control)
    (stack : StackAlike A pairs hosts stage X (m.frames ++ fs) (m'.frames ++ fs'))
  | halt (hs : m.session.halted = true) (hd : m'.session.halted = true)
    (seen : SeenAlike A past m.session m'.session)

theorem Move.Alike.mirror {m m' : Move} (h : Move.Alike A past fs fs' m m') :
    Mirror A past (Session.apply m .main fs) (Session.apply m' .main fs') := by
  cases h with
  | goOn stage twin holds control stack =>
    exact .running stage (Session.threads_apply ..) (Session.threads_apply ..)
      (twin.shows (Session.shows_setThread ..) (Session.shows_setThread ..) .nil) holds control stack
  | halt hs hd seen => exact .halted hs hd seen

end AddonHost
