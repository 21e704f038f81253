import AddonHost.Machine.Entry
import AddonHost.Machine.Invoker
import AddonHost.Proofs.Multiplexer.Consistent
import AddonHost.Proofs.Transparency.Addon

/-!
Two sessions that differ in their handles alone.

`Twin` relates the session of an addon that calls through a multiplexer with that of the same addon
when it calls directly.  Whatever handles do not touch is the same in both.  A list of `Pair`s tells
which functions and jobs correspond, and `FunctionAgrees` says how: the objects are the same, except
that the multiplexer has put its own finalizer around the addon's, and the wrapped handle of a
function resolves exactly as long as its raw handle.

Each operation that both sessions take part in has one lemma here.  Those that touch nothing but
threads and the log are covered by `Session.Shows` and `Twin.shows`.
-/

namespace AddonHost

variable {A : Addon} {past : List Event} {pairs pairs' : List Pair} {hosts : Assoc HostId Host}
  {ending : Option HandleId}
  {s s₁ s₂ d d₁ : Session} {es es' : List Event} {w f f' j j' : HandleId}

/-! ### What is seen of a session -/

namespace Session

/-- The events that are seen, latest first. -/
def seen (s : Session) : List Event := s.journal.filter Event.isSeen

/-- A session goes on to another one: nothing changes but threads and the log, and of the events
that are added these are seen. -/
def Shows (s s' : Session) (es : List Event) : Prop :=
  ∃ threads logger written journal,
    s' = { s with threads := threads, logger := logger, written := written, journal := journal } ∧
      journal.filter Event.isSeen = es ++ s.seen

theorem Shows.refl (s : Session) : s.Shows s [] := ⟨_, _, _, _, rfl, rfl⟩

theorem Shows.trans (h : s.Shows s₁ es) (h' : s₁.Shows s₂ es') : s.Shows s₂ (es' ++ es) := by
  obtain ⟨_, _, _, _, rfl, hs⟩ := h
  obtain ⟨_, _, _, _, rfl, hs'⟩ := h'
  refine ⟨_, _, _, _, rfl, ?_⟩
  rw [hs', List.append_assoc, ← hs]
  rfl

theorem Shows.ids (h : s.Shows s₁ es) : s₁.ids = s.ids := by
  obtain ⟨_, _, _, _, rfl, -⟩ := h
  rfl

theorem shows_emit {e : Event} (he : e.isSeen = true) (s : Session) : s.Shows (s.emit e) [e] := by
  refine ⟨s.threads, s.logger, s.written, e :: s.journal, rfl, ?_⟩
  rw [List.filter_cons_of_pos he]
  rfl

theorem shows_emit_unseen {e : Event} (he : e.isSeen = false) (s : Session) :
    s.Shows (s.emit e) [] := by
  refine ⟨s.threads, s.logger, s.written, e :: s.journal, rfl, ?_⟩
  rw [List.filter_cons_of_neg (by simp [he])]
  rfl

theorem shows_log (s : Session) (level : Log.Level) (text : String) :
    s.Shows (s.log level text) [] := by
  simp only [log]
  split_ifs
  · refine ⟨_, _, _, .log level text :: s.journal, rfl, ?_⟩
    rw [List.filter_cons_of_neg Bool.false_ne_true]
    rfl
  · exact ⟨_, _, _, _, rfl, rfl⟩
  · exact ⟨_, _, _, _, rfl, rfl⟩

theorem shows_setThread (s : Session) (t : ThreadId) (th : Thread) :
    s.Shows (s.setThread t th) [] := ⟨_, _, _, _, rfl, rfl⟩

end Session

/-! ### Tasks and invokers -/

/-- Tasks that do the same. -/
inductive Task.Alike (pairs : List Pair) : Task → Task → Prop where
  | drain {w f f' : HandleId} (h : .function w f f' ∈ pairs) : Alike pairs (.drain f) (.drain f')
  | teardown {w f f' : HandleId} (h : .function w f f' ∈ pairs) :
    Alike pairs (.teardown f) (.teardown f')
  | work {j j' : HandleId} (env : Word) (h : .job j j' ∈ pairs) :
    Alike pairs (.work j env) (.work j' env)

/-- Queued tasks that do the same, and that nobody waits for. -/
inductive Submission.Alike (pairs : List Pair) : Submission → Submission → Prop where
  | mk (ticket : ℕ) {task task' : Task} (h : task.Alike pairs task') :
    Alike pairs ⟨ticket, task, none⟩ ⟨ticket, task', none⟩

/-- Invokers that the main thread pumps, with queues of tasks that do the same. -/
inductive Invoker.Alike (pairs : List Pair) : Invoker → Invoker → Prop where
  | mk (holders : ℕ) (takes : ℕ → Bool) (offered executed tickets : ℕ)
    {pending pending' : List Submission} (h : List.Forall₂ (Submission.Alike pairs) pending pending') :
    Alike pairs
      ⟨holders, .manual ⟨.main, takes, offered, ⟨pending, tickets⟩, executed⟩⟩
      ⟨holders, .manual ⟨.main, takes, offered, ⟨pending', tickets⟩, executed⟩⟩

theorem Task.Alike.mono (hsub : pairs ⊆ pairs') {task task' : Task} (h : task.Alike pairs task') :
    task.Alike pairs' task' := by
  cases h with
  | drain h => exact .drain (hsub h)
  | teardown h => exact .teardown (hsub h)
  | work env h => exact .work env (hsub h)

theorem Submission.Alike.mono (hsub : pairs ⊆ pairs') {sub sub' : Submission}
    (h : sub.Alike pairs sub') : sub.Alike pairs' sub' := by
  obtain ⟨ticket, h⟩ := h
  exact ⟨ticket, h.mono hsub⟩

theorem Invoker.Alike.mono (hsub : pairs ⊆ pairs') {inv inv' : Invoker} (h : inv.Alike pairs inv') :
    inv.Alike pairs' inv' := by
  obtain ⟨holders, takes, offered, executed, tickets, h⟩ := h
  exact ⟨holders, takes, offered, executed, tickets, h.imp fun _ _ h => h.mono hsub⟩

/-! ### Hosts -/

/-- The hosts when one of them is kept by one more. -/
def Assoc.keep (hosts : Assoc HostId Host) (host : HostId) : Assoc HostId Host :=
  hosts.modify host fun h => { h with holders := h.holders + 1 }

/-- The hosts behind the addon's envs are alive and offer the runtime's entries. -/
def Addon.Served (A : Addon) (hosts : Assoc HostId Host) : Prop :=
  ∀ host, A.hosts host → ∃ h, hosts.get? host = some h ∧ h.holders ≠ 0 ∧
    ∀ e : Entry, e.ofRuntime = true → h.table.provider? e = some .runtime

theorem Addon.Served.keep (h : A.Served hosts) (host : HostId) : A.Served (hosts.keep host) := by
  intro host' hhost
  obtain ⟨h', hget, hholders, htable⟩ := h host' hhost
  by_cases heq : host = host'
  · subst heq
    exact ⟨{ h' with holders := h'.holders + 1 }, by simp [Assoc.keep, Assoc.get?_modify, hget],
      Nat.succ_ne_zero _, htable⟩
  · exact ⟨h', by simp [Assoc.keep, Assoc.get?_modify, heq, hget], hholders, htable⟩

/-! ### Functions and jobs -/

/-- A threadsafe function whose finalizer a multiplexer has replaced by its own. -/
def ThreadsafeFunction.wrappedAs (fn : ThreadsafeFunction) (w : HandleId) : ThreadsafeFunction :=
  { fn with finalizer := some (.wrapped w fn.finalizer) }

/-- A threadsafe function whose finalizer, if it has one, is the addon's, and that closes when it is
aborted. -/
structure ThreadsafeFunction.OfAddon (fn : ThreadsafeFunction) : Prop where
  finalizer : ∃ data : Option Word, fn.finalizer = data.map .extension
  closing : fn.aborted = true → fn.closing = true

/-- A function that a multiplexer has wrapped, and the same function created directly. -/
structure FunctionAgrees (A : Addon) (wrapped : Wrapped) (ending : Option HandleId)
    (r r' : Registry ThreadsafeFunction) (w f f' : HandleId) : Prop where
  foreign : w ∉ r.ids
  object : ∃ fn, r'.object? f' = some fn ∧ r.object? f = some (fn.wrappedAs w) ∧ fn.OfAddon
  owns : r.owns f = r'.owns f'
  /-- The wrapped handle resolves as long as the raw one, but for the end of the teardown. -/
  live : ∃ env host, A.hosts host ∧ wrapped.functions.live? w =
    if r.owns f ∧ ending ≠ some f then some { raw := f.value, env := env, host := host } else none

/-- A job, and the same job created directly. -/
structure JobAgrees (r r' : Registry AsyncJob) (j j' : HandleId) : Prop where
  object : ∃ job, r'.object? j' = some job ∧ r.object? j = some job
  owns : r.owns j = r'.owns j'

/-- The ids of a pair were given out before these numbers. -/
def Pair.Below (n n' : ℕ) : Pair → Prop
  | .function w f f' =>
    (0 < w.number ∧ w.number < n) ∧ (0 < f.number ∧ f.number < n) ∧ 0 < f'.number ∧ f'.number < n'
  | .job j j' => (0 < j.number ∧ j.number < n) ∧ 0 < j'.number ∧ j'.number < n'

theorem Pair.Below.mono {n n' m m' : ℕ} {p : Pair} (h : p.Below n n') (hm : n ≤ m) (hm' : n' ≤ m') :
    p.Below m m' := by
  cases p <;> simp only [Pair.Below] at h ⊢ <;> omega

namespace Pair.Renaming

/-- New handles of a function are among those that are renamed. -/
theorem consFunction (h : Pair.Renaming pairs) {n n' : ℕ} (hknown : ∀ p ∈ pairs, p.Below n n')
    (hw : n ≤ w.number) (hf : n ≤ f.number) (hf' : n' ≤ f'.number) :
    Pair.Renaming (.function w f f' :: pairs) := by
  have hne : ∀ {w₂ f₂ f₂' : HandleId}, .function w₂ f₂ f₂' ∈ pairs → w ≠ w₂ ∧ f ≠ f₂ ∧ f' ≠ f₂' := by
    intro w₂ f₂ f₂' hmem
    obtain ⟨hw₂, hf₂, hf₂'⟩ := hknown _ hmem
    refine ⟨?_, ?_, ?_⟩ <;> rintro rfl <;> omega
  constructor
  · rintro w₁ f₁ f₁' w₂ f₂ f₂' h₁ h₂
    simp only [List.mem_cons, Pair.function.injEq] at h₁ h₂
    obtain ⟨rfl, rfl, rfl⟩ | h₁ := h₁ <;> obtain ⟨rfl, rfl, rfl⟩ | h₂ := h₂
    · simp
    · simp [hne h₂]
    · simp [(hne h₁).1.symm, (hne h₁).2.1.symm]
    · exact h.wrapped h₁ h₂
  · rintro w₁ f₁ f₁' w₂ f₂ f₂' h₁ h₂
    simp only [List.mem_cons, Pair.function.injEq] at h₁ h₂
    obtain ⟨rfl, rfl, rfl⟩ | h₁ := h₁ <;> obtain ⟨rfl, rfl, rfl⟩ | h₂ := h₂
    · simp
    · simp [hne h₂]
    · simp [(hne h₁).2.1.symm, (hne h₁).2.2.symm]
    · exact h.functions h₁ h₂
  · rintro j j' j₂ j₂' h₁ h₂
    simp only [List.mem_cons, reduceCtorEq, false_or] at h₁ h₂
    exact h.jobs h₁ h₂

/-- New handles of a job are among those that are renamed. -/
theorem consJob (h : Pair.Renaming pairs) {n n' : ℕ} (hknown : ∀ p ∈ pairs, p.Below n n')
    (hj : n ≤ j.number) (hj' : n' ≤ j'.number) : Pair.Renaming (.job j j' :: pairs) := by
  have hne : ∀ {j₂ j₂' : HandleId}, .job j₂ j₂' ∈ pairs → j ≠ j₂ ∧ j' ≠ j₂' := by
    intro j₂ j₂' hmem
    obtain ⟨hj₂, hj₂'⟩ := hknown _ hmem
    refine ⟨?_, ?_⟩ <;> rintro rfl <;> omega
  constructor
  · rintro w₁ f₁ f₁' w₂ f₂ f₂' h₁ h₂
    simp only [List.mem_cons, reduceCtorEq, false_or] at h₁ h₂
    exact h.wrapped h₁ h₂
  · rintro w₁ f₁ f₁' w₂ f₂ f₂' h₁ h₂
    simp only [List.mem_cons, reduceCtorEq, false_or] at h₁ h₂
    exact h.functions h₁ h₂
  · rintro j₁ j₁' j₂ j₂' h₁ h₂
    simp only [List.mem_cons, Pair.job.injEq] at h₁ h₂
    obtain ⟨rfl, rfl⟩ | h₁ := h₁ <;> obtain ⟨rfl, rfl⟩ | h₂ := h₂
    · simp
    · simp [hne h₂]
    · simp [(hne h₁).1.symm, (hne h₁).2.symm]
    · exact h.jobs h₁ h₂

end Pair.Renaming

/-- The session of an addon that calls through a multiplexer (`s`) and of the same addon that calls
directly (`d`).  Both have begun when what was seen was `past`.  The function that is `ending` has
called its finalizer and is about to be unregistered. -/
structure Twin (A : Addon) (past : List Event) (pairs : List Pair) (hosts : Assoc HostId Host)
    (ending : Option HandleId) (s d : Session) : Prop where
  running : s.halted = false
  running' : d.halted = false
  environment : d.environment = s.environment
  config : d.config = s.config
  bindings : d.bindings = s.bindings
  injected : d.injected = s.injected
  engines : d.engines = s.engines
  producers : s.producers = []
  producers' : d.producers = []
  named : d.names.invokers = s.names.invokers
  hosts : s.hosts = hosts
  kept : s.names.jobs = []
  kept' : d.names.jobs = []
  /-- The runtime calls engines, and no multiplexer. -/
  provided : ∀ e : Entry, e.ofRuntime = false → ∀ p, s.injected.provider? e = some p →
    ∃ slot, p = .engine slot
  /-- Engines do not call back. -/
  silent : ∀ slot e, (s.scripts.get? (.engine slot e)).getD [] = []
  tables : ∀ table, A.calls table → table ∉ ["abi", "weak", "injected"] ∧
    ∃ m, s.names.multiplexers.get? table = some m ∧
      ∀ e : Entry, e.ofRuntime = true → m.table.provider? e = some .multiplexer
  envs : ∀ {name raw}, A.kind name = .env raw → ∃ own e, s.wrapped.envs.live? own = some e ∧
    s.value (.named name) = own.value ∧ e.raw = raw ∧ A.hosts e.host
  values : ∀ name, Pair.Match pairs (A.kind name) (s.value (.named name)) (d.value (.named name))
  pos : 0 < s.ids.next
  pos' : 0 < d.ids.next
  ids : s.ids.next ≤ 2 ^ 64
  ids' : d.ids.next ≤ s.ids.next
  renames : Pair.Renaming pairs
  known : ∀ p ∈ pairs, p.Below s.ids.next d.ids.next
  wrapped : s.wrapped.Consistent s.ids.next
  functionsBelow : s.functions.Below s.ids.next
  functionsBelow' : d.functions.Below d.ids.next
  jobsBelow : s.jobs.Below s.ids.next
  jobsBelow' : d.jobs.Below d.ids.next
  functions : ∀ {w f f'}, .function w f f' ∈ pairs →
    FunctionAgrees A s.wrapped ending s.functions d.functions w f f'
  jobs : ∀ {j j'}, .job j j' ∈ pairs → JobAgrees s.jobs d.jobs j j'
  invokers : ∀ i, Option.Rel (Invoker.Alike pairs) (s.invokers.get? i) (d.invokers.get? i)
  scripts : ∀ key, List.Forall₂ (List.Forall₂ A.Counterpart) ((s.scripts.get? key).getD [])
    ((d.scripts.get? key).getD [])
  seen : ∃ es es', s.seen = es ++ past ∧ d.seen = es' ++ past ∧
    List.Forall₂ (Event.Alike A pairs) es es'

/-- What was seen of two sessions since `past` is the same up to handles. -/
def SeenAlike (A : Addon) (past : List Event) (s d : Session) : Prop :=
  ∃ pairs, Pair.Renaming pairs ∧ ∃ es es', s.seen = es ++ past ∧ d.seen = es' ++ past ∧
    List.Forall₂ (Event.Alike A pairs) es es'

namespace Twin

theorem seenAlike (h : Twin A past pairs hosts ending s d) : SeenAlike A past s d :=
  ⟨pairs, h.renames, h.seen⟩

/-- One more pair of handles. -/
theorem extend (h : Twin A past pairs hosts ending s d) {p : Pair}
    (hrenames : Pair.Renaming (p :: pairs)) (hknown : p.Below s.ids.next d.ids.next)
    (hfunction : ∀ w f f', p = .function w f f' →
      FunctionAgrees A s.wrapped ending s.functions d.functions w f f')
    (hjob : ∀ j j', p = .job j j' → JobAgrees s.jobs d.jobs j j') :
    Twin A past (p :: pairs) hosts ending s d := by
  have hsub : pairs ⊆ p :: pairs := List.subset_cons_self p pairs
  obtain ⟨es, es', hes, hes', halike⟩ := h.seen
  refine { h with
    values := fun name => (h.values name).mono hsub
    renames := hrenames
    known := fun q hq => ?_
    functions := fun {w f f'} hmem => ?_
    jobs := fun {j j'} hmem => ?_
    invokers := fun i => ?_
    seen := ⟨es, es', hes, hes', halike.imp fun _ _ he => he.mono hsub⟩ }
  · rcases List.mem_cons.1 hq with rfl | hq
    · exact hknown
    · exact h.known q hq
  · rcases List.mem_cons.1 hmem with rfl | hmem
    · exact hfunction _ _ _ rfl
    · exact h.functions hmem
  · rcases List.mem_cons.1 hmem with rfl | hmem
    · exact hjob _ _ rfl
    · exact h.jobs hmem
  · have hi := h.invokers i
    generalize s.invokers.get? i = left, d.invokers.get? i = right at hi
    cases hi with
    | none => exact .none
    | some hinv => exact .some (hinv.mono hsub)

/-! ### Steps that are only seen -/

theorem shows (h : Twin A past pairs hosts ending s d) (hs : s.Shows s₁ es) (hd : d.Shows d₁ es')
    (hes : List.Forall₂ (Event.Alike A pairs) es es') : Twin A past pairs hosts ending s₁ d₁ := by
  obtain ⟨_, _, _, _, rfl, hs⟩ := hs
  obtain ⟨_, _, _, _, rfl, hd⟩ := hd
  obtain ⟨fs, fs', hfs, hfs', hfss⟩ := h.seen
  refine { h with seen := ⟨es ++ fs, es' ++ fs', ?_, ?_, ?_⟩ }
  · rw [Session.seen, hs, hfs, List.append_assoc]
  · rw [Session.seen, hd, hfs', List.append_assoc]
  · exact List.rel_append hes hfss

theorem showsLeft (h : Twin A past pairs hosts ending s d) (hs : s.Shows s₁ []) :
    Twin A past pairs hosts ending s₁ d := h.shows hs (.refl d) .nil

theorem showsRight (h : Twin A past pairs hosts ending s d) (hd : d.Shows d₁ []) :
    Twin A past pairs hosts ending s d₁ := h.shows (.refl s) hd .nil

theorem log (h : Twin A past pairs hosts ending s d) (level : Log.Level) (text text' : String) :
    Twin A past pairs hosts ending (s.log level text) (d.log level text') :=
  h.shows (Session.shows_log ..) (Session.shows_log ..) .nil

theorem emit (h : Twin A past pairs hosts ending s d) {e e' : Event} (he : e.isSeen = false)
    (he' : e'.isSeen = false) : Twin A past pairs hosts ending (s.emit e) (d.emit e') :=
  h.shows (Session.shows_emit_unseen he s) (Session.shows_emit_unseen he' d) .nil

theorem emitSeen (h : Twin A past pairs hosts ending s d) {e e' : Event} (he : e.isSeen = true)
    (he' : e'.isSeen = true) (halike : Event.Alike A pairs e e') :
    Twin A past pairs hosts ending (s.emit e) (d.emit e') :=
  h.shows (Session.shows_emit he s) (Session.shows_emit he' d) (.cons halike .nil)

/-! ### Variables, scripts and bindings -/

theorem setVariable (h : Twin A past pairs hosts ending s d) {name : String} {v v' : Word}
    (hname : ∀ raw, A.kind name ≠ .env raw) (hv : Pair.Match pairs (A.kind name) v v') :
    Twin A past pairs hosts ending (s.setVariable name v) (d.setVariable name v') := by
  refine { h with envs := fun {name' raw} hkind => ?_, values := fun name' => ?_ }
  · have hne : name ≠ name' := by
      rintro rfl
      exact hname raw hkind
    obtain ⟨own, e, he, hvalue, hraw⟩ := h.envs hkind
    refine ⟨own, e, he, ?_, hraw⟩
    simpa [Session.value, Session.setVariable, Assoc.get?_insert, hne] using hvalue
  · rcases eq_or_ne name name' with rfl | hne
    · simpa [Session.value, Session.setVariable, Assoc.get?_insert] using hv
    · simpa [Session.value, Session.setVariable, Assoc.get?_insert, hne] using h.values name'

/-- The script of a callback, as a case split on those that are left. -/
theorem fire_eq (s : Session) (key : ScriptKey) :
    s.fire key = match (s.scripts.get? key).getD [] with
      | [] => ([], s)
      | actions :: rest => (actions, { s with scripts := s.scripts.insert key rest }) := by
  unfold Session.fire
  rcases s.scripts.get? key with _ | _ | ⟨actions, rest⟩ <;> rfl

/-- Setting the scripts of a callback of the addon. -/
theorem insertScripts (h : Twin A past pairs hosts ending s d) {key : ScriptKey}
    (hkey : ∀ slot e, key ≠ .engine slot e) {scripts scripts' : List (List Action)}
    (hscripts : List.Forall₂ (List.Forall₂ A.Counterpart) scripts scripts') :
    Twin A past pairs hosts ending { s with scripts := s.scripts.insert key scripts }
      { d with scripts := d.scripts.insert key scripts' } := by
  refine { h with silent := fun slot e => ?_, scripts := fun key' => ?_ }
  · simpa [Assoc.get?_insert, hkey slot e] using h.silent slot e
  · rcases eq_or_ne key key' with rfl | hne
    · simpa [Assoc.get?_insert] using hscripts
    · simpa [Assoc.get?_insert, hne] using h.scripts key'

theorem fire (h : Twin A past pairs hosts ending s d) (key : ScriptKey) :
    ∃ actions actions' s₁ d₁, s.fire key = (actions, s₁) ∧ d.fire key = (actions', d₁) ∧
      List.Forall₂ A.Counterpart actions actions' ∧ Twin A past pairs hosts ending s₁ d₁ := by
  have hscripts := h.scripts key
  rw [fire_eq, fire_eq]
  generalize hleft : (s.scripts.get? key).getD [] = left, (d.scripts.get? key).getD [] = right
    at hscripts
  cases hscripts with
  | nil => exact ⟨_, _, _, _, rfl, rfl, .nil, h⟩
  | cons hactions hrest =>
    refine ⟨_, _, _, _, rfl, rfl, hactions, h.insertScripts ?_ hrest⟩
    rintro slot e rfl
    simp [h.silent slot e] at hleft

/-- What is bound to envs, set or unset in both. -/
theorem withBindings (h : Twin A past pairs hosts ending s d) (bindings : Assoc Word InvokerId) :
    Twin A past pairs hosts ending { s with bindings } { d with bindings } :=
  { h with bindings := rfl }

theorem withEngines (h : Twin A past pairs hosts ending s d) (engines : Engines) :
    Twin A past pairs hosts ending { s with engines } { d with engines } :=
  { h with engines := rfl }

/-- The configuration in force is the same. -/
theorem readConfig (h : Twin A past pairs hosts ending s d) :
    ∃ c s₁ d₁, s.readConfig = (c, s₁) ∧ d.readConfig = (c, d₁) ∧ s₁.ids = s.ids ∧ d₁.ids = d.ids ∧
      s₁.wrapped = s.wrapped ∧ s₁.functions = s.functions ∧ Twin A past pairs hosts ending s₁ d₁ := by
  cases hc : s.config with
  | some c =>
    exact ⟨c, s, d, by simp [Session.readConfig, hc], by simp [Session.readConfig, h.config, hc], rfl,
      rfl, rfl, rfl, h⟩
  | none =>
    have hsame : RuntimeConfig.ofVariables d.environment = RuntimeConfig.ofVariables s.environment :=
      congrArg _ h.environment
    refine ⟨RuntimeConfig.ofVariables s.environment,
      { s with config := some (RuntimeConfig.ofVariables s.environment) },
      { d with config := some (RuntimeConfig.ofVariables s.environment) },
      by simp only [Session.readConfig, hc], ?_, rfl, rfl, rfl, rfl, { h with config := rfl }⟩
    rw [← hsame]
    simp only [Session.readConfig, h.config, hc]

/-! ### Hosts -/

theorem keepHost (h : Twin A past pairs hosts ending s d) (host : HostId) :
    Twin A past pairs (hosts.keep host) ending (s.keepHost host) d :=
  { h with hosts := by rw [Session.keepHost, h.hosts]; rfl }

theorem releaseHost {host : HostId} (h : Twin A past pairs (hosts.keep host) ending s d) :
    Twin A past pairs hosts ending (s.releaseHost host) d := by
  have hreleased : (hosts.keep host).modify host (fun h => { h with holders := h.holders - 1 })
      = hosts := Assoc.modify_modify_of_leftInverse (fun _ => rfl) hosts host
  exact { h with hosts := by rw [Session.releaseHost, h.hosts]; exact hreleased }

/-! ### Invokers -/

theorem modifyInvoker (h : Twin A past pairs hosts ending s d) (i : InvokerId) {g g' : Invoker → Invoker}
    (hg : ∀ inv inv', inv.Alike pairs inv' → (g inv).Alike pairs (g' inv')) :
    Twin A past pairs hosts ending (s.modifyInvoker i g) (d.modifyInvoker i g') := by
  refine { h with invokers := fun k => ?_ }
  have hk := h.invokers k
  simp only [Session.modifyInvoker, Assoc.get?_modify]
  split
  · generalize s.invokers.get? k = left, d.invokers.get? k = right at hk
    cases hk with
    | none => exact .none
    | some hinv => exact .some (hg _ _ hinv)
  · exact hk

/-- What is found of an invoker is the same. -/
theorem liveInvoker (h : Twin A past pairs hosts ending s d) (i : Option InvokerId) :
    s.liveInvoker? i = none ∧ d.liveInvoker? i = none ∨
      ∃ k inv inv', s.liveInvoker? i = some (k, inv) ∧ d.liveInvoker? i = some (k, inv') := by
  cases i with
  | none => exact .inl ⟨rfl, rfl⟩
  | some k =>
    have hk := h.invokers k
    simp only [Session.liveInvoker?, Option.bind_eq_bind, Option.bind_some]
    generalize s.invokers.get? k = left, d.invokers.get? k = right at hk
    cases hk with
    | none => exact .inl ⟨rfl, rfl⟩
    | some hinv =>
      obtain ⟨holders, takes, offered, executed, tickets, hpending⟩ := hinv
      simp only [Option.bind_some]
      split
      · exact .inl ⟨rfl, rfl⟩
      · exact .inr ⟨k, _, _, rfl, rfl⟩

theorem keepInvoker (h : Twin A past pairs hosts ending s d) (i : InvokerId) :
    Twin A past pairs hosts ending (s.keepInvoker i) (d.keepInvoker i) := by
  refine h.modifyInvoker i ?_
  rintro _ _ ⟨holders, takes, offered, executed, tickets, hpending⟩
  exact ⟨_, takes, offered, executed, tickets, hpending⟩

theorem countExecuted (h : Twin A past pairs hosts ending s d) (i : InvokerId) :
    Twin A past pairs hosts ending (s.countExecuted i) (d.countExecuted i) := by
  refine h.modifyInvoker i ?_
  rintro _ _ ⟨holders, takes, offered, executed, tickets, hpending⟩
  exact ⟨_, takes, offered, _, tickets, hpending⟩

/-- The oldest tasks of a queue do the same, and are taken off. -/
theorem startTask (h : Twin A past pairs hosts ending s d) {i : InvokerId} {inv inv' : Invoker}
    (hinv : inv.Alike pairs inv') :
    s.startTask i inv = none ∧ d.startTask i inv' = none ∨
      ∃ sub sub' s₁ d₁, s.startTask i inv = some (sub, s₁) ∧ d.startTask i inv' = some (sub', d₁) ∧
        sub.Alike pairs sub' ∧ s₁.ids = s.ids ∧ Twin A past pairs hosts ending s₁ d₁ := by
  obtain ⟨holders, takes, offered, executed, tickets, hpending⟩ := hinv
  unfold Session.startTask
  cases hpending with
  | nil => exact .inl ⟨rfl, rfl⟩
  | cons hsub hrest =>
    refine .inr ⟨_, _, _, _, rfl, rfl, hsub, rfl, Twin.emit (h.modifyInvoker i ?_) rfl rfl⟩
    rintro _ _ ⟨holders, takes, offered, executed, tickets', -⟩
    exact ⟨holders, takes, offered, executed, tickets, hrest⟩

/-- What is queued is dropped. -/
theorem discardQueue (h : Twin A past pairs hosts ending s d) {i : InvokerId} {inv inv' : Invoker}
    (hinv : inv.Alike pairs inv') :
    Twin A past pairs hosts ending (s.discardQueue i inv) (d.discardQueue i inv') := by
  obtain ⟨holders, takes, offered, executed, tickets, hpending⟩ := hinv
  unfold Session.discardQueue
  refine Twin.modifyInvoker ?_ i ?_
  · simp only [Invoker.queue]
    induction hpending generalizing s d with
    | nil => exact h
    | cons hsub _ ih =>
      obtain ⟨ticket, -⟩ := hsub
      exact ih (h.emit rfl rfl)
  · rintro _ _ ⟨holders, takes, offered, executed, tickets, hpending⟩
    exact ⟨holders, takes, offered, executed, tickets, .nil⟩

/-- Tasks that do the same are queued in both, or in none. -/
theorem offer (h : Twin A past pairs hosts ending s d) (i : InvokerId) (sync : Bool) {task task' : Task}
    (htask : task.Alike pairs task') :
    ∃ o s₁ d₁, s.offer .main i sync task = (o, s₁) ∧ d.offer .main i sync task' = (o, d₁) ∧
      (o = .accepted ∨ o = .handedBack ∨ sync = true ∧ o = .inline) ∧
      Twin A past pairs hosts ending s₁ d₁ := by
  have hi := h.invokers i
  unfold Session.offer
  generalize s.invokers.get? i = left, d.invokers.get? i = right at hi
  cases hi with
  | none => exact ⟨_, _, _, rfl, rfl, .inr (.inl rfl), h⟩
  | some hinv =>
    obtain ⟨holders, takes, offered, executed, tickets, hpending⟩ := hinv
    have hcounted : Twin A past pairs hosts ending
        (s.modifyInvoker i (·.mapManual fun m => { m with offered := m.offered + 1 }))
        (d.modifyInvoker i (·.mapManual fun m => { m with offered := m.offered + 1 })) := by
      refine h.modifyInvoker i ?_
      rintro _ _ ⟨holders, takes, offered, executed, tickets, hpending⟩
      exact ⟨holders, takes, _, executed, tickets, hpending⟩
    simp only
    split_ifs with htakes hsync
    · exact ⟨_, _, _, rfl, rfl, .inr (.inl rfl), hcounted⟩
    · refine ⟨_, _, _, rfl, rfl, .inl rfl, ?_⟩
      refine Twin.emit (hcounted.modifyInvoker i ?_) rfl rfl
      rintro _ _ ⟨holders', takes', offered', executed', tickets', hpending'⟩
      exact ⟨holders', takes', offered', executed', tickets' + 1,
        List.rel_append hpending' (.cons ⟨tickets', htask⟩ .nil)⟩
    · exact ⟨_, _, _, rfl, rfl, .inr (.inr ⟨by simpa using hsync, rfl⟩), hcounted⟩

/-! ### Functions -/

theorem functionValue_iff (h : Twin A past pairs hosts ending s d) (hp : .function w f f' ∈ pairs)
    {w₂ f₂ f₂' : HandleId} (hp₂ : .function w₂ f₂ f₂' ∈ pairs) :
    (f₂.value = f.value ↔ f₂ = f) ∧ (f₂'.value = f'.value ↔ f₂' = f') := by
  have hknown := h.known _ hp
  have hknown₂ := h.known _ hp₂
  simp only [Pair.Below] at hknown hknown₂
  have hids := h.ids
  have hids' := h.ids'
  exact ⟨HandleId.value_inj (by omega) (by omega), HandleId.value_inj (by omega) (by omega)⟩

/-- A function that both have changed in the same way. -/
theorem modifyFunction (h : Twin A past pairs hosts ending s d) (hp : .function w f f' ∈ pairs)
    {g g' : ThreadsafeFunction → ThreadsafeFunction}
    (hg : ∀ fn, d.functions.object? f' = some fn → fn.OfAddon →
      g (fn.wrappedAs w) = (g' fn).wrappedAs w ∧ (g' fn).OfAddon) :
    Twin A past pairs hosts ending (s.modifyFunction f g) (d.modifyFunction f' g') := by
  refine { h with functions := fun {w₂ f₂ f₂'} hp₂ => ?_ }
  have hagrees := h.functions hp₂
  refine { hagrees with object := ?_ }
  obtain ⟨fn, hobject', hobject, hof⟩ := hagrees.object
  simp only [Session.modifyFunction, Registry.object?_modify]
  by_cases heq : f = f₂
  · obtain rfl : w = w₂ := (h.renames.wrapped hp hp₂).2 heq
    obtain rfl : f' = f₂' := (h.renames.functions hp hp₂).1 heq
    subst heq
    obtain ⟨hcomm, hof'⟩ := hg fn hobject' hof
    exact ⟨g' fn, by simp [hobject'], by simp [hobject, hcomm], hof'⟩
  · have heq' : f' ≠ f₂' := fun h' => heq ((h.renames.functions hp hp₂).2 h')
    exact ⟨fn, by simpa [heq'] using hobject', by simpa [heq] using hobject, hof⟩

end Twin

end AddonHost
