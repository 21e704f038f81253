import AddonHost.Proofs.Transparency.Functions

/-!
Entries in both sessions.

The runtime asks an engine, and both sessions get the same answer; the runtime answers the addon,
and both sessions get answers that are the same up to handles.
-/

namespace AddonHost

variable {A : Addon} {past : List Event} {pairs : List Pair} {hosts : Assoc HostId Host}
  {s s₁ d d₁ : Session} {fs fs' : List Frame} {w f f' j j' : HandleId} {X : Expected} {e : Entry}
  {stage : Stage} {fn : ThreadsafeFunction} {v v' : Word}

/-- What an entry of an engine writes is no handle of the runtime. -/
theorem Entry.outKind_eq_data (h : e.ofRuntime = false) : e.outKind = .data := by
  cases e <;> simp_all [Entry.ofRuntime, Entry.outKind]

/-- The response of an engine is the same in both sessions. -/
theorem Reply.alike_of_engine (h : e.ofRuntime = false) (r : Response) :
    Reply.Alike pairs (.response e) (.response r) (.response r) := by
  refine ⟨r.status, r.out, r.out, rfl, rfl, ?_⟩
  rw [Entry.outKind_eq_data h]
  cases r.out with
  | none => exact .none
  | some v => exact .some rfl

namespace Twin

/-! ### Engines -/

/-- Both threads go on after steps that are only seen, at any stage. -/
theorem goOnShown {m m' : Move} {es es' : List Event}
    (h : Twin A past pairs hosts stage.ending? s d)
    (hholds : stage.Holds A pairs s.wrapped s.functions d.ids.next) (hs : s.Shows m.session es)
    (hd : d.Shows m'.session es') (hes : List.Forall₂ (Event.Alike A pairs) es es')
    (hcontrol : ControlAlike A pairs s.wrapped s.functions d.functions stage X m.control m'.control)
    (hstack : StackAlike A pairs hosts stage X (m.frames ++ fs) (m'.frames ++ fs')) :
    Move.Alike A past fs fs' m m' := by
  have h₁ := h.shows hs hd hes
  obtain ⟨session, control, frames⟩ := m
  obtain ⟨session', control', frames'⟩ := m'
  obtain ⟨_, _, _, _, rfl, -⟩ := hs
  obtain ⟨_, _, _, _, rfl, -⟩ := hd
  exact .goOn _ h₁ hholds hcontrol hstack

/-- Engines have no script. -/
theorem fire_engine {ending : Option HandleId} (h : Twin A past pairs hosts ending s d) (slot : ℕ)
    (e : Entry) : s.fire (.engine slot e) = ([], s) ∧ d.fire (.engine slot e) = ([], d) := by
  have hleft := h.silent slot e
  have hright := h.scripts (.engine slot e)
  rw [hleft, List.forall₂_nil_left_iff] at hright
  rw [fire_eq, fire_eq, hleft, hright]
  exact ⟨rfl, rfl⟩

/-- An engine is asked by the runtime, through the injected table or at last itself. -/
theorem asks (h : Twin A past pairs hosts stage.ending? s d)
    (hholds : stage.Holds A pairs s.wrapped s.functions d.ids.next) {p : Provider} {q : Request}
    (hp : p = .injected ∨ ∃ slot, p = .engine slot) (hq : q.entry.ofRuntime = false)
    (hstack : StackAlike A pairs hosts stage (.response q.entry) fs fs') :
    Move.Alike A past fs fs' (s.entry .main p q) (d.entry .main p q) := by
  obtain rfl | ⟨slot, rfl⟩ := hp
  · simp only [Session.entry, h.injected]
    cases hprovider : s.injected.provider? q.entry with
    | none =>
      exact h.goOnShown hholds (Session.shows_log ..) (Session.shows_log ..) .nil
        (.give (Reply.alike_of_engine hq _)) hstack
    | some p =>
      obtain ⟨slot, rfl⟩ := h.provided _ hq p hprovider
      exact .goOn _ h hholds (.asks stage _ _ (.inr ⟨slot, rfl⟩) hq) hstack
  · have hcalled := h.emitSeen rfl rfl (.engine slot q)
    obtain ⟨hfire, hfire'⟩ := hcalled.fire_engine slot q.entry
    simp only [Session.entry, Session.engineEntry, hfire, hfire']
    exact .goOn _ hcalled hholds (.silent stage) (.engineScripted slot q hq hstack)

/-- An engine answers. -/
theorem engineAnswer (h : Twin A past pairs hosts stage.ending? s d)
    (hholds : stage.Holds A pairs s.wrapped s.functions d.ids.next) (slot : ℕ) {q : Request}
    (hq : q.entry.ofRuntime = false)
    (hstack : StackAlike A pairs hosts stage (.response q.entry) fs fs') :
    Move.Alike A past fs fs' (s.engineAnswer slot q) (d.engineAnswer slot q) := by
  have hfinalizer := s.engines.finalizerCall_answer slot hq
  unfold Session.engineAnswer
  rw [h.engines]
  generalize s.engines.answer slot q = answer at hfinalizer
  obtain ⟨engines, response, _⟩ := answer
  obtain rfl := hfinalizer
  exact .goOn _ (h.withEngines _) hholds (.give (Reply.alike_of_engine hq _)) hstack

/-! ### Answers of the runtime -/

/-- Both sessions answer with a status and no value. -/
theorem respond (h : Twin A past pairs hosts none s d) (status : Status)
    (hstack : StackAlike A pairs hosts .between (.response e) fs fs') :
    Move.Alike A past fs fs' (s.respond status) (d.respond status) :=
  h.give (X := .response e) ⟨status, none, none, rfl, rfl, .none⟩ hstack

/-- Both sessions answer with the status of an outcome. -/
theorem respondOutcome {p p' : Outcome × Session}
    (h : ∃ o s₁ d₁, p = (o, s₁) ∧ p' = (o, d₁) ∧ Twin A past pairs hosts none s₁ d₁)
    (hstack : StackAlike A pairs hosts .between (.response e) fs fs') :
    Move.Alike A past fs fs' (Session.respondOutcome p) (Session.respondOutcome p') := by
  obtain ⟨o, s₁, d₁, rfl, rfl, h₁⟩ := h
  exact h₁.respond _ hstack

/-! ### Jobs -/

/-- A job is created. -/
theorem createAsyncWork (h : Twin A past pairs hosts none s d) (hids : s.ids.next < 2 ^ 64)
    (env resource resource' name name' : Word) (execute complete : Bool) (data : Word) (out : Bool)
    (hstack : StackAlike A pairs hosts .between (.response .createAsyncWork) fs fs') :
    Move.Alike A past fs fs'
      (s.runtimeEntry .main (.createAsyncWork env resource name execute complete data out))
      (d.runtimeEntry .main (.createAsyncWork env resource' name' execute complete data out)) := by
  unfold Session.runtimeEntry
  simp only
  split
  · exact h.respond _ hstack
  · have hcreated := (h.insertJob hids { env := env, data := data }).log .debug
      (jobText ⟨s.ids.next⟩ ++ " created") (jobText ⟨d.ids.next⟩ ++ " created")
    refine hcreated.give (X := .response .createAsyncWork) ⟨_, _, _, rfl, rfl, .some ?_⟩
      (hstack.mono (List.subset_cons_self ..))
    exact .inr ⟨_, _, List.mem_cons_self .., rfl, rfl⟩

theorem deleteJob (h : Twin A past pairs hosts none s d) (hv : Pair.Match pairs .job v v') :
    ∃ o s₁ d₁, s.deleteJob ⟨v⟩ = (o, s₁) ∧ d.deleteJob ⟨v'⟩ = (o, d₁) ∧
      Twin A past pairs hosts none s₁ d₁ := by
  unfold Session.deleteJob
  rcases h.resolveJob hv with ⟨hj, hj'⟩ | ⟨j, j', hp, hj, hj'⟩ <;> rw [hj, hj']
  · exact ⟨_, _, _, rfl, rfl, h⟩
  · exact ⟨_, _, _, rfl, rfl,
      Twin.log (((h.eraseJob hp).modifyJob hp AsyncJob.delete).emit rfl rfl) ..⟩

theorem cancelJob (h : Twin A past pairs hosts none s d) (hv : Pair.Match pairs .job v v') :
    ∃ o s₁ d₁, s.cancelJobById ⟨v⟩ = (o, s₁) ∧ d.cancelJobById ⟨v'⟩ = (o, d₁) ∧
      Twin A past pairs hosts none s₁ d₁ := by
  unfold Session.cancelJobById
  rcases h.resolveJobEntry hv with ⟨hj, hj'⟩ | ⟨j, j', job, hp, hj, hj'⟩ <;> rw [hj, hj']
  · exact ⟨_, _, _, rfl, rfl, h⟩
  obtain ⟨job, hjob', hjob⟩ := (h.jobs hp).object
  simp only [Session.cancelJob, hjob, hjob']
  rcases job.cancel with e | ⟨job₁, _ | _⟩
  · exact ⟨_, _, _, rfl, rfl, h⟩
  · exact ⟨_, _, _, rfl, rfl, h.emit rfl rfl⟩
  · exact ⟨_, _, _, rfl, rfl, Twin.log ((h.modifyJob hp fun _ => job₁).emit rfl rfl) ..⟩

theorem queueJob (h : Twin A past pairs hosts none s d) (hv : Pair.Match pairs .job v v')
    (env : Word) :
    ∃ o s₁ d₁, s.queueJobById .main ⟨v⟩ env = (o, s₁) ∧ d.queueJobById .main ⟨v'⟩ env = (o, d₁) ∧
      Twin A past pairs hosts none s₁ d₁ := by
  unfold Session.queueJobById
  rcases h.resolveJobEntry hv with ⟨hj, hj'⟩ | ⟨j, j', job, hp, hj, hj'⟩ <;> rw [hj, hj']
  · exact ⟨_, _, _, rfl, rfl, h⟩
  obtain ⟨job, hjob', hjob⟩ := (h.jobs hp).object
  simp only [Session.queueJob, hjob, hjob', h.bindings]
  rcases h.liveInvoker (s.bindings.get? env) with ⟨hi, hi'⟩ | ⟨i, inv, inv', hi, hi'⟩ <;>
    rw [hi, hi']
  · exact ⟨_, _, _, rfl, rfl, h.log ..⟩
  simp only
  rcases job.dispatch with e | job₁
  · exact ⟨_, _, _, rfl, rfl, h⟩
  obtain ⟨o, s₁, d₁, ho, ho', hoffer, h₁⟩ :=
    (h.modifyJob hp fun _ => job₁).offer i false (.work env hp)
  simp only [ho, ho']
  rcases hoffer with rfl | rfl | ⟨hsync, -⟩
  · exact ⟨_, _, _, rfl, rfl, h₁⟩
  · exact ⟨_, _, _, rfl, rfl, (h₁.modifyJob hp AsyncJob.retract).log ..⟩
  · cases hsync

end Twin

end AddonHost
