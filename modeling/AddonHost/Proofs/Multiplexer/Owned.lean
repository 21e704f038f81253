import AddonHost.Proofs.Multiplexer.Consistent
import AddonHost.Proofs.Multiplexer.Life

/-!
Multiplexers and their envs.

A wrapped env belongs to a multiplexer.  `Multiplexers.Owned` says that live envs and the lists of
the multiplexers agree, and live functions and hooks and the lists of the envs.  Each step keeps
that, so it holds of every run (`Multiplexers.Run.owned`), and no step makes an id live again that
was live once (`Multiplexers.Step.fades`).
-/

namespace AddonHost

namespace Multiplexers

variable {l l' : Multiplexers} {gone : List HandleId}

/-- The envs that live multiplexers list. -/
def envLists (l : Multiplexers) (name : String) : Option (List HandleId) :=
  (l.owners.get? name).map MultiplexerHandle.envs

/-- Wrapped handles are consistent, and each live env is listed by one multiplexer. -/
structure Owned (l : Multiplexers) : Prop where
  pos : 0 < l.nextId
  wrapped : l.wrapped.Consistent l.nextId
  envs : ∃ owner : HandleId → Option String,
    (∀ env, (owner env).isSome = (l.wrapped.envs.live? env).isSome) ∧ Listed l.envLists owner

theorem Owned.initial : Owned .initial := by
  have hlive {α : Type} (id : HandleId) : ({} : Registry α).live? id = none := rfl
  refine ⟨Nat.one_pos, ⟨?_, ?_, ?_, ⟨?_, ?_⟩, ⟨?_, ?_⟩⟩, fun _ => none, ?_, ?_, ?_⟩ <;>
    simp [Multiplexers.initial, Registry.Below, Wrapped.functionEnv, Wrapped.functionLists,
      Wrapped.hookEnv, Wrapped.hookLists, envLists, hlive]

/-- A step that neither wraps nor erases envs. -/
theorem Owned.of_envs (h : l.Owned) (hn : l.nextId ≤ l'.nextId)
    (hwrapped : l'.wrapped.Consistent l'.nextId)
    (henvs : ∀ env, (l'.wrapped.envs.live? env).isSome = (l.wrapped.envs.live? env).isSome)
    (howners : l'.owners = l.owners) : l'.Owned := by
  obtain ⟨owner, hlive, hlisted⟩ := h.envs
  refine ⟨h.pos.trans_le hn, hwrapped, owner, fun env => ?_, ?_⟩
  · rw [hlive, henvs]
  · have hlists : l'.envLists = l.envLists := by
      funext name
      rw [envLists, howners, envLists]
    rwa [hlists]

/-- A multiplexer lists the envs that it owns, each once. -/
theorem count_envsOf {owner : HandleId → Option String} (h : Listed l.envLists owner)
    (env : HandleId) (name : String) :
    (l.envsOf name).count env = if owner env = some name then 1 else 0 := by
  have hlists : (l.envLists name).getD [] = l.envsOf name := rfl
  cases hname : l.envLists name with
  | none =>
    have hown : owner env ≠ some name := by
      intro hown
      obtain ⟨envs, henvs, -⟩ := h.owned env name hown
      simp [hname] at henvs
    rw [← hlists, hname, if_neg hown]
    rfl
  | some envs =>
    rw [← hlists, hname, Option.getD_some]
    split
    · next hown => exact h.count_eq_one hown hname
    · next hown => exact List.count_eq_zero.2 (mt (h.mem_iff hname).1 hown)

theorem mem_envsOf_iff {owner : HandleId → Option String} (h : Listed l.envLists owner)
    {env : HandleId} {name : String} : env ∈ l.envsOf name ↔ owner env = some name := by
  rw [← List.count_pos_iff, count_envsOf h]
  split <;> simp [*]

/-- The envs that are erased with a multiplexer are live and different. -/
theorem Owned.envsOf_live (h : l.Owned) (name : String) :
    (l.envsOf name).Nodup ∧ ∀ env ∈ l.envsOf name, (l.wrapped.envs.live? env).isSome := by
  obtain ⟨owner, hlive, hlisted⟩ := h.envs
  constructor
  · rw [List.nodup_iff_count_le_one]
    intro env
    rw [count_envsOf hlisted]
    split <;> simp
  · intro env hmem
    rw [← hlive, (mem_envsOf_iff hlisted).1 hmem]
    rfl

/-- Erasing the envs of a multiplexer leaves the envs of the others. -/
theorem Owned.eraseEnvsOf (h : l.Owned) (hids : l.nextId ≤ 2 ^ 64) (name : String) :
    (l.eraseEnvsOf name).Consistent l.nextId
      ∧ l.wrapped.Erased (l.eraseEnvsOf name) (l.envsOf name)
      ∧ ∃ owner : HandleId → Option String,
        (∀ env, (owner env).isSome = ((l.eraseEnvsOf name).envs.live? env).isSome)
          ∧ Listed (Function.update l.envLists name none) owner := by
  obtain ⟨hnodup, henvs⟩ := h.envsOf_live name
  obtain ⟨hconsistent, herased⟩ := h.wrapped.eraseEnvs hids hnodup henvs
  obtain ⟨owner, hlive, hlisted⟩ := h.envs
  refine ⟨hconsistent, herased, fun env => (owner env).filter (· ≠ name), fun env => ?_,
    hlisted.drop name⟩
  rw [Multiplexers.eraseEnvsOf, herased.envs]
  simp only [mem_envsOf_iff hlisted]
  split
  · next hown => simp [hown]
  · next hown =>
    rw [← hlive]
    cases hfound : owner env with
    | none => rfl
    | some name' =>
      have hne : name' ≠ name := fun heq => hown (by rw [hfound, heq])
      simp [hne]

/-- Ids are given out and never taken back. -/
theorem Step.nextId_le (h : Step l l') : l.nextId ≤ l'.nextId := by
  cases h <;> simp [*]

theorem Step.owned (h : Step l l') (hl : l.Owned) (hids : l'.nextId ≤ 2 ^ 64) : l'.Owned := by
  cases h with
  | aside hn => exact hl.of_envs hn (hl.wrapped.mono hn) (fun _ => rfl) rfl
  | create name table =>
    obtain ⟨hconsistent, -, owner, hlive, hlisted⟩ := hl.eraseEnvsOf hids name
    refine ⟨hl.pos, hconsistent, owner, hlive, ?_⟩
    have hlists : envLists { l with
        wrapped := l.eraseEnvsOf name, owners := l.owners.insert name { table := table } }
          = Function.update (Function.update l.envLists name none) name (some []) := by
      funext name'
      rw [Function.update_idem, envLists, Assoc.get?_insert, Function.update_apply]
      rcases eq_or_ne name' name with rfl | hne
      · simp
      · simp [hne, hne.symm, envLists]
    rw [hlists]
    exact hlisted.new (by simp)
  | drop name =>
    obtain ⟨hconsistent, -, owner, hlive, hlisted⟩ := hl.eraseEnvsOf hids name
    refine ⟨hl.pos, hconsistent, owner, hlive, ?_⟩
    have hlists : envLists { l with
        wrapped := l.eraseEnvsOf name, owners := l.owners.erase name }
          = Function.update l.envLists name none := by
      funext name'
      rw [envLists, Assoc.get?_erase, Function.update_apply]
      rcases eq_or_ne name' name with rfl | hne
      · simp
      · simp [hne, hne.symm, envLists]
    rw [hlists]
    exact hlisted
  | @wrap name m raw host hm =>
    have hlt : l.nextId < 2 ^ 64 := hids
    have hnone := hl.wrapped.envs.live?_eq_none
    obtain ⟨owner, hlive, hlisted⟩ := hl.envs
    have hname : l.envLists name = some m.envs := by simp [envLists, hm]
    have hfresh : owner ⟨l.nextId⟩ = none := by
      rw [← Option.not_isSome_iff_eq_none, hlive, hnone]
      simp
    refine ⟨Nat.succ_pos _, hl.wrapped.wrapEnv hl.pos hlt raw host,
      Function.update owner ⟨l.nextId⟩ (some name), fun env => ?_, ?_⟩
    · rw [Wrapped.wrapEnv, hl.wrapped.envs.live?_insert hlt, Function.update_apply,
        Function.update_apply]
      split
      · rfl
      · exact hlive env
    · have hlists : envLists
          { wrapped := l.wrapped.wrapEnv ⟨l.nextId⟩ raw host
            owners := l.owners.insert name { m with envs := m.envs ++ [⟨l.nextId⟩] }
            nextId := l.nextId + 1 }
            = Function.update l.envLists name (some (m.envs ++ [⟨l.nextId⟩])) := by
        funext name'
        rw [envLists, Assoc.get?_insert, Function.update_apply]
        rcases eq_or_ne name' name with rfl | hne
        · simp
        · simp [hne, hne.symm, envLists]
      rw [hlists]
      exact hlisted.add hfresh hname
  | @reserve handle env e he =>
    have hlt : l.nextId < 2 ^ 64 := hids
    obtain ⟨hlive, -⟩ := (hl.wrapped.envs.entry?_eq_some_iff hlt.le).1 he
    exact hl.of_envs (Nat.le_succ _) (hl.wrapped.reserveFunction hl.pos hlt hlive e.host)
      (Registry.isSome_live?_modify _ _ _) rfl
  | bind id raw =>
    refine hl.of_envs le_rfl (hl.wrapped.bindFunction id raw) (fun env => ?_) rfl
    simp only [Wrapped.envs_bindFunction]
  | forgetFunction id =>
    refine hl.of_envs le_rfl (hl.wrapped.eraseFunction hids id) (fun env => ?_) rfl
    exact Wrapped.isSome_live?_eraseFunction ..
  | @wrapHook handle env e raw he =>
    have hlt : l.nextId < 2 ^ 64 := hids
    obtain ⟨hlive, -⟩ := (hl.wrapped.envs.entry?_eq_some_iff hlt.le).1 he
    exact hl.of_envs (Nat.le_succ _) (hl.wrapped.wrapHook hl.pos hlt hlive raw e.host)
      (Registry.isSome_live?_modify _ _ _) rfl
  | forgetHook id =>
    refine hl.of_envs le_rfl (hl.wrapped.eraseHook hids id) (fun env => ?_) rfl
    exact Wrapped.isSome_live?_eraseHook ..

/-- At every moment of every run, each live env is listed by one multiplexer, and lists what was
created through it. -/
theorem Run.owned (h : l.Run) (hids : l.nextId ≤ 2 ^ 64) : l.Owned := by
  induction h with
  | initial => exact .initial
  | step _ hstep ih => exact hstep.owned (ih (hstep.nextId_le.trans hids)) hids

/-! ### What stopped resolving -/

/-- No id that was given out resolves again once it does not. -/
structure Fades (l l' : Multiplexers) : Prop where
  nextId : l.nextId ≤ l'.nextId
  envs : l.wrapped.envs.Fades l'.wrapped.envs l.nextId
  functions : l.wrapped.functions.Fades l'.wrapped.functions l.nextId
  hooks : l.wrapped.hooks.Fades l'.wrapped.hooks l.nextId

theorem Fades.refl (l : Multiplexers) : Fades l l := ⟨le_rfl, .refl _ _, .refl _ _, .refl _ _⟩

theorem Fades.trans {l'' : Multiplexers} (h : Fades l l') (h' : Fades l' l'') : Fades l l'' where
  nextId := h.nextId.trans h'.nextId
  envs := h.envs.trans h'.envs h.nextId
  functions := h.functions.trans h'.functions h.nextId
  hooks := h.hooks.trans h'.hooks h.nextId

theorem Fades.of_erased (h : Wrapped.Erased l.wrapped l'.wrapped gone) (hn : l.nextId ≤ l'.nextId) :
    Fades l l' := by
  refine ⟨hn, fun id _ hnone => ?_, fun id _ hnone => ?_, fun id _ hnone => ?_⟩
  · rw [h.envs, hnone, ite_self]
  · rw [h.functions, hnone]
    rfl
  · rw [h.hooks, hnone]
    rfl

theorem Step.fades (h : Step l l') (hl : l.Owned) (hids : l'.nextId ≤ 2 ^ 64) : Fades l l' := by
  cases h with
  | aside hn => exact ⟨hn, .refl _ _, .refl _ _, .refl _ _⟩
  | create name table => exact .of_erased (hl.eraseEnvsOf hids name).2.1 le_rfl
  | drop name => exact .of_erased (hl.eraseEnvsOf hids name).2.1 le_rfl
  | wrap raw host hm =>
    exact ⟨Nat.le_succ _, hl.wrapped.envs.fades_insert hids _, .refl _ _, .refl _ _⟩
  | reserve he =>
    exact ⟨Nat.le_succ _, .of_isSome (Registry.isSome_live?_modify _ _ _) _,
      hl.wrapped.functions.fades_insert hids _, .refl _ _⟩
  | wrapHook raw he =>
    exact ⟨Nat.le_succ _, .of_isSome (Registry.isSome_live?_modify _ _ _) _, .refl _ _,
      hl.wrapped.hooks.fades_insert hids _⟩
  | bind id raw =>
    unfold Wrapped.bindFunction
    split
    · exact .refl l
    · exact ⟨le_rfl, .refl _ _, .of_isSome (Registry.isSome_live?_modify _ _ _) _, .refl _ _⟩
  | forgetFunction handle =>
    refine ⟨le_rfl, .of_isSome (Wrapped.isSome_live?_eraseFunction _ _) _, ?_, ?_⟩
    · unfold Wrapped.eraseFunction
      split
      · exact .refl _ _
      · simp only [Wrapped.functions_modifyEnv]
        exact Registry.fades_erase _ _ _
    · unfold Wrapped.eraseFunction
      split
      · exact .refl _ _
      · simp only [Wrapped.hooks_modifyEnv]
        exact .refl _ _
  | forgetHook handle =>
    refine ⟨le_rfl, .of_isSome (Wrapped.isSome_live?_eraseHook _ _) _, ?_, ?_⟩
    · unfold Wrapped.eraseHook
      split
      · exact .refl _ _
      · simp only [Wrapped.functions_modifyEnv]
        exact .refl _ _
    · unfold Wrapped.eraseHook
      split
      · exact .refl _ _
      · simp only [Wrapped.hooks_modifyEnv]
        exact Registry.fades_erase _ _ _

end Multiplexers

end AddonHost
