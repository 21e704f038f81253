import AddonHost.Multiplexer
import AddonHost.Proofs.Multiplexer.Listed

/-!
Wrapped handles and their envs.

A wrapped function or hook belongs to the env through which it was created.  `Wrapped.Consistent`
says that live functions and hooks and the lists of live envs agree; each operation keeps that.
Erasing envs, one after the other, takes away these envs, what belongs to them, and nothing else
(`Wrapped.Erased`).
-/

namespace AddonHost

/-- The image of a map that was changed in one place. -/
theorem map_update {α β : Type*} (m : HandleId → Option α) (k : HandleId) (o : Option α) (g : α → β)
    (id : HandleId) :
    (Function.update m k o id).map g = Function.update (fun id => (m id).map g) k (o.map g) id := by
  rw [Function.update_apply, Function.update_apply]
  split <;> rfl

/-- A change in one place that the image does not show. -/
theorem map_update_of_eq {α β : Type*} {m : HandleId → Option α} {k : HandleId} {o : Option α}
    {g : α → β} (h : o.map g = (m k).map g) (id : HandleId) :
    (Function.update m k o id).map g = (m id).map g := by
  rw [map_update, h, Function.update_eq_self k fun id => (m id).map g]

namespace Wrapped

variable {w : Wrapped} {n : ℕ} {env id handle : HandleId} {e : WrappedEnv}

/-- The functions that a live env lists. -/
def functionLists (w : Wrapped) (env : HandleId) : Option (List HandleId) :=
  (w.envs.live? env).map WrappedEnv.functions

/-- The hooks that a live env lists. -/
def hookLists (w : Wrapped) (env : HandleId) : Option (List HandleId) :=
  (w.envs.live? env).map WrappedEnv.hooks

/-- The env of a live function. -/
def functionEnv (w : Wrapped) (id : HandleId) : Option HandleId :=
  (w.functions.live? id).map WrappedFunction.env

/-- The env of a live hook. -/
def hookEnv (w : Wrapped) (id : HandleId) : Option HandleId :=
  (w.hooks.live? id).map WrappedHook.env

/-- Live functions and hooks agree with the lists of live envs, and all ids were given out. -/
structure Consistent (w : Wrapped) (n : ℕ) : Prop where
  envs : w.envs.Below n
  functions : w.functions.Below n
  hooks : w.hooks.Below n
  functionsListed : Listed w.functionLists w.functionEnv
  hooksListed : Listed w.hookLists w.hookEnv

theorem Consistent.mono {m : ℕ} (h : w.Consistent n) (hm : n ≤ m) : w.Consistent m :=
  { h with
    envs := h.envs.mono hm
    functions := h.functions.mono hm
    hooks := h.hooks.mono hm }

/-- An env of a live function is live. -/
theorem Consistent.exists_env (h : w.Consistent n) {f : WrappedFunction}
    (hf : w.functions.live? id = some f) :
    ∃ e, w.envs.live? f.env = some e ∧ e.functions.count id = 1 := by
  obtain ⟨l, hl, hcount⟩ := h.functionsListed.owned id f.env (by simp [functionEnv, hf])
  obtain ⟨e, he, rfl⟩ := Option.map_eq_some_iff.1 hl
  exact ⟨e, he, hcount⟩

/-- An env of a live hook is live. -/
theorem Consistent.exists_env_of_hook (h : w.Consistent n) {k : WrappedHook}
    (hk : w.hooks.live? id = some k) :
    ∃ e, w.envs.live? k.env = some e ∧ e.hooks.count id = 1 := by
  obtain ⟨l, hl, hcount⟩ := h.hooksListed.owned id k.env (by simp [hookEnv, hk])
  obtain ⟨e, he, rfl⟩ := Option.map_eq_some_iff.1 hl
  exact ⟨e, he, hcount⟩

/-- What a live env lists as its functions are the live functions that belong to it. -/
theorem Consistent.mem_functions_iff (h : w.Consistent n) (he : w.envs.live? env = some e) :
    id ∈ e.functions ↔ w.functionEnv id = some env :=
  h.functionsListed.mem_iff (by simp [functionLists, he])

/-- What a live env lists as its hooks are the live hooks that belong to it. -/
theorem Consistent.mem_hooks_iff (h : w.Consistent n) (he : w.envs.live? env = some e) :
    id ∈ e.hooks ↔ w.hookEnv id = some env :=
  h.hooksListed.mem_iff (by simp [hookLists, he])

theorem Consistent.number_lt_of_function (h : w.Consistent n) (hid : w.functionEnv id = some env) :
    id.number < n := by
  obtain ⟨f, hf, -⟩ := Option.map_eq_some_iff.1 hid
  exact (h.functions id (Registry.live?_eq_some_iff.1 hf).1).2

theorem Consistent.number_lt_of_hook (h : w.Consistent n) (hid : w.hookEnv id = some env) :
    id.number < n := by
  obtain ⟨k, hk, -⟩ := Option.map_eq_some_iff.1 hid
  exact (h.hooks id (Registry.live?_eq_some_iff.1 hk).1).2

/-! ### Wrapping -/

theorem Consistent.wrapEnv (h : w.Consistent n) (hpos : 0 < n) (hn : n < 2 ^ 64) (raw : Word)
    (host : HostId) : (w.wrapEnv ⟨n⟩ raw host).Consistent (n + 1) := by
  have hnone := h.envs.live?_eq_none
  have hlive := h.envs.live?_insert hn { raw := raw, host := host : WrappedEnv }
  refine ⟨h.envs.insert hpos _, h.functions.mono (Nat.le_succ n), h.hooks.mono (Nat.le_succ n),
    ?_, ?_⟩
  · have hlists : (w.wrapEnv ⟨n⟩ raw host).functionLists
        = Function.update w.functionLists ⟨n⟩ (some []) := by
      funext env
      rw [functionLists, Wrapped.wrapEnv, hlive, map_update]
      rfl
    rw [hlists]
    exact h.functionsListed.new (by simp [functionLists, hnone])
  · have hlists : (w.wrapEnv ⟨n⟩ raw host).hookLists
        = Function.update w.hookLists ⟨n⟩ (some []) := by
      funext env
      rw [hookLists, Wrapped.wrapEnv, hlive, map_update]
      rfl
    rw [hlists]
    exact h.hooksListed.new (by simp [hookLists, hnone])

theorem Consistent.reserveFunction (h : w.Consistent n) (hpos : 0 < n) (hn : n < 2 ^ 64)
    (he : w.envs.live? env = some e) (host : HostId) :
    (w.reserveFunction ⟨n⟩ env host).Consistent (n + 1) := by
  have hnone := h.functions.live?_eq_none
  have hlive := h.functions.live?_insert hn { env := env, host := host : WrappedFunction }
  refine ⟨(h.envs.modify _ _).mono (Nat.le_succ n), h.functions.insert hpos _,
    h.hooks.mono (Nat.le_succ n), ?_, ?_⟩
  · have hlists : (w.reserveFunction ⟨n⟩ env host).functionLists
        = Function.update w.functionLists env (some (e.functions ++ [⟨n⟩])) := by
      funext env'
      rw [functionLists, Wrapped.reserveFunction, Registry.live?_modify, map_update, he]
      rfl
    have howners : (w.reserveFunction ⟨n⟩ env host).functionEnv
        = Function.update w.functionEnv ⟨n⟩ (some env) := by
      funext id
      rw [functionEnv, Wrapped.reserveFunction, hlive, map_update]
      rfl
    rw [hlists, howners]
    exact h.functionsListed.add (by simp [functionEnv, hnone]) (by simp [functionLists, he])
  · have hlists : (w.reserveFunction ⟨n⟩ env host).hookLists = w.hookLists := by
      funext env'
      rw [hookLists, Wrapped.reserveFunction, Registry.live?_modify, he]
      exact map_update_of_eq (by simp [he]) env'
    rw [hlists]
    exact h.hooksListed

theorem Consistent.wrapHook (h : w.Consistent n) (hpos : 0 < n) (hn : n < 2 ^ 64)
    (he : w.envs.live? env = some e) (raw : Word) (host : HostId) :
    (w.wrapHook ⟨n⟩ env raw host).Consistent (n + 1) := by
  have hnone := h.hooks.live?_eq_none
  have hlive := h.hooks.live?_insert hn { raw := raw, env := env, host := host : WrappedHook }
  refine ⟨(h.envs.modify _ _).mono (Nat.le_succ n), h.functions.mono (Nat.le_succ n),
    h.hooks.insert hpos _, ?_, ?_⟩
  · have hlists : (w.wrapHook ⟨n⟩ env raw host).functionLists = w.functionLists := by
      funext env'
      rw [functionLists, Wrapped.wrapHook, Registry.live?_modify, he]
      exact map_update_of_eq (by simp [he]) env'
    rw [hlists]
    exact h.functionsListed
  · have hlists : (w.wrapHook ⟨n⟩ env raw host).hookLists
        = Function.update w.hookLists env (some (e.hooks ++ [⟨n⟩])) := by
      funext env'
      rw [hookLists, Wrapped.wrapHook, Registry.live?_modify, map_update, he]
      rfl
    have howners : (w.wrapHook ⟨n⟩ env raw host).hookEnv
        = Function.update w.hookEnv ⟨n⟩ (some env) := by
      funext id
      rw [hookEnv, Wrapped.wrapHook, hlive, map_update]
      rfl
    rw [hlists, howners]
    exact h.hooksListed.add (by simp [hookEnv, hnone]) (by simp [hookLists, he])

theorem Consistent.bindFunction (h : w.Consistent n) (id : HandleId) (raw : Word) :
    (w.bindFunction id raw).Consistent n := by
  unfold Wrapped.bindFunction
  split
  · exact h
  · next own hown =>
    refine ⟨h.envs, h.functions.modify _ _, h.hooks, ?_, h.hooksListed⟩
    have howners : ({ w with
        functions := w.functions.modify own fun f => { f with raw := raw } } : Wrapped).functionEnv
          = w.functionEnv := by
      funext id
      rw [functionEnv, Registry.live?_modify]
      refine map_update_of_eq ?_ id
      cases w.functions.live? own <;> rfl
    rw [howners]
    exact h.functionsListed

/-! ### Forgetting -/

/-- A change of a live env. -/
theorem Consistent.modifyEnv_eq (h : w.Consistent n) (hn : n ≤ 2 ^ 64)
    (he : w.envs.live? env = some e) (f : WrappedEnv → WrappedEnv) (w' : Wrapped)
    (hw : w'.envs = w.envs) : w'.modifyEnv env f = { w' with envs := w'.envs.modify env f } := by
  have hfind : w.envs.find? env = some env :=
    (h.envs.find?_eq_some_iff hn).2 ⟨(Registry.live?_eq_some_iff.1 he).1, rfl⟩
  rw [Wrapped.modifyEnv, hw, hfind]

/-- Forgetting a function takes it off the list of its env. -/
theorem Consistent.eraseFunction_eq (h : w.Consistent n) (hn : n ≤ 2 ^ 64) {f : WrappedFunction}
    (hf : w.functions.live? id = some f) (hvalue : id.value = handle.value) :
    w.eraseFunction handle =
      { w with
        functions := w.functions.erase id
        envs := w.envs.modify f.env fun e =>
          { e with functions := e.functions.filter fun own => own.value != id.value } } := by
  obtain ⟨e, he, -⟩ := h.exists_env hf
  have hfind : (w.functions.find? handle).bind w.functions.object? = some f :=
    (h.functions.find?_bind_eq_some_iff hn).2 ⟨id, hf, hvalue⟩
  rw [Wrapped.eraseFunction, hfind]
  change Wrapped.modifyEnv { w with functions := w.functions.erase handle } f.env _ = _
  rw [h.modifyEnv_eq hn he _ { w with functions := w.functions.erase handle } rfl,
    Registry.erase_congr hvalue, hvalue]

/-- Forgetting a function makes its handle, and no other, stop resolving. -/
theorem Consistent.live?_eraseFunction (h : w.Consistent n) (hn : n ≤ 2 ^ 64)
    (hid : id.number < n) :
    (w.eraseFunction id).functions.live? = Function.update w.functions.live? id none := by
  cases hf : w.functions.live? id with
  | none =>
    have hfind : (w.functions.find? id).bind w.functions.object? = none := by
      rw [Option.eq_none_iff_forall_ne_some]
      intro f hfind
      obtain ⟨own, hlive, hvalue⟩ := (h.functions.find?_bind_eq_some_iff hn).1 hfind
      obtain rfl := (h.functions.value_inj hn (Registry.live?_eq_some_iff.1 hlive).1 hid).1 hvalue
      simp [hf] at hlive
    have hsame : w.eraseFunction id = w := by rw [Wrapped.eraseFunction, hfind]
    rw [hsame, ← hf, Function.update_eq_self]
  | some f => rw [h.eraseFunction_eq hn hf rfl, h.functions.live?_erase hn hid]

theorem Consistent.eraseFunction (h : w.Consistent n) (hn : n ≤ 2 ^ 64) (handle : HandleId) :
    (w.eraseFunction handle).Consistent n := by
  cases hf : (w.functions.find? handle).bind w.functions.object? with
  | none => simpa [Wrapped.eraseFunction, hf] using h
  | some f =>
    obtain ⟨id, hlive, hvalue⟩ := (h.functions.find?_bind_eq_some_iff hn).1 hf
    obtain ⟨e, he, -⟩ := h.exists_env hlive
    have hlt := (h.functions id (Registry.live?_eq_some_iff.1 hlive).1).2
    have herase := h.eraseFunction_eq hn hlive hvalue
    have hlists : (w.eraseFunction handle).functionLists
        = Function.update w.functionLists f.env (some (e.functions.filter (· ≠ id))) := by
      -- in the list of the env, only the function itself has its handle
      have hfilter : e.functions.filter (fun own => own.value != id.value)
          = e.functions.filter (· ≠ id) := by
        refine List.filter_congr fun own hown => ?_
        have hown' := h.number_lt_of_function ((h.mem_functions_iff he).1 hown)
        have hinj : own.value = id.value ↔ own = id := HandleId.value_inj (by omega) (by omega)
        rw [bne, Bool.eq_iff_iff]
        simp [hinj]
      funext env'
      rw [herase, functionLists, Registry.live?_modify, map_update, he, ← hfilter]
      rfl
    have howners : (w.eraseFunction handle).functionEnv
        = Function.update w.functionEnv id none := by
      funext id'
      rw [herase, functionEnv, h.functions.live?_erase hn hlt, map_update]
      rfl
    have hhooks : (w.eraseFunction handle).hookLists = w.hookLists := by
      funext env'
      rw [herase, hookLists, Registry.live?_modify, he]
      exact map_update_of_eq (by simp [he]) env'
    have hhookOwners : (w.eraseFunction handle).hookEnv = w.hookEnv := by
      rw [herase]
      rfl
    constructor
    · rw [herase]
      exact h.envs.modify _ _
    · rw [herase]
      exact h.functions.erase id
    · rw [herase]
      exact h.hooks
    · rw [hlists, howners]
      exact h.functionsListed.remove (by simp [functionEnv, hlive]) (by simp [functionLists, he])
    · rw [hhooks, hhookOwners]
      exact h.hooksListed

/-- Forgetting a hook takes it off the list of its env. -/
theorem Consistent.eraseHook_eq (h : w.Consistent n) (hn : n ≤ 2 ^ 64) {k : WrappedHook}
    (hk : w.hooks.live? id = some k) (hvalue : id.value = handle.value) :
    w.eraseHook handle =
      { w with
        hooks := w.hooks.erase id
        envs := w.envs.modify k.env fun e =>
          { e with hooks := e.hooks.filter fun own => own.value != id.value } } := by
  obtain ⟨e, he, -⟩ := h.exists_env_of_hook hk
  have hfind : (w.hooks.find? handle).bind w.hooks.object? = some k :=
    (h.hooks.find?_bind_eq_some_iff hn).2 ⟨id, hk, hvalue⟩
  rw [Wrapped.eraseHook, hfind]
  change Wrapped.modifyEnv { w with hooks := w.hooks.erase handle } k.env _ = _
  rw [h.modifyEnv_eq hn he _ { w with hooks := w.hooks.erase handle } rfl,
    Registry.erase_congr hvalue, hvalue]

theorem Consistent.eraseHook (h : w.Consistent n) (hn : n ≤ 2 ^ 64) (handle : HandleId) :
    (w.eraseHook handle).Consistent n := by
  cases hk : (w.hooks.find? handle).bind w.hooks.object? with
  | none => simpa [Wrapped.eraseHook, hk] using h
  | some k =>
    obtain ⟨id, hlive, hvalue⟩ := (h.hooks.find?_bind_eq_some_iff hn).1 hk
    obtain ⟨e, he, -⟩ := h.exists_env_of_hook hlive
    have hlt := (h.hooks id (Registry.live?_eq_some_iff.1 hlive).1).2
    have herase := h.eraseHook_eq hn hlive hvalue
    have hlists : (w.eraseHook handle).hookLists
        = Function.update w.hookLists k.env (some (e.hooks.filter (· ≠ id))) := by
      have hfilter : e.hooks.filter (fun own => own.value != id.value)
          = e.hooks.filter (· ≠ id) := by
        refine List.filter_congr fun own hown => ?_
        have hown' := h.number_lt_of_hook ((h.mem_hooks_iff he).1 hown)
        have hinj : own.value = id.value ↔ own = id := HandleId.value_inj (by omega) (by omega)
        rw [bne, Bool.eq_iff_iff]
        simp [hinj]
      funext env'
      rw [herase, hookLists, Registry.live?_modify, map_update, he, ← hfilter]
      rfl
    have howners : (w.eraseHook handle).hookEnv = Function.update w.hookEnv id none := by
      funext id'
      rw [herase, hookEnv, h.hooks.live?_erase hn hlt, map_update]
      rfl
    have hfunctions : (w.eraseHook handle).functionLists = w.functionLists := by
      funext env'
      rw [herase, functionLists, Registry.live?_modify, he]
      exact map_update_of_eq (by simp [he]) env'
    have hfunctionOwners : (w.eraseHook handle).functionEnv = w.functionEnv := by
      rw [herase]
      rfl
    constructor
    · rw [herase]
      exact h.envs.modify _ _
    · rw [herase]
      exact h.functions
    · rw [herase]
      exact h.hooks.erase id
    · rw [hfunctions, hfunctionOwners]
      exact h.functionsListed
    · rw [hlists, howners]
      exact h.hooksListed.remove (by simp [hookEnv, hlive]) (by simp [hookLists, he])

/-! ### Live envs -/

@[simp] theorem envs_bindFunction (w : Wrapped) (id : HandleId) (raw : Word) :
    (w.bindFunction id raw).envs = w.envs := by
  unfold Wrapped.bindFunction
  split <;> rfl

@[simp] theorem functions_modifyEnv (w : Wrapped) (id : HandleId) (f : WrappedEnv → WrappedEnv) :
    (w.modifyEnv id f).functions = w.functions := by
  unfold Wrapped.modifyEnv
  split <;> rfl

@[simp] theorem hooks_modifyEnv (w : Wrapped) (id : HandleId) (f : WrappedEnv → WrappedEnv) :
    (w.modifyEnv id f).hooks = w.hooks := by
  unfold Wrapped.modifyEnv
  split <;> rfl

theorem isSome_live?_modifyEnv (w : Wrapped) (id : HandleId) (f : WrappedEnv → WrappedEnv)
    (env : HandleId) :
    ((w.modifyEnv id f).envs.live? env).isSome = (w.envs.live? env).isSome := by
  unfold Wrapped.modifyEnv
  split
  · rfl
  · exact Registry.isSome_live?_modify ..

theorem isSome_live?_eraseFunction (w : Wrapped) (handle env : HandleId) :
    ((w.eraseFunction handle).envs.live? env).isSome = (w.envs.live? env).isSome := by
  unfold Wrapped.eraseFunction
  split
  · rfl
  · exact isSome_live?_modifyEnv ..

theorem isSome_live?_eraseHook (w : Wrapped) (handle env : HandleId) :
    ((w.eraseHook handle).envs.live? env).isSome = (w.envs.live? env).isSome := by
  unfold Wrapped.eraseHook
  split
  · rfl
  · exact isSome_live?_modifyEnv ..

/-! ### Erasing envs -/

/-- Some envs were erased, with what belonged to them. -/
structure Erased (w w' : Wrapped) (gone : List HandleId) : Prop where
  envs : ∀ id, w'.envs.live? id = if id ∈ gone then none else w.envs.live? id
  functions : ∀ id, w'.functions.live? id = (w.functions.live? id).filter (·.env ∉ gone)
  hooks : ∀ id, w'.hooks.live? id = (w.hooks.live? id).filter (·.env ∉ gone)

theorem Consistent.erased_eraseEnv (h : w.Consistent n) (hn : n ≤ 2 ^ 64)
    (he : w.envs.live? env = some e) : Erased w (w.eraseEnv env) [env] := by
  have hfind : (w.envs.find? env).bind w.envs.object? = some e :=
    (h.envs.find?_bind_eq_some_iff hn).2 ⟨env, he, rfl⟩
  have hlt := (h.envs env (Registry.live?_eq_some_iff.1 he).1).2
  rw [Wrapped.eraseEnv, hfind]
  constructor
  · intro id
    rw [h.envs.live?_erase hn hlt, Function.update_apply]
    simp
  · intro id
    rw [h.functions.live?_foldl_erase hn fun own hown =>
      h.number_lt_of_function ((h.mem_functions_iff he).1 hown)]
    simp only [h.mem_functions_iff he, functionEnv]
    cases w.functions.live? id <;> simp [Option.filter]
  · intro id
    rw [h.hooks.live?_foldl_erase hn fun own hown =>
      h.number_lt_of_hook ((h.mem_hooks_iff he).1 hown)]
    simp only [h.mem_hooks_iff he, hookEnv]
    cases w.hooks.live? id <;> simp [Option.filter]

theorem Consistent.eraseEnv (h : w.Consistent n) (hn : n ≤ 2 ^ 64)
    (he : w.envs.live? env = some e) : (w.eraseEnv env).Consistent n := by
  have herased := h.erased_eraseEnv hn he
  have hlists {β : Type} (g : WrappedEnv → β) :
      (fun id => ((w.eraseEnv env).envs.live? id).map g)
        = Function.update (fun id => (w.envs.live? id).map g) env none := by
    funext id
    rw [herased.envs, Function.update_apply]
    simp only [List.mem_singleton]
    split <;> rfl
  have hfunctionEnv : (w.eraseEnv env).functionEnv
      = fun id => (w.functionEnv id).filter (· ≠ env) := by
    funext id
    rw [functionEnv, functionEnv, herased.functions]
    cases w.functions.live? id with
    | none => rfl
    | some f => by_cases hf : f.env = env <;> simp [Option.filter, hf]
  have hhookEnv : (w.eraseEnv env).hookEnv = fun id => (w.hookEnv id).filter (· ≠ env) := by
    funext id
    rw [hookEnv, hookEnv, herased.hooks]
    cases w.hooks.live? id with
    | none => rfl
    | some k => by_cases hk : k.env = env <;> simp [Option.filter, hk]
  have hfind : (w.envs.find? env).bind w.envs.object? = some e :=
    (h.envs.find?_bind_eq_some_iff hn).2 ⟨env, he, rfl⟩
  constructor
  · rw [Wrapped.eraseEnv, hfind]
    exact h.envs.erase env
  · rw [Wrapped.eraseEnv, hfind]
    exact h.functions.foldl_erase _
  · rw [Wrapped.eraseEnv, hfind]
    exact h.hooks.foldl_erase _
  · rw [hfunctionEnv, show (w.eraseEnv env).functionLists = _ from hlists WrappedEnv.functions]
    exact h.functionsListed.drop env
  · rw [hhookEnv, show (w.eraseEnv env).hookLists = _ from hlists WrappedEnv.hooks]
    exact h.hooksListed.drop env

/-- Erasing envs, one after the other, erases them all, and what belongs to them. -/
theorem Consistent.eraseEnvs (h : w.Consistent n) (hn : n ≤ 2 ^ 64) {gone : List HandleId}
    (hnodup : gone.Nodup) (hlive : ∀ id ∈ gone, (w.envs.live? id).isSome) :
    (gone.foldl Wrapped.eraseEnv w).Consistent n
      ∧ Erased w (gone.foldl Wrapped.eraseEnv w) gone := by
  induction gone generalizing w with
  | nil =>
    refine ⟨h, ?_, ?_, ?_⟩
    · intro id
      simp
    · intro id
      rw [List.foldl_nil]
      cases w.functions.live? id <;> rfl
    · intro id
      rw [List.foldl_nil]
      cases w.hooks.live? id <;> rfl
  | cons env gone ih =>
    obtain ⟨hnot, hnodup⟩ := List.nodup_cons.1 hnodup
    obtain ⟨e, he⟩ := Option.isSome_iff_exists.1 (hlive env List.mem_cons_self)
    have herased := h.erased_eraseEnv hn he
    -- the envs that are left are others than the one that was erased first
    have hlive' : ∀ id ∈ gone, ((w.eraseEnv env).envs.live? id).isSome := by
      intro id hid
      have hne : id ∉ [env] := by
        rintro hmem
        exact hnot (List.mem_singleton.1 hmem ▸ hid)
      rw [herased.envs, if_neg hne]
      exact hlive id (List.mem_cons_of_mem _ hid)
    obtain ⟨hconsistent, hrest⟩ := ih (h.eraseEnv hn he) hnodup hlive'
    refine ⟨hconsistent, ?_, ?_, ?_⟩
    · intro id
      rw [List.foldl_cons, hrest.envs, herased.envs]
      simp only [List.mem_cons, List.not_mem_nil]
      grind
    · intro id
      rw [List.foldl_cons, hrest.functions, herased.functions]
      cases w.functions.live? id <;> simp [Option.filter]
      grind
    · intro id
      rw [List.foldl_cons, hrest.hooks, herased.hooks]
      cases w.hooks.live? id <;> simp [Option.filter]
      grind

end Wrapped

end AddonHost
