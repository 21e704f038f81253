import AddonHost.Proofs.Multiplexer.Listed
import AddonHost.Session.State

/-!
The handles of a session.

Threadsafe functions, jobs, wrapped envs, wrapped functions and wrapped hooks are registered in five
registries under ids of one source.  `Handles` is what a session shows of them: which objects were
created in which registry, which of their ids are still registered, and the next id.

* `Handles.Step` says what one step of a thread can do: register an object under the next id, or
  make ids stop resolving for a cause that the thread has.
* `Handles.Sound` is what holds at every moment: what is registered was created there, under an id
  that was given out, and under each id an object was created in one registry at most.
* `Handles.Later` is what holds of any two moments: objects are created under new ids only, and no
  id that was given out becomes registered again.
-/

namespace AddonHost

/-- The registries that share a source of ids. -/
inductive RegistryKind where
  | functions
  | jobs
  | envs
  | wrappedFunctions
  | hooks
  deriving DecidableEq, Repr

/-- What a registry holds. -/
abbrev RegistryKind.Object : RegistryKind → Type
  | functions => ThreadsafeFunction
  | jobs => AsyncJob
  | envs => WrappedEnv
  | wrappedFunctions => WrappedFunction
  | hooks => WrappedHook

/-- A registry of a session. -/
def Session.registry (s : Session) : (k : RegistryKind) → Registry k.Object
  | .functions => s.functions
  | .jobs => s.jobs
  | .envs => s.wrapped.envs
  | .wrappedFunctions => s.wrapped.functions
  | .hooks => s.wrapped.hooks

/-- What a session shows of its registries. -/
@[ext] structure Handles where
  /-- Whether an object was created under an id. -/
  created : RegistryKind → HandleId → Bool
  /-- Whether it is still registered. -/
  live : RegistryKind → HandleId → Bool
  /-- The number that the next handle id takes. -/
  nextId : ℕ

/-- What a session shows of its registries. -/
def Session.handles (s : Session) : Handles where
  created k id := ((s.registry k).object? id).isSome
  live k id := ((s.registry k).live? id).isSome
  nextId := s.ids.next

namespace Handles

/-- Nothing was created yet. -/
def initial : Handles where
  created _ _ := false
  live _ _ := false
  nextId := 1

/-- An object is registered under the next id. -/
def register (h : Handles) (k : RegistryKind) : Handles where
  created k' id := (k' = k && id = ⟨h.nextId⟩) || h.created k' id
  live k' id := (k' = k && id = ⟨h.nextId⟩) || h.live k' id
  nextId := h.nextId + 1

/-- What one step of a thread does to the registries, if it has a cause to make the `erased` ids
stop resolving. -/
inductive Step (erased : RegistryKind → HandleId → Prop) : Handles → Handles → Prop where
  /-- Something else happens; ids may be given out for other uses. -/
  | aside {h : Handles} {n : ℕ} (hn : h.nextId ≤ n) : Step erased h { h with nextId := n }
  /-- An object is registered. -/
  | register {h : Handles} (k : RegistryKind) : Step erased h (h.register k)
  /-- Ids stop resolving. -/
  | erase {h : Handles} {live : RegistryKind → HandleId → Bool}
      (hlive : ∀ k id, live k id = true → h.live k id = true)
      (herased : ∀ k id, h.live k id = true → live k id = false → erased k id) :
    Step erased h { h with live := live }

/-- What holds of the registries at every moment. -/
structure Sound (h : Handles) : Prop where
  positive : 0 < h.nextId
  created (k : RegistryKind) (id : HandleId) : h.live k id = true → h.created k id = true
  given (k : RegistryKind) (id : HandleId) :
    h.created k id = true → 0 < id.number ∧ id.number < h.nextId
  unique (k k' : RegistryKind) (id : HandleId) :
    h.created k id = true → h.created k' id = true → k' = k

/-- What holds of the registries at two moments of a run. -/
structure Later (h h' : Handles) : Prop where
  nextId : h.nextId ≤ h'.nextId
  created (k : RegistryKind) (id : HandleId) : h.created k id = true → h'.created k id = true
  fresh (k : RegistryKind) (id : HandleId) :
    h'.created k id = true → h.created k id = true ∨ h.nextId ≤ id.number
  gone (k : RegistryKind) (id : HandleId) :
    id.number < h.nextId → h.live k id = false → h'.live k id = false

variable {h h' h'' : Handles} {erased : RegistryKind → HandleId → Prop} {k : RegistryKind}
  {id : HandleId}

theorem Sound.initial : Handles.initial.Sound :=
  ⟨Nat.one_pos, fun _ _ => id, fun _ _ h => absurd h (by simp [Handles.initial]),
    fun _ _ _ h => absurd h (by simp [Handles.initial])⟩

theorem created_register (k' : RegistryKind) (own : HandleId) :
    (h.register k).created k' own = true ↔
      (k' = k ∧ own = ⟨h.nextId⟩) ∨ h.created k' own = true := by
  simp [register]

theorem Step.sound (hstep : Step erased h h') (hh : h.Sound) : h'.Sound := by
  cases hstep with
  | aside hn =>
    refine ⟨hh.positive.trans_le hn, hh.created, fun k id hc => ?_, hh.unique⟩
    exact ⟨(hh.given k id hc).1, (hh.given k id hc).2.trans_le hn⟩
  | register k =>
    -- nothing was created under the next id before
    have hfresh (k' : RegistryKind) : ¬h.created k' ⟨h.nextId⟩ = true := fun hc =>
      Nat.lt_irrefl _ (hh.given k' _ hc).2
    refine ⟨Nat.succ_pos _, fun k' id hlive => ?_, fun k' id hc => ?_, fun k₁ k₂ id h₁ h₂ => ?_⟩
    · have hlive' : (k' = k ∧ id = ⟨h.nextId⟩) ∨ h.live k' id = true := by
        simpa [Handles.register] using hlive
      exact (created_register k' id).2 (hlive'.imp_right (hh.created k' id))
    · rcases (created_register k' id).1 hc with ⟨-, rfl⟩ | hc
      · exact ⟨hh.positive, Nat.lt_succ_self _⟩
      · exact ⟨(hh.given k' id hc).1, Nat.lt_succ_of_lt (hh.given k' id hc).2⟩
    · rcases (created_register k₁ id).1 h₁ with ⟨rfl, hid⟩ | hold₁ <;>
        rcases (created_register k₂ id).1 h₂ with ⟨rfl, hid'⟩ | hold₂
      · rfl
      · exact absurd (hid ▸ hold₂) (hfresh k₂)
      · exact absurd (hid' ▸ hold₁) (hfresh k₁)
      · exact hh.unique k₁ k₂ id hold₁ hold₂
  | erase hlive _ =>
    exact ⟨hh.positive, fun k id hl => hh.created k id (hlive k id hl), hh.given, hh.unique⟩

theorem Later.refl (h : Handles) : Later h h :=
  ⟨le_rfl, fun _ _ => id, fun _ _ => .inl, fun _ _ _ => id⟩

theorem Later.trans (hl : Later h h') (hl' : Later h' h'') : Later h h'' where
  nextId := hl.nextId.trans hl'.nextId
  created k id hc := hl'.created k id (hl.created k id hc)
  fresh k id hc := by
    rcases hl'.fresh k id hc with hc | hid
    · exact hl.fresh k id hc
    · exact .inr (hl.nextId.trans hid)
  gone k id hid hnone := hl'.gone k id (hid.trans_le hl.nextId) (hl.gone k id hid hnone)

theorem Step.later (hstep : Step erased h h') : Later h h' := by
  cases hstep with
  | aside hn => exact ⟨hn, fun _ _ => id, fun _ _ => .inl, fun _ _ _ => id⟩
  | register k =>
    refine ⟨Nat.le_succ _, fun k' id hc => (created_register k' id).2 (.inr hc),
      fun k' id hc => ?_, fun k' id hid hnone => ?_⟩
    · rcases (created_register k' id).1 hc with ⟨-, rfl⟩ | hc
      · exact .inr le_rfl
      · exact .inl hc
    have hne : id ≠ ⟨h.nextId⟩ := by
      rintro rfl
      exact Nat.lt_irrefl _ hid
    simp [Handles.register, hne, hnone]
  | erase hlive _ =>
    refine ⟨le_rfl, fun _ _ => id, fun _ _ => .inl, fun k id _ hnone => ?_⟩
    rw [← Bool.not_eq_true] at hnone ⊢
    exact fun hl => hnone (hlive k id hl)

/-- Ids stop resolving, and nothing else happens. -/
theorem Step.of_fewer (hcreated : h'.created = h.created)
    (hnext : h'.nextId = h.nextId) (hlive : ∀ k id, h'.live k id = true → h.live k id = true)
    (herased : ∀ k id, h.live k id = true → h'.live k id = false → erased k id) :
    Step erased h h' := by
  have heq : h' = { h with live := h'.live } := by
    ext <;> simp [hcreated, hnext]
  rw [heq]
  exact .erase hlive herased

/-- What stops resolving does so for a cause. -/
theorem Step.erased_of_live (hstep : Step erased h h') (hlive : h.live k id = true)
    (hgone : h'.live k id = false) : erased k id := by
  cases hstep with
  | aside hn => simp [hlive] at hgone
  | register k' => simp [Handles.register, hlive] at hgone
  | erase _ herased => exact herased k id hlive hgone

end Handles

namespace Session

variable {s s' : Session} {k : RegistryKind} {id : HandleId} {w : Word}

/-- The id that a handle resolves to in a registry. -/
def resolved? (s : Session) (k : RegistryKind) (w : Word) : Option HandleId :=
  Prod.fst <$> Registry.entry? (s.registry k) ⟨w⟩

/-- The ids that were given out, in order. -/
def givenOut (s : Session) : List HandleId := (List.range' 1 (s.ids.next - 1)).map HandleId.mk

theorem mem_givenOut (hpos : 0 < s.ids.next) :
    id ∈ s.givenOut ↔ 0 < id.number ∧ id.number < s.ids.next := by
  obtain ⟨n⟩ := id
  simp [givenOut, List.mem_range'_1]
  omega

/-- While there are enough handles, a handle resolves to the registered id that has it. -/
theorem resolved?_eq_some_iff (h : (s.registry k).Below s.ids.next) (hids : s.ids.next ≤ 2 ^ 64) :
    s.resolved? k w = some id ↔ s.handles.live k id = true ∧ id.value = w := by
  simp only [resolved?, Option.map_eq_map, Option.map_eq_some_iff, Prod.exists, exists_and_right,
    exists_eq_right, h.entry?_eq_some_iff hids, handles, Option.isSome_iff_exists,
    HandleId.value_toNat]

end Session

end AddonHost
