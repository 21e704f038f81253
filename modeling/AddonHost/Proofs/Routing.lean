import AddonHost.Proofs.Multiplexer.Owned
import AddonHost.Proofs.Session.Simulation

/-!
The routing of calls by a multiplexer.

A call that a multiplexer gets goes to the host behind its handle, or to nobody.
`Reachable.routing` says which, for every call that is found by one handle:

* a creation without a place for its result, and a call whose handle does not resolve, end at once
  with `invalidArg`;
* a call whose host is gone, or does not provide the entry, ends at once with `genericFailure`;
* any other call is passed on to the entry of the same name of that host, with the raw handle in the
  place of the wrapped one (`Request.passedOn`), and ends with the status that the host returns.

A call that ends with another status than `ok` leaves all wrapped handles as they were, as long as
the host has left them alone (`Wrapped.Same`).
-/

namespace AddonHost

/-! ### The same handles -/

/-- The same ids are registered, with the same objects. -/
structure Registry.Same {α : Type} (r r' : Registry α) : Prop where
  ids : r'.ids = r.ids
  objects : ∀ id ∈ r.ids, r'.object? id = r.object? id

namespace Registry.Same

variable {α : Type} {r r' r'' : Registry α}

theorem refl (r : Registry α) : r.Same r := ⟨rfl, fun _ _ => rfl⟩

theorem trans (h : r.Same r') (h' : r'.Same r'') : r.Same r'' :=
  ⟨h'.ids.trans h.ids, fun id hid =>
    (h'.objects id (h.ids ▸ hid)).trans (h.objects id hid)⟩

theorem find? (h : r.Same r') (handle : HandleId) : r'.find? handle = r.find? handle := by
  rw [Registry.find?, h.ids, Registry.find?]

theorem bind_object? (h : r.Same r') (handle : HandleId) :
    (r'.find? handle).bind r'.object? = (r.find? handle).bind r.object? := by
  rw [h.find?]
  cases hfind : r.find? handle with
  | none => rfl
  | some id => exact h.objects id (List.mem_of_find?_eq_some hfind)

/-- Handles resolve to the same objects. -/
theorem entry?_eq (h : r.Same r') (handle : HandleId) : r'.entry? handle = r.entry? handle := by
  unfold Registry.entry?
  rw [h.find?]
  cases hfind : r.find? handle with
  | none => rfl
  | some id => simp [h.objects id (List.mem_of_find?_eq_some hfind)]

theorem erase (h : r.Same r') (id : HandleId) : (r.erase id).Same (r'.erase id) :=
  ⟨by simp only [Registry.erase, h.ids], fun own hown =>
    h.objects own ((mem_ids_erase ..).1 hown).1⟩

theorem modify (h : r.Same r') (id : HandleId) (f : α → α) :
    (r.modify id f).Same (r'.modify id f) := by
  refine ⟨h.ids, fun own hown => ?_⟩
  rw [object?_modify, object?_modify, h.objects own hown]

/-- A change that is none for the objects that resolve. -/
theorem of_modify {id : HandleId} {f : α → α}
    (h : ∀ a, r.live? id = some a → f a = a) : r.Same (r.modify id f) := by
  refine ⟨rfl, fun own hown => ?_⟩
  rw [object?_modify]
  split
  · next heq =>
    subst heq
    cases hobject : r.object? id with
    | none => rfl
    | some a => simp [h a (live?_eq_some_iff.2 ⟨hown, hobject⟩)]
  · rfl

end Registry.Same

namespace Wrapped

variable {w w' w'' : Wrapped} {n : ℕ} {env : HandleId} {e : WrappedEnv}

/-- The same wrapped handles, and the same lists of envs. -/
structure Same (w w' : Wrapped) : Prop where
  envs : w.envs.Same w'.envs
  functions : w.functions.Same w'.functions
  hooks : w.hooks.Same w'.hooks

theorem Same.refl (w : Wrapped) : w.Same w := ⟨.refl _, .refl _, .refl _⟩

theorem Same.trans (h : w.Same w') (h' : w'.Same w'') : w.Same w'' :=
  ⟨h.envs.trans h'.envs, h.functions.trans h'.functions, h.hooks.trans h'.hooks⟩

theorem Same.modifyEnv (h : w.Same w') (id : HandleId) (f : WrappedEnv → WrappedEnv) :
    (w.modifyEnv id f).Same (w'.modifyEnv id f) := by
  unfold Wrapped.modifyEnv
  rw [h.envs.find?]
  split
  · exact h
  · exact ⟨h.envs.modify _ _, h.functions, h.hooks⟩

theorem Same.eraseFunction (h : w.Same w') (handle : HandleId) :
    (w.eraseFunction handle).Same (w'.eraseFunction handle) := by
  unfold Wrapped.eraseFunction
  rw [h.functions.bind_object?]
  split
  · exact h
  · next f hf =>
    have herased : ({ w with functions := w.functions.erase handle } : Wrapped).Same
        { w' with functions := w'.functions.erase handle } :=
      ⟨h.envs, h.functions.erase handle, h.hooks⟩
    exact herased.modifyEnv _ _

/-- Forgetting a function that was just reserved leaves the handles that there were. -/
theorem Consistent.same_reserve_erase (h : w.Consistent n) (hpos : 0 < n) (hn : n < 2 ^ 64)
    (he : w.envs.live? env = some e) (host : HostId) :
    w.Same ((w.reserveFunction ⟨n⟩ env host).eraseFunction ⟨n⟩) := by
  have hreserved := h.reserveFunction hpos hn he host
  have hlive : (w.reserveFunction ⟨n⟩ env host).functions.live? ⟨n⟩
      = some { env := env, host := host } := by
    rw [Wrapped.reserveFunction, h.functions.live?_insert hn, Function.update_self]
  rw [hreserved.eraseFunction_eq hn hlive rfl]
  have hfresh : ∀ id ∈ w.functions.ids, (id.value != (⟨n⟩ : HandleId).value) = true := by
    intro id hid
    have := h.functions id hid
    have hne : id ≠ ⟨n⟩ := by
      rintro rfl
      exact Nat.lt_irrefl n this.2
    have hinj : id.value = (⟨n⟩ : HandleId).value ↔ id = ⟨n⟩ :=
      HandleId.value_inj (by omega) hn
    simpa using hinj.not.2 hne
  refine ⟨?_, ?_, .refl _⟩
  · -- the list of the env gets the function, and then loses it again
    refine ⟨rfl, fun own hown => ?_⟩
    change ((w.envs.modify env _).modify env _).object? own = _
    rw [Registry.object?_modify, Registry.object?_modify]
    split
    · next heq =>
      subst heq
      obtain ⟨hmem, hobject⟩ := Registry.live?_eq_some_iff.1 he
      have hkept : e.functions.filter (fun own => own.value != (⟨n⟩ : HandleId).value)
          = e.functions := by
        refine List.filter_eq_self.2 fun id hid => hfresh id ?_
        obtain ⟨f, hf, -⟩ := Option.map_eq_some_iff.1 ((h.mem_functions_iff he).1 hid)
        exact (Registry.live?_eq_some_iff.1 hf).1
      rw [hobject]
      simp [hkept]
    · rfl
  · constructor
    · simp only [Wrapped.reserveFunction, Registry.erase, Registry.insert, List.filter_append,
        List.filter_filter, Bool.and_self]
      rw [List.filter_eq_self.2 hfresh]
      simp
    · intro id hid
      have hne : (⟨n⟩ : HandleId) ≠ id := by
        rintro rfl
        simpa using hfresh _ hid
      simp [Wrapped.reserveFunction, hne]

end Wrapped

/-! ### Calls by one handle -/

namespace Request

/-- Whether a call is found by one handle: all but those that take an env and a function. -/
def hasOneHandle (r : Request) : Bool :=
  match r.route with
  | .envAndFunction .. => false
  | _ => true

/-- Whether a function is to be created and there is no place for it. -/
def lacksResult : Request → Bool
  | createThreadsafeFunction _ _ out => !out
  | _ => false

/-- The same call with another handle; a call without one handle stays as it is. -/
def withHandle (r : Request) (raw : Word) : Request :=
  match r.route with
  | .env _ => r.withEnv raw
  | .function _ => r.withFunction raw
  | .hook _ => removeAsyncCleanupHook raw
  | .envAndFunction .. => r

/-- The call that a host gets: the raw handle takes the place of the wrapped one, and a function
that is created gets a finalizer that forgets the wrapped handle of an id. -/
def passedOn (r : Request) (raw : Word) (id : HandleId) : Request :=
  match r with
  | createThreadsafeFunction _ spec out =>
    createThreadsafeFunction raw { spec with finalizer := some (.wrapped id spec.finalizer) } out
  | r => r.withHandle raw

theorem entry_passedOn (r : Request) (raw : Word) (id : HandleId) :
    (r.passedOn raw id).entry = r.entry := by
  cases r <;> rfl

end Request

namespace Session

variable {s s' : Session} {t : ThreadId} {r : Request} {below : List Frame}

/-- The handle of a call resolves to a raw handle and a host. -/
def Resolves (s : Session) (r : Request) (raw : Word) (host : HostId) : Prop :=
  match r.route with
  | .env env => ∃ id e, s.wrapped.envs.entry? ⟨env⟩ = some (id, e) ∧ e.raw = raw ∧ e.host = host
  | .function func =>
    ∃ id f, s.wrapped.functions.entry? ⟨func⟩ = some (id, f) ∧ f.raw = raw ∧ raw ≠ 0 ∧
      f.host = host
  | .hook handle =>
    ∃ id k, s.wrapped.hooks.entry? ⟨handle⟩ = some (id, k) ∧ k.raw = raw ∧ k.host = host
  | .envAndFunction .. => False

/-- A thread is about to give a call to a multiplexer. -/
structure Calls (s : Session) (t : ThreadId) (r : Request) (below : List Frame) : Prop where
  running : s.halted = false
  thread : s.threads.get? t = some { control := .run (.entry .multiplexer r), stack := below }

/-- The call ends at once with a status, and all wrapped handles stay as they are. -/
def Refuses (s : Session) (t : ThreadId) (below : List Frame) (status : Status) : Prop :=
  ∃ s', s.step t = some s' ∧
    s'.threads.get? t = some { control := .give (.response { status := status }), stack := below } ∧
    s'.wrapped = s.wrapped

/-- The call goes to an entry, which is called once: when it has answered, the call ends with the
same status.  If that is not `ok`, and wrapped handles are as they were when the entry was called,
then they are as they were before. -/
def PassesOn (s : Session) (t : ThreadId) (below : List Frame) (p : Provider) (r : Request) : Prop :=
  ∃ s' fr, s.step t = some s' ∧
    s'.threads.get? t = some { control := .run (.entry p r), stack := fr :: below } ∧
    ∀ (u : Session) (response : Response), u.halted = false →
      u.threads.get? t = some { control := .give (.response response), stack := fr :: below } →
      ∃ (u' : Session) (response' : Response), u.step t = some u' ∧
        u'.threads.get? t = some { control := .give (.response response'), stack := below } ∧
        response'.status = response.status ∧
        (response.status ≠ .ok → response' = response ∧
          (s'.wrapped.Same u.wrapped → s.wrapped.Same u'.wrapped))

theorem Calls.step (h : s.Calls t r below) : s.step t = some (apply (s.forward r) t below) :=
  step_run h.running h.thread rfl

@[simp] theorem wrapped_log (s : Session) (level : Log.Level) (text : String) :
    (s.log level text).wrapped = s.wrapped := by
  simp only [log]
  split_ifs <;> rfl

/-- A call that is refused. -/
theorem Calls.refuses (h : s.Calls t r below) {status : Status}
    (hforward : (s.forward r).control = .give (.response { status := status }))
    (hframes : (s.forward r).frames = []) (hwrapped : (s.forward r).session.wrapped = s.wrapped) :
    s.Refuses t below status := by
  refine ⟨_, h.step, ?_, hwrapped⟩
  rw [threads_apply, hforward, hframes]
  rfl

theorem Calls.refuses_of_route (h : s.Calls t r below) (problem : RouteProblem)
    (hforward : s.forward r = s.refuseRoute r.entry problem) :
    s.Refuses t below problem.status := by
  refine h.refuses ?_ ?_ ?_ <;> rw [hforward]
  · rfl
  · rfl
  · exact wrapped_log ..

/-! ### Finding the host -/

/-- A call whose handle does not resolve. -/
theorem route_of_not_resolves (hone : r.hasOneHandle = true)
    (h : ∀ raw host, ¬s.Resolves r raw host) :
    ∃ problem, s.route r = .error problem ∧ problem.status = .invalidArg := by
  unfold Resolves at h
  unfold route
  cases hroute : r.route with
  | env env =>
    simp only [hroute] at h
    have hnone : s.wrapped.envs.get? ⟨env⟩ = none := by
      cases hentry : s.wrapped.envs.entry? ⟨env⟩ with
      | none => simp [Registry.get?, hentry]
      | some p => exact absurd ⟨p.1, p.2, hentry, rfl, rfl⟩ (h p.2.raw p.2.host)
    exact ⟨_, by simp only [findEnv, hnone]; rfl, rfl⟩
  | function func =>
    simp only [hroute] at h
    refine ⟨.unknownFunction, ?_, rfl⟩
    cases hentry : s.wrapped.functions.entry? ⟨func⟩ with
    | none =>
      simp only [findWrappedFunction, Registry.get?, hentry]
      rfl
    | some p =>
      have hraw : p.2.raw = 0 := by
        by_contra hraw
        exact h p.2.raw p.2.host ⟨p.1, p.2, hentry, rfl, hraw, rfl⟩
      simp only [findWrappedFunction, Registry.get?, hentry, Option.map_some, hraw, if_true]
      rfl
  | hook handle =>
    simp only [hroute] at h
    have hnone : s.wrapped.hooks.get? ⟨handle⟩ = none := by
      cases hentry : s.wrapped.hooks.entry? ⟨handle⟩ with
      | none => simp [Registry.get?, hentry]
      | some p => exact absurd ⟨p.1, p.2, hentry, rfl, rfl⟩ (h p.2.raw p.2.host)
    exact ⟨_, by simp only [findHook, hnone]; rfl, rfl⟩
  | envAndFunction env func => simp [Request.hasOneHandle, hroute] at hone

/-- A call whose handle resolves goes to the host, if that is alive. -/
theorem route_of_resolves {raw : Word} {host : HostId} (h : s.Resolves r raw host) :
    s.route r = match s.liveHost? host with
      | none => .error .hostGone
      | some table => .ok { host := host, table := table, request := r.withHandle raw } := by
  unfold Resolves at h
  unfold route Request.withHandle
  cases hroute : r.route with
  | env env =>
    simp only [hroute] at h
    obtain ⟨id, e, hentry, rfl, rfl⟩ := h
    simp only [findEnv, Registry.get?, hentry, Option.map_some]
    cases s.liveHost? e.host <;> rfl
  | function func =>
    simp only [hroute] at h
    obtain ⟨id, f, hentry, rfl, hraw, rfl⟩ := h
    simp only [findWrappedFunction, Registry.get?, hentry, Option.map_some, if_neg hraw]
    cases s.liveHost? f.host <;> rfl
  | hook handle =>
    simp only [hroute] at h
    obtain ⟨id, k, hentry, rfl, rfl⟩ := h
    simp only [findHook, Registry.get?, hentry, Option.map_some]
    cases s.liveHost? k.host <;> rfl
  | envAndFunction env func => simp [hroute] at h

/-- Passing a call on to the entry of a host. -/
def passOn (s : Session) (r : Request) (d : Destination) (p : Provider) : Move :=
  match r with
  | .createThreadsafeFunction env spec _ => s.forwardCreate env spec d p
  | .addAsyncCleanupHook env _ _ out =>
    (s.keepHost d.host).run (.entry p d.request) [.forwardedHook d.host env out]
  | .removeAsyncCleanupHook handle =>
    (s.keepHost d.host).run (.entry p d.request) [.forwardedUnhook d.host handle]
  | _ => (s.keepHost d.host).run (.entry p d.request) [.forwarded d.host]

/-- A call with a place for its result is routed. -/
theorem forward_of_lacksResult (h : r.lacksResult = false) :
    s.forward r = match s.route r with
      | .error problem => s.refuseRoute r.entry problem
      | .ok d =>
        match d.table.provider? r.entry with
        | none => s.refuseRoute r.entry .missingEntry
        | some p => s.passOn r d p := by
  unfold forward
  split
  · simp [Request.lacksResult] at h
  · rfl

/-! ### What a frame makes of the answer -/

/-- A forwarded call that ends with the status that the host has returned, and changes no handles if
that is not `ok`. -/
theorem passesOn_of_resume {s' : Session} {fr : Frame} {p : Provider}
    (hstep : s.step t = some s')
    (hthread : s'.threads.get? t = some { control := .run (.entry p r), stack := fr :: below })
    (hresume : ∀ (u : Session) (response : Response), ∃ (u' : Session) (response' : Response),
      fr.resume t u (.response response) = u'.give (.response response') ∧
      response'.status = response.status ∧
      (response.status ≠ .ok → response' = response ∧
        (s'.wrapped.Same u.wrapped → s.wrapped.Same u'.wrapped))) :
    s.PassesOn t below p r := by
  refine ⟨s', fr, hstep, hthread, fun u response hu hthread' => ?_⟩
  obtain ⟨u', response', hgive, hstatus, hfailed⟩ := hresume u response
  have hstep' : u.step t = some (apply (u'.give (.response response')) t below) := by
    rw [← hgive]
    exact step_give hu hthread'
  exact ⟨_, response', hstep', threads_apply _ t below, hstatus, hfailed⟩

/-- A call of which the multiplexer makes nothing when it is answered. -/
theorem passesOn_of_forwarded {host : HostId} {p : Provider}
    (hstep : s.step t
      = some (apply ((s.keepHost host).run (.entry p r) [.forwarded host]) t below)) :
    s.PassesOn t below p r := by
  refine passesOn_of_resume hstep (threads_apply _ t below) fun u response => ?_
  exact ⟨u.releaseHost host, response, rfl, rfl, fun _ => ⟨rfl, id⟩⟩

/-- A cleanup hook is wrapped when it was registered. -/
theorem passesOn_of_forwardedHook {host : HostId} {p : Provider} {env : Word} {out : Bool}
    (hstep : s.step t
      = some (apply ((s.keepHost host).run (.entry p r) [.forwardedHook host env out]) t below)) :
    s.PassesOn t below p r := by
  refine passesOn_of_resume hstep (threads_apply _ t below) fun u response => ?_
  change ∃ u' response', u.afterForwardHook host env out response = _ ∧ _
  simp only [afterForwardHook]
  by_cases hwrap : (response.status = .ok && out) = true
  · obtain ⟨hok, -⟩ := Bool.and_eq_true_iff.1 hwrap
    have hok : response.status = .ok := by simpa using hok
    rw [if_pos hwrap]
    cases (u.releaseHost host).wrapped.envs.entry? ⟨env⟩ with
    | none => exact ⟨_, response, rfl, rfl, fun hfailed => absurd hok hfailed⟩
    | some p => exact ⟨_, _, rfl, rfl, fun hfailed => absurd hok hfailed⟩
  · rw [if_neg hwrap]
    exact ⟨u.releaseHost host, response, rfl, rfl, fun _ => ⟨rfl, id⟩⟩

/-- A cleanup hook is forgotten when it was removed. -/
theorem passesOn_of_forwardedUnhook {host : HostId} {p : Provider} {handle : Word}
    (hstep : s.step t
      = some (apply ((s.keepHost host).run (.entry p r) [.forwardedUnhook host handle]) t below)) :
    s.PassesOn t below p r := by
  refine passesOn_of_resume hstep (threads_apply _ t below) fun u response => ?_
  change ∃ u' response', u.afterForwardUnhook host handle response = _ ∧ _
  simp only [afterForwardUnhook]
  by_cases hok : response.status = .ok
  · rw [if_pos hok]
    exact ⟨_, response, rfl, rfl, fun hfailed => absurd hok hfailed⟩
  · rw [if_neg hok]
    exact ⟨u.releaseHost host, response, rfl, rfl, fun _ => ⟨rfl, id⟩⟩

/-- A function is reserved before it is created, bound when it was, and forgotten when it was not.
-/
theorem passesOn_of_forwardedCreate (host : HostId) {p : Provider} {env : HandleId}
    {e : WrappedEnv} (howned : s.multiplexers.Owned) (hids : s.ids.next < 2 ^ 64)
    (he : s.wrapped.envs.live? env = some e)
    (hstep : s.step t = some (apply
      (({ s with
          ids := ⟨s.ids.next + 1⟩
          wrapped := s.wrapped.reserveFunction ⟨s.ids.next⟩ env e.host }.keepHost host).run
        (.entry p r) [.forwardedCreate host ⟨s.ids.next⟩]) t below)) :
    s.PassesOn t below p r := by
  refine passesOn_of_resume hstep (threads_apply _ t below) fun u response => ?_
  change ∃ u' response', u.afterForwardCreate host ⟨s.ids.next⟩ response = _ ∧ _
  simp only [afterForwardCreate]
  by_cases hok : response.status = .ok
  · rw [if_pos hok]
    exact ⟨_, _, rfl, rfl, fun hfailed => absurd hok hfailed⟩
  · rw [if_neg hok]
    refine ⟨_, response, rfl, rfl, fun _ => ⟨rfl, fun hsame => ?_⟩⟩
    have hreserved := howned.wrapped.same_reserve_erase howned.pos hids he e.host
    exact hreserved.trans (hsame.eraseFunction _)

/-- A call whose handle resolves to a host that provides the entry. -/
theorem Calls.passesOn (h : s.Calls t r below) (howned : s.multiplexers.Owned)
    (hids : s.ids.next < 2 ^ 64) (hresult : r.lacksResult = false) {raw : Word} {host : HostId}
    {table : HostTable} {p : Provider} (hresolves : s.Resolves r raw host)
    (hhost : s.liveHost? host = some table) (hp : table.provider? r.entry = some p) :
    s.PassesOn t below p (r.passedOn raw ⟨s.ids.next⟩) := by
  have hforward : s.forward r
      = s.passOn r { host := host, table := table, request := r.withHandle raw } p := by
    simp only [forward_of_lacksResult hresult, route_of_resolves hresolves, hhost, hp]
  have hstep := h.step
  rw [hforward] at hstep
  cases r with
  | createThreadsafeFunction env spec out =>
    obtain ⟨id, e, hentry, rfl, rfl⟩ := hresolves
    obtain ⟨he, -⟩ := (howned.wrapped.envs.entry?_eq_some_iff hids.le).1 hentry
    refine passesOn_of_forwardedCreate e.host howned hids he (hstep.trans ?_)
    simp only [passOn, forwardCreate, hentry, freshId, IdSource.take]
    rfl
  | addAsyncCleanupHook env hook arg out => exact passesOn_of_forwardedHook hstep
  | removeAsyncCleanupHook handle => exact passesOn_of_forwardedUnhook hstep
  | refThreadsafeFunction env func | unrefThreadsafeFunction env func => exact hresolves.elim
  | _ => exact passesOn_of_forwarded hstep

/-- Where a call goes that a multiplexer gets, and what comes of it. -/
theorem Reachable.routing (h : s.Reachable) (hids : s.ids.next < 2 ^ 64)
    (hcall : s.Calls t r below) (hone : r.hasOneHandle = true) :
    (r.lacksResult = true → s.Refuses t below .invalidArg) ∧
    (r.lacksResult = false →
      ((∀ raw host, ¬s.Resolves r raw host) → s.Refuses t below .invalidArg) ∧
      ∀ raw host, s.Resolves r raw host →
        (s.liveHost? host = none → s.Refuses t below .genericFailure) ∧
        ∀ table, s.liveHost? host = some table →
          (table.provider? r.entry = none → s.Refuses t below .genericFailure) ∧
          ∀ p, table.provider? r.entry = some p →
            (r.passedOn raw ⟨s.ids.next⟩).entry = r.entry ∧
              s.PassesOn t below p (r.passedOn raw ⟨s.ids.next⟩)) := by
  constructor
  · intro hresult
    refine hcall.refuses ?_ ?_ ?_ <;> cases r <;> simp_all [Request.lacksResult, forward] <;> rfl
  intro hresult
  have hforward := forward_of_lacksResult (s := s) hresult
  constructor
  · intro hnone
    obtain ⟨problem, hroute, hstatus⟩ := route_of_not_resolves hone hnone
    rw [← hstatus]
    exact hcall.refuses_of_route problem (by rw [hforward, hroute])
  · intro raw host hresolves
    have hroute := route_of_resolves hresolves
    constructor
    · intro hhost
      exact hcall.refuses_of_route .hostGone (by rw [hforward, hroute, hhost])
    · intro table hhost
      constructor
      · intro hp
        refine hcall.refuses_of_route .missingEntry ?_
        simp only [hforward, hroute, hhost, hp]
      · intro p hp
        refine ⟨r.entry_passedOn _ _, ?_⟩
        exact hcall.passesOn (h.multiplexersRun.owned hids.le) hids hresult hresolves hhost hp

/-- An engine that has nothing to do, and runs no finalizer, answers and leaves wrapped handles
alone. -/
theorem engine_answers {slot : Nat} {stack : List Frame} {engines : Engines} {response : Response}
    (hrunning : s.halted = false)
    (hthread : s.threads.get? t
      = some { control := .run (.entry (.engine slot) r), stack := stack })
    (hsilent : s.scripts.get? (.engine slot r.entry) = none)
    (hanswer : s.engines.answer slot r = (engines, response, none)) :
    ∃ u, (s.step t >>= (·.step t) >>= (·.step t)) = some u ∧ u.halted = false ∧
      u.threads.get? t = some { control := .give (.response response), stack := stack } ∧
      u.wrapped = s.wrapped := by
  have hfire : (s.emit (.engine slot r)).fire (.engine slot r.entry)
      = ([], s.emit (.engine slot r)) := by
    simp [fire, emit, hsilent]
  have hentry : Code.step (.entry (.engine slot) r) t s
      = some ((s.emit (.engine slot r)).run (.script .callback []) [.engineScripted slot r]) := by
    simp [Code.step, entry, engineEntry, hfire]
  have h₁ := step_run hrunning hthread hentry
  set s₁ := apply ((s.emit (.engine slot r)).run (.script .callback [])
    [.engineScripted slot r]) t stack
  have h₂ : s₁.step t = some (apply (s₁.give .unit) t (.engineScripted slot r :: stack)) :=
    step_run hrunning (threads_apply _ t stack) rfl
  set s₂ := apply (s₁.give .unit) t (.engineScripted slot r :: stack)
  have h₃ : s₂.step t = some (apply (s₂.engineAnswer slot r) t stack) :=
    step_give (s := s₂) hrunning (threads_apply (s₁.give .unit) t _)
  have hgive : s₂.engineAnswer slot r
      = ({ s₂ with engines := engines } : Session).give (.response response) := by
    unfold engineAnswer
    rw [show s₂.engines = s.engines from rfl, hanswer]
  refine ⟨apply (s₂.engineAnswer slot r) t stack, ?_, ?_, ?_, ?_⟩
  · simp only [h₁, h₂, h₃, Option.bind_eq_bind, Option.bind_some]
  · rw [halted_apply, hgive]
    exact hrunning
  · rw [threads_apply, hgive]
    rfl
  · rw [wrapped_apply, hgive]
    rfl

/-- The call that a thread is about to give to a multiplexer. -/
def calling? (s : Session) (t : ThreadId) : Option (Request × List Frame) :=
  match s.threads.get? t with
  | some { control := .run (.entry .multiplexer r), stack } => some (r, stack)
  | _ => none

theorem calls_of_calling? (hrunning : s.halted = false) (h : s.calling? t = some (r, below)) :
    s.Calls t r below := by
  refine ⟨hrunning, ?_⟩
  unfold calling? at h
  split at h
  · next hthread => simpa [hthread] using h
  · simp at h

/-- A session in which a function is about to be created through a wrapped env, by a host that is
going to refuse it. -/
def creating : Session :=
  ((start [] none).during?
    [.createHost "host" 0 [.createThreadsafeFunction] [],
      .setEngine 0 .createThreadsafeFunction .queueFull .normal,
      .createMultiplexer "multiplexer" false false,
      .wrap "multiplexer" "host" (.word 16) "env"]
    (.entry "multiplexer" .createThreadsafeFunction
      { env := .named "env", callJs := true, out := some "function" }) 1).get (by decide +kernel)

/-- The call, and the frame of the action that makes it. -/
def creatingCall : Request × List Frame := (creating.calling? .main).get (by decide +kernel)

theorem routing_creating :
    ∃ u : Session,
      (creating.step .main >>= (·.step .main) >>= (·.step .main) >>= (·.step .main)
        >>= (·.step .main)) = some u ∧
      u.threads.get? .main
        = some { control := .give (.response { status := .queueFull }), stack := creatingCall.2 } ∧
      creating.wrapped.Same u.wrapped := by
  have hreachable : creating.Reachable :=
    (Reachable.start [] none).during? (Option.some_get _).symm
  have hcall : creating.Calls .main creatingCall.1 creatingCall.2 :=
    calls_of_calling? (by decide +kernel)
      (Option.some_get (by decide +kernel : (creating.calling? .main).isSome = true)).symm
  have hresolves : creating.Resolves creatingCall.1 16 0 := by
    have hroute : creatingCall.1.route = .env 1 := by decide +kernel
    simp only [Resolves, hroute]
    exact ⟨⟨1⟩, { raw := 16, host := 0 }, by decide +kernel, rfl, rfl⟩
  obtain ⟨-, hrouted⟩ := hreachable.routing (by decide +kernel) hcall (by decide +kernel)
  obtain ⟨-, hresolved⟩ := hrouted (by decide +kernel)
  obtain ⟨-, hpassed⟩ := (hresolved 16 0 hresolves).2 _
    (Option.some_get (by decide +kernel : (creating.liveHost? 0).isSome = true)).symm
  obtain ⟨-, s', fr, hstep, hthread, hreturns⟩ := hpassed (.engine 0) (by decide +kernel)
  obtain rfl : s' = (creating.step .main).get (by decide +kernel) :=
    Option.some.inj (hstep.symm.trans (Option.some_get _).symm)
  -- the engine answers with the status that it was set to
  have hanswer : ((creating.step .main).get (by decide +kernel)).engines.answer 0
      (creatingCall.1.passedOn 16 ⟨creating.ids.next⟩) = (_, { status := .queueFull }, none) :=
    Prod.ext rfl (Prod.ext (by decide +kernel) (Option.isNone_iff_eq_none.1 (by decide +kernel)))
  obtain ⟨u, hsteps, hrunning, hgives, hwrapped⟩ := engine_answers (by decide +kernel) hthread
    (Option.isNone_iff_eq_none.1 (by decide +kernel)) hanswer
  obtain ⟨u', response', hstep', hthread', -, hfailed⟩ := hreturns u _ hrunning hgives
  obtain ⟨rfl, hsame⟩ := hfailed (by decide +kernel)
  refine ⟨u', ?_, hthread', hsame (hwrapped ▸ .refl _)⟩
  simp only [Option.bind_eq_bind] at hsteps ⊢
  rw [hstep, Option.bind_some, hsteps, Option.bind_some, hstep']

end Session

end AddonHost
