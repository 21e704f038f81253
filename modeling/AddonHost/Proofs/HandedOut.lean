import AddonHost.Proofs.Routing
import AddonHost.Proofs.Session.Onward

/-!
The handles that a multiplexer hands out.

A threadsafe function is created, and an async cleanup hook registered, by the host that owns the
env, and what the addon is to get is an id of the multiplexer.  In between the host's entry runs:
it, and the other threads with it, may do anything that a run may do, and drop the multiplexer or
the host too (`StaysWithin`).  `Reachable.handed_out` says what the addon is left with when such a
call returns `ok`:

* for a function always the id that was reserved for this call, before the host was called;
* for a hook an id that is issued when the host has answered, if the env still resolves then;
* for a hook whose env is gone by then the host's own handle.

The first two come from `Session.afterForwardCreate` and `Session.afterForwardHook`, whose frames
are below whatever the host does (`StaysWithin.exists_stack`).
-/

namespace AddonHost

namespace RouteProblem

theorem status_ne_ok (p : RouteProblem) : p.status ≠ .ok := by
  cases p <;> simp [status]

end RouteProblem

/-- A frame that pushes no frames when it gets its reply, or a failure. -/
structure Frame.IsLast (fr : Frame) : Prop where
  resume (t : ThreadId) (u : Session) (r : Reply) : (fr.resume t u r).frames = []
  unwind (u : Session) : fr.unwind u = { session := u, control := .fail }

/-- The arguments of a call that registers an async cleanup hook. -/
def Request.registration? : Request → Option (Word × Bool × Word × Bool)
  | addAsyncCleanupHook env hook arg out => some (env, hook, arg, out)
  | _ => none

theorem Request.eq_of_registration? {r : Request} {env arg : Word} {hook out : Bool}
    (h : r.registration? = some (env, hook, arg, out)) :
    r = .addAsyncCleanupHook env hook arg out := by
  cases r with
  | addAsyncCleanupHook env' hook' arg' out' =>
    obtain ⟨rfl, rfl, rfl, rfl⟩ : env' = env ∧ hook' = hook ∧ arg' = arg ∧ out' = out := by
      simpa [registration?] using h
    rfl
  | _ => cases h

namespace Session

variable {s s' u u' : Session} {t : ThreadId} {r : Request} {below : List Frame} {fr : Frame}
  {response : Response}

/-! ### Within a call -/

/-- A thread is within a call: there is more on its stack than the frames that wait for it. -/
def WithinCall (s : Session) (t : ThreadId) (below : List Frame) : Prop :=
  ∃ th, s.threads.get? t = some th ∧ below.length < th.stack.length

instance (s : Session) (t : ThreadId) (below : List Frame) : Decidable (s.WithinCall t below) :=
  decidable_of_iff ((s.threads.get? t).any fun th => below.length < th.stack.length) (by
    simp [WithinCall, Option.any_eq_true])

/-- A thread returns from a call with a response. -/
def RepliesWith (s : Session) (t : ThreadId) (below : List Frame) (response : Response) : Prop :=
  s.threads.get? t = some { control := .give (.response response), stack := below }

/-- The sessions that a run may arrive at from a session while a thread stays within a call. -/
inductive StaysWithin (t : ThreadId) (below : List Frame) (s : Session) : Session → Prop where
  | refl : s.WithinCall t below → StaysWithin t below s s
  | act {u : Session} (a : Action) :
    StaysWithin t below s u → u.MainIdle → StaysWithin t below s (u.beginAction a)
  | step {u u' : Session} (v : ThreadId) :
    StaysWithin t below s u → u.OthersAtRest v → u.step v = some u' → u'.WithinCall t below →
      StaysWithin t below s u'
  | lose {u : Session} (i : InvokerId) (position : ℕ) :
    StaysWithin t below s u → StaysWithin t below s (u.loseTask i position)

theorem StaysWithin.onward (h : s.StaysWithin t below u) : s.Onward u := by
  induction h with
  | refl => exact .refl
  | act a _ hidle ih => exact ih.act a hidle
  | step v _ hrest hstep _ ih => exact ih.step v hrest hstep
  | lose i position _ ih => exact ih.lose i position

/-- As long as a thread stays within a call, the frame that the call has pushed waits for the
answer. -/
theorem StaysWithin.exists_stack (h : StaysWithin t below s u) (hs : s.Reachable)
    (hfr : fr.IsLast) {control : Control}
    (hth : s.threads.get? t = some { control := control, stack := fr :: below }) :
    ∃ control above,
      u.threads.get? t = some { control := control, stack := above ++ fr :: below } := by
  induction h with
  | refl => exact ⟨control, [], hth⟩
  | @act u a _ hidle ih =>
    obtain ⟨control, above, hu⟩ := ih
    -- the main thread is idle, so it is not the one that waits
    have hne : .main ≠ t := by
      rintro rfl
      obtain ⟨r, hr⟩ := hidle
      have := congrArg Thread.stack (Option.some.inj (hu.symm.trans hr))
      simp at this
    refine ⟨control, above, ?_⟩
    rw [beginAction, setThread, Assoc.get?_insert, if_neg hne, hu]
  | @step u u' v hu' hrest hstep hwithin ih =>
    obtain ⟨control, above, hu⟩ := ih
    by_cases hv : v = t
    · subst hv
      obtain ⟨m, rest, hm, rfl⟩ := exists_moves hstep hu
      obtain ⟨th, hth', hheight⟩ := hwithin
      obtain rfl := Option.some.inj ((threads_apply m v rest).symm.trans hth')
      rcases hm.stack_or with ⟨above', hstack⟩ | ⟨rfl, ⟨r, -, rfl⟩ | ⟨-, rfl⟩⟩
      · exact ⟨m.control, above', by rw [threads_apply, hstack]⟩
      · -- the frame would have given its reply, and nothing would be left of the call
        rw [hfr.resume] at hheight
        simp at hheight
      · rw [hfr.unwind] at hheight
        simp at hheight
    · exact ⟨control, above, (hs.onward hu'.onward).get?_of_step_of_ne hstep hv hu⟩
  | @lose u i position _ ih =>
    obtain ⟨control, above, hu⟩ := ih
    exact ⟨control, above, (follows_loseTask (s := u) i position).threads ▸ hu⟩

/-- A thread that gives a reply takes one frame off its stack. -/
theorem Moves.length_stack {reply : Reply} {stack rest : List Frame} {m : Move}
    (hm : s.Moves t { control := .give reply, stack := stack } m rest) :
    stack.length = rest.length + 1 := by
  cases hm
  rfl

/-- A call returns when its frame gets the reply of the host. -/
theorem exists_resume (hfr : fr.IsLast) {control : Control} {above : List Frame}
    (hu : u.threads.get? t = some { control := control, stack := above ++ fr :: below })
    (hback : u.step t = some u') (hreplies : u'.RepliesWith t below response) :
    ∃ reply, u.threads.get? t = some { control := .give reply, stack := fr :: below } ∧
      u' = apply (fr.resume t u reply) t below := by
  obtain ⟨m, rest, hm, rfl⟩ := exists_moves hback hu
  have hthread := Option.some.inj ((threads_apply m t rest).symm.trans hreplies)
  obtain ⟨hcontrol, hstack⟩ := Thread.mk.inj hthread
  rcases hm.stack_or with ⟨above', hstack'⟩ | ⟨rfl, ⟨reply, rfl, rfl⟩ | ⟨-, rfl⟩⟩
  · -- the frame of the call would still be there
    have := congrArg List.length (hstack.symm.trans hstack')
    simp at this
    omega
  · have habove : above = [] := by
      have := hm.length_stack
      simpa using this
    subst habove
    exact ⟨reply, hu, rfl⟩
  · -- a failure that is passed on is no response
    rw [hfr.unwind] at hcontrol
    cases hcontrol

/-- A call that was passed on under a frame returns with what the frame makes of the answer. -/
theorem StaysWithin.returned (h : StaysWithin t below s u) (hs : s.Reachable) (hfr : fr.IsLast)
    {control : Control}
    (hth : s.threads.get? t = some { control := control, stack := fr :: below })
    (hback : u.step t = some u') (hreplies : u'.RepliesWith t below response) :
    ∃ reply, u.threads.get? t = some { control := .give reply, stack := fr :: below } ∧
      u' = apply (fr.resume t u reply) t below := by
  obtain ⟨control, above, hu⟩ := h.exists_stack hs hfr hth
  exact exists_resume hfr hu hback hreplies

/-- Only a response says `ok`. -/
theorem response_of_ok {reply : Reply} (h : reply.toResponse.status = .ok) :
    reply = .response reply.toResponse := by
  cases reply <;> simp_all [Reply.toResponse]

theorem isLast_forwardedCreate (host : HostId) (id : HandleId) :
    (Frame.forwardedCreate host id).IsLast where
  resume t u r := by
    show (u.afterForwardCreate host id r.toResponse).frames = []
    unfold afterForwardCreate
    split <;> rfl
  unwind u := rfl

theorem isLast_forwardedHook (host : HostId) (env : Word) (out : Bool) :
    (Frame.forwardedHook host env out).IsLast where
  resume t u r := by
    show (u.afterForwardHook host env out r.toResponse).frames = []
    simp only [afterForwardHook]
    split
    · split <;> rfl
    · rfl
  unwind u := rfl

/-! ### The first step -/

/-- A call is refused at once, and not with `ok`, or it is passed on to a host. -/
theorem forward_refuses_or (s : Session) (r : Request) :
    (∃ (u : Session) (status : Status), s.forward r = u.respond status ∧ status ≠ .ok) ∨
      ∃ d p, s.forward r = s.passOn r d p := by
  by_cases hresult : r.lacksResult = true
  · refine .inl ⟨s, .invalidArg, ?_, by simp⟩
    cases r with
    | createThreadsafeFunction env spec out =>
      obtain rfl : out = false := by simpa [Request.lacksResult] using hresult
      rfl
    | _ => simp [Request.lacksResult] at hresult
  · rw [Bool.not_eq_true] at hresult
    rw [forward_of_lacksResult hresult]
    cases s.route r with
    | error problem => exact .inl ⟨_, _, rfl, problem.status_ne_ok⟩
    | ok d =>
      simp only
      cases d.table.provider? r.entry with
      | none => exact .inl ⟨_, _, rfl, RouteProblem.missingEntry.status_ne_ok⟩
      | some p => exact .inr ⟨d, p, rfl⟩

/-- A creation that is passed on reserves the next id. -/
theorem forwardCreate_refuses_or (s : Session) (env : Word) (spec : FunctionSpec) (d : Destination)
    (p : Provider) :
    (∃ (u : Session) (status : Status),
      s.forwardCreate env spec d p = u.respond status ∧ status ≠ .ok) ∨
      ∃ owner host request, s.forwardCreate env spec d p
        = (({ s with
            ids := ⟨s.ids.next + 1⟩
            wrapped := s.wrapped.reserveFunction ⟨s.ids.next⟩ owner host }.keepHost d.host).run
          (.entry p request) [.forwardedCreate d.host ⟨s.ids.next⟩]) := by
  unfold forwardCreate
  cases s.wrapped.envs.entry? ⟨env⟩ with
  | none => exact .inl ⟨_, _, rfl, (RouteProblem.unknownEnv env).status_ne_ok⟩
  | some e => exact .inr ⟨e.1, e.2.host, _, rfl⟩

/-- A thread that was refused gives the status to whoever waits for the call. -/
theorem repliesWith_respond (status : Status) :
    (apply (u.respond status) t below).RepliesWith t below { status := status } :=
  threads_apply (u.respond status) t below

theorem not_withinCall_of_repliesWith (h : s.RepliesWith t below response) :
    ¬s.WithinCall t below := by
  rintro ⟨th, hth, hheight⟩
  obtain rfl := Option.some.inj (h.symm.trans hth)
  exact Nat.lt_irrefl _ hheight

theorem RepliesWith.inj {response' : Response} (h : s.RepliesWith t below response)
    (h' : s.RepliesWith t below response') : response = response' := by
  have hthread := (Thread.mk.inj (Option.some.inj (h.symm.trans h'))).1
  exact Reply.response.inj (Control.give.inj hthread)

/-- A thread that stays within a call is within it at first. -/
theorem StaysWithin.withinCall (h : StaysWithin t below s u) : s.WithinCall t below := by
  induction h with
  | refl h => exact h
  | act a _ _ ih => exact ih
  | step v _ _ _ _ ih => exact ih
  | lose i position _ ih => exact ih

/-! ### What is handed out -/

/-- A call that is refused at once is not stayed in. -/
theorem StaysWithin.not_respond {status : Status}
    (h : StaysWithin t below (apply (s.respond status) t below) u) : False :=
  not_withinCall_of_repliesWith (repliesWith_respond status) h.withinCall

/-- A function is handed out under the id that was reserved for the call, and the id is bound to the
handle of the host. -/
theorem Reachable.function_handed_out {env : Word} {spec : FunctionSpec} {out : Bool}
    (h : s.Reachable) (hrest : s.OthersAtRest t)
    (hcall : s.Calls t (.createThreadsafeFunction env spec out) below)
    (hstep : s.step t = some s') (hwithin : StaysWithin t below s' u) (hback : u.step t = some u')
    (hreplies : u'.RepliesWith t below response) (hok : response.status = .ok) :
    ∃ host answer owner,
      u.RepliesWith t (.forwardedCreate host ⟨s.ids.next⟩ :: below) answer ∧
      response.out = some (⟨s.ids.next⟩ : HandleId).value ∧
      s'.ids.next = s.ids.next + 1 ∧
      (∃ own, s'.wrapped = s.wrapped.reserveFunction ⟨s.ids.next⟩ owner own) ∧
      u'.wrapped = u.wrapped.bindFunction ⟨s.ids.next⟩ (answer.out.getD 0) := by
  have hs' : s'.Reachable := h.step t hrest hstep
  obtain rfl := Option.some.inj (hcall.step.symm.trans hstep)
  rcases s.forward_refuses_or (.createThreadsafeFunction env spec out) with
    ⟨v, status, hforward, -⟩ | ⟨d, p, hforward⟩
  · rw [hforward] at hwithin
    exact hwithin.not_respond.elim
  rcases s.forwardCreate_refuses_or env spec d p with
    ⟨v, status, hcreate, -⟩ | ⟨owner, own, request, hcreate⟩
  · rw [hforward, passOn, hcreate] at hwithin
    exact hwithin.not_respond.elim
  rw [hforward, passOn, hcreate] at hwithin hs' ⊢
  obtain ⟨reply, hanswer, rfl⟩ :=
    hwithin.returned hs' (isLast_forwardedCreate ..) (threads_apply ..) hback hreplies
  change (apply (u.afterForwardCreate d.host ⟨s.ids.next⟩ reply.toResponse) t below).RepliesWith t
    below response at hreplies
  by_cases hhost : reply.toResponse.status = .ok
  · have hgive : u.afterForwardCreate d.host ⟨s.ids.next⟩ reply.toResponse
        = { u.releaseHost d.host with
            wrapped := u.wrapped.bindFunction ⟨s.ids.next⟩ (reply.toResponse.out.getD 0) }.give
          (.response
            { status := reply.toResponse.status
              out := some (⟨s.ids.next⟩ : HandleId).value }) := if_pos hhost
    rw [hgive] at hreplies
    obtain rfl := hreplies.inj (threads_apply (Session.give _ _) t below)
    rw [response_of_ok hhost] at hanswer
    refine ⟨d.host, reply.toResponse, owner, hanswer, rfl, rfl, ⟨own, rfl⟩, ?_⟩
    exact congrArg (·.session.wrapped) hgive
  · have hgive : u.afterForwardCreate d.host ⟨s.ids.next⟩ reply.toResponse
        = { u.releaseHost d.host with wrapped := u.wrapped.eraseFunction ⟨s.ids.next⟩ }.give
          (.response reply.toResponse) := if_neg hhost
    rw [hgive] at hreplies
    obtain rfl := hreplies.inj (threads_apply (Session.give _ _) t below)
    exact absurd hok hhost

/-- The registration of a hook that is not refused waits for the host. -/
theorem Calls.exists_forwardedHook {env : Word} {hook : Bool} {arg : Word}
    (hcall : s.Calls t (.addAsyncCleanupHook env hook arg true) below)
    (hstep : s.step t = some s') (hwithin : s'.WithinCall t below) :
    ∃ host code, s'.threads.get? t
      = some { control := .run code, stack := .forwardedHook host env true :: below } := by
  obtain rfl := Option.some.inj (hcall.step.symm.trans hstep)
  rcases s.forward_refuses_or (.addAsyncCleanupHook env hook arg true) with
    ⟨v, status, hforward, -⟩ | ⟨d, p, hforward⟩
  · rw [hforward] at hwithin
    exact absurd hwithin (not_withinCall_of_repliesWith (repliesWith_respond status))
  · rw [hforward]
    exact ⟨d.host, _, threads_apply ..⟩

/-- A hook is handed out under an id that is issued when the host has answered, if the env still
resolves then; else the addon gets the handle of the host. -/
theorem Reachable.hook_handed_out {env : Word} {hook : Bool} {arg : Word}
    (h : s.Reachable) (hrest : s.OthersAtRest t)
    (hcall : s.Calls t (.addAsyncCleanupHook env hook arg true) below)
    (hstep : s.step t = some s') (hwithin : StaysWithin t below s' u) (hback : u.step t = some u')
    (hreplies : u'.RepliesWith t below response) (hok : response.status = .ok) :
    ∃ host answer,
      u.RepliesWith t (.forwardedHook host env true :: below) answer ∧
      match u.wrapped.envs.entry? ⟨env⟩ with
      | some (owner, e) =>
        response.out = some (⟨u.ids.next⟩ : HandleId).value ∧
        u'.ids.next = u.ids.next + 1 ∧
        u'.wrapped = u.wrapped.wrapHook ⟨u.ids.next⟩ owner (answer.out.getD 0) e.host
      | none => response = answer ∧ u'.wrapped = u.wrapped := by
  obtain ⟨host, code, hpassed⟩ := hcall.exists_forwardedHook hstep hwithin.withinCall
  obtain ⟨reply, hanswer, rfl⟩ :=
    hwithin.returned (h.step t hrest hstep) (isLast_forwardedHook ..) hpassed hback hreplies
  change (apply (u.afterForwardHook host env true reply.toResponse) t below).RepliesWith t
    below response at hreplies
  rw [wrapped_apply]
  change ∃ host' answer, _ ∧ match u.wrapped.envs.entry? ⟨env⟩ with
    | some (owner, e) => _ ∧
      (u.afterForwardHook host env true reply.toResponse).session.ids.next = _ ∧
      (u.afterForwardHook host env true reply.toResponse).session.wrapped = _
    | none => _ ∧ (u.afterForwardHook host env true reply.toResponse).session.wrapped = _
  have hwrapped : (u.releaseHost host).wrapped = u.wrapped := rfl
  by_cases hhost : reply.toResponse.status = .ok
  · rw [response_of_ok hhost] at hanswer
    refine ⟨host, reply.toResponse, hanswer, ?_⟩
    simp only [afterForwardHook, hhost, decide_true, Bool.and_true, if_true, hwrapped] at hreplies ⊢
    cases hentry : u.wrapped.envs.entry? ⟨env⟩ with
    | none =>
      simp only [hentry] at hreplies ⊢
      exact ⟨hreplies.inj (threads_apply (Session.give _ _) t below), rfl⟩
    | some p =>
      simp only [hentry] at hreplies ⊢
      obtain rfl := hreplies.inj (threads_apply (Session.give _ _) t below)
      exact ⟨rfl, rfl, rfl⟩
  · have hgive : u.afterForwardHook host env true reply.toResponse
        = (u.releaseHost host).give (.response reply.toResponse) := by
      simp [afterForwardHook, hhost]
    rw [hgive] at hreplies
    obtain rfl := hreplies.inj (threads_apply (Session.give _ _) t below)
    exact absurd hok hhost

/-- A call that is not refused at once waits for a host. -/
theorem passOn_refuses_or (s : Session) (r : Request) (d : Destination) (p : Provider) :
    (∃ (u : Session) (status : Status), s.passOn r d p = u.respond status ∧ status ≠ .ok) ∨
      ∃ (u : Session) (c : Code) (frames : List Frame), s.passOn r d p = u.run c frames := by
  cases r with
  | createThreadsafeFunction env spec out =>
    refine (s.forwardCreate_refuses_or env spec d p).imp_right fun h => ?_
    obtain ⟨owner, host, request, hcreate⟩ := h
    exact ⟨_, _, _, hcreate⟩
  | _ => exact .inr ⟨_, _, _, rfl⟩

/-- No call of a multiplexer returns `ok` at once. -/
theorem Calls.refused (hcall : s.Calls t r below) (hstep : s.step t = some s')
    (hreplies : s'.RepliesWith t below response) : response.status ≠ .ok := by
  obtain rfl := Option.some.inj (hcall.step.symm.trans hstep)
  have hrefused : ∀ {u : Session} {status : Status}, s.forward r = u.respond status →
      status ≠ .ok → response.status ≠ .ok := by
    intro u status hforward hstatus
    rw [hforward] at hreplies
    obtain rfl := hreplies.inj (repliesWith_respond status)
    exact hstatus
  rcases s.forward_refuses_or r with ⟨u, status, hforward, hstatus⟩ | ⟨d, p, hforward⟩
  · exact hrefused hforward hstatus
  rcases s.passOn_refuses_or r d p with ⟨u, status, hpass, hstatus⟩ | ⟨u, c, frames, hpass⟩
  · exact hrefused (hforward.trans hpass) hstatus
  · rw [hforward, hpass] at hreplies
    have hthread := Option.some.inj ((threads_apply ..).symm.trans hreplies)
    cases (Thread.mk.inj hthread).1

/-- What the addon is left with when a multiplexer's call for a handle returns `ok`, whatever has
happened while the host's entry ran. -/
theorem Reachable.handed_out (h : s.Reachable) (hrest : s.OthersAtRest t)
    (hcall : s.Calls t r below) (hstep : s.step t = some s') :
    (∀ refusal, s'.RepliesWith t below refusal → refusal.status ≠ .ok) ∧
    ∀ u u' response, StaysWithin t below s' u → u.step t = some u' →
      u'.RepliesWith t below response → response.status = .ok →
      (∀ env spec out, r = .createThreadsafeFunction env spec out →
        ∃ host answer owner,
          u.RepliesWith t (.forwardedCreate host ⟨s.ids.next⟩ :: below) answer ∧
          response.out = some (⟨s.ids.next⟩ : HandleId).value ∧
          s'.ids.next = s.ids.next + 1 ∧
          (∃ own, s'.wrapped = s.wrapped.reserveFunction ⟨s.ids.next⟩ owner own) ∧
          u'.wrapped = u.wrapped.bindFunction ⟨s.ids.next⟩ (answer.out.getD 0)) ∧
      ∀ env hook arg, r = .addAsyncCleanupHook env hook arg true →
        ∃ host answer,
          u.RepliesWith t (.forwardedHook host env true :: below) answer ∧
          match u.wrapped.envs.entry? ⟨env⟩ with
          | some (owner, e) =>
            response.out = some (⟨u.ids.next⟩ : HandleId).value ∧
            u'.ids.next = u.ids.next + 1 ∧
            u'.wrapped = u.wrapped.wrapHook ⟨u.ids.next⟩ owner (answer.out.getD 0) e.host
          | none => response = answer ∧ u'.wrapped = u.wrapped := by
  refine ⟨fun refusal hreplies => hcall.refused hstep hreplies, ?_⟩
  intro u u' response hwithin hback hreplies hok
  constructor
  · rintro env spec out rfl
    exact h.function_handed_out hrest hcall hstep hwithin hback hreplies hok
  · rintro env hook arg rfl
    exact h.hook_handed_out hrest hcall hstep hwithin hback hreplies hok

/-! ### A handle of the host that gets out -/

/-- The session after so many steps of a thread that stays within a call. -/
def within? (s : Session) (t : ThreadId) (below : List Frame) : ℕ → Option Session
  | 0 => if s.WithinCall t below then some s else none
  | n + 1 =>
    if s.WithinCall t below ∧ s.OthersAtRest t then (s.step t).bind (·.within? t below n) else none

theorem StaysWithin.head (hwithin : s.WithinCall t below) (hrest : s.OthersAtRest t)
    (hstep : s.step t = some s') (h : StaysWithin t below s' u) : StaysWithin t below s u := by
  induction h with
  | refl h => exact .step t (.refl hwithin) hrest hstep h
  | act a _ hidle ih => exact ih.act a hidle
  | step v _ hrest hstep hwithin ih => exact ih.step v hrest hstep hwithin
  | lose i position _ ih => exact ih.lose i position

theorem staysWithin_of_within? {n : ℕ} (h : s.within? t below n = some u) :
    StaysWithin t below s u := by
  induction n generalizing s with
  | zero =>
    rw [within?] at h
    split at h
    · next hwithin =>
      obtain rfl := Option.some.inj h
      exact .refl hwithin
    · cases h
  | succ n ih =>
    rw [within?] at h
    split at h
    · next hboth =>
      obtain ⟨v, hstep, hv⟩ := Option.bind_eq_some_iff.1 h
      exact .head hboth.1 hboth.2 hstep (ih hv)
    · cases h

/-- The response that a thread gives to some number of frames. -/
def responding? (s : Session) (t : ThreadId) : Option (Response × ℕ) :=
  match s.threads.get? t with
  | some { control := .give (.response response), stack } => some (response, stack.length)
  | _ => none

/-- A thread that stays within a call and gives a response to one frame more than wait for it has
the answer of the host. -/
theorem repliesWith_of_responding? {control : Control} {above : List Frame}
    (hu : u.threads.get? t = some { control := control, stack := above ++ fr :: below })
    (h : u.responding? t = some (response, below.length + 1)) :
    u.RepliesWith t (fr :: below) response := by
  unfold responding? at h
  split at h
  · next answer stack hthread =>
    obtain ⟨rfl, hlength⟩ := Prod.mk.inj (Option.some.inj h)
    have hstack := (Thread.mk.inj (Option.some.inj (hu.symm.trans hthread))).2
    have habove : above = [] := by
      have := congrArg List.length hstack
      simp at this
      exact List.length_eq_zero_iff.1 (by omega)
    rw [RepliesWith, hthread, ← hstack, habove, List.nil_append]
  · cases h

/-- The answer of the host is passed through when the env is gone. -/
theorem resume_forwardedHook_of_gone (t : ThreadId) (host : HostId) {env : Word}
    (response : Response) (hgone : u.wrapped.envs.entry? ⟨env⟩ = none) :
    (Frame.forwardedHook host env true).resume t u (.response response)
      = (u.releaseHost host).give (.response response) := by
  have hgone' : (u.releaseHost host).wrapped.envs.entry? ⟨env⟩ = none := hgone
  show u.afterForwardHook host env true response = _
  simp only [afterForwardHook, hgone']
  exact ite_self _

/-- A hook is about to be registered through a wrapped env, and the host's entry is going to drop
the multiplexer. -/
def registering : Session :=
  ((start [] none).during?
    [.createHost "host" 0 [.addAsyncCleanupHook] [],
      .createMultiplexer "multiplexer" false false,
      .wrap "multiplexer" "host" (.word 16) "env",
      .script (.engine 0 .addAsyncCleanupHook) [.dropMultiplexer "multiplexer"]]
    (.entry "multiplexer" .addAsyncCleanupHook
      { env := .named "env", hook := true, out := some "hook" }) 1).get (by decide +kernel)

/-- The call, and the frame of the action that makes it. -/
def registeringCall : Request × List Frame := (registering.calling? .main).get (by decide +kernel)

/-- The call was passed on to the host. -/
def registeringPassedOn : Session := (registering.step .main).get (by decide +kernel)

/-- The host has answered. -/
def registeringAnswered : Session :=
  (registeringPassedOn.within? .main registeringCall.2 6).get (by decide +kernel)

/-- The host has returned its handle, and the addon gets it: the env is gone with the
multiplexer. -/
theorem handed_out_registering :
    ∃ host u',
      registering.Calls .main (.addAsyncCleanupHook 1 true 0 true) registeringCall.2 ∧
      StaysWithin .main registeringCall.2 registeringPassedOn registeringAnswered ∧
      registeringAnswered.step .main = some u' ∧
      registeringAnswered.RepliesWith .main (.forwardedHook host 1 true :: registeringCall.2)
        { status := .ok, out := some 0x8001 } ∧
      u'.RepliesWith .main registeringCall.2 { status := .ok, out := some 0x8001 } ∧
      u'.wrapped = registeringAnswered.wrapped := by
  have hreachable : registering.Reachable :=
    (Reachable.start [] none).during? (Option.some_get _).symm
  have hcall : registering.Calls .main (.addAsyncCleanupHook 1 true 0 true) registeringCall.2 := by
    refine calls_of_calling? (by decide +kernel) ((Option.some_get
      (by decide +kernel : (registering.calling? .main).isSome = true)).symm.trans ?_)
    rw [← Request.eq_of_registration? (by decide +kernel :
      registeringCall.1.registration? = some (1, true, 0, true))]
    rfl
  have hstep : registering.step .main = some registeringPassedOn := (Option.some_get _).symm
  have hwithin : StaysWithin .main registeringCall.2 registeringPassedOn registeringAnswered :=
    staysWithin_of_within? (Option.some_get _).symm
  obtain ⟨host, code, hpassed⟩ := hcall.exists_forwardedHook hstep hwithin.withinCall
  obtain ⟨control, above, hanswered⟩ := hwithin.exists_stack
    (hreachable.step .main (by decide +kernel) hstep) (isLast_forwardedHook ..) hpassed
  have hanswer : registeringAnswered.RepliesWith .main
      (.forwardedHook host 1 true :: registeringCall.2) { status := .ok, out := some 0x8001 } :=
    repliesWith_of_responding? hanswered (by decide +kernel)
  have hgone : registeringAnswered.wrapped.envs.entry? ⟨(1 : Word)⟩ = none :=
    Option.isNone_iff_eq_none.1 (by decide +kernel)
  have hback := step_give (by decide +kernel) hanswer
  have hgive := resume_forwardedHook_of_gone .main host
    { status := .ok, out := some 0x8001 } hgone
  rw [hgive] at hback
  have hreplies := threads_apply ((registeringAnswered.releaseHost host).give
    (.response { status := .ok, out := some 0x8001 })) .main registeringCall.2
  obtain ⟨-, hreturned⟩ := hreachable.handed_out (by decide +kernel) hcall hstep
  obtain ⟨-, hhook⟩ := hreturned _ _ _ hwithin hback hreplies rfl
  obtain ⟨host', answer, -, hleft⟩ := hhook _ _ _ rfl
  rw [hgone] at hleft
  exact ⟨host, _, hcall, hwithin, hback, hanswer, hreplies, hleft.2⟩

end Session

end AddonHost
