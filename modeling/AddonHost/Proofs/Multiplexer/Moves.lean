import AddonHost.Proofs.Session.Does

/-!
The moves of multiplexers.

A multiplexer is created and dropped, wraps envs, and forwards calls.  Of a forwarded call three
moves may change the wrapped handles: the one that passes it on, the one that follows the host's
answer, and the end of a finalizer that the multiplexer has put around the addon's.  Each is one
step of the multiplexers.
-/

namespace AddonHost

/-- What a move does that concerns the multiplexers alone. -/
theorem Move.Does.of_route {s : Session} {t : ThreadId} {below : List Frame} {m : Move}
    (hs : s.Sane) (hb : AddonHost.guarded below = true)
    (h : Session.Follows (.multiplexers ≠ ·) s m.session) (hcontrol : m.control.isPlain = true)
    (hframes : m.frames.all Frame.isPlain = true)
    (hroute : Multiplexers.Step s.multiplexers m.session.multiplexers) :
    m.Does s t below fun _ => [] := by
  have hplain : m.Plain m.session := ⟨.refl _, hcontrol, hframes⟩
  exact .of_follows hs h (hplain.guarded hb) (asksWell_of_isPlain _ hframes)
    (fun f => .inl ⟨by simp, (hplain.activities f t below).symm⟩)
    (fun j => .inl ⟨by simp, (hplain.works j).symm⟩) (.inr hroute)

namespace Session

variable {s s' : Session} {t : ThreadId} {below : List Frame}

@[simp] theorem multiplexers_log (s : Session) (level : Log.Level) (text : String) :
    (s.log level text).multiplexers = s.multiplexers := by
  simp only [log]
  split_ifs <;> rfl

@[simp] theorem multiplexers_setVariable (s : Session) (name : String) (w : Word) :
    (s.setVariable name w).multiplexers = s.multiplexers := rfl

@[simp] theorem multiplexers_keepHost (s : Session) (h : HostId) :
    (s.keepHost h).multiplexers = s.multiplexers := rfl

@[simp] theorem multiplexers_releaseHost (s : Session) (h : HostId) :
    (s.releaseHost h).multiplexers = s.multiplexers := rfl

/-- A change of wrapped handles, after which the thread gives a reply. -/
theorem give_does_route (hs : s.Sane) (hb : guarded below = true)
    (h : Follows (.multiplexers ≠ ·) s s')
    (hroute : Multiplexers.Step s.multiplexers s'.multiplexers) (r : Reply) :
    (s'.give r).Does s t below fun _ => [] :=
  .of_route hs hb h rfl rfl hroute

/-! ### Multiplexers and envs -/

theorem createMultiplexer_does (hs : s.Sane) (hb : guarded below = true) (name : String)
    (register fatal : Bool) :
    (s.createMultiplexer name register fatal).Does s t below fun _ => [] := by
  simp only [createMultiplexer, eraseEnvs]
  have hstep := Multiplexers.Step.create (l := s.multiplexers) name
    (.ofMultiplexer (if register = true then some (.engine multiplexerSlot) else none)
      (if fatal = true then some (.engine multiplexerSlot) else none))
  split
  · next hold =>
    have hnone : s.multiplexers.eraseEnvsOf name = s.wrapped := by
      simp [Multiplexers.eraseEnvsOf, Multiplexers.envsOf, multiplexers, hold]
    rw [hnone] at hstep
    refine give_does_route hs hb ?_ ?_ _
    · exact (follows_multiplexers (by simp) _ _).2 (.refl s)
    · exact hstep
  · next m hold =>
    have hsome : s.multiplexers.eraseEnvsOf name = m.envs.foldl Wrapped.eraseEnv s.wrapped := by
      simp [Multiplexers.eraseEnvsOf, Multiplexers.envsOf, multiplexers, hold]
    rw [hsome] at hstep
    refine give_does_route hs hb ?_ ?_ _
    · exact (follows_multiplexers (by simp) _ _).2 (.refl s)
    · exact hstep

theorem dropMultiplexer_does (hs : s.Sane) (hb : guarded below = true) (name : String) :
    (s.dropMultiplexer name).Does s t below fun _ => [] := by
  simp only [dropMultiplexer, eraseEnvs]
  split
  · exact (plain_reply _).2 (.refl s) |>.does hs hb
  · next m hm =>
    have hsome : s.multiplexers.eraseEnvsOf name = m.envs.foldl Wrapped.eraseEnv s.wrapped := by
      simp [Multiplexers.eraseEnvsOf, Multiplexers.envsOf, multiplexers, hm]
    have hstep := Multiplexers.Step.drop (l := s.multiplexers) name
    rw [hsome] at hstep
    refine give_does_route hs hb ?_ ?_ _
    · exact (follows_multiplexers (by simp) _ _).2 (.refl s)
    · exact hstep

theorem wrapEnv_does (hs : s.Sane) (hb : guarded below = true) (multiplexer host : String)
    (env : Ref) (out : String) : (s.wrapEnv multiplexer host env out).Does s t below fun _ => [] := by
  unfold wrapEnv
  split
  · next m h hm hh =>
    simp only [freshId, IdSource.take]
    refine give_does_route hs hb ?_ ?_ _
    · rw [follows_setVariable, follows_log]
      exact (follows_multiplexers (by simp) _ _).2 (Follows.refl s).freshId
    · rw [multiplexers_setVariable, multiplexers_log]
      exact .wrap (l := s.multiplexers) (s.value env) h hm
  · exact (plain_refuse _).2 (.refl s) |>.does hs hb

/-! ### Forwarded calls -/

theorem forwardCreate_does (hs : s.Sane) (hb : guarded below = true) (env : Word)
    (spec : FunctionSpec) (d : Destination) (p : Provider) :
    (s.forwardCreate env spec d p).Does s t below fun _ => [] := by
  unfold forwardCreate
  split
  · exact (plain_respond _).2 (by simp) |>.does hs hb
  · next owner e he =>
    simp only [freshId, IdSource.take]
    refine .of_route hs hb ?_ rfl rfl ?_
    · rw [session_run, follows_keepHost]
      exact (follows_multiplexers (by simp) _ _).2 (Follows.refl s).freshId
    · exact .reserve (l := s.multiplexers) he

theorem forward_does (hs : s.Sane) (hb : guarded below = true) (r : Request) :
    (s.forward r).Does s t below fun _ => [] := by
  by_cases hr : r.touchesTopic .multiplexer = true
  · cases r with
    | createThreadsafeFunction env spec out =>
      unfold forward
      split
      · exact (plain_respond _).2 (.refl s) |>.does hs hb
      · split
        · exact (plain_respond _).2 (by simp) |>.does hs hb
        · split
          · exact (plain_respond _).2 (by simp) |>.does hs hb
          · exact forwardCreate_does hs hb ..
    | _ => simp [Request.touchesTopic] at hr
  · exact (plain_forward (by simpa using hr)).does hs hb

theorem afterForwardCreate_does (hs : s.Sane) (hb : guarded below = true) (host : HostId)
    (id : HandleId) (r : Response) :
    (s.afterForwardCreate host id r).Does s t below fun _ => [] := by
  have hfollows (wrapped : Wrapped) : Follows (.multiplexers ≠ ·) s
      { s.releaseHost host with wrapped } :=
    (follows_multiplexers (by simp) wrapped _).2 (by simp)
  unfold afterForwardCreate
  simp only
  split
  · exact give_does_route hs hb (hfollows _) (.bind (l := s.multiplexers) id _) _
  · exact give_does_route hs hb (hfollows _) (.forgetFunction (l := s.multiplexers) id) _

theorem afterForwardHook_does (hs : s.Sane) (hb : guarded below = true) (host : HostId)
    (env : Word) (out : Bool) (r : Response) :
    (s.afterForwardHook host env out r).Does s t below fun _ => [] := by
  have hhost : Unconcerned s (s.releaseHost host) := by simp
  unfold afterForwardHook
  simp only
  split
  · split
    · exact (plain_give _).2 hhost |>.does hs hb
    · next owner e he =>
      simp only [freshId, IdSource.take]
      refine give_does_route hs hb ?_ ?_ _
      · exact (follows_multiplexers (by simp) _ _).2 (hhost.weaken fun _ _ => trivial).freshId
      · exact .wrapHook (l := s.multiplexers) _ he
  · exact (plain_give _).2 hhost |>.does hs hb

theorem afterForwardUnhook_does (hs : s.Sane) (hb : guarded below = true) (host : HostId)
    (handle : Word) (r : Response) :
    (s.afterForwardUnhook host handle r).Does s t below fun _ => [] := by
  have hhost : Unconcerned s (s.releaseHost host) := by simp
  unfold afterForwardUnhook
  simp only
  split
  · refine give_does_route hs hb ?_ ?_ _
    · exact (follows_multiplexers (by simp) _ _).2 (hhost.weaken fun _ _ => trivial)
    · exact .forgetHook (l := s.multiplexers) ⟨handle⟩
  · exact (plain_give _).2 hhost |>.does hs hb

/-- The finalizer that a multiplexer has put around the addon's is over. -/
theorem unwrapped_does (hs : s.Sane) (hb : guarded below = true) (handle : HandleId) :
    ({ s with wrapped := s.wrapped.eraseFunction handle }.give .unit).Does s t below fun _ => [] :=
  give_does_route hs hb ((follows_multiplexers (by simp) _ _).2 (.refl s))
    (.forgetFunction (l := s.multiplexers) handle) _

end Session

end AddonHost
