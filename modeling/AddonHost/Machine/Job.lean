import AddonHost.Machine.Move

/-!
Steps of async work.

Queueing a job submits its task to the invoker bound to the given env (`Session.queueJob`).  The
task calls the execute step unless the job was cancelled, and then the complete step with the
status that tells which (`Session.work`, `Session.completeJob`).
-/

namespace AddonHost

/-- How diagnostics name a job. -/
def jobText (j : HandleId) : String := "async work " ++ j.text

namespace Session

/-- Register a job. -/
def createJob (s : Session) (env data : Word) : HandleId × Session :=
  let (id, s) := s.freshId
  let s := { s with jobs := s.jobs.insert id { env := env, data := data } }
  (id, s.log .debug (jobText id ++ " created"))

/-- Queue a job on the invoker bound to an env. -/
def queueJob (s : Session) (t : ThreadId) (j : HandleId) (env : Word) : Outcome × Session :=
  match s.jobs.object? j with
  | none => (.error .invalidArg, s)
  | some job =>
    match s.liveInvoker? (s.bindings.get? env) with
    | none =>
      (.error .noInvoker,
        s.log .warn
          ("no call invoker for env " ++ Word.pointer env ++ "; " ++ jobText j ++ " not queued"))
    | some (i, _) =>
      match job.dispatch with
      | .error e => (.error e, s)
      | .ok job' =>
        match (s.modifyJob j fun _ => job').offer t i false (.work j env) with
        | (.accepted, s) => (.ok (), s)
        | (_, s) =>
          (.error .noInvoker,
            (s.modifyJob j AsyncJob.retract).log .warn
              ("call invoker for env " ++ Word.pointer env ++ " rejected " ++ jobText j))

/-- Cancel a job. -/
def cancelJob (s : Session) (j : HandleId) : Outcome × Session :=
  match s.jobs.object? j with
  | none => (.error .invalidArg, s)
  | some job =>
    match job.cancel with
    | .error e => (.error e, s)
    | .ok (_, false) => (.ok (), s.emit (.jobCancelled j))
    | .ok (job', true) =>
      (.ok (),
        ((s.modifyJob j fun _ => job').emit (.jobCancelled j)).log .debug
          (jobText j ++ " cancelled"))

/-- Delete the job that a handle resolves to. -/
def deleteJob (s : Session) (j : HandleId) : Outcome × Session :=
  match s.jobs.find? j with
  | none => (.error .invalidArg, s)
  | some j =>
    (.ok (),
      ((({ s with jobs := s.jobs.erase j }).modifyJob j AsyncJob.delete).emit (.jobDeleted j)).log
        .debug (jobText j ++ " deleted"))

/-- Queue the job that a handle resolves to. -/
def queueJobById (s : Session) (t : ThreadId) (j : HandleId) (env : Word) : Outcome × Session :=
  match s.jobs.entry? j with
  | none => (.error .invalidArg, s)
  | some (j, _) => s.queueJob t j env

/-- Cancel the job that a handle resolves to. -/
def cancelJobById (s : Session) (j : HandleId) : Outcome × Session :=
  match s.jobs.entry? j with
  | none => (.error .invalidArg, s)
  | some (j, _) => s.cancelJob j

/-- Whether a job is registered or kept by the embedder. -/
def holdsJob (s : Session) (j : HandleId) : Bool :=
  s.jobs.owns j || s.names.jobs.any fun (_, kept) => kept = j

/-- Call the complete step. -/
def completeJob (s : Session) (j : HandleId) (job : AsyncJob) (env : Word) (status : Status) :
    Move :=
  let s := s.emit (.complete j env status job.data)
  let (actions, s) := s.fire (.complete job.data)
  s.run (.script .callback actions) [.completed j]

/-- The task of a job that was queued with an env. -/
def work (s : Session) (j : HandleId) (env : Word) : Move :=
  match s.jobs.object? j with
  | none => s.give .unit
  | some job =>
    let s := s.emit (.workStarted j)
    if !s.holdsJob j then (s.log .debug "async work deleted before it ran").give .unit
    else
      match job.state with
      | .deleted => (s.log .debug (jobText j ++ " deleted before it ran")).give .unit
      | .queued =>
        let s := s.emit (.execute j job.env job.data)
        let (actions, s) := s.fire (.execute job.data)
        s.run (.script .callback actions) [.executed j env]
      | _ => s.completeJob j job env .cancelled

/-- The execute step has returned. -/
def afterExecute (s : Session) (j : HandleId) (env : Word) : Move :=
  match s.jobs.object? j with
  | none => s.give .unit
  | some job => s.completeJob j job env .ok

end Session

end AddonHost
