import AddonHost.Perform.Function
import AddonHost.Perform.Host
import AddonHost.Perform.Invoker
import AddonHost.Perform.Registry

/-!
Performing actions.

`Session.perform` starts an action on a thread: the action is refused, answered, or carried on by a
piece of code with a frame that makes its answer.
-/

namespace AddonHost

namespace Session

/-- Start an action. -/
def perform (s : Session) (t : ThreadId) (a : Action) : Move :=
  match a with
  | .query q => s.reply (.query q)
  | .createInvoker name spec => s.createInvoker t name spec
  | .dropInvoker name => s.dropInvoker name
  | .bind env invoker | .attach env invoker => s.bind env invoker
  | .unbind env | .detach env => s.unbind env
  | .bound env =>
    let alive := (s.liveInvoker? (s.bindings.get? (s.value env))).isSome
    s.reply (.bound alive alive)
  | .submit invoker sync actions rejected =>
    s.withInvoker invoker fun i _ => (s.keepInvoker i).submit t i sync actions rejected
  | .spawnSubmit name invoker actions =>
    s.withInvoker invoker fun i _ =>
      (s.keepInvoker i).startProducer name (.submit i true actions .dropped)
  | .pump invoker goal => s.pumpNamed invoker goal
  | .hold invoker => s.holdThread t invoker
  | .unhold invoker => s.unholdThread invoker
  | .requestShutdown invoker =>
    s.withThread invoker fun i _ => (s.requestShutdown i).reply .done
  | .shutdown invoker => s.shutdownThread t invoker
  | .whereAmI invoker =>
    s.reply
      (.place ((s.findInvoker? invoker).map fun (i, inv) => inv.isOwn i t) (s.threadName? t))
  | .describeInvoker invoker => s.describeInvoker invoker
  | .fail => { session := s, control := .fail }
  | .createFunction args => s.createFunctionNamed args
  | .call func data mode =>
    s.withFound func fun f _ =>
      if mode = .blocking && s.callWouldWait f then s.refuse .wouldBlock
      else s.run (.call f (s.value data) mode) [.outcomeAnswer]
  | .spawnCall name func data mode =>
    s.withFound func fun f _ => s.startProducer name (.call f (s.value data) mode)
  | .acquire func => s.withFound func fun f fn => answerOutcome (s.acquire f fn)
  | .release func mode => s.withFound func fun f _ => s.run (.release f mode) [.outcomeAnswer]
  | .setReferenced func on => s.withFound func fun f _ => (s.setReferenced f on).reply .done
  | .functionContext func => s.withFound func fun _ fn => s.reply (.word fn.context)
  | .describeFunction func => s.withFound func fun f fn => s.reply (.text (fn.debugText f))
  | .functionState func =>
    s.withFound func fun f fn => s.reply (.functionState (s.viewFunction f fn))
  | .forgetFunction func =>
    let kept := (s.keptFunction? func).isSome
    let name := func.name?.getD ""
    { s with names := { s.names with functions := s.names.functions.erase name } }.reply
      (.flag kept)
  | .createJob name env data keep => s.createJobNamed name env data keep
  | .queueJob job env direct =>
    let env := s.value env
    s.onJob job direct (s.queueJob t · env) (s.queueJobById t · env)
  | .cancelJob job direct => s.onJob job direct s.cancelJob s.cancelJobById
  | .deleteJob job => answerOutcome (s.deleteJob ⟨s.value job⟩)
  | .describeJob job =>
    match s.findJob? job with
    | none => s.reply (.text "gone")
    | some (j, job) => s.reply (.text (job.debugText j))
  | .script target actions => s.addScript target actions
  | .createHost name slot entries overlays => s.createHost name slot entries overlays
  | .dropHost name => s.dropHost name
  | .describeTable name => s.withTable name fun table => s.reply (.table table)
  | .install name => s.install name
  | .countEntries => s.reply .entryCount
  | .inject name => s.inject name
  | .setEngine slot entry status mode =>
    let settings := s.engines.settings.insert (slot, entry) (status, mode)
    { s with engines := { s.engines with settings := settings } }.reply .done
  | .createMultiplexer name register fatal => s.createMultiplexer name register fatal
  | .dropMultiplexer name => s.dropMultiplexer name
  | .wrap multiplexer host env out => s.wrapEnv multiplexer host env out
  | .describeMultiplexer name =>
    match s.names.multiplexers.get? name with
    | none => s.refuse .gone
    | some m => s.reply (.multiplexer m.envs.length m.debugText)
  | .countLive => s.reply (.live s.liveCounts)
  | .fatal location message => s.fatalError location message
  | .entry table e args => s.callEntry table e args
  | .createRegistry name => (s.setRegistry name {}).reply .done
  | .registryInsert registry value out withId => s.registryInsert registry value out withId
  | .registryGet registry id =>
    s.withRegistry registry fun r => s.reply (s.foundAnswer r ⟨s.value id⟩)
  | .registryRemove registry id => s.registryRemove registry id
  | .registryContains registry id =>
    s.withRegistry registry fun r => s.reply (.flag (r.contains ⟨s.value id⟩))
  | .describeRegistry registry =>
    s.withRegistry registry fun r => s.reply (.registry r.size r.ids r.debugText)
  | .nextId =>
    let (id, s) := s.freshId
    s.reply (.word id.value)
  | .createIdSource name =>
    { s with names := { s.names with idSources := s.names.idSources.insert name {} } }.reply .done
  | .takeIds name count => s.takeIds name count
  | .log level message => (s.log level message).reply .done
  | .initLog => (s.setLogger (s.logger.settle s.environment)).reply .done
  | .setLogLevel level => (s.setLogger (s.logger.setLevel s.environment level)).reply .done
  | .setFlush on => (s.setLogger (s.logger.setFlush s.environment on)).reply .done
  | .dropSink => (s.setLogger { s.logger with capturing := false }).reply .done
  | .flushState =>
    let g := s.logger.settle s.environment
    (s.setLogger g).reply (.flag g.flush)
  | .logState => s.logState
  | .configure config => s.configureAction config
  | .readConfig =>
    let (c, s) := s.readConfig
    s.reply (.config c)
  | .refused _ reason => s.refuse reason

end Session

end AddonHost
