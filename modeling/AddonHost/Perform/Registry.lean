import AddonHost.Perform.Basic

/-!
Performing actions on registries, sources of ids, the log and the configuration.
-/

namespace AddonHost

namespace Session

/-- Do something with a registry. -/
def withRegistry (s : Session) (name : String) (act : Registry String → Move) : Move :=
  match s.names.registries.get? name with
  | none => s.refuse .unknownRegistry
  | some r => act r

/-- Replace a registry. -/
def setRegistry (s : Session) (name : String) (r : Registry String) : Session :=
  { s with names := { s.names with registries := s.names.registries.insert name r } }

/-- Insert a text into a registry, with its id at the end if asked to. -/
def registryInsert (s : Session) (name value out : String) (withId : Bool) : Move :=
  s.withRegistry name fun r =>
    let (id, s) := s.freshId
    let stored := if withId then value ++ id.text else value
    let s := (s.setRegistry name (r.insert id stored)).setVariable out id.value
    let s := { s with names := { s.names with stored := s.names.stored.insert out id } }
    s.reply (.registered id stored)

/-- The answer that shows an object of a registry. -/
def foundAnswer (s : Session) (r : Registry String) (id : HandleId) : Answer :=
  match r.get? id with
  | none => .nothing
  | some value => .found value (s.names.stored.any fun (_, stored) => stored.value == id.value)

/-- Remove an object from a registry. -/
def registryRemove (s : Session) (name : String) (id : Ref) : Move :=
  s.withRegistry name fun r =>
    let id : HandleId := ⟨s.value id⟩
    (s.setRegistry name (r.erase id)).reply (s.foundAnswer r id)

/-- Take ids from a source. -/
def takeIds (s : Session) (name : String) (count : Nat) : Move :=
  match s.names.idSources.get? name with
  | none => s.refuse .unknownIdSource
  | some source =>
    let (ids, source') := source.takeMany count
    { s with names := { s.names with idSources := s.names.idSources.insert name source' } }.reply
      (.ids ids source'.debugText)

/-- The settings of the logger, and the levels that it shows. -/
def logState (s : Session) : Move :=
  let g := s.logger.settle s.environment
  (s.setLogger g).reply (.logger g.level g.flush (Log.Level.all.filter g.passes))

/-- Install a configuration. -/
def configureAction (s : Session) (c : RuntimeConfig) : Move :=
  match s.configure c with
  | .error p => s.reply (.configProblem p)
  | .ok s => s.reply .done

end Session

end AddonHost
