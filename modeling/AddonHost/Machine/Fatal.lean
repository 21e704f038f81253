import AddonHost.Machine.Move

/-!
The way to the end of the process.

A fatal error is logged, reported through the injected host if it has the entry, else on standard
error, and then the process is aborted.
-/

namespace AddonHost

namespace Session

/-- What a multiplexer without a handler of its own does with a fatal error: log it and print it. -/
def reportFatal (s : Session) (location message : RawText) : Session :=
  let line := fatalLine location.text message.text
  (s.log .error line).complain line

/-- Report a fatal error and abort. -/
def fatalError (s : Session) (location message : String) : Move :=
  let line := fatalLine location message
  let s := s.log .error line
  let raw := (RawText.ofString location, RawText.ofString message)
  match s.injected.provider? .fatalError with
  | some (.engine slot) => (s.emit (.engineFatal slot raw.1 raw.2)).abort
  | some .multiplexer => (s.reportFatal raw.1 raw.2).abort
  | _ => (s.complain line).abort

/-- The entry of a host that reports a fatal error. -/
def fatalEntry (s : Session) (p : Provider) (location message : RawText) : Move :=
  match p with
  | .engine slot => (s.emit (.engineFatal slot location message)).respond .ok
  | .multiplexer => (s.reportFatal location message).abort
  | .injected | .runtime => s.fatalError location.text message.text

/-- The entry of a host that registers a module. -/
def registerEntry (s : Session) (p : Provider) (moduleHandle : Word) : Move :=
  match p with
  | .engine slot => (s.emit (.engineRegister slot moduleHandle)).respond .ok
  | .multiplexer =>
    let line := Entry.moduleRegister.name ++ " is not implemented for this MultiHost"
    ((s.log .error line).complain line).abort
  | .injected =>
    match s.injected.provider? .moduleRegister with
    | some .injected => s.abort
    | some p => s.run (.register p moduleHandle)
    | none =>
      (s.log .error (Entry.moduleRegister.name ++ " is not provided by the injected host")).abort
  | .runtime => s.respond .genericFailure

end Session

end AddonHost
