import Mathlib
import AddonHost.Session.State

/-!
The multiplexers of a session.

A session shows of its multiplexers the envs that each of them has wrapped, and the wrapped handles
of all of them (`Multiplexers`).  `Multiplexers.Step` says what one step of a thread can do to them.
Wrapping an env, dropping a multiplexer and every part of a forwarded call are steps of their own: a
host may do anything between the reservation of a function and what follows from its answer.
-/

namespace AddonHost

/-- What a session shows of its multiplexers. -/
structure Multiplexers where
  wrapped : Wrapped
  owners : Assoc String MultiplexerHandle
  /-- The number that the next handle id takes. -/
  nextId : ℕ

namespace Multiplexers

/-- There are no multiplexers yet. -/
def initial : Multiplexers where
  wrapped := {}
  owners := []
  nextId := 1

/-- The envs that the multiplexer of a name has wrapped. -/
def envsOf (l : Multiplexers) (name : String) : List HandleId :=
  ((l.owners.get? name).map MultiplexerHandle.envs).getD []

/-- Erase the envs of the multiplexer of a name, and what was created through them. -/
def eraseEnvsOf (l : Multiplexers) (name : String) : Wrapped :=
  (l.envsOf name).foldl Wrapped.eraseEnv l.wrapped

/-- What one step of a thread does to the multiplexers. -/
inductive Step : Multiplexers → Multiplexers → Prop where
  /-- Something else happens. -/
  | aside {l : Multiplexers} {n : ℕ} (hn : l.nextId ≤ n) : Step l { l with nextId := n }
  /-- A multiplexer is created; the one that had its name is dropped. -/
  | create {l : Multiplexers} (name : String) (table : HostTable) :
    Step l { l with wrapped := l.eraseEnvsOf name, owners := l.owners.insert name { table := table } }
  /-- A multiplexer is dropped. -/
  | drop {l : Multiplexers} (name : String) :
    Step l { l with wrapped := l.eraseEnvsOf name, owners := l.owners.erase name }
  /-- An env is wrapped. -/
  | wrap {l : Multiplexers} {name : String} {m : MultiplexerHandle} (raw : Word) (host : HostId)
      (hm : l.owners.get? name = some m) :
    Step l
      { wrapped := l.wrapped.wrapEnv ⟨l.nextId⟩ raw host
        owners := l.owners.insert name { m with envs := m.envs ++ [⟨l.nextId⟩] }
        nextId := l.nextId + 1 }
  /-- A function is reserved through an env. -/
  | reserve {l : Multiplexers} {handle env : HandleId} {e : WrappedEnv}
      (he : l.wrapped.envs.entry? handle = some (env, e)) :
    Step l
      { l with
        wrapped := l.wrapped.reserveFunction ⟨l.nextId⟩ env e.host
        nextId := l.nextId + 1 }
  /-- A reserved function gets its raw handle. -/
  | bind {l : Multiplexers} (id : HandleId) (raw : Word) :
    Step l { l with wrapped := l.wrapped.bindFunction id raw }
  /-- A function is forgotten. -/
  | forgetFunction {l : Multiplexers} (id : HandleId) :
    Step l { l with wrapped := l.wrapped.eraseFunction id }
  /-- A cleanup hook is wrapped through an env. -/
  | wrapHook {l : Multiplexers} {handle env : HandleId} {e : WrappedEnv} (raw : Word)
      (he : l.wrapped.envs.entry? handle = some (env, e)) :
    Step l
      { l with
        wrapped := l.wrapped.wrapHook ⟨l.nextId⟩ env raw e.host
        nextId := l.nextId + 1 }
  /-- A cleanup hook is forgotten. -/
  | forgetHook {l : Multiplexers} (id : HandleId) :
    Step l { l with wrapped := l.wrapped.eraseHook id }

/-- What a run makes of the multiplexers. -/
inductive Run : Multiplexers → Prop where
  | initial : Run .initial
  | step {l l' : Multiplexers} : Run l → Step l l' → Run l'

end Multiplexers

/-- What a session shows of its multiplexers. -/
def Session.multiplexers (s : Session) : Multiplexers where
  wrapped := s.wrapped
  owners := s.names.multiplexers
  nextId := s.ids.next

end AddonHost
