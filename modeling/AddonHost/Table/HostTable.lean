import AddonHost.Table.Entry
import AddonHost.Text.Quoted

/-!
Host tables.

A `HostTable` says, for each entry, who provides it.  Laying one table over another takes each
entry from the upper table if it has it (`HostTable.overlay`).  The providers are the scripted
engines, the runtime, the forwarders to the injected table, and the forwarders of a multiplexer,
which are the same for every multiplexer.
-/

namespace AddonHost

/-- Who answers a call of an entry. -/
inductive Provider where
  /-- The engine with this number. -/
  | engine (slot : Nat)
  /-- The runtime's threadsafe functions and async work. -/
  | runtime
  /-- Whoever the injected table names at the time of the call. -/
  | injected
  /-- The host that owns the wrapped handle of the call. -/
  | multiplexer
  deriving DecidableEq, Repr, Inhabited

/-- Who provides each entry of a host, if anyone does. -/
structure HostTable where
  provider? : Entry → Option Provider := fun _ => none

instance : Inhabited HostTable := ⟨{}⟩

namespace HostTable

/-- The table without entries. -/
def empty : HostTable := {}

/-- A table with `upper` laid over it. -/
def overlay (base upper : HostTable) : HostTable where
  provider? entry := (upper.provider? entry).or (base.provider? entry)

/-- The entries of an engine, as far as they are among the given ones. -/
def ofEngine (slot : Nat) (entries : List Entry) : HostTable where
  provider? entry := if entries.contains entry then some (.engine slot) else none

/-- The entries of the runtime. -/
def runtime : HostTable where
  provider? entry := if entry.ofRuntime then some .runtime else none

/-- The forwarders to the injected table; the report of a fatal error is not among them, because it
does not return. -/
def forwarders : HostTable where
  provider? entry := if entry = .fatalError then none else some .injected

/-- The entries of a multiplexer.  Registration and fatal errors are not routed: each is an
engine's, or the multiplexer's own way to stop. -/
def ofMultiplexer (register fatal : Option Provider) : HostTable where
  provider? entry :=
    match entry with
    | .moduleRegister => some (register.getD .multiplexer)
    | .fatalError => some (fatal.getD .multiplexer)
    | _ => some .multiplexer

/-- How many entries are provided. -/
def provided (t : HostTable) : Nat := (Entry.all.filter fun e => (t.provider? e).isSome).length

/-- The names of the entries that are not provided. -/
def missing (t : HostTable) : List String :=
  (Entry.all.filter fun e => (t.provider? e).isNone).map Entry.name

/-- The description of a table. -/
def debugText (t : HostTable) : String :=
  "HostTable \x7b provided: " ++ Nat.repr t.provided ++ ", entries: " ++
    Nat.repr Entry.all.length ++ " \x7d"

/-- Whether an entry only forwards to the injected table. -/
def forwards (t : HostTable) (e : Entry) : Bool := t.provider? e == some .injected

theorem provider?_overlay (base upper : HostTable) (e : Entry) :
    (base.overlay upper).provider? e = (upper.provider? e).or (base.provider? e) := rfl

theorem overlay_empty (t : HostTable) : t.overlay empty = t := by
  simp [overlay, empty]

end HostTable

end AddonHost
