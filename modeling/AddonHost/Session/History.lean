import AddonHost.Session.State

/-!
What the journal tells.

The journal holds the latest event first; `Session.history` is the same in the order of time.  For
each threadsafe function it tells the items that were appended to its queue, those that were taken
off it, and those that the addon was handed (`appendedTo`, `takenFrom`, `deliveredFor`).  Each of
these grows at its end when an event is added, and an event of another kind leaves it alone
(`appendedTo_emit` and the like).  It also tells how many holders there were after each one that was
added or dropped (`acquisitions`, `releases`).
-/

namespace AddonHost

namespace Event

/-- The item that an event appends to a function. -/
def appendedTo? (f : HandleId) : Event → Option Word
  | appended g data => if g = f then some data else none
  | _ => none

/-- The item that an event takes off a function. -/
def takenFrom? (f : HandleId) : Event → Option Word
  | taken g data => if g = f then some data else none
  | _ => none

/-- The item of a function that an event hands to the addon. -/
def deliveredFor? (f : HandleId) : Event → Option Word
  | callJs g _ _ _ data => if g = f then some data else none
  | _ => none

/-- How many holders a function has after one was added. -/
def acquired? (f : HandleId) : Event → Option Word
  | acquired g count => if g = f then some count else none
  | _ => none

/-- How many holders a function has after one was dropped. -/
def released? (f : HandleId) : Event → Option Word
  | released g count => if g = f then some count else none
  | _ => none

theorem acquired?_eq_some {f : HandleId} {n : Word} {e : Event} :
    e.acquired? f = some n ↔ e = .acquired f n := by
  cases e <;> simp [acquired?]

theorem released?_eq_some {f : HandleId} {n : Word} {e : Event} :
    e.released? f = some n ↔ e = .released f n := by
  cases e <;> simp [released?]

end Event

namespace Session

/-- The events so far, in the order of time. -/
def history (s : Session) : List Event := s.journal.reverse

/-- The items that were appended to a function. -/
def appendedTo (s : Session) (f : HandleId) : List Word :=
  s.history.filterMap (Event.appendedTo? f)

/-- The items that were taken off a function. -/
def takenFrom (s : Session) (f : HandleId) : List Word :=
  s.history.filterMap (Event.takenFrom? f)

/-- The items of a function that the addon was handed. -/
def deliveredFor (s : Session) (f : HandleId) : List Word :=
  s.history.filterMap (Event.deliveredFor? f)

/-- How many holders a function had after each one that was added. -/
def acquisitions (s : Session) (f : HandleId) : List Word :=
  s.history.filterMap (Event.acquired? f)

/-- How many holders a function had after each one that was dropped. -/
def releases (s : Session) (f : HandleId) : List Word :=
  s.history.filterMap (Event.released? f)

theorem mem_acquisitions {s : Session} {f : HandleId} {n : Word} :
    n ∈ s.acquisitions f ↔ .acquired f n ∈ s.history := by
  simp [acquisitions, Event.acquired?_eq_some]

theorem mem_releases {s : Session} {f : HandleId} {n : Word} :
    n ∈ s.releases f ↔ .released f n ∈ s.history := by
  simp [releases, Event.released?_eq_some]

@[simp] theorem history_emit (s : Session) (e : Event) :
    (s.emit e).history = s.history ++ [e] := by
  simp [history, emit]

theorem appendedTo_emit (s : Session) (e : Event) (f : HandleId) :
    (s.emit e).appendedTo f = s.appendedTo f ++ (e.appendedTo? f).toList := by
  cases h : e.appendedTo? f <;> simp [appendedTo, h]

theorem takenFrom_emit (s : Session) (e : Event) (f : HandleId) :
    (s.emit e).takenFrom f = s.takenFrom f ++ (e.takenFrom? f).toList := by
  cases h : e.takenFrom? f <;> simp [takenFrom, h]

theorem deliveredFor_emit (s : Session) (e : Event) (f : HandleId) :
    (s.emit e).deliveredFor f = s.deliveredFor f ++ (e.deliveredFor? f).toList := by
  cases h : e.deliveredFor? f <;> simp [deliveredFor, h]

end Session

end AddonHost
