import AddonHost.Proofs.Session.Sane

/-!
Failures are caught in time.

Only an embedder's task can fail, and whoever runs one catches the failure: the failure of a
callback aborts the process, and that of a submitted task ends at the pump, the loop or the embedder
below.  So a failure never passes a frame that is in the middle of something for a threadsafe
function or a job.  `Thread.Guarded` says so of a thread: what may fail is above a frame that
catches.
-/

namespace AddonHost

/-- Whether a failure that reaches the frames is caught before it reaches one that works for a
function or a job. -/
def caught : List Frame → Bool
  | [] => true
  | .performed .callback _ _ :: _ | .pumped .. :: _ | .looped _ :: _ | .submitted _ :: _
  | .ranRejected _ :: _ => true
  | .gotFunction .. :: _ | .gotReceiver .. :: _ | .drained .. :: _ | .finalized _ :: _
  | .unreferenced _ :: _ | .executed .. :: _ | .completed _ :: _ => false
  | _ :: below => caught below

/-- Whether control may become a failure. -/
def Control.mayFail : Control → Bool
  | .fail | .run (.perform _) | .run (.script .clientTask _) | .run (.task _ (.client _)) => true
  | _ => false

/-- Whether each submitted task among the frames is above a frame that catches its failure. -/
def guarded : List Frame → Bool
  | [] => true
  | .performed .clientTask _ _ :: below => caught below && guarded below
  | _ :: below => guarded below

/-- Whether what may fail on a thread is above a frame that catches the failure. -/
structure Thread.Guarded (th : Thread) : Prop where
  control : th.control.mayFail = true → caught th.stack = true
  stack : guarded th.stack = true

theorem Control.mayFail_of_isPlain {c : Control} (h : c.isPlain = true) : c.mayFail = false := by
  cases c with
  | run c =>
    cases c with
    | script owner actions => cases owner <;> simp_all [isPlain, mayFail, Code.isPlain]
    | task i task => cases task <;> simp_all [isPlain, mayFail, Code.isPlain]
    | _ => simp_all [isPlain, mayFail, Code.isPlain]
  | give r => rfl
  | fail => simp [isPlain] at h

theorem guarded_append {frames below : List Frame} (hf : frames.all Frame.isPlain = true)
    (hb : guarded below = true) : guarded (frames ++ below) = true := by
  induction frames with
  | nil => exact hb
  | cons fr frames ih =>
    simp only [List.all_cons, Bool.and_eq_true] at hf
    have ih := ih hf.2
    cases fr with
    | performed owner a rest => cases owner <;> simp_all [guarded, Frame.isPlain]
    | _ => simpa [guarded] using ih

theorem guarded_of_cons {fr : Frame} {below : List Frame} (h : guarded (fr :: below) = true) :
    guarded below = true := by
  cases fr with
  | performed owner a rest => cases owner <;> simp_all [guarded]
  | _ => simpa [guarded] using h

theorem Thread.Guarded.of_isPlain {th : Thread} (h : th.isPlain = true) : th.Guarded := by
  simp only [Thread.isPlain, Bool.and_eq_true] at h
  refine ⟨fun hm => ?_, ?_⟩
  · simp [Control.mayFail_of_isPlain h.1] at hm
  · have hguarded := guarded_append h.2 (rfl : guarded [] = true)
    rwa [List.append_nil] at hguarded

/-- A plain move does not fail, and what was guarded below stays so. -/
theorem Move.Plain.guarded {s : Session} {m : Move} {below : List Frame} (h : m.Plain s)
    (hb : guarded below = true) :
    Thread.Guarded { control := m.control, stack := m.frames ++ below } :=
  ⟨fun hm => by simp [Control.mayFail_of_isPlain h.control] at hm, guarded_append h.frames hb⟩

end AddonHost
