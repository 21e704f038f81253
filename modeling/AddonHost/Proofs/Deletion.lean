import AddonHost.Proofs.Callbacks

/-!
What a job calls after it was deleted.

A deletion that finds the execute step of the job on its way does not stop the task: when the
execute step returns, the complete step is called, with the status `ok`.  In every other case
nothing of the job is called after its deletion, neither of its callbacks (`Run.ended`,
`Reachable.deletion`).  So the addon keeps the data of a job that it deletes in the execute step
until the complete step.
-/

namespace AddonHost

open JobMark (calls expected)

namespace JobLife

variable {j : HandleId} {l l' : JobLife} {doing doing' : Multiset Work} {own own' : List Work}

/-- After its deletion a job calls the complete step, if the deletion found it in the execute step,
and nothing otherwise. -/
def Ended (j : HandleId) (l : JobLife) (doing : Multiset Work) : Prop :=
  ∀ before after, l.marks j = before ++ .deleted :: after →
    calls before = [.execute] ∧ InExecute doing ∧ calls after = [] ∨
    calls before = [.execute] ∧ ¬InExecute doing ∧ calls after = [.complete .ok] ∨
    calls before ≠ [.execute] ∧ calls after = []

/-- A mark among old and new ones is among the old ones or among the new ones. -/
theorem mark_split {old new before after : List JobMark} {m : JobMark}
    (h : old ++ new = before ++ m :: after) :
    (∃ after', old = before ++ m :: after' ∧ after = after' ++ new) ∨
      ∃ before', new = before' ++ m :: after ∧ before = old ++ before' := by
  rcases List.append_eq_append_iff.1 h with ⟨before', hbefore, hnew⟩ | ⟨rest, hold, hrest⟩
  · exact .inr ⟨before', hnew, hbefore⟩
  · rcases List.cons_eq_append_iff.1 hrest with ⟨rfl, hnew⟩ | ⟨after', rfl, hafter⟩
    · exact .inr ⟨[], hnew, by simpa using hold.symm⟩
    · exact .inl ⟨after', hold, hafter⟩

/-- Marks that neither delete nor call anything leave the end of a job alone. -/
theorem Ended.append {marks : List JobMark} (h : Ended j l doing)
    (hmarks : l'.marks j = l.marks j ++ marks)
    (hquiet : ∀ m ∈ marks, m ≠ .deleted ∧ m.call? = none)
    (hdoing : InExecute doing' ↔ InExecute doing) : Ended j l' doing' := by
  intro before after hsplit
  rw [hmarks] at hsplit
  rcases mark_split hsplit with ⟨after', hold, rfl⟩ | ⟨before', rfl, -⟩
  · have hcalls : calls (after' ++ marks) = calls after' := by
      rw [JobMark.calls_append, JobMark.calls_eq_nil fun m hm => (hquiet m hm).2, List.append_nil]
    rw [hcalls, hdoing]
    exact h before after' hold
  · exact absurd rfl (hquiet .deleted (by simp)).1

/-- A job that was not deleted has no end yet. -/
theorem ended_of_not_deleted (h : .deleted ∉ l.marks j) : Ended j l doing :=
  fun before after hmarks => absurd (by simp [hmarks]) h

/-- A thread is in the execute step of a job exactly if that is all that the job has called. -/
theorem Run.inExecute_iff_calls (h : Run j l doing) :
    InExecute doing ↔ calls (l.marks j) = [.execute] := by
  by_cases hstarted : .started ∈ l.marks j
  · obtain ⟨before, after, hmarks⟩ := List.append_of_mem hstarted
    rcases h.calls_of_started hmarks with ⟨hin, -, hcalls⟩ | ⟨hout, hcalls⟩
    · exact iff_of_true hin hcalls
    · refine iff_of_false hout fun hone => ?_
      rcases hcalls with hcalls | ⟨hcalls, -⟩
      · rcases JobMark.expected_cases before with he | he | he <;> simp [he, hone] at hcalls
      · simp [hcalls] at hone
  · obtain ⟨hcalls, hout⟩ := h.calls_of_not_started hstarted
    exact iff_of_false hout (by simp [hcalls])

theorem Run.ended (h : Run j l doing) : Ended j l doing := by
  induction h with
  | unborn n => exact ended_of_not_deleted List.not_mem_nil
  | @step l l' own own' kept hr hs ih =>
    cases hs with
    | aside | displace => exact ih
    | absent own hl =>
      obtain ⟨stage, hstaged⟩ := hr.staged
      obtain ⟨-, hmarks⟩ := hstaged.absent hl
      exact ended_of_not_deleted (by simp [hmarks])
    | create env data hl hn =>
      exact ih
    | queue i hl hjob hsub =>
      refine ih.append (marks_tell ..) ?_ .rfl
      simp [Event.jobMark?, hsub, Task.workOf?, JobMark.call?]
    | cancel hl hjob =>
      exact ih.append (marks_tell ..) (by simp [Event.jobMark?, JobMark.call?]) .rfl
    | delete hregistered =>
      intro before after hsplit
      have hmarks : l.marks j ++ [.deleted] = before ++ .deleted :: after := by
        rw [← hsplit, marks_tell, marks_mk]
        simp [Event.jobMark?]
      rcases mark_split hmarks with ⟨after', hold, rfl⟩ | ⟨before', hnew, rfl⟩
      · have hcalls : calls (after' ++ [.deleted]) = calls after' := by
          rw [JobMark.calls_append]
          exact List.append_nil _
        rw [hcalls]
        exact ih before after' hold
      · -- this is the deletion that takes place now
        obtain ⟨rfl, rfl⟩ : before' = [] ∧ after = [] := by
          cases before' <;> simp_all
        have hin := hr.inExecute_iff_calls
        simp only [List.append_nil, JobMark.calls_nil]
        tauto
    | start i hq =>
      refine ih.append (List.append_nil _).symm (by simp) ?_
      simp [InExecute]
    | discard i hsubs =>
      refine ih.append (marks_tell ..) (fun m hm => ?_) .rfl
      rw [filterMap_discarded] at hm
      obtain ⟨-, -, rfl⟩ := List.mem_map.1 hm
      exact ⟨by simp, rfl⟩
    | ignore hl hgone =>
      refine ih.append (marks_tell ..) (by simp [Event.jobMark?, JobMark.call?]) ?_
      simp [InExecute]
    | @execute job env hl hstate =>
      have hnot : .deleted ∉ l.marks j := by simp [← hr.stated.deleted job hl, hstate]
      exact ended_of_not_deleted (by simp [hnot, Event.jobMark?])
    | @skipExecute job env hl hqueued hdeleted =>
      have hnot : .deleted ∉ l.marks j := by simp [← hr.stated.deleted job hl, hdeleted]
      exact ended_of_not_deleted (by simp [hnot, Event.jobMark?])
    | @complete job env hl =>
      have hin : InExecute (([.executing env] : List Work) + kept : Multiset Work) :=
        ⟨env, by simp⟩
      obtain ⟨stage, hstaged⟩ := hr.staged
      obtain ⟨rfl, -⟩ := JobStage.eq_of_work hstaged.doing
      have hout : ¬InExecute (([.completing] : List Work) + 0 : Multiset Work) := by
        simp [InExecute]
      intro before after hsplit
      have hmarks : l.marks j ++ [.called (.complete .ok)] = before ++ .deleted :: after := by
        rw [← hsplit, marks_tell]
        simp [Event.jobMark?]
      rcases mark_split hmarks with ⟨after', hold, rfl⟩ | ⟨before', hnew, -⟩
      · -- all that the job has called so far is the execute step
        have hone := hr.inExecute_iff_calls.1 hin
        rw [hold, JobMark.calls_append] at hone
        rcases ih before after' hold with ⟨hbefore, -, hafter⟩ | ⟨-, hnot, -⟩ | ⟨hne, hafter⟩
        · exact .inr (.inl ⟨hbefore, hout, by rw [JobMark.calls_append, hafter]; rfl⟩)
        · exact absurd hin hnot
        · have hnone : calls (.deleted :: after') = [] := hafter
          exact absurd (by simpa [hnone] using hone) hne
      · cases before' <;> simp_all
    | finish hl =>
      refine ih.append (List.append_nil _).symm (by simp) ?_
      simp [InExecute]

end JobLife

namespace Session

variable {s : Session} {j : HandleId}

/-- What a job calls after its deletion. -/
theorem Reachable.deletion (h : s.Reachable) {before after : List JobMark}
    (hmarks : s.jobMarks j = before ++ .deleted :: after) :
    calls before = [.execute] ∧ s.IsExecuting j ∧ calls after = [] ∨
    calls before = [.execute] ∧ ¬s.IsExecuting j ∧ calls after = [.complete .ok] ∨
    calls before ≠ [.execute] ∧ calls after = [] := by
  rw [← inExecute_iff]
  exact (h.jobRun j).ended before after ((marks_jobLife s j).trans hmarks)

/-- A session in which a job is deleted by its own execute step. -/
def deletedInExecute : Session :=
  ((start [] none).performed?
    [.createInvoker "queue" .unlimited,
      .bind (.word 1) "queue",
      .createJob "job" (.word 1) (.word 5) true,
      .script (.execute (.word 5)) [.deleteJob (.named "job")],
      .queueJob (.named "job") (.word 1) false,
      .pump "queue" .one]).get (by decide +kernel)

theorem deletion_deletedInExecute :
    ¬deletedInExecute.IsExecuting ⟨1⟩ ∧
      calls [.called (.complete .ok)] = [.complete .ok] := by
  have hreachable : deletedInExecute.Reachable :=
    (Reachable.start [] none).performed? (Option.some_get _).symm
  have hmarks : deletedInExecute.jobMarks ⟨1⟩
      = [.accepted, .started, .called .execute] ++ .deleted :: [.called (.complete .ok)] := by
    decide +kernel
  rcases hreachable.deletion hmarks with ⟨-, -, hnone⟩ | ⟨-, hnot, hcalls⟩ | ⟨hne, -⟩
  · exact absurd hnone (by decide)
  · exact ⟨hnot, hcalls⟩
  · exact absurd rfl hne

/-- The complete step of the job starts after the job was deleted. -/
theorem called_after_deletion :
    deletedInExecute.Reachable ∧ ∃ before after,
      deletedInExecute.jobMarks ⟨1⟩ = before ++ .deleted :: after ∧
        .complete .ok ∈ calls after :=
  ⟨(Reachable.start [] none).performed? (Option.some_get _).symm,
    [.accepted, .started, .called .execute], [.called (.complete .ok)], by decide +kernel,
    by decide⟩

end Session

end AddonHost
