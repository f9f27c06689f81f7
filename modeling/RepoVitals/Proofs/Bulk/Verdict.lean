import RepoVitals.Proofs.Bulk.Course
/-!
Verdicts: how a write ends, and what that says about its parts.

Owns:
- what each verdict requires of the parts at the moment at which it is given;
- the permanence of settled parts and of verdicts;
- `completed_of_course`: a write that completed has no part that the deadline cut off;
- `panic_of_course`: parts panic only when one of their calls lands.
-/

namespace RepoVitals.Bulk

variable {σ : Type}

/-! ### Giving the verdict -/

namespace Partition

theorem isSettled_iff (part : Partition) :
    part.isSettled = true ↔
      part.progress = .finished ∨ part.progress = .panicked ∨ part.isAbandoned = true := by
  unfold isSettled isAbandoned
  cases part.progress <;> simp

theorem Shift.unsettled {writing : Writing} {part next : Partition}
    (shift : part.Shift writing next) : part.isSettled = false := by
  cases shift with
  | accepted waits unconcluded => simp [isSettled, waits]
  | taken queued => simp [isSettled, queued]
  | stopped ready late => simp [isSettled, ready]

theorem proceed_not_panicked (part : Partition) : part.proceed.progress ≠ .panicked := by
  rw [progress_proceed]
  split <;> simp

theorem Shift.not_panicked {writing : Writing} {part next : Partition}
    (shift : part.Shift writing next) : next.progress ≠ .panicked := by
  cases shift with
  | accepted waits unconcluded => simp
  | taken queued => exact part.proceed_not_panicked
  | stopped ready late => simp

end Partition

namespace Writing

variable {writing : Writing} {total : Tally} {outstanding : Nat}

/-- A write completes when every part is through or has panicked. -/
theorem completed_of_conclusionNow? (now : writing.conclusionNow? = some (.completed total)) :
    (∀ part ∈ writing.parts, part.progress = .finished ∨ part.progress = .panicked) ∧
      total = (writing.parts.map Partition.account).foldl Tally.add .zero := by
  simp only [conclusionNow?] at now
  split at now
  · rename_i settled
    split at now <;> cases now
    rename_i noneAbandoned
    refine ⟨fun part member => ?_, rfl⟩
    have notAbandoned := List.countP_eq_zero.mp (Nat.eq_zero_of_not_pos noneAbandoned) part member
    have isSettled := part.isSettled_iff.mp (List.all_eq_true.mp settled part member)
    exact isSettled.imp id fun ended => ended.resolve_right notAbandoned
  · split at now <;> cases now

/-- The deadline is noticed when all parts are settled and some were cut off, or by the clock when
some part is not settled yet. -/
theorem timedOut_of_conclusionNow? (now : writing.conclusionNow? = some (.timedOut outstanding)) :
    ((∀ part ∈ writing.parts, part.isSettled = true) ∧
        outstanding = writing.parts.countP Partition.isAbandoned ∧ 0 < outstanding) ∨
      ((∃ part ∈ writing.parts, part.isSettled = false) ∧
        writing.deadline ≤ writing.clock ∧
        outstanding = writing.parts.length - writing.parts.countP Partition.isFinished) := by
  simp only [conclusionNow?] at now
  split at now
  · rename_i settled
    split at now <;> cases now
    rename_i some
    exact .inl ⟨List.all_eq_true.mp settled, rfl, some⟩
  · rename_i unsettled
    split at now <;> cases now
    rename_i late
    refine .inr ⟨?_, of_decide_eq_true late, rfl⟩
    simpa using unsettled

end Writing

/-! ### Permanence -/

namespace Logged

variable {sink : Sink σ} {origin : Delivery σ} {before after logged : Logged σ}

theorem Moves.settled (moves : Moves sink before after) {position : Nat} {part : Partition}
    (found : before.writing.parts[position]? = some part) (settled : part.isSettled = true) :
    after.writing.parts[position]? = some part := by
  have put : ∀ {other : Nat} {busy next : Partition},
      before.writing.parts[other]? = some busy → busy.isSettled = false →
      (before.writing.put other next).parts[position]? = some part := by
    intro other busy next isThere unsettled
    rw [Writing.getElem?_put isThere, if_neg, found]
    intro here
    rw [here, isThere] at found
    cases found
    rw [settled] at unsettled
    cases unsettled
  cases moves with
  | shift other busy next isThere shift => exact put isThere shift.unsettled
  | dispatch other busy chunk flight state isThere ready early taken flies =>
    exact put isThere (by simp [Partition.isSettled, ready])
  | land call busy chunk landing state aloft isThere sending due lands =>
    exact put isThere (by simp [Partition.isSettled, sending])
  | cut other busy chunk isThere sending late =>
    exact put isThere (by simp [Partition.isSettled, sending])
  | pass nanoseconds waits may => exact found
  | conclude conclusion unconcluded now => exact found

theorem settled_of_course (course : Course sink before after) {position : Nat} {part : Partition}
    (found : before.writing.parts[position]? = some part) (settled : part.isSettled = true) :
    after.writing.parts[position]? = some part := by
  induction course with
  | refl => exact found
  | tail _ moves inductionHypothesis => exact moves.settled inductionHypothesis settled

theorem parts_of_allSettled (course : Course sink before after)
    (frame : Frame before.toDelivery after)
    (settled : ∀ part ∈ before.writing.parts, part.isSettled = true) :
    after.writing.parts = before.writing.parts := by
  have sameLength : after.writing.parts.length = before.writing.parts.length := by
    simpa using congrArg List.length frame.documents
  refine List.ext_getElem sameLength fun position inside inside' => ?_
  have kept := settled_of_course course (List.getElem?_eq_getElem inside')
    (settled _ (List.getElem_mem inside'))
  exact Option.some.inj ((List.getElem?_eq_getElem inside).symm.trans kept)

theorem frame_of_course (course : Course sink before after) : Frame before.toDelivery after := by
  induction course with
  | refl => exact ⟨rfl, rfl, rfl, rfl, rfl⟩
  | tail _ moves inductionHypothesis => exact inductionHypothesis.trans moves.frame

theorem Moves.conclusion (moves : Moves sink before after) {conclusion : Conclusion}
    (concluded : before.writing.conclusion = some conclusion) :
    after.writing.conclusion = some conclusion := by
  cases moves with
  | conclude other unconcluded now => simp [concluded] at unconcluded
  | _ => exact concluded

/-- Every verdict was given at some moment of the course. -/
theorem conclude_of_course (course : Course sink before after) {conclusion : Conclusion}
    (unconcluded : before.writing.conclusion = none)
    (concluded : after.writing.conclusion = some conclusion) :
    ∃ moment : Logged σ, Course sink before moment ∧ moment.writing.conclusion = none ∧
      moment.writing.conclusionNow? = some conclusion ∧
      Course sink { moment with
        writing := { moment.writing with conclusion := some conclusion } } after := by
  induction course with
  | refl =>
    rw [unconcluded] at concluded
    cases concluded
  | tail course moves inductionHypothesis =>
    rename_i middle final
    cases earlier : middle.writing.conclusion with
    | some other =>
      have same : other = conclusion :=
        Option.some.inj ((moves.conclusion earlier).symm.trans concluded)
      obtain ⟨moment, reached, undecided, now, later⟩ := inductionHypothesis (same ▸ earlier)
      exact ⟨moment, reached, undecided, now, later.tail moves⟩
    | none =>
      -- The verdict comes with this move.
      cases moves with
      | conclude given undecided now =>
        cases concluded
        exact ⟨middle, course, earlier, now, .refl⟩
      | _ => simp_all [Writing.put]

/-- **A write that completed has cut nothing off.** -/
theorem completed_of_course (course : Course sink before logged) {total : Tally}
    (unconcluded : before.writing.conclusion = none)
    (completed : logged.writing.conclusion = some (.completed total)) :
    (∀ part ∈ logged.writing.parts, part.progress = .finished ∨ part.progress = .panicked) ∧
      total = (logged.writing.parts.map Partition.account).foldl Tally.add .zero := by
  obtain ⟨moment, reached, undecided, now, later⟩ := conclude_of_course course unconcluded completed
  have verdict := Writing.completed_of_conclusionNow? now
  have settled : ∀ part ∈ moment.writing.parts, part.isSettled = true := by
    intro part member
    exact part.isSettled_iff.mpr ((verdict.1 part member).imp id .inl)
  rw [parts_of_allSettled later (frame_of_course later) settled]
  exact verdict

private theorem panicked_put {writing : Writing} {other position : Nat} {busy next part : Partition}
    (isThere : writing.parts[other]? = some busy) (notPanicked : next.progress ≠ .panicked)
    (found : (writing.put other next).parts[position]? = some part)
    (panicked : part.progress = .panicked) : writing.parts[position]? = some part := by
  rw [Writing.getElem?_put isThere] at found
  split at found
  · cases found
    exact absurd panicked notPanicked
  · exact found

theorem Moves.panicked (moves : Moves sink before after) {position : Nat} {part : Partition}
    (found : after.writing.parts[position]? = some part) (panicked : part.progress = .panicked) :
    before.writing.parts[position]? = some part ∨
      ∃ arrival ∈ after.arrivals, arrival.part = position ∧ arrival.landing = .panicked := by
  cases moves with
  | shift other busy next isThere shift =>
    exact .inl (panicked_put isThere shift.not_panicked found panicked)
  | dispatch other busy chunk flight state isThere ready early taken flies =>
    have notPanicked : (busy.dispatch before.writing.batchSize).progress ≠ .panicked := by
      simp [Partition.dispatch]
    exact .inl (panicked_put isThere notPanicked found panicked)
  | land call busy chunk landing state aloft isThere sending due lands =>
    cases landing with
    | answered outcome =>
      exact .inl (panicked_put isThere (Partition.proceed_not_panicked _) found panicked)
    | panicked =>
      rw [Writing.getElem?_put isThere] at found
      split at found
      · rename_i here
        exact .inr ⟨_, List.mem_append_right _ (List.mem_singleton.mpr rfl), here.symm, rfl⟩
      · exact .inl found
  | cut other busy chunk isThere sending late =>
    exact .inl (panicked_put isThere (by simp) found panicked)
  | pass nanoseconds waits may => exact .inl found
  | conclude conclusion unconcluded now => exact .inl found

theorem Moves.arrivals_subset (moves : Moves sink before after) :
    before.arrivals ⊆ after.arrivals := by
  cases moves with
  | land call busy chunk landing state aloft isThere sending due lands =>
    exact List.subset_append_left _ _
  | _ => exact List.Subset.refl _

/-- A part that has panicked did so when one of its calls landed. -/
theorem panic_of_course (fresh : origin.Fresh) (course : Course sink (new origin) logged)
    {position : Nat} {part : Partition} (found : logged.writing.parts[position]? = some part)
    (panicked : part.progress = .panicked) :
    ∃ arrival ∈ logged.arrivals, arrival.part = position ∧ arrival.landing = .panicked := by
  induction course with
  | refl =>
    rw [(fresh.parts part (List.mem_of_getElem? found)).2] at panicked
    cases panicked
  | tail _ moves inductionHypothesis =>
    rcases moves.panicked found panicked with earlier | now
    · obtain ⟨arrival, member, same⟩ := inductionHypothesis earlier
      exact ⟨arrival, moves.arrivals_subset member, same⟩
    · exact now

end Logged

/-! ### The outcome -/

namespace Writer

variable {options : WriteOptions} {delivery : Delivery σ}

theorem completed_of_outcomeOf {report : WriteReport}
    (succeeded : outcomeOf options delivery = .ok report) :
    ∃ total, delivery.writing.conclusion = some (.completed total) ∧
      report = {
        index := delivery.index
        documents := (delivery.writing.parts.flatMap Partition.documents).length
        partitions := delivery.writing.parts.length
        total := total
        elapsed := delivery.writing.clock } := by
  unfold outcomeOf at succeeded
  split at succeeded <;> cases succeeded
  rename_i total completed
  exact ⟨total, completed, rfl⟩

end Writer

end RepoVitals.Bulk
