import RepoVitals.Bulk.Shift
import RepoVitals.Proofs.Bulk.Runs
/-!
Shifts as runs.

Owns:
- `Shift.Leads`: what a shift does to its pool is a sequence of events;
- the rules for every part of a shift, and `exists_exec_of_run` for the whole.
-/

namespace RepoVitals.Bulk

variable {α : Type}

namespace Shift

variable {plans : List (JobPlan α)} {shift later : Shift α}

/-- What a shift does to its pool is a sequence of events. -/
def Leads (shift later : Shift α) : Prop := ∃ events, shift.pool.exec events = some later.pool

namespace Leads

theorem refl (shift : Shift α) : shift.Leads shift := ⟨[], rfl⟩

theorem trans {next : Shift α} (first : shift.Leads next) (second : next.Leads later) :
    shift.Leads later := by
  obtain ⟨events, run⟩ := first
  obtain ⟨others, rest⟩ := second
  exact ⟨events ++ others, by rw [Pool.exec_append, run]; exact rest⟩

theorem apply (shift : Shift α) (event : PoolEvent α) : shift.Leads (shift.apply event) := by
  cases steps : shift.pool.step event with
  | none => exact ⟨[], by simp [Shift.apply, steps, Pool.exec]⟩
  | some next => exact ⟨[event], by simp [Shift.apply, steps, Pool.exec]⟩

theorem foldl {β : Type} {next : Shift α → β → Shift α}
    (each : ∀ (shift : Shift α) (item : β), shift.Leads (next shift item))
    (items : List β) (shift : Shift α) : shift.Leads (items.foldl next shift) := by
  induction items generalizing shift with
  | nil => exact refl shift
  | cons item rest ih => exact (each shift item).trans (ih _)

theorem settle (limit : Nat) (shift : Shift α) : shift.Leads (shift.settle plans limit) := by
  induction limit generalizing shift with
  | zero => exact refl shift
  | succ limit ih =>
    rw [Shift.settle]
    split
    · rename_i job _ _
      have ended : shift.Leads (shift.finish plans job) := apply shift (endOf plans shift.pool job)
      exact ended.trans (ih _)
    · split
      · exact refl shift
      · split
        · rename_i job _ _ _ pool steps
          have started : shift.Leads ⟨pool, shift.clock,
              shift.due ++ [(job, shift.clock + (planOf plans job).duration)]⟩ :=
            ⟨[_], Option.bind_eq_some_iff.mpr ⟨pool, steps, rfl⟩⟩
          exact started.trans (ih _)
        · exact refl shift

theorem advance (limit : Nat) (shift : Shift α) : shift.Leads (shift.advance plans limit) := by
  rw [Shift.advance]
  split
  · exact refl shift
  · rename_i time _
    exact @settle _ plans limit { shift with clock := max shift.clock time }

theorem handIn (remaining : Nat) (shift : Shift α) :
    shift.Leads (Shift.handIn remaining shift).2 := by
  induction remaining generalizing shift with
  | zero => exact refl shift
  | succ remaining ih =>
    rw [Shift.handIn]
    split
    · exact (apply shift .accept).trans (ih _)
    · exact refl shift

theorem submit (limit rounds remaining : Nat) (shift : Shift α) :
    shift.Leads (shift.submit plans limit rounds remaining) := by
  induction rounds generalizing remaining shift with
  | zero => exact refl shift
  | succ rounds ih =>
    have handed := handIn remaining shift
    rw [Shift.submit]
    split
    · rename_i after same
      rwa [same] at handed
    · rename_i left after same
      rw [same] at handed
      refine handed.trans (.trans ?_ (ih _ _))
      dsimp only
      split
      · exact settle limit after
      · exact (settle limit after).trans (advance limit _)

theorem waitUntil (limit time rounds : Nat) (shift : Shift α) :
    shift.Leads (shift.waitUntil plans limit time rounds) := by
  induction rounds generalizing shift with
  | zero => exact refl shift
  | succ rounds ih =>
    rw [Shift.waitUntil]
    split
    · split
      · exact (advance limit shift).trans (ih _)
      · exact ⟨[], rfl⟩
    · exact ⟨[], rfl⟩

theorem drain (limit rounds : Nat) (shift : Shift α) :
    shift.Leads (shift.drain plans limit rounds) := by
  induction rounds generalizing shift with
  | zero => exact refl shift
  | succ rounds ih =>
    rw [Shift.drain]
    split
    · exact refl shift
    · exact (advance limit shift).trans (ih _)

theorem dissolve (shift : Shift α) : shift.Leads shift.dissolve := by
  refine (foldl (fun shift worker => ?_) _ shift).trans (foldl (fun _ _ => apply _ _) _ _)
  unfold dismiss
  split
  · exact apply _ _
  · exact apply _ _

end Leads

/-- The pool of every shift comes about by events of a pool of its size. -/
theorem exists_exec_of_run (size : Nat) (plans : List (JobPlan α)) (wait : Nat) (aborts : Bool) :
    ∃ events, (Pool.new size).exec events = some (run size plans wait aborts).pool := by
  let limit := 2 * plans.length + 1
  let submitted := (new size).submit plans limit limit plans.length
  have handed : (new size).Leads submitted := .submit limit limit plans.length _
  have waited : (new size).Leads (if wait = 0 then submitted else
      (submitted.settle plans limit).waitUntil plans limit (submitted.clock + wait) limit) := by
    split
    · exact handed
    · exact handed.trans ((Leads.settle limit _).trans (.waitUntil limit _ limit _))
  change (new size).Leads (run size plans wait aborts)
  rw [run]
  split
  · exact waited.trans ((Leads.apply _ .abort).trans (.dissolve _))
  · exact waited.trans ((Leads.apply _ .close).trans
      ((Leads.settle limit _).trans ((Leads.drain limit limit _).trans (.dissolve _))))

end Shift

end RepoVitals.Bulk
