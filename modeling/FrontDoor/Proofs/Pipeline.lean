/-
Where a run of a pipeline has been.

A run keeps the names of the stages it called, but not the states it called them in.  `visits` is
the list of those states, so that what holds whenever a certain stage is called can be said of an
element of it.

From each visit on a run is the run of the stages that are left (`run_of_visit`), so nothing that a
stage did is lost on the way to the next one.
-/
import FrontDoor.Pipeline

namespace FrontDoor

namespace Pipeline

variable {ω σ ρ ε : Type} {w : ω} {s t : σ}
variable {stage : Stage ω σ ρ ε} {stages : Pipeline ω σ ρ ε}

/-! ### One stage more -/

theorem run_cons_of_next (h : stage.call w s = (.next, t)) :
    run w s (stage :: stages) =
      { run w t stages with called := stage.name :: (run w t stages).called } := by
  rw [run, h]

theorem run_cons_of_respond {answer : ρ} (h : stage.call w s = (.respond answer, t)) :
    run w s (stage :: stages) = ⟨.responded answer, t, [stage.name]⟩ := by
  rw [run, h]

theorem run_cons_of_fail {failure : ε} (h : stage.call w s = (.fail failure, t)) :
    run w s (stage :: stages) = ⟨.failed stage.name failure, t, [stage.name]⟩ := by
  rw [run, h]

/-! ### The states of a run -/

/-- The states in which the stages are called, in order. -/
def visits (w : ω) (s : σ) : Pipeline ω σ ρ ε → List σ
  | [] => []
  | stage :: stages =>
    s ::
      match stage.call w s with
      | (.next, t) => visits w t stages
      | _ => []

theorem visits_cons_of_next (h : stage.call w s = (.next, t)) :
    visits w s (stage :: stages) = s :: visits w t stages := by
  rw [visits, h]

theorem visits_cons_of_respond {answer : ρ} (h : stage.call w s = (.respond answer, t)) :
    visits w s (stage :: stages) = [s] := by
  rw [visits, h]

theorem visits_cons_of_fail {failure : ε} (h : stage.call w s = (.fail failure, t)) :
    visits w s (stage :: stages) = [s] := by
  rw [visits, h]

theorem getElem?_visits_zero : (visits w s (stage :: stages))[0]? = some s := by
  rw [visits, List.getElem?_cons_zero]

/-- A stage that is not the first one is called where the stages in front of it pass on. -/
theorem getElem?_visits_succ {i : Nat} :
    (visits w s (stage :: stages))[i + 1]? = some t ↔
      ∃ u, stage.call w s = (.next, u) ∧ (visits w u stages)[i]? = some t := by
  rw [visits, List.getElem?_cons_succ]
  rcases h : stage.call w s with ⟨_ | _ | _, u⟩ <;> simp

/-- From each visit on, a run is the run of the stages that are left. -/
theorem run_of_visit {i : Nat} (h : (visits w s stages)[i]? = some t) :
    run w s stages =
      { run w t (stages.drop i) with
        called := (names stages).take i ++ (run w t (stages.drop i)).called } := by
  induction stages generalizing s i with
  | nil => simp [visits] at h
  | cons stage stages ih =>
      cases i with
      | zero =>
          rw [getElem?_visits_zero] at h
          obtain rfl := Option.some.inj h
          rfl
      | succ i =>
          obtain ⟨u, hcall, hvisit⟩ := getElem?_visits_succ.mp h
          rw [run_cons_of_next hcall, ih hvisit]
          rfl

end Pipeline

end FrontDoor
