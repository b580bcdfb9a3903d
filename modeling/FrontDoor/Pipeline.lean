/-
Stages one after the other.

A stage looks at a state, may change it, and then passes on, answers or fails.  A pipeline runs
its stages in order until one answers or fails; the stages behind that one are not run.  The
state, the answers, the failures and what surrounds a run are parameters, so what is said of
pipelines holds for stages of every kind.
-/
namespace FrontDoor

/-- What a stage wants to happen next. -/
inductive Flow (ρ ε : Type)
  | next
  | respond (answer : ρ)
  | fail (failure : ε)
  deriving DecidableEq, Repr

/-- One step of a pipeline.  `ω` is what surrounds a run and no stage changes, `σ` the state. -/
structure Stage (ω σ ρ ε : Type) where
  name : String
  call : ω → σ → Flow ρ ε × σ

/-- How a run ends. -/
inductive Ending (ρ ε : Type)
  | responded (answer : ρ)
  /-- The stage of that name failed. -/
  | failed (stage : String) (failure : ε)
  /-- Every stage passed on. -/
  | exhausted
  deriving DecidableEq, Repr

/-- A run: how it ended, the state it left, and the names of the stages that were called. -/
structure Run (σ ρ ε : Type) where
  ending : Ending ρ ε
  state : σ
  called : List String

/-- Stages in order. -/
abbrev Pipeline (ω σ ρ ε : Type) := List (Stage ω σ ρ ε)

namespace Pipeline

variable {ω σ ρ ε : Type}

/-- The names of the stages. -/
def names (stages : Pipeline ω σ ρ ε) : List String :=
  stages.map (·.name)

/-- The pipeline with one more stage at its end. -/
def andThen (stages : Pipeline ω σ ρ ε) (stage : Stage ω σ ρ ε) : Pipeline ω σ ρ ε :=
  stages ++ [stage]

/-- Run the stages until one answers or fails. -/
def run (surroundings : ω) (state : σ) : Pipeline ω σ ρ ε → Run σ ρ ε
  | [] => ⟨.exhausted, state, []⟩
  | stage :: stages =>
    match stage.call surroundings state with
    | (.next, state) =>
      let r := run surroundings state stages
      { r with called := stage.name :: r.called }
    | (.respond answer, state) => ⟨.responded answer, state, [stage.name]⟩
    | (.fail failure, state) => ⟨.failed stage.name failure, state, [stage.name]⟩

end Pipeline

end FrontDoor
