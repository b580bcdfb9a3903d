/-
A pipeline in two parts.

A run keeps the names of the stages it called and its last state, which does not tell that a stage
was called once only, or in which state.  So the stages are made to note their own calls
(`Stage.noting`), and `calls` is what a run of such stages has noted.  A run with notes is the run
without them beside what was noted (`run_noting`).

`Passes` and `Stops` say how stages behave without mentioning a run: they pass on from one state
to another, or they do so up to a stage that does not pass on.  Always one of the two is the case
(`passes_or_stops`), and each settles what is called and how a run goes on (`run_append`,
`run_of_stops`).  What is to be said of all that a run does is said of its calls, one by one
(`run_induction`).
-/
import FrontDoor.Gateway.Dispatch
import FrontDoor.Proofs.Pipeline

namespace FrontDoor

open Http

/-- The stage, noting in front of its work that it is called and in which state. -/
def Stage.noting {ω σ ρ ε : Type} (stage : Stage ω σ ρ ε) :
    Stage ω (σ × List (Stage ω σ ρ ε × σ)) ρ ε where
  name := stage.name
  call w s := ((stage.call w s.1).1, (stage.call w s.1).2, s.2 ++ [(stage, s.1)])

namespace Pipeline

variable {ω σ ρ ε : Type} {w : ω} {s t u : σ}
variable {stage : Stage ω σ ρ ε} {stages front xs : Pipeline ω σ ρ ε}

/-- The stages that a run calls, each with the state in which it is called, in order. -/
def calls (w : ω) (s : σ) (stages : Pipeline ω σ ρ ε) : List (Stage ω σ ρ ε × σ) :=
  (run w (s, []) (stages.map Stage.noting)).state.2

/-- The stages pass on one after the other, from the one state to the other. -/
inductive Passes (w : ω) : σ → Pipeline ω σ ρ ε → σ → Prop
  | nil {s : σ} : Passes w s [] s
  | cons {s t u : σ} {stage : Stage ω σ ρ ε} {stages : Pipeline ω σ ρ ε}
      (call : stage.call w s = (.next, t)) (rest : Passes w t stages u) :
      Passes w s (stage :: stages) u

/-- The stages in front pass on, and the stage behind them, called in the state they lead to, does
not. -/
structure Stops (w : ω) (s : σ) (front : Pipeline ω σ ρ ε) (stage : Stage ω σ ρ ε) (t : σ) :
    Prop where
  passes : Passes w s front t
  stops : (stage.call w t).1 ≠ .next

/-! ### What is called -/

/-- A run with notes is the run without them, and notes the visits. -/
theorem run_noting (stages : Pipeline ω σ ρ ε) (w : ω) (s : σ)
    (noted : List (Stage ω σ ρ ε × σ)) :
    run w (s, noted) (stages.map Stage.noting) =
      ⟨(run w s stages).ending,
        ((run w s stages).state, noted ++ stages.zip (visits w s stages)),
        (run w s stages).called⟩ := by
  induction stages generalizing s noted with
  | nil => simp [run]
  | cons stage stages ih =>
      rw [List.map_cons]
      rcases h : stage.call w s with ⟨_ | answer | failure, t⟩
      · have hnoting : stage.noting.call w (s, noted) = (.next, t, noted ++ [(stage, s)]) := by
          simp [Stage.noting, h]
        rw [run_cons_of_next hnoting, ih, run_cons_of_next h, visits_cons_of_next h]
        simp [Stage.noting]
      · have hnoting : stage.noting.call w (s, noted) =
            (.respond answer, t, noted ++ [(stage, s)]) := by
          simp [Stage.noting, h]
        rw [run_cons_of_respond hnoting, run_cons_of_respond h, visits_cons_of_respond h]
        simp [Stage.noting]
      · have hnoting : stage.noting.call w (s, noted) =
            (.fail failure, t, noted ++ [(stage, s)]) := by
          simp [Stage.noting, h]
        rw [run_cons_of_fail hnoting, run_cons_of_fail h, visits_cons_of_fail h]
        simp [Stage.noting]

theorem calls_eq_zip (w : ω) (s : σ) (stages : Pipeline ω σ ρ ε) :
    calls w s stages = stages.zip (visits w s stages) := by
  simp [calls, run_noting]

theorem calls_cons_of_next (h : stage.call w s = (.next, t)) :
    calls w s (stage :: stages) = (stage, s) :: calls w t stages := by
  rw [calls_eq_zip, calls_eq_zip, visits_cons_of_next h, List.zip_cons_cons]

theorem calls_cons_of_not_next (h : (stage.call w s).1 ≠ .next) :
    calls w s (stage :: stages) = [(stage, s)] := by
  rw [calls_eq_zip]
  rcases hcall : stage.call w s with ⟨_ | answer | failure, t⟩
  · rw [hcall] at h
    exact absurd rfl h
  · rw [visits_cons_of_respond hcall, List.zip_cons_cons, List.zip_nil_right]
  · rw [visits_cons_of_fail hcall, List.zip_cons_cons, List.zip_nil_right]

theorem calls_singleton : calls w s [stage] = [(stage, s)] := by
  rw [calls_eq_zip, visits]
  rfl

/-- What every call does, and what is so over two stretches together when it is over each of them,
is so over a run. -/
theorem run_induction {P : σ → List (Stage ω σ ρ ε × σ) → σ → Prop} (hnil : ∀ s, P s [] s)
    (hcall : ∀ stage ∈ stages, ∀ s, P s [(stage, s)] (stage.call w s).2)
    (happend : ∀ s made t more u, P s made t → P t more u → P s (made ++ more) u) (s : σ) :
    P s (calls w s stages) (run w s stages).state := by
  induction stages generalizing s with
  | nil => exact hnil s
  | cons stage stages ih =>
      obtain ⟨hfirst, hrest⟩ := List.forall_mem_cons.mp hcall
      have hstage := hfirst s
      rcases h : stage.call w s with ⟨_ | answer | failure, t⟩
      · rw [h] at hstage
        rw [calls_cons_of_next h, run_cons_of_next h]
        exact happend _ _ _ _ _ hstage (ih hrest t)
      · rw [h] at hstage
        rw [calls_cons_of_not_next (by simp [h]), run_cons_of_respond h]
        exact hstage
      · rw [h] at hstage
        rw [calls_cons_of_not_next (by simp [h]), run_cons_of_fail h]
        exact hstage

/-! ### Passing on -/

/-- Stages that pass on are all called, each of them once and in order. -/
theorem called_of_passes (h : Passes w s stages t) : (calls w s stages).map (·.1) = stages := by
  induction h with
  | nil => rfl
  | cons call rest ih => rw [calls_cons_of_next call, List.map_cons, ih]

theorem calls_append (h : Passes w s xs t) (ys : Pipeline ω σ ρ ε) :
    calls w s (xs ++ ys) = calls w s xs ++ calls w t ys := by
  induction h with
  | nil => rfl
  | cons call rest ih =>
      rw [List.cons_append, calls_cons_of_next call, calls_cons_of_next call, ih]
      rfl

/-- Behind stages that pass on, the run is that of what follows them. -/
theorem run_append (h : Passes w s xs t) (ys : Pipeline ω σ ρ ε) :
    run w s (xs ++ ys) =
      { run w t ys with called := names xs ++ (run w t ys).called } := by
  induction h with
  | nil => rfl
  | cons call rest ih =>
      rw [List.cons_append, run_cons_of_next call, ih]
      rfl

theorem ending_of_passes (h : Passes w s stages t) : (run w s stages).ending = .exhausted := by
  have hrun := run_append h []
  rw [List.append_nil] at hrun
  rw [hrun]
  rfl

theorem state_of_passes (h : Passes w s stages t) : (run w s stages).state = t := by
  have hrun := run_append h []
  rw [List.append_nil] at hrun
  rw [hrun]
  rfl

theorem passes_of_visit {i : Nat} (h : (visits w s stages)[i]? = some t) :
    Passes w s (stages.take i) t := by
  induction stages generalizing s i with
  | nil => simp [visits] at h
  | cons stage stages ih =>
      cases i with
      | zero =>
          rw [getElem?_visits_zero] at h
          obtain rfl := Option.some.inj h
          exact .nil
      | succ i =>
          obtain ⟨u, hcall, hvisit⟩ := getElem?_visits_succ.mp h
          exact .cons hcall (ih hvisit)

/-- A stage is called in the state that the stages in front of it lead to. -/
theorem passes_of_call {i : Nat} (h : (calls w s stages)[i]? = some (stage, t)) :
    Passes w s (stages.take i) t ∧ stages[i]? = some stage := by
  rw [calls_eq_zip, List.getElem?_zip_eq_some] at h
  exact ⟨passes_of_visit h.2, h.1⟩

/-- The calls in front of a call are those of the stages in front. -/
theorem calls_take {i : Nat} (h : (calls w s stages)[i]? = some (stage, t)) :
    calls w s (stages.take i) = (calls w s stages).take i := by
  obtain ⟨hpasses, hstage⟩ := passes_of_call h
  have hlength : (calls w s (stages.take i)).length = i := by
    have hcalled := congrArg List.length (called_of_passes hpasses)
    have hi : i < stages.length := (List.getElem?_eq_some_iff.mp hstage).1
    rw [List.length_map, List.length_take] at hcalled
    omega
  have hparts := calls_append hpasses (stages.drop i)
  rw [List.take_append_drop] at hparts
  rw [hparts, List.take_left' hlength]

/-! ### Stopping -/

/-- Nothing behind a stage that does not pass on is called. -/
theorem calls_of_stops (h : Stops w s front stage t) (behind : Pipeline ω σ ρ ε) :
    calls w s (front ++ stage :: behind) = calls w s front ++ [(stage, t)] := by
  rw [calls_append h.passes, calls_cons_of_not_next h.stops]

/-- A run that stops does not depend on what is behind. -/
theorem run_of_stops (h : Stops w s front stage t) (behind : Pipeline ω σ ρ ε) :
    run w s (front ++ stage :: behind) = run w s (front ++ [stage]) := by
  have hstage : run w t (stage :: behind) = run w t [stage] := by
    rcases hcall : stage.call w t with ⟨_ | answer | failure, u⟩
    · exact absurd (congrArg Prod.fst hcall) h.stops
    · rw [run_cons_of_respond hcall, run_cons_of_respond hcall]
    · rw [run_cons_of_fail hcall, run_cons_of_fail hcall]
  rw [run_append h.passes, run_append h.passes, hstage]

theorem ending_of_stops (h : Stops w s front stage t) (behind : Pipeline ω σ ρ ε) :
    (run w s (front ++ stage :: behind)).ending ≠ .exhausted := by
  rw [run_append h.passes]
  rcases hcall : stage.call w t with ⟨_ | answer | failure, u⟩
  · exact absurd (congrArg Prod.fst hcall) h.stops
  · rw [run_cons_of_respond hcall]
    simp
  · rw [run_cons_of_fail hcall]
    simp

/-- Stages all pass on, or there is a first one that does not. -/
theorem passes_or_stops (w : ω) (s : σ) (stages : Pipeline ω σ ρ ε) :
    (∃ t, Passes w s stages t) ∨
      ∃ front stage behind t, stages = front ++ stage :: behind ∧ Stops w s front stage t := by
  induction stages generalizing s with
  | nil => exact .inl ⟨s, .nil⟩
  | cons stage stages ih =>
      by_cases h : (stage.call w s).1 = .next
      · have hcall : stage.call w s = (.next, (stage.call w s).2) := Prod.ext h rfl
        rcases ih (stage.call w s).2 with ⟨t, hpasses⟩ | ⟨front, last, behind, t, rfl, hstops⟩
        · exact .inl ⟨t, .cons hcall hpasses⟩
        · exact .inr ⟨stage :: front, last, behind, t, rfl, .cons hcall hstops.passes,
            hstops.stops⟩
      · exact .inr ⟨[], stage, stages, s, rfl, .nil, h⟩

theorem exists_stops (h : ∀ t, ¬Passes w s stages t) :
    ∃ front stage behind t, stages = front ++ stage :: behind ∧ Stops w s front stage t := by
  rcases passes_or_stops w s stages with ⟨t, hpasses⟩ | hstops
  · exact absurd hpasses (h t)
  · exact hstops

/-! ### One stage after the other -/

theorem foldl_andThen (front behind : Pipeline ω σ ρ ε) :
    behind.foldl andThen front = front ++ behind := by
  induction behind generalizing front with
  | nil => simp
  | cons stage behind ih =>
      rw [List.foldl_cons, ih, andThen, List.append_assoc]
      rfl

/-! ### The response at the end -/

section Settle

variable {names names' : List String} {r r' : Run Scene Response Fault}

/-- The response is told by how the run ended. -/
theorem settle_response (h : r.ending = r'.ending) :
    (settle names r).1 = (settle names' r').1 := by
  unfold settle
  rw [h]
  cases r'.ending <;> rfl

/-- The names of the stages are told only when none of them answered. -/
theorem settle_eq_of_ending (h : r.ending ≠ .exhausted) : settle names r = settle names' r := by
  unfold settle
  cases hending : r.ending with
  | responded response => rfl
  | failed stage fault => rfl
  | exhausted => exact absurd hending h

@[simp] theorem exchange_settle : (settle names r).2.exchange = r.state.exchange := by
  unfold settle
  cases r.ending <;> rfl

@[simp] theorem deliveries_settle :
    (settle names r).2.trace.deliveries = r.state.trace.deliveries := by
  unfold settle
  cases r.ending <;> rfl

@[simp] theorem counts_settle : (settle names r).2.trace.counts = r.state.trace.counts := by
  unfold settle
  cases r.ending <;> rfl

end Settle

/-- **A pipeline in two parts runs as the first part and then, if that passes on, as the second.**
When the stages in front pass on, they are called once each and in order, and from the state they
lead to all goes on as with the stages behind alone.  When they do not, the stages behind make no
difference.  So what is called is the stages up to the first one that does not pass on, or all of
them, and then the response is a bare one.  Stages added one by one make the same pipeline. -/
theorem handle_append_cases (backend : Backend) (s : Scene) (xs ys : List Handler) :
    (∀ t, Passes backend s xs t →
      (calls backend s xs).map (·.1) = xs ∧
      calls backend s (xs ++ ys) = calls backend s xs ++ calls backend t ys ∧
      (handle (xs ++ ys) backend s).1 = (handle ys backend t).1 ∧
      (handle (xs ++ ys) backend s).2.exchange = (handle ys backend t).2.exchange ∧
      (run backend s (xs ++ ys)).state = (run backend t ys).state) ∧
    ((∀ t, ¬Passes backend s xs t) →
      calls backend s (xs ++ ys) = calls backend s xs ∧
      handle (xs ++ ys) backend s = handle xs backend s) ∧
    ((∃ t, Passes backend s xs t ∧ (calls backend s xs).map (·.1) = xs ∧
        (handle xs backend s).1 = .plain .internalServerError "Internal Server Error") ∨
      ∃ front stage behind t, xs = front ++ stage :: behind ∧ Stops backend s front stage t ∧
        (calls backend s xs).map (·.1) = front ++ [stage]) ∧
    ∀ front behind, xs = front ++ behind → behind.foldl andThen front = xs := by
  refine ⟨?_, ?_, ?_, ?_⟩
  · intro t hpasses
    have hrun := run_append hpasses ys
    refine ⟨called_of_passes hpasses, calls_append hpasses ys, ?_, ?_, ?_⟩
    · exact settle_response (by rw [hrun])
    · rw [handle, handle, exchange_settle, exchange_settle, hrun]
    · rw [hrun]
  · intro hnever
    obtain ⟨front, stage, behind, t, rfl, hstops⟩ := exists_stops hnever
    rw [List.append_assoc, List.cons_append]
    refine ⟨?_, ?_⟩
    · rw [calls_of_stops hstops, calls_of_stops hstops]
    · rw [handle, handle, run_of_stops hstops (behind ++ ys), ← run_of_stops hstops behind]
      exact settle_eq_of_ending (ending_of_stops hstops behind)
  · rcases passes_or_stops backend s xs with ⟨t, hpasses⟩ | ⟨front, stage, behind, t, rfl, hstops⟩
    · refine .inl ⟨t, hpasses, called_of_passes hpasses, ?_⟩
      rw [handle, settle, ending_of_passes hpasses]
      rfl
    · refine .inr ⟨front, stage, behind, t, rfl, hstops, ?_⟩
      rw [calls_of_stops hstops, List.map_append, called_of_passes hstops.passes]
      rfl
  · intro front behind hparts
    rw [foldl_andThen, hparts]

/-- A stage that passes on, one that takes the body, and behind them one that looks. -/
theorem handle_append_cases_drained :
    (handle ([Fixed.pass "first", Fixed.drain "second"] ++ [Fixed.inspect "third"]) .unreachable
      { exchange :=
          { request := { uri := { path := "/" }, body := [0] }
            link := ⟨⟨"http://auth", "1"⟩, .ofSeconds 1⟩ } }).1 =
      .plain .ok "third" := by
  obtain ⟨-, -, hresponse, -⟩ :=
    (handle_append_cases .unreachable
      { exchange :=
          { request := { uri := { path := "/" }, body := [0] }
            link := ⟨⟨"http://auth", "1"⟩, .ofSeconds 1⟩ } }
      [Fixed.pass "first", Fixed.drain "second"] [Fixed.inspect "third"]).1 _
      (.cons rfl (.cons rfl .nil))
  rw [hresponse]
  rfl

end Pipeline

end FrontDoor
