/-
No table of a document gives a name twice.

What is put into a table has a name that is not there yet, or takes the place of what had its name
before.  So a change at the end of a path keeps the names of all tables distinct as soon as it
keeps those of the table it is made to (`distinct_change?`, by induction on the path).  Every line
of a document, and every pair of an inline table, makes such a change.
-/
import FrontDoor.Toml.Document
import Mathlib.Tactic.SplitIfs

namespace FrontDoor.Toml

theorem mem_of_lookup {α β : Type} [BEq α] [LawfulBEq α] {l : List (α × β)} {a : α} {b : β}
    (h : l.lookup a = some b) : (a, b) ∈ l := by
  obtain ⟨before, behind, rfl, -⟩ := List.lookup_eq_some_iff.mp h
  exact List.mem_append_right before List.mem_cons_self

/-- No table in the value gives a name twice. -/
inductive Value.Distinct : Value → Prop
  | string {text : String} : Distinct (.string text)
  | integer {n : Int} : Distinct (.integer n)
  | float {text : String} : Distinct (.float text)
  | boolean {b : Bool} : Distinct (.boolean b)
  | time {text : String} : Distinct (.time text)
  | array {vs : List Value} (elements : ∀ v ∈ vs, Distinct v) : Distinct (.array vs)
  | table {origin : Origin} {es : Entries} (names : (es.map Prod.fst).Nodup)
      (values : ∀ e ∈ es, Distinct e.2) : Distinct (.table origin es)
  | tables {elements : List Entries} (names : ∀ es ∈ elements, (es.map Prod.fst).Nodup)
      (values : ∀ es ∈ elements, ∀ e ∈ es, Distinct e.2) : Distinct (.tables elements)

/-- The table gives no name twice, and neither does a table in it. -/
structure Entries.Distinct (es : Entries) : Prop where
  names : (es.map Prod.fst).Nodup
  values : ∀ e ∈ es, e.2.Distinct

theorem Value.distinct_table_iff {origin : Origin} {es : Entries} :
    (Value.table origin es).Distinct ↔ es.Distinct := by
  constructor
  · intro h
    cases h with
    | table names values => exact ⟨names, values⟩
  · intro h
    exact .table h.names h.values

theorem Value.distinct_tables_iff {elements : List Entries} :
    (Value.tables elements).Distinct ↔ ∀ es ∈ elements, es.Distinct := by
  constructor
  · intro h es hes
    cases h with
    | tables names values => exact ⟨names es hes, values es hes⟩
  · intro h
    exact .tables (fun es hes => (h es hes).names) (fun es hes => (h es hes).values)

namespace Entries

variable {es es' : Entries} {name : String} {v : Value} {path : List String} {key : Key}

theorem distinct_nil : Distinct [] :=
  ⟨List.nodup_nil, nofun⟩

/-! ### Changes to one table -/

theorem names_replace (es : Entries) (name : String) (v : Value) :
    (es.replace name v).map Prod.fst = es.map Prod.fst := by
  rw [replace, List.map_map]
  refine List.map_congr_left fun e _ => ?_
  by_cases h : e.1 = name
  · simp [h]
  · simp [h]

theorem distinct_replace (hes : es.Distinct) (hv : v.Distinct) :
    (es.replace name v).Distinct := by
  constructor
  · rw [names_replace]
    exact hes.names
  intro e he
  obtain ⟨old, hold, rfl⟩ := List.mem_map.mp he
  by_cases h : old.1 = name
  · rw [if_pos h]
    exact hv
  · rw [if_neg h]
    exact hes.values old hold

theorem distinct_append (hes : es.Distinct) (hnew : es.lookup name = none) (hv : v.Distinct) :
    Distinct (es ++ [(name, v)]) := by
  have hname : name ∉ es.map Prod.fst := by
    intro hmem
    obtain ⟨e, he, rfl⟩ := List.mem_map.mp hmem
    simpa using List.lookup_eq_none_iff.mp hnew e he
  constructor
  · rw [List.map_append, List.nodup_append]
    refine ⟨hes.names, by simp, ?_⟩
    intro a ha b hb hab
    obtain rfl := List.mem_singleton.mp hb
    exact hname (hab ▸ ha)
  · intro e he
    rcases List.mem_append.mp he with he | he
    · exact hes.values e he
    · obtain rfl := List.mem_singleton.mp he
      exact hv

theorem distinct_add? (hes : es.Distinct) (hv : v.Distinct) (h : es.add? name v = some es') :
    es'.Distinct := by
  rw [add?] at h
  split at h
  · cases h
  · rename_i hnew
    cases h
    exact distinct_append hes (Option.not_isSome_iff_eq_none.mp hnew) hv

theorem distinct_of_lookup (hes : es.Distinct) (h : es.lookup name = some v) : v.Distinct :=
  hes.values (name, v) (mem_of_lookup h)

/-! ### Changes along a path -/

/-- The change keeps the names of a table distinct. -/
def KeepsDistinct (act : Origin → Entries → Option Entries) : Prop :=
  ∀ origin es es', es.Distinct → act origin es = some es' → es'.Distinct

theorem distinct_change? {made : Origin} {mayEnter : Origin → Bool}
    {act : Origin → Entries → Option Entries} (hact : KeepsDistinct act) {origin : Origin}
    (hes : es.Distinct) (h : change? made mayEnter act path origin es = some es') :
    es'.Distinct := by
  induction path generalizing origin es es' with
  | nil => exact hact origin es es' hes h
  | cons name path ih =>
      rw [change?] at h
      split at h
      · -- A table is made on the way, and the rest of the path starts with nothing in it.
        rename_i hnew
        obtain ⟨sub, hsub, rfl⟩ := Option.map_eq_some_iff.mp h
        exact distinct_append hes hnew (Value.distinct_table_iff.mpr (ih distinct_nil hsub))
      · rename_i inner sub hfound
        split at h
        · obtain ⟨sub', hsub', rfl⟩ := Option.map_eq_some_iff.mp h
          have hsub := Value.distinct_table_iff.mp (distinct_of_lookup hes hfound)
          exact distinct_replace hes (Value.distinct_table_iff.mpr (ih hsub hsub'))
        · cases h
      · -- Of tables that share a header only the last one is changed.
        rename_i elements hfound
        obtain ⟨last, hlast, h⟩ := Option.bind_eq_some_iff.mp h
        obtain ⟨last', hlast', h⟩ := Option.bind_eq_some_iff.mp h
        cases h
        have helements := Value.distinct_tables_iff.mp (distinct_of_lookup hes hfound)
        have hfront : ∀ fields ∈ elements.dropLast, Distinct fields :=
          fun fields hfields => helements fields (List.dropLast_subset _ hfields)
        have hchanged := ih (helements last (List.mem_of_getLast? hlast)) hlast'
        exact distinct_replace hes (Value.distinct_tables_iff.mpr
          (List.forall_mem_append.mpr ⟨hfront, List.forall_mem_singleton.mpr hchanged⟩))
      · cases h

theorem keepsDistinct_addPair? (key : Key) (hv : v.Distinct) : KeepsDistinct (addPair? key v) := by
  intro origin es es' hes h
  refine distinct_change? ?_ hes h
  intro origin es es' hes h
  dsimp only at h
  split at h
  · exact distinct_add? hes hv h
  · cases h

theorem distinct_openTable? (hes : es.Distinct) (h : es.openTable? key = some es') :
    es'.Distinct := by
  refine distinct_change? ?_ hes h
  intro origin es es' hes h
  dsimp only at h
  split at h
  · rename_i hnew
    cases h
    exact distinct_append hes hnew (Value.distinct_table_iff.mpr distinct_nil)
  · rename_i sub hfound
    cases h
    have hsub := Value.distinct_table_iff.mp (distinct_of_lookup hes hfound)
    exact distinct_replace hes (Value.distinct_table_iff.mpr hsub)
  · cases h

theorem distinct_openElement? (hes : es.Distinct) (h : es.openElement? key = some es') :
    es'.Distinct := by
  refine distinct_change? ?_ hes h
  intro origin es es' hes h
  dsimp only at h
  split at h
  · rename_i hnew
    cases h
    exact distinct_append hes hnew (Value.distinct_tables_iff.mpr
      (List.forall_mem_singleton.mpr distinct_nil))
  · rename_i elements hfound
    cases h
    have helements := Value.distinct_tables_iff.mp (distinct_of_lookup hes hfound)
    exact distinct_replace hes (Value.distinct_tables_iff.mpr
      (List.forall_mem_append.mpr ⟨helements, List.forall_mem_singleton.mpr distinct_nil⟩))
  · cases h

end Entries

/-! ### Values -/

theorem distinct_number? {s rest : List Char} {v : Value} (h : number? s = some (v, rest)) :
    v.Distinct := by
  rw [number?.eq_def] at h
  dsimp only at h
  split at h
  case h_4 =>
    obtain ⟨⟨_ | n, _⟩, -, hv⟩ := Option.map_eq_some_iff.mp h
    · cases hv
      exact .float
    · cases hv
      exact .integer
  all_goals
    obtain ⟨_, -, hv⟩ := Option.map_eq_some_iff.mp h
    cases hv
    exact .integer

theorem distinct_numberOrTime? {s rest : List Char} {v : Value}
    (h : numberOrTime? s = some (v, rest)) : v.Distinct := by
  unfold numberOrTime? at h
  split at h
  · obtain ⟨_, -, hv⟩ := Option.map_eq_some_iff.mp h
    cases hv
    exact .time
  · split at h
    · obtain ⟨_, -, hv⟩ := Option.map_eq_some_iff.mp h
      cases hv
      exact .time
    · exact distinct_number? h

/-- With so much fuel, no name is given twice in what is read. -/
structure ReadsDistinct (fuel : Nat) : Prop where
  value {depth s v rest} : value? fuel depth s = some (v, rest) → v.Distinct
  elements {depth s vs rest} : elements? fuel depth s = some (vs, rest) → ∀ v ∈ vs, v.Distinct
  pairs {depth s rest} {es es' : Entries} :
    es.Distinct → pairs? fuel depth es s = some (es', rest) → es'.Distinct

namespace ReadsDistinct

variable {fuel depth : Nat} {s rest : List Char}

theorem value_succ (ih : ReadsDistinct fuel) {v : Value}
    (h : value? (fuel + 1) depth s = some (v, rest)) : v.Distinct := by
  rw [value?.eq_def] at h
  dsimp only at h
  split at h
  · cases h
  · split_ifs at h
    · obtain ⟨_, -, hv⟩ := Option.map_eq_some_iff.mp h
      cases hv
      exact .string
    · cases depth with
      | zero => cases h
      | succ depth =>
          obtain ⟨_, helements, hv⟩ := Option.map_eq_some_iff.mp h
          cases hv
          exact .array (ih.elements helements)
    · cases depth with
      | zero => cases h
      | succ depth =>
          dsimp only at h
          split at h
          · cases h
            exact Value.distinct_table_iff.mpr Entries.distinct_nil
          · obtain ⟨_, hpairs, hv⟩ := Option.map_eq_some_iff.mp h
            cases hv
            exact Value.distinct_table_iff.mpr (ih.pairs Entries.distinct_nil hpairs)
    · obtain ⟨_, -, hv⟩ := Option.map_eq_some_iff.mp h
      cases hv
      exact .boolean
    · obtain ⟨_, -, hv⟩ := Option.map_eq_some_iff.mp h
      cases hv
      exact .boolean
    · exact distinct_numberOrTime? h

theorem elements_succ (ih : ReadsDistinct fuel) {vs : List Value}
    (h : elements? (fuel + 1) depth s = some (vs, rest)) : ∀ v ∈ vs, v.Distinct := by
  rw [elements?.eq_def] at h
  dsimp only at h
  split at h
  · cases h
    nofun
  · obtain ⟨⟨v, s⟩, hv, h⟩ := Option.bind_eq_some_iff.mp h
    dsimp only at h
    split at h
    · cases h
      simpa using ih.value hv
    · obtain ⟨⟨others, _⟩, hothers, h⟩ := Option.bind_eq_some_iff.mp h
      cases h
      exact List.forall_mem_cons.mpr ⟨ih.value hv, ih.elements hothers⟩
    · cases h

theorem pairs_succ (ih : ReadsDistinct fuel) {es es' : Entries} (hes : es.Distinct)
    (h : pairs? (fuel + 1) depth es s = some (es', rest)) : es'.Distinct := by
  rw [pairs?.eq_def] at h
  obtain ⟨⟨key, _⟩, -, h⟩ := Option.bind_eq_some_iff.mp h
  obtain ⟨_, -, h⟩ := Option.bind_eq_some_iff.mp h
  obtain ⟨⟨v, _⟩, hv, h⟩ := Option.bind_eq_some_iff.mp h
  obtain ⟨more, hmore, h⟩ := Option.bind_eq_some_iff.mp h
  have hkept : Entries.Distinct more :=
    Entries.keepsDistinct_addPair? key (ih.value hv) .inline es more hes hmore
  split at h
  · cases h
    exact hkept
  · exact ih.pairs hkept h
  · cases h

end ReadsDistinct

/-- The readers of values, elements and pairs call each other with less fuel, so one induction is
for all three. -/
theorem readsDistinct (fuel : Nat) : ReadsDistinct fuel := by
  induction fuel with
  | zero => exact ⟨by simp [value?], by simp [elements?], by simp [pairs?]⟩
  | succ fuel ih => exact ⟨ih.value_succ, ih.elements_succ, ih.pairs_succ⟩

theorem distinct_pair? {fuel : Nat} {s rest : List Char} {key : Key} {v : Value}
    (h : pair? fuel s = some (key, v, rest)) : v.Distinct := by
  obtain ⟨_, -, h⟩ := Option.bind_eq_some_iff.mp h
  obtain ⟨_, -, h⟩ := Option.bind_eq_some_iff.mp h
  obtain ⟨_, hv, h⟩ := Option.bind_eq_some_iff.mp h
  cases h
  exact (readsDistinct fuel).value hv

/-! ### Documents -/

theorem distinct_lines? {fuel n : Nat} {current : List String} {root es : Entries} {s : List Char}
    (hroot : root.Distinct) (h : lines? fuel n current root s = some es) : es.Distinct := by
  induction n generalizing current root s with
  | zero => cases h
  | succ n ih =>
      rw [lines?.eq_def] at h
      dsimp only at h
      split at h
      · cases h
        exact hroot
      · obtain ⟨_, -, h⟩ := Option.bind_eq_some_iff.mp h
        obtain ⟨_, -, h⟩ := Option.bind_eq_some_iff.mp h
        obtain ⟨_, -, h⟩ := Option.bind_eq_some_iff.mp h
        obtain ⟨root', hroot', h⟩ := Option.bind_eq_some_iff.mp h
        exact ih (Entries.distinct_openElement? hroot hroot') h
      · obtain ⟨_, -, h⟩ := Option.bind_eq_some_iff.mp h
        obtain ⟨_, -, h⟩ := Option.bind_eq_some_iff.mp h
        obtain ⟨_, -, h⟩ := Option.bind_eq_some_iff.mp h
        obtain ⟨root', hroot', h⟩ := Option.bind_eq_some_iff.mp h
        exact ih (Entries.distinct_openTable? hroot hroot') h
      · split at h
        · obtain ⟨_, -, h⟩ := Option.bind_eq_some_iff.mp h
          exact ih hroot h
        · obtain ⟨⟨key, v, s⟩, hpair, h⟩ := Option.bind_eq_some_iff.mp h
          obtain ⟨_, -, h⟩ := Option.bind_eq_some_iff.mp h
          obtain ⟨root', hroot', h⟩ := Option.bind_eq_some_iff.mp h
          have hkeeps := Entries.keepsDistinct_addPair? key (distinct_pair? hpair)
          exact ih (Entries.distinct_change? hkeeps hroot hroot') h

/-- **No table of a document gives a name twice**, neither the document nor a table in it. -/
theorem distinct_document? {text : String} {es : Entries} (h : document? text = some es) :
    es.Distinct :=
  distinct_lines? Entries.distinct_nil h

end FrontDoor.Toml
