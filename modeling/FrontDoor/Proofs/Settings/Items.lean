/-
What a document gives is what the settings of it hold.

A document is read from front to back, one entry changing the settings after the other.  That the
order does not matter is because no name is given twice (`Toml.distinct_document?`): the one entry
under the name of a setting decides what the setting holds, and all others leave it alone
(`get_foldlM`).  This is used for the fields of a section and again for the sections of a document.
-/
import FrontDoor.Proofs.Toml.Names
import FrontDoor.Settings.Document

namespace FrontDoor.Settings

open Toml (Value)

/-- A setting. -/
inductive Item
  | bindAddress
  | backendUrl
  | timeoutSeconds
  | version
  | logLevel
  | metricsEnabled
  | metricsAddress
  deriving DecidableEq, Repr

namespace Item

/-- The section that has a field for the setting. -/
def sectionName : Item → String
  | .bindAddress => "listener"
  | .backendUrl | .timeoutSeconds | .version => "auth_backend"
  | .logLevel | .metricsEnabled | .metricsAddress => "observability"

/-- The name of the setting in its section. -/
def name : Item → String
  | .bindAddress => "bind_address"
  | .backendUrl => "url"
  | .timeoutSeconds => "timeout_secs"
  | .version => "version"
  | .logLevel => "log_level"
  | .metricsEnabled => "metrics_enabled"
  | .metricsAddress => "metrics_address"

end Item

/-- What a setting holds, as a document says it. -/
def held (s : Settings) : Item → Value
  | .bindAddress => .string s.bindAddress
  | .backendUrl => .string s.backendUrl
  | .timeoutSeconds => .integer s.timeoutSeconds
  | .version => .string s.version
  | .logLevel => .string s.logLevel
  | .metricsEnabled => .boolean s.metricsEnabled
  | .metricsAddress => .string s.metricsAddress

variable {s t : Settings} {item : Item} {es : Toml.Entries}

/-- Settings that hold the same are the same. -/
theorem eq_of_held (h : ∀ item, s.held item = t.held item) : s = t := by
  cases s
  cases t
  rw [Settings.mk.injEq]
  exact ⟨Value.string.inj (h .bindAddress), Value.string.inj (h .backendUrl),
    Int.ofNat.inj (Value.integer.inj (h .timeoutSeconds)), Value.string.inj (h .version),
    Value.string.inj (h .logLevel), Value.boolean.inj (h .metricsEnabled),
    Value.string.inj (h .metricsAddress)⟩

/-- What a table has under a name. -/
def under? (name : String) : Value → Option Value
  | .table _ es => es.lookup name
  | _ => none

/-- What a document whose sections are tables says about a setting. -/
def given? (es : Toml.Entries) (item : Item) : Option Value :=
  (es.lookup item.sectionName).bind (under? item.name)

/-- The sections that a document has are tables. -/
def SectionsAreTables (es : Toml.Entries) : Prop :=
  ∀ key v, (key, v) ∈ es → (sections.lookup key).isSome → ∃ origin fields, v = .table origin fields

/-! ### Reading entries one after the other -/

section Fold

variable {α β σ : Type} (get : σ → β) {step : σ → String × α → Option σ} {name : String}
  {entries : List (String × α)} {a b : σ}

/-- What no entry changes stays as it is. -/
theorem get_foldlM_of_keep (keep : ∀ e ∈ entries, ∀ a b, step a e = some b → get b = get a)
    (h : entries.foldlM step a = some b) : get b = get a := by
  induction entries generalizing a with
  | nil =>
      cases h
      rfl
  | cons e entries ih =>
      rw [List.foldlM_cons] at h
      obtain ⟨c, hc, h⟩ := Option.bind_eq_some_iff.mp h
      obtain ⟨hfirst, hothers⟩ := List.forall_mem_cons.mp keep
      rw [ih hothers h, hfirst a c hc]

/-- What only the entry under one name changes is changed by that entry, wherever it stands. -/
theorem get_foldlM (update : α → β → β) (hnames : (entries.map Prod.fst).Nodup)
    (hit : ∀ v, (name, v) ∈ entries → ∀ a b, step a (name, v) = some b →
      get b = update v (get a))
    (keep : ∀ e ∈ entries, e.1 ≠ name → ∀ a b, step a e = some b → get b = get a)
    (h : entries.foldlM step a = some b) :
    get b = (entries.lookup name).elim (get a) (update · (get a)) := by
  induction entries generalizing a with
  | nil =>
      cases h
      rfl
  | cons e entries ih =>
      obtain ⟨key, v⟩ := e
      rw [List.foldlM_cons] at h
      obtain ⟨c, hc, h⟩ := Option.bind_eq_some_iff.mp h
      obtain ⟨hfirst, hothers⟩ := List.forall_mem_cons.mp keep
      rw [List.map_cons, List.nodup_cons] at hnames
      by_cases hkey : key = name
      · subst hkey
        -- The names behind are other ones, so what the entry changed stays.
        have hrest : get b = get c := by
          refine get_foldlM_of_keep get (fun e he => hothers e he ?_) h
          intro hname
          exact hnames.1 (List.mem_map.mpr ⟨e, he, hname⟩)
        rw [hrest, hit v List.mem_cons_self a c hc, List.lookup_cons_self]
        rfl
      · have hrest := ih hnames.2 (fun v hv => hit v (List.mem_cons_of_mem _ hv)) hothers h
        rw [hrest, hfirst hkey a c hc, List.lookup_cons, beq_false_of_ne (Ne.symm hkey)]

end Fold

/-! ### Fields and sections -/

/-- The field is that of a setting: it holds what the field is given, and other settings stay. -/
def Field.Sets (field : Field) (item : Item) : Prop :=
  ∀ v s t, field v s = some t → ∀ other, t.held other = if other = item then v else s.held other

theorem Field.sets_text {set : String → Settings → Settings}
    (h : ∀ text s other,
      (set text s).held other = if other = item then .string text else s.held other) :
    Sets (.text set) item := by
  intro v s t hv
  cases v with
  | string text =>
      cases hv
      exact h text s
  | _ => cases hv

theorem Field.sets_number {set : Nat → Settings → Settings}
    (h : ∀ n s other,
      (set n s).held other = if other = item then .integer (.ofNat n) else s.held other) :
    Sets (.number set) item := by
  intro v s t hv
  cases v with
  | integer n =>
      cases n with
      | ofNat n =>
          cases hv
          exact h n s
      | negSucc n => cases hv
  | _ => cases hv

theorem Field.sets_truth {set : Bool → Settings → Settings}
    (h : ∀ b s other, (set b s).held other = if other = item then .boolean b else s.held other) :
    Sets (.truth set) item := by
  intro v s t hv
  cases v with
  | boolean b =>
      cases hv
      exact h b s
  | _ => cases hv

variable {key name : String} {fields : Section} {field : Field}

/-- Every field of a section is that of a setting with its name. -/
theorem exists_sets_of_lookup (hsection : sections.lookup key = some fields)
    (hfield : fields.lookup name = some field) :
    ∃ item : Item, item.sectionName = key ∧ item.name = name ∧ field.Sets item := by
  have hkey := Toml.mem_of_lookup hsection
  have hname := Toml.mem_of_lookup hfield
  simp only [sections, List.mem_cons, List.not_mem_nil, or_false, Prod.mk.injEq] at hkey
  rcases hkey with ⟨rfl, rfl⟩ | ⟨rfl, rfl⟩ | ⟨rfl, rfl⟩
  · simp only [listenerSection, List.mem_cons, List.not_mem_nil, or_false, Prod.mk.injEq] at hname
    obtain ⟨rfl, rfl⟩ := hname
    exact ⟨.bindAddress, rfl, rfl, Field.sets_text fun _ _ other => by cases other <;> rfl⟩
  · simp only [backendSection, List.mem_cons, List.not_mem_nil, or_false, Prod.mk.injEq] at hname
    rcases hname with ⟨rfl, rfl⟩ | ⟨rfl, rfl⟩ | ⟨rfl, rfl⟩
    · exact ⟨.backendUrl, rfl, rfl, Field.sets_text fun _ _ other => by cases other <;> rfl⟩
    · exact ⟨.timeoutSeconds, rfl, rfl, Field.sets_number fun _ _ other => by cases other <;> rfl⟩
    · exact ⟨.version, rfl, rfl, Field.sets_text fun _ _ other => by cases other <;> rfl⟩
  · simp only [observabilitySection, List.mem_cons, List.not_mem_nil, or_false,
      Prod.mk.injEq] at hname
    rcases hname with ⟨rfl, rfl⟩ | ⟨rfl, rfl⟩ | ⟨rfl, rfl⟩
    · exact ⟨.logLevel, rfl, rfl, Field.sets_text fun _ _ other => by cases other <;> rfl⟩
    · exact ⟨.metricsEnabled, rfl, rfl, Field.sets_truth fun _ _ other => by cases other <;> rfl⟩
    · exact ⟨.metricsAddress, rfl, rfl, Field.sets_text fun _ _ other => by cases other <;> rfl⟩

/-- Every setting has a field in its section. -/
theorem exists_field (item : Item) :
    ∃ fields field, sections.lookup item.sectionName = some fields ∧
      fields.lookup item.name = some field := by
  cases item <;> exact ⟨_, _, rfl, rfl⟩

/-- No two settings have the same name. -/
theorem Item.name_injective : Function.Injective Item.name := by
  intro item other h
  cases item <;> cases other <;> first | rfl | exact absurd h (by decide)

/-- An entry in a section changes the setting that it names there. -/
theorem held_of_entry {v : Value} (hsection : sections.lookup key = some fields)
    (h : (match fields.lookup name with
      | some field => field v s
      | none => some s) = some t) (item : Item) :
    t.held item = if item.sectionName = key ∧ item.name = name then v else s.held item := by
  split at h
  · rename_i field hfield
    obtain ⟨own, hkey, hname, hsets⟩ := exists_sets_of_lookup hsection hfield
    rw [hsets v s t h item]
    by_cases hitem : item = own
    · subst hitem
      rw [if_pos rfl, if_pos ⟨hkey, hname⟩]
    · rw [if_neg hitem, if_neg fun hplace => hitem (Item.name_injective (hplace.2.trans hname.symm))]
  · rename_i hnone
    cases h
    -- No field of the section has the name, but every setting of the section has a field there.
    rw [if_neg]
    rintro ⟨rfl, hname⟩
    obtain ⟨fields', field, hsection', hfield⟩ := exists_field item
    obtain rfl : fields = fields' := by simpa [hsection] using hsection'
    rw [← hname, hfield] at hnone
    cases hnone

/-- A table changes the settings of its section that it gives. -/
theorem held_of_fields {given : Toml.Entries} (hsection : sections.lookup key = some fields)
    (hnames : (given.map Prod.fst).Nodup) (h : fields.ofEntries? given s = some t)
    (item : Item) :
    t.held item = if item.sectionName = key then (given.lookup item.name).getD (s.held item)
      else s.held item := by
  by_cases hkey : item.sectionName = key
  · rw [if_pos hkey]
    have hfold : t.held item = (given.lookup item.name).elim (s.held item) fun v => v := by
      refine get_foldlM (·.held item) (fun v _ => v) hnames ?_ ?_ h
      · intro v _ a b hstep
        rw [held_of_entry hsection hstep item, if_pos ⟨hkey, rfl⟩]
      · rintro ⟨name, v⟩ - hname a b hstep
        rw [held_of_entry hsection hstep item, if_neg fun h => hname h.2.symm]
    rw [hfold]
    cases given.lookup item.name <;> rfl
  · rw [if_neg hkey]
    refine get_foldlM_of_keep (·.held item) ?_ h
    rintro ⟨name, v⟩ - a b hstep
    rw [held_of_entry hsection hstep item, if_neg fun h => hkey h.1]

/-! ### Documents -/

/-- A section that is a table changes the settings of the section that it gives. -/
theorem held_of_section {v : Value} (hv : v.Distinct)
    (htable : (sections.lookup key).isSome → ∃ origin fields, v = .table origin fields)
    (h : (match sections.lookup key with
      | some fields => fields.read? v s
      | none => some s) = some t) (item : Item) :
    t.held item = if item.sectionName = key then (under? item.name v).getD (s.held item)
      else s.held item := by
  split at h
  · rename_i fields hsection
    obtain ⟨origin, given, rfl⟩ := htable (by rw [hsection]; rfl)
    exact held_of_fields hsection (Toml.Value.distinct_table_iff.mp hv).names h item
  · rename_i hnone
    cases h
    rw [if_neg]
    rintro rfl
    obtain ⟨fields, -, hsection, -⟩ := exists_field item
    rw [hsection] at hnone
    cases hnone

/-- What a document gives is what the settings hold, and the defaults are what it does not give. -/
theorem held_of_ofEntries? (hes : es.Distinct) (htables : SectionsAreTables es)
    (h : ofEntries? es = some s) (item : Item) :
    s.held item = (given? es item).getD (({} : Settings).held item) := by
  have hfold : s.held item = (es.lookup item.sectionName).elim (({} : Settings).held item)
      fun v => (under? item.name v).getD (({} : Settings).held item) := by
    refine get_foldlM (·.held item) (fun v held => (under? item.name v).getD held) hes.names
      ?_ ?_ h
    · intro v hv a b hstep
      rw [held_of_section (hes.values _ hv) (htables _ _ hv) hstep item, if_pos rfl]
    · rintro ⟨key, v⟩ hv hkey a b hstep
      rw [held_of_section (hes.values _ hv) (htables _ _ hv) hstep item, if_neg (Ne.symm hkey)]
  rw [hfold, given?]
  cases es.lookup item.sectionName <;> rfl

end FrontDoor.Settings
