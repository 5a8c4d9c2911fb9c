import BoardLint.Proofs.Symbols.Calls
import Mathlib.Data.List.Induction
import Mathlib.Data.List.Nodup

/-!
# The first call of a name stays

There are three spaces of names: the defines, and the settings of either kind. A call is about one
name in one of them. `Symbols.table` and `Symbols.made` treat the spaces alike, so that a call does
one thing only: it inserts what it makes into the table of its space (`table_apply_self`), and
leaves the other tables as they are (`table_apply_of_ne`).

From this follows what a run of calls leaves behind: tables in step, with the entries that the first
calls of their names have made, in the order of these calls (`KeepsFirst`), and one report for each
call that comes back to a name (`ReportsOnce`). Both are said of the raw tables, of which nothing is
known but that the run began with empty ones.
-/

namespace BoardLint

/-! ## The three spaces -/

/-- The entries of a space. -/
abbrev Entry : SymbolSpace → Type
  | .define => Define
  | .setting _ => Binding

namespace Entry

instance : (space : SymbolSpace) → Named (Entry space)
  | .define => inferInstanceAs (Named Define)
  | .setting _ => inferInstanceAs (Named Binding)

/-- The value that is written for an entry. -/
def value : {space : SymbolSpace} → Entry space → Option Value
  | .define, d => Define.value d
  | .setting _, b => some (Binding.value b)

/-- The place where an entry was made. -/
def location : {space : SymbolSpace} → Entry space → Location
  | .define, d => Define.location d
  | .setting _, b => Binding.location b

end Entry

namespace Symbols

/-- The raw table of a space. -/
def Raw.table (s : Raw) : (space : SymbolSpace) → Table.Raw (Entry space)
  | .define => s.defines
  | .setting kind => s.settings kind

theorem Raw.InStep.table {s : Raw} (h : s.InStep) (space : SymbolSpace) :
    (s.table space).InStep := by
  cases space with
  | define => exact h.defines
  | setting kind => exact h.settings kind

/-- The table of a space. -/
def table (s : Symbols) : (space : SymbolSpace) → Table (Entry space)
  | .define => s.defines
  | .setting kind => s.settings kind

theorem table_raw (s : Symbols) (space : SymbolSpace) : s.raw.table space = s.table space := by
  cases space with
  | define => rfl
  | setting kind => cases kind <;> rfl

@[simp] theorem table_empty (space : SymbolSpace) : (∅ : Symbols).table space = ∅ := by
  cases space with
  | define => rfl
  | setting kind => cases kind <;> rfl

theorem settings_insertSetting_self (s : Symbols) (kind : SettingKind) (b : Binding) :
    (s.insertSetting kind b).settings kind = (s.settings kind).insert b := by
  cases kind <;> rfl

theorem settings_insertSetting_of_ne (s : Symbols) {kind kind' : SettingKind} (h : kind' ≠ kind)
    (b : Binding) : (s.insertSetting kind b).settings kind' = s.settings kind' := by
  cases kind <;> cases kind' <;> solve | rfl | exact absurd rfl h

/-! ## What a call is about, and what it makes -/

namespace Call

/-- The space of the name. -/
def space : Call → SymbolSpace
  | define .. | synthetic .. => .define
  | bind kind .. => .setting kind

/-- The name that the call is about. -/
def name : Call → String
  | define name .. | synthetic name .. | bind _ name .. => name

/-- The value that is written. -/
def value : Call → Option Value
  | define _ raw _ => raw.map Value.ofString
  | synthetic _ value _ => some value
  | bind _ _ raw _ => some (Value.ofString raw)

/-- The place of the call. -/
def location : Call → Location
  | define _ _ location | synthetic _ _ location | bind _ _ _ location => location

/-- Does the call stand in a header? -/
def isDeclared : Call → Bool
  | synthetic .. => false
  | _ => true

/-- Is the call about this name in this space? -/
def IsAbout (c : Call) (space : SymbolSpace) (name : String) : Prop :=
  c.space = space ∧ c.name = name

end Call

/-- The entry that a call makes if its name is new. -/
def Raw.made (s : Raw) : (c : Call) → Entry c.space
  | .define name raw location =>
    Define.mk name (raw.map Value.ofString) (kept (s.resolve (raw.map Value.ofString))) location
  | .synthetic name value location => Define.mk name (some value) (some value) location
  | .bind _ name raw location => Binding.mk name (Value.ofString raw) location

/-- The entry that a call makes if its name is new. -/
def made (s : Symbols) (c : Call) : Entry c.space := s.raw.made c

@[simp] theorem name_made (s : Symbols) (c : Call) : Named.name (s.made c) = c.name := by
  cases c <;> rfl

/-- A call inserts what it makes, unless the name is taken. -/
theorem table_apply_self (s : Symbols) (c : Call) :
    (s.apply c).table c.space = (s.table c.space).insert (s.made c) := by
  cases c with
  | define name raw location => exact congrArg Symbols.defines (define_fst s name raw location)
  | synthetic name value location => rfl
  | bind kind name raw location =>
    show (s.bind kind name raw location).1.settings kind = _
    rw [bind_fst]
    exact settings_insertSetting_self s kind _

/-- A call leaves the tables of the other spaces as they are. -/
theorem table_apply_of_ne (s : Symbols) (c : Call) {space : SymbolSpace} (h : space ≠ c.space) :
    (s.apply c).table space = s.table space := by
  cases c with
  | define name raw location =>
    rw [apply, define_fst]
    cases space with
    | define => exact absurd rfl h
    | setting kind => cases kind <;> rfl
  | synthetic name value location =>
    cases space with
    | define => exact absurd rfl h
    | setting kind => cases kind <;> rfl
  | bind kind name raw location =>
    rw [apply, bind_fst]
    cases space with
    | define => exact defines_insertSetting s kind _
    | setting kind' =>
      have hk : kind' ≠ kind := fun hk => h (congrArg SymbolSpace.setting hk)
      exact settings_insertSetting_of_ne s hk _

/-- A call about a taken name changes nothing. -/
theorem apply_of_taken {s : Symbols} {c : Call} (h : c.name ∈ (s.table c.space).names) :
    s.apply c = s := by
  cases c with
  | define name raw location =>
    have hins : s.defines.insert (s.entry name raw location) = s.defines := Table.insert_of_mem h
    rw [apply, define_fst, hins]
  | synthetic name value location =>
    have hins : s.defines.insert ⟨name, some value, some value, location⟩ = s.defines :=
      Table.insert_of_mem h
    rw [apply, defineSynthetic_eq, hins]
  | bind kind name raw location =>
    rw [apply, bind_fst]
    exact insertSetting_of_mem h

/-- An entry stays what it is. -/
theorem get?_table_apply {s : Symbols} {space : SymbolSpace} {name : String} {e : Entry space}
    (h : (s.table space).get? name = some e) (c : Call) :
    ((s.apply c).table space).get? name = some e := by
  by_cases hc : space = c.space
  · subst hc
    rw [table_apply_self, Table.get?_insert, h, Option.some_or]
  · rw [table_apply_of_ne s c hc, h]

/-- Entries stay where they are when a call is made. -/
theorem entries_isPrefix_apply (s : Symbols) (c : Call) (space : SymbolSpace) :
    (s.table space).entries <+: ((s.apply c).table space).entries := by
  by_cases h : space = c.space
  · subst h
    rw [table_apply_self]
    exact Table.entries_isPrefix_insert _ _
  · exact (table_apply_of_ne s c h).symm ▸ List.prefix_refl _

/-- What holds of all entries and of the one that a call makes holds of all entries afterwards. -/
theorem forall_entries_apply {P : (space : SymbolSpace) → Entry space → Prop} {s : Symbols}
    {c : Call} (h : ∀ space, ∀ e ∈ (s.table space).entries, P space e)
    (hc : P c.space (s.made c)) (space : SymbolSpace) :
    ∀ e ∈ ((s.apply c).table space).entries, P space e := by
  by_cases hspace : space = c.space
  · subst hspace
    rw [table_apply_self]
    by_cases hn : Named.name (s.made c) ∈ (s.table c.space).names
    · rw [Table.insert_of_mem hn]
      exact h c.space
    · rw [Table.entries_insert hn]
      exact List.forall_mem_append.2 ⟨h c.space, List.forall_mem_singleton.2 hc⟩
  · rw [table_apply_of_ne s c hspace]
    exact h space

/-! ## The entries behind a run -/

/-- The names of a space that calls are about, in the order of the calls. -/
def namesIn (space : SymbolSpace) (calls : List Call) : List String :=
  (calls.filter (·.space = space)).map Call.name

theorem mem_namesIn {space : SymbolSpace} {calls : List Call} {name : String} :
    name ∈ namesIn space calls ↔ ∃ c ∈ calls, c.IsAbout space name := by
  simp [namesIn, Call.IsAbout, and_assoc]

/-- The tables hold what the first call of each name has made. -/
structure KeepsFirst (calls : List Call) (s : Raw) : Prop where
  /-- The index of a table knows the names of its entries with their positions, and no others. -/
  inStep : ∀ space, (s.table space).InStep
  /-- In one space no two entries have the same name. -/
  nodup : ∀ space, (s.table space).names.Nodup
  /-- The names stand in the order of their first calls. -/
  order : ∀ space, (s.table space).names = (namesIn space calls).eraseDups
  /-- A look-up finds the entry of the name, if there is one. -/
  get?_iff : ∀ space name e,
    (s.table space).get? name = some e ↔ e ∈ (s.table space).entries ∧ Named.name e = name
  /-- The entry of a name is the one that its first call has made, from what was known then. -/
  first : ∀ before c later, calls = before ++ c :: later →
    (∀ b ∈ before, ¬ b.IsAbout c.space c.name) →
    (s.table c.space).get? c.name = some ((Raw.after before).made c)

theorem eraseDups_concat {α : Type} [DecidableEq α] (l : List α) (a : α) :
    (l ++ [a]).eraseDups = if a ∈ l then l.eraseDups else l.eraseDups ++ [a] := by
  rw [List.eraseDups_append]
  by_cases h : a ∈ l <;> simp [List.removeAll, List.eraseDups_cons, h]

theorem names_after (space : SymbolSpace) (calls : List Call) :
    ((after calls).table space).names = (namesIn space calls).eraseDups := by
  induction calls using List.reverseRecOn with
  | nil =>
    show ((∅ : Symbols).table space).names = _
    rw [table_empty]
    rfl
  | append_singleton calls c ih =>
    rw [after_concat]
    by_cases hc : space = c.space
    · subst hc
      have hnames : namesIn c.space (calls ++ [c]) = namesIn c.space calls ++ [c.name] := by
        simp [namesIn]
      rw [table_apply_self, Table.names_insert, name_made, ih, hnames, eraseDups_concat]
      simp only [List.mem_eraseDups]
    · have hnames : namesIn space (calls ++ [c]) = namesIn space calls := by
        simp [namesIn, Ne.symm hc]
      rw [table_apply_of_ne _ c hc, ih, hnames]

/-- A name has an entry if some call was about it. -/
theorem mem_names_after {space : SymbolSpace} {calls : List Call} {name : String} :
    name ∈ ((after calls).table space).names ↔ ∃ c ∈ calls, c.IsAbout space name := by
  rw [names_after, List.mem_eraseDups, mem_namesIn]

/-- The first call of a name makes its entry. -/
theorem get?_of_first_call {before later : List Call} {c : Call}
    (h : ∀ b ∈ before, ¬ b.IsAbout c.space c.name) :
    ((after (before ++ c :: later)).table c.space).get? c.name = some ((after before).made c) := by
  have hnew : ((after before).table c.space).get? c.name = none := by
    rw [Table.get?_eq_none_iff, mem_names_after]
    rintro ⟨b, hb, habout⟩
    exact h b hb habout
  have hmade : (((after before).apply c).table c.space).get? c.name =
      some ((after before).made c) := by
    rw [table_apply_self, Table.get?_insert, hnew, Option.none_or, name_made, if_pos rfl]
  rw [after_append, List.foldl_cons]
  generalize (after before).apply c = s at hmade
  induction later generalizing s with
  | nil => exact hmade
  | cons d later ih => exact ih (s.apply d) (get?_table_apply hmade d)

/-- The raw tables behind calls are those of the symbols behind them. -/
theorem table_after (calls : List Call) (space : SymbolSpace) :
    (Raw.after calls).table space = (after calls).table space := by
  rw [← raw_after, table_raw]

theorem keepsFirst_after (calls : List Call) : KeepsFirst calls (Raw.after calls) where
  inStep space := (Raw.inStep_after calls).table space
  nodup space := ((Raw.inStep_after calls).table space).nodup
  order space := by
    rw [table_after]
    exact names_after space calls
  get?_iff space name e := ((Raw.inStep_after calls).table space).get?_eq_some_iff
  first before c later hcalls h := by
    rw [hcalls, table_after, ← raw_after]
    exact get?_of_first_call h

/-! ## The reports of a run -/

end Symbols

/-- Is it reported that a name has two entries? -/
def Issue.isDuplicate : Issue → Bool
  | conflict .. | redefinition .. => true
  | _ => false

/-- The reports of names that have two entries. -/
def Findings.duplicates (f : Findings Issue) : Findings Issue :=
  ⟨f.errors.filter (·.cause.isDuplicate), f.warnings.filter (·.cause.isDuplicate)⟩

@[simp] theorem Findings.duplicates_empty : (∅ : Findings Issue).duplicates = ∅ := rfl

@[simp] theorem Findings.duplicates_append (f g : Findings Issue) :
    (f ++ g).duplicates = f.duplicates ++ g.duplicates := by
  ext1 <;> simp [duplicates]

namespace Symbols

@[simp] theorem duplicates_circleFindings (name : String) (l : Location)
    (result : Except (List String) (Option Value)) :
    (circleFindings name l result).duplicates = ∅ := by
  cases result <;> rfl

@[simp] theorem duplicates_duplicate (space : SymbolSpace) (name : String)
    (first second : Option Value) (previous l : Location) :
    (duplicate space name first second previous l).duplicates =
      duplicate space name first second previous l := by
  unfold duplicate
  split <;> rfl

/-- A new name is no duplicate. -/
theorem duplicates_report_of_new {s : Symbols} {c : Call}
    (h : (s.table c.space).get? c.name = none) : (s.report c).duplicates = ∅ := by
  cases c with
  | define name raw location =>
    have hs : s.lookup name = none := h
    rw [report, define_of_new hs]
    exact duplicates_circleFindings ..
  | synthetic name value location => rfl
  | bind kind name raw location =>
    have hs : s.setting kind name = none := h
    rw [report, bind_of_new hs]
    rfl

/-- A call of a header that comes back to a name is one duplicate of the entry that stays. -/
theorem duplicates_report_of_taken {s : Symbols} {c : Call} {first : Entry c.space}
    (h : (s.table c.space).get? c.name = some first) (hc : c.isDeclared = true) :
    (s.report c).duplicates =
      duplicate c.space c.name first.value c.value first.location c.location := by
  cases c with
  | define name raw location =>
    have hs : s.lookup name = some first := h
    rw [report, define_of_taken hs, Findings.duplicates_append, duplicates_circleFindings,
      duplicates_duplicate, Findings.empty_append]
    rfl
  | synthetic name value location => exact absurd hc nofun
  | bind kind name raw location =>
    have hs : s.setting kind name = some first := h
    rw [report, bind_of_taken hs]
    exact duplicates_duplicate ..

/-- One more call changes the table of its space at most, and is reported once if it comes back to
a name. -/
structure ReportsOnce (calls : List Call) (c : Call) : Prop where
  /-- A taken name: nothing changes at all. -/
  unchanged : ∀ first, ((Raw.after calls).table c.space).get? c.name = some first →
    Raw.after (calls ++ [c]) = Raw.after calls
  /-- Another value than the first one is a conflict with it. -/
  conflict : ∀ first, ((Raw.after calls).table c.space).get? c.name = some first →
    c.isDeclared = true → first.value ≠ c.value →
    (Raw.reports (calls ++ [c])).duplicates = (Raw.reports calls).duplicates ++
      .error (.conflict c.space c.name first.value c.value first.location) c.location
  /-- The first value once more is a repetition. -/
  redefinition : ∀ first, ((Raw.after calls).table c.space).get? c.name = some first →
    c.isDeclared = true → first.value = c.value →
    (Raw.reports (calls ++ [c])).duplicates = (Raw.reports calls).duplicates ++
      .warning (.redefinition c.space c.name first.value first.location) c.location
  /-- A new name is not reported as a duplicate. -/
  new : ((Raw.after calls).table c.space).get? c.name = none →
    (Raw.reports (calls ++ [c])).duplicates = (Raw.reports calls).duplicates
  /-- What stands in no header is never reported. -/
  silent : c.isDeclared = false → Raw.reports (calls ++ [c]) = Raw.reports calls
  /-- The tables of the other spaces stay as they are. -/
  others : ∀ space, space ≠ c.space →
    (Raw.after (calls ++ [c])).table space = (Raw.after calls).table space

theorem duplicates_reports_concat (calls : List Call) (c : Call) :
    (Raw.reports (calls ++ [c])).duplicates =
      (Raw.reports calls).duplicates ++ ((after calls).report c).duplicates := by
  rw [← Findings.duplicates_append]
  exact congrArg Findings.duplicates (reports_concat calls c)

theorem reportsOnce (calls : List Call) (c : Call) : ReportsOnce calls c where
  unchanged first h := by
    rw [table_after] at h
    rw [← raw_after, ← raw_after, after_concat, apply_of_taken (Table.mem_names_of_get? h)]
  conflict first h hc hv := by
    rw [table_after] at h
    rw [duplicates_reports_concat, duplicates_report_of_taken h hc, duplicate, if_neg hv]
  redefinition first h hc hv := by
    rw [table_after] at h
    rw [duplicates_reports_concat, duplicates_report_of_taken h hc, duplicate, if_pos hv]
  new h := by
    rw [table_after] at h
    rw [duplicates_reports_concat, duplicates_report_of_new h, Findings.append_empty]
  silent h := by
    cases c with
    | synthetic name value location =>
      exact (reports_concat calls _).trans (Findings.append_empty _)
    | define name raw location => exact absurd h nofun
    | bind kind name raw location => exact absurd h nofun
  others space h := by
    rw [table_after, table_after, after_concat, table_apply_of_ne _ c h]

/-- Behind any calls each name has the entry of its first call, in the order of first calls; one
more call is reported if it comes back to a name, and then changes nothing. -/
theorem first_calls_stay (calls : List Call) :
    KeepsFirst calls (Raw.after calls) ∧ ∀ c, ReportsOnce calls c :=
  ⟨keepsFirst_after calls, reportsOnce calls⟩

end Symbols

end BoardLint
