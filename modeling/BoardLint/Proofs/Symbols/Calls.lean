import BoardLint.Symbols

/-!
# Calls on the symbols

The symbols of a board are made from none at all, call by call. Each operation inserts one entry
into one table (`define_fst`, `bind_fst`), where a taken name is no entry at all.
`Symbols.after` gives the symbols behind a list of calls and `Symbols.reports` all that the calls
report; `after_induction` says what the symbols behind any calls have in common.

What runs is the run of the raw tables (`raw_after`). These are in step behind any calls, since each
call keeps them so (`Raw.inStep_after`).
-/

namespace BoardLint.Symbols

/-! ## One call -/

variable {s : Symbols} {name : String}

theorem mem_names_of_lookup {d : Define} (h : s.lookup name = some d) : name ∈ s.defines.names :=
  Table.mem_names_of_get? h

/-- The entry that a define makes if its name is new. -/
def entry (s : Symbols) (name : String) (raw : Option String) (l : Location) : Define :=
  ⟨name, raw.map Value.ofString, kept (s.resolve (raw.map Value.ofString)), l⟩

@[simp] theorem name_entry (s : Symbols) (name : String) (raw : Option String) (l : Location) :
    Named.name (s.entry name raw l) = name := rfl

/-- A define inserts one entry, whose name may be taken. -/
theorem define_fst (s : Symbols) (name : String) (raw : Option String) (l : Location) :
    (s.define name raw l).1 = { s with defines := s.defines.insert (s.entry name raw l) } := rfl

/-- A define reports that its value leads back to a name, and that its name is taken. -/
theorem define_snd (s : Symbols) (name : String) (raw : Option String) (l : Location) :
    (s.define name raw l).2 =
      circleFindings name l (s.resolve (raw.map Value.ofString)) ++
        (s.lookup name).elim ∅ fun first =>
          duplicate .define name first.value (raw.map Value.ofString) first.location l := by
  show circleFindings _ _ _ ++ (s.defines.toRaw.insert (s.entry name raw l)).2.elim ∅ _ = _
  rw [s.defines.inStep.insert_snd]
  rfl

theorem define_of_new (h : s.lookup name = none) (raw : Option String) (l : Location) :
    s.define name raw l =
      ({ s with defines := s.defines.insert (s.entry name raw l) },
        circleFindings name l (s.resolve (raw.map Value.ofString))) := by
  refine Prod.ext (define_fst ..) ?_
  rw [define_snd, h]
  exact Findings.append_empty _

theorem define_of_taken {first : Define} (h : s.lookup name = some first) (raw : Option String)
    (l : Location) :
    s.define name raw l =
      (s, circleFindings name l (s.resolve (raw.map Value.ofString)) ++
        duplicate .define name first.value (raw.map Value.ofString) first.location l) := by
  have htaken : Named.name (s.entry name raw l) ∈ s.defines.names := mem_names_of_lookup h
  refine Prod.ext ?_ ?_
  · rw [define_fst, Table.insert_of_mem htaken]
  · rw [define_snd, h]
    rfl

/-- What stands in no header inserts one entry too. -/
theorem defineSynthetic_eq (s : Symbols) (name : String) (value : Value) (l : Location) :
    s.defineSynthetic name value l =
      { s with defines := s.defines.insert ⟨name, some value, some value, l⟩ } := rfl

/-- The symbols with one more setting, unless its name is taken. -/
def insertSetting (s : Symbols) (kind : SettingKind) (b : Binding) : Symbols :=
  match kind with
  | .fixed => { s with fixed := s.fixed.insert b }
  | .fallback => { s with fallbacks := s.fallbacks.insert b }

theorem insertSetting_of_mem {kind : SettingKind} {b : Binding}
    (h : b.name ∈ (s.settings kind).names) : s.insertSetting kind b = s := by
  cases kind
  · exact congrArg (fun t => { s with fixed := t }) (Table.insert_of_mem h)
  · exact congrArg (fun t => { s with fallbacks := t }) (Table.insert_of_mem h)

@[simp] theorem defines_insertSetting (s : Symbols) (kind : SettingKind) (b : Binding) :
    (s.insertSetting kind b).defines = s.defines := by
  cases kind <;> rfl

/-- A setting inserts one entry, whose name may be taken. -/
theorem bind_fst (s : Symbols) (kind : SettingKind) (name raw : String) (l : Location) :
    (s.bind kind name raw l).1 = s.insertSetting kind ⟨name, Value.ofString raw, l⟩ := by
  cases kind <;> rfl

/-- A setting reports that its name is taken. -/
theorem bind_snd (s : Symbols) (kind : SettingKind) (name raw : String) (l : Location) :
    (s.bind kind name raw l).2 = (s.setting kind name).elim ∅ fun first =>
      duplicate (.setting kind) name (some first.value) (some (Value.ofString raw))
        first.location l := by
  have hsetting : ((s.raw.settings kind).insert ⟨name, Value.ofString raw, l⟩).2 =
      s.setting kind name := by
    cases kind <;> exact (Table.inStep _).insert_snd _
  rw [← hsetting]
  rfl

theorem bind_of_new {kind : SettingKind} (h : s.setting kind name = none) (raw : String)
    (l : Location) :
    s.bind kind name raw l = (s.insertSetting kind ⟨name, Value.ofString raw, l⟩, ∅) := by
  refine Prod.ext (bind_fst ..) ?_
  rw [bind_snd, h]
  rfl

theorem bind_of_taken {kind : SettingKind} {first : Binding}
    (h : s.setting kind name = some first) (raw : String) (l : Location) :
    s.bind kind name raw l =
      (s, duplicate (.setting kind) name (some first.value) (some (Value.ofString raw))
        first.location l) := by
  have htaken : name ∈ (s.settings kind).names := Table.mem_names_of_get? h
  refine Prod.ext ?_ ?_
  · exact (bind_fst ..).trans (insertSetting_of_mem htaken)
  · rw [bind_snd, h]
    rfl

/-! ## Runs -/

/-- A call that may add an entry. -/
inductive Call where
  | define (name : String) (raw : Option String) (location : Location)
  | synthetic (name : String) (value : Value) (location : Location)
  | bind (kind : SettingKind) (name raw : String) (location : Location)

namespace Raw

/-- The tables behind a call. -/
def apply (s : Raw) : Call → Raw
  | .define name raw location => (s.define name raw location).1
  | .synthetic name value location => s.defineSynthetic name value location
  | .bind kind name raw location => (s.bind kind name raw location).1

/-- What a call reports. -/
def report (s : Raw) : Call → Findings Issue
  | .define name raw location => (s.define name raw location).2
  | .synthetic .. => ∅
  | .bind kind name raw location => (s.bind kind name raw location).2

/-- The tables behind all calls, from empty ones. -/
def after (calls : List Call) : Raw := calls.foldl apply ∅

/-- What calls report one after the other, from these tables on. -/
def reportsFrom : Raw → List Call → Findings Issue
  | _, [] => ∅
  | s, c :: calls => s.report c ++ reportsFrom (s.apply c) calls

/-- What all calls report, from empty tables on. -/
def reports (calls : List Call) : Findings Issue := reportsFrom ∅ calls

theorem reportsFrom_append (s : Raw) (calls more : List Call) :
    reportsFrom s (calls ++ more) =
      reportsFrom s calls ++ reportsFrom (calls.foldl apply s) more := by
  induction calls generalizing s with
  | nil => rw [List.nil_append, reportsFrom, Findings.empty_append, List.foldl_nil]
  | cons c calls ih =>
    rw [List.cons_append, reportsFrom, reportsFrom, ih, List.foldl_cons, Findings.append_assoc]

/-- A call keeps the tables in step, whatever it is. -/
theorem InStep.apply {s : Raw} (h : s.InStep) (c : Call) : (s.apply c).InStep := by
  cases c with
  | define name raw location => exact h.define name raw location
  | synthetic name value location => exact h.defineSynthetic name value location
  | bind kind name raw location => exact h.bind kind name raw location

theorem InStep.foldl {s : Raw} (h : s.InStep) (calls : List Call) :
    (calls.foldl Raw.apply s).InStep := by
  induction calls generalizing s with
  | nil => exact h
  | cons c calls ih => exact ih (h.apply c)

/-- Behind any calls the tables are in step. -/
theorem inStep_after (calls : List Call) : (after calls).InStep := InStep.empty.foldl calls

end Raw

/-- The symbols behind a call. -/
def apply (s : Symbols) : Call → Symbols
  | .define name raw location => (s.define name raw location).1
  | .synthetic name value location => s.defineSynthetic name value location
  | .bind kind name raw location => (s.bind kind name raw location).1

/-- What a call reports. -/
def report (s : Symbols) : Call → Findings Issue
  | .define name raw location => (s.define name raw location).2
  | .synthetic .. => ∅
  | .bind kind name raw location => (s.bind kind name raw location).2

/-- The symbols behind all calls, from none at all. -/
def after (calls : List Call) : Symbols := calls.foldl apply ∅

/-- What all calls report, from no symbols at all. -/
def reports (calls : List Call) : Findings Issue := Raw.reports calls

@[simp] theorem raw_apply (s : Symbols) (c : Call) : (s.apply c).raw = s.raw.apply c := by
  cases c <;> rfl

theorem report_raw (s : Symbols) (c : Call) : s.raw.report c = s.report c := by
  cases c <;> rfl

/-- The symbols behind calls hold the tables behind them. -/
theorem raw_after (calls : List Call) : (after calls).raw = Raw.after calls :=
  (List.foldl_hom raw fun s c => (raw_apply s c).symm).symm

theorem after_append (calls more : List Call) :
    after (calls ++ more) = more.foldl apply (after calls) := List.foldl_append

@[simp] theorem after_concat (calls : List Call) (c : Call) :
    after (calls ++ [c]) = (after calls).apply c := after_append calls [c]

/-- One more call adds its own report. -/
theorem reports_concat (calls : List Call) (c : Call) :
    reports (calls ++ [c]) = reports calls ++ (after calls).report c := by
  rw [← report_raw, raw_after, reports, Raw.reports, Raw.reportsFrom_append, Raw.reportsFrom,
    Raw.reportsFrom, Findings.append_empty]
  rfl

/-- What holds of no symbols and is kept by every call holds behind all calls. -/
theorem after_induction {P : Symbols → Prop} (empty : P ∅) (step : ∀ s c, P s → P (s.apply c))
    (calls : List Call) : P (after calls) := by
  have run : ∀ s, P s → P (calls.foldl apply s) := by
    induction calls with
    | nil => exact fun s hs => hs
    | cons c calls ih => exact fun s hs => ih (s.apply c) (step s c hs)
  exact run ∅ empty

end BoardLint.Symbols
