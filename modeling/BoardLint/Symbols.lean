import BoardLint.Issue
import BoardLint.Table

/-!
# Symbols

The defines and the settings of a header and of all it includes. The first entry of a name stays: a
second one is reported, as a conflict if its value is another one and as a repetition otherwise.

The value of a define may be the name of another define. `Symbols.resolve` follows such aliases; a
define keeps the value that was found when it was made.

The operations are written for `Symbols.Raw`, three tables of which nothing is known. Each of them
keeps the tables in step (`Raw.InStep.define`, `Raw.InStep.defineSynthetic`, `Raw.InStep.bind`), so
they are operations on `Symbols` too.
-/

namespace BoardLint

/-- A define. -/
structure Define where
  name : String
  /-- The value as it is written. -/
  value : Option Value
  /-- The value behind all aliases. -/
  resolved : Option Value
  location : Location
deriving DecidableEq, Repr, Inhabited

/-- A setting of the build. -/
structure Binding where
  name : String
  value : Value
  location : Location
deriving DecidableEq, Repr, Inhabited

instance : Named Define := ⟨Define.name⟩

instance : Named Binding := ⟨Binding.name⟩

/-- Was the define made without a line that says so? -/
def Define.isSynthetic (d : Define) : Bool := d.location.line.isNone

/-! ## What remains

A walk over finitely many things that visits none of them twice ends: each visit leaves fewer
things that have not been visited. -/

/-- Fewer members remain when one of them is no longer counted. -/
theorem length_filter_lt {α : Type} {l : List α} {p q : α → Bool}
    (hqp : ∀ x, q x = true → p x = true) {a : α} (ha : a ∈ l) (hp : p a = true) (hq : q a = false) :
    (l.filter q).length < (l.filter p).length := by
  have : l.filter q = (l.filter p).filter q := by
    rw [List.filter_filter]
    congr 1
    funext x
    cases hx : q x
    · simp
    · simp [hqp x hx]
  rw [this, List.length_filter_lt_length_iff_exists]
  exact ⟨a, List.mem_filter.2 ⟨ha, hp⟩, by simp [hq]⟩

/-- The members of a list that have not been visited. -/
def remaining {α : Type} [DecidableEq α] (l visited : List α) : Nat :=
  (l.filter fun x => !visited.contains x).length

/-- A visit of a member that has not been visited before leaves fewer. -/
theorem remaining_append_lt {α : Type} [DecidableEq α] {l visited : List α} {a : α} (ha : a ∈ l)
    (hv : a ∉ visited) : remaining l (visited ++ [a]) < remaining l visited :=
  length_filter_lt (by simp_all) ha (by simpa using hv) (by simp)

/-! ## Aliases -/

namespace Symbols

/-- Follows a value through the defines it names. The names passed on the way are the chain; a name
that is passed twice is an error, with the chain up to its second place. -/
def follow (t : Table.Raw Define) (chain : List String) (value : Option Value) :
    Except (List String) (Option Value) :=
  match value with
  | some (.text name) =>
    match _found : t.get? name with
    | none => .ok value
    | some d =>
      if _new : name ∈ chain then .error (chain ++ [name])
      else follow t (chain ++ [name]) d.resolved
  | _ => .ok value
termination_by remaining t.index.keys chain
decreasing_by exact remaining_append_lt (Table.Raw.mem_keys_of_get? _found) _new

@[simp] theorem follow_none (t : Table.Raw Define) (chain : List String) :
    follow t chain none = .ok none := by
  rw [follow]; simp

@[simp] theorem follow_int (t : Table.Raw Define) (chain : List String) (n : Int) :
    follow t chain (some (.int n)) = .ok (some (.int n)) := by
  rw [follow]; simp

theorem follow_of_unknown {t : Table.Raw Define} {name : String} (h : t.get? name = none)
    (chain : List String) : follow t chain (some (.text name)) = .ok (some (.text name)) := by
  rw [follow]
  split <;> simp_all

theorem follow_of_passed {t : Table.Raw Define} {name : String} {d : Define}
    (h : t.get? name = some d) {chain : List String} (hn : name ∈ chain) :
    follow t chain (some (.text name)) = .error (chain ++ [name]) := by
  rw [follow]
  split <;> simp_all

theorem follow_of_new {t : Table.Raw Define} {name : String} {d : Define} (h : t.get? name = some d)
    {chain : List String} (hn : name ∉ chain) :
    follow t chain (some (.text name)) = follow t (chain ++ [name]) d.resolved := by
  rw [follow]
  split <;> simp_all

/-- Where a value leads depends on the kept values and on nothing else. -/
theorem follow_congr {t t' : Table.Raw Define}
    (h : ∀ name, (t'.get? name).map Define.resolved = (t.get? name).map Define.resolved)
    (chain : List String) (value : Option Value) :
    follow t' chain value = follow t chain value := by
  fun_induction follow t chain value with
  | case1 chain name hd =>
    have hd' : t'.get? name = none := by simpa [hd] using h name
    rw [follow_of_unknown hd']
  | case2 chain name d hd hn =>
    obtain ⟨d', hd', -⟩ : ∃ d', t'.get? name = some d' ∧ d'.resolved = d.resolved := by
      simpa [hd] using h name
    rw [follow_of_passed hd' hn]
  | case3 chain name d hd hn ih =>
    obtain ⟨d', hd', hr⟩ : ∃ d', t'.get? name = some d' ∧ d'.resolved = d.resolved := by
      simpa [hd] using h name
    rw [follow_of_new hd' hn, hr, ih]
  | case4 chain value hv =>
    rcases value with _ | n | name
    · exact follow_none t' chain
    · exact follow_int t' chain n
    · exact (hv name rfl).elim

/-! ## New entries -/

/-- The value that a define keeps, given where its written one leads: none, if it leads back to a
name. -/
def kept : Except (List String) (Option Value) → Option Value
  | .ok value => value
  | .error _ => none

/-- What is reported of a define whose written value leads back to a name. -/
def circleFindings (name : String) (location : Location) :
    Except (List String) (Option Value) → Findings Issue
  | .ok _ => ∅
  | .error chain => .error (.circular name chain) location

/-- What a second entry of a name is reported as. -/
def duplicate (space : SymbolSpace) (name : String) (first second : Option Value)
    (previous location : Location) : Findings Issue :=
  if first = second then .warning (.redefinition space name first previous) location
  else .error (.conflict space name first second previous) location

end Symbols

/-- The tables of the defines and of the settings. -/
structure Symbols.Raw where
  defines : Table.Raw Define := ∅
  fixed : Table.Raw Binding := ∅
  fallbacks : Table.Raw Binding := ∅

namespace Symbols.Raw

instance : EmptyCollection Raw := ⟨{}⟩

/-- The value behind all aliases. -/
def resolve (s : Raw) (value : Option Value) : Except (List String) (Option Value) :=
  follow s.defines [] value

/-- The settings of a kind. -/
def settings (s : Raw) : SettingKind → Table.Raw Binding
  | .fixed => s.fixed
  | .fallback => s.fallbacks

/-- The tables with another one for the settings of a kind. -/
def setSettings (s : Raw) (kind : SettingKind) (t : Table.Raw Binding) : Raw :=
  match kind with
  | .fixed => { s with fixed := t }
  | .fallback => { s with fallbacks := t }

/-- A define, with what is to report about it. -/
def define (s : Raw) (name : String) (raw : Option String) (location : Location) :
    Raw × Findings Issue :=
  let value := raw.map Value.ofString
  let result := s.resolve value
  let (defines, previous) := s.defines.insert ⟨name, value, kept result, location⟩
  ({ s with defines := defines },
    circleFindings name location result ++ previous.elim ∅ fun first =>
      duplicate .define name first.value value first.location location)

/-- A define that stands in no header. It gives way to one of the same name. -/
def defineSynthetic (s : Raw) (name : String) (value : Value) (location : Location) : Raw :=
  { s with defines := (s.defines.insert ⟨name, some value, some value, location⟩).1 }

/-- A setting, with what is to report about it. -/
def bind (s : Raw) (kind : SettingKind) (name raw : String) (location : Location) :
    Raw × Findings Issue :=
  let value := Value.ofString raw
  let (t, previous) := (s.settings kind).insert ⟨name, value, location⟩
  (s.setSettings kind t, previous.elim ∅ fun first =>
    duplicate (.setting kind) name (some first.value) (some value) first.location location)

/-- Every table is in step. -/
structure InStep (s : Raw) : Prop where
  defines : s.defines.InStep
  fixed : s.fixed.InStep
  fallbacks : s.fallbacks.InStep

namespace InStep

variable {s : Raw}

theorem empty : (∅ : Raw).InStep := ⟨.empty, .empty, .empty⟩

theorem settings (h : s.InStep) (kind : SettingKind) : (s.settings kind).InStep := by
  cases kind with
  | fixed => exact h.fixed
  | fallback => exact h.fallbacks

theorem setSettings (h : s.InStep) (kind : SettingKind) {t : Table.Raw Binding} (ht : t.InStep) :
    (s.setSettings kind t).InStep := by
  cases kind with
  | fixed => exact ⟨h.defines, ht, h.fallbacks⟩
  | fallback => exact ⟨h.defines, h.fixed, ht⟩

theorem define (h : s.InStep) (name : String) (raw : Option String) (location : Location) :
    (s.define name raw location).1.InStep :=
  ⟨h.defines.insert _, h.fixed, h.fallbacks⟩

theorem defineSynthetic (h : s.InStep) (name : String) (value : Value) (location : Location) :
    (s.defineSynthetic name value location).InStep :=
  ⟨h.defines.insert _, h.fixed, h.fallbacks⟩

theorem bind (h : s.InStep) (kind : SettingKind) (name raw : String) (location : Location) :
    (s.bind kind name raw location).1.InStep :=
  h.setSettings kind ((h.settings kind).insert _)

end InStep

end Symbols.Raw

/-! ## Symbols -/

/-- The defines and the settings. -/
structure Symbols where
  defines : Table Define := ∅
  fixed : Table Binding := ∅
  fallbacks : Table Binding := ∅

namespace Symbols

instance : EmptyCollection Symbols := ⟨{}⟩

instance : Inhabited Symbols := ⟨∅⟩

/-- The tables alone. -/
def raw (s : Symbols) : Raw := ⟨s.defines, s.fixed, s.fallbacks⟩

theorem inStep (s : Symbols) : s.raw.InStep :=
  ⟨s.defines.inStep, s.fixed.inStep, s.fallbacks.inStep⟩

/-- Tables in step. -/
def ofRaw (s : Raw) (h : s.InStep) : Symbols :=
  ⟨⟨s.defines, h.defines⟩, ⟨s.fixed, h.fixed⟩, ⟨s.fallbacks, h.fallbacks⟩⟩

/-- The define of a name. -/
def lookup (s : Symbols) (name : String) : Option Define := s.defines.get? name

/-- Is the name defined? -/
def isDefined (s : Symbols) (name : String) : Bool := s.defines.contains name

/-- The settings of a kind. -/
def settings (s : Symbols) : SettingKind → Table Binding
  | .fixed => s.fixed
  | .fallback => s.fallbacks

/-- The setting of a kind and a name. -/
def setting (s : Symbols) (kind : SettingKind) (name : String) : Option Binding :=
  (s.settings kind).get? name

/-- The number of defines that stand in some header. -/
def declaredCount (s : Symbols) : Nat := s.defines.entries.countP (!·.isSynthetic)

/-- The value behind all aliases. -/
def resolve (s : Symbols) (value : Option Value) : Except (List String) (Option Value) :=
  s.raw.resolve value

/-- A define, with what is to report about it. -/
def define (s : Symbols) (name : String) (raw : Option String) (location : Location) :
    Symbols × Findings Issue :=
  let result := s.raw.define name raw location
  (ofRaw result.1 (s.inStep.define name raw location), result.2)

/-- A define that stands in no header. It gives way to one of the same name. -/
def defineSynthetic (s : Symbols) (name : String) (value : Value) (location : Location) :
    Symbols :=
  ofRaw (s.raw.defineSynthetic name value location) (s.inStep.defineSynthetic name value location)

/-- A setting, with what is to report about it. -/
def bind (s : Symbols) (kind : SettingKind) (name raw : String) (location : Location) :
    Symbols × Findings Issue :=
  let result := s.raw.bind kind name raw location
  (ofRaw result.1 (s.inStep.bind kind name raw location), result.2)

end Symbols

end BoardLint
