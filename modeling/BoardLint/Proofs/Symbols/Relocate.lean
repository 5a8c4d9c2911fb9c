import BoardLint.Proofs.Symbols.Calls

/-!
# Symbols at other locations

Locations are recorded and reported, and nothing depends on them. `Symbols.relocate` sends every
recorded location through a function, and the operations on symbols do not notice: they do to the
relocated symbols what they do to the symbols, and report the same at the relocated places.
-/

namespace BoardLint

variable {g : Location → Location}

namespace Table

variable {α β : Type} [Named α] [Named β] {f : α → β}

theorem map_name_map (hf : ∀ a, Named.name (f a) = Named.name a) (l : List α) :
    (l.map f).map Named.name = l.map Named.name := by
  rw [List.map_map]
  exact List.map_congr_left fun a _ => hf a

/-- The table with every entry changed, but not its name. -/
def map (f : α → β) (hf : ∀ a, Named.name (f a) = Named.name a) (t : Table α) : Table β where
  entries := t.entries.map f
  index := t.index
  inStep := by
    intro name i
    rw [Raw.names, map_name_map hf]
    exact t.inStep name i

variable (hf : ∀ a, Named.name (f a) = Named.name a) (t : Table α)

@[simp] theorem entries_map : (t.map f hf).entries = t.entries.map f := rfl

@[simp] theorem names_map : (t.map f hf).names = t.names := map_name_map hf t.entries

@[simp] theorem get?_map (name : String) : (t.map f hf).get? name = (t.get? name).map f := by
  show t.index[name]?.bind ((t.entries.map f)[·]?) = _
  simp only [Raw.get?, List.getElem?_map, Option.map_bind, Function.comp_def]

@[simp] theorem contains_map (name : String) :
    (t.map f hf).contains name = t.contains name := rfl

theorem map_insert (e : α) : (t.insert e).map f hf = (t.map f hf).insert (f e) := by
  apply ext_entries
  by_cases h : Named.name e ∈ t.names
  · rw [insert_of_mem h, insert_of_mem (by rwa [hf, names_map])]
  · rw [entries_map, entries_insert h, entries_insert (by rwa [hf, names_map])]
    simp

end Table

/-! ## What is reported -/

namespace Issue

/-- The issue, with the location that it names relocated. -/
def relocate (g : Location → Location) : Issue → Issue
  | conflict space name first second previous => conflict space name first second (g previous)
  | redefinition space name value previous => redefinition space name value (g previous)
  | issue => issue

end Issue

/-- An issue in its place, relocated. -/
def Located.relocate (g : Location → Location) (x : Located Issue) : Located Issue :=
  ⟨x.cause.relocate g, g x.location⟩

namespace Findings

/-- The findings, each relocated. -/
def relocate (g : Location → Location) (f : Findings Issue) : Findings Issue :=
  ⟨f.errors.map (.relocate g), f.warnings.map (.relocate g)⟩

@[simp] theorem relocate_empty : (∅ : Findings Issue).relocate g = ∅ := rfl

@[simp] theorem relocate_append (f f' : Findings Issue) :
    (f ++ f').relocate g = f.relocate g ++ f'.relocate g := by
  ext1 <;> simp [relocate]

@[simp] theorem relocate_error (i : Issue) (l : Location) :
    (error i l : Findings Issue).relocate g = error (i.relocate g) (g l) := rfl

@[simp] theorem relocate_warning (i : Issue) (l : Location) :
    (warning i l : Findings Issue).relocate g = warning (i.relocate g) (g l) := rfl

@[simp] theorem relocate_errorIf (p : Prop) [Decidable p] (i : Issue) (l : Location) :
    (errorIf p i l : Findings Issue).relocate g = errorIf p (i.relocate g) (g l) := by
  unfold errorIf
  split <;> rfl

end Findings

/-! ## Entries and symbols -/

/-- The define at the relocated place. -/
def Define.relocate (g : Location → Location) (d : Define) : Define :=
  { d with location := g d.location }

theorem Define.name_relocate (d : Define) : Named.name (d.relocate g) = Named.name d := rfl

/-- The setting at the relocated place. -/
def Binding.relocate (g : Location → Location) (b : Binding) : Binding :=
  { b with location := g b.location }

theorem Binding.name_relocate (b : Binding) : Named.name (b.relocate g) = Named.name b := rfl

namespace Symbols

/-- The symbols, with every location relocated. -/
def relocate (g : Location → Location) (s : Symbols) : Symbols where
  defines := s.defines.map (Define.relocate g) Define.name_relocate
  fixed := s.fixed.map (Binding.relocate g) Binding.name_relocate
  fallbacks := s.fallbacks.map (Binding.relocate g) Binding.name_relocate

variable (s : Symbols)

@[simp] theorem lookup_relocate (name : String) :
    (s.relocate g).lookup name = (s.lookup name).map (.relocate g) :=
  Table.get?_map Define.name_relocate ..

@[simp] theorem isDefined_relocate (name : String) :
    (s.relocate g).isDefined name = s.isDefined name :=
  Table.contains_map Define.name_relocate ..

@[simp] theorem setting_relocate (kind : SettingKind) (name : String) :
    (s.relocate g).setting kind name = (s.setting kind name).map (.relocate g) := by
  cases kind <;> exact Table.get?_map Binding.name_relocate ..

/-- Synthetic defines are told by their locations, so here the function must keep lines. -/
theorem declaredCount_relocate (hg : ∀ l, (g l).line = l.line) :
    (s.relocate g).declaredCount = s.declaredCount := by
  simp [declaredCount, relocate, Define.isSynthetic, Define.relocate, List.countP_map,
    Function.comp_def, hg]

@[simp] theorem resolve_relocate (v : Option Value) :
    (s.relocate g).resolve v = s.resolve v := by
  refine follow_congr (fun name => ?_) [] v
  show ((s.relocate g).lookup name).map Define.resolved = (s.lookup name).map Define.resolved
  rw [lookup_relocate, Option.map_map]
  rfl

@[simp] theorem relocate_duplicate (space : SymbolSpace) (name : String)
    (first second : Option Value) (previous l : Location) :
    (duplicate space name first second previous l).relocate g =
      duplicate space name first second (g previous) (g l) := by
  unfold duplicate
  split <;> rfl

theorem relocate_circleFindings (name : String) (l : Location)
    (result : Except (List String) (Option Value)) :
    (circleFindings name l result).relocate g = circleFindings name (g l) result := by
  cases result <;> rfl

theorem relocate_entry (name : String) (raw : Option String) (l : Location) :
    (s.entry name raw l).relocate g = (s.relocate g).entry name raw (g l) := by
  simp only [entry, resolve_relocate]
  rfl

theorem relocate_insert_define (d : Define) :
    relocate g { s with defines := s.defines.insert d } =
      { s.relocate g with defines := (s.relocate g).defines.insert (d.relocate g) } := by
  simp only [relocate, Table.map_insert]

theorem define_relocate (name : String) (raw : Option String) (l : Location) :
    (s.relocate g).define name raw (g l) =
      ((s.define name raw l).1.relocate g, (s.define name raw l).2.relocate g) := by
  cases h : s.lookup name with
  | none =>
    rw [define_of_new h, define_of_new (by rw [lookup_relocate, h]; rfl), relocate_insert_define,
      relocate_entry, relocate_circleFindings, resolve_relocate]
  | some first =>
    rw [define_of_taken h, define_of_taken (by rw [lookup_relocate, h]; rfl), resolve_relocate,
      Findings.relocate_append, relocate_circleFindings, relocate_duplicate]
    rfl

theorem defineSynthetic_relocate (name : String) (v : Value) (l : Location) :
    (s.relocate g).defineSynthetic name v (g l) =
      (s.defineSynthetic name v l).relocate g := by
  rw [defineSynthetic_eq, defineSynthetic_eq, relocate_insert_define]
  rfl

theorem relocate_insertSetting (kind : SettingKind) (b : Binding) :
    (s.insertSetting kind b).relocate g = (s.relocate g).insertSetting kind (b.relocate g) := by
  cases kind <;> simp [insertSetting, relocate, Table.map_insert]

theorem bind_relocate (kind : SettingKind) (name raw : String) (l : Location) :
    (s.relocate g).bind kind name raw (g l) =
      ((s.bind kind name raw l).1.relocate g, (s.bind kind name raw l).2.relocate g) := by
  cases h : s.setting kind name with
  | none =>
    rw [bind_of_new h, bind_of_new (by rw [setting_relocate, h]; rfl), relocate_insertSetting]
    rfl
  | some first =>
    rw [bind_of_taken h, bind_of_taken (by rw [setting_relocate, h]; rfl), relocate_duplicate]
    rfl

/-! ## Without locations -/

/-- What there is to symbols besides their locations. -/
structure Content where
  /-- The name, the written value and the kept value of each define. -/
  defines : List (String × Option Value × Option Value)
  fixed : List (String × Value)
  fallbacks : List (String × Value)
deriving DecidableEq

/-- The symbols without their locations. -/
def content (s : Symbols) : Content where
  defines := s.defines.entries.map fun d => (d.name, d.value, d.resolved)
  fixed := s.fixed.entries.map fun b => (b.name, b.value)
  fallbacks := s.fallbacks.entries.map fun b => (b.name, b.value)

@[simp] theorem content_relocate : (s.relocate g).content = s.content := by
  simp [content, relocate, Function.comp_def, Define.relocate, Binding.relocate]

end Symbols

end BoardLint
