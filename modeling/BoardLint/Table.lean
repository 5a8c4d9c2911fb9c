import Std.Data.ExtTreeMap

/-!
# Tables of named entries

Entries in the order in which they were made, with an index that tells the position of a name. An
entry whose name is taken is not added: the one that has the name is given back.

Nothing ties the two parts of a `Table.Raw` to each other. They are in step (`Raw.InStep`) if the
index knows the names of the entries with their positions, and no other names. This is so of no
entries and after every insertion (`Raw.InStep.insert`), and it is all that is needed: no two
entries have one name (`Raw.InStep.nodup`), and a look-up finds the entry of the name
(`Raw.InStep.get?_eq_some_iff`). A `Table` is a raw one in step.
-/

namespace BoardLint

/-- What has a name. -/
class Named (α : Type) where
  name : α → String

/-- Entries in the order in which they were made, and the positions of names. -/
structure Table.Raw (α : Type) where
  entries : List α := []
  index : Std.ExtTreeMap String Nat := ∅

namespace Table.Raw

section

variable {α : Type}

instance : EmptyCollection (Raw α) := ⟨{}⟩

/-- The number of entries. -/
def size (t : Raw α) : Nat := t.entries.length

/-- The entry at the position of a name. -/
def get? (t : Raw α) (name : String) : Option α := t.index[name]?.bind (t.entries[·]?)

/-- Has an entry this name? -/
def contains (t : Raw α) (name : String) : Bool := t.index.contains name

@[simp] theorem index_empty : (∅ : Raw α).index = ∅ := rfl

theorem mem_keys_of_get? {t : Raw α} {name : String} {e : α} (h : t.get? name = some e) :
    name ∈ t.index.keys := by
  obtain ⟨i, hi, -⟩ := Option.bind_eq_some_iff.1 h
  rw [Std.ExtTreeMap.mem_keys, Std.ExtTreeMap.mem_iff_isSome_getElem?, hi]
  rfl

end

variable {α : Type} [Named α] {t : Raw α}

/-- The names of all entries. -/
def names (t : Raw α) : List String := t.entries.map Named.name

/-- The table with one more entry at its end. If the name is taken the table stays as it is, and
the entry of the name is given as well. -/
def insert (t : Raw α) (e : α) : Raw α × Option α :=
  match t.index[Named.name e]? with
  | some i => (t, t.entries[i]?)
  | none => (⟨t.entries ++ [e], t.index.insert (Named.name e) t.entries.length⟩, none)

@[simp] theorem names_empty : (∅ : Raw α).names = [] := rfl

theorem length_names (t : Raw α) : t.names.length = t.entries.length := List.length_map _

theorem getElem?_names (t : Raw α) (i : Nat) : t.names[i]? = t.entries[i]?.map Named.name :=
  List.getElem?_map

/-- A taken name: the table stays, and its entry is given. -/
theorem insert_of_taken {e first : α} (h : t.get? (Named.name e) = some first) :
    t.insert e = (t, some first) := by
  obtain ⟨i, hi, hentry⟩ := Option.bind_eq_some_iff.1 h
  rw [insert, hi, ← hentry]

/-! ## In step -/

theorem getElem?_concat_eq_some_iff {β : Type} {l : List β} {a b : β} {i : Nat} :
    (l ++ [a])[i]? = some b ↔ l[i]? = some b ∨ i = l.length ∧ a = b := by
  rcases Nat.lt_trichotomy i l.length with hi | rfl | hi
  · simp [List.getElem?_append_left hi, Nat.ne_of_lt hi]
  · simp
  · have hlast : (l ++ [a]).length ≤ i := List.length_append ▸ hi
    simp [List.getElem?_eq_none hlast, List.getElem?_eq_none (Nat.le_of_lt hi), Nat.ne_of_gt hi]

/-- The index knows the names of the entries with their positions, and nothing else. -/
def InStep (t : Raw α) : Prop :=
  ∀ (name : String) (i : Nat), t.index[name]? = some i ↔ t.names[i]? = some name

namespace InStep

theorem empty : (∅ : Raw α).InStep := by
  intro name i
  simp

/-- The index has a name if an entry has it. -/
theorem index_eq_none_iff (h : t.InStep) {name : String} :
    t.index[name]? = none ↔ name ∉ t.names := by
  simp only [Option.eq_none_iff_forall_ne_some, ne_eq, h name, List.mem_iff_getElem?, not_exists]

/-- An insertion keeps the index in step with the entries. -/
theorem insert (h : t.InStep) (e : α) : (t.insert e).1.InStep := by
  unfold Raw.insert
  cases hnew : t.index[Named.name e]? with
  | some i => exact h
  | none =>
    intro name i
    rw [Std.ExtTreeMap.getElem?_insert, names, List.map_append, ← names, List.map_singleton,
      getElem?_concat_eq_some_iff, length_names, ← h name i]
    split
    · next hname =>
      -- the new name had no position before, and now it has the last one
      obtain rfl : Named.name e = name := Std.LawfulEqCmp.eq_of_compare hname
      simp [hnew, eq_comm]
    · next hname =>
      have hother : Named.name e ≠ name := fun heq => hname (heq ▸ Std.ReflCmp.compare_self)
      simp [hother]

/-- No two entries have the same name. -/
theorem nodup (h : t.InStep) : t.names.Nodup := by
  refine List.pairwise_iff_getElem.2 fun i j hi hj hij heq => ?_
  have hfirst : t.index[t.names[i]]? = some i := (h _ i).2 (List.getElem?_eq_getElem hi)
  have hsecond : t.index[t.names[i]]? = some j := by
    rw [h, List.getElem?_eq_getElem hj, heq]
  exact Nat.ne_of_lt hij (Option.some.inj (hfirst.symm.trans hsecond))

/-- A look-up finds the entry of the name and no other. -/
theorem get?_eq_some_iff (h : t.InStep) {name : String} {e : α} :
    t.get? name = some e ↔ e ∈ t.entries ∧ Named.name e = name := by
  simp only [get?, Option.bind_eq_some_iff, h name, getElem?_names, Option.map_eq_some_iff,
    List.mem_iff_getElem?]
  constructor
  · rintro ⟨i, ⟨e', he', hname⟩, he⟩
    obtain rfl := Option.some.inj (he'.symm.trans he)
    exact ⟨⟨i, he⟩, hname⟩
  · rintro ⟨⟨i, he⟩, hname⟩
    exact ⟨i, ⟨e, he, hname⟩, he⟩

theorem exists_get? (h : t.InStep) {name : String} (hname : name ∈ t.names) :
    ∃ e, t.get? name = some e := by
  obtain ⟨e, he⟩ := List.mem_map.1 hname
  exact ⟨e, h.get?_eq_some_iff.2 he⟩

theorem get?_eq_none_iff (h : t.InStep) {name : String} :
    t.get? name = none ↔ name ∉ t.names := by
  simp only [Option.eq_none_iff_forall_ne_some, ne_eq, h.get?_eq_some_iff, names, List.mem_map,
    not_exists]

theorem contains_iff (h : t.InStep) {name : String} : t.contains name = true ↔ name ∈ t.names := by
  simp only [contains, Std.ExtTreeMap.contains_eq_isSome_getElem?, Option.isSome_iff_exists, h name,
    List.mem_iff_getElem?]

/-- A new name: its entry is the last one, and nothing is given. -/
theorem insert_of_new (h : t.InStep) {e : α} (hnew : Named.name e ∉ t.names) :
    t.insert e =
      (⟨t.entries ++ [e], t.index.insert (Named.name e) t.entries.length⟩, none) := by
  rw [Raw.insert, h.index_eq_none_iff.2 hnew]

/-- An insertion gives the entry that had the name before. -/
theorem insert_snd (h : t.InStep) (e : α) : (t.insert e).2 = t.get? (Named.name e) := by
  cases hfirst : t.get? (Named.name e) with
  | some first => rw [insert_of_taken hfirst]
  | none => rw [h.insert_of_new (h.get?_eq_none_iff.1 hfirst)]

/-- The entries determine the index. -/
theorem ext {t' : Raw α} (h : t.InStep) (h' : t'.InStep) (he : t.entries = t'.entries) :
    t = t' := by
  obtain ⟨entries, index⟩ := t
  obtain ⟨entries', index'⟩ := t'
  obtain rfl : entries = entries' := he
  congr 1
  exact Std.ExtTreeMap.ext_getElem? fun name =>
    Option.ext fun i => (h name i).trans (h' name i).symm

end InStep

end Table.Raw

/-- Entries in the order in which they were made, with an index that is in step with them. -/
structure Table (α : Type) [Named α] extends Table.Raw α where
  inStep : toRaw.InStep

namespace Table

variable {α : Type} [Named α]

instance : EmptyCollection (Table α) := ⟨⟨∅, .empty⟩⟩

instance : Inhabited (Table α) := ⟨∅⟩

instance : Coe (Table α) (Raw α) := ⟨Table.toRaw⟩

/-- The table with one more entry at its end, unless the name is taken. -/
def insert (t : Table α) (e : α) : Table α := ⟨(t.toRaw.insert e).1, t.inStep.insert e⟩

@[simp] theorem entries_empty : (∅ : Table α).entries = [] := rfl

/-- A look-up finds the entry of the name and no other. -/
theorem get?_eq_some_iff {t : Table α} {name : String} {e : α} :
    t.get? name = some e ↔ e ∈ t.entries ∧ Named.name e = name := t.inStep.get?_eq_some_iff

theorem nodup_names (t : Table α) : t.names.Nodup := t.inStep.nodup

theorem mem_of_get? {t : Table α} {name : String} {e : α} (h : t.get? name = some e) :
    e ∈ t.entries := (get?_eq_some_iff.1 h).1

theorem name_of_get? {t : Table α} {name : String} {e : α} (h : t.get? name = some e) :
    Named.name e = name := (get?_eq_some_iff.1 h).2

theorem mem_names_of_get? {t : Table α} {name : String} {e : α} (h : t.get? name = some e) :
    name ∈ t.names := List.mem_map.2 ⟨e, mem_of_get? h, name_of_get? h⟩

theorem get?_eq_none_iff {t : Table α} {name : String} : t.get? name = none ↔ name ∉ t.names :=
  t.inStep.get?_eq_none_iff

theorem contains_iff {t : Table α} {name : String} : t.contains name = true ↔ name ∈ t.names :=
  t.inStep.contains_iff

theorem contains_eq_isSome (t : Table α) (name : String) :
    t.contains name = (t.get? name).isSome := by
  rw [Bool.eq_iff_iff, contains_iff, Option.isSome_iff_exists]
  exact ⟨t.inStep.exists_get?, fun ⟨_, he⟩ => mem_names_of_get? he⟩

theorem ext_entries {t t' : Table α} (h : t.entries = t'.entries) : t = t' := by
  obtain ⟨t, ht⟩ := t
  obtain ⟨t', ht'⟩ := t'
  obtain rfl : t = t' := ht.ext ht' h
  rfl

theorem entries_insert {t : Table α} {e : α} (h : Named.name e ∉ t.names) :
    (t.insert e).entries = t.entries ++ [e] :=
  congrArg (fun r => r.1.entries) (t.inStep.insert_of_new h)

theorem insert_of_mem {t : Table α} {e : α} (h : Named.name e ∈ t.names) : t.insert e = t := by
  obtain ⟨first, hfirst⟩ := t.inStep.exists_get? h
  exact ext_entries (congrArg (fun r => r.1.entries) (Raw.insert_of_taken hfirst))

theorem names_insert (t : Table α) (e : α) :
    (t.insert e).names = if Named.name e ∈ t.names then t.names else t.names ++ [Named.name e] := by
  split
  · rename_i h
    rw [insert_of_mem h]
  · rename_i h
    rw [Raw.names, entries_insert h, List.map_append]
    rfl

/-- The entries of a table stay where they are. -/
theorem entries_isPrefix_insert (t : Table α) (e : α) : t.entries <+: (t.insert e).entries := by
  by_cases h : Named.name e ∈ t.names
  · exact (insert_of_mem h).symm ▸ List.prefix_refl t.entries
  · rw [entries_insert h]
    exact List.prefix_append ..

/-- What was found before is found afterwards; else the new entry, if the name is its own. -/
theorem get?_insert (t : Table α) (e : α) (name : String) :
    (t.insert e).get? name = (t.get? name).or (if Named.name e = name then some e else none) := by
  by_cases h : Named.name e ∈ t.names
  · rw [insert_of_mem h]
    split
    · next hname =>
      obtain ⟨first, hfirst⟩ := t.inStep.exists_get? (hname ▸ h)
      rw [hfirst, Option.some_or]
    · rw [Option.or_none]
  · ext e'
    rw [get?_eq_some_iff, entries_insert h, Option.or_eq_some_iff, get?_eq_some_iff,
      get?_eq_none_iff, List.mem_append, List.mem_singleton]
    constructor
    · rintro ⟨he | rfl, rfl⟩
      · exact .inl ⟨he, rfl⟩
      · exact .inr ⟨h, if_pos rfl⟩
    · rintro (⟨he, hname⟩ | ⟨-, hnew⟩)
      · exact ⟨.inl he, hname⟩
      · obtain ⟨hname, he⟩ := Option.ite_none_right_eq_some.1 hnew
        exact ⟨.inr (Option.some.inj he).symm, Option.some.inj he ▸ hname⟩

/-- The table of these entries. Of those with one name the first one stays. -/
def ofEntries (entries : List α) : Table α := entries.foldl insert ∅

theorem entries_foldl_insert {t : Table α} {l : List α}
    (h : (t.names ++ l.map Named.name).Nodup) : (l.foldl insert t).entries = t.entries ++ l := by
  induction l generalizing t with
  | nil => exact (List.append_nil _).symm
  | cons e l ih =>
    rw [List.map_cons, List.append_cons] at h
    have hnew : Named.name e ∉ t.names := fun hmem =>
      (List.nodup_append.1 (List.nodup_append.1 h).1).2.2 _ hmem _ (List.mem_singleton_self _) rfl
    have hnames : (t.insert e).names = t.names ++ [Named.name e] := by
      rw [names_insert, if_neg hnew]
    rw [List.foldl_cons, ih (hnames ▸ h), entries_insert hnew, List.append_assoc,
      List.singleton_append]

theorem entries_ofEntries {l : List α} (h : (l.map Named.name).Nodup) :
    (ofEntries l).entries = l := entries_foldl_insert h

end Table

end BoardLint
