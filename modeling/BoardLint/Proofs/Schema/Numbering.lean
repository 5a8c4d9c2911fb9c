import BoardLint.Proofs.Json.Decode
import BoardLint.Proofs.Numeral
import BoardLint.Proofs.Schema.Tables
import BoardLint.Proofs.Text.ByteOrder
import BoardLint.Schema

/-!
# The schema of a document

A document has its instances under texts, and its schema has them under the numbers that these texts
denote: `0`, `00`, `+0` and ` 0` are one instance, the one of the greatest text in the order of
bytes. There is no schema if some text denotes no number, and then the first such text is reported,
in the order of the names of the interfaces and then of the texts (`ofText_numbers`).
-/

namespace BoardLint.Schema

open Std Text

/-! ## What a key denotes -/

/-- The key of an instance denotes this number: an optional plus and decimal digits of a number of
32 bits, with white space around them. -/
def Denotes (key : String) (n : Int) : Prop :=
  ∃ m : Nat, trim key.toList ∈ (lit "+" + 1) * Numeral.digits 10 m ∧ m < 2 ^ 32 ∧ n = m

/-- A key of an interface of the document that denotes no number. -/
def Offends (d : Document) (name key : String) : Prop :=
  ∃ entry, d.interfaces[name]? = some entry ∧ key ∈ entry.instances ∧ ∀ n, ¬ Denotes key n

/-- The first key that offends, in the order of the bytes of the names, and then of the keys. -/
structure FirstOffence (d : Document) (name key : String) : Prop where
  offends : Offends d name key
  first : ∀ name' key', Offends d name' key' →
    bytes name < bytes name' ∨ name' = name ∧ bytes key ≤ bytes key'

/-- The interface has the instances of the entry under the numbers that their keys denote, of the
keys for one number the greatest in the order of bytes. -/
structure Numbers (entry : InterfaceEntry) (i : Interface) : Prop where
  expected : i.expected = entry.expected
  some_iff : ∀ n functions, i.instance? n = some functions ↔
    ∃ key, entry.instances[key]? = some functions ∧ Denotes key n ∧
      ∀ key' ∈ entry.instances, Denotes key' n → bytes key' ≤ bytes key
  none_iff : ∀ n, i.instance? n = none ↔ ∀ key ∈ entry.instances, ¬ Denotes key n

/-- The schema has the pins of the document, and its interfaces with their instances under
numbers. -/
structure Reads (d : Document) (s : Schema) : Prop where
  pins : ∀ pin : Int, s.allowsPin pin = true ↔ ∃ n ∈ d.pins, pin = n
  interfaces : ∀ name, Option.Rel Numbers d.interfaces[name]? (s.interface? name)

/-! ## Reading keys -/

theorem plus_cons_not_mem_digits {m : Nat} {cs : List Char} :
    '+' :: cs ∉ Numeral.digits 10 m := by
  have hplus : ∀ d < 10, '+'.toLower ≠ Nat.digitChar d := by decide
  intro h
  obtain ⟨d, hd, hchar⟩ := Numeral.writesDigit_of_mem h List.mem_cons_self
  exact hplus d hd hchar

theorem instanceNumber?_eq_some_iff {key : String} {m : Nat} :
    instanceNumber? key = some m ↔
      trim key.toList ∈ (lit "+" + 1) * Numeral.digits 10 m ∧ m < 2 ^ 32 := by
  have hrange : decide (m ≤ maxNumber) = true ↔ m < 2 ^ 32 :=
    decide_eq_true_iff.trans Nat.lt_succ_iff.symm
  rw [add_mul, one_mul, Language.mem_add, mem_lit_mul]
  unfold instanceNumber?
  split <;> rw [Option.filter_eq_some_iff, Numeral.natural?_eq_some_iff (by decide), hrange]
  · next cs htrim =>
    refine and_congr_left fun _ => ?_
    rw [htrim, or_iff_left plus_cons_not_mem_digits]
    exact ⟨fun h => ⟨cs, rfl, h⟩, fun ⟨_, heq, h⟩ => (List.cons.inj heq).2 ▸ h⟩
  · next hplus =>
    refine and_congr_left fun _ => ?_
    rw [or_iff_right]
    rintro ⟨cs, htrim, -⟩
    exact hplus cs htrim

/-- A key denotes an integer that is the number of an instance. -/
theorem denotes_iff {key : String} {n : Int} :
    Denotes key n ↔ ∃ m, number? n = some m ∧ instanceNumber? key = some m := by
  unfold Denotes
  refine exists_congr fun m => ?_
  rw [number?_eq_some_iff, instanceNumber?_eq_some_iff]
  have hrange : m ≤ maxNumber ↔ m < 2 ^ 32 := Nat.lt_succ_iff.symm
  tauto

theorem instanceNumber?_eq_none_iff {key : String} :
    instanceNumber? key = none ↔ ∀ n, ¬ Denotes key n := by
  simp only [denotes_iff, Option.eq_none_iff_forall_ne_some, not_exists, not_and]
  refine ⟨fun h _ m _ => h m, fun h m hm => h m m ?_ hm⟩
  exact number?_eq_some_iff.2 ⟨rfl, Nat.lt_succ_iff.1 (instanceNumber?_eq_some_iff.1 hm).2⟩

theorem mem_iff_exists {α : Type} {t : TreeMap String α} {key : String} :
    key ∈ t ↔ ∃ a, t[key]? = some a :=
  TreeMap.mem_iff_isSome_getElem?.trans Option.isSome_iff_exists

theorem offends_iff {d : Document} {name key : String} {entry : InterfaceEntry}
    (h : d.interfaces[name]? = some entry) :
    Offends d name key ↔ key ∈ entry.instances ∧ instanceNumber? key = none := by
  rw [instanceNumber?_eq_none_iff]
  constructor
  · rintro ⟨entry', h', hkey⟩
    obtain rfl := Option.some.inj (h.symm.trans h')
    exact hkey
  · exact fun hkey => ⟨entry, h, hkey⟩

/-! ## Instances -/

/-- An instance under its number. -/
def numbered (interface : String) (p : String × Functions) :
    Except SchemaError (Nat × Functions) :=
  match instanceNumber? p.1 with
  | some n => .ok (n, p.2)
  | none => .error (.instanceKey interface p.1)

section Instances

variable {interface key : String} {functions : Functions} {e : SchemaError}

theorem numbered_eq_ok_iff {functions' : Functions} {m : Nat} :
    numbered interface (key, functions) = .ok (m, functions') ↔
      instanceNumber? key = some m ∧ functions = functions' := by
  unfold numbered
  cases instanceNumber? key <;> simp

theorem exists_numbered_under_iff {m : Nat} :
    (∃ functions', numbered interface (key, functions) = .ok (m, functions')) ↔
      instanceNumber? key = some m := by
  simp [numbered_eq_ok_iff]

theorem exists_numbered_eq_ok_iff :
    (∃ p, numbered interface (key, functions) = .ok p) ↔ instanceNumber? key ≠ none := by
  unfold numbered
  cases instanceNumber? key <;> simp

theorem numbered_eq_error_iff :
    numbered interface (key, functions) = .error e ↔
      instanceNumber? key = none ∧ .instanceKey interface key = e := by
  unfold numbered
  cases instanceNumber? key <;> simp

theorem exists_numbered_eq_error_iff :
    (∃ e, numbered interface (key, functions) = .error e) ↔ instanceNumber? key = none := by
  simp [numbered_eq_error_iff]

theorem numberInstances_eq (interface : String) (l : List (String × Functions))
    (m : TreeMap Nat Functions) :
    numberInstances interface l m = insertAll (numbered interface) l m := by
  induction l generalizing m with
  | nil => rfl
  | cons p l ih =>
    obtain ⟨key, functions⟩ := p
    unfold numberInstances insertAll numbered
    cases instanceNumber? key with
    | none => rfl
    | some n => exact ih _

end Instances

/-! ## Interfaces -/

/-- An interface under its name, with its instances under numbers. -/
def numberedInterface (p : String × InterfaceEntry) : Except SchemaError (String × Interface) :=
  (numberInstances p.1 p.2.instances.toList ∅).map fun instances =>
    (p.1, ⟨instances, p.2.expected⟩)

theorem numberInterfaces_eq (l : List (String × InterfaceEntry)) (m : TreeMap String Interface) :
    numberInterfaces l m = insertAll numberedInterface l m := by
  induction l generalizing m with
  | nil => rfl
  | cons p l ih =>
    obtain ⟨name, entry⟩ := p
    unfold numberInterfaces insertAll numberedInterface
    cases numberInstances name entry.instances.toList ∅ with
    | error e => rfl
    | ok instances => exact ih _

section Interfaces

variable {name : String} {entry : InterfaceEntry} {i : Interface} {e : SchemaError}

theorem numberedInterface_eq_ok_iff {name' : String} :
    numberedInterface (name, entry) = .ok (name', i) ↔
      name = name' ∧ entry.expected = i.expected ∧
        insertAll (numbered name) entry.instances.toList ∅ = .ok i.instances := by
  unfold numberedInterface
  rw [numberInstances_eq]
  cases insertAll (numbered name) entry.instances.toList ∅ with
  | error e => simp [Except.map]
  | ok instances =>
    simp only [Except.map, Except.ok.injEq, Prod.mk.injEq]
    exact and_congr_right fun _ =>
      ⟨fun h => h ▸ ⟨rfl, rfl⟩, fun ⟨hexpected, hinstances⟩ => by rw [hexpected, hinstances]⟩

theorem numberedInterface_eq_error_iff :
    numberedInterface (name, entry) = .error e ↔
      insertAll (numbered name) entry.instances.toList ∅ = .error e := by
  rw [numberedInterface, numberInstances_eq, map_eq_error_iff]

theorem numbers_of_numberedInterface {name' : String}
    (h : numberedInterface (name, entry) = .ok (name', i)) : Numbers entry i := by
  obtain ⟨-, hexpected, hinstances⟩ := numberedInterface_eq_ok_iff.1 h
  have hlookup : ∀ n, i.instance? n = (number? n).bind (i.instances[·]?) := fun _ => rfl
  refine ⟨hexpected.symm, fun n functions => ?_, fun n => ?_⟩
  · rw [hlookup]
    simp only [denotes_iff]
    cases number? n with
    | none => simp
    | some m =>
      simp only [Option.bind_some, Option.some.injEq, exists_eq_left', mem_iff_exists]
      rw [getElem?_insertAll_toList_eq_some_iff hinstances]
      -- The competing keys come first: inside of them the other lemma would apply too.
      simp only [exists_numbered_under_iff]
      simp only [numbered_eq_ok_iff, le_iff_bytes_le, forall_exists_index]
      constructor
      · rintro ⟨key, functions, hkey, ⟨hm, rfl⟩, hlast⟩
        exact ⟨key, hkey, hm, hlast⟩
      · rintro ⟨key, hkey, hm, hlast⟩
        exact ⟨key, functions, hkey, ⟨hm, rfl⟩, hlast⟩
  · rw [hlookup]
    simp only [denotes_iff]
    cases number? n with
    | none => simp
    | some m =>
      simp only [Option.bind_some, Option.some.injEq, exists_eq_left', mem_iff_exists]
      rw [getElem?_insertAll_toList_eq_none_iff hinstances]
      simp only [exists_numbered_under_iff, forall_exists_index]

variable {d : Document}

/-- The first key of an interface that offends is reported. -/
theorem numberedInterface_eq_error_iff_of_mem (h : d.interfaces[name]? = some entry) :
    numberedInterface (name, entry) = .error e ↔ ∃ key, Offends d name key ∧
      (∀ key', Offends d name key' → key ≤ key') ∧ .instanceKey name key = e := by
  rw [numberedInterface_eq_error_iff, insertAll_toList_eq_error_iff]
  simp only [exists_numbered_eq_error_iff]
  simp only [numbered_eq_error_iff, offends_iff h, mem_iff_exists, and_imp, forall_exists_index]
  constructor
  · rintro ⟨key, functions, hkey, ⟨hnone, rfl⟩, hfirst⟩
    exact ⟨key, ⟨⟨functions, hkey⟩, hnone⟩, hfirst, rfl⟩
  · rintro ⟨key, ⟨⟨functions, hkey⟩, hnone⟩, hfirst, rfl⟩
    exact ⟨key, functions, hkey, ⟨hnone, rfl⟩, hfirst⟩

theorem exists_numberedInterface_eq_ok_iff (h : d.interfaces[name]? = some entry) :
    (∃ p, numberedInterface (name, entry) = .ok p) ↔ ∀ key, ¬ Offends d name key := by
  rw [numberedInterface, exists_map_eq_ok_iff, numberInstances_eq,
    exists_insertAll_toList_eq_ok_iff]
  simp only [offends_iff h, exists_numbered_eq_ok_iff, mem_iff_exists, not_and,
    forall_exists_index]

theorem exists_numberedInterface_eq_error_iff (h : d.interfaces[name]? = some entry) :
    (∃ e, numberedInterface (name, entry) = .error e) ↔ ∃ key, Offends d name key := by
  rw [exists_eq_error_iff, exists_numberedInterface_eq_ok_iff h, not_forall_not]

end Interfaces

/-! ## Documents -/

section Documents

variable {d : Document}

theorem firstOffence_iff {name key : String} :
    FirstOffence d name key ↔ Offends d name key ∧ (∀ key', Offends d name key' → key ≤ key') ∧
      ∀ name' key', Offends d name' key' → name ≤ name' := by
  constructor
  · rintro ⟨hoffends, hfirst⟩
    refine ⟨hoffends, fun key' h => ?_, fun name' key' h => ?_⟩
    · rcases hfirst name key' h with hlt | ⟨-, hle⟩
      · exact absurd hlt (List.lt_irrefl _)
      · exact le_iff_bytes_le.2 hle
    · rcases hfirst name' key' h with hlt | ⟨rfl, -⟩
      · exact (lt_iff_bytes_lt.2 hlt).le
      · exact le_rfl
  · rintro ⟨hoffends, hkey, hname⟩
    refine ⟨hoffends, fun name' key' h => ?_⟩
    rcases (hname name' key' h).lt_or_eq with hlt | rfl
    · exact .inl (lt_iff_bytes_lt.1 hlt)
    · exact .inr ⟨rfl, le_iff_bytes_le.1 (hkey key' h)⟩

/-- The first key that offends is reported. -/
theorem ofDocument_eq_error_iff {e : SchemaError} :
    ofDocument d = .error e ↔
      ∃ name key, FirstOffence d name key ∧ .instanceKey name key = e := by
  rw [ofDocument, numberInterfaces_eq, map_eq_error_iff, insertAll_toList_eq_error_iff]
  constructor
  · rintro ⟨name, entry, hentry, herror, hnames⟩
    obtain ⟨key, hkey, hkeys, rfl⟩ := (numberedInterface_eq_error_iff_of_mem hentry).1 herror
    refine ⟨name, key, firstOffence_iff.2 ⟨hkey, hkeys, fun name' key' h => ?_⟩, rfl⟩
    obtain ⟨entry', hentry', -⟩ := id h
    exact hnames name' entry' hentry' ((exists_numberedInterface_eq_error_iff hentry').2 ⟨key', h⟩)
  · rintro ⟨name, key, h, rfl⟩
    obtain ⟨hkey, hkeys, hnames⟩ := firstOffence_iff.1 h
    obtain ⟨entry, hentry, -⟩ := id hkey
    refine ⟨name, entry, hentry, ?_, fun name' entry' hentry' herror => ?_⟩
    · exact (numberedInterface_eq_error_iff_of_mem hentry).2 ⟨key, hkey, hkeys, rfl⟩
    · obtain ⟨key', hkey'⟩ := (exists_numberedInterface_eq_error_iff hentry').1 herror
      exact hnames name' key' hkey'

theorem exists_ofDocument_eq_ok_iff :
    (∃ s, ofDocument d = .ok s) ↔ ∀ name key, ¬ Offends d name key := by
  rw [ofDocument, exists_map_eq_ok_iff, numberInterfaces_eq, exists_insertAll_toList_eq_ok_iff]
  constructor
  · rintro h name key ⟨entry, hentry, hkey⟩
    exact (exists_numberedInterface_eq_ok_iff hentry).1 (h name entry hentry) key
      ⟨entry, hentry, hkey⟩
  · exact fun h name entry hentry => (exists_numberedInterface_eq_ok_iff hentry).2 (h name)

/-- Each interface of the document is an interface of the schema, and there are no others. -/
theorem rel_of_insertAll {interfaces : TreeMap String Interface}
    (h : insertAll numberedInterface d.interfaces.toList ∅ = .ok interfaces) (name : String) :
    Option.Rel Numbers d.interfaces[name]? interfaces[name]? := by
  cases hentry : d.interfaces[name]? with
  | none =>
    have hnone : interfaces[name]? = none := by
      rw [getElem?_insertAll_toList_eq_none_iff h]
      rintro name' entry hentry' ⟨i, hi⟩
      obtain ⟨rfl, -⟩ := numberedInterface_eq_ok_iff.1 hi
      exact absurd (hentry.symm.trans hentry') nofun
    rw [hnone]
    exact .none
  | some entry =>
    obtain ⟨⟨name', i⟩, hi⟩ :=
      exists_insertAll_toList_eq_ok_iff.1 ⟨interfaces, h⟩ name entry hentry
    obtain ⟨rfl, -⟩ := numberedInterface_eq_ok_iff.1 hi
    have hsome : interfaces[name]? = some i := by
      rw [getElem?_insertAll_toList_eq_some_iff h]
      refine ⟨name, entry, hentry, hi, ?_⟩
      rintro name' entry' - ⟨i', hi'⟩
      exact (numberedInterface_eq_ok_iff.1 hi').1.le
    rw [hsome]
    exact .some (numbers_of_numberedInterface hi)

theorem Reads.exists_numbers {s : Schema} {name : String} {entry : InterfaceEntry} (h : Reads d s)
    (hentry : d.interfaces[name]? = some entry) :
    ∃ i, s.interface? name = some i ∧ Numbers entry i := by
  have hrel := h.interfaces name
  rw [hentry] at hrel
  generalize s.interface? name = i? at hrel ⊢
  cases hrel with
  | some hi => exact ⟨_, rfl, hi⟩

theorem reads_of_ofDocument {s : Schema} (hpins : ∀ n ∈ d.pins, n ≤ maxNumber)
    (h : ofDocument d = .ok s) : Reads d s := by
  rw [ofDocument, numberInterfaces_eq] at h
  cases hinterfaces : insertAll numberedInterface d.interfaces.toList ∅ with
  | error e => simp [hinterfaces, Except.map] at h
  | ok interfaces =>
    rw [hinterfaces] at h
    obtain rfl := Except.ok.inj h
    refine ⟨fun pin => ?_, rel_of_insertAll hinterfaces⟩
    rw [allowsPin_iff]
    exact exists_congr fun n => and_congr_right fun hn => and_iff_right (hpins n hn)

end Documents

/-! ## Texts -/

namespace Document

open Json

/-- A field keeps what its setter keeps. -/
theorem read_field_gives {σ α : Type} {I : σ → Prop} {P : α → Prop} {name : String}
    {get : σ → Option α} {set : σ → α → σ} {value : Decoder α} (hvalue : value.Gives P)
    (hset : ∀ s a, I s → P a → I (set s a)) (s : σ) (hs : I s) :
    ((field name get set value).read s).Gives I := by
  intro ts s' left h
  obtain ⟨⟨a, left⟩, ha, h⟩ := bind_eq_ok_iff.1 h
  obtain ⟨rfl, -⟩ := Prod.mk.inj (Except.ok.inj h)
  exact hset s a hs (hvalue ha)

theorem required_eq_ok_iff {α : Type} {name : String} {closing : Nat} {a? : Option α} {a : α} :
    required name closing a? = .ok a ↔ a? = some a := by
  cases a? <;> simp [required]

/-- The pins that have been read are numbers of 32 bits. -/
def DocumentFields.Small (s : DocumentFields) : Prop :=
  ∀ pins, s.pins = some pins → ∀ n ∈ pins, n ≤ maxNatural

theorem small_pins {s : DocumentFields} {pins : List Nat} (h : ∀ n ∈ pins, n ≤ maxNatural) :
    { s with pins := some pins }.Small :=
  fun _ heq => Option.some.inj heq ▸ h

theorem document_gives : document.Gives fun d => ∀ n ∈ d.pins, n ≤ maxNatural := by
  intro ts d left h
  obtain ⟨⟨⟨s, closing⟩, left⟩, hrecord, h⟩ := bind_eq_ok_iff.1 h
  obtain ⟨pins, hpins, h⟩ := bind_eq_ok_iff.1 h
  obtain ⟨interfaces, -, h⟩ := bind_eq_ok_iff.1 h
  obtain ⟨rfl, -⟩ := Prod.mk.inj (Except.ok.inj h)
  have hsmall : s.Small := by
    refine record_gives ?_ _ nofun hrecord
    refine List.forall_mem_cons.2 ⟨?_, List.forall_mem_singleton.2 ?_⟩
    · exact read_field_gives (list_gives natural_gives) fun _ _ _ hpins => small_pins hpins
    · exact read_field_gives (P := fun _ => True) (fun _ _ _ _ => trivial) fun _ _ hs _ => hs
  exact hsmall pins (required_eq_ok_iff.1 hpins)

/-- The pins of every document that the reader gives are numbers of 32 bits. -/
def Reader.Has32BitPins (decode : Reader) : Prop :=
  ∀ text d, decode text = .ok d → ∀ n ∈ d.pins, n ≤ maxNumber

theorem has32BitPins_ofText : Reader.Has32BitPins ofText := by
  intro text d h
  exact of_decode document_gives (mapError_eq_ok_iff.1 h)

end Document

/-- A document has a schema exactly if every key of an instance denotes a number. If not, the first
key that denotes none is reported. If so, the schema has the pins of the document, and its
interfaces with the instances under the numbers that their keys denote. Of the reader that gives the
document only the range of the pins matters. -/
theorem ofText_numbers {decode : Document.Reader} (hdecode : decode.Has32BitPins) {text : String}
    {d : Document} (h : decode text = .ok d) (source : Source) :
    ((∃ s, ofText decode source text = .ok s) ↔
      ∀ (name : String) (entry : InterfaceEntry), d.interfaces[name]? = some entry →
        ∀ key ∈ entry.instances, ∃ n, Denotes key n) ∧
    (∀ e, ofText decode source text = .error e ↔
      ∃ name key, FirstOffence d name key ∧ e = ⟨.instanceKey name key, .whole source⟩) ∧
    ∀ s, ofText decode source text = .ok s → Reads d s := by
  have hofText : ofText decode source text =
      (ofDocument d).mapError fun e => ⟨e, .whole source⟩ := by
    rw [ofText, h]
  have hok : ∀ s, ofText decode source text = .ok s ↔ ofDocument d = .ok s := by
    intro s
    rw [hofText, mapError_eq_ok_iff]
  refine ⟨?_, fun e => ?_, fun s hs => ?_⟩
  · simp only [hok, exists_ofDocument_eq_ok_iff, Offends, not_exists, not_and, not_forall, not_not]
    exact ⟨fun hall name entry hentry key => hall name key entry hentry,
      fun hall name key entry hentry => hall name entry hentry key⟩
  · rw [hofText, mapError_eq_error_iff]
    constructor
    · rintro ⟨cause, hcause, rfl⟩
      obtain ⟨name, key, hfirst, rfl⟩ := ofDocument_eq_error_iff.1 hcause
      exact ⟨name, key, hfirst, rfl⟩
    · rintro ⟨name, key, hfirst, rfl⟩
      exact ⟨_, ofDocument_eq_error_iff.2 ⟨name, key, hfirst, rfl⟩, rfl⟩
  · exact reads_of_ofDocument (hdecode text d h) ((hok s).1 hs)

/-- A document with four keys of one instance. -/
def spelled : String :=
  "\x7b\"pins\": [4294967295], \"interfaces\": \x7b\"UART\": \x7b\"instances\": \x7b" ++
    "\"00\": \x7b\"TX\": [0]\x7d, \"0\": \x7b\x7d, \" 0\": \x7b\x7d, \"+0\": \x7b\x7d\x7d\x7d\x7d\x7d"

theorem ofText_spelled : ∃ d entry, Document.ofText spelled = .ok d ∧ d.pins = [4294967295] ∧
    d.interfaces.toList = [("UART", entry)] ∧
    entry.instances.keys = [" 0", "+0", "0", "00"] := by
  have hcontents : (Document.ofText spelled).toOption.map (fun d =>
      (d.pins, d.interfaces.toList.map fun p => (p.1, p.2.instances.keys))) =
        some ([4294967295], [("UART", [" 0", "+0", "0", "00"])]) := by
    decide +kernel
  obtain ⟨d, hd, hcontents⟩ := Option.map_eq_some_iff.1 hcontents
  obtain ⟨hpins, hinterfaces⟩ := Prod.mk.inj hcontents
  obtain ⟨⟨name, entry⟩, hentries, hentry⟩ := List.map_eq_singleton_iff.1 hinterfaces
  obtain ⟨rfl, hkeys⟩ := Prod.mk.inj hentry
  exact ⟨d, entry, toOption_eq_some_iff.1 hd, hpins, hentries, hkeys⟩

/-- The one instance is that of the key `00`. The one pin is not the pin before zero. -/
theorem ofText_numbers_spelled :
    ∃ d s entry i, Document.Reader.Has32BitPins Document.ofText ∧
      Document.ofText spelled = .ok d ∧ ofText Document.ofText default spelled = .ok s ∧
      d.interfaces["UART"]? = some entry ∧ s.interface? "UART" = some i ∧
      i.instance? 0 = entry.instances["00"]? ∧ (∀ n ≠ 0, i.instance? n = none) ∧
      s.allowsPin 4294967295 = true ∧ s.allowsPin (-1) = false := by
  obtain ⟨d, entry, hd, hpins, hentries, hkeys⟩ := ofText_spelled
  have hinterfaces : ∀ name entry', d.interfaces[name]? = some entry' ↔
      name = "UART" ∧ entry' = entry := fun name entry' => by
    rw [← TreeMap.mem_toList_iff_getElem?_eq_some, hentries, List.mem_singleton, Prod.mk.injEq]
  have hmem : ∀ key, key ∈ entry.instances ↔ key ∈ [" 0", "+0", "0", "00"] := fun key => by
    rw [← hkeys, TreeMap.mem_keys]
  have hzero : ∀ key ∈ entry.instances, ∀ n, Denotes key n ↔ n = 0 := by
    have hall : ∀ key ∈ [" 0", "+0", "0", "00"], instanceNumber? key = some 0 := by decide +kernel
    intro key hkey n
    simp [denotes_iff, hall key ((hmem key).1 hkey), number?_eq_some_iff]
  have hlast : ∀ key ∈ [" 0", "+0", "0", "00"], bytes key ≤ bytes "00" := by decide
  obtain ⟨hok, -, hreads⟩ := ofText_numbers Document.has32BitPins_ofText hd default
  obtain ⟨s, hs⟩ := hok.2 fun name entry' hentry' key hkey => by
    obtain ⟨-, rfl⟩ := (hinterfaces name entry').1 hentry'
    exact ⟨0, (hzero key hkey 0).2 rfl⟩
  have hentry := (hinterfaces "UART" entry).2 ⟨rfl, rfl⟩
  obtain ⟨i, hi, hnumbers⟩ := (hreads s hs).exists_numbers hentry
  have hmember : "00" ∈ entry.instances := (hmem "00").2 (by decide)
  obtain ⟨functions, hfunctions⟩ := mem_iff_exists.1 hmember
  refine ⟨d, s, entry, i, Document.has32BitPins_ofText, hd, hs, hentry, hi, ?_, fun n hn => ?_, ?_,
    ?_⟩
  · rw [hfunctions, hnumbers.some_iff]
    exact ⟨"00", hfunctions, (hzero _ hmember 0).2 rfl, fun key hkey _ =>
      hlast key ((hmem key).1 hkey)⟩
  · exact (hnumbers.none_iff n).2 fun key hkey hdenotes => hn ((hzero key hkey n).1 hdenotes)
  · exact ((hreads s hs).pins _).2 ⟨4294967295, by simp [hpins], rfl⟩
  · rw [Bool.eq_false_iff, ne_eq, (hreads s hs).pins]
    rintro ⟨n, -, hn⟩
    omega

/-- The first interface in the order of names is not the one that the text gives first. -/
example : error? (ofText Document.ofText default ("\x7b\"pins\": [], \"interfaces\": \x7b" ++
    "\"UART\": \x7b\"instances\": \x7b\"x\": \x7b\x7d\x7d\x7d, " ++
    "\"I2C\": \x7b\"instances\": \x7b\"1\": \x7b\x7d, \"-1\": \x7b\x7d\x7d\x7d\x7d\x7d")) =
      some ⟨.instanceKey "I2C" "-1", .whole default⟩ := by
  decide +kernel

end BoardLint.Schema
