import BoardLint.Audit.Defines

/-!
# Wiring

What the audit of the defines asks of a board, said without the audit: a define is `Sound` if it is
none for the other family, if the pin it stands for is one of the chip, if a function pin can serve
its function on the instance that the board has chosen, and if an instance has the pins that it
needs. `definesFindings_errors_eq_nil_iff`: no error is found exactly where every define is sound.
-/

namespace BoardLint.Audit

/-! ## Names -/

/-- One or more capital letters and decimal digits. -/
def Token (name : String) : Prop :=
  name ≠ "" ∧ ∀ c ∈ name.toList, ('A' ≤ c ∧ c ≤ 'Z') ∨ ('0' ≤ c ∧ c ≤ '9')

theorem isToken_iff {name : String} : isToken name.toList = true ↔ Token name := by
  have hchar : ∀ c : Char, (c.isUpper || c.isDigit) = true ↔
      ('A' ≤ c ∧ c ≤ 'Z') ∨ ('0' ≤ c ∧ c ≤ '9') := by
    intro c
    have hupper : c.isUpper = true ↔ 'A' ≤ c ∧ c ≤ 'Z' := decide_eq_true_iff
    have hdigit : c.isDigit = true ↔ '0' ≤ c ∧ c ≤ '9' := by
      show (decide ('0' ≤ c) && decide (c ≤ '9')) = true ↔ _
      rw [Bool.and_eq_true, decide_eq_true_eq, decide_eq_true_eq]
    rw [Bool.or_eq_true, hupper, hdigit]
  unfold isToken Token
  rw [Bool.and_eq_true, List.all_eq_true]
  simp only [hchar, Bool.not_eq_true', List.isEmpty_eq_false_iff, ne_eq, String.toList_eq_nil_iff]

theorem Token.underscore_not_mem {name : String} (h : Token name) : '_' ∉ name.toList := by
  intro hm
  rcases h.2 '_' hm with ⟨_, h⟩ | ⟨_, h⟩
  · exact absurd h (by decide)
  · exact absurd h (by decide)

/-- The interface of an instance is read off its name. -/
theorem instance?_eq_some_iff {name interface : String} :
    instance? name = some interface ↔ Token interface ∧ name = instanceName interface := by
  unfold instance?
  constructor
  · intro h
    obtain ⟨cs, hcs, h⟩ := Option.bind_eq_some_iff.1 h
    split at h
    · next ht =>
      obtain rfl := Option.some.inj h
      refine ⟨isToken_iff.1 (by rwa [String.toList_ofList]), String.toList_injective ?_⟩
      rw [Text.dropStart?_eq_some_iff.1 hcs, instanceName, String.toList_append,
        String.toList_ofList]
    · exact absurd h nofun
  · rintro ⟨ht, rfl⟩
    refine Option.bind_eq_some_iff.2 ⟨interface.toList, ?_, ?_⟩
    · rw [instanceName, String.toList_append, Text.dropStart?_append]
    · rw [if_pos (isToken_iff.2 ht), String.ofList_toList]

theorem span_underscore {before : List Char} (h : '_' ∉ before) (after : List Char) :
    (before ++ '_' :: after).takeWhile (· != '_') = before ∧
      (before ++ '_' :: after).dropWhile (· != '_') = '_' :: after := by
  have hp : ∀ c ∈ before, (c != '_') = true := fun c hc => bne_iff_ne.2 fun he => h (he ▸ hc)
  rw [List.takeWhile_append_of_pos hp, List.dropWhile_append_of_pos hp]
  simp

/-- The interface and the function of a function pin are read off its name. -/
theorem functionPin?_eq_some_iff {name interface function : String} :
    functionPin? name = some (interface, function) ↔
      Token interface ∧ Token function ∧
        name = functionPinName (instanceName interface) function := by
  unfold functionPin?
  constructor
  · intro h
    obtain ⟨tail, htail, h⟩ := Option.bind_eq_some_iff.1 h
    obtain ⟨body, hbody, h⟩ := Option.bind_eq_some_iff.1 h
    split at h
    · next _ _ f hf =>
      split at h
      · next ht =>
        rw [Bool.and_eq_true] at ht
        obtain ⟨rfl, rfl⟩ := Prod.mk.inj (Option.some.inj h)
        refine ⟨isToken_iff.1 (by rw [String.toList_ofList]; exact ht.1),
          isToken_iff.1 (by rw [String.toList_ofList]; exact ht.2), String.toList_injective ?_⟩
        have hspan : body.takeWhile (· != '_') ++ '_' :: f = body := by
          rw [← hf, List.takeWhile_append_dropWhile]
        rw [Text.dropStart?_eq_some_iff.1 htail, Text.dropEnd?_eq_some_iff.1 hbody, ← hspan]
        simp [functionPinName, instanceName, hspan]
      · exact absurd h nofun
    · exact absurd h nofun
  · rintro ⟨hi, hf, rfl⟩
    have hspan := span_underscore hi.underscore_not_mem function.toList
    refine Option.bind_eq_some_iff.2
      ⟨interface.toList ++ '_' :: function.toList ++ pinEnd.toList, ?_,
        Option.bind_eq_some_iff.2 ⟨interface.toList ++ '_' :: function.toList,
          Text.dropEnd?_eq_some_iff.2 rfl, ?_⟩⟩
    · rw [Text.dropStart?_eq_some_iff]
      simp [functionPinName, instanceName]
    · rw [hspan.1, hspan.2]
      simp [isToken_iff.2 hi, isToken_iff.2 hf]

/-! ## Interfaces -/

/-- The interface that a name refers to: the one of this name or, where the schema has none, the
one of the name without the digits at its end. -/
inductive RefersTo (schema : Schema) : String → Interface → Prop
  | exact {name : String} {i : Interface} (h : schema.interface? name = some i) :
      RefersTo schema name i
  | numbered {base digits : String} {i : Interface}
      (unknown : schema.interface? (base ++ digits) = none)
      (hdigits : digits ≠ "" ∧ ∀ c ∈ digits.toList, c.isDigit = true)
      (hbase : base ≠ "" ∧ ∀ c ∈ base.toList.getLast?, c.isDigit = false)
      (h : schema.interface? base = some i) : RefersTo schema (base ++ digits) i

/-- The digits at the end of a name are cut off, and nothing else is. -/
theorem withoutDigits_eq_iff {name base : String} :
    Schema.withoutDigits name = base ↔
      ∃ digits, name = base ++ digits ∧ (∀ c ∈ digits.toList, c.isDigit = true) ∧
        ∀ c ∈ base.toList.getLast?, c.isDigit = false := by
  unfold Schema.withoutDigits
  constructor
  · rintro rfl
    refine ⟨String.ofList (name.toList.reverse.takeWhile Char.isDigit).reverse,
      String.toList_injective ?_, ?_, ?_⟩
    · rw [String.toList_append, String.toList_ofList, String.toList_ofList, ← List.reverse_append,
        List.takeWhile_append_dropWhile, List.reverse_reverse]
    · intro c hc
      rw [String.toList_ofList, List.mem_reverse] at hc
      exact List.all_eq_true.1 List.all_takeWhile c hc
    · intro c hc
      rw [String.toList_ofList, List.getLast?_reverse] at hc
      have := List.head?_dropWhile_not Char.isDigit name.toList.reverse
      rw [Option.mem_def.1 hc] at this
      exact this
  · rintro ⟨digits, rfl, hd, hb⟩
    have hd' : ∀ c ∈ digits.toList.reverse, c.isDigit = true :=
      fun c hc => hd c (List.mem_reverse.1 hc)
    apply String.toList_injective
    rw [String.toList_ofList, String.toList_append, List.reverse_append,
      List.dropWhile_append_of_pos hd']
    rcases List.eq_nil_or_concat base.toList with hn | ⟨init, c, hc⟩
    · rw [hn]
      rfl
    · rw [hc] at hb ⊢
      have : c.isDigit = false := hb c (by simp)
      simp [this]

theorem resolveInterface_eq_some_iff {schema : Schema} {name : String} {i : Interface} :
    (∃ known, schema.resolveInterface name = some (known, i)) ↔ RefersTo schema name i := by
  simp only [Schema.resolveInterface]
  constructor
  · rintro ⟨known, h⟩
    split at h
    · next j hj =>
      obtain ⟨-, rfl⟩ := Prod.mk.inj (Option.some.inj h)
      exact .exact hj
    · next hnone =>
      split at h
      · exact absurd h nofun
      · next hbase =>
        obtain ⟨j, hj, he⟩ := Option.map_eq_some_iff.1 h
        obtain ⟨-, rfl⟩ := Prod.mk.inj he
        obtain ⟨digits, hname, hd, hlast⟩ :=
          withoutDigits_eq_iff.1 (Eq.refl (Schema.withoutDigits name))
        rw [not_or] at hbase
        generalize Schema.withoutDigits name = base at *
        subst hname
        refine .numbered hnone ⟨?_, hd⟩ ⟨hbase.1, hlast⟩ hj
        rintro rfl
        exact hbase.2 String.append_empty.symm
  · rintro (h | ⟨hnone, ⟨hne, hd⟩, ⟨hb, hlast⟩, h⟩)
    · exact ⟨name, by rw [h]⟩
    · next base digits =>
      have hcut := withoutDigits_eq_iff.2 ⟨digits, rfl, hd, hlast⟩
      have hdiff : base ≠ base ++ digits := by
        intro he
        have := congrArg String.toList he
        rw [String.toList_append, List.self_eq_append_right, String.toList_eq_nil_iff] at this
        exact hne this
      refine ⟨base, ?_⟩
      rw [hnone, hcut]
      simp [hb, hdiff, h]

/-! ## Sound defines -/

/-- The define is resolved to this number of a pin or of an instance, in 32 bits without sign. -/
def StandsFor (d : Define) (n : Nat) : Prop := d.resolved = some (.int n) ∧ n ≤ Schema.maxNumber

/-- These pins can serve the function, on the instance that the board has chosen. -/
def Offers (s : Symbols) (schema : Schema) (interface function : String)
    (pins : Std.TreeSet Nat) : Prop :=
  ∃ i inst n functions, RefersTo schema interface i ∧
    s.lookup (instanceName interface) = some inst ∧ StandsFor inst n ∧
      i.instances[n]? = some functions ∧ functions[function]? = some pins

/-- The instance of this name has a pin for every function that is required, and for one of those
that stand for each other. -/
def HasPins (s : Symbols) (name : String) (expected : ExpectedFunctions) : Prop :=
  (∀ f ∈ expected.required, functionPinName name f ∈ s.defines.names) ∧
    (expected.oneOf ≠ [] → ∃ f ∈ expected.oneOf, functionPinName name f ∈ s.defines.names)

/-- A define that suits the chip and its schema. -/
structure Sound (s : Symbols) (chip : Chip) (schema : Schema) (d : Define) : Prop where
  /-- It is none for the other family. -/
  native : ¬ chip.family.other.token.toList <:+: d.name.toList
  /-- A pin is one that the chip has. -/
  pin : "_PIN".toList <:+ d.name.toList → ∃ n ∈ schema.pins, StandsFor d n
  /-- The pin of a function is one that can serve it. -/
  functionPin : ∀ interface function, Token interface → Token function → interface ≠ "WS2812" →
    d.name = functionPinName (instanceName interface) function →
      ∃ pins, Offers s schema interface function pins ∧ ∃ n ∈ pins, StandsFor d n
  /-- An instance is one of a known interface, and has its pins. -/
  instancePins : ∀ interface, Token interface → d.name = instanceName interface →
    ∃ i, RefersTo schema interface i ∧ ∀ expected, i.expected = some expected →
      HasPins s d.name expected

/-! ## Checks one by one -/

theorem foreignErrors_eq_nil_iff {chip : Chip} {d : Define} :
    foreignErrors chip d = [] ↔ ¬ chip.family.other.token.toList <:+: d.name.toList := by
  rw [← Text.occursIn_iff]
  simp [foreignErrors]

theorem pinErrors_eq_nil_iff {chip : Chip} {schema : Schema} {d : Define} :
    pinErrors chip schema d = [] ↔ ∃ n ∈ schema.pins, StandsFor d n := by
  unfold pinErrors StandsFor
  split
  · next h => simp [h]
  · next s h => simp [h]
  · next pin h =>
    have hp : schema.allowsPin pin = true ↔
        ∃ n ∈ schema.pins, n ≤ Schema.maxNumber ∧ pin = n := Schema.allowsPin_iff
    simp only [ite_eq_left_iff, reduceCtorEq, imp_false, Classical.not_not, hp, h,
      Option.some.injEq, Value.int.injEq, and_comm]

theorem serves_iff {pins : Std.TreeSet Nat} {pin : Int} :
    serves pins pin = true ↔ ∃ n ∈ pins, n ≤ Schema.maxNumber ∧ pin = n := by
  simp only [serves, Option.any_eq_true, Schema.number?_eq_some_iff]
  constructor
  · rintro ⟨n, ⟨hp, hn⟩, hm⟩
    exact ⟨n, hm, hn, hp⟩
  · rintro ⟨n, hm, hn, hp⟩
    exact ⟨n, ⟨hp, hn⟩, hm⟩

theorem instanceOf?_eq_some_iff {i : Interface} {d : Define} {number : Int}
    {functions : Functions} :
    instanceOf? i d = some (number, functions) ↔
      ∃ n : Nat, number = n ∧ StandsFor d n ∧ i.instances[n]? = some functions := by
  unfold instanceOf? StandsFor Interface.instance?
  constructor
  · intro h
    obtain ⟨k, hk, h⟩ := Option.bind_eq_some_iff.1 h
    obtain ⟨fs, hfs, h⟩ := Option.bind_eq_some_iff.1 h
    obtain ⟨rfl, rfl⟩ := Prod.mk.inj (Option.some.inj h)
    obtain ⟨v, hv, hvk⟩ := Option.bind_eq_some_iff.1 hk
    obtain ⟨n, hn, hi⟩ := Option.bind_eq_some_iff.1 hfs
    obtain ⟨rfl, hle⟩ := Schema.number?_eq_some_iff.1 hn
    obtain rfl := Value.int?_eq_some.1 hvk
    exact ⟨n, rfl, ⟨hv, hle⟩, hi⟩
  · rintro ⟨n, rfl, ⟨hv, hle⟩, hi⟩
    have hfunctions : (Schema.number? n).bind (i.instances[·]?) = some functions :=
      Option.bind_eq_some_iff.2 ⟨n, Schema.number?_eq_some_iff.2 ⟨rfl, hle⟩, hi⟩
    exact Option.bind_eq_some_iff.2
      ⟨n, by simp [hv], Option.bind_eq_some_iff.2 ⟨functions, hfunctions, rfl⟩⟩

/-- A function pin that is no integer is left to the check of pins. -/
theorem functionPinErrors_eq_nil_iff {s : Symbols} {chip : Chip} {schema : Schema}
    {interface function : String} {d : Define} (hi : interface ≠ "WS2812") :
    functionPinErrors s chip schema interface function d = [] ↔
      ∃ pins, Offers s schema interface function pins ∧
        ∀ pin, d.resolved = some (.int pin) → serves pins pin = true := by
  have hi' : interface ≠ schemalessInterface := hi
  simp only [functionPinErrors, hi', if_false]
  constructor
  · intro h
    split at h
    · exact absurd h nofun
    · next known i hr =>
      split at h
      · exact absurd h nofun
      · next inst hinst =>
        split at h
        · exact absurd h nofun
        · next number functions hio =>
          obtain ⟨n, -, hn, hfs⟩ := instanceOf?_eq_some_iff.1 hio
          have hoffers : ∀ pins, functions[function]? = some pins →
              Offers s schema interface function pins := fun pins hp =>
            ⟨i, inst, n, functions, resolveInterface_eq_some_iff.1 ⟨known, hr⟩, hinst, hn, hfs, hp⟩
          split at h
          · exact absurd h nofun
          · next pins pin hp hd =>
            refine ⟨pins, hoffers pins hp, fun pin' hpin' => ?_⟩
            obtain rfl := Value.int.inj (Option.some.inj (hd.symm.trans hpin'))
            simpa using h
          · next pins hp hd =>
            exact ⟨pins, hoffers pins hp, fun pin hpin => (hd pin hpin).elim⟩
  · rintro ⟨pins, ⟨i, inst, n, functions, hr, hinst, hn, hfs, hp⟩, hs⟩
    obtain ⟨known, hr⟩ := resolveInterface_eq_some_iff.2 hr
    have hio := instanceOf?_eq_some_iff.2 ⟨n, rfl, hn, hfs⟩
    simp only [hr, hinst, hio, hp]
    split
    · next hd => exact absurd hd nofun
    · next _ _ pins' pin hp' hd =>
      obtain rfl := Option.some.inj hp'
      rw [if_pos (hs pin hd)]
    · rfl

theorem requiredErrors_eq_nil_iff {s : Symbols} {expected : ExpectedFunctions} {d : Define} :
    requiredErrors s expected d = [] ↔
      ∀ f ∈ expected.required, functionPinName d.name f ∈ s.defines.names := by
  simp [requiredErrors, Symbols.isDefined, Table.contains_iff]

theorem oneOfErrors_eq_nil_iff {s : Symbols} {expected : ExpectedFunctions} {d : Define} :
    oneOfErrors s expected d = [] ↔ (expected.oneOf ≠ [] →
      ∃ f ∈ expected.oneOf, functionPinName d.name f ∈ s.defines.names) := by
  have hany : (expected.oneOf.map (functionPinName d.name)).any s.isDefined = true ↔
      ∃ f ∈ expected.oneOf, functionPinName d.name f ∈ s.defines.names := by
    simp [Symbols.isDefined, Table.contains_iff]
  simp only [oneOfErrors, ite_eq_left_iff, reduceCtorEq, imp_false, Classical.not_not,
    Bool.or_eq_true, hany, List.isEmpty_iff, List.map_eq_nil_iff, ne_eq]
  exact Decidable.or_iff_not_imp_left

theorem instanceErrors_eq_nil_iff {s : Symbols} {chip : Chip} {schema : Schema}
    {interface : String} {d : Define} :
    instanceErrors s chip schema interface d = [] ↔
      ∃ i, RefersTo schema interface i ∧ ∀ expected, i.expected = some expected →
        HasPins s d.name expected := by
  have hpins : ∀ expected, requiredErrors s expected d ++ oneOfErrors s expected d = [] ↔
      HasPins s d.name expected := by
    intro expected
    rw [List.append_eq_nil_iff, requiredErrors_eq_nil_iff, oneOfErrors_eq_nil_iff, HasPins]
  unfold instanceErrors
  constructor
  · intro h
    split at h
    · exact absurd h nofun
    · next known i hr =>
      refine ⟨i, resolveInterface_eq_some_iff.1 ⟨known, hr⟩, fun expected he => ?_⟩
      rw [he] at h
      exact (hpins expected).1 h
  · rintro ⟨i, hr, h⟩
    obtain ⟨known, hr⟩ := resolveInterface_eq_some_iff.2 hr
    simp only [hr]
    split
    · rfl
    · next expected he => exact (hpins expected).2 (h expected he)

/-! ## All checks -/

theorem isPinName_iff {name : String} : isPinName name = true ↔ "_PIN".toList <:+ name.toList :=
  Text.endsWith_iff

/-- The name of a function pin is the name of a pin. -/
theorem isPinName_functionPinName (inst function : String) :
    isPinName (functionPinName inst function) = true := by
  rw [isPinName_iff, functionPinName, String.toList_append]
  exact List.suffix_append _ _

/-- No name is both that of a function pin and that of an instance. -/
theorem functionPinName_ne_instanceName {interface : String} (h : Token interface)
    (inst function : String) :
    instanceName interface ≠ functionPinName (instanceName inst) function := by
  intro he
  have hl := congrArg String.toList he
  simp only [functionPinName, instanceName, String.toList_append, List.append_assoc,
    List.append_cancel_left_eq] at hl
  exact h.underscore_not_mem (hl ▸ by simp)

theorem defineErrors_eq_nil_iff {s : Symbols} {chip : Chip} {schema : Schema} {d : Define} :
    defineErrors s chip schema d = [] ↔ Sound s chip schema d := by
  unfold defineErrors
  rw [List.append_eq_nil_iff, List.append_eq_nil_iff, foreignErrors_eq_nil_iff]
  constructor
  · rintro ⟨⟨hforeign, hpin⟩, hname⟩
    have pin : "_PIN".toList <:+ d.name.toList → ∃ n ∈ schema.pins, StandsFor d n := by
      intro hp
      rw [if_pos (isPinName_iff.2 hp)] at hpin
      exact pinErrors_eq_nil_iff.1 hpin
    refine ⟨hforeign, pin, ?_, ?_⟩
    · intro interface function hi hf hw hd
      rw [functionPin?_eq_some_iff.2 ⟨hi, hf, hd⟩] at hname
      obtain ⟨pins, hoffers, hserves⟩ := (functionPinErrors_eq_nil_iff hw).1 hname
      obtain ⟨n, -, hn⟩ := pin (isPinName_iff.1 (hd ▸ isPinName_functionPinName _ _))
      obtain ⟨m, hm, hle, he⟩ := serves_iff.1 (hserves n hn.1)
      exact ⟨pins, hoffers, m, hm, he ▸ hn.1, hle⟩
    · intro interface hi hd
      have hnone : functionPin? d.name = none := by
        cases hp : functionPin? d.name with
        | none => rfl
        | some p =>
          obtain ⟨-, -, he⟩ := functionPin?_eq_some_iff.1 hp
          exact absurd (hd.symm.trans he) (functionPinName_ne_instanceName hi p.1 p.2)
      rw [hnone, instance?_eq_some_iff.2 ⟨hi, hd⟩] at hname
      exact instanceErrors_eq_nil_iff.1 hname
  · rintro ⟨hforeign, hpin, hfunction, hinstance⟩
    refine ⟨⟨hforeign, ?_⟩, ?_⟩
    · split
      · next hp => exact pinErrors_eq_nil_iff.2 (hpin (isPinName_iff.1 hp))
      · rfl
    · split
      · next interface function hp =>
        obtain ⟨hi, hf, hd⟩ := functionPin?_eq_some_iff.1 hp
        by_cases hw : interface = "WS2812"
        · exact if_pos hw
        · obtain ⟨pins, hoffers, n, hm, hn, hle⟩ := hfunction interface function hi hf hw hd
          refine (functionPinErrors_eq_nil_iff hw).2 ⟨pins, hoffers, fun pin hpin => ?_⟩
          exact serves_iff.2 ⟨n, hm, hle, Value.int.inj (Option.some.inj (hpin.symm.trans hn))⟩
      · next interface _ hp =>
        obtain ⟨hi, hd⟩ := instance?_eq_some_iff.1 hp
        exact instanceErrors_eq_nil_iff.2 (hinstance interface hi hd)
      · rfl

/-- No error is found in the defines of a board exactly where every define is sound. -/
theorem definesFindings_errors_eq_nil_iff (s : Symbols) (chip : Chip) (schema : Schema) :
    (definesFindings s chip schema).errors = [] ↔
      ∀ d ∈ s.defines.entries, Sound s chip schema d := by
  simp only [definesFindings, reportOnce_eq_nil_iff, List.flatMap_eq_nil_iff,
    defineErrors_eq_nil_iff]

end BoardLint.Audit
