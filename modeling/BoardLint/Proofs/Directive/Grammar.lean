import BoardLint.Directive.Classify
import Mathlib.Computability.Language

/-!
# The grammar of directives

`Directive.spelling` gives for each directive the texts that write it, without trailing comment and
without white space at their ends. They are languages, put together from a few atoms: fixed texts,
white space, words, quoted texts and values. Nothing here says how a text is read.
-/

namespace BoardLint

namespace Text

/-- The text does not start with a character of this class. -/
def StartsOff (p : Char → Bool) (cs : List Char) : Prop := ∀ c ∈ cs.head?, p c = false

/-- The text does not end with a character of this class. -/
def EndsOff (p : Char → Bool) (cs : List Char) : Prop := ∀ c ∈ cs.getLast?, p c = false

/-! ## Atoms -/

/-- This text. -/
def lit (s : String) : Language Char := {cs | cs = s.toList}

/-- White space, or nothing. -/
def blanks : Language Char := {cs | ∀ c ∈ cs, isSpace c = true}

/-- White space. -/
def gap : Language Char := {cs | cs ≠ [] ∧ cs ∈ blanks}

/-- This text, if it is a word. -/
def word (w : String) : Language Char :=
  {cs | cs = w.toList ∧ cs ≠ [] ∧ ∀ c ∈ cs, isWordChar c = true}

/-- This text between double quotes, if there is something to quote and no other quote inside. -/
def quoted (s : String) : Language Char :=
  {cs | cs = '"' :: s.toList ++ ['"'] ∧ s.toList ≠ [] ∧ '"' ∉ s.toList}

/-- This text, if it has neither white space at its start nor at its end and is not empty. -/
def value (v : String) : Language Char :=
  {cs | cs = v.toList ∧ cs ≠ [] ∧ StartsOff isSpace cs ∧ EndsOff isSpace cs}

/-- Texts that come to this one, and not to nothing, when white space is cut off at both ends. -/
def padded (v : String) : Language Char := {cs | trim cs = v.toList ∧ trim cs ≠ []}

/-- Any text at all. -/
def anything : Language Char := {_cs | True}

end Text

namespace Directive

open Text

/-! ## Preprocessor lines -/

/-- `#if NAME`, or `#if !NAME` when negated. -/
def ifTrueLine : Bool → String → Language Char
  | false, w => lit "#" * blanks * lit "if" * gap * word w
  | true, w => lit "#" * blanks * lit "if" * blanks * lit "!" * blanks * word w

/-- `#ifdef NAME` -/
def ifDefinedLine (w : String) : Language Char := lit "#" * blanks * lit "ifdef" * gap * word w

/-- `#ifndef NAME` -/
def ifUndefinedLine (w : String) : Language Char := lit "#" * blanks * lit "ifndef" * gap * word w

/-- Lines with a condition that is understood. -/
def understood : Language Char :=
  {cs | (∃ negated w, cs ∈ ifTrueLine negated w) ∨ (∃ w, cs ∈ ifDefinedLine w) ∨
    ∃ w, cs ∈ ifUndefinedLine w}

/-- What may follow a whole word, if this is left when its leading white space is cut off. -/
def rest (condition : String) : Language Char :=
  {cs | StartsOff isWordChar cs ∧ trimStart cs = condition.toList}

/-! ## All directives -/

/-- What the first word of a setting ends in. -/
def ending : SettingKind → Language Char
  | .fixed => 1
  | .fallback => lit "_default"

/-- The texts that write a directive. Those that write none are unrecognized. -/
def spelling : Directive → Language Char
  | define w none => lit "#" * blanks * lit "define" * gap * word w
  | define w (some v) => lit "#" * blanks * lit "define" * gap * word w * gap * value v
  | ifTrue negated w => ifTrueLine negated w
  | ifDefined w => ifDefinedLine w
  | ifUndefined w => ifUndefinedLine w
  | unsupported word condition =>
    lit "#" * blanks * lit word.text * rest condition - understood
  | elseBranch => lit "#" * blanks * lit "else"
  | endIf => lit "#" * blanks * lit "endif"
  | includeFile path => lit "#" * blanks * lit "include" * blanks * quoted path
  | setting .call kind w v =>
    lit "pico_board_cmake_set" * ending kind * blanks * lit "(" * blanks * word w * blanks *
      lit "," * padded v * lit ")"
  | setting .comment kind w v =>
    lit "//" * blanks * lit "pico_cmake_set" * ending kind * gap * word w * blanks * lit "=" *
      padded v
  | boardDetection => lit "//" * blanks * lit "For board detection" * anything
  | includeSuggestion path =>
    lit "//" * blanks * lit "This header may be included by other board headers as" * blanks *
      quoted path * anything
  | unrecognized => 0

/-! ## How directives start -/

/-- The start of a line, by which the grammar is chosen that it has to follow. -/
inductive Opening where
  /-- `#` -/
  | hash
  /-- `//` -/
  | slashes
  /-- The word of a build setting. -/
  | call
deriving DecidableEq

/-- How the lines of a directive start. -/
def opening? : Directive → Option Opening
  | setting .call .. => some .call
  | setting .comment .. | boardDetection | includeSuggestion _ => some .slashes
  | define .. | ifTrue .. | ifDefined _ | ifUndefined _ | unsupported .. => some .hash
  | elseBranch | endIf | includeFile _ => some .hash
  | unrecognized => none

/-- The keyword of a preprocessor line. -/
def keyword? : Directive → Option Keyword
  | elseBranch => some .elseBranch
  | endIf => some .endIf
  | includeFile _ => some .includeFile
  | define .. => some .define
  | ifTrue .. => some (.condition .ifTrue)
  | ifDefined _ => some (.condition .ifDefined)
  | ifUndefined _ => some (.condition .ifUndefined)
  | unsupported word _ => some (.condition word)
  | setting .. | boardDetection | includeSuggestion _ | unrecognized => none

theorem opening?_eq_hash_iff {d : Directive} :
    d.opening? = some .hash ↔ ∃ k, d.keyword? = some k := by
  cases d with
  | setting form kind w v => cases form <;> simp [opening?, keyword?]
  | _ => simp [opening?, keyword?]

end Directive

end BoardLint
