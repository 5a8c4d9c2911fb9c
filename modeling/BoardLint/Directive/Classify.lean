import BoardLint.Directive
import BoardLint.Text.Affix
import BoardLint.Text.Word

/-!
# From lines to directives

`Directive.classify` reads one line. The first characters decide which grammar the rest has to
follow: `//` starts a comment, `#` a preprocessor line, and the word of a build setting a call. A
line that follows none of the grammars is unrecognized.

A comment runs from the first `//` outside of double quotes to the end of the line. Behind some
text it is no part of the directive; a line that is all comment is kept, since some comments carry
meaning.

All readers here take the line without its trailing comment and without white space at its ends.
-/

namespace BoardLint.Directive

open Text

/-! ## Trailing comments -/

/-- What stands before the first `//` outside of double quotes, if there is one. The flag tells
whether a double quote is open. -/
def beforeComment? : (quoted : Bool) → List Char → Option (List Char)
  | _, [] => none
  | false, '/' :: '/' :: _ => some []
  | quoted, c :: cs => (beforeComment? (quoted ^^ c == '"') cs).map (c :: ·)

/-- The line without a comment that follows some text. -/
def stripComment (line : List Char) : List Char :=
  match beforeComment? false line with
  | none => line
  | some before => if before.all isSpace then line else trimEnd before

@[simp] theorem stripComment_nil : stripComment [] = [] := rfl

/-! ## Small readers -/

/-- What follows one or more white-space characters. -/
def dropSpaces? : List Char → Option (List Char)
  | [] => none
  | c :: cs => if isSpace c then some (trimStart cs) else none

/-- The text between double quotes, if there is any, and what follows the second quote. -/
def takeQuoted? : List Char → Option (List Char × List Char)
  | '"' :: cs =>
    match cs.takeWhile (· != '"'), cs.dropWhile (· != '"') with
    | [], _ => none
    | _, [] => none
    | text, _ :: rest => some (text, rest)
  | _ => none

/-- A text that is one word and nothing else. -/
def onlyWord? (cs : List Char) : Option String :=
  match takeWord? cs with
  | some (word, []) => some (String.ofList word)
  | _ => none

/-- The text without white space at its ends, if anything is left. -/
def filled? (cs : List Char) : Option String :=
  match trim cs with
  | [] => none
  | text => some (String.ofList text)

/-! ## Settings -/

/-- The kind of a setting, from what follows its first word. -/
def settingKind (cs : List Char) : SettingKind × List Char :=
  match dropStart? "_default".toList cs with
  | some rest => (.fallback, rest)
  | none => (.fixed, cs)

/-- `NAME=VALUE` after the word of a comment. -/
def commentSetting? (cs : List Char) : Option Directive := do
  let (kind, cs) := settingKind cs
  let (name, cs) ← takeWord? (← dropSpaces? cs)
  let value ← filled? (← dropStart? ['='] (trimStart cs))
  some (.setting .comment kind (String.ofList name) value)

/-- `(NAME, VALUE)` after the word of a call. The value may hold parentheses of its own: only the
last one of the line closes the call. -/
def callSetting? (cs : List Char) : Option Directive := do
  let (kind, cs) := settingKind cs
  let (name, cs) ← takeWord? (trimStart (← dropStart? ['('] (trimStart cs)))
  let value ← filled? (← dropEnd? [')'] (← dropStart? [','] (trimStart cs)))
  some (.setting .call kind (String.ofList name) value)

/-! ## Comments -/

/-- A comment, from what follows its slashes. -/
def ofComment (cs : List Char) : Directive :=
  let cs := trimStart cs
  if (dropStart? "For board detection".toList cs).isSome then boardDetection
  else
    match dropStart? "This header may be included by other board headers as".toList cs with
    | some rest =>
      match takeQuoted? (trimStart rest) with
      | some (path, _) => includeSuggestion (String.ofList path)
      | none => unrecognized
    | none => ((dropStart? "pico_cmake_set".toList cs).bind commentSetting?).getD unrecognized

/-! ## Preprocessor lines -/

/-- The words that a preprocessor line may start with. -/
inductive Keyword where
  | elseBranch
  | endIf
  | includeFile
  | define
  | condition (word : ConditionWord)
deriving DecidableEq, Repr

namespace Keyword

/-- The keyword as it is written. -/
def text : Keyword → String
  | elseBranch => "else"
  | endIf => "endif"
  | includeFile => "include"
  | define => "define"
  | condition word => word.text

/-- Every keyword. -/
def all : List Keyword :=
  [elseBranch, endIf, includeFile, define] ++ ConditionWord.all.map condition

/-- The keyword that is written so. -/
def ofString? (s : String) : Option Keyword := all.find? (·.text == s)

theorem ofString?_eq_some_iff {s : String} {k : Keyword} : ofString? s = some k ↔ k.text = s := by
  constructor
  · intro h
    simpa using List.find?_some h
  · rintro rfl
    cases k with
    | condition word => cases word <;> decide
    | _ => decide

end Keyword

/-- The rest of a define behind its keyword: a name, and a value behind white space. A name
directly followed by anything else is one of a macro with parameters. -/
def definition? (cs : List Char) : Option Directive := do
  let (name, cs) ← takeWord? (← dropSpaces? cs)
  match cs with
  | [] => some (.define (String.ofList name) none)
  | _ => some (.define (String.ofList name) (filled? (← dropSpaces? cs)))

/-- A condition, which is a name or else unsupported. -/
def ofCondition (word : ConditionWord) (cs : List Char) : Directive :=
  let other := unsupported word (String.ofList cs)
  match word, cs with
  | .ifTrue, '!' :: cs => ((onlyWord? (trimStart cs)).map (ifTrue true)).getD other
  | .ifTrue, cs => ((onlyWord? cs).map (ifTrue false)).getD other
  | .ifDefined, cs => ((onlyWord? cs).map ifDefined).getD other
  | .ifUndefined, cs => ((onlyWord? cs).map ifUndefined).getD other
  | .elseIf, _ => other

/-- A preprocessor line, from its keyword and what follows the keyword. -/
def ofKeyword (keyword : Keyword) (cs : List Char) : Directive :=
  match keyword with
  | .elseBranch => if (trimStart cs).isEmpty then elseBranch else unrecognized
  | .endIf => if (trimStart cs).isEmpty then endIf else unrecognized
  | .includeFile =>
    match takeQuoted? (trimStart cs) with
    | some (path, []) => includeFile (String.ofList path)
    | _ => unrecognized
  | .define => (definition? cs).getD unrecognized
  | .condition word => ofCondition word (trimStart cs)

/-- A preprocessor line, from what follows its sign. -/
def ofHash (cs : List Char) : Directive :=
  match takeWord? (trimStart cs) with
  | none => unrecognized
  | some (word, rest) =>
    match Keyword.ofString? (String.ofList word) with
    | none => unrecognized
    | some keyword => ofKeyword keyword rest

/-! ## Lines -/

/-- The directive of a line without trailing comment and without white space at its ends. -/
def ofTrimmed (cs : List Char) : Directive :=
  match cs with
  | '/' :: '/' :: rest => ofComment rest
  | '#' :: rest => ofHash rest
  | cs => ((dropStart? "pico_board_cmake_set".toList cs).bind callSetting?).getD unrecognized

/-- The directive of a line. -/
def classify (line : String) : Directive := ofTrimmed (trim (stripComment line.toList))

end BoardLint.Directive
