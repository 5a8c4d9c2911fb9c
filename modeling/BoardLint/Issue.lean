import BoardLint.Branches
import BoardLint.Chip
import BoardLint.Directive
import BoardLint.Disk
import BoardLint.Findings
import BoardLint.Schema
import BoardLint.Value

/-!
# Issues

Everything that can be wrong with a header, by its cause. `Issue.message` says it in words.
-/

namespace BoardLint

/-- What a name of the symbol table is a name of. -/
inductive SymbolSpace where
  | define
  | setting (kind : SettingKind)
deriving DecidableEq, Repr

/-- The entries of one name, in words. -/
def SymbolSpace.entries : SymbolSpace → String
  | define => "definitions for"
  | setting kind => "values for " ++ kind.callWord

/-- What is wrong with a header. -/
inductive Issue where
  /-- A name has a lower-case letter. -/
  | lowercase (name : String)
  /-- A setting is written as a comment. -/
  | legacySetting (kind : SettingKind) (name value : String)
  /-- A condition is not understood. -/
  | unsupportedConditional (word : ConditionWord) (condition : String)
  /-- A name has two different values. -/
  | conflict (space : SymbolSpace) (name : String) (first second : Option Value)
      (previous : Location)
  /-- A name has the same value twice. -/
  | redefinition (space : SymbolSpace) (name : String) (value : Option Value)
      (previous : Location)
  /-- Following the value of a define leads back to a name passed before. -/
  | circular (name : String) (chain : List String)
  /-- A condition asks for a name that is not defined. -/
  | undefinedCondition (name : String)
  /-- Conditionals do not match. -/
  | nesting (error : NestingError)
  /-- A header includes itself, directly or not. -/
  | includeCycle (chain : List Path)
  /-- A header cannot be read. -/
  | unreadable (path : Path) (reason : ReadError)
  /-- An include does not name a header next to the root header. -/
  | badInclude (path : String)
  /-- A define right behind an `#ifndef` has another name. -/
  | ifndefMismatch (ifndef define : String)
  /-- An include guard does not follow an `#ifndef`. -/
  | guardWithoutIfndef (name : String)
  /-- An include guard has a value. -/
  | guardValue (name : String)
  /-- An include guard is not the first define. -/
  | guardNotFirst (name : String)
  /-- An include guard has another name than the path asks for. -/
  | guardName (found expected : String)
  /-- A board-detection define has a value. -/
  | detectionValue (name : String)
  /-- A board-detection define has another name than the path asks for. -/
  | detectionName (found expected : String)
  /-- An include suggestion names another path. -/
  | suggestionMismatch (found expected : String)
  /-- No setting names the platform. -/
  | missingPlatform
  /-- The platform is not one of the families. -/
  | unknownPlatform (platform : String)
  /-- The variant of the chip is given in an old way. -/
  | deprecatedVariant
  /-- A fallback setting is missing. -/
  | missingFallback (name : String)
  /-- A define is missing. -/
  | missingDefine (name : String)
  /-- A fallback setting has no define of the same name. -/
  | fallbackWithoutDefine (name : String)
  /-- A define has no fallback setting of the same name. -/
  | defineWithoutFallback (name : String)
  /-- A fallback setting and the define of the same name differ. -/
  | settingMismatch (name : String) (setting : Value) (define : Option Value)
  /-- The define for the older stepping of the chip is not 1. -/
  | steppingUnsupported (chip : Chip) (value : Option Value)
  /-- A define is one for the other family of chips. -/
  | foreignChip (chip : Chip) (other : Family) (name : String)
  /-- A pin has no value. -/
  | undefinedPin (name : String)
  /-- A pin is not a number. -/
  | nonIntegerPin (name value : String)
  /-- The chip has no such pin. -/
  | invalidPin (name : String) (pin : Int) (chip : Chip)
  /-- Two defines write the same pin. -/
  | sharedPin (first second : String) (pin : Int)
  /-- The chip has no such interface. -/
  | unknownInterface (name interface : String) (chip : Chip)
  /-- The instance that a function pin belongs to is not defined. -/
  | missingInstance (name instanceName : String)
  /-- The interface has no such instance. -/
  | invalidInstance (instanceName : String) (value : Option Value)
  /-- The instance has no such function. -/
  | invalidFunction (name function instanceName : String)
  /-- The pin cannot serve the function. -/
  | invalidFunctionPin (name : String) (pin : Int) (function interface : String) (number : Int)
  /-- A function that has to have a pin has none. -/
  | missingFunctionPin (name pin : String)
  /-- None of some functions has a pin. -/
  | noFunctionPin (name : String) (candidates : List String)
  /-- There is no include guard. -/
  | missingGuard (expected : String)
  /-- There is no board-detection define. -/
  | missingDetection (expected : String)
  /-- There is no include suggestion. -/
  | missingSuggestion (expected : String)
  /-- There is no capability schema. -/
  | schema (error : SchemaError)
deriving DecidableEq

/-- Texts in a row, with commas and an `or` before the last. -/
def orList : List String → String
  | [] => ""
  | [a] => a
  | items => ", ".intercalate items.dropLast ++ " or " ++ items.getLast?.getD ""

namespace Issue

open Value

/-- The issue in words. -/
def message : Issue → String
  | lowercase name => s!"Expected `{name}` to be all uppercase"
  | legacySetting kind name value =>
    s!"Legacy `// {kind.commentWord} {name}={value}` comment, " ++
      s!"use `{kind.callWord}({name}, {value})` instead"
  | unsupportedConditional word condition =>
    s!"Unsupported conditional `{word.shown condition}`, " ++
      "only `#if NAME`, `#if !NAME`, `#ifdef` and `#ifndef` are understood"
  | conflict space name first second previous =>
    s!"Conflicting {space.entries} `{name}` (`{describe first}` at {previous} and " ++
      s!"`{describe second}`)"
  | redefinition space name value previous =>
    s!"Multiple {space.entries} `{name}` with the same value `{describe value}`, " ++
      s!"first at {previous}"
  | circular name chain => s!"Circular definition of `{name}`: " ++ " -> ".intercalate chain
  | undefinedCondition name => s!"`#if {name}` refers to an undefined name"
  | nesting error => error.message
  | includeCycle chain => "Include cycle: " ++ " -> ".intercalate (chain.map Path.text)
  | unreadable path reason => s!"Failed to read `{path}`: {reason}"
  | badInclude path =>
    s!"Include of \"{path}\" must name a `.h` header in the boards directory"
  | ifndefMismatch ifndef define => s!"`#ifndef {ifndef}` / `#define {define}` mismatch"
  | guardWithoutIfndef name => s!"Include-guard `#define {name}` is missing an `#ifndef`"
  | guardValue name => s!"Include-guard `#define {name}` shouldn't have a value"
  | guardNotFirst name => s!"Include-guard `#define {name}` should be the first define"
  | guardName found expected =>
    s!"Found include-guard `#define {found}` but expected `{expected}`"
  | detectionValue name => s!"Board-detection `#define {name}` shouldn't have a value"
  | detectionName found expected =>
    s!"Board-detection `#define {found}` should end with `{expected}`"
  | suggestionMismatch found expected =>
    s!"Suggests including \"{found}\" but file is named \"{expected}\""
  | missingPlatform => "Missing a `pico_board_cmake_set(PICO_PLATFORM, ...)`"
  | unknownPlatform platform =>
    s!"Unknown PICO_PLATFORM `{platform}`, expected `rp2040` or `rp2350`"
  | deprecatedVariant => "`PICO_RP2350B` is deprecated, use `#define PICO_RP2350A 0` instead"
  | missingFallback name => s!"Missing a `pico_board_cmake_set_default({name}, ...)`"
  | missingDefine name => s!"Missing a `#define {name}`"
  | fallbackWithoutDefine name =>
    s!"Has `pico_board_cmake_set_default({name}, ...)` but is missing a matching `#define`"
  | defineWithoutFallback name =>
    s!"Has `#define {name}` but is missing a matching `pico_board_cmake_set_default`"
  | settingMismatch name setting define =>
    "Mismatched `pico_board_cmake_set_default` and `#define` values for " ++
      s!"`{name}` (`{setting}` and `{describe define}`)"
  | steppingUnsupported chip value =>
    s!"Chip {chip} requires `#define PICO_RP2350_A2_SUPPORTED 1`, found `{describe value}`"
  | foreignChip chip other name =>
    s!"Header is for {chip} and so shouldn't have settings for {other} (`{name}`)"
  | undefinedPin name => s!"`{name}` is set to an undefined value"
  | nonIntegerPin name value => s!"`{name}` resolves to a non-integer value `{value}`"
  | invalidPin name pin chip => s!"Pin {pin} for `{name}` isn't a valid pin-number on {chip}"
  | sharedPin first second pin => s!"Both `{first}` and `{second}` claim to be pin {pin}"
  | unknownInterface name interface chip =>
    s!"`{name}` is defined but {interface} isn't in the {chip} interface schema"
  | missingInstance name instanceName =>
    s!"`{name}` is defined but `{instanceName}` isn't defined"
  | invalidInstance instanceName value =>
    s!"`{instanceName}` is set to an invalid instance {describe value}"
  | invalidFunction name function instanceName =>
    s!"`{name}` is defined but {function} isn't a valid function for `{instanceName}`"
  | invalidFunctionPin name pin function interface number =>
    s!"`{name}` is set to {pin} which isn't a valid pin for {function} on {interface} {number}"
  | missingFunctionPin name pin => s!"`{name}` is defined but `{pin}` isn't defined"
  | noFunctionPin name candidates =>
    s!"`{name}` is defined but none of {orList candidates} are defined"
  | missingGuard expected => s!"No include-guard (expected `{expected}`)"
  | missingDetection expected => s!"No board-detection `#define` (expected `{expected}`)"
  | missingSuggestion expected => s!"No include-suggestion comment (expected \"{expected}\")"
  | schema error => error.message

instance : ToString Issue := ⟨message⟩

end Issue

end BoardLint
