/-!
# Directives

A line of a header is one directive, or none that matters here: a build setting, a define, an
include, a line of a conditional, or one of the comments that carry meaning.
-/

namespace BoardLint

/-- What a build setting does to a variable of the build. -/
inductive SettingKind where
  /-- It sets the variable. -/
  | fixed
  /-- It gives a value for the case that there is no other. -/
  | fallback
deriving DecidableEq, Repr

namespace SettingKind

/-- The word that starts a setting in the form of a call. -/
def callWord : SettingKind → String
  | fixed => "pico_board_cmake_set"
  | fallback => "pico_board_cmake_set_default"

/-- The word that starts a setting in the form of a comment. -/
def commentWord : SettingKind → String
  | fixed => "pico_cmake_set"
  | fallback => "pico_cmake_set_default"

end SettingKind

/-- How a build setting is written. -/
inductive SettingForm where
  /-- In a comment, with an equals sign. This form is no longer accepted. -/
  | comment
  /-- As a call with two arguments. -/
  | call
deriving DecidableEq, Repr

/-- The words that start a part of a conditional with a condition. -/
inductive ConditionWord where
  | ifTrue
  | ifDefined
  | ifUndefined
  | elseIf
deriving DecidableEq, Repr

namespace ConditionWord

/-- The word as it is written. -/
def text : ConditionWord → String
  | ifTrue => "if"
  | ifDefined => "ifdef"
  | ifUndefined => "ifndef"
  | elseIf => "elif"

/-- The line with the word and a condition, as it is shown. -/
def shown (word : ConditionWord) (condition : String) : String :=
  "#" ++ word.text ++ " " ++ condition

/-- Every condition word. -/
def all : List ConditionWord := [ifTrue, ifDefined, ifUndefined, elseIf]

/-- Does the word open a conditional, so that an end has to follow? -/
def opens : ConditionWord → Bool
  | elseIf => false
  | _ => true

end ConditionWord

/-- What one line of a header says. -/
inductive Directive where
  /-- A build setting. -/
  | setting (form : SettingForm) (kind : SettingKind) (name value : String)
  /-- `#else` -/
  | elseBranch
  /-- `#endif` -/
  | endIf
  /-- `#include "path"` -/
  | includeFile (path : String)
  /-- `#if NAME`, or `#if !NAME` when negated -/
  | ifTrue (negated : Bool) (name : String)
  /-- `#ifdef NAME` -/
  | ifDefined (name : String)
  /-- `#ifndef NAME` -/
  | ifUndefined (name : String)
  /-- `#define NAME`, or `#define NAME VALUE` -/
  | define (name : String) (value : Option String)
  /-- The comment that announces the board-detection define. -/
  | boardDetection
  /-- The comment that tells other headers how to include this one. -/
  | includeSuggestion (path : String)
  /-- A conditional whose condition is not understood. -/
  | unsupported (word : ConditionWord) (condition : String)
  /-- Anything else. -/
  | unrecognized
deriving DecidableEq, Repr

namespace Directive

/-- The name of the define or setting that the directive is about. -/
def name? : Directive → Option String
  | setting _ _ name _ | ifTrue _ name | define name _ => some name
  | ifDefined name | ifUndefined name => some name
  | _ => none

/-- Is the directive part of a conditional? Such a line matters in inactive branches too. -/
def isConditional : Directive → Bool
  | elseBranch | endIf | ifTrue .. | ifDefined _ | ifUndefined _ | unsupported .. => true
  | _ => false

end Directive

end BoardLint
