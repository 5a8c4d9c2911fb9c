import BoardLint.Proofs.Directive.Names
import BoardLint.Proofs.Numeral
import BoardLint.Proofs.Scan.Runs
import BoardLint.Proofs.Text.Ascii

/-!
# Integer literals as conditions

The condition of an `#if` may be an integer literal in place of a name. Then it opens a branch that
is active by the value of the literal, and nothing is looked up (`evaluate_of_literal`). But the
word of the condition is taken for a name before that, and a name has no lower-case letters. So an
error is reported of a literal with such a letter, which may be the one of its mark or one of its
digits, and of no other literal (`literal_condition`).
-/

namespace BoardLint

namespace Text

/-! ## Lower-case letters of a literal -/

/-- The lower-case letters of a word that is a literal are those of ASCII. -/
theorem isUpperName_of_literal {w : String} {n : Int} (hw : w.toList ∈ word w)
    (hn : Numeral.parse? w = some n) : isUpperName w = !w.toList.any Char.isLower := by
  have hliteral := Numeral.parse?_eq_some_iff.1 hn
  rw [trim_of_mem_word hw] at hliteral
  exact isUpperName_of_ascii (Numeral.toNat_lt_of_mem_literal hliteral)

end Text

namespace Directive

open Text

variable {w : String}

/-- The line with this condition. -/
def conditionLine (negated : Bool) (w : String) : String :=
  (if negated then "#if !" else "#if ") ++ w

theorem classify_conditionLine (hw : w.toList ∈ word w) (negated : Bool) :
    classify (conditionLine negated w) = ifTrue negated w := by
  have hname := isName_iff.2 hw
  cases negated with
  | false => exact hname ("#if ", ifTrue false) (by simp [naming])
  | true => exact hname ("#if !", ifTrue true) (by simp [naming])

end Directive

namespace Scan

open Text Directive

variable {c : Context} {chain : List Path} {header : Header} {w : String} {n : Int} {p : Point}

theorem evaluate_of_literal (h : Numeral.parse? w = some n) (s : Symbols) (l : Location) :
    evaluate s w l = (n != 0, ∅) := by
  rw [evaluate, h]

/-- A lower-case letter of a condition is reported. -/
def letterFindings (w : String) (l : Location) : Findings Issue :=
  .errorIf (w.toList.any Char.isLower = true) (.lowercase w) l

theorem nameFindings_of_literal (hw : w.toList ∈ word w) (hn : Numeral.parse? w = some n)
    {frame : Frame} (hactive : frame.branches.isActive = true) (negated : Bool) (l : Location) :
    nameFindings frame (.ifTrue negated w) l = letterFindings w l := by
  unfold nameFindings letterFindings
  dsimp only [name?]
  rw [isUpperName_of_literal hw hn]
  simp [hactive]

/-- All that a line does whose condition is a literal. -/
theorem step_of_literal (hw : w.toList ∈ word w) (hn : Numeral.parse? w = some n)
    {frame : Frame} (hactive : frame.branches.isActive = true) (expected : ExpectedNames)
    (k : UInt32) (negated : Bool) (s : State) :
    step expected header k (conditionLine negated w) frame s =
      .next (enter frame ((n != 0) != negated))
        (s.report (letterFindings w (.atLine header.source k))) := by
  unfold step
  dsimp only
  rw [classify_conditionLine hw negated, nameFindings_of_literal hw hn hactive]
  show ifTrue _ negated w frame _ = _
  unfold ifTrue
  rw [if_pos hactive, evaluate_of_literal hn]
  simp [State.report]

/-- A word that is an integer literal is a condition like any other, in every active branch: the
line opens a branch that is active by the value of the literal, and changes nothing else. But an
error is reported if the literal has a lower-case letter. -/
theorem literal_condition (hw : w.toList ∈ word w) (hn : Numeral.parse? w = some n)
    (hactive : p.frame.branches.isActive = true) (negated : Bool) (k : UInt32) :
    ∃ q, readLine c chain header p (k, conditionLine negated w) = .ok q ∧
      q.frame = enter p.frame ((n != 0) != negated) ∧
      (q.frame.branches.isActive = true ↔ if negated then n = 0 else n ≠ 0) ∧
      q.state.symbols = p.state.symbols ∧ q.state.markers = p.state.markers ∧
      q.state.findings.warnings = p.state.findings.warnings ∧
      q.state.findings.errors = p.state.findings.errors ++
        if w.toList.any Char.isLower then [⟨.lowercase w, .atLine header.source k⟩] else [] := by
  refine ⟨⟨enter p.frame ((n != 0) != negated),
    p.state.report (letterFindings w (.atLine header.source k))⟩, ?_, rfl, ?_, rfl, rfl, ?_, ?_⟩
  · rw [readLine, step_of_literal hw hn hactive]
  · show (p.frame.branches.enter _).isActive = true ↔ _
    rw [Branches.isActive_enter, hactive]
    cases negated <;> simp
  · show p.state.findings.warnings ++ _ = _
    rw [letterFindings, Findings.warnings_errorIf, List.append_nil]
  · show p.state.findings.errors ++ _ = _
    rw [letterFindings, Findings.errors_errorIf]

/-- A header whose condition is a literal with a lower-case letter. -/
def markedText : String := "#if 0x1\n#endif\n"

def markedSource : Source := .ofText ⟨"a.h"⟩ markedText

/-- The disk that has this header and nothing else. -/
def markedContext : Context := .ofPath (Snapshot.disk [(⟨"a.h"⟩, .ok markedText)]) ⟨"a.h"⟩

theorem mem_word_marked : "0x1".toList ∈ word "0x1" :=
  ⟨rfl, by decide, List.all_eq_true.1 (by decide +kernel)⟩

/-- The branch is opened, but the letter is reported. -/
theorem literal_condition_marked :
    Numeral.parse? "0x1" = some 1 ∧ (start markedSource).frame.branches.isActive = true ∧
      ∃ q, readLine markedContext [markedSource.path] ⟨markedSource, true⟩ (start markedSource)
          (1, conditionLine false "0x1") = .ok q ∧
        q.frame.branches.isActive = true ∧
        q.state.symbols = initialSymbols markedSource ∧
        q.state.findings.errors = [⟨.lowercase "0x1", .atLine markedSource 1⟩] := by
  have hn : Numeral.parse? "0x1" = some 1 := by decide +kernel
  obtain ⟨q, hq, -, hopened, hsymbols, -, -, herrors⟩ :=
    literal_condition (p := start markedSource) mem_word_marked hn rfl false 1
  exact ⟨hn, rfl, q, hq, hopened.2 (by decide), hsymbols, herrors⟩

/-- So not every literal is a condition that passes without an error. -/
theorem lowercase_literal_reported :
    ¬ ∀ (c : Context) (source : Source) (k : Nat) (p : Point) (w : String) (n : Int)
        (negated : Bool),
      source.lines[k]? = some (conditionLine negated w) → Reaches c source k p →
      p.frame.branches.isActive = true → w.toList ∈ word w → Numeral.parse? w = some n →
      ∃ q, readLine c [source.path] ⟨source, true⟩ p
          (Source.lineNumber k, conditionLine negated w) = .ok q ∧
        q.state.findings = p.state.findings := by
  intro h
  have hn : Numeral.parse? "0x1" = some 1 := by decide +kernel
  obtain ⟨q, hq, hquiet⟩ := h markedContext markedSource 0 (start markedSource) "0x1" 1 false
    (by decide +kernel) rfl rfl mem_word_marked hn
  rw [readLine, step_of_literal mem_word_marked hn rfl] at hq
  obtain rfl := Except.ok.inj hq
  have herrors : [⟨.lowercase "0x1", .atLine markedSource 1⟩] = (∅ : Findings Issue).errors :=
    congrArg Findings.errors hquiet
  exact absurd herrors (List.cons_ne_nil _ _)

end Scan

end BoardLint
