import BoardLint.CommandLine
import BoardLint.Disk.FileTree
import BoardLint.Main
import BoardLint.Proofs.Audit.Wiring
import BoardLint.Proofs.Scan.Inactive
import BoardLint.Proofs.Scan.Splice
import BoardLint.Proofs.Symbols.Alias
import BoardLint.Proofs.Symbols.FirstCalls
import BoardLint.Proofs.Directive.Grammar
import BoardLint.Proofs.Directive.Preprocessor
import BoardLint.Proofs.Directive.Openings
import BoardLint.Proofs.Directive.Settings
import BoardLint.Proofs.Scan.Runs
import BoardLint.Proofs.Scan.Guard
import BoardLint.Proofs.Path.Directory
import BoardLint.Proofs.Disk.Named
import BoardLint.Proofs.Scan.Descent
import BoardLint.Proofs.Scan.Cycle
import BoardLint.Proofs.Scan.Nesting
import BoardLint.Proofs.Check.Inputs
import BoardLint.Proofs.Check.Denied
import BoardLint.Proofs.Symbols.Circles
import BoardLint.Proofs.Directive.Trailing
import BoardLint.Proofs.Directive.Replacement
import BoardLint.Proofs.Scan.Provenance
import BoardLint.Proofs.Scan.Log
import BoardLint.Proofs.Check.Complete
import BoardLint.Proofs.Audit.SharedPins
import BoardLint.Proofs.Audit.Platform
import BoardLint.Proofs.Audit.Order
import BoardLint.Proofs.Scan.Detection
import BoardLint.Proofs.Branches
import BoardLint.Proofs.Numeral
import BoardLint.Proofs.Text.Ascii
import BoardLint.Proofs.Directive.Names
import BoardLint.Proofs.Scan.Condition
import BoardLint.Proofs.Check.Stricter
import BoardLint.Proofs.Value
import BoardLint.Proofs.Symbols.Following
import BoardLint.Proofs.Text.ByteOrder
import BoardLint.Proofs.Json.Decode
import BoardLint.Proofs.Schema.Tables
import BoardLint.Proofs.Schema.Numbering
import BoardLint.Proofs.ExpectedNames
