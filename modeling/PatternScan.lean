import PatternScan.Breach
import PatternScan.Bytes
import PatternScan.Cursor
import PatternScan.Engine
import PatternScan.Error
import PatternScan.Log
import PatternScan.Match
import PatternScan.MatchStore
import PatternScan.Options
import PatternScan.Pattern.CharSet
import PatternScan.Pattern.Check
import PatternScan.Pattern.Classes
import PatternScan.Pattern.Engine
import PatternScan.Pattern.Fault
import PatternScan.Pattern.LineEnd
import PatternScan.Pattern.Lowering
import PatternScan.Pattern.Machine
import PatternScan.Pattern.Machine.Back
import PatternScan.Pattern.Machine.Forward
import PatternScan.Pattern.Machine.State
import PatternScan.Pattern.Program
import PatternScan.Pattern.Reader
import PatternScan.Pattern.Reader.Basic
import PatternScan.Pattern.Reader.Bracket
import PatternScan.Pattern.Reader.Escape
import PatternScan.Pattern.Reader.Group
import PatternScan.Pattern.ScriptRun
import PatternScan.Pattern.Search
import PatternScan.Pattern.Setup
import PatternScan.Pattern.Start
import PatternScan.Pattern.Subject
import PatternScan.Pattern.Syntax
import PatternScan.Pattern.Unicode.BidiClass
import PatternScan.Pattern.Unicode.Binary
import PatternScan.Pattern.Unicode.Case
import PatternScan.Pattern.Unicode.Category
import PatternScan.Pattern.Unicode.Grapheme
import PatternScan.Pattern.Unicode.Property
import PatternScan.Pattern.Unicode.Runs
import PatternScan.Pattern.Unicode.Script
import PatternScan.Pattern.Utf8
import PatternScan.Pattern.Width
import PatternScan.Registry
import PatternScan.Scan.Group
import PatternScan.Scan.Step
import PatternScan.Scan.Whole
import PatternScan.Session
import PatternScan.Shelf
import PatternScan.Span
import PatternScan.Text.Bounded
import PatternScan.Proofs.Position
import PatternScan.Proofs.Step
import PatternScan.Proofs.Run
import PatternScan.Proofs.Completeness
import PatternScan.Proofs.Agreement
import PatternScan.Proofs.Progress
import PatternScan.Proofs.Restart
import PatternScan.Proofs.Effect
import PatternScan.Proofs.Ownership
import PatternScan.Proofs.Interleaving
import PatternScan.Proofs.Record
import PatternScan.Proofs.Overwriting
import PatternScan.Proofs.Exhaustion
import PatternScan.Proofs.FirstMatch
import PatternScan.Proofs.Compilation
import PatternScan.Proofs.Safety
import PatternScan.Proofs.SlotCount
import PatternScan.Proofs.Ledger
import PatternScan.Proofs.Storage
import PatternScan.Proofs.LogLevel
import PatternScan.Proofs.Utf8
import PatternScan.Proofs.Validity
import PatternScan.Proofs.Characters
import PatternScan.Proofs.Wraparound
import PatternScan.Proofs.BoundedText
import PatternScan.Proofs.LogLine
import PatternScan.Proofs.Anchored
import PatternScan.Proofs.Reason
import PatternScan.Proofs.Formatting
import PatternScan.Proofs.ErrorText
