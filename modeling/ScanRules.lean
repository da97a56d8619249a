import ScanRules.Json.Forms
import ScanRules.Scanner.Builder
import ScanRules.Session
import ScanRules.Proofs.Position
import ScanRules.Proofs.Rule
import ScanRules.Proofs.Scan.Step
import ScanRules.Proofs.Place
import ScanRules.Proofs.Scan.Within
import ScanRules.Proofs.Session.Calls
import ScanRules.Proofs.Session.Requests
import ScanRules.Proofs.Session.Positions
import ScanRules.Proofs.Trail
import ScanRules.Proofs.Session.Tiling
import ScanRules.Proofs.Scan.Course
import ScanRules.Proofs.Session.Run
import ScanRules.Proofs.Session.Merging
import ScanRules.Proofs.Scan.Walk
import ScanRules.Proofs.Session.Failing
import ScanRules.Proofs.Session.Items
import ScanRules.Proofs.Session.Ending
import ScanRules.Proofs.Session.Mixing
import ScanRules.Proofs.Checked.Position
import ScanRules.Proofs.Checked.Scan
import ScanRules.Proofs.Session.Safety
import ScanRules.Proofs.Session.Invariant
import ScanRules.Proofs.Session.Interchange
import ScanRules.Proofs.Session.Tables
import ScanRules.Proofs.Session.Shadows
import ScanRules.Proofs.Session.Extended
import ScanRules.Proofs.Builder
import ScanRules.Proofs.Session.Retry
import ScanRules.Proofs.Pattern.Blind
import ScanRules.Proofs.Pattern.LookFree
import ScanRules.Proofs.Pattern.Assertion
import ScanRules.Proofs.Scan.Local
import ScanRules.Proofs.Session.Cut
import ScanRules.Proofs.Scan.Shifted
import ScanRules.Proofs.Session.Anew
import ScanRules.Proofs.Session.Underflow
import ScanRules.Proofs.Session.Live
import ScanRules.Proofs.Session.Renaming
import ScanRules.Proofs.Text.Utf8
import ScanRules.Proofs.Pattern.Bytes
import ScanRules.Proofs.Json.Lawful
import ScanRules.Proofs.Json.Members
import ScanRules.Proofs.RuleSet
import ScanRules.Proofs.Session.Log
import ScanRules.Proofs.Pattern.Simplify
import ScanRules.Proofs.Pattern.Settled
import ScanRules.Proofs.Pattern.Leading
import ScanRules.Proofs.Pattern.Inline
import ScanRules.Proofs.Pattern.Exploring
import ScanRules.Proofs.Pattern.Parts
import ScanRules.Proofs.Pattern.Relocation
import ScanRules.Proofs.Pattern.Branches
import ScanRules.Proofs.Pattern.Sequences
import ScanRules.Proofs.CharSet
import ScanRules.Proofs.Pattern.Choice
import ScanRules.Proofs.Pattern.Weight
import ScanRules.Proofs.Pattern.Raised
import ScanRules.Proofs.Pattern.Bare
import ScanRules.Proofs.Pattern.Alternation
import ScanRules.Proofs.Json.Written
import ScanRules.Proofs.Json.Pieces
import ScanRules.Proofs.Json.Numerals
import ScanRules.Proofs.Json.Skipping
import ScanRules.Proofs.Json.Exact
import ScanRules.Proofs.Json.Records
import ScanRules.Proofs.Json.Rewriting
import ScanRules.Proofs.RuleSet.Rewriting
import ScanRules.Proofs.Text.Escaped
import ScanRules.Proofs.Token
import ScanRules.Proofs.Position.Bytes
