import FuzzCoverage.Disk.Tree
import FuzzCoverage.Main
import FuzzCoverage.Proofs.Checked.Completion
import FuzzCoverage.Proofs.Scan.Item
import FuzzCoverage.Proofs.Scan.SignatureBraces
import FuzzCoverage.Proofs.Scan.StringContents
import FuzzCoverage.Proofs.Solidity.Lexer
import FuzzCoverage.Proofs.Scan.Declaration
import FuzzCoverage.Proofs.Scan.Reachable
import FuzzCoverage.Proofs.Scan.SharedRow
import FuzzCoverage.Proofs.Scan.Unreached
import FuzzCoverage.Proofs.Scan.Resumed
import FuzzCoverage.Proofs.Report.Figures
import FuzzCoverage.Proofs.Report.Snippets
import FuzzCoverage.Proofs.Report.Joining
import FuzzCoverage.Proofs.Report.Threshold
import FuzzCoverage.Proofs.Report.Tightening
import FuzzCoverage.Proofs.Report.UserExclusion
import FuzzCoverage.Proofs.Scan.Tallied
import FuzzCoverage.Proofs.Trace.Columns
import FuzzCoverage.Proofs.Scan.Comments
import FuzzCoverage.Proofs.Scan.Covering
import FuzzCoverage.Proofs.Scan.HitCounts
import FuzzCoverage.Proofs.Coverage.Monotone
import FuzzCoverage.Proofs.Scan.StructuralRows
import FuzzCoverage.Proofs.Report.Scope
import FuzzCoverage.Proofs.Trace.Layouts
import FuzzCoverage.Proofs.Scan.ViewPure
import FuzzCoverage.Proofs.Solidity.LeadingIdentifier
import FuzzCoverage.Proofs.Solidity.ModifierHeading
import FuzzCoverage.Proofs.Scan.HeadingRow
import FuzzCoverage.Proofs.Scope.Entries
import FuzzCoverage.Proofs.SourcePath
import FuzzCoverage.Proofs.Report.NothingCovered
import FuzzCoverage.Proofs.Scan.FunctionFilter
import FuzzCoverage.Proofs.Solidity.StrippedCode
import FuzzCoverage.Proofs.Scan.Registers
import FuzzCoverage.Proofs.Scan.Spacing
