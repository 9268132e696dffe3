import CodeShape.Main
import CodeShape.Proofs.Config.Discovery
import CodeShape.Proofs.Config.UnknownKeys
import CodeShape.Proofs.Finding.Collection
import CodeShape.Proofs.Grammar.Operators
import CodeShape.Proofs.Grammar.WordRuns
import CodeShape.Proofs.Pattern.Binding
import CodeShape.Proofs.Pattern.Blocks
import CodeShape.Proofs.Pattern.Containment
import CodeShape.Proofs.Pattern.IdentifierSearch
import CodeShape.Proofs.Pattern.Limits
import CodeShape.Proofs.Pattern.LiteralSearch
import CodeShape.Proofs.Pattern.NamedGroups
import CodeShape.Proofs.Pattern.NormalForm
import CodeShape.Proofs.Pattern.Places
import CodeShape.Proofs.Pattern.Reflow
import CodeShape.Proofs.Pattern.Relaxation
import CodeShape.Proofs.Pattern.Reserved
import CodeShape.Proofs.Pattern.Runs
import CodeShape.Proofs.Pattern.Scanning
import CodeShape.Proofs.Pattern.Splicing
import CodeShape.Proofs.Pattern.Strings
import CodeShape.Proofs.Pattern.Unclosed
import CodeShape.Proofs.Pattern.WholeBodies
import CodeShape.Proofs.Report.Colors
import CodeShape.Proofs.Run.Failure
import CodeShape.Proofs.Run.Findings
import CodeShape.Run
