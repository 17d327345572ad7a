import PatternMachine.Compilation.Grammar
import PatternMachine.Config.Format
import PatternMachine.Program.Listing
import PatternMachine.Proofs.Assembler.Constants
import PatternMachine.Proofs.Assembler.Listing
import PatternMachine.Proofs.Compilation.Backreferences
import PatternMachine.Proofs.Compilation.Totality
import PatternMachine.Proofs.Cuts.Search
import PatternMachine.Proofs.Expr.Meaning
import PatternMachine.Proofs.Halting.Grammar
import PatternMachine.Proofs.Instruction.Encoding
import PatternMachine.Proofs.Language.Acceptance
import PatternMachine.Proofs.Machine.Limits
import PatternMachine.Proofs.Machine.Locality
import PatternMachine.Proofs.Machine.Tracing
import PatternMachine.Proofs.Machine.TrailFaults
import PatternMachine.Proofs.Regex.Modes
import PatternMachine.Proofs.Safety.Progress
