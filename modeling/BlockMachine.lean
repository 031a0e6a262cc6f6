import BlockMachine.Block.Basic
import BlockMachine.Comparison
import BlockMachine.Env
import BlockMachine.Formula.Basic
import BlockMachine.Formula.Evaluate
import BlockMachine.Formula.Fault
import BlockMachine.Formula.Reader
import BlockMachine.Json.Basic
import BlockMachine.Json.Reader
import BlockMachine.Json.Token
import BlockMachine.Limit
import BlockMachine.Machine
import BlockMachine.Number.Binary64
import BlockMachine.Number.Literal
import BlockMachine.Number.Scientific
import BlockMachine.Number.Spelled
import BlockMachine.Proofs.Accounting
import BlockMachine.Proofs.Ceiling
import BlockMachine.Proofs.Characters
import BlockMachine.Proofs.Commuting
import BlockMachine.Proofs.Composition
import BlockMachine.Proofs.Doubles
import BlockMachine.Proofs.FirstFault
import BlockMachine.Proofs.Flags
import BlockMachine.Proofs.ForeignItems
import BlockMachine.Proofs.Grammar
import BlockMachine.Proofs.History
import BlockMachine.Proofs.Independence
import BlockMachine.Proofs.Interchange
import BlockMachine.Proofs.Levels
import BlockMachine.Proofs.Literals
import BlockMachine.Proofs.Lookups
import BlockMachine.Proofs.NameLists
import BlockMachine.Proofs.Nesting
import BlockMachine.Proofs.Paths
import BlockMachine.Proofs.Pointing
import BlockMachine.Proofs.Reading
import BlockMachine.Proofs.Recognition
import BlockMachine.Proofs.RenamedReading
import BlockMachine.Proofs.Renaming
import BlockMachine.Proofs.Replies
import BlockMachine.Proofs.Resending
import BlockMachine.Proofs.Rounding
import BlockMachine.Proofs.Runs
import BlockMachine.Proofs.Semantics
import BlockMachine.Proofs.Spellings
import BlockMachine.Proofs.Traces
import BlockMachine.Proofs.Trimming
import BlockMachine.Proofs.Words
import BlockMachine.Service.Evaluate
import BlockMachine.Service.Problem
import BlockMachine.Service.Route
import BlockMachine.Service.Run
import BlockMachine.Service.RunRequest
import BlockMachine.Sheet
import BlockMachine.Text.Blank
import BlockMachine.Text.Digit
import BlockMachine.Text.Encoding
import BlockMachine.Text.Letter
import BlockMachine.Text.Printable
import BlockMachine.Text.Quoted
import BlockMachine.Text.Ranges
