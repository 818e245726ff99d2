import BlockScript.Main
import BlockScript.Session
import BlockScript.Proofs.Text.Lines
import BlockScript.Proofs.Text.Trimming
import BlockScript.Proofs.Block.Slots
import BlockScript.Proofs.Compile.Acceptance
import BlockScript.Proofs.Compile.ErrorTruth
import BlockScript.Proofs.Compile.RoundTrip
import BlockScript.Proofs.Script.Wording
import BlockScript.Proofs.Script.Derivation
import BlockScript.Proofs.Blockly.Renaming
import BlockScript.Proofs.Blockly.Representation
import BlockScript.Proofs.Block.Canonical
import BlockScript.Proofs.Script.Concatenation
import BlockScript.Proofs.Block.Loading
import BlockScript.Proofs.CommandLine.Directory
import BlockScript.Proofs.CommandLine.Run
import BlockScript.Proofs.Compile.Aliases
import BlockScript.Proofs.Compile.Placement
import BlockScript.Proofs.Script.Widths
import BlockScript.Proofs.Compile.Widths
import BlockScript.Proofs.Compile.Grouping
import BlockScript.Proofs.Script.Refusal
import BlockScript.Proofs.Script.LiteralGrammar
import BlockScript.Proofs.DurationGrammar
import BlockScript.Proofs.Script.Inventory
import BlockScript.Proofs.Script.Visible
import BlockScript.Proofs.Compile.Configuration
import BlockScript.Proofs.Json.Trailing
import BlockScript.Proofs.Outline
import BlockScript.Proofs.Compile.Paths
