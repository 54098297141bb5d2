import TreeScript.Main
import TreeScript.Node.Build
import TreeScript.Proofs.Scope.Isolation
import TreeScript.Proofs.Control.Placement
import TreeScript.Proofs.Typing.Soundness
import TreeScript.Proofs.Memo.Identity
import TreeScript.Proofs.Control.Crossing
import TreeScript.Proofs.Memo.Meaning
import TreeScript.Proofs.Scope.Lookup
import TreeScript.Proofs.Memo.Refinement
import TreeScript.Proofs.Mirror.Link
import TreeScript.Proofs.Mirror.Views
import TreeScript.Proofs.Mirror.Values
import TreeScript.Proofs.Mirror.Constructs
import TreeScript.Proofs.Mirror.Contents
import TreeScript.Proofs.Memo.PureBodies
import TreeScript.Proofs.Memo.Drawings
import TreeScript.Proofs.Memo.Twins
import TreeScript.Proofs.Memo.Transparency
import TreeScript.Proofs.Scope.Wrapping
import TreeScript.Proofs.Scope.Chains
import TreeScript.Proofs.Runs.Interruption
import TreeScript.Proofs.Runs.History
import TreeScript.Proofs.Runs.Cells
import TreeScript.Proofs.Runs.Misreading
import TreeScript.Proofs.Runs.Traces
import TreeScript.Proofs.Runs.Order
import TreeScript.Proofs.Control.Escape
import TreeScript.Proofs.Typing.Returns
import TreeScript.Proofs.Loading.Breakdowns
import TreeScript.Proofs.Loading.Order
import TreeScript.Proofs.Typing.Concat
import TreeScript.Proofs.Typing.Exact
import TreeScript.Proofs.Arrays.Elements
import TreeScript.Proofs.Arrays.Snapshots
import TreeScript.Proofs.Control.Leaving
import TreeScript.Proofs.Scope.Iterations
import TreeScript.Proofs.Numeric.Comparison
import TreeScript.Proofs.Numeric.Division
import TreeScript.Proofs.Text.Slices
import TreeScript.Proofs.Numeric.Powers
import TreeScript.Proofs.Numeric.Reading
import TreeScript.Proofs.Typing.Reports
import TreeScript.Proofs.Typing.Trees
import TreeScript.Proofs.Typing.Readability
