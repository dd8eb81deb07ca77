import Dataflow.Main
import Dataflow.Proofs.Catalogue.Agreement
import Dataflow.Proofs.Catalogue.Comparisons
import Dataflow.Proofs.CommandLine
import Dataflow.Proofs.Expression.Arithmetic
import Dataflow.Proofs.Expression.Spelling
import Dataflow.Proofs.Graph.Checked
import Dataflow.Proofs.Graph.Failures
import Dataflow.Proofs.Graph.Paths
import Dataflow.Proofs.Graph.Skipped
import Dataflow.Proofs.Operator.Associative
import Dataflow.Proofs.Operator.SlotChecks
import Dataflow.Proofs.Value.PartialEquivalence
