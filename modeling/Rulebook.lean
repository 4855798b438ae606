import Rulebook.Main
import Rulebook.FileTree
import Rulebook.Proofs.Json.KeyOrder
import Rulebook.Proofs.Evaluation.Results
import Rulebook.Proofs.RuleTree.Leaves
import Rulebook.Proofs.Document.Rules
import Rulebook.Proofs.Distribution.Shares
import Rulebook.Proofs.Document.Output
import Rulebook.Proofs.RuleTree.Flat
import Rulebook.Proofs.Comparer.Version
import Rulebook.Proofs.Condition.Compiled
import Rulebook.Proofs.Document.Refusals
import Rulebook.Proofs.Document.Hashing
import Rulebook.Proofs.Context.Tokens
import Rulebook.Proofs.Document.Names
import Rulebook.Proofs.RuleTree.Kept
import Rulebook.Proofs.Text.LowerCase
import Rulebook.Proofs.Evaluation.Alike
import Rulebook.Proofs.Matcher.Recased
import Rulebook.Proofs.Document.Recased
import Rulebook.Proofs.Document.Shapes
import Rulebook.Proofs.CommandLine.Stages
import Rulebook.Proofs.Text.Plain
import Rulebook.Proofs.Numeral.LowerCase
import Rulebook.Proofs.Matcher.Folded
import Rulebook.Proofs.Document.Folded
import Rulebook.Proofs.RuleTree.Matching
import Rulebook.Proofs.Distribution.Declared
import Rulebook.Proofs.Document.Declared
import Rulebook.Proofs.Comparer.VersionOrder
import Rulebook.Proofs.Condition.Occurrence
import Rulebook.Proofs.Distribution.Exact
import Rulebook.Proofs.Document.Extended
import Rulebook.Proofs.Condition.Grammar
import Rulebook.Proofs.Condition.Literals
import Rulebook.Proofs.Matcher.Grammar
import Rulebook.Proofs.Matcher.Layers
import Rulebook.Proofs.Matcher.ObjectForms
import Rulebook.Proofs.Matcher.Absent
import Rulebook.Proofs.Condition.Comparisons
import Rulebook.Proofs.Context.Writes
import Rulebook.Proofs.Matcher.Rearranged
import Rulebook.Proofs.Document.Lists
import Rulebook.Proofs.Binary64.Rounding
import Rulebook.Proofs.Distribution.Rollout
import Rulebook.Proofs.Distribution.Notations
import Rulebook.Proofs.RuleTree.Depth
import Rulebook.Proofs.Matcher.Diagnoses
import Rulebook.Proofs.Distribution.Thousandths
