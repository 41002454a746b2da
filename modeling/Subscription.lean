import Subscription.Binary64.Decimal
import Subscription.Text.Quoted
import Subscription.Expr.Display
import Subscription.Json.Reader
import Subscription.Expr.Json
import Subscription.Catalog
import Subscription.Filter
import Subscription.Predicate.Json
import Subscription.Yaml.Node
import Subscription.Settings.Yaml
import Subscription.Catalog.Yaml
import Subscription.Expr.Yaml
import Subscription.Main
import Subscription.Proofs.Expr
import Subscription.Proofs.Depth
import Subscription.Proofs.Normal.Rows
import Subscription.Proofs.Traversal
import Subscription.Proofs.Compile.Rows
import Subscription.Proofs.Compile.Limits
import Subscription.Proofs.Filter.Meaning
import Subscription.Proofs.Filter.Lift
import Subscription.Proofs.Filter.Compile
import Subscription.Proofs.Filter.Construction
import Subscription.Proofs.Filter.NegationNormal
import Subscription.Proofs.Wire.Reading
import Subscription.Proofs.Compile.Tokens
import Subscription.Proofs.Filter.Combination
import Subscription.Proofs.Filter.Output
import Subscription.Proofs.Wire.Received
import Subscription.Proofs.Yaml.Saved
import Subscription.Proofs.Catalog
import Subscription.Proofs.Compile.Answers
import Subscription.Proofs.Compile.Association
import Subscription.Proofs.Compile.Failure
import Subscription.Proofs.Compile.Exchange
import Subscription.Proofs.Compile.Stability
import Subscription.Proofs.Filter.DoubleNegation
import Subscription.Proofs.Filter.Plain
import Subscription.Proofs.Normal.Disjunctive
import Subscription.Proofs.Normal.Interpretation
