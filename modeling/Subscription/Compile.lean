import Subscription.Normal
import Subscription.Predicate
import Subscription.Resolver
import Subscription.Settings

/-! Compilation of expressions into predicates, within limits checked before any expansion. -/

namespace Subscription

/-- Why a filter does not compile; a node is reported by its kind and its text.

There is no case for a predicate that cannot be written: it is made of texts, and writing those
never fails. -/
inductive CompileError where
  | unsupportedShape (kind : NodeKind) (expression : String)
  | unresolvableLeaf (kind : NodeKind) (expression : String) (cause : ResolveError)
  | groupLimitExceeded (groups limit : Nat)
  | depthLimitExceeded (depth limit : Nat)
deriving DecidableEq

namespace CompileError

def message : CompileError → String
  | .unsupportedShape kind expression =>
    "unsupported " ++ kind.name ++ " node in filter: " ++ expression
  | .unresolvableLeaf kind expression cause =>
    "cannot resolve " ++ kind.name ++ " node '" ++ expression ++ "': " ++ cause.message
  | .groupLimitExceeded groups limit =>
    "filter expands to " ++ toString groups ++ " groups, exceeding the limit of " ++ toString limit
  | .depthLimitExceeded depth limit =>
    "filter is nested " ++ toString depth ++ " levels deep, exceeding the limit of " ++
      toString limit

/-- A node that no statement can express. -/
def unsupported (e : Expr) : CompileError :=
  .unsupportedShape e.kind e.display

/-- A node whose operand has no token. -/
def unresolvable (e : Expr) (cause : ResolveError) : CompileError :=
  .unresolvableLeaf e.kind e.display cause

end CompileError

namespace Expr

/-- The statement of a comparison whose operands are both leaves. -/
def leafStatement (resolver : Resolver) (op : CompareOp) (left right : Value) :
    Except CompileError Statement := do
  let token ← (left.attributeToken resolver).mapError (.unresolvable (.value left))
  let literal ← (right.literalToken resolver).mapError (.unresolvable (.value right))
  match op, literal with
  -- Only inequality to null has a form on the wire, as a test of presence.
  | .notEqual, none => return .presence token
  | op, none => throw (.unsupported (.compare op (.value left) (.value right)))
  | op, some text => return .comparison token op text

/-- The statement of a node, which has to be a comparison of leaves. -/
def statement (resolver : Resolver) : Expr → Except CompileError Statement
  | .compare op (.value left) (.value right) => leafStatement resolver op left right
  -- The left operand is reported before the right one.
  | .compare _ (.value _) right => .error (.unsupported right)
  | .compare _ left _ => .error (.unsupported left)
  | e => .error (.unsupported e)

/-- The statements of a conjunction, flattened from left to right. -/
def statements (resolver : Resolver) : Expr → Except CompileError (List Statement)
  | .and left right => do
    let first ← left.statements resolver
    let second ← right.statements resolver
    return first ++ second
  | e => do
    let only ← e.statement resolver
    return [only]

/-- The groups of a disjunction, flattened from left to right. -/
def groups (resolver : Resolver) : Expr → Except CompileError (List Group)
  | .or left right => do
    let first ← left.groups resolver
    let second ← right.groups resolver
    return first ++ second
  | e => do
    let only ← e.statements resolver
    return [only]

/-- The predicate of a normal form. -/
def toPredicate (resolver : Resolver) (e : Expr) : Except CompileError Predicate := do
  let groups ← e.groups resolver
  return ⟨groups⟩

/-- The predicate of an expression within the limits of the settings, depth before groups. -/
def compile (resolver : Resolver) (settings : Settings) (e : Expr) :
    Except CompileError Predicate :=
  if settings.maxDepth < e.depth then
    .error (.depthLimitExceeded e.depth settings.maxDepth)
  else if settings.maxGroups < e.width then
    .error (.groupLimitExceeded e.width settings.maxGroups)
  else e.normalize.toPredicate resolver

end Expr

end Subscription
