import Subscription.Predicate
import Subscription.Json.Writer

/-! The JSON form of predicates, with operators by name. -/

namespace Subscription

def Statement.toJson (s : Statement) : Json :=
  .record ([("attribute", .text s.token), ("operator", .text s.operator.name)] ++
    s.value?.elim [] fun value => [("value", .text value)])

def Group.toJson (statements : Group) : Json :=
  .record [("statements", .array (statements.map Statement.toJson))]

def Predicate.toJson (p : Predicate) : Json :=
  .record [("groups", .array (p.groups.map Group.toJson))]

end Subscription
