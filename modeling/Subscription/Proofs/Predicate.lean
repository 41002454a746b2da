import Subscription.Predicate.Json.Reader
import Subscription.Proofs.Json.Reading
import Subscription.Proofs.Wire.Reading

/-! Reading the JSON form of a predicate gives back the predicate, with the groups and statements in
their order. -/

namespace Subscription

/-- Each operator has a name of its own. -/
theorem Operator.ofName?_name (operator : Operator) :
    Operator.ofName? operator.name = some operator := by
  -- The names are told apart one by one.
  cases operator <;> rfl

/-- Where every item is read back from its form, a list of them is. -/
theorem mapM_map_eq_some {α β : Type} {form : α → β} {read : β → Option α}
    (reads : ∀ x, read (form x) = some x) (xs : List α) : (xs.map form).mapM read = some xs := by
  -- Writing and reading an item in one go always succeeds with the item.
  have same : read ∘ form = fun x => pure x := funext reads
  rw [List.mapM_map, same, List.mapM_pure, List.map_id']
  rfl

/-- Where no item has numbers in its form, the forms of a list of them have none. -/
theorem Json.numbersOfItems_map {α : Type} {form : α → Json} (none : ∀ x, (form x).numbers = [])
    (xs : List α) : numbersOfItems (xs.map form) = [] := by
  -- The numbers of the first item come in front, and there are none.
  induction xs with
  | nil => rfl
  | cons x xs ih => rw [List.map_cons, numbersOfItems, none, ih, List.nil_append]

/-- A statement is what the fields of its form make. -/
theorem Statement.ofJson?_toJson (s : Statement) : ofJson? s.toJson = some s := by
  -- A test for presence has no field for a value, and is known by its operator.
  cases s with
  | comparison token op value => cases op <;> rfl
  | presence token => rfl

theorem Statement.numbers_toJson (s : Statement) : s.toJson.numbers = [] := by
  -- Even a number that a filter compares with has become a text.
  cases s <;> rfl

theorem Group.ofJson?_toJson (group : Group) : ofJson? group.toJson = some group :=
  -- A group has a single field, the list of its statements.
  mapM_map_eq_some Statement.ofJson?_toJson group

theorem Group.numbers_toJson (group : Group) : group.toJson.numbers = [] := by
  -- The names of fields hold no numbers, so all come from the statements.
  have none := Json.numbersOfItems_map Statement.numbers_toJson group
  simp only [toJson, Json.record, List.map_cons, List.map_nil, Json.numbers, Json.numbersOfFields,
    none, List.append_nil]

namespace Predicate

/-- A predicate is read back from its form. -/
theorem ofJson?_toJson (p : Predicate) : ofJson? p.toJson = some p := by
  -- The groups are read in their order, and nothing else makes a predicate.
  have read : ofJson? p.toJson =
      ((p.groups.map Group.toJson).mapM Group.ofJson?).bind fun groups => some ⟨groups⟩ := rfl
  rw [read, mapM_map_eq_some Group.ofJson?_toJson]
  rfl

theorem numbers_toJson (p : Predicate) : p.toJson.numbers = [] := by
  -- As with a group, all numbers would have to come from the items.
  have none := Json.numbersOfItems_map Group.numbers_toJson p.groups
  simp only [toJson, Json.record, List.map_cons, List.map_nil, Json.numbers, Json.numbersOfFields,
    none, List.append_nil]

/-- A predicate is read back from a line of its text, which holds no number that could be lost. -/
theorem ofJsonText?_write (layout : Json.Layout) (p : Predicate) :
    ofJsonText? (p.toJson.write layout ++ "\n") = some p := by
  -- The text is the same however floats are spelled, because it has none.
  have carried : ∀ n ∈ p.toJson.numbers, n.Carried Json.Writer.shortest := by
    rw [numbers_toJson]
    exact nofun
  rw [ofJsonText?, Json.write, (Json.read?_writeWith layout carried).2]
  exact p.ofJson?_toJson

end Predicate

end Subscription
