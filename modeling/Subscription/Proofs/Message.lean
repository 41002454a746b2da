import Subscription.Expr.Display
import Subscription.Predicate

/-! What a matching engine may find true of a message, one attribute at a time. -/

namespace Subscription

/-- An attribute that a message lacks: no statement on it holds. -/
def AbsentIn (holds : Statement → Prop) (token : String) : Prop :=
  -- The test of presence is one of these statements.
  ∀ s : Statement, s.token = token → ¬ holds s

/-- An attribute that a message has: its presence shows, one of two opposite comparisons with the
same value holds and the other does not, and it is not both truth values at once. -/
structure PresentIn (holds : Statement → Prop) (token : String) : Prop where
  shown : holds (.presence token)
  equality : ∀ value, holds (.comparison token .notEqual value) ↔
    ¬ holds (.comparison token .equal value)
  above : ∀ value, holds (.comparison token .lessOrEqual value) ↔
    ¬ holds (.comparison token .greaterThan value)
  below : ∀ value, holds (.comparison token .greaterOrEqual value) ↔
    ¬ holds (.comparison token .lessThan value)
  oneTruth : ¬ (holds (.comparison token .equal "True") ∧ holds (.comparison token .equal "False"))

/-- A message, known by the statements that hold of it. -/
structure Message where
  holds : Statement → Prop
  /-- Each attribute is either absent or present. -/
  decided : ∀ token, AbsentIn holds token ∨ PresentIn holds token

/-- What holds of attributes that all have the same text, where texts are compared as such. -/
def uniformHolds (text : String) : Statement → Prop
  | .presence _ => True
  | .comparison _ .equal value => text = value
  | .comparison _ .notEqual value => text ≠ value
  | .comparison _ .greaterThan value => value < text
  | .comparison _ .lessOrEqual value => ¬ value < text
  | .comparison _ .lessThan value => text < value
  | .comparison _ .greaterOrEqual value => ¬ text < value

/-- Every attribute is then present. -/
theorem presentIn_uniformHolds (text token : String) : PresentIn (uniformHolds text) token where
  shown := trivial
  equality _ := Iff.rfl
  above _ := Iff.rfl
  below _ := Iff.rfl
  oneTruth := by
    -- The text is one of two different ones.
    intro both
    have same : ("True" : String) = "False" := both.1.symm.trans both.2
    exact absurd same (by decide)

/-- The message of which every attribute has the same text. -/
def Message.uniform (text : String) : Message where
  holds := uniformHolds text
  decided token := .inr (presentIn_uniformHolds text token)

/-- Of a present attribute, exactly one of a comparison and its complement holds. -/
theorem PresentIn.complement {holds : Statement → Prop} {token : String}
    (present : PresentIn holds token) (op : CompareOp) (value : String) :
    holds (.comparison token op.complement value) ↔ ¬ holds (.comparison token op value) := by
  -- Each pair is listed once, so three of the six operators read it backwards.
  cases op with
  | equal => exact present.equality value
  | greaterThan => exact present.above value
  | lessThan => exact present.below value
  | notEqual => exact (not_congr (present.equality value)).trans Classical.not_not |>.symm
  | lessOrEqual => exact (not_congr (present.above value)).trans Classical.not_not |>.symm
  | greaterOrEqual => exact (not_congr (present.below value)).trans Classical.not_not |>.symm

/-- A statement that holds is about an attribute that is present. -/
theorem Message.present_of_holds {m : Message} {s : Statement} (held : m.holds s) :
    PresentIn m.holds s.token := by
  rcases m.decided s.token with absent | present
  · -- No statement on an absent attribute holds.
    exact absurd held (absent s rfl)
  · exact present

/-- What a message says of a comparison: without a text it tells presence from absence, and nothing
of any other order. -/
def Message.Says (m : Message) (token : String) (op : CompareOp) : Option String → Prop
  | some text => m.holds (.comparison token op text)
  | none =>
    match op with
    | .notEqual => m.holds (.presence token)
    | .equal => ¬ m.holds (.presence token)
    | _ => False

namespace Message.Says

variable {m : Message} {token : String} {op : CompareOp} {literal : Option String} {b : Bool}

/-- A comparison whose complement is said to hold is not. -/
theorem complement_sound (said : m.Says token op.complement literal) :
    ¬ m.Says token op literal := by
  cases literal with
  | some text =>
    -- The complement holds, so the attribute is present and the two exclude each other.
    have present := Message.present_of_holds said
    exact (present.complement op text).1 said
  | none =>
    -- Presence and absence exclude each other, and nothing is said of any other order.
    cases op with
    | equal => exact fun absent => absent said
    | notEqual => exact said
    | greaterThan | greaterOrEqual | lessThan | lessOrEqual => exact nofun

/-- Of a present attribute, exactly one of a comparison and its complement is said to hold, where
null is compared for equality or inequality. -/
theorem complement_iff (present : PresentIn m.holds token)
    (sensible : literal = none → op = .equal ∨ op = .notEqual) :
    m.Says token op.complement literal ↔ ¬ m.Says token op literal := by
  -- With a text the present attribute decides, and without one it is presence that is told.
  cases literal with
  | some text => exact present.complement op text
  | none =>
    rcases sensible rfl with rfl | rfl
    · exact Classical.not_not.symm
    · exact Iff.rfl

/-- Equality with one truth value excludes equality with the other. -/
theorem not_other_truth (said : m.Says token .equal (Literal.bool !b).token?) :
    ¬ m.Says token .equal (Literal.bool b).token? := by
  -- The attribute is present, and no present attribute has both values.
  cases b with
  | false => exact fun other => (Message.present_of_holds said).oneTruth ⟨said, other⟩
  | true => exact fun other => (Message.present_of_holds said).oneTruth ⟨other, said⟩

/-- Equality with a truth value excludes inequality to it. -/
theorem not_notEqual (said : m.Says token .equal (Literal.bool b).token?) :
    ¬ m.Says token .notEqual (Literal.bool b).token? :=
  -- Equality is the complement of inequality.
  @complement_sound m token .notEqual _ said

/-- Equality with one truth value leaves inequality to the other. -/
theorem notEqual_other (said : m.Says token .equal (Literal.bool !b).token?) :
    m.Says token .notEqual (Literal.bool b).token? := by
  -- The attribute has the other value, so it is present and does not have this one.
  cases b with
  | false =>
    have present := Message.present_of_holds said
    exact (present.equality "False").2 fun other => present.oneTruth ⟨said, other⟩
  | true =>
    have present := Message.present_of_holds said
    exact (present.equality "True").2 fun other => present.oneTruth ⟨other, said⟩

/-- Where an attribute has a truth value, it is equal to one if it is not to the other. -/
theorem other_truth (decided : m.holds (.comparison token .equal "True") ∨
    m.holds (.comparison token .equal "False"))
    (different : ¬ m.Says token .equal (Literal.bool b).token?) :
    m.Says token .equal (Literal.bool !b).token? := by
  -- Of the two values the attribute has one, and it is not the excluded one.
  rcases decided with yes | no
  · cases b with
    | false => exact yes
    | true => exact absurd yes different
  · cases b with
    | false => exact absurd no different
    | true => exact no

end Message.Says

/-- A predicate matches a message when all statements of one of its groups hold. -/
def Predicate.Matches (m : Message) (p : Predicate) : Prop :=
  ∃ group ∈ p.groups, ∀ s ∈ group, m.holds s

end Subscription
