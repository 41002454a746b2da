import Subscription.Load
import Subscription.Proofs.Expr
import Subscription.Proofs.Json.Reading

/-! Expressions that were saved as JSON load as what they were, up to the containers that a reader
keeps open at once. -/

namespace Subscription

/-! Constants -/

/-- A signed integer is found again by its value. -/
theorem Literal.ofInt?_toInt (n : Int64) : Literal.ofInt? n.toInt = some (.int n) := by
  -- The value is within the bounds that the reader asks for.
  have low := n.le_toInt
  have high := n.toInt_lt
  rw [ofInt?, if_pos (by omega), Int64.ofInt_toInt]

/-- An unsigned integer is found again by its value. -/
theorem Literal.ofNat?_toNat (n : UInt64) : Literal.ofNat? n.toNat = some (.uint n) := by
  -- It is not negative, and within the bound that the reader asks for.
  have high := n.toNat_lt
  rw [ofNat?, if_pos (by omega), Int.toNat_natCast, UInt64.ofNat_toNat]

/-- A finite float is found again by its sign and rank. -/
theorem Binary64.toBinary64?_float (negative : Bool) (rank : Fin Binary64.magnitudes) :
    (Json.Number.float negative rank).toBinary64? = some (.finite negative rank) := by
  -- The rank is below that of infinity.
  simp only [Json.Number.toBinary64?, ofRank?, rank.isLt, dif_pos]

/-! Leaves -/

namespace Value

/-- Whether a leaf is anything but a float without a magnitude. -/
def isFinite : Value → Bool
  | .literal (.float x) => x.isFinite
  | _ => true

/-- The containers open at once in the form of a leaf, of which its node is the first. -/
def nesting : Value → Nat
  | .literal .null => 2
  | .literal (.enum _ _) => 4
  | .literal _ => 3
  | .attributeRef _ | .schemaType _ | .endpointName _ => 2

end Value

namespace Expr

/-- The form of a leaf is read exactly where its containers may be open and it is finite. -/
theorem ofJsonWithin?_value (leaf : Value) (spare : Nat) :
    ofJsonWithin? spare (toJson (.value leaf)) =
      if leaf.nesting ≤ spare ∧ leaf.isFinite = true then some (.value leaf) else none := by
  -- One container after the other is opened, as far as the form of the leaf goes.
  cases leaf with
  | attributeRef _ | schemaType _ | endpointName _ => rcases spare with _ | _ | spare <;> rfl
  | literal constant =>
    cases constant with
    | null => rcases spare with _ | _ | spare <;> rfl
    | bool _ | text _ => rcases spare with _ | _ | _ | spare <;> rfl
    | enum _ _ => rcases spare with _ | _ | _ | _ | spare <;> rfl
    | int n =>
      rcases spare with _ | _ | _ | spare
      · rfl
      · rfl
      · rfl
      · have read : ofJsonWithin? (spare + 3) (toJson (.value (.literal (.int n)))) =
            ((Literal.ofInt? n.toInt).map Value.literal).map Expr.value := rfl
        rw [read, Literal.ofInt?_toInt]
        rfl
    | uint n =>
      rcases spare with _ | _ | _ | spare
      · rfl
      · rfl
      · rfl
      · have read : ofJsonWithin? (spare + 3) (toJson (.value (.literal (.uint n)))) =
            ((Literal.ofNat? n.toNat).map Value.literal).map Expr.value := rfl
        rw [read, Literal.ofNat?_toNat]
        rfl
    | float x =>
      cases x with
      | nan | infinite _ => rcases spare with _ | _ | _ | spare <;> rfl
      | finite negative rank =>
        rcases spare with _ | _ | _ | spare
        · rfl
        · rfl
        · rfl
        · have read : ofJsonWithin? (spare + 3)
              (toJson (.value (.literal (.float (.finite negative rank))))) =
              ((((Json.Number.float negative rank).toBinary64?).map Literal.float).map
                Value.literal).map Expr.value := rfl
          rw [read, Binary64.toBinary64?_float]
          rfl

/-! Trees -/

/-- Whether all floats of an expression have a magnitude. -/
def Finite (e : Expr) : Prop :=
  ∀ leaf ∈ e.values, leaf.isFinite = true

/-- Whether the floats of an expression are carried by their texts in a spelling. -/
def FloatsCarried (e : Expr) (spelling : Json.Spelling) : Prop :=
  ∀ negative rank, .literal (.float (.finite negative rank)) ∈ e.values →
    (Json.Number.float negative rank.val).Carried spelling

/-- The containers open at once in the form of an expression: an object for each node, and one more
container for the operands of a node that has two. -/
def nesting : Expr → Nat
  | .and left right | .or left right | .compare _ left right =>
    2 + max left.nesting right.nesting
  | .not inner => 1 + inner.nesting
  | .value leaf => leaf.nesting

/-- The containers of an expression's form are those that its nodes account for. -/
theorem toJson_nesting (e : Expr) : e.toJson.nesting = e.nesting := by
  -- The two operands of a node are open one after the other, so the deeper one counts.
  induction e with
  | and left right ihl ihr | or left right ihl ihr =>
    simp only [toJson, Json.tagged, Json.record, List.map_cons, List.map_nil, Json.nesting,
      Json.nestingFields, Json.nestingItems, ihl, ihr, nesting]
    omega
  | not inner ih =>
    simp only [toJson, Json.tagged, Json.record, List.map_cons, List.map_nil, Json.nesting,
      Json.nestingFields, ih, nesting]
    omega
  | compare op left right ihl ihr =>
    simp only [toJson, CompareOp.toJson, Json.text, Json.tagged, Json.record, List.map_cons,
      List.map_nil, Json.nesting, Json.nestingFields, ihl, ihr, nesting]
    omega
  | value leaf =>
    cases leaf with
    | literal constant =>
      cases constant with
      | float x => cases x <;> rfl
      | null | bool _ | int _ | uint _ | text _ | enum _ _ => rfl
    | attributeRef _ | schemaType _ | endpointName _ => rfl

/-- What is read of the forms of two operands, where each is read as itself or not at all. -/
theorem operands_eq_some_iff {connective : Expr → Expr → Expr} {left right x : Expr} {spare : Nat}
    (first : ∀ y, ofJsonWithin? spare left.toJson = some y ↔
      y = left ∧ left.nesting ≤ spare ∧ left.Finite)
    (second : ∀ y, ofJsonWithin? spare right.toJson = some y ↔
      y = right ∧ right.nesting ≤ spare ∧ right.Finite) :
    ((ofJsonWithin? spare left.toJson).bind fun l =>
        (ofJsonWithin? spare right.toJson).bind fun r => some (connective l r)) = some x ↔
      x = connective left right ∧ 2 + max left.nesting right.nesting ≤ spare + 2 ∧
        ∀ leaf ∈ left.values ++ right.values, leaf.isFinite = true := by
  -- Both operands get the containers that are left behind those of their node.
  rw [List.forall_mem_append]
  simp only [Option.bind_eq_some_iff, first, second]
  constructor
  · intro read
    obtain ⟨_, ⟨rfl, roomLeft, finiteLeft⟩, _, ⟨rfl, roomRight, finiteRight⟩, built⟩ := read
    exact ⟨(Option.some.inj built).symm, by omega, finiteLeft, finiteRight⟩
  · intro read
    obtain ⟨rfl, room, finiteLeft, finiteRight⟩ := read
    exact ⟨left, ⟨rfl, by omega, finiteLeft⟩, right, ⟨rfl, by omega, finiteRight⟩, rfl⟩

/-- The form of an expression is read as the expression or not at all, and it is read exactly where
its containers may be open and its floats are finite. -/
theorem ofJsonWithin?_toJson_eq_some_iff {e : Expr} {spare : Nat} {x : Expr} :
    ofJsonWithin? spare e.toJson = some x ↔ x = e ∧ e.nesting ≤ spare ∧ e.Finite := by
  -- A node takes its containers from those to spare and leaves the others to its operands.
  induction e generalizing spare x with
  | and left right ihl ihr | or left right ihl ihr =>
    rcases spare with _ | _ | spare
    · exact iff_of_false nofun fun read => absurd read.2.1 (by rw [nesting]; omega)
    · exact iff_of_false nofun fun read => absurd read.2.1 (by rw [nesting]; omega)
    · exact operands_eq_some_iff (fun _ => ihl) fun _ => ihr
  | compare op left right ihl ihr =>
    rcases spare with _ | _ | spare
    · exact iff_of_false nofun fun read => absurd read.2.1 (by rw [nesting]; omega)
    · exact iff_of_false nofun fun read => absurd read.2.1 (by rw [nesting]; omega)
    · have read : ofJsonWithin? (spare + 2) (toJson (.compare op left right)) =
          (ofJsonWithin? spare left.toJson).bind fun l =>
            (ofJsonWithin? spare right.toJson).bind fun r => some (.compare op l r) := by
        cases op <;> rfl
      rw [read]
      exact operands_eq_some_iff (fun _ => ihl) fun _ => ihr
  | not inner ih =>
    rcases spare with _ | spare
    · exact iff_of_false nofun fun read => absurd read.2.1 (by rw [nesting]; omega)
    · have read : ofJsonWithin? (spare + 1) (toJson (.not inner)) =
          (ofJsonWithin? spare inner.toJson).map Expr.not := rfl
      rw [read, Option.map_eq_some_iff]
      constructor
      · intro found
        obtain ⟨_, inside, rfl⟩ := found
        obtain ⟨rfl, room, finite⟩ := ih.1 inside
        exact ⟨rfl, by rw [nesting]; omega, finite⟩
      · intro whole
        obtain ⟨rfl, room, finite⟩ := whole
        rw [nesting] at room
        exact ⟨inner, ih.2 ⟨rfl, by omega, finite⟩, rfl⟩
  | value leaf =>
    have alone : (Expr.value leaf).Finite ↔ leaf.isFinite = true := List.forall_mem_singleton
    rw [ofJsonWithin?_value, alone, nesting]
    by_cases read : leaf.nesting ≤ spare ∧ leaf.isFinite = true
    · rw [if_pos read]
      exact ⟨fun same => ⟨(Option.some.inj same).symm, read⟩, fun whole => by rw [whole.1]⟩
    · rw [if_neg read]
      exact ⟨nofun, fun whole => absurd whole.2 read⟩

/-- The numbers in the form of an expression are integers of sixty-four bits and the finite floats
among its leaves. -/
theorem numbers_toJson {e : Expr} {n : Json.Number} (member : n ∈ e.toJson.numbers) :
    (∃ k, n = .integer k ∧ -0x8000000000000000 ≤ k ∧ k ≤ 0xffffffffffffffff) ∨
      ∃ negative rank, n = .float negative rank.val ∧
        .literal (.float (.finite negative rank)) ∈ e.values := by
  induction e with
  | and left right ihl ihr | or left right ihl ihr | compare _ left right ihl ihr =>
    -- The form of a node has no numbers but those of its operands.
    simp only [toJson, CompareOp.toJson, Json.text, Json.tagged, Json.record, List.map_cons,
      List.map_nil, Json.numbers, Json.numbersOfFields, Json.numbersOfItems, List.append_nil,
      List.nil_append, List.mem_append] at member
    rcases member with inLeft | inRight
    · refine (ihl inLeft).imp_right fun found => ?_
      obtain ⟨negative, rank, same, leaf⟩ := found
      exact ⟨negative, rank, same, List.mem_append_left _ leaf⟩
    · refine (ihr inRight).imp_right fun found => ?_
      obtain ⟨negative, rank, same, leaf⟩ := found
      exact ⟨negative, rank, same, List.mem_append_right _ leaf⟩
  | not inner ih =>
    simp only [toJson, Json.tagged, Json.record, List.map_cons, List.map_nil, Json.numbers,
      Json.numbersOfFields, List.append_nil] at member
    exact ih member
  | value leaf =>
    cases leaf with
    | attributeRef _ | schemaType _ | endpointName _ => cases member
    | literal constant =>
      cases constant with
      | null | bool _ | text _ | enum _ _ => cases member
      | int k =>
        have low := k.le_toInt
        have high := k.toInt_lt
        exact .inl ⟨k.toInt, List.mem_singleton.1 member, by omega, by omega⟩
      | uint k =>
        have high := k.toNat_lt
        exact .inl ⟨k.toNat, List.mem_singleton.1 member, by omega, by omega⟩
      | float x =>
        cases x with
        | nan | infinite _ => cases member
        | finite negative rank =>
          exact .inr ⟨negative, rank, List.mem_singleton.1 member, List.mem_singleton_self _⟩

/-- The numbers in the form of an expression are carried as long as its floats are, since integers
of sixty-four bits are carried in any case. -/
theorem carried_of_floats {e : Expr} {spelling : Json.Spelling}
    (floats : e.FloatsCarried spelling) : ∀ n ∈ e.toJson.numbers, n.Carried spelling := by
  -- There is no other number than these two kinds.
  intro n member
  rcases numbers_toJson member with ⟨k, rfl, low, high⟩ | ⟨negative, rank, rfl, leaf⟩
  · exact Json.Number.carried_integer low high
  · exact floats negative rank leaf

instance (e : Expr) : Decidable e.Finite :=
  inferInstanceAs (Decidable (∀ leaf ∈ e.values, leaf.isFinite = true))

/-- The text of an expression, on one line or indented, is read as the expression within the limit
and not at all beyond it. -/
theorem ofJsonText?_writeWith {e : Expr} {spelling : Json.Spelling} (finite : e.Finite)
    (floats : e.FloatsCarried spelling) (layout : Json.Layout) :
    ofJsonText? (e.toJson.writeWith spelling layout) =
      if e.nesting ≤ 127 then some (some e) else none := by
  -- The form of an expression is an object, so it is not taken for the empty filter.
  have notNull : ∀ j, e.toJson = j → j ≠ .null := by
    rintro _ rfl
    cases e <;> exact nofun
  have carried := carried_of_floats floats
  rw [ofJsonText?, (Json.read?_writeWith layout carried).1, Option.bind_eq_bind, Option.bind_some]
  split
  · next null => exact absurd rfl (notNull _ null)
  · by_cases room : e.nesting ≤ 127
    · rw [if_pos room, ofJsonWithin?_toJson_eq_some_iff.2 ⟨rfl, room, finite⟩]
      rfl
    · have short : ofJsonWithin? 127 e.toJson = none :=
        Option.eq_none_iff_forall_ne_some.2 fun x read =>
          absurd (ofJsonWithin?_toJson_eq_some_iff.1 read).2.1 room
      rw [if_neg room, short]
      rfl

/--
A saved expression loads as what it was.

The form of an expression whose floats are finite is no null, it is read as the expression, and no
other expression has the same form.

A reader opens as many containers at once as the nodes account for. However floats are spelled, as
long as those of the expression are carried by their texts, the text of the form is read exactly
where these containers are at most 127, and then as the expression.
-/
theorem saved_loads (e : Expr) (finite : e.Finite) :
    e.toJson ≠ .null ∧
    ofJson? e.toJson = some e ∧
    (∀ other : Expr, other.toJson = e.toJson → other = e) ∧
    e.toJson.nesting = e.nesting ∧
    ∀ spelling, e.FloatsCarried spelling → ∀ layout,
      ofJsonText? (e.toJson.writeWith spelling layout) =
        if e.nesting ≤ 127 then some (some e) else none := by
  -- The limit of this reader is what the form needs.
  have read : ofJson? e.toJson = some e :=
    ofJsonWithin?_toJson_eq_some_iff.2 ⟨rfl, Nat.le_of_eq e.toJson_nesting.symm, finite⟩
  refine ⟨?_, read, fun other same => ?_, e.toJson_nesting, fun spelling floats layout => ?_⟩
  · cases e <;> exact nofun
  · -- Whatever is read of the form of the other expression is that expression.
    rw [← same] at read
    exact (ofJsonWithin?_toJson_eq_some_iff.1 read).1.symm
  · exact ofJsonText?_writeWith finite floats layout

/-- A comparison of a float with the lowest integer, beside a negated enumeration constant and null,
is read back from its indented text, in which the float is spelled `-1.5`. -/
theorem saved_loads_constants :
    Json.Writer.shortest true 4609434218613702656 = ['-', '1', '.', '5'] ∧
    ofJsonText? ((Expr.and
      (.compare .lessThan (.literal (.float (.finite true ⟨4609434218613702656, by decide⟩)))
        (.literal (.int (-9223372036854775808))))
      (.or (.not (.literal (.enum "\"" "\n"))) (.literal .null))).toJson.writeWith
        Json.Writer.shortest .indented) =
    some (some (.and
      (.compare .lessThan (.literal (.float (.finite true ⟨4609434218613702656, by decide⟩)))
        (.literal (.int (-9223372036854775808))))
      (.or (.not (.literal (.enum "\"" "\n"))) (.literal .null)))) := by
  refine ⟨by decide +kernel, (saved_loads _ (by decide)).2.2.2.2 _ ?_ .indented⟩
  -- The float is the only one, and its text is read as the float.
  intro negative rank member
  simp [values, Expr.literal] at member
  obtain ⟨rfl, rfl⟩ := member
  decide +kernel

end Expr

end Subscription
