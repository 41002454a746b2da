import Subscription.Wire.Reader

/-! Reading the wire form gives back the predicate that was written, whatever its texts hold. -/

namespace Subscription

/-- Each operator has a code of its own. -/
theorem Operator.ofCode?_code (operator : Operator) :
    Operator.ofCode? (toString operator.code) = some operator := by
  -- The codes are told apart one by one.
  cases operator <;> rfl

/-- A statement is what its parts make. -/
theorem Statement.ofParts?_parts (s : Statement) :
    Statement.ofParts? s.token s.operator s.value? = some s := by
  -- A test of presence is known by having no value.
  cases s with
  | comparison token op value => cases op <;> rfl
  | presence token => rfl

namespace Wire

/-- Only the declaration is stripped: the first `?>` of a document closes it, and what follows does
not begin with white space. -/
theorem stripDeclaration_declared (groups : List Group) :
    stripDeclaration (declaration ++ writeGroups groups) = writeGroups groups := by
  have opened : "<?xml".toList.isPrefixOf (declaration ++ writeGroups groups) = true := rfl
  -- The declaration is all that stands before the first end of an instruction.
  have behind : behindInstruction? (declaration ++ writeGroups groups) =
      some (writeGroups groups) := rfl
  have kept : (writeGroups groups).dropWhile isSpace = writeGroups groups := rfl
  rw [stripDeclaration, if_pos opened, behind]
  exact kept

/-- No quote occurs in a value that is written. -/
theorem ne_quote_of_mem_escape {s : String} {c : Char} (member : c ∈ escape s) : c ≠ '"' := by
  obtain ⟨original, -, written⟩ := List.mem_flatMap.1 member
  intro same
  subst same
  -- The five entities have none, and any other character is no quote to begin with.
  unfold escapeChar at written
  split at written <;> simp at written
  next unquoted => exact unquoted written.symm

/-- Up to the quote that closes it, a value is what was written for it. -/
theorem takeWhile_escape (s : String) (rest : List Char) :
    (escape s ++ '"' :: rest).takeWhile (· ≠ '"') = escape s := by
  -- A quote within the value was written as an entity.
  have within : ∀ c ∈ escape s, decide (c ≠ '"') = true :=
    fun c member => decide_eq_true (ne_quote_of_mem_escape member)
  rw [List.takeWhile_append_of_pos within]
  simp

/-- Behind what was written for a value stands the quote that closes it. -/
theorem dropWhile_escape (s : String) (rest : List Char) :
    (escape s ++ '"' :: rest).dropWhile (· ≠ '"') = '"' :: rest := by
  -- The same entities are passed over, up to the quote.
  have within : ∀ c ∈ escape s, decide (c ≠ '"') = true :=
    fun c member => decide_eq_true (ne_quote_of_mem_escape member)
  rw [List.dropWhile_append_of_pos within]
  simp

namespace Reader

/-- What follows a mark is what the text has behind it. -/
theorem after?_eq_some_iff {mark text rest : List Char} :
    after? mark text = some rest ↔ text = mark ++ rest := by
  -- Mark and text are compared character by character, until the mark ends.
  induction mark generalizing text with
  | nil => simp [after?]
  | cons m mark ih =>
    cases text with
    | nil => exact ⟨nofun, nofun⟩
    | cons c text =>
      rw [after?]
      by_cases same : m = c
      · rw [if_pos same, ih, same, List.cons_append, List.cons_inj_right]
      · rw [if_neg same, List.cons_append]
        exact ⟨nofun, fun whole => absurd (List.cons.inj whole).1.symm same⟩

/-- A mark that was written is found. -/
theorem after?_append (mark rest : List Char) : after? mark (mark ++ rest) = some rest :=
  -- The mark is taken off what it was put in front of.
  after?_eq_some_iff.2 rfl

/-- Where another mark was written, with a difference inside both, nothing is found. -/
theorem after?_other {mark other : List Char} (unlike : ¬ mark <+: other ∧ ¬ other <+: mark)
    (rest : List Char) : after? mark (other ++ rest) = none := by
  cases found : after? mark (other ++ rest) with
  | none => rfl
  | some behind =>
    -- Both would open the same text, so one of them would open the other.
    have opens : mark <+: other ++ rest := ⟨behind, (after?_eq_some_iff.1 found).symm⟩
    rcases List.prefix_or_prefix_of_prefix opens (List.prefix_append other rest) with first | second
    · exact absurd first unlike.1
    · exact absurd second unlike.2

/-- A character that was written is read, in front of anything that can be read. -/
theorem decode?_escapeChar (c : Char) {rest text : List Char} (read : decode? rest = some text) :
    decode? (escapeChar c ++ rest) = some (c :: text) := by
  -- Five characters are written as their entities, and the cases come in that order.
  unfold escapeChar
  split
  · simp [decode?, read]
  · simp [decode?, read]
  · simp [decode?, read]
  · simp [decode?, read]
  · simp [decode?, read]
  · next noLess _ noAnd _ _ =>
    -- Any other character stands for itself, since it opens no entity.
    have literal : ¬ (c = '&' ∨ c = '<') := not_or.2 ⟨noAnd, noLess⟩
    rw [List.singleton_append, decode?, if_neg literal, read, Option.map_some]
    all_goals
      intro _ same
      exact absurd same noAnd

/-- A value that was written is read back. -/
theorem decode?_escape (s : String) : decode? (escape s) = some s.toList := by
  -- The induction is on the value, of which one character is written after the other.
  unfold escape
  induction s.toList with
  | nil => rfl
  | cons c rest ih => exact decode?_escapeChar c ih

/-- An attribute that was written is read back, up to its closing quote. -/
theorem attribute?_writeAttribute (name value : String) (rest : List Char) :
    attribute? name (writeAttribute name value ++ rest) = some (value, rest) := by
  have closed : after? ['"'] ('"' :: rest) = some rest := after?_append ['"'] rest
  have split : writeAttribute name value ++ rest =
      (' ' :: name.toList ++ "=\"".toList) ++ (escape value ++ '"' :: rest) := by
    simp [writeAttribute]
  rw [split, attribute?, after?_append]
  -- The value ends at the first quote, because none was written inside.
  simp only [Option.bind_eq_bind, Option.bind_some, takeWhile_escape, dropWhile_escape,
    decode?_escape, closed, Option.pure_def, String.ofList_toList]

/-- An attribute that may be left out is read back, or found missing where something else stands. -/
theorem optional_writeAttribute {name : String} {rest : List Char}
    (stops : attribute? name rest = none) (value : Option String) :
    optional name (value.elim [] (writeAttribute name) ++ rest) = (value, rest) := by
  -- Nothing is written for a value that is left out, so what follows is tried in its place.
  cases value with
  | none => rw [Option.elim_none, List.nil_append, optional, stops]
  | some text => rw [Option.elim_some, optional, attribute?_writeAttribute]

/-- A statement that was written is read back, up to the end of its tag. -/
theorem statement?_writeStatement (s : Statement) (rest : List Char) :
    statement? (writeStatement s ++ rest) = some (s, rest) := by
  have split : writeStatement s ++ rest = "<Statement".toList ++
      (writeAttribute "Property" s.token ++ (writeAttribute "Operator" (toString s.operator.code) ++
        (s.value?.elim [] (writeAttribute "Value") ++ ("/>".toList ++ rest)))) := by
    unfold writeStatement
    simp only [List.append_assoc]
  -- Where there is no value, the end of the tag follows and no attribute.
  have noValue : attribute? "Value" ("/>".toList ++ rest) = none := by
    rw [attribute?, after?_other (by decide) rest, Option.bind_eq_bind, Option.bind_none]
  rw [split, statement?, after?_append]
  simp only [Option.bind_eq_bind, Option.bind_some, attribute?_writeAttribute,
    optional_writeAttribute noValue, after?_append, Operator.ofCode?_code,
    Statement.ofParts?_parts, Option.pure_def]

/-- Where every item that is written is read as something, a list of them is read as the list of
that, up to what is no item. -/
theorem many_flatMap_map {α β : Type} {item : List Char → Option (β × List Char)}
    {write : α → List Char} {received : α → β} {xs : List α}
    (reads : ∀ x ∈ xs, ∀ rest, item (write x ++ rest) = some (received x, rest))
    (visible : ∀ x ∈ xs, write x ≠ []) {rest : List Char} (stops : item rest = none) :
    many item (xs.flatMap write ++ rest) = (xs.map received, rest) := by
  -- The induction is on the items: one is read, and the others stand behind it.
  induction xs with
  | nil => rw [List.flatMap_nil, List.nil_append, many, stops, List.map_nil]
  | cons x xs ih =>
    obtain ⟨readsFirst, readsOthers⟩ := List.forall_mem_cons.1 reads
    obtain ⟨visibleFirst, visibleOthers⟩ := List.forall_mem_cons.1 visible
    -- The first item takes something, so reading goes on behind it.
    have shorter : (xs.flatMap write ++ rest).length <
        (write x ++ (xs.flatMap write ++ rest)).length := by
      have positive := List.length_pos_iff.2 visibleFirst
      simp only [List.length_append]
      omega
    rw [List.flatMap_cons, List.append_assoc, many, readsFirst]
    simp only [if_pos shorter, ih readsOthers visibleOthers, List.map_cons]

/-- Where every item that is written is read back, a list of them is read up to what is no item. -/
theorem many_flatMap {α : Type} {item : List Char → Option (α × List Char)} {write : α → List Char}
    (reads : ∀ x rest, item (write x ++ rest) = some (x, rest)) (visible : ∀ x, write x ≠ [])
    {rest : List Char} (stops : item rest = none) (xs : List α) :
    many item (xs.flatMap write ++ rest) = (xs, rest) := by
  -- This is the case of the law before it in which an item stays as it was read.
  have all : ∀ x ∈ xs, ∀ rest, item (write x ++ rest) = some (id x, rest) :=
    fun x _ rest => reads x rest
  rw [many_flatMap_map all (fun x _ => visible x) stops, List.map_id]

/-- A group that was written is read back, up to the end of its element. -/
theorem group?_writeGroup (group : Group) (rest : List Char) :
    group? (writeGroup group ++ rest) = some (group, rest) := by
  cases group with
  | nil =>
    unfold writeGroup
    rw [group?, after?_append]
  | cons first others =>
    have split : writeGroup (first :: others) ++ rest = "<Group>".toList ++
        ((first :: others).flatMap writeStatement ++ ("</Group>".toList ++ rest)) := by
      unfold writeGroup
      simp only [List.append_assoc]
    have visible : ∀ s, writeStatement s ≠ [] := by
      intro s
      unfold writeStatement
      simp
    -- The closing tag opens no statement, so the statements end before it.
    have closing : statement? ("</Group>".toList ++ rest) = none := by
      rw [statement?, after?_other (by decide) rest, Option.bind_eq_bind, Option.bind_none]
    rw [split, group?, after?_other (by decide)]
    simp only [Option.bind_eq_bind, Option.bind_some, after?_append, Option.pure_def,
      many_flatMap statement?_writeStatement visible closing]

/-- The groups of a document are read back up to its end. -/
theorem many_group? (groups : List Group) :
    many group? (groups.flatMap writeGroup ++ "</Filter>".toList) =
      (groups, "</Filter>".toList) := by
  have visible : ∀ group, writeGroup group ≠ [] := by
    intro group
    cases group with
    | nil => exact List.cons_ne_nil _ _
    | cons first others =>
      unfold writeGroup
      simp
  -- The closing tag opens no group, neither one with statements nor one without.
  have closing : group? "</Filter>".toList = none := by
    rw [← List.append_nil "</Filter>".toList, group?, after?_other (by decide),
      after?_other (by decide), Option.bind_eq_bind, Option.bind_none]
  exact many_flatMap group?_writeGroup visible closing groups

/-- A document is read back, with its declaration or without it. -/
theorem document?_writeGroups (groups : List Group) :
    document? (declaration ++ writeGroups groups) = some groups ∧
      document? (writeGroups groups) = some groups := by
  have split : writeGroups groups =
      "<Filter>".toList ++ (groups.flatMap writeGroup ++ "</Filter>".toList) := by
    unfold writeGroups
    simp only [List.append_assoc]
  have undeclared : after? declaration (writeGroups groups) = none := by
    rw [split]
    exact after?_other (by decide) _
  -- Both documents are read from the same place on.
  constructor
  · rw [document?, after?_append, Option.getD_some, split, after?_append, Option.bind_eq_bind,
      Option.bind_some, many_group?]
    rfl
  · rw [document?, undeclared, Option.getD_none, split, after?_append, Option.bind_eq_bind,
      Option.bind_some, many_group?]
    rfl

end Reader

end Wire

namespace Predicate

/-- The wire form of a predicate that has groups is its document, behind a declaration or
without. -/
theorem toXml?_eq_ite (declared : Bool) (p : Predicate) :
    p.toXml? declared = if p.isEmpty then none
      else some (String.ofList ((if declared then Wire.declaration else []) ++
        Wire.writeGroups p.groups)) := by
  -- Without a declaration, the document is written with one that is stripped again.
  unfold toXml?
  cases declared with
  | true => rfl
  | false =>
    simp only [Bool.false_eq_true, if_false, Wire.stripDeclaration_declared, List.nil_append]

/--
The wire form determines the predicate.

Whether it is declared or not, reading the wire form of a predicate that has groups gives back the
same groups of the same statements, with the texts they were written with.

The declared form is the declaration in front of the other one, whatever the texts hold.
-/
theorem ofXml?_toXml? (p : Predicate) (nonEmpty : p.isEmpty = false) :
    (∀ declared, ∃ text, p.toXml? declared = some text ∧ ofXml? text = some p) ∧
    ∃ plain, p.toXml? false = some plain ∧
      p.toXml? true = some ("<?xml version=\"1.0\"?>" ++ plain) := by
  obtain ⟨declaredRead, plainRead⟩ := Wire.Reader.document?_writeGroups p.groups
  have withDeclaration : p.toXml? true =
      some (String.ofList (Wire.declaration ++ Wire.writeGroups p.groups)) := by
    simp only [toXml?, nonEmpty, if_true, Bool.false_eq_true, if_false]
  have without : p.toXml? false = some (String.ofList (Wire.writeGroups p.groups)) := by
    simp only [toXml?, nonEmpty, Bool.false_eq_true, if_false, Wire.stripDeclaration_declared]
  refine ⟨fun declared => ?_, _, without, ?_⟩
  · -- Either text is read as the groups that were written.
    cases declared with
    | true =>
      refine ⟨_, withDeclaration, ?_⟩
      rw [ofXml?, String.toList_ofList, declaredRead, Option.map_some]
    | false =>
      refine ⟨_, without, ?_⟩
      rw [ofXml?, String.toList_ofList, plainRead, Option.map_some]
  · have opening : String.ofList Wire.declaration = "<?xml version=\"1.0\"?>" :=
      String.ofList_toList
    rw [withDeclaration, String.ofList_append, opening]

/-- A group without statements and texts full of markup are read back as they were. -/
theorem ofXml?_toXml?_markup :
    ∃ text, toXml? false ⟨[[], [.comparison "\"/><Group/>" .notEqual " ?><?xml &lt;",
        .presence "'>"]]⟩ = some text ∧
      ofXml? text = some ⟨[[], [.comparison "\"/><Group/>" .notEqual " ?><?xml &lt;",
        .presence "'>"]]⟩ :=
  -- The predicate has two groups, so it has a wire form.
  (ofXml?_toXml? ⟨[[], [.comparison "\"/><Group/>" .notEqual " ?><?xml &lt;",
    .presence "'>"]]⟩ rfl).1 false

end Predicate

end Subscription
