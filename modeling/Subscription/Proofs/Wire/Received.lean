import Subscription.Proofs.Compile.Limits
import Subscription.Proofs.Filter.Output
import Subscription.Proofs.Xml

/-! The wire form as a receiver reads it by the rules of XML 1.0: which texts make it well-formed,
and which of them arrive as they were compiled. -/

namespace Subscription

namespace Wire

open Xml (Piece isChar)

/-! The wire form in pieces -/

/-- The tag of a statement. -/
def statementPiece (s : Statement) : Piece :=
  .single "Statement" (("Property", s.token) :: ("Operator", toString s.operator.code) ::
    s.value?.toList.map ("Value", ·))

/-- The tags of a group. -/
def groupPieces : Group → List Piece
  | [] => [.single "Group" []]
  | statements => .opening "Group" [] :: (statements.map statementPiece ++ [.closing "Group"])

/-- The tags of a document. -/
def pieces (groups : List Group) : List Piece :=
  .opening "Filter" [] :: (groups.flatMap groupPieces ++ [.closing "Filter"])

theorem write_statementPiece (s : Statement) : (statementPiece s).write = writeStatement s := by
  have opens : "<Statement".toList = '<' :: "Statement".toList := rfl
  have closes : "/>".toList = ['/', '>'] := rfl
  unfold writeStatement statementPiece
  rw [Piece.write, opens, closes]
  -- The third attribute is there exactly where the statement has a value.
  cases s.value? with
  | none => simp only [Xml.writeAttributes, Option.toList_none, List.map_nil, List.flatMap_cons,
      List.flatMap_nil, Option.elim_none, List.append_nil, List.append_assoc]
  | some value => simp only [Xml.writeAttributes, Option.toList_some, List.map_cons, List.map_nil,
      List.flatMap_cons, List.flatMap_nil, Option.elim_some, List.append_nil, List.append_assoc]

theorem flatMap_groupPieces (group : Group) :
    (groupPieces group).flatMap Piece.write = writeGroup group := by
  -- A group of no statements is one tag, closed at once.
  cases group with
  | nil => rfl
  | cons first others =>
    have opens : (Piece.opening "Group" []).write = "<Group>".toList := rfl
    have closes : (Piece.closing "Group").write = "</Group>".toList := rfl
    unfold writeGroup groupPieces
    simp only [List.flatMap_cons, List.flatMap_append, List.flatMap_map, write_statementPiece,
      List.flatMap_nil, List.append_nil, List.append_assoc, opens, closes]

/-- The wire form is nothing but its tags. -/
theorem flatMap_pieces (groups : List Group) :
    (pieces groups).flatMap Piece.write = writeGroups groups := by
  -- The tags of all groups stand between those of the filter.
  have opens : (Piece.opening "Filter" []).write = "<Filter>".toList := rfl
  have closes : (Piece.closing "Filter").write = "</Filter>".toList := rfl
  unfold writeGroups pieces
  simp only [List.flatMap_cons, List.flatMap_append, List.flatMap_assoc, flatMap_groupPieces,
    List.flatMap_nil, List.append_nil, List.append_assoc, opens, closes]

theorem isTag_statementPiece (s : Statement) : (statementPiece s).isTag = true := by
  -- There are two forms of statements, with names of their own.
  have compared : Xml.areNames "Statement" ["Property", "Operator", "Value"] = true := by decide
  have present : Xml.areNames "Statement" ["Property", "Operator"] = true := by decide
  cases s with
  | comparison token op value => exact compared
  | presence token => exact present

/-- Every piece of the wire form is a tag. -/
theorem isTag_of_mem_pieces {groups : List Group} :
    ∀ piece ∈ pieces groups, piece.isTag = true := by
  -- Tags of groups are checked one kind after the other; those of a document are around them.
  have inGroup : ∀ group : Group, ∀ piece ∈ groupPieces group, piece.isTag = true := by
    intro group
    cases group with
    | nil => exact List.forall_mem_singleton.2 rfl
    | cons first others =>
      refine List.forall_mem_cons.2 ⟨rfl, List.forall_mem_append.2 ⟨?_, ?_⟩⟩
      · exact List.forall_mem_map.2 fun s _ => isTag_statementPiece s
      · exact List.forall_mem_singleton.2 rfl
  refine List.forall_mem_cons.2 ⟨rfl, List.forall_mem_append.2 ⟨?_, ?_⟩⟩
  · intro piece member
    obtain ⟨group, -, inside⟩ := List.mem_flatMap.1 member
    exact inGroup group piece inside
  · exact List.forall_mem_singleton.2 rfl

/-! Their nesting and their statements -/

variable (change : List Char → List Char)

/-- Statements open and close nothing. -/
theorem closes_statements (name : String) (outer : List String) (statements : List Statement)
    (rest : List Piece) :
    Xml.closes (name :: outer)
        ((statements.map statementPiece).map (Piece.mapValues change) ++ rest) =
      Xml.closes (name :: outer) rest := by
  -- Each statement is a tag that closes itself.
  induction statements with
  | nil => rfl
  | cons s statements ih => exact ih

/-- A group closes what it opens. -/
theorem closes_group (name : String) (outer : List String) (group : Group) (rest : List Piece) :
    Xml.closes (name :: outer) ((groupPieces group).map (Piece.mapValues change) ++ rest) =
      Xml.closes (name :: outer) rest := by
  cases group with
  | nil => rfl
  | cons first others =>
    -- The opening tag is behind, the statements change nothing, and the last tag closes the group.
    have split : (groupPieces (first :: others)).map (Piece.mapValues change) ++ rest =
        .opening "Group" [] :: (((first :: others).map statementPiece).map
          (Piece.mapValues change) ++ .closing "Group" :: rest) := by
      simp only [groupPieces, List.map_cons, List.map_append, List.map_nil, List.append_assoc,
        List.cons_append, List.nil_append]
      rfl
    rw [split]
    exact closes_statements change "Group" (name :: outer) (first :: others)
      (.closing "Group" :: rest)

/-- The wire form is one element. -/
theorem isElement_pieces (groups : List Group) :
    Xml.isElement ((pieces groups).map (Piece.mapValues change)) = true := by
  -- Inside the outermost element, one group after the other leaves nothing open.
  have inside : ∀ groups : List Group,
      Xml.closes ["Filter"] ((groups.flatMap groupPieces).map (Piece.mapValues change) ++
        [.closing "Filter"]) = true := by
    intro groups
    induction groups with
    | nil => rfl
    | cons group groups ih =>
      rw [List.flatMap_cons, List.map_append, List.append_assoc, closes_group]
      exact ih
  rw [pieces, List.map_cons, List.map_append]
  exact inside groups

/-- What is read of a statement, with its values changed. -/
def changed (s : Statement) : Option String × Option String :=
  (some (String.ofList (change s.token.toList)),
    s.value?.map fun value => String.ofList (change value.toList))

theorem statement?_statementPiece (s : Statement) :
    ((statementPiece s).mapValues change).statement? = some (changed change s) := by
  -- The attributes are found under their names, whatever their values have become.
  cases s <;> rfl

/-- The statements of a group's tags are those of the group. -/
theorem filterMap_groupPieces (group : Group) :
    ((groupPieces group).map (Piece.mapValues change)).filterMap Piece.statement? =
      group.map (changed change) := by
  -- The tags around the statements are passed over.
  have inside : ∀ statements : List Statement,
      ((statements.map statementPiece).map (Piece.mapValues change)).filterMap Piece.statement? =
        statements.map (changed change) := by
    intro statements
    rw [List.filterMap_map, List.filterMap_map, ← List.filterMap_eq_map]
    exact congrArg (List.filterMap · statements) (funext (statement?_statementPiece change))
  cases group with
  | nil => rfl
  | cons first others =>
    have split : groupPieces (first :: others) =
        .opening "Group" [] :: ((first :: others).map statementPiece ++ [.closing "Group"]) := rfl
    rw [split, List.map_cons, List.map_append, List.filterMap_cons_none rfl, List.filterMap_append,
      inside]
    exact List.append_nil _

/-- The statements of the wire form's tags are those of the groups. -/
theorem filterMap_pieces (groups : List Group) :
    ((pieces groups).map (Piece.mapValues change)).filterMap Piece.statement? =
      groups.flatten.map (changed change) := by
  -- The tags around the groups are passed over.
  have inside : ((groups.flatMap groupPieces).map (Piece.mapValues change)).filterMap
      Piece.statement? = groups.flatten.map (changed change) := by
    induction groups with
    | nil => rfl
    | cons group groups ih =>
      rw [List.flatMap_cons, List.map_append, List.filterMap_append, filterMap_groupPieces, ih,
        List.flatten_cons, List.map_append]
  rw [pieces, List.map_cons, List.map_append, List.filterMap_cons_none rfl, List.filterMap_append,
    inside]
  exact List.append_nil _

/-! Their characters -/

/-- What is written for a character may occur exactly where the character may. -/
theorem all_escapeChar (c : Char) : (escapeChar c).all isChar = isChar c := by
  -- The characters with an entity may all occur, and so may those of their entities.
  unfold escapeChar
  split
  case h_6 => exact Bool.and_true _
  all_goals decide

/-- What is written for a value may occur exactly where the value may. -/
theorem all_escape (value : String) : (escape value).all isChar = value.toList.all isChar := by
  -- The value is written character by character.
  rw [escape, List.all_flatMap]
  exact congrArg (List.all value.toList) (funext all_escapeChar)

theorem all_writeAttribute {name : String} (plain : name.toList.all isChar = true)
    (value : String) : (writeAttribute name value).all isChar = value.toList.all isChar := by
  -- What is set around the value may occur anywhere.
  have set : isChar ' ' = true ∧ isChar '=' = true ∧ isChar '"' = true := by decide
  simp [writeAttribute, all_escape, plain, set]

end Wire

/-- The texts of a statement, which are its token and its value. -/
def Statement.texts (s : Statement) : List String :=
  s.token :: s.value?.toList

/-- The texts of a predicate, group by group and statement by statement. -/
def Predicate.texts (p : Predicate) : List String :=
  p.groups.flatten.flatMap Statement.texts

namespace Wire

open Xml (isChar)

theorem all_writeStatement (s : Statement) :
    (writeStatement s).all isChar = s.texts.all (·.toList.all isChar) := by
  -- What the format adds of its own may occur anywhere, so the texts decide.
  have front : "<Statement".toList.all isChar = true := by decide
  have back : "/>".toList.all isChar = true := by decide
  have code : (toString s.operator.code).toList.all isChar = true := by
    cases s.operator <;> decide
  unfold writeStatement Statement.texts
  rw [List.all_append, List.all_append, List.all_append, List.all_append, front, back,
    all_writeAttribute (by decide), all_writeAttribute (by decide), code, List.all_cons,
    Bool.true_and, Bool.and_true, Bool.and_true]
  cases s.value? with
  | none => rfl
  | some value =>
    rw [Option.elim_some, all_writeAttribute (by decide), Option.toList_some, List.all_cons,
      List.all_nil, Bool.and_true]

theorem all_writeGroup (group : Group) :
    (writeGroup group).all isChar = group.all fun s => s.texts.all (·.toList.all isChar) := by
  -- The tags of a group may occur, which leaves its statements.
  cases group with
  | nil => decide
  | cons first others =>
    have front : "<Group>".toList.all isChar = true := by decide
    have back : "</Group>".toList.all isChar = true := by decide
    unfold writeGroup
    rw [List.all_append, List.all_append, front, back, List.all_flatMap, Bool.true_and,
      Bool.and_true]
    exact congrArg (List.all (first :: others)) (funext all_writeStatement)

/-- A document may occur exactly where its texts may. -/
theorem all_writeGroups (p : Predicate) :
    (writeGroups p.groups).all isChar = p.texts.all (·.toList.all isChar) := by
  -- The tags of the filter may occur, which leaves its groups.
  have front : "<Filter>".toList.all isChar = true := by decide
  have back : "</Filter>".toList.all isChar = true := by decide
  unfold writeGroups
  rw [List.all_append, List.all_append, front, back, List.all_flatMap, Bool.true_and,
    Bool.and_true, Predicate.texts, List.all_flatMap, List.all_flatten]
  exact congrArg (List.all p.groups) (funext all_writeGroup)

end Wire

/-! What arrives -/

/-- A statement is read as itself exactly where its texts are. -/
theorem Wire.changed_eq_iff {s : Statement} :
    changed Xml.received s = (some s.token, s.value?) ↔
      ∀ text ∈ s.texts, Xml.normalize text = text := by
  -- Without a value the token alone decides.
  cases s with
  | comparison token op value =>
    have texts : (Statement.comparison token op value).texts = [token, value] := rfl
    rw [texts, List.forall_mem_cons, List.forall_mem_singleton, Prod.mk.injEq]
    exact and_congr (Option.some_inj) Option.some_inj
  | presence token =>
    have texts : (Statement.presence token).texts = [token] := rfl
    rw [texts, List.forall_mem_singleton, Prod.mk.injEq]
    exact (and_iff_left rfl).trans Option.some_inj

/-- Statements are read as themselves exactly where the texts of their predicate are. -/
theorem Wire.map_changed_eq_iff {p : Predicate} :
    p.groups.flatten.map (changed Xml.received) =
        p.groups.flatten.map (fun s => (some s.token, s.value?)) ↔
      ∀ text ∈ p.texts, Xml.normalize text = text := by
  -- The texts are those of the statements, one statement after the other.
  rw [List.map_inj_left, Predicate.texts, List.forall_mem_flatMap]
  exact forall₂_congr fun _ _ => changed_eq_iff

/-- A document is read where its texts may occur, behind a declaration or without one. -/
theorem Wire.read?_writeGroups (p : Predicate) (declared : Bool) :
    Xml.read? (String.ofList ((if declared then declaration else []) ++ writeGroups p.groups)) =
      if p.texts.all (·.toList.all Xml.isChar) then
        some ((pieces p.groups).map (Xml.Piece.mapValues Xml.received))
      else none := by
  -- The declaration itself is made of characters that may occur.
  have plain : (if declared then declaration else []).all Xml.isChar = true := by
    cases declared <;> decide
  have either : (if declared then declaration else []) = declaration ∨
      (if declared then declaration else []) = [] := by
    cases declared
    · exact .inr rfl
    · exact .inl rfl
  have read := Xml.read?_flatMap isTag_of_mem_pieces (isElement_pieces Xml.received p.groups) either
  rwa [flatMap_pieces, List.all_append, plain, Bool.true_and, all_writeGroups] at read

namespace Filter

variable {f : Filter} {resolver : Resolver} {settings : Settings} {xml : String} {p : Predicate}

/-- The output of a filter is well-formed where the texts of its predicate may occur. -/
theorem read?_of_toXml (written : f.toXml resolver settings = .ok (some xml))
    (compiled : f.compile resolver settings = .ok p) :
    Xml.read? xml = if p.texts.all (·.toList.all Xml.isChar) then
        some ((Wire.pieces p.groups).map (Xml.Piece.mapValues Xml.received))
      else none := by
  -- The output is the document of the predicate, behind a declaration or without one.
  have output : p.toXml? settings.declaration = some xml := by
    rw [toXml, compiled] at written
    exact Except.ok.inj written
  rw [p.toXml?_eq_ite, Option.ite_none_left_eq_some, Option.some.injEq] at output
  obtain ⟨-, rfl⟩ := output
  exact Wire.read?_writeGroups p settings.declaration

/-- The statements of a well-formed output are those of the predicate, with their texts as they are
read. -/
theorem statements?_of_toXml (written : f.toXml resolver settings = .ok (some xml))
    (compiled : f.compile resolver settings = .ok p) :
    Xml.statements? xml = if p.texts.all (·.toList.all Xml.isChar) then
        some (p.groups.flatten.map (Wire.changed Xml.received))
      else none := by
  -- A document with a character that may not occur is refused as a whole.
  rw [Xml.statements?, read?_of_toXml written compiled]
  split
  · exact congrArg some (Wire.filterMap_pieces Xml.received p.groups)
  · rfl

/--
What arrives of a predicate that is sent.

The wire form of a filter is a well-formed document exactly where every character of every token and
every value may occur in one.

What is read of a well-formed one are the tokens and values of the predicate's statements in their
order, with every line end and every tab turned into a space.

The tokens and values arrive as they were compiled exactly where there is none of these in them.
-/
theorem output_received {f : Filter} {resolver : Resolver} {settings : Settings} {xml : String}
    {p : Predicate} (written : f.toXml resolver settings = .ok (some xml))
    (compiled : f.compile resolver settings = .ok p) :
    ((Xml.read? xml).isSome = true ↔
      ∀ text ∈ p.texts, ∀ c ∈ text.toList, Xml.isChar c = true) ∧
    ((∀ text ∈ p.texts, ∀ c ∈ text.toList, Xml.isChar c = true) →
      Xml.statements? xml = some (p.groups.flatten.map fun s =>
        (some (Xml.normalize s.token), s.value?.map Xml.normalize))) ∧
    (Xml.statements? xml = some (p.groups.flatten.map fun s => (some s.token, s.value?)) ↔
      ∀ text ∈ p.texts, ∀ c ∈ text.toList,
        Xml.isChar c = true ∧ c ∉ ['\t', '\n', '\r']) := by
  -- All three parts come from what is read of the document where its texts may occur.
  have allowed : p.texts.all (·.toList.all Xml.isChar) = true ↔
      ∀ text ∈ p.texts, ∀ c ∈ text.toList, Xml.isChar c = true := by
    simp only [List.all_eq_true]
  rw [read?_of_toXml written compiled, statements?_of_toXml written compiled]
  refine ⟨?_, fun holds => if_pos (allowed.2 holds), ?_⟩
  · rw [← allowed]
    split
    · next holds => exact ⟨fun _ => holds, fun _ => rfl⟩
    · next fails => exact ⟨nofun, fun holds => absurd holds fails⟩
  · rw [Option.ite_none_right_eq_some, Option.some.injEq, Wire.map_changed_eq_iff, allowed]
    simp only [Xml.normalize_eq_self_iff, ← forall_and]

/-- A comparison with a text compiles to one statement of the text as it is. -/
theorem compile_text (text : String) :
    (compare .equal ⟨"a"⟩ (.literal (.text text))).compile .ofNames {} =
      .ok ⟨[[.comparison "a" .equal text]]⟩ := by
  -- A comparison is two levels deep and makes one group.
  have shallow : 2 ≤ Settings.maxDepth {} := by decide
  have narrow : 1 ≤ Settings.maxGroups {} := by decide
  refine Expr.compile_eq_ok_iff.2 ⟨?_, narrow, rfl⟩
  rw [Expr.depth_eq_height]
  exact shallow

/-- A text full of markup arrives as it was compiled. -/
theorem output_received_markup :
    ∃ xml, (compare .equal ⟨"a"⟩ (.literal (.text "A & <B>"))).toXml .ofNames {} = .ok (some xml) ∧
      Xml.statements? xml = some [(some "a", some "A & <B>")] := by
  -- No character of the texts is changed by reading, and all of them may occur.
  have compiled := compile_text "A & <B>"
  have plain : ["a", "A & <B>"].all (fun text => text.toList.all fun c =>
      Xml.isChar c && !List.contains ['\t', '\n', '\r'] c) = true := by decide +kernel
  refine ⟨_, by rw [toXml, compiled]; rfl, ?_⟩
  have arrives := (output_received (by rw [toXml, compiled]; rfl) compiled).2.2
  refine arrives.2 fun text member c inside => ?_
  have kept := List.all_eq_true.1 (List.all_eq_true.1 plain text member) c inside
  simpa using kept

/-- A tab in a text does not arrive: what is read is a space. -/
theorem output_altered :
    ∃ xml, (compare .equal ⟨"a"⟩ (.literal (.text "a\tb"))).toXml .ofNames {} = .ok (some xml) ∧
      (compare .equal ⟨"a"⟩ (.literal (.text "a\tb"))).compile .ofNames {} =
        .ok ⟨[[.comparison "a" .equal "a\tb"]]⟩ ∧
      Xml.statements? xml = some [(some "a", some "a b")] := by
  have compiled := compile_text "a\tb"
  -- A tab may occur, so the document is well-formed; its value is another one.
  have plain : ["a", "a\tb"].all (·.toList.all Xml.isChar) = true := by decide
  refine ⟨_, by rw [toXml, compiled]; rfl, compiled, ?_⟩
  rw [statements?_of_toXml (by rw [toXml, compiled]; rfl) compiled]
  exact if_pos plain

end Filter

end Subscription
