import Subscription.Proofs.Command
import Subscription.Proofs.Saved
import Subscription.Proofs.Yaml.Braced
import Subscription.Proofs.Yaml.Decode

/-! Expressions in files that are read as YAML. None is ever read there: a tag names an expression,
and the leaf that every expression leads to would have to be named by a second tag on one node. -/

namespace Subscription

namespace Expr

open Yaml (Document Decode Node)

/-! Reading by tags -/

variable {d : Document} {operand : Node Nat → Decode Expr} {n : Node Nat}

/-- Two operands are not read where one is not. -/
theorem fails_decodePair (fails : ∀ n, (operand n).Fails) (build : Expr → Expr → Expr)
    (n : Node Nat) : (decodePair d operand build n).Fails := by
  unfold decodePair
  refine Decode.ensures_bind_of_forall fun items => ?_
  -- Of a sequence of two, the first item is read first.
  split
  · exact Decode.fails_bind (fails _)
  · exact Decode.ensures_failure

/-- A comparison is not read where its operands are not. -/
theorem fails_decodeComparison (fails : ∀ n, (operand n).Fails) (n : Node Nat) :
    (decodeComparison d operand n).Fails := by
  unfold decodeComparison
  -- Whatever fields are there, none of them gives a left operand, and it is required.
  refine Decode.ensures_bind (Q := fun fields => fields.2.1 = none)
    (Decode.ensures_record rfl ?_) ?_
  · intro field member x value unset
    simp only [List.mem_cons, List.not_mem_nil, or_false] at member
    rcases member with rfl | rfl | rfl
    · exact Decode.ensures_bind_of_forall fun _ => Decode.ensures_pure unset
    · exact Decode.ensures_bind (fails value) fun _ => False.elim
    · exact Decode.ensures_bind (fails value) fun _ => False.elim
  · rintro ⟨op, left, right⟩ unset
    cases unset
    exact Decode.ensures_bind_of_forall fun _ => Decode.fails_bind Decode.ensures_failure

/-- No alternative of an expression is read where operands are not: the others would have to name a
choice within a choice by a word, and neither expressions nor leaves have a word. -/
theorem fails_decodeNode (fails : ∀ n, (operand n).Fails) (n : Node Nat) :
    (decodeNode d operand n).Fails := by
  refine Decode.ensures_choice nofun fun other member n => ?_
  simp only [List.mem_cons, List.not_mem_nil, or_false] at member
  -- Three alternatives have operands, and two are choices within a choice that no word names.
  rcases member with rfl | rfl | rfl | rfl | rfl
  · exact fails_decodePair fails .and n
  · exact fails_decodePair fails .or n
  · exact Decode.fails_map (Decode.ensures_nestedChoice nofun)
  · exact fails_decodeComparison fails n
  · exact Decode.fails_map (Decode.ensures_nestedChoice nofun)

/-- No node is read as an expression, however many collections may be opened. -/
theorem fails_decodeWithin (d : Document) (depth : Nat) (n : Node Nat) :
    (decodeWithin d depth n).Fails := by
  -- The induction goes from the operands in a collection to the node around it.
  induction depth generalizing n with
  | zero => exact fails_decodeNode (fun _ => Decode.ensures_failure) n
  | succ depth ih => exact fails_decodeNode ih n

/-- All that is ever read of a node is that there is no expression. -/
theorem ensures_decodeYaml (d : Document) (n : Node Nat) :
    (decodeYaml d n).Ensures fun read => read = none := by
  unfold decodeYaml
  refine Decode.ensures_bind_of_forall fun n => Decode.ensures_bind_of_forall fun isPresent => ?_
  -- Where something is there, it would have to be an expression.
  split
  · exact fun followed read followed' given =>
      (Decode.fails_map (fails_decodeWithin d 128 n) followed read followed' given).elim
  · exact Decode.ensures_pure rfl

/-- No text is read as an expression. -/
theorem ofYaml?_ne_some_some (text : String) (e : Expr) : ofYaml? text ≠ some (some e) := by
  intro read
  obtain ⟨found, document, rest⟩ := Option.bind_eq_some_iff.1 read
  cases found with
  | none => cases rest
  | some d =>
    -- The document's root is a node like any other.
    obtain ⟨⟨x, followed⟩, given, same⟩ := Option.map_eq_some_iff.1 rest
    cases same
    cases ensures_decodeYaml d d.root 0 _ followed given

/-! Saved expressions -/

/-- A text that opens with a brace is not taken for one without an expression either. -/
theorem ofYaml?_braced (rest : List Char) : ofYaml? (String.ofList ('\x7b' :: rest)) = none := by
  refine Option.eq_none_iff_forall_ne_some.2 fun result read => ?_
  obtain ⟨found, document, decoded⟩ := Option.bind_eq_some_iff.1 read
  obtain ⟨d, anchor, pairs, rfl, mapping⟩ := Document.read?_braced document
  obtain ⟨⟨x, followed⟩, given, -⟩ := Option.map_eq_some_iff.1 decoded
  -- A mapping holds something, so it is read as an expression, and that fails.
  have present : decodeYaml d (.mapping anchor none pairs) =
      some <$> decodeWithin d 128 (.mapping anchor none pairs) := rfl
  rw [mapping, present] at given
  exact Decode.fails_map (fails_decodeWithin d 128 _) 0 x followed given

/-- The text of a saved expression opens with a brace. -/
theorem exists_writeWith_eq_braced (spelling : Json.Spelling) (layout : Json.Layout) (e : Expr) :
    ∃ rest, e.toJson.writeWith spelling layout = String.ofList ('\x7b' :: rest) := by
  -- Every node is written as an object.
  cases e <;> exact ⟨_, rfl⟩

/--
A saved expression loads only as JSON.

The text of a saved expression, however its floats are spelled, is held by a file. As long as the
floats are finite and carried by their texts, with at most 127 containers open at once, it loads as
the expression from a file that is not read as YAML.

From a file that is, no text is read as an expression. The text of a saved expression does not load
at all, and every job with this file for its filter fails without printing anything.
-/
theorem saved_loads_only_as_json {e : Expr} {spelling : Json.Spelling} {layout : Json.Layout}
    {files : Files} {path : String}
    (held : files.text path = .ok (e.toJson.writeWith spelling layout)) :
    (e.Finite → e.FloatsCarried spelling → e.nesting ≤ 127 →
      extension? path ≠ some "yaml" → extension? path ≠ some "yml" →
        ofText? path (e.toJson.writeWith spelling layout) = some (some e) ∧
        Filter.load files path = .ok (.ofExpr e)) ∧
    (extension? path = some "yaml" ∨ extension? path = some "yml" →
      (∀ text x, ofText? path text ≠ some (some x)) ∧
      ofText? path (e.toJson.writeWith spelling layout) = none ∧
      Filter.load files path = .error .malformed ∧
      ∀ job : Command.Job, job.filter = path →
        (job.run files).code = 1 ∧ (job.run files).stdout = "") := by
  constructor
  · intro finite floats shallow noYaml noYml
    have read : ofText? path (e.toJson.writeWith spelling layout) = some (some e) := by
      rw [ofText?, if_neg (not_or.2 ⟨noYaml, noYml⟩), ofJsonText?_writeWith finite floats,
        if_pos shallow]
    exact ⟨read, Filter.load_eq_ok_iff.2 ⟨_, held, _, read, rfl⟩⟩
  · intro yaml
    have never : ∀ text x, ofText? path text ≠ some (some x) := by
      intro text x
      rw [ofText?, if_pos yaml]
      exact ofYaml?_ne_some_some text x
    -- The saved text opens with a brace, so it is not taken for the empty filter either.
    obtain ⟨rest, braced⟩ := exists_writeWith_eq_braced spelling layout e
    have unread : ofText? path (e.toJson.writeWith spelling layout) = none := by
      rw [ofText?, if_pos yaml, braced, ofYaml?_braced]
    have fails : Filter.load files path = .error .malformed := by
      rw [Filter.load, held]
      simp only [bind, Except.bind, unread]
      rfl
    refine ⟨never, unread, fails, ?_⟩
    rintro job rfl
    -- A job loads only if its filter does.
    have notLoaded : ∀ settings catalog f, ¬ job.Loads files settings catalog f := by
      intro settings catalog f loads
      cases fails.symm.trans (Command.Job.loads_iff.1 loads).2.2
    obtain ⟨message, failure⟩ := Command.Job.run_of_not_loads notLoaded
    have run : job.run files = Command.failed message := failure job.output
    rw [run]
    exact ⟨rfl, rfl⟩

/-- The constant null loads from a JSON file that it was saved in, and not from a YAML file. -/
theorem saved_loads_only_as_json_null :
    let files : Files := fun _ => some ((Expr.literal .null).toJson.write .compact).toUTF8
    Filter.load files "filter.json" = .ok (.ofExpr (.literal .null)) ∧
      Filter.load files "filter.yaml" = .error .malformed := by
  intro files
  have held : ∀ path, files.text path =
      .ok ((Expr.literal .null).toJson.writeWith Json.Writer.shortest .compact) :=
    fun _ => Files.text_eq_ok_iff.2 (by decide +kernel)
  have noFloats : (Expr.literal .null).FloatsCarried Json.Writer.shortest :=
    fun _ _ member => nomatch List.mem_singleton.1 member
  have yaml : extension? "filter.yaml" = some "yaml" := by decide
  -- Only the JSON half asks something of the constant.
  have asJson := (saved_loads_only_as_json (held "filter.json")).1 (by decide) noFloats (by decide)
  have asYaml := (saved_loads_only_as_json (held "filter.yaml")).2 (.inl yaml)
  exact ⟨(asJson (by decide) (by decide)).2, asYaml.2.2.1⟩

/-- One text is an expression in a JSON file and nothing in a YAML file. -/
theorem loaders_differ :
    ofText? "filter.json" "\x7b\"value\":\x7b\"literal\":\"null\"\x7d\x7d" =
        some (some (.literal .null)) ∧
      ofText? "filter.yaml" "\x7b\"value\":\x7b\"literal\":\"null\"\x7d\x7d" = none := by
  -- The YAML reader meets a mapping without a tag.
  decide +kernel

end Expr

end Subscription
