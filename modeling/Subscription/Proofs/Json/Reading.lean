import Subscription.Proofs.Json.Scalars

/-! A JSON value that was written, on one line or indented, is read back as it was, as long as its
numbers are carried by their texts. -/

namespace Subscription.Json

mutual

/-- The numbers in a value. -/
def numbers : Json → List Number
  | .number n => [n]
  | .array items => numbersOfItems items
  | .object fields => numbersOfFields fields
  | _ => []

/-- The numbers in the items of an array. -/
def numbersOfItems : List Json → List Number
  | [] => []
  | item :: rest => item.numbers ++ numbersOfItems rest

/-- The numbers in the fields of an object. -/
def numbersOfFields : List (Text × Json) → List Number
  | [] => []
  | (_, item) :: rest => item.numbers ++ numbersOfFields rest

end

namespace Reader

/-! Blanks -/

/-- Whether a character may open a value: it is no blank and closes nothing. -/
def opens (c : Char) : Bool :=
  c ∉ [' ', '\t', '\n', '\r', ']', '\x7d']

/-- Where a value opens there is nothing to skip. -/
theorem skipBlanks_cons {c : Char} (solid : opens c = true) (cs : List Char) :
    skipBlanks (c :: cs) = c :: cs := by
  -- None of the four blanks may open a value.
  simp only [opens, List.mem_cons, List.not_mem_nil, or_false, not_or, decide_eq_true_eq] at solid
  rw [skipBlanks, if_neg]
  simp only [solid, or_self, not_false_eq_true]

/-- A break and the indentation behind it are blanks. -/
theorem skipBlanks_lineBreak (layout : Layout) (level : Nat) (cs : List Char) :
    skipBlanks (Writer.lineBreak layout level ++ cs) = skipBlanks cs := by
  -- On one line there is no break, and otherwise the blanks are skipped one by one.
  cases layout with
  | compact => rfl
  | indented =>
    rw [Writer.lineBreak, List.cons_append, skipBlanks, if_pos (by decide)]
    induction 2 * level with
    | zero => rfl
    | succ n ih => rw [List.replicate_succ, List.cons_append, skipBlanks, if_pos (by decide), ih]

/-! One step of the reader for each shape -/

theorem value_string {fuel : Nat} {cs rest behind : List Char} {s : Text}
    (opened : skipBlanks cs = '"' :: rest) (read : stringFrom {} rest = some (s, behind)) :
    value (fuel + 1) cs = some (.string s, behind) := by
  -- The quote sends the reader to the rest of the string.
  simp only [value, opened, read, Option.map_some]

theorem value_array {fuel : Nat} {cs rest first behind : List Char} {c : Char} {read : List Json}
    (opened : skipBlanks cs = '[' :: rest) (skipped : skipBlanks rest = c :: first)
    (filled : opens c = true) (all : items fuel (c :: first) = some (read, behind)) :
    value (fuel + 1) cs = some (.array read, behind) := by
  simp only [value, opened, skipped]
  split
  · -- The bracket does not close at once, because an item opens here.
    next same =>
    cases (List.cons.inj same).1
    exact absurd filled (by decide)
  · rw [all, Option.map_some]

theorem value_object {fuel : Nat} {cs rest first behind : List Char} {c : Char}
    {read : List (Text × Json)} (opened : skipBlanks cs = '\x7b' :: rest)
    (skipped : skipBlanks rest = c :: first) (filled : opens c = true)
    (all : fields fuel (c :: first) = some (read, behind)) :
    value (fuel + 1) cs = some (.object read, behind) := by
  simp only [value, opened, skipped]
  split
  · -- The brace does not close at once, because a field opens here.
    next same =>
    cases (List.cons.inj same).1
    exact absurd filled (by decide)
  · rw [all, Option.map_some]

theorem items_last {fuel : Nat} {cs rest behind : List Char} {item : Json}
    (read : value fuel cs = some (item, rest)) (closed : skipBlanks rest = ']' :: behind) :
    items (fuel + 1) cs = some ([item], behind) := by
  -- The bracket behind the item ends the array.
  simp only [items, read, Option.bind_eq_bind, Option.bind_some, closed, Option.pure_def]

theorem items_next {fuel : Nat} {cs rest behind remaining : List Char} {item : Json}
    {more : List Json} (read : value fuel cs = some (item, rest))
    (parted : skipBlanks rest = ',' :: behind)
    (others : items fuel behind = some (more, remaining)) :
    items (fuel + 1) cs = some (item :: more, remaining) := by
  -- The comma behind the item promises another one.
  simp only [items, read, Option.bind_eq_bind, Option.bind_some, parted, others, Option.pure_def]

theorem fields_last {fuel : Nat} {cs quoted named valued rest behind : List Char} {name : Text}
    {item : Json} (opened : skipBlanks cs = '"' :: quoted)
    (readName : stringFrom {} quoted = some (name, named))
    (marked : skipBlanks named = ':' :: valued) (read : value fuel valued = some (item, rest))
    (closed : skipBlanks rest = '\x7d' :: behind) :
    fields (fuel + 1) cs = some ([(name, item)], behind) := by
  -- The brace behind the value ends the object.
  simp only [fields, opened, readName, marked, read, Option.bind_eq_bind, Option.bind_some, closed,
    Option.pure_def]

theorem fields_next {fuel : Nat} {cs quoted named valued rest behind remaining : List Char}
    {name : Text} {item : Json} {more : List (Text × Json)}
    (opened : skipBlanks cs = '"' :: quoted)
    (readName : stringFrom {} quoted = some (name, named))
    (marked : skipBlanks named = ':' :: valued) (read : value fuel valued = some (item, rest))
    (parted : skipBlanks rest = ',' :: behind)
    (others : fields fuel behind = some (more, remaining)) :
    fields (fuel + 1) cs = some ((name, item) :: more, remaining) := by
  -- The comma behind the value promises another field.
  simp only [fields, opened, readName, marked, read, Option.bind_eq_bind, Option.bind_some, parted,
    others, Option.pure_def]

variable {spelling : Spelling} {layout : Layout}

/-! The written text, with the rest of the document behind it -/

theorem write_items_cons (level : Nat) (item : Json) (others : List Json) (rest : List Char) :
    Writer.items spelling layout level (item :: others) ++ rest =
      ',' :: (Writer.lineBreak layout level ++ (Writer.value spelling layout level item ++
        (Writer.items spelling layout level others ++ rest))) := by
  -- The pieces of the text are only put together in another order.
  simp [Writer.items]

theorem write_fields_cons (level : Nat) (name : Text) (item : Json) (others : List (Text × Json))
    (rest : List Char) :
    Writer.fields spelling layout level ((name, item) :: others) ++ rest =
      ',' :: (Writer.lineBreak layout level ++ (Writer.string name ++ (Writer.colon layout ++
        (Writer.value spelling layout level item ++
          (Writer.fields spelling layout level others ++ rest))))) := by
  -- A field is its name, the colon and its value, in this order.
  simp [Writer.fields]

theorem write_array_cons (level : Nat) (first : Json) (others : List Json) :
    Writer.value spelling layout level (.array (first :: others)) =
      '[' :: (Writer.lineBreak layout (level + 1) ++
        (Writer.value spelling layout (level + 1) first ++
          (Writer.items spelling layout (level + 1) others ++
            (Writer.lineBreak layout level ++ [']'])))) := by
  -- The items stand one level deeper than the brackets around them.
  simp [Writer.value]

theorem write_object_cons (level : Nat) (name : Text) (first : Json)
    (others : List (Text × Json)) :
    Writer.value spelling layout level (.object ((name, first) :: others)) =
      '\x7b' :: (Writer.lineBreak layout (level + 1) ++ (Writer.string name ++
        (Writer.colon layout ++ (Writer.value spelling layout (level + 1) first ++
          (Writer.fields spelling layout (level + 1) others ++
            (Writer.lineBreak layout level ++ ['\x7d'])))))) := by
  -- The fields stand one level deeper than the braces around them.
  simp [Writer.value]

/-! What was written is read back -/

/-- The text of a value opens a value, and the value is read back in front of anything that ends it,
with two steps for each character. -/
structure ReadsBack (spelling : Spelling) (layout : Layout) (level : Nat) (j : Json) : Prop where
  opened : ∃ c cs, Writer.value spelling layout level j = c :: cs ∧ opens c = true
  read : ∀ fuel rest, 2 * (Writer.value spelling layout level j).length ≤ fuel →
    EndsNumber rest → value fuel (Writer.value spelling layout level j ++ rest) = some (j, rest)

/-- A value is read back if one step reads it, with more than two for each character to come. -/
theorem ReadsBack.of_step {level : Nat} {j : Json} {c : Char} {cs : List Char}
    (written : Writer.value spelling layout level j = c :: cs) (solid : opens c = true)
    (step : ∀ fuel rest, 2 * cs.length < fuel → EndsNumber rest →
      value (fuel + 1) (c :: (cs ++ rest)) = some (j, rest)) :
    ReadsBack spelling layout level j := by
  refine ⟨⟨c, cs, written, solid⟩, fun fuel rest enough ends => ?_⟩
  -- The first character pays for the step and leaves another one over.
  rw [written, List.length_cons] at enough
  obtain ⟨left, rfl⟩ : ∃ left, fuel = left + 1 := ⟨fuel - 1, by omega⟩
  rw [written]
  exact step left rest (by omega) ends

/-- A sign or a digit is no blank, closes nothing, and opens no other value. -/
theorem ne_of_opens_number {c : Char} (first : c = '-' ∨ c.isDigit = true) :
    opens c = true ∧ ∀ other ∈ ['n', 't', 'f', '"', '[', '\x7b'], c ≠ other := by
  rcases first with rfl | digit
  · exact ⟨rfl, by simp⟩
  · -- No digit is among the characters that it has to differ from.
    have apart : ∀ other, other.isDigit = false → c ≠ other := by
      rintro other noDigit rfl
      exact absurd digit (by simp [noDigit])
    refine ⟨?_, fun other member => apart other ?_⟩
    · simp [opens, apart ' ' rfl, apart '\t' rfl, apart '\n' rfl, apart '\r' rfl, apart ']' rfl,
        apart '\x7d' rfl]
    · have letters : ['n', 't', 'f', '"', '[', '\x7b'].all (!·.isDigit) = true := by decide
      simpa using List.all_eq_true.1 letters other member

/-- A number that its text carries is read back, for what ends it is not taken for more of it. -/
theorem readsBack_number (level : Nat) {n : Number} (carried : n.Carried spelling) :
    ReadsBack spelling layout level (.number n) := by
  obtain ⟨c, cs, written, first⟩ := eq_cons_of_number? carried
  obtain ⟨solid, other⟩ := ne_of_opens_number first
  refine .of_step written solid fun fuel rest _ ends => ?_
  have read := number?_append carried ends
  rw [written, List.cons_append, List.nil_append] at read
  rw [value, skipBlanks_cons solid]
  -- No other value opens with this character.
  split
  case h_7 => rw [read, Option.map_some]
  all_goals
    next same => exact absurd (List.cons.inj same).1 (other _ (by decide))

theorem readsBack_string (level : Nat) (s : Text) :
    ReadsBack spelling layout level (.string s) := by
  -- Behind the opening quote, the string is read up to its closing one.
  obtain ⟨body, written, read⟩ := stringFrom_string s
  exact .of_step written rfl fun fuel rest _ _ => value_string (skipBlanks_cons rfl _) (read rest)

/-- Behind an item stands the end of its array, or a comma and the next item. -/
theorem endsNumber_items (level outer : Nat) (others : List Json) (rest : List Char) :
    EndsNumber (Writer.items spelling layout level others ++
      (Writer.lineBreak layout outer ++ ']' :: rest)) := by
  intro c first
  -- It is a bracket, a comma, or the line break in front of the bracket.
  cases others with
  | nil => cases layout <;> cases first <;> decide
  | cons item others =>
    cases first
    decide

/-- Behind a field stands the end of its object, or a comma and the next field. -/
theorem endsNumber_fields (level outer : Nat) (others : List (Text × Json)) (rest : List Char) :
    EndsNumber (Writer.fields spelling layout level others ++
      (Writer.lineBreak layout outer ++ '\x7d' :: rest)) := by
  intro c first
  -- It is a brace, a comma, or the line break in front of the brace.
  cases others with
  | nil => cases layout <;> cases first <;> decide
  | cons field others =>
    cases first
    decide

/-- Items that are read back one by one are read back up to the bracket that closes their array. -/
theorem items_write (level outer : Nat) {first : Json} {others : List Json}
    (readsFirst : ReadsBack spelling layout level first)
    (reads : ∀ item ∈ others, ReadsBack spelling layout level item) {fuel : Nat}
    {rest : List Char} (enough : 2 * ((Writer.value spelling layout level first).length +
      (Writer.items spelling layout level others).length) < fuel) :
    items fuel (Writer.value spelling layout level first ++
      (Writer.items spelling layout level others ++
        (Writer.lineBreak layout outer ++ ']' :: rest))) = some (first :: others, rest) := by
  -- The induction is on the items behind the first one; each of them has a comma in front.
  induction others generalizing first fuel with
  | nil =>
    obtain ⟨fuel, rfl⟩ := Nat.exists_eq_succ_of_ne_zero (Nat.ne_zero_of_lt enough)
    have ends := @endsNumber_items spelling layout level outer [] rest
    have read := readsFirst.read fuel _ (by omega) ends
    exact items_last read ((skipBlanks_lineBreak _ _ _).trans rfl)
  | cons next others ih =>
    obtain ⟨fuel, rfl⟩ := Nat.exists_eq_succ_of_ne_zero (Nat.ne_zero_of_lt enough)
    simp only [Writer.items, List.length_cons, List.length_append] at enough
    have ends := @endsNumber_items spelling layout level outer (next :: others) rest
    have read := readsFirst.read fuel _ (by omega) ends
    obtain ⟨readsNext, readsOthers⟩ := List.forall_mem_cons.1 reads
    have left : 2 * ((Writer.value spelling layout level next).length +
        (Writer.items spelling layout level others).length) < fuel := by omega
    have more := ih readsNext readsOthers left
    rw [write_items_cons] at read ⊢
    refine items_next read (skipBlanks_cons rfl _) ?_
    rw [items_congr (skipBlanks_lineBreak _ _ _)]
    exact more

/-- The colon behind a name is found, and the blank behind the colon makes no difference. -/
theorem skipBlanks_colon (layout : Layout) (cs : List Char) :
    ∃ valued, skipBlanks (Writer.colon layout ++ cs) = ':' :: valued ∧
      skipBlanks valued = skipBlanks cs := by
  -- Only the indented layout has a blank there.
  cases layout with
  | compact => exact ⟨cs, rfl, rfl⟩
  | indented => exact ⟨' ' :: cs, rfl, rfl⟩

/-- Fields whose values are read back one by one are read back up to the brace that closes their
object. -/
theorem fields_write (level outer : Nat) {name : Text} {first : Json}
    {others : List (Text × Json)} (readsFirst : ReadsBack spelling layout level first)
    (reads : ∀ field ∈ others, ReadsBack spelling layout level field.2) {fuel : Nat}
    {rest : List Char} (enough : 2 * ((Writer.value spelling layout level first).length +
      (Writer.fields spelling layout level others).length) < fuel) :
    fields fuel (Writer.string name ++ (Writer.colon layout ++
      (Writer.value spelling layout level first ++ (Writer.fields spelling layout level others ++
        (Writer.lineBreak layout outer ++ '\x7d' :: rest))))) =
          some ((name, first) :: others, rest) := by
  -- The induction is on the fields behind the first one; each of them has a comma in front.
  induction others generalizing name first fuel with
  | nil =>
    obtain ⟨fuel, rfl⟩ := Nat.exists_eq_succ_of_ne_zero (Nat.ne_zero_of_lt enough)
    obtain ⟨body, written, named⟩ := stringFrom_string name
    obtain ⟨valued, marked, gap⟩ := skipBlanks_colon layout
      (Writer.value spelling layout level first ++ (Writer.fields spelling layout level [] ++
        (Writer.lineBreak layout outer ++ '\x7d' :: rest)))
    have ends := @endsNumber_fields spelling layout level outer [] rest
    have read := readsFirst.read fuel _ (by omega) ends
    rw [← value_congr gap] at read
    rw [written]
    exact fields_last (skipBlanks_cons rfl _) (named _) marked read
      ((skipBlanks_lineBreak _ _ _).trans rfl)
  | cons field others ih =>
    obtain ⟨fuel, rfl⟩ := Nat.exists_eq_succ_of_ne_zero (Nat.ne_zero_of_lt enough)
    obtain ⟨next, value⟩ := field
    simp only [Writer.fields, List.length_cons, List.length_append] at enough
    obtain ⟨body, written, named⟩ := stringFrom_string name
    obtain ⟨valued, marked, gap⟩ := skipBlanks_colon layout
      (Writer.value spelling layout level first ++
        (Writer.fields spelling layout level ((next, value) :: others) ++
          (Writer.lineBreak layout outer ++ '\x7d' :: rest)))
    have ends := @endsNumber_fields spelling layout level outer ((next, value) :: others) rest
    have read := readsFirst.read fuel _ (by omega) ends
    rw [← value_congr gap] at read
    obtain ⟨readsNext, readsOthers⟩ := List.forall_mem_cons.1 reads
    have left : 2 * ((Writer.value spelling layout level value).length +
        (Writer.fields spelling layout level others).length) < fuel := by omega
    have more := @ih next value readsNext readsOthers fuel left
    rw [write_fields_cons] at marked read
    rw [written, write_fields_cons]
    refine fields_next (skipBlanks_cons rfl _) (named _) marked read (skipBlanks_cons rfl _) ?_
    rw [fields_congr (skipBlanks_lineBreak _ _ _)]
    exact more

theorem readsBack_array (level : Nat) {items : List Json}
    (reads : ∀ item ∈ items, ReadsBack spelling layout (level + 1) item) :
    ReadsBack spelling layout level (.array items) := by
  cases items with
  | nil => exact .of_step rfl rfl fun _ _ _ _ => rfl
  | cons first others =>
    obtain ⟨readsFirst, readsOthers⟩ := List.forall_mem_cons.1 reads
    refine .of_step (write_array_cons level first others) rfl fun fuel rest enough _ => ?_
    simp only [List.length_append, List.length_singleton] at enough
    -- The steps that are left are for the items, since the brackets have no other use for theirs.
    have left : 2 * ((Writer.value spelling layout (level + 1) first).length +
        (Writer.items spelling layout (level + 1) others).length) < fuel := by omega
    have all := @items_write spelling layout (level + 1) level _ _ readsFirst readsOthers fuel rest
      left
    obtain ⟨c, cs, written, solid⟩ := readsFirst.opened
    rw [written] at all ⊢
    simp only [List.append_assoc, List.cons_append, List.nil_append] at all ⊢
    refine value_array (skipBlanks_cons rfl _) ?_ solid all
    rw [skipBlanks_lineBreak]
    exact skipBlanks_cons solid _

theorem readsBack_object (level : Nat) {fields : List (Text × Json)}
    (reads : ∀ field ∈ fields, ReadsBack spelling layout (level + 1) field.2) :
    ReadsBack spelling layout level (.object fields) := by
  cases fields with
  | nil => exact .of_step rfl rfl fun _ _ _ _ => rfl
  | cons field others =>
    obtain ⟨name, first⟩ := field
    obtain ⟨readsFirst, readsOthers⟩ := List.forall_mem_cons.1 reads
    refine .of_step (write_object_cons level name first others) rfl fun fuel rest enough _ => ?_
    simp only [List.length_append, List.length_singleton] at enough
    -- The steps that are left are for the fields, since the braces have no other use for theirs.
    have left : 2 * ((Writer.value spelling layout (level + 1) first).length +
        (Writer.fields spelling layout (level + 1) others).length) < fuel := by omega
    have all := @fields_write spelling layout (level + 1) level name _ _ readsFirst readsOthers fuel
      rest left
    obtain ⟨body, written, -⟩ := stringFrom_string name
    rw [written] at all ⊢
    simp only [List.append_assoc, List.cons_append, List.nil_append] at all ⊢
    refine value_object (skipBlanks_cons rfl _) ?_ rfl all
    rw [skipBlanks_lineBreak]
    exact skipBlanks_cons rfl _

mutual

/-- Every value is read back whose numbers are carried. -/
theorem readsBack (spelling : Spelling) (layout : Layout) :
    ∀ (j : Json) (level : Nat), (∀ n ∈ j.numbers, n.Carried spelling) →
      ReadsBack spelling layout level j
  -- A word is known by its first character.
  | .null, _, _ => .of_step rfl rfl fun _ _ _ _ => rfl
  | .bool true, _, _ => .of_step rfl rfl fun _ _ _ _ => rfl
  | .bool false, _, _ => .of_step rfl rfl fun _ _ _ _ => rfl
  | .number _, level, carried => readsBack_number level (carried _ (List.mem_singleton_self _))
  | .string s, level, _ => readsBack_string level s
  | .array items, level, carried =>
    readsBack_array level (readsBack_items spelling layout items (level + 1) carried)
  | .object fields, level, carried =>
    readsBack_object level (readsBack_fields spelling layout fields (level + 1) carried)

/-- Every item is read back. -/
theorem readsBack_items (spelling : Spelling) (layout : Layout) :
    ∀ (items : List Json) (level : Nat), (∀ n ∈ numbersOfItems items, n.Carried spelling) →
      ∀ item ∈ items, ReadsBack spelling layout level item
  | [], _, _ => nofun
  | first :: others, level, carried =>
    -- The numbers of the first item come before those of the others.
    have ⟨here, behind⟩ := List.forall_mem_append.1 carried
    List.forall_mem_cons.2 ⟨readsBack spelling layout first level here,
      readsBack_items spelling layout others level behind⟩

/-- The value of every field is read back. -/
theorem readsBack_fields (spelling : Spelling) (layout : Layout) :
    ∀ (fields : List (Text × Json)) (level : Nat),
      (∀ n ∈ numbersOfFields fields, n.Carried spelling) →
        ∀ field ∈ fields, ReadsBack spelling layout level field.2
  | [], _, _ => nofun
  | (_, first) :: others, level, carried =>
    -- A name has no numbers, so those of the first value come first.
    have ⟨here, behind⟩ := List.forall_mem_append.1 carried
    List.forall_mem_cons.2 ⟨readsBack spelling layout first level here,
      readsBack_fields spelling layout others level behind⟩

end

end Reader

/-- A value that was written is read back, on one line or indented, with a line break behind it or
without. -/
theorem read?_writeWith {spelling : Spelling} (layout : Layout) {j : Json}
    (carried : ∀ n ∈ j.numbers, n.Carried spelling) :
    read? (j.writeWith spelling layout) = some j ∧
      read? (j.writeWith spelling layout ++ "\n") = some j := by
  -- Every text of blanks ends the value, and nothing else may follow.
  have general : ∀ blanks : List Char, Reader.EndsNumber blanks →
      Reader.skipBlanks blanks = [] →
        read? (String.ofList (Writer.value spelling layout 0 j ++ blanks)) = some j := by
    intro blanks ends skipped
    have read := (Reader.readsBack spelling layout j 0 carried).read
      (2 * (Writer.value spelling layout 0 j ++ blanks).length + 2) blanks
      (by rw [List.length_append]; omega) ends
    rw [read?, String.length_ofList, String.toList_ofList, read]
    simp only [Option.bind_eq_bind, Option.bind_some, skipped, Option.pure_def]
  constructor
  · have read := general [] nofun rfl
    rwa [List.append_nil] at read
  · have read := general ['\n'] (by rintro c ⟨⟩; decide) rfl
    rwa [String.ofList_append] at read

end Subscription.Json
