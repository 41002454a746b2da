import Subscription.Yaml.Document

/-! Texts that open with a brace. Whatever follows, a reader finds a mapping at the root of their
document or no document at all. -/

namespace Subscription.Yaml

/-- Whether a token starts a mapping, or a key that stands outside of one. -/
def Token.startsMapping : Token → Bool
  | .flowMappingStart | .blockMappingStart | .key => true
  | _ => false

/-- Whether tokens, the last one first, go back to a token that starts a mapping. -/
def Opened (ts : List Token) : Prop :=
  ∃ later first, ts = later ++ [first] ∧ first.startsMapping = true

namespace Opened

variable {ts : List Token}

/-- Tokens that are added change nothing about the first one. -/
theorem append (opened : Opened ts) (added : List Token) : Opened (added ++ ts) := by
  -- Tokens are added at the front of the list, which is behind all others in the text.
  obtain ⟨later, first, rfl, starts⟩ := opened
  exact ⟨added ++ later, first, (List.append_assoc _ _ _).symm, starts⟩

theorem cons (opened : Opened ts) (t : Token) : Opened (t :: ts) :=
  opened.append [t]

end Opened

namespace Lexer

variable {l l' : Lexer}

/-! What leaves the tokens as they are -/

theorem tokens_skipToToken (fuel : Nat) (l : Lexer) : (skipToToken fuel l).tokens = l.tokens := by
  induction fuel generalizing l with
  | zero => rfl
  | succ fuel ih =>
    unfold skipToToken
    dsimp only
    -- A break sends the reader on to the next line.
    generalize Cursor.skipComment _ = here
    split
    · exact ih _
    · rfl

theorem tokens_of_dropKey? (dropped : l.dropKey? = some l') : l'.tokens = l.tokens := by
  -- A key that has to be there is a fault; any other is forgotten.
  unfold dropKey? at dropped
  split at dropped
  · cases dropped
  · cases dropped
    rfl

theorem tokens_of_dropStaleKeys? (dropped : l.dropStaleKeys? = some l') : l'.tokens = l.tokens := by
  -- Only the keys that may still come are looked at.
  unfold dropStaleKeys? at dropped
  simp only at dropped
  split at dropped
  · cases dropped
  · cases dropped
    rfl

theorem tokens_of_saveKey? (saved : l.saveKey? = some l') : l'.tokens = l.tokens := by
  unfold saveKey? at saved
  split at saved
  · -- A key that was possible before is given up first.
    obtain ⟨dropped, freed, same⟩ := Option.bind_eq_some_iff.1 saved
    have kept := tokens_of_dropKey? freed
    cases same
    exact kept
  · cases saved
    rfl

/-! What adds tokens -/

/-- A token may be put behind some others, or in front of all if it starts a mapping itself. -/
theorem opened_emitAt (opened : Opened l.tokens) {count : Nat} {t : Token}
    (placed : t.startsMapping = true ∨ 0 < count) : Opened (l.emitAt count t).tokens := by
  obtain ⟨later, first, same, starts⟩ := opened
  simp only [emitAt, same, List.length_append, List.length_singleton]
  rcases Nat.eq_zero_or_pos count with rfl | behind
  · -- In front of all tokens, the new one comes first.
    have itself := placed.resolve_right (Nat.lt_irrefl 0)
    rw [Nat.sub_zero, List.take_of_length_le (by simp), List.drop_of_length_le (by simp)]
    exact ⟨later ++ [first], t, rfl, itself⟩
  · have within : later.length + 1 - count ≤ later.length := by omega
    rw [List.drop_append_of_le_length within]
    exact ⟨(later ++ [first]).take (later.length + 1 - count) ++
      t :: later.drop (later.length + 1 - count), first, by simp, starts⟩

theorem opened_closeBlocks (opened : Opened l.tokens) (column : Int) :
    Opened (l.closeBlocks column).tokens := by
  -- Ends of blocks are put behind all tokens.
  unfold closeBlocks
  split
  · exact opened
  · exact opened.append _

theorem opened_openBlock (opened : Opened l.tokens) (column : Nat) {count : Nat} {start : Token}
    (placed : start.startsMapping = true ∨ 0 < count) :
    Opened (l.openBlock column count start).tokens := by
  -- Within brackets, and at a column that is not further in, no block is opened.
  unfold openBlock
  split
  · exact opened
  · exact opened_emitAt opened placed

theorem opened_indicator? (opened : Opened l.tokens) {length : Nat} {t : Token} {keyAllowed : Bool}
    (stepped : l.indicator? length t keyAllowed = some l') : Opened l'.tokens := by
  -- A possible key is forgotten first, which leaves the tokens as they are.
  obtain ⟨freed, dropped, same⟩ := Option.bind_eq_some_iff.1 stepped
  cases same
  rw [← tokens_of_dropKey? dropped] at opened
  exact opened.cons t

theorem opened_endBlocks? (opened : Opened l.tokens) (stepped : l.endBlocks? = some l') :
    Opened l'.tokens := by
  -- All blocks are closed before the possible key is forgotten.
  obtain ⟨freed, dropped, same⟩ := Option.bind_eq_some_iff.1 stepped
  cases same
  have closed := opened_closeBlocks opened (-1)
  rwa [← tokens_of_dropKey? dropped] at closed

/-- A bracket is put behind all tokens. -/
theorem tokens_of_openFlow? {t : Token} (stepped : l.openFlow? t = some l') :
    l'.tokens = t :: l.tokens := by
  -- The bracket may be part of a key, which is noted without a token.
  obtain ⟨kept, saved, same⟩ := Option.bind_eq_some_iff.1 stepped
  cases same
  exact congrArg (t :: ·) (tokens_of_saveKey? saved)

theorem opened_openFlow? (opened : Opened l.tokens) {t : Token}
    (stepped : l.openFlow? t = some l') : Opened l'.tokens := by
  -- The bracket comes behind a token that starts a mapping.
  rw [tokens_of_openFlow? stepped]
  exact opened.cons t

theorem opened_closeFlow? (opened : Opened l.tokens) {t : Token}
    (stepped : l.closeFlow? t = some l') : Opened l'.tokens := by
  -- A bracket that closes ends a key that was possible within it.
  obtain ⟨freed, dropped, same⟩ := Option.bind_eq_some_iff.1 stepped
  cases same
  rw [← tokens_of_dropKey? dropped] at opened
  exact opened.cons t

theorem opened_blockEntry? (opened : Opened l.tokens) (stepped : l.blockEntry? = some l') :
    Opened l'.tokens := by
  unfold blockEntry? at stepped
  split at stepped
  · cases stepped
  · -- A sequence is opened behind all tokens, of which there is one at least.
    have nonEmpty : 0 < l.tokens.length := by
      obtain ⟨later, first, same, -⟩ := opened
      simp [same]
    have block : Opened (l.openBlock l.cursor.column l.tokens.length .blockSequenceStart).tokens :=
      opened_openBlock opened _ (.inr nonEmpty)
    exact opened_indicator? block stepped

theorem opened_explicitKey? (opened : Opened l.tokens) (stepped : l.explicitKey? = some l') :
    Opened l'.tokens := by
  -- The block that opens here starts a mapping, so it may stand in front of all tokens.
  unfold explicitKey? at stepped
  split at stepped
  · cases stepped
  · have block : Opened (l.openBlock l.cursor.column l.tokens.length .blockMappingStart).tokens :=
      opened_openBlock opened _ (.inl rfl)
    exact opened_indicator? block stepped

theorem opened_value? (opened : Opened l.tokens) (stepped : l.value? = some l') :
    Opened l'.tokens := by
  unfold value? at stepped
  split at stepped
  · -- A key that was read is marked where it began, with a block around it if it opens one.
    next k _ =>
    have marked : Opened (l.emitAt k.tokensBefore .key).tokens := opened_emitAt opened (.inl rfl)
    have block : Opened ((l.emitAt k.tokensBefore .key).openBlock k.place.column k.tokensBefore
        .blockMappingStart).tokens := opened_openBlock marked _ (.inl rfl)
    cases stepped
    exact block.cons _
  · split at stepped
    · cases stepped
    · -- Without one, the value may open a block for an empty key.
      have block : Opened (l.openBlock l.cursor.column l.tokens.length .blockMappingStart).tokens :=
        opened_openBlock opened _ (.inl rfl)
      cases stepped
      exact block.cons _

theorem opened_content? (opened : Opened l.tokens) {read : Cursor → Option (Token × Cursor)}
    (stepped : l.content? read = some l') : Opened l'.tokens := by
  -- One token is read, and it may be part of a key, which is noted first.
  obtain ⟨kept, saved, rest⟩ := Option.bind_eq_some_iff.1 stepped
  obtain ⟨⟨t, cursor⟩, -, same⟩ := Option.bind_eq_some_iff.1 rest
  cases same
  rw [← tokens_of_saveKey? saved] at opened
  exact opened.cons t

theorem opened_plain? (opened : Opened l.tokens) (stepped : l.plain? = some l') :
    Opened l'.tokens := by
  -- A plain scalar is one token, however many lines it goes over.
  obtain ⟨kept, saved, rest⟩ := Option.bind_eq_some_iff.1 stepped
  obtain ⟨⟨text, broken, cursor⟩, -, same⟩ := Option.bind_eq_some_iff.1 rest
  cases same
  rw [← tokens_of_saveKey? saved] at opened
  exact opened.cons _

theorem opened_block? (opened : Opened l.tokens) {literal : Bool}
    (stepped : l.block? literal = some l') : Opened l'.tokens := by
  -- A scalar of lines is one token as well, and no part of a key.
  obtain ⟨freed, dropped, rest⟩ := Option.bind_eq_some_iff.1 stepped
  obtain ⟨⟨text, cursor⟩, -, same⟩ := Option.bind_eq_some_iff.1 rest
  cases same
  rw [← tokens_of_dropKey? dropped] at opened
  exact opened.cons _

/-! Steps and runs -/

/-- A step leaves the token in front that starts a mapping, or puts another such token before it. -/
theorem opened_step? (opened : Opened l.tokens) {c : Char} (stepped : l.step? c = some l') :
    Opened l'.tokens := by
  unfold step? at stepped
  split at stepped
  · obtain ⟨ended, blocks, rest⟩ := Option.bind_eq_some_iff.1 stepped
    obtain ⟨⟨t, cursor⟩, -, same⟩ := Option.bind_eq_some_iff.1 rest
    cases same
    exact (opened_endBlocks? opened blocks).cons t
  split at stepped
  · obtain ⟨ended, blocks, same⟩ := Option.bind_eq_some_iff.1 stepped
    cases same
    exact (opened_endBlocks? opened blocks).cons _
  split at stepped
  · obtain ⟨ended, blocks, same⟩ := Option.bind_eq_some_iff.1 stepped
    cases same
    exact (opened_endBlocks? opened blocks).cons _
  -- The character tells which token starts here.
  split at stepped
  · exact opened_openFlow? opened stepped
  · exact opened_openFlow? opened stepped
  · exact opened_closeFlow? opened stepped
  · exact opened_closeFlow? opened stepped
  · exact opened_indicator? opened stepped
  · exact opened_content? opened stepped
  · exact opened_content? opened stepped
  · exact opened_content? opened stepped
  · exact opened_content? opened stepped
  · exact opened_content? opened stepped
  split at stepped
  · exact opened_blockEntry? opened stepped
  split at stepped
  · exact opened_explicitKey? opened stepped
  split at stepped
  · exact opened_value? opened stepped
  split at stepped
  · exact opened_block? opened stepped
  split at stepped
  · exact opened_block? opened stepped
  split at stepped
  · exact opened_plain? opened stepped
  · cases stepped

/-- From a token that starts a mapping, all tokens to the end begin with such a token. -/
theorem opened_run? {fuel : Nat} (opened : Opened l.tokens) {ts : List Token}
    (ran : run? fuel l = some ts) : ∃ t rest, ts = t :: rest ∧ t.startsMapping = true := by
  induction fuel generalizing l with
  | zero => cases ran
  | succ fuel ih =>
    obtain ⟨fresh, dropped, rest⟩ := Option.bind_eq_some_iff.1 ran
    rw [← tokens_skipToToken (l.cursor.rest.length + 1),
      ← tokens_of_dropStaleKeys? dropped] at opened
    -- Blocks that end on this line add tokens and take none away.
    have closed := opened_closeBlocks opened fresh.cursor.column
    dsimp only at rest
    split at rest
    · obtain ⟨ended, blocks, same⟩ := Option.bind_eq_some_iff.1 rest
      cases same
      obtain ⟨later, first, whole, starts⟩ := opened_endBlocks? closed blocks
      exact ⟨first, later.reverse, by rw [whole, List.reverse_concat], starts⟩
    · obtain ⟨next, stepped, onward⟩ := Option.bind_eq_some_iff.1 rest
      exact ih (opened_step? closed stepped) onward

end Lexer

/-- The tokens of a text that opens with a brace begin with one that starts a mapping. -/
theorem tokens?_braced {rest : List Char} {ts : List Token}
    (read : tokens? (String.ofList ('\x7b' :: rest)) = some ts) :
    ∃ t others, ts = t :: others ∧ t.startsMapping = true := by
  unfold tokens? at read
  dsimp only at read
  rw [String.toList_ofList] at read
  split at read
  · -- The brace is the first token, since nothing has been read that could be a key.
    have first : Lexer.run? (('\x7b' :: rest).length + 1) { cursor := { rest := '\x7b' :: rest } } =
        (Lexer.openFlow? { cursor := { rest := '\x7b' :: rest } } .flowMappingStart).bind
          (Lexer.run? ('\x7b' :: rest).length) := rfl
    rw [first] at read
    obtain ⟨next, stepped, onward⟩ := Option.bind_eq_some_iff.1 read
    have opened : Opened next.tokens := by
      rw [Lexer.tokens_of_openFlow? stepped]
      exact ⟨[], .flowMappingStart, rfl, rfl⟩
    exact Lexer.opened_run? opened onward
  · cases read

/-- Where a mapping starts, the node is the mapping, without a tag; a key that stands outside of one
is no node. -/
theorem Node.node?_startsMapping {t : Token} (starts : t.startsMapping = true)
    {tags : Shorthands} {fuel : Nat} {others rest : List Token} {n : Node String}
    (read : node? tags true false (fuel + 1) (t :: others) = some (n, rest)) :
    ∃ pairs, n = .mapping none none pairs := by
  -- A mapping is read whole up to its end, or the text is refused.
  cases t with
  | flowMappingStart =>
    obtain ⟨⟨pairs, behind⟩, -, same⟩ := Option.bind_eq_some_iff.1 read
    cases same
    exact ⟨pairs, rfl⟩
  | blockMappingStart =>
    obtain ⟨⟨pairs, behind⟩, -, same⟩ := Option.bind_eq_some_iff.1 read
    cases same
    exact ⟨pairs, rfl⟩
  | key => cases read
  | _ => cases starts

/-- Tokens that begin with one that starts a mapping make a mapping, or nothing. -/
theorem Node.ofTokens?_startsMapping {t : Token} (starts : t.startsMapping = true)
    {others : List Token} {root : Option (Node String)}
    (read : ofTokens? (t :: others) = some root) :
    ∃ pairs, root = some (.mapping none none pairs) := by
  have enough : 2 * (t :: others).length + 3 = 2 * others.length + 4 + 1 := by
    rw [List.length_cons]
    omega
  -- The tokens are those of one node, because no mark of a document comes first.
  have whole : ofTokens? (t :: others) = (node? standardShorthands true false
      (2 * others.length + 4 + 1) (t :: others)).bind fun found =>
        if found.2.all (· == .documentEnd) then some (some found.1) else none := by
    rw [← enough]
    cases t <;> first | rfl | cases starts
  rw [whole] at read
  obtain ⟨⟨found, rest⟩, node, same⟩ := Option.bind_eq_some_iff.1 read
  obtain ⟨pairs, rfl⟩ := node?_startsMapping starts node
  dsimp only at same
  split at same
  · exact ⟨pairs, (Option.some.inj same).symm⟩
  · cases same

/-- A mapping stays one when its anchors are numbered. -/
theorem Node.numbered?_mapping {seen seen' : Anchors} {anchor : Option String}
    {tag : Option (List Char)} {pairs : List (Node String × Node String)} {n : Node Nat}
    (read : numbered? seen (.mapping anchor tag pairs) = some (n, seen')) :
    ∃ number numbered, n = .mapping number tag numbered := by
  -- Numbering goes into the pairs, and keeps the node around them.
  rw [numbered?] at read
  obtain ⟨⟨numbered, behind⟩, -, same⟩ := Option.bind_eq_some_iff.1 read
  cases same
  exact ⟨_, numbered, rfl⟩

/-- A text that opens with a brace has a document whose root is a mapping without a tag, or is not
read at all. -/
theorem Document.read?_braced {rest : List Char} {found : Option Document}
    (read : read? (String.ofList ('\x7b' :: rest)) = some found) :
    ∃ d anchor pairs, found = some d ∧ d.root = .mapping anchor none pairs := by
  -- Tokens are read from the text, a node from the tokens, and its anchors are numbered.
  obtain ⟨ts, tokens, parsed⟩ := Option.bind_eq_some_iff.1 read
  obtain ⟨t, others, rfl, starts⟩ := tokens?_braced tokens
  obtain ⟨root, node, numbered⟩ := Option.bind_eq_some_iff.1 parsed
  obtain ⟨pairs, rfl⟩ := Node.ofTokens?_startsMapping starts node
  obtain ⟨⟨n, seen⟩, counted, same⟩ := Option.bind_eq_some_iff.1 numbered
  obtain ⟨anchor, numberedPairs, rfl⟩ := Node.numbered?_mapping counted
  exact ⟨_, anchor, numberedPairs, (Option.some.inj same).symm, rfl⟩

end Subscription.Yaml
