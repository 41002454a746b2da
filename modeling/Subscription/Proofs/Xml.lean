import Subscription.Proofs.Wire.Reading
import Subscription.Xml

/-! Documents made of nothing but tags, whose values are escaped: by the rules of XML 1.0 they are
read as those tags, with the blanks in their values changed. -/

namespace Subscription

namespace Xml

open Wire (escape escapeChar writeAttribute)
open Wire.Reader (after? after?_append many)

/-! Line ends -/

/-- Characters of which none returns the carriage are kept in front of anything. -/
theorem lineEnds_append {front : List Char} (none : '\r' ∉ front) (rest : List Char) :
    lineEnds (front ++ rest) = front ++ lineEnds rest := by
  -- One character after the other is passed on, since none of them begins a line end.
  induction front with
  | nil => rfl
  | cons c front ih =>
    obtain ⟨other, none⟩ := not_or.1 (mt List.mem_cons.2 none)
    rw [List.cons_append, lineEnds, ih none, List.cons_append]
    · rintro _ rfl
      exact absurd rfl other
    · rintro rfl
      exact absurd rfl other

/-- Only a carriage return is written with one. -/
theorem not_mem_escapeChar {c : Char} (other : c ≠ '\r') : '\r' ∉ escapeChar c := by
  -- Of the characters with an entity, none has a return in it.
  unfold escapeChar
  split
  case h_6 => exact fun member => other (List.mem_singleton.1 member).symm
  all_goals decide

/-- What is written for a character begins with it or with an entity. -/
theorem escapeChar_eq_cons (c : Char) : ∃ d cs, escapeChar c = d :: cs ∧ (d = c ∨ d = '&') := by
  -- Every entity begins with the same sign.
  unfold escapeChar
  split
  case h_6 => exact ⟨c, [], rfl, .inl rfl⟩
  all_goals exact ⟨'&', _, rfl, .inr rfl⟩

/-- A return is a line end of its own where no line feed follows. -/
theorem lineEnds_return {rest : List Char} (alone : ∀ behind, rest ≠ '\n' :: behind) :
    lineEnds ('\r' :: rest) = '\n' :: lineEnds rest := by
  -- The pair of a return and a line feed is read first, and it is not there.
  rw [lineEnds]
  exact alone

/-- Lines end alike in a text and in what is written for it, up to the quote that closes it. -/
theorem lineEnds_escaped (cs rest : List Char) :
    lineEnds (cs.flatMap escapeChar ++ '"' :: rest) =
      (lineEnds cs).flatMap escapeChar ++ '"' :: lineEnds rest := by
  -- The cases are those of a line end of two characters, one of one, and any other character.
  induction cs using lineEnds.induct with
  | case1 cs ih => exact congrArg ('\n' :: ·) ih
  | case2 cs alone ih =>
    have still : ∀ behind, cs.flatMap escapeChar ++ '"' :: rest ≠ '\n' :: behind := by
      intro behind same
      cases cs with
      | nil => cases same
      | cons c cs =>
        obtain ⟨d, ds, written, either⟩ := escapeChar_eq_cons c
        rw [List.flatMap_cons, written] at same
        obtain rfl : d = '\n' := (List.cons.inj same).1
        rcases either with rfl | other
        · exact alone cs rfl
        · cases other
    rw [lineEnds_return alone]
    exact (lineEnds_return still).trans (congrArg ('\n' :: ·) ih)
  | case3 c cs _ other ih =>
    have kept : lineEnds (c :: cs) = c :: lineEnds cs := by
      rw [lineEnds]
      · assumption
      · assumption
    have apart : c ≠ '\r' := other
    rw [kept, List.flatMap_cons, List.flatMap_cons, List.append_assoc, List.append_assoc,
      lineEnds_append (not_mem_escapeChar apart), ih]
  | case4 => rfl

/-- No tab and no line end is left in what is read of a value. -/
theorem flatten_not_mem (c : Char) : flatten c ∉ ['\t', '\n', '\r'] := by
  unfold flatten
  by_cases blank : isBlank c = true
  · rw [if_pos blank]
    decide
  · rw [if_neg blank]
    intro member
    simp only [List.mem_cons, List.not_mem_nil, or_false] at member
    -- All three are blanks, and such a character would have been replaced.
    rcases member with rfl | rfl | rfl <;> exact blank rfl

/-- Any other character is read as itself. -/
theorem flatten_eq_self {c : Char} (kept : c ∉ ['\t', '\n', '\r']) : flatten c = c := by
  -- Of the blanks only the space is left, which is what blanks are flattened to.
  simp only [List.mem_cons, List.not_mem_nil, or_false, not_or] at kept
  simp only [flatten, isBlank, kept, decide_false, Bool.or_false, decide_eq_true_eq]
  split
  · next space => exact space.symm
  · rfl

/-- A text is read as itself exactly where it has no tab and no line end. -/
theorem normalize_eq_self_iff {s : String} :
    normalize s = s ↔ ∀ c ∈ s.toList, c ∉ ['\t', '\n', '\r'] := by
  constructor
  · intro same c member
    -- The text is what was read, which has none.
    rw [← same, normalize, String.toList_ofList] at member
    obtain ⟨d, -, rfl⟩ := List.mem_map.1 member
    exact flatten_not_mem d
  · intro none
    have noReturn : '\r' ∉ s.toList := fun member => none _ member (by decide)
    have ended := lineEnds_append noReturn []
    rw [List.append_nil, lineEnds, List.append_nil] at ended
    have kept : s.toList.map flatten = s.toList :=
      List.map_congr_left (fun c member => flatten_eq_self (none c member)) |>.trans (List.map_id _)
    rw [normalize, received, ended, kept, String.ofList_toList]

/-! Names, values and attributes -/

/-- Whether a text is a name. -/
def isName (name : String) : Bool :=
  match name.toList with
  | c :: rest => opensName c && rest.all inName
  | [] => false

/-- A name begins with a character that may open one, and goes on with others that may follow. -/
theorem name_eq_cons {name : String} (named : isName name = true) :
    ∃ c cs, name.toList = c :: cs ∧ opensName c = true ∧ ∀ d ∈ cs, inName d = true := by
  -- An empty name is none.
  unfold isName at named
  split at named
  · next c cs spelled =>
    obtain ⟨opens, inside⟩ := Bool.and_eq_true_iff.1 named
    exact ⟨c, cs, spelled, opens, List.all_eq_true.1 inside⟩
  · cases named

/-- Where no name goes on, one that was written is read up to its end. -/
theorem name?_append {name : String} (named : isName name = true) {c : Char} {rest : List Char}
    (ends : inName c = false) : name? (name.toList ++ c :: rest) = some (name, c :: rest) := by
  -- The first character opens the name, and the others are taken up to the one that ends it.
  obtain ⟨first, others, spelled, opens, within⟩ := name_eq_cons named
  rw [spelled, List.cons_append, name?, if_pos opens, List.takeWhile_append_of_pos within,
    List.dropWhile_append_of_pos within, List.takeWhile_cons_of_neg (by rw [ends]; nofun),
    List.dropWhile_cons_of_neg (by rw [ends]; nofun), List.append_nil, ← spelled,
    String.ofList_toList]

/-- A character that may stand in a name is no blank. -/
theorem isBlank_of_inName {c : Char} (inside : inName c = true) : isBlank c = false := by
  -- Each of the four blanks is outside of names.
  rw [Bool.eq_false_iff]
  intro blank
  simp only [isBlank, Bool.or_eq_true, decide_eq_true_eq] at blank
  rcases blank with ((rfl | rfl) | rfl) | rfl <;> revert inside <;> decide

/-- All characters of a name may stand in one. -/
theorem inName_of_mem {name : String} (named : isName name = true) {c : Char}
    (member : c ∈ name.toList) : inName c = true := by
  -- The first character is one that may open a name, and such a character may also follow.
  obtain ⟨first, others, spelled, opens, within⟩ := name_eq_cons named
  rw [spelled] at member
  rcases List.mem_cons.1 member with rfl | behind
  · simp only [inName, opens, Bool.true_or]
  · exact within c behind

/-- A name does not begin with a blank. -/
theorem skipBlanks_name {name : String} (named : isName name = true) (rest : List Char) :
    skipBlanks (name.toList ++ rest) = name.toList ++ rest := by
  -- The first character stops the search for blanks.
  obtain ⟨first, others, spelled, -, -⟩ := name_eq_cons named
  have solid : isBlank first = false :=
    isBlank_of_inName (inName_of_mem named (spelled ▸ List.mem_cons_self))
  rw [spelled, List.cons_append]
  exact List.dropWhile_cons_of_neg (by rw [solid]; nofun)

/-- No name has a carriage return in it. -/
theorem no_return_of_isName {name : String} (named : isName name = true) :
    '\r' ∉ name.toList :=
  -- A return is a blank.
  fun member => absurd (isBlank_of_inName (inName_of_mem named member)) (by decide)

/-- What was written for a character is read as the character, in front of anything. -/
theorem expand?_escapeChar (c : Char) (rest : List Char) :
    expand? flatten none (escapeChar c ++ rest) =
      (expand? flatten none rest).map (flatten c :: ·) := by
  unfold escapeChar
  split
  -- A character without an entity stands for itself, since it is neither of those that markup
  -- begins with.
  case h_6 noLess _ noAnd _ _ =>
    rw [List.singleton_append, expand?, if_neg noLess]
    exact noAnd
  all_goals rfl

/-- What was written for a value is read as the value with its blanks flattened. -/
theorem expand?_escape (value : String) :
    expand? flatten none (escape value) = some (value.toList.map flatten) := by
  -- The induction is on the value, of which one character is written after the other.
  unfold escape
  induction value.toList with
  | nil => rfl
  | cons c cs ih => rw [List.flatMap_cons, expand?_escapeChar, ih, Option.map_some, List.map_cons]

/-- A value in quotes is read up to the quote that closes it. -/
theorem quoted?_escape (value : String) (rest : List Char) :
    quoted? ('"' :: (escape value ++ '"' :: rest)) = some (escape value, rest) := by
  -- No quote is written within the value, so the first one closes it.
  have closed : after? ['"'] ('"' :: rest) = some rest := after?_append ['"'] rest
  rw [quoted?, if_pos (.inl rfl), Wire.dropWhile_escape, closed, Wire.takeWhile_escape]
  rfl

/-- An attribute that was written is read with the blanks of its value flattened. -/
theorem attribute?_writeAttribute {name : String} (named : isName name = true) (value : String)
    (rest : List Char) : attribute? (writeAttribute name value ++ rest) =
      some ((name, String.ofList (value.toList.map flatten)), rest) := by
  -- A blank, the name, the sign and the quoted value are read in turn.
  have split : writeAttribute name value ++ rest =
      ' ' :: (name.toList ++ '=' :: '"' :: (escape value ++ '"' :: rest)) := by
    simp [writeAttribute]
  have marked : after? ['='] (skipBlanks ('=' :: '"' :: (escape value ++ '"' :: rest))) =
      some ('"' :: (escape value ++ '"' :: rest)) := after?_append ['='] _
  have solid : skipBlanks ('"' :: (escape value ++ '"' :: rest)) =
      '"' :: (escape value ++ '"' :: rest) := rfl
  have blank : isBlank ' ' = true := rfl
  rw [split, attribute?, if_pos blank, skipBlanks_name named, name?_append named (by decide)]
  simp only [Option.bind_eq_bind, Option.bind_some, marked, solid, quoted?_escape,
    expand?_escape, Option.pure_def]

/-- The attributes of a tag as they are written. -/
def writeAttributes (attributes : List Attribute) : List Char :=
  attributes.flatMap fun (name, value) => writeAttribute name value

/-- The name of a tag is read up to its attributes, or up to its end. -/
theorem name?_writeAttributes {name : String} (named : isName name = true)
    (attributes : List Attribute) {c : Char} {rest : List Char} (ends : inName c = false) :
    name? (name.toList ++ (writeAttributes attributes ++ c :: rest)) =
      some (name, writeAttributes attributes ++ c :: rest) := by
  -- What follows the name is either what ends the tag or the blank in front of an attribute.
  cases attributes with
  | nil => exact name?_append named ends
  | cons first others => exact name?_append named (by decide)

/-- Attributes with their values changed. -/
def mapValues (change : List Char → List Char) (attributes : List Attribute) : List Attribute :=
  attributes.map fun (name, value) => (name, String.ofList (change value.toList))

/-- Attributes that were written are read up to the end of their tag. -/
theorem many_attribute? {attributes : List Attribute}
    (named : ∀ one ∈ attributes, isName one.1 = true) {c : Char} {rest : List Char}
    (ends : isBlank c = false) :
    many attribute? (writeAttributes attributes ++ c :: rest) =
      (mapValues (List.map flatten) attributes, c :: rest) := by
  -- Each attribute is read in front of any rest, and none begins where the tag ends.
  have reads : ∀ one ∈ attributes, ∀ rest, attribute? (writeAttribute one.1 one.2 ++ rest) =
      some ((one.1, String.ofList (one.2.toList.map flatten)), rest) :=
    fun one member => attribute?_writeAttribute (named one member) one.2
  have visible : ∀ one ∈ attributes, writeAttribute one.1 one.2 ≠ [] :=
    fun _ _ => List.cons_ne_nil _ _
  have stops : attribute? (c :: rest) = none := by
    rw [attribute?, if_neg (by rw [ends]; nofun)]
  exact Wire.Reader.many_flatMap_map reads visible stops

/-! Pieces -/

/-- A piece as it is written. -/
def Piece.write : Piece → List Char
  | .opening name attributes => '<' :: name.toList ++ writeAttributes attributes ++ ['>']
  | .single name attributes => '<' :: name.toList ++ writeAttributes attributes ++ ['/', '>']
  | .closing name => '<' :: '/' :: name.toList ++ ['>']
  | .text spelled => spelled

/-- A piece with the values of its attributes changed. -/
def Piece.mapValues (change : List Char → List Char) : Piece → Piece
  | .opening name attributes => .opening name (Xml.mapValues change attributes)
  | .single name attributes => .single name (Xml.mapValues change attributes)
  | .closing name => .closing name
  | .text spelled => .text spelled

/-- Whether a tag may have its name and those of its attributes, of which no two are the same. -/
def areNames (name : String) (attributes : List String) : Bool :=
  (name :: attributes).all isName && decide attributes.Nodup

theorem areNames_iff {name : String} {attributes : List Attribute} :
    areNames name (attributes.map Prod.fst) = true ↔ isName name = true ∧
      (∀ one ∈ attributes, isName one.1 = true) ∧ (attributes.map Prod.fst).Nodup := by
  -- The first name is that of the tag itself.
  simp only [areNames, List.all_cons, List.all_map, Bool.and_eq_true, List.all_eq_true,
    decide_eq_true_eq, Function.comp_apply, and_assoc]

/-- Whether a piece is a tag of proper names. -/
def Piece.isTag : Piece → Bool
  | .opening name attributes | .single name attributes => areNames name (attributes.map Prod.fst)
  | .closing name => isName name
  | .text _ => false

theorem map_fst_mapValues (change : List Char → List Char) (attributes : List Attribute) :
    (mapValues change attributes).map Prod.fst = attributes.map Prod.fst := by
  -- Names are not touched.
  rw [mapValues, List.map_map]
  rfl

/-- A tag with attributes is read by what stands behind them. -/
theorem piece?_attributes {name : String} {attributes : List Attribute}
    (tag : areNames name (attributes.map Prod.fst) = true) {c : Char} {rest : List Char}
    (ends : inName c = false) (solid : isBlank c = false) :
    piece? ('<' :: (name.toList ++ (writeAttributes attributes ++ c :: rest))) =
      tagEnd? name (mapValues (List.map flatten) attributes) (c :: rest) := by
  obtain ⟨named, attributesNamed, distinct⟩ := areNames_iff.1 tag
  obtain ⟨first, others, spelled, opens, -⟩ := name_eq_cons named
  -- The name stops at the blank of the first attribute, or at the end of the tag.
  have read : name? (first :: (others ++ (writeAttributes attributes ++ c :: rest))) =
      some (name, writeAttributes attributes ++ c :: rest) := by
    rw [← List.cons_append, ← spelled]
    exact name?_writeAttributes named attributes ends
  have unblank : skipBlanks (c :: rest) = c :: rest :=
    List.dropWhile_cons_of_neg (by rw [solid]; exact Bool.false_ne_true)
  rw [spelled, List.cons_append]
  unfold piece?
  split
  · -- The tag is no closing one, because a name does not open with a slash.
    next same =>
    cases (List.cons.inj (List.cons.inj same).2).1
    exact absurd opens (by decide)
  · next same =>
    cases same
    simp only [Option.bind_eq_bind, Option.bind_some, read, many_attribute? attributesNamed solid,
      map_fst_mapValues, if_pos distinct, unblank]
  · next noTag => exact absurd rfl (noTag _)

/-- A tag that was written is read with the blanks of its values flattened. -/
theorem piece?_write {piece : Piece} (tag : piece.isTag = true) (rest : List Char) :
    piece? (piece.write ++ rest) = some (piece.mapValues (List.map flatten), rest) := by
  -- The characters behind the attributes tell an opening tag from one that is closed at once.
  cases piece with
  | opening name attributes =>
    have split : (Piece.opening name attributes).write ++ rest =
        '<' :: (name.toList ++ (writeAttributes attributes ++ '>' :: rest)) := by
      simp [Piece.write]
    rw [split, piece?_attributes tag (by decide) (by decide)]
    rfl
  | single name attributes =>
    have split : (Piece.single name attributes).write ++ rest =
        '<' :: (name.toList ++ (writeAttributes attributes ++ '/' :: '>' :: rest)) := by
      simp [Piece.write]
    rw [split, piece?_attributes tag (by decide) (by decide)]
    rfl
  | closing name =>
    have split : (Piece.closing name).write ++ rest =
        '<' :: '/' :: (name.toList ++ '>' :: rest) := by
      simp [Piece.write]
    have ends : after? ['>'] (skipBlanks ('>' :: rest)) = some rest := after?_append ['>'] rest
    rw [split, piece?, name?_append tag (by decide)]
    simp only [Option.bind_eq_bind, Option.bind_some, ends]
    rfl
  | text spelled => cases tag

/-- The lines of an attribute end alike in what is written for it. -/
theorem lineEnds_writeAttribute {name : String} (named : isName name = true) (value : String)
    (rest : List Char) : lineEnds (writeAttribute name value ++ rest) =
      writeAttribute name (String.ofList (lineEnds value.toList)) ++ lineEnds rest := by
  -- Only the value can have line ends, and the quote behind it belongs to none of them.
  have split : ∀ value rest, writeAttribute name value ++ rest =
      (' ' :: name.toList ++ "=\"".toList) ++ (value.toList.flatMap escapeChar ++ '"' :: rest) := by
    simp [writeAttribute, escape]
  have none : '\r' ∉ ' ' :: name.toList ++ "=\"".toList := by
    simp [no_return_of_isName named]
  rw [split, lineEnds_append none, lineEnds_escaped, split]
  simp only [String.toList_ofList]

/-- The lines of attributes end alike in what is written for them. -/
theorem lineEnds_writeAttributes {attributes : List Attribute}
    (named : ∀ one ∈ attributes, isName one.1 = true) (rest : List Char) :
    lineEnds (writeAttributes attributes ++ rest) =
      writeAttributes (mapValues lineEnds attributes) ++ lineEnds rest := by
  -- The attributes follow one another, and no line end reaches from one into the next.
  induction attributes with
  | nil => rfl
  | cons first others ih =>
    obtain ⟨namedFirst, namedOthers⟩ := List.forall_mem_cons.1 named
    simp only [writeAttributes, mapValues, List.map_cons, List.flatMap_cons, List.append_assoc,
      lineEnds_writeAttribute namedFirst] at ih ⊢
    rw [ih namedOthers]

/-- The lines of a tag end alike in what is written for it. -/
theorem lineEnds_write {piece : Piece} (tag : piece.isTag = true) (rest : List Char) :
    lineEnds (piece.write ++ rest) = (piece.mapValues lineEnds).write ++ lineEnds rest := by
  -- No name has a line end, so those of a tag are those of its attributes.
  cases piece with
  | opening name attributes | single name attributes =>
    obtain ⟨named, attributesNamed, -⟩ := areNames_iff.1 tag
    have none : '\r' ∉ '<' :: name.toList := by simp [no_return_of_isName named]
    simp only [Piece.write, Piece.mapValues, List.append_assoc, lineEnds_append none,
      lineEnds_writeAttributes attributesNamed]
    rfl
  | closing name =>
    have none : '\r' ∉ (Piece.closing name).write := by
      simp [Piece.write, no_return_of_isName tag]
    exact lineEnds_append none rest
  | text spelled => cases tag

/-! Documents -/

theorem Piece.mapValues_mapValues (first second : List Char → List Char) (piece : Piece) :
    (piece.mapValues first).mapValues second = piece.mapValues (second ∘ first) := by
  -- The values of a tag are changed one by one, and a tag that closes has none.
  cases piece <;> simp [Piece.mapValues, Xml.mapValues]

theorem Piece.isTag_mapValues (change : List Char → List Char) (piece : Piece) :
    (piece.mapValues change).isTag = piece.isTag := by
  -- Whether a piece is a tag hangs on its names alone.
  cases piece <;> simp only [Piece.mapValues, Piece.isTag, map_fst_mapValues]

/-- The lines of tags end alike in what is written for them. -/
theorem lineEnds_flatMap {pieces : List Piece} (tags : ∀ piece ∈ pieces, piece.isTag = true) :
    lineEnds (pieces.flatMap Piece.write) =
      (pieces.map (Piece.mapValues lineEnds)).flatMap Piece.write := by
  -- The induction is on the tags, each of which ends with no half of a line end.
  induction pieces with
  | nil => rfl
  | cons piece pieces ih =>
    obtain ⟨tag, others⟩ := List.forall_mem_cons.1 tags
    rw [List.flatMap_cons, lineEnds_write tag, ih others, List.map_cons, List.flatMap_cons]

/-- Tags do not open with a declaration. -/
theorem after?_declaration {pieces : List Piece} (tags : ∀ piece ∈ pieces, piece.isTag = true) :
    after? "<?xml".toList (pieces.flatMap Piece.write) = none := by
  cases pieces with
  | nil => rfl
  | cons piece pieces =>
    have tag := tags piece List.mem_cons_self
    -- A tag has a name or a slash where a declaration has a question mark.
    have second : ∃ c cs, piece.write = '<' :: c :: cs ∧ c ≠ '?' := by
      cases piece with
      | opening name attributes | single name attributes =>
        obtain ⟨c, cs, spelled, opens, -⟩ := name_eq_cons (areNames_iff.1 tag).1
        refine ⟨c, _, by rw [Piece.write, spelled]; rfl, ?_⟩
        rintro rfl
        exact absurd opens (by decide)
      | closing name => exact ⟨'/', _, rfl, by decide⟩
      | text spelled => cases tag
    obtain ⟨c, cs, written, other⟩ := second
    rw [List.flatMap_cons, written]
    exact if_neg other.symm

/-- The declaration of a wire form is found. -/
theorem behindDeclaration?_declared (rest : List Char) :
    behindDeclaration? (Wire.declaration ++ rest) = some rest := by
  -- A declaration is read as a tag is, with a question mark at its end.
  have split : Wire.declaration ++ rest = "<?xml".toList ++
      (writeAttributes [("version", "1.0")] ++ '?' :: '>' :: rest) := rfl
  have named : ∀ one ∈ [("version", "1.0")], isName one.1 = true := by decide
  have version : declares (mapValues (List.map flatten) [("version", "1.0")]) = true := by
    decide +kernel
  rw [split, behindDeclaration?, after?_append]
  simp only [many_attribute? named (rfl : isBlank '?' = false), version, if_true]
  exact after?_append "?>".toList rest

/-- Tags that are one element are read where all characters of the document may occur, behind a
declaration or without one. -/
theorem read?_flatMap {pieces : List Piece} (tags : ∀ piece ∈ pieces, piece.isTag = true)
    (element : isElement (pieces.map (Piece.mapValues received)) = true) {front : List Char}
    (declared : front = Wire.declaration ∨ front = []) :
    read? (String.ofList (front ++ pieces.flatMap Piece.write)) =
      if (front ++ pieces.flatMap Piece.write).all isChar then
        some (pieces.map (Piece.mapValues received))
      else none := by
  -- Line ends change no more than the values.
  have ended : ∀ piece ∈ pieces.map (Piece.mapValues lineEnds), piece.isTag = true := by
    simpa [Piece.isTag_mapValues] using tags
  have behind : behindDeclaration? (lineEnds (front ++ pieces.flatMap Piece.write)) =
      some ((pieces.map (Piece.mapValues lineEnds)).flatMap Piece.write) := by
    rcases declared with rfl | rfl
    · rw [lineEnds_append (by decide), lineEnds_flatMap tags, behindDeclaration?_declared]
    · rw [List.nil_append, lineEnds_flatMap tags, behindDeclaration?, after?_declaration ended]
  have all : many piece? ((pieces.map (Piece.mapValues lineEnds)).flatMap Piece.write) =
      (pieces.map (Piece.mapValues received), []) := by
    have visible : ∀ piece ∈ pieces.map (Piece.mapValues lineEnds), piece.write ≠ [] := by
      intro piece member
      have tag := ended piece member
      cases piece with
      | opening _ _ | single _ _ | closing _ => exact List.cons_ne_nil _ _
      | text _ => cases tag
    have read := Wire.Reader.many_flatMap_map
      (fun piece member => piece?_write (ended piece member)) visible (rfl : piece? [] = none)
    rw [List.append_nil, List.map_map] at read
    rw [read]
    exact congrArg (·, []) (List.map_congr_left fun piece _ => piece.mapValues_mapValues _ _)
  rw [read?, String.toList_ofList]
  by_cases allowed : (front ++ pieces.flatMap Piece.write).all isChar = true
  · simp only [allowed, Bool.not_true, Bool.false_eq_true, if_false, if_true, behind, all, element,
      Option.bind_eq_bind, Option.bind_some, Option.pure_def]
  · simp only [Bool.not_eq_true] at allowed
    simp only [allowed, Bool.not_false, if_true, Bool.false_eq_true, if_false]
    rfl

end Xml

end Subscription
