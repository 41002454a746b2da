import Subscription.Json.Reader
import Subscription.Json.Writer

/-! Strings and numbers that were written as JSON are read back, in front of whatever ends them. -/

namespace Subscription

namespace Json.Reader

/-! Strings -/

/-- A string in which every pair is whole, by its characters in order. -/
def Spelled.ofChars (cs : List Char) : Spelled :=
  { chars := some cs.reverse }

/-- The four digits of a control character spell its number. -/
theorem number?_hexByte {n : Nat} (control : n < 0x20) :
    Text.number? 16 ('0' :: '0' :: Writer.hexByte n) = some n := by
  -- There are thirty-two of them.
  revert n
  decide

/-- A character that was written is read, and the string goes on behind it. -/
theorem stringFrom_escapeChar (cs : List Char) (c : Char) (rest : List Char) :
    stringFrom (.ofChars cs) (Writer.escapeChar c ++ rest) =
      stringFrom (.ofChars (cs ++ [c])) rest := by
  have added : (Spelled.ofChars cs).char c = .ofChars (cs ++ [c]) := by
    simp [Spelled.char, Spelled.ofChars]
  rw [← added]
  -- Seven characters have an escape of one letter, and the cases come in that order.
  unfold Writer.escapeChar
  split
  · rfl
  · rfl
  · rfl
  · rfl
  · rfl
  · rfl
  · rfl
  · next noQuote noSlash _ _ _ _ _ =>
    split
    · next control =>
      -- Any other control character is written by its number, which is half of no pair.
      have small : c.toNat < 0x20 := control
      have spelled := number?_hexByte small
      have whole : (Spelled.ofChars cs).unit c.toNat = (Spelled.ofChars cs).char c := by
        have notHigh : ¬ 0xd800 ≤ c.toNat := by omega
        have notLow : ¬ 0xdc00 ≤ c.toNat := by omega
        simp [Spelled.unit, Spelled.ofChars, isHighSurrogate, isLowSurrogate, notHigh, notLow]
      rw [Writer.hexByte] at spelled ⊢
      simp only [List.cons_append, List.nil_append, stringFrom, spelled, Option.bind_eq_bind,
        Option.bind_some, whole]
    · next printed =>
      -- What is left stands for itself.
      rw [List.singleton_append, stringFrom, if_neg (not_or.2 ⟨printed, noSlash⟩)]
      · exact noQuote
      · intro _ _ _ _ _ same
        exact absurd same noSlash
      · intro _ _ same
        exact absurd same noSlash

/-- All characters that were written are read up to the closing quote. -/
theorem stringFrom_escaped (before after : List Char) (rest : List Char) :
    stringFrom (.ofChars before) (after.flatMap Writer.escapeChar ++ '"' :: rest) =
      some (some (String.ofList (before ++ after)), rest) := by
  -- The induction is on what is still to be read, with any characters read before.
  induction after generalizing before with
  | nil => simp [stringFrom, Spelled.ofChars, Spelled.text]
  | cons c after ih =>
    rw [List.flatMap_cons, List.append_assoc, stringFrom_escapeChar, ih, List.append_assoc,
      List.singleton_append]

/-- A string that was written is read behind its opening quote, be it half of a pair. -/
theorem stringFrom_string (s : Text) :
    ∃ body, Writer.string s = '"' :: body ∧
      ∀ rest, stringFrom {} (body ++ rest) = some (s, rest) := by
  -- Half of a pair is written as the escape of one, and read as half of a pair again.
  cases s with
  | none => exact ⟨_, rfl, fun _ => rfl⟩
  | some s =>
    refine ⟨s.toList.flatMap Writer.escapeChar ++ ['"'], rfl, fun rest => ?_⟩
    have read := stringFrom_escaped [] s.toList rest
    rw [List.nil_append, String.ofList_toList] at read
    rw [List.append_assoc, List.singleton_append]
    exact read

end Json.Reader

/-! Digits -/

namespace Decimal

/-- More digits only make a number larger. -/
theorem le_ofDigitChars (digits : List Char) (n : Nat) : n ≤ Nat.ofDigitChars 10 digits n := by
  -- What was there before is multiplied by ten for each digit.
  rw [Nat.ofDigitChars_eq_ofDigitChars_zero]
  have scaled : n ≤ 10 ^ digits.length * n := Nat.le_mul_of_pos_left n (Nat.pow_pos (by decide))
  omega

/-- One digit more is kept where sixty-four bits hold it. -/
theorem ofWhole_cons (significand : Nat) (digit : Char) (rest : List Char) :
    ofWhole significand (digit :: rest) =
      match extended? significand digit with
      | some longer => ofWhole longer rest
      | none => ⟨significand, rest.length + 1⟩ := by
  rfl

/-- Digits are all kept where sixty-four bits hold what they spell. -/
theorem ofWhole_eq {digits : List Char} {significand : Nat}
    (held : Nat.ofDigitChars 10 digits significand ≤ 0xffffffffffffffff) :
    ofWhole significand digits = ⟨Nat.ofDigitChars 10 digits significand, 0⟩ := by
  induction digits generalizing significand with
  | nil => rfl
  | cons digit rest ih =>
    rw [← List.singleton_append, Nat.ofDigitChars_append] at held ⊢
    -- The number that the first digits spell is no larger than that of all of them.
    have first := Nat.le_trans (le_ofDigitChars rest _) held
    have kept : extended? significand digit = some (Nat.ofDigitChars 10 [digit] significand) := by
      simp only [extended?, first, if_true]
    rw [List.singleton_append, ofWhole_cons, kept]
    exact ih held

end Decimal

namespace Json

namespace Reader

/-- Whether a text does not go on with the number in front of it. -/
def EndsNumber (rest : List Char) : Prop :=
  ∀ c ∈ rest.head?, c.isDigit = false ∧ c ≠ '.' ∧ c ≠ 'e' ∧ c ≠ 'E'

variable {cs behind rest : List Char}

/-! The parts of a number are read alike in front of anything that ends it -/

theorem digits?_append {digits : List Char} (read : digits? cs = some (digits, behind))
    (ends : EndsNumber rest) : digits? (cs ++ rest) = some (digits, behind ++ rest) := by
  -- No digit comes from the rest, so the digits end where they did.
  have kept : (cs ++ rest).takeWhile Char.isDigit = cs.takeWhile Char.isDigit ∧
      (cs ++ rest).dropWhile Char.isDigit = cs.dropWhile Char.isDigit ++ rest := by
    clear read
    induction cs with
    | nil =>
      cases rest with
      | nil => exact ⟨rfl, rfl⟩
      | cons c rest => simp [(ends c rfl).1]
    | cons c cs ih => by_cases digit : c.isDigit = true <;> simp [digit, ih]
  unfold digits? at read ⊢
  rw [kept.1, kept.2]
  cases first : cs.takeWhile Char.isDigit with
  | nil => simp only [first, reduceCtorEq] at read
  | cons d ds =>
    simp only [first, Option.some.injEq, Prod.mk.injEq] at read ⊢
    exact ⟨read.1, by rw [read.2]⟩

theorem whole?_append {whole : List Char} (read : whole? cs = some (whole, behind))
    (ends : EndsNumber rest) : whole? (cs ++ rest) = some (whole, behind ++ rest) := by
  unfold whole? at read
  split at read
  · cases read
    rfl
  · next noZero =>
    have all := digits?_append read ends
    -- There is a first digit, since digits were read, and it is no zero.
    cases cs with
    | nil => cases read
    | cons c cs =>
      rw [whole?]
      · exact all
      · rintro _ same
        cases same
        exact noZero _ rfl

/-- Where a number ends there is no point. -/
theorem fraction?_of_ends (ends : EndsNumber rest) : fraction? rest = some (none, rest) := by
  -- A point would have gone on with the number.
  cases rest with
  | nil => rfl
  | cons c rest =>
    rw [fraction?]
    rintro _ same
    cases same
    exact (ends '.' rfl).2.1 rfl

theorem fraction?_append {places : Option (List Char)}
    (read : fraction? cs = some (places, behind)) (ends : EndsNumber rest) :
    fraction? (cs ++ rest) = some (places, behind ++ rest) := by
  unfold fraction? at read
  split at read
  · obtain ⟨⟨digits, left⟩, found, same⟩ := Option.bind_eq_some_iff.1 read
    cases same
    rw [List.cons_append, fraction?, digits?_append found ends]
    rfl
  · next noPoint =>
    cases read
    -- A text without a first character leaves it to the rest, which has no point either.
    cases cs with
    | nil => exact fraction?_of_ends ends
    | cons c cs =>
      rw [List.cons_append, fraction?]
      rintro _ same
      cases same
      exact noPoint _ rfl

/-- Where a number ends there is no exponent. -/
theorem exponent?_of_ends (ends : EndsNumber rest) : exponent? rest = some (none, rest) := by
  -- Either of the two marks would have gone on with the number.
  cases rest with
  | nil => rfl
  | cons c rest =>
    obtain ⟨-, -, small, large⟩ := ends c rfl
    rw [exponent?.eq_def]
    simp only [small, large, or_self, if_false]

theorem signed?_append {n : Int} (read : signed? cs = some (n, behind)) (ends : EndsNumber rest) :
    signed? (cs ++ rest) = some (n, behind ++ rest) := by
  -- Digits are read up to the same place, whatever is made of them.
  have digits : ∀ {ds : List Char} {f : List Char → Int},
      ((digits? ds).map fun found => (f found.1, found.2)) = some (n, behind) →
      ((digits? (ds ++ rest)).map fun found => (f found.1, found.2)) =
        some (n, behind ++ rest) := by
    intro ds f given
    obtain ⟨⟨found, left⟩, first, same⟩ := Option.map_eq_some_iff.1 given
    cases same
    rw [digits?_append first ends]
    rfl
  unfold signed? at read
  split at read
  · exact @digits _ (fun ds => -(Nat.ofDigitChars 10 ds 0 : Int)) read
  · exact @digits _ (fun ds => Nat.ofDigitChars 10 ds 0) read
  · next noMinus noPlus =>
    -- There is a first digit, since digits were read, and it is no sign.
    cases cs with
    | nil => cases read
    | cons c cs =>
      rw [List.cons_append, signed?, ← List.cons_append]
      · exact @digits _ (fun ds => Nat.ofDigitChars 10 ds 0) read
      · rintro _ same
        cases same
        exact noMinus _ rfl
      · rintro _ same
        cases same
        exact noPlus _ rfl

theorem exponent?_append {exponent : Option Int}
    (read : exponent? cs = some (exponent, behind)) (ends : EndsNumber rest) :
    exponent? (cs ++ rest) = some (exponent, behind ++ rest) := by
  cases cs with
  | nil =>
    cases read
    exact exponent?_of_ends ends
  | cons c cs =>
    rw [List.cons_append]
    -- With a mark, the digits behind it are read alike; without one, nothing is read.
    by_cases mark : c = 'e' ∨ c = 'E'
    · rw [exponent?, if_pos mark] at read ⊢
      obtain ⟨⟨n, left⟩, found, same⟩ := Option.map_eq_some_iff.1 read
      cases same
      rw [signed?_append found ends]
      rfl
    · rw [exponent?, if_neg mark] at read ⊢
      cases read
      rfl

theorem magnitude?_append {negative : Bool} {n : Number}
    (read : magnitude? negative cs = some (n, behind)) (ends : EndsNumber rest) :
    magnitude? negative (cs ++ rest) = some (n, behind ++ rest) := by
  -- Each part leaves the same text to the next one, with the rest behind it.
  obtain ⟨⟨whole, afterWhole⟩, readWhole, more⟩ := Option.bind_eq_some_iff.1 read
  obtain ⟨⟨places, afterPlaces⟩, readPlaces, last⟩ := Option.bind_eq_some_iff.1 more
  obtain ⟨⟨exponent, after⟩, readExponent, same⟩ := Option.bind_eq_some_iff.1 last
  cases same
  simp only [magnitude?, whole?_append readWhole ends, fraction?_append readPlaces ends,
    exponent?_append readExponent ends, Option.bind_eq_bind, Option.bind_some, Option.pure_def]

theorem number?_append {n : Number} (read : number? cs = some (n, behind))
    (ends : EndsNumber rest) : number? (cs ++ rest) = some (n, behind ++ rest) := by
  unfold number? at read
  split at read
  · exact magnitude?_append read ends
  · next unsigned =>
    have all := magnitude?_append read ends
    -- A magnitude has a first character, which is no sign.
    cases cs with
    | nil => cases read
    | cons c cs =>
      rw [number?]
      · exact all
      · rintro _ same
        cases same
        exact unsigned _ rfl

/-- A text that is read as a number begins with a sign or a digit. -/
theorem eq_cons_of_number? {n : Number} (read : number? cs = some (n, behind)) :
    ∃ c rest, cs = c :: rest ∧ (c = '-' ∨ c.isDigit = true) := by
  unfold number? at read
  split at read
  · exact ⟨'-', _, rfl, .inl rfl⟩
  · -- Without a sign, a whole part of one digit at least comes first.
    obtain ⟨⟨whole, left⟩, found, -⟩ := Option.bind_eq_some_iff.1 read
    unfold whole? at found
    split at found
    · exact ⟨'0', _, rfl, .inr rfl⟩
    · cases cs with
      | nil => cases found
      | cons c rest =>
        refine ⟨c, rest, rfl, .inr ?_⟩
        cases digit : c.isDigit with
        | true => rfl
        | false => simp [digits?, digit] at found

/-! Integers -/

/-- A number begins with a digit, and only zero begins with a zero. -/
theorem toDigits_eq_cons (n : Nat) :
    ∃ d ds, Nat.toDigits 10 n = d :: ds ∧ d.isDigit = true ∧ (d = '0' → n = 0) := by
  -- The induction takes the last digit off, which leaves the first one as it is.
  induction n using Nat.strongRecOn with
  | ind n ih =>
    rw [Nat.toDigits_eq_if (by decide)]
    split
    · next small => exact ⟨_, [], rfl, by simpa [Nat.isDigit_digitChar] using small, by simp⟩
    · next large =>
      obtain ⟨d, ds, written, digit, zero⟩ := ih (n / 10) (by omega)
      refine ⟨d, _, by rw [written, List.cons_append], digit, fun same => ?_⟩
      have noTens := zero same
      omega

/-- The digits of a number are read as a whole part. -/
theorem whole?_toDigits (n : Nat) :
    whole? (Nat.toDigits 10 n) = some (Nat.toDigits 10 n, []) := by
  have all : ∀ c ∈ Nat.toDigits 10 n, c.isDigit = true :=
    fun c member => Nat.isDigit_of_mem_toDigits (by decide) (by decide) member
  have digits : digits? (Nat.toDigits 10 n) = some (Nat.toDigits 10 n, []) := by
    have taken := @List.takeWhile_append_of_pos _ _ _ [] all
    have dropped := @List.dropWhile_append_of_pos _ _ _ [] all
    rw [List.append_nil, List.takeWhile_nil, List.append_nil] at taken
    rw [List.append_nil, List.dropWhile_nil] at dropped
    rw [digits?, taken, dropped]
    split
    · next empty => exact absurd empty Nat.toDigits_ne_nil
    · rfl
  obtain ⟨d, ds, written, -, zero⟩ := toDigits_eq_cons n
  -- A leading zero is read on its own, and it is all that is written of the number.
  by_cases leading : d = '0'
  · cases zero leading
    rfl
  · rw [whole?, digits]
    rintro _ same
    rw [written] at same
    exact leading (List.cons.inj same).1

/-- An integer is read as its sign and its digits say. -/
theorem number?_integer (k : Int) :
    number? (Writer.integer k) =
      some (ofParts (k < 0) (Nat.toDigits 10 k.natAbs) none none, []) := by
  have magnitude : ∀ negative, magnitude? negative (Nat.toDigits 10 k.natAbs) =
      some (ofParts negative (Nat.toDigits 10 k.natAbs) none none, []) := by
    intro negative
    rw [magnitude?, whole?_toDigits]
    rfl
  rw [Writer.integer]
  by_cases negative : k < 0
  · rw [if_pos negative, List.singleton_append, number?, magnitude, decide_eq_true negative]
  · -- Without a sign, the first character is a digit and not taken for one.
    obtain ⟨d, ds, written, digit, -⟩ := toDigits_eq_cons k.natAbs
    rw [if_neg negative, List.nil_append, number?, magnitude, decide_eq_false negative]
    rintro _ same
    rw [written] at same
    cases (List.cons.inj same).1
    exact absurd digit (by decide)

end Reader

namespace Number

variable {spelling : Spelling}

/-- Whether a number is carried by its text: read alone, it is the number itself. -/
def Carried (spelling : Spelling) (n : Number) : Prop :=
  Reader.number? (Writer.number spelling n) = some (n, [])

instance (spelling : Spelling) (n : Number) : Decidable (n.Carried spelling) :=
  inferInstanceAs (Decidable (Reader.number? (Writer.number spelling n) = some (n, [])))

/-- A float whose shortest decimal, `7205759403792799.0`, is read as its lower neighbour: the reader
scales a significand that was rounded before. -/
example : ¬ (float false 4844071759199705503).Carried Writer.shortest := by
  decide +kernel

/-- Every integer of sixty-four bits is carried, be it signed or not, however floats are spelled. -/
theorem carried_integer {k : Int} (low : -0x8000000000000000 ≤ k)
    (high : k ≤ 0xffffffffffffffff) : (integer k).Carried spelling := by
  have held : k.natAbs ≤ 0xffffffffffffffff := by omega
  -- All digits are kept, so the integer is put together as it was.
  have kept : Decimal.ofWhole 0 (Nat.toDigits 10 k.natAbs) = ⟨k.natAbs, 0⟩ := by
    rw [Decimal.ofWhole_eq (by rwa [Nat.ofDigitChars_ten_toDigits]), Nat.ofDigitChars_ten_toDigits]
  have whole : Reader.integer (decide (k < 0)) k.natAbs = .integer k := by
    unfold Reader.integer
    by_cases negative : k < 0
    · -- A magnitude behind a sign is not zero and no larger than a signed one may be.
      have inside : ¬ (k.natAbs = 0 ∨ 0x8000000000000000 < k.natAbs) := by omega
      have value : -(k.natAbs : Int) = k := by omega
      simp only [negative, decide_true, Bool.not_true, Bool.false_eq_true, if_false, inside, value]
    · have value : (k.natAbs : Int) = k := by omega
      simp only [negative, decide_false, Bool.not_false, if_true, value]
  rw [Carried, Writer.number, Reader.number?_integer, Reader.ofParts, kept]
  simp only [Option.isNone_none, and_self, if_true, whole]

end Number

end Json

end Subscription
