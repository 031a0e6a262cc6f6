import BlockMachine.Formula.Reader
import BlockMachine.Text.Blank

/-!
The classes of characters that formulas are made of do not overlap: letters are
no digits, neither of them are blanks, and neither letters nor digits nor the
point are operators or parentheses. So a number or a name ends where the next
operator or parenthesis stands, and its first character tells which of the two
it is.
-/

namespace BlockMachine

def Sign.symbol : Sign → Char
  | .plus => '+'
  | .minus => '-'

def Scale.symbol : Scale → Char
  | .times => '*'
  | .over => '/'

namespace Text

theorem mem_of_distance? {table : List Nat} {point value : Nat}
    (found : distance? table point = some value) :
    ∃ start ∈ table, start ≤ point ∧ point ≤ start + 9 := by
  induction table with
  | nil => simp [distance?] at found
  | cons first rest ih =>
    unfold distance? at found
    split at found
    · simp at found
    · next late =>
      split at found
      · exact ⟨first, List.mem_cons_self, by omega, by omega⟩
      · obtain ⟨start, member, bounds⟩ := ih found
        exact ⟨start, List.mem_cons_of_mem _ member, bounds⟩

/-- No range of one table meets a range of the other. -/
def Ranges.apart (left right : List (Nat × Nat)) : Bool :=
  left.all fun range => right.all fun other => range.2.blt other.1 || other.2.blt range.1

theorem Ranges.not_mem_of_apart {left right : List (Nat × Nat)} {point : Nat}
    (disjoint : apart left right = true)
    (inLeft : ∃ range ∈ left, range.1 ≤ point ∧ point ≤ range.2) :
    ¬∃ range ∈ right, range.1 ≤ point ∧ point ≤ range.2 := by
  rintro ⟨other, inRight, above, below⟩
  obtain ⟨range, member, low, high⟩ := inLeft
  have noOverlap := List.all_eq_true.1 (List.all_eq_true.1 disjoint range member) other inRight
  simp only [Bool.or_eq_true, Nat.blt_eq] at noOverlap
  omega

/-- The digits as ranges, one for each script. -/
def digits : List (Nat × Nat) :=
  zeros.map fun start => (start, start + 9)

/-- The blanks as ranges: white space, and the information separators. -/
def blanks : List (Nat × Nat) :=
  (0x1C, 0x1F) :: whites

theorem exists_range_of_isLetter {c : Char} (letter : isLetter c = true) :
    ∃ range ∈ letters, range.1 ≤ c.toNat ∧ c.toNat ≤ range.2 :=
  (Ranges.covers_iff c.toNat letters_ascending).1 letter

theorem exists_range_of_isDigit {c : Char} (digit : isDigit c = true) :
    ∃ range ∈ digits, range.1 ≤ c.toNat ∧ c.toNat ≤ range.2 := by
  obtain ⟨value, found⟩ := Option.isSome_iff_exists.1 digit
  obtain ⟨start, member, bounds⟩ := mem_of_distance? found
  exact ⟨(start, start + 9), List.mem_map_of_mem member, bounds⟩

theorem exists_range_of_isBlank {c : Char} (blank : isBlank c = true) :
    ∃ range ∈ blanks, range.1 ≤ c.toNat ∧ c.toNat ≤ range.2 := by
  rw [isBlank, Bool.or_eq_true] at blank
  rcases blank with white | separator
  · obtain ⟨range, member, bounds⟩ := (Ranges.covers_iff c.toNat whites_ascending).1 white
    exact ⟨range, List.mem_cons_of_mem _ member, bounds⟩
  · simp only [isInformationSeparator, Bool.and_eq_true, decide_eq_true_eq] at separator
    exact ⟨(0x1C, 0x1F), List.mem_cons_self, separator⟩

theorem letters_apart_digits : Ranges.apart letters digits = true := by
  decide +kernel

theorem letters_apart_blanks : Ranges.apart letters blanks = true := by
  decide +kernel

theorem digits_apart_blanks : Ranges.apart digits blanks = true := by
  decide +kernel

theorem isDigit_of_isLetter {c : Char} (letter : isLetter c = true) : isDigit c = false := by
  rw [Bool.eq_false_iff]
  intro digit
  exact Ranges.not_mem_of_apart letters_apart_digits (exists_range_of_isLetter letter)
    (exists_range_of_isDigit digit)

theorem isBlank_of_isLetter {c : Char} (letter : isLetter c = true) : isBlank c = false := by
  rw [Bool.eq_false_iff]
  intro blank
  exact Ranges.not_mem_of_apart letters_apart_blanks (exists_range_of_isLetter letter)
    (exists_range_of_isBlank blank)

theorem isBlank_of_isDigit {c : Char} (digit : isDigit c = true) : isBlank c = false := by
  rw [Bool.eq_false_iff]
  intro blank
  exact Ranges.not_mem_of_apart digits_apart_blanks (exists_range_of_isDigit digit)
    (exists_range_of_isBlank blank)

theorem isBlank_of_isNameChar {c : Char} (inName : isNameChar c = true) : isBlank c = false := by
  rw [isNameChar, Bool.or_eq_true] at inName
  rcases inName with letter | digit
  · exact isBlank_of_isLetter letter
  · exact isBlank_of_isDigit digit

/-- The characters of numbers and of names. -/
def isSpelling (c : Char) : Bool :=
  isNumeral c || isNameChar c

theorem isSpelling_of_isNumeral {c : Char} (numeral : isNumeral c = true) :
    isSpelling c = true := by
  simp [isSpelling, numeral]

theorem isSpelling_of_isNameChar {c : Char} (inName : isNameChar c = true) :
    isSpelling c = true := by
  simp [isSpelling, inName]

theorem isNameChar_of_isLetter {c : Char} (letter : isLetter c = true) : isNameChar c = true := by
  simp [isNameChar, letter]

theorem isNumeral_of_isLetter {c : Char} (letter : isLetter c = true) : isNumeral c = false := by
  have noPoint : c ≠ '.' := by
    rintro rfl
    exact absurd letter (by decide)
  simp [isNumeral, isDigit_of_isLetter letter, noPoint]

theorem isSpelling_sign (sign : Sign) : isSpelling sign.symbol = false := by
  cases sign <;> decide

theorem isSpelling_scale (scale : Scale) : isSpelling scale.symbol = false := by
  cases scale <;> decide

theorem isSpelling_open : isSpelling '(' = false := by decide

theorem isSpelling_close : isSpelling ')' = false := by decide

end Text

namespace Formula
open Text

theorem sign?_symbol (sign : Sign) : sign? sign.symbol = some sign := by
  cases sign <;> rfl

theorem sign_symbol_inj {sign other : Sign} (same : sign.symbol = other.symbol) : sign = other := by
  have found := sign?_symbol sign
  rw [same, sign?_symbol] at found
  exact (Option.some.inj found).symm

theorem scale?_symbol (scale : Scale) : scale? scale.symbol = some scale := by
  cases scale <;> rfl

theorem scale_symbol_inj {scale other : Scale} (same : scale.symbol = other.symbol) :
    scale = other := by
  have found := scale?_symbol scale
  rw [same, scale?_symbol] at found
  exact (Option.some.inj found).symm

theorem sign?_scale (scale : Scale) : sign? scale.symbol = none := by
  cases scale <;> rfl

theorem eq_symbol_of_sign? {c : Char} {sign : Sign} (found : sign? c = some sign) :
    c = sign.symbol := by
  unfold sign? at found
  split at found
  · next plus => cases found; exact plus
  · split at found
    · next minus => cases found; exact minus
    · cases found

theorem eq_symbol_of_scale? {c : Char} {scale : Scale} (found : scale? c = some scale) :
    c = scale.symbol := by
  unfold scale? at found
  split at found
  · next times => cases found; exact times
  · split at found
    · next slash => cases found; exact slash
    · cases found

theorem sign?_of_isSpelling {c : Char} (spelling : isSpelling c = true) : sign? c = none := by
  cases found : sign? c with
  | none => rfl
  | some sign =>
    rw [eq_symbol_of_sign? found, isSpelling_sign] at spelling
    cases spelling

theorem ne_open_of_isSpelling {c : Char} (spelling : isSpelling c = true) : c ≠ '(' := by
  rintro rfl
  rw [isSpelling_open] at spelling
  cases spelling

end Formula

end BlockMachine
