import BlockMachine.Text.Ranges

/-!
White space and blanks. White space is the separators and line breaks of every
script; the blanks of formulas and lists of names are white space and the four
information separators. A text is either squeezed, losing every blank, or
trimmed at its two ends.
-/

namespace BlockMachine.Text

def whites : List (Nat × Nat) :=
  [(0x9, 0xD), (0x20, 0x20), (0x85, 0x85), (0xA0, 0xA0), (0x1680, 0x1680), (0x2000, 0x200A),
   (0x2028, 0x2029), (0x202F, 0x202F), (0x205F, 0x205F), (0x3000, 0x3000)]

theorem whites_ascending : Ranges.ascending 0 whites = true := by decide

def isWhite (c : Char) : Bool :=
  Ranges.covers whites c.toNat

def isInformationSeparator (c : Char) : Bool :=
  0x1C ≤ c.toNat && c.toNat ≤ 0x1F

def isBlank (c : Char) : Bool :=
  isWhite c || isInformationSeparator c

def squeeze (text : List Char) : List Char :=
  text.filter (fun c => !isBlank c)

theorem squeeze_append (left right : List Char) :
    squeeze (left ++ right) = squeeze left ++ squeeze right := by
  simp [squeeze]

theorem squeeze_eq_self {text : List Char} (solid : ∀ c ∈ text, isBlank c = false) :
    squeeze text = text := by
  rw [squeeze, List.filter_eq_self]
  intro c member
  simp [solid c member]

theorem isBlank_of_mem_squeeze {text : List Char} {c : Char} (member : c ∈ squeeze text) :
    isBlank c = false := by
  simpa using (List.mem_filter.1 member).2

/-- Drops the characters of one class at both ends. -/
def trimBy (drop : Char → Bool) (text : List Char) : List Char :=
  ((text.dropWhile drop).reverse.dropWhile drop).reverse

def trim (text : List Char) : List Char :=
  trimBy isBlank text

end BlockMachine.Text
