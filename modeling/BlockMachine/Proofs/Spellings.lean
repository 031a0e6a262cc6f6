import BlockMachine.Limit
import BlockMachine.Proofs.Characters
import BlockMachine.Proofs.Doubles
import BlockMachine.Proofs.Trimming
import Mathlib.Data.List.TakeWhile
import Mathlib.Data.Nat.Digits.Defs
import Mathlib.Data.Rat.Floor

/-!
Whole numbers as they are written: an optional sign, and groups of digits of any
script with one underscore between two of them. A text reads as a whole number
when, without the white space around it, it is such a spelling of no more than
4300 digits, and it then reads as the number that is spelled. So a limit is the
same whether it is asked for as a number or in any spelling of it, and one with a
fraction is that of the whole number next to it on the side of zero.
-/

namespace BlockMachine.Number
open Float.Model

/-- Read from the first digit on, or weighed from the last one. -/
theorem ofDigits_eq_reverse (digits : List Nat) :
    ofDigits digits = Nat.ofDigits 10 digits.reverse := by
  rw [ofDigits, Nat.ofDigits_eq_foldr, List.foldr_reverse]
  congr 1
  funext value digit
  exact Nat.add_comm _ _

namespace Whole

theorem isDigit_underscore : Text.isDigit '_' = false := by decide

section Separated

theorem isDigit_of_separated {c : Char} {text : List Char}
    (apart : separated Text.isDigit (c :: text) = true) : Text.isDigit c = true := by
  unfold separated at apart
  split at apart
  · cases ‹c :: text = []›
  · next same =>
    cases same
    exact apart
  · next same =>
    cases same
    exact (Bool.and_eq_true_iff.1 apart).1
  · next same =>
    cases same
    exact (Bool.and_eq_true_iff.1 apart).1

theorem separated_cons {c : Char} {text : List Char} (digit : Text.isDigit c = true)
    (apart : separated Text.isDigit text = true) :
    separated Text.isDigit (c :: text) = true := by
  cases text with
  | nil => cases apart
  | cons next rest =>
    have noUnderscore : next ≠ '_' := by
      intro same
      have isDigit := isDigit_of_separated apart
      rw [same, isDigit_underscore] at isDigit
      cases isDigit
    simp [separated, noUnderscore, digit, apart]

end Separated

/-- One or more groups of digits, and something in each. -/
inductive Grouped : List (List Char) → Prop
  | last {group : List Char} (filled : group ≠ []) (digits : ∀ c ∈ group, Text.isDigit c = true) :
      Grouped [group]
  | cons {group : List Char} {groups : List (List Char)} (filled : group ≠ [])
      (digits : ∀ c ∈ group, Text.isDigit c = true) (rest : Grouped groups) :
      Grouped (group :: groups)

section Grouped

theorem separated_group {group : List Char} (filled : group ≠ [])
    (digits : ∀ c ∈ group, Text.isDigit c = true) :
    separated Text.isDigit group = true ∧ ∀ rest, separated Text.isDigit rest = true →
      separated Text.isDigit (group ++ '_' :: rest) = true := by
  induction group with
  | nil => exact absurd rfl filled
  | cons c group ih =>
    have digit := digits c List.mem_cons_self
    cases group with
    | nil =>
      refine ⟨digit, fun rest apart => ?_⟩
      rw [List.singleton_append, separated, digit, apart]
      rfl
    | cons next group =>
      obtain ⟨alone, followed⟩ := ih (by simp) fun d member => digits d (List.mem_cons_of_mem _ member)
      exact ⟨separated_cons digit alone, fun rest apart => separated_cons digit (followed rest apart)⟩

theorem Grouped.ne_nil {groups : List (List Char)} (grouped : Grouped groups) : groups ≠ [] := by
  cases grouped with
  | last => simp
  | cons => simp

theorem Grouped.intercalate_cons {groups : List (List Char)} (grouped : Grouped groups)
    (group : List Char) :
    List.intercalate ['_'] (group :: groups) = group ++ '_' :: List.intercalate ['_'] groups := by
  rw [List.intercalate_cons_of_ne_nil grouped.ne_nil, List.append_assoc, List.singleton_append]

theorem Grouped.separated {groups : List (List Char)} (grouped : Grouped groups) :
    separated Text.isDigit (List.intercalate ['_'] groups) = true := by
  induction grouped with
  | last filled digits =>
    rw [List.intercalate_singleton]
    exact (separated_group filled digits).1
  | cons filled digits rest ih =>
    rw [rest.intercalate_cons]
    exact (separated_group filled digits).2 _ ih

/-- A digit goes to the first of the groups behind it. -/
theorem Grouped.extend {c : Char} {groups : List (List Char)} (grouped : Grouped groups)
    (digit : Text.isDigit c = true) :
    ∃ more, Grouped more ∧
      List.intercalate ['_'] more = c :: List.intercalate ['_'] groups := by
  cases grouped with
  | @last group filled digits =>
    refine ⟨[c :: group], .last (by simp) (by simpa using ⟨digit, digits⟩), ?_⟩
    rw [List.intercalate_singleton, List.intercalate_singleton]
  | @cons group groups filled digits rest =>
    refine ⟨(c :: group) :: groups, .cons (by simp) (by simpa using ⟨digit, digits⟩) rest, ?_⟩
    rw [rest.intercalate_cons, rest.intercalate_cons]
    rfl

theorem exists_grouped {text : List Char} (apart : separated Text.isDigit text = true) :
    ∃ groups, Grouped groups ∧ text = List.intercalate ['_'] groups := by
  fun_induction separated Text.isDigit text with
  | case1 => cases apart
  | case2 c => exact ⟨[[c]], .last (by simp) (by simpa using apart), rfl⟩
  | case3 c rest ih =>
    obtain ⟨digit, behind⟩ := Bool.and_eq_true_iff.1 apart
    obtain ⟨groups, grouped, rfl⟩ := ih behind
    exact ⟨[c] :: groups, .cons (by simp) (by simpa using digit) grouped,
      (grouped.intercalate_cons [c]).symm⟩
  | case4 c rest _ _ ih =>
    obtain ⟨digit, behind⟩ := Bool.and_eq_true_iff.1 apart
    obtain ⟨groups, grouped, rfl⟩ := ih behind
    obtain ⟨more, larger, spelled⟩ := grouped.extend digit
    exact ⟨more, larger, spelled.symm⟩

theorem Grouped.isDigit {groups : List (List Char)} (grouped : Grouped groups) {c : Char}
    (member : c ∈ groups.flatten) : Text.isDigit c = true := by
  induction grouped with
  | last filled digits => exact digits c (by simpa using member)
  | cons filled digits rest ih =>
    rw [List.flatten_cons, List.mem_append] at member
    exact member.elim (digits c) ih

/-- The text holds the digits of the groups, in their order, and underscores. -/
theorem Grouped.mem_intercalate {groups : List (List Char)} (grouped : Grouped groups) {c : Char}
    (member : c ∈ List.intercalate ['_'] groups) : Text.isDigit c = true ∨ c = '_' := by
  induction grouped with
  | last filled digits =>
    rw [List.intercalate_singleton] at member
    exact .inl (digits c member)
  | cons filled digits rest ih =>
    rw [rest.intercalate_cons, List.mem_append, List.mem_cons] at member
    rcases member with inGroup | underscore | behind
    · exact .inl (digits c inGroup)
    · exact .inr underscore
    · exact ih behind

theorem Grouped.filterMap_digit? {groups : List (List Char)} (grouped : Grouped groups) :
    (List.intercalate ['_'] groups).filterMap Text.digit? =
      groups.flatten.filterMap Text.digit? := by
  have noDigit : Text.digit? '_' = none := by decide
  induction grouped with
  | last filled digits => rw [List.intercalate_singleton, List.flatten_singleton]
  | cons filled digits rest ih =>
    rw [rest.intercalate_cons, List.filterMap_append, List.filterMap_cons_none noDigit, ih,
      List.flatten_cons, List.filterMap_append]

end Grouped

/-- A whole number as it is written. -/
structure Spelling where
  sign : Option Sign
  groups : List (List Char)
  grouped : Grouped groups

namespace Spelling

def body (spelling : Spelling) : List Char :=
  List.intercalate ['_'] spelling.groups

def text (spelling : Spelling) : List Char :=
  spelling.sign.toList.map Sign.symbol ++ spelling.body

def digits (spelling : Spelling) : List Char :=
  spelling.groups.flatten

def isNegative (spelling : Spelling) : Bool :=
  spelling.sign == some .minus

/-- The last digit counts once, and each other ten times what the next one does. -/
def size (spelling : Spelling) : Nat :=
  Nat.ofDigits 10 (spelling.digits.filterMap Text.digit?).reverse

def value (spelling : Spelling) : Int :=
  if spelling.isNegative then -spelling.size else spelling.size

theorem length_filterMap_digits (spelling : Spelling) :
    (spelling.digits.filterMap Text.digit?).length = spelling.digits.length :=
  List.filterMap_length_eq_length.2 fun _ member => spelling.grouped.isDigit member

theorem isWhite_of_mem_text {spelling : Spelling} {c : Char} (member : c ∈ spelling.text) :
    Text.isWhite c = false := by
  rw [text, List.mem_append, List.mem_map] at member
  rcases member with ⟨sign, -, rfl⟩ | inBody
  · cases sign <;> decide
  · rcases spelling.grouped.mem_intercalate inBody with digit | rfl
    · exact (Bool.or_eq_false_iff.1 (Text.isBlank_of_isDigit digit)).1
    · decide

end Spelling

section Reading

theorem splitSign_of_separated {body : List Char} (apart : separated Text.isDigit body = true) :
    splitSign body = (false, body) := by
  unfold splitSign
  split
  · exact absurd (isDigit_of_separated apart) (by decide)
  · exact absurd (isDigit_of_separated apart) (by decide)
  · rfl

theorem Spelling.splitSign_text (spelling : Spelling) :
    splitSign spelling.text = (spelling.isNegative, spelling.body) := by
  obtain ⟨sign, groups, grouped⟩ := spelling
  cases sign with
  | none => exact splitSign_of_separated grouped.separated
  | some sign => cases sign <;> rfl

theorem exists_sign_of_splitSign (text : List Char) :
    ∃ sign : Option Sign, text = sign.toList.map Sign.symbol ++ (splitSign text).2 := by
  unfold splitSign
  split
  · exact ⟨some .minus, rfl⟩
  · exact ⟨some .plus, rfl⟩
  · exact ⟨none, rfl⟩

theorem Spelling.takeWhile_body (spelling : Spelling) :
    spelling.body.takeWhile isSpelling = spelling.body := by
  apply List.takeWhile_eq_self_iff.2
  intro c member
  rcases spelling.grouped.mem_intercalate member with digit | rfl
  · rw [isSpelling, digit, Bool.true_or]
  · rfl

/-- A spelling in white space reads as its number, unless it has too many digits. -/
theorem read_of_trims {text : List Char} {spelling : Spelling}
    (trims : Text.Trims Text.isWhite text spelling.text) :
    read text = if maxDigits < spelling.digits.length then .error (.tooLong spelling.digits.length)
      else .ok spelling.value := by
  have apart : separated Text.isDigit spelling.body = true := spelling.grouped.separated
  have figures : spelling.body.filterMap Text.digit? = spelling.digits.filterMap Text.digit? :=
    spelling.grouped.filterMap_digit?
  unfold read
  simp only [trims.trimBy_eq, spelling.splitSign_text, spelling.takeWhile_body, apart, figures,
    spelling.length_filterMap_digits, Nat.lt_irrefl, Bool.not_true, Bool.false_eq_true, if_false,
    ofDigits_eq_reverse]
  rfl

theorem exists_spelling_of_read {text : List Char} {n : Int} (known : read text = .ok n) :
    ∃ spelling : Spelling, Text.Trims Text.isWhite text spelling.text := by
  have trims := Text.trims_trimBy Text.isWhite text
  obtain ⟨sign, signed⟩ := exists_sign_of_splitSign (Text.trimBy Text.isWhite text)
  unfold read at known
  generalize splitSign (Text.trimBy Text.isWhite text) = parts at signed known
  simp only [Bool.not_eq_true', Bool.eq_false_iff] at known
  split at known
  · cases known
  split at known
  · cases known
  split at known
  · cases known
  next apart _ whole =>
  -- no character was left behind the digits, so they are all of the text behind the sign
  have all : parts.2.takeWhile isSpelling = parts.2 :=
    (List.takeWhile_prefix isSpelling).eq_of_length_le (Nat.le_of_not_lt whole)
  rw [all, ne_eq, Decidable.not_not] at apart
  obtain ⟨groups, grouped, spelled⟩ := exists_grouped apart
  rw [signed, spelled] at trims
  exact ⟨⟨sign, groups, grouped⟩, trims⟩

theorem read_eq_ok_iff (text : List Char) (n : Int) :
    read text = .ok n ↔ ∃ spelling : Spelling, Text.Trims Text.isWhite text spelling.text ∧
      spelling.digits.length ≤ maxDigits ∧ spelling.value = n := by
  constructor
  · intro known
    obtain ⟨spelling, trims⟩ := exists_spelling_of_read known
    rw [read_of_trims trims] at known
    split at known
    · cases known
    · next few =>
      cases known
      exact ⟨spelling, trims, Nat.le_of_not_lt few, rfl⟩
  · intro spelled
    obtain ⟨spelling, trims, few, rfl⟩ := spelled
    rw [read_of_trims trims, if_neg (Nat.not_lt.2 few)]

end Reading

section Decimals

/-- The digits of the usual script are those that numbers are written out in. -/
theorem digit?_of_isDigit {c : Char} (plain : c.isDigit = true) :
    Text.digit? c = some (c.toNat - '0'.toNat) := by
  have bounds : 48 ≤ c.toNat ∧ c.toNat ≤ 57 := by
    simpa [Char.isDigit, UInt32.le_iff_toNat_le] using plain
  rw [Text.digit?, Text.zeros, Text.distance?, if_neg (Nat.not_lt.2 bounds.1),
    if_pos (Nat.lt_succ_of_le bounds.2)]
  rfl

theorem filterMap_digit?_of_isDigit {digits : List Char} (plain : ∀ c ∈ digits, c.isDigit = true) :
    digits.filterMap Text.digit? = digits.map fun c => c.toNat - '0'.toNat := by
  rw [← List.filterMap_eq_map]
  exact List.filterMap_congr fun c member => digit?_of_isDigit (plain c member)

/-- Zeros in front of the digits of a number leave it as it is. -/
theorem Spelling.value_of_digits {spelling : Spelling} {n : Int} (zeros : Nat)
    (written : spelling.digits = List.replicate zeros '0' ++ Nat.toDigits 10 n.natAbs)
    (signed : spelling.isNegative = decide (n < 0)) : spelling.value = n := by
  have plain : ∀ c ∈ spelling.digits, c.isDigit = true := by
    intro c member
    rw [written, List.mem_append] at member
    rcases member with zero | digit
    · rw [List.eq_of_mem_replicate zero]
      rfl
    · exact Nat.isDigit_of_mem_toDigits (by decide) (by decide) digit
  have size : spelling.size = n.natAbs := by
    calc spelling.size
      _ = Nat.ofDigitChars 10 spelling.digits 0 := by
        rw [Spelling.size, ← ofDigits_eq_reverse, filterMap_digit?_of_isDigit plain, ofDigits,
          List.foldl_map, Nat.ofDigitChars_eq_foldl]
      _ = n.natAbs := by
        rw [written, Nat.ofDigitChars_append, Nat.ofDigitChars_replicate_zero, Nat.mul_zero,
          Nat.ofDigitChars_ten_toDigits]
  rw [Spelling.value, size, signed]
  by_cases below : n < 0
  · rw [if_pos (decide_eq_true below)]
    omega
  · rw [if_neg (by simpa using below)]
    omega

/-- The usual spelling of a number. -/
def Spelling.ofInt (n : Int) : Spelling where
  sign := if n < 0 then some .minus else none
  groups := [Nat.toDigits 10 n.natAbs]
  grouped := .last Nat.toDigits_ne_nil fun c member => by
    rw [Text.isDigit, digit?_of_isDigit (Nat.isDigit_of_mem_toDigits (by decide) (by decide) member)]
    rfl

theorem Spelling.digits_ofInt (n : Int) : (ofInt n).digits = Nat.toDigits 10 n.natAbs :=
  List.flatten_singleton

theorem Spelling.isNegative_ofInt (n : Int) : (ofInt n).isNegative = decide (n < 0) := by
  by_cases below : n < 0
  · simp [ofInt, isNegative, below]
  · simp [ofInt, isNegative, below]

theorem Spelling.text_ofInt (n : Int) : (ofInt n).text = (toString n).toList := by
  have body : (ofInt n).body = Nat.toDigits 10 n.natAbs := List.intercalate_singleton
  rw [text, body, Int.toString_eq_repr]
  cases n with
  | ofNat n =>
    rw [Int.repr, Nat.repr_eq_ofList_toDigits, String.toList_ofList]
    rfl
  | negSucc n =>
    rw [Int.repr, String.toList_append, Nat.repr_eq_ofList_toDigits, String.toList_ofList,
      String.toList_ofList]
    have below : Int.negSucc n < 0 := Int.negSucc_lt_zero n
    simp only [ofInt, if_pos below]
    rfl

end Decimals

end Whole

section Fractions

/-- The whole number next to a number, on the side of zero. -/
def towardZero (q : ℚ) : ℤ :=
  if 0 ≤ q then ⌊q⌋ else ⌈q⌉

theorem towardZero_of_nonneg {q : ℚ} (nonneg : 0 ≤ q) : towardZero q = ⌊q⌋ :=
  if_pos nonneg

theorem towardZero_neg {q : ℚ} (nonneg : 0 ≤ q) : towardZero (-q) = -towardZero q := by
  rw [towardZero_of_nonneg nonneg]
  rcases nonneg.eq_or_lt with rfl | positive
  · rw [neg_zero, towardZero_of_nonneg le_rfl, Int.floor_zero, neg_zero]
  · rw [towardZero, if_neg (by linarith), Int.ceil_neg]

theorem towardZero_div_two_pow (units e : Nat) :
    towardZero (units / 2 ^ e) = Int.ofNat (units / Nat.pow 2 e) := by
  have whole := Rat.floor_natCast_div_natCast units (2 ^ e)
  rw [Nat.cast_pow, Nat.cast_ofNat] at whole
  rw [towardZero_of_nonneg (by positivity), whole, Nat.pow_eq,
    Int.ofNat_eq_natCast, Int.natCast_ediv]

theorem valueOfWord_of_negative {word : Nat} (negative : isNegativeWord word = true) :
    valueOfWord word = -(unitsOfWord word / 2 ^ 1074) := by
  rw [valueOfWord, signOfWord, if_pos negative, UnpackedFloat.Sign.apply, Int.cast_neg,
    Int.cast_natCast, neg_div]

theorem truncate_eq_towardZero {x : Float} {q : ℚ} (known : rational? x = some q) :
    truncate x = towardZero q := by
  obtain ⟨-, rfl⟩ := (rational?_eq_some_iff x q).1 known
  unfold truncate
  cases signed : isNegativeWord x.toBits.toNat with
  | false =>
    rw [valueOfWord_of_unsigned ((isNegativeWord_eq_false_iff x.toBits.toNat_lt).1 signed)]
    generalize 1074 = e
    rw [towardZero_div_two_pow]
    exact if_neg (Bool.eq_false_iff.1 signed)
  | true =>
    rw [valueOfWord_of_negative signed, towardZero_neg (by positivity)]
    generalize 1074 = e
    rw [towardZero_div_two_pow]
    exact if_pos signed

theorem isNaN_of_rational? {x : Float} {q : ℚ} (known : rational? x = some q) :
    x.isNaN = false ∧ x.isInf = false := by
  unfold rational? at known
  unfold Float.isNaN Float.Model.isNaN Float.isInf Float.Model.isInf
  cases unpacked : x.toModel.unpack with
  | notANumber =>
    rw [unpacked] at known
    cases known
  | infinity sign =>
    rw [unpacked] at known
    cases known
  | zero sign => exact ⟨rfl, rfl⟩
  | finite sign m e positive => exact ⟨rfl, rfl⟩

end Fractions

end BlockMachine.Number

namespace BlockMachine.Limit
open Number Number.Whole

theorem cap_asked (ceiling : Int) (value : Json) :
    cap ceiling [("max_blocks", value)] =
      (wholeOfJson value).map fun requested => max 0 (min requested ceiling) := by
  simp [cap]

theorem wholeOfText_eq_ok_iff (text : String) (n : Int) :
    wholeOfText text = .ok n ↔ Whole.read text.toList = .ok n := by
  unfold wholeOfText
  split
  · next known =>
    rw [known, Except.ok.injEq, Except.ok.injEq]
  · next known => simp [known]
  · next known => simp [known]

theorem cap_text_eq_ok_iff (ceiling : Int) (text : String) (limit : Int) :
    cap ceiling [("max_blocks", .text text)] = .ok limit ↔
      ∃ spelling : Spelling, Text.Trims Text.isWhite text.toList spelling.text ∧
        spelling.digits.length ≤ maxDigits ∧ limit = max 0 (min spelling.value ceiling) := by
  rw [cap_asked, wholeOfJson]
  constructor
  · intro capped
    cases asked : wholeOfText text with
    | error fault =>
      rw [asked] at capped
      cases capped
    | ok n =>
      rw [asked] at capped
      cases capped
      obtain ⟨spelling, trims, few, rfl⟩ :=
        (read_eq_ok_iff _ _).1 ((wholeOfText_eq_ok_iff text n).1 asked)
      exact ⟨spelling, trims, few, rfl⟩
  · intro spelled
    obtain ⟨spelling, trims, few, rfl⟩ := spelled
    have known := (read_eq_ok_iff _ _).2 ⟨spelling, trims, few, rfl⟩
    rw [(wholeOfText_eq_ok_iff text spelling.value).2 known]
    rfl

theorem cap_whole (ceiling n : Int) :
    cap ceiling [("max_blocks", .whole n)] = .ok (max 0 (min n ceiling)) := by
  rw [cap_asked]
  rfl

/-- A spelling between white space asks for what its number asks for. -/
theorem cap_spelling (ceiling : Int) {spelling : Spelling} {before after : List Char}
    (front : ∀ c ∈ before, Text.isWhite c = true) (back : ∀ c ∈ after, Text.isWhite c = true)
    (few : spelling.digits.length ≤ maxDigits) :
    cap ceiling [("max_blocks", .text (String.ofList (before ++ (spelling.text ++ after))))] =
      cap ceiling [("max_blocks", .whole spelling.value)] := by
  rw [cap_whole, cap_text_eq_ok_iff, String.toList_ofList]
  exact ⟨spelling, Text.trims_of_kept front back fun c => Spelling.isWhite_of_mem_text, few, rfl⟩

theorem cap_toString (ceiling : Int) {n : Int}
    (few : (Nat.toDigits 10 n.natAbs).length ≤ maxDigits) :
    cap ceiling [("max_blocks", .text (toString n))] = cap ceiling [("max_blocks", .whole n)] := by
  have digits := Spelling.digits_ofInt n
  have value : (Spelling.ofInt n).value = n :=
    Spelling.value_of_digits 0 digits (Spelling.isNegative_ofInt n)
  have alone : toString n = String.ofList ([] ++ ((Spelling.ofInt n).text ++ [])) := by
    rw [Spelling.text_ofInt, List.nil_append, List.append_nil, String.ofList_toList]
  rw [alone, cap_spelling ceiling (by simp) (by simp) (by rw [digits]; exact few), value]

theorem cap_real (ceiling : Int) {x : Float} {q : ℚ} (known : rational? x = some q) :
    cap ceiling [("max_blocks", .real x)] = cap ceiling [("max_blocks", .whole (towardZero q))] := by
  obtain ⟨number, bounded⟩ := isNaN_of_rational? known
  rw [cap_whole, cap_asked, wholeOfJson, number, bounded, truncate_eq_towardZero known]
  rfl

/-- A limit means the same however it is spelled. A text asks for one when, without the white space
around it, it spells a whole number in no more than 4300 digits; the limit is that number, brought
between zero and the ceiling. Zeros in front, underscores between digits and white space around
change nothing, and of a number with a fraction the part on the side of zero counts. -/
theorem cap_same_however_spelled (ceiling : Int) :
    (∀ (text : String) (limit : Int), cap ceiling [("max_blocks", .text text)] = .ok limit ↔
      ∃ spelling : Spelling, Text.Trims Text.isWhite text.toList spelling.text ∧
        spelling.digits.length ≤ 4300 ∧ limit = max 0 (min spelling.value ceiling)) ∧
    (∀ n : Int, cap ceiling [("max_blocks", .whole n)] = .ok (max 0 (min n ceiling))) ∧
    (∀ (n : Int) (zeros : Nat) (spelling : Spelling) (before after : List Char),
      spelling.digits = List.replicate zeros '0' ++ Nat.toDigits 10 n.natAbs →
      spelling.isNegative = decide (n < 0) → spelling.digits.length ≤ 4300 →
      (∀ c ∈ before, Text.isWhite c = true) → (∀ c ∈ after, Text.isWhite c = true) →
      cap ceiling [("max_blocks", .text (String.ofList (before ++ (spelling.text ++ after))))] =
        cap ceiling [("max_blocks", .whole n)]) ∧
    (∀ n : Int, (Nat.toDigits 10 n.natAbs).length ≤ 4300 →
      cap ceiling [("max_blocks", .text (toString n))] = cap ceiling [("max_blocks", .whole n)]) ∧
    (∀ (x : Float) (q : ℚ), rational? x = some q →
      cap ceiling [("max_blocks", .real x)] =
        cap ceiling [("max_blocks", .whole (towardZero q))]) := by
  refine ⟨cap_text_eq_ok_iff ceiling, cap_whole ceiling, ?_, fun n few => cap_toString ceiling few,
    fun x q known => cap_real ceiling known⟩
  intro n zeros spelling before after written signed few front back
  rw [cap_spelling ceiling front back few, Spelling.value_of_digits zeros written signed]

/-- Zeros, an underscore and white space around forty-two, and two and a half. -/
theorem padded_and_fractional_granted :
    cap 100 [("max_blocks", .text "\t+004_2 ")] = .ok 42 ∧
      cap 100 [("max_blocks", .text (toString (-7 : Int)))] = .ok 0 ∧
      cap 100 [("max_blocks", .real (ofWord 0x4004000000000000))] = .ok 2 := by
  obtain ⟨-, whole, padded, plain, real⟩ := cap_same_however_spelled 100
  have grouped : Grouped [['0', '0', '4'], ['2']] :=
    .cons (by simp) (List.all_eq_true.1 (by decide)) (.last (by simp) (List.all_eq_true.1 (by decide)))
  refine ⟨?_, ?_, ?_⟩
  · exact (padded 42 2 ⟨some .plus, _, grouped⟩ ['\t'] [' '] rfl rfl (show 4 ≤ 4300 by decide)
      (List.all_eq_true.1 (by decide)) (List.all_eq_true.1 (by decide))).trans (whole 42)
  · exact (plain (-7) (by decide)).trans (whole (-7))
  · have bits : 0x4004000000000000 < infinityWord := by decide
    have half : towardZero (valueOfWord 0x4004000000000000) = 2 := by
      rw [valueOfWord_of_unsigned (by decide), towardZero_div_two_pow]
      decide +kernel
    rw [real _ _ (rational?_ofWord bits), half]
    exact whole 2

/-- The information separators are blanks, and yet no white space around a number. -/
theorem information_separator_kept :
    (∃ spelling : Spelling, Text.Trims Text.isBlank "\x1f5".toList spelling.text ∧
      spelling.digits.length ≤ 4300 ∧ max 0 (min spelling.value 10000) = 5) ∧
    cap 10000 [("max_blocks", .text "\x1f5")] = .error (.malformed "\x1f5") := by
  have five : (Spelling.ofInt 5).value = 5 :=
    Spelling.value_of_digits 0 (Spelling.digits_ofInt 5) (Spelling.isNegative_ofInt 5)
  have solid : (Spelling.ofInt 5).text.all (fun c => !Text.isBlank c) = true := by decide
  have trims : Text.Trims Text.isBlank (['\x1f'] ++ ((Spelling.ofInt 5).text ++ []))
      (Spelling.ofInt 5).text :=
    Text.trims_of_kept (List.all_eq_true.1 (by decide)) (by simp)
      fun c member => by simpa using List.all_eq_true.1 solid c member
  exact ⟨⟨Spelling.ofInt 5, trims, by decide, by rw [five]; rfl⟩, by decide⟩

end BlockMachine.Limit
