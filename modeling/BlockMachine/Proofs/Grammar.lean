import BlockMachine.Proofs.Characters

/-!
The grammar of formulas, and its derivations as trees:

    expression := term (('+' | '-') term)*
    term       := factor (('*' | '/') factor)*
    factor     := ('+' | '-') factor | '(' expression ')' | number | identifier

A chain is a first member and the list of what follows it. The text of a
derivation is read off its leaves; a meaning is computed along its nodes, every
chain from left to right. No text has two derivations.
-/

namespace BlockMachine.Grammar
open Formula

/-- A run of digits and points with at most one point and at least one digit. -/
structure Numeral where
  spelled : List Char
  numeric : ∀ c ∈ spelled, Text.isNumeral c = true
  wellFormed : spelled.count '.' ≤ 1 ∧ ∃ c ∈ spelled, Text.isDigit c = true

/-- A letter, then letters and digits. -/
structure Identifier where
  first : Char
  rest : List Char
  letter : Text.isLetter first = true
  continued : ∀ c ∈ rest, Text.isNameChar c = true

def Numeral.value (numeral : Numeral) : Float :=
  (Number.Literal.decimal numeral.spelled).toFloat

def Identifier.spelled (identifier : Identifier) : List Char :=
  identifier.first :: identifier.rest

def Identifier.name (identifier : Identifier) : String :=
  String.ofList identifier.spelled

theorem Identifier.inName (identifier : Identifier) :
    ∀ c ∈ identifier.spelled, Text.isNameChar c = true := by
  intro c member
  rcases List.mem_cons.1 member with first | later
  · rw [first]
    exact Text.isNameChar_of_isLetter identifier.letter
  · exact identifier.continued c later

mutual

inductive Expression
  | mk (first : Term) (rest : Summands)

inductive Summands
  | none
  | more (sign : Sign) (term : Term) (rest : Summands)

inductive Term
  | mk (first : Factor) (rest : Factors)

inductive Factors
  | none
  | more (scale : Scale) (factor : Factor) (rest : Factors)

inductive Factor
  | signed (sign : Sign) (factor : Factor)
  | enclosed (inner : Expression)
  | number (numeral : Numeral)
  | name (identifier : Identifier)

end

mutual

def Expression.text : Expression → List Char
  | .mk first rest => first.text ++ rest.text

def Summands.text : Summands → List Char
  | .none => []
  | .more sign term rest => sign.symbol :: (term.text ++ rest.text)

def Term.text : Term → List Char
  | .mk first rest => first.text ++ rest.text

def Factors.text : Factors → List Char
  | .none => []
  | .more scale factor rest => scale.symbol :: (factor.text ++ rest.text)

def Factor.text : Factor → List Char
  | .signed sign factor => sign.symbol :: factor.text
  | .enclosed inner => '(' :: (inner.text ++ [')'])
  | .number numeral => numeral.spelled
  | .name identifier => identifier.spelled

end

/-- What the leaves and the rules of the grammar stand for. -/
structure Meaning (α : Type) where
  number : Numeral → α
  name : Identifier → α
  signed : Sign → α → α
  enclosed : α → α
  added : α → Sign → α → α
  scaled : α → Scale → α → α

mutual

def Expression.interpret {α : Type} (m : Meaning α) : Expression → α
  | .mk first rest => rest.interpret m (first.interpret m)

/-- Adds the members of a chain to the total so far, the nearest one first. -/
def Summands.interpret {α : Type} (m : Meaning α) (total : α) : Summands → α
  | .none => total
  | .more sign term rest => rest.interpret m (m.added total sign (term.interpret m))

def Term.interpret {α : Type} (m : Meaning α) : Term → α
  | .mk first rest => rest.interpret m (first.interpret m)

def Factors.interpret {α : Type} (m : Meaning α) (product : α) : Factors → α
  | .none => product
  | .more scale factor rest => rest.interpret m (m.scaled product scale (factor.interpret m))

def Factor.interpret {α : Type} (m : Meaning α) : Factor → α
  | .signed sign factor => m.signed sign (factor.interpret m)
  | .enclosed inner => m.enclosed (inner.interpret m)
  | .number numeral => m.number numeral
  | .name identifier => m.name identifier

end

namespace Meaning

def value (read : String → Float) : Meaning Float where
  number := Numeral.value
  name identifier := read identifier.name
  signed
    | .plus, x => x
    | .minus, x => -x
  enclosed x := x
  added
    | x, .plus, y => x + y
    | x, .minus, y => x - y
  scaled
    | x, .times, y => x * y
    | x, .over, y => x / y

def formula : Meaning Formula where
  number numeral := .number numeral.value
  name identifier := .named identifier.name
  signed := .signed
  enclosed inner := inner
  added := .added
  scaled := .scaled

/-- The identifiers in the text, from left to right. -/
def names : Meaning (List String) where
  number _ := []
  name identifier := [identifier.name]
  signed _ operand := operand
  enclosed inner := inner
  added left _ right := left ++ right
  scaled left _ right := left ++ right

/-- The largest cost of the parentheses and signs around a node: three and one each. -/
def nesting : Meaning Nat where
  number _ := 0
  name _ := 0
  signed _ operand := operand + 1
  enclosed inner := inner + 3
  added left _ right := max left right
  scaled left _ right := max left right

end Meaning

/-- The map takes what one meaning makes of a rule to what the other makes of it. -/
structure Meaning.Hom {α β : Type} (m : Meaning α) (n : Meaning β) (f : α → β) : Prop where
  number : ∀ numeral, f (m.number numeral) = n.number numeral
  name : ∀ identifier, f (m.name identifier) = n.name identifier
  signed : ∀ sign x, f (m.signed sign x) = n.signed sign (f x)
  enclosed : ∀ x, f (m.enclosed x) = n.enclosed (f x)
  added : ∀ x sign y, f (m.added x sign y) = n.added (f x) sign (f y)
  scaled : ∀ x scale y, f (m.scaled x scale y) = n.scaled (f x) scale (f y)

section
variable {α β : Type} {m : Meaning α} {n : Meaning β} {f : α → β}

mutual

theorem Expression.map_interpret (hom : m.Hom n f) (e : Expression) :
    f (e.interpret m) = e.interpret n := by
  cases e with
  | mk first rest =>
    rw [Expression.interpret, Expression.interpret, rest.map_interpret hom, first.map_interpret hom]

theorem Summands.map_interpret (hom : m.Hom n f) (summands : Summands) (total : α) :
    f (summands.interpret m total) = summands.interpret n (f total) := by
  cases summands with
  | none => rfl
  | more sign term rest =>
    rw [Summands.interpret, Summands.interpret, rest.map_interpret hom, hom.added,
      term.map_interpret hom]

theorem Term.map_interpret (hom : m.Hom n f) (t : Term) : f (t.interpret m) = t.interpret n := by
  cases t with
  | mk first rest =>
    rw [Term.interpret, Term.interpret, rest.map_interpret hom, first.map_interpret hom]

theorem Factors.map_interpret (hom : m.Hom n f) (factors : Factors) (product : α) :
    f (factors.interpret m product) = factors.interpret n (f product) := by
  cases factors with
  | none => rfl
  | more scale factor rest =>
    rw [Factors.interpret, Factors.interpret, rest.map_interpret hom, hom.scaled,
      factor.map_interpret hom]

theorem Factor.map_interpret (hom : m.Hom n f) (factor : Factor) :
    f (factor.interpret m) = factor.interpret n := by
  cases factor with
  | signed sign operand =>
    rw [Factor.interpret, Factor.interpret, hom.signed, operand.map_interpret hom]
  | enclosed inner =>
    rw [Factor.interpret, Factor.interpret, hom.enclosed, inner.map_interpret hom]
  | number numeral => exact hom.number numeral
  | name identifier => exact hom.name identifier

end

end

/-- The tree of a formula has the value of the derivation it was built along. -/
theorem Expression.value_formula (read : String → Float) (e : Expression) :
    (e.interpret .formula).value read = e.interpret (.value read) := by
  apply e.map_interpret
  constructor
  · intro numeral
    rfl
  · intro identifier
    rfl
  · intro sign operand
    cases sign <;> rfl
  · intro inner
    rfl
  · intro left sign right
    cases sign <;> rfl
  · intro left scale right
    cases scale <;> rfl

def Summands.append : Summands → Sign → Term → Summands
  | .none, sign, term => .more sign term .none
  | .more before first rest, sign, term => .more before first (rest.append sign term)

def Factors.append : Factors → Scale → Factor → Factors
  | .none, scale, factor => .more scale factor .none
  | .more before first rest, scale, factor => .more before first (rest.append scale factor)

/-- A sum carried on by one more term. -/
def Expression.add : Expression → Sign → Term → Expression
  | .mk first rest, sign, term => .mk first (rest.append sign term)

def Term.scale : Term → Scale → Factor → Term
  | .mk first rest, scale, factor => .mk first (rest.append scale factor)

theorem Summands.text_append (summands : Summands) (sign : Sign) (term : Term) :
    (summands.append sign term).text = summands.text ++ sign.symbol :: term.text := by
  cases summands with
  | none => simp [Summands.append, Summands.text]
  | more before first rest => simp [Summands.append, Summands.text, rest.text_append sign term]

theorem Factors.text_append (factors : Factors) (scale : Scale) (factor : Factor) :
    (factors.append scale factor).text = factors.text ++ scale.symbol :: factor.text := by
  cases factors with
  | none => simp [Factors.append, Factors.text]
  | more before first rest => simp [Factors.append, Factors.text, rest.text_append scale factor]

theorem Expression.text_add (e : Expression) (sign : Sign) (term : Term) :
    (e.add sign term).text = e.text ++ sign.symbol :: term.text := by
  cases e with
  | mk first rest => simp [Expression.add, Expression.text, rest.text_append]

theorem Term.text_scale (t : Term) (scale : Scale) (factor : Factor) :
    (t.scale scale factor).text = t.text ++ scale.symbol :: factor.text := by
  cases t with
  | mk first rest => simp [Term.scale, Term.text, rest.text_append]

theorem Summands.interpret_append {α : Type} (m : Meaning α) (summands : Summands) (sign : Sign)
    (term : Term) (total : α) :
    (summands.append sign term).interpret m total =
      m.added (summands.interpret m total) sign (term.interpret m) := by
  cases summands with
  | none => rfl
  | more before first rest => exact rest.interpret_append m sign term _

theorem Factors.interpret_append {α : Type} (m : Meaning α) (factors : Factors) (scale : Scale)
    (factor : Factor) (product : α) :
    (factors.append scale factor).interpret m product =
      m.scaled (factors.interpret m product) scale (factor.interpret m) := by
  cases factors with
  | none => rfl
  | more before first rest => exact rest.interpret_append m scale factor _

theorem Expression.interpret_add {α : Type} (m : Meaning α) (e : Expression) (sign : Sign)
    (term : Term) :
    (e.add sign term).interpret m = m.added (e.interpret m) sign (term.interpret m) := by
  cases e with
  | mk first rest => exact rest.interpret_append m sign term _

theorem Term.interpret_scale {α : Type} (m : Meaning α) (t : Term) (scale : Scale)
    (factor : Factor) :
    (t.scale scale factor).interpret m = m.scaled (t.interpret m) scale (factor.interpret m) := by
  cases t with
  | mk first rest => exact rest.interpret_append m scale factor _

/-- The characters that carry on a formula of a level, right behind a complete one. -/
def continues : Level → Char → Bool
  | .operand, c => Text.isSpelling c
  | .product, c => Text.isSpelling c || (scale? c).isSome
  | .sum, c => Text.isSpelling c || (scale? c).isSome || (sign? c).isSome

/-- A formula of the level ends where this text begins. -/
def Ends (level : Level) (rest : List Char) : Prop :=
  ∀ c ∈ rest.head?, continues level c = false

theorem ends_nil (level : Level) : Ends level [] := by
  intro c first
  cases first

theorem ends_cons {level : Level} {c : Char} {rest : List Char} :
    Ends level (c :: rest) ↔ continues level c = false := by
  simp [Ends]

theorem ends_close (level : Level) (rest : List Char) : Ends level (')' :: rest) := by
  rw [ends_cons]
  cases level <;> decide

theorem Ends.operand {rest : List Char} (ends : Ends .product rest) : Ends .operand rest := by
  intro c first
  have outside := ends c first
  simp only [continues, Bool.or_eq_false_iff] at outside ⊢
  exact outside.1

theorem Ends.product {rest : List Char} (ends : Ends .sum rest) : Ends .product rest := by
  intro c first
  have outside := ends c first
  simp only [continues, Bool.or_eq_false_iff] at outside ⊢
  exact outside.1

theorem Factors.ends (factors : Factors) {rest : List Char} (ends : Ends .product rest) :
    Ends .operand (factors.text ++ rest) := by
  cases factors with
  | none => exact ends.operand
  | more scale factor others =>
    rw [Factors.text, List.cons_append, ends_cons]
    exact Text.isSpelling_scale scale

theorem Summands.ends (summands : Summands) {rest : List Char} (ends : Ends .sum rest) :
    Ends .product (summands.text ++ rest) := by
  cases summands with
  | none => exact ends.product
  | more sign term others =>
    rw [Summands.text, List.cons_append, ends_cons]
    cases sign <;> decide

/-- Runs of one class of characters are told apart by where they end. -/
theorem run_inj {inside : Char → Bool} {left right rest others : List Char}
    (leftInside : ∀ c ∈ left, inside c = true) (rightInside : ∀ c ∈ right, inside c = true)
    (restEnds : ∀ c ∈ rest.head?, inside c = false)
    (othersEnd : ∀ c ∈ others.head?, inside c = false) (same : left ++ rest = right ++ others) :
    left = right ∧ rest = others := by
  induction left generalizing right with
  | nil =>
    cases right with
    | nil => exact ⟨rfl, same⟩
    | cons c right =>
      have outside := restEnds c (by simp [show rest = c :: (right ++ others) from same])
      rw [rightInside c List.mem_cons_self] at outside
      cases outside
  | cons c left ih =>
    cases right with
    | nil =>
      have outside := othersEnd c (by simp [show others = c :: (left ++ rest) from same.symm])
      rw [leftInside c List.mem_cons_self] at outside
      cases outside
    | cons d right =>
      obtain ⟨first, tails⟩ := List.cons.inj same
      obtain ⟨runs, ends⟩ := ih (fun e member => leftInside e (List.mem_cons_of_mem _ member))
        (fun e member => rightInside e (List.mem_cons_of_mem _ member)) tails
      exact ⟨by rw [first, runs], ends⟩

/-- The rules for a factor are told apart by the first character. -/
inductive Opening
  | sign
  | parenthesis
  | number
  | name

def Opening.of (c : Char) : Opening :=
  if (sign? c).isSome then .sign
  else if c = '(' then .parenthesis
  else if Text.isNumeral c then .number
  else .name

def Factor.opening : Factor → Opening
  | .signed _ _ => .sign
  | .enclosed _ => .parenthesis
  | .number _ => .number
  | .name _ => .name

theorem Factor.text_opens (factor : Factor) :
    ∃ c rest, factor.text = c :: rest ∧ Opening.of c = factor.opening := by
  cases factor with
  | signed sign operand =>
    refine ⟨sign.symbol, operand.text, by rw [Factor.text], ?_⟩
    simp [Opening.of, sign?_symbol, Factor.opening]
  | enclosed inner =>
    exact ⟨'(', inner.text ++ [')'], by rw [Factor.text], rfl⟩
  | number numeral =>
    obtain ⟨spelled, numeric, -, digit⟩ := numeral
    cases spelled with
    | nil => simp at digit
    | cons c rest =>
      have numeral := numeric c List.mem_cons_self
      have spelling := Text.isSpelling_of_isNumeral numeral
      refine ⟨c, rest, by rw [Factor.text], ?_⟩
      simp [Opening.of, sign?_of_isSpelling spelling, ne_open_of_isSpelling spelling, numeral,
        Factor.opening]
  | name identifier =>
    have letter := identifier.letter
    have spelling := Text.isSpelling_of_isNameChar (Text.isNameChar_of_isLetter letter)
    refine ⟨identifier.first, identifier.rest, by rw [Factor.text, Identifier.spelled], ?_⟩
    simp [Opening.of, sign?_of_isSpelling spelling, ne_open_of_isSpelling spelling,
      Text.isNumeral_of_isLetter letter, Factor.opening]

theorem Factor.opening_eq {left right : Factor} {rest others : List Char}
    (same : left.text ++ rest = right.text ++ others) : left.opening = right.opening := by
  obtain ⟨c, leftRest, leftText, leftOpening⟩ := left.text_opens
  obtain ⟨d, rightRest, rightText, rightOpening⟩ := right.text_opens
  rw [leftText, rightText] at same
  rw [← leftOpening, ← rightOpening, (List.cons.inj same).1]

mutual

theorem Expression.text_inj (left right : Expression) {rest others : List Char}
    (restEnds : Ends .sum rest) (othersEnd : Ends .sum others)
    (same : left.text ++ rest = right.text ++ others) : left = right ∧ rest = others := by
  cases left with
  | mk first summands =>
    cases right with
    | mk first' summands' =>
      simp only [Expression.text, List.append_assoc] at same
      obtain ⟨firsts, tails⟩ := first.text_inj first' (summands.ends restEnds)
        (summands'.ends othersEnd) same
      obtain ⟨chains, ends⟩ := summands.text_inj summands' restEnds othersEnd tails
      exact ⟨by rw [firsts, chains], ends⟩

theorem Summands.text_inj (left right : Summands) {rest others : List Char}
    (restEnds : Ends .sum rest) (othersEnd : Ends .sum others)
    (same : left.text ++ rest = right.text ++ others) : left = right ∧ rest = others := by
  cases left with
  | none =>
    cases right with
    | none => exact ⟨rfl, same⟩
    | more sign term summands =>
      -- a sign would carry on the sum that ends here
      simp only [Summands.text, List.nil_append, List.cons_append] at same
      rw [same, ends_cons] at restEnds
      simp [continues, sign?_symbol] at restEnds
  | more sign term summands =>
    cases right with
    | none =>
      simp only [Summands.text, List.nil_append, List.cons_append] at same
      rw [← same, ends_cons] at othersEnd
      simp [continues, sign?_symbol] at othersEnd
    | more sign' term' summands' =>
      simp only [Summands.text, List.cons_append, List.cons.injEq, List.append_assoc] at same
      have signs : sign = sign' := sign_symbol_inj same.1
      obtain ⟨terms, tails⟩ := term.text_inj term' (summands.ends restEnds)
        (summands'.ends othersEnd) same.2
      obtain ⟨chains, ends⟩ := summands.text_inj summands' restEnds othersEnd tails
      exact ⟨by rw [signs, terms, chains], ends⟩

theorem Term.text_inj (left right : Term) {rest others : List Char}
    (restEnds : Ends .product rest) (othersEnd : Ends .product others)
    (same : left.text ++ rest = right.text ++ others) : left = right ∧ rest = others := by
  cases left with
  | mk first factors =>
    cases right with
    | mk first' factors' =>
      simp only [Term.text, List.append_assoc] at same
      obtain ⟨firsts, tails⟩ := first.text_inj first' (factors.ends restEnds)
        (factors'.ends othersEnd) same
      obtain ⟨chains, ends⟩ := factors.text_inj factors' restEnds othersEnd tails
      exact ⟨by rw [firsts, chains], ends⟩

theorem Factors.text_inj (left right : Factors) {rest others : List Char}
    (restEnds : Ends .product rest) (othersEnd : Ends .product others)
    (same : left.text ++ rest = right.text ++ others) : left = right ∧ rest = others := by
  cases left with
  | none =>
    cases right with
    | none => exact ⟨rfl, same⟩
    | more scale factor factors =>
      simp only [Factors.text, List.nil_append, List.cons_append] at same
      rw [same, ends_cons] at restEnds
      simp [continues, scale?_symbol] at restEnds
  | more scale factor factors =>
    cases right with
    | none =>
      simp only [Factors.text, List.nil_append, List.cons_append] at same
      rw [← same, ends_cons] at othersEnd
      simp [continues, scale?_symbol] at othersEnd
    | more scale' factor' factors' =>
      simp only [Factors.text, List.cons_append, List.cons.injEq, List.append_assoc] at same
      have scales : scale = scale' := scale_symbol_inj same.1
      obtain ⟨operands, tails⟩ := factor.text_inj factor' (factors.ends restEnds)
        (factors'.ends othersEnd) same.2
      obtain ⟨chains, ends⟩ := factors.text_inj factors' restEnds othersEnd tails
      exact ⟨by rw [scales, operands, chains], ends⟩

theorem Factor.text_inj (left right : Factor) {rest others : List Char}
    (restEnds : Ends .operand rest) (othersEnd : Ends .operand others)
    (same : left.text ++ rest = right.text ++ others) : left = right ∧ rest = others := by
  have rules := Factor.opening_eq same
  cases left with
  | signed sign operand =>
    cases right with
    | signed sign' operand' =>
      simp only [Factor.text, List.cons_append, List.cons.injEq] at same
      have signs : sign = sign' := sign_symbol_inj same.1
      obtain ⟨operands, ends⟩ := operand.text_inj operand' restEnds othersEnd same.2
      exact ⟨by rw [signs, operands], ends⟩
    | enclosed inner => cases rules
    | number numeral => cases rules
    | name identifier => cases rules
  | enclosed inner =>
    cases right with
    | signed sign operand => cases rules
    | enclosed inner' =>
      simp only [Factor.text, List.cons_append, List.cons.injEq, List.append_assoc,
        List.nil_append, true_and] at same
      obtain ⟨inners, tails⟩ := inner.text_inj inner' (ends_close .sum rest)
        (ends_close .sum others) same
      exact ⟨by rw [inners], (List.cons.inj tails).2⟩
    | number numeral => cases rules
    | name identifier => cases rules
  | number numeral =>
    cases right with
    | signed sign operand => cases rules
    | enclosed inner => cases rules
    | number numeral' =>
      simp only [Factor.text] at same
      obtain ⟨spellings, ends⟩ := run_inj numeral.numeric numeral'.numeric
        (fun c first => (Bool.or_eq_false_iff.1 (restEnds c first)).1)
        (fun c first => (Bool.or_eq_false_iff.1 (othersEnd c first)).1) same
      obtain ⟨spelled, _, _⟩ := numeral
      obtain ⟨spelled', _, _⟩ := numeral'
      cases spellings
      exact ⟨rfl, ends⟩
    | name identifier => cases rules
  | name identifier =>
    cases right with
    | signed sign operand => cases rules
    | enclosed inner => cases rules
    | number numeral => cases rules
    | name identifier' =>
      simp only [Factor.text] at same
      obtain ⟨spellings, ends⟩ := run_inj identifier.inName identifier'.inName
        (fun c first => (Bool.or_eq_false_iff.1 (restEnds c first)).2)
        (fun c first => (Bool.or_eq_false_iff.1 (othersEnd c first)).2) same
      obtain ⟨first, more, _, _⟩ := identifier
      obtain ⟨first', more', _, _⟩ := identifier'
      cases spellings
      exact ⟨rfl, ends⟩

end

/-- No text has two derivations. -/
theorem Expression.eq_of_text_eq {left right : Expression} (same : left.text = right.text) :
    left = right :=
  (left.text_inj right (ends_nil .sum) (ends_nil .sum) (by rw [same])).1

end BlockMachine.Grammar
