import BlockMachine.Proofs.Lookups
import BlockMachine.Proofs.RenamedReading
import Mathlib.Data.List.Forall2

/-!
An expression in parentheses and a name that holds its value may stand for each
other in any text. The reader takes either of them where an operand is awaited,
and nowhere else. From there on its two states differ only in formulas of one
value, and such states take the same steps: a step never looks into a formula
that is complete.
-/

namespace BlockMachine.Formula
open Grammar

/-- Nothing waits, or formulas of one value wait before the same operator. -/
inductive WaitAlike (read : String → Float) {α : Type} :
    Option (Formula × α) → Option (Formula × α) → Prop
  | none : WaitAlike read none none
  | some {left right : Formula} {operator : α} (same : left.value read = right.value read) :
      WaitAlike read (some (left, operator)) (some (right, operator))

structure Frame.Alike (read : String → Float) (frame other : Frame) : Prop where
  sum : WaitAlike read frame.sum other.sum
  product : WaitAlike read frame.product other.product
  signs : frame.signs = other.signs

structure Chain.Alike (read : String → Float) (chain other : Chain) : Prop where
  sum : WaitAlike read chain.sum other.sum
  product : chain.product.value read = other.product.value read
  outer : List.Forall₂ (Frame.Alike read) chain.outer other.outer

/-- The states differ in complete formulas only, and these have one value. -/
inductive State.Alike (read : String → Float) : State → State → Prop
  | operand {frame other : Frame} {outer others : List Frame} (frames : frame.Alike read other)
      (levels : List.Forall₂ (Frame.Alike read) outer others) :
      State.Alike read (.operand frame outer) (.operand other others)
  | number {frame other : Frame} {outer others : List Frame} {spelled : List Char}
      (frames : frame.Alike read other) (levels : List.Forall₂ (Frame.Alike read) outer others) :
      State.Alike read (.number frame outer spelled) (.number other others spelled)
  | name {frame other : Frame} {outer others : List Frame} {spelled : List Char}
      (frames : frame.Alike read other) (levels : List.Forall₂ (Frame.Alike read) outer others) :
      State.Alike read (.name frame outer spelled) (.name other others spelled)
  | operator {chain other : Chain} (chains : chain.Alike read other) :
      State.Alike read (.operator chain) (.operator other)

inductive Move.Alike (read : String → Float) : Move → Move → Prop
  | go {state other : State} (states : state.Alike read other) :
      Move.Alike read (.go state) (.go other)
  | stop {formula other : Formula} (same : formula.value read = other.value read) :
      Move.Alike read (.stop formula) (.stop other)

section
variable {read : String → Float}

theorem WaitAlike.refl {α : Type} (waiting : Option (Formula × α)) :
    WaitAlike read waiting waiting := by
  cases waiting with
  | none => exact .none
  | some left => exact .some rfl

theorem Frame.Alike.refl (frame : Frame) : frame.Alike read frame :=
  ⟨.refl frame.sum, .refl frame.product, rfl⟩

theorem value_signed (signs : List Sign) {operand other : Formula}
    (same : operand.value read = other.value read) :
    (signs.foldl (fun inner sign => .signed sign inner) operand).value read =
      (signs.foldl (fun inner sign => .signed sign inner) other).value read := by
  induction signs generalizing operand other with
  | nil => exact same
  | cons sign signs ih =>
    apply ih
    simp only [value, same]

theorem Frame.Alike.close {frame other : Frame} (frames : frame.Alike read other)
    {operand right : Formula} (same : operand.value read = right.value read) :
    (frame.close operand).value read = (other.close right).value read := by
  obtain ⟨sum, product, signs⟩ := frame
  obtain ⟨sum', product', signs'⟩ := other
  obtain ⟨-, products, rfl⟩ := frames
  have signed := value_signed signs same
  cases products with
  | none => exact signed
  | some lefts => simp only [Frame.close, value, lefts, signed]

theorem Frame.Alike.chain {frame other : Frame} {outer others : List Frame}
    (frames : frame.Alike read other) (levels : List.Forall₂ (Frame.Alike read) outer others)
    {operand right : Formula} (same : operand.value read = right.value read) :
    (frame.chain operand outer).Alike read (other.chain right others) :=
  ⟨frames.sum, frames.close same, levels⟩

theorem Chain.Alike.total {chain other : Chain} (chains : chain.Alike read other) :
    chain.total.value read = other.total.value read := by
  obtain ⟨sum, product, outer⟩ := chain
  obtain ⟨sum', product', outer'⟩ := other
  obtain ⟨sums, products, -⟩ := chains
  cases sums with
  | none => exact products
  | some lefts =>
    have same : product.value read = product'.value read := products
    simp only [Chain.total, value, lefts, same]

theorem isEmpty_of_alike {outer others : List Frame}
    (levels : List.Forall₂ (Frame.Alike read) outer others) : outer.isEmpty = others.isEmpty := by
  cases levels with
  | nil => rfl
  | cons => rfl

theorem cost_of_alike {frame other : Frame} {outer others : List Frame}
    (frames : frame.Alike read other) (levels : List.Forall₂ (Frame.Alike read) outer others) :
    cost frame outer = cost other others := by
  unfold cost
  induction levels with
  | nil => simp only [List.foldr_nil, frames.signs]
  | cons first rest ih => simp only [List.foldr_cons, ih, first.signs]

section
variable (rules : Rules) (column place : Nat)

theorem Frame.Alike.descend {frame other : Frame} {outer others : List Frame}
    (frames : frame.Alike read other) (levels : List.Forall₂ (Frame.Alike read) outer others) :
    Corresponds Fault.code (Move.Alike read) (descend rules frame outer)
      (descend rules other others) := by
  simp only [Formula.descend, cost_of_alike frames levels]
  split
  · exact .error rfl
  · exact .ok (.go (.operand frames levels))

theorem Frame.Alike.enter {frame other : Frame} {outer others : List Frame}
    (frames : frame.Alike read other) (levels : List.Forall₂ (Frame.Alike read) outer others)
    (c : Char) :
    Corresponds Fault.code (Move.Alike read) (enter rules column frame outer c)
      (enter rules place other others c) := by
  unfold Formula.enter
  cases sign? c with
  | some sign =>
    refine Frame.Alike.descend rules ⟨frames.sum, frames.product, ?_⟩ levels
    rw [frames.signs]
  | none =>
    simp only
    split
    · exact Frame.Alike.descend rules (.refl Frame.empty) (.cons frames levels)
    · split
      · exact .ok (.go (.number frames levels))
      · split
        · exact .ok (.go (.name frames levels))
        · exact .error rfl

theorem Chain.Alike.extend {chain other : Chain} (chains : chain.Alike read other) (c : Char) :
    Corresponds Fault.code (Move.Alike read) (extend rules column chain c)
      (extend rules place other c) := by
  have total := chains.total
  unfold Formula.extend
  cases sign? c with
  | some sign =>
    simp only [isEmpty_of_alike chains.outer]
    split
    · exact .ok (.stop total)
    · exact .ok (.go (.operand ⟨.some total, .none, rfl⟩ chains.outer))
  | none =>
    cases scale? c with
    | some scale =>
      simp only [isEmpty_of_alike chains.outer]
      split
      · exact .ok (.stop total)
      · exact .ok (.go (.operand ⟨chains.sum, .some chains.product, rfl⟩ chains.outer))
    | none =>
      have levels := chains.outer
      generalize chain.outer = outer at levels
      generalize other.outer = others at levels
      cases levels with
      | nil => exact .ok (.stop total)
      | cons frames levels =>
        simp only
        split
        · exact .ok (.go (.operator (frames.chain levels total)))
        · exact .error rfl

theorem Frame.Alike.endNumber {frame other : Frame} {outer others : List Frame}
    (frames : frame.Alike read other) (levels : List.Forall₂ (Frame.Alike read) outer others)
    (spelled : List Char) :
    Corresponds Fault.code (Chain.Alike read) (endNumber column frame outer spelled)
      (endNumber place other others spelled) := by
  unfold Formula.endNumber
  cases Number.Literal.read? spelled.reverse with
  | none => exact .error rfl
  | some value => exact .ok (frames.chain levels rfl)

theorem Frame.Alike.endName {frame other : Frame} {outer others : List Frame}
    (frames : frame.Alike read other) (levels : List.Forall₂ (Frame.Alike read) outer others)
    (spelled : List Char) :
    Corresponds Fault.code (Chain.Alike read) (endName rules column frame outer spelled)
      (endName rules place other others spelled) := by
  unfold Formula.endName
  split
  · exact .ok (frames.chain levels rfl)
  · exact .error rfl

/-- A character does to both states what it does to one of them. -/
theorem State.Alike.step {state other : State} (states : state.Alike read other) (c : Char) :
    Corresponds Fault.code (Move.Alike read) (step rules column state c)
      (step rules place other c) := by
  cases states with
  | operand frames levels => exact frames.enter rules column place levels c
  | @number frame other outer others spelled frames levels =>
    simp only [Formula.step]
    split
    · exact .ok (.go (.number frames levels))
    · exact (frames.endNumber column place levels spelled).bind fun chain other chains =>
        chains.extend rules column place c
  | @name frame other outer others spelled frames levels =>
    simp only [Formula.step]
    split
    · exact .ok (.go (.name frames levels))
    · exact (frames.endName rules column place levels spelled).bind fun chain other chains =>
        chains.extend rules column place c
  | operator chains => exact chains.extend rules column place c

theorem Chain.Alike.conclude {chain other : Chain} (chains : chain.Alike read other) :
    Corresponds Fault.code (fun formula right => formula.value read = right.value read)
      (conclude column chain) (conclude place other) := by
  simp only [Formula.conclude, isEmpty_of_alike chains.outer]
  split
  · exact .ok chains.total
  · exact .error rfl

theorem State.Alike.finish {state other : State} (states : state.Alike read other) :
    Corresponds Fault.code (fun formula right => formula.value read = right.value read)
      (finish rules column state) (finish rules place other) := by
  cases states with
  | operand frames levels => exact .error rfl
  | @number frame other outer others spelled frames levels =>
    exact (frames.endNumber column place levels spelled).bind fun chain other chains =>
      chains.conclude column place
  | @name frame other outer others spelled frames levels =>
    exact (frames.endName rules column place levels spelled).bind fun chain other chains =>
      chains.conclude column place
  | operator chains => exact chains.conclude column place

end

/-- Formulas of one value with something left behind both or neither, or faults of one code. -/
abbrev ReadAlike (read : String → Float) :
    Except Fault (Formula × List Char) → Except Fault (Formula × List Char) → Prop :=
  Corresponds Fault.code fun (formula, left) (other, rest) =>
    formula.value read = other.value read ∧ (left = [] ↔ rest = [])

/-- The same text is read alike from two such states, wherever it stands. -/
theorem State.Alike.scan {state other : State} (states : state.Alike read other) (rules : Rules)
    (column place : Nat) (text : List Char) :
    ReadAlike read (scan rules column state text) (scan rules place other text) := by
  induction text generalizing column place state other with
  | nil =>
    exact (states.finish rules column place).map fun formula right same => ⟨same, Iff.rfl⟩
  | cons c text ih =>
    have steps := states.step rules column place c
    simp only [Formula.scan]
    generalize Formula.step rules column state c = here at steps
    generalize Formula.step rules place other c = there at steps
    cases steps with
    | error same => exact .error same
    | ok moves =>
      cases moves with
      | stop same => exact .ok ⟨same, by simp⟩
      | go states => exact ih states (column + 1) (place + 1)

/-- A known name has come to its end, and is an operand like any other. -/
theorem scan_of_declared {rules : Rules} {spelled rest : List Char}
    (known : rules.declared (String.ofList spelled.reverse) = true)
    (ends : Text.StartsApart rest) (column : Nat) (frame : Frame) (outer : List Frame) :
    scan rules column (.name frame outer spelled) rest =
      scan rules column
        (.operator (frame.chain (.named (String.ofList spelled.reverse)) outer)) rest := by
  rw [scan_name_end ends, endName, known]
  rfl

/-- Behind a complete operand, neither of the two characters is passed. -/
theorem readAlike_of_foreign {rules : Rules} {column : Nat} {state : State}
    {settled : Except Fault Chain} {c d : Char} {left right : List Char}
    (here : step rules column state c = settled.bind (extend rules column · c))
    (there : step rules column state d = settled.bind (extend rules column · d))
    (foreign : sign? c = none ∧ scale? c = none ∧ c ≠ ')')
    (otherForeign : sign? d = none ∧ scale? d = none ∧ d ≠ ')') :
    ReadAlike read (scan rules column state (c :: left))
      (scan rules column state (d :: right)) := by
  simp only [scan, here, there]
  cases settled with
  | error fault => exact .error rfl
  | ok chain =>
    simp only [Except.bind, extend_of_foreign rules column chain foreign.1 foreign.2.1 foreign.2.2,
      extend_of_foreign rules column chain otherForeign.1 otherForeign.2.1 otherForeign.2.2]
    cases chain.outer.isEmpty with
    | true => exact .ok ⟨rfl, by simp⟩
    | false => exact .error rfl

/-- Texts that are read alike between names are read alike behind any text that ends apart. -/
theorem readAlike_append {rules : Rules} {left right : List Char}
    (behind : ∀ column state, (∀ frame outer spelled, state ≠ .name frame outer spelled) →
      ReadAlike read (scan rules column state left) (scan rules column state right))
    {before : List Char} (ends : Text.EndsApart before) (column : Nat) {state : State}
    (between : ∀ frame outer spelled, state = .name frame outer spelled → before ≠ []) :
    ReadAlike read (scan rules column state (before ++ left))
      (scan rules column state (before ++ right)) := by
  induction before generalizing column state with
  | nil =>
    apply behind
    intro frame outer spelled here
    exact between frame outer spelled here rfl
  | cons c before ih =>
    simp only [List.cons_append, scan]
    cases moved : step rules column state c with
    | error fault => exact .error rfl
    | ok move =>
      cases move with
      | stop formula => exact .ok ⟨rfl, by simp⟩
      | go next =>
        apply ih
        · intro d last
          exact ends d (by rw [List.getLast?_cons, Option.mem_def.1 last]; rfl)
        · -- the last character leads into no name, for it is none of a name
          rintro frame outer spelled rfl nothing
          have outside := ends c (by rw [nothing]; rfl)
          rw [isNameChar_of_step moved] at outside
          cases outside

/-- Where a name may stand, the name and the parentheses are read alike; elsewhere, neither is. -/
theorem readAlike_named_enclosed {rules : Rules} (whole : rules.level = .sum)
    (unlimited : rules.allowance = none) {identifier : Identifier} {e : Expression}
    (known : rules.declared identifier.name = true)
    (declared : ∀ name ∈ e.interpret .names, rules.declared name = true)
    (same : read identifier.name = (e.interpret .formula).value read) {after : List Char}
    (ends : Text.StartsApart after) (column : Nat) {state : State}
    (between : ∀ frame outer spelled, state ≠ .name frame outer spelled) :
    ReadAlike read (scan rules column state (identifier.spelled ++ after))
      (scan rules column state ('(' :: (e.text ++ [')']) ++ after)) := by
  have spelling : Text.isSpelling identifier.first = true :=
    Text.isSpelling_of_isNameChar (Text.isNameChar_of_isLetter identifier.letter)
  have noClose : identifier.first ≠ ')' := by
    intro close
    rw [close, Text.isSpelling_close] at spelling
    cases spelling
  have foreign := And.intro (sign?_of_isSpelling spelling)
    (And.intro (scale?_of_isSpelling spelling) noClose)
  have opens : sign? '(' = none ∧ scale? '(' = none ∧ '(' ≠ ')' := by decide
  cases state with
  | name frame outer spelled => exact absurd rfl (between frame outer spelled)
  | operand frame outer =>
    have free : ∀ spent, exceeds rules.allowance spent = false := by
      intro spent
      rw [unlimited]
      rfl
    have named : rules.declared (String.ofList identifier.spelled.reverse.reverse) = true := by
      rw [List.reverse_reverse]
      exact known
    have fits : e.Fits rules (cost Frame.empty (frame :: outer)) := ⟨declared, free _⟩
    have passes := reaches_enclosed (free _) (e.reaches whole (frame :: outer) fits)
    rw [reaches_identifier rules frame outer identifier column after, passes column after,
      scan_of_declared named ends, List.reverse_reverse]
    have levels : List.Forall₂ (Frame.Alike read) outer outer :=
      List.forall₂_same.2 fun level _ => .refl level
    have frames : frame.Alike read frame := .refl frame
    have chains : (frame.chain (.named identifier.name) outer).Alike read
        (frame.chain (e.interpret .formula) outer) := frames.chain levels same
    exact State.Alike.scan (.operator chains) rules _ _ after
  | number frame outer spelled =>
    have settles : ∀ c, Text.isNumeral c = false →
        step rules column (.number frame outer spelled) c =
          (endNumber column frame outer spelled).bind (extend rules column · c) := by
      intro c outside
      simp only [step, outside, Bool.false_eq_true, if_false]
    exact readAlike_of_foreign (settles _ (Text.isNumeral_of_isLetter identifier.letter))
      (settles '(' (by decide)) foreign opens
  | operator chain =>
    have settles : ∀ c, step rules column (.operator chain) c =
        (Except.ok chain).bind (extend rules column · c) := fun c => rfl
    exact readAlike_of_foreign (settles _) (settles '(') foreign opens

theorem parseWithin_of_readAlike {allowance : Option Nat} {declared : String → Bool}
    {text other : List Char}
    (alike : ReadAlike read (scan ⟨.sum, allowance, declared⟩ 1 .start text)
      (scan ⟨.sum, allowance, declared⟩ 1 .start other)) :
    Corresponds Fault.code (fun formula right => formula.value read = right.value read)
      (parseWithin allowance declared text) (parseWithin allowance declared other) := by
  unfold parseWithin
  generalize scan ⟨.sum, allowance, declared⟩ 1 .start text = here at alike
  generalize scan ⟨.sum, allowance, declared⟩ 1 .start other = there at alike
  cases alike with
  | error same => exact .error same
  | @ok first second related =>
    obtain ⟨formula, left⟩ := first
    obtain ⟨right, rest⟩ := second
    obtain ⟨same, ended⟩ := related
    cases left with
    | nil =>
      rw [ended.1 rfl]
      exact .ok same
    | cons c left =>
      cases rest with
      | nil => cases ended.2 rfl
      | cons d rest => exact .error rfl

/-- In the same surroundings, the name and the parentheses make formulas of one value. -/
theorem parseWithin_named_enclosed {declared : String → Bool} {identifier : Identifier}
    {e : Expression} (known : declared identifier.name = true)
    (allKnown : ∀ name ∈ e.interpret .names, declared name = true)
    (same : read identifier.name = (e.interpret .formula).value read) {before after : List Char}
    (ends : Text.EndsApart before) (starts : Text.StartsApart after) :
    Corresponds Fault.code (fun formula right => formula.value read = right.value read)
      (parseWithin none declared (before ++ (identifier.spelled ++ after)))
      (parseWithin none declared (before ++ ('(' :: (e.text ++ [')']) ++ after))) := by
  let rules : Rules := ⟨.sum, none, declared⟩
  have whole : rules.level = .sum := rfl
  have unlimited : rules.allowance = none := rfl
  apply parseWithin_of_readAlike
  apply readAlike_append _ ends
  · intro frame outer spelled here
    cases here
  · intro column state between
    exact readAlike_named_enclosed whole unlimited known allKnown same starts column between

end

theorem exists_ok_iff {ε α β : Type} {code : ε → String} {worth : α → β} {first second : Except ε α}
    (alike : Corresponds code (fun a b => worth a = worth b) first second) (result : β) :
    (∃ a, first = .ok a ∧ worth a = result) ↔ ∃ b, second = .ok b ∧ worth b = result := by
  cases alike with
  | ok same => simp [same]
  | error same => simp

/-- Evaluation does not meet nesting beyond the allowance. -/
def Shallow (env : Env) (expression : String) : Prop :=
  ∀ error, evaluate env expression = .error error → error.fault ≠ .tooDeep

theorem evaluate_eq_ok_iff_of_shallow {env : Env} {expression : String}
    (shallow : Shallow env expression) (result : Float) :
    evaluate env expression = .ok result ↔
      ∃ formula, parseWithin none env.declares (Text.squeeze expression.toList) = .ok formula ∧
        formula.value env.read = result := by
  rcases parseWithin_eq_or_tooDeep (some allowance) env.declares
    (Text.squeeze expression.toList) with deep | same
  · have fails : evaluate env expression =
        .error ⟨Text.squeeze expression.toList, .tooDeep⟩ := by
      rw [evaluate, evaluateText, parse, deep]
    exact absurd rfl (shallow _ fails)
  · rw [evaluate, evaluateText, parse, same]
    cases parseWithin none env.declares (Text.squeeze expression.toList) with
    | error fault => simp
    | ok formula => simp

/-- An expression in parentheses and a name that holds its value may stand for each other: with
either in its place, a text has the same value or none. -/
theorem evaluate_named_iff_enclosed {env : Env} {before after inner : String}
    {identifier : Identifier} {value : Float} (holds : env.find? identifier.name = some value)
    (evaluates : evaluate env inner = .ok value)
    (solidBefore : ∀ c ∈ before.toList, Text.isBlank c = false)
    (solidAfter : ∀ c ∈ after.toList, Text.isBlank c = false)
    (ends : Text.EndsApart before.toList) (starts : Text.StartsApart after.toList)
    (namedShallow : Shallow env (before ++ identifier.name ++ after))
    (enclosedShallow : Shallow env (before ++ "(" ++ inner ++ ")" ++ after)) (result : Float) :
    evaluate env (before ++ identifier.name ++ after) = .ok result ↔
      evaluate env (before ++ "(" ++ inner ++ ")" ++ after) = .ok result := by
  obtain ⟨formula, ⟨e, text, rfl, fits⟩, means⟩ :=
    (evaluate_eq_ok_iff_derives env inner value).1 evaluates
  have known : env.declares identifier.name = true := by
    rw [Env.declares, holds]
    rfl
  have same : env.read identifier.name = (e.interpret .formula).value env.read := by
    rw [Env.read, holds, means]
    rfl
  have named : Text.squeeze (before ++ identifier.name ++ after).toList =
      before.toList ++ (identifier.spelled ++ after.toList) := by
    simp only [String.toList_append, Text.squeeze_append, Text.squeeze_eq_self solidBefore,
      Text.squeeze_eq_self solidAfter, squeeze_name, List.append_assoc]
  have enclosed : Text.squeeze (before ++ "(" ++ inner ++ ")" ++ after).toList =
      before.toList ++ ('(' :: (e.text ++ [')']) ++ after.toList) := by
    have opens : Text.squeeze "(".toList = ['('] := rfl
    have closes : Text.squeeze ")".toList = [')'] := rfl
    simp only [String.toList_append, Text.squeeze_append, Text.squeeze_eq_self solidBefore,
      Text.squeeze_eq_self solidAfter, opens, closes, text, List.append_assoc, List.cons_append,
      List.nil_append]
  rw [evaluate_eq_ok_iff_of_shallow namedShallow, evaluate_eq_ok_iff_of_shallow enclosedShallow,
    named, enclosed]
  exact exists_ok_iff (parseWithin_named_enclosed known fits.declared same ends starts) result

/-- A name behind a sign, in parentheses of its own, and the sum that it holds. -/
theorem negated_name_or_sum :
    let env : Env := ⟨[("x", 0.0), ("y", 0.0 + 0.0)]⟩
    let y : Identifier := ⟨'y', [], by decide, by simp⟩
    env.find? y.name = some (0.0 + 0.0) ∧ evaluate env "x + x" = .ok (0.0 + 0.0) ∧
      Shallow env ("x*(-" ++ y.name ++ ")/x") ∧
      Shallow env ("x*(-" ++ "(" ++ "x + x" ++ ")" ++ ")/x") ∧
      evaluate env ("x*(-" ++ "(" ++ "x + x" ++ ")" ++ ")/x") =
        .ok (divide (0.0 * -(0.0 + 0.0)) 0.0) := by
  intro env y
  have holds : env.find? y.name = some (0.0 + 0.0) := rfl
  have evaluates : evaluate env "x + x" = .ok (0.0 + 0.0) := rfl
  have spelledNamed : "x*(-" ++ y.name ++ ")/x" = "x*(-y)/x" := by decide
  have spelledEnclosed : "x*(-" ++ "(" ++ "x + x" ++ ")" ++ ")/x" = "x*(-(x + x))/x" := by decide
  have named : evaluate env ("x*(-" ++ y.name ++ ")/x") =
      .ok (divide (0.0 * -(0.0 + 0.0)) 0.0) := by
    rw [spelledNamed]
    rfl
  have namedShallow : Shallow env ("x*(-" ++ y.name ++ ")/x") := by
    intro error fails
    rw [named] at fails
    cases fails
  have enclosedShallow : Shallow env ("x*(-" ++ "(" ++ "x + x" ++ ")" ++ ")/x") := by
    intro error fails
    rw [spelledEnclosed] at fails
    cases fails
  have solidBefore : ∀ c ∈ "x*(-".toList, Text.isBlank c = false := by
    simpa using (by decide : "x*(-".toList.all (!Text.isBlank ·) = true)
  have solidAfter : ∀ c ∈ ")/x".toList, Text.isBlank c = false := by
    simpa using (by decide : ")/x".toList.all (!Text.isBlank ·) = true)
  have ends : Text.EndsApart "x*(-".toList :=
    Text.endsApart_concat (Text.isSpelling_sign .minus) "x*(".toList
  have starts : Text.StartsApart ")/x".toList := Text.startsApart_cons.2 (by decide)
  refine ⟨holds, evaluates, namedShallow, enclosedShallow, ?_⟩
  exact (evaluate_named_iff_enclosed holds evaluates solidBefore solidAfter ends starts
    namedShallow enclosedShallow _).1 named

end BlockMachine.Formula
