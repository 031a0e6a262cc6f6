import BlockMachine.Proofs.Paths

/-!
What a formula asks of its environment. The reader looks up nothing but the names
that stand in the text, each as a whole: a longest run of letters and digits that
starts with a letter. So two readers part only behind such a name, which one of
them knows and the other does not. Once a text is read, its value is that of a
formula over those names, and no value keeps a formula from having one.
-/

namespace BlockMachine

namespace Text

/-- The text ends in neither a letter nor a digit. -/
def EndsApart (text : List Char) : Prop :=
  ∀ c ∈ text.getLast?, isNameChar c = false

/-- The text begins with neither a letter nor a digit. -/
def StartsApart (text : List Char) : Prop :=
  ∀ c ∈ text.head?, isNameChar c = false

theorem endsApart_nil : EndsApart [] := by
  intro c last
  cases last

theorem startsApart_nil : StartsApart [] := by
  intro c first
  cases first

theorem startsApart_cons {c : Char} {text : List Char} :
    StartsApart (c :: text) ↔ isNameChar c = false := by
  simp [StartsApart]

theorem StartsApart.eq_nil {text : List Char} (apart : StartsApart text)
    (inName : ∀ c ∈ text, isNameChar c = true) : text = [] := by
  cases text with
  | nil => rfl
  | cons c text =>
    have outside := startsApart_cons.1 apart
    rw [inName c List.mem_cons_self] at outside
    cases outside

theorem EndsApart.eq_nil {text : List Char} (apart : EndsApart text)
    (inName : ∀ c ∈ text, isNameChar c = true) : text = [] := by
  cases last : text.getLast? with
  | none => exact List.getLast?_eq_none_iff.1 last
  | some c =>
    have outside := apart c last
    rw [inName c (List.mem_of_getLast? last)] at outside
    cases outside

theorem endsApart_concat {c : Char} (outside : isSpelling c = false) (text : List Char) :
    EndsApart (text ++ [c]) := by
  intro d last
  rw [List.getLast?_concat, Option.mem_some] at last
  rw [← last]
  exact (Bool.or_eq_false_iff.1 outside).2

theorem EndsApart.append {left right : List Char} (first : EndsApart left)
    (second : EndsApart right) : EndsApart (left ++ right) := by
  intro c last
  rw [List.getLast?_append, Option.mem_def, Option.or_eq_some_iff] at last
  rcases last with last | ⟨-, last⟩
  · exact second c last
  · exact first c last

end Text

/-- The identifier stands in the text as a whole, with no letter or digit right beside it. -/
def Grammar.Identifier.OccursIn (identifier : Grammar.Identifier) (text : List Char) : Prop :=
  ∃ before after, text = before ++ identifier.spelled ++ after ∧ Text.EndsApart before ∧
    Text.StartsApart after

namespace Formula
open Grammar

theorem squeeze_name (identifier : Identifier) :
    Text.squeeze identifier.name.toList = identifier.spelled := by
  rw [Identifier.name, String.toList_ofList]
  apply Text.squeeze_eq_self
  intro c member
  exact Text.isBlank_of_isNameChar (identifier.inName c member)

/-- The names in a formula, from left to right. -/
def names : Formula → List String
  | .number _ => []
  | .named name => [name]
  | .signed _ operand => operand.names
  | .added left _ right => left.names ++ right.names
  | .scaled left _ right => left.names ++ right.names

theorem value_congr {formula : Formula} {read other : String → Float}
    (agree : ∀ name ∈ formula.names, read name = other name) :
    formula.value read = formula.value other := by
  induction formula with
  | number value => rfl
  | named name => exact agree name List.mem_cons_self
  | signed sign operand ih => rw [value, value, ih agree]
  | added left sign right first second =>
    rw [value, value, first fun name member => agree name (List.mem_append_left _ member),
      second fun name member => agree name (List.mem_append_right _ member)]
  | scaled left scale right first second =>
    rw [value, value, first fun name member => agree name (List.mem_append_left _ member),
      second fun name member => agree name (List.mem_append_right _ member)]

theorem names_formula (e : Expression) : (e.interpret .formula).names = e.interpret .names := by
  apply e.map_interpret
  constructor <;> intros <;> rfl

/-- What is read is a formula over known names. -/
theorem declared_of_parseWithin {allowance : Option Nat} {declared : String → Bool}
    {text : List Char} {formula : Formula}
    (parsed : parseWithin allowance declared text = .ok formula) :
    ∀ name ∈ formula.names, declared name = true := by
  obtain ⟨e, -, tree, fits⟩ := (parseWithin_eq_ok_iff _ _ _ _).1 parsed
  rw [← tree, names_formula]
  exact fits.declared

theorem SpellsSum.endsApart {rules : Rules} {spent : Nat} {sum : Option (Formula × Sign)}
    {text : List Char} (spells : SpellsSum rules spent sum text) : Text.EndsApart text := by
  cases sum with
  | none =>
    rw [show text = [] from spells]
    exact Text.endsApart_nil
  | some left =>
    obtain ⟨e, rfl, -⟩ := spells
    exact Text.endsApart_concat (Text.isSpelling_sign left.2) e.text

theorem SpellsProduct.endsApart {rules : Rules} {spent : Nat} {product : Option (Formula × Scale)}
    {text : List Char} (spells : SpellsProduct rules spent product text) : Text.EndsApart text := by
  cases product with
  | none =>
    rw [show text = [] from spells]
    exact Text.endsApart_nil
  | some left =>
    obtain ⟨t, rfl, -⟩ := spells
    exact Text.endsApart_concat (Text.isSpelling_scale left.2) t.text

theorem SpellsOuter.endsApart {rules : Rules} {outer : List Frame} {text : List Char}
    (spells : SpellsOuter rules outer text) : Text.EndsApart text := by
  cases outer with
  | nil =>
    rw [show text = [] from spells]
    exact Text.endsApart_nil
  | cons frame outer =>
    obtain ⟨before, here, rfl, -⟩ := spells
    exact Text.endsApart_concat Text.isSpelling_open (before ++ here)

theorem endsApart_signs (signs : List Sign) :
    Text.EndsApart (signs.reverse.map Sign.symbol) := by
  cases signs with
  | nil => exact Text.endsApart_nil
  | cons sign rest =>
    rw [List.reverse_cons, List.map_append]
    exact Text.endsApart_concat (Text.isSpelling_sign sign) _

/-- An operand is awaited at the start, or behind an operator or an open parenthesis. -/
theorem Awaits.endsApart {rules : Rules} {frame : Frame} {outer : List Frame} {text : List Char}
    (awaits : Awaits rules frame outer text) : Text.EndsApart text := by
  obtain ⟨⟨before, here, whole, outside, sumText, productText, level, sum, product⟩, -⟩ := awaits
  rw [whole, level]
  exact outside.endsApart.append
    ((sum.endsApart.append product.endsApart).append (endsApart_signs frame.signs))

/-- Where the reader has come to the end of a name, that name stands in the text. -/
theorem State.Spells.exists_occursIn {rules : Rules} {frame : Frame} {outer : List Frame}
    {spelled text rest : List Char} (spells : (State.name frame outer spelled).Spells rules text)
    (ends : Text.StartsApart rest) :
    ∃ identifier : Identifier, identifier.name = String.ofList spelled.reverse ∧
      identifier.OccursIn (text ++ rest) := by
  obtain ⟨before, identifier, spelling, whole, awaits⟩ := spells
  refine ⟨identifier, by rw [Identifier.name, spelling], before, rest, ?_, awaits.endsApart, ends⟩
  rw [whole, spelling]

/-- The readers stand behind a whole name that only one of them knows. -/
inductive Part (rules others : Rules) : State → List Char → Prop
  | name {frame : Frame} {outer : List Frame} {spelled rest : List Char}
      (ends : Text.StartsApart rest)
      (differ : rules.declared (String.ofList spelled.reverse) ≠
        others.declared (String.ofList spelled.reverse)) :
      Part rules others (.name frame outer spelled) rest

theorem declared_eq_of_not_part {rules others : Rules} {state : State} {rest : List Char}
    (together : ¬Part rules others state rest) {frame : Frame} {outer : List Frame}
    {spelled : List Char} (here : state = .name frame outer spelled)
    (ends : Text.StartsApart rest) :
    rules.declared (String.ofList spelled.reverse) =
      others.declared (String.ofList spelled.reverse) := by
  by_cases same : rules.declared (String.ofList spelled.reverse) =
      others.declared (String.ofList spelled.reverse)
  · exact same
  · exact absurd (here ▸ .name ends same) together

/-- Two readers that differ only in the names they know read alike, unless they follow the text to
where they part. -/
theorem scan_eq_or_part {rules others : Rules} (sameLevel : rules.level = others.level)
    (sameAllowance : rules.allowance = others.allowance) (column : Nat) (state : State)
    (text : List Char) :
    scan rules column state text = scan others column state text ∨
      ∃ read rest last, text = read ++ rest ∧ Follows rules column state read last ∧
        Part rules others last rest := by
  induction text generalizing column state with
  | nil =>
    by_cases parts : Part rules others state []
    · exact .inr ⟨[], [], state, rfl, .nil, parts⟩
    · left
      have same : finish rules column state = finish others column state := finish_congr
        fun frame outer spelled here => declared_eq_of_not_part parts here Text.startsApart_nil
      rw [scan, scan, same]
  | cons c text ih =>
    by_cases parts : Part rules others state (c :: text)
    · exact .inr ⟨[], c :: text, state, rfl, .nil, parts⟩
    · have same : step rules column state c = step others column state c :=
        step_congr sameLevel sameAllowance fun frame outer spelled here outside =>
          declared_eq_of_not_part parts here (Text.startsApart_cons.2 outside)
      rw [scan, scan, ← same]
      cases moved : step rules column state c with
      | error fault => exact .inl rfl
      | ok move =>
        cases move with
        | stop formula => exact .inl rfl
        | go next =>
          rcases ih (column + 1) next with alike | ⟨read, rest, last, whole, follows, parts⟩
          · exact .inl alike
          · exact .inr ⟨c :: read, rest, last, by rw [whole, List.cons_append],
              .cons moved follows, parts⟩

/-- A text is read alike by all who know the same of its names. -/
theorem parseWithin_congr {allowance : Option Nat} {declared known : String → Bool}
    {text : List Char} (agree : ∀ identifier : Identifier, identifier.OccursIn text →
      declared identifier.name = known identifier.name) :
    parseWithin allowance declared text = parseWithin allowance known text := by
  let rules : Rules := ⟨.sum, allowance, declared⟩
  let others : Rules := ⟨.sum, allowance, known⟩
  have sameLevel : rules.level = others.level := rfl
  have sameAllowance : rules.allowance = others.allowance := rfl
  rcases scan_eq_or_part sameLevel sameAllowance 1 .start text with
    alike | ⟨read, rest, last, whole, follows, parts⟩
  · rw [parseWithin, parseWithin, alike]
  · cases parts with
    | name ends differ =>
      have spells := follows.spells (start_spells rules)
      obtain ⟨identifier, named, occurs⟩ := spells.exists_occursIn ends
      rw [← named] at differ
      exact absurd (agree identifier (whole ▸ occurs)) differ

/-- The names in a formula are names in its text. -/
theorem occursIn_of_parseWithin {allowance : Option Nat} {declared : String → Bool}
    {text : List Char} {formula : Formula}
    (parsed : parseWithin allowance declared text = .ok formula) :
    ∀ name ∈ formula.names, ∃ identifier : Identifier, identifier.name = name ∧
      identifier.OccursIn text := by
  classical
  -- a reader that knows no other names reads the same formula
  let known (name : String) : Bool :=
    declared name && decide (∃ identifier : Identifier, identifier.name = name ∧
      identifier.OccursIn text)
  have agree : ∀ identifier : Identifier, identifier.OccursIn text →
      declared identifier.name = known identifier.name := by
    intro identifier occurs
    have listed : ∃ other : Identifier, other.name = identifier.name ∧ other.OccursIn text :=
      ⟨identifier, rfl, occurs⟩
    simp only [known, listed, decide_true, Bool.and_true]
  rw [parseWithin_congr agree] at parsed
  intro name member
  have listed := declared_of_parseWithin parsed name member
  exact of_decide_eq_true (Bool.and_eq_true_iff.1 listed).2

/-- Readers that take a text for one formula give it one value, if they agree on its names. -/
theorem evaluate_of_parse_eq {env other : Env} {expression : String}
    (same : parse env.declares (Text.squeeze expression.toList) =
      parse other.declares (Text.squeeze expression.toList))
    (agree : ∀ formula, parse env.declares (Text.squeeze expression.toList) = .ok formula →
      ∀ name ∈ formula.names, env.find? name = other.find? name) :
    evaluate env expression = evaluate other expression := by
  rw [evaluate, evaluate, evaluateText, evaluateText, ← same]
  cases parsed : parse env.declares (Text.squeeze expression.toList) with
  | error fault => rfl
  | ok formula =>
    have values : formula.value env.read = formula.value other.read := by
      apply value_congr
      intro name member
      rw [Env.read, Env.read, agree formula parsed name member]
    simp only [values]

/-- Evaluation asks for the names in the text and for nothing else. -/
theorem evaluate_congr {env other : Env} {expression : String}
    (agree : ∀ identifier : Identifier, identifier.OccursIn (Text.squeeze expression.toList) →
      env.find? identifier.name = other.find? identifier.name) :
    evaluate env expression = evaluate other expression := by
  apply evaluate_of_parse_eq
  · apply parseWithin_congr
    intro identifier occurs
    rw [Env.declares, Env.declares, agree identifier occurs]
  · intro formula parsed name member
    obtain ⟨identifier, rfl, occurs⟩ := occursIn_of_parseWithin parsed name member
    exact agree identifier occurs

/-- Behind a whole name, the reader goes on with what the name has settled. -/
theorem scan_name_end {rules : Rules} {rest : List Char} (ends : Text.StartsApart rest)
    (column : Nat) (frame : Frame) (outer : List Frame) (spelled : List Char) :
    scan rules column (.name frame outer spelled) rest =
      (endName rules column frame outer spelled).bind
        fun chain => scan rules column (.operator chain) rest := by
  cases rest with
  | nil =>
    simp only [scan, finish]
    cases endName rules column frame outer spelled with
    | error fault => rfl
    | ok chain => rfl
  | cons c rest =>
    simp only [scan, step, Text.startsApart_cons.1 ends, Bool.false_eq_true, if_false]
    cases endName rules column frame outer spelled with
    | error fault => rfl
    | ok chain => rfl

/-- A whole name that is not known ends the reading. -/
theorem scan_of_undeclared {rules : Rules} {spelled rest : List Char}
    (unknown : rules.declared (String.ofList spelled.reverse) = false)
    (ends : Text.StartsApart rest) (column : Nat) (frame : Frame) (outer : List Frame) :
    scan rules column (.name frame outer spelled) rest =
      .error (.undefinedName (column - spelled.length) spelled.reverse) := by
  rw [scan_name_end ends, endName, unknown]
  rfl

/-- Further names change nothing, unless the first one that was missing is among them. -/
theorem evaluate_of_extends {env other : Env}
    (grows : ∀ name value, env.find? name = some value → other.find? name = some value)
    (expression : String) :
    evaluate other expression = evaluate env expression ∨
      ∃ error column name, evaluate env expression = .error error ∧
        error.fault = .undefinedName column name ∧ String.ofList name ∈ other.names := by
  have known : ∀ name, env.declares name = true → other.find? name = env.find? name := by
    intro name declared
    obtain ⟨value, found⟩ := Option.isSome_iff_exists.1 declared
    rw [found, grows name value found]
  have sameLevel : (rulesOf env).level = (rulesOf other).level := rfl
  have sameAllowance : (rulesOf env).allowance = (rulesOf other).allowance := rfl
  rcases scan_eq_or_part sameLevel sameAllowance 1 .start (Text.squeeze expression.toList) with
    alike | ⟨read, rest, last, whole, follows, parts⟩
  · left
    have same : parse env.declares (Text.squeeze expression.toList) =
        parse other.declares (Text.squeeze expression.toList) := by
      rw [parse, parse, parseWithin, parseWithin, alike]
    symm
    apply evaluate_of_parse_eq same
    intro formula parsed name member
    exact (known name (declared_of_parseWithin parsed name member)).symm
  · right
    cases parts with
    | @name frame outer spelled rest ends differ =>
      have missing : env.declares (String.ofList spelled.reverse) = false := by
        rw [Bool.eq_false_iff]
        intro declared
        apply differ
        simp only [Env.declares, known _ declared]
      have found : other.declares (String.ofList spelled.reverse) = true := by
        simpa [missing] using differ.symm
      have scanned := follows.scan_eq rest
      rw [scan_of_undeclared missing ends, ← whole] at scanned
      have fails : evaluate env expression = .error ⟨Text.squeeze expression.toList,
          .undefinedName (1 + read.length - spelled.length) spelled.reverse⟩ := by
        rw [evaluate, evaluateText, parse, parseWithin, scanned]
      exact ⟨_, _, _, fails, rfl, (other.declares_iff _).1 found⟩

/-- Environments that agree on the names in a text give it one outcome, whatever else they hold;
and a larger environment keeps the outcome of a smaller one, unless that was an undefined name
which the larger one defines. -/
theorem evaluate_determined_by_occurrences (env other : Env) (expression : String) :
    ((∀ identifier : Identifier, identifier.OccursIn (Text.squeeze expression.toList) →
        env.find? identifier.name = other.find? identifier.name) →
      evaluate env expression = evaluate other expression) ∧
    ((∀ name value, env.find? name = some value → other.find? name = some value) →
      evaluate other expression = evaluate env expression ∨
        ∃ error column name, evaluate env expression = .error error ∧
          error.fault = .undefinedName column name ∧ String.ofList name ∈ other.names) :=
  ⟨evaluate_congr, fun grows => evaluate_of_extends grows expression⟩

/-- In `xy * 2` no `x` is read, though the name begins with one; in `x * 2` it is what was
missing. -/
theorem beginning_of_name_not_read :
    let env : Env := ⟨[("xy", 0.0)]⟩
    let other : Env := ⟨[("x", 0.0 / 0.0), ("xy", 0.0)]⟩
    (∀ identifier : Identifier, identifier.OccursIn (Text.squeeze "xy * 2".toList) →
      env.find? identifier.name = other.find? identifier.name) ∧
    evaluate env "xy * 2" = evaluate other "xy * 2" ∧
    (∀ name value, env.find? name = some value → other.find? name = some value) ∧
    evaluate env "x * 2" = .error ⟨['x', '*', '2'], .undefinedName 1 ['x']⟩ ∧
    String.ofList ['x'] ∈ other.names := by
  intro env other
  have elsewhere : ∀ name, name ≠ "x" → env.find? name = other.find? name := by
    intro name different
    have apart : (name == "x") = false := by simpa using different
    simp [env, other, Env.find?, List.lookup_cons, apart]
  have agree : ∀ identifier : Identifier, identifier.OccursIn (Text.squeeze "xy * 2".toList) →
      env.find? identifier.name = other.find? identifier.name := by
    intro identifier occurs
    apply elsewhere
    intro same
    have spelled : identifier.spelled = ['x'] := String.ofList_injective same
    obtain ⟨before, after, whole, -, ends⟩ := occurs
    rw [spelled, show Text.squeeze "xy * 2".toList = ['x', 'y', '*', '2'] from rfl] at whole
    cases before with
    | nil =>
      have rest : ['y', '*', '2'] = after := (List.cons.inj whole).2
      rw [← rest] at ends
      exact absurd (ends 'y' rfl) (by decide)
    | cons c before =>
      have member : 'x' ∈ ['y', '*', '2'] := by
        rw [(List.cons.inj whole).2]
        simp
      exact absurd member (by decide)
  have grows : ∀ name value, env.find? name = some value → other.find? name = some value := by
    intro name value found
    by_cases same : name = "x"
    · rw [same] at found
      cases found
    · rw [← elsewhere name same, found]
  have fails : evaluate env "x * 2" = .error ⟨['x', '*', '2'], .undefinedName 1 ['x']⟩ := rfl
  refine ⟨agree, (evaluate_determined_by_occurrences env other _).1 agree, grows, fails, ?_⟩
  rcases (evaluate_determined_by_occurrences env other "x * 2").2 grows with
    kept | ⟨error, column, name, first, fault, defined⟩
  · rw [fails] at kept
    cases kept
  · rw [fails] at first
    cases first
    cases fault
    exact defined

theorem evaluate_of_fits {env : Env} {expression : String} {e : Expression}
    (text : e.text = Text.squeeze expression.toList) (fits : e.Fits (rulesOf env) 0) :
    evaluate env expression = .ok (e.interpret (.value env.read)) := by
  rw [evaluate_eq_ok_iff_derives]
  exact ⟨e.interpret .formula, ⟨e, text, rfl, fits⟩, e.value_formula env.read⟩

/-- Values do not matter to whether and how a text fails: under the same names it has one
derivation and a value in both environments, or one error. A derivation over declared names within
the allowance never fails. -/
theorem evaluate_failure_ignores_values {env other : Env}
    (sameNames : ∀ name, name ∈ env.names ↔ name ∈ other.names) (expression : String) :
    ((∃ e : Expression, e.text = Text.squeeze expression.toList ∧
        evaluate env expression = .ok (e.interpret (.value env.read)) ∧
        evaluate other expression = .ok (e.interpret (.value other.read))) ∨
      ∃ error, evaluate env expression = .error error ∧
        evaluate other expression = .error error) ∧
    ∀ e : Expression, e.text = Text.squeeze expression.toList → e.interpret .nesting ≤ allowance →
      (∀ name ∈ e.interpret .names, name ∈ env.names) →
      ∃ x y, evaluate env expression = .ok x ∧ evaluate other expression = .ok y := by
  have declares : other.declares = env.declares := by
    funext name
    rw [Bool.eq_iff_iff, other.declares_iff, env.declares_iff, sameNames]
  have bothFit : ∀ e : Expression, e.Fits (rulesOf env) 0 → e.Fits (rulesOf other) 0 := by
    intro e fits
    rwa [rulesOf, declares]
  constructor
  · cases parsed : parse env.declares (Text.squeeze expression.toList) with
    | ok formula =>
      obtain ⟨e, text, -, fits⟩ := (parseWithin_eq_ok_iff _ _ _ _).1 parsed
      exact .inl ⟨e, text, evaluate_of_fits text fits, evaluate_of_fits text (bothFit e fits)⟩
    | error fault =>
      refine .inr ⟨⟨Text.squeeze expression.toList, fault⟩, ?_, ?_⟩
      · rw [evaluate, evaluateText, parsed]
      · rw [evaluate, evaluateText, declares, parsed]
  · intro e text affordable declared
    have fits : e.Fits (rulesOf env) 0 := by
      refine ⟨fun name member => (env.declares_iff name).2 (declared name member), ?_⟩
      simpa [exceeds] using affordable
    exact ⟨_, _, evaluate_of_fits text fits, evaluate_of_fits text (bothFit e fits)⟩

/-- Divided by zero or by no number, one has a value; and the dangling sign is found in both. -/
theorem quotient_by_zero_has_value :
    let zero : Env := ⟨[("x", 0.0)]⟩
    let none : Env := ⟨[("x", 0.0 / 0.0)]⟩
    (∀ name, name ∈ zero.names ↔ name ∈ none.names) ∧
      (∃ x y, evaluate zero "1 / x" = .ok x ∧ evaluate none "1 / x" = .ok y) ∧
      evaluate none "1 / x -" = .error ⟨['1', '/', 'x', '-'], .missingOperand 5⟩ := by
  intro zero none
  have sameNames : ∀ name, name ∈ zero.names ↔ name ∈ none.names := fun name => Iff.rfl
  have fails : evaluate zero "1 / x -" = .error ⟨['1', '/', 'x', '-'], .missingOperand 5⟩ := rfl
  refine ⟨sameNames, ?_, ?_⟩
  · rcases (evaluate_failure_ignores_values sameNames "1 / x").1 with
      ⟨e, -, first, second⟩ | ⟨error, first, -⟩
    · exact ⟨_, _, first, second⟩
    · cases first
  · rcases (evaluate_failure_ignores_values sameNames "1 / x -").1 with
      ⟨e, -, first, -⟩ | ⟨error, first, second⟩
    · cases first
    · rw [second, ← first, fails]

end Formula

end BlockMachine
