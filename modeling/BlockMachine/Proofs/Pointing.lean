import BlockMachine.Proofs.FirstFault

/-!
What is told of a formula that fails points at what it names. The reader finds
its fault at the character it has come to, at the end of the text, or, for a
number or a name, where that began; and the number or name it tells of is the
longest run of its characters from there.
-/

namespace BlockMachine.Formula
open Grammar

/-- What stands at a column of the text, by the code and the detail that are told with it. -/
inductive Told (env : Env) (text : List Char) (column : Nat) : String → Option String → Prop
  | missingOperand (atEnd : column = text.length + 1) : Told env text column "EMPTY_FACTOR" none
  | unclosed (here : column = text.length + 1 ∨
        ∃ c, text[column - 1]? = some c ∧ c ∉ [')', '+', '-', '*', '/']) :
      Told env text column "UNBALANCED_PARENTHESES" none
  | malformedNumber {literal : List Char}
      (longest : literal = (text.drop (column - 1)).takeWhile Text.isNumeral)
      (nonempty : literal ≠ [])
      (malformed : 2 ≤ literal.count '.' ∨ ∀ c ∈ literal, Text.isDigit c = false) :
      Told env text column "INVALID_NUMBER_FORMAT" (some (String.ofList literal))
  | undefinedName {name : List Char}
      (longest : name = (text.drop (column - 1)).takeWhile Text.isNameChar)
      (letter : ∃ c ∈ name.head?, Text.isLetter c = true)
      (unknown : String.ofList name ∉ env.names) :
      Told env text column "UNDEFINED_VARIABLE" (some (String.ofList name))
  | unexpected {c : Char} (here : text[column - 1]? = some c) (noLetter : Text.isLetter c = false)
      (noDigit : Text.isDigit c = false) (noOpening : c ∉ ['.', '+', '-', '(']) :
      Told env text column "UNEXPECTED_CHARACTER" (some (String.singleton c))
  | trailing {c : Char} (here : text[column - 1]? = some c)
      (noOperator : c ∉ ['+', '-', '*', '/']) :
      Told env text column "TRAILING_INPUT" (some (String.singleton c))

/-- The fault has a column in the text or right behind it, unless the nesting is too deep, and
points at what it names. -/
def Points (env : Env) (text : List Char) (fault : Fault) : Prop :=
  fault = .tooDeep ∨ ∃ column, fault.column? = some column ∧ 1 ≤ column ∧
    column ≤ text.length + 1 ∧ Told env text column fault.code fault.detail?

theorem ne_of_sign?_eq_none {c : Char} (noSign : sign? c = none) : c ≠ '+' ∧ c ≠ '-' := by
  constructor
  · rintro rfl
    cases noSign
  · rintro rfl
    cases noSign

theorem ne_of_scale?_eq_none {c : Char} (noScale : scale? c = none) : c ≠ '*' ∧ c ≠ '/' := by
  constructor
  · rintro rfl
    cases noScale
  · rintro rfl
    cases noScale

/-- The character carries on the number or the name that is being spelled. -/
def State.collects : State → Char → Bool
  | .operand _ _, _ => false
  | .number _ _ _, c => Text.isNumeral c
  | .name _ _ _, c => Text.isNameChar c
  | .operator _, _ => false

theorem collects_of_step_error {rules : Rules} {column : Nat} {state : State} {c : Char}
    {fault : Fault} (refused : step rules column state c = .error fault) :
    state.collects c = false := by
  rw [Bool.eq_false_iff]
  intro carried
  cases state with
  | operand frame outer => cases carried
  | number frame outer spelled =>
    rw [State.collects] at carried
    simp only [step, carried, if_true] at refused
    cases refused
  | name frame outer spelled =>
    rw [State.collects] at carried
    simp only [step, carried, if_true] at refused
    cases refused
  | operator chain => cases carried

/-- A complete operand gives way to any character that does not carry it on. -/
theorem Settled.step_of_not_collects {rules : Rules} {state : State} {chain : Chain}
    (settled : Settled rules state chain) {c : Char} (apart : state.collects c = false)
    (column : Nat) : Formula.step rules column state c = extend rules column chain c := by
  cases settled with
  | operator => rfl
  | number reads =>
    rw [State.collects] at apart
    simp only [Formula.step, apart, Bool.false_eq_true, if_false, endNumber, reads]
    rfl
  | name declared =>
    rw [State.collects] at apart
    simp only [Formula.step, apart, Bool.false_eq_true, if_false, endName, declared, if_true]
    rfl

theorem takeWhile_run {inside : Char → Bool} {run rest : List Char}
    (allInside : ∀ c ∈ run, inside c = true) (ends : ∀ c ∈ rest.head?, inside c = false) :
    (run ++ rest).takeWhile inside = run := by
  rw [List.takeWhile_append_of_pos allInside]
  cases rest with
  | nil => simp
  | cons c rest => simp [ends c rfl]

theorem malformed_of_read? {literal : List Char} (malformed : Number.Literal.read? literal = none) :
    2 ≤ literal.count '.' ∨ ∀ c ∈ literal, Text.isDigit c = false := by
  unfold Number.Literal.read? at malformed
  split at malformed
  · cases malformed
  · next refused =>
    simp only [Number.Literal.isWellFormed, Bool.and_eq_true, decide_eq_true_eq,
      List.any_eq_true] at refused
    by_cases points : literal.count '.' ≤ 1
    · refine .inr fun c member => Bool.eq_false_iff.2 fun digit => ?_
      exact refused ⟨points, c, member, digit⟩
    · exact .inl (by omega)

/-- A number begins with its first character. -/
theorem step_ne_blank_number {rules : Rules} {column : Nat} {state : State} {c : Char}
    {frame : Frame} {outer : List Frame} :
    step rules column state c ≠ .ok (.go (.number frame outer [])) := by
  intro moved
  rcases step_cases moved with ⟨frame', outer', rfl, entered⟩ |
    ⟨frame', outer', spelled, rfl, -, go⟩ | ⟨frame', outer', spelled, rfl, -, go⟩ |
    ⟨chain, -, extended⟩
  · have enters := enter_enters rules column frame' outer' c
    rw [entered] at enters
    cases enters
  · cases go
  · cases go
  · have ended := extend_extends rules column chain c
    rw [extended] at ended
    cases ended

theorem Follows.ne_blank_number {rules : Rules} {column : Nat} {state last : State}
    {read : List Char} (follows : Follows rules column state read last) {frame : Frame}
    {outer : List Frame} (begun : state ≠ .number frame outer []) :
    last ≠ .number frame outer [] := by
  induction follows with
  | nil => exact begun
  | cons moves later ih =>
    apply ih
    rintro rfl
    exact step_ne_blank_number moves

/-- A fault whose column is that of a character of the text points at this character. -/
theorem points_at {env : Env} {read rest : List Char} {c : Char} {fault : Fault}
    (found : fault.column? = some (1 + read.length))
    (told : ∀ text column, text[column - 1]? = some c →
      Told env text column fault.code fault.detail?) : Points env (read ++ c :: rest) fault := by
  refine .inr ⟨1 + read.length, found, by omega, ?_, told _ _ (by simp)⟩
  simp only [List.length_append, List.length_cons]
  omega

theorem points_of_stop {env : Env} {read rest : List Char} {state : State} {c : Char}
    {formula : Formula}
    (stopped : step (rulesOf env) (1 + read.length) state c = .ok (.stop formula)) :
    Points env (read ++ c :: rest) (.trailing (1 + read.length) c) := by
  obtain ⟨chain, -, extended⟩ := exists_settled_of_stop stopped
  have ended := extend_extends (rulesOf env) (1 + read.length) chain c
  rw [extended] at ended
  cases ended with
  | stopped ends =>
    obtain ⟨noSign, noScale⟩ := ends rfl
    have noOperator : c ∉ ['+', '-', '*', '/'] := by
      simp [ne_of_sign?_eq_none noSign, ne_of_scale?_eq_none noScale]
    exact points_at rfl fun text column here => .trailing here noOperator

section Halting

variable {env : Env} {read rest : List Char} {last : State} {fault : Fault}
  (follows : Follows (rulesOf env) 1 .start read last)
include follows

/-- A number or name that is not complete is told as the longest run that starts at its column. -/
theorem Unsettled.points (unsettled : Unsettled (rulesOf env) (1 + read.length) last fault)
    (ends : ∀ c ∈ rest.head?, last.collects c = false) : Points env (read ++ rest) fault := by
  have spells := follows.spells (start_spells (rulesOf env))
  have longest : ∀ (before spelled : List Char) (inside : Char → Bool),
      read = before ++ spelled.reverse → (∀ c ∈ spelled.reverse, inside c = true) →
      (∀ c ∈ rest.head?, inside c = false) →
      spelled.reverse = ((read ++ rest).drop (before.length + 1 - 1)).takeWhile inside := by
    intro before spelled inside whole allInside apart
    rw [whole, Nat.add_sub_cancel, List.append_assoc, List.drop_left, takeWhile_run allInside apart]
  have place : ∀ before spelled : List Char, read = before ++ spelled.reverse →
      1 + read.length - spelled.length = before.length + 1 ∧
        before.length + 1 ≤ (read ++ rest).length + 1 := by
    intro before spelled whole
    rw [whole]
    simp only [List.length_append, List.length_reverse]
    omega
  cases unsettled with
  | @number frame outer spelled malformed =>
    obtain ⟨before, whole, -, numeric⟩ := spells
    obtain ⟨column, inside⟩ := place before spelled whole
    have run := longest before spelled Text.isNumeral whole (by simpa using numeric) ends
    have nonempty : spelled.reverse ≠ [] := by
      intro empty
      rw [List.reverse_eq_nil_iff] at empty
      subst empty
      exact follows.ne_blank_number (by intro blank; cases blank) rfl
    exact .inr ⟨before.length + 1, congrArg some column, by omega, inside,
      .malformedNumber run nonempty (malformed_of_read? malformed)⟩
  | @name frame outer spelled undeclared =>
    obtain ⟨before, identifier, spelling, whole, -⟩ := spells
    obtain ⟨column, inside⟩ := place before spelled whole
    have run := longest before spelled Text.isNameChar whole (spelling ▸ identifier.inName) ends
    have letter : ∃ c ∈ spelled.reverse.head?, Text.isLetter c = true :=
      ⟨identifier.first, by rw [← spelling]; rfl, identifier.letter⟩
    have unknown : String.ofList spelled.reverse ∉ env.names := by
      rw [← env.declares_iff]
      exact Bool.eq_false_iff.1 undeclared
    exact .inr ⟨before.length + 1, congrArg some column, by omega, inside,
      .undefinedName run letter unknown⟩

/-- A fault at the end of the text points there, or at the number or name that ends it. -/
theorem points_of_finish (refused : finish (rulesOf env) (1 + read.length) last = .error fault) :
    Points env read fault := by
  rcases finish_error_cases refused with ⟨frame, outer, rfl, rfl⟩ | unsettled | ⟨chain, -, rfl⟩
  · exact .inr ⟨1 + read.length, rfl, by omega, by omega, .missingOperand (by omega)⟩
  · rw [← List.append_nil read]
    exact unsettled.points follows (by simp)
  · exact .inr ⟨1 + read.length, rfl, by omega, by omega, .unclosed (.inl (by omega))⟩

/-- A fault at a character points at it, or at the number or name that ends before it. -/
theorem points_of_step {c : Char}
    (refused : step (rulesOf env) (1 + read.length) last c = .error fault) :
    Points env (read ++ c :: rest) fault := by
  have apart := collects_of_step_error refused
  rcases step_error_cases refused with ⟨frame, outer, rfl, -⟩ | unsettled | ⟨chain, settled, -⟩
  · have enters := enter_enters (rulesOf env) (1 + read.length) frame outer c
    rw [show enter _ _ frame outer c = .error fault from refused] at enters
    cases enters with
    | tooDeep => exact .inl rfl
    | unexpected noSign noParenthesis noNumeral noLetter =>
      rw [Text.isNumeral, Bool.or_eq_false_iff] at noNumeral
      have noPoint : c ≠ '.' := by simpa using noNumeral.2
      have noOpening : c ∉ ['.', '+', '-', '('] := by
        simp [noPoint, ne_of_sign?_eq_none noSign, noParenthesis]
      exact points_at rfl fun text column here => .unexpected here noLetter noNumeral.1 noOpening
  · exact unsettled.points follows (by simpa using apart)
  · have ended := extend_extends (rulesOf env) (1 + read.length) chain c
    rw [← settled.step_of_not_collects apart, refused] at ended
    cases ended with
    | unclosed noSign noScale noClosing =>
      have noOperator : c ∉ [')', '+', '-', '*', '/'] := by
        simp [noClosing, ne_of_sign?_eq_none noSign, ne_of_scale?_eq_none noScale]
      exact points_at rfl fun text column here => .unclosed (.inr ⟨c, here, noOperator⟩)

theorem Faulty.points {left : List Char}
    (faulty : Faulty (rulesOf env) (1 + read.length) last left fault) :
    Points env (read ++ left) fault := by
  cases faulty with
  | unfinished fails =>
    rw [List.append_nil]
    exact points_of_finish follows fails
  | refused refuses => exact points_of_step follows refuses
  | trailing stops => exact points_of_stop stops

end Halting

/-- What is told of a text without a value: the squeezed text, and either nesting that is too deep,
without a column and a detail, or a column of the text, or the one behind it, with what stands
there. -/
theorem evaluate_error_points {env : Env} {expression : String} {error : Error}
    (fails : evaluate env expression = .error error) :
    let text := Text.squeeze expression.toList
    let told := error.diagnostic
    told.text = some (String.ofList text) ∧
      (told.code = "NESTING_TOO_DEEP" ∧ told.column = none ∧ told.detail = none ∨
        ∃ column : Nat, told.column = some (column : Int) ∧ 1 ≤ column ∧
          column ≤ text.length + 1 ∧ Told env text column told.code told.detail) := by
  intro text told
  obtain ⟨same, read, left, last, whole, follows, faulty⟩ := faulty_of_evaluate fails
  have squeezed : text = read ++ left := same.symm.trans whole
  have pointed : Points env text error.fault := squeezed ▸ faulty.points follows
  refine ⟨congrArg (fun text => some (String.ofList text)) same, ?_⟩
  rcases pointed with deep | ⟨column, found, positive, inside, names⟩
  · left
    simp only [told, Error.diagnostic, deep]
    exact ⟨rfl, rfl, rfl⟩
  · right
    refine ⟨column, ?_, positive, inside, names⟩
    simp only [told, Error.diagnostic, found]
    rfl

/-- The number with two points is told as a whole, from where it begins, behind the blanks. -/
theorem number_with_two_points_told :
    let env : Env := ⟨[("x", 0.0)]⟩
    let error : Error := ⟨['x', '*', '(', '1', '.', '2', '.', '+', 'y'],
      .malformedNumber 4 ['1', '.', '2', '.']⟩
    evaluate env "x * (1.2. + y" = .error error ∧
      Told env error.text 4 "INVALID_NUMBER_FORMAT" (some "1.2.") := by
  intro env error
  have fails : evaluate env "x * (1.2. + y" = .error error := rfl
  rcases (evaluate_error_points fails).2 with ⟨deep, -⟩ | ⟨column, found, -, -, told⟩
  · exact absurd deep (by decide)
  · have four : column = 4 := (Int.ofNat.inj (Option.some.inj found)).symm
    subst four
    exact ⟨fails, told⟩

end BlockMachine.Formula
