import BlockMachine.Proofs.Recognition

/-!
The way of the reader through a text. It follows the text from state to state up
to a character, or up to the end, where it halts; a fault is found there and
nowhere before. Which way it takes is fixed by the text alone: two readers that
know different names part only where one of them meets a name it does not know.
-/

namespace BlockMachine.Formula

/-- The reader passes over the text, from one state to the other. -/
inductive Follows (rules : Rules) : Nat → State → List Char → State → Prop
  | nil {column : Nat} {state : State} : Follows rules column state [] state
  | cons {column : Nat} {state next last : State} {c : Char} {text : List Char}
      (moves : step rules column state c = .ok (.go next))
      (later : Follows rules (column + 1) next text last) :
      Follows rules column state (c :: text) last

/-- The reader goes no further: the text is at its end, or its first character stops it. -/
inductive Halts (rules : Rules) (column : Nat) (state : State) :
    List Char → Except Fault (Formula × List Char) → Prop
  | finished {formula : Formula} (finishes : finish rules column state = .ok formula) :
      Halts rules column state [] (.ok (formula, []))
  | unfinished {fault : Fault} (fails : finish rules column state = .error fault) :
      Halts rules column state [] (.error fault)
  | stopped {c : Char} {rest : List Char} {formula : Formula}
      (stops : step rules column state c = .ok (.stop formula)) :
      Halts rules column state (c :: rest) (.ok (formula, c :: rest))
  | refused {c : Char} {rest : List Char} {fault : Fault}
      (refuses : step rules column state c = .error fault) :
      Halts rules column state (c :: rest) (.error fault)

theorem scan_path (rules : Rules) (column : Nat) (state : State) (text : List Char) :
    ∃ read left last, text = read ++ left ∧ Follows rules column state read last ∧
      Halts rules (column + read.length) last left (scan rules column state text) := by
  induction text generalizing column state with
  | nil =>
    refine ⟨[], [], state, rfl, .nil, ?_⟩
    unfold scan
    cases result : finish rules column state with
    | error fault => exact .unfinished result
    | ok formula => exact .finished result
  | cons c text ih =>
    unfold scan
    split
    · next fault refuses => exact ⟨[], c :: text, state, rfl, .nil, .refused refuses⟩
    · next formula stops => exact ⟨[], c :: text, state, rfl, .nil, .stopped stops⟩
    · next next moves =>
      obtain ⟨read, left, last, whole, follows, halts⟩ := ih (column + 1) next
      refine ⟨c :: read, left, last, by rw [whole, List.cons_append], .cons moves follows, ?_⟩
      have place : column + (c :: read).length = column + 1 + read.length := by
        rw [List.length_cons]
        omega
      rw [place]
      exact halts

/-- How a text turns out to be no formula, where the reader halts. -/
inductive Faulty (rules : Rules) (column : Nat) (state : State) : List Char → Fault → Prop
  | unfinished {fault : Fault} (fails : finish rules column state = .error fault) :
      Faulty rules column state [] fault
  | refused {c : Char} {rest : List Char} {fault : Fault}
      (refuses : step rules column state c = .error fault) :
      Faulty rules column state (c :: rest) fault
  | trailing {c : Char} {rest : List Char} {formula : Formula}
      (stops : step rules column state c = .ok (.stop formula)) :
      Faulty rules column state (c :: rest) (.trailing column c)

/-- A text is a formula if it is followed to its end and may end there, and else has a fault. -/
theorem parseWithin_path (allowance : Option Nat) (declared : String → Bool) (text : List Char) :
    ∃ read left last, text = read ++ left ∧
      Follows ⟨.sum, allowance, declared⟩ 1 .start read last ∧
      match parseWithin allowance declared text with
      | .ok formula => left = [] ∧
          finish ⟨.sum, allowance, declared⟩ (1 + read.length) last = .ok formula
      | .error fault => Faulty ⟨.sum, allowance, declared⟩ (1 + read.length) last left fault := by
  obtain ⟨read, left, last, whole, follows, halts⟩ :=
    scan_path ⟨.sum, allowance, declared⟩ 1 .start text
  refine ⟨read, left, last, whole, follows, ?_⟩
  unfold parseWithin
  generalize scan ⟨.sum, allowance, declared⟩ 1 .start text = result at halts
  cases halts with
  | finished finishes => exact ⟨rfl, finishes⟩
  | unfinished fails => exact .unfinished fails
  | refused refuses => exact .refused refuses
  | @stopped c rest formula stops =>
    have place : text.length - rest.length = 1 + read.length := by
      rw [whole, List.length_append, List.length_cons]
      omega
    simp only [place]
    exact .trailing stops

theorem Follows.spells {rules : Rules} {column : Nat} {state last : State} {read text : List Char}
    (follows : Follows rules column state read last) (spells : state.Spells rules text) :
    last.Spells rules (text ++ read) := by
  induction follows generalizing text with
  | nil => rwa [List.append_nil]
  | @cons column state next last c read moves later ih =>
    have moved := ih (step_spells spells moves)
    rwa [List.append_assoc, List.singleton_append] at moved

/-- What is left to read is read from where the reader has come to. -/
theorem Follows.scan_eq {rules : Rules} {column : Nat} {state last : State} {read : List Char}
    (follows : Follows rules column state read last) (left : List Char) :
    scan rules column state (read ++ left) = scan rules (column + read.length) last left := by
  induction follows with
  | nil => rfl
  | @cons column state next last c read moves later ih =>
    have place : column + (c :: read).length = column + 1 + read.length := by
      rw [List.length_cons]
      omega
    simp only [List.cons_append, scan, moves, ih, place]

theorem Follows.of_append {rules : Rules} {column : Nat} {state last : State}
    {left right : List Char} (follows : Follows rules column state (left ++ right) last) :
    ∃ middle, Follows rules column state left middle ∧
      Follows rules (column + left.length) middle right last := by
  induction left generalizing column state with
  | nil => exact ⟨state, .nil, follows⟩
  | cons c left ih =>
    cases follows with
    | cons moves later =>
      obtain ⟨middle, before, after⟩ := ih later
      refine ⟨middle, .cons moves before, ?_⟩
      have place : column + (c :: left).length = column + 1 + left.length := by
        rw [List.length_cons]
        omega
      rw [place]
      exact after

/-- The end of the text is read without asking for a name, unless it stands behind one. -/
theorem finish_congr {rules others : Rules} {column : Nat} {state : State}
    (agree : ∀ frame outer spelled, state = .name frame outer spelled →
      rules.declared (String.ofList spelled.reverse) =
        others.declared (String.ofList spelled.reverse)) :
    finish rules column state = finish others column state := by
  cases state with
  | operand frame outer => rfl
  | number frame outer spelled => rfl
  | name frame outer spelled => simp only [finish, endName, agree frame outer spelled rfl]
  | operator chain => rfl

section Agreement

variable {rules others : Rules} (sameLevel : rules.level = others.level)
  (sameAllowance : rules.allowance = others.allowance)
include sameLevel sameAllowance

/-- A step consults the known names only behind a name. -/
theorem step_congr {column : Nat} {state : State} {c : Char}
    (agree : ∀ frame outer spelled, state = .name frame outer spelled →
      Text.isNameChar c = false → rules.declared (String.ofList spelled.reverse) =
        others.declared (String.ofList spelled.reverse)) :
    step rules column state c = step others column state c := by
  have extends_eq : ∀ chain, extend rules column chain c = extend others column chain c := by
    intro chain
    simp only [extend, sameLevel]
  cases state with
  | operand frame outer => simp only [step, enter, descend, sameAllowance]
  | number frame outer spelled => simp only [step, extends_eq]
  | name frame outer spelled =>
    cases inName : Text.isNameChar c with
    | true => simp only [step, inName, if_true]
    | false =>
      have known := agree frame outer spelled rfl inName
      simp only [step, endName, known, extends_eq]
  | operator chain => exact extends_eq chain

/-- Where neither reader meets an unknown name, both take the same step. -/
theorem step_eq_of_defined {column : Nat} {state : State} {c : Char}
    (first : ∀ place name, step rules column state c ≠ .error (.undefinedName place name))
    (second : ∀ place name, step others column state c ≠ .error (.undefinedName place name)) :
    step rules column state c = step others column state c := by
  apply step_congr sameLevel sameAllowance
  rintro frame outer spelled rfl outside
  have known : ∀ reader : Rules,
      (∀ place name, step reader column (.name frame outer spelled) c ≠
        .error (.undefinedName place name)) →
      reader.declared (String.ofList spelled.reverse) = true := by
    intro reader defined
    cases declared : reader.declared (String.ofList spelled.reverse) with
    | true => rfl
    | false =>
      refine absurd ?_ (defined (column - spelled.length) spelled.reverse)
      simp only [step, outside, Bool.false_eq_true, if_false, endName, declared]
      rfl
  rw [known rules first, known others second]

/-- The text alone says which way the reader takes. -/
theorem Follows.unique {column : Nat} {state last other : State} {text : List Char}
    (follows : Follows rules column state text last)
    (otherwise : Follows others column state text other) : last = other := by
  induction follows with
  | nil =>
    cases otherwise
    rfl
  | cons moves later ih =>
    cases otherwise with
    | cons moves' later' =>
      have same := step_eq_of_defined sameLevel sameAllowance
        (fun place name undefined => by rw [moves] at undefined; cases undefined)
        (fun place name undefined => by rw [moves'] at undefined; cases undefined)
      rw [moves, moves'] at same
      cases same
      exact ih later'

end Agreement

/-- The same rules with no bound on the nesting. -/
def Rules.unlimited (rules : Rules) : Rules :=
  { rules with allowance := none }

/-- The allowance can only stop the reader, never turn it elsewhere. -/
theorem step_eq_or_tooDeep (rules : Rules) (column : Nat) (state : State) (c : Char) :
    step rules column state c = .error .tooDeep ∨
      step rules column state c = step rules.unlimited column state c := by
  have deeper : ∀ frame outer, descend rules frame outer = .error .tooDeep ∨
      descend rules frame outer = descend rules.unlimited frame outer := by
    intro frame outer
    by_cases deep : exceeds rules.allowance (cost frame outer) = true
    · exact .inl (if_pos deep)
    · exact .inr (if_neg deep)
  cases state with
  | operand frame outer =>
    simp only [step, enter]
    split
    · exact deeper _ outer
    · split
      · exact deeper Frame.empty (frame :: outer)
      · exact .inr rfl
  | number frame outer spelled => exact .inr rfl
  | name frame outer spelled => exact .inr rfl
  | operator chain => exact .inr rfl

theorem scan_eq_or_tooDeep (rules : Rules) (column : Nat) (state : State) (text : List Char) :
    scan rules column state text = .error .tooDeep ∨
      scan rules column state text = scan rules.unlimited column state text := by
  induction text generalizing column state with
  | nil => exact .inr rfl
  | cons c text ih =>
    rw [scan, scan]
    rcases step_eq_or_tooDeep rules column state c with deep | same
    · exact .inl (by rw [deep])
    · rw [← same]
      cases step rules column state c with
      | error fault => exact .inr rfl
      | ok move =>
        cases move with
        | stop formula => exact .inr rfl
        | go next => exact ih (column + 1) next

/-- Unless it nests too deep, a text is read as if there were no allowance. -/
theorem parseWithin_eq_or_tooDeep (allowance : Option Nat) (declared : String → Bool)
    (text : List Char) :
    parseWithin allowance declared text = .error .tooDeep ∨
      parseWithin allowance declared text = parseWithin none declared text := by
  rcases scan_eq_or_tooDeep ⟨.sum, allowance, declared⟩ 1 .start text with deep | same
  · exact .inl (by rw [parseWithin, deep])
  · exact .inr (by rw [parseWithin, parseWithin, same]; rfl)

/-- What keeps a number or a name from being complete, right before the column. -/
inductive Unsettled (rules : Rules) (column : Nat) : State → Fault → Prop
  | number {frame : Frame} {outer : List Frame} {spelled : List Char}
      (malformed : Number.Literal.read? spelled.reverse = none) :
      Unsettled rules column (.number frame outer spelled)
        (.malformedNumber (column - spelled.length) spelled.reverse)
  | name {frame : Frame} {outer : List Frame} {spelled : List Char}
      (undeclared : rules.declared (String.ofList spelled.reverse) = false) :
      Unsettled rules column (.name frame outer spelled)
        (.undefinedName (column - spelled.length) spelled.reverse)

/-- What a character does where an operand is awaited. -/
inductive Enters (rules : Rules) (column : Nat) (frame : Frame) (outer : List Frame) (c : Char) :
    Except Fault Move → Prop
  | signed {sign : Sign} (found : sign? c = some sign)
      (affordable : exceeds rules.allowance (cost frame outer + 1) = false) :
      Enters rules column frame outer c
        (.ok (.go (.operand { frame with signs := sign :: frame.signs } outer)))
  | opened (opens : c = '(') (affordable : exceeds rules.allowance (cost frame outer + 3) = false) :
      Enters rules column frame outer c (.ok (.go (.operand Frame.empty (frame :: outer))))
  | number (numeral : Text.isNumeral c = true) :
      Enters rules column frame outer c (.ok (.go (.number frame outer [c])))
  | name (letter : Text.isLetter c = true) :
      Enters rules column frame outer c (.ok (.go (.name frame outer [c])))
  | tooDeep {spent : Nat} (beyond : exceeds rules.allowance spent = true) :
      Enters rules column frame outer c (.error .tooDeep)
  | unexpected (noSign : sign? c = none) (noParenthesis : c ≠ '(')
      (noNumeral : Text.isNumeral c = false) (noLetter : Text.isLetter c = false) :
      Enters rules column frame outer c (.error (.unexpected column c))

theorem enter_enters (rules : Rules) (column : Nat) (frame : Frame) (outer : List Frame)
    (c : Char) : Enters rules column frame outer c (enter rules column frame outer c) := by
  unfold enter
  split
  · next sign found =>
    rw [descend, cost_sign]
    split
    · next beyond => exact .tooDeep beyond
    · next affordable => exact .signed found (Bool.eq_false_iff.2 affordable)
  · next noSign =>
    split
    · next opens =>
      rw [descend, cost_open]
      split
      · next beyond => exact .tooDeep beyond
      · next affordable => exact .opened opens (Bool.eq_false_iff.2 affordable)
    · next noParenthesis =>
      split
      · next numeral => exact .number numeral
      · next noNumeral =>
        split
        · next letter => exact .name letter
        · next noLetter =>
          exact .unexpected noSign noParenthesis (Bool.eq_false_iff.2 noNumeral)
            (Bool.eq_false_iff.2 noLetter)

/-- What a character does behind a complete operand. -/
inductive Extends (rules : Rules) (column : Nat) (chain : Chain) (c : Char) :
    Except Fault Move → Prop
  | added {sign : Sign} (found : sign? c = some sign) :
      Extends rules column chain c
        (.ok (.go (.operand ⟨some (chain.total, sign), none, []⟩ chain.outer)))
  | scaled {scale : Scale} (found : scale? c = some scale) :
      Extends rules column chain c
        (.ok (.go (.operand ⟨chain.sum, some (chain.product, scale), []⟩ chain.outer)))
  | closed {frame : Frame} {outer : List Frame} (enclosing : chain.outer = frame :: outer)
      (closes : c = ')') :
      Extends rules column chain c (.ok (.go (.operator (frame.chain chain.total outer))))
  | unclosed (noSign : sign? c = none) (noScale : scale? c = none) (noClosing : c ≠ ')') :
      Extends rules column chain c (.error (.unclosed column))
  | stopped (ends : rules.level = .sum → sign? c = none ∧ scale? c = none) :
      Extends rules column chain c (.ok (.stop chain.total))

theorem extend_extends (rules : Rules) (column : Nat) (chain : Chain) (c : Char) :
    Extends rules column chain c (extend rules column chain c) := by
  unfold extend
  split
  · next sign found =>
    split
    · next leaves => exact .stopped fun whole => by simp [whole] at leaves
    · exact .added found
  · next noSign =>
    split
    · next scale found =>
      split
      · next leaves => exact .stopped fun whole => by simp [whole] at leaves
      · exact .scaled found
    · next noScale =>
      split
      · exact .stopped fun _ => ⟨noSign, noScale⟩
      · next frame outer enclosing =>
        split
        · next closes => exact .closed enclosing closes
        · next noClosing => exact .unclosed noSign noScale noClosing

theorem enter_error {rules : Rules} {column : Nat} {frame : Frame} {outer : List Frame} {c : Char}
    {fault : Fault} (refused : enter rules column frame outer c = .error fault) :
    fault = .tooDeep ∨ fault = .unexpected column c := by
  have enters := enter_enters rules column frame outer c
  rw [refused] at enters
  cases enters with
  | tooDeep => exact .inl rfl
  | unexpected => exact .inr rfl

theorem extend_error {rules : Rules} {column : Nat} {chain : Chain} {c : Char} {fault : Fault}
    (refused : extend rules column chain c = .error fault) : fault = .unclosed column := by
  have extended := extend_extends rules column chain c
  rw [refused] at extended
  cases extended with
  | unclosed => rfl

/-- Why a character is refused. -/
theorem step_error_cases {rules : Rules} {column : Nat} {state : State} {c : Char} {fault : Fault}
    (refused : step rules column state c = .error fault) :
    (∃ frame outer, state = .operand frame outer ∧
      (fault = .tooDeep ∨ fault = .unexpected column c)) ∨
    Unsettled rules column state fault ∨
    ∃ chain, Settled rules state chain ∧ fault = .unclosed column := by
  cases state with
  | operand frame outer => exact .inl ⟨frame, outer, rfl, enter_error refused⟩
  | number frame outer spelled =>
    simp only [step, endNumber] at refused
    split at refused
    · cases refused
    · split at refused
      · next value reads => exact .inr (.inr ⟨_, .number reads, extend_error refused⟩)
      · next malformed =>
        cases refused
        exact .inr (.inl (.number malformed))
  | name frame outer spelled =>
    simp only [step, endName] at refused
    split at refused
    · cases refused
    · split at refused
      · next declared => exact .inr (.inr ⟨_, .name declared, extend_error refused⟩)
      · next undeclared =>
        cases refused
        exact .inr (.inl (.name (Bool.eq_false_iff.2 undeclared)))
  | operator chain => exact .inr (.inr ⟨chain, .operator chain, extend_error refused⟩)

/-- Why a text may not end. -/
theorem finish_error_cases {rules : Rules} {column : Nat} {state : State} {fault : Fault}
    (refused : finish rules column state = .error fault) :
    (∃ frame outer, state = .operand frame outer ∧ fault = .missingOperand column) ∨
    Unsettled rules column state fault ∨
    ∃ chain, Settled rules state chain ∧ fault = .unclosed column := by
  have within : ∀ chain, conclude column chain = .error fault → fault = .unclosed column := by
    intro chain refused
    unfold conclude at refused
    split at refused
    · cases refused
    · cases refused
      rfl
  cases state with
  | operand frame outer =>
    cases refused
    exact .inl ⟨frame, outer, rfl, rfl⟩
  | number frame outer spelled =>
    simp only [finish, endNumber] at refused
    split at refused
    · next value reads => exact .inr (.inr ⟨_, .number reads, within _ refused⟩)
    · next malformed =>
      cases refused
      exact .inr (.inl (.number malformed))
  | name frame outer spelled =>
    simp only [finish, endName] at refused
    split at refused
    · next declared => exact .inr (.inr ⟨_, .name declared, within _ refused⟩)
    · next undeclared =>
      cases refused
      exact .inr (.inl (.name (Bool.eq_false_iff.2 undeclared)))
  | operator chain => exact .inr (.inr ⟨chain, .operator chain, within chain refused⟩)

theorem finish_ne_tooDeep {rules : Rules} {column : Nat} {state : State} :
    finish rules column state ≠ .error .tooDeep := by
  intro fails
  rcases finish_error_cases fails with ⟨frame, outer, -, fault⟩ | unsettled | ⟨chain, -, fault⟩
  · cases fault
  · cases unsettled
  · cases fault

/-- Only an allowance can be exceeded. -/
theorem allowance_of_tooDeep {rules : Rules} {column : Nat} {state : State} {c : Char}
    (refused : step rules column state c = .error .tooDeep) : rules.allowance ≠ none := by
  intro unlimited
  rcases step_error_cases refused with ⟨frame, outer, rfl, -⟩ | unsettled | ⟨chain, -, fault⟩
  · have enters := enter_enters rules column frame outer c
    rw [show enter _ _ frame outer _ = .error .tooDeep from refused] at enters
    cases enters with
    | tooDeep beyond =>
      rw [unlimited] at beyond
      cases beyond
  · cases unsettled
  · cases fault

end BlockMachine.Formula
