import BlockMachine.Proofs.History

/-!
Names under a renaming. Plain names are replaced one for one, and all others stay
as they are; in a formula, the names are the longest runs of letters and digits.
The reader goes through the renamed text as it goes through the text itself. It
keeps to the same states with other names in them, although it comes to them at
other columns, and so ends with the same value or with a fault of the same code.
-/

namespace BlockMachine

instance (name : String) : Decidable (PlainName name) :=
  decidable_of_iff ((!name.toList.isEmpty && name.toList.all Text.isPlainLetter) = true)
    (by simp [PlainName])

/-- A one-to-one map of the plain names to plain names. -/
structure Renaming where
  apply : {name : String // PlainName name} → {name : String // PlainName name}
  injective : Function.Injective apply

namespace Renaming

/-- The new name of a plain name; any other name is kept. -/
def on (r : Renaming) (name : String) : String :=
  if plain : PlainName name then r.apply ⟨name, plain⟩ else name

theorem on_of_plainName (r : Renaming) {name : String} (plain : PlainName name) :
    r.on name = r.apply ⟨name, plain⟩ := dif_pos plain

theorem on_of_not_plainName (r : Renaming) {name : String} (other : ¬PlainName name) :
    r.on name = name := dif_neg other

theorem plainName_on_iff (r : Renaming) (name : String) :
    PlainName (r.on name) ↔ PlainName name := by
  by_cases plain : PlainName name
  · rw [r.on_of_plainName plain]
    exact ⟨fun _ => plain, fun _ => (r.apply ⟨name, plain⟩).2⟩
  · rw [r.on_of_not_plainName plain]

theorem on_injective (r : Renaming) : Function.Injective r.on := by
  intro first second same
  have kinds : PlainName first ↔ PlainName second := by
    rw [← r.plainName_on_iff first, same, r.plainName_on_iff]
  by_cases plain : PlainName first
  · rw [r.on_of_plainName plain, r.on_of_plainName (kinds.1 plain)] at same
    exact congrArg Subtype.val (r.injective (Subtype.ext same))
  · rw [r.on_of_not_plainName plain, r.on_of_not_plainName (fun other => plain (kinds.2 other))]
      at same
    exact same

/-- The same, on the characters of a name. -/
def spell (r : Renaming) (spelled : List Char) : List Char :=
  (r.on (String.ofList spelled)).toList

theorem ofList_spell (r : Renaming) (spelled : List Char) :
    String.ofList (r.spell spelled) = r.on (String.ofList spelled) :=
  String.ofList_toList

/-- A name is renamed to letters, unless it is kept. -/
theorem spell_cases (r : Renaming) (spelled : List Char) :
    (PlainName (String.ofList spelled) ∧ r.spell spelled ≠ [] ∧
      ∀ c ∈ r.spell spelled, Text.isPlainLetter c = true) ∨
    ¬PlainName (String.ofList spelled) ∧ r.spell spelled = spelled := by
  by_cases plain : PlainName (String.ofList spelled)
  · exact .inl ⟨plain, (r.plainName_on_iff _).2 plain⟩
  · refine .inr ⟨plain, ?_⟩
    rw [spell, r.on_of_not_plainName plain, String.toList_ofList]

/-- Renames the names in the text of a formula: the longest runs of name characters. -/
def text (r : Renaming) : List Char → List Char
  | [] => []
  | c :: rest =>
    if Text.isNameChar c then
      r.spell (c :: rest.takeWhile Text.isNameChar) ++ r.text (rest.dropWhile Text.isNameChar)
    else c :: r.text rest
termination_by text => text.length
decreasing_by
  · exact Nat.lt_succ_of_le (List.dropWhile_sublist Text.isNameChar).length_le
  · exact Nat.lt_succ_self _

theorem isBlank_of_mem_text (r : Renaming) {text : List Char}
    (solid : ∀ c ∈ text, Text.isBlank c = false) : ∀ c ∈ r.text text, Text.isBlank c = false := by
  fun_induction r.text text with
  | case1 => exact solid
  | case2 c rest inName ih =>
    intro d member
    rcases List.mem_append.1 member with run | later
    · rcases r.spell_cases (c :: rest.takeWhile Text.isNameChar) with ⟨-, -, letters⟩ | ⟨-, kept⟩
      · exact Text.isBlank_of_isPlainLetter (letters d run)
      · rw [kept] at run
        rcases List.mem_cons.1 run with rfl | taken
        · exact solid d List.mem_cons_self
        · exact solid d (List.mem_cons_of_mem _ ((List.takeWhile_sublist _).subset taken))
    · refine ih (fun e inside => ?_) d later
      exact solid e (List.mem_cons_of_mem _ ((List.dropWhile_sublist _).subset inside))
  | case3 c rest outside ih =>
    intro d member
    rcases List.mem_cons.1 member with rfl | later
    · exact solid d List.mem_cons_self
    · exact ih (fun e inside => solid e (List.mem_cons_of_mem _ inside)) d later

end Renaming

namespace Env

/-- The same values under other names, in the same order. -/
def rename (r : Renaming) (env : Env) : Env :=
  ⟨env.entries.map fun (name, x) => (r.on name, x)⟩

theorem find?_rename (r : Renaming) (env : Env) (name : String) :
    (env.rename r).find? (r.on name) = env.find? name := by
  obtain ⟨entries⟩ := env
  simp only [rename, find?]
  induction entries with
  | nil => rfl
  | cons entry rest ih =>
    obtain ⟨key, x⟩ := entry
    have same : (r.on name == r.on key) = (name == key) := by
      rw [Bool.eq_iff_iff, beq_iff_eq, beq_iff_eq, r.on_injective.eq_iff]
    simp only [List.map_cons, List.lookup_cons, same, ih]

theorem declares_rename (r : Renaming) (env : Env) (name : String) :
    (env.rename r).declares (r.on name) = env.declares name := by
  rw [declares, find?_rename, declares]

theorem read_rename (r : Renaming) (env : Env) (name : String) :
    (env.rename r).read (r.on name) = env.read name := by
  rw [read, find?_rename, read]

end Env

/-- Both fail, with faults of one code, or neither does and the results belong together. -/
inductive Corresponds {ε κ α β : Type} (code : ε → κ) (alike : α → β → Prop) :
    Except ε α → Except ε β → Prop
  | ok {a : α} {b : β} (related : alike a b) : Corresponds code alike (.ok a) (.ok b)
  | error {fault other : ε} (same : code other = code fault) :
      Corresponds code alike (.error fault) (.error other)

theorem Corresponds.bind {ε κ α β γ δ : Type} {code : ε → κ} {alike : α → β → Prop}
    {later : γ → δ → Prop} {first : Except ε α} {second : Except ε β} {use : α → Except ε γ}
    {other : β → Except ε δ} (starts : Corresponds code alike first second)
    (continues : ∀ a b, alike a b → Corresponds code later (use a) (other b)) :
    Corresponds code later (first.bind use) (second.bind other) := by
  cases starts with
  | ok related => exact continues _ _ related
  | error same => exact .error same

theorem Corresponds.map {ε κ α β γ δ : Type} {code : ε → κ} {alike : α → β → Prop}
    {later : γ → δ → Prop} {first : Except ε α} {second : Except ε β} {use : α → γ} {other : β → δ}
    (starts : Corresponds code alike first second)
    (continues : ∀ a b, alike a b → later (use a) (other b)) :
    Corresponds code later (first.map use) (second.map other) := by
  cases starts with
  | ok related => exact .ok (continues _ _ related)
  | error same => exact .error same

namespace Formula

def rename (r : Renaming) : Formula → Formula
  | .number value => .number value
  | .named name => .named (r.on name)
  | .signed sign operand => .signed sign (operand.rename r)
  | .added left sign right => .added (left.rename r) sign (right.rename r)
  | .scaled left scale right => .scaled (left.rename r) scale (right.rename r)

/-- A renamed formula has its old value where the values are renamed. -/
theorem value_rename (r : Renaming) (env : Env) (formula : Formula) :
    (formula.rename r).value (env.rename r).read = formula.value env.read := by
  induction formula with
  | number value => rfl
  | named name => exact Env.read_rename r env name
  | signed sign operand ih => simp only [rename, value, ih]
  | added left sign right first second => simp only [rename, value, first, second]
  | scaled left scale right first second => simp only [rename, value, first, second]

def Frame.rename (r : Renaming) (frame : Frame) : Frame where
  sum := frame.sum.map fun (left, sign) => (left.rename r, sign)
  product := frame.product.map fun (left, scale) => (left.rename r, scale)
  signs := frame.signs

def Chain.rename (r : Renaming) (chain : Chain) : Chain where
  sum := chain.sum.map fun (left, sign) => (left.rename r, sign)
  product := chain.product.rename r
  outer := chain.outer.map (Frame.rename r)

def State.rename (r : Renaming) : State → State
  | .operand frame outer => .operand (frame.rename r) (outer.map (Frame.rename r))
  | .number frame outer spelled => .number (frame.rename r) (outer.map (Frame.rename r)) spelled
  | .name frame outer spelled =>
    .name (frame.rename r) (outer.map (Frame.rename r)) (r.spell spelled.reverse).reverse
  | .operator chain => .operator (chain.rename r)

def Move.rename (r : Renaming) : Move → Move
  | .go state => .go (state.rename r)
  | .stop formula => .stop (formula.rename r)

theorem Frame.close_rename (r : Renaming) (frame : Frame) (operand : Formula) :
    (frame.rename r).close (operand.rename r) = (frame.close operand).rename r := by
  obtain ⟨sum, product, signs⟩ := frame
  have signed : ∀ inner : Formula,
      signs.foldl (fun inner sign => .signed sign inner) (inner.rename r) =
        (signs.foldl (fun inner sign => .signed sign inner) inner).rename r := by
    induction signs with
    | nil => exact fun inner => rfl
    | cons sign signs ih => exact fun inner => ih (.signed sign inner)
  cases product with
  | none => exact signed operand
  | some left => simp only [close, Frame.rename, signed, Option.map_some, Formula.rename]

theorem Frame.chain_rename (r : Renaming) (frame : Frame) (operand : Formula)
    (outer : List Frame) :
    (frame.rename r).chain (operand.rename r) (outer.map (Frame.rename r)) =
      (frame.chain operand outer).rename r := by
  rw [chain, close_rename]
  rfl

theorem Chain.total_rename (r : Renaming) (chain : Chain) :
    (chain.rename r).total = chain.total.rename r := by
  obtain ⟨sum, product, outer⟩ := chain
  cases sum with
  | none => rfl
  | some left => rfl

theorem cost_rename (r : Renaming) (frame : Frame) (outer : List Frame) :
    cost (frame.rename r) (outer.map (Frame.rename r)) = cost frame outer := by
  rw [cost, List.foldr_map]
  rfl

/-- The second rules know a name exactly when the first know it under its old name. -/
structure Agree (r : Renaming) (rules others : Rules) : Prop where
  level : others.level = rules.level
  allowance : others.allowance = rules.allowance
  declared : ∀ name, others.declared (r.on name) = rules.declared name

/-- One step in the text and one in the renamed text, at columns of their own. -/
abbrev StepsAlike (r : Renaming) : Except Fault Move → Except Fault Move → Prop :=
  Corresponds Fault.code fun move other => other = move.rename r

abbrev ChainsAlike (r : Renaming) : Except Fault Chain → Except Fault Chain → Prop :=
  Corresponds Fault.code fun chain other => other = chain.rename r

/-- What is left behind the formula does not count, but whether anything is left. -/
abbrev ScansAlike (r : Renaming) :
    Except Fault (Formula × List Char) → Except Fault (Formula × List Char) → Prop :=
  Corresponds Fault.code fun (formula, left) (other, rest) =>
    other = formula.rename r ∧ (rest = [] ↔ left = [])

theorem endNumber_alike (r : Renaming) (column place : Nat) (frame : Frame) (outer : List Frame)
    (spelled : List Char) :
    ChainsAlike r (endNumber column frame outer spelled)
      (endNumber place (frame.rename r) (outer.map (Frame.rename r)) spelled) := by
  unfold endNumber
  cases Number.Literal.read? spelled.reverse with
  | none => exact .error rfl
  | some value => exact .ok (Frame.chain_rename r frame (.number value) outer)

section
variable {r : Renaming} {rules others : Rules} (agree : Agree r rules others)
include agree

theorem descend_alike (frame : Frame) (outer : List Frame) :
    StepsAlike r (descend rules frame outer)
      (descend others (frame.rename r) (outer.map (Frame.rename r))) := by
  simp only [descend, agree.allowance, cost_rename]
  split
  · exact .error rfl
  · exact .ok rfl

theorem enter_alike (column place : Nat) (frame : Frame) (outer : List Frame) {c : Char}
    (noLetter : Text.isLetter c = false) :
    StepsAlike r (enter rules column frame outer c)
      (enter others place (frame.rename r) (outer.map (Frame.rename r)) c) := by
  unfold enter
  cases sign? c with
  | some sign => exact descend_alike agree { frame with signs := sign :: frame.signs } outer
  | none =>
    simp only [noLetter, Bool.false_eq_true, if_false]
    split
    · exact descend_alike agree Frame.empty (frame :: outer)
    · split
      · exact .ok rfl
      · exact .error rfl

theorem extend_alike (column place : Nat) (chain : Chain) (c : Char) :
    StepsAlike r (extend rules column chain c) (extend others place (chain.rename r) c) := by
  have outermost : (chain.rename r).outer.isEmpty = chain.outer.isEmpty := List.isEmpty_map
  unfold extend
  cases sign? c with
  | some sign =>
    simp only [agree.level, outermost, Chain.total_rename]
    split
    · exact .ok rfl
    · exact .ok rfl
  | none =>
    cases scale? c with
    | some scale =>
      simp only [agree.level, outermost, Chain.total_rename]
      split
      · exact .ok rfl
      · exact .ok rfl
    | none =>
      simp only [Chain.total_rename]
      obtain ⟨sum, product, levels⟩ := chain
      cases levels with
      | nil => exact .ok rfl
      | cons frame outer =>
        simp only [Chain.rename, List.map_cons]
        split
        · refine .ok ?_
          rw [Frame.chain_rename]
          rfl
        · exact .error rfl

theorem endName_alike (column place : Nat) (frame : Frame) (outer : List Frame)
    (spelled : List Char) :
    ChainsAlike r (endName rules column frame outer spelled)
      (endName others place (frame.rename r) (outer.map (Frame.rename r))
        (r.spell spelled.reverse).reverse) := by
  simp only [endName, List.reverse_reverse, r.ofList_spell, agree.declared]
  split
  · exact .ok (Frame.chain_rename r frame (.named _) outer)
  · exact .error rfl

/-- A character between names is read alike. -/
theorem step_alike (column place : Nat) (state : State) {c : Char}
    (outside : Text.isNameChar c = false) :
    StepsAlike r (step rules column state c) (step others place (state.rename r) c) := by
  have noLetter : Text.isLetter c = false := by
    simp only [Text.isNameChar, Bool.or_eq_false_iff] at outside
    exact outside.1
  have extends_alike : ∀ chain other, other = chain.rename r →
      StepsAlike r (extend rules column chain c) (extend others place other c) := by
    rintro chain other rfl
    exact extend_alike agree column place chain c
  cases state with
  | operand frame outer => exact enter_alike agree column place frame outer noLetter
  | number frame outer spelled =>
    simp only [step, State.rename]
    split
    · exact .ok rfl
    · exact (endNumber_alike r column place frame outer spelled).bind extends_alike
  | name frame outer spelled =>
    simp only [step, State.rename, outside, Bool.false_eq_true, if_false]
    exact (endName_alike agree column place frame outer spelled).bind extends_alike
  | operator chain => exact extends_alike chain _ rfl

theorem finish_alike (column place : Nat) (state : State) :
    Corresponds Fault.code (fun formula other => other = formula.rename r)
      (finish rules column state) (finish others place (state.rename r)) := by
  have concludes_alike : ∀ chain other, other = chain.rename r →
      Corresponds Fault.code (fun formula other => other = formula.rename r)
        (conclude column chain) (conclude place other) := by
    rintro chain other rfl
    have outermost : (chain.rename r).outer.isEmpty = chain.outer.isEmpty := List.isEmpty_map
    simp only [conclude, outermost, Chain.total_rename]
    split
    · exact .ok rfl
    · exact .error rfl
  cases state with
  | operand frame outer => exact .error rfl
  | number frame outer spelled =>
    exact (endNumber_alike r column place frame outer spelled).bind concludes_alike
  | name frame outer spelled =>
    exact (endName_alike agree column place frame outer spelled).bind concludes_alike
  | operator chain => exact concludes_alike chain _ rfl

end

/-- The same digits, and then both at an end or each before a letter. -/
inductive SameDigits : List Char → List Char → Prop
  | done : SameDigits [] []
  | letters {c d : Char} {rest more : List Char} (first : Text.isLetter c = true)
      (second : Text.isLetter d = true) : SameDigits (c :: rest) (d :: more)
  | digit {c : Char} {rest more : List Char} (digit : Text.isDigit c = true)
      (later : SameDigits rest more) : SameDigits (c :: rest) (c :: more)

theorem SameDigits.refl {run : List Char} (inName : ∀ c ∈ run, Text.isNameChar c = true) :
    SameDigits run run := by
  induction run with
  | nil => exact .done
  | cons c rest ih =>
    have first := inName c List.mem_cons_self
    rw [Text.isNameChar, Bool.or_eq_true] at first
    rcases first with letter | digit
    · exact .letters letter letter
    · exact .digit digit (ih fun d member => inName d (List.mem_cons_of_mem _ member))

/-- A run that is renamed has no digits, before or after. -/
theorem sameDigits_spell (r : Renaming) {run : List Char}
    (inName : ∀ c ∈ run, Text.isNameChar c = true) : SameDigits run (r.spell run) := by
  rcases r.spell_cases run with ⟨⟨nonempty, plain⟩, renamed, letters⟩ | ⟨-, kept⟩
  · rw [String.toList_ofList] at nonempty plain
    cases run with
    | nil => exact absurd rfl nonempty
    | cons c rest =>
      cases spelled : r.spell (c :: rest) with
      | nil => exact absurd spelled renamed
      | cons d more =>
        rw [spelled] at letters
        exact .letters (Text.isLetter_of_isPlainLetter (plain c List.mem_cons_self))
          (Text.isLetter_of_isPlainLetter (letters d List.mem_cons_self))
  · rw [kept]
    exact .refl inName

theorem scale?_of_isSpelling {c : Char} (spelling : Text.isSpelling c = true) :
    scale? c = none := by
  cases found : scale? c with
  | none => rfl
  | some scale =>
    rw [eq_symbol_of_scale? found, Text.isSpelling_scale] at spelling
    cases spelling

/-- A complete formula is continued by operators and closing parentheses only. -/
theorem extend_of_foreign (rules : Rules) (column : Nat) (chain : Chain) {c : Char}
    (noSign : sign? c = none) (noScale : scale? c = none) (noClose : c ≠ ')') :
    extend rules column chain c =
      if chain.outer.isEmpty then .ok (.stop chain.total) else .error (.unclosed column) := by
  simp only [extend, noSign, noScale, noClose, if_false]
  cases chain.outer with
  | nil => rfl
  | cons frame outer => rfl

theorem extend_of_isSpelling (rules : Rules) (column : Nat) (chain : Chain) {c : Char}
    (spelling : Text.isSpelling c = true) :
    extend rules column chain c =
      if chain.outer.isEmpty then .ok (.stop chain.total) else .error (.unclosed column) := by
  have noClose : c ≠ ')' := by
    rintro rfl
    rw [Text.isSpelling_close] at spelling
    cases spelling
  exact extend_of_foreign rules column chain (sign?_of_isSpelling spelling)
    (scale?_of_isSpelling spelling) noClose

/-- Where neither reading can go on, the two end alike whatever the next characters are. -/
theorem scan_alike_of_chains {r : Renaming} {rules others : Rules} {column place : Nat}
    {state other : State} {c d : Char} {rest more : List Char} {first second : Except Fault Chain}
    (chains : ChainsAlike r first second)
    (here : step rules column state c = first.bind (extend rules column · c))
    (there : step others place other d = second.bind (extend others place · d))
    (spelling : Text.isSpelling c = true) (otherSpelling : Text.isSpelling d = true) :
    ScansAlike r (scan rules column state (c :: rest)) (scan others place other (d :: more)) := by
  simp only [scan, here, there]
  cases chains with
  | error same => exact .error same
  | @ok chain _ related =>
    subst related
    have outermost : (chain.rename r).outer.isEmpty = chain.outer.isEmpty := List.isEmpty_map
    simp only [Except.bind, extend_of_isSpelling _ _ _ spelling,
      extend_of_isSpelling _ _ _ otherSpelling, outermost, Chain.total_rename]
    cases chain.outer.isEmpty with
    | true => exact .ok ⟨rfl, by simp⟩
    | false => exact .error rfl

theorem scan_alike_of_letter {r : Renaming} {rules others : Rules} (column place : Nat)
    (frame : Frame) (outer : List Frame) (spelled : List Char) {c d : Char}
    {rest more : List Char} (letter : Text.isLetter c = true)
    (otherLetter : Text.isLetter d = true) :
    ScansAlike r (scan rules column (.number frame outer spelled) (c :: rest))
      (scan others place (State.rename r (.number frame outer spelled)) (d :: more)) := by
  apply scan_alike_of_chains (endNumber_alike r column place frame outer spelled)
  · simp only [step, Text.isNumeral_of_isLetter letter, Bool.false_eq_true, if_false]
  · simp only [step, State.rename, Text.isNumeral_of_isLetter otherLetter, Bool.false_eq_true,
      if_false]
  · exact Text.isSpelling_of_isNameChar (Text.isNameChar_of_isLetter letter)
  · exact Text.isSpelling_of_isNameChar (Text.isNameChar_of_isLetter otherLetter)

/-- A number goes on through the digits they share; a letter then ends both readings. -/
theorem SameDigits.scan_alike {r : Renaming} {rules others : Rules}
    {run other rest more : List Char} (same : SameDigits run other)
    (behind : ∀ column place frame outer spelled,
      ScansAlike r (scan rules column (.number frame outer spelled) rest)
        (scan others place (State.rename r (.number frame outer spelled)) more))
    (column place : Nat) (frame : Frame) (outer : List Frame) (spelled : List Char) :
    ScansAlike r (scan rules column (.number frame outer spelled) (run ++ rest))
      (scan others place (State.rename r (.number frame outer spelled)) (other ++ more)) := by
  induction same generalizing column place spelled with
  | done => exact behind column place frame outer spelled
  | letters first second => exact scan_alike_of_letter column place frame outer spelled first second
  | @digit c run other digit later ih =>
    have numeral : Text.isNumeral c = true := by simp [Text.isNumeral, digit]
    simp only [List.cons_append, scan, step, State.rename, numeral, if_true]
    exact ih (column + 1) (place + 1) (c :: spelled)

theorem exists_identifier_spell (r : Renaming) (identifier : Grammar.Identifier) :
    ∃ other : Grammar.Identifier, other.spelled = r.spell identifier.spelled := by
  rcases r.spell_cases identifier.spelled with ⟨plain, -⟩ | ⟨-, kept⟩
  · exact ((r.plainName_on_iff _).2 plain).exists_identifier
  · exact ⟨identifier, kept.symm⟩

/-- A run between two other characters is read alike: as a name where an operand is awaited, as
digits of a number, or as a character out of place. -/
theorem scan_alike_of_run {r : Renaming} {rules others : Rules} {c : Char}
    {run rest more : List Char} (inName : ∀ d ∈ c :: run, Text.isNameChar d = true)
    (behind : ∀ column place state,
      ScansAlike r (scan rules column state rest) (scan others place (state.rename r) more))
    (column place : Nat) {state : State}
    (between : ∀ frame outer spelled, state ≠ .name frame outer spelled) :
    ScansAlike r (scan rules column state (c :: run ++ rest))
      (scan others place (state.rename r) (r.spell (c :: run) ++ more)) := by
  have same := sameDigits_spell r inName
  have spelling := Text.isSpelling_of_isNameChar (inName c List.mem_cons_self)
  cases state with
  | name frame outer spelled => exact absurd rfl (between frame outer spelled)
  | number frame outer spelled =>
    exact same.scan_alike (fun column place frame outer spelled => behind column place _)
      column place frame outer spelled
  | operator chain =>
    have chains : ChainsAlike r (.ok chain) (.ok (chain.rename r)) := .ok rfl
    generalize r.spell (c :: run) = other at same
    cases same with
    | letters letter otherLetter =>
      exact scan_alike_of_chains chains rfl rfl spelling
        (Text.isSpelling_of_isNameChar (Text.isNameChar_of_isLetter otherLetter))
    | digit => exact scan_alike_of_chains chains rfl rfl spelling spelling
  | operand frame outer =>
    by_cases letter : Text.isLetter c = true
    · let identifier : Grammar.Identifier :=
        ⟨c, run, letter, fun d member => inName d (List.mem_cons_of_mem _ member)⟩
      obtain ⟨other, spells⟩ := exists_identifier_spell r identifier
      have here := reaches_identifier rules frame outer identifier column rest
      have there := reaches_identifier others (frame.rename r) (outer.map (Frame.rename r)) other
        place more
      have alike := behind (column + identifier.spelled.length) (place + other.spelled.length)
        (.name frame outer identifier.spelled.reverse)
      simp only [State.rename, List.reverse_reverse, ← spells] at alike
      rw [← here, ← there, spells] at alike
      exact alike
    · generalize r.spell (c :: run) = other at same
      cases same with
      | letters first => exact absurd first letter
      | digit digit later =>
        have numeral : Text.isNumeral c = true := by simp [Text.isNumeral, digit]
        have entered : ∀ rules column frame outer,
            step rules column (.operand frame outer) c = .ok (.go (.number frame outer [c])) := by
          intro rules column frame outer
          simp only [step, enter, sign?_of_isSpelling spelling, ne_open_of_isSpelling spelling,
            numeral, if_true, if_false]
        simp only [List.cons_append, scan, State.rename, entered]
        exact later.scan_alike (fun column place frame outer spelled => behind column place _)
          (column + 1) (place + 1) frame outer [c]

/-- Only letters and digits lead into a name. -/
theorem isNameChar_of_step {rules : Rules} {column : Nat} {state : State} {c : Char}
    {frame : Frame} {outer : List Frame} {spelled : List Char}
    (moved : step rules column state c = .ok (.go (.name frame outer spelled))) :
    Text.isNameChar c = true := by
  rcases step_cases moved with ⟨level, levels, rfl, entered⟩ |
    ⟨level, levels, spelling, rfl, numeral, go⟩ | ⟨level, levels, spelling, rfl, inName, go⟩ |
    ⟨chain, settled, extended⟩
  · unfold enter at entered
    split at entered
    · cases (descend_eq_ok entered).2
    · split at entered
      · cases (descend_eq_ok entered).2
      · split at entered
        · cases entered
        · split at entered
          · next letter => exact Text.isNameChar_of_isLetter letter
          · cases entered
  · cases go
  · exact inName
  · unfold extend at extended
    split at extended
    · split at extended
      · cases extended
      · cases extended
    · split at extended
      · split at extended
        · cases extended
        · cases extended
      · split at extended
        · cases extended
        · split at extended
          · cases extended
          · cases extended

section
variable {r : Renaming} {rules others : Rules} (agree : Agree r rules others)
include agree

-- The induction follows the renaming of the text, one run or one other character at a time. It
-- never starts inside a run, so a name that is being spelled has come to its end.
theorem scan_alike (text : List Char) (column place : Nat) (state : State)
    (spelled : ∀ frame outer spelling, state = .name frame outer spelling →
      ∀ c ∈ text.head?, Text.isNameChar c = false) :
    ScansAlike r (scan rules column state text)
      (scan others place (state.rename r) (r.text text)) := by
  fun_induction r.text text generalizing column place state with
  | case1 =>
    exact (finish_alike agree column place state).map fun formula other related =>
      ⟨related, Iff.rfl⟩
  | case2 c rest inName ih =>
    have whole : c :: rest =
        c :: rest.takeWhile Text.isNameChar ++ rest.dropWhile Text.isNameChar := by
      rw [List.cons_append, List.takeWhile_append_dropWhile]
    rw [whole]
    apply scan_alike_of_run
    · intro d member
      rcases List.mem_cons.1 member with rfl | taken
      · exact inName
      · exact List.all_eq_true.1 (List.all_takeWhile) d taken
    · intro column place next
      apply ih
      intro frame outer spelling _ d first
      have ends := List.head?_dropWhile_not Text.isNameChar rest
      rw [Option.mem_def.1 first] at ends
      exact ends
    · rintro frame outer spelling rfl
      rw [spelled frame outer spelling rfl c rfl] at inName
      cases inName
  | case3 c rest outside ih =>
    rw [Bool.not_eq_true] at outside
    have alike := step_alike agree column place state outside
    simp only [scan]
    generalize moved : step rules column state c = here at alike
    generalize step others place (state.rename r) c = there at alike
    cases alike with
    | error same => exact .error same
    | @ok move _ related =>
      subst related
      cases move with
      | stop formula => exact .ok ⟨rfl, by simp⟩
      | go next =>
        apply ih
        rintro frame outer spelling rfl
        rw [isNameChar_of_step moved] at outside
        cases outside

end

theorem parse_alike (r : Renaming) (env : Env) (text : List Char) :
    Corresponds Fault.code (fun formula other => other = formula.rename r)
      (parse env.declares text) (parse (env.rename r).declares (r.text text)) := by
  have agree : Agree r (rulesOf env) (rulesOf (env.rename r)) :=
    ⟨rfl, rfl, env.declares_rename r⟩
  have alike := scan_alike agree text 1 1 .start nofun
  rw [show State.rename r .start = .start from rfl] at alike
  unfold parse parseWithin
  generalize scan (rulesOf env) 1 .start text = here at alike
  generalize scan (rulesOf (env.rename r)) 1 .start (r.text text) = there at alike
  cases alike with
  | error same => exact .error same
  | @ok ends others related =>
    obtain ⟨formula, left⟩ := ends
    obtain ⟨other, rest⟩ := others
    obtain ⟨renamed, ended⟩ := related
    cases left with
    | nil =>
      rw [ended.2 rfl]
      exact .ok renamed
    | cons c left =>
      cases rest with
      | nil => cases ended.1 rfl
      | cons d rest => exact .error rfl

end Formula

/-- The text of a formula without its blanks, its names renamed. -/
def Renaming.expression (r : Renaming) (expression : String) : String :=
  String.ofList (r.text (Text.squeeze expression.toList))

/-- Renamed, an expression has the same value or a fault of the same code. -/
theorem Formula.evaluate_alike (r : Renaming) (env : Env) (expression : String) :
    Corresponds (fun error : Formula.Error => error.fault.code) Eq (evaluate env expression)
      (evaluate (env.rename r) (r.expression expression)) := by
  have solid : Text.squeeze (r.text (Text.squeeze expression.toList)) =
      r.text (Text.squeeze expression.toList) :=
    Text.squeeze_eq_self (r.isBlank_of_mem_text fun c => Text.isBlank_of_mem_squeeze)
  have alike := parse_alike r env (Text.squeeze expression.toList)
  simp only [evaluate, Renaming.expression, String.toList_ofList, solid, evaluateText]
  generalize parse env.declares (Text.squeeze expression.toList) = here at alike
  generalize parse (env.rename r).declares (r.text (Text.squeeze expression.toList)) = there
    at alike
  cases alike with
  | error same => exact .error same
  | ok related =>
    subst related
    exact .ok (value_rename r env _).symm

end BlockMachine
