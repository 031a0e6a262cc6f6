import BlockMachine.Proofs.History
import BlockMachine.Proofs.Trimming

/-!
Lists of names as they are written. The commas cut a text into its parts, in one
way only; a part is blank, or it is a name with blanks around it. What a text
lists is the sequence of its names, and it is a list of names when there is one
at least and all of them are plain. Two texts with a comma between them list what
the first lists and then what the second lists.
-/

namespace BlockMachine.Block

theorem pieces_ne_nil (text : List Char) : pieces text ≠ [] := by
  cases text with
  | nil => simp [pieces]
  | cons c rest =>
    unfold pieces
    split
    · simp
    · split
      · simp
      · simp

theorem pieces_cons {c : Char} (other : c ≠ ',') {rest piece : List Char}
    {more : List (List Char)} (parts : pieces rest = piece :: more) :
    pieces (c :: rest) = (c :: piece) :: more := by
  simp only [pieces, other, if_false, parts]

theorem comma_not_mem_pieces {text piece : List Char} (member : piece ∈ pieces text) :
    ',' ∉ piece := by
  induction text generalizing piece with
  | nil =>
    rw [pieces, List.mem_singleton] at member
    simp [member]
  | cons c rest ih =>
    obtain ⟨start, more, parts⟩ := List.exists_cons_of_ne_nil (pieces_ne_nil rest)
    by_cases comma : c = ','
    · simp only [pieces, comma, if_true] at member
      rcases List.mem_cons.1 member with rfl | later
      · exact List.not_mem_nil
      · exact ih later
    · rw [pieces_cons comma parts] at member
      rcases List.mem_cons.1 member with rfl | later
      · exact List.not_mem_cons_of_ne_of_not_mem (Ne.symm comma) (ih (parts ▸ List.mem_cons_self))
      · exact ih (parts ▸ List.mem_cons_of_mem _ later)

/-- The parts with commas between them are the text again. -/
theorem intercalate_pieces (text : List Char) : List.intercalate [','] (pieces text) = text := by
  induction text with
  | nil => rfl
  | cons c rest ih =>
    obtain ⟨start, more, parts⟩ := List.exists_cons_of_ne_nil (pieces_ne_nil rest)
    rw [parts] at ih
    by_cases comma : c = ','
    · simp only [pieces, comma, if_true, parts]
      rw [List.intercalate_cons_cons, ih]
      rfl
    · rw [pieces_cons comma parts, ← ih]
      cases more with
      | nil => rw [List.intercalate_singleton, List.intercalate_singleton]
      | cons second more => rw [List.intercalate_cons_cons, List.intercalate_cons_cons]; rfl

theorem pieces_of_not_mem {piece : List Char} (whole : ',' ∉ piece) : pieces piece = [piece] := by
  induction piece with
  | nil => rfl
  | cons c rest ih =>
    simp only [List.mem_cons, not_or] at whole
    exact pieces_cons (Ne.symm whole.1) (ih whole.2)

theorem pieces_append (left right : List Char) :
    pieces (left ++ ',' :: right) = pieces left ++ pieces right := by
  induction left with
  | nil => simp [pieces]
  | cons c rest ih =>
    obtain ⟨start, more, parts⟩ := List.exists_cons_of_ne_nil (pieces_ne_nil rest)
    by_cases comma : c = ','
    · simp only [List.cons_append, pieces, comma, if_true, ih]
    · rw [parts, List.cons_append] at ih
      rw [List.cons_append, pieces_cons comma ih, pieces_cons comma parts, List.cons_append]

theorem pieces_intercalate {parts : List (List Char)} (nonempty : parts ≠ [])
    (whole : ∀ part ∈ parts, ',' ∉ part) : pieces (List.intercalate [','] parts) = parts := by
  induction parts with
  | nil => exact absurd rfl nonempty
  | cons part rest ih =>
    have first := pieces_of_not_mem (whole part List.mem_cons_self)
    cases rest with
    | nil => rw [List.intercalate_singleton, first]
    | cons second rest =>
      rw [List.intercalate_cons_cons, List.append_assoc, List.singleton_append, pieces_append, first,
        ih (by simp) fun other member => whole other (List.mem_cons_of_mem _ member)]
      rfl

/-- The parts write the names: each part is blank, or the next of the names between blanks. -/
inductive Written : List (List Char) → List String → Prop
  | nil : Written [] []
  | blank {part : List Char} {parts : List (List Char)} {names : List String}
      (blank : ∀ c ∈ part, Text.isBlank c = true) (rest : Written parts names) :
      Written (part :: parts) names
  | name {part : List Char} {parts : List (List Char)} {name : String} {names : List String}
      (trims : Text.Trims Text.isBlank part name.toList) (nonempty : name.toList ≠ [])
      (rest : Written parts names) : Written (part :: parts) (name :: names)

/-- The text is made of parts without commas, one comma between two of them, that write the names. -/
def Lists (text : String) (names : List String) : Prop :=
  ∃ parts, parts ≠ [] ∧ (∀ part ∈ parts, ',' ∉ part) ∧
    text.toList = List.intercalate [','] parts ∧ Written parts names

/-- The trimmed parts, blank ones left out. -/
def namesOf (parts : List (List Char)) : List String :=
  ((parts.map Text.trim).filter fun name => !name.isEmpty).map String.ofList

theorem namesOf_cons (part : List Char) (parts : List (List Char)) :
    namesOf (part :: parts) = if (Text.trim part).isEmpty then namesOf parts
      else String.ofList (Text.trim part) :: namesOf parts := by
  unfold namesOf
  cases blank : (Text.trim part).isEmpty with
  | true => simp [blank]
  | false => simp [blank]

theorem namesOf_givenNames (text : String) :
    (givenNames text).map String.ofList = namesOf (pieces text.toList) := rfl

theorem written_namesOf (parts : List (List Char)) : Written parts (namesOf parts) := by
  induction parts with
  | nil => exact .nil
  | cons part parts ih =>
    have trims := Text.trims_trimBy Text.isBlank part
    rw [namesOf_cons]
    split
    · next empty =>
      have nothing : Text.trimBy Text.isBlank part = [] := List.isEmpty_iff.1 empty
      rw [nothing] at trims
      exact .blank ((Text.trims_nil_iff _ _).1 trims) ih
    · next filled =>
      refine .name ?_ ?_ ih
      · rw [String.toList_ofList]
        exact trims
      · rw [String.toList_ofList]
        simpa using filled

theorem Written.eq_namesOf {parts : List (List Char)} {names : List String}
    (written : Written parts names) : names = namesOf parts := by
  induction written with
  | nil => rfl
  | blank blank rest ih =>
    have empty := ((Text.trims_nil_iff _ _).2 blank).trimBy_eq
    rw [namesOf_cons, Text.trim, empty, ih]
    rfl
  | @name part parts name names trims nonempty rest ih =>
    have core : Text.trim part = name.toList := trims.trimBy_eq
    rw [namesOf_cons, core, List.isEmpty_eq_false_iff.2 nonempty, String.ofList_toList, ih]
    rfl

/-- Every text lists one sequence of names, the one that is looked at. -/
theorem lists_iff (text : String) (names : List String) :
    Lists text names ↔ (givenNames text).map String.ofList = names := by
  rw [namesOf_givenNames]
  constructor
  · rintro ⟨parts, nonempty, whole, joined, written⟩
    rw [joined, pieces_intercalate nonempty whole, written.eq_namesOf]
  · rintro rfl
    exact ⟨pieces text.toList, pieces_ne_nil _, fun _ => comma_not_mem_pieces,
      (intercalate_pieces _).symm, written_namesOf _⟩

theorem plainName_ofList_iff {name : List Char} (nonempty : name ≠ []) :
    PlainName (String.ofList name) ↔ name.all Text.isPlainLetter = true := by
  rw [PlainName, String.toList_ofList, List.all_eq_true]
  exact ⟨fun plain => plain.2, fun letters => ⟨nonempty, letters⟩⟩

theorem ne_nil_of_mem_givenNames {text : String} {name : List Char}
    (member : name ∈ givenNames text) : name ≠ [] := by
  have filled := (List.mem_filter.1 member).2
  simpa using filled

/-- What is made of the names that a text lists: none, the first one that is not plain, or all. -/
inductive Decoded (names : List String) : Except Fault (List String) → Prop
  | noNames (nothing : names = []) : Decoded names (.error .noNames)
  | invalidName {before after : List String} {name : String}
      (first : names = before ++ name :: after) (plain : ∀ earlier ∈ before, PlainName earlier)
      (invalid : ¬PlainName name) : Decoded names (.error (.invalidName name))
  | names (nonempty : names ≠ []) (plain : ∀ name ∈ names, PlainName name) :
      Decoded names (.ok names)

theorem decoded_parseNames (text : String) :
    Decoded ((givenNames text).map String.ofList) (parseNames text) := by
  have plain : ∀ given : List (List Char), (∀ name ∈ given, name ∈ givenNames text) →
      AllPlain given → ∀ name ∈ given.map String.ofList, PlainName name := by
    intro given listed letters name member
    obtain ⟨spelled, inside, rfl⟩ := List.mem_map.1 member
    exact (plainName_ofList_iff (ne_nil_of_mem_givenNames (listed _ inside))).2 (letters _ inside)
  -- a declaration does one of three things, and these are told apart by the names it is given
  have does := does_declare .empty text
  generalize (Block.declare text).perform .empty = result at does
  cases does with
  | noNames blank =>
    have refused : parseNames text = .error .noNames := by simp [parseNames, blank]
    rw [refused, blank]
    exact .noNames rfl
  | @invalidName _ before after name given valid invalid =>
    have listed : name ∈ givenNames text := by simp [given]
    have split : (givenNames text).map String.ofList =
        before.map String.ofList ++ String.ofList name :: after.map String.ofList := by
      rw [given, List.map_append, List.map_cons]
    rw [parseNames_of_invalid given valid invalid]
    apply Decoded.invalidName split
    · apply plain before _ valid
      intro other member
      rw [given]
      exact List.mem_append_left _ member
    · rw [plainName_ofList_iff (ne_nil_of_mem_givenNames listed), invalid]
      exact Bool.false_ne_true
  | declared given valid =>
    rw [parseNames_of_valid given valid]
    exact .names (by simpa using given) (plain _ (fun _ member => member) valid)

/-- A text that lists these names is decoded as they are. -/
theorem Lists.decoded {text : String} {names : List String} (lists : Lists text names) :
    Decoded names (parseNames text) := by
  rw [← (lists_iff text names).1 lists]
  exact decoded_parseNames text

theorem exists_lists (text : String) : ∃ names, Lists text names :=
  ⟨_, (lists_iff text _).2 rfl⟩

/-- Of the names that are not plain, one comes first. -/
theorem first_invalid_unique {before others after rest : List String} {name other : String}
    (same : before ++ name :: after = others ++ other :: rest)
    (plain : ∀ earlier ∈ before, PlainName earlier) (invalid : ¬PlainName name)
    (otherPlain : ∀ earlier ∈ others, PlainName earlier) (otherInvalid : ¬PlainName other) :
    name = other := by
  induction before generalizing others with
  | nil =>
    cases others with
    | nil => exact (List.cons.inj same).1
    | cons head others =>
      have first : name = head := (List.cons.inj same).1
      exact absurd (otherPlain head List.mem_cons_self) (first ▸ invalid)
  | cons head before ih =>
    cases others with
    | nil =>
      have first : head = other := (List.cons.inj same).1
      exact absurd (plain head List.mem_cons_self) (first ▸ otherInvalid)
    | cons head' others =>
      exact ih (List.cons.inj same).2 (fun earlier member => plain earlier (.tail _ member))
        fun earlier member => otherPlain earlier (.tail _ member)

/-- The names alone say what is made of them. -/
theorem Decoded.unique {names : List String} {result other : Except Fault (List String)}
    (first : Decoded names result) (second : Decoded names other) : result = other := by
  cases first with
  | noNames nothing =>
    cases second with
    | noNames => rfl
    | invalidName split => simp [nothing] at split
    | names nonempty => exact absurd nothing nonempty
  | invalidName split plain invalid =>
    cases second with
    | noNames nothing => simp [nothing] at split
    | invalidName split' plain' invalid' =>
      rw [first_invalid_unique (split.symm.trans split') plain invalid plain' invalid']
    | names nonempty allPlain => exact absurd (allPlain _ (by simp [split])) invalid
  | names nonempty allPlain =>
    cases second with
    | noNames nothing => exact absurd nothing nonempty
    | invalidName split plain invalid => exact absurd (allPlain _ (by simp [split])) invalid
    | names => rfl

theorem parseNames_eq_ok_iff (text : String) (names : List String) :
    parseNames text = .ok names ↔
      Lists text names ∧ names ≠ [] ∧ ∀ name ∈ names, PlainName name := by
  constructor
  · intro parsed
    obtain ⟨listed, lists⟩ := exists_lists text
    have decoded := lists.decoded
    rw [parsed] at decoded
    cases decoded with
    | names nonempty plain => exact ⟨lists, nonempty, plain⟩
  · rintro ⟨lists, nonempty, plain⟩
    exact lists.decoded.unique (.names nonempty plain)

theorem parseNames_eq_noNames_iff (text : String) :
    parseNames text = .error .noNames ↔ Lists text [] := by
  constructor
  · intro refused
    obtain ⟨listed, lists⟩ := exists_lists text
    have decoded := lists.decoded
    rw [refused] at decoded
    cases decoded with
    | noNames nothing => exact nothing ▸ lists
  · intro lists
    exact lists.decoded.unique (.noNames rfl)

theorem parseNames_eq_invalidName_iff (text name : String) :
    parseNames text = .error (.invalidName name) ↔
      ∃ before after, Lists text (before ++ name :: after) ∧
        (∀ earlier ∈ before, PlainName earlier) ∧ ¬PlainName name := by
  constructor
  · intro refused
    obtain ⟨listed, lists⟩ := exists_lists text
    have decoded := lists.decoded
    rw [refused] at decoded
    cases decoded with
    | @invalidName before after _ first plain invalid =>
      exact ⟨before, after, first ▸ lists, plain, invalid⟩
  · rintro ⟨before, after, lists, plain, invalid⟩
    exact lists.decoded.unique (.invalidName rfl plain invalid)

theorem Lists.append {left right : String} {names others : List String} (first : Lists left names)
    (second : Lists right others) : Lists (left ++ "," ++ right) (names ++ others) := by
  rw [lists_iff] at first second ⊢
  have cut : (left ++ "," ++ right).toList = left.toList ++ ',' :: right.toList := by simp
  simp only [givenNames, cut, pieces_append, List.map_append, List.filter_append]
  rw [← first, ← second]
  rfl

/-- Plain names may be written with any blanks around them, and with blank parts between them. -/
theorem Written.lists {parts : List (List Char)} {names : List String}
    (written : Written parts names) (nonempty : names ≠ [])
    (plain : ∀ name ∈ names, PlainName name) :
    Lists (String.ofList (List.intercalate [','] parts)) names := by
  refine ⟨parts, ?_, ?_, String.toList_ofList, written⟩
  · rintro rfl
    cases written
    exact nonempty rfl
  · clear nonempty
    induction written with
    | nil => simp
    | @blank part parts names blank rest ih =>
      intro other member
      rcases List.mem_cons.1 member with rfl | later
      · intro comma
        exact absurd (blank _ comma) (by decide)
      · exact ih plain other later
    | @name part parts name names trims _ rest ih =>
      intro other member
      rcases List.mem_cons.1 member with rfl | later
      · obtain ⟨⟨before, after, whole, front, back⟩, -, -⟩ := trims
        intro comma
        rw [whole, List.mem_append, List.mem_append] at comma
        rcases comma with inFront | inName | behind
        · exact absurd (front _ inFront) (by decide)
        · exact absurd ((plain name List.mem_cons_self).2 _ inName) (by decide)
        · exact absurd (back _ behind) (by decide)
      · exact ih (fun name member => plain name (List.mem_cons_of_mem _ member)) other later

/-- Decoding a list of names. A text is decoded into the names it lists, in their order and as often
as they stand there, exactly when it lists one at least and all are plain. A text that lists none is
refused for that, any other one for the first name that is not plain, and there is no other refusal.
So a sequence of plain names is decoded from every way to write it, and two lists joined by a comma
are decoded one after the other. -/
theorem parseNames_decodes_lists :
    (∀ text names, parseNames text = .ok names ↔
      Lists text names ∧ names ≠ [] ∧ ∀ name ∈ names, PlainName name) ∧
    (∀ text, parseNames text = .error .noNames ↔ Lists text []) ∧
    (∀ text name, parseNames text = .error (.invalidName name) ↔
      ∃ before after, Lists text (before ++ name :: after) ∧
        (∀ earlier ∈ before, PlainName earlier) ∧ ¬PlainName name) ∧
    (∀ text fault, parseNames text = .error fault →
      fault = .noNames ∨ ∃ name, fault = .invalidName name) ∧
    (∀ text, ∃ names, Lists text names ∧ ∀ other, Lists text other → other = names) ∧
    (∀ parts names, Written parts names → names ≠ [] → (∀ name ∈ names, PlainName name) →
      parseNames (String.ofList (List.intercalate [','] parts)) = .ok names) ∧
    ∀ left right names others, parseNames left = .ok names → parseNames right = .ok others →
      parseNames (left ++ "," ++ right) = .ok (names ++ others) := by
  refine ⟨parseNames_eq_ok_iff, parseNames_eq_noNames_iff, parseNames_eq_invalidName_iff,
    ?_, ?_, ?_, ?_⟩
  · intro text fault refused
    have decoded := decoded_parseNames text
    rw [refused] at decoded
    cases decoded with
    | noNames => exact .inl rfl
    | invalidName => exact .inr ⟨_, rfl⟩
  · intro text
    refine ⟨_, (lists_iff text _).2 rfl, ?_⟩
    intro other lists
    exact ((lists_iff text other).1 lists).symm
  · intro parts names written nonempty plain
    exact (parseNames_eq_ok_iff _ _).2 ⟨written.lists nonempty plain, nonempty, plain⟩
  · intro left right names others first second
    obtain ⟨lists, nonempty, plain⟩ := (parseNames_eq_ok_iff _ _).1 first
    obtain ⟨otherLists, -, otherPlain⟩ := (parseNames_eq_ok_iff _ _).1 second
    refine (parseNames_eq_ok_iff _ _).2 ⟨lists.append otherLists, by simp [nonempty], ?_⟩
    intro name member
    exact (List.mem_append.1 member).elim (plain name) (otherPlain name)

/-- Blanks, a wide one among them, and two parts without a name do not show in what is decoded, and
a name that stands there twice does. -/
theorem padded_names_decoded :
    let parts : List (List Char) := [[' '], [' ', 'x', '\u3000'], [], ['y'], ['x']]
    Written parts ["x", "y", "x"] ∧ parseNames " , x\u3000,,y,x" = .ok ["x", "y", "x"] := by
  intro parts
  have written : Written parts ["x", "y", "x"] := by
    apply Written.blank (List.all_eq_true.1 (by decide))
    apply Written.name ((Text.trims_iff _ _ _).2 (by decide)) (by decide)
    apply Written.blank (List.all_eq_true.1 (by decide))
    apply Written.name ((Text.trims_iff _ _ _).2 (by decide)) (by decide)
    exact Written.name ((Text.trims_iff _ _ _).2 (by decide)) (by decide) .nil
  have plain : ∀ name ∈ ["x", "y", "x"], PlainName name := by
    intro name member
    simp only [List.mem_cons, List.not_mem_nil, or_false] at member
    rcases member with rfl | rfl | rfl
    · exact ⟨by decide, List.all_eq_true.1 (by decide)⟩
    · exact ⟨by decide, List.all_eq_true.1 (by decide)⟩
    · exact ⟨by decide, List.all_eq_true.1 (by decide)⟩
  obtain ⟨-, -, -, -, -, decodes, -⟩ := parseNames_decodes_lists
  exact ⟨written, decodes parts _ written (by decide) plain⟩

end BlockMachine.Block
