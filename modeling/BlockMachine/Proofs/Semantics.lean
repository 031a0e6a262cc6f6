import BlockMachine.Proofs.Runs

/-!
What the three kinds of block do, rule by rule, and the machine as their run.
Every rule names the checks that come before it, so the order of the checks can
be read off. Names are distinct in every environment that a run reaches, and
there the rules say what a block performs.
-/

namespace BlockMachine

namespace Env

/-- Every name that is new takes the value zero, in the order in which they are first given. -/
def withNew (env : Env) (names : List String) : Env :=
  ⟨env.entries ++ (names.filter (· ∉ env.names)).eraseDups.map fun name => (name, 0.0)⟩

theorem declareAll_eq_withNew (env : Env) (names : List String) :
    env.declareAll names = env.withNew names := by
  induction names generalizing env with
  | nil => simp [declareAll, withNew]
  | cons name rest ih =>
    have first : env.declareAll (name :: rest) = (env.declare name).declareAll rest := rfl
    rw [first, ih]
    by_cases known : name ∈ env.names
    · have declared := (env.declares_iff name).2 known
      simp only [declare, declared, if_true, withNew, List.filter_cons, known, not_true_eq_false,
        decide_false, Bool.false_eq_true, if_false]
    · have new : env.declares name = false := by
        rw [Bool.eq_false_iff, ne_eq, env.declares_iff]
        exact known
      -- for the names behind it, this one counts as known
      have later : (fun other => decide (other ∉ env.names ++ [name])) =
          fun other => (!other == name) && decide (other ∉ env.names) := by
        funext other
        by_cases same : other = name
        · simp [same]
        · simp [same]
      have grown : (env.declare name).names = env.names ++ [name] := by
        rw [names_declare, if_neg (Bool.eq_false_iff.1 new)]
      have entries : (env.declare name).entries = env.entries ++ [(name, 0.0)] := by
        rw [declare, if_neg (Bool.eq_false_iff.1 new)]
      rw [withNew, withNew, grown, entries, later, List.filter_cons_of_pos (by simpa using known),
        List.eraseDups_cons, List.filter_filter, List.map_cons, List.append_assoc,
        List.singleton_append]

theorem mem_names_iff (env : Env) (name : String) :
    name ∈ env.names ↔ ∃ before old after, env.entries = before ++ (name, old) :: after := by
  constructor
  · intro member
    obtain ⟨⟨key, old⟩, present, same⟩ := List.mem_map.1 member
    cases same
    obtain ⟨before, after, split⟩ := List.append_of_mem present
    exact ⟨before, old, after, split⟩
  · rintro ⟨before, old, after, split⟩
    simp [names, split]

/-- With distinct names, a name is assigned where it stands and nothing else changes. -/
theorem assign_eq_of_split {env : Env} (distinct : env.names.Nodup) {name : String} {old : Float}
    {before after : List (String × Float)} (split : env.entries = before ++ (name, old) :: after)
    (value : Float) : env.assign name value = ⟨before ++ (name, value) :: after⟩ := by
  simp only [names, split, List.map_append, List.map_cons, List.nodup_append, List.nodup_cons]
    at distinct
  have others : ∀ part : List (String × Float), name ∉ part.map Prod.fst →
      part.map (fun entry => if entry.1 = name then (name, value) else entry) = part := by
    intro part absent
    rw [List.map_congr_left, List.map_id]
    intro entry member
    have different : entry.1 ≠ name := by
      intro same
      exact absent (same ▸ List.mem_map_of_mem member)
    simp [different]
  have inBefore : name ∉ before.map Prod.fst := by
    intro member
    exact distinct.2.2 name member name List.mem_cons_self rfl
  simp only [assign, split, List.map_append, List.map_cons, if_true, others before inBefore,
    others after distinct.2.1.1]

theorem nodup_declareAll {env : Env} (distinct : env.names.Nodup) (names : List String) :
    (env.declareAll names).names.Nodup := by
  induction names generalizing env with
  | nil => exact distinct
  | cons name rest ih =>
    apply ih
    rw [names_declare]
    split
    · exact distinct
    · next new =>
      rw [env.declares_iff] at new
      rw [List.nodup_append]
      refine ⟨distinct, by simp, ?_⟩
      intro other member last same
      rw [List.mem_singleton] at same
      intro equal
      exact new (same ▸ equal ▸ member)

end Env

namespace Block

def trimmed (text : String) : String :=
  String.ofList (Text.trim text.toList)

/-- The names given are valid as a whole. -/
def AllPlain (names : List (List Char)) : Prop :=
  ∀ name ∈ names, name.all Text.isPlainLetter = true

/-- What the symbols of the comparisons say of two values. -/
def comparisons (x y : Float) : List (String × Bool) :=
  [(">", x > y), ("<", x < y), ("=", x == y), ("==", x == y), ("!=", x != y), (">=", x ≥ y),
   ("<=", x ≤ y)]

theorem lookup_comparisons (x y : Float) (spelled : List Char) :
    (comparisons x y).lookup (String.ofList spelled) =
      (Comparison.ofSymbol? spelled).map fun comparison => comparison.holds x y := by
  unfold Comparison.ofSymbol?
  split
  · rfl
  · rfl
  · rfl
  · rfl
  · rfl
  · rfl
  · rfl
  · next greater less equal same different atLeast atMost =>
    have apart : ∀ known : List Char, spelled ≠ known →
        (String.ofList spelled == String.ofList known) = false := by
      intro known other
      rw [beq_eq_false_iff_ne]
      intro equal
      exact other (String.ofList_injective equal)
    simp only [comparisons, List.lookup_cons, apart ['>'] greater, apart ['<'] less,
      apart ['='] equal, apart ['=', '='] same, apart ['!', '='] different,
      apart ['>', '='] atLeast, apart ['<', '='] atMost]
    rfl

theorem compare_eq_lookup (x : Float) (symbol : String) (y : Float) :
    compare x symbol y =
      match (comparisons x y).lookup (trimmed symbol) with
      | some holds => .ok holds
      | none => .error (.invalidComparison symbol) := by
  rw [compare, trimmed, lookup_comparisons]
  cases Comparison.ofSymbol? (Text.trim symbol.toList) with
  | some comparison => rfl
  | none => rfl

/-- What a block does: its environment and whether the next block runs, or its first fault. -/
inductive Does (env : Env) : Block → Except Fault Effect → Prop
  | noNames {names : String} (blank : givenNames names = []) :
      Does env (.declare names) (.error .noNames)
  | invalidName {names : String} {before after : List (List Char)} {name : List Char}
      (given : givenNames names = before ++ name :: after) (valid : AllPlain before)
      (invalid : name.all Text.isPlainLetter = false) :
      Does env (.declare names) (.error (.invalidName (String.ofList name)))
  | declared {names : String} (given : givenNames names ≠ [])
      (valid : AllPlain (givenNames names)) :
      Does env (.declare names)
        (.ok ⟨env.withNew ((givenNames names).map String.ofList), true⟩)
  | undeclared {target expression : String} (new : trimmed target ∉ env.names) :
      Does env (.assign target expression) (.error (.undeclared (trimmed target)))
  | noValue {target expression : String} {error : Formula.Error}
      (known : trimmed target ∈ env.names)
      (fails : Formula.evaluate env expression = .error error) :
      Does env (.assign target expression) (.error (.formula error))
  | assigned {target expression : String} {before after : List (String × Float)}
      {old value : Float} (known : env.entries = before ++ (trimmed target, old) :: after)
      (evaluates : Formula.evaluate env expression = .ok value) :
      Does env (.assign target expression)
        (.ok ⟨⟨before ++ (trimmed target, value) :: after⟩, true⟩)
  | noLeft {left symbol right : String} {error : Formula.Error}
      (fails : Formula.evaluate env left = .error error) :
      Does env (.branch left symbol right) (.error (.formula error))
  | noRight {left symbol right : String} {x : Float} {error : Formula.Error}
      (leftEvaluates : Formula.evaluate env left = .ok x)
      (fails : Formula.evaluate env right = .error error) :
      Does env (.branch left symbol right) (.error (.formula error))
  | noComparison {left symbol right : String} {x y : Float}
      (leftEvaluates : Formula.evaluate env left = .ok x)
      (rightEvaluates : Formula.evaluate env right = .ok y)
      (unknown : (comparisons x y).lookup (trimmed symbol) = none) :
      Does env (.branch left symbol right) (.error (.invalidComparison symbol))
  | compared {left symbol right : String} {x y : Float} {holds : Bool}
      (leftEvaluates : Formula.evaluate env left = .ok x)
      (rightEvaluates : Formula.evaluate env right = .ok y)
      (known : (comparisons x y).lookup (trimmed symbol) = some holds) :
      Does env (.branch left symbol right) (.ok ⟨env, holds⟩)

theorem evaluate_ok {env : Env} {expression : String} {value : Float}
    (evaluates : Formula.evaluate env expression = .ok value) :
    evaluate env expression = .ok value := by
  rw [evaluate, evaluates]
  rfl

theorem evaluate_error {env : Env} {expression : String} {error : Formula.Error}
    (fails : Formula.evaluate env expression = .error error) :
    evaluate env expression = .error (.formula error) := by
  rw [evaluate, fails]
  rfl

theorem does_declare (env : Env) (names : String) :
    Does env (.declare names) (perform env (.declare names)) := by
  simp only [perform, parseNames]
  split
  · next blank => exact .noNames (List.isEmpty_iff.1 blank)
  · next given =>
    split
    · next name found =>
      obtain ⟨invalid, before, after, split, valid⟩ := List.find?_eq_some_iff_append.1 found
      refine .invalidName split ?_ (by simpa using invalid)
      intro other member
      simpa using valid other member
    · next valid =>
      rw [List.find?_eq_none] at valid
      simp only [Except.map, env.declareAll_eq_withNew]
      refine .declared (fun blank => given (List.isEmpty_iff.2 blank)) ?_
      intro name member
      simpa using valid name member

theorem does_assign {env : Env} (distinct : env.names.Nodup) (target expression : String) :
    Does env (.assign target expression) (perform env (.assign target expression)) := by
  simp only [perform]
  split
  · next known =>
    have member : trimmed target ∈ env.names := (env.declares_iff _).1 known
    cases evaluated : Formula.evaluate env expression with
    | error error =>
      rw [evaluate_error evaluated]
      exact .noValue member evaluated
    | ok value =>
      obtain ⟨before, old, after, split⟩ := (env.mem_names_iff _).1 member
      rw [evaluate_ok evaluated, Except.map,
        show String.ofList (Text.trim target.toList) = trimmed target from rfl,
        Env.assign_eq_of_split distinct split]
      exact .assigned split evaluated
  · next new =>
    refine .undeclared fun member => new ?_
    exact (env.declares_iff _).2 member

theorem does_branch (env : Env) (left symbol right : String) :
    Does env (.branch left symbol right) (perform env (.branch left symbol right)) := by
  cases leftEvaluated : Formula.evaluate env left with
  | error error =>
    simp only [perform, evaluate_error leftEvaluated, Except.bind]
    exact .noLeft leftEvaluated
  | ok x =>
    cases rightEvaluated : Formula.evaluate env right with
    | error error =>
      simp only [perform, evaluate_ok leftEvaluated, evaluate_error rightEvaluated, Except.bind]
      exact .noRight leftEvaluated rightEvaluated
    | ok y =>
      simp only [perform, evaluate_ok leftEvaluated, evaluate_ok rightEvaluated, Except.bind,
        compare_eq_lookup]
      split
      · next holds known => exact .compared leftEvaluated rightEvaluated known
      · next unknown => exact .noComparison leftEvaluated rightEvaluated unknown

theorem does_perform {env : Env} (distinct : env.names.Nodup) (block : Block) :
    Does env block (block.perform env) := by
  cases block with
  | declare names => exact does_declare env names
  | assign target expression => exact does_assign distinct target expression
  | branch left symbol right => exact does_branch env left symbol right

theorem parseNames_of_invalid {names : String} {before after : List (List Char)} {name : List Char}
    (given : givenNames names = before ++ name :: after) (valid : AllPlain before)
    (invalid : name.all Text.isPlainLetter = false) :
    parseNames names = .error (.invalidName (String.ofList name)) := by
  have found : (givenNames names).find? (fun name => !name.all Text.isPlainLetter) = some name := by
    rw [List.find?_eq_some_iff_append]
    refine ⟨by simpa using invalid, before, after, given, ?_⟩
    intro other member
    simpa using valid other member
  have nonempty : (givenNames names).isEmpty = false := by simp [given]
  simp only [parseNames, nonempty, found, Bool.false_eq_true, if_false]

theorem parseNames_of_valid {names : String} (given : givenNames names ≠ [])
    (valid : AllPlain (givenNames names)) :
    parseNames names = .ok ((givenNames names).map String.ofList) := by
  have found : (givenNames names).find? (fun name => !name.all Text.isPlainLetter) = none := by
    rw [List.find?_eq_none]
    intro name member
    simpa using valid name member
  have nonempty : (givenNames names).isEmpty = false := by simpa using given
  simp only [parseNames, nonempty, found, Bool.false_eq_true, if_false]

/-- The rules leave no choice. -/
theorem perform_of_does {env : Env} (distinct : env.names.Nodup) {block : Block}
    {result : Except Fault Effect} (does : Does env block result) : block.perform env = result := by
  cases does with
  | noNames blank => simp [perform, parseNames, blank, Except.map]
  | invalidName given valid invalid =>
    simp only [perform, parseNames_of_invalid given valid invalid, Except.map]
  | declared given valid =>
    simp only [perform, parseNames_of_valid given valid, Except.map, env.declareAll_eq_withNew]
  | @undeclared target expression new =>
    have unknown : env.declares (trimmed target) = false := by
      rw [Bool.eq_false_iff, ne_eq, env.declares_iff]
      exact new
    exact if_neg (Bool.eq_false_iff.1 unknown)
  | noValue known fails =>
    refine (if_pos ((env.declares_iff _).2 known)).trans ?_
    rw [evaluate_error fails]
    rfl
  | @assigned target expression before after old value known evaluates =>
    have member : trimmed target ∈ env.names := (env.mem_names_iff _).2 ⟨before, old, after, known⟩
    refine (if_pos ((env.declares_iff _).2 member)).trans ?_
    rw [evaluate_ok evaluates, Except.map,
      show String.ofList (Text.trim target.toList) = trimmed target from rfl,
      Env.assign_eq_of_split distinct known]
  | noLeft fails => simp only [perform, evaluate_error fails, Except.bind]
  | noRight leftEvaluates fails =>
    simp only [perform, evaluate_ok leftEvaluates, evaluate_error fails, Except.bind]
  | noComparison leftEvaluates rightEvaluates unknown =>
    simp only [perform, evaluate_ok leftEvaluates, evaluate_ok rightEvaluates, compare_eq_lookup,
      unknown, Except.bind, Except.map]
  | compared leftEvaluates rightEvaluates known =>
    simp only [perform, evaluate_ok leftEvaluates, evaluate_ok rightEvaluates, compare_eq_lookup,
      known, Except.bind, Except.map]

theorem perform_iff_does {env : Env} (distinct : env.names.Nodup) (block : Block)
    (result : Except Fault Effect) : block.perform env = result ↔ Does env block result := by
  constructor
  · intro performs
    rw [← performs]
    exact does_perform distinct block
  · exact perform_of_does distinct

theorem perform_assign_iff {env : Env} {target expression : String} {effect : Effect} :
    (Block.assign target expression).perform env = .ok effect ↔
      trimmed target ∈ env.names ∧ ∃ value, Formula.evaluate env expression = .ok value ∧
        effect = ⟨env.assign (trimmed target) value, true⟩ := by
  constructor
  · intro performs
    simp only [perform] at performs
    split at performs
    · next known =>
      have member : trimmed target ∈ env.names := (env.declares_iff _).1 known
      cases evaluated : Formula.evaluate env expression with
      | error error =>
        rw [evaluate_error evaluated] at performs
        cases performs
      | ok value =>
        rw [evaluate_ok evaluated] at performs
        cases performs
        exact ⟨member, value, rfl, rfl⟩
    · cases performs
  · rintro ⟨known, value, evaluates, rfl⟩
    refine (if_pos ((env.declares_iff _).2 known)).trans ?_
    rw [evaluate_ok evaluates]
    rfl

/-- What a block has done that did not fail, whatever the environment. -/
theorem perform_cases {env : Env} {block : Block} {effect : Effect}
    (performs : block.perform env = .ok effect) :
    (∃ names, block = .declare names ∧ givenNames names ≠ [] ∧ AllPlain (givenNames names) ∧
      effect = ⟨env.declareAll ((givenNames names).map String.ofList), true⟩) ∨
    (∃ target expression value, block = .assign target expression ∧ trimmed target ∈ env.names ∧
      Formula.evaluate env expression = .ok value ∧
      effect = ⟨env.assign (trimmed target) value, true⟩) ∨
    ∃ left symbol right x y holds, block = .branch left symbol right ∧
      Formula.evaluate env left = .ok x ∧ Formula.evaluate env right = .ok y ∧
      (comparisons x y).lookup (trimmed symbol) = some holds ∧ effect = ⟨env, holds⟩ := by
  cases block with
  | declare names =>
    have does := does_declare env names
    rw [performs] at does
    cases does with
    | declared given valid =>
      exact .inl ⟨names, rfl, given, valid, by rw [env.declareAll_eq_withNew]⟩
  | assign target expression =>
    obtain ⟨known, value, evaluates, stored⟩ := perform_assign_iff.1 performs
    exact .inr (.inl ⟨target, expression, value, rfl, known, evaluates, stored⟩)
  | branch left symbol right =>
    have does := does_branch env left symbol right
    rw [performs] at does
    cases does with
    | compared leftEvaluates rightEvaluates known =>
      exact .inr (.inr
        ⟨left, symbol, right, _, _, _, rfl, leftEvaluates, rightEvaluates, known, rfl⟩)

/-- No block makes two names equal. -/
theorem nodup_of_perform {env : Env} (distinct : env.names.Nodup) {block : Block} {effect : Effect}
    (performs : block.perform env = .ok effect) : effect.env.names.Nodup := by
  rcases perform_cases performs with ⟨names, -, -, -, rfl⟩ |
    ⟨target, expression, value, -, -, -, rfl⟩ |
    ⟨left, symbol, right, x, y, holds, -, -, -, -, rfl⟩
  · exact Env.nodup_declareAll distinct _
  · rw [Env.names_assign]
    exact distinct
  · exact distinct

end Block

namespace Machine

/-- Runs agree where their blocks do the same, along all environments they can reach. -/
theorem Runs.mono {does other : Doing} (reachable : Env → Prop)
    (agree : ∀ {env block result}, reachable env → does env block result → other env block result)
    (keeps : ∀ {env block effect}, reachable env → does env block (.ok effect) →
      reachable effect.env)
    {position : Nat} {env : Env} {items : List Item} {outcome : Outcome} (start : reachable env)
    (runs : Runs does position env items outcome) : Runs other position env items outcome := by
  induction runs with
  | done => exact .done
  | foreign => exact .foreign
  | failed fails => exact .failed (agree start fails)
  | next performs later ih => exact .next (agree start performs) (ih (keeps start performs))
  | last performs => exact .last (agree start performs)
  | skip performs later ih => exact .skip (agree start performs) (ih (keeps start performs))

theorem runs_does_iff {position : Nat} {env : Env} (distinct : env.names.Nodup) {items : List Item}
    {outcome : Outcome} :
    Runs Block.Does position env items outcome ↔ Runs Performs position env items outcome := by
  constructor
  · exact Runs.mono (fun env => env.names.Nodup)
      (fun reached does => Block.perform_of_does reached does)
      (fun reached does => Block.nodup_of_perform reached (Block.perform_of_does reached does))
      distinct
  · exact Runs.mono (fun env => env.names.Nodup)
      (fun reached performs => (Block.perform_iff_does reached _ _).1 performs)
      (fun reached performs => Block.nodup_of_perform reached performs) distinct

/-- Only a foreign item can keep a run from returning a report. -/
theorem Runs.ok_of_blocks {does : Doing} {position : Nat} {env : Env} {items : List Item}
    {outcome : Outcome} (runs : Runs does position env items outcome)
    (blocks : ∀ item ∈ items, ∃ block, item = .block block) : ∃ report, outcome = .ok report := by
  induction runs with
  | done => exact ⟨_, rfl⟩
  | foreign =>
    obtain ⟨block, same⟩ := blocks _ List.mem_cons_self
    cases same
  | failed => exact ⟨_, rfl⟩
  | next performs later ih =>
    obtain ⟨report, rfl⟩ := ih fun item member => blocks item (List.mem_cons_of_mem _ member)
    exact ⟨_, rfl⟩
  | last => exact ⟨_, rfl⟩
  | skip performs later ih =>
    obtain ⟨report, rfl⟩ := ih fun item member =>
      blocks item (List.mem_cons_of_mem _ (List.mem_cons_of_mem _ member))
    exact ⟨_, rfl⟩

/-- A list of blocks within the limit returns one report, the one the rules give along the list. -/
theorem execute_eq_ok_iff_rules (limit : Option Int) (blocks : List Block)
    (within : ∀ most ∈ limit, (blocks.length : Int) ≤ most) :
    ∃ report, execute limit (blocks.map .block) = .ok report ∧
      ∀ outcome, Runs Block.Does 0 .empty (blocks.map .block) outcome ↔ outcome = .ok report := by
  have distinct : Env.empty.names.Nodup := List.nodup_nil
  have runs := (runFrom_eq_iff_runs (blocks.map .block) _).1 rfl
  obtain ⟨report, returned⟩ := runs.ok_of_blocks (by simp)
  refine ⟨report, ?_, ?_⟩
  · rw [execute_of_within (flaggable_blocks blocks) (by simpa using within), returned]
  · intro outcome
    rw [runs_does_iff distinct, ← runFrom_eq_iff_runs, returned]
    exact eq_comm

/-- A repeated name is declared once, and the undeclared target is found before its expression. -/
theorem rules_of_two_blocks :
    let blocks : List Block := [.declare "y, x,, y", .assign " q " "1 +"]
    let report : Report :=
      ⟨⟨[("y", 0.0), ("x", 0.0)]⟩, some (.failed 1 (.undeclared "q")), 1, []⟩
    (∀ most ∈ some (2 : Int), (blocks.length : Int) ≤ most) ∧
      execute (some 2) (blocks.map .block) = .ok report ∧
      ∀ outcome, Runs Block.Does 0 .empty (blocks.map .block) outcome ↔ outcome = .ok report := by
  intro blocks report
  have within : ∀ most ∈ some (2 : Int), (blocks.length : Int) ≤ most := by
    intro most given
    cases given
    decide
  have ran : execute (some 2) (blocks.map .block) = .ok report :=
    (runFrom_eq_iff_runs _ _).2 (.next rfl (.failed rfl))
  obtain ⟨found, executed, rules⟩ := execute_eq_ok_iff_rules (some 2) blocks within
  cases ran.symm.trans executed
  exact ⟨within, ran, rules⟩

end Machine

end BlockMachine
