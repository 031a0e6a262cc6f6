/-!
The environment of a run: the declared names with their values, in the order of
their first declaration.
-/

namespace BlockMachine

structure Env where
  entries : List (String × Float)

namespace Env

def empty : Env := ⟨[]⟩

def names (env : Env) : List String :=
  env.entries.map Prod.fst

def find? (env : Env) (name : String) : Option Float :=
  env.entries.lookup name

def declares (env : Env) (name : String) : Bool :=
  (env.find? name).isSome

/-- The value of a declared name. -/
def read (env : Env) (name : String) : Float :=
  (env.find? name).getD 0.0

/-- A new name starts at zero; a name declared before keeps its value. -/
def declare (env : Env) (name : String) : Env :=
  if env.declares name then env else ⟨env.entries ++ [(name, 0.0)]⟩

def declareAll (env : Env) (names : List String) : Env :=
  names.foldl declare env

/-- Gives a declared name a new value in its place. -/
def assign (env : Env) (name : String) (value : Float) : Env :=
  ⟨env.entries.map fun entry => if entry.1 = name then (name, value) else entry⟩

theorem declares_iff (env : Env) (name : String) : env.declares name = true ↔ name ∈ env.names := by
  obtain ⟨entries⟩ := env
  simp only [declares, find?, names]
  induction entries with
  | nil => simp
  | cons entry rest ih =>
    obtain ⟨key, value⟩ := entry
    by_cases first : name = key
    · subst first
      simp
    · have apart : (name == key) = false := by simpa using first
      simp [List.lookup_cons, apart, first, ih]

theorem names_assign (env : Env) (name : String) (value : Float) :
    (env.assign name value).names = env.names := by
  simp only [names, assign, List.map_map]
  apply List.map_congr_left
  intro entry _
  simp only [Function.comp_apply]
  split
  · next same => exact same.symm
  · rfl

theorem names_declare (env : Env) (name : String) :
    (env.declare name).names = if env.declares name then env.names else env.names ++ [name] := by
  unfold declare
  split <;> simp [names]

theorem find?_declare (env : Env) (name other : String) :
    (env.declare name).find? other =
      if other = name then some (env.read name) else env.find? other := by
  unfold declare
  split
  · next known =>
    split
    · next same =>
      subst same
      obtain ⟨value, found⟩ := Option.isSome_iff_exists.1 known
      simp [read, found]
    · rfl
  · next new =>
    simp only [declares, Option.not_isSome_iff_eq_none] at new
    simp only [find?, List.lookup_append, read] at new ⊢
    split
    · next same => subst same; simp [new]
    · next different =>
      have apart : (other == name) = false := by simpa using different
      simp [List.lookup_cons, apart]

theorem find?_assign (env : Env) (name other : String) (value : Float) :
    (env.assign name value).find? other =
      if other = name then (env.find? name).map (fun _ => value) else env.find? other := by
  obtain ⟨entries⟩ := env
  simp only [assign, find?]
  induction entries with
  | nil => simp
  | cons entry rest ih =>
    obtain ⟨key, old⟩ := entry
    by_cases same : other = name
    · subst same
      by_cases first : key = other
      · subst first; simp
      · have apart : (other == key) = false := by simpa using Ne.symm first
        simpa [List.lookup_cons, first, apart] using ih
    · simp only [if_neg same] at ih ⊢
      by_cases first : key = name
      · subst first
        have apart : (other == key) = false := by simpa using same
        simpa [List.lookup_cons, apart] using ih
      · simp [List.lookup_cons, first, ih]

end Env

end BlockMachine
