import BlockMachine.Text.Blank

/-!
Trimming, told by what it leaves. The trimmed text stands between characters of
the class that is dropped, and neither begins nor ends with one of them; no other
part of the text does.
-/

namespace BlockMachine.Text

/-- The text is the core between characters of the class, and the core neither begins nor ends with
one. -/
structure Trims (drop : Char → Bool) (text core : List Char) : Prop where
  between : ∃ before after, text = before ++ (core ++ after) ∧ (∀ c ∈ before, drop c = true) ∧
    ∀ c ∈ after, drop c = true
  first : ∀ c ∈ core.head?, drop c = false
  last : ∀ c ∈ core.getLast?, drop c = false

theorem dropWhile_run {drop : Char → Bool} {run rest : List Char}
    (dropped : ∀ c ∈ run, drop c = true) (kept : ∀ c ∈ rest.head?, drop c = false) :
    (run ++ rest).dropWhile drop = rest := by
  rw [List.dropWhile_append_of_pos dropped]
  cases rest with
  | nil => rfl
  | cons c rest => rw [List.dropWhile_cons_of_neg (by simp [kept c rfl])]

theorem head?_dropWhile (drop : Char → Bool) (text : List Char) :
    ∀ c ∈ (text.dropWhile drop).head?, drop c = false := by
  intro c first
  have refused := List.head?_dropWhile_not drop text
  rw [Option.mem_def.1 first] at refused
  simpa using refused

theorem exists_dropWhile (drop : Char → Bool) (text : List Char) :
    ∃ run, text = run ++ text.dropWhile drop ∧ ∀ c ∈ run, drop c = true :=
  ⟨text.takeWhile drop, List.takeWhile_append_dropWhile.symm, List.all_eq_true.1 List.all_takeWhile⟩

theorem trims_trimBy (drop : Char → Bool) (text : List Char) :
    Trims drop text (trimBy drop text) := by
  obtain ⟨before, front, dropped⟩ := exists_dropWhile drop text
  obtain ⟨after, back, droppedBehind⟩ := exists_dropWhile drop (text.dropWhile drop).reverse
  have inner : text.dropWhile drop = trimBy drop text ++ after.reverse := by
    rw [trimBy, ← List.reverse_append, ← back, List.reverse_reverse]
  refine ⟨⟨before, after.reverse, by rw [← inner, ← front], dropped, by simpa using droppedBehind⟩,
    ?_, ?_⟩
  · intro c first
    apply head?_dropWhile drop text
    rw [inner, List.head?_append, Option.mem_def.1 first]
    rfl
  · intro c last
    rw [trimBy, List.getLast?_reverse] at last
    exact head?_dropWhile drop _ c last

theorem Trims.trimBy_eq {drop : Char → Bool} {text core : List Char} (trims : Trims drop text core) :
    trimBy drop text = core := by
  obtain ⟨⟨before, after, whole, front, back⟩, first, last⟩ := trims
  cases core with
  | nil =>
    have all : ∀ c ∈ before ++ after, drop c = true := by
      intro c member
      exact (List.mem_append.1 member).elim (front c) (back c)
    have nothing : (before ++ after ++ []).dropWhile drop = [] := dropWhile_run all (by simp)
    rw [List.append_nil] at nothing
    rw [whole, List.nil_append, trimBy, nothing]
    rfl
  | cons c core =>
    have ahead : (before ++ (c :: core ++ after)).dropWhile drop = c :: core ++ after :=
      dropWhile_run front first
    have behind : (after.reverse ++ (c :: core).reverse).dropWhile drop = (c :: core).reverse :=
      dropWhile_run (by simpa using back) (by rw [List.head?_reverse]; exact last)
    rw [whole, trimBy, ahead, List.reverse_append, behind, List.reverse_reverse]

theorem trims_iff (drop : Char → Bool) (text core : List Char) :
    Trims drop text core ↔ trimBy drop text = core :=
  ⟨Trims.trimBy_eq, fun same => same ▸ trims_trimBy drop text⟩

/-- A text without characters of the class is trimmed out of any surroundings made of them. -/
theorem trims_of_kept {drop : Char → Bool} {before core after : List Char}
    (front : ∀ c ∈ before, drop c = true) (back : ∀ c ∈ after, drop c = true)
    (kept : ∀ c ∈ core, drop c = false) : Trims drop (before ++ (core ++ after)) core :=
  ⟨⟨before, after, rfl, front, back⟩, fun c first => kept c (List.mem_of_mem_head? first),
    fun c last => kept c (List.mem_of_mem_getLast? last)⟩

theorem trims_nil_iff (drop : Char → Bool) (text : List Char) :
    Trims drop text [] ↔ ∀ c ∈ text, drop c = true := by
  constructor
  · rintro ⟨⟨before, after, rfl, front, back⟩, -, -⟩ c member
    exact (List.mem_append.1 member).elim (front c) (back c)
  · intro all
    exact ⟨⟨text, [], by simp, all, by simp⟩, by simp, by simp⟩

end BlockMachine.Text
