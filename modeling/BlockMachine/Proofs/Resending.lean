import BlockMachine.Proofs.Replies
import Mathlib.Data.List.Forall2

/-!
A reply can be sent back. Its blocks are those of the request, each with its kind
and its texts, and they read as the same blocks again, whatever flags the server
has put on them. With the same settings they are thus answered by the same reply.
-/

namespace BlockMachine.Service
open Machine

theorem both_eq_ok {α β : Type} {first : Checked α} {second : Checked β} {pair : α × β}
    (read : both first second = .ok pair) : first = .ok pair.1 ∧ second = .ok pair.2 := by
  cases first with
  | error problems =>
    cases second with
    | error more => cases read
    | ok b => cases read
  | ok a =>
    cases second with
    | error more => cases read
    | ok b =>
      cases read
      exact ⟨rfl, rfl⟩

theorem map_eq_ok {α β : Type} {checked : Checked α} {use : α → β} {result : β}
    (read : checked.map use = .ok result) : ∃ value, checked = .ok value ∧ use value = result := by
  cases checked with
  | error problems => cases read
  | ok value =>
    cases read
    exact ⟨value, rfl, rfl⟩

theorem each_eq_ok {α β : Type} {check : Nat → α → Checked β} {index : Nat} {items : List α}
    {values : List β} (read : each check index items = .ok values) :
    List.Forall₂ (fun item value => ∃ place, check place item = .ok value) items values := by
  induction items generalizing index values with
  | nil =>
    cases read
    exact .nil
  | cons item rest ih =>
    obtain ⟨pair, reads, rfl⟩ := map_eq_ok read
    obtain ⟨first, later⟩ := both_eq_ok reads
    exact .cons ⟨index, first⟩ (ih later)

theorem textField_eq_ok {members : List (String × Json)} {place : List Step} {name value : String}
    (read : textField members place name = .ok value) :
    (members.lookup name).getD (.text "") = .text value := by
  unfold textField at read
  split at read
  · next absent =>
    cases read
    rw [absent]
    rfl
  · next found =>
    cases read
    rw [found]
    rfl
  · cases read

/-- The kinds of block and their texts, as they are sent. -/
def kindFields : List (String × List String) :=
  [("var_decl", ["names"]), ("assignment", ["var_name", "expression"]),
   ("if", ["left_expr", "op", "right_expr"])]

/-- A block of this kind as it is shown, with the texts that `text` gives for its fields. -/
def shownBlock (kind : String) (fields : List String) (text : String → Json) (flagged : Bool) :
    Json :=
  .object (("kind", .text kind) :: (fields.map fun field => (field, text field)) ++
    [("has_error", .bool flagged)])

/-- The second block has the kind and the texts of the first, an absent text as an empty one. -/
def Shows (given shown : Json) : Prop :=
  ∃ kind fields flagged, (kind, fields) ∈ kindFields ∧ given.member? "kind" = some (.text kind) ∧
    shown = shownBlock kind fields (fun field => (given.member? field).getD (.text "")) flagged

theorem readKind_eq_ok {members : List (String × Json)} {place : List Step} {kind : String}
    {block : Block} (read : readKind members place kind = .ok block) :
    ∃ fields, (kind, fields) ∈ kindFields ∧ ∀ flagged, block.toJson flagged =
      shownBlock kind fields (fun field => (members.lookup field).getD (.text "")) flagged := by
  unfold readKind at read
  split at read
  · obtain ⟨⟨names, flag⟩, reads, rfl⟩ := map_eq_ok read
    have namesRead := textField_eq_ok (both_eq_ok reads).1
    refine ⟨["names"], by simp [kindFields], fun flagged => ?_⟩
    simp only [shownBlock, List.map_cons, List.map_nil, namesRead]
    rfl
  · obtain ⟨⟨target, expression, flag⟩, reads, rfl⟩ := map_eq_ok read
    obtain ⟨first, later⟩ := both_eq_ok reads
    have targetRead := textField_eq_ok first
    have expressionRead := textField_eq_ok (both_eq_ok later).1
    refine ⟨["var_name", "expression"], by simp [kindFields], fun flagged => ?_⟩
    simp only [shownBlock, List.map_cons, List.map_nil, targetRead, expressionRead]
    rfl
  · obtain ⟨⟨left, comparison, right, flag⟩, reads, rfl⟩ := map_eq_ok read
    obtain ⟨first, later⟩ := both_eq_ok reads
    obtain ⟨second, last⟩ := both_eq_ok later
    have leftRead := textField_eq_ok first
    have comparisonRead := textField_eq_ok second
    have rightRead := textField_eq_ok (both_eq_ok last).1
    refine ⟨["left_expr", "op", "right_expr"], by simp [kindFields], fun flagged => ?_⟩
    simp only [shownBlock, List.map_cons, List.map_nil, leftRead, comparisonRead, rightRead]
    rfl
  · cases read

theorem shows_of_readBlock {place : List Step} {given : Json} {block : Block}
    (read : readBlock place given = .ok block) (flagged : Bool) :
    Shows given (block.toJson flagged) := by
  unfold readBlock at read
  split at read
  · next members =>
    split at read
    · cases read
    · next kind found =>
      obtain ⟨fields, listed, shown⟩ := readKind_eq_ok read
      exact ⟨kind, fields, flagged, listed, found, shown flagged⟩
    · cases read
  · cases read

/-- A block that was written reads as itself, whatever its flag. -/
theorem readBlock_toJson (place : List Step) (block : Block) (flagged : Bool) :
    readBlock place (block.toJson flagged) = .ok block := by
  cases block with
  | declare names => rfl
  | assign target expression => rfl
  | branch left comparison right => rfl

theorem each_readBlock_toJson (place : Nat → List Step) (index : Nat)
    (blocks : List (Block × Bool)) :
    each (fun index => readBlock (place index)) index
      (blocks.map fun (block, flagged) => block.toJson flagged) = .ok (blocks.map Prod.fst) := by
  induction blocks generalizing index with
  | nil => rfl
  | cons pair rest ih =>
    simp only [List.map_cons, each, readBlock_toJson, ih]
    rfl

theorem map_fst_flaggedAt (failed : Option Nat) (blocks : List Block) :
    (flaggedAt failed blocks).map Prod.fst = blocks := by
  apply List.ext_getElem?
  intro place
  rw [flaggedAt, List.getElem?_map, List.getElem?_mapIdx, Option.map_map]
  exact Option.map_id'

/-- Whatever the outcome, a reply shows the blocks of its request. -/
theorem map_fst_blocks_run (ceiling : Int) (request : RunRequest) :
    (run ceiling request).blocks.map Prod.fst = request.blocks := by
  cases capped : Limit.cap ceiling request.settings with
  | error fault =>
    rw [run_of_unusable capped]
    exact map_fst_flaggedAt none request.blocks
  | ok limit =>
    obtain ⟨report, ran⟩ := exists_report_of_blocks (some limit) request.blocks
    rw [run_of_cap capped ran]
    exact map_fst_flaggedAt report.failedIndex request.blocks

theorem RunRequest.ofJson_object_iff {members : List (String × Json)} {request : RunRequest} :
    ofJson (.object members) = .ok request ↔
      readBlocks (members.lookup "blocks") = .ok request.blocks ∧
        readSettings (members.lookup "settings") = .ok request.settings := by
  constructor
  · intro valid
    obtain ⟨pair, reads, rfl⟩ := map_eq_ok valid
    exact both_eq_ok reads
  · rintro ⟨blocks, settings⟩
    simp only [ofJson, blocks, settings]
    rfl

theorem exists_members_of_ofJson {json : Json} {request : RunRequest}
    (valid : RunRequest.ofJson json = .ok request) : ∃ members, json = .object members := by
  unfold RunRequest.ofJson at valid
  split at valid
  · exact ⟨_, rfl⟩
  · cases valid

theorem exists_members_of_member? {json value : Json} {key : String}
    (found : json.member? key = some value) : ∃ members, json = .object members := by
  unfold Json.member? at found
  split at found
  · exact ⟨_, rfl⟩
  · cases found

/-- The blocks that a body gives. -/
def givenBlocks (json : Json) : List Json :=
  match json.member? "blocks" with
  | some (.list items) => items
  | _ => []

theorem forall₂_givenBlocks {members : List (String × Json)} {blocks : List Block}
    (read : RunRequest.readBlocks (members.lookup "blocks") = .ok blocks) :
    List.Forall₂ (fun given block => ∃ place, readBlock place given = .ok block)
      (givenBlocks (.object members)) blocks := by
  simp only [givenBlocks, Json.member?]
  unfold RunRequest.readBlocks at read
  split at read
  · next absent =>
    cases read
    rw [absent]
    exact .nil
  · next items found =>
    rw [found]
    apply (each_eq_ok read).imp
    rintro given block ⟨index, reads⟩
    exact ⟨_, reads⟩
  · cases read

/-- The blocks of a reply are those of the request, block by block. Sent again with the same
settings, they are read as the same request and answered by the same reply; for a block that was
written with its flag is read without it. -/
theorem respond_resent (ceiling : Int) {message : Request} {json : Json} {request : RunRequest}
    (posted : message.Posts json) (valid : RunRequest.ofJson json = .ok request) :
    ∃ body shown, respond ceiling message = .ok (.ok body) ∧
      body.member? "blocks" = some (.list shown) ∧
      List.Forall₂ Shows (givenBlocks json) shown ∧
      (∀ again other, Request.Posts again other → other.member? "blocks" = some (.list shown) →
        other.member? "settings" = json.member? "settings" →
        RunRequest.ofJson other = .ok request ∧ respond ceiling again = .ok (.ok body)) ∧
      ∀ place block flagged, readBlock place (block.toJson flagged) = .ok block ∧
        (Sheet.ofBlocks [block]).toJson? = some [block.toJson false] := by
  obtain ⟨members, rfl⟩ := exists_members_of_ofJson valid
  obtain ⟨blocksRead, settingsRead⟩ := RunRequest.ofJson_object_iff.1 valid
  refine ⟨_, _, respond_run ceiling posted valid, rfl, ?_, ?_, ?_⟩
  · have given := forall₂_givenBlocks blocksRead
    rw [← map_fst_blocks_run ceiling request, List.forall₂_map_right_iff] at given
    rw [List.forall₂_map_right_iff]
    apply given.imp
    rintro item ⟨block, flagged⟩ ⟨place, reads⟩
    exact shows_of_readBlock reads flagged
  · intro again other reposted blocksShown settingsKept
    obtain ⟨others, rfl⟩ := exists_members_of_member? blocksShown
    have same : RunRequest.ofJson (.object others) = .ok request := by
      rw [RunRequest.ofJson_object_iff]
      constructor
      · rw [show others.lookup "blocks" = _ from blocksShown, RunRequest.readBlocks,
          each_readBlock_toJson, map_fst_blocks_run]
      · rw [show others.lookup "settings" = members.lookup "settings" from settingsKept]
        exact settingsRead
    exact ⟨same, respond_run ceiling reposted same⟩
  · intro place block flagged
    exact ⟨readBlock_toJson place block flagged, rfl⟩

/-- The second block lacks an expression and fails; it comes back with the empty text and a flag,
and is answered as before. -/
theorem flagged_block_resent :
    let settings : String × Json := ("settings", .object [("max_blocks", .text "0_2")])
    let first : Json := .object [("kind", .text "var_decl"), ("names", .text "x")]
    let json : Json := .object [settings,
      ("blocks", .list [first, .object [("var_name", .text "x"), ("kind", .text "assignment")]])]
    let other : Json := .object [settings,
      ("blocks", .list [(Block.declare "x").toJson false, (Block.assign "x" "").toJson true])]
    let message : Request := ⟨"POST", "/run", .value json⟩
    let again : Request := ⟨"POST", "/run", .value other⟩
    let request : RunRequest :=
      ⟨[.declare "x", .assign "x" ""], [("max_blocks", .text "0_2")]⟩
    message.Posts json ∧ RunRequest.ofJson json = .ok request ∧ again.Posts other ∧
      respond 10 again = respond 10 message := by
  intro settings first json other message again request
  have posted : message.Posts json := ⟨by decide, rfl, rfl⟩
  have valid : RunRequest.ofJson json = .ok request := by rfl
  have reposted : again.Posts other := ⟨by decide, rfl, rfl⟩
  have capped : Limit.cap 10 request.settings = .ok 2 := by rfl
  have ran : execute (some 2) (request.blocks.map .block) =
      .ok ⟨⟨[("x", 0.0)]⟩, some (.failed 1 (.formula ⟨[], .missingOperand 1⟩)), 1, []⟩ :=
    (runFrom_eq_iff_runs _ _).2 (.next rfl (.failed rfl))
  obtain ⟨body, shown, answered, blocks, -, resent, -⟩ := respond_resent 10 posted valid
  have told := respond_run 10 posted valid
  rw [run_of_cap capped ran, answered] at told
  cases told
  refine ⟨posted, valid, reposted, ?_⟩
  rw [answered]
  exact (resent again other reposted blocks rfl).2

end BlockMachine.Service
