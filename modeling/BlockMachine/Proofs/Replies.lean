import BlockMachine.Proofs.Flags
import BlockMachine.Proofs.Semantics
import BlockMachine.Proofs.Traces
import BlockMachine.Service.Route

/-!
Replies to requests to run. A valid request is answered in one of three ways:
its settings cannot be used, its list is longer than the limit, or its blocks are
run as they would be without a limit. In the first two cases nothing is run. The
code of the error tells the three apart, and beyond the ceiling no block is ever
performed.
-/

namespace BlockMachine

namespace Json

/-- The value an object has under a key. -/
def member? (key : String) : Json → Option Json
  | .object members => members.lookup key
  | _ => none

theorem areFinite_iff (items : List Json) :
    areFinite items = true ↔ ∀ item ∈ items, item.isFinite = true := by
  induction items with
  | nil => simp [areFinite]
  | cons item rest ih => simp [areFinite, ih]

theorem haveFinite_iff (members : List (String × Json)) :
    haveFinite members = true ↔ ∀ entry ∈ members, entry.2.isFinite = true := by
  induction members with
  | nil => simp [haveFinite]
  | cons entry rest ih => simp [haveFinite, ih]

theorem isFinite_of_isNaN_of_isInf {x : Float} (number : x.isNaN = false)
    (bounded : x.isInf = false) : x.isFinite = true := by
  unfold Float.isNaN Float.Model.isNaN at number
  unfold Float.isInf Float.Model.isInf at bounded
  unfold Float.isFinite Float.Model.isFinite
  cases unpacked : x.toModel.unpack with
  | notANumber =>
    rw [unpacked] at number
    cases number
  | infinity sign =>
    rw [unpacked] at bounded
    cases bounded
  | zero sign => rfl
  | finite sign mantissa exponent => rfl

theorem isFinite_ofFloat (x : Float) : (ofFloat x).isFinite = true := by
  unfold ofFloat
  split
  · simp only [isFinite]
  · next number =>
    split
    · simp only [isFinite]
    · next bounded =>
      simp only [isFinite]
      exact isFinite_of_isNaN_of_isInf (Bool.eq_false_iff.2 number) (Bool.eq_false_iff.2 bounded)

end Json

theorem Diagnostic.haveFinite_members (diagnostic : Diagnostic) :
    Json.haveFinite diagnostic.members = true := by
  obtain ⟨code, message, column, text, detail⟩ := diagnostic
  rw [Json.haveFinite_iff]
  cases column <;> cases text <;> cases detail <;>
    simp [members, Json.present, Json.isFinite]

theorem Block.isFinite_toJson (block : Block) (flagged : Bool) :
    (block.toJson flagged).isFinite = true := by
  cases block with
  | declare names => rfl
  | assign target expression => rfl
  | branch left comparison right => rfl

theorem Machine.Halt.isFinite_toJson (halt : Halt) : halt.toJson.isFinite = true := by
  rw [toJson, Json.isFinite, Json.haveFinite_iff]
  intro entry member
  rcases List.mem_append.1 member with told | last
  · exact (Json.haveFinite_iff _).1 halt.diagnostic.haveFinite_members entry told
  · rw [List.mem_singleton.1 last]
    cases halt with
    | failed index fault => rfl
    | overLimit count limit => rfl

/-- The codes of what can be wrong with a block. -/
def Block.faultCodes : List String :=
  ["EMPTY_VARIABLE_LIST", "INVALID_VARIABLE_NAME", "UNDECLARED_VARIABLE",
   "INVALID_COMPARISON_OPERATOR", "EMPTY_FACTOR", "UNBALANCED_PARENTHESES",
   "INVALID_NUMBER_FORMAT", "UNDEFINED_VARIABLE", "UNEXPECTED_CHARACTER", "TRAILING_INPUT",
   "NESTING_TOO_DEEP"]

theorem Block.Fault.code_mem_faultCodes (fault : Fault) : fault.diagnostic.code ∈ faultCodes := by
  cases fault with
  | noNames => simp [diagnostic, faultCodes]
  | invalidName name => simp [diagnostic, faultCodes]
  | undeclared name => simp [diagnostic, faultCodes]
  | invalidComparison symbol => simp [diagnostic, faultCodes]
  | formula error =>
    obtain ⟨text, fault⟩ := error
    cases fault <;> simp [diagnostic, Formula.Error.diagnostic, Formula.Fault.code, faultCodes]

theorem Machine.Halt.member?_code (halt : Halt) :
    halt.toJson.member? "code" = some (.text halt.diagnostic.code) := by
  simp [toJson, Json.member?, Diagnostic.members, Json.present]

theorem Machine.Halt.member?_block (halt : Halt) :
    halt.toJson.member? "block" =
      some ((halt.index?.map fun index => .whole index).getD .null) := by
  cases told : halt.diagnostic with
  | mk code message column text detail =>
    simp only [toJson, Json.member?, told, Diagnostic.members, Json.present]
    cases column <;> cases text <;> cases detail <;> simp [List.lookup_cons]

/-- Without a limit, a run is halted by a fault of a block only. -/
theorem Machine.failed_of_halt {items : List Item} {report : Report} {halt : Halt}
    (ran : execute none items = .ok report) (halted : report.halt = some halt) :
    ∃ index fault, halt = .failed index fault := by
  obtain ⟨turns, last, -, ends⟩ := exists_trace_to_end items
  rw [runFrom_of_unlimited ran] at ends
  cases ends with
  | done outside => cases halted
  | failed found fails =>
    cases halted
    exact ⟨_, _, rfl⟩

/-- Blocks alone always return a report. -/
theorem Machine.exists_report_of_blocks (limit : Option Int) (blocks : List Block) :
    ∃ report, execute limit (blocks.map .block) = .ok report := by
  rcases execute_cases (flaggable_blocks blocks) limit with ⟨most, -, -, refused⟩ | ⟨-, runs⟩
  · exact ⟨_, refused⟩
  · have along := (runFrom_eq_iff_runs (blocks.map .block) _).1 rfl
    obtain ⟨report, returned⟩ := along.ok_of_blocks (by simp)
    exact ⟨report, runs.trans returned⟩

namespace Sheet
open Machine

theorem getElem?_ofBlocks (blocks : List Block) (place : Nat) :
    (ofBlocks blocks).slots[place]? =
      blocks[place]?.map fun block => ⟨place, .block block, false⟩ := by
  rw [ofBlocks, List.getElem?_mapIdx]

theorem items_ofBlocks (blocks : List Block) : (ofBlocks blocks).items = blocks.map .block := by
  apply List.ext_getElem?
  intro place
  rw [items, List.getElem?_map, getElem?_ofBlocks, List.getElem?_map, Option.map_map]
  rfl

theorem flags_ofBlocks (blocks : List Block) :
    (ofBlocks blocks).flags = blocks.map fun _ => false := by
  apply List.ext_getElem?
  intro place
  rw [flags, List.getElem?_map, getElem?_ofBlocks, List.getElem?_map, Option.map_map]
  rfl

/-- No two places of a new sheet share a block, so only the one that failed is flagged. -/
theorem flags_execute_ofBlocks {limit : Option Int} {blocks : List Block} {report : Report}
    (ran : Machine.execute limit (blocks.map .block) = .ok report) :
    ((ofBlocks blocks).execute limit).2.flags =
      blocks.mapIdx fun place _ => decide (report.failedIndex = some place) := by
  rw [← items_ofBlocks] at ran
  have flaggable := flaggable_of_ok ran
  rw [execute_eq_marked, ran]
  apply List.ext_getElem?
  intro place
  rw [List.getElem?_mapIdx]
  simp only [marked]
  cases failed : report.failedIndex with
  | none => simp [getElem?_flags_clear flaggable, getElem?_ofBlocks]
  | some index =>
    obtain ⟨target, found⟩ := exists_slot_of_failedIndex ran failed
    have label : target.label = index := by
      rw [getElem?_ofBlocks] at found
      obtain ⟨block, -, rfl⟩ := Option.map_eq_some_iff.1 found
      rfl
    simp only [getElem?_flags_setFlag flaggable found, getElem?_ofBlocks, Option.map_map, label]
    congr 1
    funext block
    simp [eq_comm]

end Sheet

namespace Service
open Machine

/-- The blocks as they are sent back: the failed one, if there is one, is flagged. -/
def flaggedAt (failed : Option Nat) (blocks : List Block) : List (Block × Bool) :=
  blocks.mapIdx fun place block => (block, decide (failed = some place))

theorem zip_flags (failed : Option Nat) (blocks : List Block) :
    blocks.zip (blocks.mapIdx fun place _ => decide (failed = some place)) =
      flaggedAt failed blocks := by
  apply List.ext_getElem?
  intro place
  rw [flaggedAt, List.zip, List.getElem?_zipWith, List.getElem?_mapIdx, List.getElem?_mapIdx]
  cases blocks[place]? with
  | none => rfl
  | some block => rfl

theorem flaggedAt_none (blocks : List Block) :
    flaggedAt none blocks = blocks.map fun block => (block, false) := by
  apply List.ext_getElem?
  intro place
  rw [flaggedAt, List.getElem?_mapIdx, List.getElem?_map]
  rfl

theorem flags_unset (blocks : List Block) :
    blocks.zip (Sheet.ofBlocks blocks).flags = flaggedAt none blocks := by
  rw [Sheet.flags_ofBlocks, flaggedAt_none, ← List.map_prod_left_eq_zip]

section
variable {ceiling : Int} {request : RunRequest}

theorem run_of_unusable {fault : Limit.Fault}
    (unusable : Limit.cap ceiling request.settings = .error fault) :
    run ceiling request =
      ⟨.empty, flaggedAt none request.blocks, some (.server fault.message), 0, []⟩ := by
  simp only [run, unusable, flags_unset]
  rfl

/-- Within a limit that could be made out, the reply is the report of the machine. -/
theorem run_of_cap {limit : Int} (capped : Limit.cap ceiling request.settings = .ok limit)
    {report : Report} (ran : execute (some limit) (request.blocks.map .block) = .ok report) :
    run ceiling request =
      ⟨report.env, flaggedAt report.failedIndex request.blocks, report.halt.map .halted,
        report.steps, report.skipped⟩ := by
  have flags := Sheet.flags_execute_ofBlocks ran
  have returned : ((Sheet.ofBlocks request.blocks).execute (some limit)).1 = .ok report := by
    rw [Sheet.execute_eq_marked, Sheet.items_ofBlocks, ran]
  simp only [run, capped]
  generalize (Sheet.ofBlocks request.blocks).execute (some limit) = outcome at flags returned
  obtain ⟨result, after⟩ := outcome
  cases returned
  simp only [RunReply.ofReport, flags, zip_flags]

theorem run_of_beyond {limit : Int} (capped : Limit.cap ceiling request.settings = .ok limit)
    (beyond : limit < request.blocks.length) :
    run ceiling request =
      ⟨.empty, flaggedAt none request.blocks,
        some (.halted (.overLimit request.blocks.length limit)), 0, []⟩ := by
  have refused : execute (some limit) (request.blocks.map .block) =
      .ok (State.start.report (some (.overLimit request.blocks.length limit))) := by
    rw [execute_of_beyond (flaggable_blocks _) (by simpa using beyond), List.length_map]
  exact run_of_cap capped refused

theorem run_of_within {limit : Int} (capped : Limit.cap ceiling request.settings = .ok limit)
    (within : request.blocks.length ≤ limit) {report : Report}
    (ran : execute none (request.blocks.map .block) = .ok report) :
    run ceiling request =
      ⟨report.env, flaggedAt report.failedIndex request.blocks, report.halt.map .halted,
        report.steps, report.skipped⟩ := by
  apply run_of_cap capped
  rw [execute_of_within (flaggable_blocks _) (by simpa using within)]
  exact runFrom_of_unlimited ran

end

/-- The value of a body that can be read. -/
def Body.value? : Body → Option Json
  | .value json => some json
  | .raw [] => none
  | .raw bytes => (Json.readBytes bytes).toOption

theorem withBody_of_value? {body : Body} {json : Json} (found : body.value? = some json)
    (answer : Json → Response) : withBody body answer = answer json := by
  unfold Body.value? at found
  split at found
  · cases found
    rfl
  · cases found
  · next bytes nonempty =>
    cases reads : Json.readBytes bytes with
    | error fault =>
      rw [reads] at found
      cases found
    | ok value =>
      rw [reads] at found
      cases found
      cases bytes with
      | nil => exact absurd rfl nonempty
      | cons byte rest => simp only [withBody, reads]

/-- The message asks for a run, and this is what it sends. -/
structure Request.Posts (message : Request) (json : Json) : Prop where
  path : Endpoint.ofPath? message.path = some .run
  method : message.method = Endpoint.run.method
  body : message.body.value? = some json

theorem RunError.isFinite_toJson (error : RunError) : error.toJson.isFinite = true := by
  cases error with
  | server message => rfl
  | halted halt => exact halt.isFinite_toJson

theorem RunReply.isFinite_toJson (reply : RunReply) : reply.toJson.isFinite = true := by
  simp only [toJson, Json.isFinite, Json.haveFinite, Bool.and_true, Bool.true_and, Bool.and_eq_true,
    Json.haveFinite_iff, Json.areFinite_iff]
  refine ⟨?_, ?_, ?_, ?_⟩
  · intro entry member
    obtain ⟨⟨name, x⟩, -, rfl⟩ := List.mem_map.1 member
    exact Json.isFinite_ofFloat x
  · intro item member
    obtain ⟨⟨block, flagged⟩, -, rfl⟩ := List.mem_map.1 member
    exact block.isFinite_toJson flagged
  · cases reply.error with
    | none => rfl
    | some error => exact error.isFinite_toJson
  · intro item member
    obtain ⟨index, -, rfl⟩ := List.mem_map.1 member
    rfl

/-- A valid request to run is answered, and the answer can be written. -/
theorem respond_run (ceiling : Int) {message : Request} {json : Json} {request : RunRequest}
    (posted : message.Posts json) (valid : RunRequest.ofJson json = .ok request) :
    respond ceiling message = .ok (.ok (run ceiling request).toJson) := by
  have answered : answer ceiling message = .ok (run ceiling request).toJson := by
    simp only [answer, posted.path, posted.method, if_true, Endpoint.answer,
      withBody_of_value? posted.body, answerRun, valid]
  simp only [respond, answered, Response.content, RunReply.isFinite_toJson, if_true]

/-- The body of a reply when nothing was run. -/
def refusal (blocks : List Block) (errors : Json) : Json :=
  .object
    [("variables", .object []), ("blocks", .list (blocks.map (·.toJson false))),
     ("errors", errors), ("steps", .whole 0), ("skipped", .list [])]

/-- The body of a reply that tells of a run. -/
def account (blocks : List Block) (report : Report) : Json :=
  .object
    [("variables", .object (report.env.entries.map fun (name, x) => (name, Json.ofFloat x))),
     ("blocks", .list (blocks.mapIdx fun place block =>
       block.toJson (decide (report.failedIndex = some place)))),
     ("errors", (report.halt.map Halt.toJson).getD .null),
     ("steps", .whole report.steps),
     ("skipped", .list (report.skipped.map fun (index : Nat) => .whole index))]

/-- A part of the error that a reply shows. -/
def errorPart? (key : String) (body : Json) : Option Json :=
  (body.member? "errors").bind (Json.member? key)

theorem toJson_refusal (blocks : List Block) (error : RunError) :
    (RunReply.mk .empty (flaggedAt none blocks) (some error) 0 []).toJson =
      refusal blocks error.toJson := by
  simp only [RunReply.toJson, flaggedAt_none, List.map_map]
  rfl

theorem toJson_flaggedAt (failed : Option Nat) (blocks : List Block) :
    ((flaggedAt failed blocks).map fun (block, flagged) => block.toJson flagged) =
      blocks.mapIdx fun place block => block.toJson (decide (failed = some place)) := by
  apply List.ext_getElem?
  intro place
  rw [flaggedAt, List.getElem?_map, List.getElem?_mapIdx, List.getElem?_mapIdx, Option.map_map]
  rfl

theorem toJson_account (blocks : List Block) (report : Report) :
    (RunReply.mk report.env (flaggedAt report.failedIndex blocks) (report.halt.map .halted)
      report.steps report.skipped).toJson = account blocks report := by
  simp only [RunReply.toJson, toJson_flaggedAt, Option.map_map]
  rfl

theorem errorPart?_account (key : String) (blocks : List Block) (report : Report) :
    errorPart? key (account blocks report) =
      report.halt.bind fun halt => halt.toJson.member? key := by
  have shown : (account blocks report).member? "errors" =
      some ((report.halt.map Halt.toJson).getD .null) := rfl
  rw [errorPart?, shown]
  cases report.halt with
  | none => rfl
  | some halt => rfl

theorem code_account_ne {blocks : List Block} {report : Report}
    (ran : execute none (blocks.map .block) = .ok report) {code : String}
    (foreign : code ∉ Block.faultCodes) :
    errorPart? "code" (account blocks report) ≠ some (.text code) := by
  rw [errorPart?_account]
  intro shown
  obtain ⟨halt, halted, told⟩ := Option.bind_eq_some_iff.1 shown
  obtain ⟨index, fault, rfl⟩ := failed_of_halt ran halted
  rw [Halt.member?_code] at told
  cases told
  exact foreign fault.code_mem_faultCodes

theorem block_account_iff (blocks : List Block) (report : Report) (place : Nat) :
    errorPart? "block" (account blocks report) = some (.whole place) ↔
      report.failedIndex = some place := by
  rw [errorPart?_account, Report.failedIndex]
  cases report.halt with
  | none => simp
  | some halt =>
    rw [Option.bind_some, Option.bind_some, halt.member?_block]
    cases halt.index? with
    | none => simp
    | some index => simp only [Option.map_some, Option.getD_some, Option.some.injEq,
        Json.whole.injEq, Int.ofNat_inj]

end Service

namespace Limit

/-- Without settings the ceiling is the limit; any others ask for one, and it is brought between
zero and the ceiling. -/
theorem cap_cases {ceiling : Int} {settings : Settings} {limit : Int}
    (capped : cap ceiling settings = .ok limit) :
    (settings = [] ∧ limit = ceiling) ∨
    ∃ requested, settings ≠ [] ∧
      wholeOfJson ((settings.lookup "max_blocks").getD (.whole ceiling)) = .ok requested ∧
      limit = max 0 (min requested ceiling) := by
  unfold cap at capped
  split at capped
  · next absent =>
    cases capped
    exact .inl ⟨List.isEmpty_iff.1 absent, rfl⟩
  · next present =>
    cases asked : wholeOfJson ((settings.lookup "max_blocks").getD (.whole ceiling)) with
    | error fault =>
      rw [asked] at capped
      cases capped
    | ok requested =>
      rw [asked] at capped
      cases capped
      exact .inr ⟨requested, fun absent => present (List.isEmpty_iff.2 absent), rfl, rfl⟩

theorem cap_le_max {ceiling : Int} {settings : Settings} {limit : Int}
    (capped : cap ceiling settings = .ok limit) : limit ≤ max 0 ceiling := by
  rcases cap_cases capped with ⟨-, rfl⟩ | ⟨requested, -, -, rfl⟩
  · omega
  · omega

end Limit

namespace Service
open Machine

/-- A valid request to run has one of three answers, which the settings and the length of the list
decide and the code of the error tells apart; beyond the ceiling nothing is performed or flagged. -/
theorem respond_run_outcomes (ceiling : Int) {message : Request} {json : Json}
    {request : RunRequest} (posted : message.Posts json)
    (valid : RunRequest.ofJson json = .ok request) :
    ∃ body, respond ceiling message = .ok (.ok body) ∧
      (∀ fault, Limit.cap ceiling request.settings = .error fault →
        body = refusal request.blocks
          (.object [("code", .text "SERVER_ERROR"), ("message", .text fault.message)])) ∧
      (∀ limit, Limit.cap ceiling request.settings = .ok limit → limit < request.blocks.length →
        body = refusal request.blocks
          (.object [("code", .text "BLOCK_LIMIT"),
            ("message", .text ("Too many blocks: " ++ toString request.blocks.length ++ " > " ++
              toString limit)),
            ("block", .null)])) ∧
      (∀ limit, Limit.cap ceiling request.settings = .ok limit → request.blocks.length ≤ limit →
        ∃ report, execute none (request.blocks.map .block) = .ok report ∧
          body = account request.blocks report ∧
          ∀ place : Nat, errorPart? "block" body = some (.whole place) ↔
            report.failedIndex = some place) ∧
      (errorPart? "code" body = some (.text "SERVER_ERROR") ↔
        ∃ fault, Limit.cap ceiling request.settings = .error fault) ∧
      (errorPart? "code" body = some (.text "BLOCK_LIMIT") ↔
        ∃ limit, Limit.cap ceiling request.settings = .ok limit ∧
          limit < request.blocks.length) ∧
      (ceiling < request.blocks.length →
        body.member? "steps" = some (.whole 0) ∧
        (∀ place : Nat, errorPart? "block" body ≠ some (.whole place)) ∧
        body.member? "blocks" = some (.list (request.blocks.map (·.toJson false)))) := by
  refine ⟨_, respond_run ceiling posted valid, ?_⟩
  cases capped : Limit.cap ceiling request.settings with
  | error fault =>
    rw [run_of_unusable capped, toJson_refusal]
    refine ⟨?_, nofun, nofun, ⟨fun _ => ⟨fault, rfl⟩, fun _ => rfl⟩, ⟨?_, nofun⟩, ?_⟩
    · rintro other ⟨⟩
      rfl
    · intro shown
      have codes : "SERVER_ERROR" = "BLOCK_LIMIT" := Json.text.inj (Option.some.inj shown)
      exact absurd codes (by decide)
    · exact fun _ => ⟨rfl, fun place => nofun, rfl⟩
  | ok limit =>
    by_cases beyond : limit < request.blocks.length
    · rw [run_of_beyond capped beyond, toJson_refusal]
      refine ⟨nofun, ?_, ?_, ⟨?_, nofun⟩, ⟨fun _ => ⟨limit, rfl, beyond⟩, fun _ => rfl⟩, ?_⟩
      · rintro other ⟨⟩ -
        rfl
      · rintro other ⟨⟩ within
        omega
      · intro shown
        have codes : "BLOCK_LIMIT" = "SERVER_ERROR" := Json.text.inj (Option.some.inj shown)
        exact absurd codes (by decide)
      · exact fun _ => ⟨rfl, fun place => nofun, rfl⟩
    · obtain ⟨report, ran⟩ := exists_report_of_blocks none request.blocks
      rw [run_of_within capped (Int.not_lt.1 beyond) ran, toJson_account]
      refine ⟨nofun, ?_, ?_, ⟨?_, nofun⟩, ⟨?_, ?_⟩, ?_⟩
      · rintro other ⟨⟩ outside
        exact absurd outside beyond
      · rintro other ⟨⟩ -
        exact ⟨report, ran, rfl, block_account_iff request.blocks report⟩
      · intro shown
        exact absurd shown (code_account_ne ran (by decide))
      · intro shown
        exact absurd shown (code_account_ne ran (by decide))
      · rintro ⟨other, ⟨⟩, outside⟩
        exact absurd outside beyond
      · intro above
        -- only below a ceiling of zero do settings raise the limit, and then to zero
        have least := Limit.cap_le_max capped
        have empty : request.blocks = [] := List.eq_nil_of_length_eq_zero (by omega)
        rw [empty] at ran ⊢
        have nothing : runFrom [] .start = .ok report := runFrom_of_unlimited ran
        rw [runFrom] at nothing
        cases nothing
        refine ⟨rfl, ?_, rfl⟩
        intro place shown
        cases shown

/-- The settings ask for more than the ceiling, and the client's flag on a block is dropped. -/
theorem two_blocks_beyond_ceiling :
    let json : Json := .object
      [("settings", .object [("max_blocks", .text " +7\n")]),
       ("blocks", .list
         [.object [("kind", .text "var_decl"), ("names", .text "x"), ("has_error", .text "Yes")],
          .object [("kind", .text "assignment"), ("var_name", .text "y")]])]
    let message : Request := ⟨"POST", "/run", .value json⟩
    let request : RunRequest :=
      ⟨[.declare "x", .assign "y" ""], [("max_blocks", .text " +7\n")]⟩
    message.Posts json ∧ RunRequest.ofJson json = .ok request ∧
      Limit.cap 1 request.settings = .ok 1 ∧
      ∃ body, respond 1 message = .ok (.ok body) ∧
        errorPart? "code" body = some (.text "BLOCK_LIMIT") ∧
        body.member? "steps" = some (.whole 0) := by
  intro json message request
  have posted : message.Posts json := ⟨by decide, rfl, rfl⟩
  have valid : RunRequest.ofJson json = .ok request := by rfl
  have capped : Limit.cap 1 request.settings = .ok 1 := by rfl
  obtain ⟨body, answered, -, -, -, -, limited, above⟩ := respond_run_outcomes 1 posted valid
  exact ⟨posted, valid, capped, body, answered, limited.2 ⟨1, capped, by decide⟩,
    (above (by decide)).1⟩

end Service

end BlockMachine
