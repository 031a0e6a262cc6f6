import BlockMachine.Service.RunRequest
import BlockMachine.Sheet

/-!
Running the blocks of a request, each time on a sheet of their own. The reply has
one shape, whether the settings could not be used, the list was too long, a block
failed or all went well.
-/

namespace BlockMachine.Service

inductive RunError
  /-- The run could not be set up, or broke off without a report. -/
  | server (message : String)
  | halted (halt : Machine.Halt)
  deriving DecidableEq

def RunError.toJson : RunError → Json
  | .server message => .object [("code", .text "SERVER_ERROR"), ("message", .text message)]
  | .halted halt => halt.toJson

structure RunReply where
  env : Env
  blocks : List (Block × Bool)
  error : Option RunError
  steps : Nat
  skipped : List Nat

namespace RunReply

def ofFailure (blocks : List (Block × Bool)) (message : String) : RunReply :=
  ⟨.empty, blocks, some (.server message), 0, []⟩

def ofReport (blocks : List (Block × Bool)) (report : Machine.Report) : RunReply :=
  ⟨report.env, blocks, report.halt.map .halted, report.steps, report.skipped⟩

def toJson (reply : RunReply) : Json :=
  .object
    [("variables", .object (reply.env.entries.map fun (name, x) => (name, Json.ofFloat x))),
     ("blocks", .list (reply.blocks.map fun (block, flagged) => block.toJson flagged)),
     ("errors", (reply.error.map RunError.toJson).getD .null),
     ("steps", .whole reply.steps),
     ("skipped", .list (reply.skipped.map fun (index : Nat) => .whole index))]

end RunReply

def run (ceiling : Int) (request : RunRequest) : RunReply :=
  let sheet := Sheet.ofBlocks request.blocks
  match Limit.cap ceiling request.settings with
  | .error fault => .ofFailure (request.blocks.zip sheet.flags) fault.message
  | .ok limit =>
    match sheet.execute (some limit) with
    | (.error unsupported, after) =>
      .ofFailure (request.blocks.zip after.flags) unsupported.message
    | (.ok report, after) => .ofReport (request.blocks.zip after.flags) report

end BlockMachine.Service
