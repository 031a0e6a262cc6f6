import BlockMachine.Json.Reader
import BlockMachine.Service.Evaluate
import BlockMachine.Service.Run

/-!
The service as a function from requests to responses. It answers at three paths,
each by one method; no request changes anything for a later one. A response is
written as JSON: one that would show an infinity, or something that is not a
number, cannot be written, and the request fails without a response.
-/

namespace BlockMachine.Service

/-- A body as it was sent, or as a value already read. -/
inductive Body
  | raw (bytes : List UInt8)
  | value (json : Json)

structure Request where
  method : String
  path : String
  body : Body

inductive Response
  | ok (body : Json)
  | unreadableBody
  | notFound
  | methodNotAllowed
  | invalid (problems : List Problem)

namespace Response

def status : Response → Nat
  | .ok _ => 200
  | .unreadableBody => 400
  | .notFound => 404
  | .methodNotAllowed => 405
  | .invalid _ => 422

def detail (value : Json) : Json :=
  .object [("detail", value)]

def content : Response → Json
  | .ok body => body
  | .unreadableBody => detail (.text "There was an error parsing the body")
  | .notFound => detail (.text "Not Found")
  | .methodNotAllowed => detail (.text "Method Not Allowed")
  | .invalid problems => detail (.list (problems.map Problem.toJson))

end Response

/-- Gives the value of the body to `answer`, unless there is none. -/
def withBody (body : Body) (answer : Json → Response) : Response :=
  match body with
  | .value json => answer json
  | .raw [] => .invalid [⟨.missing, [.field "body"], .null⟩]
  | .raw bytes =>
    match Json.readBytes bytes with
    | .ok json => answer json
    | .error .malformed => .invalid [⟨.notJson, [.field "body"], .object []⟩]
    | .error .undecodable => .unreadableBody
    | .error .beyondLimits => .unreadableBody

def answerRun (ceiling : Int) (json : Json) : Response :=
  match RunRequest.ofJson json with
  | .ok request => .ok (run ceiling request).toJson
  | .error problems => .invalid problems

def answerEvaluate (json : Json) : Response :=
  match EvaluateRequest.ofJson json with
  | .ok request => .ok (evaluationToJson (evaluate request))
  | .error problems => .invalid problems

def healthy : Json :=
  .object [("status", .text "ok")]

inductive Endpoint
  | run
  | evaluate
  | health
  deriving DecidableEq

namespace Endpoint

def all : List Endpoint := [.run, .evaluate, .health]

def path : Endpoint → String
  | .run => "/run"
  | .evaluate => "/evaluate"
  | .health => "/health"

def method : Endpoint → String
  | .run => "POST"
  | .evaluate => "POST"
  | .health => "GET"

/-- A path may end in one line break. -/
def ofPath? (asked : String) : Option Endpoint :=
  all.find? fun endpoint => asked = endpoint.path || asked = endpoint.path ++ "\n"

def answer (ceiling : Int) (body : Body) : Endpoint → Response
  | .run => withBody body (answerRun ceiling)
  | .evaluate => withBody body answerEvaluate
  | .health => .ok healthy

end Endpoint

def answer (ceiling : Int) (request : Request) : Response :=
  match Endpoint.ofPath? request.path with
  | none => .notFound
  | some endpoint =>
    if request.method = endpoint.method then endpoint.answer ceiling request.body
    else .methodNotAllowed

/-- The response holds a number that JSON cannot write. -/
inductive Unwritable
  | nonFinite
  deriving DecidableEq

def Unwritable.message : Unwritable → String
  | .nonFinite => "Out of range float values are not JSON compliant"

def respond (ceiling : Int) (request : Request) : Except Unwritable Response :=
  let response := answer ceiling request
  if response.content.isFinite then .ok response else .error .nonFinite

end BlockMachine.Service
