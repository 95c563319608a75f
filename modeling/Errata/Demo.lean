import Errata.Class.Declaration
import Errata.Class.Source
import Errata.Reply.Field
import Errata.Text.Words

/-!
# The demo application

A small application with one taxonomy. It welcomes even numbers, refuses odd ones, breaks at seven, and
greets every other name except a few that stand for errors.
-/

namespace Errata.Demo

/-- The hint of a case with an annotation. -/
def caseHint (type : Hint) (a : Annotation) : Hint := .annotated type [a.toValue]

/-- The type of a case without a payload. -/
def nothing : Hint := .type .nothing "NoneType"

/-- The type of a case that carries a text. -/
def text : Hint := .type .payload "str"

/-- The annotation of a case that answers a request. -/
def onRequest (keywords : List (String × Value)) : Annotation :=
  .ofKeywords [.disposition .request] keywords

/-- The annotation of an internal case. -/
def onInternal : Annotation := .ofKeywords [.disposition .internal] []

/-- The taxonomy of the demo. Its internal cases share one documented entry. -/
def declaration : ClassDecl where
  name := "DemoErrors"
  bases := [.root]
  hints := .ofList [
    ("NotFound", caseHint nothing (onRequest [
      ("status", .status .notFound), ("code", .text "404 not-found"),
      ("description", .text "The page does not exist")])),
    ("NotFound2", caseHint nothing (onRequest [
      ("status", .status .notFound), ("code", .text "4042 not-found")])),
    ("OddNotAllowed", caseHint text (onRequest [
      ("status", .status .conflict), ("code", .text "received-odd-number"),
      ("hint", .text "Try an even number")])),
    ("InternalError", caseHint nothing onInternal),
    ("AnotherInternalError", caseHint text onInternal)]
  config := .ofList [(internalCodeKeyword, .text "500 internal")]

/-- The classes of the demo, and its taxonomy among them. -/
def classes : ClassTable × ClassId :=
  match (ClassTable.empty.declare .empty declaration).outcome with
  | .ok declared => declared
  | .error _ => (.empty, .root)

/-- The documentation of the demo's taxonomy. -/
def catalogue : Docs.Catalogue :=
  match classes.1.compiled? classes.2 with
  | some compiled => compiled.catalogue
  | none => ⟨declaration.name, .empty⟩

/-- The documentation of some of its errors, joined into one artifact; they share a status. -/
def joined (names : List String) : Option Docs.Artifact :=
  match names.filterMap catalogue.get? with
  | [] => none
  | a :: rest => (rest.foldlM Docs.Artifact.combine a).toOption

/-- The two ways in which a page is not found. -/
def notFoundNames : List String := ["NotFound", "NotFound2"]

/-- The routes, with the artifacts that each documents. -/
def routes : List (String × List Docs.Artifact) := [
  ("/numbers/\x7bnumber\x7d", (joined ["OddNotAllowed"]).toList ++ (joined ["InternalError"]).toList),
  ("/\x7bname\x7d", (joined notFoundNames).toList ++ (joined ["InternalError"]).toList)]

/-- The responses that a route documents beside success and invalid input. -/
def routeResponses (template : String) : Option (OrderedMap String Json) :=
  (routes.lookup template).bind fun artifacts => (Docs.mergeResponses artifacts).toOption

/-- The codes of success and of invalid input, which every route documents. -/
def commonCodes : List String := ["200", "422"]

/-- All codes that a route documents, in order. -/
def routeCodes (responses : OrderedMap String Json) : List String :=
  (commonCodes ++ responses.keys).mergeSort fun a b => decide (a ≤ b)

/-- The application with its documentation registered. -/
def application : Docs.Application :=
  let components := catalogue.components.update
    (Docs.Components.join ((joined notFoundNames).toList.map Docs.Artifact.components))
  Docs.Application.bare.register components

/-- A reply that only says what is wrong. -/
def refusal (status : Int) (detail : String) : Reply :=
  ⟨status, some (.single "detail" (.str detail))⟩

/-- The reply to a number that cannot be read. -/
def invalidNumber (input : String) (e : Field.Fault) : Reply :=
  ⟨422, some (.single "detail" (.arr [.obj [
    ("type", .str e.tag), ("loc", .arr [.str "path", .str "number"]), ("msg", .str e.message),
    ("input", .str input)]]))⟩

/-- A success with a JSON content. -/
def success (status : Int) (content info : Json) : Reply :=
  ⟨status, some (.obj [("status", .int status), ("content", content), ("meta", info)])⟩

/-- Raises a case of the taxonomy. -/
def raiseCase (name : String) (args : List Value) : Attempt ResponseTable.Fault Reply :=
  (Instance.mk ((classes.1.member? classes.2 name).getD classes.2) args).handle classes.1

/-- Answers a number. -/
def number (n : Int) : Attempt ResponseTable.Fault Reply :=
  if n % 2 = 0 then return success 200 (.str "Welcome to the club") .null
  else if n = 7 then raiseCase "InternalError" []
  else raiseCase "OddNotAllowed" [.text "We don't accept odd numbers around here"]

/-- What is said to a name. -/
def greeting (n : Int) (name : String) : Json := .obj [("number", .int n), ("string", .str name)]

/-- Answers a name. -/
def index (name : String) : Attempt ResponseTable.Fault Reply :=
  if name = "500" then raiseCase "InternalError" []
  else if name = "501" then raiseCase "AnotherInternalError" [.failure .value [.text "Error"]]
  else if name = "404" then raiseCase "NotFound" []
  else if name = "4042" then raiseCase "NotFound2" []
  else if name = "meta" then return success 201 (greeting 1 name) (greeting 2 name)
  else return success 200 (greeting 1 name) .null

/-- What a path leads to. -/
inductive Route where
  | number (text : String)
  | index (name : String)
  deriving DecidableEq, Repr

/-- The segments of a path; a path begins with a slash. -/
def segments? (path : List Char) : Option (List (List Char)) :=
  match path with
  | '/' :: rest => some (Text.splitOn (· = '/') rest)
  | _ => none

/-- The route of a path. -/
def route? (path : List Char) : Option Route :=
  match segments? path with
  | some [name] => if name.isEmpty then none else some (.index (String.ofList name))
  | some [first, text] =>
    if String.ofList first = "numbers" && !text.isEmpty then some (.number (String.ofList text)) else none
  | _ => none

/-- A path without the slashes at its end. -/
def withoutTrailingSlashes (path : List Char) : List Char :=
  (path.reverse.dropWhile (· = '/')).reverse

/-- The method that every route answers. -/
def getMethod : String := "GET"

/-- The reply that sends a request to the path without slashes at its end. -/
def elsewhere : Reply := ⟨307, none⟩

/-- Answers a request that has found its route. -/
def answer (method : String) (route : Route) : Attempt ResponseTable.Fault Reply :=
  if method ≠ getMethod then return refusal 405 "Method Not Allowed"
  else
    match route with
    | .index name => index name
    | .number text =>
      match Field.integerOfText text with
      | .ok n => number n
      | .error e => return invalidNumber text e

/-- Answers a request. What follows a question mark is no part of the path. A path with slashes at its
end that would lead somewhere without them is sent there, whatever its method. -/
def serve (method path : String) : Attempt ResponseTable.Fault Reply :=
  let path := path.toList.takeWhile (· ≠ '?')
  match route? path with
  | some route => answer method route
  | none =>
    if (route? (withoutTrailingSlashes path)).isSome then return elsewhere
    else return refusal 404 "Not Found"

end Errata.Demo
