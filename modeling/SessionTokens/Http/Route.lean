import SessionTokens.Http.Cookie
import SessionTokens.Http.MediaType
import SessionTokens.Http.Rejection
import SessionTokens.Json.Reader
import SessionTokens.Number.Word
import SessionTokens.Session.Program

/-! Routes are offered a request in order until one takes it. What a handler reads of a request
it reads in order too, and the first thing that is wrong turns the request down. -/

namespace SessionTokens.Http

abbrev Handling := ExceptT Rejection Program

structure Route where
  method : String
  segments : List String
  handle : Request → Handling Response

/-- What follows these segments at the front of a path. A slash after a segment goes with it. -/
def afterSegments : List String → List Char → Option (List Char)
  | [], path => some path
  | s :: ss, path =>
    if path.takeWhile (· != '/') = s.toList then
      afterSegments ss ((path.dropWhile (· != '/')).drop 1)
    else none

def Request.below (q : Request) (mount : List String) : Option (List Char) :=
  match q.path.toList with
  | '/' :: r => afterSegments mount r
  | r => afterSegments mount r

namespace Handling

def reject {α : Type} (c : Cause) : Handling α := throw [c]

def emit (event : Log.Event) : Handling Unit := (Program.emit event (.done ()) : Program Unit)

def emitAll (events : List Log.Event) : Handling Unit := events.forM emit

/-- Runs a session operation; its failure turns the request down. -/
def ofOperation {α : Type} (op : Operation α) : Handling α := do
  let r : Except SessionError α ← ExceptT.lift op.run
  match r with
  | .ok a => return a
  | .error e =>
    emitAll (ApiError.sessionEvents e)
    reject (.refused (.ofSession e))

/-- The first header of a name, which has to be plain ASCII. -/
def header? (q : Request) (name : String) : Handling (Option String) :=
  match q.first? name with
  | none => return none
  | some h => match h.plain? with
    | some value => return some value
    | none => reject .invalidHeader

def header (q : Request) (name : String) : Handling String := do
  match ← header? q name with
  | some value => return value
  | none => reject .missingHeader

def cookie (q : Request) (name : String) : Handling String := do
  if q.all "cookie" = [] then reject .invalidHeader
  match q.cookie? name with
  | some value => return value
  | none => reject .missingCookie

end Handling

namespace Request

/-- Digits after one plus sign at most, below 2⁶⁴. -/
def lengthOf? (value : String) : Option Nat :=
  (Decimal.toCount? value.toList).filter (· < Word.bound)

/-- The length that the headers give; several have to agree. -/
def contentLength? (q : Request) : Option Nat := do
  let lengths ← (q.all "content-length").mapM fun h => do lengthOf? (← h.plain?)
  match lengths with
  | [] => none
  | n :: more => if more.all (· == n) then some n else none

end Request

namespace Handling

def limitLength (q : Request) (limit : Nat) : Handling Unit :=
  match q.contentLength? with
  | none => reject .lengthRequired
  | some n => if n ≤ limit then return () else reject .bodyTooLarge

/-- The body as JSON. A request without a media type is taken to bring JSON. -/
def body {α : Type} (q : Request) (value : Json.Node → Json.Reading α) : Handling α := do
  match q.first? "content-type" with
  | some h => if !(h.plain?.any MediaType.isJson) then reject .unsupportedMediaType
  | none => pure ()
  match (Json.readBytes q.body).read value with
  | .ok a => return a
  | .error _ => reject .unreadableBody

end Handling

namespace Route

def offer (r : Route) (q : Request) (below : List Char) : Handling Response := do
  if q.method ≠ r.method then Handling.reject .methodNotAllowed
  if afterSegments r.segments below ≠ some [] then throw []
  r.handle q

/-- The answer of the first route that takes a request, or the reasons of all. -/
def firstOf : List Route → Request → List Char → Handling Response
  | [], _, _ => throw []
  | r :: rs, q, below => do
    match ← ExceptT.lift (r.offer q below).run with
    | .ok response => return response
    | .error causes =>
      match ← ExceptT.lift (firstOf rs q below).run with
      | .ok response => return response
      | .error more => throw (causes ++ more)

def respond (mount : List String) (rs : List Route) (q : Request) : Program Response := do
  let handled := match q.below mount with
    | some below => firstOf rs q below
    | none => throw []
  match ← handled.run with
  | .ok response => return response
  | .error causes =>
    let _ ← (Handling.emitAll causes.events).run
    return causes.error.response

end Route

end SessionTokens.Http
