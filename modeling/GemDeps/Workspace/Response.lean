import GemDeps.Workspace.Form
import GemDeps.Workspace.Session

/-!
# Responses

A request that comes as a JSON text is answered by a response, whatever becomes of it.

* `Response`: what is reported about a request.
* `Session.execute`: the response to a text.
* `Response.toJson`: a response as a JSON value; what it does not have is left out.
-/

namespace GemDeps

/-- What is reported about a request. -/
structure Response where
  /-- Has it been carried out? -/
  success : Bool
  /-- What has been done, or why not. -/
  message : Text
  /-- What has been read. -/
  document : Option Document := none
  /-- The category and the name of the error. -/
  failure : Option (ErrorCategory × Text) := none
  deriving Repr

namespace Response

/-- The response to a request that has been carried out. -/
def ofOutcome (o : Outcome) : Response :=
  { success := true, message := o.message, document := o.document }

/-- The response to a request that has failed. -/
def ofError (e : ManifestError) : Response :=
  { success := false, message := e.message, failure := some (e.category, e.code) }

/-- A response as a JSON value. -/
def toJson (r : Response) : Json :=
  .object <|
    [Json.field "success" (.bool r.success), Json.field "message" (.ofText r.message)] ++
      (r.document.map fun d => Json.field "document" d.toJson).toList ++
      match r.failure with
      | some (category, code) =>
        [Json.field "errorKind" (.ofText category.name), Json.field "errorCode" (.ofText code)]
      | none => []

end Response

/-- Carries out the request in a text and reports on it. -/
def Session.execute [Monad m] (s : Session) (files : Storage m) (t : Text) : m Response :=
  match Request.parse t with
  | .error e => pure (.ofError (.invalidInput (.request e.message)))
  | .ok r => do
    match ← (s.perform files r).run with
    | .ok o => return .ofOutcome o
    | .error e => return .ofError e

end GemDeps
