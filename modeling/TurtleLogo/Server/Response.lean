import TurtleLogo.Store
import TurtleLogo.Sample
import TurtleLogo.Machine.Run
import TurtleLogo.Text.Json

/-!
# Requests and responses

What clients send to the server and what they get back: drawings, JSON bodies, and plain pages for
what went wrong.
-/

set_option autoImplicit false

namespace TurtleLogo

structure Request where
  method : Text
  target : Text
  body : Text
  deriving DecidableEq, Repr

/-- A response: the status code, the type of the body and the body, the directive for caches on the
way, and the note of the server's own cache, both possibly empty. -/
structure Response where
  status : Nat
  type : Text
  body : Text
  cacheControl : Text
  cacheNote : Text
  deriving DecidableEq, Repr

namespace Response

def page (status : Nat) (body : Text) : Response :=
  ⟨status, utf8 "text/plain; charset=utf-8", body, [], []⟩

def notFound : Response :=
  page 404 (utf8 "not found")

def methodNotAllowed : Response :=
  page 405 (utf8 "method not allowed")

def storeDisabled : Response :=
  page 503 (utf8 "program store is disabled")

def noContent : Response :=
  page 204 []

def json (status : Nat) (value : Text.Json) : Response :=
  ⟨status, utf8 "application/json", value.write, [], []⟩

def success (status : Text) (steps : Nat) : Response :=
  json 200 (.object [(utf8 "status", .string status), (utf8 "steps", .number steps)])

def failure (status : Nat) (message : Text) : Response :=
  json status (.object [(utf8 "error", .string message)])

def diagnosed (d : Diagnostic) : Response :=
  json 422 (.object ([(utf8 "error", .string d.message), (utf8 "kind", .string d.kind.name)]
    ++ if d.line = 0 then [] else [(utf8 "line", .number d.line)]))

/-- The answer to a run that failed: one that was called off may be tried again. -/
def runFailure : RunError → Response
  | .diagnosed d => diagnosed d
  | .interrupted steps (.failed reason) => failure 500 (RunError.interrupted steps (.failed reason)).message
  | e => failure 503 e.message

def drawing (svg : Text) : Response :=
  ⟨200, utf8 "image/svg+xml", svg, [], []⟩

def samples : Response :=
  json 200 (.array (Sample.all.map fun s =>
    .object [(utf8 "name", .string s.name), (utf8 "title", .string s.title),
      (utf8 "source", .string s.source)]))

def names (names : List Text) : Response :=
  json 200 (.array (names.map .string))

def program (r : Store.Row) : Response :=
  json 200 (.object [(utf8 "name", .string r.name), (utf8 "source", .string r.source),
    (utf8 "fingerprint", .string r.fingerprint), (utf8 "created_at", .number r.createdAt),
    (utf8 "updated_at", .number r.updatedAt)])

def storeFailure (f : Store.Failure) : Response :=
  match f with
  | .emptyName => page 400 f.message
  | .during _ .notFound => page 404 f.message
  | .during .. => page 500 f.message

end Response

end TurtleLogo
