/-
The seam to the services that lower functions.

The library lowers nothing itself.  A service answers for a function and the
types of its arguments, and one service may be registered as the default.  A
request goes to the service it names or else to the default, and an answer that
is no body is refused.
-/
import SsaEdit.Fault
import SsaEdit.Log

namespace SsaEdit
namespace Lowering

/-- What a service answers. -/
inductive Product
  | body (ir : IR)
  | other (v : Value)

/-- A request as a service sees it. -/
structure Request where
  service : String
  function : Value
  types : List Value

/-- The default service and the requests made so far. -/
structure Registry where
  preset : Option String := none
  requests : List Request := []

/-- Make a service the default, or none; the answer is the one before. -/
def Registry.register (r : Registry) (service : Option String) : Registry × Option String :=
  ({ r with preset := service }, r.preset)

/-- Argument types may be given one by one or as a single tuple. -/
def spreadTypes : List Value → List Value
  | [.tuple types] => types
  | types => types

/-- The name of a function in the log: its own if it has one. -/
def functionName : Value → String
  | .callable name => name
  | v => v.display

def requestRecord (function : Value) (types : List Value) : LogRecord :=
  ⟨.debug, .lowering, Text.ofString ("lowering " ++ functionName function ++
    (Value.tuple types).display)⟩

/-- Ask a service for the body of a function: the registry afterwards, what was
logged, and the body. -/
def codeInfo (answer : Request → Except Fault Product) (r : Registry) (function : Value)
    (types : List Value) (service : Option String) :
    Registry × List LogRecord × Except Fault IR :=
  match service <|> r.preset with
  | none => (r, [], .error .noService)
  | some name =>
    let request : Request := ⟨name, function, spreadTypes types⟩
    let result : Except Fault IR :=
      match answer request with
      | .ok (.body ir) => .ok ir
      | .ok (.other v) => .error (.notABody v)
      | .error fault => .error fault
    ({ r with requests := r.requests ++ [request] }, [requestRecord function request.types],
      result)

end Lowering
end SsaEdit
