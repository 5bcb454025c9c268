import SqlGateway.Fault
import SqlGateway.Reference
import SqlGateway.Source

/-!
# Dialects of the backends

A single backend does not know the prefixes, so every reference to one of its tables is
put into the backend's own spelling before a query is sent to it.
-/

namespace SqlGateway

/-- The text with the references to a backend in its own spelling. The transactional
    server has two kinds of them: bracketed references are replaced first, plain ones in
    the result. -/
def Backend.adapt : Backend → List Char → List Char
  | warehouse, text => Reference.Form.warehouse.replace text
  | transactional, text => Reference.Form.plain.replace (Reference.Form.bracketed.replace text)

/-- The text as a source understands it. No text can be sent to both backends at once. -/
def Source.adapt (source : Source) (text : List Char) : Outcome (List Char) :=
  match source with
  | .backend server => .ok (server.adapt text)
  | .cross =>
      (Fault.invalidValue ("Cannot rewrite identifiers for source '" ++ source.name ++ "'.")).raise

end SqlGateway
