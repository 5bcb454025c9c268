import SqlGateway.JoinQuery.Rejection
import SqlGateway.Validation.Basic
import SqlGateway.Value.Text

/-!
# Faults

What can go wrong, and what a caller sees of it. A fault is a cause with its data; its
kind, its wording and its ancestors are given in one place each. A failure is a fault
together with the fault that led to it.
-/

namespace SqlGateway

/-- The kinds of faults and the families to which they belong. -/
inductive Kind where
  -- families without a fault of their own
  | any
  | ordinary
  | lookup
  | arithmetic
  | described
  | statement
  | connection
  -- the gateway
  | application
  | invalidRequest
  | connector
  | auth
  | backendUnavailable
  | statementFailed
  | statementAborted
  | statementTimedOut
  | federation
  | queryParsing
  | unroutablePredicate
  | federatedExecution
  | validation
  -- the machine
  | invalidValue
  | runtime
  | tooDeep
  | missingKey
  | wrongType
  | unsupported
  | system
  | timeout
  | overflow
  | undefined
  | cancelled
  | unfinished
  -- the client of the warehouse
  | service
  | serviceClient
  | endpoint
  | credentials
  -- the engine of the transactional server
  | engine
  | poolTimeout
  | engineDriver
  deriving DecidableEq, Repr

/-- The name under which an answer mentions a fault of the gateway's own; other kinds are
    not told apart in answers. -/
def Kind.name : Kind → String
  | application => "ApplicationError"
  | invalidRequest => "InvalidRequest"
  | connector => "ConnectorError"
  | auth => "AuthError"
  | backendUnavailable => "BackendUnavailableError"
  | statementFailed => "StatementFailedError"
  | statementAborted => "StatementAbortedError"
  | statementTimedOut => "StatementTimedOutError"
  | federation => "FederationError"
  | queryParsing => "QueryParsingError"
  | unroutablePredicate => "UnroutablePredicateError"
  | federatedExecution => "FederatedExecutionError"
  | _ => "InternalServerError"

/-- The families of a kind, from the nearest one outwards. -/
def Kind.ancestors : Kind → List Kind
  | any => []
  | ordinary | cancelled | unfinished => [any]
  | application | federation | invalidValue | runtime | lookup | wrongType | unsupported | system
  | arithmetic | service | serviceClient => [ordinary, any]
  | described => []
  | invalidRequest => [application, ordinary, any]
  | connector => [runtime, ordinary, any]
  | auth | backendUnavailable | statementFailed | statementAborted | statementTimedOut =>
      [connector, runtime, ordinary, any]
  | queryParsing => [federation, invalidValue, ordinary, any]
  | unroutablePredicate => [queryParsing, federation, invalidValue, ordinary, any]
  | federatedExecution => [federation, ordinary, any]
  | validation => [invalidValue, ordinary, any]
  | missingKey => [lookup, ordinary, any]
  | tooDeep => [runtime, ordinary, any]
  | timeout => [system, ordinary, any]
  | overflow | undefined => [arithmetic, ordinary, any]
  | connection | credentials => [serviceClient, ordinary, any]
  | endpoint => [connection, serviceClient, ordinary, any]
  | engine => [described, ordinary, any]
  | poolTimeout | statement => [engine, described, ordinary, any]
  | engineDriver => [statement, engine, described, ordinary, any]

/-- Whether a kind is another one or belongs to its family. -/
def Kind.isA (kind family : Kind) : Bool :=
  kind == family || kind.ancestors.contains family

/-- What went wrong. -/
inductive Fault where
  -- the gateway
  | application (message : String)
  | invalidRequest (message : String)
  | connector (message : String)
  | auth (message : String)
  | backendUnavailable (message : String)
  | statementFailed (message : String) (statement : Value) (backendError : Value)
  | statementAborted (message : String)
  | statementTimedOut (message : String)
  | federation (message : String)
  /-- A text is no cross-source join. Without a message of its own it tells the supported
      form, and a detail is added in parentheses. -/
  | queryParsing (message : Option String) (detail : Option String)
  | unroutablePredicate (conjunct : String)
  | federatedExecution (message : String) (source : String)
  | validation (errors : List Validation.FieldError)
  -- the machine
  | invalidValue (message : String)
  | runtime (message : String)
  /-- Something is nested deeper than it is followed. -/
  | tooDeep (message : String)
  | missingKey (key : Option String)
  | wrongType (message : String)
  /-- A value lacks what is asked of it. -/
  | unsupported (message : String)
  | system (message : String)
  | timeout (message : String)
  | overflow (message : String)
  /-- A decimal number is compared with what is no number. -/
  | undefined
  | cancelled (message : String)
  /-- Something goes on longer than it is followed. -/
  | unfinished
  -- the client of the warehouse
  | service (response : Value) (operation : String)
  | serviceClient
  | endpoint (url : String)
  | credentials
  -- the engine of the transactional server
  | engine (message : String)
  | poolTimeout (message : String)
  /-- A driver reports an error, and whether the connection is lost. -/
  | engineDriver (message : String) (invalidated : Bool)
  deriving Repr

/-- The supported form of a cross-source join. -/
def supportedJoin : String :=
  "SELECT * FROM rs.schema.table alias1 JOIN ss.[schema].table alias2 "
    ++ "ON alias1.col = alias2.col"

namespace Fault

/-- The kind of a fault. -/
def kind : Fault → Kind
  | application _ => .application
  | invalidRequest _ => .invalidRequest
  | connector _ => .connector
  | auth _ => .auth
  | backendUnavailable _ => .backendUnavailable
  | statementFailed .. => .statementFailed
  | statementAborted _ => .statementAborted
  | statementTimedOut _ => .statementTimedOut
  | federation _ => .federation
  | queryParsing .. => .queryParsing
  | unroutablePredicate _ => .unroutablePredicate
  | federatedExecution .. => .federatedExecution
  | validation _ => .validation
  | invalidValue _ => .invalidValue
  | runtime _ => .runtime
  | tooDeep _ => .tooDeep
  | missingKey _ => .missingKey
  | wrongType _ => .wrongType
  | unsupported _ => .unsupported
  | system _ => .system
  | timeout _ => .timeout
  | overflow _ => .overflow
  | undefined => .undefined
  | cancelled _ => .cancelled
  | unfinished => .unfinished
  | service .. => .service
  | serviceClient => .serviceClient
  | endpoint _ => .endpoint
  | credentials => .credentials
  | engine _ => .engine
  | poolTimeout _ => .poolTimeout
  | engineDriver .. => .engineDriver

/-- Whether a fault belongs to a family. -/
def isA (fault : Fault) (family : Kind) : Bool :=
  fault.kind.isA family

/-- The part of a service's answer that tells what went wrong. -/
def serviceError (response : Value) : Value :=
  (response.field? "Error").getD (.map [])

/-- How often a service was asked, if it was asked as often as it may be. -/
def attemptsText (response : Value) : String :=
  let told := response.field "ResponseMetadata"
  match (told.field "MaxAttemptsReached").isPresent, told.field? "RetryAttempts" with
  | true, some attempts => " (reached max retries: " ++ attempts.text ++ ")"
  | true, none | false, _ => ""

/-- The text of a fault that a service reports. -/
def serviceText (response : Value) (operation : String) : String :=
  let error := serviceError response
  let part (name : String) : String := ((error.field? name).map Value.text).getD "Unknown"
  "An error occurred (" ++ part "Code" ++ ") when calling the " ++ operation ++ " operation"
    ++ attemptsText response ++ ": " ++ part "Message"

/-- The wording of a fault. -/
def message : Fault → String
  | application message | invalidRequest message | connector message | auth message
  | backendUnavailable message | statementFailed message _ _ | statementAborted message
  | statementTimedOut message | federation message | federatedExecution message _
  | invalidValue message | runtime message | tooDeep message | wrongType message
  | unsupported message | system message | timeout message | overflow message
  | cancelled message | engine message | poolTimeout message | engineDriver message _ => message
  | queryParsing message detail =>
      let given := (message.filter (!·.isEmpty)).getD
        ("Could not parse cross-source query. Supported format: " ++ supportedJoin)
      given ++ ((detail.filter (!·.isEmpty)).map fun detail => " (" ++ detail ++ ")").getD ""
  | unroutablePredicate conjunct =>
      "WHERE condition '" ++ conjunct ++ "' does not reference either joined table alias "
        ++ "and cannot be pushed down to a backend."
  | validation errors => "; ".intercalate (errors.map fun error => error.problem.plainMessage)
  | missingKey key => (key.map Text.quotedString).getD ""
  | service response operation => serviceText response operation
  | undefined => "[<class 'decimal.InvalidOperation'>]"
  | unfinished => "The end was not reached"
  | serviceClient => "An unspecified error occurred"
  | endpoint url => "Could not connect to the endpoint URL: \"" ++ url ++ "\""
  | credentials => "Unable to locate credentials"

/-- The fault for a text that is not taken as a cross-source join. -/
def ofRejection : JoinQuery.Rejection → Fault
  | .outsideGrammar departure => .queryParsing none (some departure.describe)
  | .limitTooLong digits => .invalidValue (Text.tooManyDigits digits)
  | .unroutable conjunct => .unroutablePredicate conjunct

end Fault

/-- A fault, and the fault that led to it. -/
structure Failure where
  /-- What went wrong. -/
  fault : Fault
  /-- What led to it. -/
  cause : Option Fault := none
  deriving Repr

namespace Failure

/-- The wording of a failure is that of its fault. -/
def message (failure : Failure) : String :=
  failure.fault.message

/-- Whether a failure belongs to a family. -/
def isA (failure : Failure) (family : Kind) : Bool :=
  failure.fault.isA family

/-- A fault that a failure led to. -/
def leadingTo (failure : Failure) (fault : Fault) : Failure :=
  { fault, cause := some failure.fault }

end Failure

/-- A result, or the failure in its place. -/
abbrev Outcome (α : Type) := Except Failure α

/-- The outcome in which a fault stands in place of the result. -/
def Fault.raise {α : Type} (fault : Fault) : Outcome α :=
  .error { fault }

/-- A value that was checked, or the fault that tells every error. -/
def Checked.outcome {α : Type} (checked : Checked α) : Outcome α :=
  match checked with
  | .valid value => .ok value
  | .invalid errors => (Fault.validation errors).raise

end SqlGateway
