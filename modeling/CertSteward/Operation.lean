/-!
# Operations

A change that the service carries out in the background. It has come to an
end when its status is exactly `DONE`, and has failed when it then carries
an error, with or without entries.
-/

namespace CertSteward

set_option autoImplicit false

structure OperationErrorEntry where
  code : String
  message : String
  location : Option String
deriving DecidableEq, Repr

structure OperationErrorDetail where
  errors : List OperationErrorEntry
deriving DecidableEq, Repr

structure Operation where
  name : String
  status : String
  id : Option String
  operationType : Option String
  targetLink : Option String
  progress : Option Int32
  error : Option OperationErrorDetail
  httpErrorStatusCode : Option Int32
  httpErrorMessage : Option String
deriving DecidableEq, Repr

namespace Operation

def statusDone : String := "DONE"

def blank : Operation :=
  ⟨"", "", none, none, none, none, none, none, none⟩

def isDone (operation : Operation) : Bool :=
  operation.status == statusDone

def errorEntries (operation : Operation) : List OperationErrorEntry :=
  match operation.error with
  | some detail => detail.errors
  | none => []

end Operation

/-- The report on an operation that ended with an error. -/
structure OperationError where
  operation : Operation
deriving DecidableEq, Repr

namespace OperationError

def codeQuotaExceeded : String := "QUOTA_EXCEEDED"

def isQuotaExceeded (error : OperationError) : Bool :=
  error.operation.errorEntries.any fun entry => entry.code == codeQuotaExceeded

def entryText (entry : OperationErrorEntry) : String :=
  "(" ++ entry.code ++ ": " ++ entry.message ++ ")"

def statusCode (operation : Operation) : Int :=
  (operation.httpErrorStatusCode.map Int32.toInt).getD 0

def message (error : OperationError) : String :=
  let operation := error.operation
  "operation " ++ operation.name ++ " " ++ operation.status ++ ". Status: " ++
    operation.httpErrorMessage.getD "" ++ " (" ++ toString (statusCode operation) ++
    "), errors: " ++ ", ".intercalate (operation.errorEntries.map entryText)

end OperationError

end CertSteward
