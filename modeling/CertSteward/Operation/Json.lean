import CertSteward.Json.Shape
import CertSteward.Operation

/-!
# Operations as JSON

The members of an operation, its error detail and the entries of that.
-/

namespace CertSteward

set_option autoImplicit false

open CertSteward.Json

def encodeWord (word : Int32) : Value :=
  .int word.toInt

def decodeWord : Decoder Int32 := fun source document =>
  (Decoder.integer "i32" (-2147483648) 2147483647 source document).map Int32.ofInt

namespace OperationErrorEntry

def encode (entry : OperationErrorEntry) : Value :=
  .object (
    [("code", .text entry.code), ("message", .text entry.message)] ++
    optionalMember "location" .text entry.location)

def shape : Shape OperationErrorEntry where
  name := "OperationErrorEntry"
  blank := ⟨"", "", none⟩
  fields := [
    .defaulted "code" .text fun value record => { record with code := value },
    .defaulted "message" .text fun value record => { record with message := value },
    .defaulted "location" (.optional .text) fun value record => { record with location := value }]

end OperationErrorEntry

namespace OperationErrorDetail

def encode (detail : OperationErrorDetail) : Value :=
  .object [("errors", .array (detail.errors.map OperationErrorEntry.encode))]

def shape : Shape OperationErrorDetail where
  name := "OperationErrorDetail"
  blank := ⟨[]⟩
  fields := [
    .defaulted "errors" (.sequence OperationErrorEntry.shape.decoder) fun value record =>
      { record with errors := value }]

end OperationErrorDetail

namespace Operation

def encode (operation : Operation) : Value :=
  .object (
    [("name", .text operation.name), ("status", .text operation.status)] ++
    optionalMember "id" .text operation.id ++
    optionalMember "operationType" .text operation.operationType ++
    optionalMember "targetLink" .text operation.targetLink ++
    optionalMember "progress" encodeWord operation.progress ++
    optionalMember "error" OperationErrorDetail.encode operation.error ++
    optionalMember "httpErrorStatusCode" encodeWord operation.httpErrorStatusCode ++
    optionalMember "httpErrorMessage" .text operation.httpErrorMessage)

def shape : Shape Operation where
  name := "Operation"
  blank := blank
  fields := [
    .needed "name" .text fun value record => { record with name := value },
    .defaulted "status" .text fun value record => { record with status := value },
    .defaulted "id" (.optional .text) fun value record => { record with id := value },
    .defaulted "operationType" (.optional .text) fun value record =>
      { record with operationType := value },
    .defaulted "targetLink" (.optional .text) fun value record =>
      { record with targetLink := value },
    .defaulted "progress" (.optional decodeWord) fun value record =>
      { record with progress := value },
    .defaulted "error" (.optional OperationErrorDetail.shape.decoder) fun value record =>
      { record with error := value },
    .defaulted "httpErrorStatusCode" (.optional decodeWord) fun value record =>
      { record with httpErrorStatusCode := value },
    .defaulted "httpErrorMessage" (.optional .text) fun value record =>
      { record with httpErrorMessage := value }]

def decoder : Decoder Operation :=
  shape.decoder

end Operation

end CertSteward
