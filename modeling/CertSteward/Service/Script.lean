import CertSteward.Certificate.Json
import CertSteward.Operation.Json
import CertSteward.Service

/-!
# A service that answers by script

For each kind of call a queue of replies, taken from the front and repeated as
often as each says. A call on an empty queue fails.
-/

namespace CertSteward

set_option autoImplicit false

open CertSteward.Json

/-- What a scripted reply holds: a value that is yet to be decoded, or a failure. -/
inductive ScriptedResult where
  | value (value : Value)
  | error (error : ApiError)
deriving Repr

structure ScriptedReply where
  result : ScriptedResult
  delay : Nat
  times : Nat
deriving Repr

structure Script where
  insert : List ScriptedReply
  delete : List ScriptedReply
  get : List ScriptedReply
  list : List ScriptedReply
  operation : List ScriptedReply
deriving Repr

namespace ScriptedReply

/-- The next reply of a queue, and the queue after it. -/
def next : List ScriptedReply → Option (ScriptedReply × List ScriptedReply)
  | [] => none
  | reply :: rest =>
      match reply.times with
      | 0 => next rest
      | 1 => some (reply, rest)
      | times + 2 => some (reply, { reply with times := times + 1 } :: rest)

def decode {α : Type} (decoder : Decoder α) (result : ScriptedResult) : Except ApiError α :=
  match result with
  | .value value => (decoder.ofValue value).mapError .decode
  | .error error => .error error

/-- The answer to a call of the named kind from its queue. -/
def answer {α : Type} (kind : String) (decoder : Decoder α) (queue : List ScriptedReply) :
    Reply α × List ScriptedReply :=
  match next queue with
  | none => (⟨some (.error (.http 418 ("no scripted " ++ kind))), 0, []⟩, [])
  | some (reply, rest) => (⟨some (decode decoder reply.result), reply.delay, []⟩, rest)

end ScriptedReply

namespace Script

def call (_project : String) (rpc : Rpc) (script : Script) : Reply rpc.Result × Script :=
  match rpc with
  | .insert _ =>
      let (reply, rest) := ScriptedReply.answer "insert" Operation.decoder script.insert
      (reply, { script with insert := rest })
  | .delete _ =>
      let (reply, rest) := ScriptedReply.answer "delete" Operation.decoder script.delete
      (reply, { script with delete := rest })
  | .get _ =>
      let (reply, rest) := ScriptedReply.answer "get" Certificate.decoder script.get
      (reply, { script with get := rest })
  | .list =>
      let (reply, rest) := ScriptedReply.answer "list" CertificateList.decoder script.list
      (reply, { script with list := rest })
  | .operation _ =>
      let (reply, rest) := ScriptedReply.answer "operation" Operation.decoder script.operation
      (reply, { script with operation := rest })

def service : Service Script :=
  ⟨call⟩

/-- Rounds enough for every wait: each fetch takes a reply, and the first without one fails. -/
def rounds (script : Script) : Nat :=
  script.operation.foldl (fun total reply => total + reply.times) 0 + 1

end Script

end CertSteward
