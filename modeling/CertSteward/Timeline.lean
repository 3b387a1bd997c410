import CertSteward.StewardError

/-!
# Contexts on a clock

A context says how long a caller is willing to wait: a cancellation token, an
optional deadline and a record of the first cause that was seen to end it.
Tokens form a forest and a token counts as cancelled with any token above it.
The timeline holds what changes: the clock in milliseconds, the tokens
cancelled so far, the records and the cancellations still to come.
-/

namespace CertSteward

set_option autoImplicit false

structure Token where
  id : Nat
  /-- The tokens above this one, the nearest first. -/
  ancestors : List Nat
deriving DecidableEq, Repr

structure Context where
  token : Token
  deadline : Option Nat
  record : Nat
deriving DecidableEq, Repr

/-- What a scheduled cancellation acts on. -/
inductive AlarmTarget where
  | context (context : Context)
  | token (token : Token)
deriving DecidableEq, Repr

structure Alarm where
  due : Nat
  target : AlarmTarget
deriving DecidableEq, Repr

structure Timeline where
  now : Nat
  /-- The first token and record number not yet in use. -/
  fresh : Nat
  cancelled : List Nat
  records : List (Nat × EndReason)
  /-- The scheduled cancellations in the order in which they fall due. -/
  alarms : List Alarm
deriving DecidableEq, Repr

namespace Timeline

def start : Timeline :=
  ⟨0, 0, [], [], []⟩

def newToken (timeline : Timeline) : Token × Timeline :=
  (⟨timeline.fresh, []⟩, { timeline with fresh := timeline.fresh + 1 })

def childToken (timeline : Timeline) (parent : Token) : Token × Timeline :=
  (⟨timeline.fresh, parent.id :: parent.ancestors⟩,
    { timeline with fresh := timeline.fresh + 1 })

def isTokenCancelled (timeline : Timeline) (token : Token) : Bool :=
  (token.id :: token.ancestors).any fun id => timeline.cancelled.contains id

def cancelToken (timeline : Timeline) (token : Token) : Timeline :=
  { timeline with cancelled := token.id :: timeline.cancelled }

def fromToken (timeline : Timeline) (token : Token) : Context × Timeline :=
  (⟨token, none, timeline.fresh⟩, { timeline with fresh := timeline.fresh + 1 })

def newContext (timeline : Timeline) : Context × Timeline :=
  let (token, timeline) := timeline.newToken
  timeline.fromToken token

def recorded? (timeline : Timeline) (record : Nat) : Option EndReason :=
  timeline.records.lookup record

/-- Writes a record unless it is written already. -/
def writeRecord (timeline : Timeline) (record : Nat) (reason : EndReason) : Timeline :=
  match timeline.recorded? record with
  | some _ => timeline
  | none => { timeline with records := (record, reason) :: timeline.records }

/-- A context that ends at the given instant at the latest. It has a record of its own, so that
the other users of the context do not see this deadline in theirs. -/
def withDeadline (timeline : Timeline) (context : Context) (deadline : Nat) :
    Context × Timeline :=
  let derived : Context :=
    { context with
      deadline := some (match context.deadline with
        | some earlier => min earlier deadline
        | none => deadline)
      record := timeline.fresh }
  let timeline := { timeline with fresh := timeline.fresh + 1 }
  match timeline.recorded? context.record with
  | some reason => (derived, timeline.writeRecord derived.record reason)
  | none => (derived, timeline)

def withTimeout (timeline : Timeline) (context : Context) (timeout : Nat) : Context × Timeline :=
  timeline.withDeadline context (timeline.now + timeout)

/-- Whether the clock has reached the deadline. -/
def isPast (timeline : Timeline) (context : Context) : Bool :=
  match context.deadline with
  | some deadline => deadline ≤ timeline.now
  | none => false

/-- The cause that is to be seen now, the deadline before the token. -/
def fired? (timeline : Timeline) (context : Context) : Option EndReason :=
  if timeline.isPast context then some .deadlineExceeded
  else if timeline.isTokenCancelled context.token then some .cancelled
  else none

/-- Looks at a context: the recorded reason, or else the cause to be seen now, which is then
recorded. -/
def observe (timeline : Timeline) (context : Context) : Option EndReason × Timeline :=
  match timeline.recorded? context.record with
  | some reason => (some reason, timeline)
  | none =>
      match timeline.fired? context with
      | some reason => (some reason, timeline.writeRecord context.record reason)
      | none => (none, timeline)

/-- Cancels a context for everyone who shares its token. A context that has ended before keeps
its reason. -/
def cancel (timeline : Timeline) (context : Context) : Timeline :=
  let (_, timeline) := timeline.observe context
  (timeline.writeRecord context.record .cancelled).cancelToken context.token

def insertAlarm (alarm : Alarm) : List Alarm → List Alarm
  | [] => [alarm]
  | head :: rest =>
      if alarm.due < head.due then alarm :: head :: rest else head :: insertAlarm alarm rest

/-- Schedules a cancellation that many milliseconds from now. -/
def schedule (timeline : Timeline) (delay : Nat) (target : AlarmTarget) : Timeline :=
  { timeline with alarms := insertAlarm ⟨timeline.now + delay, target⟩ timeline.alarms }

def moveTo (timeline : Timeline) (instant : Nat) : Timeline :=
  { timeline with now := max timeline.now instant }

def fire (timeline : Timeline) (target : AlarmTarget) : Timeline :=
  match target with
  | .context context => timeline.cancel context
  | .token token => timeline.cancelToken token

/-- Takes the alarms due before an instant in turn, each at its own time. One that is due at
the instant itself waits until the clock is let run again. -/
def passAlarms (instant : Nat) : List Alarm → Timeline → Timeline
  | [], timeline => { timeline with alarms := [] }.moveTo instant
  | alarm :: rest, timeline =>
      if alarm.due < instant then
        passAlarms instant rest ((timeline.moveTo alarm.due).fire alarm.target)
      else { timeline with alarms := alarm :: rest }.moveTo instant

/-- Lets the clock run to an instant. -/
def passTo (timeline : Timeline) (instant : Nat) : Timeline :=
  passAlarms instant timeline.alarms timeline

def pass (timeline : Timeline) (milliseconds : Nat) : Timeline :=
  timeline.passTo (timeline.now + milliseconds)

/-- Takes alarms due before an instant, but none after the one that cancels the token. -/
def passUntilCancelled (token : Token) (instant : Nat) : List Alarm → Timeline → Timeline
  | [], timeline => { timeline with alarms := [] }.moveTo instant
  | alarm :: rest, timeline =>
      if alarm.due < instant then
        let timeline := (timeline.moveTo alarm.due).fire alarm.target
        if timeline.isTokenCancelled token then { timeline with alarms := rest }
        else passUntilCancelled token instant rest timeline
      else { timeline with alarms := alarm :: rest }.moveTo instant

/-- Lets the clock run until the context ends, but not beyond a limit. The reason is the one
that the context reports from then on. -/
def awaitEnd (timeline : Timeline) (context : Context) (limit : Nat) :
    Option EndReason × Timeline :=
  match timeline.observe context with
  | (some reason, timeline) => (some reason, timeline)
  | (none, timeline) =>
      let last :=
        match context.deadline with
        | some deadline => min deadline limit
        | none => limit
      let timeline := passUntilCancelled context.token last timeline.alarms timeline
      if timeline.isPast context || timeline.isTokenCancelled context.token then
        let (reason, timeline) := timeline.observe context
        (some (reason.getD .cancelled), timeline)
      else (none, timeline)

end Timeline

end CertSteward
