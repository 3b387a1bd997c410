import CertSteward.Context.Session
import CertSteward.Proofs.Timeline.Ending

/-!
# Chronicles of contexts

A context keeps what ended it only once somebody looks. A chronicle keeps an
account of every context from the step that makes it on, and enters the cause
that ends it in the very step in which that happens: a cancelled token ends
the contexts that hang on it, the running clock those whose deadline it
reaches. Nothing else about the timeline is touched by keeping the chronicle.
-/

namespace CertSteward.Context

set_option autoImplicit false

/-- What has come of a context. -/
structure Account where
  context : Context
  /-- The cause that ended the context first. -/
  cause : Option EndReason
  /-- Whether somebody looked after a cancellation and before the deadline. -/
  noticed : Bool
deriving DecidableEq, Repr

namespace Account

def enter (cause : EndReason) (ends : Context → Bool) (account : Account) : Account :=
  if account.cause = none ∧ ends account.context then { account with cause := some cause }
  else account

/-- Enters that somebody looked at what the contexts of a record have come to. -/
def look (timeline : Timeline) (record : Nat) (account : Account) : Account :=
  if account.context.record = record ∧ account.cause = some .cancelled ∧
      timeline.isPast account.context = false then { account with noticed := true }
  else account

@[simp] theorem enter_context (cause : EndReason) (ends : Context → Bool) (account : Account) :
    (account.enter cause ends).context = account.context := by
  unfold enter
  split <;> rfl

@[simp] theorem enter_noticed (cause : EndReason) (ends : Context → Bool) (account : Account) :
    (account.enter cause ends).noticed = account.noticed := by
  unfold enter
  split <;> rfl

theorem enter_cause_eq_none {cause : EndReason} {ends : Context → Bool} {account : Account}
    (spared : (account.enter cause ends).cause = none) :
    account.cause = none ∧ ends account.context = false := by
  unfold enter at spared
  split at spared
  · contradiction
  · rename_i other
    exact ⟨spared, Bool.eq_false_iff.2 fun ended => other ⟨spared, ended⟩⟩

theorem enter_cause_eq_some {cause reason : EndReason} {ends : Context → Bool}
    {account : Account} (ended : (account.enter cause ends).cause = some reason) :
    account.cause = some reason ∨
      account.cause = none ∧ ends account.context = true ∧ reason = cause := by
  unfold enter at ended
  split at ended
  · rename_i first
    exact Or.inr ⟨first.1, first.2, (Option.some.inj ended).symm⟩
  · exact Or.inl ended

theorem enter_of_ended {first cause : EndReason} {ends : Context → Bool} {account : Account}
    (ended : account.cause = some first) : account.enter cause ends = account := by
  unfold enter
  rw [if_neg]
  intro entered
  rw [ended] at entered
  exact absurd entered.1 (Option.some_ne_none first)

@[simp] theorem look_context (timeline : Timeline) (record : Nat) (account : Account) :
    (account.look timeline record).context = account.context := by
  unfold look
  split <;> rfl

@[simp] theorem look_cause (timeline : Timeline) (record : Nat) (account : Account) :
    (account.look timeline record).cause = account.cause := by
  unfold look
  split <;> rfl

theorem look_noticed_iff (timeline : Timeline) (account : Account) :
    (account.look timeline account.context.record).noticed = true ↔
      account.noticed = true ∨
        account.cause = some .cancelled ∧ timeline.isPast account.context = false := by
  unfold look
  split
  · rename_i now
    simp [now.2]
  · rename_i other
    constructor
    · exact Or.inl
    · rintro (noticed | now)
      · exact noticed
      · exact absurd ⟨rfl, now⟩ other

end Account

/-- A timeline, with an account of every context made on it. -/
structure Chronicle where
  timeline : Timeline
  accounts : List Account
deriving DecidableEq, Repr

namespace Chronicle

def start : Chronicle :=
  ⟨.start, []⟩

def account? (chronicle : Chronicle) (context : Context) : Option Account :=
  chronicle.accounts.find? fun account => account.context = context

def cause? (chronicle : Chronicle) (context : Context) : Option EndReason :=
  (chronicle.account? context).bind Account.cause

def contexts (chronicle : Chronicle) : List Context :=
  chronicle.accounts.map Account.context

def add (chronicle : Chronicle) (made : Context × Timeline) (cause : Option EndReason)
    (noticed : Bool) : Chronicle :=
  ⟨made.2, ⟨made.1, cause, noticed⟩ :: chronicle.accounts⟩

/-- A context on a token that is cancelled already is ended by that. -/
def fromToken (chronicle : Chronicle) (token : Token) : Chronicle :=
  chronicle.add (chronicle.timeline.fromToken token)
    (if chronicle.timeline.isTokenCancelled token then some .cancelled else none) false

def newContext (chronicle : Chronicle) : Chronicle :=
  let (token, timeline) := chronicle.timeline.newToken
  fromToken ⟨timeline, chronicle.accounts⟩ token

/-- A context that is made from another one has ended if that one has. Otherwise a deadline that
is already past passes in the step that sets it. -/
def withDeadline (chronicle : Chronicle) (context : Context) (deadline : Nat) : Chronicle :=
  let made := chronicle.timeline.withDeadline context deadline
  let passed := if made.2.isPast made.1 then some EndReason.deadlineExceeded else none
  chronicle.add made ((chronicle.cause? context).or passed)
    ((chronicle.account? context).any Account.noticed)

def look (chronicle : Chronicle) (context : Context) : Chronicle :=
  ⟨(chronicle.timeline.observe context).2,
    chronicle.accounts.map (Account.look chronicle.timeline context.record)⟩

def cancelToken (chronicle : Chronicle) (token : Token) : Chronicle :=
  let timeline := chronicle.timeline.cancelToken token
  ⟨timeline,
    chronicle.accounts.map
      (Account.enter .cancelled fun context => timeline.isTokenCancelled context.token)⟩

def cancel (chronicle : Chronicle) (context : Context) : Chronicle :=
  (chronicle.cancelToken context.token).look context

def fire (chronicle : Chronicle) (target : AlarmTarget) : Chronicle :=
  match target with
  | .context context => chronicle.cancel context
  | .token token => chronicle.cancelToken token

def moveTo (chronicle : Chronicle) (instant : Nat) : Chronicle :=
  let timeline := chronicle.timeline.moveTo instant
  ⟨timeline, chronicle.accounts.map (Account.enter .deadlineExceeded timeline.isPast)⟩

def withAlarms (chronicle : Chronicle) (alarms : List Alarm) : Chronicle :=
  { chronicle with timeline := { chronicle.timeline with alarms := alarms } }

def schedule (chronicle : Chronicle) (delay : Nat) (target : AlarmTarget) : Chronicle :=
  chronicle.withAlarms (chronicle.timeline.schedule delay target).alarms

def passAlarms (instant : Nat) : List Alarm → Chronicle → Chronicle
  | [], chronicle => (chronicle.withAlarms []).moveTo instant
  | alarm :: rest, chronicle =>
      if alarm.due < instant then
        passAlarms instant rest ((chronicle.moveTo alarm.due).fire alarm.target)
      else (chronicle.withAlarms (alarm :: rest)).moveTo instant

def pass (chronicle : Chronicle) (milliseconds : Nat) : Chronicle :=
  passAlarms (chronicle.timeline.now + milliseconds) chronicle.timeline.alarms chronicle

def passUntilCancelled (token : Token) (instant : Nat) : List Alarm → Chronicle → Chronicle
  | [], chronicle => (chronicle.withAlarms []).moveTo instant
  | alarm :: rest, chronicle =>
      if alarm.due < instant then
        let chronicle := (chronicle.moveTo alarm.due).fire alarm.target
        if chronicle.timeline.isTokenCancelled token then chronicle.withAlarms rest
        else passUntilCancelled token instant rest chronicle
      else (chronicle.withAlarms (alarm :: rest)).moveTo instant

/-- Where a wait for the end of a live context stops. -/
def waited (chronicle : Chronicle) (context : Context) (limit : Nat) : Chronicle :=
  passUntilCancelled context.token (Timeline.lookout context limit) chronicle.timeline.alarms
    chronicle

def awaitEnd (chronicle : Chronicle) (context : Context) (limit : Nat) : Chronicle :=
  if (chronicle.timeline.observe context).1.isSome then chronicle.look context
  else
    let stopped := chronicle.waited context limit
    if (stopped.timeline.fired? context).isSome then stopped.look context else stopped

@[simp] theorem fire_timeline (chronicle : Chronicle) (target : AlarmTarget) :
    (chronicle.fire target).timeline = chronicle.timeline.fire target := by
  cases target with
  | context context => exact (Timeline.cancel_eq_observe chronicle.timeline context).symm
  | token token => rfl

theorem pass_alarms_timeline (instant : Nat) (alarms : List Alarm) (chronicle : Chronicle) :
    (passAlarms instant alarms chronicle).timeline =
      Timeline.passAlarms instant alarms chronicle.timeline := by
  induction alarms generalizing chronicle with
  | nil => rfl
  | cons alarm rest ih =>
      simp only [passAlarms, Timeline.passAlarms]
      split
      · rw [ih, fire_timeline]
        rfl
      · rfl

theorem pass_timeline (chronicle : Chronicle) (milliseconds : Nat) :
    (chronicle.pass milliseconds).timeline = chronicle.timeline.pass milliseconds :=
  pass_alarms_timeline _ _ chronicle

theorem pass_until_cancelled_timeline (token : Token) (instant : Nat) (alarms : List Alarm)
    (chronicle : Chronicle) :
    (passUntilCancelled token instant alarms chronicle).timeline =
      Timeline.passUntilCancelled token instant alarms chronicle.timeline := by
  induction alarms generalizing chronicle with
  | nil => rfl
  | cons alarm rest ih =>
      have fired : ((chronicle.moveTo alarm.due).fire alarm.target).timeline =
          (chronicle.timeline.moveTo alarm.due).fire alarm.target := fire_timeline _ _
      simp only [passUntilCancelled, Timeline.passUntilCancelled, fired]
      split
      · split
        · rw [withAlarms, fired]
        · rw [ih, fired]
      · rfl

theorem waited_timeline (chronicle : Chronicle) (context : Context) (limit : Nat) :
    (chronicle.waited context limit).timeline =
      Timeline.passUntilCancelled context.token (Timeline.lookout context limit)
        chronicle.timeline.alarms chronicle.timeline :=
  pass_until_cancelled_timeline _ _ _ _

theorem await_end_timeline (chronicle : Chronicle) (context : Context) (limit : Nat) :
    (chronicle.awaitEnd context limit).timeline =
      (chronicle.timeline.awaitEnd context limit).2 := by
  unfold awaitEnd
  cases seen : (chronicle.timeline.observe context).1 with
  | some reason =>
      rw [Timeline.await_end_of_ended seen]
      rfl
  | none =>
      have stopped := chronicle.waited_timeline context limit
      rw [Timeline.await_end_of_live seen]
      simp only [Option.isSome_none, Bool.false_eq_true, if_false, stopped]
      split
      · rw [← stopped]
        rfl
      · exact stopped

theorem contexts_map {chronicle : Chronicle} {timeline : Timeline} {change : Account → Account}
    (kept : ∀ account, (change account).context = account.context) :
    contexts ⟨timeline, chronicle.accounts.map change⟩ = chronicle.contexts := by
  have same : Account.context ∘ change = Account.context := funext kept
  rw [contexts, List.map_map, same]
  rfl

@[simp] theorem contexts_look (chronicle : Chronicle) (context : Context) :
    (chronicle.look context).contexts = chronicle.contexts :=
  contexts_map fun account => Account.look_context _ _ account

@[simp] theorem contexts_cancel_token (chronicle : Chronicle) (token : Token) :
    (chronicle.cancelToken token).contexts = chronicle.contexts :=
  contexts_map fun account => Account.enter_context _ _ account

@[simp] theorem contexts_move_to (chronicle : Chronicle) (instant : Nat) :
    (chronicle.moveTo instant).contexts = chronicle.contexts :=
  contexts_map fun account => Account.enter_context _ _ account

@[simp] theorem contexts_with_alarms (chronicle : Chronicle) (alarms : List Alarm) :
    (chronicle.withAlarms alarms).contexts = chronicle.contexts := rfl

@[simp] theorem contexts_cancel (chronicle : Chronicle) (context : Context) :
    (chronicle.cancel context).contexts = chronicle.contexts := by
  rw [cancel, contexts_look, contexts_cancel_token]

@[simp] theorem contexts_fire (chronicle : Chronicle) (target : AlarmTarget) :
    (chronicle.fire target).contexts = chronicle.contexts := by
  cases target with
  | context context => exact contexts_cancel chronicle context
  | token token => exact contexts_cancel_token chronicle token

@[simp] theorem contexts_pass_alarms (instant : Nat) (alarms : List Alarm)
    (chronicle : Chronicle) :
    (passAlarms instant alarms chronicle).contexts = chronicle.contexts := by
  induction alarms generalizing chronicle with
  | nil => simp [passAlarms]
  | cons alarm rest ih =>
      unfold passAlarms
      split
      · rw [ih, contexts_fire, contexts_move_to]
      · simp

@[simp] theorem contexts_pass (chronicle : Chronicle) (milliseconds : Nat) :
    (chronicle.pass milliseconds).contexts = chronicle.contexts :=
  contexts_pass_alarms _ _ _

@[simp] theorem contexts_pass_until_cancelled (token : Token) (instant : Nat)
    (alarms : List Alarm) (chronicle : Chronicle) :
    (passUntilCancelled token instant alarms chronicle).contexts = chronicle.contexts := by
  induction alarms generalizing chronicle with
  | nil => simp [passUntilCancelled]
  | cons alarm rest ih =>
      simp only [passUntilCancelled]
      split
      · split
        · simp
        · rw [ih, contexts_fire, contexts_move_to]
      · simp

@[simp] theorem contexts_waited (chronicle : Chronicle) (context : Context) (limit : Nat) :
    (chronicle.waited context limit).contexts = chronicle.contexts :=
  contexts_pass_until_cancelled _ _ _ _

@[simp] theorem contexts_await_end (chronicle : Chronicle) (context : Context) (limit : Nat) :
    (chronicle.awaitEnd context limit).contexts = chronicle.contexts := by
  simp only [awaitEnd]
  split
  · rw [contexts_look]
  · split
    · rw [contexts_look, contexts_waited]
    · rw [contexts_waited]

end Chronicle

end CertSteward.Context
