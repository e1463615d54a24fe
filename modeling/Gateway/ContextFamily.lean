import Gateway.Context

/-!
Contexts that come from one start. Copies share the token of their source; children get tokens
below that of their parent. Each context writes to the log that it refers to. Cancelling and logging
are seen by every context they concern, setting a field only by the context itself.
-/

namespace Gateway

/-- What stands in the logs, by their numbers. A log that nobody has written to is empty. -/
abbrev Logs := List (Nat × LogFields)

namespace Logs

def fields (logs : Logs) (number : Nat) : LogFields :=
  (logs.lookup number).getD []

def record (logs : Logs) (number : Nat) (key value : String) : Logs :=
  (number, (logs.fields number).insert key value) :: logs

theorem fields_record (logs : Logs) (number other : Nat) (key value : String) :
    (logs.record number key value).fields other =
      if other = number then (logs.fields number).insert key value else logs.fields other := by
  by_cases same : other = number
  · simp [fields, record, same]
  · have apart : (other == number) = false := by simpa using same
    simp [fields, record, List.lookup_cons, apart, same]

end Logs

/-- A start context and everything derived from it. -/
structure ContextFamily where
  members : List Context
  /-- Tokens that were cancelled. -/
  cancelled : List Token := []
  logs : Logs := []
  /-- How many children were made. -/
  births : Nat := 0
  deriving DecidableEq, Repr, Inhabited

namespace ContextFamily

def start (context : Context) : ContextFamily := { members := [context] }

/-- Fields that can be set; those without a value stay. -/
structure Fields where
  bufferedBody : Option Bytes := none
  allowWebsockets : Option Bool := none
  websocketsTimeout : Option Duration := none
  urlAttribute : Option String := none
  error : Option GatewayError := none
  deriving DecidableEq, Repr, Inhabited

def Fields.apply (fields : Fields) (context : Context) : Context :=
  { context with
    bufferedBody := fields.bufferedBody.or context.bufferedBody
    allowWebsockets := fields.allowWebsockets.getD context.allowWebsockets
    websocketsTimeout := fields.websocketsTimeout.or context.websocketsTimeout
    urlAttribute := fields.urlAttribute.or context.urlAttribute
    error := fields.error.or context.error }

inductive Step where
  | look
  | child (of : Nat) (name : Option String)
  | clone (of : Nat)
  | log (place : Nat) (key value : String)
  | cancel (place : Nat)
  | set (place : Nat) (fields : Fields)
  deriving DecidableEq, Repr

def derive (family : ContextFamily) (of : Nat) (make : Context → Context) : ContextFamily :=
  match family.members[of]? with
  | some context => { family with members := family.members ++ [make context] }
  | none => family

def step (family : ContextFamily) : Step → ContextFamily
  | .look => family
  | .child of name =>
      { family.derive of fun context => context.child name family.births with
        births := family.births + 1 }
  | .clone of => family.derive of id
  | .log place key value =>
      match family.members[place]? with
      | some context => { family with logs := family.logs.record context.log key value }
      | none => family
  | .cancel place =>
      match family.members[place]? with
      | some context => { family with cancelled := context.token :: family.cancelled }
      | none => family
  | .set place fields => { family with members := family.members.modify place fields.apply }

def isCancelled (family : ContextFamily) (context : Context) : Bool :=
  context.token.isCancelled family.cancelled

/-- The log fields that a context shows. -/
def logFields (family : ContextFamily) (context : Context) : LogFields :=
  family.logs.fields context.log

/-- The log fields that the start context shows. -/
def log (family : ContextFamily) : LogFields :=
  match family.members with
  | [] => []
  | first :: _ => family.logFields first

end ContextFamily

end Gateway
