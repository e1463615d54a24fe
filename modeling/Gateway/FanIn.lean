import Gateway.Group

/-!
Gathering the reports of the two groups of a route: first all of the proxies, then all of the side
requests. Every report is kept under the place of its producer among all producers and its name.
The events are the moves of the parties, which can take place in any order; a move that is not
possible changes nothing.
-/

namespace Gateway

inductive Side where
  | proxies
  | requests
  deriving DecidableEq, Repr

abbrev ReportKey := Nat × String

/-- Outcomes by key, in the order of the keys. -/
abbrev Outcomes := List (ReportKey × Except GatewayError Response)

namespace Outcomes

def keyBefore (left right : ReportKey) : Bool :=
  left.1 < right.1 || (left.1 = right.1 && left.2 < right.2)

/-- Keeps an outcome; one that was kept under the same key is lost. -/
def insert (key : ReportKey) (outcome : Except GatewayError Response) : Outcomes → Outcomes
  | [] => [(key, outcome)]
  | (present, old) :: rest =>
      if keyBefore key present then (key, outcome) :: (present, old) :: rest
      else if key = present then (key, outcome) :: rest
      else (present, old) :: insert key outcome rest

end Outcomes

/-- Both groups and their reader. -/
structure FanIn where
  proxies : Group
  requests : Group
  /-- How many places the proxies take. -/
  offset : Nat
  /-- Whose reports are being read; none when both groups have been read. -/
  reading : Option Side := some .proxies
  outcomes : Outcomes := []

namespace FanIn

def ofSizes (proxies requests : Nat) : FanIn :=
  { proxies := Group.ofSize proxies, requests := Group.ofSize requests, offset := proxies }

def group (state : FanIn) : Side → Group
  | .proxies => state.proxies
  | .requests => state.requests

def setGroup (state : FanIn) (side : Side) (group : Group) : FanIn :=
  match side with
  | .proxies => { state with proxies := group }
  | .requests => { state with requests := group }

def place (state : FanIn) (side : Side) (ordinal : Nat) : Nat :=
  match side with
  | .proxies => ordinal
  | .requests => state.offset + ordinal

/-- A move of one of the parties. -/
inductive Event where
  /-- The work of a producer ends. -/
  | finish (side : Side) (report : Report)
  /-- A report goes into the queue of its group. -/
  | pass (side : Side)
  /-- The reader takes a report, or goes on to the next group when this one has no more. -/
  | read

def following : Side → Option Side
  | .proxies => some .requests
  | .requests => none

def read (state : FanIn) : FanIn :=
  match state.reading with
  | none => state
  | some side =>
      match (state.group side).take? with
      | some (report, group) =>
          { state.setGroup side group with
            outcomes := state.outcomes.insert (state.place side report.ordinal, report.name)
              report.outcome }
      | none =>
          -- an empty queue is the end of a group only if nobody is going to fill it
          if (state.group side).isFinished then { state with reading := following side } else state

def step (state : FanIn) : Event → FanIn
  | .finish side report => state.setGroup side ((state.group side).finish report)
  | .pass side => state.setGroup side (state.group side).pass
  | .read => state.read

def run (state : FanIn) (events : List Event) : FanIn :=
  events.foldl step state

/-- The moves on one report: it is made, passed on and read if its group is being read. -/
def moves (entry : Side × Report) : List Event :=
  [.finish entry.1 entry.2, .pass entry.1, .read]

/-- All moves when reports are made at known times. At the end the reader takes what is left. -/
def events (reports : List (Timed (Side × Report))) : List Event :=
  (Timed.inOrder reports).flatMap (fun entry => moves entry.item) ++
    List.replicate (reports.length + 2) .read

def gather (proxies requests : List (Timed Report)) : Outcomes :=
  let mark (side : Side) (entry : Timed Report) : Timed (Side × Report) :=
    ⟨entry.time, (side, entry.item)⟩
  ((ofSizes proxies.length requests.length).run
    (events (proxies.map (mark .proxies) ++ requests.map (mark .requests)))).outcomes

end FanIn

end Gateway
