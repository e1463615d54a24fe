import Gateway.Agenda
import Gateway.Producer

/-!
Groups of producers and the queue of their reports. Every producer of a group reports exactly once:
its outcome, or an internal error if its work died. Of a task that died only the number is known, and
the roster of the group tells which producer it worked for. Reports wait in line for a place in the
group's queue, which has one place per producer; a group whose reader has gone stops at the next
report.
-/

namespace Gateway

/-- What a producer came to. -/
structure Report where
  /-- Place of the producer in its group. -/
  ordinal : Nat
  name : String
  outcome : Except GatewayError Response

def Report.lost (ordinal : Nat) (name : String) : Report :=
  ⟨ordinal, name, .error (.internal ("producer '" ++ name ++ "' finished without a result"))⟩

abbrev TaskId := Nat

structure Task where
  id : TaskId
  name : String
  ending : Ending

/-- What a task leaves behind: its report, or nothing but its number if it died. -/
inductive Remains where
  | report (report : Report)
  | number (id : TaskId)

/-- What a task leaves behind whose producer has a place in its group. -/
def Task.remains (task : Task) (ordinal : Nat) : Remains :=
  match task.ending with
  | .settled outcome => .report ⟨ordinal, task.name, outcome⟩
  | .died => .number task.id

/-- Place and name of the producer that each task works for. -/
abbrev Roster := List (TaskId × Nat × String)

namespace Roster

/-- The place that an unknown task is reported under. -/
def unlisted : Nat := 0xFFFFFFFFFFFFFFFF

def report (roster : Roster) : Remains → Report
  | .report report => report
  | .number id =>
      match roster.find? fun entry => entry.1 = id with
      | some (_, ordinal, name) => .lost ordinal name
      | none => .lost unlisted "unknown"

end Roster

/-- The tasks of a group in the order of its producers; no two share a number. -/
structure Crew where
  tasks : List Task
  distinct : (tasks.map Task.id).Nodup

namespace Crew

/-- One task for each producer, numbered as they are started. -/
def ofEndings (endings : List (String × Ending)) : Crew where
  tasks := endings.zipIdx.map fun ((name, ending), id) => ⟨id, name, ending⟩
  distinct := by
    rw [List.map_map]
    have numbers : Task.id ∘ (fun ((name, ending), id) => Task.mk id name ending) =
        (Prod.snd : (String × Ending) × Nat → Nat) := rfl
    rw [numbers, List.zipIdx_map_snd]
    exact List.nodup_range'

def roster (crew : Crew) : Roster :=
  crew.tasks.zipIdx.map fun (task, ordinal) => (task.id, ordinal, task.name)

def reports (crew : Crew) : List Report :=
  crew.tasks.zipIdx.map fun (task, ordinal) => crew.roster.report (task.remains ordinal)

end Crew

structure Group where
  /-- Places in the queue. -/
  capacity : Nat
  /-- Producers whose work has not ended. -/
  running : List Nat
  /-- Reports that are not yet in the queue. -/
  waiting : List Report := []
  queue : List Report := []
  /-- Nobody reads the queue any more. -/
  deserted : Bool := false

namespace Group

def ofSize (size : Nat) : Group := { capacity := max size 1, running := List.range size }

def finish (group : Group) (report : Report) : Group :=
  if report.ordinal ∈ group.running then
    { group with
      running := group.running.erase report.ordinal
      waiting := group.waiting ++ [report] }
  else group

/-- The next report in line goes into the queue if there is room. Without a reader the work that is
left is given up. -/
def pass (group : Group) : Group :=
  match group.waiting with
  | [] => group
  | report :: rest =>
      if group.deserted then { group with running := [], waiting := [] }
      else if group.queue.length < group.capacity then
        { group with waiting := rest, queue := group.queue ++ [report] }
      else group

/-- Whether every report is in the queue or was read. -/
def isFinished (group : Group) : Bool :=
  group.running.isEmpty && group.waiting.isEmpty

def take? (group : Group) : Option (Report × Group) :=
  match group.queue with
  | [] => none
  | report :: rest => some (report, { group with queue := rest })

/-- The reader goes away; what is in the queue is lost. -/
def desert (group : Group) : Group := { group with queue := [], deserted := true }

end Group

/-- Those that wait to hear that the client has gone, by their places. -/
abbrev Listeners := List Nat

namespace Listeners

/-- One leaves; the last takes its place. -/
def vacate (listeners : Listeners) (leaver : Nat) : Listeners :=
  match listeners.getLast? with
  | none => []
  | some last => (listeners.map fun place => if place = leaver then last else place).dropLast

/-- The order in which they act: whoever is told last goes first, and then all others in the order
in which they are told. -/
def called (listeners : Listeners) : List Nat :=
  listeners.getLast?.toList ++ listeners.dropLast

end Listeners

/-- The tasks of producers whose work has been started. -/
def Crew.ofWorks (cancelAt : Option Nat) (producers : List Producer) (works : List Work) : Crew :=
  .ofEndings ((producers.zip works).map fun (producer, work) =>
    (producer.name, work.conclude cancelAt))

namespace Report

/-- When reports are made, each with whether it is made because the client has gone. -/
def timed (cancelAt : Option Nat) (works : List Work) (reports : List Report) :
    List (Bool × Timed Report) :=
  (works.zip reports).map fun (work, report) =>
    (work.isCancelled cancelAt, ⟨work.endTime cancelAt, report⟩)

/-- When and what the producers of a group report: first those whose work comes to its own end, in
the order of the producers, then those that stop because the client has gone. -/
def ofWorks (cancelAt : Option Nat) (producers : List Producer) (works : List Work) :
    List (Timed Report) :=
  let reports := timed cancelAt works (Crew.ofWorks cancelAt producers works).reports
  let ended := (reports.filter fun report => !report.1).map Prod.snd
  -- work that comes to its own end stops listening, which moves the last listener into its place
  let listeners := ((Timed.inOrder ended).map fun report => report.item.ordinal).foldl
    Listeners.vacate (List.range works.length)
  ended ++ listeners.called.filterMap fun ordinal => (reports[ordinal]?).map Prod.snd

end Report

/-- A group with the reader of its queue. -/
structure Reading where
  group : Group
  /-- How many more reports are read; all without a number. -/
  wanted : Option Nat
  /-- What was read, in order. -/
  taken : List Report := []

namespace Reading

/-- The reader goes away once it has what it wants. -/
def settle (reading : Reading) : Reading :=
  if reading.wanted = some 0 then { reading with group := reading.group.desert } else reading

def read (reading : Reading) : Reading :=
  match reading.group.take? with
  | none => reading
  | some (report, group) =>
      settle { group
               wanted := reading.wanted.map (· - 1)
               taken := reading.taken ++ [report] }

/-- A report is made, passed on and read. -/
def step (reading : Reading) (report : Report) : Reading :=
  ({ reading with group := (reading.group.finish report).pass } : Reading).read

/-- Reads a group of so many producers while reports are made. -/
def run (size : Nat) (wanted : Option Nat) (reports : List (Timed Report)) : Reading :=
  ((Timed.inOrder reports).map Timed.item).foldl step (settle ⟨Group.ofSize size, wanted, []⟩)

end Reading

end Gateway
