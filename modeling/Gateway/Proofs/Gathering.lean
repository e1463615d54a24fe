import Mathlib.Data.List.Perm.Basic
import Gateway.FanIn
import Gateway.Proofs.Groups

/-!
Gathering loses no report and keeps none twice. Whatever has been kept, together with what is still
on its way, is always what the producers come to, each under its own place. Every move that changes
anything brings some report nearer to its place, there is such a move as long as a group is being
read, and no report waits for a place in its queue; so the reader comes to an end with the outcome
of every producer, in whatever order the work ends.
-/

namespace Gateway

open scoped List

namespace Outcomes

variable {outcomes : Outcomes} {key : ReportKey} {outcome : Except GatewayError Response}

def Ascending (outcomes : Outcomes) : Prop :=
  outcomes.Pairwise fun left right => left.1.1 < right.1.1

theorem insert_perm (fresh : key ∉ outcomes.map Prod.fst) :
    (insert key outcome outcomes) ~ (key, outcome) :: outcomes := by
  induction outcomes with
  | nil => exact .refl _
  | cons first rest induction =>
      obtain ⟨present, old⟩ := first
      simp only [List.map_cons, List.mem_cons, not_or] at fresh
      unfold insert
      split
      · exact .refl _
      · rw [if_neg fresh.1]
        exact ((induction fresh.2).cons _).trans (.swap _ _ _)

theorem insert_ascending (ordered : Ascending outcomes)
    (fresh : key.1 ∉ outcomes.map fun entry => entry.1.1) :
    Ascending (insert key outcome outcomes) := by
  induction outcomes with
  | nil => simp [insert, Ascending]
  | cons first rest induction =>
      obtain ⟨present, old⟩ := first
      obtain ⟨least, tail⟩ := List.pairwise_cons.mp ordered
      simp only [List.map_cons, List.mem_cons, not_or] at fresh
      obtain ⟨apart, free⟩ := fresh
      unfold insert
      by_cases before : key.1 < present.1
      · rw [if_pos (by simp [keyBefore, before])]
        apply List.pairwise_cons.mpr
        refine ⟨?_, ordered⟩
        intro entry member
        rcases List.mem_cons.mp member with rfl | later
        · exact before
        · exact Nat.lt_trans before (least entry later)
      · have after : present.1 < key.1 := by omega
        have different : key ≠ present := fun same => apart (congrArg Prod.fst same)
        rw [if_neg (by simp [keyBefore, before, apart]), if_neg different]
        apply List.pairwise_cons.mpr
        refine ⟨?_, induction tail free⟩
        intro entry member
        have unkept : key ∉ rest.map Prod.fst := by
          intro kept
          apply free
          simpa using List.mem_map_of_mem (f := Prod.fst) kept
        rcases List.mem_cons.mp ((insert_perm unkept).mem_iff.mp member) with rfl | later
        · exact after
        · exact least entry later

theorem eq_of_perm {other : Outcomes} (same : outcomes ~ other) (ordered : Ascending outcomes)
    (otherOrdered : Ascending other) : outcomes = other := by
  apply List.Perm.eq_of_pairwise _ ordered otherOrdered same
  intro left right _ _ before after
  omega

end Outcomes

namespace FanIn

variable {crews : Side → Crew} {state : FanIn} {side : Side} {report : Report}

def base (crews : Side → Crew) : Side → Nat
  | .proxies => 0
  | .requests => (crews .proxies).size

/-- What the producers of a group come to, each under its place among all producers and its name. -/
def dueOf (crews : Side → Crew) (side : Side) : Outcomes :=
  (crews side).tasks.zipIdx.map fun (task, ordinal) =>
    ((base crews side + ordinal, task.name), task.outcome)

def due (crews : Side → Crew) : Outcomes := dueOf crews .proxies ++ dueOf crews .requests

/-- The work of a producer ends only with its own report. -/
def Genuine (crews : Side → Crew) : Event → Prop
  | .finish side report => report ∈ (crews side).reports
  | .pass _ => True
  | .read => True

def keep (crews : Side → Crew) (side : Side) (report : Report) :
    ReportKey × Except GatewayError Response :=
  ((base crews side + report.ordinal, report.name), report.outcome)

theorem map_keep_reports (crews : Side → Crew) (side : Side) :
    (crews side).reports.map (keep crews side) = dueOf crews side := by
  rw [Crew.reports_eq, List.map_map]
  rfl

theorem length_dueOf (crews : Side → Crew) (side : Side) :
    (dueOf crews side).length = (crews side).size := by
  simp [dueOf, Crew.size]

theorem places_dueOf (crews : Side → Crew) (side : Side) :
    (dueOf crews side).map (fun entry => entry.1.1) =
      List.range' (base crews side) (crews side).size := by
  calc (dueOf crews side).map (fun entry => entry.1.1)
      = (crews side).tasks.zipIdx.map ((base crews side + ·) ∘ Prod.snd) := List.map_map
    _ = List.range' (base crews side) (crews side).size := by
      rw [← List.map_map, List.zipIdx_map_snd, List.map_add_range']
      rfl

theorem places_due (crews : Side → Crew) : (due crews).map (fun entry => entry.1.1) =
    List.range ((crews .proxies).size + (crews .requests).size) := by
  rw [due, List.map_append, places_dueOf, places_dueOf, List.range_eq_range', ← List.range'_append]
  simp [base]

theorem due_ascending (crews : Side → Crew) : (due crews).Ascending := by
  have sorted : ((due crews).map fun entry => entry.1.1).Pairwise (· < ·) := by
    rw [places_due]
    exact List.pairwise_lt_range
  exact List.pairwise_map.mp sorted

@[simp] theorem group_setGroup (group : Group) : (state.setGroup side group).group side = group := by
  cases side <;> rfl

theorem group_setGroup_of_ne {other : Side} (different : other ≠ side) (group : Group) :
    (state.setGroup side group).group other = state.group other := by
  cases side <;> cases other <;> first | rfl | exact absurd rfl different

@[simp] theorem offset_setGroup (group : Group) :
    (state.setGroup side group).offset = state.offset := by
  cases side <;> rfl

@[simp] theorem reading_setGroup (group : Group) :
    (state.setGroup side group).reading = state.reading := by
  cases side <;> rfl

@[simp] theorem outcomes_setGroup (group : Group) :
    (state.setGroup side group).outcomes = state.outcomes := by
  cases side <;> rfl

@[simp] theorem group_outcomes (outcomes : Outcomes) :
    group { state with outcomes } side = state.group side := by
  cases side <;> rfl

@[simp] theorem group_reading (reading : Option Side) :
    group { state with reading } side = state.group side := by
  cases side <;> rfl

theorem setGroup_self (state : FanIn) (side : Side) :
    state.setGroup side (state.group side) = state := by
  cases side <;> rfl

def comingFrom (crews : Side → Crew) (state : FanIn) (side : Side) : Outcomes :=
  ((state.group side).unread (crews side)).map (keep crews side)

def coming (crews : Side → Crew) (state : FanIn) : Outcomes :=
  comingFrom crews state .proxies ++ comingFrom crews state .requests

/-- How far the reader is from its end. -/
def stage (state : FanIn) : Nat :=
  match state.reading with
  | some .proxies => 2
  | some .requests => 1
  | none => 0

/-- How many moves it takes at most to gather everything. -/
def effort (state : FanIn) : Nat :=
  (state.group .proxies).effort + (state.group .requests).effort + state.stage

def HasRead (state : FanIn) (side : Side) : Prop :=
  state.reading = none ∨ (side = .proxies ∧ state.reading = some .requests)

/-- Gathering has lost nothing so far and can go on to its end. -/
structure Sound (crews : Side → Crew) (state : FanIn) : Prop where
  groups : ∀ side, (state.group side).Sound (crews side)
  offset : state.offset = (crews .proxies).size
  whole : state.coming crews ++ state.outcomes ~ due crews
  ordered : state.outcomes.Ascending
  read : ∀ side, state.HasRead side → (state.group side).load = 0

/-- A move that brings gathering nearer to its end. -/
def Progress (crews : Side → Crew) (before after : FanIn) : Prop :=
  after.Sound crews ∧ after.effort < before.effort

theorem sound_ofSizes (crews : Side → Crew) :
    (ofSizes (crews .proxies).size (crews .requests).size).Sound crews where
  groups side := by
    cases side with
    | proxies => exact Group.sound_ofSize _
    | requests => exact Group.sound_ofSize _
  offset := rfl
  whole := by
    have all (side : Side) : comingFrom crews
        (ofSizes (crews .proxies).size (crews .requests).size) side = dueOf crews side := by
      cases side with
      | proxies => exact (congrArg _ (Group.unread_ofSize _)).trans (map_keep_reports ..)
      | requests => exact (congrArg _ (Group.unread_ofSize _)).trans (map_keep_reports ..)
    rw [coming, all, all, due]
    simp [ofSizes]
  ordered := List.Pairwise.nil
  read side done := by
    rcases done with done | ⟨_, done⟩ <;> simp [ofSizes] at done

theorem coming_setGroup (state : FanIn) {group : Group} (report : Option Report)
    (same : report.toList ++ group.unread (crews side) ~ (state.group side).unread (crews side)) :
    (report.toList.map (keep crews side)) ++ (state.setGroup side group).coming crews ~
      state.coming crews := by
  have changed : report.toList.map (keep crews side) ++
      comingFrom crews (state.setGroup side group) side ~ comingFrom crews state side := by
    have mapped := same.map (keep crews side)
    simpa [comingFrom] using mapped
  cases side with
  | proxies =>
      rw [coming, ← List.append_assoc]
      exact changed.append_right _
  | requests =>
      rw [coming]
      exact (List.perm_append_comm_assoc _ _ _).trans (changed.append_left _)

theorem effort_setGroup {group : Group} (lower : group.effort < (state.group side).effort) :
    (state.setGroup side group).effort < state.effort := by
  have same : (state.setGroup side group).stage = state.stage := by simp [stage]
  cases side with
  | proxies =>
      have other : (state.setGroup .proxies group).group .requests = state.group .requests := rfl
      simp only [effort, same, other, group_setGroup]
      omega
  | requests =>
      have other : (state.setGroup .requests group).group .proxies = state.group .proxies := rfl
      simp only [effort, same, other, group_setGroup]
      omega

theorem setGroup_progress {group : Group} (sound : state.Sound crews)
    (advanced : Group.Advanced (crews side) (state.group side) group) :
    Progress crews state (state.setGroup side group) := by
  refine ⟨⟨?_, ?_, ?_, ?_, ?_⟩, effort_setGroup advanced.lower⟩
  · intro other
    by_cases same : other = side
    · subst same
      simpa using advanced.sound
    · rw [group_setGroup_of_ne same]
      exact sound.groups other
  · simpa using sound.offset
  · have moved := coming_setGroup state none (by simpa using advanced.same)
    simpa using (moved.append_right state.outcomes).trans sound.whole
  · simpa using sound.ordered
  · intro other done
    have before : state.HasRead other := by simpa [HasRead] using done
    by_cases same : other = side
    · subst same
      simpa [advanced.load] using sound.read other before
    · rw [group_setGroup_of_ne same]
      exact sound.read other before

theorem place_eq (sound : state.Sound crews) (side : Side) (ordinal : Nat) :
    state.place side ordinal = base crews side + ordinal := by
  cases side with
  | proxies => exact (Nat.zero_add ordinal).symm
  | requests => exact congrArg (· + ordinal) sound.offset

def taking (state : FanIn) (side : Side) (report : Report) (group : Group) : FanIn :=
  { state.setGroup side group with
    outcomes := state.outcomes.insert (state.place side report.ordinal, report.name) report.outcome }

theorem read_of_done (done : state.reading = none) : state.read = state := by
  simp [read, done]

theorem read_of_taken {group : Group} (reading : state.reading = some side)
    (taken : (state.group side).take? = some (report, group)) :
    state.read = state.taking side report group := by
  simp [read, reading, taken, taking]

theorem read_of_empty (reading : state.reading = some side)
    (empty : (state.group side).take? = none) :
    state.read = if (state.group side).isFinished then { state with reading := following side }
      else state := by
  simp [read, reading, empty]

theorem take_progress {group : Group} (sound : state.Sound crews)
    (taken : (state.group side).take? = some (report, group)) :
    Progress crews state (state.taking side report group) := by
  obtain ⟨rest, same, load, lower⟩ := Group.take_sound (sound.groups side) taken
  have moved := coming_setGroup state (some report) same
  have keyed : (state.place side report.ordinal, report.name) = (keep crews side report).1 := by
    rw [place_eq sound]
    rfl
  have whole : keep crews side report :: ((state.setGroup side group).coming crews ++ state.outcomes) ~
      due crews := (moved.append_right state.outcomes).trans sound.whole
  -- the place is free: no two outcomes are due at one place
  have fresh : (keep crews side report).1.1 ∉ state.outcomes.map fun entry => entry.1.1 := by
    have places := whole.map fun entry => entry.1.1
    rw [places_due] at places
    have apart := (places.nodup_iff.mpr List.nodup_range)
    rw [List.map_cons, List.map_append] at apart
    intro kept
    exact (List.nodup_cons.mp apart).1 (List.mem_append_right _ kept)
  have freshKey : (keep crews side report).1 ∉ state.outcomes.map Prod.fst := by
    intro kept
    apply fresh
    simpa using List.mem_map_of_mem (f := Prod.fst) kept
  rw [taking, keyed]
  refine ⟨⟨?_, ?_, ?_, ?_, ?_⟩, effort_setGroup lower⟩
  · intro other
    rw [group_outcomes]
    by_cases here : other = side
    · subst here
      simpa using rest
    · rw [group_setGroup_of_ne here]
      exact sound.groups other
  · exact (offset_setGroup group).trans sound.offset
  · have inserted : state.outcomes.insert (keep crews side report).1 report.outcome ~
        keep crews side report :: state.outcomes := Outcomes.insert_perm freshKey
    exact (inserted.append_left _).trans (List.perm_middle.trans whole)
  · exact Outcomes.insert_ascending sound.ordered fresh
  · intro other done
    have before : state.HasRead other := by simpa [HasRead] using done
    have empty := sound.read other before
    have here : other ≠ side := by
      rintro rfl
      omega
    rw [group_outcomes, group_setGroup_of_ne here]
    exact empty

theorem follow_progress (sound : state.Sound crews) (reading : state.reading = some side)
    (empty : (state.group side).load = 0) :
    Progress crews state { state with reading := following side } := by
  refine ⟨⟨?_, sound.offset, sound.whole, sound.ordered, ?_⟩, ?_⟩
  · intro other
    rw [group_reading]
    exact sound.groups other
  · intro other done
    rw [group_reading]
    by_cases here : other = side
    · exact here ▸ empty
    · apply sound.read other
      cases side <;> cases other <;> simp_all [HasRead, following]
  · simp only [effort, group_reading, stage, reading]
    cases side <;> simp [following]

/-- Each move leaves everything as it is or brings gathering nearer to its end. -/
theorem step_progress {event : Event} (sound : state.Sound crews) (genuine : Genuine crews event) :
    state.step event = state ∨ Progress crews state (state.step event) := by
  cases event with
  | finish side report =>
      by_cases busy : report.ordinal ∈ (state.group side).running
      · exact .inr (setGroup_progress sound
          (Group.finish_advanced (sound.groups side) genuine busy))
      · left
        rw [step, Group.finish_of_not_mem busy, setGroup_self]
  | pass side =>
      by_cases idle : (state.group side).waiting = []
      · left
        rw [step, Group.pass_of_nil idle, setGroup_self]
      · exact .inr (setGroup_progress sound (Group.pass_advanced (sound.groups side) idle))
  | read =>
      rw [step]
      cases reading : state.reading with
      | none => exact .inl (read_of_done reading)
      | some side =>
          cases taken : (state.group side).take? with
          | some entry =>
              rw [read_of_taken reading taken]
              exact .inr (take_progress sound taken)
          | none =>
              rw [read_of_empty reading taken]
              by_cases finished : (state.group side).isFinished = true
              · rw [if_pos finished]
                exact .inr (follow_progress sound reading (Group.load_of_finished finished taken))
              · exact .inl (if_neg finished)

theorem step_sound {event : Event} (sound : state.Sound crews) (genuine : Genuine crews event) :
    (state.step event).Sound crews ∧ (state.step event).effort ≤ state.effort := by
  rcases step_progress sound genuine with same | ⟨later, lower⟩
  · rw [same]
    exact ⟨sound, Nat.le_refl _⟩
  · exact ⟨later, Nat.le_of_lt lower⟩

theorem run_sound {events : List Event} (sound : state.Sound crews)
    (genuine : ∀ event ∈ events, Genuine crews event) : (state.run events).Sound crews := by
  induction events generalizing state with
  | nil => exact sound
  | cons event rest induction =>
      obtain ⟨first, others⟩ := List.forall_mem_cons.mp genuine
      exact induction (step_sound sound first).1 others

/-- While a group is being read, some party can move. -/
theorem exists_progress (sound : state.Sound crews) (reading : state.reading ≠ none) :
    ∃ event, Genuine crews event ∧ (state.step event).effort < state.effort := by
  obtain ⟨side, current⟩ := Option.ne_none_iff_exists'.mp reading
  -- back from the reader: a queue to read, a line to pass on, work to end, or a group to leave
  by_cases queued : (state.group side).queue = []
  · by_cases idle : (state.group side).waiting = []
    · by_cases ended : (state.group side).running = []
      · refine ⟨.read, trivial, ?_⟩
        have empty : (state.group side).load = 0 := by simp [Group.load, queued, idle, ended]
        have finished : (state.group side).isFinished = true := by
          simp [Group.isFinished, idle, ended]
        rw [step, read_of_empty current (Group.take_eq_none_iff.mpr queued), if_pos finished]
        exact (follow_progress sound current empty).2
      · obtain ⟨ordinal, rest, running⟩ := List.exists_cons_of_ne_nil ended
        have busy : ordinal ∈ (state.group side).running := by simp [running]
        have within := (sound.groups side).known.subset busy
        obtain ⟨report, made, rfl⟩ := Crew.exists_report (List.mem_range.mp within)
        exact ⟨.finish side report, made,
          effort_setGroup (Group.finish_advanced (sound.groups side) made busy).lower⟩
    · exact ⟨.pass side, trivial, effort_setGroup (Group.pass_advanced (sound.groups side) idle).lower⟩
  · refine ⟨.read, trivial, ?_⟩
    obtain ⟨⟨report, group⟩, taken⟩ := Option.ne_none_iff_exists'.mp
      fun none => queued (Group.take_eq_none_iff.mp none)
    rw [step, read_of_taken current taken]
    exact (take_progress sound taken).2

theorem outcomes_of_read (sound : state.Sound crews) (read : state.reading = none) :
    state.outcomes = due crews := by
  have nothing (side : Side) : comingFrom crews state side = [] := by
    rw [comingFrom, Group.unread_of_load_zero (sound.read side (.inl read))]
    rfl
  have same := sound.whole
  rw [coming, nothing, nothing] at same
  exact Outcomes.eq_of_perm same sound.ordered (due_ascending crews)

def after (state : FanIn) (schedule : Nat → Event) (moves : Nat) : FanIn :=
  state.run ((List.range moves).map schedule)

theorem after_succ (schedule : Nat → Event) (moves : Nat) :
    state.after schedule (moves + 1) = (state.after schedule moves).step (schedule moves) := by
  simp [after, run, List.range_succ]

/-- Every move that a party can make comes again and again. -/
structure Fair (crews : Side → Crew) (schedule : Nat → Event) : Prop where
  genuine : ∀ moves, Genuine crews (schedule moves)
  recurs : ∀ event, Genuine crews event → ∀ moves, ∃ later, moves ≤ later ∧ schedule later = event

theorem after_sound {schedule : Nat → Event} (sound : state.Sound crews) (fair : Fair crews schedule)
    (moves : Nat) : (state.after schedule moves).Sound crews := by
  apply run_sound sound
  simp only [List.mem_map, List.mem_range]
  rintro event ⟨turn, _, rfl⟩
  exact fair.genuine turn

/-- Between two moves of a fair schedule nothing happens or gathering comes nearer to its end. -/
theorem after_stays {schedule : Nat → Event} (sound : state.Sound crews) (fair : Fair crews schedule)
    {moves later : Nat} (order : moves ≤ later) :
    state.after schedule later = state.after schedule moves ∨
      (state.after schedule later).effort < (state.after schedule moves).effort := by
  induction order with
  | refl => exact .inl rfl
  | @step turn _ induction =>
      rw [after_succ]
      have here := after_sound sound fair turn
      rcases step_progress here (fair.genuine turn) with same | ⟨_, lower⟩
      · rw [same]
        exact induction
      · right
        rcases induction with same | earlier
        · rw [← same]
          exact lower
        · exact Nat.lt_trans lower earlier

/-- On a fair schedule the reader comes to its end. -/
theorem fair_ends {schedule : Nat → Event} (sound : state.Sound crews) (fair : Fair crews schedule) :
    ∃ moves, (state.after schedule moves).reading = none := by
  suffices ends : ∀ effort moves, (state.after schedule moves).effort = effort →
      ∃ later, (state.after schedule later).reading = none from ends _ 0 rfl
  -- strong induction on the effort: a move that lowers it is bound to come, and until it does
  -- either nothing has changed or some other move has lowered it
  intro effort
  induction effort using Nat.strongRecOn with
  | ind effort induction =>
      intro moves left
      by_cases done : (state.after schedule moves).reading = none
      · exact ⟨moves, done⟩
      · obtain ⟨event, genuine, lower⟩ := exists_progress (after_sound sound fair moves) done
        obtain ⟨turn, order, chosen⟩ := fair.recurs event genuine moves
        rcases after_stays sound fair order with same | earlier
        · have next : (state.after schedule (turn + 1)).effort < effort := by
            rw [after_succ, same, chosen]
            omega
          exact induction _ next (turn + 1) rfl
        · exact induction _ (by omega) turn rfl

def Quiet (state : FanIn) : Prop := ∀ side, (state.group side).waiting = []

def Ended (state : FanIn) : Prop := ∀ side, (state.group side).running = []

theorem group_read (state : FanIn) (side : Side) :
    (state.read.group side).running = (state.group side).running ∧
      (state.read.group side).waiting = (state.group side).waiting := by
  cases reading : state.reading with
  | none =>
      rw [read_of_done reading]
      exact ⟨rfl, rfl⟩
  | some current =>
      cases taken : (state.group current).take? with
      | some entry =>
          rw [read_of_taken reading taken, taking, group_outcomes]
          by_cases here : side = current
          · subst here
            rw [group_setGroup, (Group.take_eq_some taken).2]
            exact ⟨rfl, rfl⟩
          · rw [group_setGroup_of_ne here]
            exact ⟨rfl, rfl⟩
      | none =>
          rw [read_of_empty reading taken]
          split
          · rw [group_reading]
            exact ⟨rfl, rfl⟩
          · exact ⟨rfl, rfl⟩

theorem run_cons (event : Event) (events : List Event) :
    state.run (event :: events) = (state.step event).run events := rfl

theorem run_append (first second : List Event) :
    state.run (first ++ second) = (state.run first).run second :=
  List.foldl_append

theorem moves_genuine {entry : Side × Report} (made : entry.2 ∈ (crews entry.1).reports) :
    ∀ event ∈ moves entry, Genuine crews event := by
  simp [moves, Genuine, made]

theorem run_moves (sound : state.Sound crews) (quiet : state.Quiet)
    (made : report ∈ (crews side).reports) :
    (state.run (moves (side, report))).Quiet ∧ ∀ other ordinal,
      ordinal ∈ ((state.run (moves (side, report))).group other).running →
      ordinal ∈ (state.group other).running ∧ ¬(side = other ∧ report.ordinal = ordinal) := by
  obtain ⟨idle, running⟩ := Group.finish_pass (sound.groups side) (quiet side) made
  set passed := ((state.group side).finish report).pass with passing
  have moved : state.run (moves (side, report)) =
      ((state.setGroup side ((state.group side).finish report)).setGroup side passed).read := by
    simp [moves, run, step, passing]
  have groups (other : Side) : ((state.setGroup side ((state.group side).finish report)).setGroup
      side passed).group other = if other = side then passed else state.group other := by
    by_cases here : other = side
    · subst here
      simp
    · rw [group_setGroup_of_ne here, group_setGroup_of_ne here, if_neg here]
  refine ⟨fun other => ?_, fun other ordinal => ?_⟩
  · rw [moved, (group_read _ other).2, groups]
    split
    · exact idle
    · exact quiet other
  · rw [moved, (group_read _ other).1, groups]
    split
    · rename_i here
      subst here
      rw [running]
      have distinct := (sound.groups other).known.nodup List.nodup_range
      rw [distinct.mem_erase_iff]
      exact fun ⟨apart, busy⟩ => ⟨busy, fun same => apart same.2.symm⟩
    · rename_i apart
      exact fun busy => ⟨busy, fun same => apart same.1.symm⟩

theorem run_all_moves {entries : List (Side × Report)} (sound : state.Sound crews)
    (quiet : state.Quiet) (made : ∀ entry ∈ entries, entry.2 ∈ (crews entry.1).reports)
    (covers : ∀ side ordinal, ordinal ∈ (state.group side).running →
      ∃ entry ∈ entries, entry.1 = side ∧ entry.2.ordinal = ordinal) :
    (state.run (entries.flatMap moves)).Sound crews ∧ (state.run (entries.flatMap moves)).Quiet ∧
      (state.run (entries.flatMap moves)).Ended := by
  -- on the reports to be made: `covers` says that whoever is running has one of them ahead
  induction entries generalizing state with
  | nil =>
      refine ⟨sound, quiet, fun side => List.eq_nil_iff_forall_not_mem.mpr ?_⟩
      intro ordinal busy
      obtain ⟨_, none, _⟩ := covers side ordinal busy
      exact List.not_mem_nil none
  | cons entry rest induction =>
      obtain ⟨here, others⟩ := List.forall_mem_cons.mp made
      obtain ⟨later, fewer⟩ := run_moves sound quiet here
      rw [List.flatMap_cons, run_append]
      apply induction (run_sound sound (moves_genuine here)) later others
      intro side ordinal busy
      obtain ⟨before, apart⟩ := fewer side ordinal busy
      obtain ⟨found, member, named⟩ := covers side ordinal before
      rcases List.mem_cons.mp member with rfl | listed
      · exact absurd named apart
      · exact ⟨found, listed, named⟩

theorem read_lower (sound : state.Sound crews) (quiet : state.Quiet) (ended : state.Ended)
    (reading : state.reading ≠ none) : state.read.effort < state.effort := by
  obtain ⟨side, current⟩ := Option.ne_none_iff_exists'.mp reading
  cases taken : (state.group side).take? with
  | some entry =>
      rw [read_of_taken current taken]
      exact (take_progress sound taken).2
  | none =>
      have finished : (state.group side).isFinished = true := by
        simp [Group.isFinished, quiet side, ended side]
      rw [read_of_empty current taken, if_pos finished]
      exact (follow_progress sound current (Group.load_of_finished finished taken)).2

theorem reads_end {count : Nat} (sound : state.Sound crews) (quiet : state.Quiet)
    (ended : state.Ended) (enough : state.reading = none ∨ state.effort ≤ count) :
    (state.run (List.replicate count .read)).reading = none := by
  -- every read before the end lowers the effort, so as many reads as there is effort suffice
  induction count generalizing state with
  | zero =>
      rcases enough with done | empty
      · exact done
      · by_contra reading
        have lower := read_lower sound quiet ended reading
        omega
  | succ count induction =>
      have genuine : Genuine crews .read := trivial
      rw [List.replicate_succ, run_cons]
      apply induction (step_sound sound genuine).1
      · exact fun side => (group_read state side).2.trans (quiet side)
      · exact fun side => (group_read state side).1.trans (ended side)
      · by_cases done : state.reading = none
        · left
          rw [step, read_of_done done]
          exact done
        · right
          have lower := read_lower sound quiet ended done
          have bound := enough.resolve_left done
          rw [step]
          omega

theorem effort_of_ended (sound : state.Sound crews) (quiet : state.Quiet) (ended : state.Ended) :
    state.effort ≤ (crews .proxies).size + (crews .requests).size + 2 := by
  have queued (side : Side) :
      (state.group side).effort = (comingFrom crews state side).length := by
    simp [Group.effort, comingFrom, Group.unread, quiet side, ended side]
  have total := sound.whole.length_eq
  have stages : state.stage ≤ 2 := by
    unfold stage
    split <;> omega
  rw [coming, due] at total
  simp only [List.length_append, length_dueOf] at total
  rw [effort, queued, queued]
  omega

def allReports (crews : Side → Crew) : List (Side × Report) :=
  (crews .proxies).reports.map (Prod.mk .proxies) ++
    (crews .requests).reports.map (Prod.mk .requests)

theorem mem_allReports {entry : Side × Report} :
    entry ∈ allReports crews ↔ entry.2 ∈ (crews entry.1).reports := by
  obtain ⟨side, report⟩ := entry
  cases side <;> simp [allReports]

/-- Once every producer has reported, some more reads bring the reader to its end. -/
theorem drained {entries : List (Side × Report)} (all : entries ~ allReports crews) {count : Nat}
    (enough : (crews .proxies).size + (crews .requests).size + 2 ≤ count) :
    ((ofSizes (crews .proxies).size (crews .requests).size).run
      (entries.flatMap moves ++ List.replicate count .read)).outcomes = due crews := by
  have made (entry) (member : entry ∈ entries) : entry.2 ∈ (crews entry.1).reports :=
    mem_allReports.mp (all.mem_iff.mp member)
  have quiet : (ofSizes (crews .proxies).size (crews .requests).size).Quiet := by
    intro side
    cases side <;> rfl
  have covers (side ordinal)
      (busy : ordinal ∈ ((ofSizes (crews .proxies).size (crews .requests).size).group side).running) :
      ∃ entry ∈ entries, entry.1 = side ∧ entry.2.ordinal = ordinal := by
    have within : ordinal < (crews side).size := by
      cases side <;> exact List.mem_range.mp busy
    obtain ⟨report, listed, here⟩ := Crew.exists_report within
    exact ⟨(side, report), all.mem_iff.mpr (mem_allReports.mpr listed), rfl, here⟩
  obtain ⟨sound, still, ended⟩ := run_all_moves (sound_ofSizes crews) quiet made covers
  rw [run_append]
  apply outcomes_of_read
  · apply run_sound sound
    intro event member
    rw [List.eq_of_mem_replicate member]
    trivial
  · exact reads_end sound still ended (.inr (Nat.le_trans (effort_of_ended sound still ended) enough))

/-- Gathering keeps everything that is due, whenever the producers report. -/
theorem gather_eq_due {proxies requests : List (Timed Report)}
    (first : proxies.map Timed.item ~ (crews .proxies).reports)
    (second : requests.map Timed.item ~ (crews .requests).reports) :
    gather proxies requests = due crews := by
  have sizes : proxies.length = (crews .proxies).size ∧ requests.length = (crews .requests).size := by
    simpa using And.intro first.length_eq second.length_eq
  let reports := proxies.map (Timed.rename (Prod.mk Side.proxies)) ++
    requests.map (Timed.rename (Prod.mk Side.requests))
  have items : reports.map Timed.item = (proxies.map Timed.item).map (Prod.mk .proxies) ++
      (requests.map Timed.item).map (Prod.mk .requests) := by
    simp only [reports, List.map_append, List.map_map]
    rfl
  have all : (Timed.inOrder reports).map Timed.item ~ allReports crews := by
    have ordered := (Timed.inOrder_perm reports).map Timed.item
    rw [items] at ordered
    exact ordered.trans ((first.map _).append (second.map _))
  have count : (crews .proxies).size + (crews .requests).size + 2 ≤ reports.length + 2 := by
    simp [reports, sizes]
  calc gather proxies requests
      = ((ofSizes proxies.length requests.length).run (events reports)).outcomes := rfl
    _ = due crews := by
      rw [events, sizes.1, sizes.2, ← List.flatMap_map Timed.item moves]
      exact drained all count

/-- Fair schedules exist: the moves of the parties can be tried in turn. -/
theorem exists_fair (crews : Side → Crew) : ∃ schedule, Fair crews schedule := by
  let menu : List Event := .read :: .pass .proxies :: .pass .requests ::
    (allReports crews).map fun entry => .finish entry.1 entry.2
  have listed (event : Event) : event ∈ menu ↔ Genuine crews event := by
    cases event with
    | finish side report =>
        have made : (side, report) ∈ allReports crews ↔ report ∈ (crews side).reports :=
          mem_allReports
        simp [menu, Genuine, ← made]
    | pass side => cases side <;> simp [menu, Genuine]
    | read => simp [menu, Genuine]
  have positive : 0 < menu.length := by simp [menu]
  -- the menu holds every genuine move and is gone through again and again
  refine ⟨fun moves => menu.get ⟨moves % menu.length, Nat.mod_lt _ positive⟩, ?_, ?_⟩
  · exact fun moves => (listed _).mp (List.get_mem _ _)
  · intro event genuine moves
    obtain ⟨place, bound, found⟩ := List.getElem_of_mem ((listed event).mpr genuine)
    refine ⟨place + menu.length * moves, ?_, ?_⟩
    · have many : 1 * moves ≤ menu.length * moves := Nat.mul_le_mul_right moves positive
      omega
    · simp [Nat.mod_eq_of_lt bound, found]

/-- Nothing is lost and nothing is kept twice: whatever the parties do, a report in line always
finds a place in its queue; the reader comes to its end as soon as every party moves again and
again; and then the outcome of every producer has been kept under its place and its name. -/
theorem gathers_every_outcome (crews : Side → Crew) :
    (∀ events, (∀ event ∈ events, Genuine crews event) →
      let state := (ofSizes (crews .proxies).size (crews .requests).size).run events
      (∀ side, (state.group side).waiting ≠ [] →
        (state.group side).queue.length < (state.group side).capacity) ∧
      (state.reading = none → state.outcomes = due crews)) ∧
    (∀ schedule, Fair crews schedule → ∃ moves,
      ((ofSizes (crews .proxies).size (crews .requests).size).after schedule moves).reading = none) ∧
    (∀ proxies requests, proxies.map Timed.item ~ (crews .proxies).reports →
      requests.map Timed.item ~ (crews .requests).reports → gather proxies requests = due crews) ∧
    (due crews).length = (crews .proxies).size + (crews .requests).size := by
  refine ⟨?_, ?_, ?_, ?_⟩
  · intro events genuine
    have sound := run_sound (sound_ofSizes crews) genuine
    refine ⟨fun side busy => ?_, outcomes_of_read sound⟩
    obtain ⟨report, rest, next⟩ := List.exists_cons_of_ne_nil busy
    exact Group.roomy (sound.groups side) next
  · exact fun schedule fair => fair_ends (sound_ofSizes crews) fair
  · exact fun proxies requests first second => gather_eq_due first second
  · simp [due, length_dueOf]

def namesakes : Side → Crew
  | .proxies => Crew.ofEndings [("app", .settled (.error .clientDisconnect)), ("app", .died)]
  | .requests => Crew.ofEndings [("audit", .died)]

theorem gathers_namesakes : ∃ schedule moves, Fair namesakes schedule ∧
    ((ofSizes 2 1).after schedule moves).reading = none ∧
    ((ofSizes 2 1).after schedule moves).outcomes =
      [((0, "app"), .error .clientDisconnect),
        ((1, "app"), .error (.internal "producer 'app' finished without a result")),
        ((2, "audit"), .error (.internal "producer 'audit' finished without a result"))] := by
  obtain ⟨schedule, fair⟩ := exists_fair namesakes
  obtain ⟨every, ends, _⟩ := gathers_every_outcome namesakes
  obtain ⟨moves, read⟩ := ends schedule fair
  refine ⟨schedule, moves, fair, read, ?_⟩
  have genuine : ∀ event ∈ (List.range moves).map schedule, Genuine namesakes event := by
    simp [fair.genuine]
  exact (every _ genuine).2 read

end FanIn

end Gateway
