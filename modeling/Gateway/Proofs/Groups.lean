import Mathlib.Data.List.Perm.Basic
import Gateway.Group
import Gateway.Proofs.Agenda
import Gateway.Proofs.Maps

/-!
The reports of a group. The roster leads back from the number of a task that died to its producer,
so that the reports of a crew name every producer once, in order, with its own outcome. A report
that is on its way through a group is never lost, and the queue has room for all of them.
-/

namespace Gateway

open scoped List

theorem filterMap_range {Item : Type} (items : List Item) :
    (List.range items.length).filterMap (fun place => items[place]?) = items := by
  have looked : ∀ entry ∈ items.zipIdx,
      ((fun place => items[place]?) ∘ Prod.snd) entry = (some ∘ Prod.fst) entry :=
    fun entry member => List.mem_zipIdx_iff_getElem?.mp member
  rw [List.range_eq_range', ← List.zipIdx_map_snd, List.filterMap_map,
    List.filterMap_congr looked, List.filterMap_eq_map, List.zipIdx_map_fst]

def Task.outcome (task : Task) : Except GatewayError Response :=
  match task.ending with
  | .settled outcome => outcome
  | .died => .error (.internal ("producer '" ++ task.name ++ "' finished without a result"))

namespace Crew

variable {crew : Crew} {task : Task} {ordinal : Nat}

def size (crew : Crew) : Nat := crew.tasks.length

theorem roster_ids : crew.roster.map Prod.fst = crew.tasks.map Task.id := by
  calc crew.roster.map Prod.fst
      = crew.tasks.zipIdx.map (Task.id ∘ Prod.fst) := List.map_map
    _ = crew.tasks.map Task.id := by rw [← List.map_map, List.zipIdx_map_fst]

theorem find_roster (member : (task, ordinal) ∈ crew.tasks.zipIdx) :
    crew.roster.find? (fun entry => entry.1 = task.id) = some (task.id, ordinal, task.name) := by
  have listed : (task.id, ordinal, task.name) ∈ crew.roster :=
    List.mem_map.mpr ⟨(task, ordinal), member, rfl⟩
  have distinct : (crew.roster.map Prod.fst).Nodup := roster_ids ▸ crew.distinct
  exact find?_key distinct listed

theorem report_remains (member : (task, ordinal) ∈ crew.tasks.zipIdx) :
    crew.roster.report (task.remains ordinal) = ⟨ordinal, task.name, task.outcome⟩ := by
  unfold Task.remains Task.outcome
  cases task.ending with
  | settled outcome => rfl
  | died =>
      simp only [Roster.report, find_roster member]
      rfl

theorem reports_eq (crew : Crew) : crew.reports =
    crew.tasks.zipIdx.map fun (task, ordinal) => ⟨ordinal, task.name, task.outcome⟩ :=
  List.map_congr_left fun _ member => report_remains member

theorem getElem?_reports (crew : Crew) (ordinal : Nat) : crew.reports[ordinal]? =
    crew.tasks[ordinal]?.map fun task => ⟨ordinal, task.name, task.outcome⟩ := by
  simp only [reports_eq, List.getElem?_map, List.getElem?_zipIdx, Option.map_map, Nat.zero_add]
  rfl

@[simp] theorem length_reports (crew : Crew) : crew.reports.length = crew.size := by
  simp [reports, size]

theorem ordinal_of_getElem {report : Report} (found : crew.reports[ordinal]? = some report) :
    report.ordinal = ordinal := by
  rw [getElem?_reports, Option.map_eq_some_iff] at found
  obtain ⟨task, _, rfl⟩ := found
  rfl

theorem ordinals (crew : Crew) : crew.reports.map Report.ordinal = List.range crew.size := by
  calc crew.reports.map Report.ordinal
      = crew.tasks.zipIdx.map Prod.snd := by
        rw [reports_eq]
        exact List.map_map
    _ = List.range crew.size := by rw [List.zipIdx_map_snd, List.range_eq_range', size]

theorem getElem?_ordinal {report : Report} (made : report ∈ crew.reports) :
    crew.reports[report.ordinal]? = some report := by
  obtain ⟨place, found⟩ := List.mem_iff_getElem?.mp made
  rw [ordinal_of_getElem found]
  exact found

theorem exists_report (within : ordinal < crew.size) :
    ∃ report ∈ crew.reports, report.ordinal = ordinal := by
  have listed : ordinal ∈ crew.reports.map Report.ordinal := by
    rw [ordinals]
    exact List.mem_range.mpr within
  exact List.mem_map.mp listed

end Crew

namespace Group

variable {group after : Group} {crew : Crew} {report : Report}

/-- How many producers and reports have not reached the reader. -/
def load (group : Group) : Nat :=
  group.running.length + group.waiting.length + group.queue.length

/-- How many moves it takes at most until all reports have reached the reader. -/
def effort (group : Group) : Nat :=
  3 * group.running.length + 2 * group.waiting.length + group.queue.length

def unread (crew : Crew) (group : Group) : List Report :=
  group.running.filterMap (fun ordinal => crew.reports[ordinal]?) ++ (group.waiting ++ group.queue)

/-- A group of a crew that can go on to its end. -/
structure Sound (crew : Crew) (group : Group) : Prop where
  attended : group.deserted = false
  room : group.load ≤ group.capacity
  known : group.running.Sublist (List.range crew.size)

structure Advanced (crew : Crew) (group after : Group) : Prop where
  sound : after.Sound crew
  same : (after.unread crew).Perm (group.unread crew)
  load : after.load = group.load
  lower : after.effort < group.effort

theorem sound_ofSize (crew : Crew) : (Group.ofSize crew.size).Sound crew where
  attended := rfl
  room := by
    simp only [load, ofSize, List.length_range, List.length_nil]
    omega
  known := List.Sublist.refl _

theorem unread_ofSize (crew : Crew) : (Group.ofSize crew.size).unread crew = crew.reports := by
  simp only [unread, ofSize, ← Crew.length_reports, filterMap_range, List.append_nil]

theorem unread_of_load_zero (done : group.load = 0) : group.unread crew = [] := by
  obtain ⟨⟨running, waiting⟩, queue⟩ : (group.running.length = 0 ∧ group.waiting.length = 0) ∧
      group.queue.length = 0 := by
    simpa [load, and_assoc] using done
  simp [unread, List.eq_nil_of_length_eq_zero running, List.eq_nil_of_length_eq_zero waiting,
    List.eq_nil_of_length_eq_zero queue]

theorem finish_of_not_mem (ended : report.ordinal ∉ group.running) :
    group.finish report = group :=
  if_neg ended

theorem finish_advanced (sound : group.Sound crew) (made : report ∈ crew.reports)
    (busy : report.ordinal ∈ group.running) : Advanced crew group (group.finish report) := by
  have split := List.perm_cons_erase busy
  have shorter : group.running.length = (group.running.erase report.ordinal).length + 1 := by
    simpa using split.length_eq
  have left : group.finish report =
      { group with running := group.running.erase report.ordinal
                   waiting := group.waiting ++ [report] } := if_pos busy
  have load : (group.finish report).load = group.load := by
    simp only [left, load, List.length_append, List.length_singleton]
    omega
  refine ⟨⟨?_, ?_, ?_⟩, ?_, load, ?_⟩
  · rw [left]
    exact sound.attended
  · rw [load, left]
    exact sound.room
  · rw [left]
    exact List.erase_sublist.trans sound.known
  · have taken := split.filterMap fun ordinal => crew.reports[ordinal]?
    rw [List.filterMap_cons_some (Crew.getElem?_ordinal made)] at taken
    simp only [left, unread, List.append_assoc, List.singleton_append]
    set others := (group.running.erase report.ordinal).filterMap fun ordinal => crew.reports[ordinal]?
    -- the report moves over the other running producers to the end of the line
    calc others ++ (group.waiting ++ report :: group.queue)
        ~ others ++ report :: (group.waiting ++ group.queue) :=
          List.Perm.append_left _ List.perm_middle
      _ ~ (report :: others) ++ (group.waiting ++ group.queue) := List.perm_middle
      _ ~ _ := taken.symm.append_right _
  · simp only [left, effort, List.length_append, List.length_singleton]
    omega

theorem pass_of_nil (idle : group.waiting = []) : group.pass = group := by
  simp [pass, idle]

theorem roomy {rest : List Report} (sound : group.Sound crew) (next : group.waiting = report :: rest) :
    group.queue.length < group.capacity := by
  have room := sound.room
  simp only [load, next, List.length_cons] at room
  omega

theorem pass_of_cons {rest : List Report} (sound : group.Sound crew)
    (next : group.waiting = report :: rest) :
    group.pass = { group with waiting := rest, queue := group.queue ++ [report] } := by
  simp [pass, next, sound.attended, roomy sound next]

theorem pass_advanced (sound : group.Sound crew) (busy : group.waiting ≠ []) :
    Advanced crew group group.pass := by
  obtain ⟨report, rest, next⟩ := List.exists_cons_of_ne_nil busy
  have passed := pass_of_cons sound next
  have load : group.pass.load = group.load := by
    simp only [passed, load, next, List.length_append, List.length_cons, List.length_nil]
    omega
  refine ⟨⟨?_, ?_, ?_⟩, ?_, load, ?_⟩
  · rw [passed]
    exact sound.attended
  · rw [load, passed]
    exact sound.room
  · rw [passed]
    exact sound.known
  · simp only [passed, unread, next]
    apply List.Perm.append_left
    rw [← List.append_assoc]
    exact List.perm_append_comm
  · simp only [passed, effort, next, List.length_append, List.length_cons, List.length_nil]
    omega

theorem take_eq_none_iff : group.take? = none ↔ group.queue = [] := by
  unfold take?
  cases group.queue <;> simp

theorem take_eq_some (taken : group.take? = some (report, after)) :
    group.queue = report :: after.queue ∧ after = { group with queue := after.queue } := by
  unfold take? at taken
  cases queued : group.queue with
  | nil => simp [queued] at taken
  | cons first rest =>
      simp only [queued, Option.some.injEq, Prod.mk.injEq] at taken
      obtain ⟨rfl, rfl⟩ := taken
      exact ⟨rfl, rfl⟩

theorem take_sound (sound : group.Sound crew) (taken : group.take? = some (report, after)) :
    after.Sound crew ∧ (report :: after.unread crew).Perm (group.unread crew) ∧
      after.load < group.load ∧ after.effort < group.effort := by
  obtain ⟨queued, rest⟩ := take_eq_some taken
  have smaller : group.queue.length = after.queue.length + 1 := by simp [queued]
  have running : after.running = group.running := by rw [rest]
  have waiting : after.waiting = group.waiting := by rw [rest]
  have capacity : after.capacity = group.capacity := by rw [rest]
  have load : after.load < group.load := by
    simp only [Group.load, running, waiting]
    omega
  refine ⟨⟨?_, ?_, ?_⟩, ?_, load, ?_⟩
  · rw [rest]
    exact sound.attended
  · rw [capacity]
    exact Nat.le_trans (Nat.le_of_lt load) sound.room
  · rw [running]
    exact sound.known
  · simp only [unread, running, waiting, queued]
    rw [← List.append_assoc, ← List.append_assoc]
    exact List.perm_middle.symm
  · simp only [effort, running, waiting]
    omega

theorem finish_pass (sound : group.Sound crew) (idle : group.waiting = [])
    (made : report ∈ crew.reports) : (group.finish report).pass.waiting = [] ∧
      (group.finish report).pass.running = group.running.erase report.ordinal := by
  by_cases busy : report.ordinal ∈ group.running
  · have finished := (finish_advanced sound made busy).sound
    have left : group.finish report =
        { group with running := group.running.erase report.ordinal
                     waiting := [report] } := by
      simp [finish, busy, idle]
    rw [pass_of_cons finished (by rw [left]), left]
    exact ⟨rfl, rfl⟩
  · rw [finish_of_not_mem busy, pass_of_nil idle]
    exact ⟨idle, (List.erase_of_not_mem busy).symm⟩

theorem load_of_finished (finished : group.isFinished = true) (taken : group.take? = none) :
    group.load = 0 := by
  simp only [isFinished, Bool.and_eq_true, List.isEmpty_iff] at finished
  simp [load, finished.1, finished.2, take_eq_none_iff.mp taken]

end Group

namespace Listeners

variable {listeners : Listeners} {leaver : Nat}

theorem replace_absent {others : List Nat} (last : Nat) (absent : leaver ∉ others) :
    (others.map fun place => if place = leaver then last else place) = others := by
  have kept : ∀ place ∈ others, (if place = leaver then last else place) = place := by
    intro place member
    apply if_neg
    rintro rfl
    exact absent member
  rw [List.map_congr_left kept, List.map_id']

theorem vacate_perm (distinct : listeners.Nodup) (member : leaver ∈ listeners) :
    leaver :: listeners.vacate leaver ~ listeners := by
  rcases List.eq_nil_or_concat listeners with rfl | ⟨others, last, rfl⟩
  · simp at member
  · rw [List.concat_eq_append] at distinct member ⊢
    have left : vacate (others ++ [last]) leaver =
        others.map fun place => if place = leaver then last else place := by
      simp [vacate]
    rw [left]
    have apart := (List.nodup_append.mp distinct).1
    by_cases here : leaver ∈ others
    · obtain ⟨before, after, rfl⟩ := List.append_of_mem here
      have absent := (List.nodup_middle.mp apart).notMem
      simp only [List.mem_append, not_or] at absent
      rw [List.map_append, List.map_cons, if_pos rfl, replace_absent last absent.1,
        replace_absent last absent.2]
      -- the last place moves to where the leaver was
      calc leaver :: (before ++ last :: after)
          ~ last :: leaver :: (before ++ after) := (List.perm_middle.cons _).trans (.swap _ _ _)
        _ ~ last :: (before ++ leaver :: after) := List.perm_middle.symm.cons _
        _ ~ (before ++ leaver :: after) ++ [last] := (List.perm_append_singleton _ _).symm
    · have same : leaver = last := by
        rcases List.mem_append.mp member with before | end'
        · exact absurd before here
        · exact List.mem_singleton.mp end'
      rw [replace_absent last here, same]
      exact (List.perm_append_singleton _ _).symm

theorem vacate_all_perm {leavers : List Nat} (distinct : listeners.Nodup)
    (leaving : leavers.Nodup) (among : ∀ leaver ∈ leavers, leaver ∈ listeners) :
    leavers ++ leavers.foldl vacate listeners ~ listeners := by
  -- on the leavers: those that are left after the first one are still distinct
  induction leavers generalizing listeners with
  | nil => exact .refl _
  | cons leaver rest induction =>
      obtain ⟨absent, others⟩ := List.nodup_cons.mp leaving
      obtain ⟨here, later⟩ := List.forall_mem_cons.mp among
      have without := vacate_perm distinct here
      have fewer := (without.nodup_iff.mpr distinct)
      rw [List.foldl_cons, List.cons_append]
      refine ((induction (List.nodup_cons.mp fewer).2 others ?_).cons leaver).trans without
      intro other member
      rcases List.mem_cons.mp (without.mem_iff.mpr (later other member)) with rfl | kept
      · exact absurd member absent
      · exact kept

theorem called_perm (listeners : Listeners) : listeners.called ~ listeners := by
  rcases List.eq_nil_or_concat listeners with rfl | ⟨others, last, rfl⟩
  · exact .refl _
  · simpa [called] using (List.perm_append_singleton last others).symm

end Listeners

namespace Report

variable {cancelAt : Option Nat} {producers : List Producer} {works : List Work}

theorem size_ofWorks (paired : producers.length = works.length) :
    (Crew.ofWorks cancelAt producers works).size = works.length := by
  simp [Crew.ofWorks, Crew.ofEndings, Crew.size, paired]

theorem map_item_timed {reports : List Report} (paired : reports.length = works.length) :
    ((timed cancelAt works reports).map Prod.snd).map Timed.item = reports := by
  rw [timed, List.map_map, List.map_map]
  exact List.map_snd_zip (Nat.le_of_eq paired)

theorem getElem?_of_numbered {reports : List (Timed Report)}
    (numbered : reports.map (fun report => report.item.ordinal) = List.range reports.length) :
    ∀ report ∈ reports, reports[report.item.ordinal]? = some report := by
  intro report member
  obtain ⟨place, found⟩ := List.mem_iff_getElem?.mp member
  obtain ⟨bound, _⟩ := List.getElem?_eq_some_iff.mp found
  have here : some report.item.ordinal = some place := by
    have looked := congrArg (·[place]?) numbered
    rwa [List.getElem?_map, found, List.getElem?_range bound] at looked
  rw [Option.some.inj here]
  exact found

/-- Those whose work has ended leave the listeners, and who is left reports when called. -/
theorem called_after_ended {reports ended : List (Timed Report)}
    (numbered : reports.map (fun report => report.item.ordinal) = List.range reports.length)
    (listed : ended.Sublist reports) :
    ended ++ (((Timed.inOrder ended).map fun report => report.item.ordinal).foldl Listeners.vacate
      (List.range reports.length)).called.filterMap (fun place => reports[place]?) ~ reports := by
  set leavers := (Timed.inOrder ended).map fun report => report.item.ordinal
  set listeners := leavers.foldl Listeners.vacate (List.range reports.length)
  have leaving : leavers ~ ended.map fun report => report.item.ordinal :=
    (Timed.inOrder_perm ended).map _
  have among : (ended.map fun report => report.item.ordinal).Sublist (List.range reports.length) :=
    numbered ▸ listed.map _
  have split : leavers ++ listeners ~ List.range reports.length := by
    apply Listeners.vacate_all_perm List.nodup_range
    · exact leaving.nodup_iff.mpr (among.nodup List.nodup_range)
    · exact fun leaver member => among.subset (leaving.mem_iff.mp member)
  have found : ∀ report ∈ ended, reports[report.item.ordinal]? = some report :=
    fun report member => getElem?_of_numbered numbered report (listed.subset member)
  have back : leavers.filterMap (fun place => reports[place]?) ~ ended := by
    calc leavers.filterMap (fun place => reports[place]?)
        ~ (ended.map fun report => report.item.ordinal).filterMap (fun place => reports[place]?) :=
          leaving.filterMap _
      _ = ended.filterMap fun report => reports[report.item.ordinal]? := List.filterMap_map
      _ = ended.filterMap some := List.filterMap_congr found
      _ = ended := List.filterMap_some
  calc ended ++ listeners.called.filterMap (fun place => reports[place]?)
      ~ leavers.filterMap (fun place => reports[place]?) ++
          listeners.filterMap (fun place => reports[place]?) :=
        back.symm.append ((Listeners.called_perm listeners).filterMap _)
    _ = (leavers ++ listeners).filterMap (fun place => reports[place]?) :=
        List.filterMap_append.symm
    _ ~ (List.range reports.length).filterMap (fun place => reports[place]?) := split.filterMap _
    _ = reports := filterMap_range reports

/-- Every producer reports once. -/
theorem ofWorks_perm (paired : producers.length = works.length) :
    (ofWorks cancelAt producers works).map Timed.item ~
      (Crew.ofWorks cancelAt producers works).reports := by
  set crew := Crew.ofWorks cancelAt producers works with crewed
  have count : crew.reports.length = works.length := by
    rw [Crew.length_reports, crewed, size_ofWorks paired]
  obtain ⟨entries, made⟩ : ∃ entries, entries = timed cancelAt works crew.reports := ⟨_, rfl⟩
  obtain ⟨reports, kept⟩ : ∃ reports, reports = entries.map Prod.snd := ⟨_, rfl⟩
  have items : reports.map Timed.item = crew.reports := by
    rw [kept, made]
    exact map_item_timed count
  have total : reports.length = works.length := by
    rw [← count, ← items, List.length_map]
  have numbered : reports.map (fun report => report.item.ordinal) = List.range reports.length := by
    calc reports.map (fun report => report.item.ordinal)
        = (reports.map Timed.item).map Report.ordinal := (List.map_map ..).symm
      _ = List.range reports.length := by rw [items, Crew.ordinals, ← Crew.length_reports, count, total]
  have listed : ((entries.filter fun report => !report.1).map Prod.snd).Sublist reports :=
    kept ▸ List.filter_sublist.map Prod.snd
  have looked : (fun place : Nat => reports[place]?) =
      fun place => (entries[place]?).map Prod.snd := by
    funext place
    rw [kept]
    exact List.getElem?_map ..
  have all := called_after_ended numbered listed
  rw [total, looked, made] at all
  exact items ▸ all.map Timed.item

end Report

end Gateway
