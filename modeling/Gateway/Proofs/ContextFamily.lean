import Gateway.ContextFamily
import Gateway.Proofs.Maps
import Mathlib.Data.List.Basic

/-!
What contexts of one family share and what each has to itself. The history of a family says who came
from whom, which contexts were cancelled and what was logged, and knows of no tokens and no logs. A
context is cancelled exactly if the history has a cancel of a context with its token or one above;
every context shows all that was logged; and a field that is set shows in no other context.
-/

namespace Gateway

inductive Birth where
  | start
  | child (parent : Nat)
  | clone (original : Nat)
  deriving DecidableEq, Repr

def ContextFamily.Step.place : ContextFamily.Step → Nat
  | .look => 0
  | .child of _ => of
  | .clone of => of
  | .log place _ _ => place
  | .cancel place => place
  | .set place _ => place

/-- What was done to a family: the births of its members in their order, the members that were
cancelled, and the fields that were logged. -/
structure History where
  births : List Birth
  hits : List Nat
  entries : List (String × String)

namespace History

def start : History := ⟨[.start], [], []⟩

def add (history : History) : ContextFamily.Step → History
  | .look => history
  | .child of _ => { history with births := history.births ++ [.child of] }
  | .clone of => { history with births := history.births ++ [.clone of] }
  | .log _ key value => { history with entries := history.entries ++ [(key, value)] }
  | .cancel place => { history with hits := place :: history.hits }
  | .set _ _ => history

/-- A step on a context that does not exist leaves no trace. -/
def note (history : History) (step : ContextFamily.Step) : History :=
  if step.place < history.births.length then history.add step else history

def ofSteps (steps : List ContextFamily.Step) : History := steps.foldl note start

end History

/-- A member has a token. Tokens go by the member that was born with them: a clone has the token of
its original. -/
inductive Holds (births : List Birth) : Nat → Nat → Prop where
  | start {member : Nat} (born : births[member]? = some .start) : Holds births member member
  | child {member parent : Nat} (born : births[member]? = some (.child parent)) :
      Holds births member member
  | clone {member original own : Nat} (born : births[member]? = some (.clone original))
      (shared : Holds births original own) : Holds births member own

theorem Holds.born {births : List Birth} {member own : Nat} (holds : Holds births member own) :
    births[own]? = some .start ∨ ∃ parent, births[own]? = some (.child parent) := by
  induction holds with
  | start born => exact .inl born
  | child born => exact .inr ⟨_, born⟩
  | clone _ _ induction => exact induction

/-- A token is `outer` or below it: that of a child is below the one of its parent. -/
inductive Within (births : List Birth) (outer : Nat) : Nat → Prop where
  | self : Within births outer outer
  | deeper {inner parent middle : Nat} (born : births[inner]? = some (.child parent))
      (held : Holds births parent middle) (up : Within births outer middle) :
      Within births outer inner

def History.Cancels (history : History) (member : Nat) : Prop :=
  ∃ own above, Holds history.births member own ∧ Within history.births above own ∧
    ∃ hit ∈ history.hits, Holds history.births hit above

theorem getElem?_concat_eq_some {Item : Type} {items : List Item} {last item : Item} {place : Nat} :
    (items ++ [last])[place]? = some item ↔
      items[place]? = some item ∨ place = items.length ∧ last = item := by
  rw [List.getElem?_append]
  split
  · rename_i before
    simp [Nat.ne_of_lt before]
  · rename_i outside
    rw [List.getElem?_eq_none (Nat.not_lt.mp outside), List.getElem?_singleton]
    by_cases behind : place = items.length
    · simp [behind]
    · simp [behind, show ¬place - items.length = 0 by omega]

theorem map_modify_of_kept {Item Seen : Type} (see : Item → Seen) (change : Item → Item)
    (kept : ∀ item, see (change item) = see item) (items : List Item) (place : Nat) :
    (items.modify place change).map see = items.map see := by
  apply List.ext_getElem?
  intro other
  rw [List.getElem?_map, List.getElem?_map, List.getElem?_modify]
  by_cases here : place = other
  · cases items[other]? <;> simp [here, kept]
  · simp [here]

/-- Tokens fit the births: a child has that of its parent with a label in front, and the labels
ascend. -/
structure Lineage (base : Token) (births : List Birth) (tokens : List Token) (labels : Nat) :
    Prop where
  size : tokens.length = births.length
  start {member : Nat} : births[member]? = some .start → member = 0 ∧ tokens[member]? = some base
  child {member parent : Nat} : births[member]? = some (.child parent) →
    parent < member ∧ ∃ label above, label < labels ∧ tokens[parent]? = some above ∧
      tokens[member]? = some (label :: above)
  clone {member original : Nat} : births[member]? = some (.clone original) →
    original < member ∧ ∃ token, tokens[original]? = some token ∧ tokens[member]? = some token
  deep {member : Nat} {token : Token} : tokens[member]? = some token → base.length ≤ token.length
  ascending {first second parent other : Nat} {lower upper : Token} :
    births[first]? = some (.child parent) → births[second]? = some (.child other) →
    tokens[first]? = some lower → tokens[second]? = some upper → first < second →
    lower.headI < upper.headI

namespace Lineage

variable {base : Token} {births : List Birth} {tokens : List Token} {labels : Nat}

theorem of_start (base : Token) : Lineage base [.start] [base] 0 where
  size := rfl
  start := by
    intro member born
    obtain rfl : member = 0 := by simpa [List.getElem?_singleton] using born
    exact ⟨rfl, rfl⟩
  child := by
    intro member parent born
    simp [List.getElem?_singleton] at born
  clone := by
    intro member original born
    simp [List.getElem?_singleton] at born
  deep := by
    intro member token found
    obtain ⟨_, rfl⟩ : member = 0 ∧ base = token := by
      simpa [List.getElem?_singleton] using found
    exact le_rfl
  ascending := by
    intro first second parent other lower upper born
    simp [List.getElem?_singleton] at born

theorem place_lt (lineage : Lineage base births tokens labels) {place : Nat} {token : Token}
    (found : tokens[place]? = some token) : place < births.length := by
  rw [← lineage.size]
  exact (List.getElem?_eq_some_iff.mp found).1

theorem push (lineage : Lineage base births tokens labels) {birth : Birth} {token : Token}
    {more : Nat} (grows : labels ≤ more) (fresh : birth ≠ .start)
    (child : ∀ parent, birth = .child parent → ∃ above, tokens[parent]? = some above ∧
      token = labels :: above ∧ labels < more)
    (clone : ∀ original, birth = .clone original → tokens[original]? = some token) :
    Lineage base (births ++ [birth]) (tokens ++ [token]) more := by
  have kept {place : Nat} {known : Token} (found : tokens[place]? = some known) :
      (tokens ++ [token])[place]? = some known :=
    getElem?_concat_eq_some.mpr (.inl found)
  have last : (tokens ++ [token])[births.length]? = some token :=
    getElem?_concat_eq_some.mpr (.inr ⟨lineage.size.symm, rfl⟩)
  refine ⟨by simp [lineage.size], ?_, ?_, ?_, ?_, ?_⟩
  · intro member born
    rcases getElem?_concat_eq_some.mp born with old | ⟨_, new⟩
    · obtain ⟨first, found⟩ := lineage.start old
      exact ⟨first, kept found⟩
    · exact absurd new fresh
  · intro member parent born
    rcases getElem?_concat_eq_some.mp born with old | ⟨rfl, rfl⟩
    · obtain ⟨before, label, above, used, higher, found⟩ := lineage.child old
      exact ⟨before, label, above, used.trans_le grows, kept higher, kept found⟩
    · obtain ⟨above, higher, rfl, used⟩ := child parent rfl
      exact ⟨lineage.place_lt higher, labels, above, used, kept higher, last⟩
  · intro member original born
    rcases getElem?_concat_eq_some.mp born with old | ⟨rfl, rfl⟩
    · obtain ⟨before, shared, source, found⟩ := lineage.clone old
      exact ⟨before, shared, kept source, kept found⟩
    · have source := clone original rfl
      exact ⟨lineage.place_lt source, token, kept source, last⟩
  · intro member known found
    rcases getElem?_concat_eq_some.mp found with old | ⟨_, rfl⟩
    · exact lineage.deep old
    · cases birth with
      | start => exact absurd rfl fresh
      | child parent =>
          obtain ⟨above, higher, rfl, _⟩ := child parent rfl
          exact (lineage.deep higher).trans (Nat.le_succ _)
      | clone original => exact lineage.deep (clone original rfl)
  · intro first second parent other lower upper born next low high before
    have unchanged {place origin : Nat} {known : Token}
        (old : births[place]? = some (.child origin))
        (found : (tokens ++ [token])[place]? = some known) : tokens[place]? = some known := by
      obtain ⟨_, label, above, _, _, there⟩ := lineage.child old
      exact there.trans ((kept there).symm.trans found)
    rcases getElem?_concat_eq_some.mp next with later | ⟨rfl, rfl⟩
    · rcases getElem?_concat_eq_some.mp born with old | ⟨rfl, _⟩
      · exact lineage.ascending old later (unchanged old low) (unchanged later high) before
      · have inside := (List.getElem?_eq_some_iff.mp later).1
        omega
    · rcases getElem?_concat_eq_some.mp born with old | ⟨rfl, _⟩
      · obtain ⟨_, label, above, used, _, found⟩ := lineage.child old
        obtain ⟨_, _, rfl, _⟩ := child other rfl
        obtain rfl := Option.some.inj (found.symm.trans (unchanged old low))
        obtain rfl := Option.some.inj (last.symm.trans high)
        exact used
      · exact absurd before (Nat.lt_irrefl _)

theorem mono (lineage : Lineage base births tokens labels) {more : Nat} (grows : labels ≤ more) :
    Lineage base births tokens more :=
  { lineage with
    child := fun born => by
      obtain ⟨before, label, above, used, higher, found⟩ := lineage.child born
      exact ⟨before, label, above, used.trans_le grows, higher, found⟩ }

variable {member own : Nat} {token : Token}

theorem exists_holds (lineage : Lineage base births tokens labels) (there : member < births.length) :
    ∃ own, Holds births member own := by
  induction member using Nat.strong_induction_on with
  | _ member induction =>
      obtain ⟨birth, born⟩ : ∃ birth, births[member]? = some birth :=
        ⟨_, List.getElem?_eq_getElem there⟩
      cases birth with
      | start => exact ⟨member, .start born⟩
      | child parent => exact ⟨member, .child born⟩
      | clone original =>
          have before := (lineage.clone born).1
          obtain ⟨own, shared⟩ := induction original before (before.trans there)
          exact ⟨own, .clone born shared⟩

theorem holds_token (lineage : Lineage base births tokens labels) (holds : Holds births member own) :
    own ≤ member ∧ tokens[member]? = tokens[own]? := by
  induction holds with
  | start _ => exact ⟨le_rfl, rfl⟩
  | child _ => exact ⟨le_rfl, rfl⟩
  | clone born _ induction =>
      obtain ⟨before, token, source, found⟩ := lineage.clone born
      exact ⟨induction.1.trans before.le, (found.trans source.symm).trans induction.2⟩

theorem child_deeper (lineage : Lineage base births tokens labels) {parent : Nat}
    (born : births[member]? = some (.child parent)) (found : tokens[member]? = some token) :
    base.length < token.length := by
  obtain ⟨_, label, above, _, higher, there⟩ := lineage.child born
  obtain rfl := Option.some.inj (there.symm.trans found)
  exact Nat.lt_succ_of_le (lineage.deep higher)

theorem owner_unique (lineage : Lineage base births tokens labels) {other first second : Nat}
    (left : Holds births member first) (right : Holds births other second)
    (low : tokens[first]? = some token) (high : tokens[second]? = some token) : first = second := by
  rcases left.born with starts | ⟨parent, born⟩
  · obtain ⟨rfl, base_there⟩ := lineage.start starts
    rcases right.born with begun | ⟨origin, later⟩
    · exact (lineage.start begun).1.symm
    · have deeper := lineage.child_deeper later high
      obtain rfl := Option.some.inj (base_there.symm.trans low)
      exact absurd deeper (Nat.lt_irrefl _)
  · rcases right.born with begun | ⟨origin, later⟩
    · have deeper := lineage.child_deeper born low
      obtain rfl := Option.some.inj ((lineage.start begun).2.symm.trans high)
      exact absurd deeper (Nat.lt_irrefl _)
    · rcases Nat.lt_trichotomy first second with before | same | behind
      · exact absurd (lineage.ascending born later low high before) (Nat.lt_irrefl _)
      · exact same
      · exact absurd (lineage.ascending later born high low behind) (Nat.lt_irrefl _)

theorem within_token (lineage : Lineage base births tokens labels) {outer inner : Nat}
    (within : Within births outer inner) {high low : Token} (above : tokens[outer]? = some high)
    (below : tokens[inner]? = some low) : high <:+ low := by
  induction within generalizing low with
  | self =>
      obtain rfl := Option.some.inj (above.symm.trans below)
      exact List.suffix_rfl
  | deeper born held _ induction =>
      obtain ⟨_, label, middle, _, higher, there⟩ := lineage.child born
      obtain rfl := Option.some.inj (there.symm.trans below)
      have shared := (lineage.holds_token held).2
      exact (induction (shared.symm.trans higher)).trans (List.suffix_cons label middle)

theorem within_of_suffix (lineage : Lineage base births tokens labels) {other outer inner : Nat}
    (lower : Holds births member inner) (upper : Holds births other outer) {high low : Token}
    (above : tokens[outer]? = some high) (below : tokens[inner]? = some low)
    (suffix : high <:+ low) : Within births outer inner := by
  induction inner using Nat.strong_induction_on generalizing member low with
  | _ inner induction =>
      by_cases same : high = low
      · subst same
        rw [lineage.owner_unique lower upper below above]
        exact .self
      · rcases lower.born with starts | ⟨parent, born⟩
        · -- above the first token there is none
          obtain rfl := Option.some.inj ((lineage.start starts).2.symm.trans below)
          have short := suffix.length_le
          have deep := lineage.deep above
          exact absurd (suffix.eq_of_length (Nat.le_antisymm short deep)) same
        · obtain ⟨before, label, middle, _, higher, there⟩ := lineage.child born
          obtain rfl := Option.some.inj (there.symm.trans below)
          have onward := (List.suffix_cons_iff.mp suffix).resolve_left same
          obtain ⟨own, held⟩ := lineage.exists_holds (lineage.place_lt higher)
          obtain ⟨earlier, shared⟩ := lineage.holds_token held
          have found := shared.symm.trans higher
          exact .deeper born held (induction own (earlier.trans_lt before) held found onward)

end Lineage

namespace ContextFamily

def run (family : ContextFamily) (steps : List Step) : ContextFamily := steps.foldl step family

def tokens (family : ContextFamily) : List Token := family.members.map Context.token

/-- A step on a context that does not exist does no more than use up a label. -/
theorem step_of_absent {family : ContextFamily} {step : Step}
    (absent : family.members[step.place]? = none) :
    ∃ births, family.births ≤ births ∧ family.step step = { family with births } := by
  cases step with
  | look => exact ⟨family.births, le_rfl, rfl⟩
  | child of name =>
      have missing : family.members[of]? = none := absent
      exact ⟨family.births + 1, Nat.le_succ _, by simp [step, derive, missing]⟩
  | clone of =>
      have missing : family.members[of]? = none := absent
      exact ⟨family.births, le_rfl, by simp [step, derive, missing]⟩
  | log place key value =>
      have missing : family.members[place]? = none := absent
      exact ⟨family.births, le_rfl, by simp [step, missing]⟩
  | cancel place =>
      have missing : family.members[place]? = none := absent
      exact ⟨family.births, le_rfl, by simp [step, missing]⟩
  | set place fields =>
      have outside : family.members.length ≤ place := List.getElem?_eq_none_iff.mp absent
      exact ⟨family.births, le_rfl, by simp [step, List.modify_eq_self outside]⟩

structure Follows (start : Context) (family : ContextFamily) (history : History) : Prop where
  lineage : Lineage start.token history.births family.tokens family.births
  cancelled : family.cancelled.map some = history.hits.map fun hit => family.tokens[hit]?
  oneLog : ∀ context ∈ family.members, context.log = start.log
  logged : family.logs.fields start.log = SortedMap.ofList history.entries

theorem follows_start (start : Context) : Follows start (ContextFamily.start start) .start where
  lineage := Lineage.of_start start.token
  cancelled := rfl
  oneLog := by simp [ContextFamily.start]
  logged := rfl

namespace Follows

variable {start context : Context} {family : ContextFamily} {history : History}

theorem exists_member_iff (follows : Follows start family history) {place : Nat} :
    place < history.births.length ↔ ∃ context, family.members[place]? = some context := by
  rw [← follows.lineage.size, tokens, List.length_map]
  simp [List.getElem?_eq_some_iff]

theorem token_of_member {place : Nat} (found : family.members[place]? = some context) :
    family.tokens[place]? = some context.token := by
  simp [tokens, found]

theorem token_of_hit (follows : Follows start family history) {hit : Nat}
    (member : hit ∈ history.hits) :
    ∃ token ∈ family.cancelled, family.tokens[hit]? = some token := by
  have listed : family.tokens[hit]? ∈ family.cancelled.map some := by
    rw [follows.cancelled]
    exact List.mem_map_of_mem member
  obtain ⟨token, cancelled, same⟩ := List.mem_map.mp listed
  exact ⟨token, cancelled, same.symm⟩

theorem hit_of_cancelled (follows : Follows start family history) {token : Token}
    (cancelled : token ∈ family.cancelled) :
    ∃ hit ∈ history.hits, family.tokens[hit]? = some token := by
  have listed : some token ∈ family.cancelled.map some := List.mem_map_of_mem cancelled
  rw [follows.cancelled] at listed
  exact List.mem_map.mp listed

theorem push (follows : Follows start family history) {birth : Birth} {labels : Nat}
    (lineage : Lineage start.token (history.births ++ [birth]) (family.tokens ++ [context.token])
      labels) (same : context.log = start.log) :
    Follows start { family with members := family.members ++ [context], births := labels }
      { history with births := history.births ++ [birth] } where
  lineage := by simpa [tokens] using lineage
  cancelled := by
    rw [follows.cancelled]
    apply List.map_congr_left
    intro hit member
    obtain ⟨token, _, found⟩ := follows.token_of_hit member
    have kept : (family.tokens ++ [context.token])[hit]? = some token :=
      getElem?_concat_eq_some.mpr (.inl found)
    simpa [tokens] using found.trans kept.symm
  oneLog := by
    intro member listed
    rcases List.mem_append.mp listed with old | new
    · exact follows.oneLog member old
    · exact List.mem_singleton.mp new ▸ same
  logged := follows.logged

theorem child (follows : Follows start family history) {of : Nat} (name : Option String)
    (found : family.members[of]? = some context) :
    Follows start (family.step (.child of name)) (history.add (.child of name)) := by
  have made : family.step (.child of name) =
      { family with
        members := family.members ++ [context.child name family.births]
        births := family.births + 1 } := by
    simp [step, derive, found]
  rw [made]
  apply follows.push
  · apply follows.lineage.push (Nat.le_succ _) (by simp)
    · intro parent same
      cases same
      exact ⟨context.token, token_of_member found, rfl, Nat.lt_succ_self _⟩
    · intro original different
      cases different
  · exact follows.oneLog context (List.mem_of_getElem? found)

theorem clone (follows : Follows start family history) {of : Nat}
    (found : family.members[of]? = some context) :
    Follows start (family.step (.clone of)) (history.add (.clone of)) := by
  have made : family.step (.clone of) =
      { family with members := family.members ++ [context] } := by
    simp [step, derive, found]
  rw [made]
  apply follows.push
  · apply follows.lineage.push le_rfl (by simp)
    · intro parent different
      cases different
    · intro original same
      cases same
      exact token_of_member found
  · exact follows.oneLog context (List.mem_of_getElem? found)

theorem log (follows : Follows start family history) {place : Nat} (key value : String)
    (found : family.members[place]? = some context) :
    Follows start (family.step (.log place key value)) (history.add (.log place key value)) := by
  have written : family.step (.log place key value) =
      { family with logs := family.logs.record context.log key value } := by
    simp [step, found]
  rw [written]
  refine ⟨follows.lineage, follows.cancelled, follows.oneLog, ?_⟩
  have same := follows.oneLog context (List.mem_of_getElem? found)
  rw [same, Logs.fields_record, if_pos rfl, follows.logged]
  simp [History.add, SortedMap.ofList]

theorem cancel (follows : Follows start family history) {place : Nat}
    (found : family.members[place]? = some context) :
    Follows start (family.step (.cancel place)) (history.add (.cancel place)) := by
  have hit : family.step (.cancel place) =
      { family with cancelled := context.token :: family.cancelled } := by
    simp [step, found]
  rw [hit]
  refine ⟨follows.lineage, ?_, follows.oneLog, follows.logged⟩
  have token := token_of_member found
  simp only [History.add, List.map_cons, follows.cancelled]
  exact congrArg (List.cons · _) token.symm

theorem set (follows : Follows start family history) (place : Nat) (fields : Fields) :
    Follows start (family.step (.set place fields)) history := by
  have tokens : (family.step (.set place fields)).tokens = family.tokens :=
    map_modify_of_kept Context.token fields.apply (fun _ => rfl) family.members place
  have logs : (family.step (.set place fields)).members.map Context.log =
      family.members.map Context.log :=
    map_modify_of_kept Context.log fields.apply (fun _ => rfl) family.members place
  refine ⟨?_, ?_, ?_, follows.logged⟩
  · rw [tokens]
    exact follows.lineage
  · rw [tokens]
    exact follows.cancelled
  · intro context member
    have listed := logs ▸ List.mem_map_of_mem member
    obtain ⟨old, there, same⟩ := List.mem_map.mp listed
    exact same ▸ follows.oneLog old there

theorem step (follows : Follows start family history) (step : Step) :
    Follows start (family.step step) (history.note step) := by
  unfold History.note
  split
  · rename_i there
    obtain ⟨context, found⟩ := follows.exists_member_iff.mp there
    cases step with
    | look => exact follows
    | child of name => exact follows.child name found
    | clone of => exact follows.clone found
    | log place key value => exact follows.log key value found
    | cancel place => exact follows.cancel found
    | set place fields => exact follows.set place fields
  · rename_i outside
    have absent : family.members[step.place]? = none := by
      rw [Option.eq_none_iff_forall_ne_some]
      intro context found
      exact outside (follows.exists_member_iff.mpr ⟨context, found⟩)
    obtain ⟨births, grows, idle⟩ := step_of_absent absent
    rw [idle]
    exact ⟨follows.lineage.mono grows, follows.cancelled, follows.oneLog, follows.logged⟩

theorem run (follows : Follows start family history) (steps : List Step) :
    Follows start (family.run steps) (steps.foldl History.note history) := by
  induction steps generalizing family history with
  | nil => exact follows
  | cons first rest induction => exact induction (follows.step first)

/-- The suffixes among tokens are the ancestors of the history. -/
theorem isCancelled_iff (follows : Follows start family history) {member : Nat}
    (found : family.members[member]? = some context) :
    family.isCancelled context = true ↔ history.Cancels member := by
  have lineage := follows.lineage
  have token := token_of_member found
  have there := follows.exists_member_iff.mpr ⟨context, found⟩
  obtain ⟨own, holds⟩ := lineage.exists_holds there
  have ownToken := (lineage.holds_token holds).2.symm.trans token
  rw [isCancelled, Token.isCancelled_iff]
  constructor
  · rintro ⟨cancelled, listed, suffix⟩
    obtain ⟨hit, noted, hitToken⟩ := follows.hit_of_cancelled listed
    obtain ⟨above, held⟩ := lineage.exists_holds (lineage.place_lt hitToken)
    have aboveToken := (lineage.holds_token held).2.symm.trans hitToken
    have within := lineage.within_of_suffix holds held aboveToken ownToken suffix
    exact ⟨own, above, holds, within, hit, noted, held⟩
  · rintro ⟨other, above, otherHolds, within, hit, noted, held⟩
    obtain ⟨cancelled, listed, hitToken⟩ := follows.token_of_hit noted
    have otherToken := (lineage.holds_token otherHolds).2.symm.trans token
    have aboveToken := (lineage.holds_token held).2.symm.trans hitToken
    exact ⟨cancelled, listed, lineage.within_token within aboveToken otherToken⟩

theorem logFields_eq (follows : Follows start family history) (member : context ∈ family.members) :
    family.logFields context = SortedMap.ofList history.entries := by
  rw [logFields, follows.oneLog context member, follows.logged]

end Follows

theorem members_prefix_step (family : ContextFamily) {step : Step}
    (other : ∀ place fields, step ≠ .set place fields) :
    family.members <+: (family.step step).members := by
  cases step with
  | look => exact List.prefix_rfl
  | child of name =>
      simp only [ContextFamily.step, derive]
      split
      · exact List.prefix_append _ _
      · exact List.prefix_rfl
  | clone of =>
      simp only [ContextFamily.step, derive]
      split
      · exact List.prefix_append _ _
      · exact List.prefix_rfl
  | log place key value =>
      simp only [ContextFamily.step]
      split <;> exact List.prefix_rfl
  | cancel place =>
      simp only [ContextFamily.step]
      split <;> exact List.prefix_rfl
  | set place fields => exact absurd rfl (other place fields)

/-- Contexts of one family share their cancellation and their log and nothing else. A context is
cancelled exactly if a cancel hit one whose token is its own or above it, before or after it was made.
All show the same fields, for each key the last value that one of them logged. A child starts with the
id and the buffered body of its parent, and without an error, an address and the state of an upgrade.
No step but setting its fields changes a context, and setting those of one is seen in no other. -/
theorem shares_token_and_log (start : Context) (steps : List Step) :
    let family := (ContextFamily.start start).run steps
    let history := History.ofSteps steps
    family.members.length = history.births.length ∧
    (∀ member context, family.members[member]? = some context →
      (family.isCancelled context = true ↔ history.Cancels member)) ∧
    (∀ context ∈ family.members, family.logFields context = family.log ∧
      ∀ key, SortedMap.get? (family.logFields context) key =
        (history.entries.reverse.find? fun entry => entry.1 = key).map Prod.snd) ∧
    (∀ of name parent, family.members[of]? = some parent → ∃ child,
      (family.step (.child of name)).members = family.members ++ [child] ∧
      child.requestId = parent.requestId ∧ child.roundTripName = name ∧
      child.bufferedBody = parent.bufferedBody ∧ child.error = none ∧ child.urlAttribute = none ∧
      child.allowWebsockets = false ∧ child.websocketsTimeout = none) ∧
    (∀ step, (∀ place fields, step ≠ .set place fields) →
      family.members <+: (family.step step).members) ∧
    (∀ place fields,
      let changed := family.step (.set place fields)
      changed.members[place]? = (family.members[place]?).map fields.apply ∧
      (∀ other, other ≠ place → changed.members[other]? = family.members[other]?) ∧
      ∀ context, changed.isCancelled context = family.isCancelled context ∧
        changed.logFields context = family.logFields context) := by
  intro family history
  have follows : Follows start family history := (follows_start start).run steps
  refine ⟨?_, ?_, ?_, ?_, ?_, ?_⟩
  · rw [← follows.lineage.size, tokens, List.length_map]
  · exact fun member context found => follows.isCancelled_iff found
  · intro context member
    have shown := follows.logFields_eq member
    constructor
    · rw [shown, log]
      split
      · rename_i none
        rw [none] at member
        cases member
      · rename_i first rest listed
        exact (follows.logFields_eq (listed ▸ List.mem_cons_self)).symm
    · intro key
      rw [shown, SortedMap.get?_ofList]
  · intro of name parent found
    refine ⟨parent.child name family.births, ?_, rfl, rfl, rfl, rfl, rfl, rfl, rfl⟩
    simp [step, derive, found]
  · exact fun step other => members_prefix_step family other
  · intro place fields changed
    refine ⟨?_, ?_, fun _ => ⟨rfl, rfl⟩⟩
    · simp [changed, step]
    · intro other apart
      simp [changed, step, Ne.symm apart]

end ContextFamily

end Gateway
