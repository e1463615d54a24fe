import Gateway.Proofs.Evaluation
import Gateway.SideRequest
import Mathlib.Data.List.Infix

/-!
What a template can read. Every expression of a template stands in its text, so that a template
whose text does not speak of the body renders to the same whatever the body is, and so does
everything that is made of such templates.
-/

namespace Gateway

namespace Text

theorem occurs_iff {needle text : List Char} : occurs needle text = true ↔ needle <:+: text := by
  induction text with
  | nil => simp [occurs]
  | cons c rest induction =>
      rw [occurs, Bool.or_eq_true, List.isPrefixOf_iff_prefix, induction, List.infix_cons_iff]

theorem contains_iff {text needle : String} :
    contains text needle = true ↔ needle.toList <:+: text.toList :=
  occurs_iff

theorem trimChars_within (chars : List Char) : trimChars chars <:+: chars := by
  have start : chars.dropWhile isBlank <:+ chars := List.dropWhile_suffix _
  have stop : dropBlankEnd (chars.dropWhile isBlank) <+: chars.dropWhile isBlank := by
    have reversed := List.dropWhile_suffix isBlank (l := (chars.dropWhile isBlank).reverse)
    simpa [dropBlankEnd] using List.reverse_prefix.mpr reversed
  exact stop.isInfix.trans start.isInfix

theorem trim_within (text : String) : (trim text).toList <:+: text.toList := by
  simpa [trim] using trimChars_within text.toList

end Text

namespace Template

theorem splitOpening_suffix {chars rest : List Char}
    (found : (splitOpening chars).2 = some rest) : rest <:+ chars := by
  fun_induction splitOpening chars with
  | case1 => simp at found
  | case2 => simp at found
  | case3 c next tail _ =>
      rw [← Option.some.inj found]
      exact ⟨[c, next], rfl⟩
  | case4 c next tail _ split induction => exact (induction found).trans (List.suffix_cons ..)

theorem expression_within {chars : List Char} {name : String}
    (member : .expression name ∈ segments chars) : name.toList <:+: chars := by
  fun_induction segments chars with
  | case1 chars literal _ => simp at member
  | case2 => simp at member
  | case3 chars literal rest found inner close after ended induction =>
      have opened : rest <:+ chars := splitOpening_suffix (congrArg Prod.snd found)
      simp only [List.mem_cons, reduceCtorEq, Segment.expression.injEq, false_or] at member
      rcases member with rfl | later
      · have inside : inner <+: rest := List.takeWhile_prefix _
        have trimmed := Text.trim_within (String.ofList inner)
        rw [String.toList_ofList] at trimmed
        exact trimmed.trans (inside.isInfix.trans opened.isInfix)
      · have closed : after <:+ rest := by
          have dropped := List.dropWhile_suffix (fun c => !isClosing c) (l := rest)
          rw [ended] at dropped
          exact (List.suffix_cons ..).trans dropped
        exact (induction later).trans (closed.trans opened).isInfix

/-- Rendering asks for nothing but the values of the expressions that stand in the template. -/
theorem render_congr {Error : Type} {left right : String → Except Error String} {unclosed : Error}
    {template : String}
    (same : ∀ name : String, name.toList <:+: template.toList → left name = right name) :
    render left unclosed template = render right unclosed template := by
  have cut : ∀ name, .expression name ∈ parse template → left name = right name :=
    fun name member => same name (expression_within member)
  unfold render
  generalize parse template = segments at cut
  congr 1
  induction segments with
  | nil => rfl
  | cons segment rest induction =>
      have later := induction fun name member => cut name (List.mem_cons_of_mem _ member)
      cases segment with
      | literal text => simp only [renderSegments, later]
      | expression name => simp only [renderSegments, later, cut name List.mem_cons_self]
      | unclosed => rfl

end Template

theorem dot_cases (chars : List Char) : chars.dropWhile (· ≠ '.') = [] ∨
    chars = chars.takeWhile (· ≠ '.') ++ '.' :: (chars.dropWhile (· ≠ '.')).drop 1 := by
  induction chars with
  | nil => exact .inl rfl
  | cons c rest induction =>
      by_cases dot : c = '.'
      · simp [dot]
      · simpa [dot] using induction

theorem splitDot_cases (path : String) :
    (splitDot path).2 = "" ∨
      path.toList = (splitDot path).1.toList ++ '.' :: (splitDot path).2.toList := by
  rcases dot_cases path.toList with none | whole
  · left
    simp only [splitDot, none]
    rfl
  · right
    simpa only [splitDot, String.toList_ofList] using whole

namespace RequestView

def withoutBody (view : RequestView) : RequestView := { view with body := none }

theorem value_withoutBody {view : RequestView} {path : String}
    (text : (splitDot path).1 ≠ "body") (json : (splitDot path).1 ≠ "json_body") :
    view.withoutBody.value path = view.value path := by
  simp [value, text, json, withoutBody]

end RequestView

namespace Scope

def withoutBody (scope : Scope) : Scope := { scope with request := scope.request.withoutBody }

theorem name_of_path {name part : String} (part_ne : part ≠ "")
    (root : (splitDot name).1 = "request") (head : (splitDot (splitDot name).2).1 = part) :
    "request.".toList ++ part.toList <:+: name.toList := by
  rcases splitDot_cases name with none | whole
  · rw [none] at head
    exact absurd head.symm part_ne
  · rw [root] at whole
    have start : part.toList <+: (splitDot name).2.toList := by
      rw [← head]
      simp only [splitDot, String.toList_ofList]
      exact List.takeWhile_prefix _
    rw [whole]
    obtain ⟨rest, split⟩ := start
    exact ⟨[], rest, by simp [← split]⟩

theorem value_withoutBody {scope : Scope} {name : String}
    (text : ¬"request.body".toList <:+: name.toList)
    (json : ¬"request.json_body".toList <:+: name.toList) :
    scope.withoutBody.value name = scope.value name := by
  unfold value
  dsimp only
  by_cases root : (splitDot name).1 = "request"
  · rw [if_pos root, if_pos root]
    apply RequestView.value_withoutBody
    · exact fun head => text (name_of_path (by decide) root head)
    · exact fun head => json (name_of_path (by decide) root head)
  · rw [if_neg root, if_neg root]
    rfl

theorem value_of_blind {scope : Scope} {template name : String}
    (blind : referencesBody template = false) (within : name.toList <:+: template.toList) :
    scope.withoutBody.value name = scope.value name := by
  rw [referencesBody, Bool.or_eq_false_iff] at blind
  obtain ⟨text, json⟩ := blind
  rw [← Bool.not_eq_true, Text.contains_iff] at text json
  apply value_withoutBody
  · exact fun named => text (named.trans within)
  · exact fun named => json (named.trans within)

theorem render_withoutBody {scope : Scope} {template : String}
    (blind : referencesBody template = false) :
    scope.withoutBody.render template = scope.render template :=
  Template.render_congr fun _ within => value_of_blind blind within

/-- Two scopes under which templates render alike. -/
def Agree (left right : Scope) (templates : List String) : Prop :=
  ∀ template ∈ templates, left.render template = right.render template

theorem agree_withoutBody (scope : Scope) {templates : List String}
    (blind : templates.any referencesBody = false) :
    Agree scope.withoutBody scope templates := by
  intro template member
  apply render_withoutBody
  simpa using List.any_eq_false.mp blind template member

theorem agree_of_apart {left right : Scope} {templates : List String}
    (apart : left.withoutBody = right.withoutBody) (blind : templates.any referencesBody = false) :
    Agree left right templates := by
  intro template member
  rw [← agree_withoutBody left blind template member, apart,
    agree_withoutBody right blind template member]

theorem Agree.mono {left right : Scope} {some all : List String} (agree : Agree left right all)
    (among : some ⊆ all) : Agree left right some :=
  fun template member => agree template (among member)

end Scope

namespace HeaderChange

variable {left right : Scope}

def templates : HeaderChange → List String
  | remove _ => []
  | set _ template => [template]
  | add _ template => [template]

theorem resolve_congr (name : String) {template : String}
    (same : left.render template = right.render template) :
    resolve left name template = resolve right name template := by
  unfold resolve
  rw [same]

theorem apply_congr {change : HeaderChange} (agree : left.Agree right change.templates)
    (headers : HeaderMap) : change.apply left headers = change.apply right headers := by
  cases change with
  | remove name => rfl
  | set name template => simp only [apply, resolve_congr name (agree template List.mem_cons_self)]
  | add name template => simp only [apply, resolve_congr name (agree template List.mem_cons_self)]

theorem applyAll_congr {changes : List HeaderChange}
    (agree : left.Agree right (changes.flatMap templates)) (headers : HeaderMap) :
    applyAll left headers changes = applyAll right headers changes := by
  induction changes generalizing headers with
  | nil => rfl
  | cons change rest induction =>
      rw [List.flatMap_cons] at agree
      have first := apply_congr (agree.mono (List.subset_append_left ..)) headers
      have later := induction (agree.mono (List.subset_append_right ..))
      unfold applyAll
      rw [first]
      split
      · exact later _
      · rfl

end HeaderChange

namespace HeaderPolicy

theorem templates_changes (policy : HeaderPolicy) :
    policy.changes.flatMap HeaderChange.templates = policy.templates := by
  simp [changes, templates, List.flatMap_map, HeaderChange.templates, ← List.map_eq_flatMap]

theorem apply_congr {policy : HeaderPolicy} {left right : Scope}
    (agree : left.Agree right policy.templates) (headers : HeaderMap) :
    policy.apply left headers = policy.apply right headers :=
  HeaderChange.applyAll_congr (policy.templates_changes ▸ agree) headers

end HeaderPolicy

section

variable {left right : Scope}

theorem renderHeaders_congr {fields : List (String × String)}
    (agree : left.Agree right (fields.map Prod.snd)) (headers : HeaderMap) :
    renderHeaders left headers fields = renderHeaders right headers fields := by
  induction fields generalizing headers with
  | nil => rfl
  | cons field rest induction =>
      have first := HeaderChange.resolve_congr field.1 (agree field.2 (by simp))
      have later := induction (agree.mono (by simp))
      simp only [renderHeaders, first, later]

theorem SideRequest.renderBody_congr {template? : Option String}
    (agree : left.Agree right template?.toList) :
    renderBody left template? = renderBody right template? := by
  cases template? with
  | none => rfl
  | some template => simp only [renderBody, agree template (by simp)]

theorem Policy.recordFields_congr {fields : List (String × String)}
    (agree : left.Agree right (fields.map Prod.snd)) (log : LogFields) :
    recordFields left log fields = recordFields right log fields := by
  induction fields generalizing log with
  | nil => rfl
  | cons field rest induction =>
      have later := induction (agree.mono (by simp))
      unfold recordFields
      rw [agree field.2 (by simp)]
      split
      · exact later _
      · rfl

end

section

variable {environment : Environment} {left right : RequestView}

theorem Redirect.toResponse_congr {redirect : Redirect}
    (agree : (Scope.ofRequest environment left).Agree (.ofRequest environment right)
      (redirect.url :: redirect.headers.map Prod.snd)) :
    redirect.toResponse environment left = redirect.toResponse environment right := by
  have location := agree redirect.url List.mem_cons_self
  have headers := renderHeaders_congr (agree.mono (List.subset_cons_self ..))
  unfold toResponse
  dsimp only
  simp only [location, headers]

theorem StaticResponse.toResponse_congr {answer : StaticResponse}
    (agree : (Scope.ofRequest environment left).Agree (.ofRequest environment right)
      (answer.body.toList ++ answer.headers.map Prod.snd)) :
    answer.toResponse environment left = answer.toResponse environment right := by
  have headers := renderHeaders_congr (agree.mono (List.subset_append_right ..))
  rw [toResponse_eq, toResponse_eq, headers]
  cases body : answer.body with
  | none => rfl
  | some template =>
      have rendered := agree template (by simp [body])
      simp only [rendered]

theorem Redirect.toResponse_apart {redirect : Redirect} (blind : redirect.mustBuffer = false)
    (apart : left.withoutBody = right.withoutBody) :
    redirect.toResponse environment left = redirect.toResponse environment right := by
  have templates : (redirect.url :: redirect.headers.map Prod.snd).any referencesBody = false :=
    blind
  apply toResponse_congr
  exact Scope.agree_of_apart (congrArg (Scope.ofRequest environment) apart) templates

theorem StaticResponse.toResponse_apart {answer : StaticResponse}
    (blind : answer.mustBuffer = false) (apart : left.withoutBody = right.withoutBody) :
    answer.toResponse environment left = answer.toResponse environment right := by
  have templates :
      (answer.body.toList ++ answer.headers.map Prod.snd).any referencesBody = false := by
    rw [← blind, mustBuffer, List.any_append]
    cases answer.body <;> simp
  apply toResponse_congr
  exact Scope.agree_of_apart (congrArg (Scope.ofRequest environment) apart) templates

end

end Gateway
