import Gateway.Answer

/-!
What can go wrong where templates are evaluated. Expressions, templates and the headers that are
rendered from them fail with an error of evaluation and with no other, configured answers also with
one of configuration. What succeeds has succeeded in all of its parts.
-/

namespace Gateway

section

variable {Failure Result Other : Type} {result : Except Failure Result} {value : Other}

theorem bind_eq_ok {next : Result → Except Failure Other} :
    result >>= next = .ok value ↔ ∃ first, result = .ok first ∧ next first = .ok value := by
  cases result with
  | ok first =>
      constructor
      · exact fun done => ⟨first, rfl, done⟩
      · rintro ⟨_, ⟨⟩, done⟩
        exact done
  | error error =>
      constructor
      · exact fun done => nomatch done
      · rintro ⟨_, ⟨⟩, _⟩

theorem map_eq_ok {change : Result → Other} :
    result.map change = .ok value ↔ ∃ first, result = .ok first ∧ change first = value := by
  cases result <;> simp [Except.map]

end

inductive GatewayError.OfPolicy : GatewayError → Prop where
  | configuration (message : String) : OfPolicy (.configuration message)
  | evaluation (message : String) : OfPolicy (.evaluation message)

/-- A result that is no failure other than one of configuration or evaluation. -/
def Evaluated {Result : Type} : Except GatewayError Result → Prop
  | .ok _ => True
  | .error error => error.OfPolicy

namespace Evaluated

variable {Result Other : Type} {result : Except GatewayError Result}

theorem ok (value : Result) : Evaluated (.ok value) := trivial

theorem configuration (message : String) :
    Evaluated (.error (.configuration message) : Except GatewayError Result) :=
  GatewayError.OfPolicy.configuration message

theorem evaluation (message : String) :
    Evaluated (.error (.evaluation message) : Except GatewayError Result) :=
  GatewayError.OfPolicy.evaluation message

theorem bind {next : Result → Except GatewayError Other} (first : Evaluated result)
    (second : ∀ value, Evaluated (next value)) : Evaluated (result >>= next) := by
  cases result with
  | ok value => exact second value
  | error error => exact first

theorem map {change : Result → Other} (first : Evaluated result) :
    Evaluated (result.map change) := by
  cases result with
  | ok value => trivial
  | error error => exact first

end Evaluated

def Rendered {Result : Type} : Except GatewayError Result → Prop
  | .ok _ => True
  | .error error => ∃ message, error = .evaluation message

namespace Rendered

variable {Result Other : Type} {result : Except GatewayError Result}

theorem ok (value : Result) : Rendered (.ok value) := trivial

theorem evaluation (message : String) :
    Rendered (.error (.evaluation message) : Except GatewayError Result) :=
  ⟨message, rfl⟩

theorem bind {next : Result → Except GatewayError Other} (first : Rendered result)
    (second : ∀ value, Rendered (next value)) : Rendered (result >>= next) := by
  cases result with
  | ok value => exact second value
  | error error => exact first

theorem map {change : Result → Other} (first : Rendered result) : Rendered (result.map change) := by
  cases result with
  | ok value => trivial
  | error error => exact first

theorem evaluated (rendered : Rendered result) : Evaluated result := by
  cases result with
  | ok value => trivial
  | error error =>
      obtain ⟨message, rfl⟩ := rendered
      exact .evaluation message

theorem failed (rendered : Rendered result) (never : ∀ value, result ≠ .ok value) :
    ∃ message, result = .error (.evaluation message) := by
  cases result with
  | ok value => exact absurd rfl (never value)
  | error error =>
      obtain ⟨message, rfl⟩ := rendered
      exact ⟨message, rfl⟩

end Rendered

theorem RequestView.value_rendered (view : RequestView) (path : String) :
    Rendered (view.value path) := by
  unfold RequestView.value
  repeat' split
  all_goals first | exact .ok _ | exact .evaluation _

theorem ResponseView.value_rendered (view : ResponseView) (path : String) :
    Rendered (view.value path) := by
  unfold ResponseView.value
  repeat' split
  all_goals first | exact .ok _ | exact .evaluation _

theorem Template.render_rendered {value : String → Except GatewayError String}
    (values : ∀ name, Rendered (value name)) {unclosed : GatewayError}
    (evaluation : ∃ message, unclosed = .evaluation message) (template : String) :
    Rendered (render value unclosed template) := by
  suffices rendered : ∀ segments, Rendered (renderSegments value unclosed segments) from
    (rendered _).map
  intro segments
  induction segments with
  | nil => exact .ok _
  | cons segment rest induction =>
      cases segment with
      | literal text => exact induction.map
      | expression name => exact (values name).bind fun _ => induction.map
      | unclosed => exact evaluation

namespace Scope

theorem value_rendered (scope : Scope) (name : String) : Rendered (scope.value name) := by
  unfold value
  obtain ⟨root, path⟩ := splitDot name
  by_cases request : root = "request"
  · simp only [if_pos request]
    exact scope.request.value_rendered path
  · simp only [if_neg request]
    split
    · split
      · exact ResponseView.value_rendered _ path
      · exact .evaluation _
    · split
      · exact .ok _
      · exact .evaluation _

theorem render_rendered (scope : Scope) (template : String) :
    Rendered (scope.render template) :=
  Template.render_rendered scope.value_rendered ⟨_, rfl⟩ template

end Scope

theorem headerName_rendered (name : String) : Rendered (headerName name) := by
  unfold headerName
  split
  · exact .ok _
  · exact .evaluation _

theorem headerValue_rendered (name value : String) : Rendered (headerValue name value) := by
  unfold headerValue
  split
  · exact .ok _
  · exact .evaluation _

theorem HeaderChange.resolve_rendered (scope : Scope) (name template : String) :
    Rendered (resolve scope name template) := by
  apply (scope.render_rendered template).bind
  intro text
  apply (headerValue_rendered name text).bind
  intro value
  exact (headerName_rendered name).bind fun _ => .ok _

theorem renderHeaders_rendered (scope : Scope) (headers : HeaderMap)
    (changes : List (String × String)) : Rendered (renderHeaders scope headers changes) := by
  induction changes generalizing headers with
  | nil => exact .ok _
  | cons change rest induction =>
      apply (HeaderChange.resolve_rendered scope change.1 change.2).bind
      exact fun resolved => induction (headers.insert resolved.1 resolved.2)

namespace StaticResponse

variable (answer : StaticResponse) (environment : Environment) (view : RequestView)

theorem toResponse_eq : answer.toResponse environment view =
    (match answer.status with
      | some code => configuredStatus code
      | none => .ok Status.ok) >>= fun status =>
    (match answer.body with
      | some template => ((Scope.ofRequest environment view).render template).map Body.ofText
      | none => .ok Body.empty) >>= fun body =>
    renderHeaders (Scope.ofRequest environment view) .empty answer.headers >>= fun headers =>
    .ok ⟨status, headers, body⟩ := by
  unfold toResponse
  cases answer.status <;> cases answer.body <;> rfl

end StaticResponse

end Gateway
