import Gateway.Proofs.HeaderSafety

/-!
Policies that break off. What a policy does is a list of operations, and whether one of them is at
fault does not depend on what the others have done. The operations before the first fault are carried
out, that one and those behind it are not: what is left of a message after a failure is what exactly
these operations make of it.
-/

namespace Gateway

section

variable {Operation State : Type} (fault : Operation → Option GatewayError)
  (effect : State → Operation → State)

/-- Carries out operations until one is at fault: the state that is reached, and the fault. -/
def carryOut (state : State) : List Operation → State × Option GatewayError
  | [] => (state, none)
  | operation :: rest =>
      match fault operation with
      | none => carryOut (effect state operation) rest
      | some error => (state, some error)

/-- Why operations are left: none are, or the first of them is at fault. -/
def BreaksOff (left : List Operation) : Option GatewayError → Prop
  | none => left = []
  | some error => ∃ operation later, left = operation :: later ∧ fault operation = some error

/-- Exactly the operations `done` were carried out, which come before the first one at fault. -/
structure CarriedOut (operations done : List Operation) (start : State)
    (outcome : State × Option GatewayError) : Prop where
  sound : ∀ operation ∈ done, fault operation = none
  split : ∃ left, operations = done ++ left ∧ BreaksOff fault left outcome.2
  reached : outcome.1 = done.foldl effect start

variable {fault : Operation → Option GatewayError} {effect : State → Operation → State}

theorem carriedOut_carryOut (operations : List Operation) (state : State) :
    ∃ done, CarriedOut fault effect operations done state
      (carryOut fault effect state operations) := by
  induction operations generalizing state with
  | nil => exact ⟨[], by simp, ⟨[], rfl, rfl⟩, rfl⟩
  | cons operation rest induction =>
      unfold carryOut
      cases check : fault operation with
      | some error => exact ⟨[], by simp, ⟨_, rfl, operation, rest, rfl, check⟩, rfl⟩
      | none =>
          obtain ⟨done, sound, ⟨left, whole, ending⟩, reached⟩ := induction (effect state operation)
          refine ⟨operation :: done, ?_, ⟨left, ?_, ending⟩, reached⟩
          · rintro other (_ | ⟨_, member⟩)
            · exact check
            · exact sound other member
          · rw [whole]
            rfl

variable {operations done : List Operation} {start : State}
  {outcome : State × Option GatewayError}

theorem CarriedOut.failure (carried : CarriedOut fault effect operations done start outcome)
    {error : GatewayError} (failed : outcome.2 = some error) :
    ∃ operation, fault operation = some error := by
  obtain ⟨left, _, ending⟩ := carried.split
  rw [failed] at ending
  obtain ⟨operation, _, _, faulty⟩ := ending
  exact ⟨operation, faulty⟩

theorem foldl_unchanged {Seen : Type} (see : State → Seen)
    (leaves : ∀ operation ∈ operations, ∀ state, see (effect state operation) = see state)
    (state : State) : see (operations.foldl effect state) = see state := by
  induction operations generalizing state with
  | nil => rfl
  | cons operation rest induction =>
      have later := induction (fun other member => leaves other (List.mem_cons_of_mem _ member))
        (effect state operation)
      exact later.trans (leaves operation List.mem_cons_self state)

theorem CarriedOut.unchanged (carried : CarriedOut fault effect operations done start outcome)
    {Seen : Type} (see : State → Seen)
    (leaves : ∀ operation ∈ done, ∀ state, see (effect state operation) = see state) :
    see outcome.1 = see start := by
  rw [carried.reached]
  exact foldl_unchanged see leaves start

/-- A run fails with the first fault among its operations, whatever they do. -/
theorem carryOut_fault (operations : List Operation) (state : State) :
    (carryOut fault effect state operations).2 = operations.findSome? fault := by
  induction operations generalizing state with
  | nil => rfl
  | cons operation rest induction =>
      rw [carryOut, List.findSome?_cons]
      cases fault operation with
      | none => exact induction _
      | some error => rfl

theorem carryOut_of_sound {operations : List Operation}
    (sound : ∀ operation ∈ operations, fault operation = none) (state : State) :
    carryOut fault effect state operations = (operations.foldl effect state, none) := by
  induction operations generalizing state with
  | nil => rfl
  | cons operation rest induction =>
      unfold carryOut
      rw [sound operation List.mem_cons_self]
      exact induction (fun other member => sound other (List.mem_cons_of_mem _ member)) _

theorem sound_of_carryOut {operations : List Operation} {state : State}
    (finished : (carryOut fault effect state operations).2 = none) :
    ∀ operation ∈ operations, fault operation = none := by
  have ran : ∃ done, CarriedOut fault effect operations done state
      (carryOut fault effect state operations) := carriedOut_carryOut operations state
  obtain ⟨done, carried⟩ := ran
  obtain ⟨left, whole, ending⟩ := carried.split
  rw [finished] at ending
  obtain rfl : left = [] := ending
  rw [whole, List.append_nil]
  exact carried.sound

theorem carryOut_append (first second : List Operation) (state : State) :
    carryOut fault effect state (first ++ second) =
      match carryOut fault effect state first with
      | (reached, none) => carryOut fault effect reached second
      | (reached, some error) => (reached, some error) := by
  induction first generalizing state with
  | nil => rfl
  | cons operation rest induction =>
      simp only [List.cons_append, carryOut]
      cases fault operation with
      | none => exact induction _
      | some error => rfl

theorem carryOut_map {Part Own : Type} {ownFault : Own → Option GatewayError}
    {ownEffect : Part → Own → Part} (wrap : Own → Operation) (lift : Part → State)
    (faults : ∀ own, fault (wrap own) = ownFault own)
    (effects : ∀ part own, effect (lift part) (wrap own) = lift (ownEffect part own))
    (operations : List Own) (part : Part) :
    carryOut fault effect (lift part) (operations.map wrap) =
      (lift (carryOut ownFault ownEffect part operations).1,
        (carryOut ownFault ownEffect part operations).2) := by
  induction operations generalizing part with
  | nil => rfl
  | cons own rest induction =>
      simp only [List.map_cons, carryOut, faults]
      cases ownFault own with
      | none =>
          dsimp only
          rw [effects, induction]
      | some error => rfl

end

def unfitName (name : String) : GatewayError :=
  .evaluation ("invalid header name '" ++ name ++ "': " ++ HeaderName.fault)

namespace HeaderChange

def nameFault (name : String) : Option GatewayError :=
  if HeaderName.parse? name = none then some (unfitName name) else none

/-- What is wrong with a template that is written under a name: its expressions, the value that it
renders to, or the name, in this order. -/
def writeFault (scope : Scope) (name template : String) : Option GatewayError :=
  match scope.render template with
  | .error error => some error
  | .ok text => if HeaderValue.parse? text = none then some (unfitValue name) else nameFault name

def fault (scope : Scope) : HeaderChange → Option GatewayError
  | remove name => nameFault name
  | set name template => writeFault scope name template
  | add name template => writeFault scope name template

def written? (scope : Scope) (name template : String) : Option (HeaderName × HeaderValue) := do
  let name ← HeaderName.parse? name
  let value ← (scope.render template).toOption.bind HeaderValue.parse?
  some (name, value)

def effect (scope : Scope) (headers : HeaderMap) : HeaderChange → HeaderMap
  | remove name => (HeaderName.parse? name).elim headers headers.remove
  | set name template =>
      (written? scope name template).elim headers fun (name, value) => headers.insert name value
  | add name template =>
      (written? scope name template).elim headers fun (name, value) => headers.append name value

variable {scope : Scope} {headers : HeaderMap} {change : HeaderChange} {header : HeaderName}

theorem resolve_cases (scope : Scope) (name template : String) :
    (∃ error, writeFault scope name template = some error ∧
      resolve scope name template = .error error) ∨
    ∃ pair, writeFault scope name template = none ∧ written? scope name template = some pair ∧
      resolve scope name template = .ok pair := by
  unfold writeFault written? resolve
  cases scope.render template with
  | error error => exact .inl ⟨error, rfl, rfl⟩
  | ok text =>
      simp only [bind, Except.bind, headerValue, headerName, nameFault, Except.toOption,
        Option.bind_some]
      cases HeaderValue.parse? text with
      | none => exact .inl ⟨unfitValue name, rfl, rfl⟩
      | some value =>
          cases HeaderName.parse? name with
          | none => exact .inl ⟨unfitName name, rfl, rfl⟩
          | some parsed => exact .inr ⟨(parsed, value), rfl, rfl, rfl⟩

theorem resolve_map (scope : Scope) (headers : HeaderMap) (name template : String)
    (write : HeaderName × HeaderValue → HeaderMap) :
    (resolve scope name template).map write = match writeFault scope name template with
      | none => .ok ((written? scope name template).elim headers write)
      | some error => .error error := by
  rcases resolve_cases scope name template with
    ⟨error, faulty, resolved⟩ | ⟨pair, sound, written, resolved⟩
  · rw [faulty, resolved]
    rfl
  · rw [sound, written, resolved]
    rfl

theorem apply_eq (scope : Scope) (headers : HeaderMap) (change : HeaderChange) :
    change.apply scope headers = match change.fault scope with
      | none => .ok (change.effect scope headers)
      | some error => .error error := by
  cases change with
  | remove name =>
      simp only [apply, headerName, fault, effect, nameFault]
      cases HeaderName.parse? name <;> rfl
  | set name template => exact resolve_map scope headers name template _
  | add name template => exact resolve_map scope headers name template _

theorem applyAll_eq (scope : Scope) (headers : HeaderMap) (changes : List HeaderChange) :
    applyAll scope headers changes = carryOut (fault scope) (effect scope) headers changes := by
  induction changes generalizing headers with
  | nil => rfl
  | cons change rest induction =>
      unfold applyAll carryOut
      rw [apply_eq]
      cases change.fault scope with
      | none => exact induction _
      | some error => rfl

theorem fault_evaluation {error : GatewayError} (faulty : change.fault scope = some error) :
    ∃ message, error = .evaluation message := by
  have rendered := apply_rendered scope change .empty
  rw [apply_eq, faulty] at rendered
  exact rendered

theorem written_eq_some {name template : String} {pair : HeaderName × HeaderValue}
    (written : written? scope name template = some pair) :
    HeaderName.parse? name = some pair.1 ∧
      ∃ text, scope.render template = .ok text ∧ HeaderValue.parse? text = some pair.2 := by
  simp only [written?, bind, Option.bind_eq_some_iff, Option.some.injEq] at written
  obtain ⟨parsed, named, value, ⟨text, rendered, valued⟩, rfl⟩ := written
  refine ⟨named, text, ?_, valued⟩
  cases result : scope.render template with
  | ok other =>
      rw [result] at rendered
      exact congrArg Except.ok (Option.some.inj rendered)
  | error error =>
      rw [result] at rendered
      cases rendered

theorem getAll_write_of_foreign {name template : String}
    {write : HeaderName × HeaderValue → HeaderMap} (foreign : HeaderName.parse? name ≠ some header)
    (writes : ∀ pair, pair.1 ≠ header → (write pair).getAll header = headers.getAll header) :
    ((written? scope name template).elim headers write).getAll header = headers.getAll header := by
  cases written : written? scope name template with
  | none => rfl
  | some pair =>
      apply writes
      intro same
      exact foreign ((written_eq_some written).1.trans (congrArg some same))

theorem getAll_effect_of_foreign (foreign : HeaderName.parse? change.name ≠ some header)
    (headers : HeaderMap) :
    (change.effect scope headers).getAll header = headers.getAll header := by
  cases change with
  | remove text =>
      simp only [effect]
      cases named : HeaderName.parse? text with
      | none => rfl
      | some name =>
          have apart : name ≠ header := fun same => foreign (named.trans (congrArg some same))
          exact (HeaderMap.getAll_remove headers name header).trans (if_neg apart)
  | set text template =>
      apply getAll_write_of_foreign foreign
      intro pair apart
      exact (HeaderMap.getAll_insert headers pair.1 header pair.2).trans (if_neg apart)
  | add text template =>
      apply getAll_write_of_foreign foreign
      intro pair apart
      exact HeaderMap.getAll_append_of_ne apart pair.2

end HeaderChange

namespace Policy

def fieldFault (scope : Scope) (field : String × String) : Option GatewayError :=
  match scope.render field.2 with
  | .ok _ => none
  | .error error => some error

def record (scope : Scope) (log : LogFields) (field : String × String) : LogFields :=
  match scope.render field.2 with
  | .ok text => log.insert field.1 text
  | .error _ => log

theorem recordFields_eq (scope : Scope) (log : LogFields) (fields : List (String × String)) :
    recordFields scope log fields = carryOut (fieldFault scope) (record scope) log fields := by
  induction fields generalizing log with
  | nil => rfl
  | cons field rest induction =>
      unfold recordFields carryOut fieldFault record
      cases scope.render field.2 with
      | ok text => exact induction _
      | error error => rfl

inductive Operation where
  | header (change : HeaderChange)
  | field (field : String × String)

namespace Operation

/-- What is wrong with an operation. Changes are rendered from the request as it came, log fields from
the request `after` all changes. -/
def fault (before after : Scope) : Operation → Option GatewayError
  | .header change => change.fault before
  | .field entry => fieldFault after entry

def effect (before after : Scope) (state : HeaderMap × LogFields) :
    Operation → HeaderMap × LogFields
  | .header change => (change.effect before state.1, state.2)
  | .field entry => (state.1, record after state.2 entry)

def Names (name : HeaderName) : Operation → Prop
  | .header change => HeaderName.parse? change.name = some name
  | .field _ => False

def Records (key : String) : Operation → Prop
  | .header _ => False
  | .field entry => entry.1 = key

variable {before after : Scope} {operation : Operation}

theorem getAll_effect {name : HeaderName} (foreign : ¬operation.Names name)
    (state : HeaderMap × LogFields) :
    (operation.effect before after state).1.getAll name = state.1.getAll name := by
  cases operation with
  | header change => exact HeaderChange.getAll_effect_of_foreign foreign state.1
  | field entry => rfl

theorem get?_effect {key : String} (foreign : ¬operation.Records key)
    (state : HeaderMap × LogFields) :
    SortedMap.get? (operation.effect before after state).2 key = SortedMap.get? state.2 key := by
  cases operation with
  | header change => rfl
  | field entry =>
      simp only [effect, record]
      cases after.render entry.2 with
      | ok text => exact (SortedMap.get?_insert state.2 entry.1 key text).trans (if_neg foreign)
      | error error => rfl

theorem fault_evaluation {error : GatewayError}
    (faulty : operation.fault before after = some error) :
    ∃ message, error = .evaluation message := by
  cases operation with
  | header change => exact HeaderChange.fault_evaluation faulty
  | field entry =>
      have rendered := after.render_rendered entry.2
      simp only [fault, fieldFault] at faulty
      split at faulty
      · contradiction
      · rename_i failed
        rw [failed, Option.some.inj faulty] at rendered
        exact rendered

end Operation

/-- What a policy does to a request: it removes headers, sets and adds them, and records the fields of
the log, each in the order of the list or of the keys. -/
def operations (policy : Policy) : List Operation :=
  policy.request.changes.map .header ++ policy.customLogFields.map .field

def transformed (policy : Policy) (environment : Environment) (request : Request) : Request :=
  let before := Scope.ofRequest environment (RequestView.of request)
  { request with headers := policy.request.changes.foldl (HeaderChange.effect before) request.headers }

/-- Applying a policy to a request is carrying out its operations. -/
theorem applyToRequest_eq (policy : Policy) (environment : Environment) (freshId : String)
    (state : Logged) :
    let before := Scope.ofRequest environment (RequestView.of state.request)
    let after := Scope.ofRequest environment
      (RequestView.of (policy.transformed environment state.request))
    let result := policy.applyToRequest environment freshId state
    carryOut (Operation.fault before after) (Operation.effect before after)
      (state.request.headers, state.log) policy.operations =
      ((result.1.request.headers, result.1.log), result.2) := by
  intro before after result
  let changed := HeaderChange.applyAll before state.request.headers policy.request.changes
  have onHeaders : carryOut (Operation.fault before after) (Operation.effect before after)
      (state.request.headers, state.log) (policy.request.changes.map .header) =
      ((changed.1, state.log), changed.2) := by
    dsimp only [changed]
    rw [HeaderChange.applyAll_eq]
    exact carryOut_map Operation.header (fun headers => (headers, state.log)) (fun _ => rfl)
      (fun _ _ => rfl) _ _
  have onLog : carryOut (Operation.fault before after) (Operation.effect before after)
      (changed.1, state.log) (policy.customLogFields.map .field) =
      ((changed.1, (recordFields after state.log policy.customLogFields).1),
        (recordFields after state.log policy.customLogFields).2) := by
    rw [recordFields_eq]
    exact carryOut_map Operation.field (fun log => (changed.1, log)) (fun _ => rfl)
      (fun _ _ => rfl) _ _
  have applied : changeRequest policy.request environment state.request =
      ({ state.request with headers := changed.1 }, changed.2) := rfl
  rw [operations, carryOut_append, onHeaders]
  dsimp only [result]
  unfold applyToRequest
  rw [applied]
  cases failure : changed.2 with
  | some error => rfl
  | none =>
      dsimp only
      rw [onLog]
      -- without a failure the log is rendered from what all changes have made of the request
      have ran : carryOut (HeaderChange.fault before) (HeaderChange.effect before)
          state.request.headers policy.request.changes = changed :=
        (HeaderChange.applyAll_eq _ _ _).symm
      have sound := sound_of_carryOut ((congrArg Prod.snd ran).trans failure)
      have reached : changed.1 =
          policy.request.changes.foldl (HeaderChange.effect before) state.request.headers := by
        rw [← ran, carryOut_of_sound sound]
      have seen : Scope.ofRequest environment
          (RequestView.of { state.request with headers := changed.1 }) = after := by
        rw [reached]
        rfl
      unfold recordLogFields
      split
      · rename_i empty
        rw [List.isEmpty_iff.mp empty]
        rfl
      · dsimp only
        rw [seen]
        rfl

/-- A change at fault keeps all log fields back. -/
theorem log_of_faulty_change (policy : Policy) (environment : Environment) (freshId : String)
    (state : Logged)
    (faulty : ∃ change ∈ policy.request.changes,
      change.fault (Scope.ofRequest environment (RequestView.of state.request)) ≠ none) :
    (policy.applyToRequest environment freshId state).1.log = state.log := by
  obtain ⟨change, member, fault⟩ := faulty
  have failed : (changeRequest policy.request environment state.request).2 ≠ none := by
    intro finished
    have ran := congrArg Prod.snd (HeaderChange.applyAll_eq
      (Scope.ofRequest environment (RequestView.of state.request)) state.request.headers
      policy.request.changes)
    exact fault (sound_of_carryOut (ran.symm.trans finished) change member)
  unfold applyToRequest
  split
  · rfl
  · rename_i finished
    rw [finished] at failed
    contradiction

/-- A policy that fails is applied up to its first fault. Its operations on a request come one after
the other, and exactly those before the first one at fault are carried out, whose failure is returned; a
header that is at fault keeps all log fields back, and what none of these operations names is as it
was. Likewise for a response. -/
theorem applies_exactly_a_prefix (policy : Policy) (environment : Environment) :
    (∀ freshId state,
      let before := Scope.ofRequest environment (RequestView.of state.request)
      let after := Scope.ofRequest environment
        (RequestView.of (policy.transformed environment state.request))
      let result := policy.applyToRequest environment freshId state
      ∃ done,
        CarriedOut (Operation.fault before after) (Operation.effect before after)
          policy.operations done (state.request.headers, state.log)
          ((result.1.request.headers, result.1.log), result.2) ∧
        (∀ error, result.2 = some error → ∃ message, error = .evaluation message) ∧
        ((∃ change ∈ policy.request.changes, change.fault before ≠ none) →
          result.1.log = state.log) ∧
        (∀ name, (∀ operation ∈ done, ¬operation.Names name) →
          result.1.request.headers.getAll name = state.request.headers.getAll name) ∧
        (∀ key, (∀ operation ∈ done, ¬operation.Records key) →
          SortedMap.get? result.1.log key = SortedMap.get? state.log key)) ∧
    (∀ view response,
      let scope : Scope := ⟨environment, view, some (ResponseView.of response)⟩
      let result := policy.applyToResponse environment view response
      ∃ done,
        CarriedOut (HeaderChange.fault scope) (HeaderChange.effect scope)
          policy.response.changes done response.headers (result.1.headers, result.2) ∧
        (∀ error, result.2 = some error → ∃ message, error = .evaluation message) ∧
        (∀ name, (∀ change ∈ done, HeaderName.parse? change.name ≠ some name) →
          result.1.headers.getAll name = response.headers.getAll name)) := by
  constructor
  · intro freshId state before after result
    have ran := applyToRequest_eq policy environment freshId state
    have carried : ∃ done, CarriedOut (Operation.fault before after)
        (Operation.effect before after) policy.operations done (state.request.headers, state.log)
        ((result.1.request.headers, result.1.log), result.2) := by
      rw [← ran]
      exact carriedOut_carryOut _ _
    obtain ⟨done, carried⟩ := carried
    refine ⟨done, carried, ?_, ?_, ?_, ?_⟩
    · intro error failed
      obtain ⟨operation, faulty⟩ := carried.failure failed
      exact Operation.fault_evaluation faulty
    · exact log_of_faulty_change policy environment freshId state
    · intro name foreign
      apply carried.unchanged fun seen => seen.1.getAll name
      intro operation member
      exact Operation.getAll_effect (foreign operation member)
    · intro key foreign
      apply carried.unchanged fun seen => SortedMap.get? seen.2 key
      intro operation member
      exact Operation.get?_effect (foreign operation member)
  · intro view response scope result
    have carried : ∃ done, CarriedOut (HeaderChange.fault scope) (HeaderChange.effect scope)
        policy.response.changes done response.headers (result.1.headers, result.2) := by
      have ran : (result.1.headers, result.2) = carryOut (HeaderChange.fault scope)
          (HeaderChange.effect scope) response.headers policy.response.changes :=
        HeaderChange.applyAll_eq scope response.headers policy.response.changes
      rw [ran]
      exact carriedOut_carryOut _ _
    obtain ⟨done, carried⟩ := carried
    refine ⟨done, carried, ?_, ?_⟩
    · intro error failed
      obtain ⟨change, faulty⟩ := carried.failure failed
      exact HeaderChange.fault_evaluation faulty
    · intro name foreign
      apply carried.unchanged fun headers => headers.getAll name
      intro change member
      exact HeaderChange.getAll_effect_of_foreign (foreign change member)

end Policy

end Gateway
