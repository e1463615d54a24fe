import Gateway.Producer
import Gateway.Proofs.HeaderValues

/-!
A side request carries what is configured and nothing of the client. It is sent once if all of its
parts can be rendered and written, and not at all otherwise; what is sent is made of the renderings
alone. So clients under which the templates render alike are not told apart by what goes out for them.
-/

namespace Gateway

namespace HeaderChange

variable {scope : Scope} {name template : String}

theorem writeFault_eq_none_iff :
    writeFault scope name template = none ↔
      (∃ header, HeaderName.parse? name = some header) ∧
        ∃ text value, scope.render template = .ok text ∧ HeaderValue.parse? text = some value := by
  constructor
  · intro sound
    obtain ⟨header, named, written, _⟩ := written_of_sound sound
    obtain ⟨_, text, rendered, valued⟩ := written_eq_some written
    exact ⟨⟨header, named⟩, text, _, rendered, valued⟩
  · rintro ⟨⟨header, named⟩, text, value, rendered, valued⟩
    simp [writeFault, nameFault, rendered, valued, named]

def setAll (fields : List (String × String)) : List HeaderChange :=
  fields.map fun field => .set field.1 field.2

end HeaderChange

section

open HeaderChange (fault effect setAll writeFault)

theorem renderHeaders_eq (scope : Scope) (headers : HeaderMap) (fields : List (String × String)) :
    renderHeaders scope headers fields =
      match carryOut (fault scope) (effect scope) headers (setAll fields) with
      | (after, none) => .ok after
      | (_, some error) => .error error := by
  induction fields generalizing headers with
  | nil => rfl
  | cons field rest induction =>
      simp only [setAll, List.map_cons, carryOut, renderHeaders, fault, effect]
      rcases HeaderChange.resolve_cases scope field.1 field.2 with
        ⟨error, faulty, resolved⟩ | ⟨pair, sound, written, resolved⟩
      · rw [resolved, faulty]
        rfl
      · rw [resolved, sound, written]
        exact induction _

variable {scope : Scope} {headers after : HeaderMap} {fields : List (String × String)}

theorem renderHeaders_eq_ok_iff :
    renderHeaders scope headers fields = .ok after ↔
      (∀ field ∈ fields, writeFault scope field.1 field.2 = none) ∧
        (setAll fields).foldl (effect scope) headers = after := by
  have sound_iff : (∀ change ∈ setAll fields, change.fault scope = none) ↔
      ∀ field ∈ fields, writeFault scope field.1 field.2 = none := by
    rw [setAll, List.forall_mem_map]
    exact Iff.rfl
  rw [renderHeaders_eq, ← sound_iff]
  constructor
  · intro rendered
    split at rendered
    · rename_i reached ran
      have sound := sound_of_carryOut (congrArg Prod.snd ran)
      rw [carryOut_of_sound sound, Prod.mk.injEq] at ran
      exact ⟨sound, ran.1.trans (Except.ok.inj rendered)⟩
    · cases rendered
  · rintro ⟨sound, rfl⟩
    rw [carryOut_of_sound sound]

end

open HeaderPolicy (under)

namespace RequestBlock

variable {block : RequestBlock} {scope : Scope}

def templates (block : RequestBlock) : List String :=
  block.url :: (block.body.toList ++ block.headers.map Prod.snd)

structure Renders (block : RequestBlock) (scope : Scope) : Prop where
  url : ∃ text uri, scope.render block.url = .ok text ∧ Uri.parse text = .ok uri
  body : ∀ template, block.body = some template → ∃ text, scope.render template = .ok text
  headers : ∀ field ∈ block.headers, ∃ text value, scope.render field.2 = .ok text ∧
    HeaderValue.parse? text = some value

def IsNamed (block : RequestBlock) : Prop :=
  ∀ field ∈ block.headers, ∃ header, HeaderName.parse? field.1 = some header

/-- A request has the parts of a block as they render, and no others. Of several entries for one
header the last in the order of the keys counts. -/
structure IsCarriedBy (block : RequestBlock) (scope : Scope) (outbound : Request) : Prop where
  method : outbound.method.text = Text.upper block.method
  uri : ∃ text, scope.render block.url = .ok text ∧ Uri.parse text = .ok outbound.uri
  headers : ∀ header, match (under header block.headers).getLast? with
    | some field => ∃ text value, scope.render field.2 = .ok text ∧
        HeaderValue.parse? text = some value ∧ outbound.headers.getAll header = [value]
    | none => outbound.headers.getAll header = []
  body : match block.body with
    | some template => ∃ text, scope.render template = .ok text ∧ outbound.body = Body.ofText text
    | none => outbound.body = .empty

theorem faultless_iff :
    (∀ field ∈ block.headers, HeaderChange.writeFault scope field.1 field.2 = none) ↔
      block.IsNamed ∧ ∀ field ∈ block.headers, ∃ text value, scope.render field.2 = .ok text ∧
        HeaderValue.parse? text = some value := by
  simp only [HeaderChange.writeFault_eq_none_iff, forall_and]
  exact Iff.rfl

end RequestBlock

def Request.message (request : Request) : Method × Uri × HeaderMap × Body :=
  (request.method, request.uri, request.headers, request.body)

namespace SideRequest

variable {side : SideRequest} {scope : Scope} {environment : Environment} {request : Request}

theorem target_eq_ok_iff {name text : String} {uri : Uri} :
    target name text = .ok uri ↔ Uri.parse text = .ok uri := by
  unfold target
  cases Uri.parse text <;> simp

theorem renderBody_eq_ok_iff {template? : Option String} {body : Body} :
    renderBody scope template? = .ok body ↔
      match template? with
      | some template => ∃ text, scope.render template = .ok text ∧ body = Body.ofText text
      | none => body = .empty := by
  cases template? with
  | none => simp [renderBody, eq_comm]
  | some template =>
      rw [renderBody, map_eq_ok]
      simp only [eq_comm (a := body)]

theorem prepare_eq_ok_iff {outbound : Request} :
    side.prepare environment request = .ok outbound ↔
      ∃ url uri body headers,
        (Scope.ofRequest environment (.of request)).render side.block.url = .ok url ∧
        target side.block.name url = .ok uri ∧
        renderBody (.ofRequest environment (.of request)) side.block.body = .ok body ∧
        renderHeaders (.ofRequest environment (.of request)) .empty side.block.headers =
          .ok headers ∧
        outbound = ⟨side.method, uri, headers, body, request.context⟩ := by
  constructor
  · intro prepared
    obtain ⟨url, located, prepared⟩ := bind_eq_ok.mp prepared
    obtain ⟨uri, parsed, prepared⟩ := bind_eq_ok.mp prepared
    obtain ⟨body, filled, prepared⟩ := bind_eq_ok.mp prepared
    obtain ⟨headers, written, prepared⟩ := bind_eq_ok.mp prepared
    exact ⟨url, uri, body, headers, located, parsed, filled, written, (Except.ok.inj prepared).symm⟩
  · rintro ⟨url, uri, body, headers, located, parsed, filled, written, rfl⟩
    apply bind_eq_ok.mpr ⟨url, located, _⟩
    apply bind_eq_ok.mpr ⟨uri, parsed, _⟩
    apply bind_eq_ok.mpr ⟨body, filled, _⟩
    exact bind_eq_ok.mpr ⟨headers, written, rfl⟩

theorem prepared_iff :
    (∃ outbound, side.prepare environment request = .ok outbound) ↔
      side.block.Renders (.ofRequest environment (.of request)) ∧ side.block.IsNamed := by
  constructor
  · rintro ⟨outbound, prepared⟩
    obtain ⟨url, uri, body, headers, located, parsed, filled, written, rfl⟩ :=
      prepare_eq_ok_iff.mp prepared
    obtain ⟨sound, _⟩ := renderHeaders_eq_ok_iff.mp written
    obtain ⟨named, valued⟩ := RequestBlock.faultless_iff.mp sound
    refine ⟨⟨⟨url, uri, located, target_eq_ok_iff.mp parsed⟩, ?_, valued⟩, named⟩
    intro template configured
    rw [configured, renderBody_eq_ok_iff] at filled
    obtain ⟨text, rendered, _⟩ := filled
    exact ⟨text, rendered⟩
  · rintro ⟨⟨⟨url, uri, located, parsed⟩, bodies, valued⟩, named⟩
    have filled : ∃ body,
        renderBody (.ofRequest environment (.of request)) side.block.body = .ok body := by
      cases configured : side.block.body with
      | none => exact ⟨.empty, rfl⟩
      | some template =>
          obtain ⟨text, rendered⟩ := bodies template configured
          exact ⟨.ofText text, renderBody_eq_ok_iff.mpr ⟨text, rendered, rfl⟩⟩
    obtain ⟨body, filled⟩ := filled
    have sound := RequestBlock.faultless_iff.mpr ⟨named, valued⟩
    exact ⟨_, prepare_eq_ok_iff.mpr ⟨url, uri, body, _, located, target_eq_ok_iff.mpr parsed,
      filled, renderHeaders_eq_ok_iff.mpr ⟨sound, rfl⟩, rfl⟩⟩

theorem getAll_renderHeaders {fields : List (String × String)} {headers : HeaderMap}
    (written : renderHeaders scope .empty fields = .ok headers) (header : HeaderName) :
    match (under header fields).getLast? with
    | some field => ∃ text value, scope.render field.2 = .ok text ∧
        HeaderValue.parse? text = some value ∧ headers.getAll header = [value]
    | none => headers.getAll header = [] := by
  obtain ⟨sound, reached⟩ := renderHeaders_eq_ok_iff.mp written
  have values : headers.getAll header = _ :=
    reached ▸ HeaderPolicy.getAll_sets sound HeaderMap.empty
  rw [values]
  cases last : (under header fields).getLast? with
  | none => rfl
  | some field =>
      have listed := List.mem_of_mem_filter (List.mem_of_getLast? last)
      obtain ⟨_, text, value, rendered, valued⟩ :=
        HeaderChange.writeFault_eq_none_iff.mp (sound field listed)
      refine ⟨text, value, rendered, valued, ?_⟩
      simp [Scope.headerValue, rendered, Except.toOption, valued]

theorem of_create {block : RequestBlock} (created : create block = .ok side) :
    side.block = block ∧ side.method.text = Text.upper block.method := by
  unfold create Method.parse? at created
  by_cases valid : isToken (Text.upper block.method) = true
  · rw [dif_pos valid] at created
    obtain rfl := Except.ok.inj created
    exact ⟨rfl, rfl⟩
  · rw [dif_neg valid] at created
    cases created

theorem isCarriedBy_of_prepared {block : RequestBlock} {outbound : Request}
    (created : create block = .ok side)
    (prepared : side.prepare environment request = .ok outbound) :
    block.IsCarriedBy (.ofRequest environment (.of request)) outbound := by
  obtain ⟨rfl, method⟩ := of_create created
  obtain ⟨url, uri, body, headers, located, parsed, filled, written, rfl⟩ :=
    prepare_eq_ok_iff.mp prepared
  exact {
    method
    uri := ⟨url, located, target_eq_ok_iff.mp parsed⟩
    headers := getAll_renderHeaders written
    body := renderBody_eq_ok_iff.mp filled }

/-- Nothing but the renderings of its templates gets into the message of a side request. -/
theorem prepare_agree {left right : Request}
    (agree : (Scope.ofRequest environment (.of left)).Agree (.ofRequest environment (.of right))
      side.block.templates) :
    (side.prepare environment left).map Request.message =
      (side.prepare environment right).map Request.message := by
  have located := agree side.block.url List.mem_cons_self
  have among : side.block.headers.map Prod.snd ⊆ side.block.templates := by
    simp [RequestBlock.templates]
  have written := renderHeaders_congr (agree.mono among) .empty
  have template : side.block.body.toList ⊆ side.block.templates := by
    simp [RequestBlock.templates]
  have filled := renderBody_congr (agree.mono template)
  unfold prepare
  simp only [located, written, filled, bind, Except.bind]
  repeat' split
  all_goals rfl

def scopeOf (setting : Producer.Setting) (state : Policy.Logged) : Scope :=
  Scope.ofRequest setting.environment (.of state.request)

def work (setting : Producer.Setting) (side : SideRequest) (state : Policy.Logged) : Work :=
  ((Producer.side side).start setting state).2

section

variable {setting : Producer.Setting} {state : Policy.Logged} {outbound : Request}

theorem work_eq : side.work setting state =
    match side.prepare setting.environment state.request with
    | .ok outbound => ⟨some outbound, setting.backend outbound⟩
    | .error error => .failed error := by
  simp only [work, Producer.start]
  cases side.prepare setting.environment state.request <;> rfl

theorem sent_eq : (side.work setting state).sent =
    (side.prepare setting.environment state.request).toOption := by
  rw [work_eq]
  cases side.prepare setting.environment state.request <;> rfl

theorem toOption_map {Result Other : Type} (result : Except GatewayError Result)
    (change : Result → Other) : result.toOption.map change = (result.map change).toOption := by
  cases result <;> rfl

theorem sent_eq_some_iff : (side.work setting state).sent = some outbound ↔
    side.prepare setting.environment state.request = .ok outbound := by
  rw [sent_eq]
  cases side.prepare setting.environment state.request <;> simp [Except.toOption]

end

/-- A side request calls its backend if its templates render to what can be written and its headers
have names, and fails without a call otherwise. The call carries the parts of the block as they
render, and it is the same for any two clients under which all templates render alike. -/
theorem carries_only_its_configuration {block : RequestBlock} {side : SideRequest}
    (created : create block = .ok side) (setting : Producer.Setting) (state : Policy.Logged) :
    ((∃ outbound, (side.work setting state).sent = some outbound) ↔
      block.Renders (scopeOf setting state) ∧ block.IsNamed) ∧
    ((side.work setting state).sent = none → ∃ error, side.work setting state = .failed error) ∧
    (∀ outbound, (side.work setting state).sent = some outbound →
      (side.work setting state).reaction = setting.backend outbound ∧
      block.IsCarriedBy (scopeOf setting state) outbound ∧
      outbound.context = state.request.context) ∧
    (block.headers.Ordered → ∀ header, SortedMap.InByteOrder (under header block.headers)) ∧
    ∀ other : Policy.Logged,
      (scopeOf setting state).Agree (scopeOf setting other) block.templates →
      (side.work setting state).sent.map Request.message =
        (side.work setting other).sent.map Request.message := by
  have own : side.block = block := (of_create created).1
  refine ⟨?_, ?_, ?_, ?_, ?_⟩
  · simp only [sent_eq_some_iff, ← own]
    exact prepared_iff
  · intro unsent
    rw [work_eq] at unsent ⊢
    cases prepared : side.prepare setting.environment state.request with
    | ok outbound =>
        rw [prepared] at unsent
        cases unsent
    | error error => exact ⟨error, rfl⟩
  · intro outbound sent
    have prepared := sent_eq_some_iff.mp sent
    refine ⟨?_, isCarriedBy_of_prepared created prepared, ?_⟩
    · rw [work_eq, prepared]
    · obtain ⟨_, _, _, _, _, _, _, _, rfl⟩ := prepare_eq_ok_iff.mp prepared
      rfl
  · exact fun ordered header => ordered.inByteOrder.sublist List.filter_sublist
  · intro other agree
    have same : (side.prepare setting.environment state.request).map Request.message =
        (side.prepare setting.environment other.request).map Request.message :=
      prepare_agree (own ▸ agree)
    rw [sent_eq, sent_eq, toOption_map, toOption_map, same]

def lookup : RequestBlock where
  url := "http://users/$\x7brequest.headers.x-user\x7d"
  method := "post"
  headers := [("X-Origin", "none"), ("x-origin", "$\x7brequest.method\x7d")]

def originName : HeaderName := ⟨"x-origin", by decide⟩

def userField : HeaderName × HeaderValue := (⟨"x-user", by decide⟩, ⟨Utf8.encode "ada", by decide⟩)

def cookieField : HeaderName × HeaderValue := (.cookie, ⟨Utf8.encode "session=1", by decide⟩)

def visit (fields : List (HeaderName × HeaderValue)) : Policy.Logged where
  request := ⟨.get, .root, .ofList fields, .empty, none⟩
  log := []

def refusing : Producer.Setting := ⟨fun _ => Reaction.failed .clientDisconnect, [], "id"⟩

/-- The lookup goes out with the later of its two entries, and the cookie of the client makes no
difference to it. -/
theorem lookup_carries_only_its_configuration :
    ∃ side outbound, create lookup = .ok side ∧
      (side.work refusing (visit [userField])).sent = some outbound ∧
      outbound.method.text = "POST" ∧
      (outbound.headers.getAll originName).map HeaderValue.bytes = [Utf8.encode "GET"] ∧
      (side.work refusing (visit [userField, cookieField])).sent.map Request.message =
        some outbound.message := by
  have created : create lookup = .ok ⟨lookup, .post⟩ := by decide +kernel
  have located : (scopeOf refusing (visit [userField])).render lookup.url =
      .ok "http://users/ada" := by decide +kernel
  have parsed : Uri.parse "http://users/ada" = .ok ⟨some "http", some "users", "/ada", none⟩ := by
    decide +kernel
  have refused : (scopeOf refusing (visit [userField])).render "none" = .ok "none" := by
    decide +kernel
  have origin : (scopeOf refusing (visit [userField])).render "$\x7brequest.method\x7d" =
      .ok "GET" := by decide +kernel
  have agree : (scopeOf refusing (visit [userField])).Agree
      (scopeOf refusing (visit [userField, cookieField])) lookup.templates := by
    unfold Scope.Agree
    decide +kernel
  obtain ⟨sent_iff, _, carried, _, alike⟩ :=
    carries_only_its_configuration created refusing (visit [userField])
  have renders : lookup.Renders (scopeOf refusing (visit [userField])) := {
    url := ⟨_, _, located, parsed⟩
    body := fun _ configured => nomatch configured
    headers := by
      simp only [lookup, List.forall_mem_cons]
      exact ⟨⟨_, _, refused, rfl⟩, ⟨_, _, origin, rfl⟩, by simp⟩ }
  have named : lookup.IsNamed := by
    simp only [RequestBlock.IsNamed, lookup, List.forall_mem_cons]
    exact ⟨⟨_, rfl⟩, ⟨_, rfl⟩, by simp⟩
  obtain ⟨outbound, sent⟩ := sent_iff.mpr ⟨renders, named⟩
  obtain ⟨_, carries, _⟩ := carried outbound sent
  have last : (under originName lookup.headers).getLast? =
      some ("x-origin", "$\x7brequest.method\x7d") := by decide +kernel
  refine ⟨_, outbound, created, sent, carries.method, ?_, ?_⟩
  · have held := carries.headers originName
    rw [last] at held
    obtain ⟨text, value, rendered, valued, only⟩ := held
    obtain rfl := Except.ok.inj (origin.symm.trans rendered)
    rw [only, List.map_singleton, (HeaderValue.parse_eq_some_iff.mp valued).2]
  · rw [← alike (visit [userField, cookieField]) agree, sent]
    rfl

def misnamed : RequestBlock where
  url := "http://b/"
  headers := [("bad name", "v")]

/-- The templates of the block render to valid values, and it is not sent. -/
theorem misnamed_is_not_sent :
    ∃ side, create misnamed = .ok side ∧ misnamed.Renders (scopeOf refusing (visit [])) ∧
      (side.work refusing (visit [])).sent = none := by
  have located : (scopeOf refusing (visit [])).render "http://b/" = .ok "http://b/" := by
    decide +kernel
  have parsed : Uri.parse "http://b/" = .ok ⟨some "http", some "b", "/", none⟩ := by decide +kernel
  have valued : (scopeOf refusing (visit [])).render "v" = .ok "v" := by decide +kernel
  refine ⟨⟨misnamed, .get⟩, by decide +kernel, ?_, by decide +kernel⟩
  exact {
    url := ⟨_, _, located, parsed⟩
    body := fun _ configured => nomatch configured
    headers := by
      simp only [misnamed, List.forall_mem_cons]
      exact ⟨⟨_, _, valued, rfl⟩, by simp⟩ }

end SideRequest

end Gateway
