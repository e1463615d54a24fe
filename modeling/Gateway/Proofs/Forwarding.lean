import Gateway.Producer
import Gateway.Proofs.Evaluation
import Gateway.Proofs.Headers

/-!
What a proxy lets through. Headers are written by the policy, by the block for upgrades and by the
choice of the destination, and the strip comes after all of them: no value of a credential or of a
header of the connection gets past it, and every header that none of the writers names arrives as it
came.
-/

namespace Gateway

namespace HeaderName

theorem lower_text (name : HeaderName) : Text.lower name.text = name.text := by
  have valid := name.valid
  simp only [isHeaderName, Bool.and_eq_true, decide_eq_true_eq] at valid
  exact valid.1.2

theorem eq_iff_text_eq {left right : HeaderName} : left = right ↔ left.text = right.text := by
  cases left
  cases right
  simp

theorem text_of_parse {text : String} {name : HeaderName} (parsed : parse? text = some name) :
    name.text = Text.lower text := by
  unfold parse? at parsed
  split at parsed
  · rw [← Option.some.inj parsed]
  · cases parsed

end HeaderName

namespace HeaderChange

variable {scope : Scope} {headers after : HeaderMap} {change : HeaderChange} {header : HeaderName}

def name : HeaderChange → String
  | remove name => name
  | set name _ => name
  | add name _ => name

theorem headerName_parsed {text : String} {name : HeaderName} (read : headerName text = .ok name) :
    HeaderName.parse? text = some name := by
  unfold headerName at read
  split at read
  · rename_i parsed found
    rw [found, Except.ok.inj read]
  · cases read

theorem resolve_parsed {text template : String} {name : HeaderName} {value : HeaderValue}
    (resolved : resolve scope text template = .ok (name, value)) :
    HeaderName.parse? text = some name := by
  obtain ⟨rendering, _, rest⟩ := bind_eq_ok.mp resolved
  obtain ⟨read, _, rest⟩ := bind_eq_ok.mp rest
  obtain ⟨found, named, pair⟩ := bind_eq_ok.mp rest
  obtain ⟨rfl, _⟩ := Prod.mk.inj (Except.ok.inj pair)
  exact headerName_parsed named

theorem resolve_plain {text template : String} {name : HeaderName} {value : HeaderValue}
    (plain : (Template.splitOpening template.toList).2 = none)
    (valued : HeaderValue.parse? template = some value)
    (named : HeaderName.parse? text = some name) :
    resolve scope text template = .ok (name, value) := by
  have rendered : scope.render template = .ok template := Template.render_plain _ _ plain
  have read : headerValue text template = .ok value := by
    unfold headerValue
    rw [valued]
  have found : headerName text = .ok name := by
    unfold headerName
    rw [named]
  exact bind_eq_ok.mpr ⟨_, rendered, bind_eq_ok.mpr ⟨_, read, bind_eq_ok.mpr ⟨_, found, rfl⟩⟩⟩

theorem getAll_apply (applied : change.apply scope headers = .ok after)
    (foreign : HeaderName.parse? change.name ≠ some header) :
    after.getAll header = headers.getAll header := by
  cases change with
  | remove text =>
      obtain ⟨name, named, rfl⟩ := map_eq_ok.mp applied
      have apart : name ≠ header := by
        rintro rfl
        exact foreign (headerName_parsed named)
      rw [HeaderMap.getAll_remove, if_neg apart]
  | set text template =>
      obtain ⟨⟨name, value⟩, resolved, rfl⟩ := map_eq_ok.mp applied
      have apart : name ≠ header := by
        rintro rfl
        exact foreign (resolve_parsed resolved)
      rw [HeaderMap.getAll_insert, if_neg apart]
  | add text template =>
      obtain ⟨⟨name, value⟩, resolved, rfl⟩ := map_eq_ok.mp applied
      have apart : name ≠ header := by
        rintro rfl
        exact foreign (resolve_parsed resolved)
      exact HeaderMap.getAll_append_of_ne apart value

/-- Changes leave a header alone that none of them names, also when they break off. -/
theorem getAll_applyAll {changes : List HeaderChange}
    (foreign : ∀ change ∈ changes, HeaderName.parse? change.name ≠ some header) :
    (applyAll scope headers changes).1.getAll header = headers.getAll header := by
  induction changes generalizing headers with
  | nil => rfl
  | cons change rest induction =>
      have later : ∀ change ∈ rest, HeaderName.parse? change.name ≠ some header :=
        fun other member => foreign other (List.mem_cons_of_mem change member)
      unfold applyAll
      split
      · rename_i after applied
        rw [induction later, getAll_apply applied (foreign change List.mem_cons_self)]
      · rfl

end HeaderChange

/-- A header policy writes or removes a header under some spelling of its name. -/
def HeaderPolicy.Names (policy : HeaderPolicy) (header : HeaderName) : Prop :=
  ∃ text, (text ∈ policy.remove ∨ text ∈ policy.set.map Prod.fst ∨
    text ∈ policy.add.map Prod.fst) ∧ HeaderName.parse? text = some header

theorem HeaderPolicy.getAll_apply {policy : HeaderPolicy} {header : HeaderName}
    (foreign : ¬policy.Names header) (scope : Scope) (headers : HeaderMap) :
    (policy.apply scope headers).1.getAll header = headers.getAll header := by
  apply HeaderChange.getAll_applyAll
  intro change member parsed
  apply foreign
  simp only [HeaderPolicy.changes, List.mem_append, List.mem_map] at member
  rcases member with (⟨text, listed, rfl⟩ | ⟨pair, listed, rfl⟩) | ⟨pair, listed, rfl⟩
  · exact ⟨text, .inl listed, parsed⟩
  · exact ⟨pair.1, .inr (.inl (List.mem_map_of_mem listed)), parsed⟩
  · exact ⟨pair.1, .inr (.inr (List.mem_map_of_mem listed)), parsed⟩

namespace Proxy

variable {policy : Policy} {environment : Environment} {freshId : String}
  {state after : Policy.Logged} {header : HeaderName}

/-- Headers that no destination gets to see. -/
def privateNames : List String :=
  ["authorization", "cookie", "keep-alive", "proxy-authenticate", "proxy-authorization", "te",
    "trailers"]

theorem isHopByHop_text (name : HeaderName) :
    isHopByHop name.text = true ↔ name.text ∈ hopByHopNames := by
  simp [isHopByHop, HeaderName.lower_text]

theorem mem_privateNames (name : HeaderName) :
    name.text ∈ privateNames ↔ name ∈ credentialHeaders ∨ isHopByHop name.text = true := by
  rw [isHopByHop_text]
  simp [privateNames, credentialHeaders, hopByHopNames, HeaderName.eq_iff_text_eq,
    HeaderName.authorization, HeaderName.cookie, or_assoc]

/-- The strip takes out what is private and nothing else. -/
theorem getAll_strip (headers : HeaderMap) (name : HeaderName) :
    (strip headers).getAll name = if name.text ∈ privateNames then [] else headers.getAll name := by
  unfold strip
  dsimp only
  rw [HeaderMap.getAll_removeAll, HeaderMap.getAll_removeAll]
  by_cases credential : name ∈ credentialHeaders
  · have hidden : name.text ∈ privateNames := (mem_privateNames name).mpr (.inl credential)
    simp [credential, hidden]
  · by_cases connection : isHopByHop name.text = true
    · have hidden : name.text ∈ privateNames := (mem_privateNames name).mpr (.inr connection)
      by_cases present : name ∈ (headers.removeAll credentialHeaders).names
      · simp [hidden, connection, present]
      · -- a name that is not there has no values to take out
        have nothing := HeaderMap.getAll_eq_nil_iff.mpr present
        rw [HeaderMap.getAll_removeAll, if_neg credential] at nothing
        simp [hidden, present, credential, nothing]
    · have shown : name.text ∉ privateNames := by
        rw [mem_privateNames]
        rintro (member | member)
        · exact credential member
        · exact connection member
      simp [credential, connection, shown]

theorem andThen_eq_none {first second : Stage} :
    andThen first second state = (after, none) ↔
      ∃ middle, first state = (middle, none) ∧ second middle = (after, none) := by
  unfold andThen
  split
  · rename_i middle done
    simp [done]
  · rename_i middle error done
    simp [done]

/-- The headers after a policy was applied, also where it has failed. -/
theorem applyToRequest_headers (policy : Policy) (environment : Environment) (freshId : String)
    (state : Policy.Logged) :
    (policy.applyToRequest environment freshId state).1.request.headers = (policy.request.apply
      (Scope.ofRequest environment (RequestView.of state.request)) state.request.headers).1 := by
  have changed : (Policy.changeRequest policy.request environment state.request).1.headers =
      (policy.request.apply (Scope.ofRequest environment (RequestView.of state.request))
        state.request.headers).1 := rfl
  unfold Policy.applyToRequest
  split
  · rename_i done
    rw [done] at changed
    exact changed
  · rename_i done
    rw [done] at changed
    unfold Policy.recordLogFields
    split
    · exact changed
    · exact changed

theorem getAll_applyToRequest (foreign : ¬policy.request.Names header)
    (applied : policy.applyToRequest environment freshId state = (after, none)) :
    after.request.headers.getAll header = state.request.headers.getAll header := by
  have headers := applyToRequest_headers policy environment freshId state
  rw [applied] at headers
  rw [headers]
  exact HeaderPolicy.getAll_apply foreign _ _

/-- The block for upgrades that is applied to a request, after the policy changed it. -/
def appliedBlock (policy : Policy) (environment : Environment) (freshId : String)
    (state : Policy.Logged) : Option WebsocketsBlock :=
  if (policy.applyToRequest environment freshId state).1.request.isUpgrade then
    policy.websockets.head?
  else none

theorem readTimeout_headers {block : WebsocketsBlock}
    (read : readTimeout block freshId state = (after, none)) :
    after.request.headers = state.request.headers := by
  unfold readTimeout at read
  split at read
  · rw [← (Prod.mk.inj read).1]
  · split at read
    · simp at read
    · rw [← (Prod.mk.inj read).1]
      rfl

theorem permitUpgrade_headers {block : WebsocketsBlock}
    (permitted : permitUpgrade block environment freshId state = (after, none)) :
    ∃ view, after.request.headers =
      if state.request.isUpgrade then
        (block.request.apply (Scope.ofRequest environment view) state.request.headers).1
      else state.request.headers := by
  unfold permitUpgrade at permitted
  dsimp only at permitted
  split at permitted
  · rename_i asks
    obtain ⟨middle, changed, read⟩ := andThen_eq_none.mp permitted
    refine ⟨RequestView.of ((state.request.withContext freshId).mapContext fun context =>
      { context with allowWebsockets := true }), ?_⟩
    rw [readTimeout_headers read, ← (Prod.mk.inj changed).1]
    exact (if_pos asks).symm
  · rename_i asksNot
    refine ⟨RequestView.of state.request, ?_⟩
    rw [← (Prod.mk.inj permitted).1]
    exact (if_neg asksNot).symm

theorem getAll_permitUpgrade {block : WebsocketsBlock}
    (foreign : state.request.isUpgrade = true → ¬block.request.Names header)
    (permitted : permitUpgrade block environment freshId state = (after, none)) :
    after.request.headers.getAll header = state.request.headers.getAll header := by
  obtain ⟨view, headers⟩ := permitUpgrade_headers permitted
  rw [headers]
  split
  · rename_i asks
    exact HeaderPolicy.getAll_apply (foreign asks) _ _
  · rfl

theorem getAll_applyWebsockets
    (foreign : ∀ block, state.request.isUpgrade = true → policy.websockets.head? = some block →
      ¬block.request.Names header)
    (applied : applyWebsockets policy environment freshId state = (after, none)) :
    after.request.headers.getAll header = state.request.headers.getAll header := by
  unfold applyWebsockets at applied
  split at applied
  · simp at applied
  · split at applied
    · simp at applied
    · split at applied
      · rename_i block rest blocks
        apply getAll_permitUpgrade _ applied
        intro asks
        exact foreign block asks (by simp [blocks])
      · rw [← (Prod.mk.inj applied).1]

theorem pointTo_headers {target : String} (pointed : pointTo target state = (after, none)) :
    ∃ authority host, hostValue authority = .ok host ∧
      after.request.headers = state.request.headers.insert HeaderName.host host := by
  unfold pointTo at pointed
  split at pointed
  · rename_i request redirected
    obtain ⟨address, _, rest⟩ := bind_eq_ok.mp redirected
    obtain ⟨uri, _, rest⟩ := bind_eq_ok.mp rest
    obtain ⟨host, valued, aimed⟩ := bind_eq_ok.mp rest
    refine ⟨address.authority, host, valued, ?_⟩
    rw [← (Prod.mk.inj pointed).1, ← Except.ok.inj aimed]
  · simp at pointed

theorem applyUrl_headers (applied : applyUrl policy environment freshId state = (after, none)) :
    after.request.headers = state.request.headers ∨ ∃ authority host,
      hostValue authority = .ok host ∧
        after.request.headers = state.request.headers.insert HeaderName.host host := by
  unfold applyUrl at applied
  split at applied
  · rename_i template _ _
    unfold pointToUrl at applied
    dsimp only at applied
    split at applied
    · simp at applied
    · split at applied
      · left
        rw [← (Prod.mk.inj applied).1]
      · right
        obtain ⟨authority, host, valued, written⟩ := pointTo_headers applied
        exact ⟨authority, host, valued, written⟩
  · right
    exact pointTo_headers applied
  · left
    rw [← (Prod.mk.inj applied).1]

theorem getAll_applyUrl (notHost : header ≠ HeaderName.host)
    (applied : applyUrl policy environment freshId state = (after, none)) :
    after.request.headers.getAll header = state.request.headers.getAll header := by
  rcases applyUrl_headers applied with same | ⟨authority, host, _, written⟩
  · rw [same]
  · rw [written, HeaderMap.getAll_insert, if_neg (Ne.symm notHost)]

/-- Every header of a prepared request is what the stages before the strip left of it, or empty. -/
theorem prepare_stages (prepared : prepare policy environment freshId state = (after, none)) :
    ∃ changed permitted pointed,
      policy.applyToRequest environment freshId state = (changed, none) ∧
      applyWebsockets policy environment freshId changed = (permitted, none) ∧
      applyUrl policy environment freshId permitted = (pointed, none) ∧
      after.request.headers = strip pointed.request.headers := by
  obtain ⟨changed, first, rest⟩ := andThen_eq_none.mp prepared
  obtain ⟨permitted, second, rest⟩ := andThen_eq_none.mp rest
  obtain ⟨pointed, third, last⟩ := andThen_eq_none.mp rest
  refine ⟨changed, permitted, pointed, first, second, third, ?_⟩
  rw [← (Prod.mk.inj last).1]
  rfl

theorem start_eq (setting : Producer.Setting) (name : String) (policy : Policy)
    (state : Policy.Logged) :
    (Producer.proxy name policy).start setting state =
      let prepared := prepare policy setting.environment setting.freshId state
      (prepared.1.log,
        match prepared.2 with
        | some error => Work.failed error
        | none => ⟨some prepared.1.request, (setting.backend prepared.1.request).mapResponse
            (finish policy setting.environment prepared.1.request)⟩) := by
  unfold Producer.start
  dsimp only
  rcases prepare policy setting.environment setting.freshId state with ⟨prepared, _ | error⟩ <;> rfl

theorem prepared_of_sent {setting : Producer.Setting} {name : String} {outbound : Request}
    (sent : ((Producer.proxy name policy).start setting state).2.sent = some outbound) :
    ∃ after, prepare policy setting.environment setting.freshId state = (after, none) ∧
      after.request = outbound := by
  rw [start_eq] at sent
  dsimp only at sent
  split at sent
  · cases sent
  · rename_i sound
    exact ⟨_, Prod.ext rfl sound, Option.some.inj sent⟩

/-- Whatever the policy writes, nothing private is sent, under no spelling of its name; and every
header that is not private, not the host and not named by a writer is sent with all of its values in
their order. -/
theorem private_headers_stay_behind (setting : Producer.Setting) (name : String) (policy : Policy)
    (state : Policy.Logged) (outbound : Request)
    (sent : ((Producer.proxy name policy).start setting state).2.sent = some outbound) :
    (∀ text header, HeaderName.parse? text = some header → Text.lower text ∈ privateNames →
      outbound.headers.getAll header = []) ∧
    ∀ header : HeaderName, header.text ∉ privateNames → header ≠ HeaderName.host →
      ¬policy.request.Names header →
      (∀ block, appliedBlock policy setting.environment setting.freshId state = some block →
        ¬block.request.Names header) →
      outbound.headers.getAll header = state.request.headers.getAll header := by
  obtain ⟨after, prepared, rfl⟩ := prepared_of_sent sent
  obtain ⟨changed, permitted, pointed, first, second, third, stripped⟩ := prepare_stages prepared
  constructor
  · -- whatever the stages before have written, the strip comes last
    intro text header parsed hidden
    rw [← HeaderName.text_of_parse parsed] at hidden
    rw [stripped, getAll_strip, if_pos hidden]
  · -- back through the stages: none of them touches a header that it does not name
    intro header shown notHost unnamed unnamedByBlock
    have blocks : ∀ block, changed.request.isUpgrade = true →
        policy.websockets.head? = some block → ¬block.request.Names header := by
      intro block asks listed
      apply unnamedByBlock block
      rw [appliedBlock, first, if_pos asks, listed]
    calc
      after.request.headers.getAll header = pointed.request.headers.getAll header := by
        rw [stripped, getAll_strip, if_neg shown]
      _ = permitted.request.headers.getAll header := getAll_applyUrl notHost third
      _ = changed.request.headers.getAll header := getAll_applyWebsockets blocks second
      _ = state.request.headers.getAll header := getAll_applyToRequest unnamed first

def proxyAuthorization : HeaderName := ⟨"proxy-authorization", by decide⟩

def keptHeader : HeaderName := ⟨"x-keep", by decide⟩

def word : HeaderValue := ⟨Utf8.encode "upgrade", by decide⟩

def intimateRequest : Request where
  method := .get
  uri := .root
  headers := .ofList [(.authorization, word), (keptHeader, word), (.connection, word),
    (.upgrade, word), (keptHeader, .empty)]
  body := .empty
  context := none

def indiscreetPolicy : Policy where
  request := { set := [("Authorization", "upgrade")], add := [("COOKIE", "upgrade")] }
  websockets := [{ request := { set := [("Proxy-Authorization", "upgrade")] } }]

def silentSetting : Producer.Setting where
  backend _ := .failed .clientDisconnect
  environment := []
  freshId := "id"

theorem indiscreet_prepared :
    ∃ after, prepare indiscreetPolicy [] "id" ⟨intimateRequest, []⟩ = (after, none) := by
  have plain : (Template.splitOpening "upgrade".toList).2 = none := by decide
  have valued : HeaderValue.parse? "upgrade" = some word := by decide
  have resolved : ∀ text name scope, HeaderName.parse? text = some name →
      HeaderChange.resolve scope text "upgrade" = .ok (name, word) :=
    fun _ _ _ named => HeaderChange.resolve_plain plain valued named
  let written : Request := { intimateRequest with
    headers := (intimateRequest.headers.insert .authorization word).append .cookie word }
  let allowed : Request := (written.withContext "id").mapContext fun context =>
    { context with allowWebsockets := true }
  let marked : Request := { allowed with
    headers := allowed.headers.insert proxyAuthorization word }
  have first : indiscreetPolicy.applyToRequest [] "id" ⟨intimateRequest, []⟩ =
      (⟨written, []⟩, none) := by
    have authorized := fun scope => resolved "Authorization" .authorization scope (by decide)
    have cooked := fun scope => resolved "COOKIE" .cookie scope (by decide)
    simp [Policy.applyToRequest, Policy.changeRequest, indiscreetPolicy, HeaderPolicy.apply,
      HeaderPolicy.changes, HeaderChange.applyAll, HeaderChange.apply, Except.map,
      authorized, cooked, Policy.recordLogFields, written]
  have asks : allowed.isUpgrade = true := by decide
  have second : applyWebsockets indiscreetPolicy [] "id" ⟨written, []⟩ = (⟨marked, []⟩, none) := by
    have proxied := fun scope =>
      resolved "Proxy-Authorization" proxyAuthorization scope (by decide)
    have permitted : permitUpgrade { request := { set := [("Proxy-Authorization", "upgrade")] } }
        [] "id" ⟨written, []⟩ = (⟨marked, []⟩, none) := by
      unfold permitUpgrade
      dsimp only
      rw [if_pos asks, andThen_eq_none]
      refine ⟨⟨marked, []⟩, ?_, rfl⟩
      simp [changeHeaders, Policy.changeRequest, HeaderPolicy.apply, HeaderPolicy.changes,
        HeaderChange.applyAll, HeaderChange.apply, Except.map, proxied, marked,
        allowed]
    exact permitted
  exact ⟨_, andThen_eq_none.mpr ⟨_, first, andThen_eq_none.mpr ⟨_, second,
    andThen_eq_none.mpr ⟨_, rfl, rfl⟩⟩⟩⟩

theorem private_headers_stay_behind_upgrade :
    ∃ outbound, ((Producer.proxy "p" indiscreetPolicy).start silentSetting
        ⟨intimateRequest, []⟩).2.sent = some outbound ∧
      outbound.headers.getAll proxyAuthorization = [] ∧
      outbound.headers.getAll keptHeader = [word, .empty] := by
  obtain ⟨after, prepared⟩ := indiscreet_prepared
  have sent : ((Producer.proxy "p" indiscreetPolicy).start silentSetting
      ⟨intimateRequest, []⟩).2.sent = some after.request := by
    have ready : prepare indiscreetPolicy silentSetting.environment silentSetting.freshId
        ⟨intimateRequest, []⟩ = (after, none) := prepared
    simp [Producer.start, ready]
  obtain ⟨hidden, kept⟩ := private_headers_stay_behind silentSetting "p" indiscreetPolicy
    ⟨intimateRequest, []⟩ after.request sent
  have unnamed : ¬indiscreetPolicy.request.Names keptHeader := by
    rintro ⟨text, listed, parsed⟩
    have named : text = "Authorization" ∨ text = "COOKIE" := by
      simpa [indiscreetPolicy] using listed
    rcases named with rfl | rfl
    · exact absurd parsed (by decide)
    · exact absurd parsed (by decide)
  have unnamedByBlock : ∀ block, appliedBlock indiscreetPolicy silentSetting.environment
      silentSetting.freshId ⟨intimateRequest, []⟩ = some block →
      ¬block.request.Names keptHeader := by
    intro block applied
    have own : block = { request := { set := [("Proxy-Authorization", "upgrade")] } } := by
      unfold appliedBlock at applied
      split at applied
      · exact (Option.some.inj applied).symm
      · cases applied
    rw [own]
    rintro ⟨text, listed, parsed⟩
    obtain rfl : text = "Proxy-Authorization" := by simpa using listed
    exact absurd parsed (by decide)
  refine ⟨after.request, sent, hidden "Proxy-Authorization" _ (by decide) (by decide), ?_⟩
  have arrived := kept keptHeader (by decide) (by decide) unnamed unnamedByBlock
  rw [arrived]
  decide

end Proxy

end Gateway
