import Gateway.Proofs.Forwarding
import Gateway.Proofs.References
import Gateway.Proofs.Serving
import Gateway.Proofs.Trimming
import Gateway.Service

/-!
No header injection. Whatever text a client gets into a template, it ends up in a header as it is
rendered or not at all: a rendering with a control character stops what it was made for, and the
headers are those from before. This holds at every place where headers are written, for the policies
of requests and responses, the block for upgrades, side requests, redirects, fixed responses, the
host of a destination, error pages, the id of a request and the list of allowed methods.
-/

namespace Gateway

/-- The bytes of a header value: none below the space but the tab, and no delete. -/
def CleanByte (byte : UInt8) : Prop := byte.toNat = 9 ∨ 32 ≤ byte.toNat ∧ byte.toNat ≠ 127

def Fits (text : String) : Prop := ∀ byte ∈ Utf8.encode text, CleanByte byte

/-- Headers as they may go over a connection: names are tokens in small letters, and no value holds a
control character but the tab. -/
def HeaderMap.Clean (headers : HeaderMap) : Prop :=
  ∀ name value, (name, value) ∈ headers.toList →
    isToken name.text = true ∧ Text.lower name.text = name.text ∧
      ∀ byte ∈ value.bytes, CleanByte byte

theorem isValueByte_iff (byte : UInt8) : isValueByte byte = true ↔ CleanByte byte := by
  simp only [isValueByte, CleanByte, Bool.or_eq_true, Bool.and_eq_true, decide_eq_true_eq]
  omega

namespace HeaderValue

variable {text : String} {value : HeaderValue}

theorem clean (value : HeaderValue) : ∀ byte ∈ value.bytes, CleanByte byte := by
  intro byte member
  rw [← isValueByte_iff]
  exact List.all_eq_true.mp value.valid byte member

theorem fits_iff_all : (Utf8.encode text).all isValueByte = true ↔ Fits text := by
  simp only [List.all_eq_true, isValueByte_iff, Fits]

instance (text : String) : Decidable (Fits text) :=
  decidable_of_iff _ fits_iff_all

theorem parse_eq_some_iff : parse? text = some value ↔ Fits text ∧ value.bytes = Utf8.encode text := by
  rw [← fits_iff_all, parse?, ofBytes?]
  constructor
  · intro parsed
    split at parsed
    · rename_i fits
      rw [← Option.some.inj parsed]
      exact ⟨fits, rfl⟩
    · contradiction
  · rintro ⟨fits, bytes⟩
    rw [dif_pos fits]
    cases value
    simp_all

theorem parse_eq_none_iff : parse? text = none ↔ ¬Fits text := by
  rw [← fits_iff_all, parse?, ofBytes?]
  split <;> simp_all

theorem exists_of_fits (fits : Fits text) : ∃ value, parse? text = some value := by
  cases parsed : parse? text with
  | none => exact absurd fits (parse_eq_none_iff.mp parsed)
  | some value => exact ⟨value, rfl⟩

end HeaderValue

/-- The types of names and values carry what makes headers clean. -/
theorem HeaderMap.clean (headers : HeaderMap) : headers.Clean := by
  intro name value _
  have valid := name.valid
  simp only [isHeaderName, Bool.and_eq_true, decide_eq_true_eq] at valid
  exact ⟨valid.1.1, valid.1.2, value.clean⟩

theorem cleanByte_of_small {code : Nat} (small : code < 256) :
    CleanByte code.toUInt8 ↔ code = 9 ∨ 32 ≤ code ∧ code ≠ 127 := by
  simp only [CleanByte, Nat.toUInt8, UInt8.toNat_ofNat', Nat.reducePow]
  rw [Nat.mod_eq_of_lt small]

theorem cleanByte_of_high {code : Nat} (high : 128 ≤ code) (small : code < 256) :
    CleanByte code.toUInt8 :=
  (cleanByte_of_small small).mpr (.inr (by omega))

theorem encodeChar_clean_iff (c : Char) : (∀ byte ∈ Utf8.encodeChar c, CleanByte byte) ↔
    c.toNat = 9 ∨ 32 ≤ c.toNat ∧ c.toNat ≠ 127 := by
  have bound : c.toNat < 0x110000 := by
    have valid := c.valid
    simp only [UInt32.isValidChar, Nat.isValidChar] at valid
    have code : c.toNat = c.val.toNat := rfl
    omega
  unfold Utf8.encodeChar
  dsimp only
  by_cases ascii : c.toNat < 0x80
  · rw [if_pos ascii, List.forall_mem_singleton, cleanByte_of_small (by omega)]
  · have high : c.toNat = 9 ∨ 32 ≤ c.toNat ∧ c.toNat ≠ 127 := by omega
    rw [if_neg ascii]
    refine iff_of_true ?_ high
    -- every byte of a longer encoding has its highest bit set
    intro byte member
    repeat' split at member
    all_goals
      simp only [List.mem_cons, List.not_mem_nil, or_false] at member
      rcases member with rfl | rfl | rfl | rfl <;> exact cleanByte_of_high (by omega) (by omega)

/-- A text fits exactly if it holds no control characters of ASCII but the tab. -/
theorem fits_iff_chars {text : String} :
    Fits text ↔ ∀ c ∈ text.toList, c.toNat = 9 ∨ 32 ≤ c.toNat ∧ c.toNat ≠ 127 := by
  simp only [Fits, Utf8.encode, Utf8.encodeChars, List.mem_flatMap, forall_exists_index, and_imp,
    ← encodeChar_clean_iff]
  constructor
  · exact fun all c member byte within => all byte c member within
  · exact fun all byte c member within => all c member byte within

theorem mem_intersperse {Item : Type} {separator item : Item} {items : List Item}
    (member : item ∈ items.intersperse separator) : item = separator ∨ item ∈ items := by
  fun_induction List.intersperse separator items <;> grind

theorem fits_of_tokens {texts : List String} (tokens : ∀ text ∈ texts, isToken text = true) :
    Fits (", ".intercalate texts) := by
  rw [fits_iff_chars]
  intro c member
  rw [String.toList_intercalate, List.intercalate, List.mem_flatten] at member
  obtain ⟨part, listed, within⟩ := member
  rcases mem_intersperse listed with rfl | written
  · have separator : ", ".toList.all (fun c => 32 ≤ c.toNat ∧ c.toNat ≠ 127) = true := by decide
    exact .inr (by simpa using List.all_eq_true.mp separator c within)
  · obtain ⟨text, among, rfl⟩ := List.mem_map.mp written
    have token := tokens text among
    rw [isToken, Bool.and_eq_true, List.all_eq_true] at token
    obtain ⟨above, below⟩ := isTokenChar_code (token.2 c within)
    exact .inr ⟨above.le, below.ne⟩

theorem ErrorPage.serve_of_unfit {page : ErrorPage} {request : Request}
    (unfit : ¬Fits page.contentType ∨ ¬Fits (RequestView.of request).requestId)
    (error : GatewayError) : page.serve request error = fallback := by
  unfold serve
  dsimp only
  split
  · rename_i typed identified
    rcases unfit with type | id
    · exact nomatch (HeaderValue.parse_eq_none_iff.mpr type).symm.trans typed
    · exact nomatch (HeaderValue.parse_eq_none_iff.mpr id).symm.trans identified
  · rfl

def unfitValue (name : String) : GatewayError :=
  .evaluation ("invalid value for header '" ++ name ++ "': " ++ HeaderValue.fault)

namespace Scope

/-- A template renders to what cannot stand in a header. -/
def Unfit (scope : Scope) (template : String) : Prop :=
  ∃ text, scope.render template = .ok text ∧ ¬Fits text

def Writes (scope : Scope) (field : String × String) (header : HeaderName) (value : HeaderValue) :
    Prop :=
  HeaderName.parse? field.1 = some header ∧
    ∃ text, scope.render field.2 = .ok text ∧ Fits text ∧ value.bytes = Utf8.encode text

end Scope

namespace HeaderChange

variable {scope : Scope} {headers after : HeaderMap} {header : HeaderName} {value : HeaderValue}

theorem resolve_of_unfit {template : String} (name : String) (unfit : scope.Unfit template) :
    resolve scope name template = .error (unfitValue name) := by
  obtain ⟨text, rendered, broken⟩ := unfit
  have refused : headerValue name text = .error (unfitValue name) := by
    rw [headerValue, HeaderValue.parse_eq_none_iff.mpr broken]
    rfl
  unfold resolve
  rw [rendered]
  simp only [bind, Except.bind, refused]

theorem writes_of_resolve {name template : String}
    (resolved : resolve scope name template = .ok (header, value)) :
    scope.Writes (name, template) header value := by
  have named := resolve_parsed resolved
  obtain ⟨text, rendered, rest⟩ := bind_eq_ok.mp resolved
  obtain ⟨read, valued, rest⟩ := bind_eq_ok.mp rest
  obtain ⟨found, _, pair⟩ := bind_eq_ok.mp rest
  obtain ⟨_, rfl⟩ := Prod.mk.inj (Except.ok.inj pair)
  unfold headerValue at valued
  split at valued
  · rename_i parsed found
    obtain ⟨fits, bytes⟩ := HeaderValue.parse_eq_some_iff.mp found
    rw [← Except.ok.inj valued]
    exact ⟨named, text, rendered, fits, bytes⟩
  · contradiction

theorem apply_rendered (scope : Scope) (change : HeaderChange) (headers : HeaderMap) :
    Rendered (change.apply scope headers) := by
  cases change with
  | remove name => exact (headerName_rendered name).map
  | set name template => exact (resolve_rendered scope name template).map
  | add name template => exact (resolve_rendered scope name template).map

theorem apply_of_unfit {change : HeaderChange} {template : String}
    (member : template ∈ change.templates) (unfit : scope.Unfit template) (headers : HeaderMap) :
    change.apply scope headers = .error (unfitValue change.name) := by
  cases change with
  | remove name => simp [templates] at member
  | set name written =>
      rw [List.mem_singleton.mp member] at unfit
      rw [apply, resolve_of_unfit name unfit]
      rfl
  | add name written =>
      rw [List.mem_singleton.mp member] at unfit
      rw [apply, resolve_of_unfit name unfit]
      rfl

theorem mem_getAll_apply {change : HeaderChange} (applied : change.apply scope headers = .ok after)
    (member : value ∈ after.getAll header) :
    value ∈ headers.getAll header ∨
      ∃ template ∈ change.templates, scope.Writes (change.name, template) header value := by
  cases change with
  | remove text =>
      obtain ⟨name, _, rfl⟩ := map_eq_ok.mp applied
      rw [HeaderMap.getAll_remove] at member
      split at member
      · contradiction
      · exact .inl member
  | set text template =>
      obtain ⟨⟨name, written⟩, resolved, rfl⟩ := map_eq_ok.mp applied
      rw [HeaderMap.getAll_insert] at member
      split at member
      · rename_i here
        rw [List.mem_singleton.mp member, ← here]
        exact .inr ⟨template, List.mem_singleton_self _, writes_of_resolve resolved⟩
      · exact .inl member
  | add text template =>
      obtain ⟨⟨name, written⟩, resolved, rfl⟩ := map_eq_ok.mp applied
      by_cases here : name = header
      · subst here
        rw [HeaderMap.getAll_append_self, List.mem_append, List.mem_singleton] at member
        rcases member with old | rfl
        · exact .inl old
        · exact .inr ⟨template, List.mem_singleton_self _, writes_of_resolve resolved⟩
      · rw [HeaderMap.getAll_append_of_ne here] at member
        exact .inl member

theorem mem_getAll_applyAll {changes : List HeaderChange}
    (member : value ∈ (applyAll scope headers changes).1.getAll header) :
    value ∈ headers.getAll header ∨ ∃ change ∈ changes, ∃ template ∈ change.templates,
      scope.Writes (change.name, template) header value := by
  induction changes generalizing headers with
  | nil => exact .inl member
  | cons change rest induction =>
      unfold applyAll at member
      split at member
      · rename_i after applied
        rcases induction member with old | ⟨other, listed, written⟩
        · rcases mem_getAll_apply applied old with older | written
          · exact .inl older
          · exact .inr ⟨change, List.mem_cons_self, written⟩
        · exact .inr ⟨other, List.mem_cons_of_mem _ listed, written⟩
      · exact .inl member

theorem applyAll_of_unfit {changes : List HeaderChange} {template : String}
    (member : template ∈ changes.flatMap templates) (unfit : scope.Unfit template)
    (headers : HeaderMap) :
    ∃ message, (applyAll scope headers changes).2 = some (.evaluation message) := by
  induction changes generalizing headers with
  | nil => simp at member
  | cons change rest induction =>
      rw [List.flatMap_cons, List.mem_append] at member
      unfold applyAll
      split
      · -- a change that has succeeded was not the one whose rendering does not fit
        rename_i after applied
        rcases member with here | there
        · rw [apply_of_unfit here unfit] at applied
          contradiction
        · exact induction there after
      · rename_i error failed
        have rendered := apply_rendered scope change headers
        rw [failed] at rendered
        obtain ⟨message, rfl⟩ := rendered
        exact ⟨message, rfl⟩

end HeaderChange

namespace HeaderPolicy

variable {policy : HeaderPolicy} {scope : Scope} {headers : HeaderMap}

def fields (policy : HeaderPolicy) : List (String × String) := policy.set ++ policy.add

theorem mem_getAll_apply {header : HeaderName} {value : HeaderValue}
    (member : value ∈ (policy.apply scope headers).1.getAll header) :
    value ∈ headers.getAll header ∨ ∃ field ∈ policy.fields, scope.Writes field header value := by
  rcases HeaderChange.mem_getAll_applyAll member with old | ⟨change, listed, template, own, written⟩
  · exact .inl old
  · right
    simp only [changes, List.mem_append, List.mem_map] at listed
    rcases listed with (⟨text, _, rfl⟩ | ⟨pair, listed, rfl⟩) | ⟨pair, listed, rfl⟩
    · simp [HeaderChange.templates] at own
    · rw [List.mem_singleton.mp own] at written
      exact ⟨pair, List.mem_append_left _ listed, written⟩
    · rw [List.mem_singleton.mp own] at written
      exact ⟨pair, List.mem_append_right _ listed, written⟩

theorem apply_of_unfit {template : String} (member : template ∈ policy.fields.map Prod.snd)
    (unfit : scope.Unfit template) (headers : HeaderMap) :
    ∃ message, (policy.apply scope headers).2 = some (.evaluation message) := by
  apply HeaderChange.applyAll_of_unfit _ unfit
  rw [templates_changes, templates, ← List.map_append]
  exact member

end HeaderPolicy

section

variable {scope : Scope} {fields : List (String × String)}

theorem not_unfit_of_renderHeaders {headers after : HeaderMap} {field : String × String}
    (rendered : renderHeaders scope headers fields = .ok after) (member : field ∈ fields) :
    ¬scope.Unfit field.2 := by
  intro unfit
  induction fields generalizing headers with
  | nil => simp at member
  | cons first rest induction =>
      obtain ⟨written, resolved, later⟩ := bind_eq_ok.mp rendered
      rcases List.mem_cons.mp member with rfl | there
      · rw [HeaderChange.resolve_of_unfit _ unfit] at resolved
        contradiction
      · exact induction later there

theorem mem_getAll_renderHeaders {headers after : HeaderMap} {header : HeaderName}
    {value : HeaderValue} (rendered : renderHeaders scope headers fields = .ok after)
    (member : value ∈ after.getAll header) :
    value ∈ headers.getAll header ∨ ∃ field ∈ fields, scope.Writes field header value := by
  induction fields generalizing headers with
  | nil =>
      rw [← Except.ok.inj rendered] at member
      exact .inl member
  | cons first rest induction =>
      obtain ⟨⟨name, written⟩, resolved, later⟩ := bind_eq_ok.mp rendered
      rcases induction later with old | ⟨field, listed, writes⟩
      · rw [HeaderMap.getAll_insert] at old
        split at old
        · rename_i here
          rw [List.mem_singleton.mp old, ← here]
          exact .inr ⟨first, List.mem_cons_self, HeaderChange.writes_of_resolve resolved⟩
        · exact .inl old
      · exact .inr ⟨field, List.mem_cons_of_mem _ listed, writes⟩

theorem renderHeaders_ok {after : HeaderMap} (rendered : renderHeaders scope .empty fields = .ok after) :
    (∀ field ∈ fields, ¬scope.Unfit field.2) ∧
      ∀ header value, value ∈ after.getAll header →
        ∃ field ∈ fields, scope.Writes field header value := by
  constructor
  · exact fun field member => not_unfit_of_renderHeaders rendered member
  · intro header value member
    rcases mem_getAll_renderHeaders rendered member with none | writes
    · contradiction
    · exact writes

end

namespace Redirect

variable {redirect : Redirect} {environment : Environment} {view : RequestView}

def fields (redirect : Redirect) : List (String × String) :=
  ("location", redirect.url) :: redirect.headers

theorem toResponse_rendered {status : Status} (valid : redirect.statusOf = .ok status) :
    Rendered (redirect.toResponse environment view) := by
  unfold toResponse
  rw [valid]
  apply (Scope.render_rendered _ redirect.url).bind
  intro location
  apply (headerValue_rendered "location" location).bind
  intro value
  exact (renderHeaders_rendered _ _ redirect.headers).bind fun _ => .ok _

theorem toResponse_ok {response : Response}
    (made : redirect.toResponse environment view = .ok response) :
    (∀ field ∈ redirect.fields, ¬(Scope.ofRequest environment view).Unfit field.2) ∧
    ∀ header value, value ∈ response.headers.getAll header →
      ∃ field ∈ redirect.fields, (Scope.ofRequest environment view).Writes field header value := by
  obtain ⟨status, _, rest⟩ := bind_eq_ok.mp made
  obtain ⟨text, rendered, rest⟩ := bind_eq_ok.mp rest
  obtain ⟨location, valued, rest⟩ := bind_eq_ok.mp rest
  obtain ⟨headers, written, answered⟩ := bind_eq_ok.mp rest
  obtain rfl := Except.ok.inj answered
  have first : HeaderChange.resolve (Scope.ofRequest environment view) "location" redirect.url =
      .ok (HeaderName.location, location) :=
    bind_eq_ok.mpr ⟨text, rendered, bind_eq_ok.mpr ⟨location, valued, rfl⟩⟩
  constructor
  · intro field configured
    rcases List.mem_cons.mp configured with rfl | other
    · intro unfit
      rw [HeaderChange.resolve_of_unfit _ unfit] at first
      contradiction
    · exact not_unfit_of_renderHeaders written other
  · intro header value member
    rcases mem_getAll_renderHeaders written member with old | ⟨field, configured, writes⟩
    · rw [HeaderMap.getAll_insert] at old
      split at old
      · rename_i here
        rw [List.mem_singleton.mp old, ← here]
        exact ⟨_, List.mem_cons_self, HeaderChange.writes_of_resolve first⟩
      · contradiction
    · exact ⟨field, List.mem_cons_of_mem _ configured, writes⟩

end Redirect

namespace StaticResponse

variable {answer : StaticResponse} {environment : Environment} {view : RequestView}

def statusOf (answer : StaticResponse) : Except GatewayError Status :=
  match answer.status with
  | some code => configuredStatus code
  | none => .ok Status.ok

theorem toResponse_rendered {status : Status} (valid : answer.statusOf = .ok status) :
    Rendered (answer.toResponse environment view) := by
  rw [toResponse_eq]
  change Rendered (answer.statusOf >>= _)
  rw [valid]
  apply (Rendered.ok status).bind
  intro status
  apply Rendered.bind
  · split
    · exact (Scope.render_rendered _ _).map
    · exact .ok _
  · intro body
    exact (renderHeaders_rendered _ _ answer.headers).bind fun _ => .ok _

theorem toResponse_ok {response : Response}
    (made : answer.toResponse environment view = .ok response) :
    (∀ field ∈ answer.headers, ¬(Scope.ofRequest environment view).Unfit field.2) ∧
    ∀ header value, value ∈ response.headers.getAll header →
      ∃ field ∈ answer.headers, (Scope.ofRequest environment view).Writes field header value := by
  rw [toResponse_eq] at made
  obtain ⟨status, _, rest⟩ := bind_eq_ok.mp made
  obtain ⟨body, _, rest⟩ := bind_eq_ok.mp rest
  obtain ⟨headers, written, answered⟩ := bind_eq_ok.mp rest
  obtain rfl := Except.ok.inj answered
  exact renderHeaders_ok written

end StaticResponse

namespace SideRequest

variable {side : SideRequest} {environment : Environment} {request outbound : Request}

/-- A side request that gets as far as its body and its headers fails in evaluation if at all. -/
theorem prepare_rendered {url : String} {uri : Uri}
    (target : (Scope.ofRequest environment (RequestView.of request)).render side.block.url = .ok url)
    (parsed : SideRequest.target side.block.name url = .ok uri) :
    Rendered (side.prepare environment request) := by
  unfold prepare
  dsimp only
  rw [target]
  change Rendered (SideRequest.target side.block.name url >>= _)
  rw [parsed]
  apply (Rendered.ok uri).bind
  intro uri
  apply Rendered.bind
  · unfold renderBody
    split
    · exact (Scope.render_rendered _ _).map
    · exact .ok _
  · intro body
    exact (renderHeaders_rendered _ _ side.block.headers).bind fun _ => .ok _

theorem prepare_ok (made : side.prepare environment request = .ok outbound) :
    (∀ field ∈ side.block.headers,
      ¬(Scope.ofRequest environment (RequestView.of request)).Unfit field.2) ∧
    ∀ header value, value ∈ outbound.headers.getAll header → ∃ field ∈ side.block.headers,
      (Scope.ofRequest environment (RequestView.of request)).Writes field header value := by
  obtain ⟨url, _, rest⟩ := bind_eq_ok.mp made
  obtain ⟨uri, _, rest⟩ := bind_eq_ok.mp rest
  obtain ⟨body, _, rest⟩ := bind_eq_ok.mp rest
  obtain ⟨headers, rendered, made⟩ := bind_eq_ok.mp rest
  obtain rfl := Except.ok.inj made
  exact renderHeaders_ok rendered

end SideRequest

end Gateway
