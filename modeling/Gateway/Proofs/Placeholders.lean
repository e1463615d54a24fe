import Gateway.Proofs.Filling
import Gateway.Proofs.HeaderSafety
import Gateway.Proofs.Utf8

/-!
Error pages in one pass. A template is a sequence of characters and slots, read from left to right.
The page replaces the placeholders one after the other; this comes to writing the values into the
slots of the template, as long as no value, where it stands, makes a placeholder that is replaced
later. The values of the gateway's own never do. The id of a request is the client's, and it does if
it reads as the placeholder of the path.
-/

namespace Gateway

theorem Body.ofText_inj {left right : String} : ofText left = ofText right ↔ left = right := by
  constructor
  · intro same
    have chunks := congrArg Body.chunks same
    exact Utf8.encode_injective (List.cons.inj chunks).1
  · rintro rfl
    rfl

namespace ErrorPage

open Text

inductive Slot where
  | status
  | message
  | requestId
  | path
  deriving DecidableEq, Repr

namespace Slot

def all : List Slot := [status, message, requestId, path]

def name : Slot → String
  | status => "status_code"
  | message => "message"
  | requestId => "request_id"
  | path => "path"

def pattern (slot : Slot) : List Char :=
  (placeholder slot.name).toList

def tail (slot : Slot) : List Char :=
  slot.name.toList ++ ['\x7d', '\x7d']

theorem pattern_eq (slot : Slot) : slot.pattern = '\x7b' :: '\x7b' :: slot.tail := by
  cases slot <;> rfl

theorem pattern_ne_nil (slot : Slot) : slot.pattern ≠ [] := by
  rw [pattern_eq]
  exact List.cons_ne_nil _ _

theorem head?_pattern (slot : Slot) : slot.pattern.head? = some '\x7b' := by
  rw [pattern_eq]
  rfl

theorem tail_ne_nil (slot : Slot) : slot.tail ≠ [] := by
  cases slot <;> decide

theorem tail_unopened (slot : Slot) : '\x7b' ∉ slot.tail := by
  cases slot <;> decide

theorem unbordered (slot : Slot) : Unbordered slot.pattern := by
  cases slot <;> decide

theorem mem_all (slot : Slot) : slot ∈ all := by
  cases slot <;> decide

theorem head_tail_inj {slot other : Slot} (same : slot.tail.head? = other.tail.head?) :
    slot = other := by
  revert same
  cases slot <;> cases other <;> decide

end Slot

abbrev fields (template : String) : List (Piece Slot) :=
  pieces Slot.pattern Slot.all 0 template.toList

/-- The template with values in the places of its placeholders, in one pass. -/
def fill (values : Slot → String) (template : String) : String :=
  String.ofList (text (fun slot => (values slot).toList) (fields template))

theorem tight_fields (template : String) :
    Tight Slot.pattern Slot.all (fields template) ∧
      text Slot.pattern (fields template) = template.toList :=
  tight_pieces (fun slot _ => slot.pattern_ne_nil) _

/-- A value without braces that holds a character which no placeholder holds. -/
structure Inert (value : List Char) : Prop where
  opening : '\x7b' ∉ value
  closing : '\x7d' ∉ value
  foreign : ∃ c ∈ value, ∀ slot ∈ Slot.all, c ∉ slot.pattern

instance (value : List Char) : Decidable (Inert value) :=
  decidable_of_iff ('\x7b' ∉ value ∧ '\x7d' ∉ value ∧
      value.any (fun c => decide (∀ slot ∈ Slot.all, c ∉ slot.pattern)) = true)
    ⟨fun ⟨opening, closing, foreign⟩ => ⟨opening, closing, by simpa using foreign⟩,
      fun ⟨opening, closing, foreign⟩ => ⟨opening, closing, by simpa using foreign⟩⟩

theorem mem_tail_of_drop {slot : Slot} {start : Nat} {c : Char} {rest : List Char}
    (late : slot.pattern.drop (start + 2) = c :: rest) : c ∈ slot.tail := by
  rw [slot.pattern_eq, List.drop_succ_cons, List.drop_succ_cons] at late
  exact List.mem_of_mem_drop (late ▸ List.mem_cons_self)

theorem closing_mem_drop {slot : Slot} {start : Nat} (inside : start < slot.pattern.length) :
    '\x7d' ∈ slot.pattern.drop start := by
  have last : slot.pattern.getLast? = some '\x7d' := by cases slot <;> rfl
  have kept : (slot.pattern.drop start).getLast? = some '\x7d' := by
    rw [List.getLast?_drop, if_neg (by omega), last]
  exact List.mem_of_getLast? kept

theorem not_prefix_pattern {slot other : Slot} {start : Nat} (positive : 0 < start)
    (inside : start < slot.pattern.length) (back : List Char) :
    ¬slot.pattern.drop start <+: other.pattern ++ back := by
  intro stands
  rw [other.pattern_eq] at stands
  match start, positive with
  | 1, _ =>
      rw [slot.pattern_eq, List.drop_succ_cons, List.drop_zero, List.cons_append,
        List.cons_prefix_cons] at stands
      cases behind : slot.tail with
      | nil => exact absurd behind (by cases slot <;> decide)
      | cons c rest =>
          rw [behind, List.cons_append, List.cons_prefix_cons] at stands
          exact slot.tail_unopened (by rw [behind, stands.2.1]; exact List.mem_cons_self)
  | late + 2, _ =>
      cases ending : slot.pattern.drop (late + 2) with
      | nil =>
          rw [List.drop_eq_nil_iff] at ending
          omega
      | cons c rest =>
          rw [ending, List.cons_append, List.cons_prefix_cons] at stands
          exact slot.tail_unopened (stands.1 ▸ mem_tail_of_drop ending)

theorem not_prefix_inert {slot : Slot} {start : Nat} (inside : start < slot.pattern.length)
    {value : List Char} (inert : Inert value) (back : List Char) :
    ¬slot.pattern.drop start <+: value ++ back := by
  intro stands
  rcases Nat.le_total (slot.pattern.drop start).length value.length with short | long
  · have within := List.prefix_of_prefix_length_le stands (List.prefix_append value back) short
    exact inert.closing (within.subset (closing_mem_drop inside))
  · have within := List.prefix_of_prefix_length_le (List.prefix_append value back) stands long
    obtain ⟨c, member, foreign⟩ := inert.foreign
    exact foreign slot slot.mem_all (List.mem_of_mem_drop (within.subset member))

theorem prefix_of_filling {values : Slot → List Char} {done : List Slot} {slot : Slot}
    (inert : ∀ other ∈ done, Inert (values other)) {start : Nat} (positive : 0 < start)
    {pieces : List (Piece Slot)}
    (stands : slot.pattern.drop start <+: text (filling Slot.pattern values done) pieces) :
    slot.pattern.drop start <+: text Slot.pattern pieces := by
  induction pieces generalizing start with
  | nil => exact stands
  | cons piece rest induction =>
      rcases Nat.lt_or_ge start slot.pattern.length with inside | outside
      · cases piece with
        | char c =>
            rw [text_char, List.drop_eq_getElem_cons inside, List.cons_prefix_cons] at stands ⊢
            exact ⟨stands.1, induction (Nat.succ_pos start) stands.2⟩
        | place other =>
            rw [text_place, filling] at stands
            split at stands
            · rename_i finished
              exact absurd stands (not_prefix_inert inside (inert other finished) _)
            · exact absurd stands (not_prefix_pattern positive inside _)
      · rw [List.drop_eq_nil_of_le outside]
        exact List.nil_prefix

/-- A placeholder does not stand in another one, nor across its end. -/
theorem strayFree_pattern {slot other : Slot} (different : other ≠ slot) {marked : Marked}
    (free : StrayFree slot.pattern marked) :
    StrayFree slot.pattern (other.pattern.map some ++ marked) := by
  have behind : StrayFree slot.pattern (other.tail.map some ++ marked) :=
    free.plain_append slot.head?_pattern other.tail_unopened
  obtain ⟨c, rest, other_tail⟩ := List.exists_cons_of_ne_nil other.tail_ne_nil
  obtain ⟨d, more, own_tail⟩ := List.exists_cons_of_ne_nil slot.tail_ne_nil
  rw [other.pattern_eq, List.map_cons, List.map_cons, List.cons_append, List.cons_append]
  refine ⟨?_, ?_, behind⟩
  · -- both have two braces in front, and the characters behind them differ
    intro stands
    rw [slot.pattern_eq, own_tail, other_tail] at stands
    simp only [List.map_cons, List.cons_append, written_some, List.cons_prefix_cons] at stands
    apply different
    apply Slot.head_tail_inj
    rw [own_tail, other_tail, stands.2.2.1]
    rfl
  · intro stands
    rw [slot.pattern_eq, other_tail] at stands
    simp only [List.map_cons, List.cons_append, written_some, List.cons_prefix_cons] at stands
    exact other.tail_unopened (by rw [other_tail, ← stands.2.1]; exact List.mem_cons_self)

/-- Where inert values have been written, the placeholders of a slot are still in its places only. -/
theorem strayFree_marked {values : Slot → List Char} {done : List Slot} {slot : Slot}
    {pieces : List (Piece Slot)} (tight : Tight Slot.pattern Slot.all pieces) (fresh : slot ∉ done)
    (inert : ∀ other ∈ done, Inert (values other)) :
    StrayFree slot.pattern (marked (filling Slot.pattern values done) slot pieces) := by
  induction tight with
  | nil => trivial
  | place other tight induction =>
      rw [marked_cons, Piece.marked]
      by_cases same : other = slot
      · rw [if_pos same]
        exact induction
      · rw [if_neg same, filling]
        split
        · rename_i finished
          exact induction.plain_append slot.head?_pattern (inert other finished).opening
        · exact strayFree_pattern same induction
  | @char c rest apart tight induction =>
      rw [marked_cons]
      refine ⟨?_, induction⟩
      intro stands
      change slot.pattern <+:
        c :: written slot.pattern (marked (filling Slot.pattern values done) slot rest) at stands
      rw [written_marked, update_filling fresh] at stands
      have filled := List.length_pos_iff.mpr slot.pattern_ne_nil
      have apart := apart slot slot.mem_all
      rw [← @List.drop_zero _ slot.pattern, List.drop_eq_getElem_cons filled,
        List.cons_prefix_cons] at stands apart
      exact apart ⟨stands.1, prefix_of_filling inert Nat.one_pos stands.2⟩

/-- The placeholder of a slot stands in a template as often as there are slots. -/
theorem occurrences_template (slot : Slot) (template : String) :
    occurrences slot.pattern template.toList = (fields template).count (.place slot) := by
  obtain ⟨tight, whole⟩ := tight_fields template
  have fresh : slot ∉ ([] : List Slot) := List.not_mem_nil
  have free := @strayFree_marked (fun _ => []) [] slot _ tight fresh (by simp)
  have counted := (marks_le_occurrences slot.pattern_ne_nil slot.unbordered _).2.mp free
  rw [written_marked, update_filling fresh, filling_nil, whole, marks_marked] at counted
  exact counted

/-- While the values in the other slots are inert, replacing a placeholder fills its slots. -/
theorem replace_filling (values : Slot → String) (template : String) {done : List Slot}
    {slot : Slot} (fresh : slot ∉ done) (inert : ∀ other ∈ done, Inert (values other).toList) :
    let chars := fun slot => (values slot).toList
    Text.replace (String.ofList (text (filling Slot.pattern chars done) (fields template)))
        (placeholder slot.name) (values slot) =
      String.ofList (text (filling Slot.pattern chars (slot :: done)) (fields template)) := by
  dsimp only
  rw [Text.replace, String.toList_ofList]
  congr 1
  exact replaceFrom_filling slot.pattern_ne_nil fresh
    (strayFree_marked (tight_fields template).1 fresh inert)

def statuses : List Nat := [400, 405, 413, 500, 502, 504]

theorem status_mem (error : GatewayError) : error.status ∈ statuses := by
  cases error <;> simp [statuses, GatewayError.status]

theorem valid_status (error : GatewayError) :
    ∃ status, Status.ofNat? error.status = some status := by
  have all : ∀ code ∈ statuses, (Status.ofNat? code).isSome := by decide
  exact Option.isSome_iff_exists.mp (all _ (status_mem error))

def messages : List String :=
  ["backend error", "backend timeout", "request body too large", "method not allowed",
    "bad request", "internal server error"]

theorem clientMessage_mem (error : GatewayError) : error.clientMessage ∈ messages := by
  unfold GatewayError.clientMessage messages
  split_ifs <;> simp

theorem inert_status (error : GatewayError) : Inert (toString error.status).toList := by
  have all : ∀ code ∈ statuses, Inert (toString code).toList := by decide
  exact all _ (status_mem error)

theorem inert_message (error : GatewayError) : Inert error.clientMessage.toList := by
  have all : ∀ message ∈ messages, Inert message.toList := by decide
  exact all _ (clientMessage_mem error)

theorem escape_clientMessage (page : ErrorPage) (error : GatewayError) :
    page.escape error.clientMessage = error.clientMessage := by
  have json : ∀ message ∈ messages, unquote (Json.compact (.str message)) = message := by
    decide
  have html : ∀ message ∈ messages, escapeHtml message = message := by decide
  unfold escape
  split
  · exact json _ (clientMessage_mem error)
  · split
    · exact html _ (clientMessage_mem error)
    · rfl

def values (page : ErrorPage) (request : Request) (error : GatewayError) : Slot → String
  | .status => toString error.status
  | .message => page.escape error.clientMessage
  | .requestId => page.escape (RequestView.of request).requestId
  | .path => page.escape request.uri.path

theorem inert_own (page : ErrorPage) (request : Request) (error : GatewayError) {slot : Slot}
    (own : slot ∈ [Slot.message, .status]) : Inert (page.values request error slot).toList := by
  have message : Inert (page.escape error.clientMessage).toList := by
    rw [escape_clientMessage]
    exact inert_message error
  cases slot with
  | status => exact inert_status error
  | message => exact message
  | requestId => exact absurd own (by decide)
  | path => exact absurd own (by decide)

variable {page : ErrorPage} {request : Request} {error : GatewayError}

theorem serve_of_fits (typed : Fits page.contentType)
    (identified : Fits (RequestView.of request).requestId) :
    ∃ status contentType id,
      page.serve request error =
        { status
          headers := (HeaderMap.empty.append HeaderName.contentType contentType).append
            HeaderName.requestId id
          body := Body.ofText (page.render error.status error.clientMessage
            (RequestView.of request).requestId request.uri.path) } := by
  obtain ⟨status, valid⟩ := valid_status error
  obtain ⟨contentType, typing⟩ := HeaderValue.exists_of_fits typed
  obtain ⟨id, identifying⟩ := HeaderValue.exists_of_fits identified
  refine ⟨status, contentType, id, ?_⟩
  cases held : request.context <;> simp_all only [serve, RequestView.of]

theorem serve_ne_fallback_iff : page.serve request error ≠ fallback ↔
    Fits page.contentType ∧ Fits (RequestView.of request).requestId := by
  constructor
  · intro sent
    by_contra unfit
    exact sent (serve_of_unfit (not_and_or.mp unfit) error)
  · rintro ⟨typed, identified⟩ failed
    obtain ⟨status, contentType, id, served⟩ := @serve_of_fits page request error typed identified
    rw [served] at failed
    have headers := congrArg (fun response => response.headers.getAll HeaderName.requestId) failed
    simp only [HeaderMap.getAll_append_self] at headers
    exact List.append_ne_nil_of_right_ne_nil _ (List.cons_ne_nil id []) headers

theorem filling_all (values : Slot → List Char) :
    filling Slot.pattern values [.path, .requestId, .message, .status] = values := by
  funext slot
  cases slot <;> rfl

theorem filling_others (values : Slot → String) :
    filling Slot.pattern (fun slot => (values slot).toList) [.requestId, .message, .status] =
      fun slot => (Function.update values .path (placeholder "path") slot).toList := by
  funext slot
  by_cases last : slot = .path
  · subst last
    rw [Function.update_self]
    rfl
  · have done : slot ∈ [Slot.requestId, .message, .status] := by
      cases slot <;> simp_all
    rw [Function.update_of_ne last, filling, if_pos done]

theorem render_eq_foldl (page : ErrorPage) (request : Request) (error : GatewayError) :
    page.render error.status error.clientMessage (RequestView.of request).requestId
        request.uri.path =
      Slot.all.foldl (fun text slot =>
        Text.replace text (placeholder slot.name) (page.values request error slot))
        page.template :=
  rfl

/-- Before the path is written, the other slots are filled, whatever the id of the request is. -/
theorem render_eq_replace (page : ErrorPage) (request : Request) (error : GatewayError) :
    let values := page.values request error
    page.render error.status error.clientMessage (RequestView.of request).requestId
        request.uri.path =
      Text.replace (fill (Function.update values .path (placeholder "path")) page.template)
        (placeholder "path") (values .path) := by
  intro values
  have own {slot : Slot} (listed : slot ∈ [Slot.message, .status]) : Inert (values slot).toList :=
    inert_own page request error listed
  have withStatus := @replace_filling values page.template [] .status (by decide) (by simp)
  have withMessage := @replace_filling values page.template [.status] .message (by decide)
    fun slot listed => own (List.mem_cons_of_mem _ listed)
  have withId := @replace_filling values page.template [.message, .status] .requestId (by decide)
    fun slot listed => own listed
  dsimp only at withStatus withMessage withId
  rw [filling_nil, (tight_fields _).2, String.ofList_toList] at withStatus
  rw [render_eq_foldl, Slot.all, List.foldl_cons, List.foldl_cons, List.foldl_cons, List.foldl_cons,
    List.foldl_nil, withStatus, withMessage, withId, filling_others]
  rfl

theorem body_serve (sent : page.serve request error ≠ fallback) :
    (page.serve request error).body =
      Body.ofText (page.render error.status error.clientMessage
        (RequestView.of request).requestId request.uri.path) := by
  obtain ⟨typed, identified⟩ := serve_ne_fallback_iff.mp sent
  obtain ⟨_, _, _, served⟩ := @serve_of_fits page request error typed identified
  rw [served]

/-- An error page that is sent is its template, filled with the values of the slots and then with
the path wherever the placeholder of the path stands. This comes to filling all slots of the template
at once exactly if the placeholder stands at no more places than in the template: an id of the
request that spells it is taken for it. -/
theorem serves_filled_template (page : ErrorPage) (request : Request) (error : GatewayError)
    (sent : page.serve request error ≠ fallback) :
    let values := page.values request error
    let withId := fill (Function.update values .path (placeholder "path")) page.template
    (page.serve request error).body =
        Body.ofText (Text.replace withId (placeholder "path") (values .path)) ∧
      ((page.serve request error).body = Body.ofText (fill values page.template) ↔
        occurrences Slot.path.pattern withId.toList =
            occurrences Slot.path.pattern page.template.toList ∨
          values .path = placeholder "path") := by
  intro values withId
  have body : (page.serve request error).body =
      Body.ofText (Text.replace withId (placeholder "path") (values .path)) := by
    rw [body_serve sent, render_eq_replace]
  refine ⟨body, ?_⟩
  have others : withId.toList = text (filling Slot.pattern (fun slot => (values slot).toList)
      [.requestId, .message, .status]) (fields page.template) := by
    rw [filling_others]
    exact String.toList_ofList
  have law := @replaceFrom_filling_iff _ _ Slot.pattern (fun slot => (values slot).toList)
    [.requestId, .message, .status] .path Slot.path.pattern_ne_nil Slot.path.unbordered (by decide)
    (fields page.template)
  rw [filling_all, ← others, ← occurrences_template] at law
  rw [body, Body.ofText_inj, ← String.toList_inj, Text.replace, fill, String.toList_ofList,
    String.toList_ofList, ← String.toList_inj]
  exact law

def mirror : ErrorPage :=
  ⟨"text/plain", "\x7b\x7brequest_id\x7d\x7d \x7b\x7bpath\x7d\x7d"⟩

def requestFor (id path : String) : Request :=
  { (default : Request) with
    uri := ⟨none, none, path, none⟩
    context := some { requestId := id } }

/-- Other placeholders are text in an id, and so is the placeholder of the path in a path. -/
theorem serves_filled_template_mirrored :
    let request := requestFor (placeholder "message") ("/" ++ placeholder "path")
    mirror.serve request .clientDisconnect ≠ fallback ∧
      (mirror.serve request .clientDisconnect).body =
        Body.ofText "\x7b\x7bmessage\x7d\x7d /\x7b\x7bpath\x7d\x7d" := by
  intro request
  have sent : mirror.serve request .clientDisconnect ≠ fallback := by
    rw [serve_ne_fallback_iff]
    decide
  have whole : fill (mirror.values request .clientDisconnect) mirror.template =
      "\x7b\x7bmessage\x7d\x7d /\x7b\x7bpath\x7d\x7d" := by decide +kernel
  have apart := (serves_filled_template mirror request .clientDisconnect sent).2
  rw [whole] at apart
  exact ⟨sent, apart.mpr (.inl (by decide +kernel))⟩

/-- The path is written for an id that reads as its placeholder. -/
theorem id_taken_for_placeholder :
    let request := requestFor (placeholder "path") "/a"
    mirror.serve request .clientDisconnect ≠ fallback ∧
      (mirror.serve request .clientDisconnect).body = Body.ofText "/a /a" ∧
      (mirror.serve request .clientDisconnect).body ≠
        Body.ofText (fill (mirror.values request .clientDisconnect) mirror.template) := by
  decide +kernel

end ErrorPage

end Gateway
