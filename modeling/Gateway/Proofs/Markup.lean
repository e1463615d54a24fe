import Gateway.Proofs.Placeholders

/-!
Markup in error pages. What is written for a character of markup is an entity, which holds none. A
page in HTML therefore has the markup of its template, in the order of the template, whatever a client
puts into the id and the path of its request. Nothing is lost either: reading the entities gives the
value back.
-/

namespace Gateway

namespace Text

def substitute : List (Char × String) → Char → List Char
  | [], c => [c]
  | rule :: rules, c => if c = rule.1 then rule.2.toList else substitute rules c

theorem substitute_cases (rules : List (Char × String)) (c : Char) :
    (∃ rule ∈ rules, rule.1 = c ∧ substitute rules c = rule.2.toList) ∨
      (∀ rule ∈ rules, rule.1 ≠ c) ∧ substitute rules c = [c] := by
  induction rules with
  | nil => exact .inr ⟨by simp, rfl⟩
  | cons rule rules induction =>
      rw [substitute]
      by_cases here : c = rule.1
      · rw [if_pos here]
        exact .inl ⟨rule, List.mem_cons_self, here.symm, rfl⟩
      · rw [if_neg here]
        obtain ⟨later, member, found⟩ | ⟨apart, same⟩ := induction
        · exact .inl ⟨later, List.mem_cons_of_mem _ member, found⟩
        · refine .inr ⟨?_, same⟩
          rw [List.forall_mem_cons]
          exact ⟨Ne.symm here, apart⟩

theorem flatMap_substitute_of_free {rules : List (Char × String)} {chars : List Char}
    (free : ∀ rule ∈ rules, rule.1 ∉ chars) : chars.flatMap (substitute rules) = chars := by
  induction chars with
  | nil => rfl
  | cons c rest induction =>
      obtain ⟨rule, member, rfl, _⟩ | ⟨_, same⟩ := substitute_cases rules c
      · exact absurd List.mem_cons_self (free rule member)
      · rw [List.flatMap_cons, same,
          induction fun rule member within => free rule member (List.mem_cons_of_mem _ within)]
        rfl

/-- Replacing one character after the other replaces all of them at once, if no rule writes a
character that a later rule replaces. -/
theorem toList_foldl_replace {rules : List (Char × String)}
    (ordered : rules.Pairwise fun rule later => later.1 ∉ rule.2.toList) (text : String) :
    (rules.foldl (fun written rule =>
      replace written (String.singleton rule.1) rule.2) text).toList =
      text.toList.flatMap (substitute rules) := by
  induction ordered generalizing text with
  | nil => exact List.flatMap_singleton' _ |>.symm
  | @cons rule rules apart _ induction =>
      rw [List.foldl_cons, induction, replace, String.toList_ofList, String.toList_singleton,
        replaceFrom_singleton, List.flatMap_assoc]
      congr 1
      funext c
      rw [substitute]
      split
      · exact flatMap_substitute_of_free apart
      · exact List.flatMap_singleton _ _

end Text

namespace ErrorPage

open Text

/-- Later entities do not replace characters of earlier ones, for the ampersand is the first. -/
theorem toList_escapeHtml (value : String) :
    (escapeHtml value).toList = value.toList.flatMap (substitute entities) := by
  apply toList_foldl_replace
  decide

/-- The characters that tags and their attributes are made of. -/
def isMarkup (c : Char) : Bool :=
  c = '<' || c = '>' || c = '"' || c = '\x27'

theorem exists_entity_of_isMarkup {c : Char} (mark : isMarkup c = true) :
    ∃ entity ∈ entities, entity.1 = c := by
  simp only [isMarkup, Bool.or_eq_true, decide_eq_true_eq] at mark
  rcases mark with ((rfl | rfl) | rfl) | rfl <;> decide

theorem filter_escapeHtml (value : String) : (escapeHtml value).toList.filter isMarkup = [] := by
  have entityFree : ∀ entity ∈ entities, entity.2.toList.filter isMarkup = [] := by decide
  rw [toList_escapeHtml, List.filter_flatMap, List.flatMap_eq_nil_iff]
  intro c _
  obtain ⟨entity, member, _, written⟩ | ⟨other, same⟩ := substitute_cases entities c
  · rw [written]
    exact entityFree entity member
  · rw [same, List.filter_cons_of_neg, List.filter_nil]
    intro mark
    obtain ⟨entity, member, key⟩ := exists_entity_of_isMarkup mark
    exact other entity member key

def entityChars (entity : Char × String) : List Char := entity.2.toList

/-- The text with the characters that its entities stand for, read in one pass. -/
def unescapeHtml (text : String) : String :=
  String.ofList (Text.text (fun entity => [entity.1]) (pieces entityChars entities 0 text.toList))

theorem kindAt?_entity {entity : Char × String} (member : entity ∈ entities) (rest : List Char) :
    kindAt? entityChars entities (entityChars entity ++ rest) = some entity := by
  have apart : ∀ entity ∈ entities, ∀ other ∈ entities,
      entityChars other <+: entityChars entity ∨ entityChars entity <+: entityChars other →
        other = entity := by
    decide
  cases found : kindAt? entityChars entities (entityChars entity ++ rest) with
  | none => exact absurd (List.prefix_append _ _) (kindAt?_eq_none_iff.mp found entity member)
  | some other =>
      obtain ⟨known, stands⟩ := kindAt?_eq_some found
      congr 1
      exact apart entity member other known
        (List.prefix_or_prefix_of_prefix stands (List.prefix_append _ _))

theorem kindAt?_other {c : Char} (other : c ≠ '&') (rest : List Char) :
    kindAt? entityChars entities (c :: rest) = none := by
  have headed : ∀ entity ∈ entities, (entityChars entity).head? = some '&' := by decide
  rw [kindAt?_eq_none_iff]
  intro entity member stands
  obtain ⟨more, spelled⟩ := List.head?_eq_some_iff.mp (headed entity member)
  rw [spelled, List.cons_prefix_cons] at stands
  exact other stands.1.symm

theorem unescapeHtml_escapeHtml (value : String) : unescapeHtml (escapeHtml value) = value := by
  have filled : ∀ entity ∈ entities, entityChars entity ≠ [] := by decide
  rw [← String.toList_inj, unescapeHtml, String.toList_ofList, toList_escapeHtml]
  induction value.toList with
  | nil => rfl
  | cons c rest induction =>
      rw [List.flatMap_cons]
      obtain ⟨entity, member, key, written⟩ | ⟨other, same⟩ := substitute_cases entities c
      · rw [written, ← entityChars, pieces_place (filled entity member) (kindAt?_entity member _),
          text_place, induction, key]
        rfl
      · have plain : c ≠ '&' := (other ('&', "&amp;") (by decide)).symm
        rw [same, List.singleton_append, pieces_char (kindAt?_other plain _), text_char, induction]

variable {page : ErrorPage}

theorem escape_eq_escapeHtml (isHtml : Text.contains page.contentType "html" = true)
    (notJson : Text.contains page.contentType "json" = false) : page.escape = escapeHtml := by
  funext value
  rw [escape, isHtml, notJson]
  rfl

theorem filter_value (isHtml : Text.contains page.contentType "html" = true)
    (notJson : Text.contains page.contentType "json" = false) (request : Request)
    (error : GatewayError) (slot : Slot) :
    (page.values request error slot).toList.filter isMarkup = [] := by
  have status : ∀ code ∈ statuses, (toString code).toList.filter isMarkup = [] := by decide
  have escaped (value : String) : (page.escape value).toList.filter isMarkup = [] := by
    rw [escape_eq_escapeHtml isHtml notJson]
    exact filter_escapeHtml value
  cases slot with
  | status => exact status _ (status_mem error)
  | message => exact escaped _
  | requestId => exact escaped _
  | path => exact escaped _

/-- No replacement of a placeholder brings markup in or takes it away. -/
theorem filter_foldl_replace {values : Slot → String}
    (plain : ∀ slot, (values slot).toList.filter isMarkup = []) (slots : List Slot)
    (text : String) :
    (slots.foldl (fun text slot =>
      Text.replace text (placeholder slot.name) (values slot)) text).toList.filter isMarkup =
      text.toList.filter isMarkup := by
  induction slots generalizing text with
  | nil => rfl
  | cons slot slots induction =>
      have pattern : slot.pattern.filter isMarkup = [] := by cases slot <;> decide
      rw [List.foldl_cons, induction, Text.replace, String.toList_ofList]
      exact filter_replaceFrom slot.pattern_ne_nil pattern (plain slot) _

/-- A page in HTML that is sent has the markup of its template and no other, and each value that is
written into it can be read back. -/
theorem serves_markup_of_template (isHtml : Text.contains page.contentType "html" = true)
    (notJson : Text.contains page.contentType "json" = false) :
    (∀ request error, page.serve request error ≠ fallback →
      ∃ text, (page.serve request error).body = Body.ofText text ∧
        text.toList.filter isMarkup = page.template.toList.filter isMarkup) ∧
    (∀ value, unescapeHtml (page.escape value) = value) ∧ Function.Injective page.escape := by
  have back (value : String) : unescapeHtml (page.escape value) = value := by
    rw [escape_eq_escapeHtml isHtml notJson]
    exact unescapeHtml_escapeHtml value
  refine ⟨?_, back, Function.LeftInverse.injective back⟩
  intro request error sent
  refine ⟨_, body_serve sent, ?_⟩
  rw [render_eq_foldl]
  exact filter_foldl_replace (filter_value isHtml notJson request error) _ _

/-- A script in the id and the path of a request arrives as text. -/
theorem serves_markup_of_template_attacked :
    let request := requestFor "<script>" "/'\x7b\x7bpath\x7d\x7d'"
    Text.contains html.contentType "html" = true ∧ Text.contains html.contentType "json" = false ∧
      html.serve request .clientDisconnect ≠ fallback ∧
      ∃ text, (html.serve request .clientDisconnect).body = Body.ofText text ∧
        text.toList.filter isMarkup = html.template.toList.filter isMarkup := by
  intro request
  have typed : Text.contains html.contentType "html" = true := by decide
  have other : Text.contains html.contentType "json" = false := by decide
  have sent : html.serve request .clientDisconnect ≠ fallback := by
    rw [serve_ne_fallback_iff]
    decide
  exact ⟨typed, other, sent, (serves_markup_of_template typed other).1 request _ sent⟩

end ErrorPage

end Gateway
