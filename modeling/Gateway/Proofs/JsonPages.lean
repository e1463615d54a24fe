import Gateway.Proofs.JsonText
import Gateway.Proofs.Placeholders

/-!
The page for programs. Its body is the compact text of one object, and reading it gives this object,
whatever the id and the path of the request hold. Escaping keeps the values within their quotes. The
placeholder of the path is still replaced in an id that holds it, but as text within the quotes of
the id: escaping before the replacement or after it comes to the same.
-/

namespace Gateway

namespace Json

open Text

variable {pattern : List Char}

theorem prefix_of_escapeChars (slashless : '\\' ∉ pattern) {chars : List Char}
    (stands : pattern <+: escapeChars chars) : pattern <+: chars := by
  induction pattern generalizing chars with
  | nil => exact List.nil_prefix
  | cons first more induction =>
      rw [List.mem_cons, not_or] at slashless
      cases chars with
      | nil => exact stands
      | cons c rest =>
          rw [escapeChars_cons] at stands
          obtain ⟨same, -⟩ | ⟨escaped, slashed, -⟩ := escapeChar_cases c
          · rw [same, List.singleton_append, List.cons_prefix_cons] at stands
            exact List.cons_prefix_cons.mpr ⟨stands.1, induction slashless.2 stands.2⟩
          · rw [slashed, List.cons_append, List.cons_prefix_cons] at stands
            exact absurd stands.1.symm slashless.1

/-- Replacing a pattern that needs no escapes before escaping or after it comes to the same. -/
theorem replaceFrom_escapeChars (headed : pattern.head? = some '\x7b') (slashless : '\\' ∉ pattern)
    (plain : escapeChars pattern = pattern) (value chars : List Char) :
    replaceFrom pattern (escapeChars value) 0 (escapeChars chars) =
      escapeChars (replaceFrom pattern value 0 chars) := by
  have filled : pattern ≠ [] := by
    rintro rfl
    contradiction
  induction chars using replacement_induction filled with
  | nil => rfl
  | occurrence rest induction =>
      rw [escapeChars_append, plain, replaceFrom_pattern filled, replaceFrom_pattern filled,
        induction, escapeChars_append]
  | other c rest apart induction =>
      have written : replaceFrom pattern (escapeChars value) 0 (escapeChars (c :: rest)) =
          escapeChar c ++
            replaceFrom pattern (escapeChars value) 0 (escapeChars rest) := by
        obtain ⟨same, -⟩ | ⟨escaped, slashed, unopened, -⟩ := escapeChar_cases c
        · have spelled : escapeChars (c :: rest) = c :: escapeChars rest := by
            rw [escapeChars_cons, same, List.singleton_append]
          rw [spelled, replaceFrom_other, same, List.singleton_append]
          rw [← spelled]
          exact fun stands => apart (prefix_of_escapeChars slashless stands)
        · rw [escapeChars_cons]
          apply replaceFrom_append headed
          rw [slashed, List.mem_cons, not_or]
          exact ⟨by decide, unopened⟩
      rw [written, induction, replaceFrom_other apart, escapeChars_cons]

end Json

namespace ErrorPage

open Text

theorem escape_json (value : String) : json.escape value = Json.escape value := by
  have typed : Text.contains json.contentType "json" = true := by decide
  rw [escape, if_pos typed, unquote, Json.compact, Json.toList_quote, List.drop_succ_cons,
    List.drop_zero, List.dropLast_concat, String.ofList_toList]

theorem toList_escape (value : String) :
    (json.escape value).toList = Json.escapeChars value.toList := by
  rw [escape_json, Json.escape, String.toList_ofList]

def opening (status message : List Char) : List Char :=
  "\x7b\"error\":\x7b\"status\":".toList ++ (status ++ (",\"message\":\"".toList ++
    (message ++ "\",\"id\":".toList)))

theorem length_opening (status message : List Char) : 3 ≤ (opening status message).length := by
  unfold opening
  rw [List.length_append]
  exact Nat.le_add_right_of_le (by decide)

theorem text_json (values : Slot → List Char) :
    text values (fields jsonTemplate) =
      opening (values .status) (values .message) ++
        '"' :: (values .requestId ++ '"' :: (",\"path\":".toList ++
          '"' :: (values .path ++ '"' :: "\x7d\x7d".toList))) := by
  have read : fields jsonTemplate =
      "\x7b\"error\":\x7b\"status\":".toList.map Piece.char ++ .place .status ::
        (",\"message\":\"".toList.map Piece.char ++ .place .message ::
          ("\",\"id\":".toList.map Piece.char ++ .char '"' :: .place .requestId :: .char '"' ::
            (",\"path\":".toList.map Piece.char ++ .char '"' :: .place .path :: .char '"' ::
              "\x7d\x7d".toList.map Piece.char))) := by
    decide +kernel
  rw [read]
  unfold opening
  simp only [text_append, text_chars, text_place, text_char, List.append_assoc]

theorem occurrences_opening (error : GatewayError) :
    occurrences Slot.path.pattern
      (opening (toString error.status).toList (Json.escape error.clientMessage).toList) = 0 := by
  have all : ∀ code ∈ statuses, ∀ message ∈ messages, occurrences Slot.path.pattern
      (opening (toString code).toList (Json.escape message).toList) = 0 := by
    decide +kernel
  exact all _ (status_mem error) _ (clientMessage_mem error)

/-- What a program is told about an error. -/
def report (status : Nat) (message id path : String) : Json :=
  .obj [("error", .obj [("status", .nat status), ("message", .str message), ("id", .str id),
    ("path", .str path)])]

theorem toList_compact_report (status : Nat) (message id path : String) :
    (Json.compact (report status message id path)).toList =
      opening (toString status).toList (Json.escape message).toList ++
        '"' :: ((Json.escape id).toList ++ '"' :: (",\"path\":".toList ++
          '"' :: ((Json.escape path).toList ++ '"' :: "\x7d\x7d".toList))) := by
  have number : Json.compact (.nat status) = toString status := rfl
  have keys : ∀ key ∈ ["error", "status", "message", "id", "path"],
      (Json.escape key).toList = key.toList := by decide
  simp only [List.forall_mem_cons] at keys
  obtain ⟨error, code, told, label, place, -⟩ := keys
  unfold report opening
  simp only [Json.compact, Json.compactMembers, number, String.toList_append, Json.toList_quote,
    error, code, told, label, place]
  simp

/-- An id that holds the placeholder of the path gets the path, escaped once. -/
theorem replace_id (id path : String) :
    replaceFrom Slot.path.pattern (json.escape path).toList 0 (json.escape id).toList =
      (Json.escape (Text.replace id (placeholder "path") path)).toList := by
  rw [toList_escape, toList_escape, Json.replaceFrom_escapeChars rfl (by decide) (by decide),
    Json.escape, String.toList_ofList, Text.replace, String.toList_ofList]
  rfl

theorem render_json (request : Request) (error : GatewayError) :
    json.render error.status error.clientMessage (RequestView.of request).requestId
        request.uri.path =
      Json.compact (report error.status error.clientMessage
        (Text.replace (RequestView.of request).requestId (placeholder "path") request.uri.path)
        request.uri.path) := by
  have quoteless : '"' ∉ Slot.path.pattern := by decide
  have filled := Slot.path.pattern_ne_nil
  let values := Function.update (json.values request error) .path (placeholder "path")
  have status : (values .status).toList = (toString error.status).toList := rfl
  have message : (values .message).toList = (Json.escape error.clientMessage).toList :=
    congrArg String.toList (escape_json error.clientMessage)
  have id : (values .requestId).toList =
      (json.escape (RequestView.of request).requestId).toList := rfl
  have path : (values .path).toList = Slot.path.pattern := rfl
  have written : replaceFrom Slot.path.pattern (json.escape request.uri.path).toList 0
      Slot.path.pattern = (json.escape request.uri.path).toList := by
    have whole := @replaceFrom_pattern _ (json.escape request.uri.path).toList filled []
    rwa [List.append_nil, replaceFrom, List.append_nil] at whole
  have label : occurrences Slot.path.pattern ",\"path\":".toList = 0 := by decide
  have closing : occurrences Slot.path.pattern "\x7d\x7d".toList = 0 := by decide
  rw [render_eq_replace, ← String.toList_inj, toList_compact_report, Text.replace,
    String.toList_ofList, fill, String.toList_ofList]
  change replaceFrom Slot.path.pattern (json.escape request.uri.path).toList 0
    (text (fun slot => (values slot).toList) (fields jsonTemplate)) = _
  rw [text_json, status, message, id, path]
  -- the quotes keep the placeholder from standing across values
  rw [replaceFrom_separator filled quoteless, replaceFrom_separator filled quoteless,
    replaceFrom_separator filled quoteless, replaceFrom_separator filled quoteless,
    replaceFrom_of_occurrences (occurrences_opening error), replace_id,
    replaceFrom_of_occurrences label, written, replaceFrom_of_occurrences closing, escape_json]

theorem reads_report {status : Nat} (fits : status < Json.significandLimit)
    (message id path : String) (depth : Nat) :
    Json.Reads 8 (depth + 2) (report status message id path) := by
  let members : List (String × Json) :=
    [("status", .nat status), ("message", .str message), ("id", .str id), ("path", .str path)]
  have keys : (members.map Prod.fst).Nodup :=
    show ["status", "message", "id", "path"].Nodup by decide
  have values : ∀ member ∈ members, Json.Reads 1 depth member.2 := by
    simp only [members, List.forall_mem_cons]
    exact ⟨Json.reads_nat _ fits, Json.reads_str _ _, Json.reads_str _ _, Json.reads_str _ _,
      by simp⟩
  have inner := Json.reads_obj values (List.cons_ne_nil _ _) keys
  exact @Json.reads_obj 6 (depth + 1) [("error", .obj members)]
    (List.forall_mem_singleton.mpr inner) (List.cons_ne_nil _ _) (List.nodup_singleton _)

/-- The body of the page is read as one object with exactly its four members: the placeholder of the
path, if the id holds it, is the one thing that does not arrive as it is. -/
theorem json_serves_report (request : Request) (error : GatewayError)
    (identified : Fits (RequestView.of request).requestId) :
    let id := Text.replace (RequestView.of request).requestId (placeholder "path") request.uri.path
    let told := report error.status error.clientMessage id request.uri.path
    (json.serve request error).body = Body.ofText (Json.compact told) ∧
      Json.ofBytes? (Utf8.encode (Json.compact told)) = some told := by
  intro id told
  have typed : Fits json.contentType := by decide
  have sent : json.serve request error ≠ fallback :=
    serve_ne_fallback_iff.mpr ⟨typed, identified⟩
  have small : ∀ code ∈ statuses, code < Json.significandLimit := by decide
  have reads :=
    reads_report (small _ (status_mem error)) error.clientMessage id request.uri.path 125
  have long : 3 ≤ (Json.compact told).toList.length := by
    rw [toList_compact_report, List.length_append]
    exact Nat.le_add_right_of_le (length_opening _ _)
  rw [body_serve sent, render_json]
  refine ⟨rfl, ?_⟩
  rw [Json.ofBytes?, Utf8.decode?_encode, Option.bind_eq_bind, Option.bind_some]
  exact Json.parse?_compact reads (by omega)

/-- Quotes, backslashes and braces in the id and the path stay within their strings. -/
theorem json_serves_report_attacked :
    let request := requestFor "\"\x7b\x7bpath\x7d\x7d\\" "/\",\"status\":200"
    let told := report 400 "bad request" "\"/\",\"status\":200\\" "/\",\"status\":200"
    Fits (RequestView.of request).requestId ∧
      (json.serve request .clientDisconnect).body = Body.ofText (Json.compact told) ∧
      Json.ofBytes? (Utf8.encode (Json.compact told)) = some told := by
  intro request told
  have identified : Fits (RequestView.of request).requestId := by decide
  have id : Text.replace (RequestView.of request).requestId (placeholder "path") request.uri.path =
      "\"/\",\"status\":200\\" := by decide +kernel
  have message : GatewayError.clientDisconnect.clientMessage = "bad request" := by decide
  have served := json_serves_report request .clientDisconnect identified
  dsimp only at served
  rw [id, message] at served
  exact ⟨identified, served⟩

end ErrorPage

end Gateway
