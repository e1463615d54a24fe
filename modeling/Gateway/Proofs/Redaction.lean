import Gateway.Proofs.Headers
import Gateway.Redacted

/-!
What logs tell about secret headers: their names and how often each of them stands there. Two
messages that differ in the values of secret headers leave the same log.
-/

namespace Gateway.Redacted

/-- Two header maps list the same names in the same order, with as many values each, and all values
that are no secret are the same. -/
structure SameButSecrets (left right : HeaderMap) : Prop where
  names : left.names = right.names
  counts : ∀ name, (left.getAll name).length = (right.getAll name).length
  shown : ∀ name : HeaderName,
    name.text ∉ ["authorization", "proxy-authorization", "cookie", "set-cookie", "x-api-key",
      "x-auth-token", "x-client-secret"] →
    left.getAll name = right.getAll name

/-- Two fields that a log may not tell apart. -/
def Alike (left right : HeaderName × HeaderValue) : Prop :=
  left.1 = right.1 ∧ (isSecret left.1 = false → left.2 = right.2)

theorem Alike.refl (field : HeaderName × HeaderValue) : Alike field field :=
  ⟨rfl, fun _ => rfl⟩

theorem Alike.of_secret {name : HeaderName} {value other : HeaderValue}
    (secret : isSecret name = true) : Alike (name, value) (name, other) :=
  ⟨rfl, fun shown => absurd (shown.symm.trans secret) Bool.false_ne_true⟩

variable {left right : HeaderMap}

theorem isSecret_eq_false {name : HeaderName} : isSecret name = false ↔ name.text ∉ secretNames := by
  rw [isSecret, decide_eq_false_iff_not]

theorem SameButSecrets.append {name : HeaderName} {value other : HeaderValue}
    (same : SameButSecrets left right) (alike : isSecret name = false → value = other) :
    SameButSecrets (left.append name value) (right.append name other) where
  names := by rw [HeaderMap.names_append, HeaderMap.names_append, same.names]
  counts := by
    intro asked
    by_cases here : name = asked
    · subst here
      simp only [HeaderMap.getAll_append_self, List.length_append, List.length_singleton,
        same.counts name]
    · rw [HeaderMap.getAll_append_of_ne here, HeaderMap.getAll_append_of_ne here, same.counts asked]
  shown := by
    intro asked plain
    by_cases here : name = asked
    · subst here
      rw [HeaderMap.getAll_append_self, HeaderMap.getAll_append_self, same.shown name plain,
        alike (isSecret_eq_false.mpr plain)]
    · rw [HeaderMap.getAll_append_of_ne here, HeaderMap.getAll_append_of_ne here,
        same.shown asked plain]

theorem SameButSecrets.ofList {left right : List (HeaderName × HeaderValue)}
    (alike : List.Forall₂ Alike left right) :
    SameButSecrets (HeaderMap.ofList left) (HeaderMap.ofList right) := by
  have run : ∀ {first second : HeaderMap}, SameButSecrets first second →
      SameButSecrets (left.foldl (fun headers field => headers.append field.1 field.2) first)
        (right.foldl (fun headers field => headers.append field.1 field.2) second) := by
    induction alike with
    | nil => exact fun same => same
    | @cons left right lefts rights here later induction =>
        intro first second same
        rw [List.foldl_cons, List.foldl_cons, ← here.1]
        exact induction (same.append here.2)
  exact run ⟨rfl, fun _ => rfl, fun _ _ => rfl⟩

theorem text_eq (headers : HeaderMap) :
    text headers =
      let fields := headers.toList.map shownField
      Text.quotedPairs (fields.take maxFields ++ remainder fields.length) := by
  simp only [text, HeaderMap.size, List.map_take, List.length_map]

theorem shownField_eq_of_isSecret {name : HeaderName} (secret : isSecret name = true)
    (value : HeaderValue) : shownField (name, value) = (name.text, "<redacted>") := by
  simp only [shownField, secret, if_true]

theorem map_shownField_eq_replicate {name : HeaderName} (secret : isSecret name = true)
    (values : List HeaderValue) :
    values.map (fun value => shownField (name, value)) =
      List.replicate values.length (name.text, "<redacted>") := by
  simp only [shownField_eq_of_isSecret secret, List.map_const']

theorem SameButSecrets.map_shownField (same : SameButSecrets left right) :
    left.toList.map shownField = right.toList.map shownField := by
  rw [HeaderMap.toList_eq, HeaderMap.toList_eq, same.names, List.map_flatMap, List.map_flatMap]
  apply List.flatMap_congr
  intro name _
  rw [List.map_map, List.map_map]
  cases secret : isSecret name with
  | true =>
      have counted := same.counts name
      have hidden := map_shownField_eq_replicate secret
      exact (hidden _).trans ((congrArg (List.replicate · _) counted).trans (hidden _).symm)
  | false => rw [same.shown name (isSecret_eq_false.mp secret)]

/-- A log does not depend on the values of secret headers. -/
theorem log_hides_secrets (same : SameButSecrets left right) : text left = text right := by
  rw [text_eq, text_eq, same.map_shownField]

def crowded (credentials session : HeaderValue) : List (HeaderName × HeaderValue) :=
  let traced : HeaderName := ⟨"x-trace", by decide⟩
  let long : HeaderValue := ⟨List.replicate 2000 97, by rw [List.all_replicate]; decide⟩
  let invisible : HeaderValue := ⟨[195, 188], by decide⟩
  [(HeaderName.authorization, credentials), (traced, long), (HeaderName.cookie, session)] ++
    List.replicate 60 (traced, invisible) ++ [(HeaderName.cookie, credentials)]

theorem crowded_alike (credentials session other another : HeaderValue) :
    List.Forall₂ Alike (crowded credentials session) (crowded other another) := by
  have secret : isSecret HeaderName.authorization = true ∧ isSecret HeaderName.cookie = true := by
    decide
  refine List.rel_append (List.rel_append ?_ ?_) ?_
  · exact .cons (.of_secret secret.1) (.cons (.refl _) (.cons (.of_secret secret.2) .nil))
  · exact List.forall₂_same.mpr fun field _ => .refl field
  · exact .cons (.of_secret secret.2) .nil

theorem log_hides_secrets_of_crowded :
    let left := HeaderMap.ofList (crowded ⟨[65, 66], by decide⟩ HeaderValue.empty)
    let right := HeaderMap.ofList (crowded ⟨[195, 188], by decide⟩ ⟨[67], by decide⟩)
    maxFields < left.size ∧ left ≠ right ∧ SameButSecrets left right ∧ text left = text right := by
  intro left right
  have same : SameButSecrets left right := .ofList (crowded_alike _ _ _ _)
  refine ⟨by decide +kernel, ?_, same, log_hides_secrets same⟩
  intro equal
  have values := congrArg (fun headers => headers.getAll HeaderName.authorization) equal
  revert values
  decide +kernel

end Gateway.Redacted
