import Gateway.Proofs.References

/-!
The value of an expression where it stands. An expression in a template is replaced by its value and
the text around it is left as it is; a template that is one expression renders to the value alone.
-/

namespace Gateway

namespace Template

def opening : List Char := ['$', '\x7b']

/-- What is put in front of a text without an opening becomes part of its literal, unless an opening
arises where they meet. -/
theorem splitOpening_literal_append {literal back : List Char} (plain : ¬opening <:+: literal)
    (apart : ¬(literal.getLast? = some '$' ∧ back.head? = some '\x7b')) :
    splitOpening (literal ++ back) = (literal ++ (splitOpening back).1, (splitOpening back).2) := by
  induction literal with
  | nil => rfl
  | cons c literal induction =>
      rw [List.infix_cons_iff, not_or] at plain
      cases literal with
      | nil =>
          cases back with
          | nil => rfl
          | cons next back =>
              have different : ¬(c = '$' ∧ next = '\x7b') := by simpa using apart
              simp only [List.cons_append, List.nil_append, splitOpening, if_neg different]
      | cons next literal =>
          have different : ¬(c = '$' ∧ next = '\x7b') := by
            rintro ⟨rfl, rfl⟩
            exact plain.1 ⟨literal, rfl⟩
          have later := induction plain.2 (by simpa using apart)
          simp only [List.cons_append, splitOpening, if_neg different] at later ⊢
          rw [later]

theorem splitOpening_append {literal : List Char} (plain : ¬opening <:+: literal)
    (rest : List Char) : splitOpening (literal ++ '$' :: '\x7b' :: rest) = (literal, some rest) := by
  have apart : ¬(literal.getLast? = some '$' ∧
      ('$' :: '\x7b' :: rest).head? = some '\x7b') := by simp
  rw [splitOpening_literal_append plain apart]
  simp [splitOpening]

theorem isClosing_free {inner : List Char} (closed : '\x7d' ∉ inner) :
    ∀ c ∈ inner, (!isClosing c) = true := by
  intro c member
  simp only [isClosing, Bool.not_eq_true', decide_eq_false_iff_not]
  rintro rfl
  exact closed member

theorem takeWhile_inner {inner : List Char} (closed : '\x7d' ∉ inner) (after : List Char) :
    (inner ++ '\x7d' :: after).takeWhile (fun c => !isClosing c) = inner := by
  rw [List.takeWhile_append_of_pos (isClosing_free closed),
    List.takeWhile_cons_of_neg (by decide), List.append_nil]

theorem dropWhile_inner {inner : List Char} (closed : '\x7d' ∉ inner) (after : List Char) :
    (inner ++ '\x7d' :: after).dropWhile (fun c => !isClosing c) = '\x7d' :: after := by
  rw [List.dropWhile_append_of_pos (isClosing_free closed),
    List.dropWhile_cons_of_neg (by decide)]

/-- What a template is cut into from the first opening on. -/
def behindOpening : Option (List Char) → List Segment
  | none => []
  | some rest =>
      match rest.dropWhile fun c => !isClosing c with
      | [] => [.unclosed]
      | _ :: after =>
          .expression (Text.trim (String.ofList (rest.takeWhile fun c => !isClosing c))) ::
            segments after

theorem segments_eq (chars : List Char) :
    segments chars =
      .literal (splitOpening chars).1 :: behindOpening (splitOpening chars).2 := by
  rw [segments]
  split
  · rename_i found
    rw [found]
    rfl
  · rename_i found
    rw [found]
    simp only [behindOpening]
    split
    · rename_i ended
      rw [ended]
    · rename_i ended
      rw [ended]

theorem segments_expression {literal inner : List Char} (plain : ¬opening <:+: literal)
    (closed : '\x7d' ∉ inner) (after : List Char) :
    segments (literal ++ '$' :: '\x7b' :: (inner ++ '\x7d' :: after)) =
      .literal literal :: .expression (Text.trim (String.ofList inner)) :: segments after := by
  rw [segments_eq, splitOpening_append plain]
  simp only [behindOpening, dropWhile_inner closed, takeWhile_inner closed]

theorem parse_single {inner : String} (closed : '\x7d' ∉ inner.toList) :
    parse ("$\x7b" ++ inner ++ "\x7d") =
      [.literal [], .expression (Text.trim inner), .literal []] := by
  have cut := @segments_expression [] inner.toList (by simp [opening]) closed []
  have nothing : segments [] = [.literal []] := by
    rw [segments]
    rfl
  rw [nothing, String.ofList_toList] at cut
  rw [parse, String.toList_append, String.toList_append]
  exact cut

theorem render_single {Error : Type} {value : String → Except Error String} {unclosed : Error}
    {inner text : String} (closed : '\x7d' ∉ inner.toList)
    (valued : value (Text.trim inner) = .ok text) :
    render value unclosed ("$\x7b" ++ inner ++ "\x7d") = .ok text := by
  rw [render, parse_single closed]
  simp [renderSegments, valued, Except.map, bind, Except.bind]

end Template

theorem splitDot_append (head : String) (free : '.' ∉ head.toList) (rest : String) :
    splitDot (head ++ "." ++ rest) = (head, rest) := by
  have before : ∀ c ∈ head.toList, decide (c ≠ '.') = true :=
    fun c member => decide_eq_true fun same => free (same ▸ member)
  have whole : (head ++ "." ++ rest).toList = head.toList ++ '.' :: rest.toList := by
    rw [String.toList_append, String.toList_append, List.append_assoc]
    rfl
  rw [splitDot, whole, List.takeWhile_append_of_pos before, List.dropWhile_append_of_pos before,
    List.takeWhile_cons_of_neg (by simp), List.dropWhile_cons_of_neg (by simp), List.append_nil,
    List.drop_succ_cons, List.drop_zero, String.ofList_toList, String.ofList_toList]

namespace Scope

variable {scope : Scope}

theorem value_request (path : String) :
    scope.value ("request." ++ path) = scope.request.value path := by
  have split : splitDot ("request." ++ path) = ("request", path) :=
    splitDot_append "request" (by decide) path
  rw [value, split]
  exact if_pos rfl

theorem value_query (key : String) : scope.value ("request.query." ++ key) =
    .ok ((Form.Params.get? scope.request.query key).getD "") := by
  have split : splitDot ("query." ++ key) = ("query", key) :=
    splitDot_append "query" (by decide) key
  have path : "request.query." ++ key = "request." ++ ("query." ++ key) := by
    rw [← String.append_assoc]
    rfl
  rw [path, value_request, RequestView.value, split]
  rfl

theorem value_id : scope.value "request.id" = .ok scope.request.requestId :=
  rfl

theorem render_single {inner text : String} (closed : '\x7d' ∉ inner.toList)
    (valued : scope.value (Text.trim inner) = .ok text) :
    scope.render ("$\x7b" ++ inner ++ "\x7d") = .ok text :=
  Template.render_single closed valued

end Scope

end Gateway
