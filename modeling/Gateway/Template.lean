import Gateway.Text.Blank

/-!
Templates: text with expressions between `$` brace and brace. `Template.parse` cuts a template into
literal and expression segments from left to right, an opening without an end being a segment of
its own; `Template.render` joins the literals with the values of the expressions and stops at the
first segment without a value.
-/

namespace Gateway.Template

inductive Segment where
  | literal (text : List Char)
  /-- An expression without the blanks around it. -/
  | expression (name : String)
  /-- An opening that is never closed. -/
  | unclosed
  deriving DecidableEq, Repr

/-- Splits in front of the first opening, which is dropped. -/
def splitOpening : List Char → List Char × Option (List Char)
  | [] => ([], none)
  | [c] => ([c], none)
  | c :: next :: rest =>
      if c = '$' ∧ next = '\x7b' then ([], some rest)
      else
        let split := splitOpening (next :: rest)
        (c :: split.1, split.2)

theorem splitOpening_length (chars : List Char) (rest : List Char)
    (found : (splitOpening chars).2 = some rest) : rest.length + 2 ≤ chars.length := by
  fun_induction splitOpening chars with
  | case1 => simp at found
  | case2 => simp at found
  | case3 c next tail _ =>
      simp only [Option.some.injEq] at found
      subst found
      simp
  | case4 c next tail _ split induction =>
      have := induction found
      simp only [List.length_cons] at this ⊢
      omega

theorem splitOpening_plain {chars : List Char} (plain : (splitOpening chars).2 = none) :
    (splitOpening chars).1 = chars := by
  fun_induction splitOpening chars with
  | case1 => rfl
  | case2 => rfl
  | case3 => simp at plain
  | case4 c next tail _ split induction => exact congrArg (c :: ·) (induction plain)

def isClosing (c : Char) : Bool := c = '\x7d'

/-- Cuts a template into segments. -/
def segments (chars : List Char) : List Segment :=
  match _found : splitOpening chars with
  | (literal, none) => [.literal literal]
  | (literal, some rest) =>
      let inner := rest.takeWhile fun c => !isClosing c
      match _ended : rest.dropWhile fun c => !isClosing c with
      | [] => [.literal literal, .unclosed]
      | _ :: after =>
          .literal literal :: .expression (Text.trim (String.ofList inner)) :: segments after
termination_by chars.length
decreasing_by
  have opened := splitOpening_length chars rest (by rw [_found])
  have shorter := (List.dropWhile_suffix (fun c => !isClosing c) (l := rest)).length_le
  rw [_ended] at shorter
  simp only [List.length_cons] at shorter
  omega

def parse (template : String) : List Segment :=
  segments template.toList

/-- The text of segments under an evaluation of expressions. -/
def renderSegments {Error : Type} (value : String → Except Error String) (unclosed : Error) :
    List Segment → Except Error (List Char)
  | [] => .ok []
  | .literal text :: rest => (renderSegments value unclosed rest).map (text ++ ·)
  | .expression name :: rest => do
      let text ← value name
      (renderSegments value unclosed rest).map (text.toList ++ ·)
  | .unclosed :: _ => .error unclosed

def render {Error : Type} (value : String → Except Error String) (unclosed : Error)
    (template : String) : Except Error String :=
  (renderSegments value unclosed (parse template)).map String.ofList

/-- A template without expressions stands for itself. -/
theorem render_plain {Error : Type} (value : String → Except Error String) (unclosed : Error)
    {template : String} (plain : (splitOpening template.toList).2 = none) :
    render value unclosed template = .ok template := by
  have whole : splitOpening template.toList = (template.toList, none) :=
    Prod.ext (splitOpening_plain plain) plain
  have cut : parse template = [.literal template.toList] := by
    unfold parse segments
    split
    · rename_i literal found
      rw [(Prod.mk.inj (found.symm.trans whole)).1]
    · rename_i literal rest found
      rw [whole] at found
      simp at found
  simp [render, cut, renderSegments, Except.map]

end Gateway.Template
