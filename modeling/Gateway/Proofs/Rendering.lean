import Gateway.Proofs.Expressions
import Mathlib.Data.List.Basic
import Mathlib.Data.List.TakeWhile

/-!
Rendering in one pass. A template falls apart into expressions and the text between them in exactly
one way, each expression starting at the first opening behind the one before and ending at the first
closing brace behind that. Rendering puts the values where the expressions stand, in their order; it
does not look at them again, whatever openings they hold.
-/

namespace Gateway

section

variable {Failure Item Result : Type} {read : Item → Except Failure Result}

theorem mapM_eq_ok {items : List Item} {results : List Result} :
    items.mapM read = .ok results ↔ items.map read = results.map .ok := by
  induction items generalizing results with
  | nil => cases results <;> simp [pure, Except.pure]
  | cons item items induction =>
      rw [List.mapM_cons, bind_eq_ok]
      constructor
      · rintro ⟨first, here, rest⟩
        rw [bind_eq_ok] at rest
        obtain ⟨others, later, joined⟩ := rest
        rw [← Except.ok.inj joined, List.map_cons, List.map_cons, here, induction.mp later]
      · intro each
        cases results with
        | nil => cases each
        | cons first others =>
            rw [List.map_cons, List.map_cons, List.cons.injEq] at each
            exact ⟨first, each.1, bind_eq_ok.mpr ⟨others, induction.mpr each.2, rfl⟩⟩

theorem mapM_succeeds {items : List Item} :
    (∃ results, items.mapM read = .ok results) ↔ ∀ item ∈ items, ∃ result, read item = .ok result := by
  simp only [mapM_eq_ok]
  induction items with
  | nil => exact ⟨fun _ _ member => absurd member List.not_mem_nil, fun _ => ⟨[], rfl⟩⟩
  | cons item items induction =>
      rw [List.forall_mem_cons, ← induction]
      constructor
      · rintro ⟨results, each⟩
        cases results with
        | nil => cases each
        | cons first others =>
            rw [List.map_cons, List.map_cons, List.cons.injEq] at each
            exact ⟨⟨first, each.1⟩, others, each.2⟩
      · rintro ⟨⟨first, here⟩, others, later⟩
        exact ⟨first :: others, by rw [List.map_cons, List.map_cons, here, later]⟩

theorem mapM_first_error {before after : List Item} {item : Item} {error : Failure}
    (earlier : ∀ item ∈ before, ∃ result, read item = .ok result) (failed : read item = .error error) :
    (before ++ item :: after).mapM read = .error error := by
  obtain ⟨results, done⟩ := mapM_succeeds.mpr earlier
  rw [List.mapM_append, done, List.mapM_cons, failed]
  rfl

end

namespace Template

def opened : Option (List Char) → List Char
  | none => []
  | some rest => opening ++ rest

theorem splitOpening_first (chars : List Char) :
    ¬opening <:+: (splitOpening chars).1 ∧
      (splitOpening chars).1 ++ opened (splitOpening chars).2 = chars := by
  fun_induction splitOpening chars with
  | case1 => exact ⟨by simp [opening], rfl⟩
  | case2 c => exact ⟨fun within => absurd within.length_le (by simp [opening]), rfl⟩
  | case3 c next rest found =>
      rw [found.1, found.2]
      exact ⟨by simp [opening], rfl⟩
  | case4 c next rest different split induction =>
      obtain ⟨plain, whole⟩ := induction
      refine ⟨fun within => ?_, congrArg (c :: ·) whole⟩
      rcases List.infix_cons_iff.mp within with start | later
      · -- The opening would have to reach over from the first character to the second.
        obtain ⟨back, joined⟩ := start
        have dollar : '$' = c := (List.cons.inj joined).1
        have behind : '\x7b' :: back = (splitOpening (next :: rest)).1 := (List.cons.inj joined).2
        rw [← behind] at whole
        apply different
        exact ⟨dollar.symm, (List.cons.inj whole).1.symm⟩
      · exact plain later

theorem closing_first {rest after : List Char} {close : Char}
    (ended : rest.dropWhile (fun c => !isClosing c) = close :: after) :
    '\x7d' ∉ rest.takeWhile (fun c => !isClosing c) ∧
      rest.takeWhile (fun c => !isClosing c) ++ '\x7d' :: after = rest := by
  constructor
  · intro member
    have read := List.mem_takeWhile_imp member
    simp [isClosing] at read
  · have stops : (!isClosing close) = false := by
      have head := @List.head_dropWhile_not _ (fun c => !isClosing c) rest (by simp [ended])
      simpa only [ended, List.head_cons] using head
    have brace : close = '\x7d' := by simpa [isClosing] using stops
    rw [← brace, ← ended]
    exact List.takeWhile_append_dropWhile

theorem closing_never {rest : List Char}
    (ended : rest.dropWhile (fun c => !isClosing c) = []) : '\x7d' ∉ rest := by
  intro member
  have read := List.dropWhile_eq_nil_iff.mp ended _ member
  simp [isClosing] at read

structure Piece where
  literal : List Char
  inner : List Char

namespace Piece

def text (piece : Piece) : List Char :=
  piece.literal ++ '$' :: '\x7b' :: (piece.inner ++ ['\x7d'])

def name (piece : Piece) : String :=
  Text.trim (String.ofList piece.inner)

/-- The expression starts at the first opening and ends at the first closing brace behind it. -/
structure Leftmost (piece : Piece) : Prop where
  plain : ¬opening <:+: piece.literal
  closed : '\x7d' ∉ piece.inner

def filled (piece : Piece) (value : String) : List Char :=
  piece.literal ++ value.toList

end Piece

/-- A template taken apart: the closed expressions, the text behind the last of them, and what
follows an opening that is never closed. -/
structure Cut where
  pieces : List Piece
  last : List Char
  unclosed : Option (List Char)

namespace Cut

def text (cut : Cut) : List Char :=
  cut.pieces.flatMap Piece.text ++ (cut.last ++ opened cut.unclosed)

structure Leftmost (cut : Cut) : Prop where
  pieces : ∀ piece ∈ cut.pieces, piece.Leftmost
  plain : ¬opening <:+: cut.last
  ended : ∀ rest ∈ cut.unclosed, '\x7d' ∉ rest

def filled (cut : Cut) (values : List String) : List Char :=
  (List.zipWith Piece.filled cut.pieces values).flatten ++ cut.last

theorem text_cons (piece : Piece) (pieces : List Piece) (last : List Char)
    (unclosed : Option (List Char)) : text ⟨piece :: pieces, last, unclosed⟩ =
      piece.literal ++ '$' :: '\x7b' :: (piece.inner ++ '\x7d' :: text ⟨pieces, last, unclosed⟩) := by
  simp [text, Piece.text]

theorem splitOpening_text_cons {piece : Piece} (leftmost : piece.Leftmost) (pieces : List Piece)
    (last : List Char) (unclosed : Option (List Char)) :
    splitOpening (text ⟨piece :: pieces, last, unclosed⟩) =
      (piece.literal, some (piece.inner ++ '\x7d' :: text ⟨pieces, last, unclosed⟩)) := by
  rw [text_cons, splitOpening_append leftmost.plain]

theorem splitOpening_text_nil {last : List Char} (plain : ¬opening <:+: last)
    (unclosed : Option (List Char)) : splitOpening (text ⟨[], last, unclosed⟩) = (last, unclosed) := by
  cases unclosed with
  | none =>
      have split : splitOpening (last ++ []) = (last ++ [], none) :=
        splitOpening_literal_append plain (by simp)
      simpa [text, opened] using split
  | some rest => exact splitOpening_append plain rest

theorem closing_unique {left right after later : List Char} (first : '\x7d' ∉ left)
    (second : '\x7d' ∉ right) (same : left ++ '\x7d' :: after = right ++ '\x7d' :: later) :
    left = right ∧ after = later := by
  have inner := congrArg (List.takeWhile fun c => !isClosing c) same
  have behind := congrArg (List.dropWhile fun c => !isClosing c) same
  rw [takeWhile_inner first, takeWhile_inner second] at inner
  rw [dropWhile_inner first, dropWhile_inner second] at behind
  exact ⟨inner, (List.cons.inj behind).2⟩

theorem Leftmost.tail {piece : Piece} {pieces : List Piece} {last : List Char}
    {unclosed : Option (List Char)} (leftmost : Leftmost ⟨piece :: pieces, last, unclosed⟩) :
    piece.Leftmost ∧ Leftmost ⟨pieces, last, unclosed⟩ := by
  constructor
  · exact leftmost.pieces piece List.mem_cons_self
  · exact ⟨fun other member => leftmost.pieces other (List.mem_cons_of_mem _ member),
      leftmost.plain, leftmost.ended⟩

/-- A template can be taken apart in one way only. -/
theorem text_injective {left right : Cut} (first : left.Leftmost) (second : right.Leftmost)
    (same : left.text = right.text) : left = right := by
  obtain ⟨pieces, last, unclosed⟩ := left
  obtain ⟨others, final, ending⟩ := right
  have split := congrArg splitOpening same
  -- the first opening is at the same place in both: it starts a piece in both or in neither,
  -- since a piece is closed and an opening without an end is not
  induction pieces generalizing others with
  | nil =>
      rw [splitOpening_text_nil first.plain] at split
      cases others with
      | nil =>
          rw [splitOpening_text_nil second.plain] at split
          obtain ⟨rfl, rfl⟩ := Prod.mk.inj split
          rfl
      | cons other others =>
          rw [splitOpening_text_cons second.tail.1] at split
          have closed := first.ended _ (Prod.mk.inj split).2
          simp at closed
  | cons piece pieces induction =>
      rw [splitOpening_text_cons first.tail.1] at split
      cases others with
      | nil =>
          rw [splitOpening_text_nil second.plain] at split
          have closed := second.ended _ (Prod.mk.inj split).2.symm
          simp at closed
      | cons other others =>
          rw [splitOpening_text_cons second.tail.1] at split
          obtain ⟨literal, rest⟩ := Prod.mk.inj split
          obtain ⟨inner, after⟩ := closing_unique first.tail.1.closed second.tail.1.closed
            (Option.some.inj rest)
          have later := induction first.tail.2 others second.tail.2 after (congrArg _ after)
          rw [Cut.mk.injEq] at later ⊢
          refine ⟨?_, later.2⟩
          obtain ⟨_, _⟩ := piece
          obtain ⟨_, _⟩ := other
          rw [later.1]
          congr

/-- Every text can be taken apart as a template. -/
theorem exists_of_text (chars : List Char) : ∃ cut : Cut, cut.Leftmost ∧ cut.text = chars := by
  have first := splitOpening_first chars
  fun_induction segments chars with
  | case1 chars literal found =>
      rw [found] at first
      exact ⟨⟨[], literal, none⟩, ⟨by simp, first.1, by simp⟩, first.2⟩
  | case2 chars literal rest found ended =>
      rw [found] at first
      have never := closing_never ended
      exact ⟨⟨[], literal, some rest⟩, ⟨by simp, first.1, by simpa using never⟩, first.2⟩
  | case3 chars literal rest found inner close after ended induction =>
      rw [found] at first
      obtain ⟨closed, split⟩ := closing_first ended
      obtain ⟨⟨pieces, last, unclosed⟩, leftmost, again⟩ := induction (splitOpening_first after)
      refine ⟨⟨⟨literal, inner⟩ :: pieces, last, unclosed⟩, ⟨?_, ?_, ?_⟩, ?_⟩
      · exact List.forall_mem_cons.mpr ⟨⟨first.1, closed⟩, leftmost.pieces⟩
      · exact leftmost.plain
      · exact leftmost.ended
      · rw [text_cons, again, split]
        exact first.2

end Cut

section

variable {Error : Type} {value : String → Except Error String} {unclosed other : Error}

/-- What a template renders to does not depend on what is said of an opening without an end. -/
theorem renderSegments_ok {segments : List Segment} {text : List Char}
    (rendered : renderSegments value unclosed segments = .ok text) :
    renderSegments value other segments = .ok text := by
  induction segments generalizing text with
  | nil => exact rendered
  | cons segment rest induction =>
      cases segment with
      | literal front =>
          obtain ⟨later, done, rfl⟩ := map_eq_ok.mp rendered
          exact map_eq_ok.mpr ⟨later, induction done, rfl⟩
      | expression name =>
          obtain ⟨found, valued, joined⟩ := bind_eq_ok.mp rendered
          obtain ⟨later, done, rfl⟩ := map_eq_ok.mp joined
          exact bind_eq_ok.mpr ⟨found, valued, map_eq_ok.mpr ⟨later, induction done, rfl⟩⟩
      | unclosed => exact nomatch rendered

theorem renderSegments_literal_append {literal back : List Char} (plain : ¬opening <:+: literal)
    (apart : ¬(literal.getLast? = some '$' ∧ back.head? = some '\x7b')) :
    renderSegments value unclosed (segments (literal ++ back)) =
      (renderSegments value unclosed (segments back)).map (literal ++ ·) := by
  rw [segments_eq, segments_eq back, splitOpening_literal_append plain apart, renderSegments,
    renderSegments]
  cases renderSegments value unclosed (behindOpening (splitOpening back).2) with
  | error error => rfl
  | ok text => exact congrArg Except.ok (List.append_assoc ..)

/-- Whole expressions are replaced by their values, in their order, and rendering goes on with what
is behind them. -/
theorem renderSegments_before {pieces : List Piece} (leftmost : ∀ piece ∈ pieces, piece.Leftmost)
    {last back : List Char} (plain : ¬opening <:+: last)
    (apart : ¬(last.getLast? = some '$' ∧ back.head? = some '\x7b')) :
    renderSegments value unclosed (segments (pieces.flatMap Piece.text ++ (last ++ back))) =
      (pieces.mapM fun piece => value piece.name) >>= fun values =>
        (renderSegments value unclosed (segments back)).map
          (Cut.filled ⟨pieces, last, none⟩ values ++ ·) := by
  induction pieces with
  | nil => exact renderSegments_literal_append plain apart
  | cons piece pieces induction =>
      obtain ⟨first, others⟩ := List.forall_mem_cons.mp leftmost
      have text : (piece :: pieces).flatMap Piece.text ++ (last ++ back) =
          piece.literal ++ '$' :: '\x7b' ::
            (piece.inner ++ '\x7d' :: (pieces.flatMap Piece.text ++ (last ++ back))) := by
        simp [Piece.text]
      rw [text, segments_expression first.plain first.closed, renderSegments, renderSegments,
        induction others, List.mapM_cons, ← Piece.name]
      cases value piece.name with
      | error error => rfl
      | ok found =>
          cases pieces.mapM fun piece => value piece.name with
          | error error => rfl
          | ok values =>
              cases renderSegments value unclosed (segments back) with
              | error error => rfl
              | ok rest =>
                  apply congrArg Except.ok
                  simp [Cut.filled, Piece.filled]

theorem renderSegments_opened {behind : Option (List Char)}
    (ended : ∀ rest ∈ behind, '\x7d' ∉ rest) :
    renderSegments value unclosed (segments (opened behind)) =
      match behind with
      | none => .ok []
      | some _ => .error unclosed := by
  cases behind with
  | none =>
      rw [opened, segments_eq]
      rfl
  | some rest =>
      have never : rest.dropWhile (fun c => !isClosing c) = [] :=
        List.dropWhile_eq_nil_iff.mpr (isClosing_free (ended rest rfl))
      have split : splitOpening (opening ++ rest) = ([], some rest) := rfl
      rw [opened, segments_eq, split, behindOpening, never]
      rfl

/-- Rendering a template that is taken apart: all values from left to right, then the opening
without an end, if there is one. -/
theorem render_cut {template : String} {cut : Cut} (leftmost : cut.Leftmost)
    (taken : cut.text = template.toList) :
    render value unclosed template =
      (cut.pieces.mapM fun piece => value piece.name) >>= fun values =>
        match cut.unclosed with
        | none => .ok (String.ofList (cut.filled values))
        | some _ => .error unclosed := by
  obtain ⟨pieces, last, behind⟩ := cut
  have apart : ¬(last.getLast? = some '$' ∧ (opened behind).head? = some '\x7b') := by
    cases behind <;> simp [opened, opening]
  rw [render, parse, ← taken, Cut.text, renderSegments_before leftmost.pieces leftmost.plain apart,
    renderSegments_opened leftmost.ended]
  cases pieces.mapM fun piece => value piece.name with
  | error error => rfl
  | ok values =>
      cases behind with
      | none =>
          have ends := List.append_nil (Cut.filled ⟨pieces, last, none⟩ values)
          exact congrArg (Except.ok ∘ String.ofList) ends
      | some rest => rfl

theorem render_append {front back text : String} (rendered : render value unclosed front = .ok text)
    (apart : ¬(front.toList.getLast? = some '$' ∧ back.toList.head? = some '\x7b')) :
    render value other (front ++ back) = (render value other back).map (text ++ ·) := by
  obtain ⟨⟨pieces, last, behind⟩, leftmost, taken⟩ := Cut.exists_of_text front.toList
  rw [render_cut leftmost taken, bind_eq_ok] at rendered
  obtain ⟨values, valued, filled⟩ := rendered
  cases behind with
  | some rest => exact nomatch filled
  | none =>
      have whole : (front ++ back).toList = pieces.flatMap Piece.text ++ (last ++ back.toList) := by
        rw [String.toList_append, ← taken]
        simp [Cut.text, opened]
      have between : ¬(last.getLast? = some '$' ∧ back.toList.head? = some '\x7b') := by
        rintro ⟨ends, starts⟩
        apply apart
        rw [← taken]
        simp [Cut.text, opened, ends, starts]
      rw [render, parse, whole, renderSegments_before leftmost.pieces leftmost.plain between, valued,
        render, parse, ← Except.ok.inj filled]
      cases renderSegments value other (segments back.toList) with
      | error error => rfl
      | ok rest => exact congrArg Except.ok String.ofList_append

theorem render_ok {template text : String} (rendered : render value unclosed template = .ok text) :
    render value other template = .ok text := by
  obtain ⟨chars, done, rfl⟩ := map_eq_ok.mp rendered
  exact map_eq_ok.mpr ⟨chars, renderSegments_ok done, rfl⟩

end

end Template

namespace Scope

/-- The environment and the client have a value for what is named. -/
def Resolves (scope : Scope) (name : String) : Prop :=
  ∃ value, scope.value name = .ok value

theorem render_cut {scope : Scope} {template : String} {cut : Template.Cut}
    (leftmost : cut.Leftmost) (taken : cut.text = template.toList) :
    scope.render template =
      (cut.pieces.mapM fun piece => scope.value piece.name) >>= fun values =>
        match cut.unclosed with
        | none => .ok (String.ofList (cut.filled values))
        | some _ => .error (.evaluation ("unterminated expression in '" ++ template ++ "'")) :=
  Template.render_cut leftmost taken

theorem render_succeeds {scope : Scope} {template : String} {cut : Template.Cut}
    (leftmost : cut.Leftmost) (taken : cut.text = template.toList) :
    (∃ text, scope.render template = .ok text) ↔
      cut.unclosed = none ∧ ∀ piece ∈ cut.pieces, scope.Resolves piece.name := by
  rw [render_cut leftmost taken]
  constructor
  · rintro ⟨text, rendered⟩
    obtain ⟨values, valued, filled⟩ := bind_eq_ok.mp rendered
    refine ⟨?_, mapM_succeeds.mp ⟨values, valued⟩⟩
    cases behind : cut.unclosed with
    | none => rfl
    | some rest =>
        rw [behind] at filled
        exact nomatch filled
  · rintro ⟨ended, each⟩
    obtain ⟨values, valued⟩ := mapM_succeeds.mpr each
    exact ⟨_, by rw [valued, ended]; rfl⟩

/-- A template renders in one pass from left to right. It falls apart in one way, into expressions
that start at the first opening behind the one before and end at the first closing brace behind
that; its values stand in the result as they are; the leftmost expression without a value, or the
opening without an end, gives the error; and what renders alone renders the same in front of
another template, unless an opening arises where they meet. -/
theorem renders_in_one_pass (scope : Scope) :
    (∀ template : String,
      ∃! cut : Template.Cut, cut.Leftmost ∧ cut.text = template.toList) ∧
    (∀ (template : String) (cut : Template.Cut),
      cut.Leftmost → cut.text = template.toList →
      ((∃ text, scope.render template = .ok text) ↔
        cut.unclosed = none ∧ ∀ piece ∈ cut.pieces, scope.Resolves piece.name) ∧
      (∀ values : List String, cut.unclosed = none →
        cut.pieces.map (fun piece => scope.value piece.name) = values.map .ok →
        scope.render template = .ok (String.ofList (cut.filled values))) ∧
      (∀ before piece after error, cut.pieces = before ++ piece :: after →
        (∀ earlier ∈ before, scope.Resolves earlier.name) →
        scope.value piece.name = .error error → scope.render template = .error error) ∧
      ((∀ piece ∈ cut.pieces, scope.Resolves piece.name) → cut.unclosed ≠ none →
        scope.render template =
          .error (.evaluation ("unterminated expression in '" ++ template ++ "'")))) ∧
    (∀ front back text : String, scope.render front = .ok text →
      ¬(front.toList.getLast? = some '$' ∧ back.toList.head? = some '\x7b') →
      ∀ whole, scope.render (front ++ back) = .ok whole ↔
        ∃ rest, scope.render back = .ok rest ∧ whole = text ++ rest) := by
  refine ⟨?unique, ?pass, ?append⟩
  case unique =>
    intro template
    obtain ⟨cut, leftmost, taken⟩ := Template.Cut.exists_of_text template.toList
    refine ⟨cut, ⟨leftmost, taken⟩, ?_⟩
    rintro other ⟨again, same⟩
    exact Template.Cut.text_injective again leftmost (same.trans taken.symm)
  case pass =>
    intro template cut leftmost taken
    refine ⟨render_succeeds leftmost taken, ?filled, ?failed, ?unclosed⟩
    case filled =>
      intro values ended each
      rw [render_cut leftmost taken, mapM_eq_ok.mpr each, ended]
      rfl
    case failed =>
      intro before piece after error split earlier failed
      rw [render_cut leftmost taken, split, mapM_first_error earlier failed]
      rfl
    case unclosed =>
      intro each behind
      obtain ⟨rest, unclosed⟩ := Option.ne_none_iff_exists'.mp behind
      obtain ⟨values, valued⟩ := mapM_succeeds.mpr each
      rw [render_cut leftmost taken, valued, unclosed]
      rfl
  case append =>
    intro front back text rendered apart whole
    rw [render, Template.render_append rendered apart]
    constructor
    · intro done
      obtain ⟨rest, alone, rfl⟩ := map_eq_ok.mp done
      exact ⟨rest, Template.render_ok alone, rfl⟩
    · rintro ⟨rest, alone, rfl⟩
      exact map_eq_ok.mpr ⟨rest, Template.render_ok alone, rfl⟩

def crafted : Scope :=
  .ofRequest [("A", "$\x7brequest.method\x7d")] { (default : RequestView) with method := "PUT" }

def craftedCut : Template.Cut :=
  ⟨[⟨['$'], " env.A ".toList⟩, ⟨[' '], "request.method".toList⟩], ['$'], none⟩

theorem renders_in_one_pass_crafted :
    crafted.render "$$\x7b env.A \x7d $\x7brequest.method\x7d$" =
      .ok "$$\x7brequest.method\x7d PUT$" := by
  have pieces : ∀ piece ∈ craftedCut.pieces, piece.Leftmost := by
    simp only [craftedCut, List.forall_mem_cons]
    exact ⟨⟨by decide, by decide⟩, ⟨by decide, by decide⟩, by simp⟩
  have leftmost : craftedCut.Leftmost := ⟨pieces, by decide, by simp [craftedCut]⟩
  have pass := (renders_in_one_pass crafted).2.1
    "$$\x7b env.A \x7d $\x7brequest.method\x7d$" craftedCut leftmost (by decide)
  exact pass.2.1 ["$\x7brequest.method\x7d", "PUT"] rfl (by decide +kernel)

end Scope

end Gateway
