import Gateway.Proofs.Replacement
import Mathlib.Logic.Function.Basic

/-!
Texts that leave places for values. Patterns of several kinds stand in a text; read from left to
right it is a sequence of characters and places, and writing a value for each kind into its places
replaces all patterns at once. Replacing them kind by kind starts from places that hold their patterns
and ends with places that hold their values; each step fills in the marks of one kind.
-/

namespace Gateway.Text

inductive Piece (Kind : Type) where
  | char (c : Char)
  | place (kind : Kind)
  deriving DecidableEq, Repr

variable {Kind : Type}

/-- The first kind whose pattern a text starts with. -/
def kindAt? (pattern : Kind → List Char) (kinds : List Kind) (chars : List Char) : Option Kind :=
  kinds.find? fun kind => (pattern kind).isPrefixOf chars

/-- The pieces of a text from left to right, `skip` characters of the last pattern being still
ahead. -/
def pieces (pattern : Kind → List Char) (kinds : List Kind) : Nat → List Char → List (Piece Kind)
  | _, [] => []
  | skip + 1, _ :: rest => pieces pattern kinds skip rest
  | 0, c :: rest =>
      match kindAt? pattern kinds (c :: rest) with
      | some kind => .place kind :: pieces pattern kinds ((pattern kind).length - 1) rest
      | none => .char c :: pieces pattern kinds 0 rest

def Piece.text (values : Kind → List Char) : Piece Kind → List Char
  | char c => [c]
  | place kind => values kind

def text (values : Kind → List Char) (pieces : List (Piece Kind)) : List Char :=
  pieces.flatMap (Piece.text values)

@[simp]
theorem text_char (values : Kind → List Char) (c : Char) (rest : List (Piece Kind)) :
    text values (.char c :: rest) = c :: text values rest :=
  List.flatMap_cons

@[simp]
theorem text_place (values : Kind → List Char) (kind : Kind) (rest : List (Piece Kind)) :
    text values (.place kind :: rest) = values kind ++ text values rest :=
  List.flatMap_cons

theorem text_append (values : Kind → List Char) (front back : List (Piece Kind)) :
    text values (front ++ back) = text values front ++ text values back :=
  List.flatMap_append

theorem text_chars (values : Kind → List Char) (chars : List Char) :
    text values (chars.map Piece.char) = chars := by
  induction chars with
  | nil => rfl
  | cons c rest induction => rw [List.map_cons, text_char, induction]

section

variable {pattern : Kind → List Char} {kinds : List Kind}

theorem kindAt?_eq_some {chars : List Char} {kind : Kind}
    (found : kindAt? pattern kinds chars = some kind) : kind ∈ kinds ∧ pattern kind <+: chars := by
  have stands := List.find?_some found
  rw [List.isPrefixOf_iff_prefix] at stands
  exact ⟨List.mem_of_find?_eq_some found, stands⟩

theorem kindAt?_eq_none_iff {chars : List Char} :
    kindAt? pattern kinds chars = none ↔ ∀ kind ∈ kinds, ¬pattern kind <+: chars := by
  simp only [kindAt?, List.find?_eq_none, List.isPrefixOf_iff_prefix]

theorem pieces_drop (skip : Nat) (chars : List Char) :
    pieces pattern kinds skip chars = pieces pattern kinds 0 (chars.drop skip) := by
  induction chars generalizing skip with
  | nil => cases skip <;> rfl
  | cons c rest induction =>
      cases skip with
      | zero => rfl
      | succ skip => exact induction skip

theorem pieces_place {kind : Kind} (filled : pattern kind ≠ []) {rest : List Char}
    (found : kindAt? pattern kinds (pattern kind ++ rest) = some kind) :
    pieces pattern kinds 0 (pattern kind ++ rest) = .place kind :: pieces pattern kinds 0 rest := by
  obtain ⟨first, more, spelled⟩ := List.exists_cons_of_ne_nil filled
  rw [spelled, List.cons_append] at found ⊢
  rw [pieces, found]
  dsimp only
  rw [pieces_drop, spelled, List.length_cons, Nat.add_sub_cancel, List.drop_left]

theorem pieces_char {c : Char} {rest : List Char}
    (missing : kindAt? pattern kinds (c :: rest) = none) :
    pieces pattern kinds 0 (c :: rest) = .char c :: pieces pattern kinds 0 rest := by
  rw [pieces, missing]

/-- Pieces none of whose characters starts a pattern. -/
inductive Tight (pattern : Kind → List Char) (kinds : List Kind) : List (Piece Kind) → Prop where
  | nil : Tight pattern kinds []
  | place (kind : Kind) {rest : List (Piece Kind)} (tight : Tight pattern kinds rest) :
      Tight pattern kinds (.place kind :: rest)
  | char {c : Char} {rest : List (Piece Kind)}
      (apart : ∀ kind ∈ kinds, ¬pattern kind <+: c :: text pattern rest)
      (tight : Tight pattern kinds rest) : Tight pattern kinds (.char c :: rest)

theorem tight_pieces (filled : ∀ kind ∈ kinds, pattern kind ≠ []) (chars : List Char) :
    Tight pattern kinds (pieces pattern kinds 0 chars) ∧
      text pattern (pieces pattern kinds 0 chars) = chars := by
  induction size : chars.length using Nat.strong_induction_on generalizing chars with
  | _ size induction =>
      subst size
      cases chars with
      | nil => exact ⟨.nil, rfl⟩
      | cons c rest =>
          cases here : kindAt? pattern kinds (c :: rest) with
          | none =>
              obtain ⟨tight, whole⟩ := induction _ (by simp) rest rfl
              rw [pieces_char here]
              refine ⟨.char ?_ tight, by rw [text_char, whole]⟩
              rw [whole]
              exact kindAt?_eq_none_iff.mp here
          | some kind =>
              obtain ⟨known, behind, split⟩ := kindAt?_eq_some here
              rw [← split] at here induction ⊢
              have shorter : behind.length < (pattern kind ++ behind).length := by
                have := List.length_pos_iff.mpr (filled kind known)
                rw [List.length_append]
                omega
              obtain ⟨tight, whole⟩ := induction _ shorter behind rfl
              rw [pieces_place (filled kind known) here]
              exact ⟨.place kind tight, by rw [text_place, whole]⟩

end

section

variable [DecidableEq Kind]

def Piece.marked (values : Kind → List Char) (kind : Kind) : Piece Kind → Marked
  | char c => [some c]
  | place other => if other = kind then [none] else (values other).map some

def marked (values : Kind → List Char) (kind : Kind) (pieces : List (Piece Kind)) : Marked :=
  pieces.flatMap (Piece.marked values kind)

theorem marked_cons (values : Kind → List Char) (kind : Kind) (piece : Piece Kind)
    (rest : List (Piece Kind)) :
    marked values kind (piece :: rest) = piece.marked values kind ++ marked values kind rest :=
  List.flatMap_cons

theorem written_marked (values : Kind → List Char) (kind : Kind) (value : List Char)
    (pieces : List (Piece Kind)) :
    written value (marked values kind pieces) =
      text (Function.update values kind value) pieces := by
  induction pieces with
  | nil => rfl
  | cons piece rest induction =>
      rw [marked_cons, written_append, induction]
      cases piece with
      | char c => rfl
      | place other =>
          rw [text_place, Piece.marked]
          by_cases same : other = kind
          · subst same
            rw [if_pos rfl, Function.update_self, written_none, List.append_assoc]
            rfl
          · rw [if_neg same, Function.update_of_ne same, written_plain]

theorem marks_marked (values : Kind → List Char) (kind : Kind) (pieces : List (Piece Kind)) :
    marks (marked values kind pieces) = pieces.count (.place kind) := by
  induction pieces with
  | nil => rfl
  | cons piece rest induction =>
      rw [marked_cons, marks_append, induction, List.count_cons]
      cases piece with
      | char c => simp [Piece.marked, marks]
      | place other =>
          rw [Piece.marked]
          by_cases same : other = kind
          · simp [same, marks]
            omega
          · rw [if_neg same, marks_plain]
            simp [same]

/-- The values of the kinds that are done, and the patterns of the others. -/
def filling (pattern values : Kind → List Char) (done : List Kind) (kind : Kind) : List Char :=
  if kind ∈ done then values kind else pattern kind

variable {pattern values : Kind → List Char} {done : List Kind} {kind : Kind}

theorem filling_nil : filling pattern values [] = pattern := by
  funext kind
  rw [filling, if_neg List.not_mem_nil]

theorem update_filling (fresh : kind ∉ done) :
    Function.update (filling pattern values done) kind (pattern kind) =
      filling pattern values done := by
  conv_rhs => rw [← Function.update_eq_self kind (filling pattern values done)]
  rw [filling, if_neg fresh]

theorem update_filling_done :
    Function.update (filling pattern values done) kind (values kind) =
      filling pattern values (kind :: done) := by
  funext other
  by_cases same : other = kind
  · subst same
    simp [filling]
  · rw [Function.update_of_ne same, filling, filling]
    simp [same]

theorem replaceFrom_filling (filled : pattern kind ≠ []) (fresh : kind ∉ done)
    {fields : List (Piece Kind)}
    (free : StrayFree (pattern kind) (marked (filling pattern values done) kind fields)) :
    replaceFrom (pattern kind) (values kind) 0 (text (filling pattern values done) fields) =
      text (filling pattern values (kind :: done)) fields := by
  have replaced := @replaceFrom_written _ (values kind) filled _ free
  rw [written_marked, written_marked, update_filling fresh, update_filling_done] at replaced
  exact replaced

/-- Replacing a pattern fills its places exactly if it stands at no more places than there are of
its kind, or is replaced by itself. -/
theorem replaceFrom_filling_iff (filled : pattern kind ≠ [])
    (unbordered : Unbordered (pattern kind)) (fresh : kind ∉ done) (fields : List (Piece Kind)) :
    replaceFrom (pattern kind) (values kind) 0 (text (filling pattern values done) fields) =
        text (filling pattern values (kind :: done)) fields ↔
      occurrences (pattern kind) (text (filling pattern values done) fields) =
          fields.count (.place kind) ∨
        values kind = pattern kind := by
  have law := @replaceFrom_written_iff (pattern kind) (values kind) filled unbordered
    (marked (filling pattern values done) kind fields)
  rw [written_marked, written_marked, update_filling fresh, update_filling_done,
    marks_marked] at law
  exact law

end

end Gateway.Text
