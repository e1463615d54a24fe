import Gateway.Http.Token

/-!
Header fields of a message: an ordered map from names to one or more values. `getAll` is the view
that every operation is described by; the order of the names shows only where all fields are
listed. Removing a name moves the last entry into its place.
-/

namespace Gateway

/-- A name with its values in order. -/
structure HeaderEntry where
  name : HeaderName
  first : HeaderValue
  more : List HeaderValue
  deriving DecidableEq, Repr

namespace HeaderEntry

def values (entry : HeaderEntry) : List HeaderValue :=
  entry.first :: entry.more

def push (entry : HeaderEntry) (value : HeaderValue) : HeaderEntry :=
  { entry with more := entry.more ++ [value] }

end HeaderEntry

/-- Header fields; no name has two entries. -/
structure HeaderMap where
  entries : List HeaderEntry
  distinct : (entries.map HeaderEntry.name).Nodup
  deriving DecidableEq, Repr

namespace HeaderMap

def empty : HeaderMap := ⟨[], List.nodup_nil⟩

instance : Inhabited HeaderMap := ⟨empty⟩

def names (headers : HeaderMap) : List HeaderName :=
  headers.entries.map HeaderEntry.name

def entry? (headers : HeaderMap) (name : HeaderName) : Option HeaderEntry :=
  headers.entries.find? fun entry => entry.name = name

/-- All values of a name in order. -/
def getAll (headers : HeaderMap) (name : HeaderName) : List HeaderValue :=
  match headers.entry? name with
  | some entry => entry.values
  | none => []

def get? (headers : HeaderMap) (name : HeaderName) : Option HeaderValue :=
  (headers.getAll name).head?

/-- The first value of a name as text, if it is visible. -/
def text? (headers : HeaderMap) (name : HeaderName) : Option String :=
  (headers.get? name).bind HeaderValue.text?

def contains (headers : HeaderMap) (name : HeaderName) : Bool :=
  headers.names.contains name

/-- Applies a change to the entry of a name, or adds a new entry at the end. -/
def alter (headers : HeaderMap) (name : HeaderName) (change : HeaderEntry → HeaderEntry)
    (new : HeaderEntry) (keeps : ∀ entry, (change entry).name = entry.name)
    (named : new.name = name) : HeaderMap :=
  if present : name ∈ headers.names then
    ⟨headers.entries.map fun entry => if entry.name = name then change entry else entry, by
      have same : (headers.entries.map fun entry =>
          if entry.name = name then change entry else entry).map HeaderEntry.name =
          headers.entries.map HeaderEntry.name := by
        rw [List.map_map]
        apply List.map_congr_left
        intro entry _
        by_cases hit : entry.name = name <;> simp [hit, keeps]
      rw [same]
      exact headers.distinct⟩
  else
    ⟨headers.entries ++ [new], by
      rw [List.map_append, List.map_cons, List.map_nil, named]
      exact List.nodup_append.mpr ⟨headers.distinct, by simp, by
        intro other member same equal hit
        exact present (by rw [List.mem_singleton] at equal; subst equal; subst hit; exact member)⟩⟩

/-- Replaces all values of a name by one, in place, or adds the name at the end. -/
def insert (headers : HeaderMap) (name : HeaderName) (value : HeaderValue) : HeaderMap :=
  headers.alter name (fun entry => { entry with first := value, more := [] }) ⟨name, value, []⟩
    (fun _ => rfl) rfl

/-- Adds a value behind those of its name. -/
def append (headers : HeaderMap) (name : HeaderName) (value : HeaderValue) : HeaderMap :=
  headers.alter name (fun entry => entry.push value) ⟨name, value, []⟩ (fun _ => rfl) rfl

/-- The entries without one name: the last entry takes the place of the removed one. -/
def removeEntry (name : HeaderName) : List HeaderEntry → List HeaderEntry
  | [] => []
  | entry :: rest =>
      if entry.name = name then
        match rest.getLast? with
        | none => []
        | some last => last :: rest.dropLast
      else entry :: removeEntry name rest

theorem removeEntry_sublist (name : HeaderName) (entries : List HeaderEntry) :
    ∃ kept, List.Sublist kept entries ∧ (removeEntry name entries).Perm kept := by
  induction entries with
  | nil => exact ⟨[], .slnil, .refl _⟩
  | cons entry rest induction =>
      unfold removeEntry
      split
      · cases last : rest.getLast? with
        | none =>
            exact ⟨[], List.nil_sublist _, .refl _⟩
        | some final =>
            refine ⟨rest, List.sublist_cons_self _ _, ?_⟩
            obtain ⟨front, rfl⟩ := List.getLast?_eq_some_iff.mp last
            rw [List.dropLast_concat]
            exact (List.perm_append_singleton final front).symm
      · obtain ⟨kept, sub, perm⟩ := induction
        exact ⟨entry :: kept, sub.cons_cons _, perm.cons _⟩

def remove (headers : HeaderMap) (name : HeaderName) : HeaderMap :=
  ⟨removeEntry name headers.entries, by
    obtain ⟨kept, sub, perm⟩ := removeEntry_sublist name headers.entries
    exact (perm.map HeaderEntry.name).nodup_iff.mpr
      (headers.distinct.sublist (sub.map HeaderEntry.name))⟩

def removeAll (headers : HeaderMap) (names : List HeaderName) : HeaderMap :=
  names.foldl remove headers

/-- All fields in order, one pair for each value. -/
def toList (headers : HeaderMap) : List (HeaderName × HeaderValue) :=
  headers.entries.flatMap fun entry => entry.values.map fun value => (entry.name, value)

def size (headers : HeaderMap) : Nat :=
  headers.toList.length

def ofList (fields : List (HeaderName × HeaderValue)) : HeaderMap :=
  fields.foldl (fun headers field => headers.append field.1 field.2) empty

end HeaderMap

end Gateway
