import Gateway.Proofs.Operations
import Gateway.Proofs.Utf8

/-!
The values of a header after a policy. A policy that succeeds has rendered all its templates from the
message as it came, and what a header holds then can be read off the policy: the last value that is set
under its name, else what was not removed, and behind it all that is added.
-/

namespace Gateway

namespace SortedMap

def InByteOrder (entries : List (String × String)) : Prop :=
  entries.Pairwise fun left right => Utf8.encode left.1 < Utf8.encode right.1

theorem Ordered.inByteOrder {map : SortedMap String} (ordered : Ordered map) : InByteOrder map :=
  ordered.imp Utf8.encode_lt

end SortedMap

namespace Scope

def headerValue (scope : Scope) (template : String) : HeaderValue :=
  ((scope.render template).toOption.bind HeaderValue.parse?).getD .empty

end Scope

namespace HeaderChange

variable {scope : Scope} {header : HeaderName}

theorem written_of_sound {name template : String} (sound : writeFault scope name template = none) :
    ∃ parsed, HeaderName.parse? name = some parsed ∧
      written? scope name template = some (parsed, scope.headerValue template) ∧
      ∃ text, scope.render template = .ok text ∧
        (scope.headerValue template).bytes = Utf8.encode text := by
  rcases resolve_cases scope name template with ⟨error, faulty, _⟩ | ⟨pair, _, written, _⟩
  · rw [sound] at faulty
    contradiction
  · obtain ⟨named, text, rendered, valued⟩ := written_eq_some written
    have value : scope.headerValue template = pair.2 := by
      simp [Scope.headerValue, rendered, Except.toOption, valued]
    refine ⟨pair.1, named, ?_, text, rendered, ?_⟩
    · rw [value]
      exact written
    · rw [value]
      exact (HeaderValue.parse_eq_some_iff.mp valued).2

theorem getAll_effect_remove (scope : Scope) (headers : HeaderMap) (name : String) :
    (effect scope headers (.remove name)).getAll header =
      if HeaderName.parse? name = some header then [] else headers.getAll header := by
  simp only [effect]
  cases HeaderName.parse? name with
  | none => simp
  | some parsed => simp [HeaderMap.getAll_remove]

theorem getAll_effect_set {name template : String} (sound : writeFault scope name template = none)
    (headers : HeaderMap) :
    (effect scope headers (.set name template)).getAll header =
      if HeaderName.parse? name = some header then [scope.headerValue template]
      else headers.getAll header := by
  obtain ⟨parsed, named, written, _⟩ := written_of_sound sound
  simp only [effect, written, named, Option.elim_some, Option.some.injEq]
  exact HeaderMap.getAll_insert headers parsed header _

theorem getAll_effect_add {name template : String} (sound : writeFault scope name template = none)
    (headers : HeaderMap) :
    (effect scope headers (.add name template)).getAll header =
      headers.getAll header ++
        if HeaderName.parse? name = some header then [scope.headerValue template] else [] := by
  obtain ⟨parsed, named, written, _⟩ := written_of_sound sound
  simp only [effect, written, named, Option.elim_some, Option.some.injEq]
  by_cases same : parsed = header
  · subst same
    rw [if_pos rfl]
    exact HeaderMap.getAll_append_self headers parsed _
  · rw [if_neg same, List.append_nil]
    exact HeaderMap.getAll_append_of_ne same _

end HeaderChange

namespace HeaderPolicy

/-- The entries under some spelling of the name of a header, in the order of their keys. -/
def under (header : HeaderName) (entries : SortedMap String) : List (String × String) :=
  entries.filter fun entry => HeaderName.parse? entry.1 = some header

/-- What a header holds after a policy whose templates are written as `rendering` says. -/
def valuesAfter (policy : HeaderPolicy) (rendering : String → HeaderValue) (headers : HeaderMap)
    (header : HeaderName) : List HeaderValue :=
  (match (under header policy.set).getLast? with
    | some entry => [rendering entry.2]
    | none =>
        if ∃ name ∈ policy.remove, HeaderName.parse? name = some header then []
        else headers.getAll header) ++
  (under header policy.add).map fun entry => rendering entry.2

/-- Headers came out of a policy: every template was rendered under the scope, and every header holds
what the renderings make of its values. -/
def Transforms (policy : HeaderPolicy) (scope : Scope) (before after : HeaderMap) : Prop :=
  ∃ rendering : String → HeaderValue,
    (∀ entry ∈ policy.fields, ∃ text, scope.render entry.2 = .ok text ∧
      (rendering entry.2).bytes = Utf8.encode text) ∧
    ∀ header, after.getAll header = policy.valuesAfter rendering before header

section

open HeaderChange (effect writeFault)

variable {scope : Scope} {header : HeaderName}

theorem getAll_removes (scope : Scope) (names : List String) (headers : HeaderMap) :
    ((names.map .remove).foldl (effect scope) headers).getAll header =
      if ∃ name ∈ names, HeaderName.parse? name = some header then []
      else headers.getAll header := by
  induction names generalizing headers with
  | nil => simp
  | cons name rest induction =>
      rw [List.map_cons, List.foldl_cons, induction, HeaderChange.getAll_effect_remove]
      by_cases here : HeaderName.parse? name = some header <;> simp [here]

theorem getAll_sets {entries : List (String × String)}
    (sound : ∀ entry ∈ entries, writeFault scope entry.1 entry.2 = none) (headers : HeaderMap) :
    ((entries.map fun entry => .set entry.1 entry.2).foldl (effect scope) headers).getAll header =
      match (under header entries).getLast? with
      | some entry => [scope.headerValue entry.2]
      | none => headers.getAll header := by
  induction entries generalizing headers with
  | nil => rfl
  | cons entry rest induction =>
      have later := induction fun other member => sound other (List.mem_cons_of_mem _ member)
      rw [List.map_cons, List.foldl_cons, later,
        HeaderChange.getAll_effect_set (sound entry List.mem_cons_self)]
      unfold under
      by_cases here : HeaderName.parse? entry.1 = some header
      · rw [if_pos here, List.filter_cons_of_pos (by simpa using here), List.getLast?_cons]
        cases (rest.filter fun entry => HeaderName.parse? entry.1 = some header).getLast? <;> rfl
      · rw [if_neg here, List.filter_cons_of_neg (by simpa using here)]

theorem getAll_adds {entries : List (String × String)}
    (sound : ∀ entry ∈ entries, writeFault scope entry.1 entry.2 = none) (headers : HeaderMap) :
    ((entries.map fun entry => .add entry.1 entry.2).foldl (effect scope) headers).getAll header =
      headers.getAll header ++ (under header entries).map fun entry => scope.headerValue entry.2 := by
  induction entries generalizing headers with
  | nil => simp [under]
  | cons entry rest induction =>
      have later := induction fun other member => sound other (List.mem_cons_of_mem _ member)
      rw [List.map_cons, List.foldl_cons, later,
        HeaderChange.getAll_effect_add (sound entry List.mem_cons_self), List.append_assoc]
      unfold under
      by_cases here : HeaderName.parse? entry.1 = some header
      · rw [if_pos here, List.filter_cons_of_pos (by simpa using here)]
        rfl
      · rw [if_neg here, List.filter_cons_of_neg (by simpa using here)]
        rfl

end

theorem transforms_of_apply {policy : HeaderPolicy} {scope : Scope} {headers after : HeaderMap}
    (applied : policy.apply scope headers = (after, none)) :
    policy.Transforms scope headers after := by
  have ran : carryOut (HeaderChange.fault scope) (HeaderChange.effect scope) headers
      policy.changes = (after, none) := (HeaderChange.applyAll_eq _ _ _).symm.trans applied
  have sound := sound_of_carryOut (congrArg Prod.snd ran)
  rw [carryOut_of_sound sound] at ran
  have reached : policy.changes.foldl (HeaderChange.effect scope) headers = after :=
    congrArg Prod.fst ran
  simp only [changes, List.forall_mem_append, List.forall_mem_map] at sound
  obtain ⟨⟨_, sets⟩, adds⟩ := sound
  refine ⟨scope.headerValue, ?_, ?_⟩
  · intro entry member
    have written : HeaderChange.writeFault scope entry.1 entry.2 = none := by
      rcases List.mem_append.mp member with set | added
      · exact sets entry set
      · exact adds entry added
    obtain ⟨_, _, _, text, rendered, bytes⟩ := HeaderChange.written_of_sound written
    exact ⟨text, rendered, bytes⟩
  · intro header
    rw [← reached, changes, List.foldl_append, List.foldl_append, getAll_adds adds,
      getAll_sets sets, getAll_removes]
    rfl

/-- The values of every header after a policy, in closed form, for the policies of requests and of
responses alike. All templates are rendered from the message as it was before the policy, and the
entries of a map count in the order of the bytes of their keys. -/
theorem final_header_values (policy : HeaderPolicy) :
    (∀ scope headers after, policy.apply scope headers = (after, none) →
      policy.Transforms scope headers after) ∧
    (∀ environment request after,
      Policy.changeRequest policy environment request = (after, none) →
      policy.Transforms (Scope.ofRequest environment (RequestView.of request)) request.headers
        after.headers) ∧
    (∀ (whole : Policy) environment view response after, whole.response = policy →
      whole.applyToResponse environment view response = (after, none) →
      policy.Transforms ⟨environment, view, some (ResponseView.of response)⟩ response.headers
        after.headers) ∧
    (policy.set.Ordered → policy.add.Ordered → ∀ header,
      SortedMap.InByteOrder (under header policy.set) ∧
      SortedMap.InByteOrder (under header policy.add)) := by
  refine ⟨fun _ _ _ => transforms_of_apply, ?_, ?_, ?_⟩
  · intro environment request after changed
    obtain ⟨headers, finished⟩ := Prod.mk.inj changed
    apply transforms_of_apply
    rw [← headers]
    exact Prod.ext rfl finished
  · rintro whole environment view response after rfl changed
    obtain ⟨headers, finished⟩ := Prod.mk.inj changed
    apply transforms_of_apply
    rw [← headers]
    exact Prod.ext rfl finished
  · intro sets adds header
    exact ⟨sets.inByteOrder.sublist List.filter_sublist,
      adds.inByteOrder.sublist List.filter_sublist⟩

def tidy : HeaderPolicy where
  remove := ["X-A"]
  set := [("X-a", "one"), ("x-a", "$\x7brequest.headers.x-a\x7d")]
  add := [("X-A", "two")]

def probeName : HeaderName := ⟨"x-a", by decide⟩

def probe : Request where
  method := .get
  uri := .root
  headers := HeaderMap.empty.append probeName ⟨Utf8.encode "old", by decide⟩
  body := .empty
  context := none

/-- The expression sees the value that was there before the removal, and it is the entry in small
letters that stays. -/
theorem final_header_values_of_tidy :
    (Policy.changeRequest tidy [] probe).2 = none ∧
    ((Policy.changeRequest tidy [] probe).1.headers.getAll probeName).map HeaderValue.bytes =
      [Utf8.encode "old", Utf8.encode "two"] := by
  have finished : (Policy.changeRequest tidy [] probe).2 = none := by decide +kernel
  refine ⟨finished, ?_⟩
  obtain ⟨rendering, written, values⟩ :=
    (final_header_values tidy).2.1 [] probe _ (Prod.ext rfl finished)
  have listed : tidy.valuesAfter rendering probe.headers probeName =
      [rendering "$\x7brequest.headers.x-a\x7d", rendering "two"] := by rfl
  obtain ⟨old, rendered, oldBytes⟩ := written ("x-a", "$\x7brequest.headers.x-a\x7d") (by decide)
  obtain ⟨two, plain, twoBytes⟩ := written ("X-A", "two") (by decide)
  have first : (Scope.ofRequest [] (RequestView.of probe)).render
      "$\x7brequest.headers.x-a\x7d" = .ok "old" := by decide +kernel
  have second : (Scope.ofRequest [] (RequestView.of probe)).render "two" = .ok "two" := by
    decide +kernel
  rw [first] at rendered
  rw [second] at plain
  rw [values, listed, List.map_cons, List.map_cons, List.map_nil, oldBytes, twoBytes,
    ← Except.ok.inj rendered, ← Except.ok.inj plain]

end HeaderPolicy

end Gateway
