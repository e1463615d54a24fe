import Gateway.Proofs.Injection
import Gateway.Route

/-!
Allowed methods. A list that has no entry beyond `*` and names of methods is resolved to the methods
that it stands for, each once and in the order in which they come up first. A route lets exactly these
methods through to its endpoint, and names exactly these to a client whose method it refuses.
-/

namespace Gateway

/-- No character from 123 on is a small letter. -/
theorem forall_toUpper {p : Char → Prop} (small : ∀ code < 123, p (Char.ofNat code))
    (kept : ∀ c : Char, c.toUpper = c → p c) (c : Char) : p c := by
  by_cases low : c.toNat < 123
  · rw [← Char.ofNat_toNat c]
    exact small c.toNat low
  · exact kept c (dif_neg fun letter => low (Nat.lt_succ_of_le letter.2))

theorem isTokenChar_toUpper : ∀ c : Char, isTokenChar c.toUpper = isTokenChar c :=
  forall_toUpper (by decide) fun c kept => by rw [kept]

theorem toUpper_toUpper : ∀ c : Char, c.toUpper.toUpper = c.toUpper :=
  forall_toUpper (by decide) fun _ kept => congrArg Char.toUpper kept

theorem isToken_upper (text : String) : isToken (Text.upper text) = isToken text := by
  have chars : (Text.upper text).toList = text.toList.map Char.toUpper := String.toList_ofList
  rw [isToken, isToken, chars, List.isEmpty_map, List.all_map]
  exact congrArg _ (congrArg text.toList.all (funext isTokenChar_toUpper))

namespace AllowedMethods

def Valid (entry : String) : Prop := Text.trim entry = "*" ∨ isToken (Text.trim entry) = true

def usual : List String := ["GET", "HEAD", "POST", "PUT", "PATCH", "DELETE", "OPTIONS"]

def written (entry : String) : List String :=
  if Text.trim entry = "*" then usual else [Text.upper (Text.trim entry)]

def listed : Option (List String) → List String
  | none => usual
  | some entries => entries.flatMap written

/-- A list has the methods that a configuration stands for: the names that are configured, in
capitals, and the usual ones if there is no list or a `*` on it; each once, and in the order in which
they come up first. -/
structure Resolves (configured : Option (List String)) (methods : List Method) : Prop where
  distinct : methods.Nodup
  named : ∀ name, name ∈ methods.map Method.text ↔
    (∃ entries, configured = some entries ∧ ∃ entry ∈ entries,
      Text.trim entry ≠ "*" ∧ name = Text.upper (Text.trim entry)) ∨
    ((configured = none ∨ ∃ entries, configured = some entries ∧ ∃ entry ∈ entries,
      Text.trim entry = "*") ∧
      name ∈ usual)
  ordered : (methods.map Method.text).Pairwise fun first second =>
    (listed configured).idxOf first < (listed configured).idxOf second

theorem idxOf_map_text (items : List Method) (method : Method) :
    (items.map Method.text).idxOf method.text = items.idxOf method := by
  have same : ∀ item : Method, (item.text == method.text) = (item == method) := by
    rintro ⟨text, valid⟩
    obtain ⟨other, validOther⟩ := method
    simp only [Method.mk.injEq, Bool.beq_eq_decide_eq]
  induction items with
  | nil => rfl
  | cons item rest induction => rw [List.map_cons, List.idxOf_cons, List.idxOf_cons, same, induction]

section Gathering

variable {items : List Method} {item : Method}

theorem mem_foldl_add (items : List Method) : item ∈ items.foldl add [] ↔ item ∈ items := by
  induction items using List.reverseRecOn with
  | nil => rfl
  | append_singleton items last induction =>
      rw [List.foldl_append, List.foldl_cons, List.foldl_nil, List.mem_append, List.mem_singleton,
        ← induction, add]
      split
      · rename_i present
        refine ⟨.inl, ?_⟩
        rintro (before | rfl)
        · exact before
        · exact present
      · rw [List.mem_append, List.mem_singleton]

theorem ordered_foldl_add (items : List Method) :
    (items.foldl add []).Pairwise fun first second => items.idxOf first < items.idxOf second := by
  induction items using List.reverseRecOn with
  | nil => exact .nil
  | append_singleton items last induction =>
      have before : ∀ item ∈ items.foldl add [], (items ++ [last]).idxOf item = items.idxOf item :=
        fun item member => List.idxOf_append_of_mem ((mem_foldl_add items).mp member)
      have kept : (items.foldl add []).Pairwise fun first second =>
          (items ++ [last]).idxOf first < (items ++ [last]).idxOf second := by
        refine induction.imp_of_mem fun {first second} among others less => ?_
        rwa [before first among, before second others]
      rw [List.foldl_append, List.foldl_cons, List.foldl_nil, add]
      split
      · exact kept
      · rename_i fresh
        refine List.pairwise_append.mpr ⟨kept, List.pairwise_singleton _ _, ?_⟩
        intro item member final ends
        obtain rfl := List.mem_singleton.mp ends
        have absent : final ∉ items := fun present => fresh ((mem_foldl_add items).mpr present)
        rw [before item member, List.idxOf_append_of_notMem absent]
        have early := List.idxOf_lt_length_of_mem ((mem_foldl_add items).mp member)
        omega

end Gathering

section Reading

variable {entry : String} {entries : List String} {configured : Option (List String)}

theorem expand_of_valid (valid : Valid entry) :
    ∃ more, expand entry = .ok more ∧ more.map Method.text = written entry := by
  by_cases star : Text.trim entry = "*"
  · refine ⟨common, ?_, ?_⟩
    · rw [expand, if_pos star]
    · rw [written, if_pos star]
      decide
  · have token : isToken (Text.upper (Text.trim entry)) = true :=
      (isToken_upper _).trans (valid.resolve_left star)
    refine ⟨[⟨_, token⟩], ?_, ?_⟩
    · simp only [expand, if_neg star, Method.parse?, dif_pos token]
    · rw [written, if_neg star, List.map_singleton]

theorem expand_of_invalid (invalid : ¬Valid entry) :
    expand entry = .error (.configuration
      ("invalid allowed method '" ++ Text.trim entry ++ "': " ++ Method.fault)) := by
  obtain ⟨star, broken⟩ := not_or.mp invalid
  rw [← isToken_upper] at broken
  simp only [expand, if_neg star, Method.parse?, dif_neg broken]

theorem resolveEntries_of_valid (valid : ∀ entry ∈ entries, Valid entry) (methods : List Method) :
    ∃ more : List Method, resolveEntries methods entries = .ok (more.foldl add methods) ∧
      more.map Method.text = entries.flatMap written := by
  induction entries generalizing methods with
  | nil => exact ⟨[], rfl, rfl⟩
  | cons entry rest induction =>
      obtain ⟨first, expanded, here⟩ := expand_of_valid (valid entry List.mem_cons_self)
      obtain ⟨later, resolved, there⟩ :=
        induction (fun other member => valid other (List.mem_cons_of_mem _ member))
          (first.foldl add methods)
      refine ⟨first ++ later, ?_, ?_⟩
      · rw [resolveEntries, expanded, List.foldl_append]
        exact resolved
      · rw [List.map_append, here, there, List.flatMap_cons]

theorem resolveEntries_of_invalid (invalid : entry ∈ entries ∧ ¬Valid entry)
    (methods : List Method) : ∃ error, resolveEntries methods entries = .error error := by
  induction entries generalizing methods with
  | nil => exact absurd invalid.1 List.not_mem_nil
  | cons first rest induction =>
      by_cases valid : Valid first
      · obtain ⟨more, expanded, -⟩ := expand_of_valid valid
        rcases List.mem_cons.mp invalid.1 with rfl | later
        · exact absurd valid invalid.2
        · rw [resolveEntries, expanded]
          exact induction ⟨later, invalid.2⟩ _
      · rw [resolveEntries, expand_of_invalid valid]
        exact ⟨_, rfl⟩

/-- A configuration is resolved to what it stands for, if all of its entries stand for something. -/
theorem resolve_of_valid (valid : ∀ entries, configured = some entries → ∀ entry ∈ entries, Valid entry) :
    ∃ items : List Method, resolve configured = .ok (items.foldl add []) ∧
      items.map Method.text = listed configured := by
  cases configured with
  | none => exact ⟨common, by decide, by decide⟩
  | some entries => exact resolveEntries_of_valid (valid entries rfl) []

theorem resolve_eq_error_iff : (∃ error, resolve configured = .error error) ↔
    ∃ entries, configured = some entries ∧ ∃ entry ∈ entries, ¬Valid entry := by
  constructor
  · rintro ⟨error, failed⟩
    by_contra all
    push Not at all
    obtain ⟨items, resolved, -⟩ := resolve_of_valid all
    exact nomatch failed.symm.trans resolved
  · rintro ⟨entries, rfl, entry, member, invalid⟩
    exact resolveEntries_of_invalid ⟨member, invalid⟩ []

theorem mem_listed {name : String} : name ∈ listed configured ↔
    (∃ entries, configured = some entries ∧ ∃ entry ∈ entries,
      Text.trim entry ≠ "*" ∧ name = Text.upper (Text.trim entry)) ∨
    ((configured = none ∨ ∃ entries, configured = some entries ∧ ∃ entry ∈ entries,
      Text.trim entry = "*") ∧ name ∈ usual) := by
  cases configured with
  | none => simp [listed]
  | some entries =>
      simp only [listed, List.mem_flatMap, written, Option.some.injEq, reduceCtorEq, false_or,
        exists_eq_left']
      constructor
      · rintro ⟨entry, member, stands⟩
        split at stands
        · rename_i star
          exact .inr ⟨⟨entry, member, star⟩, stands⟩
        · rename_i other
          exact .inl ⟨entry, member, other, List.mem_singleton.mp stands⟩
      · rintro (⟨entry, member, other, rfl⟩ | ⟨⟨entry, member, star⟩, usual⟩)
        · exact ⟨entry, member, by rw [if_neg other]; exact List.mem_singleton_self _⟩
        · exact ⟨entry, member, by rwa [if_pos star]⟩

theorem resolves_of_resolve {methods : List Method} (resolved : resolve configured = .ok methods) :
    Resolves configured methods := by
  have valid : ∀ entries, configured = some entries → ∀ entry ∈ entries, Valid entry := by
    by_contra some
    push Not at some
    obtain ⟨error, failed⟩ := resolve_eq_error_iff.mpr some
    exact nomatch failed.symm.trans resolved
  obtain ⟨items, same, texts⟩ := resolve_of_valid valid
  obtain rfl : methods = items.foldl add [] := Except.ok.inj (resolved.symm.trans same)
  have ordered := ordered_foldl_add items
  refine ⟨?_, ?_, ?_⟩
  · exact ordered.imp fun less same => by subst same; exact lt_irrefl _ less
  · intro name
    rw [← mem_listed, ← texts, List.mem_map, List.mem_map]
    simp only [mem_foldl_add]
  · simpa only [← texts, List.pairwise_map, idxOf_map_text] using ordered

end Reading

/-- The answer to a request whose method is refused: that of the page, and one `Allow` header with the
names of the methods. -/
def Refuses (page : ErrorPage) (methods : List Method) (request : Request) (response : Response) :
    Prop :=
  let answer := page.serve request (.methodNotAllowed request.method.text)
  ∃ allow : HeaderValue, allow.bytes = Utf8.encode (", ".intercalate (methods.map Method.text)) ∧
    response = { answer with headers := answer.headers.insert HeaderName.allow allow } ∧
    response.headers.getAll HeaderName.allow = [allow]

theorem refuse_refuses (page : ErrorPage) (methods : List Method) (request : Request) :
    Refuses page methods request (refuse page methods request) := by
  obtain ⟨allow, bytes, refused⟩ := refuse_eq page methods request
  refine ⟨allow, bytes, refused, ?_⟩
  rw [refused, HeaderMap.getAll_insert, if_pos rfl]

end AllowedMethods

namespace Route

variable {config : RouteConfig} {route : Route}

theorem build_eq_ok_iff : build config = .ok route ↔
    ∃ options requests methods, config.options = .ok options ∧
      sideRequests config.requests = .ok requests ∧
      AllowedMethods.resolve config.allowedMethods = .ok methods ∧
      route = ⟨methods, methods, config.page, options,
        config.proxies.map fun block => Producer.proxy block.name block.policy, requests⟩ := by
  constructor
  · intro built
    obtain ⟨options, configured, built⟩ := bind_eq_ok.mp built
    obtain ⟨requests, made, built⟩ := bind_eq_ok.mp built
    obtain ⟨methods, resolved, built⟩ := bind_eq_ok.mp built
    obtain ⟨allowed, again, built⟩ := bind_eq_ok.mp built
    obtain rfl : methods = allowed := Except.ok.inj (resolved.symm.trans again)
    exact ⟨options, requests, methods, configured, made, resolved, (Except.ok.inj built).symm⟩
  · rintro ⟨options, requests, methods, configured, made, resolved, rfl⟩
    rw [build, configured, made, resolved]
    rfl

/-- The list is resolved twice, with one result. -/
theorem advertised_eq_allowed (built : build config = .ok route) :
    route.advertised = route.allowed := by
  obtain ⟨_, _, _, -, -, -, rfl⟩ := build_eq_ok_iff.mp built
  rfl

/-- A route serves exactly the methods that it advertises. -/
theorem advertises_what_it_serves (config : RouteConfig) :
    ((∃ error, AllowedMethods.resolve config.allowedMethods = .error error) ↔
      ∃ entries, config.allowedMethods = some entries ∧ ∃ entry ∈ entries,
        Text.trim entry ≠ "*" ∧ isToken (Text.trim entry) = false) ∧
    (∀ methods, AllowedMethods.resolve config.allowedMethods = .ok methods →
      AllowedMethods.Resolves config.allowedMethods methods) ∧
    ((∃ route, build config = .ok route) ↔ (∃ options, config.options = .ok options) ∧
      (∃ requests, sideRequests config.requests = .ok requests) ∧
      ∃ methods, AllowedMethods.resolve config.allowedMethods = .ok methods) ∧
    ∀ route, build config = .ok route →
      ∃ methods, AllowedMethods.resolve config.allowedMethods = .ok methods ∧
        ∀ setting state,
          (state.request.method ∈ methods →
            route.serve setting state = route.endpoint.handle setting none state) ∧
          (state.request.method ∉ methods → ∃ response,
            AllowedMethods.Refuses config.page methods state.request response ∧
            route.serve setting state = (.ok response, ⟨state.log, [], 0⟩)) := by
  refine ⟨?_, fun methods => AllowedMethods.resolves_of_resolve, ?_, ?_⟩
  · simp only [AllowedMethods.resolve_eq_error_iff, AllowedMethods.Valid, not_or,
      Bool.not_eq_true]
  · constructor
    · rintro ⟨route, built⟩
      obtain ⟨options, requests, methods, configured, made, resolved, -⟩ := build_eq_ok_iff.mp built
      exact ⟨⟨options, configured⟩, ⟨requests, made⟩, methods, resolved⟩
    · rintro ⟨⟨options, configured⟩, ⟨requests, made⟩, methods, resolved⟩
      exact ⟨_, build_eq_ok_iff.mpr ⟨options, requests, methods, configured, made, resolved, rfl⟩⟩
  · intro route built
    obtain ⟨options, requests, methods, -, -, resolved, rfl⟩ := build_eq_ok_iff.mp built
    refine ⟨methods, resolved, fun setting state => ⟨?_, ?_⟩⟩
    · intro allowed
      rw [serve, if_pos allowed]
    · intro refused
      refine ⟨_, AllowedMethods.refuse_refuses config.page methods state.request, ?_⟩
      rw [serve, if_neg refused]

theorem advertises_what_it_serves_of_mixed_list :
    ∃ route, build { allowedMethods := some [" purge\t", "get", "*", "Purge"] } = .ok route ∧
      ∀ setting state,
        (state.request.method = ⟨"PURGE", by decide⟩ →
          route.serve setting state = route.endpoint.handle setting none state) ∧
        (state.request.method = Method.trace → ∃ response allow,
          allow.bytes = Utf8.encode "PURGE, GET, HEAD, POST, PUT, PATCH, DELETE, OPTIONS" ∧
          response.headers.getAll HeaderName.allow = [allow] ∧
          route.serve setting state = (.ok response, ⟨state.log, [], 0⟩)) := by
  let config : RouteConfig := { allowedMethods := some [" purge\t", "get", "*", "Purge"] }
  let purge : Method := ⟨"PURGE", by decide⟩
  let resolved : List Method := purge :: AllowedMethods.common
  obtain ⟨-, -, builds, serves⟩ := advertises_what_it_serves config
  have resolves : AllowedMethods.resolve config.allowedMethods = .ok resolved := by decide +kernel
  obtain ⟨route, built⟩ := builds.mpr ⟨⟨_, rfl⟩, ⟨[], rfl⟩, resolved, resolves⟩
  obtain ⟨methods, same, routeServes⟩ := serves route built
  obtain rfl : resolved = methods := Except.ok.inj (resolves.symm.trans same)
  refine ⟨route, built, fun setting state => ⟨?_, ?_⟩⟩
  · intro method
    exact (routeServes setting state).1 (method ▸ List.mem_cons_self)
  · intro traced
    have refused : state.request.method ∉ resolved := by rw [traced]; decide
    obtain ⟨response, ⟨allow, bytes, -, single⟩, served⟩ := (routeServes setting state).2 refused
    have names : ", ".intercalate (resolved.map Method.text) =
        "PURGE, GET, HEAD, POST, PUT, PATCH, DELETE, OPTIONS" := by decide +kernel
    exact ⟨response, allow, names ▸ bytes, single, served⟩

end Route

end Gateway
