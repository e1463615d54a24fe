import Gateway.Proofs.Addresses
import Gateway.Proofs.Injection
import Gateway.Proofs.Stages
import Mathlib.Data.List.TakeWhile

/-!
Where a proxy sends a request. The new target is written as one text from the destination and the old
target, and is read again by another grammar. The parts come out as they went in, because each starts
with a character that ends the one before it; but the path of a request for the whole server, `*`,
starts with no such character, and behind an authority it becomes a part of it.
-/

namespace Gateway

namespace Uri

open Url (IsPath IsQuery Unbroken)

/-- What a client can name as its target. -/
structure Legible (uri : Uri) : Prop where
  path : uri.path = "*" ∨ IsPath uri.path
  query : ∀ query, uri.query = some query → IsQuery query

theorem isPath_empty : IsPath "" := ⟨.inl rfl, List.forall_mem_nil _⟩

theorem isPath_root : IsPath "/" := ⟨.inr ⟨[], rfl⟩, List.forall_mem_singleton.mpr (by decide)⟩

theorem isPath_orRoot {path : String} (isPath : IsPath path) : IsPath (orRoot path) := by
  unfold orRoot
  split
  · exact isPath_root
  · exact isPath

theorem mem_takeWhile {Item : Type} {keeps : Item → Bool} {items : List Item} {item : Item}
    (member : item ∈ items.takeWhile keeps) : keeps item = true :=
  List.all_eq_true.mp List.all_takeWhile item member

theorem readTarget_eq_ok {chars : List Char} {path : String} {query : Option String}
    (read : readTarget chars = .ok (path, query)) :
    path = String.ofList (chars.takeWhile fun c => !Url.endsPath c) ∧
      ∀ text, query = some text → IsQuery text := by
  unfold readTarget at read
  dsimp only at read
  split at read
  · contradiction
  · split at read
    · split at read
      · contradiction
      · obtain ⟨rfl, rfl⟩ := Prod.mk.inj (Except.ok.inj read)
        refine ⟨rfl, ?_⟩
        intro text same c member
        rw [← Option.some.inj same, String.toList_ofList] at member
        have kept := mem_takeWhile member
        simpa using kept
    · obtain ⟨rfl, rfl⟩ := Prod.mk.inj (Except.ok.inj read)
      exact ⟨rfl, fun text same => nomatch same⟩

theorem ofTarget_legible {scheme authority : Option String} {chars : List Char} {uri : Uri}
    (start : ∀ c rest, chars = c :: rest → endsAuthority c = true)
    (read : ofTarget scheme authority chars = .ok uri) : uri.Legible := by
  obtain ⟨⟨path, query⟩, target, made⟩ := bind_eq_ok.mp read
  obtain rfl := Except.ok.inj made
  obtain ⟨rfl, queries⟩ := readTarget_eq_ok target
  refine ⟨.inr (isPath_orRoot ⟨?_, ?_⟩), queries⟩
  · cases chars with
    | nil => exact .inl rfl
    | cons c rest =>
        have opening := start c rest rfl
        rw [List.takeWhile_cons]
        split
        -- the first character ends an authority and no path, so it is the slash
        · rename_i kept
          have slash : c = '/' := by
            simp only [endsAuthority, Url.endsPath, Bool.or_eq_true, Bool.not_eq_true',
              Bool.or_eq_false_iff, decide_eq_true_eq, decide_eq_false_iff_not] at opening kept
            tauto
          exact .inr ⟨_, by rw [String.toList_ofList, slash]⟩
        · exact .inl rfl
  · intro c member
    rw [String.toList_ofList] at member
    simpa using mem_takeWhile member

theorem readAuthority_eq_ok {chars rest : List Char} {authority : String}
    (read : readAuthority chars = .ok (authority, rest)) :
    authority = String.ofList (chars.takeWhile fun c => !endsAuthority c) ∧
      rest = chars.dropWhile fun c => !endsAuthority c := by
  obtain ⟨_, _, made⟩ := bind_eq_ok.mp read
  obtain ⟨rfl, rfl⟩ := Prod.mk.inj (Except.ok.inj made)
  exact ⟨rfl, rfl⟩

theorem start_dropWhile {chars rest : List Char} {c : Char}
    (left : chars.dropWhile (fun c => !endsAuthority c) = c :: rest) : endsAuthority c = true := by
  have stop := List.head?_dropWhile_not (fun c => !endsAuthority c) chars
  rw [left] at stop
  simpa using stop

theorem bare_legible (authority : Option String) : Legible ⟨none, authority, "", none⟩ :=
  ⟨.inr isPath_empty, fun _ same => nomatch same⟩

theorem ofAbsolute_legible {chars : List Char} {uri : Uri} (read : ofAbsolute chars = .ok uri) :
    uri.Legible := by
  obtain ⟨⟨scheme, rest⟩, _, read⟩ := bind_eq_ok.mp read
  dsimp only at read
  split at read
  · contradiction
  · obtain ⟨⟨authority, left⟩, cut, read⟩ := bind_eq_ok.mp read
    obtain ⟨-, same⟩ := readAuthority_eq_ok cut
    dsimp only at read
    split at read
    · split at read
      · rw [← Except.ok.inj read]
        exact bare_legible _
      · contradiction
    · split at read
      · contradiction
      · apply ofTarget_legible _ read
        rintro c more rfl
        exact start_dropWhile same.symm

theorem parse_legible {text : String} {uri : Uri} (parsed : parse text = .ok uri) : uri.Legible := by
  unfold parse at parsed
  dsimp only at parsed
  split at parsed
  · contradiction
  · split at parsed
    · contradiction
    · obtain rfl := Except.ok.inj parsed
      exact ⟨.inr isPath_root, fun query same => nomatch same⟩
    · obtain rfl := Except.ok.inj parsed
      exact ⟨.inl rfl, fun query same => nomatch same⟩
    · obtain ⟨⟨authority, rest⟩, _, parsed⟩ := bind_eq_ok.mp parsed
      dsimp only at parsed
      split at parsed
      · rw [← Except.ok.inj parsed]
        exact bare_legible _
      · contradiction
    · rename_i rest _ chars
      apply ofTarget_legible _ parsed
      intro c rest same
      rw [← (List.cons.inj (chars.symm.trans same)).1]
      rfl
    · split at parsed
      · contradiction
      · exact ofAbsolute_legible parsed

def queryText (query : Option String) : String :=
  match query with
  | some query => "?" ++ query
  | none => ""

theorem readTarget_path {path : String} {query : Option String} {target : String × Option String}
    (isPath : IsPath path) (isQuery : ∀ text, query = some text → IsQuery text)
    (read : readTarget (path.toList ++ (queryText query).toList) = .ok target) :
    target = (path, query) := by
  have within : ∀ c ∈ path.toList, (!(c = '?' || c = '#')) = true := by
    intro c member
    rw [Bool.not_eq_true']
    exact isPath.free c member
  unfold readTarget at read
  dsimp only at read
  rw [List.takeWhile_append_of_pos within, List.dropWhile_append_of_pos within] at read
  cases query with
  | none =>
      simp only [queryText, String.toList_empty, List.takeWhile_nil, List.dropWhile_nil,
        List.append_nil, String.ofList_toList] at read
      split at read
      · contradiction
      · exact (Except.ok.inj read).symm
  | some query =>
      have free : ∀ c ∈ query.toList, decide (c ≠ '#') = true :=
        fun c member => decide_eq_true (isQuery query rfl c member)
      have mark : (queryText (some query)).toList = '?' :: query.toList := by
        rw [queryText, String.toList_append]
        rfl
      have whole : query.toList.takeWhile (fun c => decide (c ≠ '#')) = query.toList :=
        List.takeWhile_eq_self_iff.mpr free
      rw [mark, List.takeWhile_cons_of_neg (by decide), List.dropWhile_cons_of_neg (by decide),
        List.append_nil, String.ofList_toList] at read
      split at read
      · contradiction
      · split at read
        · rename_i more same
          rw [← (List.cons.inj same).2, whole, String.ofList_toList] at read
          split at read
          · contradiction
          · exact (Except.ok.inj read).symm
        · rename_i other
          exact absurd rfl (other _)

theorem takeWhile_authority {authority tail : List Char} (unbroken : Unbroken authority)
    (start : ∀ c rest, tail = c :: rest → endsAuthority c = true) :
    (authority ++ tail).takeWhile (fun c => !endsAuthority c) = authority ∧
      (authority ++ tail).dropWhile (fun c => !endsAuthority c) = tail := by
  have within : ∀ c ∈ authority, (!endsAuthority c) = true := by
    intro c member
    rw [unbroken c member]
    rfl
  rw [List.takeWhile_append_of_pos within, List.dropWhile_append_of_pos within]
  cases tail with
  | nil => simp
  | cons c rest =>
      have opening := start c rest rfl
      simp [opening]

theorem start_path {path : String} (isPath : IsPath path) (query : Option String) {c : Char}
    {rest : List Char} (chars : path.toList ++ (queryText query).toList = c :: rest) :
    endsAuthority c = true := by
  rcases isPath.start with rfl | ⟨more, slash⟩
  · cases query with
    | none => contradiction
    | some query =>
        rw [queryText, String.toList_append] at chars
        rw [← (List.cons.inj chars).1]
        rfl
  · rw [slash] at chars
    rw [← (List.cons.inj chars).1]
    rfl

theorem splitScheme_web {scheme : String} (web : scheme = "http" ∨ scheme = "https")
    (rest : List Char) : splitScheme (scheme.toList ++ ':' :: '/' :: '/' :: rest) =
      .ok (some scheme, rest) := by
  rcases web with rfl | rfl <;> rfl

theorem parse_web {text scheme : String} {rest : List Char} {uri : Uri}
    (web : scheme = "http" ∨ scheme = "https")
    (chars : text.toList = scheme.toList ++ ':' :: '/' :: '/' :: rest)
    (parsed : parse text = .ok uri) : ∃ authority left,
      readAuthority rest = .ok (authority, left) ∧
        ofTarget (some scheme) (some authority) left = .ok uri := by
  -- a text that starts with a scheme is none of the short forms
  have absolute : ofAbsolute (scheme.toList ++ ':' :: '/' :: '/' :: rest) = .ok uri := by
    unfold parse at parsed
    rw [chars] at parsed
    rcases web with rfl | rfl <;> split at parsed <;> first | contradiction | exact parsed
  obtain ⟨⟨found, behind⟩, read, last⟩ := bind_eq_ok.mp absolute
  obtain ⟨rfl, rfl⟩ := Prod.mk.inj (Except.ok.inj ((splitScheme_web web rest).symm.trans read))
  dsimp only at last
  split at last
  · contradiction
  · obtain ⟨⟨authority, left⟩, read, target⟩ := bind_eq_ok.mp last
    dsimp only at target
    split at target
    · contradiction
    · exact ⟨authority, left, read, target⟩

theorem parse_parts {text scheme authority path : String} {query : Option String} {uri : Uri}
    (web : scheme = "http" ∨ scheme = "https") (unbroken : Unbroken authority.toList)
    (isPath : IsPath path) (isQuery : ∀ text, query = some text → IsQuery text)
    (written : text = scheme ++ "://" ++ authority ++ path ++ queryText query)
    (parsed : parse text = .ok uri) :
    uri = ⟨some scheme, some authority, orRoot path, query⟩ := by
  have chars : text.toList = scheme.toList ++ ':' :: '/' :: '/' ::
      (authority.toList ++ (path.toList ++ (queryText query).toList)) := by
    rw [written]
    simp only [String.toList_append, List.append_assoc]
    rfl
  obtain ⟨read, left, split, target⟩ := parse_web web chars parsed
  obtain ⟨rfl, rfl⟩ := readAuthority_eq_ok split
  obtain ⟨front, back⟩ := takeWhile_authority unbroken fun c rest => start_path isPath query
  rw [front, back, String.ofList_toList] at target
  obtain ⟨parts, targeted, made⟩ := bind_eq_ok.mp target
  obtain rfl := readTarget_path isPath isQuery targeted
  exact (Except.ok.inj made).symm

end Uri

namespace Proxy

open Url (Address IsPath IsQuery Unbroken)

variable {uri result : Uri} {address : Address} {policy : Policy} {environment : Environment}
  {freshId : String} {state after : Policy.Logged}

/-- The target of a request at its destination: scheme and authority are those of the destination,
and so are path and query unless it lacks them. -/
def destination (uri : Uri) (address : Address) : Uri where
  scheme := some address.scheme
  authority := some address.authority
  path := Uri.orRoot (if address.path = "" ∨ address.path = "/" then uri.path else address.path)
  query := address.query.or uri.query

/-- A request for the whole server goes to a destination without a path of its own. -/
def Strays (uri : Uri) (address : Address) : Prop :=
  uri.path = "*" ∧ (address.path = "" ∨ address.path = "/")

/-- What becomes of the target of such a request. -/
def astray (uri : Uri) (address : Address) : Uri where
  scheme := some address.scheme
  authority := some (address.authority ++ "*")
  path := "/"
  query := address.query.or uri.query

theorem readDestination_wellFormed {target : String} (read : readDestination target = .ok address) :
    address.WellFormed := by
  unfold readDestination at read
  split at read
  · contradiction
  · contradiction
  · rename_i parsed
    rw [← Except.ok.inj read]
    exact Url.parse_wellFormed parsed

theorem isQuery_or (legible : uri.Legible) (formed : address.WellFormed) :
    ∀ query, address.query.or uri.query = some query → IsQuery query := by
  intro query chosen
  rcases Option.or_eq_some_iff.mp chosen with own | ⟨_, client⟩
  · exact formed.query query own
  · exact legible.query query client

theorem parsed_of_aim (aimed : aim uri address = .ok result) :
    Uri.parse (address.scheme ++ "://" ++ address.authority ++
      (if address.path = "" ∨ address.path = "/" then uri.path else address.path) ++
        Uri.queryText (address.query.or uri.query)) = .ok result := by
  unfold aim at aimed
  split at aimed
  · rename_i parsed
    rw [← Except.ok.inj aimed]
    exact parsed
  · contradiction

theorem aim_eq_destination (legible : uri.Legible) (formed : address.WellFormed)
    (straight : ¬Strays uri address) (aimed : aim uri address = .ok result) :
    result = destination uri address := by
  have isPath : IsPath
      (if address.path = "" ∨ address.path = "/" then uri.path else address.path) := by
    split
    · rename_i root
      exact legible.path.resolve_left fun star => straight ⟨star, root⟩
    · exact formed.path
  exact Uri.parse_parts formed.scheme formed.authority isPath (isQuery_or legible formed) rfl
    (parsed_of_aim aimed)

theorem aim_eq_astray (legible : uri.Legible) (formed : address.WellFormed)
    (strays : Strays uri address) (aimed : aim uri address = .ok result) :
    result = astray uri address := by
  -- the text is also the one of an authority with an asterisk and an empty path
  have star : Unbroken "*".toList := .cons (by decide) .nil
  have unbroken : Unbroken (address.authority ++ "*").toList := by
    rw [String.toList_append]
    exact formed.authority.append star
  have written : address.scheme ++ "://" ++ address.authority ++
      (if address.path = "" ∨ address.path = "/" then uri.path else address.path) ++
        Uri.queryText (address.query.or uri.query) =
      address.scheme ++ "://" ++ (address.authority ++ "*") ++ "" ++
        Uri.queryText (address.query.or uri.query) := by
    rw [if_pos strays.2, strays.1, String.append_empty]
    simp only [String.append_assoc]
  exact Uri.parse_parts formed.scheme unbroken Uri.isPath_empty (isQuery_or legible formed) written
    (parsed_of_aim aimed)

theorem astray_ne_destination (uri : Uri) (address : Address) :
    astray uri address ≠ destination uri address := by
  intro same
  have authority := Option.some.inj (congrArg Uri.authority same)
  have lengths := congrArg String.length authority
  rw [String.length_append] at lengths
  simp at lengths

theorem aim_eq_destination_iff (legible : uri.Legible) (formed : address.WellFormed)
    (aimed : aim uri address = .ok result) :
    result = destination uri address ↔ ¬Strays uri address := by
  constructor
  · intro same strays
    exact astray_ne_destination uri address
      ((aim_eq_astray legible formed strays aimed).symm.trans same)
  · exact fun straight => aim_eq_destination legible formed straight aimed

/-- The text of the destination that a policy has for a request, if it has one. -/
def target? (policy : Policy) (environment : Environment) (request : Request) : Option String :=
  match policy.url, policy.backends with
  | some template, _ =>
      ((Scope.ofRequest environment (RequestView.of request)).render template).toOption.filter
        (· ≠ "")
  | none, origin :: _ => some origin
  | none, [] => none

theorem pointTo_eq_none {target : String} (pointed : pointTo target state = (after, none)) :
    ∃ address host, readDestination target = .ok address ∧
      aim state.request.uri address = .ok after.request.uri ∧
      hostValue address.authority = .ok host ∧
      after.request.headers = state.request.headers.insert HeaderName.host host := by
  unfold pointTo at pointed
  split at pointed
  · rename_i request redirected
    obtain ⟨address, read, rest⟩ := bind_eq_ok.mp redirected
    obtain ⟨uri, aimed, rest⟩ := bind_eq_ok.mp rest
    obtain ⟨host, valued, made⟩ := bind_eq_ok.mp rest
    refine ⟨address, host, read, ?_, valued, ?_⟩
    · rw [← (Prod.mk.inj pointed).1, ← Except.ok.inj made]
      exact aimed
    · rw [← (Prod.mk.inj pointed).1, ← Except.ok.inj made]
  · simp at pointed

/-- A request is pointed at the destination that the policy has for it, or keeps its target. -/
theorem applyUrl_cases (applied : applyUrl policy environment freshId state = (after, none)) :
    (target? policy environment state.request = none ∧ after.request = state.request) ∨
    ∃ target address host, target? policy environment state.request = some target ∧
      readDestination target = .ok address ∧
      aim state.request.uri address = .ok after.request.uri ∧
      hostValue address.authority = .ok host ∧
      after.request.headers = state.request.headers.insert HeaderName.host host := by
  unfold applyUrl at applied
  unfold target?
  cases url : policy.url with
  | some template =>
      simp only [url, pointToUrl] at applied ⊢
      split at applied
      · simp at applied
      · rename_i text rendered
        rw [rendered]
        split at applied
        · rename_i empty
          left
          exact ⟨by simp [Except.toOption, empty], by rw [← (Prod.mk.inj applied).1]⟩
        · rename_i filled
          right
          obtain ⟨address, host, facts⟩ := pointTo_eq_none applied
          exact ⟨text, address, host, by simp [Except.toOption, filled], facts⟩
  | none =>
      cases backends : policy.backends with
      | nil =>
          simp only [url, backends] at applied
          exact .inl ⟨rfl, by rw [← (Prod.mk.inj applied).1]⟩
      | cons origin rest =>
          simp only [url, backends] at applied
          obtain ⟨address, host, facts⟩ := pointTo_eq_none applied
          exact .inr ⟨origin, address, host, rfl, facts⟩

/-- What a proxy sends has the target that its destination gave it, and the host of that destination
alone as its host. -/
theorem sent_cases {setting : Producer.Setting} {name : String} {outbound : Request}
    (sent : ((Producer.proxy name policy).start setting state).2.sent = some outbound) :
    let chosen := target? policy setting.environment
      (beforeAiming policy setting.environment setting.freshId state).request
    (chosen = none ∧ outbound.uri = state.request.uri) ∨
    ∃ target address host, chosen = some target ∧ readDestination target = .ok address ∧
      aim state.request.uri address = .ok outbound.uri ∧
      hostValue address.authority = .ok host ∧
      outbound.headers.getAll HeaderName.host = [host] := by
  intro chosen
  obtain ⟨prepared, ready, rfl⟩ := prepared_of_sent sent
  obtain ⟨changed, first, rest⟩ := andThen_eq_none.mp ready
  obtain ⟨permitted, second, rest⟩ := andThen_eq_none.mp rest
  obtain ⟨pointed, third, last⟩ := andThen_eq_none.mp rest
  -- the stages before the pointing keep the target, and the stripping behind it keeps the host
  have before : beforeAiming policy setting.environment setting.freshId state = permitted := by
    rw [beforeAiming, first, second]
  have kept : permitted.request.uri = state.request.uri := by
    rw [← before]
    exact (beforeAiming_follows ..).uri
  have sentUri : prepared.request.uri = pointed.request.uri := by
    rw [← (Prod.mk.inj last).1]
    rfl
  have stripped : prepared.request.headers = strip pointed.request.headers := by
    rw [← (Prod.mk.inj last).1]
    rfl
  have host_public : HeaderName.host.text ∉ privateNames := by decide
  rw [show chosen = target? policy setting.environment permitted.request from
    congrArg (fun state => target? policy setting.environment (Policy.Logged.request state)) before]
  rcases applyUrl_cases third with ⟨none, same⟩ | ⟨target, address, host, chosen, read, aimed, facts⟩
  · exact .inl ⟨none, by rw [sentUri, same, kept]⟩
  · right
    refine ⟨target, address, host, chosen, read, ?_, facts.1, ?_⟩
    · rw [← kept, sentUri]
      exact aimed
    · rw [stripped, getAll_strip, if_neg host_public, facts.2, HeaderMap.getAll_insert, if_pos rfl]

/-- A request gets exactly the scheme, the authority, the path and the query that its destination
and its own target make up, and the host that is sent along is the authority it is sent to. Nothing
but a request for the whole server, at a destination without a path, gets anything else: there the
asterisk ends up behind the authority. -/
theorem reaches_its_destination (text : String) (uri : Uri) (parsed : Uri.parse text = .ok uri) :
    (∀ (target : String) (result : Uri) (address : Address),
      readDestination target = .ok address → aim uri address = .ok result →
        address.port ≠ Url.schemePort address.scheme ∧
        (result = destination uri address ↔ ¬Strays uri address) ∧
        (Strays uri address → result = astray uri address)) ∧
    (∀ (setting : Producer.Setting) (name : String) (policy : Policy) (state : Policy.Logged)
      (outbound : Request) (target : String), state.request.uri = uri →
      ((Producer.proxy name policy).start setting state).2.sent = some outbound →
      target? policy setting.environment
        (beforeAiming policy setting.environment setting.freshId state).request = some target →
        ∃ address authority host, readDestination target = .ok address ∧
          aim uri address = .ok outbound.uri ∧
          outbound.uri.authority = some authority ∧
          outbound.headers.getAll HeaderName.host = [host] ∧
          (host.bytes = Utf8.encode authority ↔ ¬Strays uri address)) := by
  have legible := Uri.parse_legible parsed
  constructor
  · intro target result address read aimed
    have formed := readDestination_wellFormed read
    exact ⟨formed.port, aim_eq_destination_iff legible formed aimed,
      fun strays => aim_eq_astray legible formed strays aimed⟩
  · rintro setting name policy state outbound target rfl sent chosen
    rcases sent_cases sent with ⟨nowhere, _⟩ | ⟨other, address, host, aimedAt, read, aimed, valued, only⟩
    · rw [nowhere] at chosen
      contradiction
    · obtain rfl := Option.some.inj (aimedAt.symm.trans chosen)
      have formed := readDestination_wellFormed read
      obtain ⟨-, bytes⟩ := hostValue_eq_ok valued
      by_cases strays : Strays state.request.uri address
      · refine ⟨address, address.authority ++ "*", host, read, aimed, ?_, only, ?_⟩
        · rw [aim_eq_astray legible formed strays aimed]
          rfl
        · refine iff_of_false ?_ (not_not_intro strays)
          intro same
          have lengths := congrArg String.length (Utf8.encode_injective (bytes.symm.trans same))
          rw [String.length_append] at lengths
          simp at lengths
      · refine ⟨address, address.authority, host, read, aimed, ?_, only, iff_of_true bytes strays⟩
        rw [aim_eq_destination legible formed strays aimed]
        rfl

def homePolicy : Policy where
  backends := ["http://[::1]"]

def home : Address := ⟨"http", .ipv6 [0, 0, 0, 0, 0, 0, 0, 1], none, "/", none⟩

theorem readDestination_home : readDestination "http://[::1]" = .ok home := by decide +kernel

def plainRequest (uri : Uri) : Request where
  method := .options
  uri
  headers := .empty
  body := .empty
  context := none

def sentHome (uri : Uri) : Option Request :=
  ((Producer.proxy "home" homePolicy).start silentSetting ⟨plainRequest uri, .empty⟩).2.sent

def search : Uri := ⟨none, none, "/search", some "q=1"⟩

theorem reaches_its_destination_home :
    ∃ outbound address authority host, sentHome search = some outbound ∧
      outbound.uri = destination search home ∧
      readDestination "http://[::1]" = .ok address ∧
      outbound.uri.authority = some authority ∧
      outbound.headers.getAll HeaderName.host = [host] ∧ host.bytes = Utf8.encode authority := by
  have parsed : Uri.parse "/search?q=1" = .ok search := by decide +kernel
  obtain ⟨targets, hosts⟩ := reaches_its_destination "/search?q=1" search parsed
  have straight : ¬Strays search home := fun strays => absurd strays.1 (by decide)
  have sends : (sentHome search).isSome = true := by decide +kernel
  obtain ⟨outbound, sent⟩ := Option.isSome_iff_exists.mp sends
  obtain ⟨address, authority, host, read, aimed, sentTo, only, same⟩ := hosts silentSetting "home"
    homePolicy ⟨plainRequest search, .empty⟩ outbound "http://[::1]" rfl sent rfl
  obtain rfl : home = address := Except.ok.inj (readDestination_home.symm.trans read)
  have arrived := (targets _ _ _ read aimed).2.1.mpr straight
  exact ⟨outbound, home, authority, host, sent, arrived, read, sentTo, only, same.mpr straight⟩

def wholeServer : Uri := ⟨none, none, "*", none⟩

/-- Such a request is sent to an authority that nobody has configured, under a host that is not
that authority. -/
theorem asterisk_goes_astray :
    Uri.parse "*" = .ok wholeServer ∧ readDestination "http://[::1]" = .ok home ∧
      aim wholeServer home = .ok ⟨some "http", some "[::1]*", "/", none⟩ ∧
      (sentHome wholeServer).map (fun outbound => outbound.uri.authority) =
        some (some "[::1]*") ∧
      (sentHome wholeServer).map (fun outbound =>
        (outbound.headers.getAll HeaderName.host).map HeaderValue.bytes) =
        some [Utf8.encode "[::1]"] :=
  ⟨by decide +kernel, readDestination_home, by decide +kernel, by decide +kernel, by decide +kernel⟩

end Proxy

end Gateway
