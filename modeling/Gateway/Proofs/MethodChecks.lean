import Gateway.Proofs.AllowedMethods
import Gateway.Proofs.Serving
import Gateway.Proofs.Trimming

/-!
Two checks of one list. A name is looked up in capitals and without the blanks around it, as the names
of a configuration are; the method of a request is compared as it was received, since letter case
counts in methods. So a name that is allowed tells that its capital form is served, and a request
whose method has a small letter is served by no route.
-/

namespace Gateway

theorem Text.upper_upper (text : String) : upper (upper text) = upper text := by
  rw [upper, upper, String.toList_ofList, List.map_map]
  apply congrArg String.ofList
  apply List.map_congr_left
  intro c _
  exact toUpper_toUpper c

theorem Text.trim_of_isToken {text : String} (token : isToken text = true) : trim text = text := by
  rw [isToken, Bool.and_eq_true, List.all_eq_true] at token
  rw [trim, trimChars_solid fun c member => isBlank_of_isTokenChar (token.2 c member),
    String.ofList_toList]

def Method.capital (method : Method) : Method :=
  ⟨Text.upper method.text, (isToken_upper method.text).trans method.valid⟩

theorem Method.capital_eq_self_iff {method : Method} :
    method.capital = method ↔ Text.upper method.text = method.text := by
  obtain ⟨text, valid⟩ := method
  simp only [capital, mk.injEq]

namespace AllowedMethods

/-- A request with a method gets through a list to the endpoint, whatever else the route is made of. -/
def LetsThrough (methods : List Method) (method : Method) : Prop :=
  ∀ advertised page endpoint setting (state : Policy.Logged), state.request.method = method →
    Route.serve ⟨advertised, methods, page, endpoint⟩ setting state =
      endpoint.handle setting none state

/-- A request with a method is refused by a list, whatever else the route is made of. -/
def TurnsAway (methods : List Method) (method : Method) : Prop :=
  ∀ advertised page endpoint setting (state : Policy.Logged), state.request.method = method →
    Route.serve ⟨advertised, methods, page, endpoint⟩ setting state =
      (.ok (refuse page advertised state.request), ⟨state.log, [], 0⟩)

section Dispatch

variable {methods : List Method} {method : Method}

theorem turnsAway_of_not_mem (absent : method ∉ methods) : TurnsAway methods method := by
  intro advertised page endpoint setting state same
  rw [Route.serve, if_neg (same ▸ absent)]

def barren : Endpoint := ⟨{}, [], []⟩

theorem barren_fails (setting : Producer.Setting) (state : Policy.Logged) :
    (barren.handle setting none state).1 =
      .error (.configuration "endpoint has no response source") := by
  have accepted : barren.Accepts setting state := rfl
  have nothing : FanIn.results (barren.crews setting none state) = [] :=
    List.length_eq_zero_iff.mp (Endpoint.length_results barren setting none state)
  rw [Endpoint.handle_eq_respond, Endpoint.respond_eq accepted, Endpoint.answer, nothing]
  rfl

theorem letsThrough_iff : LetsThrough methods method ↔ method ∈ methods := by
  constructor
  · intro through
    by_contra absent
    -- one endpoint tells them apart: it answers with an error, which no refusal is
    let setting : Producer.Setting := ⟨fun _ => Reaction.failed .clientDisconnect, [], ""⟩
    let state : Policy.Logged := ⟨{ (default : Request) with method }, []⟩
    have served := through [] .html barren setting state rfl
    have refused := turnsAway_of_not_mem absent [] .html barren setting state rfl
    have answered := congrArg Prod.fst (served.symm.trans refused)
    cases (barren_fails setting state).symm.trans answered
  · intro present advertised page endpoint setting state same
    rw [Route.serve, if_pos (same ▸ present)]

theorem allowsName_iff : allowsName methods method.text = true ↔ method.capital ∈ methods := by
  have token : isToken (Text.upper method.text) = true := method.capital.valid
  unfold allowsName
  rw [Text.trim_of_isToken method.valid, Method.parse?, dif_pos token]
  exact decide_eq_true_iff

variable {configured : Option (List String)}

theorem capital_of_resolves (resolves : Resolves configured methods) (member : method ∈ methods) :
    method.capital = method := by
  rw [Method.capital_eq_self_iff]
  have named := (resolves.named method.text).mp (List.mem_map_of_mem member)
  rcases named with ⟨_, _, entry, _, _, written⟩ | ⟨_, common⟩
  · rw [written, Text.upper_upper]
  · have capitals : ∀ name ∈ usual, Text.upper name = name := by decide
    exact capitals _ common

/-- A name that is a method is allowed if a request with that method in capitals gets through. That
is a request with the method itself if it has no small letter, and with one it gets nowhere. -/
theorem name_check_foretells_dispatch (resolved : resolve configured = .ok methods)
    (method : Method) :
    (allowsName methods method.text = true ↔ LetsThrough methods method.capital) ∧
    (method.capital = method →
      (allowsName methods method.text = true ↔ LetsThrough methods method)) ∧
    (method.capital ≠ method → TurnsAway methods method ∧ ¬LetsThrough methods method) ∧
    (allowsName methods method.text = false → TurnsAway methods method) := by
  have foretells : allowsName methods method.text = true ↔ LetsThrough methods method.capital :=
    allowsName_iff.trans letsThrough_iff.symm
  have capital : method ∈ methods → method.capital = method :=
    capital_of_resolves (resolves_of_resolve resolved)
  refine ⟨foretells, ?_, ?_, ?_⟩
  · intro same
    rw [foretells, same]
  · intro small
    have absent : method ∉ methods := mt capital small
    exact ⟨turnsAway_of_not_mem absent, mt letsThrough_iff.mp absent⟩
  · intro refused
    apply turnsAway_of_not_mem
    intro present
    have allowed : allowsName methods method.text = true := by
      rw [allowsName_iff, capital present]
      exact present
    rw [allowed] at refused
    cases refused

theorem name_check_foretells_dispatch_of_mixed_case :
    resolve (some [" purge\t", "get"]) = .ok [⟨"PURGE", by decide⟩, .get] ∧
      LetsThrough [⟨"PURGE", by decide⟩, .get] ⟨"PURGE", by decide⟩ ∧
      TurnsAway [⟨"PURGE", by decide⟩, .get] ⟨"pUrge", by decide⟩ ∧
      TurnsAway [⟨"PURGE", by decide⟩, .get] ⟨"POST", by decide⟩ := by
  have resolved : resolve (some [" purge\t", "get"]) = .ok [⟨"PURGE", by decide⟩, .get] := by
    decide +kernel
  obtain ⟨foretold, -, small, -⟩ := name_check_foretells_dispatch resolved ⟨"pUrge", by decide⟩
  obtain ⟨-, -, -, refused⟩ := name_check_foretells_dispatch resolved ⟨"POST", by decide⟩
  refine ⟨resolved, ?_, ?_, ?_⟩
  · exact foretold.mp (by decide +kernel)
  · exact (small (by decide +kernel)).1
  · exact refused (by decide +kernel)

/-- The name of a method in small letters is allowed, and a request with it is refused. -/
theorem small_letters_pass_the_name_check :
    resolve none = .ok common ∧ allowsName common "get" = true ∧
      ¬LetsThrough common ⟨"get", by decide⟩ ∧ TurnsAway common ⟨"get", by decide⟩ := by
  have absent : (⟨"get", by decide⟩ : Method) ∉ common := by decide
  refine ⟨rfl, ?_, ?_, ?_⟩
  · decide +kernel
  · rw [letsThrough_iff]
    exact absent
  · exact turnsAway_of_not_mem absent

end Dispatch

end AllowedMethods

end Gateway
