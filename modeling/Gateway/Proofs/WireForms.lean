import Gateway.Proofs.Base64
import Gateway.Proofs.Expressions
import Gateway.Proofs.FormCoding
import Gateway.Proofs.HeaderSafety

/-!
Forms between two programs. The server that is asked about a token reads from the body of the
request the token and the credentials that the method puts into a form, and nothing else, whatever
characters they hold; a gateway that is sent a written form as the query of a request gives its
parameters to the expressions that ask for them.
-/

namespace Gateway

/-- What a method adds to a form. -/
def AuthMethod.params (method : AuthMethod) (clientId clientSecret : String) : Form.Params :=
  match method with
  | .clientSecretBasic => []
  | .clientSecretPost => [("client_id", clientId), ("client_secret", clientSecret)]
  | .none => [("client_id", clientId)]

namespace Credentials

variable (credentials : Credentials)

def params : Form.Params :=
  credentials.method.params credentials.clientId credentials.clientSecret

/-- A Basic header can always be sent: it is written in letters of Base64. -/
theorem basicText_fits : Fits credentials.basicText := by
  rw [fits_iff_chars]
  intro c member
  rw [basicText, String.toList_append, List.mem_append] at member
  rcases member with scheme | letters
  · have visible : "Basic ".toList.all (fun c => 32 ≤ c.toNat ∧ c.toNat ≠ 127) = true := by decide
    exact .inr (by simpa using List.all_eq_true.mp visible c scheme)
  · rw [Base64.encode, String.toList_ofList] at letters
    exact .inr (Base64.encodeChars_code letters)

theorem authenticate_ok (form : Form.Params) (headers : HeaderMap) :
    ∃ after, credentials.authenticate form headers = .ok (form ++ credentials.params, after) := by
  unfold authenticate params
  cases credentials.method with
  | clientSecretBasic =>
      obtain ⟨value, parsed⟩ := HeaderValue.exists_of_fits credentials.basicText_fits
      simp only [parsed, AuthMethod.params, List.append_nil]
      exact ⟨_, rfl⟩
  | clientSecretPost =>
      refine ⟨headers, ?_⟩
      simp [AuthMethod.params, Form.Params.add]
  | none => exact ⟨headers, rfl⟩

theorem params_of_create {method : AuthMethod} {clientId clientSecret : String}
    {credentials : Credentials} (created : create method clientId clientSecret = .ok credentials) :
    credentials.params = method.params clientId clientSecret := by
  unfold create at created
  split at created
  · split at created
    · obtain rfl := Except.ok.inj created
      rfl
    · contradiction
  · contradiction

end Credentials

namespace Introspector

variable {introspector : Introspector} (context : Context) (token : String)

theorem prepare_of_fault {fault : Uri.Fault}
    (refused : Uri.parse introspector.config.endpoint = .error fault) :
    introspector.prepare token =
      .error (.configuration ("introspection endpoint: " ++ fault.message)) := by
  unfold prepare
  rw [refused]

/-- With an address that requests can be sent to, credentials make one for every token. -/
theorem request_of_uri {credentials : Credentials} {uri : Uri}
    (own : introspector.authenticator = credentials.authenticator)
    (parsed : Uri.parse introspector.config.endpoint = .ok uri) :
    ∃ request, introspector.request context token = .ok request ∧ request.method = .post ∧
      request.uri = uri ∧ request.body = Body.ofText
        (Form.Params.encode (("token", token) :: credentials.params)) := by
  obtain ⟨headers, added⟩ := credentials.authenticate_ok [("token", token)]
    ((HeaderMap.empty.insert HeaderName.contentType formType).insert HeaderName.accept jsonType)
  unfold request prepare
  rw [parsed, own]
  dsimp only [Credentials.authenticator]
  rw [added]
  exact ⟨_, rfl, rfl, rfl, rfl⟩

theorem of_create {config : IntrospectionConfig} (created : create config = .ok introspector) :
    introspector.config = config ∧ config.validate = .ok () ∧ ∃ credentials,
      Credentials.create config.authMethod config.clientId config.clientSecret = .ok credentials ∧
        introspector.authenticator = credentials.authenticator := by
  unfold create at created
  cases valid : config.validate with
  | error error =>
      rw [valid] at created
      contradiction
  | ok nothing =>
      rw [valid] at created
      obtain ⟨credentials, made, same⟩ := bind_eq_ok.mp created
      obtain rfl := Except.ok.inj same
      exact ⟨rfl, rfl, credentials, made, rfl⟩

end Introspector

theorem Body.collect_ofText (text : String) : (Body.ofText text).collect = .ok (Utf8.encode text) :=
  congrArg Except.ok (List.append_nil _)

theorem RequestView.query_of {request : Request} {query : String}
    (sent : request.uri.query = some query) :
    (RequestView.of request).query = Form.parse (Utf8.encode query) := by
  unfold RequestView.of
  rw [sent]

namespace Form.Params

/-- Forms are read as they were written: by every reader of queries, by the server that is asked
about a token, which finds in the body that token and the credentials of the method alone, and by
the expressions that name a parameter of the query, however blanks are put around the name. -/
theorem survive_the_wire :
    (∀ params : Form.Params, Form.parse (Utf8.encode params.encode) = params) ∧
    (∀ (config : IntrospectionConfig) (introspector : Introspector) (uri : Uri),
      Introspector.create config = .ok introspector → Uri.parse config.endpoint = .ok uri →
      ∀ (context : Context) (token : String), ∃ request bytes,
        introspector.request context token = .ok request ∧ request.body.collect = .ok bytes ∧
          Form.parse bytes = ("token", token) ::
            config.authMethod.params config.clientId config.clientSecret) ∧
    (∀ (params : Form.Params) (request : Request) (scope : Scope) (key inner : String),
      request.uri.query = some params.encode → scope.request = RequestView.of request →
      '\x7d' ∉ inner.toList → Text.trim inner = "request.query." ++ key →
      scope.render ("$\x7b" ++ inner ++ "\x7d") = .ok ((params.get? key).getD "")) := by
  refine ⟨parse_encode, ?_, ?_⟩
  · intro config introspector uri created parsed context token
    obtain ⟨own, -, credentials, credited, shown⟩ := Introspector.of_create created
    rw [← own] at parsed
    obtain ⟨request, made, -, -, body⟩ := Introspector.request_of_uri context token shown parsed
    refine ⟨request, _, made, body ▸ Body.collect_ofText _, ?_⟩
    rw [parse_encode, Credentials.params_of_create credited]
  · intro params request scope key inner sent seen closed trimmed
    apply Scope.render_single closed
    rw [trimmed, Scope.value_query, seen, RequestView.query_of sent, parse_encode]

def posting : IntrospectionConfig where
  endpoint := "http://[::1]/introspect"
  authMethod := .clientSecretPost
  clientId := "gateway"
  clientSecret := "s&c=t"

def searching : Request where
  method := .get
  uri := ⟨none, none, "/", some (encode [("q", "a b"), ("q", "c"), ("ü", "")])⟩
  headers := .empty
  body := .empty
  context := none

theorem survive_the_wire_hostile :
    (∃ introspector request bytes, Introspector.create posting = .ok introspector ∧
      introspector.request (.new "r") "t&client_id=x" = .ok request ∧
      request.body.collect = .ok bytes ∧ Form.parse bytes =
        [("token", "t&client_id=x"), ("client_id", "gateway"), ("client_secret", "s&c=t")]) ∧
    (Scope.ofRequest .empty (RequestView.of searching)).render "$\x7b request.query.q \x7d" =
      .ok "a b" := by
  have parsed : Uri.parse posting.endpoint =
      .ok ⟨some "http", some "[::1]", "/introspect", none⟩ := by decide +kernel
  have made : Introspector.create posting = .ok ⟨posting, Credentials.authenticator
      ⟨.clientSecretPost, "gateway", "s&c=t", by decide, by decide⟩⟩ := by
    have valid : posting.validate = .ok () := by decide +kernel
    rw [Introspector.create, valid]
    rfl
  obtain ⟨-, bodies, queries⟩ := survive_the_wire
  constructor
  · obtain ⟨request, bytes, sent, collected, read⟩ :=
      bodies posting _ _ made parsed (.new "r") "t&client_id=x"
    exact ⟨_, request, bytes, made, sent, collected, read⟩
  · exact queries [("q", "a b"), ("q", "c"), ("ü", "")] searching _ "q" " request.query.q " rfl rfl
      (by decide) (by decide +kernel)

end Form.Params

end Gateway
