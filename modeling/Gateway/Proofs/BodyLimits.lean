import Gateway.Proofs.Capture

/-!
How far a body is read. A body is refused for its size exactly if one of its chunks brings the running
total above the limit, wherever its stream breaks off; a body that is taken stands in the context and
can be read again from the request, and taking it once more changes nothing.
-/

namespace Gateway

namespace Body

variable {body : Body} {limit : Nat}

/-- Some chunk brings the running total above a limit. -/
def Overruns (body : Body) (limit : Nat) : Prop :=
  ∃ before chunk after, body.chunks = before ++ chunk :: after ∧
    before.flatten.length ≤ limit ∧ limit < (before ++ [chunk]).flatten.length

theorem exists_overrun {chunks : List Bytes} (longer : limit < chunks.flatten.length) :
    ∃ before chunk after, chunks = before ++ chunk :: after ∧
      before.flatten.length ≤ limit ∧ limit < (before ++ [chunk]).flatten.length := by
  -- what is left of the limit changes with each chunk
  induction chunks generalizing limit with
  | nil => simp at longer
  | cons chunk rest induction =>
      by_cases first : limit < chunk.length
      · exact ⟨[], chunk, rest, rfl, by simp, by simpa using first⟩
      · have total : (chunk :: rest).flatten.length = chunk.length + rest.flatten.length := by simp
        have later : limit - chunk.length < rest.flatten.length := by omega
        obtain ⟨before, next, after, rfl, within, above⟩ := induction later
        refine ⟨chunk :: before, next, after, rfl, ?_, ?_⟩
        · simp only [List.flatten_cons, List.length_append]
          omega
        · simp only [List.cons_append, List.flatten_cons, List.length_append] at above ⊢
          omega

/-- It is the whole length that counts. -/
theorem overruns_iff : body.Overruns limit ↔ limit < body.length := by
  constructor
  · rintro ⟨before, chunk, after, chunks, _, above⟩
    have longer : (before ++ [chunk]).flatten.length ≤ body.length := by
      rw [length, chunks]
      simp
    exact above.trans_le longer
  · exact exists_overrun

theorem refusal_of_overrun (overruns : body.Overruns limit) :
    body.refusal limit = some (.bodySizeExceeded limit) :=
  if_pos (overruns_iff.mp overruns)

theorem refusal_of_within (within : ¬body.Overruns limit) : body.refusal limit = body.failure :=
  if_neg fun longer => within (overruns_iff.mpr longer)

theorem refusal_congr {other : Body} (bytes : other.chunks.flatten = body.chunks.flatten)
    (failure : other.failure = body.failure) : other.refusal limit = body.refusal limit := by
  rw [refusal, refusal, length, length, bytes, failure]

end Body

namespace Endpoint

variable {endpoint : Endpoint} {request : Request}

theorem bufferedBody_withContext (freshId : String) (request : Request) :
    (request.withContext freshId).context.bind Context.bufferedBody =
      request.context.bind Context.bufferedBody := by
  cases held : request.context <;> simp [Request.withContext, Request.contextOr, held, Context.new]

theorem captureBody_withContext (freshId : String) (captures : endpoint.Captures request) :
    endpoint.captureBody freshId request =
      endpoint.captureBody freshId (request.withContext freshId) := by
  have wanted : (endpoint.buffers && decide (request.method ≠ Method.trace)) = true := by
    simp [captures.1, captures.2.1]
  have method : (request.withContext freshId).method = request.method := rfl
  unfold captureBody
  rw [method, if_pos wanted, if_pos wanted]
  rfl

def holding (freshId : String) (request : Request) : Request :=
  { request with
    body := .ofBytes request.body.chunks.flatten
    context := some { request.contextOr freshId with
      bufferedBody := some request.body.chunks.flatten } }

theorem captureBody_of_captures (freshId : String) (captures : endpoint.Captures request) :
    endpoint.captureBody freshId request =
      match request.body.refusal endpoint.options.bodyLimit with
      | some error => ({ request.withContext freshId with body := .empty }, some error)
      | none => (holding freshId request, none) := by
  have attached : (request.withContext freshId).context = some (request.contextOr freshId) := rfl
  have still : endpoint.Captures (request.withContext freshId) :=
    ⟨captures.1, captures.2.1, (bufferedBody_withContext freshId request).trans captures.2.2⟩
  rw [captureBody_withContext freshId captures, captureBody_eq freshId attached still]
  rfl

theorem captureBody_refused {freshId : String} {error : GatewayError}
    (captures : endpoint.Captures request)
    (refused : request.body.refusal endpoint.options.bodyLimit = some error) :
    endpoint.captureBody freshId request =
      ({ request.withContext freshId with body := .empty }, some error) := by
  rw [captureBody_of_captures freshId captures, refused]

theorem captureBody_taken {freshId : String} (captures : endpoint.Captures request)
    (taken : request.body.refusal endpoint.options.bodyLimit = none) :
    endpoint.captureBody freshId request = (holding freshId request, none) := by
  rw [captureBody_of_captures freshId captures, taken]

theorem captureBody_snd {freshId : String} (captures : endpoint.Captures request) :
    (endpoint.captureBody freshId request).2 =
      request.body.refusal endpoint.options.bodyLimit := by
  rw [captureBody_of_captures freshId captures]
  split <;> simp [*]

/-- The law of the limit. Where there is a body to capture, it is refused for its size exactly if a
chunk brings the running total above the limit; if none does, it is the failure of the stream that
counts, and a stream without one is taken as a whole. A taken body is the concatenation of the chunks,
in the context and in the request, and is not taken again; of a refused body nothing is kept. Only
the bytes matter and how the stream ends, not the chunks. -/
theorem captures_within_limit (endpoint : Endpoint) (freshId : String) (request : Request)
    (buffers : endpoint.buffers = true) (method : request.method ≠ Method.trace)
    (uncaptured : request.context.bind Context.bufferedBody = none) :
    let limit := endpoint.options.bodyLimit
    let bytes := request.body.chunks.flatten
    let captured := endpoint.captureBody freshId request
    let kept := captured.1.context.bind Context.bufferedBody
    (request.body.Overruns limit → captured.2 = some (.bodySizeExceeded limit)) ∧
    (¬request.body.Overruns limit → captured.2 = request.body.failure) ∧
    -- a stream may also break off with such an error of its own
    (request.body.failure ≠ some (.bodySizeExceeded limit) →
      (captured.2 = some (.bodySizeExceeded limit) ↔ request.body.Overruns limit)) ∧
    (captured.2 = none →
      kept = some bytes ∧ captured.1.body.collect = .ok bytes ∧
      ∀ otherId, endpoint.captureBody otherId captured.1 = captured) ∧
    (captured.2 ≠ none → kept = none) ∧
    (∀ body : Body, body.chunks.flatten = bytes → body.failure = request.body.failure →
      endpoint.captureBody freshId { request with body } = captured) := by
  intro limit bytes captured kept
  have captures : endpoint.Captures request := ⟨buffers, method, uncaptured⟩
  have outcome : captured.2 = request.body.refusal limit := captureBody_snd captures
  have overrun : request.body.Overruns limit → captured.2 = some (.bodySizeExceeded limit) :=
    fun overruns => outcome.trans (Body.refusal_of_overrun overruns)
  have within : ¬request.body.Overruns limit → captured.2 = request.body.failure :=
    fun within => outcome.trans (Body.refusal_of_within within)
  refine ⟨overrun, within, ?_, ?_, ?_, ?_⟩
  · intro otherwise
    constructor
    · intro exceeded
      by_contra fits
      exact otherwise ((within fits).symm.trans exceeded)
    · exact overrun
  · intro succeeded
    have taken : captured = (holding freshId request, none) :=
      captureBody_taken captures (outcome.symm.trans succeeded)
    have held : captured.1 = holding freshId request := congrArg Prod.fst taken
    refine ⟨?_, ?_, ?_⟩
    · change captured.1.context.bind Context.bufferedBody = some bytes
      rw [held]
      rfl
    · rw [held]
      exact Body.collect_ofBytes bytes
    · intro otherId
      rw [held, taken]
      apply captureBody_of_not rfl
      intro again
      exact absurd again.2.2 (by simp [holding])
  · intro failed
    obtain ⟨error, found⟩ := Option.ne_none_iff_exists'.mp failed
    have refused : captured = ({ request.withContext freshId with body := .empty }, some error) :=
      captureBody_refused captures (outcome.symm.trans found)
    change captured.1.context.bind Context.bufferedBody = none
    rw [refused]
    exact (bufferedBody_withContext freshId request).trans uncaptured
  · intro body same ending
    have also : endpoint.Captures { request with body } := ⟨buffers, method, uncaptured⟩
    have alike : body.refusal limit = request.body.refusal limit := Body.refusal_congr same ending
    have whole : holding freshId { request with body } = holding freshId request := by
      simp only [holding, Request.contextOr, Request.suppliedId, same, bytes]
    change endpoint.captureBody freshId { request with body } =
      endpoint.captureBody freshId request
    rw [captureBody_of_captures freshId also, captureBody_of_captures freshId captures]
    dsimp only
    rw [alike, whole]
    rfl

def pieces : Body := ⟨[[1], [], [2, 3]], none⟩

theorem captures_within_limit_to_the_byte :
    (attentive.buffers = true ∧ upload.method ≠ Method.trace ∧
      upload.context.bind Context.bufferedBody = none) ∧
    ¬pieces.Overruns 3 ∧ pieces.Overruns 2 ∧
    (attentive.captureBody "r1" { upload with body := pieces }).2 = none ∧
    (attentive.captureBody "r1" { upload with body := pieces }).1.context.bind
      Context.bufferedBody = some [1, 2, 3] := by
  have buffers : attentive.buffers = true := by decide
  have method : upload.method ≠ Method.trace := by decide
  have fits : ¬pieces.Overruns 3 := by
    rw [Body.overruns_iff]
    decide
  have overrun : pieces.Overruns 2 := Body.overruns_iff.mpr (by decide)
  have law := captures_within_limit attentive "r1" { upload with body := pieces } buffers method rfl
  have taken := law.2.1 fits
  exact ⟨⟨buffers, method, rfl⟩, fits, overrun, taken, (law.2.2.2.1 taken).1⟩

end Endpoint

end Gateway
