import Gateway.Introspection.World

/-!
What the parts of a look-up guarantee: a reply that is accepted came in time, with status 200 and
with a body that reads as the claims; no answer is kept longer than its token lives; and tokens do
not share keys of the store.
-/

namespace Gateway

/-- A reply that is good for an answer: it is there in time, and its body can be read. -/
structure Introspector.Accepts (introspector : Introspector) (reply : Reply) (claims : Claims)
    (bytes : Bytes) : Prop where
  inTime : ∀ limit, introspector.config.timeout = some limit → reply.delay ≤ limit.millisUp
  answered : ∃ response, reply.outcome = .ok response ∧ response.status.code = 200 ∧
    response.body.collect = .ok bytes
  decodes : Claims.ofBytes? bytes = some claims

namespace Introspector

variable {introspector : Introspector} {reply : Reply} {claims : Claims} {bytes : Bytes}

/-- No request can be made about a token, whatever context asks for it. -/
theorem request_eq_error_iff {context : Context} {token : String} {error : GatewayError} :
    introspector.request context token = .error error ↔
      introspector.prepare token = .error error := by
  unfold request
  cases introspector.prepare token with
  | error other => rfl
  | ok request => exact iff_of_false nofun nofun

theorem brokenLimit_eq_none_iff : introspector.brokenLimit reply = none ↔
    ∀ limit, introspector.config.timeout = some limit → reply.delay ≤ limit.millisUp := by
  simp [brokenLimit, Option.filter_eq_none_iff]

theorem judge_eq_ok_iff :
    introspector.judge reply = .ok (claims, bytes) ↔ introspector.Accepts reply claims bytes := by
  constructor
  · intro judged
    unfold judge at judged
    split at judged
    · cases judged
    rename_i inTime
    split at judged
    · cases judged
    rename_i response outcome
    split at judged
    · cases judged
    rename_i status
    split at judged
    · cases judged
    rename_i body collected
    split at judged
    · rename_i read decoded
      obtain ⟨rfl, rfl⟩ := Prod.mk.inj (Except.ok.inj judged)
      exact ⟨brokenLimit_eq_none_iff.mp inTime,
        ⟨response, outcome, Decidable.not_not.mp status, collected⟩, decoded⟩
    · cases judged
  · rintro ⟨inTime, ⟨response, outcome, status, collected⟩, decodes⟩
    have punctual := brokenLimit_eq_none_iff.mpr inTime
    simp [judge, punctual, outcome, status, collected, decodes]

theorem Accepts.duration (accepts : introspector.Accepts reply claims bytes) :
    introspector.duration reply = reply.delay + reply.bodyDelay := by
  obtain ⟨inTime, ⟨response, outcome, status, -⟩, -⟩ := accepts
  have punctual := brokenLimit_eq_none_iff.mpr inTime
  simp [Introspector.duration, punctual, Reply.bodyTime, outcome, status]

def publicClient : Credentials := ⟨.none, "id", "", by decide, fun other => absurd rfl other⟩

def keepsAMinute : Introspector where
  config := { endpoint := "http://a/", ttl := some ⟨60000000000⟩, clientId := "id" }
  authenticator := publicClient.authenticator

def blankReply (delay : Nat) : Reply where
  delay
  outcome := .ok (.ofBody .ok (.ofBytes [0x7b, 0x7d]))

theorem accepts_blankReply (delay : Nat) :
    keepsAMinute.Accepts (blankReply delay) ⟨[]⟩ [0x7b, 0x7d] := by
  refine ⟨?_, ⟨_, rfl, rfl, rfl⟩, ?_⟩
  · intro limit configured
    cases configured
  · have read : (Claims.ofBytes? [0x7b, 0x7d]).any (fun claims => claims.members.isEmpty) =
        true := by decide +kernel
    obtain ⟨⟨members⟩, decoded, empty⟩ := (Option.any_eq_true _ _).mp read
    obtain rfl : members = [] := List.isEmpty_iff.mp empty
    exact decoded

end Introspector

/-- An answer with a known end of its token is not kept beyond it. -/
theorem cacheTtl_le (configured : Int) (claims : Claims) (expiry notBefore now : Int)
    (ends : 0 < effectiveExpiry claims expiry) :
    cacheTtl configured claims expiry notBefore now ≤ effectiveExpiry claims expiry - now := by
  unfold cacheTtl
  dsimp only
  rw [if_pos ends]
  split
  · exact Int.le_refl _
  · exact Int.min_le_right _ _

namespace Introspection

def Call.under (requestId token : String) (start : Nat) : Call where
  token
  context := .new requestId
  start

theorem storeKey_injective {first second : String} (same : storeKey first = storeKey second) :
    first = second := by
  unfold storeKey at same
  exact String.append_right_inj _ |>.mp same

theorem storeKey_ne {first second : String} (apart : first ≠ second) :
    storeKey first ≠ storeKey second :=
  fun same => apart (storeKey_injective same)

end Introspection

end Gateway
