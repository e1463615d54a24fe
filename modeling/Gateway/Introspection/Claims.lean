import Gateway.Json.Parser

/-!
What an authorization server says about a token, and how long the answer may be kept.
-/

namespace Gateway

/-- The members of an introspection answer, in the order they were sent. -/
structure Claims where
  members : List (String × Json)
  deriving Repr, Inhabited

namespace Claims

def ofBytes? (bytes : Bytes) : Option Claims :=
  match Json.ofBytes? bytes with
  | some (.obj members) => some ⟨members⟩
  | _ => none

def get? (claims : Claims) (key : String) : Option Json :=
  Json.lookup claims.members key

/-- Whether the token is active; anything but `true` means that it is not. -/
def active (claims : Claims) : Bool :=
  ((claims.get? "active").bind Json.bool?).getD false

/-- When the token expires, in seconds of the wall clock. -/
def expiry (claims : Claims) : Option Int :=
  (claims.get? "exp").bind Json.toInt64?

end Claims

/-- The expiry that counts: the caller's, if it is known, or else a positive one of the answer; zero
if neither is known. -/
def effectiveExpiry (claims : Claims) (expiry : Int) : Int :=
  if expiry ≠ 0 then expiry
  else
    match claims.expiry with
    | some sent => if 0 < sent then sent else 0
    | none => 0

/-- For how many seconds an answer is kept: as configured, but not longer than the token lives. An
inactive token that cannot become active any more is kept for the rest of its life. -/
def cacheTtl (configured : Int) (claims : Claims) (expiry notBefore now : Int) : Int :=
  let expires := effectiveExpiry claims expiry
  if 0 < expires then
    if !claims.active && (notBefore ≤ 0 || notBefore < now) then expires - now
    else min configured (expires - now)
  else configured

end Gateway
