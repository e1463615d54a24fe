import Gateway.Http.Message

/-!
What the gateway knows of a backend: some milliseconds after a request the work on it ends, either
with an outcome or by dying without one.
-/

namespace Gateway

inductive Ending where
  /-- The work stopped without an outcome. -/
  | died
  | settled (outcome : Except GatewayError Response)

/-- The end of a piece of work after some milliseconds. -/
structure Reaction where
  delay : Nat
  ending : Ending

/-- A backend as a function of what it is sent. -/
abbrev Backend := Request → Reaction

namespace Ending

def mapResponse (change : Response → Response) : Ending → Ending
  | died => died
  | settled outcome => settled (outcome.map change)

end Ending

namespace Reaction

/-- A failure without a call. -/
def failed (error : GatewayError) : Reaction :=
  ⟨0, .settled (.error error)⟩

def mapResponse (change : Response → Response) (reaction : Reaction) : Reaction :=
  { reaction with ending := reaction.ending.mapResponse change }

end Reaction

end Gateway
