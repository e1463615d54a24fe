import Gateway.Duration

/-!
Settings of the connections to backends.
-/

namespace Gateway

/-- How connections to backends are kept. -/
structure TransportConfig where
  /-- Send small packets at once. -/
  noDelay : Bool := true
  /-- Most idle connections that are kept for one host. -/
  maxIdlePerHost : Nat := 128
  /-- How long an idle connection is kept. -/
  idleTimeout : Duration := Duration.ofSeconds 90
  /-- How long to wait for a response; without end if there is none. -/
  timeout : Option Duration := none
  deriving DecidableEq, Repr, Inhabited

end Gateway
