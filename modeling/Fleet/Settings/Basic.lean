/-
The settings of a client, what each is when nothing is said, and the check that every client
passes before it is made: the base of the request URLs, the two periods that may not be zero,
the credential, and the rate limit, in this order.
-/
import Fleet.Client.ApiBase
import Fleet.Json.Fields
import Fleet.Session.Cookie

namespace Fleet

/-! ## Types -/

/-- How many requests may be made. -/
structure RateLimit where
  requestsPerSecond : UInt32
  burstSize : UInt32
deriving DecidableEq, Repr

/-- The settings of a client; periods are in seconds. -/
structure Settings where
  /-- Where the console is served from. -/
  origin : Option String := none
  /-- A path below the origin, or a URL of its own. -/
  apiBase : String := "/api"
  /-- The time from one poll to the next. -/
  pollInterval : UInt64 := 60
  /-- The age from which a cached listing is fetched again. -/
  staleTime : UInt64 := 30
  requestTimeout : UInt64 := 30
  sessionCookie : Option String := none
  rateLimit : Option RateLimit := none
deriving DecidableEq, Repr

namespace Settings

/-! ## Checking -/

/-- What is wrong with settings. -/
inductive Fault where
  | base (fault : ApiBase.Fault)
  | noPollInterval
  | noRequestTimeout
  | cookie (fault : SessionCookie.Fault)
  | noRate
deriving DecidableEq, Repr

/-- The refusal for a fault. -/
def Fault.toInvalid : Fault → Invalid
  | base fault => fault.toInvalid
  | noPollInterval => .field "poll_interval_secs" "Poll interval must be at least one second"
  | noRequestTimeout =>
    .field "request_timeout_secs" "Request timeout must be at least one second"
  | cookie fault => fault.toInvalid
  | noRate => .constraint "Rate limit and burst size must be greater than zero"

/-- The base of the request URLs. -/
def base (settings : Settings) : Except ApiBase.Fault ApiBase :=
  ApiBase.resolve settings.origin settings.apiBase

/-- Checks the credential, if there is one. -/
def checkCookie (settings : Settings) : Except SessionCookie.Fault Unit :=
  match settings.sessionCookie with
  | some cookie => SessionCookie.check (Text.trim cookie)
  | none => .ok ()

/-- Whether no request would ever be let through. -/
def lacksRate (settings : Settings) : Bool :=
  settings.rateLimit.any fun limit => limit.requestsPerSecond == 0 || limit.burstSize == 0

/-- Checks the settings. -/
def validate (settings : Settings) : Except Fault Unit := do
  let _ ← settings.base.mapError .base
  if settings.pollInterval == 0 then throw .noPollInterval
  if settings.requestTimeout == 0 then throw .noRequestTimeout
  settings.checkCookie.mapError .cookie
  if settings.lacksRate then throw .noRate

/-! ## JSON form -/

open Json (defaulted? optional? required? fields? text? natBelow?)

/-- Reads a number of seconds. -/
def seconds? (value : Json) : Option UInt64 := (natBelow? UInt64.size value).map UInt64.ofNat

end Settings

/-- Reads a rate limit; both numbers are required. -/
def RateLimit.ofJson? (value : Json) : Option RateLimit := do
  let fields ← value.fields? ["requests_per_second", "burst_size"]
  let count? := fun value => (Json.natBelow? UInt32.size value).map UInt32.ofNat
  return {
    requestsPerSecond := ← Json.required? fields "requests_per_second" count?
    burstSize := ← Json.required? fields "burst_size" count? }

/-- Reads settings; every field may be left out. -/
def Settings.ofJson? (value : Json) : Option Settings := do
  let fields ← value.fields? ["origin", "api_base", "poll_interval_secs", "stale_time_secs",
    "request_timeout_secs", "session_cookie", "rate_limit"]
  return {
    origin := ← Json.optional? fields "origin" Json.text?
    apiBase := ← Json.defaulted? fields "api_base" "/api" Json.text?
    pollInterval := ← Json.defaulted? fields "poll_interval_secs" 60 seconds?
    staleTime := ← Json.defaulted? fields "stale_time_secs" 30 seconds?
    requestTimeout := ← Json.defaulted? fields "request_timeout_secs" 30 seconds?
    sessionCookie := ← Json.optional? fields "session_cookie" Json.text?
    rateLimit := ← Json.optional? fields "rate_limit" RateLimit.ofJson? }

end Fleet
