/-
Loading settings: a file overlaid with the environment, converted field by field, and checked.
A setting that is not there takes its default.
-/
import Fleet.Settings.Basic
import Fleet.Settings.Source

namespace Fleet

/-! ## Conversion -/

namespace Setting

/-- A row that has a value when it is left out. -/
def defaulted? {α : Type} (setting : Setting) (name : String) (default : α)
    (read? : Setting → Option α) : Option α :=
  match setting.rows.lookup name with
  | some value => read? value
  | none => some default

/-- A row that may be left out or nothing. -/
def optional? {α : Type} (setting : Setting) (name : String) (read? : Setting → Option α) :
    Option (Option α) :=
  match setting.rows.lookup name with
  | none | some nothing => some none
  | some value => (read? value).map some

/-- A number of seconds. -/
def seconds? (setting : Setting) : Option UInt64 :=
  (setting.naturalUpTo? (UInt64.size - 1)).map UInt64.ofNat

/-- A number of requests. -/
def count? (setting : Setting) : Option UInt32 :=
  (setting.naturalUpTo? (UInt32.size - 1)).map UInt32.ofNat

/-- A rate limit: a table with both numbers, or a list that begins with them. -/
def rateLimit? : Setting → Option RateLimit
  | table rows => do
    let requests ← rows.lookup "requests_per_second"
    let burst ← rows.lookup "burst_size"
    return ⟨← requests.count?, ← burst.count?⟩
  | list (requests :: burst :: _) => do return ⟨← requests.count?, ← burst.count?⟩
  | _ => none

end Setting

namespace Settings

/-- The settings in a table, whose other rows do not matter. -/
def ofSetting? (setting : Setting) : Option Settings := do
  return {
    origin := ← setting.optional? "origin" Setting.text?
    apiBase := ← setting.defaulted? "api_base" "/api" Setting.text?
    pollInterval := ← setting.defaulted? "poll_interval_secs" 60 Setting.seconds?
    staleTime := ← setting.defaulted? "stale_time_secs" 30 Setting.seconds?
    requestTimeout := ← setting.defaulted? "request_timeout_secs" 30 Setting.seconds?
    sessionCookie := ← setting.optional? "session_cookie" Setting.text?
    rateLimit := ← setting.optional? "rate_limit" Setting.rateLimit? }

/-! ## Loading -/

/-- Why settings could not be loaded. -/
inductive LoadFault where
  /-- The file is not well formed. -/
  | file (name : String)
  /-- A value has the wrong type. -/
  | type
  /-- The settings are not acceptable. -/
  | unacceptable (fault : Fault)
deriving DecidableEq, Repr

/-- The failure for a fault. -/
def LoadFault.toFailure : LoadFault → Failure
  | file name => .settings s!"{name} is not well formed"
  | type => .settings "a setting has the wrong type"
  | unacceptable fault => .invalid fault.toInvalid

/-- The file settings are looked for in when none is named. -/
def defaultFile : String := "goosed-console"

/-- The values of the file a name finds; no file is no values. -/
def fileRows (files : List File) (name : String) : Except LoadFault (List (String × Setting)) :=
  match findFile files name with
  | none => .ok []
  | some (file, language) =>
    match readFile? language file.content with
    | some rows => .ok rows
    | none => .error (.file file.name)

/-- The settings of a file and the environment, checked. -/
def load (files : List File) (environment : List Variable) (name : String) :
    Except LoadFault Settings := do
  let rows ← fileRows files name
  let merged := overlayAll (overlayAll (.table []) rows) (readVariables environment)
  match ofSetting? merged with
  | none => throw .type
  | some settings =>
    settings.validate.mapError .unacceptable
    return settings

end Settings

end Fleet
