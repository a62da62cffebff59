/-
Settings made step by step: each change sets one setting and leaves the others as they are, so
the last change to a setting counts.
-/
import Fleet.Settings.Basic

namespace Fleet.Settings

/-- A change of settings. -/
inductive Change where
  /-- Takes all settings from elsewhere. -/
  | all (settings : Settings)
  | origin (origin : String)
  | apiBase (base : String)
  | sessionCookie (cookie : String)
  /-- A time in milliseconds, of which whole seconds are kept, as in the two below. -/
  | pollInterval (milliseconds : Nat)
  | staleTime (milliseconds : Nat)
  | requestTimeout (milliseconds : Nat)
  | rateLimit (limit : RateLimit)

/-- The whole seconds in a time in milliseconds. -/
def wholeSeconds (milliseconds : Nat) : UInt64 := UInt64.ofNat (milliseconds / 1000)

/-- The settings after a change. -/
def change (settings : Settings) : Change → Settings
  | .all others => others
  | .origin origin => { settings with origin := some origin }
  | .apiBase base => { settings with apiBase := base }
  | .sessionCookie cookie => { settings with sessionCookie := some cookie }
  | .pollInterval time => { settings with pollInterval := wholeSeconds time }
  | .staleTime time => { settings with staleTime := wholeSeconds time }
  | .requestTimeout time => { settings with requestTimeout := wholeSeconds time }
  | .rateLimit limit => { settings with rateLimit := some limit }

/-- The default settings after changes in order. -/
def ofChanges (changes : List Change) : Settings := changes.foldl change {}

end Fleet.Settings
