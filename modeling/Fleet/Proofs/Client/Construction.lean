/-
How a client is made. Settings that are acceptable make a client, since what is checked again on
the way passes again, and settings that are not are refused with the fault that the check of the
settings finds (`made_when_acceptable`).
-/
import Fleet.Client.Basic
import Fleet.Proofs.Session.Cookie
import Fleet.Proofs.Settings.Check
import Fleet.Settings.Change

namespace Fleet

/-! ## What is checked again -/

/-- The two numbers of a rate, as a limit. -/
def Throttle.limit (throttle : Throttle) : RateLimit :=
  ⟨throttle.requestsPerSecond, throttle.burstSize⟩

namespace Client

theorem exists_throttle {limit : RateLimit}
    (positive : limit.requestsPerSecond ≠ 0 ∧ limit.burstSize ≠ 0) :
    ∃ throttle, throttle? limit = .ok throttle ∧ throttle.limit = limit := by
  refine ⟨⟨limit.requestsPerSecond, limit.burstSize, positive⟩, ?_, rfl⟩
  unfold throttle?
  rw [dif_neg positive.1, dif_neg positive.2]

/-! ## Making a client -/

/-- What a client is that is made from settings. -/
structure MadeFrom (client : Client) (settings : Settings) : Prop where
  given : client.settings = settings
  base : settings.base = .ok client.base
  /-- There is a session if a credential is given, and it is the credential trimmed. -/
  session : client.session.map SessionCookie.text = settings.sessionCookie.map Text.trim
  throttle : client.throttle.map Throttle.limit = settings.rateLimit
  /-- Polls are at least a second apart, -/
  pollInterval : 1000 ≤ client.pollInterval
  /-- and a request has at least a second. -/
  requestTimeout : 1 ≤ client.settings.requestTimeout

/-- Whatever is checked again passes again, so acceptable settings make a client. -/
theorem exists_client {settings : Settings} (h : settings.Acceptable) :
    ∃ client, ofSettings settings = .ok client ∧ client.MadeFrom settings := by
  obtain ⟨base, resolved⟩ := h.base
  have throttled : ∃ throttle : Option Throttle, settings.rateLimit.mapM throttle? = .ok throttle ∧
      throttle.map Throttle.limit = settings.rateLimit := by
    cases hl : settings.rateLimit with
    | none => exact ⟨none, rfl, rfl⟩
    | some limit =>
      obtain ⟨throttle, made, same⟩ := exists_throttle (h.rate limit hl)
      exact ⟨some throttle, by rw [Option.mapM_some, made]; rfl, congrArg some same⟩
  have authorized : ∃ session : Option SessionCookie, (settings.sessionCookie.mapM fun cookie =>
      (SessionCookie.ofText cookie).mapError (·.toInvalid)) = .ok session ∧
        session.map SessionCookie.text = settings.sessionCookie.map Text.trim := by
    cases hc : settings.sessionCookie with
    | none => exact ⟨none, rfl, rfl⟩
    | some cookie =>
      obtain ⟨session, made⟩ := SessionCookie.exists_ofText_iff.2 (h.cookie cookie hc)
      exact ⟨some session, by rw [Option.mapM_some, made]; rfl,
        congrArg some (SessionCookie.text_of_ofText made)⟩
  obtain ⟨throttle, limited, same⟩ := throttled
  obtain ⟨session, authorized, kept⟩ := authorized
  refine ⟨{
    settings, base, throttle, session
    machines := emptyCache settings
    blueprints := emptyCache settings }, ?_, ?_⟩
  · unfold ofSettings
    rw [Settings.validate_eq_ok_iff.2 h, resolved, limited, authorized]
    rfl
  · have polls : settings.pollInterval.toNat ≠ 0 := by
      intro zero
      exact h.pollInterval (UInt64.toNat_inj.1 zero)
    have waits : settings.requestTimeout.toNat ≠ 0 := by
      intro zero
      exact h.requestTimeout (UInt64.toNat_inj.1 zero)
    refine ⟨rfl, resolved, kept, same, ?_, ?_⟩
    · show 1000 ≤ settings.pollInterval.toNat * 1000
      omega
    · show 1 ≤ settings.requestTimeout
      rw [UInt64.le_iff_toNat_le]
      exact Nat.one_le_iff_ne_zero.2 waits

/-- The fault that the check of the settings finds is the one that no client is made for. -/
theorem ofSettings_of_error {settings : Settings} {fault : Settings.Fault}
    (h : settings.validate = .error fault) : ofSettings settings = .error fault.toInvalid := by
  unfold ofSettings
  rw [h]
  rfl

/-- The check of the settings decides whether a client is made of them. -/
structure DecidedByCheck (settings : Settings) : Prop where
  made : (∃ client, ofSettings settings = .ok client) ↔ settings.validate = .ok ()
  refused : ∀ fault, settings.validate = .error fault →
    ofSettings settings = .error fault.toInvalid
  /-- After the check, no other check on the way to the client can fail. -/
  again : settings.validate = .ok () →
    (∃ base, settings.base = .ok base) ∧
    (∀ limit, settings.rateLimit = some limit → ∃ throttle, throttle? limit = .ok throttle) ∧
    ∀ cookie, settings.sessionCookie = some cookie →
      ∃ session, SessionCookie.ofText cookie = .ok session
  client : ∀ client, ofSettings settings = .ok client → client.MadeFrom settings

theorem decidedByCheck (settings : Settings) : DecidedByCheck settings where
  made := by
    constructor
    · rintro ⟨client, made⟩
      cases checked : settings.validate with
      | ok => rfl
      | error fault => rw [ofSettings_of_error checked] at made; cases made
    · intro checked
      obtain ⟨client, made, -⟩ := exists_client (Settings.validate_eq_ok_iff.1 checked)
      exact ⟨client, made⟩
  refused fault h := ofSettings_of_error h
  again checked := by
    have acceptable := Settings.validate_eq_ok_iff.1 checked
    refine ⟨acceptable.base, ?_, ?_⟩
    · intro limit hl
      obtain ⟨throttle, made, -⟩ := exists_throttle (acceptable.rate limit hl)
      exact ⟨throttle, made⟩
    · intro cookie hc
      exact SessionCookie.exists_ofText_iff.2 (acceptable.cookie cookie hc)
  client client made := by
    cases checked : settings.validate with
    | ok =>
      obtain ⟨other, other_made, from_settings⟩ :=
        exists_client (Settings.validate_eq_ok_iff.1 checked)
      obtain rfl := Except.ok.inj (other_made.symm.trans made)
      exact from_settings
    | error fault => rw [ofSettings_of_error checked] at made; cases made

/-- Checking and making agree, for settings however they come about: given as they are, made step
by step, or loaded, in which case a client is always made. -/
theorem made_when_acceptable :
    (∀ settings, DecidedByCheck settings) ∧
    (∀ changes, DecidedByCheck (Settings.ofChanges changes)) ∧
    ∀ files environment name settings, Settings.load files environment name = .ok settings →
      ∃ client, ofSettings settings = .ok client ∧ client.MadeFrom settings := by
  refine ⟨decidedByCheck, fun changes => decidedByCheck _, ?_⟩
  intro files environment name settings loaded
  exact exists_client (Settings.validate_eq_ok_iff.1 (Settings.validate_of_load loaded))

/-- A file with a rate limit, and a session credential with blanks around it. -/
def limitedFile : Settings.File :=
  ⟨"goosed-console.toml", "[rate_limit]\nrequests_per_second = 5\nburst_size = 10\n"⟩

def limitedEnvironment : List Settings.Variable :=
  [⟨"GOOSED_ORIGIN", " http://h/ "⟩, ⟨"GOOSED_SESSION_COOKIE", " user=1; role=ops "⟩]

/-- The settings that these come to. -/
def limitedSettings : Settings where
  origin := some " http://h/ "
  sessionCookie := some " user=1; role=ops "
  rateLimit := some ⟨5, 10⟩

theorem made_of_limited :
    Settings.load [limitedFile] limitedEnvironment "goosed-console" = .ok limitedSettings ∧
    ∃ client, ofSettings limitedSettings = .ok client ∧ client.MadeFrom limitedSettings := by
  have loaded : Settings.load [limitedFile] limitedEnvironment "goosed-console" =
      .ok limitedSettings := by decide +kernel
  exact ⟨loaded, made_when_acceptable.2.2 _ _ _ _ loaded⟩

end Client

end Fleet
