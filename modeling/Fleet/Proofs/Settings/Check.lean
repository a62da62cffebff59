/-
What the check of settings asks: it is read off setting by setting (`Settings.validate_eq_ok_iff`),
and settings that were loaded have passed it (`Settings.exists_of_load`).
-/
import Fleet.Settings.Load

namespace Fleet.Settings

/-! ## Acceptable settings -/

/-- What the check asks of settings. -/
structure Acceptable (settings : Settings) : Prop where
  base : ∃ base, settings.base = .ok base
  pollInterval : settings.pollInterval ≠ 0
  requestTimeout : settings.requestTimeout ≠ 0
  cookie : ∀ cookie, settings.sessionCookie = some cookie →
    SessionCookie.check (Text.trim cookie) = .ok ()
  rate : ∀ limit, settings.rateLimit = some limit →
    limit.requestsPerSecond ≠ 0 ∧ limit.burstSize ≠ 0

theorem checkCookie_eq_ok_iff {settings : Settings} :
    settings.checkCookie = .ok () ↔ ∀ cookie, settings.sessionCookie = some cookie →
      SessionCookie.check (Text.trim cookie) = .ok () := by
  unfold checkCookie
  cases settings.sessionCookie with
  | none => simp
  | some cookie => simp

theorem lacksRate_iff {settings : Settings} :
    settings.lacksRate = true ↔ ∃ limit, settings.rateLimit = some limit ∧
      (limit.requestsPerSecond = 0 ∨ limit.burstSize = 0) := by
  unfold lacksRate
  cases settings.rateLimit with
  | none => simp
  | some limit => simp

/-- The check passes the acceptable settings and no others. -/
theorem validate_eq_ok_iff {settings : Settings} :
    settings.validate = .ok () ↔ settings.Acceptable := by
  constructor
  · intro h
    obtain ⟨base, resolved, h⟩ := bind_eq_ok_iff.1 h
    obtain ⟨polls, h⟩ := refuse_eq_ok_iff.1 h
    obtain ⟨waits, h⟩ := refuse_eq_ok_iff.1 h
    obtain ⟨_, cookie, h⟩ := bind_eq_ok_iff.1 h
    have served : ¬ settings.lacksRate = true := by
      intro lacks
      rw [if_pos lacks] at h
      cases h
    refine ⟨⟨base, ok_of_mapError resolved⟩, by simpa using polls, by simpa using waits,
      checkCookie_eq_ok_iff.1 (ok_of_mapError cookie), ?_⟩
    intro limit hl
    constructor
    · intro zero
      exact served (lacksRate_iff.2 ⟨limit, hl, .inl zero⟩)
    · intro zero
      exact served (lacksRate_iff.2 ⟨limit, hl, .inr zero⟩)
  · rintro ⟨⟨base, resolved⟩, polls, waits, cookie, rate⟩
    have served : ¬ settings.lacksRate = true := by
      rintro lacks
      obtain ⟨limit, hl, zero⟩ := lacksRate_iff.1 lacks
      obtain ⟨requests, burst⟩ := rate limit hl
      exact zero.elim requests burst
    refine bind_eq_ok_iff.2 ⟨base, by rw [resolved]; rfl, ?_⟩
    refine refuse_eq_ok_iff.2 ⟨by simpa using polls, ?_⟩
    refine refuse_eq_ok_iff.2 ⟨by simpa using waits, ?_⟩
    refine bind_eq_ok_iff.2 ⟨(), by rw [checkCookie_eq_ok_iff.2 cookie]; rfl, ?_⟩
    exact if_neg served

/-! ## Loaded settings -/

variable {files : List File} {environment : List Variable} {name : String} {settings : Settings}

/-- Loaded settings are what the file and the environment hold, and have passed the check. -/
theorem exists_of_load (h : load files environment name = .ok settings) :
    ∃ rows, fileRows files name = .ok rows ∧
      ofSetting? (overlayAll (overlayAll (.table []) rows) (readVariables environment)) =
        some settings ∧
      settings.validate = .ok () := by
  obtain ⟨rows, read, h⟩ := bind_eq_ok_iff.1 h
  dsimp only at h
  split at h
  · cases h
  · rename_i converted
    obtain ⟨_, checked, made⟩ := bind_eq_ok_iff.1 h
    cases made
    exact ⟨rows, read, converted, ok_of_mapError checked⟩

theorem validate_of_load (h : load files environment name = .ok settings) :
    settings.validate = .ok () :=
  let ⟨_, _, _, checked⟩ := exists_of_load h
  checked

end Fleet.Settings
