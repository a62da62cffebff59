/-
Which credential a request carries. Each request that is sent carries, as it stands, the one that
is in force when the request is made: the one of the last session that was set, or of the settings
as long as none was set. Every credential makes a header, so no request fails for its credential
(`credentials_carried`).
-/
import Fleet.Proofs.Client.Construction
import Fleet.Proofs.Client.Requests
import Fleet.Proofs.Session.Header

namespace Fleet.Client

/-- The check of settings accepts the same texts as the making of a credential. -/
theorem checkCookie_eq_ok_iff_accepted {settings : Settings} {text : String}
    (given : settings.sessionCookie = some text) :
    settings.checkCookie = .ok () ↔ ∃ cookie, SessionCookie.ofText text = .ok cookie := by
  rw [Settings.checkCookie_eq_ok_iff, given, SessionCookie.exists_ofText_iff]
  constructor
  · intro checked
    exact checked text rfl
  · rintro checked other same
    obtain rfl := Option.some.inj same
    exact checked

namespace Run

/-! ## Credentials in force -/

/-- A session is set in a step. -/
def Sets (run : Run) (n : Nat) (session : Option SessionCookie) : Prop :=
  ∃ call, run.event n = some (.start call (.setSession session))

/-- The credential in force before a step. -/
inductive InForce (run : Run) (n : Nat) : Option SessionCookie → Prop where
  /-- It is the one of the last session that was set. -/
  | set {m : Nat} {session : Option SessionCookie} (before : m < n) (sets : run.Sets m session)
      (last : ∀ k, m < k → k < n → ∀ other, ¬ run.Sets k other) : InForce run n session
  /-- It is the one of the settings, trimmed, since none was set. -/
  | given {session : Option SessionCookie} (unset : ∀ k < n, ∀ other, ¬ run.Sets k other)
      (trimmed : session.map SessionCookie.text =
        run.initial.settings.sessionCookie.map Text.trim) : InForce run n session

variable {run : Run} {n : Nat}

/-- In a step that sets no session the credential stays. -/
theorem session_of_unset (unset : ∀ session, ¬ run.Sets n session) :
    (run.state (n + 1)).session = (run.state n).session := by
  rcases run.step_cases n with ⟨-, same, -⟩ | ⟨event, he, t⟩
  · rw [same]
  · obtain ⟨machines, blueprints, changes, changing, errands, hs⟩ := t.frame
    rw [hs]
    show event.credential (run.state n).session = (run.state n).session
    unfold Event.credential
    split
    · rename_i call session
      exact absurd ⟨call, he⟩ (unset session)
    · rfl

theorem session_of_sets {session : Option SessionCookie} (sets : run.Sets n session) :
    (run.state (n + 1)).session = session := by
  obtain ⟨call, he⟩ := sets
  obtain ⟨machines, blueprints, changes, changing, errands, hs⟩ := (transition he).frame
  rw [hs]
  rfl

theorem session_initial (run : Run) :
    run.initial.session.map SessionCookie.text =
      run.initial.settings.sessionCookie.map Text.trim := by
  obtain ⟨settings, made⟩ := run.made
  obtain rfl := ((decidedByCheck settings).client _ made).given
  exact ((decidedByCheck _).client _ made).session

/-- The credential the client holds is the one in force. -/
theorem inForce_session (run : Run) (n : Nat) : run.InForce n (run.state n).session := by
  induction n with
  | zero => exact .given (fun k hk => absurd hk (Nat.not_lt_zero k)) run.session_initial
  | succ n ih =>
    by_cases replaced : ∃ session, run.Sets n session
    · obtain ⟨session, sets⟩ := replaced
      rw [session_of_sets sets]
      exact .set (Nat.lt_succ_self n) sets fun k _ _ => by omega
    · have unset : ∀ session, ¬ run.Sets n session := not_exists.1 replaced
      rw [session_of_unset unset]
      generalize (run.state n).session = session at ih
      -- the step sets nothing, so what was said of the steps before it holds of it too
      cases ih with
      | set before sets last =>
        refine .set (by omega) sets fun k hm hk => ?_
        rcases Nat.lt_succ_iff_lt_or_eq.1 hk with earlier | rfl
        · exact last k hm earlier
        · exact unset
      | given none_set trimmed =>
        refine .given (fun k hk => ?_) trimmed
        rcases Nat.lt_succ_iff_lt_or_eq.1 hk with earlier | rfl
        · exact none_set k earlier
        · exact unset

/-! ## Requests -/

/-- The requests of a run carry the credential of the moment, and none fails for it. -/
structure CarriesCredentials (run : Run) : Prop where
  /-- A request carries the credential in force when it is made, as it stands. -/
  carried : ∀ {n exchange}, run.effect n = some (.send exchange) →
    run.InForce n exchange.request.cookie
  /-- Whatever it carries makes a header. -/
  fits : ∀ {n exchange cookie}, run.effect n = some (.send exchange) →
    exchange.request.cookie = some cookie → cookie.FitsHeader
  /-- A request that waits is sent when it is let through, if its URL can be made. -/
  sent : ∀ {n errand url}, run.event n = some (.dispatch errand) →
    errand ∈ (run.state n).errands → run.initial.base.requestUrl errand.purpose.path = .ok url →
    ∃ exchange, exchange.toErrand = errand ∧ exchange.request.url = url ∧
      run.effect n = some (.send exchange)

theorem carriesCredentials (run : Run) : run.CarriesCredentials := by
  constructor
  case carried =>
    intro n exchange sends
    obtain ⟨-, -, made⟩ := dispatch_of_send sends
    obtain ⟨url, -, request⟩ := request_eq_ok_iff.1 made
    rw [request]
    exact run.inForce_session n
  case fits =>
    intro n exchange cookie _ _
    exact cookie.fitsHeader
  case sent =>
    intro n errand url he waits located
    rw [← run.base_eq n] at located
    have made := request_eq_ok_iff.2 ⟨url, located, rfl⟩
    have sends : run.effect n = some (.send ⟨errand, _⟩) := send_of_dispatch he waits made
    exact ⟨⟨errand, _⟩, rfl, rfl, sends⟩

/-- Every credential makes a header, which is the credential as it stands. The check of settings
accepts the same texts as the making of a credential. And in every run each request carries the
credential of the last session, or of the settings if there was no session. -/
theorem credentials_carried :
    (∀ cookie : SessionCookie, cookie.FitsHeader) ∧
    (∀ (settings : Settings) (text : String), settings.sessionCookie = some text →
      (settings.checkCookie = .ok () ↔ ∃ cookie, SessionCookie.ofText text = .ok cookie) ∧
      (settings.validate = .ok () →
        ∃ cookie, SessionCookie.ofText text = .ok cookie ∧ cookie.FitsHeader)) ∧
    ∀ run : Run, run.CarriesCredentials := by
  refine ⟨SessionCookie.fitsHeader, fun settings text given =>
    ⟨checkCookie_eq_ok_iff_accepted given, fun checked => ?_⟩, carriesCredentials⟩
  have acceptable := Settings.validate_eq_ok_iff.1 checked
  obtain ⟨cookie, accepted⟩ := SessionCookie.exists_ofText_iff.2 (acceptable.cookie text given)
  exact ⟨cookie, accepted, cookie.fitsHeader⟩

/-! ## Requests before, between and after sessions -/

def reloginSettings : Settings := { origin := some "http://h", sessionCookie := some " user=é " }

def reloginErrand (call : Nat) : Errand := ⟨call, .value "/v1/me"⟩

/-- The credential of the settings. -/
def reloginGiven : SessionCookie := ⟨"user=é", by decide +kernel, by decide +kernel⟩

/-- The credential that is set later. -/
def reloginSet : SessionCookie := ⟨"user=ü; b=", by decide +kernel, by decide +kernel⟩

/-- A session is set and taken away again while requests wait for the rate. -/
def relogin : Run := ofEvents reloginSettings (by decide +kernel) [
  .start 0 (.value "/v1/me"), .start 1 (.value "/v1/me"), .start 2 (.value "/v1/me"),
  .dispatch (reloginErrand 0), .start 3 (.setSession (some reloginSet)),
  .dispatch (reloginErrand 1), .start 4 (.setSession none), .dispatch (reloginErrand 2)]
  (by decide) (by decide +kernel)

def reloginExchange (call : Nat) (cookie : Option SessionCookie) : Exchange where
  toErrand := reloginErrand call
  request := {
    method := .get
    url := { scheme := "http", host := some (.domain "h"), path := .segments ["api", "v1", "me"] }
    cookie
    body := none }

theorem relogin_carried :
    (relogin.effect 3 = some (.send (reloginExchange 0 (some reloginGiven))) ∧
      relogin.effect 5 = some (.send (reloginExchange 1 (some reloginSet))) ∧
      relogin.effect 7 = some (.send (reloginExchange 2 none))) ∧
    (∃ cookie, SessionCookie.ofText " user=é " = .ok cookie ∧ cookie.FitsHeader) ∧
    relogin.CarriesCredentials := by
  obtain ⟨-, settings, runs⟩ := credentials_carried
  refine ⟨⟨rfl, rfl, rfl⟩, ?_, runs relogin⟩
  exact (settings reloginSettings " user=é " rfl).2 (by decide +kernel)

end Run

end Fleet.Client
