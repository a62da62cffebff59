/-
How texts arrive that the environment gives for settings (`texts_arrive`). A text that spells a
truth value or a number is taken for it, and the setting is what that value is written as
(`Arrives`), which need not be the text. Such a value is neither a credential nor an origin, so the
credential of loaded settings is the text as it was given, and so is the origin wherever it counts.
-/
import Fleet.Proofs.Client.ApiBase
import Fleet.Proofs.Number.Text
import Fleet.Proofs.Session.Cookie
import Fleet.Proofs.Settings.Check
import Fleet.Proofs.Settings.Overlay

namespace Fleet.Settings

/-! ## Variables -/

/-- A variable of that name has the value. The case of names does not matter, and of several
variables of one name the last one counts. -/
def IsSet (environment : List Variable) (name value : String) : Prop :=
  ∃ before var after, environment = before ++ var :: after ∧
    Text.lower var.name = Text.lower name ∧ var.value = value ∧
    ∀ other ∈ after, Text.lower other.name ≠ Text.lower name

/-- Without dots no pair of underscores was replaced. -/
theorem dotted_eq_self {cs : List Char} (plain : '.' ∉ dotted cs) : dotted cs = cs := by
  fun_induction dotted cs with
  | case1 cs ih => exact absurd List.mem_cons_self plain
  | case2 c cs _ ih => rw [ih fun hm => plain (List.mem_cons_of_mem c hm)]
  | case3 => rfl

/-- Whether a variable is one of the settings, and of which, does not hang on the case of its
name. -/
theorem key?_eq_some_iff {var : Variable} {key : String} (plain : '.' ∉ key.toList)
    (single : dotted key.toList = key.toList) :
    var.key? = some key ↔ Text.lower var.name = "goosed_" ++ key := by
  have whole : ("goosed_" ++ key).toList = variableStart ++ key.toList := String.toList_append
  rw [← String.toList_inj, whole, Text.lower, String.toList_ofList]
  simp only [Variable.key?]
  constructor
  · intro h
    split at h
    · rename_i start
      obtain ⟨rest, parts⟩ := List.isPrefixOf_iff_prefix.1 start
      have same : dotted rest = key.toList := by
        rw [← Option.some.inj h, String.toList_ofList, ← parts, List.drop_left]
      rw [← parts, ← same, dotted_eq_self (same ▸ plain)]
    · cases h
  · intro h
    rw [h, if_pos (List.isPrefixOf_iff_prefix.2 (List.prefix_append _ _)), List.drop_left, single,
      String.ofList_toList]

/-- The variable that counts is what stands under its key. -/
theorem stands_of_isSet {environment : List Variable} {name value key s : String}
    (set : IsSet environment name value) (spelled : Text.lower name = "goosed_" ++ key)
    (named : Named key) (single : dotted key.toList = key.toList)
    (scalar : (guess value).text? = some s) (setting : Setting) :
    Setting.Stands key (guess value) (overlayAll setting (readVariables environment)) := by
  obtain ⟨before, var, after, rfl, same, rfl, last⟩ := set
  rw [spelled] at same last
  have plain : '.' ∉ key.toList := fun hm => by cases named.2 _ hm
  have row : readVariables (before ++ var :: after) =
      readVariables before ++ (key, guess var.value) :: readVariables after := by
    rw [readVariables, List.filterMap_append, List.filterMap_cons,
      (key?_eq_some_iff plain single).2 same]
    rfl
  rw [row]
  refine overlayAll_stands named scalar ?_ setting
  intro row hr
  obtain ⟨other, ho, made⟩ := List.mem_filterMap.1 hr
  obtain ⟨k, hk, rfl⟩ := Option.map_eq_some_iff.1 made
  rintro rfl
  exact last other ho ((key?_eq_some_iff plain single).1 hk)

/-! ## Texts that spell scalars -/

/-- The text is a truth value, in any case. -/
def SpellsTruth (t : String) (b : Bool) : Prop := Text.lower t = toString b

/-- The text is an integer of 64 bits. -/
def SpellsInteger (t : String) (n : Int) : Prop :=
  Numeral.integer? t = some n ∧ -2 ^ 63 ≤ n ∧ n < 2 ^ 63

/-- What a text is once it was taken for a truth value, an integer, a number, or for itself, the
first of these that it spells. -/
inductive Arrives (t : String) : String → Prop where
  | truth {b : Bool} (word : SpellsTruth t b) : Arrives t (toString b)
  | integer {n : Int} (wordless : ∀ b, ¬ SpellsTruth t b) (whole : SpellsInteger t n) :
    Arrives t (toString n)
  | real {x : Real64} (wordless : ∀ b, ¬ SpellsTruth t b) (broken : ∀ n, ¬ SpellsInteger t n)
    (number : Numeral.read? t = some x) : Arrives t (Setting.realText x)
  | text (wordless : ∀ b, ¬ SpellsTruth t b) (broken : ∀ n, ¬ SpellsInteger t n)
    (other : Numeral.read? t = none) : Arrives t t

theorem filter_isSigned64_eq_some_iff {t : String} {n : Int} :
    (Numeral.integer? t).filter Setting.isSigned64 = some n ↔ SpellsInteger t n := by
  rw [Option.filter_eq_some_iff, SpellsInteger]
  simp [Setting.isSigned64]

theorem arrives_guess (t : String) : ∃ s, (guess t).text? = some s ∧ Arrives t s := by
  unfold guess
  split
  · rename_i word
    exact ⟨_, rfl, .truth (b := true) word⟩
  · rename_i word
    exact ⟨_, rfl, .truth (b := false) word⟩
  · rename_i not_true not_false
    have wordless : ∀ b, ¬ SpellsTruth t b := by
      intro b word
      cases b
      · exact not_false word
      · exact not_true word
    dsimp only
    split
    · rename_i n _ whole
      exact ⟨_, rfl, .integer wordless (filter_isSigned64_eq_some_iff.1 whole)⟩
    · rename_i x broken number
      refine ⟨_, rfl, .real wordless (fun n whole => ?_) number⟩
      rw [filter_isSigned64_eq_some_iff.2 whole] at broken
      cases broken
    · rename_i broken other
      refine ⟨_, rfl, .text wordless (fun n whole => ?_) other⟩
      rw [filter_isSigned64_eq_some_iff.2 whole] at broken
      cases broken

/-! ## Texts of scalars -/

/-- Without white space, and without the marks of credentials and URLs. -/
structure Bare (s : String) : Prop where
  solid : Text.Solid s
  unmarked : '=' ∉ s.toList ∧ ';' ∉ s.toList ∧ ':' ∉ s.toList

theorem bare_of_isNumeral {s : String} (h : IsNumeral s.toList) (solid : Text.Solid s) :
    Bare s where
  solid := solid
  unmarked := by
    refine ⟨fun hm => ?_, fun hm => ?_, fun hm => ?_⟩
    all_goals cases h _ hm

theorem bare_realText (x : Real64) : Bare (Setting.realText x) := by
  cases x with
  | finite x => exact bare_of_isNumeral (Layout.plain.isNumeral_text x) (Layout.plain.solid_text x)
  | infinite negative =>
    cases negative
    · exact ⟨⟨by decide, by simp [Setting.realText, Text.isBlank]⟩, by decide⟩
    · exact ⟨⟨by decide, by simp [Setting.realText, Text.isBlank]⟩, by decide⟩
  | notANumber => exact ⟨⟨by decide, by simp [Setting.realText, Text.isBlank]⟩, by decide⟩

/-- What is not the text as it was given is the text of a scalar. -/
theorem Arrives.eq_or_bare {t s : String} (h : Arrives t s) : s = t ∨ Bare s := by
  cases h with
  | @truth b word =>
    cases b
    · exact .inr (show Bare "false" from ⟨⟨by decide, by simp [Text.isBlank]⟩, by decide⟩)
    · exact .inr (show Bare "true" from ⟨⟨by decide, by simp [Text.isBlank]⟩, by decide⟩)
  | integer => exact .inr (bare_of_isNumeral (isNumeral_toString_int _) (solid_toString_int _))
  | real => exact .inr (bare_realText _)
  | text => exact .inl rfl

/-- The text of a scalar is no credential. -/
theorem Bare.check_ne_ok {s : String} (bare : Bare s) :
    SessionCookie.check (Text.trim s) ≠ .ok () := by
  rw [Text.trim_of_tidy bare.solid.tidy]
  intro checked
  rcases SessionCookie.exists_mark_of_check bare.solid checked with hm | hm
  · exact bare.unmarked.1 hm
  · exact bare.unmarked.2.1 hm

/-- The text of a scalar is no origin, so a base that is resolved beside it is resolved without. -/
theorem Bare.resolve_eq {s given : String} {base : ApiBase} (bare : Bare s)
    (h : ApiBase.resolve (some s) given = .ok base) (origin : Option String) :
    ApiBase.resolve origin given = .ok base := by
  cases read : Url.parse (Text.trim given) with
  | ok url =>
    simp only [ApiBase.resolve, read] at h ⊢
    exact h
  | error fault =>
    rw [ApiBase.resolve_of_unread (by simp [read])] at h
    obtain ⟨server, some_server, checked, -⟩ := ApiBase.belowOrigin_eq_ok_iff.1 h
    rw [Option.bind_some, Text.nonBlank?_of_tidy bare.solid.tidy] at some_server
    cases some_server
    obtain ⟨-, url, hu, -⟩ := ApiBase.checkUrl_eq_ok_iff.1 checked
    exact absurd (Url.colon_of_parse hu) bare.unmarked.2.2

/-! ## Loaded settings -/

theorem texts_of_ofSetting? {setting : Setting} {settings : Settings}
    (h : ofSetting? setting = some settings) :
    setting.optional? "origin" Setting.text? = some settings.origin ∧
      setting.defaulted? "api_base" "/api" Setting.text? = some settings.apiBase ∧
      setting.optional? "session_cookie" Setting.text? = some settings.sessionCookie := by
  simp only [ofSetting?, Option.bind_eq_bind, Option.bind_eq_some_iff] at h
  obtain ⟨_, origin, _, apiBase, _, -, _, -, _, -, _, sessionCookie, _, -, made⟩ := h
  cases made
  exact ⟨origin, apiBase, sessionCookie⟩

/-- A text for the base of the requests arrives as what it spells, and so does one for the origin,
but where the origin counts it arrives as it was given. So does a credential. -/
theorem texts_arrive {files : List File} {environment : List Variable} {file : String}
    {settings : Settings} (loaded : load files environment file = .ok settings) (t : String) :
    (IsSet environment "GOOSED_ORIGIN" t → ∃ s, settings.origin = some s ∧ Arrives t s ∧
      (s = t ∨ ∀ origin, ApiBase.resolve origin settings.apiBase = settings.base)) ∧
    (IsSet environment "GOOSED_API_BASE" t → Arrives t settings.apiBase) ∧
    (IsSet environment "GOOSED_SESSION_COOKIE" t → settings.sessionCookie = some t) := by
  obtain ⟨rows, -, converted, checked⟩ := exists_of_load loaded
  obtain ⟨origin, apiBase, sessionCookie⟩ := texts_of_ofSetting? converted
  obtain ⟨s, scalar, arrives⟩ := arrives_guess t
  have acceptable := validate_eq_ok_iff.1 checked
  refine ⟨fun set => ?_, fun set => ?_, fun set => ?_⟩
  · have spelled : Text.lower "GOOSED_ORIGIN" = "goosed_" ++ "origin" := by decide +kernel
    have stands := stands_of_isSet set spelled ⟨by decide, by simp [isNameChar]⟩
      (by decide +kernel) scalar
    have found := (stands _).of_optional? scalar origin
    refine ⟨s, found, arrives, arrives.eq_or_bare.imp_right fun bare => ?_⟩
    obtain ⟨base, resolved⟩ := acceptable.base
    intro other
    rw [resolved]
    exact bare.resolve_eq (found ▸ resolved) other
  · have spelled : Text.lower "GOOSED_API_BASE" = "goosed_" ++ "api_base" := by decide +kernel
    have stands := stands_of_isSet set spelled ⟨by decide, by simp [isNameChar]⟩
      (by decide +kernel) scalar
    rw [(stands _).of_defaulted? scalar apiBase]
    exact arrives
  · have spelled : Text.lower "GOOSED_SESSION_COOKIE" = "goosed_" ++ "session_cookie" := by
      decide +kernel
    have stands := stands_of_isSet set spelled ⟨by decide, by simp [isNameChar]⟩
      (by decide +kernel) scalar
    have found := (stands _).of_optional? scalar sessionCookie
    rcases arrives.eq_or_bare with rfl | bare
    · exact found
    · exact absurd (acceptable.cookie s found) bare.check_ne_ok

/-- Texts for all three settings, of which one spells an integer. -/
def signed : List Variable :=
  [⟨"GOOSED_ORIGIN", "http://h"⟩, ⟨"goosed_api_base", "+12"⟩, ⟨"GOOSED_SESSION_COOKIE", "a=1"⟩]

theorem signed_arrives :
    load [] signed "goosed-console" =
      .ok { origin := some "http://h", apiBase := "12", sessionCookie := some "a=1" } ∧
    IsSet signed "GOOSED_API_BASE" "+12" ∧ Arrives "+12" "12" := by
  have loaded : load [] signed "goosed-console" =
      .ok { origin := some "http://h", apiBase := "12", sessionCookie := some "a=1" } := by
    decide +kernel
  have set : IsSet signed "GOOSED_API_BASE" "+12" :=
    ⟨[⟨"GOOSED_ORIGIN", "http://h"⟩], ⟨"goosed_api_base", "+12"⟩,
      [⟨"GOOSED_SESSION_COOKIE", "a=1"⟩], rfl, by decide +kernel, rfl, by decide +kernel⟩
  exact ⟨loaded, set, (texts_arrive loaded "+12").2.1 set⟩

/-- Whenever settings are loaded, this setting is the text that a variable of that name gives. -/
def Verbatim (name : String) (setting : Settings → Option String) : Prop :=
  ∀ files environment file settings, load files environment file = .ok settings →
    ∀ t, IsSet environment name t → setting settings = some t

/-- An origin that does not count and a path below one that does lose the zeros they begin with. -/
theorem zeros_lost : ¬ Verbatim "GOOSED_ORIGIN" (·.origin) ∧
    ¬ Verbatim "GOOSED_API_BASE" (some ·.apiBase) := by
  constructor
  · intro kept
    have loaded : load [] [⟨"GOOSED_ORIGIN", "007"⟩, ⟨"GOOSED_API_BASE", "http://h"⟩]
        "goosed-console" = .ok { origin := some "7", apiBase := "http://h" } := by decide +kernel
    have set : IsSet [⟨"GOOSED_ORIGIN", "007"⟩, ⟨"GOOSED_API_BASE", "http://h"⟩]
        "GOOSED_ORIGIN" "007" :=
      ⟨[], ⟨"GOOSED_ORIGIN", "007"⟩, [⟨"GOOSED_API_BASE", "http://h"⟩], rfl, rfl, rfl,
        by decide +kernel⟩
    exact absurd (kept _ _ _ _ loaded _ set) (by decide)
  · intro kept
    have loaded : load [] [⟨"GOOSED_ORIGIN", "http://h"⟩, ⟨"GOOSED_API_BASE", "007"⟩]
        "goosed-console" = .ok { origin := some "http://h", apiBase := "7" } := by decide +kernel
    have set : IsSet [⟨"GOOSED_ORIGIN", "http://h"⟩, ⟨"GOOSED_API_BASE", "007"⟩]
        "GOOSED_API_BASE" "007" :=
      ⟨[⟨"GOOSED_ORIGIN", "http://h"⟩], ⟨"GOOSED_API_BASE", "007"⟩, [], rfl, rfl, rfl, by simp⟩
    exact absurd (kept _ _ _ _ loaded _ set) (by decide)

end Fleet.Settings
