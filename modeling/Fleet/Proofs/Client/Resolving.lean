/-
What a base is resolved to. Every base is a normal form: a URL without a slash at its end, which
given again comes to itself but for the white space around it (`normalForm`). A text that
names a server wins over the origin if and only if it is a URL; else it is taken for a path below
the origin (`precedence_of_namesServer`).
-/
import Fleet.Proofs.Client.ApiBase

namespace Fleet.ApiBase

/-! ## Normal forms -/

/-- A URL of a server is taken as it is, whatever the origin, unless it is too long. -/
theorem resolve_of_server {given : String} {url : Url}
    (h : Url.parse (Text.trim given) = .ok url) (scheme : url.scheme ∈ schemes)
    (origin : Option String) : (resolve origin given).map ApiBase.text =
      if (Text.trim given).utf8ByteSize ≤ maxLength then .ok (dropEndSlashes (Text.trim given))
      else .error .tooLong := by
  rw [resolve_of_read h, map_accept, checkUrl_of_server h scheme]
  split <;> rfl

/-- The text of a base is one that a base can be given as, and comes to itself but for the white
space around it and the slashes that stood before that. -/
structure NormalForm (base : ApiBase) : Prop where
  nonempty : base.text ≠ ""
  unslashed : base.text.toList.getLast? ≠ some '/'
  checked : checkUrl base.text = .ok ()
  short : base.text.utf8ByteSize ≤ maxLength
  server : ∃ url host, Url.parse base.text = .ok url ∧ url.scheme ∈ schemes ∧
    url.host = some host ∧ host ≠ .empty
  again : ∀ origin, (resolve origin base.text).map ApiBase.text =
    .ok (dropEndSlashes (Text.trim base.text))
  same : Text.Tidy base.text → ∀ origin, resolve origin base.text = .ok base

/-- Whatever a base was resolved from, it is a normal form. -/
theorem normalForm (base : ApiBase) : base.NormalForm := by
  obtain ⟨given, -, cut⟩ := base.checked
  have unslashed : base.text.toList.getLast? ≠ some '/' := cut ▸ getLast?_dropEndSlashes given
  obtain ⟨short, root, hr, scheme⟩ := checkUrl_eq_ok_iff.1 base.checkUrl_text
  obtain ⟨special, server⟩ := special_of_mem_schemes scheme
  obtain ⟨host, hh, some_host⟩ := Url.exists_host hr special server
  refine ⟨?_, unslashed, base.checkUrl_text, short, ⟨root, host, hr, scheme, hh, some_host⟩, ?_, ?_⟩
  · intro none_left
    rw [none_left] at hr
    cases hr
  · intro origin
    obtain ⟨url, hu, same⟩ := Url.exists_trimmed hr special server
    have shorter := Text.utf8ByteSize_le_of_infix (Text.trim_infix base.text)
    rw [resolve_of_server hu (same ▸ scheme), if_pos (shorter.trans short)]
  · intro tidy origin
    have trimmed := Text.trim_of_tidy tidy
    rw [resolve_of_read (by rw [trimmed, hr]), trimmed]
    exact accept_eq_ok_iff.2 ⟨base.checkUrl_text, (dropEndSlashes_eq_self unslashed).symm⟩

/-- A base that ends with white space, which stood before the slashes. -/
def spaced : ApiBase where
  text := "http://h/\u00a0"
  checked := ⟨"http://h/\u00a0//", by decide +kernel, by decide +kernel⟩

theorem spaced_normalForm :
    resolve (some "http://origin") " http://h/\u00a0// " = .ok spaced ∧ spaced.NormalForm ∧
      (resolve none spaced.text).map ApiBase.text = .ok "http://h" := by
  have made : resolve (some "http://origin") " http://h/\u00a0// " = .ok spaced := by
    decide +kernel
  have rest : dropEndSlashes (Text.trim spaced.text) = "http://h" := by decide +kernel
  exact ⟨made, normalForm spaced, rest ▸ (normalForm spaced).again none⟩

/-! ## Texts that name a server -/

/-- Without the white space around it the text begins with one of the schemes and two slashes. -/
def NamesServer (given : String) : Prop :=
  ∃ scheme ∈ schemes, (scheme ++ "://").toList <+: (Text.trim given).toList

/-- A text that names a server has its scheme, if it is a URL. -/
theorem scheme_of_namesServer {given : String} {url : Url} (named : NamesServer given)
    (h : Url.parse (Text.trim given) = .ok url) : url.scheme ∈ schemes := by
  obtain ⟨scheme, mem, back, parts⟩ := named
  -- what stands before the slashes is read as it is written
  have plain : Url.splitScheme? (scheme ++ "://").toList = some (scheme, "//".toList) ∧
      (∃ c, (scheme ++ "://").toList.head? = some c ∧ Url.isEdge c = false) ∧
      (scheme ++ "://").toList.all (fun c => !Url.isEdge c && !Url.isBreak c) = true := by
    simp only [schemes, List.mem_cons, List.not_mem_nil, or_false] at mem
    rcases mem with rfl | rfl
    · exact ⟨by decide, ⟨'h', by decide, by decide⟩, by decide⟩
    · exact ⟨by decide, ⟨'h', by decide, by decide⟩, by decide⟩
  obtain ⟨split, first, kept⟩ := plain
  simp only [List.all_eq_true, Bool.and_eq_true, Bool.not_eq_true'] at kept
  obtain ⟨more, cleaned⟩ := Url.exists_clean_append parts.symm first
    (fun c hc => (kept c (List.mem_of_getLast? hc)).1) fun c hc => (kept c hc).2
  obtain ⟨rest, hs⟩ := Url.splitScheme?_of_parse h
  rw [cleaned, Url.splitScheme?_append split] at hs
  rw [← (Prod.mk.inj (Option.some.inj hs)).1]
  exact mem

/-- It is not made of slashes alone. -/
theorem trimBy_ne_nil_of_namesServer {given : String} (named : NamesServer given) :
    Text.trimBy isSlash (Text.trim given).toList ≠ [] := by
  obtain ⟨scheme, -, begins⟩ := named
  obtain ⟨front, back, whole, hf, hb⟩ := Text.exists_trimBy isSlash (Text.trim given).toList
  have colon : ':' ∈ (Text.trim given).toList := begins.subset (by simp)
  intro none_left
  rw [whole, none_left, List.append_nil, List.mem_append] at colon
  rcases colon with hm | hm
  · cases hf _ hm
  · cases hb _ hm

/-! ## Origins -/

/-- The check does not ask for an origin. -/
theorem checkUrl_ne_originRequired (text : String) : checkUrl text ≠ .error .originRequired := by
  intro h
  simp only [checkUrl, bind, Except.bind, pure, Except.pure, throw, throwThe,
    MonadExceptOf.throw] at h
  repeat' split at h
  all_goals cases h
  rename_i failed
  cases hp : Url.parse text <;> rw [hp] at failed <;> cases failed

/-- An origin is asked for exactly if there is none that is not blank. -/
theorem belowOrigin_eq_originRequired_iff {origin : Option String} {path : String} :
    belowOrigin origin path = .error .originRequired ↔ origin.bind Text.nonBlank? = none := by
  unfold belowOrigin
  constructor
  · intro h
    split at h
    · assumption
    · rcases bind_eq_error_iff.1 h with h | ⟨_, -, h⟩
      · exact absurd h (checkUrl_ne_originRequired _)
      · exact absurd (checkUrl_of_accept_error h) (checkUrl_ne_originRequired _)
  · intro none_given
    rw [none_given]

/-- An origin is a base of its own exactly if it passes the check. -/
theorem resolve_empty_eq_ok_iff {origin : Option String} {root : ApiBase} :
    resolve origin "" = .ok root ↔ ∃ server, origin.bind Text.nonBlank? = some server ∧
      checkUrl server = .ok () ∧ root.text = dropEndSlashes server := by
  have empty : resolve origin "" = belowOrigin origin "" := rfl
  have joined : ∀ server, join server "" = dropEndSlashes server := fun server =>
    join_of_slashes server rfl
  rw [empty, belowOrigin_eq_ok_iff]
  simp only [joined]
  constructor
  · rintro ⟨server, given, first, -, made⟩
    exact ⟨server, given, first, made⟩
  · rintro ⟨server, given, first, made⟩
    exact ⟨server, given, first, checkUrl_dropEndSlashes first, made⟩

/-- A path below an origin is accepted exactly if the origin is a base of its own, can have a path
and leaves room for this one. -/
theorem belowOrigin_eq_ok_iff_below {origin : Option String} {path : String} {base : ApiBase}
    (some_left : Text.trimBy isSlash path.toList ≠ []) :
    belowOrigin origin path = .ok base ↔ ∃ root, resolve origin "" = .ok root ∧
      (∃ url, Url.parse (root.text ++ "/") = .ok url) ∧
      (below root.text path).utf8ByteSize ≤ maxLength ∧ base.text = below root.text path := by
  have below_iff : ∀ server, checkUrl server = .ok () →
      (checkUrl (join server path) = .ok () ↔
        (∃ url, Url.parse (dropEndSlashes server ++ "/") = .ok url) ∧
        (below (dropEndSlashes server) path).utf8ByteSize ≤ maxLength) := by
    intro server checked
    obtain ⟨-, root, hr, scheme⟩ := checkUrl_eq_ok_iff.1 (checkUrl_dropEndSlashes checked)
    obtain ⟨special, served⟩ := special_of_mem_schemes scheme
    have read := Url.exists_below_iff hr special served
      (String.ofList (Text.trimBy isSlash path.toList)) ""
    rw [String.append_empty] at read
    rw [checkUrl_eq_ok_iff, join_of_path server some_left, ← read]
    constructor
    · rintro ⟨short, url, hu, -⟩
      exact ⟨⟨url, hu⟩, short⟩
    · rintro ⟨⟨url, hu⟩, short⟩
      exact ⟨short, url, hu, Url.scheme_below hr hu ▸ scheme⟩
  rw [belowOrigin_eq_ok_iff]
  constructor
  · rintro ⟨server, given, first, second, made⟩
    obtain ⟨read, short⟩ := (below_iff server first).1 second
    rw [join_of_path server some_left] at made
    exact ⟨⟨dropEndSlashes server, server, first, rfl⟩,
      resolve_empty_eq_ok_iff.2 ⟨server, given, first, rfl⟩, read, short, made⟩
  · rintro ⟨root, own, read, short, made⟩
    obtain ⟨server, given, first, kept⟩ := resolve_empty_eq_ok_iff.1 own
    rw [kept] at read short made
    rw [← join_of_path server some_left] at made
    exact ⟨server, given, first, (below_iff server first).2 ⟨read, short⟩, made⟩

/-! ## Which of the two wins -/

/-- What a text that names a server comes to. -/
structure Precedence (given : String) : Prop where
  /-- A URL is taken as it is. -/
  own : ∀ url, Url.parse (Text.trim given) = .ok url →
    ∀ origin, (resolve origin given).map ApiBase.text =
      if (Text.trim given).utf8ByteSize ≤ maxLength then .ok (dropEndSlashes (Text.trim given))
      else .error .tooLong
  /-- What is no URL is taken for a path. -/
  path : (∀ url, Url.parse (Text.trim given) ≠ .ok url) → ∀ origin base,
    resolve origin given = .ok base ↔ ∃ root, resolve origin "" = .ok root ∧
      (∃ url, Url.parse (root.text ++ "/") = .ok url) ∧
      (below root.text (Text.trim given)).utf8ByteSize ≤ maxLength ∧
      base.text = below root.text (Text.trim given)
  /-- The origin does not matter exactly if the text is a URL. -/
  alike : (∀ origin other, resolve origin given = resolve other given) ↔
    ∃ url, Url.parse (Text.trim given) = .ok url

/-- A text that names a server wins over the origin exactly if it is a URL. -/
theorem precedence_of_namesServer {given : String} (named : NamesServer given) :
    Precedence given := by
  have own := fun url h => @resolve_of_server given url h (scheme_of_namesServer named h)
  refine ⟨own, fun unread origin base => ?_, ?_⟩
  · rw [resolve_of_unread unread]
    exact belowOrigin_eq_ok_iff_below (trimBy_ne_nil_of_namesServer named)
  · constructor
    · intro same
      by_contra unread
      have unread := not_exists.1 unread
      -- without an origin one is asked for, and with one it is not
      have lacking := same none (some "http://h")
      rw [resolve_of_unread unread, resolve_of_unread unread,
        belowOrigin_eq_originRequired_iff.2 rfl] at lacking
      have asked := belowOrigin_eq_originRequired_iff.1 lacking.symm
      exact absurd asked (by decide)
    · rintro ⟨url, h⟩ origin other
      rw [resolve_of_read h, resolve_of_read h]

/-- The port decides whether these texts are URLs. -/
theorem port_precedence :
    NamesServer " https://h:7000/" ∧
      (∀ origin, (resolve origin " https://h:7000/").map ApiBase.text = .ok "https://h:7000") ∧
      NamesServer "https://h:70000" ∧
      ¬ ∀ origin other, resolve origin "https://h:70000" = resolve other "https://h:70000" := by
  have low : NamesServer " https://h:7000/" := ⟨"https", by decide, by decide⟩
  have high : NamesServer "https://h:70000" := ⟨"https", by decide, by decide⟩
  have read : Url.parse (Text.trim " https://h:7000/") = .ok
      ⟨"https", some (.domain "h"), some 7000, .segments [""], none, none⟩ := by decide +kernel
  have refused : Url.parse (Text.trim "https://h:70000") = .error .port := by decide +kernel
  refine ⟨low, fun origin => ?_, high, fun same => ?_⟩
  · rw [(precedence_of_namesServer low).own _ read origin]
    decide +kernel
  · obtain ⟨url, hu⟩ := (precedence_of_namesServer high).alike.1 same
    rw [refused] at hu
    cases hu

/-- A text that names a server but is no URL does not win over the origin. -/
theorem malformed_below_origin : ¬ ∀ (given : String) (origin other : Option String),
    NamesServer given → resolve origin given = resolve other given := by
  intro h
  have same := h "https://h:70000" none (some "http://origin") ⟨"https", by decide, by decide⟩
  have lacking : resolve none "https://h:70000" = .error .originRequired := by decide +kernel
  have made : (resolve (some "http://origin") "https://h:70000").map ApiBase.text =
      .ok "http://origin/https://h:70000" := by decide +kernel
  rw [← same, lacking] at made
  cases made

end Fleet.ApiBase
