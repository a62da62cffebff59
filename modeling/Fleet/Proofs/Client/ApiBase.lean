/-
The base of a client. Whether it was given as a URL or as a path below an origin, its text passes
the check, although slashes were cut off its end after the check (`checkUrl_text`). So every base is
a URL (`exists_root`), and the URLs below it have one of the schemes requests can be made with
(`scheme_of_root`). If a request can be made to one path below it, one can be made to every path
(`exists_requestUrl`).
-/
import Fleet.Client.Basic
import Fleet.Proofs.Url.Shorter

namespace Fleet

namespace ApiBase

/-! ## Checked texts -/

theorem special_of_mem_schemes {scheme : String} (h : scheme ∈ schemes) :
    Url.isSpecial scheme = true ∧ scheme ≠ "file" := by
  simp only [schemes, List.mem_cons, List.not_mem_nil, or_false] at h
  rcases h with rfl | rfl <;> decide

/-- Of a URL with one of the schemes only the length is checked: it has a host. -/
theorem checkUrl_of_server {text : String} {url : Url} (h : Url.parse text = .ok url)
    (scheme : url.scheme ∈ schemes) :
    checkUrl text = if text.utf8ByteSize ≤ maxLength then .ok () else .error .tooLong := by
  obtain ⟨special, server⟩ := special_of_mem_schemes scheme
  obtain ⟨host, hh, some_host⟩ := Url.exists_host h special server
  have some_char : text.isEmpty = false := by
    rw [Bool.eq_false_iff, ne_eq, String.isEmpty_iff]
    rintro rfl
    cases h
  have hosted : hasHost url = true := by simp [hasHost, hh, some_host]
  unfold checkUrl
  rw [some_char, h]
  by_cases short : text.utf8ByteSize ≤ maxLength
  · simp [short, Nat.not_lt.2 short, scheme, hosted, Except.mapError, bind, Except.bind, pure,
      Except.pure]
  · simp [short, Nat.not_le.1 short, bind, Except.bind, throw, throwThe, MonadExceptOf.throw]

/-- A text passes the check exactly if it is a URL of bounded length with one of the schemes. -/
theorem checkUrl_eq_ok_iff {text : String} : checkUrl text = .ok () ↔
    text.utf8ByteSize ≤ maxLength ∧ ∃ url, Url.parse text = .ok url ∧ url.scheme ∈ schemes := by
  constructor
  · intro h
    have parsed : ∃ url, Url.parse text = .ok url ∧ url.scheme ∈ schemes := by
      simp only [checkUrl, bind, Except.bind, pure, Except.pure, throw, throwThe,
        MonadExceptOf.throw] at h
      repeat' split at h
      all_goals try cases h
      rename_i url hu scheme _
      exact ⟨url, ok_of_mapError hu, by simpa using scheme⟩
    obtain ⟨url, hu, scheme⟩ := parsed
    refine ⟨?_, url, hu, scheme⟩
    by_contra long
    rw [checkUrl_of_server hu scheme, if_neg long] at h
    cases h
  · rintro ⟨short, url, hu, scheme⟩
    rw [checkUrl_of_server hu scheme, if_pos short]

/-- A text that passes the check passes it without the slashes at its end. -/
theorem checkUrl_dropEndSlashes {text : String} (h : checkUrl text = .ok ()) :
    checkUrl (dropEndSlashes text) = .ok () := by
  obtain ⟨slashes, whole, all⟩ := Text.exists_dropEndWhile isSlash text.toList
  rw [← String.toList_ofList (l := Text.dropEndWhile isSlash text.toList),
    ← dropEndSlashes] at whole
  have parts : text = dropEndSlashes text ++ String.ofList slashes :=
    String.toList_injective (by simp [whole])
  obtain ⟨short, url, hu, scheme⟩ := checkUrl_eq_ok_iff.1 h
  obtain ⟨special, server⟩ := special_of_mem_schemes scheme
  have shorter : (dropEndSlashes text).utf8ByteSize ≤ text.utf8ByteSize :=
    Text.utf8ByteSize_le_of_infix ⟨[], slashes, by rw [List.nil_append, whole]⟩
  rw [parts] at hu
  obtain ⟨root, hr, same⟩ := Url.exists_without_slashes hu special server fun c hc =>
    beq_iff_eq.1 (all c (by rwa [String.toList_ofList] at hc))
  exact checkUrl_eq_ok_iff.2 ⟨shorter.trans short, root, hr, same ▸ scheme⟩

/-! ## Bases -/

/-- A path below an origin is accepted exactly if the origin and the whole pass the check. -/
theorem belowOrigin_eq_ok_iff {origin : Option String} {path : String} {base : ApiBase} :
    belowOrigin origin path = .ok base ↔ ∃ server, origin.bind Text.nonBlank? = some server ∧
      checkUrl server = .ok () ∧ checkUrl (join server path) = .ok () ∧
      base.text = join server path := by
  unfold belowOrigin
  constructor
  · intro h
    split at h
    · cases h
    · rename_i server given
      obtain ⟨_, first, h⟩ := bind_eq_ok_iff.1 h
      exact ⟨server, given, first, accept_eq_ok_iff.1 h⟩
  · rintro ⟨server, given, first, second⟩
    rw [given]
    exact bind_eq_ok_iff.2 ⟨(), first, accept_eq_ok_iff.2 second⟩

/-- A text that is a URL is taken as it is. -/
theorem resolve_of_read {given : String} {url : Url} (h : Url.parse (Text.trim given) = .ok url)
    (origin : Option String) : resolve origin given =
      accept (Text.trim given) (dropEndSlashes (Text.trim given)) rfl := by
  simp only [resolve, h]

/-- A text that is no URL is a path below the origin. -/
theorem resolve_of_unread {given : String} (unread : ∀ url, Url.parse (Text.trim given) ≠ .ok url)
    (origin : Option String) : resolve origin given = belowOrigin origin (Text.trim given) := by
  cases hp : Url.parse (Text.trim given) with
  | ok url => exact absurd hp (unread url)
  | error fault => simp only [resolve, hp]

/-- The text of a base passes the check, although slashes were cut off its end after it. -/
theorem checkUrl_text (base : ApiBase) : checkUrl base.text = .ok () := by
  obtain ⟨given, checked, kept⟩ := base.checked
  rw [← kept, checkUrl_dropEndSlashes checked]

/-- A base is a URL with a scheme that requests can be made with. -/
theorem exists_root (base : ApiBase) :
    ∃ root, Url.parse base.text = .ok root ∧ root.scheme ∈ schemes :=
  (checkUrl_eq_ok_iff.1 base.checkUrl_text).2

/-- The URLs below a base have one of the schemes requests can be made with. -/
theorem scheme_of_root {base : ApiBase} {root : Url}
    (hroot : Url.parse (base.text ++ "/") = .ok root) : root.scheme ∈ schemes := by
  obtain ⟨url, hu, scheme⟩ := base.exists_root
  rw [← String.append_empty (s := base.text ++ "/")] at hroot
  rw [Url.scheme_below hu hroot]
  exact scheme

/-! ## Requests -/

/-- A request can be made to a URL that can be read and sent to. -/
theorem requestUrl_eq_ok_iff {base : ApiBase} {path : String} {url : Url}
    (slash : path.toList.head? = some '/') :
    base.requestUrl path = .ok url ↔ Url.parse (base.text ++ path) = .ok url ∧ url.isSendable := by
  have endpoint : base.endpoint path = .ok (base.text ++ path) := if_pos (by simp [slash])
  unfold requestUrl
  rw [endpoint]
  cases hp : Url.parse (base.text ++ path) with
  | error fault => simp [Except.mapError, bind, Except.bind, hp]
  | ok parsed =>
    by_cases hs : parsed.isSendable
    · simp only [Except.mapError, bind, Except.bind, hp, hs, if_true, pure, Except.pure,
        Except.ok.injEq]
      constructor
      · rintro rfl
        exact ⟨rfl, hs⟩
      · exact And.left
    · simp only [Except.mapError, bind, Except.bind, hp, hs, throw, throwThe,
        MonadExceptOf.throw, Except.ok.injEq]
      constructor
      · rintro ⟨⟩
      · rintro ⟨rfl, sendable⟩
        exact absurd sendable hs

/-- Whether a request can be made is the same for all paths. -/
theorem exists_requestUrl {base : ApiBase} {path other : String} {url : Url}
    (slash : path.toList.head? = some '/') (also_slash : other.toList.head? = some '/')
    (h : base.requestUrl path = .ok url) : ∃ url, base.requestUrl other = .ok url := by
  obtain ⟨root, hr, scheme⟩ := base.exists_root
  obtain ⟨special, server⟩ := special_of_mem_schemes scheme
  have behind : ∀ path : String, path.toList.head? = some '/' → ∃ rest, path = "/" ++ rest := by
    intro path slash
    obtain ⟨rest, parts⟩ := List.head?_eq_some_iff.1 slash
    exact ⟨String.ofList rest, String.toList_injective (by simp [parts])⟩
  obtain ⟨s, rfl⟩ := behind path slash
  obtain ⟨t, rfl⟩ := behind other also_slash
  obtain ⟨parsed, sendable⟩ := (requestUrl_eq_ok_iff slash).1 h
  rw [← String.append_assoc] at parsed
  have same := Url.hostOf_below hr special server s t
  rw [parsed] at same
  cases hl : Url.parse (base.text ++ "/" ++ t) with
  | error fault =>
    rw [hl] at same
    cases same
  | ok url' =>
    rw [hl] at same
    have host : url.host = url'.host := Except.ok.inj same
    refine ⟨url', (requestUrl_eq_ok_iff also_slash).2 ⟨by rw [← String.append_assoc, hl], ?_⟩⟩
    rw [Url.isSendable, ← host]
    exact sendable

end ApiBase

end Fleet
