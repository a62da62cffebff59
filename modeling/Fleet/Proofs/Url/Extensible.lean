/-
Texts that go on. A request path behind the text of a URL is read as the rest of its path exactly if
the text is extensible: it has no query and no fragment, and its end neither hides anything nor is a
slash (`continues_iff_extensible`).
-/
import Fleet.Proofs.Url.Continuation

namespace Fleet.Url

/-! ## Texts that go on -/

/-- A path behind the text of a URL is read as the rest of its path: the text has no query and no
fragment, and does not end with a slash of any kind, a blank or a control character, line breaks and
tabs apart, which are not read. -/
structure Extensible (text : String) : Prop where
  query : '?' ∉ text.toList
  fragment : '#' ∉ text.toList
  last : ∀ c, (text.toList.filter (!isBreak ·)).getLast? = some c →
    isEdge c = false ∧ isSlash true c = false

section Reading

variable {text scheme : String} {rest : List Char}
  (h : splitScheme? (clean text) = some (scheme, rest))
include h

/-- With a request path behind it, a text is read with what its end hides. -/
theorem exists_hidden (special : isSpecial scheme = true) (server : scheme ≠ "file") :
    ∃ hidden, (∀ c ∈ hidden, isEdge c = true) ∧ cleanStart text = clean text ++ hidden ∧
      ∀ path : String, RequestPath path.toList → parse (text ++ path) =
        readAuthority scheme ((rest ++ hidden ++ path.toList).dropWhile (isSlash true)) := by
  obtain ⟨hidden, whole, edges, -⟩ := cleanStart_spec text
  refine ⟨hidden, edges, whole, fun path request => ?_⟩
  refine parse_of_splitScheme? special server ?_
  rw [clean_append_path request, whole, List.append_assoc, splitScheme?_append h, List.append_assoc]

/-- A character that is neither removed nor part of a scheme or of the slashes behind it is read
behind them. -/
theorem mem_dropWhile_iff {d : Char} (edge : isEdge d = false) (name : isSchemeChar d = false)
    (colon : d ≠ ':') (slash : isSlash true d = false) :
    d ∈ rest.dropWhile (isSlash true) ↔ d ∈ text.toList := by
  obtain ⟨before, behind, parts, hb, hb'⟩ := Text.exists_trimBy isEdge text.toList
  obtain ⟨c, spelled, cleaned, all, -⟩ := splitScheme?_eq_some_iff.1 h
  have outside : ∀ {p : Char → Bool} {cs : List Char}, p d = false →
      (∀ x ∈ cs, p x = true) → d ∉ cs := by
    intro p cs hd all hm
    rw [all d hm] at hd
    cases hd
  -- it is kept by the cleaning, then behind the scheme, then behind the slashes
  have in_text : d ∈ text.toList ↔ d ∈ clean text := by
    rw [clean, List.mem_filter, and_iff_left (kept_of_not_isEdge edge)]
    conv_lhs => rw [parts, List.mem_append, List.mem_append]
    rw [or_iff_left (outside edge hb'), or_iff_right (outside edge hb)]
  have in_rest : d ∈ clean text ↔ d ∈ rest := by
    rw [cleaned, List.mem_append, or_iff_right (outside name all), List.mem_cons,
      or_iff_right colon]
  have in_front : d ∈ rest ↔ d ∈ rest.dropWhile (isSlash true) := by
    conv_lhs => rw [← List.takeWhile_append_dropWhile (p := isSlash true) (l := rest),
      List.mem_append, or_iff_right (outside slash fun x => List.mem_takeWhile_imp)]
  rw [in_text, in_rest, in_front]

/-- What is asked of a text is asked of what is read behind its scheme and of what its end hides. -/
theorem extensible_iff {hidden : List Char} (some_char : rest.dropWhile (isSlash true) ≠ [])
    (edges : ∀ c ∈ hidden, isEdge c = true) (whole : cleanStart text = clean text ++ hidden)
    (last : ∀ c, (clean text).getLast? = some c → isEdge c = false) :
    Extensible text ↔ '?' ∉ rest.dropWhile (isSlash true) ∧
      '#' ∉ rest.dropWhile (isSlash true) ∧ hidden = [] ∧
      ∀ d, (rest.dropWhile (isSlash true)).getLast? = some d → isSlash true d = false := by
  have question := mem_dropWhile_iff h (d := '?') rfl rfl (by decide) rfl
  have hash := mem_dropWhile_iff h (d := '#') rfl rfl (by decide) rfl
  obtain ⟨c, spelled, cleaned, -⟩ := splitScheme?_eq_some_iff.1 h
  have ends : (clean text).getLast? = (rest.dropWhile (isSlash true)).getLast? := by
    rw [cleaned]
    conv_lhs => rw [← List.takeWhile_append_dropWhile (p := isSlash true) (l := rest)]
    rw [← List.cons_append, ← List.append_assoc, List.getLast?_append_of_ne_nil _ some_char]
  have read : (text.toList.filter (!isBreak ·)).getLast? = (clean text ++ hidden).getLast? := by
    rw [← whole, cleanStart]
    conv_lhs => rw [← List.takeWhile_append_dropWhile (p := isEdge) (l := text.toList),
      List.filter_append]
    refine List.getLast?_append_of_ne_nil _ ?_
    show cleanStart text ≠ []
    simp [whole, cleaned]
  constructor
  · intro extensible
    have none_hidden : hidden = [] := by
      refine Text.eq_nil_of_getLast? edges fun d hd => (extensible.last d ?_).1
      rw [read, List.getLast?_append, hd, Option.some_or]
    refine ⟨question.not.2 extensible.query, hash.not.2 extensible.fragment, none_hidden, ?_⟩
    intro d hd
    refine (extensible.last d ?_).2
    rw [read, none_hidden, List.append_nil, ends, hd]
  · rintro ⟨no_query, no_fragment, rfl, unslashed⟩
    refine ⟨question.not.1 no_query, hash.not.1 no_fragment, fun d hd => ?_⟩
    rw [read, List.append_nil] at hd
    exact ⟨last d hd, unslashed d (ends ▸ hd)⟩

end Reading

/-- A text goes on with a request path exactly if it is extensible. -/
theorem continues_iff_extensible {text path : String} {root : Url} (h : parse text = .ok root)
    (special : isSpecial root.scheme = true) (server : root.scheme ≠ "file")
    (request : RequestPath path.toList) :
    (∃ url, parse (text ++ path) = .ok url ∧ Continues root url path.toList) ↔
      Extensible text := by
  obtain ⟨rest, hs, short, some_char⟩ := exists_server h special server
  obtain ⟨hidden, edges, whole, read⟩ := exists_hidden hs special server
  obtain ⟨_, _, _, last⟩ := cleanStart_spec text
  rw [extensible_iff hs some_char edges whole last, read path request, List.append_assoc,
    List.dropWhile_append, if_neg (by simpa using some_char), ← List.append_assoc]
  exact readAuthority_continues_iff request edges special short

end Fleet.Url
