/-
Schemes of longer texts. A scheme is settled by its colon: a text that has one has it whatever is
written behind (`splitScheme?_append`), and what holds no colon has no part in it
(`splitScheme?_of_append`). What is read of a text is what is read of it when it goes on, but for
what its end hides (`cleanStart_spec`).
-/
import Fleet.Proofs.Text.Tidy
import Fleet.Proofs.Url.Below

namespace Fleet.Url

/-! ## Schemes -/

/-- A scheme is a letter and what follows it up to a colon. -/
theorem splitScheme?_eq_some_iff {cs : List Char} {scheme : String} {rest : List Char} :
    splitScheme? cs = some (scheme, rest) ↔
      ∃ c name, cs = c :: name ++ ':' :: rest ∧ (∀ d ∈ c :: name, isSchemeChar d = true) ∧
        c.isAlpha = true ∧ String.ofList ((c :: name).map Char.toLower) = scheme := by
  constructor
  · intro h
    unfold splitScheme? at h
    split at h
    · rename_i c name rest' ht hd
      split at h
      · rename_i alpha
        cases h
        refine ⟨c, name, ?_, ?_, alpha, rfl⟩
        · rw [← ht, ← hd, List.takeWhile_append_dropWhile]
        · intro d hm
          rw [← ht] at hm
          exact List.mem_takeWhile_imp hm
      · cases h
    · cases h
  · rintro ⟨c, name, rfl, all, alpha, rfl⟩
    have colon : isSchemeChar ':' = false := by decide
    unfold splitScheme?
    rw [takeWhile_append_cons colon, dropWhile_append_cons colon, List.takeWhile_eq_self_iff.2 all,
      List.dropWhile_eq_nil_iff.2 all]
    exact if_pos alpha

/-- A text with a scheme has it whatever is written behind it. -/
theorem splitScheme?_append {front : List Char} {scheme : String} {rest : List Char}
    (h : splitScheme? front = some (scheme, rest)) (back : List Char) :
    splitScheme? (front ++ back) = some (scheme, rest ++ back) := by
  obtain ⟨c, name, rfl, spelled⟩ := splitScheme?_eq_some_iff.1 h
  exact splitScheme?_eq_some_iff.2 ⟨c, name, by simp, spelled⟩

/-- A text without a colon behind it has no part in the scheme. -/
theorem splitScheme?_of_append {front back : List Char} {scheme : String} {rest : List Char}
    (colon : ':' ∉ back) (h : splitScheme? (front ++ back) = some (scheme, rest)) :
    ∃ less, splitScheme? front = some (scheme, less) := by
  obtain ⟨c, name, parts, spelled⟩ := splitScheme?_eq_some_iff.1 h
  rcases List.append_eq_append_iff.1 parts with ⟨more, -, hb⟩ | ⟨more, hf, hb⟩
  · exact absurd (by rw [hb]; simp) colon
  · cases more with
    | nil => exact absurd (by rw [← List.nil_append back, ← hb]; exact List.mem_cons_self) colon
    | cons d less =>
      obtain ⟨rfl, -⟩ := List.cons.inj hb
      exact ⟨less, splitScheme?_eq_some_iff.2 ⟨c, name, hf, spelled⟩⟩

/-! ## Cleaning -/

theorem isEdge_of_isBreak {c : Char} (h : isBreak c = true) : isEdge c = true := by
  simp only [isBreak, Bool.or_eq_true, beq_iff_eq] at h
  rcases h with (rfl | rfl) | rfl <;> rfl

theorem kept_of_not_isEdge {c : Char} (h : isEdge c = false) : (!isBreak c) = true := by
  rw [Bool.not_eq_true', Bool.eq_false_iff]
  intro broken
  rw [isEdge_of_isBreak broken] at h
  cases h

/-- What is read of a text is what is read of it when it goes on, but for blanks and control
characters that its end hides. -/
theorem cleanStart_spec (text : String) : ∃ hidden, cleanStart text = clean text ++ hidden ∧
    (∀ c ∈ hidden, isEdge c = true) ∧ ∀ c, (clean text).getLast? = some c → isEdge c = false := by
  obtain ⟨back, whole, hb⟩ := Text.exists_dropEndWhile isEdge (text.toList.dropWhile isEdge)
  refine ⟨back.filter (!isBreak ·), ?_, fun c hc => hb c (List.mem_of_mem_filter hc), ?_⟩
  · rw [clean, Text.trimBy, ← List.filter_append, whole]
    rfl
  · intro c hc
    rw [clean, Text.trimBy] at hc
    rcases List.eq_nil_or_concat (Text.dropEndWhile isEdge (text.toList.dropWhile isEdge)) with
      none_left | ⟨init, d, parts⟩
    · rw [none_left] at hc
      cases hc
    · have ends : (Text.dropEndWhile isEdge (text.toList.dropWhile isEdge)).getLast? = some d := by
        rw [parts, List.concat_eq_append, List.getLast?_concat]
      have plain := Text.getLast?_dropEndWhile ends
      -- so it is no line break, and stays the last
      rw [parts, List.concat_eq_append, List.filter_append, List.filter_singleton,
        kept_of_not_isEdge plain, cond_true, List.getLast?_concat] at hc
      rw [← Option.some.inj hc, plain]

/-! ## Reading -/

theorem splitScheme?_of_parse {text : String} {url : Url} (h : parse text = .ok url) :
    ∃ rest, splitScheme? (clean text) = some (url.scheme, rest) := by
  unfold parse at h
  split at h
  · rename_i scheme rest hs
    exact ⟨rest, by rw [hs, scheme_of_readAfterScheme h]⟩
  · cases h

/-- There is no URL without a colon. -/
theorem colon_of_parse {text : String} {url : Url} (h : parse text = .ok url) :
    ':' ∈ text.toList := by
  obtain ⟨rest, hs⟩ := splitScheme?_of_parse h
  obtain ⟨c, name, parts, -⟩ := splitScheme?_eq_some_iff.1 hs
  obtain ⟨front, back, whole, -⟩ := Text.exists_trimBy isEdge text.toList
  have kept : ':' ∈ clean text := by
    rw [parts]
    simp
  rw [whole, List.mem_append, List.mem_append]
  exact .inl (.inr (List.mem_of_mem_filter kept))

theorem parse_of_splitScheme? {text scheme : String} {rest : List Char}
    (special : isSpecial scheme = true) (server : scheme ≠ "file")
    (h : splitScheme? (clean text) = some (scheme, rest)) :
    parse text = readAuthority scheme (rest.dropWhile (isSlash true)) := by
  rw [parse, h]
  exact readAfterScheme_of_special special server rest

/-- A URL of a server has something behind the slashes that follow its scheme. -/
theorem exists_server {text : String} {url : Url} (h : parse text = .ok url)
    (special : isSpecial url.scheme = true) (server : url.scheme ≠ "file") :
    ∃ rest, splitScheme? (clean text) = some (url.scheme, rest) ∧
      readAuthority url.scheme (rest.dropWhile (isSlash true)) = .ok url ∧
      rest.dropWhile (isSlash true) ≠ [] := by
  obtain ⟨rest, hs⟩ := splitScheme?_of_parse h
  rw [parse_of_splitScheme? special server hs] at h
  refine ⟨rest, hs, h, fun none_left => ?_⟩
  rw [none_left, readAuthority_nil special] at h
  cases h

/-- What is written behind a URL of a server and a slash matters neither to whether a URL can be
read nor to its host. -/
theorem hostOf_below {base : String} {root : Url} (h : parse base = .ok root)
    (special : isSpecial root.scheme = true) (server : root.scheme ≠ "file") (s t : String) :
    hostOf (parse (base ++ "/" ++ s)) = hostOf (parse (base ++ "/" ++ t)) := by
  obtain ⟨rest, hs, -, some_char⟩ := exists_server h special server
  obtain ⟨hidden, whole, -⟩ := cleanStart_spec base
  have read : ∀ back, parse (base ++ "/" ++ back) = readAuthority root.scheme
      (rest.dropWhile (isSlash true) ++ hidden ++ '/' :: cleanEnd back) := by
    intro back
    have named : splitScheme? (clean (base ++ "/" ++ back)) =
        some (root.scheme, rest ++ hidden ++ '/' :: cleanEnd back) := by
      rw [clean_below, whole, List.append_assoc, splitScheme?_append hs, List.append_assoc]
    rw [parse_of_splitScheme? special server named, List.append_assoc, List.dropWhile_append,
      if_neg (by simpa using some_char), List.append_assoc]
  rw [read, read, hostOf_readAuthority, hostOf_readAuthority]

/-- What is written behind a slash does not decide whether a URL of a server can be read. -/
theorem exists_below_iff {base : String} {root : Url} (h : parse base = .ok root)
    (special : isSpecial root.scheme = true) (server : root.scheme ≠ "file") (s t : String) :
    (∃ url, parse (base ++ "/" ++ s) = .ok url) ↔ ∃ url, parse (base ++ "/" ++ t) = .ok url := by
  have same := hostOf_below h special server s t
  cases hs : parse (base ++ "/" ++ s) <;> cases ht : parse (base ++ "/" ++ t) <;>
    simp_all [hostOf, Except.map]

/-- What is written behind a slash does not change the scheme. -/
theorem scheme_below {base s : String} {root url : Url} (h : parse base = .ok root)
    (longer : parse (base ++ "/" ++ s) = .ok url) : url.scheme = root.scheme := by
  obtain ⟨rest, hs⟩ := splitScheme?_of_parse h
  obtain ⟨hidden, whole, -⟩ := cleanStart_spec base
  obtain ⟨more, hr⟩ := splitScheme?_of_parse longer
  rw [clean_below, whole, List.append_assoc, splitScheme?_append hs] at hr
  exact (Prod.mk.inj (Option.some.inj hr)).1.symm

/-- What a text begins with is read, if it neither begins nor ends with what is removed. -/
theorem exists_clean_append {text : String} {start back : List Char}
    (parts : text.toList = start ++ back) (first : ∃ c, start.head? = some c ∧ isEdge c = false)
    (last : ∀ c, start.getLast? = some c → isEdge c = false)
    (unbroken : ∀ c ∈ start, isBreak c = false) : ∃ more, clean text = start ++ more := by
  obtain ⟨c, hc, edge⟩ := first
  have whole : ∀ d, (start ++ back).head? = some d → isEdge d = false := by
    intro d hd
    rw [List.head?_append, hc, Option.some_or] at hd
    rw [← Option.some.inj hd, edge]
  refine ⟨(Text.dropEndWhile isEdge back).filter (!isBreak ·), ?_⟩
  rw [clean, parts, Text.trimBy, Text.dropWhile_eq_self whole,
    Text.dropEndWhile_append_of_getLast? last, List.filter_append, List.filter_eq_self.2]
  exact fun d hd => by rw [unbroken d hd]; rfl

end Fleet.Url
