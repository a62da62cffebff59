/-
URLs of shorter texts. A text is a URL of a server if it is one with white space, control characters
and then slashes behind it: no server ends with these (`exists_of_longer`). So a URL of a server
stays one without the slashes at its end (`exists_without_slashes`), and without the white space
around it (`exists_trimmed`), although white space of any script is cut off there, while reading
itself cuts off no more than blanks and control characters.
-/
import Fleet.Proofs.Url.Continuation

namespace Fleet.Url

/-! ## Shorter texts -/

/-- A text is a URL of a server if it is read as one with white space, control characters and then
slashes behind it. -/
theorem exists_of_longer {text longer : String} {url : Url} {hidden slashes : List Char}
    (h : parse longer = .ok url) (special : isSpecial url.scheme = true)
    (server : url.scheme ≠ "file") (parts : clean longer = clean text ++ (hidden ++ slashes))
    (outer : ∀ c ∈ hidden, isOuter c = true) (all : ∀ c ∈ slashes, c = '/') :
    ∃ root, parse text = .ok root ∧ root.scheme = url.scheme := by
  obtain ⟨rest, hs, read, some_char⟩ := exists_server h special server
  have colon : ':' ∉ hidden ++ slashes := by
    rw [List.mem_append, not_or]
    exact ⟨fun hm => (by cases outer _ hm), fun hm => (by cases all _ hm)⟩
  rw [parts] at hs
  obtain ⟨less, hl⟩ := splitScheme?_of_append colon hs
  obtain rfl : rest = less ++ (hidden ++ slashes) :=
    (Prod.mk.inj (Option.some.inj (hs.symm.trans (splitScheme?_append hl _)))).2
  have dropped : (less ++ (hidden ++ slashes)).dropWhile (isSlash true) =
      less.dropWhile (isSlash true) ++ (hidden ++ slashes) := by
    cases hidden with
    | nil =>
      -- nothing but slashes would leave no host
      rw [List.dropWhile_append] at some_char ⊢
      split at some_char
      · refine absurd (List.dropWhile_eq_nil_iff.2 fun c hc => ?_) some_char
        rw [all c hc]
        rfl
      · rename_i some_left
        rw [if_neg some_left]
    | cons c hidden =>
      refine Text.dropWhile_append_of_head? fun d hd => ?_
      exact isSlash_of_isOuter (outer d (by rw [← Option.some.inj hd]; exact List.mem_cons_self))
  rw [dropped, ← List.append_assoc] at read
  have starts : ∀ c, slashes.head? = some c → isAuthorityEnd true c = true := by
    intro c hc
    rw [all c (List.mem_of_head? hc)]
    rfl
  obtain ⟨root, hr⟩ := readAuthority_of_longer starts outer special read
  exact ⟨root, (parse_of_splitScheme? special server hl).trans hr, scheme_of_readAuthority hr⟩

/-- What is read of a text with slashes behind it. -/
theorem clean_append_slashes (text : String) {slashes : String}
    (all : ∀ c ∈ slashes.toList, c = '/') : ∃ hidden, (∀ c ∈ hidden, isOuter c = true) ∧
      clean (text ++ slashes) = clean text ++ (hidden ++ slashes.toList) := by
  by_cases none_left : slashes = ""
  · refine ⟨[], by simp, ?_⟩
    simp [none_left]
  · have request : RequestPath slashes.toList := by
      obtain ⟨c, more, parts⟩ :=
        List.exists_cons_of_ne_nil (mt String.toList_eq_nil_iff.1 none_left)
      refine ⟨?_, fun d hd => .inl (all d hd)⟩
      rw [parts, List.head?_cons, all c (by rw [parts]; exact List.mem_cons_self)]
    obtain ⟨hidden, whole, edges, -⟩ := cleanStart_spec text
    refine ⟨hidden, fun d hd => isOuter_of_isEdge (edges d hd), ?_⟩
    rw [clean_append_path request, whole, List.append_assoc]

/-- A URL of a server stays one, of the same scheme, without slashes at its end. -/
theorem exists_without_slashes {text slashes : String} {url : Url}
    (h : parse (text ++ slashes) = .ok url) (special : isSpecial url.scheme = true)
    (server : url.scheme ≠ "file") (all : ∀ c ∈ slashes.toList, c = '/') :
    ∃ root, parse text = .ok root ∧ root.scheme = url.scheme := by
  obtain ⟨hidden, outer, parts⟩ := clean_append_slashes text all
  exact exists_of_longer h special server parts outer all

/-! ## White space at the start -/

theorem head?_cleanStart (text : String) :
    (cleanStart text).head? = (text.toList.dropWhile isEdge).head? := by
  unfold cleanStart
  cases hd : text.toList.dropWhile isEdge with
  | nil => rfl
  | cons c rest =>
    have plain : isEdge c = false := Text.head?_dropWhile (by rw [hd, List.head?_cons])
    rw [List.filter_cons, if_pos (kept_of_not_isEdge plain), List.head?_cons, List.head?_cons]

section Start

variable {c : Char} (solid : Text.isBlank c = false)
include solid

/-- Before a text that is read from something else than white space, white space is not read. -/
theorem dropWhile_isEdge_of_isBlank {front more : List Char}
    (blank : ∀ d ∈ front, Text.isBlank d = true)
    (first : ((front ++ more).dropWhile isEdge).head? = some c) :
    (front ++ more).dropWhile isEdge = more.dropWhile isEdge := by
  rw [List.dropWhile_append] at first ⊢
  split at first
  · rename_i none_left
    rw [if_pos none_left]
  · rename_i some_left
    rw [List.isEmpty_iff] at some_left
    have among : c ∈ front := by
      rw [List.head?_append_of_ne_nil _ some_left] at first
      exact (List.dropWhile_sublist isEdge).subset (List.mem_of_head? first)
    rw [blank c among] at solid
    cases solid

/-- What is read of a text without the white space around it is what is read of the text, but for
some white space at the end. -/
theorem exists_cleanStart_trim {text : String} (first : (cleanStart text).head? = some c) :
    ∃ back, (∀ d ∈ back, Text.isBlank d = true) ∧
      cleanStart text = cleanStart (Text.trim text) ++ back := by
  obtain ⟨front, back, whole, hf, hb⟩ := Text.exists_trimBy Text.isBlank text.toList
  generalize hcore : Text.trimBy Text.isBlank text.toList = core at whole
  rw [List.append_assoc] at whole
  rw [head?_cleanStart, whole] at first
  have start := dropWhile_isEdge_of_isBlank solid hf first
  rw [start] at first
  have some_left : ¬(core.dropWhile isEdge).isEmpty = true := by
    intro none_left
    rw [List.dropWhile_append, if_pos none_left] at first
    rw [← List.append_nil back] at first
    rw [dropWhile_isEdge_of_isBlank solid hb first] at first
    cases first
  refine ⟨back.filter (!isBreak ·), fun d hd => hb d (List.mem_of_mem_filter hd), ?_⟩
  rw [cleanStart, whole, start, List.dropWhile_append, if_neg some_left, List.filter_append,
    cleanStart, Text.trim, String.toList_ofList, hcore]

/-- The same holds of a text that is read to its end. -/
theorem exists_clean_trim {text : String} (first : (clean text).head? = some c) :
    ∃ more, (∀ d ∈ more, isOuter d = true) ∧ clean text = clean (Text.trim text) ++ more := by
  obtain ⟨hidden, whole, edges, -⟩ := cleanStart_spec text
  obtain ⟨shorter, part, shorter_edges, last⟩ := cleanStart_spec (Text.trim text)
  obtain ⟨back, blank, longer⟩ := exists_cleanStart_trim solid
    (by rw [whole, List.head?_append, first, Option.some_or])
  rw [whole, part, List.append_assoc] at longer
  rcases List.append_eq_append_iff.1 longer with ⟨more, hc, hm⟩ | ⟨more, hc, hm⟩
  · -- what is read does not end with a character that its end would hide
    have none_left : more = [] := by
      refine Text.eq_nil_of_getLast? (fun d hd => edges d ?_) fun d hd => last d ?_
      · rw [hm]
        exact List.mem_append_left _ hd
      · rw [hc, List.getLast?_append, hd, Option.some_or]
    refine ⟨[], by simp, ?_⟩
    rw [hc, none_left, List.append_nil, List.append_nil]
  · refine ⟨more, fun d hd => ?_, hc⟩
    have among : d ∈ shorter ++ back := by rw [hm]; exact List.mem_append_left _ hd
    rcases List.mem_append.1 among with hs | hb
    · exact isOuter_of_isEdge (shorter_edges d hs)
    · exact isOuter_of_isBlank (blank d hb)

end Start

/-! ## Trimmed texts -/

theorem isBlank_of_isAlpha {c : Char} (h : c.isAlpha = true) : Text.isBlank c = false := by
  have letter := toNat_of_isAlpha h
  rw [Bool.eq_false_iff]
  intro blank
  simp only [Text.isBlank, Bool.or_eq_true, Bool.and_eq_true, decide_eq_true_eq,
    beq_iff_eq] at blank
  omega

/-- A URL of a server stays one, of the same scheme, without the white space around it. -/
theorem exists_trimmed {text : String} {url : Url} (h : parse text = .ok url)
    (special : isSpecial url.scheme = true) (server : url.scheme ≠ "file") :
    ∃ root, parse (Text.trim text) = .ok root ∧ root.scheme = url.scheme := by
  obtain ⟨rest, hs⟩ := splitScheme?_of_parse h
  obtain ⟨c, name, cleaned, -, alpha, -⟩ := splitScheme?_eq_some_iff.1 hs
  have first : (clean text).head? = some c := by rw [cleaned]; rfl
  obtain ⟨more, outer, longer⟩ := exists_clean_trim (isBlank_of_isAlpha alpha) first
  rw [← List.append_nil more] at longer
  exact exists_of_longer h special server longer outer (by simp)

end Fleet.Url
