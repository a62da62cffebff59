/-
URLs below a base. If the base followed by a slash is a URL of a special scheme without query and
fragment, so is the base followed by a slash and any other text without a question mark and a hash:
only the path differs, and it goes on from the segments of the base (`parse_below`).
-/
import Fleet.Proofs.Url.Extension
import Fleet.Proofs.Url.Percent
import Mathlib.Data.List.TakeWhile

namespace Fleet.Url

/-! ## Segments -/

theorem pushAll_append (kept front : List (List Char)) {back : List (List Char)} (h : back ≠ []) :
    pushAll kept (front ++ back) = pushAll (front.foldl pushSegment kept) back := by
  induction front generalizing kept with
  | nil => rfl
  | cons segment front ih =>
    rw [List.cons_append, List.foldl_cons, ← ih]
    cases hs : front ++ back with
    | nil => exact absurd (List.append_eq_nil_iff.1 hs).2 h
    | cons next rest => rfl

/-- Whether a segment counts as one dot or two. -/
def isDotted (segment : List Char) : Bool := isDot segment || isDoubleDot segment

/-- The last segment of a path is the last one that is written, or empty for dots. -/
theorem head?_pushAll (kept front : List (List Char)) (segment : List Char) :
    (pushAll kept (front ++ [segment])).head? =
      some (if isDotted segment then [] else segment) := by
  rw [pushAll_append _ _ (by simp)]
  simp only [pushAll, pushLast, isDotted, Bool.or_eq_true]
  by_cases double : isDoubleDot segment = true
  · rw [if_pos double, if_pos (.inr double), List.head?_cons]
  · by_cases single : isDot segment = true
    · rw [if_neg double, if_pos single, if_pos (.inl single), List.head?_cons]
    · rw [if_neg double, if_neg single, if_neg (not_or.2 ⟨single, double⟩), List.head?_cons]

/-! ## Path, query and fragment -/

theorem splitAt_of_not_mem {c : Char} {cs : List Char} (h : c ∉ cs) : splitAt c cs = (cs, none) := by
  have all : cs.dropWhile (· != c) = [] := by
    rw [List.dropWhile_eq_nil_iff]
    intro d hd
    simp only [bne_iff_ne, ne_eq]
    rintro rfl
    exact h hd
  rw [splitAt, all]

theorem not_mem_of_splitAt {c : Char} {cs : List Char} (h : (splitAt c cs).2 = none) : c ∉ cs := by
  unfold splitAt at h
  split at h
  · cases h
  · rename_i all
    intro hc
    simpa using List.dropWhile_eq_nil_iff.1 all c hc

theorem Tail.ofChars_of_not_mem {cs : List Char} (hash : '#' ∉ cs) (question : '?' ∉ cs) :
    Tail.ofChars cs = ⟨cs, none, none⟩ := by
  rw [Tail.ofChars, splitAt_of_not_mem hash]
  simp only
  rw [splitAt_of_not_mem question]

theorem Tail.not_mem_of_ofChars {cs : List Char} (query : (Tail.ofChars cs).query = none)
    (fragment : (Tail.ofChars cs).fragment = none) : '#' ∉ cs ∧ '?' ∉ cs := by
  have hash : '#' ∉ cs := not_mem_of_splitAt fragment
  rw [Tail.ofChars, splitAt_of_not_mem hash] at query
  exact ⟨hash, not_mem_of_splitAt query⟩

/-- The segments as they are written in a path of a special scheme, encoded. -/
def written (cs : List Char) : List (List Char) :=
  (Text.splitBy (isSlash true) cs).map (encode pathSet)

theorem written_ne_nil (cs : List Char) : written cs ≠ [] := by
  have := Text.splitBy_ne_nil (isSlash true) cs
  simpa [written] using this

/-- The names of the segments kept. -/
def names (kept : List (List Char)) : List String := kept.reverse.map String.ofList

/-- What is written behind a slash of a path adds to the segments in front of the slash. -/
theorem rootedPath_append (front : List Char) :
    ∃ kept, ∀ back, rootedPath true (front ++ '/' :: back) =
      .segments (names (pushAll kept (written back))) := by
  have slash : isSlash true '/' = true := rfl
  have split : ∀ inner, ∃ kept, ∀ back, segments true (inner ++ '/' :: back) =
      (pushAll kept (written back)).reverse := by
    intro inner
    refine ⟨(written inner).foldl pushSegment [], fun back => ?_⟩
    rw [segments, Text.splitBy_append_cons slash, List.map_append]
    exact congrArg List.reverse (pushAll_append _ _ (written_ne_nil back))
  cases front with
  | nil => exact ⟨[], fun back => rfl⟩
  | cons c front =>
    by_cases hc : isSlash true c = true
    · obtain ⟨kept, hk⟩ := split front
      refine ⟨kept, fun back => ?_⟩
      rw [List.cons_append, rootedPath, if_pos hc, hk]
      rfl
    · obtain ⟨kept, hk⟩ := split (c :: front)
      refine ⟨kept, fun back => ?_⟩
      rw [List.cons_append, rootedPath, if_neg hc, ← List.cons_append, hk]
      rfl

/-! ## Reading -/

/-- What is read of the text that another one is appended to. -/
def cleanStart (s : String) : List Char := (s.toList.dropWhile isEdge).filter (!isBreak ·)

/-- What is read of the text that is appended to another one. -/
def cleanEnd (s : String) : List Char := (Text.dropEndWhile isEdge s.toList).filter (!isBreak ·)

theorem clean_below (base s : String) :
    clean (base ++ "/" ++ s) = cleanStart base ++ '/' :: cleanEnd s := by
  have parts : (base ++ "/" ++ s).toList = base.toList ++ '/' :: s.toList := by simp
  have slash : isEdge '/' = false := by decide
  rw [clean, Text.trimBy, parts, dropWhile_append_cons slash, dropEndWhile_append_cons slash,
    List.filter_append, List.filter_cons, if_pos (by decide)]
  rfl

theorem scheme_of_readAuthority {scheme : String} {cs : List Char} {url : Url}
    (h : readAuthority scheme cs = .ok url) : url.scheme = scheme := by
  simp only [readAuthority, bind, Except.bind, pure, Except.pure] at h
  split at h
  · cases h
  · cases h
    rfl

theorem scheme_of_readFile {cs : List Char} {url : Url} (h : readFile cs = .ok url) :
    url.scheme = "file" := by
  simp only [readFile, bind, Except.bind, pure, Except.pure] at h
  repeat' split at h
  all_goals cases h
  all_goals rfl

theorem scheme_of_readAfterScheme {scheme : String} {cs : List Char} {url : Url}
    (h : readAfterScheme scheme cs = .ok url) : url.scheme = scheme := by
  unfold readAfterScheme at h
  split at h
  · rename_i file
    rw [scheme_of_readFile h, ← beq_iff_eq.1 file]
  · split at h
    · exact scheme_of_readAuthority h
    · split at h
      · exact scheme_of_readAuthority h
      · cases h
        rfl

theorem readAfterScheme_of_special {scheme : String} (special : isSpecial scheme = true)
    (server : scheme ≠ "file") (cs : List Char) :
    readAfterScheme scheme cs = readAuthority scheme (cs.dropWhile (isSlash true)) := by
  unfold readAfterScheme
  rw [if_neg (by simpa using server), if_pos special]

theorem readAuthority_nil {scheme : String} (special : isSpecial scheme = true) :
    readAuthority scheme [] = .error .emptyHost := by
  simp [readAuthority, readServer, splitCredentials, splitHost, readHost, special]

/-- The URL of a host, a port and what is written behind them. -/
def serverUrl (scheme : String) (host : Host) (port : Option Nat) (cs : List Char) : Url :=
  assemble scheme (some host) port (rootedPath (isSpecial scheme) (Tail.ofChars cs).path)
    (Tail.ofChars cs)

theorem readAuthority_append_slash (scheme : String) (front back : List Char) :
    readAuthority scheme (front ++ '/' :: back) =
      (readServer scheme (front.takeWhile (!isAuthorityEnd (isSpecial scheme) ·)) true).map
        fun (host, port, rest) => serverUrl scheme host port
          (rest ++ front.dropWhile (!isAuthorityEnd (isSpecial scheme) ·) ++ '/' :: back) := by
  have ends : (fun c => !isAuthorityEnd (isSpecial scheme) c) '/' = false := by
    simp [isAuthorityEnd, isSlash]
  simp only [readAuthority]
  rw [takeWhile_append_cons (p := fun c => !isAuthorityEnd (isSpecial scheme) c) ends,
    dropWhile_append_cons (p := fun c => !isAuthorityEnd (isSpecial scheme) c) ends]
  have more : (!(front.dropWhile (!isAuthorityEnd (isSpecial scheme) ·) ++ '/' :: back).isEmpty) =
      true := by simp
  rw [more]
  cases readServer scheme (front.takeWhile (!isAuthorityEnd (isSpecial scheme) ·)) true with
  | error fault => rfl
  | ok server =>
    obtain ⟨host, port, rest⟩ := server
    simp only [serverUrl, List.append_assoc]
    rfl

/-- What is written behind a server becomes the path, and the path goes on behind a slash. -/
theorem serverUrl_below {scheme : String} (special : isSpecial scheme = true) {host : Host}
    {port : Option Nat} {inner : List Char}
    (query : (serverUrl scheme host port (inner ++ ['/'])).query = none)
    (fragment : (serverUrl scheme host port (inner ++ ['/'])).fragment = none) :
    ∃ kept,
      (serverUrl scheme host port (inner ++ ['/'])).path = .segments (names kept ++ [""]) ∧
      ∀ back, '#' ∉ back → '?' ∉ back → serverUrl scheme host port (inner ++ '/' :: back) =
        { serverUrl scheme host port (inner ++ ['/']) with
          path := .segments (names (pushAll kept (written back))) } := by
  simp only [serverUrl, assemble, Option.map_eq_none_iff] at query fragment
  obtain ⟨hash, question⟩ := Tail.not_mem_of_ofChars query fragment
  simp only [List.mem_append, not_or] at hash question
  obtain ⟨kept, hk⟩ := rootedPath_append inner
  have read : ∀ back, '#' ∉ back → '?' ∉ back → serverUrl scheme host port (inner ++ '/' :: back) =
      ⟨scheme, some host, port, .segments (names (pushAll kept (written back))), none, none⟩ := by
    intro back hb qb
    have whole : Tail.ofChars (inner ++ '/' :: back) = ⟨inner ++ '/' :: back, none, none⟩ := by
      refine Tail.ofChars_of_not_mem ?_ ?_
      · simp only [List.mem_append, List.mem_cons, not_or]
        exact ⟨hash.1, by decide, hb⟩
      · simp only [List.mem_append, List.mem_cons, not_or]
        exact ⟨question.1, by decide, qb⟩
    rw [serverUrl, whole, special, hk]
    rfl
  have last : names (pushAll kept (written [])) = names kept ++ [""] := by
    simp [names, written, Text.splitBy, encode, pushAll, pushLast, isDoubleDot, isDot, plainDots]
  refine ⟨kept, ?_, fun back hb qb => ?_⟩
  · rw [read [] (by simp) (by simp), last]
  · rw [read [] (by simp) (by simp), read back hb qb]

theorem readAuthority_below {scheme : String} (special : isSpecial scheme = true)
    {front : List Char} {root : Url} (h : readAuthority scheme (front ++ ['/']) = .ok root)
    (query : root.query = none) (fragment : root.fragment = none) :
    ∃ kept, root.path = .segments (names kept ++ [""]) ∧
      ∀ back, '#' ∉ back → '?' ∉ back → readAuthority scheme (front ++ '/' :: back) =
        .ok { root with path := .segments (names (pushAll kept (written back))) } := by
  simp only [readAuthority_append_slash] at h ⊢
  cases hs : readServer scheme (front.takeWhile (!isAuthorityEnd (isSpecial scheme) ·)) true with
  | error fault =>
    rw [hs] at h
    cases h
  | ok server =>
    obtain ⟨host, port, rest⟩ := server
    rw [hs] at h
    obtain rfl := Except.ok.inj h
    obtain ⟨kept, path, below⟩ := serverUrl_below special query fragment
    exact ⟨kept, path, fun back hb qb => congrArg Except.ok (below back hb qb)⟩

/-- Below a base there is the same server, and a path that goes on from that of the base. -/
theorem parse_below {base : String} {root : Url} (h : parse (base ++ "/") = .ok root)
    (special : isSpecial root.scheme = true) (server : root.scheme ≠ "file")
    (query : root.query = none) (fragment : root.fragment = none) :
    ∃ kept, root.path = .segments (names kept ++ [""]) ∧
      ∀ s, '#' ∉ cleanEnd s → '?' ∉ cleanEnd s → parse (base ++ "/" ++ s) =
        .ok { root with path := .segments (names (pushAll kept (written (cleanEnd s)))) } := by
  have empty : cleanEnd "" = [] := by decide
  rw [← String.append_empty (s := base ++ "/")] at h
  simp only [parse, clean_below, splitScheme?_append_slash] at h ⊢
  cases hs : splitScheme? (cleanStart base) with
  | none =>
    rw [hs] at h
    cases h
  | some split =>
    obtain ⟨scheme, front⟩ := split
    rw [hs, empty] at h
    simp only [Option.map_some] at h ⊢
    obtain rfl : root.scheme = scheme := scheme_of_readAfterScheme h
    rw [readAfterScheme_of_special special server] at h
    simp only [readAfterScheme_of_special special server]
    have drop : ∀ back, (front ++ '/' :: back).dropWhile (isSlash true) =
        front.dropWhile (isSlash true) ++ '/' :: back := by
      intro back
      rw [List.dropWhile_append, if_neg]
      -- nothing but slashes would leave no host
      intro nothing
      rw [List.dropWhile_append, if_pos nothing] at h
      rw [show ['/'].dropWhile (isSlash true) = [] from rfl, readAuthority_nil special] at h
      cases h
    simp only [drop] at h ⊢
    obtain ⟨kept, path, below⟩ := readAuthority_below special h query fragment
    exact ⟨kept, path, fun s => below (cleanEnd s)⟩

end Fleet.Url
