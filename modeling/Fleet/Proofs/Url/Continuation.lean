/-
URLs that go on. A request path is written behind the text of a URL, and the longer text is read as
a whole. Its path is that of the URL with the request path behind it exactly if the URL has no query
and no fragment, and its text ends neither with a slash of any kind nor with a blank or control
character (`readAuthority_continues_iff`).
-/
import Fleet.Proofs.Url.Path

namespace Fleet.Url

/-! ## URLs that go on -/

/-- The URL has the server of the root, and its path is that of the root without a slash at its
end and with the other path behind it; nothing of that is query or fragment. -/
structure Continues (root url : Url) (path : List Char) : Prop where
  scheme : url.scheme = root.scheme
  host : url.host = root.host
  port : url.port = root.port
  path : url.path.chars = withoutEndSlash root.path.chars ++ path
  query : url.query = root.query
  fragment : url.fragment = root.fragment

theorem rootedPath_of_slash {c : Char} (slash : isSlash true c = true) (cs : List Char) :
    rootedPath true (c :: cs) = .segments (names (pushAll [] (written cs))) := by
  rw [rootedPath, if_pos slash]
  rfl

theorem splitAt_append_cons {c : Char} {front : List Char} (h : c ∉ front) (back : List Char) :
    splitAt c (front ++ c :: back) = (front, some back) := by
  have others : ∀ d ∈ front, (d != c) = true := by
    intro d hd
    rw [bne_iff_ne]
    rintro rfl
    exact h hd
  have itself : (fun d => d != c) c = false := bne_self_eq_false c
  rw [splitAt, dropWhile_append_cons (p := (· != c)) itself,
    takeWhile_append_cons (p := (· != c)) itself, List.dropWhile_eq_nil_iff.2 others,
    List.takeWhile_eq_self_iff.2 others]
  rfl

/-- What is written behind a fragment belongs to the fragment, and what is written behind a query
to the query, unless a fragment begins there. -/
theorem Tail.ofChars_append {cs back : List Char} (h : '?' ∈ cs ∨ '#' ∈ cs) (hash : '#' ∉ back) :
    (∃ f, (ofChars cs).fragment = some f ∧ (ofChars (cs ++ back)).fragment = some (f ++ back)) ∨
      ∃ q, (ofChars cs).query = some q ∧ (ofChars (cs ++ back)).query = some (q ++ back) := by
  by_cases hc : '#' ∈ cs
  · obtain ⟨front, f, rfl, first⟩ := List.eq_append_cons_of_mem hc
    refine .inl ⟨f, ?_, ?_⟩
    · rw [ofChars, splitAt_append_cons first]
    · rw [List.append_assoc, List.cons_append, ofChars, splitAt_append_cons first]
  · obtain ⟨front, q, rfl, first⟩ := List.eq_append_cons_of_mem (h.resolve_right hc)
    have none_left : '#' ∉ front ++ '?' :: q ++ back := by simp_all
    refine .inr ⟨q, ?_, ?_⟩
    · rw [ofChars, splitAt_of_not_mem hc]
      simp only
      rw [splitAt_append_cons first]
    · rw [ofChars, splitAt_of_not_mem none_left]
      simp only
      rw [List.append_assoc, List.cons_append, splitAt_append_cons first]

/-- A longer text is encoded longer. -/
theorem encode_append_ne (set : Char → Bool) (cs : List Char) {back : List Char} (h : back ≠ []) :
    String.ofList (encode set (cs ++ back)) ≠ String.ofList (encode set cs) := by
  intro same
  have lists := String.ofList_injective same
  rw [encode_append, List.append_right_eq_self] at lists
  obtain ⟨c, hc⟩ := List.exists_mem_of_ne_nil back h
  exact encodeChar_ne_nil set c (List.flatMap_eq_nil_iff.1 lists c hc)

theorem RequestPath.exists_cons {path : List Char} (request : RequestPath path) :
    ∃ cs, path = '/' :: cs ∧ ∀ c ∈ cs, c = '/' ∨ PlainChar c := by
  cases path with
  | nil => cases request.slash
  | cons c cs =>
    obtain rfl := Option.some.inj request.slash
    exact ⟨cs, rfl, fun d hd =>
      (request.plain d (List.mem_cons_of_mem _ hd)).imp_right plainChar_of_isSegmentChar⟩

theorem RequestPath.starts {path : List Char} (request : RequestPath path) :
    ∀ c, path.head? = some c → isAuthorityEnd true c = true := by
  intro c hc
  obtain rfl := Option.some.inj (request.slash.symm.trans hc)
  rfl

theorem RequestPath.not_mem {path : List Char} (request : RequestPath path) :
    '?' ∉ path ∧ '#' ∉ path := by
  constructor <;> intro hm <;> rcases request.plain _ hm with slash | plain
  · cases slash
  · exact (plainChar_of_isSegmentChar plain).question rfl
  · cases slash
  · exact (plainChar_of_isSegmentChar plain).hash rfl

/-- What is read of a text with a request path behind it. -/
theorem clean_append_path {text path : String} (request : RequestPath path.toList) :
    clean (text ++ path) = cleanStart text ++ path.toList := by
  obtain ⟨cs, parts, plain⟩ := request.exists_cons
  have split : text ++ path = text ++ "/" ++ String.ofList cs := by
    rw [String.append_assoc]
    refine congrArg (text ++ ·) (String.toList_injective ?_)
    simp [parts]
  have solid : ∀ c ∈ cs, isEdge c = false ∧ isBreak c = false := by
    intro c hc
    rcases plain c hc with rfl | plain
    · decide
    · exact ⟨plain.edge, plain.unbroken⟩
  have kept : cleanEnd (String.ofList cs) = cs := by
    rw [cleanEnd, String.toList_ofList,
      Text.dropEndWhile_eq_self fun c hc => (solid c (List.mem_of_getLast? hc)).1]
    exact List.filter_eq_self.2 fun c hc => by rw [(solid c hc).2]; rfl
  rw [split, clean_below, kept, parts]

/-- No slash stands at the end of a path exactly if its last segment is not empty. -/
theorem last_ne_nil_iff {after last : List Char} {front : List (List Char)}
    (pieces : Text.splitBy (isSlash true) after = front ++ [last]) {c : Char}
    (slash : isSlash true c = true) :
    last ≠ [] ↔ ∀ d, (c :: after).getLast? = some d → isSlash true d = false := by
  rw [ne_eq, Text.last_splitBy_eq_nil_iff pieces]
  cases after with
  | nil => simp [slash]
  | cons d after =>
    rw [List.getLast?_cons_cons]
    cases hl : (d :: after).getLast? with
    | none => simp at hl
    | some e => simp

/-- Behind a path without query and fragment a request path goes on with it, if nothing is hidden
at its end and no slash stands there. -/
theorem path_continues_iff {hidden path : List Char} (request : RequestPath path)
    (edges : ∀ c ∈ hidden, isEdge c = true) {c : Char} (slash : isSlash true c = true)
    (after : List Char) :
    (rootedPath true (c :: after ++ hidden ++ path)).chars =
      withoutEndSlash (rootedPath true (c :: after)).chars ++ path ↔
    hidden = [] ∧ ∀ d, (c :: after).getLast? = some d → isSlash true d = false := by
  obtain ⟨cs, rfl, plain⟩ := request.exists_cons
  obtain ⟨front, last, pieces⟩ := Text.exists_last_splitBy (isSlash true) after
  have piece : last ∈ Text.splitBy (isSlash true) after := by simp [pieces]
  have hidden_unbroken : ∀ d ∈ hidden, isSlash true d = false := fun d hd =>
    isSlash_of_isOuter (isOuter_of_isEdge (edges d hd))
  -- what is hidden belongs to the last segment, and the request path begins new ones
  generalize hk : (front.map (encode pathSet)).foldl pushSegment [] = kept
  have short : pushAll [] (written after) = pushLast kept (encode pathSet last) := by
    rw [written, pieces, List.map_append, List.map_singleton, pushAll_append _ _ (by simp), hk]
    rfl
  have long : pushAll [] (written (after ++ hidden ++ '/' :: cs)) =
      pushAll (pushSegment kept (encode pathSet (last ++ hidden))) (written cs) := by
    rw [written, Text.splitBy_append_cons rfl, Text.splitBy_append_of_neg hidden_unbroken pieces,
      List.map_append, ← written, pushAll_append _ _ (written_ne_nil cs), List.map_append,
      List.foldl_append, hk]
    rfl
  have shape : c :: after ++ hidden ++ '/' :: cs = c :: (after ++ hidden ++ '/' :: cs) := rfl
  rw [shape, rootedPath_of_slash slash, rootedPath_of_slash slash, chars_names, chars_names, short,
    long, pathOf_pushAll _ plain, List.append_left_inj, pathOf_pushSegment_iff kept ?_ edges,
    last_ne_nil_iff pieces slash]
  intro hm
  cases Text.not_mem_of_mem_splitBy piece '/' hm

section Server

variable (host : Host) (port : Option Nat) {scheme : String} {hidden path : List Char}
  (special : isSpecial scheme = true) (request : RequestPath path)
include special request

theorem continues_bare :
    Continues (serverUrl scheme host port []) (serverUrl scheme host port path) path := by
  obtain ⟨question, hash⟩ := request.not_mem
  have tail := Tail.ofChars_of_not_mem hash question
  obtain ⟨cs, rfl, plain⟩ := request.exists_cons
  refine ⟨rfl, rfl, rfl, ?_, ?_, ?_⟩
  · show (rootedPath (isSpecial scheme) (Tail.ofChars ('/' :: cs)).path).chars =
      withoutEndSlash (rootedPath (isSpecial scheme) []).chars ++ '/' :: cs
    rw [tail, special, rootedPath_of_slash rfl, chars_names, pathOf_pushAll _ plain]
    rfl
  · rw [serverUrl, tail]
    rfl
  · rw [serverUrl, tail]
    rfl

/-- What is written behind a server goes on as a path exactly if no query or fragment is there and
its end neither hides anything nor is a slash. -/
theorem serverUrl_continues_iff (edges : ∀ c ∈ hidden, isEdge c = true) {c : Char}
    (ends : isAuthorityEnd true c = true) {after : List Char} :
    Continues (serverUrl scheme host port (c :: after))
      (serverUrl scheme host port (c :: after ++ hidden ++ path)) path ↔
    '?' ∉ c :: after ∧ '#' ∉ c :: after ∧ hidden = [] ∧
      ∀ d, (c :: after).getLast? = some d → isSlash true d = false := by
  obtain ⟨question, hash⟩ := request.not_mem
  have clear : '?' ∉ hidden ∧ '#' ∉ hidden := by
    constructor <;> intro hm <;> cases edges _ hm
  by_cases further : '?' ∈ c :: after ∨ '#' ∈ c :: after
  · have hash_not : '#' ∉ hidden ++ path := by simp [clear.2, hash]
    have some_char : hidden ++ path ≠ [] := by
      obtain ⟨cs, rfl, -⟩ := request.exists_cons
      simp
    constructor
    · -- it would take in the request path and be longer than that of the root
      intro continues
      exfalso
      rcases Tail.ofChars_append further hash_not with ⟨f, short, long⟩ | ⟨q, short, long⟩
      · have same := continues.fragment
        rw [List.append_assoc] at same
        simp only [serverUrl, assemble, short, long, Option.map_some, Option.some.injEq] at same
        exact encode_append_ne _ _ some_char same
      · have same := continues.query
        rw [List.append_assoc] at same
        simp only [serverUrl, assemble, short, long, Option.map_some, Option.some.injEq] at same
        exact encode_append_ne _ _ some_char same
    · rintro ⟨no_query, no_fragment, -⟩
      exact absurd further (not_or.2 ⟨no_query, no_fragment⟩)
  · obtain ⟨no_query, no_fragment⟩ := not_or.1 further
    have slash : isSlash true c = true := by
      simp only [isAuthorityEnd, Bool.or_eq_true, beq_iff_eq] at ends
      rcases ends with (slash | rfl) | rfl
      · exact slash
      · exact absurd List.mem_cons_self no_query
      · exact absurd List.mem_cons_self no_fragment
    have root := Tail.ofChars_of_not_mem no_fragment no_query
    have whole : Tail.ofChars (c :: after ++ hidden ++ path) =
        ⟨c :: after ++ hidden ++ path, none, none⟩ := by
      refine Tail.ofChars_of_not_mem ?_ ?_
      · simp only [List.mem_append, not_or]
        exact ⟨⟨no_fragment, clear.2⟩, hash⟩
      · simp only [List.mem_append, not_or]
        exact ⟨⟨no_query, clear.1⟩, question⟩
    rw [← path_continues_iff request edges slash after]
    have read : ∀ cs, Tail.ofChars cs = ⟨cs, none, none⟩ → serverUrl scheme host port cs =
        ⟨scheme, some host, port, rootedPath true cs, none, none⟩ := by
      intro cs hcs
      rw [serverUrl, hcs, special]
      rfl
    rw [read _ root, read _ whole]
    constructor
    · intro continues
      exact ⟨no_query, no_fragment, continues.path⟩
    · rintro ⟨-, -, path⟩
      exact ⟨rfl, rfl, rfl, path, rfl, rfl⟩

end Server

/-! ## Authorities that go on -/

section Authority

variable {scheme : String} {front hidden path : List Char}

/-- An authority that something follows ends there, whatever comes behind. -/
theorem authority_of_followed {c : Char} {after : List Char}
    (followed : afterAuthority front = c :: after) (back : List Char) :
    authority (front ++ back) = authority front ∧
      afterAuthority (front ++ back) = c :: after ++ back ∧ isAuthorityEnd true c = true := by
  have ends := List.head?_dropWhile_not (!isAuthorityEnd true ·) front
  unfold afterAuthority at followed
  rw [followed] at ends
  simp only [List.head?_cons, Bool.not_eq_false'] at ends
  have stops : (fun d => !isAuthorityEnd true d) c = false := by simp [ends]
  have parts : front = authority front ++ c :: after := by
    rw [← followed, authority, List.takeWhile_append_dropWhile]
  refine ⟨?_, ?_, ends⟩
  · conv_lhs => rw [parts]
    rw [authority, List.append_assoc, List.cons_append,
      takeWhile_append_cons (p := (!isAuthorityEnd true ·)) stops]
    exact List.takeWhile_eq_self_iff.2 fun d => List.mem_takeWhile_imp
  · rw [afterAuthority, List.dropWhile_append, if_neg (by simp [followed]), followed]

section Longer

variable (starts : ∀ c, path.head? = some c → isAuthorityEnd true c = true)
  (outer : ∀ c ∈ hidden, isOuter c = true)
include starts outer

/-- What is hidden behind an authority that nothing follows belongs to it. -/
theorem authority_of_bare (bare : afterAuthority front = []) :
    authority (front ++ hidden ++ path) = front ++ hidden ∧
      afterAuthority (front ++ hidden ++ path) = path := by
  have inside : ∀ c ∈ front ++ hidden, (!isAuthorityEnd true c) = true := by
    intro c hc
    rcases List.mem_append.1 hc with hf | hh
    · exact List.dropWhile_eq_nil_iff.1 bare c hf
    · rw [isAuthorityEnd_of_isOuter (outer c hh)]
      rfl
  unfold authority afterAuthority
  rw [List.takeWhile_append_of_pos inside, List.dropWhile_append_of_pos inside]
  cases path with
  | nil => exact ⟨List.append_nil _, rfl⟩
  | cons c path =>
    simp [starts c rfl]

/-- Nothing is hidden behind an authority that nothing follows, if the longer one can be read. -/
theorem hidden_eq_nil_of_bare (special : isSpecial scheme = true)
    (bare : afterAuthority front = []) {ended : Bool} {host : Host} {port : Option Nat}
    {rest : List Char}
    (h : readServer scheme (authority (front ++ hidden ++ path)) ended = .ok (host, port, rest)) :
    hidden = [] := by
  obtain ⟨-, -, last⟩ := readServer_spec special (backslash_not_mem_authority _) h
  rw [(authority_of_bare starts outer bare).1] at last
  refine Text.eq_nil_of_getLast? outer fun c hc => last c ?_
  rw [List.getLast?_append, hc, Option.some_or]

/-- An authority can be read if it can be read when white space, control characters and a path stand
behind it. -/
theorem readAuthority_of_longer (special : isSpecial scheme = true) {url : Url}
    (h : readAuthority scheme (front ++ hidden ++ path) = .ok url) :
    ∃ root, readAuthority scheme front = .ok root := by
  obtain ⟨host, port, hs, -⟩ := (readAuthority_eq_ok_iff special).1 h
  refine ⟨_, (readAuthority_eq_ok_iff special).2 ⟨host, port, ?_, rfl⟩⟩
  rw [← hs]
  cases hw : afterAuthority front with
  | nil =>
    have all := authority_append_after front
    rw [hw, List.append_nil] at all
    rw [(authority_of_bare starts outer hw).1, hidden_eq_nil_of_bare starts outer special hw hs,
      List.append_nil, all]
  | cons c after => rw [List.append_assoc, (authority_of_followed hw _).1]

end Longer

/-- An authority and what follows it go on as a path exactly if no query or fragment is there and
the end neither hides anything nor is a slash. -/
theorem readAuthority_continues_iff (request : RequestPath path)
    (edges : ∀ c ∈ hidden, isEdge c = true) (special : isSpecial scheme = true) {root : Url}
    (h : readAuthority scheme front = .ok root) :
    (∃ url, readAuthority scheme (front ++ hidden ++ path) = .ok url ∧ Continues root url path) ↔
      '?' ∉ front ∧ '#' ∉ front ∧ hidden = [] ∧
        ∀ d, front.getLast? = some d → isSlash true d = false := by
  obtain ⟨host, port, hs, rfl⟩ := (readAuthority_eq_ok_iff special).1 h
  have parts := authority_append_after front
  have inside : ∀ d ∈ authority front, isAuthorityEnd true d = false :=
    fun d => isAuthorityEnd_of_mem_authority
  have outer : ∀ d ∈ hidden, isOuter d = true := fun d hd => isOuter_of_isEdge (edges d hd)
  cases hw : afterAuthority front with
  | nil =>
    -- the request path is the first thing behind the authority, unless something is hidden there
    rw [hw, List.append_nil] at parts
    rw [parts] at inside hs
    constructor
    · rintro ⟨url, read, -⟩
      obtain ⟨_, _, longer, -⟩ := (readAuthority_eq_ok_iff special).1 read
      have none_hidden := hidden_eq_nil_of_bare request.starts outer special hw longer
      refine ⟨fun hm => ?_, fun hm => ?_, none_hidden, fun d hd => ?_⟩
      · cases inside _ hm
      · cases inside _ hm
      · have plain := inside d (List.mem_of_getLast? hd)
        simp only [isAuthorityEnd, Bool.or_eq_false_iff] at plain
        exact plain.1.1
    · rintro ⟨-, -, rfl, -⟩
      obtain ⟨whole, rest⟩ := authority_of_bare request.starts outer hw
      refine ⟨_, (readAuthority_eq_ok_iff special).2 ⟨host, port, ?_, rfl⟩, ?_⟩
      · rw [whole, List.append_nil, hs]
      · rw [rest]
        exact continues_bare host port special request
  | cons c after =>
    -- the server is the same, and what follows it decides
    obtain ⟨whole, rest, ends⟩ := authority_of_followed hw (hidden ++ path)
    rw [← List.append_assoc] at whole
    rw [← List.append_assoc, ← List.append_assoc] at rest
    rw [hw] at parts
    have last : front.getLast? = (c :: after).getLast? := by
      rw [← parts, List.getLast?_append_of_ne_nil _ (List.cons_ne_nil _ _)]
    have outside : ∀ d, isAuthorityEnd true d = true → (d ∈ front ↔ d ∈ c :: after) := by
      intro d hd
      have before : d ∉ authority front := by
        intro hm
        rw [inside d hm] at hd
        cases hd
      conv_lhs => rw [← parts, List.mem_append]
      exact or_iff_right before
    rw [last, outside '?' rfl, outside '#' rfl,
      ← serverUrl_continues_iff host port special request edges ends, ← rest]
    constructor
    · rintro ⟨url, read, continues⟩
      obtain ⟨other, otherPort, longer, rfl⟩ := (readAuthority_eq_ok_iff special).1 read
      rw [whole, hs] at longer
      cases longer
      exact continues
    · intro continues
      exact ⟨_, (readAuthority_eq_ok_iff special).2 ⟨host, port, by rw [whole, hs], rfl⟩,
        continues⟩

end Authority

end Fleet.Url
