/-
Servers of special schemes. White space or a control character at the end of an authority is
refused, wherever it comes to stand: in a name, behind an address or behind a port
(`readServer_spec`). So nothing but the authority itself decides which server is read
(`readAuthority_eq_ok_iff`).
-/
import Fleet.Failure
import Fleet.Proofs.Text.Normal
import Fleet.Proofs.Url.Scheme

namespace Fleet.Url

/-! ## The end of a decoded text -/

theorem hexValue?_eq_none {b : UInt8} (h : b.toNat ≤ 0x20 ∨ 0x80 ≤ b.toNat) :
    hexValue? b = none := by
  have apart : ∀ low high : UInt8, 0x20 < low.toNat → high.toNat < 0x80 →
      (low ≤ b && b ≤ high) = false := by
    intro low high hl hh
    simp only [Bool.and_eq_false_iff, decide_eq_false_iff_not, UInt8.le_iff_toNat_le]
    omega
  rw [hexValue?, apart 0x30 0x39 (by decide) (by decide), apart 0x41 0x46 (by decide) (by decide),
    apart 0x61 0x66 (by decide) (by decide)]
  rfl

/-- A byte that is no hex digit at the end of a text is decoded apart from the text. -/
theorem decode_concat {b : UInt8} (hex : hexValue? b = none) (bytes : List UInt8) :
    decode (bytes ++ [b]) = decode bytes ++ [b] := by
  induction bytes using decode.induct with
  | case1 => rfl
  | case2 c high low rest h l hl hh ih =>
    simp only [List.cons_append, decode, hl, hh, ih]
  | case3 c high low rest plain ih =>
    simp only [List.cons_append] at ih ⊢
    rw [decode, decode, ih]
    split
    · rename_i h l hh hl
      exact absurd hl (plain h l hh)
    · rfl
  | case4 c rest short ih =>
    rcases rest with - | ⟨high, - | ⟨low, rest⟩⟩
    · rfl
    · simp [decode, hex]
    · exact absurd rfl (short high low rest)

theorem decode_append {back : List UInt8} (hex : ∀ b ∈ back, hexValue? b = none)
    (bytes : List UInt8) : decode (bytes ++ back) = decode bytes ++ back := by
  induction back generalizing bytes with
  | nil => simp
  | cons b back ih =>
    rw [← List.singleton_append, ← List.append_assoc,
      ih fun d hd => hex d (List.mem_cons_of_mem _ hd), decode_concat (hex b List.mem_cons_self),
      List.append_assoc]

theorem utf8EncodeChar_inj {c d : Char}
    (h : String.utf8EncodeChar c = String.utf8EncodeChar d) : c = d := by
  have read := @ByteArray.utf8DecodeChar?_utf8EncodeChar_append .empty c
  rw [h, ByteArray.utf8DecodeChar?_utf8EncodeChar_append] at read
  exact (Option.some.inj read).symm

/-- No character is the end of another one: its first byte is first in no place but its own. -/
theorem eq_of_utf8EncodeChar_suffix {c d : Char}
    (h : String.utf8EncodeChar c <:+ String.utf8EncodeChar d) : c = d := by
  obtain ⟨front, parts⟩ := h
  have some_byte : 0 < (String.utf8EncodeChar c).length :=
    List.length_pos_iff.2 String.utf8EncodeChar_ne_nil
  have inside : front.length < (String.utf8EncodeChar d).length := by
    rw [← parts, List.length_append]
    omega
  have first : (String.utf8EncodeChar d)[front.length] = (String.utf8EncodeChar c)[0] := by
    simp only [← parts, List.getElem_append_right (Nat.le_refl _), Nat.sub_self]
  have starts : ((String.utf8EncodeChar d)[front.length]).IsUTF8FirstByte := by
    rw [first]
    exact UInt8.isUTF8FirstByte_getElem_zero_utf8EncodeChar
  have none_before := UInt8.isUTF8FirstByte_getElem_utf8EncodeChar.1 starts
  rw [List.length_eq_zero_iff.1 none_before, List.nil_append] at parts
  exact utf8EncodeChar_inj parts

/-- A text whose bytes end with those of a character ends with the character. -/
theorem exists_concat_of_utf8 {cs : List Char} {bytes : List UInt8} {c : Char}
    (h : cs.flatMap String.utf8EncodeChar = bytes ++ String.utf8EncodeChar c) :
    ∃ front, cs = front ++ [c] := by
  rcases List.eq_nil_or_concat cs with rfl | ⟨front, d, rfl⟩
  · exact absurd (List.append_eq_nil_iff.1 h.symm).2 String.utf8EncodeChar_ne_nil
  · rw [List.concat_eq_append, List.flatMap_append, List.flatMap_singleton] at h
    have ends : String.utf8EncodeChar c <:+
        front.flatMap String.utf8EncodeChar ++ String.utf8EncodeChar d := ⟨bytes, h.symm⟩
    rcases List.suffix_or_suffix_of_suffix ends (List.suffix_append _ _) with shorter | longer
    · exact ⟨front, by rw [eq_of_utf8EncodeChar_suffix shorter, List.concat_eq_append]⟩
    · exact ⟨front, by rw [← eq_of_utf8EncodeChar_suffix longer, List.concat_eq_append]⟩

/-! ## Hosts that end with a blank or control character -/

/-- White space, and the control characters that are removed at the ends of a URL. -/
def isOuter (c : Char) : Bool := isEdge c || Text.isBlank c

theorem toNat_of_isEdge {c : Char} (edge : isEdge c = true) : c.toNat ≤ 0x20 :=
  of_decide_eq_true edge

theorem isOuter_of_isEdge {c : Char} (h : isEdge c = true) : isOuter c = true := by
  rw [isOuter, h, Bool.true_or]

theorem isOuter_of_isBlank {c : Char} (h : Text.isBlank c = true) : isOuter c = true := by
  rw [isOuter, h, Bool.or_true]

section Outer

variable {c : Char} (outer : isOuter c = true)
include outer

/-- It stands before the characters that are written in URLs, or behind all of ASCII. -/
theorem apart_of_isOuter : c.toNat ≤ 0x20 ∨ 0x80 ≤ c.toNat ∧ Text.isBlank c = true := by
  by_cases low : c.toNat ≤ 0x20
  · exact .inl low
  · have blank : Text.isBlank c = true := by
      simpa [isOuter, isEdge, low] using outer
    refine .inr ⟨?_, blank⟩
    simp only [Text.isBlank, Bool.or_eq_true, Bool.and_eq_true, decide_eq_true_eq,
      beq_iff_eq] at blank
    omega

theorem isAuthorityEnd_of_isOuter : isAuthorityEnd true c = false := by
  refine Bool.eq_false_iff.2 fun ends => ?_
  simp only [isAuthorityEnd, isSlash, Bool.true_and, Bool.or_eq_true, beq_iff_eq] at ends
  rcases ends with ((rfl | rfl) | rfl) | rfl <;> exact absurd outer (by decide)

theorem isSlash_of_isOuter : isSlash true c = false := by
  have ends := isAuthorityEnd_of_isOuter outer
  simp only [isAuthorityEnd, Bool.or_eq_false_iff] at ends
  exact ends.1.1

theorem hexValue?_of_mem_utf8EncodeChar {b : UInt8} (hb : b ∈ String.utf8EncodeChar c) :
    hexValue? b = none := by
  have whole : c.val.toNat = c.toNat := rfl
  refine hexValue?_eq_none ?_
  have apart := apart_of_isOuter outer
  unfold String.utf8EncodeChar at hb
  simp only [whole] at hb
  repeat' split at hb
  all_goals
    simp only [List.mem_cons, List.not_mem_nil, or_false] at hb
    rcases hb with rfl | rfl | rfl | rfl <;>
      simp only [UInt8.toNat_ofNat'] <;> omega

/-- Such a character stays at the end of a text that is decoded. -/
theorem suffix_of_decodeText? {cs : List Char} {name : String}
    (h : decodeText? (cs ++ [c]) = some name) : ∃ front, name.toList = front ++ [c] := by
  rw [decodeText?, fromUTF8?_eq_some_iff, List.flatMap_append, List.flatMap_singleton,
    decode_append fun b => hexValue?_of_mem_utf8EncodeChar outer] at h
  have bytes : name.toList.flatMap String.utf8EncodeChar =
      decode (cs.flatMap String.utf8EncodeChar) ++ String.utf8EncodeChar c := by
    rw [← String.ofList_toList (s := name), String.toByteArray_ofList] at h
    have data := congrArg ByteArray.data h
    rw [List.utf8Encode, List.data_toByteArray] at data
    simpa using data
  exact exists_concat_of_utf8 bytes

/-- It is folded to itself or to the space. -/
theorem fold_of_isOuter : ∃ d, Domain.fold c = [d] ∧ d.toNat ≤ 0x20 := by
  rcases apart_of_isOuter outer with low | ⟨high, blank⟩
  · have lower : c.toLower = c := by
      refine dif_neg fun upper => ?_
      have capital : 65 ≤ c.toNat := UInt32.le_iff_toNat_le.1 upper.1
      omega
    have ascii : Domain.isAscii c = true := decide_eq_true (by omega)
    exact ⟨c, by rw [Domain.fold, if_pos ascii, lower], low⟩
  · have foreign : Domain.isAscii c = false := decide_eq_false (by omega)
    refine ⟨' ', ?_, by decide⟩
    rw [Domain.fold, foreign, if_neg Bool.false_ne_true, if_pos blank]

/-- What it is folded to stays at the end of the normal form, and is denied there. -/
theorem toAscii?_of_isOuter (front : List Char) : Domain.toAscii? (front ++ [c]) = none := by
  obtain ⟨d, fold, low⟩ := fold_of_isOuter outer
  have denied : Domain.isDenied d = true := by simp [Domain.isDenied, low]
  have refused : Domain.folded? (front ++ [c]) = none := by
    unfold Domain.folded?
    split
    · refine if_pos (List.any_eq_true.2 ⟨d, ?_, denied⟩)
      rw [List.flatMap_append, List.flatMap_singleton, fold]
      exact (Text.suffix_normalForm (by omega) _).subset (List.mem_singleton_self d)
    · rfl
  unfold Domain.toAscii?
  rw [refused]
  rfl

theorem ofBracketed_of_isOuter (cs : List Char) :
    Host.ofBracketed (cs ++ [c]) = .error .ipv6 := by
  have closes : c ≠ ']' := by
    rintro rfl
    exact absurd outer (by decide)
  unfold Host.ofBracketed
  rw [List.reverse_append, List.reverse_singleton, List.singleton_append]
  split
  · rename_i closed
    exact absurd (List.cons.inj closed).1 closes
  · rfl

theorem ofSpecial_of_isOuter (cs : List Char) :
    ∃ fault, Host.ofSpecial (cs ++ [c]) = .error fault := by
  have opens : c ≠ '[' := by
    rintro rfl
    exact absurd outer (by decide)
  unfold Host.ofSpecial
  split
  · rename_i inner opened
    refine ⟨.ipv6, ?_⟩
    cases cs with
    | nil => exact absurd (List.cons.inj opened).1 opens
    | cons d cs =>
      obtain rfl := (List.cons.inj opened).2
      exact ofBracketed_of_isOuter outer cs
  · refine ⟨.domain, ?_⟩
    cases hn : decodeText? (cs ++ [c]) with
    | none => rfl
    | some name =>
      obtain ⟨front, parts⟩ := suffix_of_decodeText? outer hn
      rw [Option.bind_some, parts, toAscii?_of_isOuter outer]

end Outer

/-! ## Authorities -/

theorem splitCredentials_subset (cs : List Char) : (splitCredentials cs).2 ⊆ cs := by
  unfold splitCredentials
  cases cs.contains '@' with
  | true =>
    intro c hc
    exact List.mem_reverse.1 ((List.takeWhile_prefix _).subset (List.mem_reverse.1 hc))
  | false => exact List.Subset.refl cs

/-- What stands behind the credentials ends as the authority does. -/
theorem splitCredentials_concat {c : Char} (hc : c ≠ '@') (cs : List Char) :
    ∃ front, (splitCredentials (cs ++ [c])).2 = front ++ [c] := by
  have kept : (c != '@') = true := bne_iff_ne.2 hc
  unfold splitCredentials
  cases (cs ++ [c]).contains '@' with
  | true =>
    refine ⟨(cs.reverse.takeWhile (· != '@')).reverse, ?_⟩
    simp [hc]
  | false => exact ⟨cs, rfl⟩

theorem splitHost_spec (bracketed : Bool) (cs : List Char) :
    (splitHost bracketed cs).1 ++ (splitHost bracketed cs).2 = cs ∧
      ((splitHost bracketed cs).2 = [] ∨ ∃ digits, (splitHost bracketed cs).2 = ':' :: digits) := by
  induction cs generalizing bracketed with
  | nil => exact ⟨rfl, .inl rfl⟩
  | cons c cs ih =>
    unfold splitHost
    split
    · rename_i colon
      simp only [Bool.and_eq_true, beq_iff_eq] at colon
      exact ⟨rfl, .inr ⟨cs, by rw [colon.1]⟩⟩
    · obtain ⟨whole, rest⟩ := ih (if c == '[' then true else if c == ']' then false else bracketed)
      exact ⟨congrArg (c :: ·) whole, rest⟩

/-- A port is read to its end, unless a backslash ends it. -/
theorem readPort_spec {scheme : String} {cs : List Char} {port : Option Nat} {rest : List Char}
    (slash : '\\' ∉ cs) (h : readPort scheme cs = .ok (port, rest)) :
    rest = [] ∧ ∀ c ∈ cs, c.isDigit = true := by
  have parts : cs.takeWhile Char.isDigit ++ cs.dropWhile Char.isDigit = cs :=
    List.takeWhile_append_dropWhile
  have none_left : cs.dropWhile Char.isDigit = [] := by
    cases hr : cs.dropWhile Char.isDigit with
    | nil => rfl
    | cons c more =>
      have unlike : c ≠ '\\' := by
        rintro rfl
        exact slash (by rw [← parts, hr]; simp)
      simp only [readPort, Numeral.spanDigits, hr] at h
      split at h
      · cases h
      · simp [unlike] at h
  refine ⟨?_, List.dropWhile_eq_nil_iff.1 none_left⟩
  simp only [readPort, Numeral.spanDigits, none_left] at h
  repeat' split at h
  all_goals cases h
  all_goals rfl

/-- Without an authority there is no server, so it does not matter whether anything follows. -/
theorem readServer_ended {scheme : String} (special : isSpecial scheme = true) (cs : List Char)
    (ended : Bool) : readServer scheme cs ended = readServer scheme cs true := by
  unfold readServer
  rcases splitCredentials cs with ⟨credentials, - | ⟨c, authority⟩⟩
  · have none_read : readHost scheme [] = .error .emptyHost := by
      rw [readHost, if_pos special]
      rfl
    simp only [splitHost, none_read]
    cases credentials == some [] <;> cases ended <;> rfl
  · simp only [List.isEmpty_cons, Bool.and_false, Bool.false_and]

/-- A server is read from a host and, if a colon follows, from a port. -/
theorem readServer_cases {scheme : String} {cs : List Char} {ended : Bool} {host : Host}
    {port : Option Nat} {rest : List Char}
    (h : readServer scheme cs ended = .ok (host, port, rest)) :
    ∃ hostText, readHost scheme hostText = .ok host ∧
      (hostText = (splitCredentials cs).2 ∧ rest = [] ∨
        ∃ digits, hostText ++ ':' :: digits = (splitCredentials cs).2 ∧
          readPort scheme digits = .ok (port, rest)) := by
  obtain ⟨whole, behind⟩ := splitHost_spec false (splitCredentials cs).2
  simp only [readServer, bind, Except.bind, pure, Except.pure, throw, throwThe,
    MonadExceptOf.throw] at h
  repeat' split at h
  all_goals try cases h
  · rename_i colon digits parts _ _ taken read _ _
    refine ⟨_, read, .inr ⟨digits, ?_, taken⟩⟩
    rcases behind with nothing | ⟨more, begins⟩
    · rw [parts] at nothing
      cases nothing
    · obtain rfl := (List.cons.inj (parts.symm.trans begins)).1
      rw [← parts, whole]
  · rename_i none_left read _ _
    refine ⟨_, read, .inl ⟨?_, rfl⟩⟩
    rw [none_left, List.append_nil] at whole
    exact whole

/-- The authority of a server is not empty and does not end with white space or a control character;
all of it is read, unless a backslash ends it. -/
theorem readServer_spec {scheme : String} (special : isSpecial scheme = true) {cs : List Char}
    (slash : '\\' ∉ cs) {ended : Bool} {host : Host} {port : Option Nat} {rest : List Char}
    (h : readServer scheme cs ended = .ok (host, port, rest)) :
    rest = [] ∧ cs ≠ [] ∧ ∀ c, cs.getLast? = some c → isOuter c = false := by
  obtain ⟨hostText, read, ports⟩ := readServer_cases h
  have port_spec : ∀ {digits}, hostText ++ ':' :: digits = (splitCredentials cs).2 →
      readPort scheme digits = .ok (port, rest) →
      rest = [] ∧ ∀ c ∈ digits, c.isDigit = true := by
    intro digits parts taken
    refine readPort_spec (fun hm => slash (splitCredentials_subset cs ?_)) taken
    rw [← parts]
    simp [hm]
  refine ⟨?_, ?_, ?_⟩
  · rcases ports with ⟨-, hr⟩ | ⟨digits, parts, taken⟩
    · exact hr
    · exact (port_spec parts taken).1
  · rintro rfl
    rcases ports with ⟨rfl, -⟩ | ⟨digits, parts, -⟩
    · simp [splitCredentials, readHost, special] at read
    · simp [splitCredentials] at parts
  · intro c hc
    by_contra outer
    rw [Bool.not_eq_false] at outer
    obtain ⟨front, rfl⟩ := List.getLast?_eq_some_iff.1 hc
    have at_sign : c ≠ '@' := by
      rintro rfl
      exact absurd outer (by decide)
    obtain ⟨left, last⟩ := splitCredentials_concat at_sign front
    rcases ports with ⟨all, -⟩ | ⟨digits, parts, taken⟩
    · -- it is the end of the host
      obtain ⟨fault, refused⟩ := ofSpecial_of_isOuter outer left
      rw [all, last, readHost, if_pos special, if_neg (by simp), refused] at read
      cases read
    · -- it is the end of the port
      have ends := congrArg List.getLast? parts
      rw [last, List.getLast?_append_of_ne_nil _ (by simp), List.getLast?_concat] at ends
      rcases List.mem_cons.1 (List.mem_of_getLast? ends) with rfl | hm
      · exact absurd outer (by decide)
      · have digit := (port_spec parts taken).2 c hm
        have apart := apart_of_isOuter outer
        simp only [Char.isDigit, Bool.and_eq_true, decide_eq_true_eq] at digit
        have zero : 48 ≤ c.toNat := UInt32.le_iff_toNat_le.1 digit.1
        have nine : c.toNat ≤ 57 := UInt32.le_iff_toNat_le.1 digit.2
        omega

/-! ## Reading an authority -/

/-- The authority at the start of a text, in a special scheme. -/
def authority (cs : List Char) : List Char := cs.takeWhile (!isAuthorityEnd true ·)

/-- What follows the authority. -/
def afterAuthority (cs : List Char) : List Char := cs.dropWhile (!isAuthorityEnd true ·)

theorem authority_append_after (cs : List Char) : authority cs ++ afterAuthority cs = cs :=
  List.takeWhile_append_dropWhile

theorem isAuthorityEnd_of_mem_authority {c : Char} {cs : List Char} (h : c ∈ authority cs) :
    isAuthorityEnd true c = false := by
  have plain := List.mem_takeWhile_imp h
  simpa using plain

theorem backslash_not_mem_authority (cs : List Char) : '\\' ∉ authority cs := fun hm => by
  cases isAuthorityEnd_of_mem_authority hm

/-- In a special scheme the authority alone decides which server is read, and all that follows it
is path, query and fragment. -/
theorem readAuthority_eq_ok_iff {scheme : String} (special : isSpecial scheme = true)
    {cs : List Char} {url : Url} : readAuthority scheme cs = .ok url ↔
      ∃ host port, readServer scheme (authority cs) true = .ok (host, port, []) ∧
        serverUrl scheme host port (afterAuthority cs) = url := by
  simp only [readAuthority, special]
  rw [readServer_ended special]
  constructor
  · intro h
    obtain ⟨⟨host, port, rest⟩, hs, made⟩ := bind_eq_ok_iff.1 h
    obtain ⟨rfl, -, -⟩ := readServer_spec special (backslash_not_mem_authority cs) hs
    refine ⟨host, port, hs, ?_⟩
    rw [← Except.ok.inj made, serverUrl, special]
    rfl
  · rintro ⟨host, port, hs, rfl⟩
    unfold authority at hs
    rw [hs, serverUrl, special]
    rfl

/-! ## Hosts of servers -/

theorem ofBracketed_ne_empty {cs : List Char} {host : Host} (h : Host.ofBracketed cs = .ok host) :
    host ≠ .empty := by
  unfold Host.ofBracketed at h
  repeat' split at h
  all_goals cases h
  exact Host.noConfusion

theorem ofSpecial_ne_empty {cs : List Char} {host : Host} (h : Host.ofSpecial cs = .ok host) :
    host ≠ .empty := by
  unfold Host.ofSpecial at h
  split at h
  · exact ofBracketed_ne_empty h
  · split at h
    · unfold Host.ofDomain at h
      repeat' split at h
      all_goals cases h
      all_goals exact Host.noConfusion
    · cases h

/-- The URL of a server has a host that is not empty. -/
theorem exists_host {text : String} {url : Url} (h : parse text = .ok url)
    (special : isSpecial url.scheme = true) (server : url.scheme ≠ "file") :
    ∃ host, url.host = some host ∧ host ≠ .empty := by
  obtain ⟨rest, -, read, -⟩ := exists_server h special server
  obtain ⟨host, port, hs, made⟩ := (readAuthority_eq_ok_iff special).1 read
  obtain ⟨hostText, hh, -⟩ := readServer_cases hs
  refine ⟨host, by rw [← made]; rfl, ?_⟩
  rw [readHost, if_pos special] at hh
  split at hh
  · cases hh
  · exact ofSpecial_ne_empty hh

end Fleet.Url
