/-
Paths behind one another. The segments of a request path stand behind those of the path in front of
it as they are written (`pathOf_pushAll`). What the end of a path hides, and a slash there, comes to
light when the path goes on, so the two make the path that is expected exactly if there is neither
(`pathOf_pushSegment_iff`).
-/
import Fleet.Proofs.Url.Server

namespace Fleet.Url

/-! ## Paths as they are written -/

/-- The path of the segments kept. -/
def pathOf (kept : List (List Char)) : List Char := kept.reverse.flatMap ('/' :: ·)

@[simp]
theorem pathOf_cons (segment : List Char) (kept : List (List Char)) :
    pathOf (segment :: kept) = pathOf kept ++ '/' :: segment := by
  simp [pathOf]

theorem chars_names (kept : List (List Char)) :
    (Path.segments (names kept)).chars = pathOf kept := by
  simp only [Path.chars, names, pathOf, List.flatMap_map, String.toList_ofList]

theorem length_pathOf_tail_le (kept : List (List Char)) :
    (pathOf kept.tail).length ≤ (pathOf kept).length := by
  cases kept with
  | nil => exact Nat.le_refl _
  | cons segment kept => simp

/-- A path without the slash at its end, if there is one. -/
def withoutEndSlash (path : List Char) : List Char :=
  if path.getLast? = some '/' then path.dropLast else path

@[simp]
theorem withoutEndSlash_concat (path : List Char) : withoutEndSlash (path ++ ['/']) = path := by
  simp [withoutEndSlash]

theorem withoutEndSlash_eq_self {path : List Char} (h : path.getLast? ≠ some '/') :
    withoutEndSlash path = path := if_neg h

theorem length_withoutEndSlash_le (path : List Char) :
    (withoutEndSlash path).length ≤ path.length := by
  unfold withoutEndSlash
  split
  · simp
  · exact Nat.le_refl _

/-! ## Request paths -/

/-- Whether a character may stand in a segment of a request path. -/
def isSegmentChar (c : Char) : Bool := c.isAlphanum || c == '-'

/-- A request path: segments of letters, digits and hyphens, each behind a slash. -/
structure RequestPath (path : List Char) : Prop where
  slash : path.head? = some '/'
  plain : ∀ c ∈ path, c = '/' ∨ isSegmentChar c = true

theorem requestPath_iff {path : List Char} : RequestPath path ↔
    path.head? = some '/' ∧ path.all (fun c => c == '/' || isSegmentChar c) = true := by
  simp only [List.all_eq_true, Bool.or_eq_true, beq_iff_eq]
  exact ⟨fun request => ⟨request.slash, request.plain⟩, fun ⟨slash, plain⟩ => ⟨slash, plain⟩⟩

instance (path : List Char) : Decidable (RequestPath path) :=
  decidable_of_iff' _ requestPath_iff

/-- What is said of small characters is checked for one code after the other. -/
theorem forall_char_lt {bound : Nat} {P : Char → Prop} (h : ∀ n < bound, P (Char.ofNat n)) :
    ∀ c : Char, c.toNat < bound → P c := fun c hc => by
  have hp := h c.toNat hc
  rwa [Char.ofNat_toNat] at hp

/-- The characters of segments stand for themselves wherever they are read. -/
structure PlainChar (c : Char) : Prop where
  encoded : pathSet c = false
  slash : isSlash true c = false
  edge : isEdge c = false
  unbroken : isBreak c = false
  dot : c ≠ '.'
  percent : c ≠ '%'
  question : c ≠ '?'
  hash : c ≠ '#'

theorem toNat_of_isAlpha {c : Char} (h : c.isAlpha = true) :
    65 ≤ c.toNat ∧ c.toNat ≤ 90 ∨ 97 ≤ c.toNat ∧ c.toNat ≤ 122 := by
  have ranges : (decide (65 ≤ c.val ∧ c.val ≤ 90) || (97 ≤ c.val && c.val ≤ 122)) = true := h
  simp only [Bool.or_eq_true, Bool.and_eq_true, decide_eq_true_eq, UInt32.le_iff_toNat_le] at ranges
  exact ranges

theorem plainChar_of_isSegmentChar {c : Char} (h : isSegmentChar c = true) : PlainChar c := by
  have small : c.toNat < 128 := by
    simp only [isSegmentChar, Char.isAlphanum, Bool.or_eq_true, beq_iff_eq] at h
    rcases h with (letter | digit) | rfl
    · have := toNat_of_isAlpha letter
      omega
    · exact Nat.lt_of_le_of_lt (Char.isDigit_iff_toNat.1 digit).2 (by decide)
    · decide
  have table : ∀ c : Char, c.toNat < 128 → isSegmentChar c = true →
      pathSet c = false ∧ isSlash true c = false ∧ isEdge c = false ∧ isBreak c = false ∧
        c ≠ '.' ∧ c ≠ '%' ∧ c ≠ '?' ∧ c ≠ '#' := forall_char_lt (by decide +kernel)
  obtain ⟨encoded, slash, edge, unbroken, dot, percent, question, hash⟩ := table c small h
  exact ⟨encoded, slash, edge, unbroken, dot, percent, question, hash⟩

theorem encode_of_plain {segment : List Char} (h : ∀ c ∈ segment, PlainChar c) :
    encode pathSet segment = segment := by
  induction segment with
  | nil => rfl
  | cons c segment ih =>
    have single : encodeChar pathSet c = [c] :=
      if_neg (by rw [(h c List.mem_cons_self).encoded]; exact Bool.false_ne_true)
    have rest := ih fun d hd => h d (List.mem_cons_of_mem _ hd)
    rw [encode] at rest ⊢
    rw [List.flatMap_cons, single, rest]
    rfl

/-! ## Dots -/

theorem plainDots_of_not_mem {segment : List Char} (h : '%' ∉ segment) :
    plainDots segment = segment := by
  induction segment using plainDots.induct with
  | case1 c cs letter ih => exact absurd List.mem_cons_self h
  | case2 c cs letter ih => exact absurd List.mem_cons_self h
  | case3 c cs other ih =>
    rw [plainDots, ih fun hm => h (List.mem_cons_of_mem _ hm)]
    exact other
  | case4 => rfl

theorem isDotted_of_plain {segment : List Char} (h : ∀ c ∈ segment, PlainChar c) :
    isDotted segment = false := by
  have plain : plainDots segment = segment :=
    plainDots_of_not_mem fun hm => (h _ hm).percent rfl
  have dotless : '.' ∉ segment := fun hm => (h _ hm).dot rfl
  rw [isDotted, isDot, isDoubleDot, plain, Bool.or_eq_false_iff, beq_eq_false_iff_ne,
    beq_eq_false_iff_ne]
  constructor
  · rintro rfl
    exact dotless List.mem_cons_self
  · rintro rfl
    exact dotless List.mem_cons_self

/-- The characters that dots are written with. -/
def dotMarks : List Char := ['.', '%', '2', 'e', 'E']

theorem mem_of_plainDots {segment : List Char} (h : ∀ c ∈ plainDots segment, c = '.') :
    ∀ c ∈ segment, c ∈ dotMarks := by
  induction segment using plainDots.induct with
  | case1 c cs letter ih =>
    rw [plainDots, if_pos letter] at h
    have rest := ih fun d hd => h d (List.mem_cons_of_mem _ hd)
    simp only [Bool.or_eq_true, beq_iff_eq] at letter
    simp only [List.forall_mem_cons]
    refine ⟨by decide, by decide, ?_, rest⟩
    rcases letter with rfl | rfl <;> decide
  | case2 c cs letter ih =>
    rw [plainDots, if_neg letter] at h
    exact absurd (h '%' List.mem_cons_self) (by decide)
  | case3 c cs other ih =>
    rw [plainDots] at h
    · rw [List.forall_mem_cons]
      refine ⟨?_, ih fun d hd => h d (List.mem_cons_of_mem _ hd)⟩
      rw [h c List.mem_cons_self]
      decide
    · exact other
  | case4 => simp

/-- A blank or control character is encoded with a digit that no dot is written with. -/
theorem exists_mem_encodeChar {c : Char} (edge : isEdge c = true) :
    ∃ d ∈ encodeChar pathSet c, d ∉ dotMarks := by
  have table : ∀ c : Char, c.toNat < 33 →
      (encodeChar pathSet c).all (dotMarks.contains ·) = false := forall_char_lt (by decide)
  have low := toNat_of_isEdge edge
  obtain ⟨d, hd, unlike⟩ := List.all_eq_false.1 (table c (by omega))
  exact ⟨d, hd, by simpa using unlike⟩

theorem isDotted_of_isEdge {segment : List Char} {c : Char} (hc : c ∈ segment)
    (edge : isEdge c = true) : isDotted (encode pathSet segment) = false := by
  obtain ⟨d, hd, unlike⟩ := exists_mem_encodeChar edge
  have shown : d ∈ encode pathSet segment := List.mem_flatMap.2 ⟨c, hc, hd⟩
  have other : ∀ dots : List Char, (∀ x ∈ dots, x = '.') →
      plainDots (encode pathSet segment) ≠ dots := by
    rintro dots all rfl
    exact unlike (mem_of_plainDots all d shown)
  rw [isDotted, isDot, isDoubleDot, Bool.or_eq_false_iff, beq_eq_false_iff_ne, beq_eq_false_iff_ne]
  exact ⟨other _ (by simp), other _ (by simp)⟩

/-! ## Segments that go on -/

theorem push_of_not_isDotted {segment : List Char} (plain : isDotted segment = false)
    (kept : List (List Char)) :
    pushSegment kept segment = segment :: kept ∧ pushLast kept segment = segment :: kept := by
  rw [isDotted, Bool.or_eq_false_iff] at plain
  rw [pushSegment, pushLast, plain.1, plain.2]
  exact ⟨rfl, rfl⟩

theorem pathOf_pushAll_of_not_isDotted (kept : List (List Char)) {pieces : List (List Char)}
    (some_piece : pieces ≠ []) (plain : ∀ piece ∈ pieces, isDotted piece = false) :
    pathOf (pushAll kept pieces) = pathOf kept ++ pieces.flatMap ('/' :: ·) := by
  induction pieces generalizing kept with
  | nil => exact absurd rfl some_piece
  | cons piece pieces ih =>
    obtain ⟨pushed, last⟩ := push_of_not_isDotted (plain piece List.mem_cons_self) kept
    cases pieces with
    | nil => simp [pushAll, last]
    | cons next pieces =>
      rw [pushAll, pushed, ih _ (by simp) fun other ho => plain other (List.mem_cons_of_mem _ ho),
        pathOf_cons, List.append_assoc]
      · rfl
      · exact List.cons_ne_nil _ _

/-- Plain segments stand behind those that are kept as they are written. -/
theorem pathOf_pushAll (kept : List (List Char)) {cs : List Char}
    (h : ∀ c ∈ cs, c = '/' ∨ PlainChar c) :
    pathOf (pushAll kept (written cs)) = pathOf kept ++ '/' :: cs := by
  have plain : ∀ piece ∈ Text.splitBy (isSlash true) cs, ∀ c ∈ piece, PlainChar c := by
    intro piece hp c hc
    rcases h c (Text.mem_of_mem_splitBy hp c hc) with rfl | plain
    · exact absurd (Text.not_mem_of_mem_splitBy hp '/' hc) (by decide)
    · exact plain
  have whole : written cs = Text.splitBy (isSlash true) cs := by
    rw [written]
    conv_rhs => rw [← List.map_id (Text.splitBy (isSlash true) cs)]
    exact List.map_congr_left fun piece hp => encode_of_plain (plain piece hp)
  rw [whole, pathOf_pushAll_of_not_isDotted kept (Text.splitBy_ne_nil _ _)
    fun piece hp => isDotted_of_plain (plain piece hp), Text.flatMap_splitBy]
  intro c hc slash
  rcases h c hc with rfl | plain
  · rfl
  · rw [plain.slash] at slash
    cases slash

theorem encodeChar_ne_nil (set : Char → Bool) (c : Char) : encodeChar set c ≠ [] := by
  unfold encodeChar
  split
  · intro none_left
    obtain ⟨b, hb⟩ := List.exists_mem_of_ne_nil _ (String.utf8EncodeChar_ne_nil (c := c))
    exact absurd (List.flatMap_eq_nil_iff.1 none_left b hb) (List.cons_ne_nil _ _)
  · exact List.cons_ne_nil _ _

/-- No slash comes about by encoding. -/
theorem slash_not_mem_encode {segment : List Char} (slash : '/' ∉ segment) :
    '/' ∉ encode pathSet segment := by
  have digits : ∀ n < 16, hexDigit n ≠ '/' := by decide
  intro hm
  obtain ⟨c, hc, hm⟩ := List.mem_flatMap.1 hm
  unfold encodeChar at hm
  split at hm
  · obtain ⟨b, -, hm⟩ := List.mem_flatMap.1 hm
    have hb := b.toNat_lt
    simp only [encodeByte, List.mem_cons, List.not_mem_nil, or_false] at hm
    rcases hm with percent | high | low
    · cases percent
    · exact digits _ (by omega) high.symm
    · exact digits _ (by omega) low.symm
  · rw [List.mem_singleton] at hm
    exact slash (hm ▸ hc)

theorem pathOf_pushLast_le (kept : List (List Char)) (segment : List Char) :
    (pathOf (pushLast kept segment)).length ≤ (pathOf kept).length + 1 + segment.length := by
  have tail := length_pathOf_tail_le kept
  unfold pushLast
  split
  · simp only [pathOf_cons, List.length_append, List.length_cons, List.length_nil]
    omega
  · split <;> simp only [pathOf_cons, List.length_append, List.length_cons, List.length_nil] <;>
      omega

theorem push_of_isDotted {segment : List Char} (dotted : isDotted segment = true)
    (kept : List (List Char)) : pushLast kept segment = [] :: pushSegment kept segment := by
  rw [isDotted, Bool.or_eq_true] at dotted
  unfold pushLast pushSegment
  split
  · rfl
  · rename_i double
    rw [if_pos (dotted.resolve_right double), if_pos (dotted.resolve_right double)]

/-- A path goes on from its last segment, and a slash there would be doubled. -/
theorem pathOf_pushSegment (kept : List (List Char)) {last : List Char} (slash : '/' ∉ last) :
    pathOf (pushSegment kept (encode pathSet last)) =
      withoutEndSlash (pathOf (pushLast kept (encode pathSet last))) ↔ last ≠ [] := by
  cases dotted : isDotted (encode pathSet last) with
  | false =>
    obtain ⟨pushed, ends⟩ := push_of_not_isDotted dotted kept
    rw [pushed, ends, pathOf_cons]
    rcases List.eq_nil_or_concat last with rfl | ⟨init, c, rfl⟩
    · -- the slash in front of the empty segment would be cut off
      simp [encode]
    · have some_char : encode pathSet (init.concat c) ≠ [] := by
        rw [List.concat_eq_append, encode_append]
        simp [encode, encodeChar_ne_nil]
      rw [withoutEndSlash_eq_self]
      · simp
      · intro ends
        rw [← List.singleton_append, ← List.append_assoc,
          List.getLast?_append_of_ne_nil _ some_char] at ends
        exact slash_not_mem_encode slash (List.mem_of_getLast? ends)
  | true =>
    -- dots at the end leave an empty segment, which goes when the path goes on
    rw [push_of_isDotted dotted, pathOf_cons, withoutEndSlash_concat]
    simp only [true_iff]
    rintro rfl
    cases dotted

/-- What is hidden at the end of a path shows in the last segment when the path goes on. -/
theorem pathOf_pushSegment_iff (kept : List (List Char)) {last hidden : List Char}
    (slash : '/' ∉ last) (edges : ∀ c ∈ hidden, isEdge c = true) :
    pathOf (pushSegment kept (encode pathSet (last ++ hidden))) =
      withoutEndSlash (pathOf (pushLast kept (encode pathSet last))) ↔
    hidden = [] ∧ last ≠ [] := by
  cases hidden with
  | nil =>
    rw [List.append_nil, pathOf_pushSegment kept slash]
    simp
  | cons c hidden =>
    have plain : isDotted (encode pathSet (last ++ c :: hidden)) = false :=
      isDotted_of_isEdge (by simp) (edges c List.mem_cons_self)
    have shorter := length_withoutEndSlash_le (pathOf (pushLast kept (encode pathSet last)))
    have short := pathOf_pushLast_le kept (encode pathSet last)
    have shown : 0 < (encodeChar pathSet c).length :=
      List.length_pos_iff.2 (encodeChar_ne_nil pathSet c)
    constructor
    · -- the path is longer than expected by what was hidden
      intro same
      have lengths := congrArg List.length same
      rw [(push_of_not_isDotted plain kept).1, pathOf_cons, encode_append] at lengths
      simp only [encode, List.flatMap_cons, List.length_append, List.length_cons]
        at lengths short shorter
      omega
    · rintro ⟨⟨⟩, -⟩

end Fleet.Url
