/-
The texts that are accepted as credentials. A credential is a list of pairs, or there is nothing in
it but semicolons and white space (`ofText_eq_ok_iff_wellFormed_or_hollow`): only a text that is
empty is refused for having no pair, so a semicolon alone is accepted (`semicolon_accepted`).
-/
import Fleet.Proofs.Text.Tidy
import Fleet.Session.Cookie

namespace Fleet.SessionCookie

/-! ## The grammar -/

/-- A name, an equals sign and a value. The name is not empty, and no character of it is an equals
sign, white space or a comma. -/
def IsPair (cs : List Char) : Prop :=
  ∃ name value, cs = name ++ '=' :: value ∧ name ≠ [] ∧
    ∀ c ∈ name, c ≠ '=' ∧ Text.isBlank c = false ∧ c ≠ ','

/-- The list is made of these segments, with semicolons between them and none inside. -/
structure Segments (cs : List Char) (segments : List (List Char)) : Prop where
  joined : cs = [';'].intercalate segments
  apart : ∀ segment ∈ segments, ';' ∉ segment

/-- White space and nothing else. -/
def IsBlank (cs : List Char) : Prop := ∀ c ∈ cs, Text.isBlank c = true

/-- A list of pairs: every segment that is not blank is a pair without the white space around it,
and there is such a segment. No character is a control character. -/
structure WellFormed (text : String) : Prop where
  clean : ∀ c ∈ text.toList, Text.isControl c = false
  pairs : ∃ segments, Segments text.toList segments ∧
    (∀ segment ∈ segments, IsBlank segment ∨ IsPair (Text.trimBy Text.isBlank segment)) ∧
    ∃ segment ∈ segments, ¬ IsBlank segment

/-- Semicolons and white space, and nothing else. -/
structure Hollow (text : String) : Prop where
  nonempty : text ≠ ""
  clean : ∀ c ∈ text.toList, Text.isControl c = false
  only : ∀ c ∈ text.toList, c = ';' ∨ Text.isBlank c = true

/-! ## Pairs -/

theorem isName_iff {name : List Char} :
    isName name = true ↔ name ≠ [] ∧ ∀ c ∈ name, Text.isBlank c = false ∧ c ≠ ',' := by
  simp [isName]

/-- A name ends at the first equals sign. -/
theorem takeWhile_name {name : List Char} (h : '=' ∉ name) (value : List Char) :
    (name ++ '=' :: value).takeWhile (· != '=') = name := by
  have inside : ∀ c ∈ name, (c != '=') = true := by
    intro c hc
    rw [bne_iff_ne]
    rintro rfl
    exact h hc
  rw [List.takeWhile_append_of_pos inside, List.takeWhile_cons_of_neg (by simp), List.append_nil]

theorem checkPair_eq_ok_iff {pair : List Char} : checkPair pair = .ok () ↔ IsPair pair := by
  simp only [checkPair]
  constructor
  · intro h
    split at h
    · cases h
    · rename_i listed
      have listed : '=' ∈ pair := by simpa using listed
      obtain ⟨name, value, rfl, first⟩ := List.eq_append_cons_of_mem listed
      rw [takeWhile_name first] at h
      split at h
      · rename_i named
        obtain ⟨filled, allowed⟩ := isName_iff.1 named
        exact ⟨name, value, rfl, filled, fun c hc => ⟨ne_of_mem_of_not_mem hc first, allowed c hc⟩⟩
      · cases h
  · rintro ⟨name, value, rfl, filled, allowed⟩
    have first : '=' ∉ name := fun hc => (allowed _ hc).1 rfl
    have named : isName name = true := isName_iff.2 ⟨filled, fun c hc => (allowed c hc).2⟩
    rw [takeWhile_name first, if_neg (by simp), if_pos named]

/-! ## Segments -/

theorem segments_splitBy (cs : List Char) : Segments cs (Text.splitBy (· == ';') cs) where
  joined := (Text.intercalate_splitBy fun c _ hc => by simpa using hc).symm
  apart segment hs hc := by simpa using Text.not_mem_of_mem_splitBy hs ';' hc

/-- A list has no other segments. -/
theorem Segments.eq_splitBy {cs : List Char} {segments : List (List Char)}
    (h : Segments cs segments) (some_segment : segments ≠ []) :
    Text.splitBy (· == ';') cs = segments := by
  have unbroken : ∀ segment ∈ segments, ∀ c ∈ segment, (c == ';') = false := by
    intro segment hs c hc
    rw [beq_eq_false_iff_ne]
    exact ne_of_mem_of_not_mem hc (h.apart segment hs)
  rw [h.joined]
  exact Text.splitBy_intercalate rfl some_segment unbroken

theorem mem_pairs_iff {cs pair : List Char} :
    pair ∈ pairs cs ↔ ∃ segment ∈ Text.splitBy (· == ';') cs, ¬ IsBlank segment ∧
      Text.trimBy Text.isBlank segment = pair := by
  have filled : ∀ segment,
      (Text.trimBy Text.isBlank segment).isEmpty = false ↔ ¬ IsBlank segment := by
    intro segment
    rw [IsBlank, ← Text.trimBy_eq_nil_iff, List.isEmpty_eq_false_iff]
  simp only [pairs, List.mem_filter, List.mem_map, Bool.not_eq_true']
  constructor
  · rintro ⟨⟨segment, hs, rfl⟩, left⟩
    exact ⟨segment, hs, (filled segment).1 left, rfl⟩
  · rintro ⟨segment, hs, left, rfl⟩
    exact ⟨⟨segment, hs, rfl⟩, (filled segment).2 left⟩

/-- Where there are no pairs, there are only semicolons and white space. -/
theorem pairs_eq_nil_iff {cs : List Char} :
    pairs cs = [] ↔ ∀ c ∈ cs, c = ';' ∨ Text.isBlank c = true := by
  rw [List.eq_nil_iff_forall_not_mem]
  constructor
  · intro none_there c hc
    have whole : (Text.splitBy (· == ';') cs).flatMap (';' :: ·) = ';' :: cs :=
      Text.flatMap_splitBy fun c _ hc => beq_iff_eq.1 hc
    have inside : c ∈ ';' :: cs := List.mem_cons_of_mem _ hc
    rw [← whole, List.mem_flatMap] at inside
    obtain ⟨segment, hs, hc⟩ := inside
    refine (List.mem_cons.1 hc).imp_right fun hc => ?_
    by_contra filled
    exact none_there _ (mem_pairs_iff.2 ⟨segment, hs, fun blank => filled (blank c hc), rfl⟩)
  · intro only pair hp
    obtain ⟨segment, hs, filled, -⟩ := mem_pairs_iff.1 hp
    refine filled fun c hc => ?_
    rcases only c (Text.mem_of_mem_splitBy hs c hc) with rfl | blank
    · exact absurd hc ((segments_splitBy cs).apart segment hs)
    · exact blank

/-! ## Whole texts -/

theorem check_eq_ok_iff {text : String} :
    check text = .ok () ↔ text ≠ "" ∧ (∀ pair ∈ pairs text.toList, IsPair pair) ∧
      ∀ c ∈ text.toList, Text.isControl c = false := by
  unfold check
  rw [refuse_eq_ok_iff, bind_eq_ok_iff, String.isEmpty_iff]
  refine and_congr_right fun _ => ⟨?_, ?_⟩
  · rintro ⟨_, each, clean⟩
    refine ⟨fun pair hp => checkPair_eq_ok_iff.1 (forM_eq_ok_iff.1 each pair hp), ?_⟩
    split at clean
    · cases clean
    · rename_i found
      simpa using found
  · rintro ⟨each, clean⟩
    refine ⟨(), forM_eq_ok_iff.2 fun pair hp => checkPair_eq_ok_iff.2 (each pair hp), ?_⟩
    exact if_neg (by simpa using clean)

theorem wellFormed_iff {text : String} :
    WellFormed text ↔ (∀ c ∈ text.toList, Text.isControl c = false) ∧
      (∀ pair ∈ pairs text.toList, IsPair pair) ∧ pairs text.toList ≠ [] := by
  constructor
  · rintro ⟨clean, segments, parts, each, segment, hs, filled⟩
    have own := parts.eq_splitBy (List.ne_nil_of_mem hs)
    refine ⟨clean, fun pair hp => ?_, ?_⟩
    · obtain ⟨segment, hs, filled, rfl⟩ := mem_pairs_iff.1 hp
      exact (each segment (own ▸ hs)).resolve_left filled
    · exact List.ne_nil_of_mem (mem_pairs_iff.2 ⟨segment, own ▸ hs, filled, rfl⟩)
  · rintro ⟨clean, each, some_pair⟩
    obtain ⟨pair, hp⟩ := List.exists_mem_of_ne_nil _ some_pair
    obtain ⟨segment, hs, filled, -⟩ := mem_pairs_iff.1 hp
    refine ⟨clean, _, segments_splitBy _, fun segment hs => ?_, segment, hs, filled⟩
    by_cases blank : IsBlank segment
    · exact .inl blank
    · exact .inr (each _ (mem_pairs_iff.2 ⟨segment, hs, blank, rfl⟩))

/-- What passes the check is a list of pairs, or there are none in it. -/
theorem check_eq_ok_iff_wellFormed_or_hollow {text : String} :
    check text = .ok () ↔ WellFormed text ∨ Hollow text := by
  rw [check_eq_ok_iff, wellFormed_iff]
  constructor
  · rintro ⟨nonempty, each, clean⟩
    by_cases none_there : pairs text.toList = []
    · exact .inr ⟨nonempty, clean, pairs_eq_nil_iff.1 none_there⟩
    · exact .inl ⟨clean, each, none_there⟩
  · rintro (⟨clean, each, some_pair⟩ | ⟨nonempty, clean, only⟩)
    · refine ⟨?_, each, clean⟩
      rintro rfl
      exact some_pair rfl
    · exact ⟨nonempty, by simp [pairs_eq_nil_iff.2 only], clean⟩

/-- A credential without white space has an equals sign or a semicolon in it. -/
theorem exists_mark_of_check {text : String} (solid : Text.Solid text) (h : check text = .ok ()) :
    '=' ∈ text.toList ∨ ';' ∈ text.toList := by
  obtain ⟨-, each, -⟩ := check_eq_ok_iff.1 h
  by_cases none_there : pairs text.toList = []
  · obtain ⟨c, hc⟩ := List.exists_mem_of_ne_nil _ solid.ne_nil
    rcases pairs_eq_nil_iff.1 none_there c hc with rfl | blank
    · exact .inr hc
    · rw [solid.unbroken c hc] at blank
      cases blank
  · obtain ⟨pair, hp⟩ := List.exists_mem_of_ne_nil _ none_there
    obtain ⟨segment, hs, -, trimmed⟩ := mem_pairs_iff.1 hp
    obtain ⟨name, value, parts, -⟩ := each pair hp
    obtain ⟨front, back, whole, -⟩ := Text.exists_trimBy Text.isBlank segment
    refine .inl (Text.mem_of_mem_splitBy hs _ ?_)
    rw [whole, trimmed, parts]
    simp

/-- A text is accepted exactly if trimming leaves a list of pairs, or nothing but semicolons and
white space. What is kept is what trimming leaves. -/
theorem ofText_eq_ok_iff_wellFormed_or_hollow {text kept : String} :
    (∃ cookie, ofText text = .ok cookie ∧ cookie.text = kept) ↔ kept = Text.trim text ∧
      (WellFormed (Text.trim text) ∨ Hollow (Text.trim text)) := by
  rw [← check_eq_ok_iff_wellFormed_or_hollow, ← exists_ofText_iff]
  constructor
  · rintro ⟨cookie, h, rfl⟩
    exact ⟨text_of_ofText h, cookie, h⟩
  · rintro ⟨rfl, cookie, h⟩
    exact ⟨cookie, h, text_of_ofText h⟩

/-- A semicolon alone is accepted, and there is no pair in it. -/
theorem semicolon_accepted : ¬ ∀ text : String,
    (∃ cookie, ofText text = .ok cookie) ↔ WellFormed (Text.trim text) := by
  intro agrees
  have accepted : ∃ cookie, ofText ";" = .ok cookie := exists_ofText_iff.2 (by decide +kernel)
  have none_there : pairs (Text.trim ";").toList = [] := by decide +kernel
  exact (wellFormed_iff.1 ((agrees ";").1 accepted)).2.2 none_there

end Fleet.SessionCookie
