/-
Cutting a text at every character of a class. The pieces joined by the characters cut out give
the text back; there is always at least one piece, and no piece holds a character of the class.
-/
namespace Fleet.Text

/-- The pieces of the list between the characters in the class `p`, empty ones included. -/
def splitBy (p : Char → Bool) : List Char → List (List Char)
  | [] => [[]]
  | c :: cs =>
    if p c then [] :: splitBy p cs
    else
      match splitBy p cs with
      | piece :: pieces => (c :: piece) :: pieces
      | [] => [[c]]

/-- The non-empty pieces: the maximal runs of characters outside the class `p`. -/
def wordsBy (p : Char → Bool) (cs : List Char) : List (List Char) :=
  (splitBy p cs).filter (!·.isEmpty)

theorem splitBy_ne_nil (p : Char → Bool) (cs : List Char) : splitBy p cs ≠ [] := by
  cases cs with
  | nil => simp [splitBy]
  | cons c cs =>
    unfold splitBy
    split
    · simp
    · split <;> simp

theorem exists_last_splitBy (p : Char → Bool) (cs : List Char) :
    ∃ front last, splitBy p cs = front ++ [last] :=
  ⟨_, _, (List.dropLast_concat_getLast (splitBy_ne_nil p cs)).symm⟩

theorem not_mem_of_mem_splitBy {p : Char → Bool} {cs piece : List Char}
    (h : piece ∈ splitBy p cs) : ∀ c ∈ piece, p c = false := by
  induction cs generalizing piece with
  | nil => simp_all [splitBy]
  | cons c cs ih =>
    unfold splitBy at h
    split at h
    · rcases List.mem_cons.mp h with rfl | h
      · simp
      · exact ih h
    · rename_i hc
      cases hs : splitBy p cs with
      | nil => exact absurd hs (splitBy_ne_nil p cs)
      | cons first pieces =>
        rw [hs] at h ih
        rcases List.mem_cons.mp h with rfl | h
        · intro d hd
          rcases List.mem_cons.mp hd with rfl | hd
          · simpa using hc
          · exact ih (by simp) d hd
        · exact ih (List.mem_cons_of_mem _ h)

theorem splitBy_append_cons {p : Char → Bool} {c : Char} (hc : p c = true) (front back : List Char) :
    splitBy p (front ++ c :: back) = splitBy p front ++ splitBy p back := by
  induction front with
  | nil => simp [splitBy, hc]
  | cons d front ih =>
    rw [List.cons_append, splitBy, splitBy, ih]
    by_cases hd : p d = true
    · rw [if_pos hd, if_pos hd, List.cons_append]
    · rw [if_neg hd, if_neg hd]
      cases hs : splitBy p front with
      | nil => exact absurd hs (splitBy_ne_nil p front)
      | cons piece pieces => rfl

/-- A list without a character of the class is one piece. -/
theorem splitBy_eq_singleton {p : Char → Bool} {cs : List Char} (h : ∀ c ∈ cs, p c = false) :
    splitBy p cs = [cs] := by
  induction cs with
  | nil => rfl
  | cons c cs ih =>
    rw [splitBy, if_neg (by simp [h c]), ih fun d hd => h d (List.mem_cons_of_mem _ hd)]

/-- No piece holds a character that the list does not hold. -/
theorem mem_of_mem_splitBy {p : Char → Bool} {cs piece : List Char} (h : piece ∈ splitBy p cs) :
    ∀ c ∈ piece, c ∈ cs := by
  induction cs generalizing piece with
  | nil => simp_all [splitBy]
  | cons d cs ih =>
    unfold splitBy at h
    split at h
    · rcases List.mem_cons.mp h with rfl | h
      · simp
      · exact fun c hc => List.mem_cons_of_mem _ (ih h c hc)
    · cases hs : splitBy p cs with
      | nil => exact absurd hs (splitBy_ne_nil p cs)
      | cons first pieces =>
        rw [hs] at h ih
        rcases List.mem_cons.mp h with rfl | h
        · intro c hc
          rcases List.mem_cons.mp hc with rfl | hc
          · exact List.mem_cons_self
          · exact List.mem_cons_of_mem _ (ih (by simp) c hc)
        · exact fun c hc => List.mem_cons_of_mem _ (ih (List.mem_cons_of_mem _ h) c hc)

/-- What holds no character of the class belongs to the last piece. -/
theorem splitBy_append_of_neg {p : Char → Bool} {back : List Char} (h : ∀ c ∈ back, p c = false)
    {cs last : List Char} {front : List (List Char)} (pieces : splitBy p cs = front ++ [last]) :
    splitBy p (cs ++ back) = front ++ [last ++ back] := by
  induction cs generalizing front last with
  | nil =>
    rcases front with - | ⟨piece, front⟩
    · obtain ⟨rfl, -⟩ := List.cons.inj pieces
      exact splitBy_eq_singleton h
    · exact absurd (List.cons.inj pieces).2.symm (by simp)
  | cons c cs ih =>
    rw [List.cons_append, splitBy]
    rw [splitBy] at pieces
    split
    · rename_i hc
      rw [if_pos hc] at pieces
      rcases front with - | ⟨piece, front⟩
      · exact absurd (List.cons.inj pieces).2 (splitBy_ne_nil p cs)
      · obtain ⟨rfl, rest⟩ := List.cons.inj pieces
        rw [ih rest, List.cons_append]
    · rename_i hc
      rw [if_neg hc] at pieces
      cases hs : splitBy p cs with
      | nil => exact absurd hs (splitBy_ne_nil p cs)
      | cons first more =>
        rw [hs] at pieces
        rcases front with - | ⟨piece, front⟩
        · obtain ⟨rfl, rfl⟩ := List.cons.inj pieces
          rw [ih (show splitBy p cs = [] ++ [first] from hs)]
          rfl
        · obtain ⟨rfl, rfl⟩ := List.cons.inj pieces
          rw [ih (show splitBy p cs = (first :: front) ++ [last] from hs)]
          rfl

/-- The last piece is empty if nothing stands behind the last character that is cut out. -/
theorem last_splitBy_eq_nil_iff {p : Char → Bool} {cs last : List Char} {front : List (List Char)}
    (pieces : splitBy p cs = front ++ [last]) :
    last = [] ↔ ∀ c, cs.getLast? = some c → p c = true := by
  rcases List.eq_nil_or_concat cs with rfl | ⟨init, d, rfl⟩
  · have single : [] ++ [[]] = front ++ [last] := pieces
    have ends : last = [] := (List.cons.inj (List.append_inj_right' single rfl)).1.symm
    simp [ends]
  · rw [List.concat_eq_append] at pieces ⊢
    simp only [List.getLast?_concat, Option.some.injEq, forall_eq']
    by_cases hd : p d = true
    · rw [splitBy_append_cons hd] at pieces
      have ends : last = [] := (List.cons.inj (List.append_inj_right' pieces rfl)).1.symm
      simp [hd, ends]
    · obtain ⟨before, piece, hb⟩ := exists_last_splitBy p init
      rw [splitBy_append_of_neg (by simpa using hd) hb] at pieces
      have ends : last = piece ++ [d] := (List.cons.inj (List.append_inj_right' pieces rfl)).1.symm
      simp [hd, ends]

/-- The pieces between separators, each behind a separator, give the list back. -/
theorem flatMap_splitBy {p : Char → Bool} {separator : Char} {cs : List Char}
    (h : ∀ c ∈ cs, p c = true → c = separator) :
    (splitBy p cs).flatMap (separator :: ·) = separator :: cs := by
  induction cs with
  | nil => rfl
  | cons c cs ih =>
    have rest := ih fun d hd => h d (List.mem_cons_of_mem _ hd)
    rw [splitBy]
    split
    · rename_i hc
      rw [h c List.mem_cons_self hc, List.flatMap_cons, rest]
      rfl
    · cases hs : splitBy p cs with
      | nil => exact absurd hs (splitBy_ne_nil p cs)
      | cons first more =>
        rw [hs, List.flatMap_cons, List.cons_append, List.cons.injEq] at rest
        rw [List.flatMap_cons, List.cons_append, List.cons_append, rest.2]

/-- The pieces with the separator between them give the list back. -/
theorem intercalate_splitBy {p : Char → Bool} {separator : Char} {cs : List Char}
    (h : ∀ c ∈ cs, p c = true → c = separator) : [separator].intercalate (splitBy p cs) = cs := by
  induction cs with
  | nil => rfl
  | cons c cs ih =>
    have rest := ih fun d hd => h d (List.mem_cons_of_mem _ hd)
    obtain ⟨piece, pieces, hs⟩ := List.exists_cons_of_ne_nil (splitBy_ne_nil p cs)
    rw [hs] at rest
    rw [splitBy, hs]
    split
    · rename_i hc
      rw [h c List.mem_cons_self hc, List.intercalate_cons_cons, rest]
      rfl
    · cases pieces with
      | nil =>
        simp only [List.intercalate_singleton] at rest ⊢
        rw [rest]
      | cons next pieces =>
        rw [List.intercalate_cons_cons] at rest ⊢
        rw [List.cons_append, List.cons_append, rest]

/-- Pieces without a character of the class are found again between separators. -/
theorem splitBy_intercalate {p : Char → Bool} {separator : Char} (hp : p separator = true)
    {pieces : List (List Char)} (some_piece : pieces ≠ [])
    (h : ∀ piece ∈ pieces, ∀ c ∈ piece, p c = false) :
    splitBy p ([separator].intercalate pieces) = pieces := by
  induction pieces with
  | nil => exact absurd rfl some_piece
  | cons piece pieces ih =>
    have first := splitBy_eq_singleton (h piece List.mem_cons_self)
    cases pieces with
    | nil => rw [List.intercalate_singleton, first]
    | cons next pieces =>
      have rest := ih (by simp) fun piece hp => h piece (List.mem_cons_of_mem _ hp)
      rw [List.intercalate_cons_cons, List.append_assoc, List.singleton_append,
        splitBy_append_cons hp, first, rest]
      rfl

end Fleet.Text
