/-
URLs that go on behind a slash. What stands behind the slash that ends an authority decides neither
whether the URL can be read nor what its host is (`hostOf_readAuthority`), and what stands behind
any slash is no part of the scheme (`splitScheme?_append_slash`).
-/
import Fleet.Url.Basic

namespace Fleet.Url

/-! ## Lists of characters -/

section Lists

variable {p : Char → Bool} {c : Char} (h : p c = false) (front back : List Char)
include h

theorem takeWhile_append_cons : (front ++ c :: back).takeWhile p = front.takeWhile p := by
  induction front with
  | nil => simp [h]
  | cons x front ih => simp [List.takeWhile_cons, ih]

theorem dropWhile_append_cons :
    (front ++ c :: back).dropWhile p = front.dropWhile p ++ c :: back := by
  induction front with
  | nil => simp [h]
  | cons x front ih =>
    by_cases hx : p x
    · simp [hx, ih]
    · simp [hx]

theorem dropEndWhile_append_cons :
    Text.dropEndWhile p (front ++ c :: back) = front ++ c :: Text.dropEndWhile p back := by
  simp [Text.dropEndWhile, dropWhile_append_cons h]

end Lists

/-! ## The host of a URL -/

/-- What reading a URL comes to, as far as its host goes. -/
def hostOf (result : Except Fault Url) : Except Fault (Option Host) := result.map (·.host)

theorem hostOf_readAuthority (scheme : String) (front back : List Char) :
    hostOf (readAuthority scheme (front ++ '/' :: back)) =
      (readServer scheme (front.takeWhile (!isAuthorityEnd (isSpecial scheme) ·)) true).map
        (some ·.1) := by
  have ends : (fun c => !isAuthorityEnd (isSpecial scheme) c) '/' = false := by
    simp [isAuthorityEnd, isSlash]
  simp only [readAuthority]
  rw [takeWhile_append_cons (p := fun c => !isAuthorityEnd (isSpecial scheme) c) ends,
    dropWhile_append_cons (p := fun c => !isAuthorityEnd (isSpecial scheme) c) ends]
  have more : (!(front.dropWhile (!isAuthorityEnd (isSpecial scheme) ·) ++ '/' :: back).isEmpty) =
      true := by simp
  rw [more]
  cases readServer scheme (front.takeWhile (!isAuthorityEnd (isSpecial scheme) ·)) true <;> rfl

/-! ## The scheme of a URL -/

theorem splitScheme?_append_slash (front back : List Char) :
    splitScheme? (front ++ '/' :: back) =
      (splitScheme? front).map fun (scheme, rest) => (scheme, rest ++ '/' :: back) := by
  unfold splitScheme?
  rw [takeWhile_append_cons (by decide), dropWhile_append_cons (by decide)]
  cases front.takeWhile isSchemeChar with
  | nil => rfl
  | cons c name =>
    cases front.dropWhile isSchemeChar with
    | nil => rfl
    | cons d rest =>
      by_cases hd : d = ':'
      · subst hd
        simp only [List.cons_append]
        split <;> rfl
      · simp [hd]

end Fleet.Url
