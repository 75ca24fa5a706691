import DodgingInfinity.Library.Checked

/-!
# Canonical target URLs

The one canonicalization of GitHub repository, issue and pull-request URLs.
Strings are walked as lists of characters, and the checks run in the order of
the source, so that each hostile input maps to one problem code.
-/

namespace DodgingInfinity

open Checked

namespace Canonical

/-- The problem codes of a refused URL. -/
inductive UrlProblem where
  | notText
  | tooLong
  | controlCharacter
  | nonAscii
  | shellCharacter
  | percentEncoded
  | multiTarget
  | schemeRelative
  | unsupportedScheme
  | query
  | fragment
  | userinfo
  | port
  | punycode
  | hostCase
  | hostConfusable
  | wrongHost
  | pathShape
  | traversal
  | emptySegment
  | badNumber
  | badName
  | gitSuffix
  deriving DecidableEq

/-- The page kind an issue or pull-request URL names. -/
inductive TargetKind where
  | issue
  | pullRequest
  deriving DecidableEq

def TargetKind.segment : TargetKind → String
  | .issue => "issues"
  | .pullRequest => "pull"

structure CanonicalTarget where
  host : String
  owner : String
  repo : String
  kind : Option TargetKind
  number : Option Nat
  repositoryUrl : String
  canonicalUrl : String
  deriving DecidableEq

def canonicalTargetHost : List Char := "github.com".toList

def schemePrefix : List Char := "https://".toList

def maxTargetUrlChars : Nat := 512

def maxTargetNameChars : Nat := 100

def nameChars : List Char :=
  ("abcdefghijklmnopqrstuvwxyz" ++ "ABCDEFGHIJKLMNOPQRSTUVWXYZ" ++ "0123456789._-").toList

def shellChars : List Char := ";|&$`<>()\x7b\x7d[]'\"\\*!~^ \t".toList

/-- The number of places at which `part` starts. -/
def countStarts (part : List Char) : List Char → Nat
  | [] => 0
  | character :: rest =>
      (if part.isPrefixOf (character :: rest) then 1 else 0) + countStarts part rest

def lower (characters : List Char) : List Char := characters.map Char.toLower

/-- Why one character of a URL is refused, if it is. -/
def characterProblem (character : Char) : Option UrlProblem :=
  if character.toNat < 0x20 ∨ character.toNat = 0x7F then
    some .controlCharacter
  else if character.toNat > 0x7E then some .nonAscii
  else if character ∈ shellChars then some .shellCharacter
  else none

def requireCharacter (character : Char) : Except UrlProblem Unit :=
  match characterProblem character with
  | some problem => .error problem
  | none => .ok ()

/-- One owner or repository path segment. -/
def requireName (value : List Char) : Except UrlProblem Unit :=
  Checked.failIf (value = [] ∨ value.length > maxTargetNameChars ∨
    (∃ character ∈ value, character ∉ nameChars) ∨
    value.head? = some '.' ∨ value.head? = some '-') .badName

/-- The refusals of an authority other than the one canonical host. -/
def requireHost (authority : List Char) : Except UrlProblem Unit := do
  Checked.failIf ('@' ∈ authority) .userinfo
  Checked.failIf (':' ∈ authority) .port
  Checked.failIf (countStarts "xn--".toList (lower authority) ≠ 0) .punycode
  Checked.failIf (authority ≠ canonicalTargetHost ∧ lower authority = canonicalTargetHost) .hostCase
  Checked.failIf (authority ≠ canonicalTargetHost ∧
    (canonicalTargetHost ++ ['.']).isPrefixOf (lower authority)) .hostConfusable
  Checked.failIf (authority ≠ canonicalTargetHost) .wrongHost

def requireSegment (segment : List Char) : Except UrlProblem Unit := do
  Checked.failIf (segment = ".".toList ∨ segment = "..".toList) .traversal
  Checked.failIf (segment = []) .emptySegment

/-- The value of a list of decimal digits. -/
def decimalValue (digits : List Char) : Nat :=
  digits.foldl (fun value digit => 10 * value + (digit.toNat - '0'.toNat)) 0

/-- A canonical positive decimal: no sign, no leading zero. -/
def requireNumber (digits : List Char) : Except UrlProblem Nat := do
  Checked.failIf (digits = [] ∨ (∃ digit ∈ digits, digit.isDigit = false) ∨
    digits ≠ Nat.toDigits 10 (decimalValue digits) ∨ decimalValue digits < 1)
    .badNumber
  pure (decimalValue digits)

/-- The page kind and number a path's segments name, if any. -/
def pageOfSegments (segments : List (List Char)) : Except UrlProblem (Option (TargetKind × Nat)) :=
  match segments with
  | [_, _] => .ok none
  | [_, _, page, digits] =>
      if page = TargetKind.issue.segment.toList then do
        let number ← requireNumber digits
        pure (some (.issue, number))
      else if page = TargetKind.pullRequest.segment.toList then do
        let number ← requireNumber digits
        pure (some (.pullRequest, number))
      else .error .pathShape
  | _ => .error .pathShape

/-- Canonicalize one GitHub repository, issue or pull-request URL, or refuse. -/
def canonicalizeTargetUrl (url : String) : Except UrlProblem CanonicalTarget := do
  let characters := url.toList
  Checked.failIf (characters = []) .notText
  Checked.failIf (characters.length > maxTargetUrlChars) .tooLong
  checkAll requireCharacter characters
  Checked.failIf ('%' ∈ characters) .percentEncoded
  Checked.failIf (countStarts "://".toList characters > 1) .multiTarget
  Checked.failIf ("//".toList.isPrefixOf characters) .schemeRelative
  Checked.failIf (¬ schemePrefix.isPrefixOf characters) .unsupportedScheme
  let rest := characters.drop schemePrefix.length
  Checked.failIf ('?' ∈ rest) .query
  Checked.failIf ('#' ∈ rest) .fragment
  let authority := rest.takeWhile (· ≠ '/')
  let path := (rest.dropWhile (· ≠ '/')).drop 1
  requireHost authority
  Checked.failIf (path = []) .pathShape
  let segments := path.splitOn '/'
  checkAll requireSegment segments
  let page ← pageOfSegments segments
  let owner := segments.getD 0 []
  let repo := segments.getD 1 []
  requireName owner
  requireName repo
  Checked.failIf (".git".toList.isSuffixOf repo) .gitSuffix
  let repositoryUrl :=
    schemePrefix ++ canonicalTargetHost ++ ['/'] ++ owner ++ ['/'] ++ repo
  let canonicalUrl := match page with
    | none => repositoryUrl
    | some (kind, number) =>
        repositoryUrl ++ ['/'] ++ kind.segment.toList ++ ['/'] ++ Nat.toDigits 10 number
  pure {
    host := String.ofList canonicalTargetHost
    owner := String.ofList owner
    repo := String.ofList repo
    kind := page.map Prod.fst
    number := page.map Prod.snd
    repositoryUrl := String.ofList repositoryUrl
    canonicalUrl := String.ofList canonicalUrl
  }

/-- What follows the authority is a slash and the path. -/
theorem slash_path {rest path : List Char}
    (hpath : (rest.dropWhile (· ≠ '/')).drop 1 = path) (hne : path ≠ []) :
    rest = rest.takeWhile (· ≠ '/') ++ '/' :: path := by
  have hsplit : rest.takeWhile (· ≠ '/') ++ rest.dropWhile (· ≠ '/') = rest :=
    List.takeWhile_append_dropWhile
  cases hdrop : rest.dropWhile (· ≠ '/') with
  | nil =>
      rw [hdrop] at hpath
      exact absurd hpath.symm hne
  | cons first tail =>
      have hslash := List.head?_dropWhile_not
        (fun character : Char => decide (character ≠ '/')) rest
      rw [hdrop] at hslash hpath
      obtain rfl : first = '/' := by simpa using hslash
      rw [← hpath, List.drop_succ_cons, List.drop_zero, ← hdrop, hsplit]

theorem requireNumber_eq_ok {digits : List Char} {number : Nat}
    (h : requireNumber digits = .ok number) :
    digits = Nat.toDigits 10 number ∧ 1 ≤ number := by
  simp only [requireNumber, bind_eq_ok, exists_passed, failIf_eq_ok, pure_eq_ok,
    not_or, not_not, Nat.not_lt] at h
  obtain ⟨⟨-, -, hdigits, hpos⟩, rfl⟩ := h
  exact ⟨hdigits, hpos⟩

/-- The segments of a path, from the page they name. -/
theorem segments_of_page {segments : List (List Char)}
    {page : Option (TargetKind × Nat)} (h : pageOfSegments segments = .ok page) :
    (page = none ∧ ∃ owner repo, segments = [owner, repo]) ∨
      ∃ kind number owner repo, page = some (kind, number) ∧ 1 ≤ number ∧ segments =
          [owner, repo, kind.segment.toList, Nat.toDigits 10 number] := by
  unfold pageOfSegments at h
  split at h
  · rename_i owner repo
    cases h
    exact .inl ⟨rfl, owner, repo, rfl⟩
  · rename_i owner repo page digits
    right
    split at h
    · rename_i hissue
      simp only [bind_eq_ok, pure_eq_ok] at h
      obtain ⟨number, hnumber, rfl⟩ := h
      obtain ⟨rfl, hpos⟩ := requireNumber_eq_ok hnumber
      exact ⟨.issue, number, owner, repo, rfl, hpos, by rw [hissue]⟩
    split at h
    · rename_i hpull
      simp only [bind_eq_ok, pure_eq_ok] at h
      obtain ⟨number, hnumber, rfl⟩ := h
      obtain ⟨rfl, hpos⟩ := requireNumber_eq_ok hnumber
      exact ⟨.pullRequest, number, owner, repo, rfl, hpos, by rw [hpull]⟩
    · cases h
  · cases h

/-- An accepted URL is its own canonical form, is not too long, and names a
positive number where it names a page. -/
theorem canonicalizeTargetUrl_eq_ok {url : String} {target : CanonicalTarget}
    (h : canonicalizeTargetUrl url = .ok target) :
    target.canonicalUrl = url ∧ url.toList.length ≤ maxTargetUrlChars ∧
      (target.kind = none ∨ ∃ number, target.number = some number ∧
        1 ≤ number) := by
  simp only [canonicalizeTargetUrl, bind_eq_ok, exists_passed, failIf_eq_ok,
    pure_eq_ok, not_not, gt_iff_lt, Nat.not_lt] at h
  obtain ⟨-, hlength, -, -, -, -, hscheme, -, -, hhost, hpath, -, page, hpage, -, -, -, rfl⟩ := h
  simp only [requireHost, bind_eq_ok, exists_passed, failIf_eq_ok, not_not] at hhost
  obtain ⟨-, -, -, -, -, hhost⟩ := hhost
  obtain ⟨rest, hrest⟩ := List.isPrefixOf_iff_prefix.mp hscheme
  have hdrop : url.toList.drop schemePrefix.length = rest := by
    rw [← hrest, List.drop_left]
  rw [hdrop] at hpath hpage hhost
  generalize hpathIs : (rest.dropWhile (· ≠ '/')).drop 1 = path at hpath hpage
  have hjoined := slash_path hpathIs hpath
  rw [hhost] at hjoined
  have hsegments : ['/'].intercalate (path.splitOn '/') = path :=
    List.intercalate_splitOn '/'
  rw [hdrop, hpathIs]
  generalize path.splitOn '/' = segments at hpage hsegments
  refine ⟨?_, hlength, ?_⟩
  · apply String.toList_injective
    rw [← hrest, hjoined, ← hsegments]
    rcases segments_of_page hpage with ⟨rfl, owner, repo, rfl⟩ |
      ⟨kind, number, owner, repo, rfl, -, rfl⟩ <;> simp [List.intercalate]
  · rcases segments_of_page hpage with ⟨rfl, -⟩ | ⟨kind, number, -, -, rfl, hpos, -⟩
    · exact .inl rfl
    · exact .inr ⟨number, rfl, hpos⟩
/-- Canonicalize a repository-only URL; the issue and pull-request forms are
refused. -/
def canonicalizeRepositoryUrl (url : String) :
    Except UrlProblem CanonicalTarget := do
  let target ← canonicalizeTargetUrl url
  Checked.failIf (target.kind ≠ none) .pathShape
  pure target

/-- The repository a target names; GitHub compares owner and repository names
without regard to case. -/
def repositoryIdentityKey (target : CanonicalTarget) : String × List Char × List Char :=
  (target.host, lower target.owner.toList, lower target.repo.toList)

/-- Two targets name the same repository. -/
def sameRepositoryIdentity (first second : CanonicalTarget) : Bool :=
  repositoryIdentityKey first = repositoryIdentityKey second

example : (canonicalizeRepositoryUrl "https://github.com/o/r").toOption.map
    CanonicalTarget.canonicalUrl = some "https://github.com/o/r" := by decide

end Canonical

end DodgingInfinity
