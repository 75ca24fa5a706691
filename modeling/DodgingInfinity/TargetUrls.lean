import DodgingInfinity.Canonical
import DodgingInfinity.Library.Lines
import Mathlib.Tactic.IntervalCases

/-!
# The grammar of target URLs

The documented grammar, stated apart from the checks of the parser, and the
proof that the parser accepts exactly its strings.
-/

namespace DodgingInfinity

open Checked

namespace Canonical

/-- A positive decimal: digits only, and no leading zero. -/
structure PositiveDecimal (digits : List Char) : Prop where
  nonempty : digits ≠ []
  digit : ∀ digit ∈ digits, digit.isDigit = true
  leading : digits.head? ≠ some '0'

/-- An owner or repository name. -/
structure TargetName (name : List Char) : Prop where
  nonempty : name ≠ []
  short : name.length ≤ maxTargetNameChars
  alphabet : ∀ character ∈ name, character ∈ nameChars
  noDot : name.head? ≠ some '.'
  noHyphen : name.head? ≠ some '-'

/-- A repository name: it does not end in `.git`. -/
structure RepositoryName (name : List Char) : Prop extends TargetName name where
  noSuffix : ¬ ".git".toList <:+ name

/-- The page a URL names after its repository, spelled as in the URL. -/
inductive PageSpelling : Option (TargetKind × Nat) → List Char → Prop where
  | repository : PageSpelling none []
  | page (kind : TargetKind) {digits : List Char} (decimal : PositiveDecimal digits) :
      PageSpelling (some (kind, decimalValue digits))
        ('/' :: kind.segment.toList ++ '/' :: digits)

/-- The URL of a repository followed by a page. -/
def spelled (owner repo page : List Char) : List Char :=
  schemePrefix ++ canonicalTargetHost ++ '/' :: owner ++ '/' :: repo ++ page

/-- The documented grammar: a bounded string that spells a repository, or an
issue or pull request of it, on the one canonical host. -/
structure TargetSpelling (url : String) (owner repo : List Char)
    (page : Option (TargetKind × Nat)) : Prop where
  ownerName : TargetName owner
  repoName : RepositoryName repo
  bounded : url.toList.length ≤ maxTargetUrlChars
  spelling : ∃ text, PageSpelling page text ∧ url.toList = spelled owner repo text

/-- The target a spelling denotes. -/
def targetOf (url : String) (owner repo : List Char)
    (page : Option (TargetKind × Nat)) : CanonicalTarget where
  host := String.ofList canonicalTargetHost
  owner := String.ofList owner
  repo := String.ofList repo
  kind := page.map Prod.fst
  number := page.map Prod.snd
  repositoryUrl := String.ofList (spelled owner repo [])
  canonicalUrl := url

/-! ### Decimals -/

/-- The value of a decimal digit. -/
def digitValue (digit : Char) : Nat := digit.toNat - '0'.toNat

variable {digit : Char}

theorem digitChar_digitValue (h : digit.isDigit = true) :
    digitValue digit < 10 ∧ (digitValue digit).digitChar = digit := by
  simp only [Char.isDigit, Bool.and_eq_true, decide_eq_true_eq, ge_iff_le,
    UInt32.le_iff_toNat_le] at h
  have hlow : 48 ≤ digit.toNat := h.1
  have hhigh : digit.toNat ≤ 57 := h.2
  have hof : Char.ofNat digit.toNat = digit := Char.ofNat_toNat digit
  unfold digitValue
  generalize digit.toNat = code at hlow hhigh hof
  subst hof
  interval_cases code <;> exact ⟨by decide, rfl⟩

variable {digits : List Char}

/-- Reading on from a positive value appends the digits that are read. -/
theorem toDigits_append_digits
    (h : ∀ digit ∈ digits, digit.isDigit = true) {value : Nat} (hpos : 0 < value) :
    Nat.toDigits 10 value ++ digits = Nat.toDigits 10
          (digits.foldl (fun value digit => 10 * value + digitValue digit) value) ∧
      0 < digits.foldl (fun value digit => 10 * value + digitValue digit) value := by
  induction digits generalizing value with
  | nil => exact ⟨List.append_nil _, hpos⟩
  | cons digit rest ih =>
      obtain ⟨hsmall, hchar⟩ := digitChar_digitValue (h digit List.mem_cons_self)
      have hnext : 0 < 10 * value + digitValue digit := by omega
      obtain ⟨hrest, hpositive⟩ :=
        ih (fun other hmem => h other (List.mem_cons_of_mem _ hmem)) hnext
      refine ⟨?_, hpositive⟩
      rw [List.foldl_cons, ← hrest, ← Nat.toDigits_append_toDigits (by decide) hpos hsmall,
        Nat.toDigits_of_lt_base hsmall, hchar, List.append_assoc]
      rfl

/-- A positive decimal is the canonical rendering of its value. -/
theorem PositiveDecimal.canonical (h : PositiveDecimal digits) :
    Nat.toDigits 10 (decimalValue digits) = digits ∧ 0 < decimalValue digits := by
  obtain ⟨hne, hdigit, hleading⟩ := h
  cases digits with
  | nil => exact absurd rfl hne
  | cons first rest =>
      obtain ⟨hsmall, hchar⟩ := digitChar_digitValue (hdigit first List.mem_cons_self)
      have hpos : 0 < digitValue first := by
        rcases Nat.eq_zero_or_pos (digitValue first) with hzero | hpos
        · rw [hzero] at hchar
          exact absurd (congrArg some hchar.symm) hleading
        · exact hpos
      have hrest := toDigits_append_digits
        (fun other hmem => hdigit other (List.mem_cons_of_mem _ hmem)) hpos
      rw [Nat.toDigits_of_lt_base hsmall, hchar] at hrest
      have hvalue : decimalValue (first :: rest) =
          rest.foldl (fun value digit => 10 * value + digitValue digit)
            (digitValue first) := by
        unfold decimalValue
        rw [List.foldl_cons, Nat.mul_zero, Nat.zero_add]
        rfl
      rw [hvalue]
      exact ⟨hrest.1.symm, hrest.2⟩

/-- A positive number is rendered as a positive decimal. -/
theorem positiveDecimal_toDigits {number : Nat} (h : 1 ≤ number) :
    PositiveDecimal (Nat.toDigits 10 number) where
  nonempty := Nat.toDigits_ne_nil
  digit := fun _ hmem => Nat.isDigit_of_mem_toDigits (by decide) (by decide) hmem
  leading := by
    induction number using Nat.strongRecOn with
    | ind number ih =>
        by_cases hsmall : number < 10
        · rw [Nat.toDigits_of_lt_base hsmall]
          interval_cases number <;> decide
        · have hbase : 10 ≤ number := by omega
          rw [Nat.toDigits_of_base_le (by decide) hbase]
          have hquotient := ih (number / 10) (by omega) (by omega)
          intro hhead
          rw [List.head?_append] at hhead
          cases hdigits : (Nat.toDigits 10 (number / 10)).head? with
          | none => exact absurd (List.head?_eq_none_iff.mp hdigits) Nat.toDigits_ne_nil
          | some first =>
              rw [hdigits] at hhead hquotient
              exact hquotient hhead

theorem decimalValue_toDigits (number : Nat) :
    decimalValue (Nat.toDigits 10 number) = number := by
  have h := Nat.ofDigitChars_ten_toDigits (n := number)
  rw [Nat.ofDigitChars_eq_foldl] at h
  exact h

/-! ### The checks of the parser -/

variable {name : List Char}

theorem requireName_eq_ok :
    requireName name = .ok () ↔ TargetName name := by
  simp only [requireName, failIf_eq_ok, not_or, not_exists, not_and, not_not, Nat.not_lt, gt_iff_lt]
  constructor
  · rintro ⟨hne, hshort, halphabet, hdot, hhyphen⟩
    exact ⟨hne, hshort, halphabet, hdot, hhyphen⟩
  · intro h
    exact ⟨h.nonempty, h.short, h.alphabet, h.noDot, h.noHyphen⟩

theorem requireHost_eq_ok {authority : List Char} :
    requireHost authority = .ok () ↔ authority = canonicalTargetHost := by
  constructor
  · intro h
    simp only [requireHost, bind_eq_ok, exists_passed, failIf_eq_ok, not_not] at h
    obtain ⟨-, -, -, -, -, hhost⟩ := h
    exact hhost
  · rintro rfl
    decide

/-- The characters of the grammar. -/
def grammarChars : List Char := '/' :: ':' :: nameChars

theorem requireCharacter_grammar :
    ∀ character ∈ grammarChars, requireCharacter character = .ok () := by
  decide

theorem digit_mem_nameChars (h : digit.isDigit = true) :
    digit ∈ nameChars := by
  obtain ⟨hsmall, hchar⟩ := digitChar_digitValue h
  generalize digitValue digit = value at hsmall hchar
  subst hchar
  interval_cases value <;> decide

theorem notMem_name (h : TargetName name) : '/' ∉ name :=
  fun hmem => absurd (h.alphabet _ hmem) (by decide)

theorem notMem_digits (h : PositiveDecimal digits) : '/' ∉ digits :=
  fun hmem => absurd (h.digit _ hmem) (by decide)

theorem notMem_segment (kind : TargetKind) : '/' ∉ kind.segment.toList := by
  cases kind <;> decide

theorem segment_chars (kind : TargetKind) :
    ∀ character ∈ '/' :: kind.segment.toList, character ∈ '/' :: nameChars := by
  cases kind <;> decide

variable {text : List Char}

variable {page : Option (TargetKind × Nat)}

/-- A page is spelled with the characters of names and slashes. -/
theorem PageSpelling.chars
    (h : PageSpelling page text) : ∀ character ∈ text, character ∈ '/' :: nameChars := by
  cases h with
  | repository => exact fun _ hmem => absurd hmem List.not_mem_nil
  | page kind decimal =>
      intro character hmem
      rcases List.mem_append.mp hmem with hsegment | hdigits
      · exact segment_chars kind character hsegment
      · rcases List.mem_cons.mp hdigits with rfl | hdigit
        · exact List.mem_cons_self
        · exact List.mem_cons_of_mem _ (digit_mem_nameChars (decimal.digit _ hdigit))

/-- A part starts at most where its first character stands. -/
theorem countStarts_le_count (first : Char) (part characters : List Char) :
    countStarts (first :: part) characters ≤ characters.count first := by
  induction characters with
  | nil => exact Nat.le_refl 0
  | cons character rest ih =>
      by_cases heq : first = character
      · subst heq
        rw [List.count_cons_self, countStarts]
        split <;> omega
      · rw [List.count_cons_of_ne (Ne.symm heq), countStarts, List.isPrefixOf,
          beq_eq_false_iff_ne.mpr heq, Bool.false_and, if_neg Bool.false_ne_true, Nat.zero_add]
        exact ih

/-- A name is a segment the parser walks over. -/
theorem requireSegment_name (h : TargetName name) :
    requireSegment name = .ok () := by
  simp only [requireSegment, bind_eq_ok, exists_passed, failIf_eq_ok]
  refine ⟨?_, h.nonempty⟩
  rintro (rfl | rfl) <;> exact h.noDot rfl

theorem requireSegment_digits (h : PositiveDecimal digits) :
    requireSegment digits = .ok () := by
  simp only [requireSegment, bind_eq_ok, exists_passed, failIf_eq_ok]
  refine ⟨?_, h.nonempty⟩
  rintro (rfl | rfl) <;> exact absurd (h.digit '.' List.mem_cons_self) (by decide)

theorem requireNumber_decimal (h : PositiveDecimal digits) :
    requireNumber digits = .ok (decimalValue digits) := by
  obtain ⟨hcanonical, hpos⟩ := h.canonical
  simp only [requireNumber, bind_eq_ok, exists_passed, failIf_eq_ok, pure_eq_ok, not_or,
    not_exists, not_and, not_not]
  refine ⟨⟨h.nonempty, ?_, hcanonical.symm, by omega⟩, trivial⟩
  intro digit hmem hnot
  rw [h.digit digit hmem] at hnot
  cases hnot

variable {owner repo : List Char}

/-- The path of a spelling splits into the two names and the page's segments. -/
theorem PageSpelling.segments (h : PageSpelling page text)
    (howner : TargetName owner) (hrepo : TargetName repo) :
    ∃ more, (owner ++ '/' :: repo ++ text).splitOn '/' = owner :: repo :: more ∧
      (∀ segment ∈ more, requireSegment segment = .ok ()) ∧
      pageOfSegments (owner :: repo :: more) = .ok page := by
  have hownerSlash := notMem_name howner
  have hrepoSlash := notMem_name hrepo
  cases h with
  | repository =>
      refine ⟨[], ?_, fun _ hmem => absurd hmem List.not_mem_nil, rfl⟩
      have hsplit : (['/'].intercalate [owner, repo]).splitOn '/' = [owner, repo] :=
        List.splitOn_intercalate '/' (by simp [hownerSlash, hrepoSlash]) (by simp)
      simpa [List.intercalate] using hsplit
  | @page kind digits decimal =>
      refine ⟨[kind.segment.toList, digits], ?_, ?_, ?_⟩
      · have hsplit : (['/'].intercalate [owner, repo, kind.segment.toList, digits]).splitOn '/' =
              [owner, repo, kind.segment.toList, digits] :=
          List.splitOn_intercalate '/'
            (by simp [hownerSlash, hrepoSlash, notMem_segment kind, notMem_digits decimal])
            (by simp)
        simpa [List.intercalate] using hsplit
      · intro segment hmem
        rcases List.mem_cons.mp hmem with rfl | hdigits
        · cases kind <;> decide
        · rw [List.mem_singleton.mp hdigits]
          exact requireSegment_digits decimal
      · have hnumber := requireNumber_decimal decimal
        cases kind with
        | issue =>
            simp only [pageOfSegments, if_true, hnumber]
            rfl
        | pullRequest =>
            have hne : TargetKind.pullRequest.segment.toList ≠
                TargetKind.issue.segment.toList := by decide
            simp only [pageOfSegments, if_neg hne, if_true, hnumber]
            rfl

/-- What follows the host in a spelled URL. -/
def spelledPath (owner repo text : List Char) : List Char := owner ++ '/' :: repo ++ text

theorem spelled_eq (owner repo text : List Char) : spelled owner repo text =
      schemePrefix ++ (canonicalTargetHost ++ '/' :: spelledPath owner repo text) := by
  simp [spelled, spelledPath]

theorem spelledPath_chars
    (howner : TargetName owner) (hrepo : TargetName repo) (hpage : PageSpelling page text) :
    ∀ character ∈ spelledPath owner repo text, character ∈ '/' :: nameChars := by
  intro character hmem
  rcases List.mem_append.mp hmem with hfront | htext
  · rcases List.mem_append.mp hfront with hin | hin
    · exact List.mem_cons_of_mem _ (howner.alphabet _ hin)
    · rcases List.mem_cons.mp hin with rfl | hin
      · exact List.mem_cons_self
      · exact List.mem_cons_of_mem _ (hrepo.alphabet _ hin)
  · exact hpage.chars _ htext

theorem rest_chars {path : List Char} (hpath : ∀ c ∈ path, c ∈ '/' :: nameChars) :
    ∀ c ∈ canonicalTargetHost ++ '/' :: path, c ∈ '/' :: nameChars := by
  intro c hmem
  rcases List.mem_append.mp hmem with hhost | hrest
  · revert c
    have hall : ∀ c ∈ canonicalTargetHost, c ∈ '/' :: nameChars := by decide
    exact fun c _ hhost => hall c hhost
  · rcases List.mem_cons.mp hrest with rfl | hin
    · exact List.mem_cons_self
    · exact hpath c hin

theorem countStarts_spelled {rest : List Char} (h : ':' ∉ rest) :
    countStarts "://".toList (schemePrefix ++ rest) ≤ 1 := by
  have hcount : (schemePrefix ++ rest).count ':' = 1 := by
    rw [List.count_append, List.count_eq_zero_of_not_mem h]
    decide
  rw [← hcount]
  exact countStarts_le_count ':' "//".toList (schemePrefix ++ rest)

theorem host_noSlash : ∀ character ∈ canonicalTargetHost, decide (character ≠ '/') = true := by
  decide

theorem takeWhile_host (path : List Char) :
    (canonicalTargetHost ++ '/' :: path).takeWhile (· ≠ '/') = canonicalTargetHost := by
  rw [List.takeWhile_append_of_pos host_noSlash, List.takeWhile_cons_of_neg (by decide),
    List.append_nil]

theorem dropWhile_host (path : List Char) :
    ((canonicalTargetHost ++ '/' :: path).dropWhile (· ≠ '/')).drop 1 = path := by
  rw [List.dropWhile_append_of_pos host_noSlash, List.dropWhile_cons_of_neg (by decide)]
  rfl

variable {url : String}

/-- The parser accepts every string of the grammar, as the target it denotes. -/
theorem TargetSpelling.accepted (h : TargetSpelling url owner repo page) :
    canonicalizeTargetUrl url = .ok (targetOf url owner repo page) := by
  obtain ⟨howner, hrepo, hbounded, text, hpage, hurl⟩ := h
  have hpathChars := spelledPath_chars howner hrepo.toTargetName hpage
  have hrestChars := rest_chars hpathChars
  obtain ⟨more, hsplit, hmore, hpageOf⟩ := hpage.segments howner hrepo.toTargetName
  have hcanonical : url = String.ofList (spelled owner repo text) := by
    rw [← hurl, String.ofList_toList]
  rw [spelled_eq] at hurl
  generalize hrest : canonicalTargetHost ++ '/' :: spelledPath owner repo text = rest
    at hurl hrestChars
  have hurlChars : ∀ character ∈ url.toList, character ∈ grammarChars := by
    intro character hmem
    rw [hurl] at hmem
    rcases List.mem_append.mp hmem with hscheme | hin
    · revert character
      have hall : ∀ c ∈ schemePrefix, c ∈ grammarChars := by decide
      exact fun c _ hscheme => hall c hscheme
    · rcases List.mem_cons.mp (hrestChars character hin) with rfl | hname
      · exact List.mem_cons_self
      · exact List.mem_cons_of_mem _ (List.mem_cons_of_mem _ hname)
  have habsent : ∀ {c : Char}, c ∉ '/' :: nameChars → c ∉ rest :=
    fun hnot hmem => hnot (hrestChars _ hmem)
  simp only [canonicalizeTargetUrl, bind_eq_ok, exists_passed, failIf_eq_ok, checkAll_eq_ok,
    pure_eq_ok, not_not, gt_iff_lt, Nat.not_lt]
  have hdrop : url.toList.drop schemePrefix.length = rest := by
    rw [hurl, List.drop_left]
  have hauthority : rest.takeWhile (· ≠ '/') = canonicalTargetHost := by
    rw [← hrest, takeWhile_host]
  have hpath : (rest.dropWhile (· ≠ '/')).drop 1 = spelledPath owner repo text := by
    rw [← hrest, dropWhile_host]
  have hsegments : (spelledPath owner repo text).splitOn '/' = owner :: repo :: more := hsplit
  have hpathNe : spelledPath owner repo text ≠ [] := by
    simp [spelledPath]
  rw [hdrop, hauthority, hpath, hsegments]
  refine ⟨?_, hbounded, fun c hmem => requireCharacter_grammar c (hurlChars c hmem),
    fun hmem => absurd (hurlChars _ hmem) (by decide), ?_, ?_, ?_,
    habsent (by decide), habsent (by decide), requireHost_eq_ok.mpr rfl, hpathNe, ?_, page,
    hpageOf, requireName_eq_ok.mpr howner, requireName_eq_ok.mpr hrepo.toTargetName, ?_, ?_⟩
  · rw [hurl]
    exact List.append_ne_nil_of_left_ne_nil (by decide) rest
  · rw [hurl]
    exact countStarts_spelled (habsent (by decide))
  · rw [hurl]
    have hscheme : schemePrefix = 'h' :: "ttps://".toList := by decide
    rw [hscheme]
    exact fun h => absurd (List.isPrefixOf_iff_prefix.mp h) (by simp)
  · rw [hurl, List.isPrefixOf_iff_prefix]
    exact List.prefix_append schemePrefix rest
  · intro segment hmem
    rcases List.mem_cons.mp hmem with rfl | hmem
    · exact requireSegment_name howner
    · rcases List.mem_cons.mp hmem with rfl | hmem
      · exact requireSegment_name hrepo.toTargetName
      · exact hmore segment hmem
  · rw [List.isSuffixOf_iff_suffix]
    exact hrepo.noSuffix
  · have hurlIs : url = String.ofList (schemePrefix ++ rest) := by
      rw [← hurl, String.ofList_toList]
    have hrepository : String.ofList
        (schemePrefix ++ canonicalTargetHost ++ ['/'] ++ owner ++ ['/'] ++ repo) =
        String.ofList (spelled owner repo []) := by
      simp [spelled]
    simp only [List.getD_cons_zero, List.getD_cons_succ, targetOf, hrepository]
    congr 1
    rw [hurlIs, ← hrest]
    congr 1
    cases hpage with
    | repository => simp [spelledPath]
    | page kind decimal => simp [spelledPath, decimal.canonical.1]

/-- The page of a path and the text that spells it. -/
theorem pageSpelling_of_segments {segments : List (List Char)}
    (h : pageOfSegments segments = .ok page) :
    ∃ owner repo text, PageSpelling page text ∧ segments.getD 0 [] = owner ∧
      segments.getD 1 [] = repo ∧ ['/'].intercalate segments = spelledPath owner repo text := by
  rcases segments_of_page h with ⟨rfl, owner, repo, rfl⟩ |
    ⟨kind, number, owner, repo, rfl, hpos, rfl⟩
  · exact ⟨owner, repo, [], .repository, rfl, rfl, by simp [List.intercalate, spelledPath]⟩
  · have hspelling := PageSpelling.page kind (positiveDecimal_toDigits hpos)
    rw [decimalValue_toDigits] at hspelling
    exact ⟨owner, repo, _, hspelling, rfl, rfl, by simp [List.intercalate, spelledPath]⟩

variable {target : CanonicalTarget}

/-- The parser accepts only strings of the grammar. -/
theorem spelling_of_accepted (h : canonicalizeTargetUrl url = .ok target) :
    ∃ owner repo page, TargetSpelling url owner repo page := by
  simp only [canonicalizeTargetUrl, bind_eq_ok, exists_passed, failIf_eq_ok, pure_eq_ok,
    not_not, gt_iff_lt, Nat.not_lt] at h
  obtain ⟨-, hlength, -, -, -, -, hscheme, -, -, hhost, hpath, -, page, hpage, howner,
    hrepo, hgit, -⟩ := h
  rw [requireHost_eq_ok] at hhost
  rw [requireName_eq_ok] at howner hrepo
  rw [List.isSuffixOf_iff_suffix] at hgit
  obtain ⟨rest, hrest⟩ := List.isPrefixOf_iff_prefix.mp hscheme
  have hdrop : url.toList.drop schemePrefix.length = rest := by
    rw [← hrest, List.drop_left]
  rw [hdrop] at hpath hpage hhost howner hrepo hgit
  generalize hpathIs : (rest.dropWhile (· ≠ '/')).drop 1 = path
    at hpath hpage howner hrepo hgit
  have hjoined := slash_path hpathIs hpath
  rw [hhost] at hjoined
  obtain ⟨owner, repo, text, hspelling, rfl, rfl, hsegments⟩ := pageSpelling_of_segments hpage
  rw [List.intercalate_splitOn] at hsegments
  refine ⟨_, _, page, howner, ⟨hrepo, hgit⟩, hlength, text, hspelling, ?_⟩
  rw [spelled_eq, ← hsegments, ← hjoined, hrest]

/-- The parser answers with a target exactly for a spelling of it. -/
theorem canonicalizeTargetUrl_iff : canonicalizeTargetUrl url = .ok target ↔
      ∃ owner repo page, TargetSpelling url owner repo page ∧
        target = targetOf url owner repo page := by
  constructor
  · intro h
    obtain ⟨owner, repo, page, hspelling⟩ := spelling_of_accepted h
    have hboth := hspelling.accepted
    rw [h] at hboth
    exact ⟨owner, repo, page, hspelling, Except.ok.inj hboth⟩
  · rintro ⟨owner, repo, page, hspelling, rfl⟩
    exact hspelling.accepted

/-! ### Targets up to the case of their letters -/

/-- The segments a page adds to a path. -/
def pageSegments : Option (TargetKind × Nat) → List (List Char)
  | none => []
  | some (kind, number) => [kind.segment.toList, Nat.toDigits 10 number]

theorem PageSpelling.path (h : PageSpelling page text) (owner repo : List Char) :
    spelledPath owner repo text = ['/'].intercalate (owner :: repo :: pageSegments page) := by
  cases h with
  | repository => simp [List.intercalate, spelledPath, pageSegments]
  | page kind decimal =>
      simp [List.intercalate, spelledPath, pageSegments, decimal.canonical.1]

theorem lower_intercalate (segments : List (List Char)) :
    lower (['/'].intercalate segments) = ['/'].intercalate (segments.map lower) := by
  induction segments with
  | nil => rfl
  | cons segment rest ih =>
      cases rest with
      | nil => simp [List.intercalate]
      | cons next rest =>
          rw [List.intercalate_cons_cons, List.map_cons, List.map_cons,
            List.intercalate_cons_cons, ← List.map_cons, ← ih]
          simp [lower]

theorem lower_noSlash (h : TargetName name) : '/' ∉ lower name := by
  have hall : ∀ character ∈ nameChars, character.toLower ≠ '/' := by decide
  intro hmem
  obtain ⟨character, hin, hlower⟩ := List.mem_map.mp hmem
  exact hall character (h.alphabet _ hin) hlower

theorem lower_toDigits (number : Nat) :
    lower (Nat.toDigits 10 number) = Nat.toDigits 10 number := by
  have hall : ∀ value < 10, (Nat.digitChar value).toLower = Nat.digitChar value := by decide
  unfold lower
  conv_rhs => rw [← List.map_id (Nat.toDigits 10 number)]
  apply List.map_congr_left
  intro digit hmem
  have hdigit := Nat.isDigit_of_mem_toDigits (by decide) (by decide) hmem
  obtain ⟨hsmall, hchar⟩ := digitChar_digitValue hdigit
  rw [id_eq, ← hchar]
  exact hall _ hsmall

theorem pageSegments_noSlash (page : Option (TargetKind × Nat)) :
    ∀ segment ∈ (pageSegments page).map lower, '/' ∉ segment := by
  rcases page with _ | ⟨kind, number⟩
  · exact fun _ hmem => absurd hmem List.not_mem_nil
  · simp only [pageSegments, List.map_cons, List.map_nil, lower_toDigits, List.mem_cons,
      List.not_mem_nil, or_false, forall_eq_or_imp, forall_eq]
    refine ⟨by cases kind <;> decide, fun hmem => ?_⟩
    exact absurd (Nat.isDigit_of_mem_toDigits (by decide) (by decide) hmem) (by decide)

variable {other : Option (TargetKind × Nat)}

/-- A page is recovered from its segments, whatever the case of their letters. -/
theorem pageSegments_injective
    (h : (pageSegments page).map lower = (pageSegments other).map lower) : page = other := by
  rcases page with _ | ⟨kind, number⟩ <;> rcases other with _ | ⟨otherKind, otherNumber⟩
  · rfl
  · cases h
  · cases h
  · simp only [pageSegments, List.map_cons, List.map_nil, lower_toDigits, List.cons.injEq,
      and_true] at h
    obtain ⟨hkind, hdigits⟩ := h
    have hnumber : number = otherNumber := by
      rw [← decimalValue_toDigits number, hdigits, decimalValue_toDigits]
    have hsame : kind = otherKind := by
      revert hkind
      cases kind <;> cases otherKind <;> decide
    rw [hnumber, hsame]

/-- The lowered path of a spelling tells its names up to case, and its page. -/
theorem lower_spelled {owner' repo' text' : List Char}
    {page' : Option (TargetKind × Nat)} (howner : TargetName owner)
    (hrepo : TargetName repo) (hpage : PageSpelling page text) (howner' : TargetName owner')
    (hrepo' : TargetName repo') (hpage' : PageSpelling page' text') :
    lower (spelled owner repo text) = lower (spelled owner' repo' text') ↔
      lower owner = lower owner' ∧ lower repo = lower repo' ∧ page = page' := by
  have hfold : ∀ path : List Char, lower (schemePrefix ++ (canonicalTargetHost ++ '/' :: path)) =
        lower schemePrefix ++ (lower canonicalTargetHost ++ '/' :: lower path) := by
    intro path
    simp only [lower, List.map_append, List.map_cons]
    rfl
  rw [spelled_eq, spelled_eq, hfold, hfold, List.append_cancel_left_eq,
    List.append_cancel_left_eq, List.cons.injEq, hpage.path, hpage'.path, lower_intercalate,
    lower_intercalate]
  constructor
  · rintro ⟨-, hjoined⟩
    have hfree : ∀ {first second : List Char} {more : Option (TargetKind × Nat)},
        TargetName first → TargetName second →
        ∀ segment ∈ (first :: second :: pageSegments more).map lower, '/' ∉ segment := by
      intro first second more hfirst hsecond segment hmem
      rcases List.mem_cons.mp hmem with rfl | hmem
      · exact lower_noSlash hfirst
      · rcases List.mem_cons.mp hmem with rfl | hmem
        · exact lower_noSlash hsecond
        · exact pageSegments_noSlash more segment hmem
    have hlists := Lines.joined (hfree howner hrepo) (hfree howner' hrepo')
      (by simp) (by simp) hjoined
    simp only [List.map_cons, List.cons.injEq] at hlists
    obtain ⟨hsameOwner, hsameRepo, hsegments⟩ := hlists
    exact ⟨hsameOwner, hsameRepo, pageSegments_injective hsegments⟩
  · rintro ⟨hsameOwner, hsameRepo, rfl⟩
    simp only [List.map_cons, hsameOwner, hsameRepo, and_self]

theorem page_eq_iff : page = other ↔
      page.map Prod.fst = other.map Prod.fst ∧ page.map Prod.snd = other.map Prod.snd := by
  rcases page with _ | ⟨kind, number⟩ <;> rcases other with _ | ⟨otherKind, otherNumber⟩ <;> simp

/-- Two accepted strings are equal up to the case of their letters exactly when
they name one repository and the same page of it. -/
theorem lower_eq_iff {other : String} {further : CanonicalTarget}
    (h : canonicalizeTargetUrl url = .ok target)
    (hother : canonicalizeTargetUrl other = .ok further) : lower url.toList = lower other.toList ↔
      sameRepositoryIdentity target further = true ∧ target.kind = further.kind ∧
        target.number = further.number := by
  obtain ⟨owner, repo, page, hspelling, rfl⟩ := canonicalizeTargetUrl_iff.mp h
  obtain ⟨owner', repo', page', hspelling', rfl⟩ := canonicalizeTargetUrl_iff.mp hother
  obtain ⟨howner, hrepo, -, text, hpage, hurl⟩ := hspelling
  obtain ⟨howner', hrepo', -, text', hpage', hurl'⟩ := hspelling'
  rw [hurl, hurl', lower_spelled howner hrepo.toTargetName hpage howner'
    hrepo'.toTargetName hpage', page_eq_iff]
  simp only [sameRepositoryIdentity, repositoryIdentityKey, targetOf, decide_eq_true_eq,
    Prod.mk.injEq, String.toList_ofList, true_and, and_assoc]

/-- The parser accepts exactly the documented grammar and answers what the
string spells; what it accepts is its own canonical form; two strings with the
same target are equal, and two that name one repository and one page of it
differ in nothing but the case of their letters. -/
theorem target_urls : (∀ (url : String) (target : CanonicalTarget),
      canonicalizeTargetUrl url = .ok target ↔
        ∃ owner repo page, TargetSpelling url owner repo page ∧
          target = targetOf url owner repo page) ∧ (∀ (url : String) (target : CanonicalTarget),
      canonicalizeTargetUrl url = .ok target → target.canonicalUrl = url ∧
          canonicalizeTargetUrl target.canonicalUrl = .ok target) ∧
    (∀ (url other : String) (target : CanonicalTarget), canonicalizeTargetUrl url = .ok target →
        canonicalizeTargetUrl other = .ok target → url = other) ∧
    (∀ (url other : String) (target further : CanonicalTarget),
      canonicalizeTargetUrl url = .ok target → canonicalizeTargetUrl other = .ok further →
          (lower url.toList = lower other.toList ↔
            sameRepositoryIdentity target further = true ∧ target.kind = further.kind ∧
              target.number = further.number)) := by
  refine ⟨fun url target => canonicalizeTargetUrl_iff, ?_, ?_, ?_⟩
  · intro url target h
    obtain ⟨hcanonical, -⟩ := canonicalizeTargetUrl_eq_ok h
    rw [hcanonical]
    exact ⟨rfl, h⟩
  · intro url other target h hother
    obtain ⟨hcanonical, -⟩ := canonicalizeTargetUrl_eq_ok h
    obtain ⟨hfurther, -⟩ := canonicalizeTargetUrl_eq_ok hother
    rw [← hcanonical, ← hfurther]
  · intro url other target further h hother
    exact lower_eq_iff h hother

/-- The URLs of one repository in two cases: two targets, one repository. -/
theorem target_urls_case_variants : ¬ ∀ (url other : String) (target further : CanonicalTarget),
      canonicalizeTargetUrl url = .ok target → canonicalizeTargetUrl other = .ok further →
          sameRepositoryIdentity target further = true → target.kind = further.kind →
            target.number = further.number → url = other := by
  intro h
  have hfirst : canonicalizeTargetUrl "https://github.com/O/R" =
      .ok (targetOf "https://github.com/O/R" ['O'] ['R'] none) := by decide
  have hsecond : canonicalizeTargetUrl "https://github.com/o/r" =
      .ok (targetOf "https://github.com/o/r" ['o'] ['r'] none) := by decide
  have hequal := h _ _ _ _ hfirst hsecond (by decide) rfl rfl
  exact absurd hequal (by decide)

/-- The law at the URL of a pull request. -/
theorem target_urls_pull : canonicalizeTargetUrl "https://github.com/o/r/pull/7" =
        .ok (targetOf "https://github.com/o/r/pull/7" ['o'] ['r'] (some (.pullRequest, 7))) ∧
      ∃ owner repo page, TargetSpelling "https://github.com/o/r/pull/7" owner repo page ∧
        targetOf "https://github.com/o/r/pull/7" ['o'] ['r'] (some (.pullRequest, 7)) =
          targetOf "https://github.com/o/r/pull/7" owner repo page := by
  have haccepted : canonicalizeTargetUrl "https://github.com/o/r/pull/7" =
      .ok (targetOf "https://github.com/o/r/pull/7" ['o'] ['r'] (some (.pullRequest, 7))) := by
    decide +kernel
  exact ⟨haccepted, (target_urls.1 _ _).mp haccepted⟩

end Canonical

end DodgingInfinity
