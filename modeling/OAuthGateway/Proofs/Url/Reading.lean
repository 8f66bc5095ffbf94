import Mathlib.Data.List.TakeWhile
import OAuthGateway.Proofs.Bind
import OAuthGateway.Proofs.Url.Authority

/-!
# Proofs/Url/Reading — what the parts of a URL are read from

A URL is read from its text without the blanks around it (`read_eq`), and reading takes that text
apart: a scheme up to the first colon (`scheme?_eq_some_iff`), a path with a query and a fragment
behind their marks (`parts_eq_iff`).  The text of a web URL is a `WebText`: scheme, slashes, an
authority, and the rest, which starts where the authority is over.  Its parts are read one by one
(`WebText.ofCleaned_text`), so to change the rest of the text changes no part but those that the
rest is read into.
-/

namespace OAuthGateway

namespace Text

theorem cut?_eq_none_iff {mark : Char} {cs : List Char} : cut? mark cs = none ↔ mark ∉ cs := by
  induction cs with
  | nil => simp [cut?]
  | cons c cs ih =>
    by_cases hc : c = mark
    · simp [cut?, hc]
    · simp [cut?, hc, Ne.symm hc, ih]

end Text

namespace Url

open Text

/-! ## Path, query and fragment -/

/-- A part behind its mark; no mark if there is no part. -/
def marked (mark : Char) : Option (List Char) → List Char
  | some part => mark :: part
  | none => []

theorem parts_append {path : List Char} {query fragment : Option (List Char)} (hpath : '?' ∉ path)
    (hpath' : '#' ∉ path) (hquery : '#' ∉ marked '?' query) :
    parts (path ++ marked '?' query ++ marked '#' fragment) = (path, query, fragment) := by
  have hfront : cut? '?' (path ++ marked '?' query) = query.map fun query => (path, query) := by
    cases query with
    | none => rw [marked, List.append_nil, Option.map_none, cut?_eq_none_iff.2 hpath]
    | some query => exact cut?_eq_some_iff.2 ⟨rfl, hpath⟩
  have hfragment : cut? '#' (path ++ marked '?' query ++ marked '#' fragment) =
      fragment.map fun fragment => (path ++ marked '?' query, fragment) := by
    have hnone : '#' ∉ path ++ marked '?' query := by simp [hpath', hquery]
    cases fragment with
    | none => rw [marked, List.append_nil, Option.map_none, cut?_eq_none_iff.2 hnone]
    | some fragment => exact cut?_eq_some_iff.2 ⟨rfl, hnone⟩
  cases fragment <;> cases query <;>
    simp_all [parts, marked]

theorem exists_marked (mark : Char) (cs : List Char) :
    ∃ front part, cs = front ++ marked mark part ∧ mark ∉ front := by
  rcases hcut : cut? mark cs with _ | ⟨front, part⟩
  · exact ⟨cs, none, (List.append_nil cs).symm, cut?_eq_none_iff.1 hcut⟩
  · obtain ⟨hcs, hfront⟩ := cut?_eq_some_iff.1 hcut
    exact ⟨front, some part, hcs, hfront⟩

/-- **The parts of a text are what stands before, between and behind the marks.** -/
theorem parts_eq_iff {cs path : List Char} {query fragment : Option (List Char)} :
    parts cs = (path, query, fragment) ↔
      cs = path ++ marked '?' query ++ marked '#' fragment ∧
        '?' ∉ path ∧ '#' ∉ path ∧ '#' ∉ marked '?' query := by
  constructor
  · intro h
    obtain ⟨front, fragment', rfl, hfront⟩ := exists_marked '#' cs
    obtain ⟨path', query', rfl, hpath⟩ := exists_marked '?' front
    obtain ⟨hpath', hquery⟩ := not_or.1 (mt List.mem_append.2 hfront)
    rw [parts_append hpath hpath' hquery, Prod.mk.injEq, Prod.mk.injEq] at h
    obtain ⟨rfl, rfl, rfl⟩ := h
    exact ⟨rfl, hpath, hpath', hquery⟩
  · rintro ⟨rfl, hpath, hpath', hquery⟩
    exact parts_append hpath hpath' hquery

/-! ## Schemes -/

theorem scheme?_eq_some_iff {cs scheme rest : List Char} :
    scheme? cs = some (scheme, rest) ↔ ∃ spelled, cs = spelled ++ ':' :: rest ∧
      (∀ c ∈ spelled, isSchemeChar c = true) ∧ spelled.head?.any isAsciiLetter = true ∧
      scheme = spelled.map lower := by
  constructor
  · intro h
    simp only [scheme?] at h
    split at h
    · rename_i rest' hrest
      split at h
      · rename_i hletter
        cases h
        refine ⟨cs.takeWhile isSchemeChar, ?_, fun c hc => List.mem_takeWhile_imp hc, hletter, rfl⟩
        rw [← hrest, List.takeWhile_append_dropWhile]
      · cases h
    · cases h
  · rintro ⟨spelled, rfl, hspelled, hletter, rfl⟩
    have hcolon : ¬ isSchemeChar ':' = true := by decide
    rw [scheme?, List.dropWhile_append_of_pos hspelled, List.dropWhile_cons_of_neg hcolon,
      List.takeWhile_append_of_pos hspelled, List.takeWhile_cons_of_neg hcolon, List.append_nil]
    exact if_pos hletter

/-- Reads a URL from its text without the blanks around it. -/
def ofCleaned (cs : List Char) : Except Fault Url :=
  match scheme? cs with
  | none => .error .noScheme
  | some (scheme, rest) =>
    if isWebScheme scheme then withAuthority scheme true (rest.dropWhile (isSlash true))
    else if scheme = "file".toList then ofFile rest
    else match rest with
      | '/' :: '/' :: rest => withAuthority scheme false rest
      | rest => .ok (hostless scheme rest)

theorem read_eq (s : String) : read s = ofCleaned (cleaned s) := rfl

theorem scheme_withAuthority {scheme cs : List Char} {web : Bool} {u : Url}
    (h : withAuthority scheme web cs = .ok u) : u.scheme = scheme := by
  simp only [withAuthority] at h
  split at h
  · cases h
  · split at h
    all_goals
      obtain ⟨host, -, h⟩ := exists_of_bind_eq_ok h
      obtain ⟨number, -, h⟩ := exists_of_bind_eq_ok h
      cases h
      rfl

theorem scheme_ofFile {cs : List Char} {u : Url} (h : ofFile cs = .ok u) :
    u.scheme = "file".toList := by
  unfold ofFile at h
  split at h
  · split at h
    · simp only at h
      split at h
      · cases h
        rfl
      · obtain ⟨host, -, h⟩ := exists_of_bind_eq_ok h
        cases h
        rfl
    · cases h
      rfl
  · cases h
    rfl

/-- The scheme of a URL is the one that its text starts with. -/
theorem exists_scheme? {cs : List Char} {u : Url} (h : ofCleaned cs = .ok u) :
    ∃ rest, scheme? cs = some (u.scheme, rest) := by
  rw [ofCleaned] at h
  split at h
  · cases h
  · rename_i scheme rest hscheme
    suffices hsame : u.scheme = scheme from ⟨rest, hsame ▸ hscheme⟩
    split at h
    · exact scheme_withAuthority h
    · split at h
      · rename_i hfile
        exact (scheme_ofFile h).trans hfile.symm
      · split at h
        · exact scheme_withAuthority h
        · cases h
          rfl

/-! ## The text of a web URL -/

/-- The text of a web URL: a scheme and its colon, slashes, an authority, and the rest. -/
structure WebText where
  spelled : List Char
  slashes : List Char
  authority : List Char
  rest : List Char
  isSchemeChar_of_mem : ∀ c ∈ spelled, isSchemeChar c = true
  isAsciiLetter_head : spelled.head?.any isAsciiLetter = true
  isWebScheme_spelled : isWebScheme (spelled.map lower) = true
  isSlash_of_mem : ∀ c ∈ slashes, isSlash true c = true
  not_isEnd_of_mem : ∀ c ∈ authority, isEnd c = false
  authority_ne_nil : authority ≠ []
  isEnd_head : ∀ c, rest.head? = some c → isEnd c = true

namespace WebText

variable (w : WebText)

/-- The text. -/
def text : List Char := w.spelled ++ ':' :: (w.slashes ++ (w.authority ++ w.rest))

/-- **The parts of a web URL are read one by one.** -/
theorem ofCleaned_text : ofCleaned w.text =
    (Url.authority w.authority).map (assemble (w.spelled.map lower) w.rest) := by
  have hscheme : scheme? w.text =
      some (w.spelled.map lower, w.slashes ++ (w.authority ++ w.rest)) :=
    scheme?_eq_some_iff.2 ⟨w.spelled, rfl, w.isSchemeChar_of_mem, w.isAsciiLetter_head, rfl⟩
  obtain ⟨c, cs, hauthority⟩ := List.exists_cons_of_ne_nil w.authority_ne_nil
  have hslash : ¬ isSlash true c = true := by
    have hend := w.not_isEnd_of_mem c (hauthority ▸ List.mem_cons_self)
    rw [isEnd, Bool.or_assoc, Bool.or_eq_false_iff] at hend
    rw [hend.1]
    decide
  have hafter : (w.slashes ++ (w.authority ++ w.rest)).dropWhile (isSlash true) =
      w.authority ++ w.rest := by
    rw [List.dropWhile_append_of_pos w.isSlash_of_mem, hauthority, List.cons_append,
      List.dropWhile_cons_of_neg hslash]
  have hkept : ∀ c ∈ w.authority, (!isEnd c) = true := fun c hc => by
    rw [w.not_isEnd_of_mem c hc]
    rfl
  have hrest : w.rest.takeWhile (fun c => !isEnd c) = [] ∧
      w.rest.dropWhile (fun c => !isEnd c) = w.rest := by
    rcases hhead : w.rest with _ | ⟨c, cs⟩
    · exact ⟨rfl, rfl⟩
    · have hend : ¬ (!isEnd c) = true := by
        rw [w.isEnd_head c (by rw [hhead]; rfl)]
        decide
      exact ⟨List.takeWhile_cons_of_neg hend, List.dropWhile_cons_of_neg hend⟩
  simp only [ofCleaned, hscheme, w.isWebScheme_spelled, if_true, hafter]
  rw [withAuthority_web, List.takeWhile_append_of_pos hkept, List.dropWhile_append_of_pos hkept,
    hrest.1, hrest.2, List.append_nil]

/-- **What is read as a web URL is the text of one.** -/
theorem exists_of_ofCleaned {cs : List Char} {u : Url} (h : ofCleaned cs = .ok u)
    (hweb : isWebScheme u.scheme = true) :
    ∃ w : WebText, w.text = cs ∧ w.spelled.map lower = u.scheme := by
  obtain ⟨rest, hscheme⟩ := exists_scheme? h
  obtain ⟨spelled, rfl, hspelled, hletter, hlower⟩ := scheme?_eq_some_iff.1 hscheme
  simp only [ofCleaned, hscheme, hweb, if_true] at h
  have hne : (rest.dropWhile (isSlash true)).takeWhile (fun c => !isEnd c) ≠ [] := by
    intro hnil
    rw [withAuthority_web, hnil, authority_nil] at h
    cases h
  refine ⟨⟨spelled, rest.takeWhile (isSlash true),
    (rest.dropWhile (isSlash true)).takeWhile fun c => !isEnd c,
    (rest.dropWhile (isSlash true)).dropWhile fun c => !isEnd c, hspelled, hletter, hlower ▸ hweb,
    fun c hc => List.mem_takeWhile_imp hc, fun c hc => ?_, hne, fun c hc => ?_⟩, ?_, hlower.symm⟩
  · simpa using List.mem_takeWhile_imp hc
  · have hnot := List.head?_dropWhile_not (fun c => !isEnd c) (rest.dropWhile (isSlash true))
    rw [hc] at hnot
    simpa using hnot
  · rw [text, List.takeWhile_append_dropWhile, List.takeWhile_append_dropWhile]

end WebText

end Url

end OAuthGateway
