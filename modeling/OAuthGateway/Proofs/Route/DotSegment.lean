import Mathlib.Data.List.Basic
import OAuthGateway.Proofs.Route.Arrival

/-!
# Proofs/Route/DotSegment — what the screen for dot segments lets through, and where that arrives

`hasDotSegment` looks at segments one by one, and `resolve` removes segments with an eye on those
before them.  They agree on which paths are clean (`resolve_eq_self_iff`): what `resolve` leaves has
no dot segment, and where there is none it has nothing to do.  A clean path stays clean on its way:
a route strips it at a separator, and slashes at the start are no segments of their own
(`hasDotSegment_arrival`).
-/

namespace OAuthGateway

open Text

namespace Path

/-! ## Dots as they are written

A dot may be escaped, in either case of the letter, and the screen knows all spellings. -/

/-- The three ways of writing a dot. -/
def dots : List (List Char) := [".".toList, "%2e".toList, "%2E".toList]

theorem lower_eq_e_iff {c : Char} : lower c = 'e' ↔ c = 'e' ∨ c = 'E' := by
  constructor
  · intro h
    rw [lower] at h
    split at h <;> rename_i hupper
    · simp only [Bool.and_eq_true, decide_eq_true_eq, Char.le_def, UInt32.le_iff_toNat_le] at hupper
      have hZ : c.toNat ≤ 90 := hupper.2
      have honly : ∀ n < 91, Char.ofNat (n + 32) = 'e' → n = 'E'.toNat := by decide
      exact .inr (Char.toNat_inj.1 (honly c.toNat (by omega) h))
    · exact .inl h
  · rintro (rfl | rfl) <;> decide

theorem dotsDecoded_eq_dot_cons_iff {s cs : List Char} :
    dotsDecoded s = '.' :: cs ↔ ∃ a ∈ dots, ∃ rest, s = a ++ rest ∧ dotsDecoded rest = cs := by
  constructor
  · fun_cases dotsDecoded s with
    | case1 e rest he =>
      rintro ⟨⟩
      rcases lower_eq_e_iff.1 he with rfl | rfl
      · exact ⟨"%2e".toList, by decide, rest, rfl, rfl⟩
      · exact ⟨"%2E".toList, by decide, rest, rfl, rfl⟩
    | case2 e rest he => exact nofun
    | case3 c rest h =>
      rintro ⟨⟩
      exact ⟨".".toList, by decide, rest, rfl, rfl⟩
    | case4 => exact nofun
  · rintro ⟨a, ha, rest, rfl, rfl⟩
    simp only [dots, List.mem_cons, List.not_mem_nil, or_false] at ha
    rcases ha with rfl | rfl | rfl <;> simp [dotsDecoded, lower_eq_e_iff]

theorem dotsDecoded_eq_nil_iff {s : List Char} : dotsDecoded s = [] ↔ s = [] := by
  constructor
  · fun_cases dotsDecoded s with
    | case4 => exact fun _ => rfl
    | _ => exact nofun
  · rintro rfl
    rw [dotsDecoded]

theorem isSingleDot_iff {s : List Char} : isSingleDot s = true ↔ s ∈ dots := by
  rw [isSingleDot, beq_iff_eq, dotsDecoded_eq_dot_cons_iff]
  simp only [dotsDecoded_eq_nil_iff, exists_eq_right, List.append_nil, exists_eq_right']

theorem isDoubleDot_iff {s : List Char} :
    isDoubleDot s = true ↔ ∃ a ∈ dots, ∃ b ∈ dots, s = a ++ b := by
  have hsingle : ∀ rest, dotsDecoded rest = ['.'] ↔ rest ∈ dots := fun rest => by
    rw [← isSingleDot_iff, isSingleDot, beq_iff_eq]
  rw [isDoubleDot, beq_iff_eq, dotsDecoded_eq_dot_cons_iff]
  simp only [hsingle, and_comm]

/-! ## Removing dot segments

To resolve a path without dot segments changes nothing. -/

theorem isDot_nil : isDot [] = false := by simp [isDot, isSingleDot, isDoubleDot, dotsDecoded]

/-- **No dot segment is left.** -/
theorem not_isDot_of_mem_resolveFrom {done segs : List (List Char)}
    (hdone : ∀ s ∈ done, isDot s = false) : ∀ s ∈ resolveFrom done segs, isDot s = false := by
  induction segs generalizing done with
  | nil => simpa [resolveFrom] using hdone
  | cons first segs ih =>
    have habove : ∀ s ∈ (if isDoubleDot first then done.tail else done), isDot s = false := by
      split
      · exact fun s hs => hdone s (List.mem_of_mem_tail hs)
      · exact hdone
    rw [resolveFrom]
    split
    · split
      · intro s hs
        rcases List.mem_cons.1 (List.mem_reverse.1 hs) with rfl | hs
        · exact isDot_nil
        · exact habove s hs
      · exact ih habove
    · rename_i hfirst
      refine ih fun s hs => ?_
      rcases List.mem_cons.1 hs with rfl | hs
      · exact Bool.eq_false_iff.2 hfirst
      · exact hdone s hs

/-- Where there is no dot segment, nothing is removed. -/
theorem resolveFrom_of_forall_not {done segs : List (List Char)}
    (h : ∀ s ∈ segs, isDot s = false) : resolveFrom done segs = done.reverse ++ segs := by
  induction segs generalizing done with
  | nil => simp [resolveFrom]
  | cons first segs ih =>
    obtain ⟨hfirst, hsegs⟩ := List.forall_mem_cons.1 h
    rw [resolveFrom, hfirst]
    simp [ih hsegs]

/-- **The screen is exact**: removing dot segments leaves a path as it is if it has none, and only
then. -/
theorem resolve_eq_self_iff {path : List Char} :
    resolve (segments path) = segments path ↔ hasDotSegment path = false := by
  have hclean : hasDotSegment path = false ↔ ∀ s ∈ segments path, isDot s = false := by
    simp only [hasDotSegment, List.any_eq_false, Bool.not_eq_true]
  rw [hclean]
  constructor
  · intro hsame s hs
    rw [← hsame] at hs
    exact not_isDot_of_mem_resolveFrom (List.forall_mem_nil _) s hs
  · exact resolveFrom_of_forall_not

/-! ## Clean paths on their way -/

theorem hasDotSegment_nil : hasDotSegment [] = false := by
  simp [hasDotSegment, segments, isDot_nil]

/-- Each side of a separator has its own segments. -/
theorem hasDotSegment_append_cons {sep : Char} (hsep : isSeparator sep = true)
    (front back : List Char) :
    hasDotSegment (front ++ sep :: back) = (hasDotSegment front || hasDotSegment back) := by
  rw [hasDotSegment, segments, List.splitOnP_append_cons _ _ hsep, List.any_append]
  rfl

theorem hasDotSegment_slash_cons (back : List Char) :
    hasDotSegment ('/' :: back) = hasDotSegment back :=
  (hasDotSegment_append_cons (by decide) [] back).trans (by rw [hasDotSegment_nil, Bool.false_or])

/-- Slashes at the start make no difference. -/
theorem hasDotSegment_dropWhile_slash (path : List Char) :
    hasDotSegment (path.dropWhile (· = '/')) = hasDotSegment path := by
  induction path with
  | nil => rfl
  | cons c path ih =>
    by_cases hc : c = '/'
    · rw [List.dropWhile_cons_of_pos (by simpa using hc), ih, hc, hasDotSegment_slash_cons]
    · rw [List.dropWhile_cons_of_neg (by simpa using hc)]

end Path

open OAuthGateway.Path

namespace Route

variable {r : Route} {path : String}

/-- What is sent on of a clean path is clean. -/
theorem hasDotSegment_forwardedPath (hmatches : r.matchesPath path = true)
    (hclean : hasDotSegment path.toList = false) :
    hasDotSegment (r.forwardedPath path) = false := by
  rw [forwardedPath]
  split <;> rename_i hstrips
  · rw [Bool.and_eq_true, decide_eq_true_eq] at hstrips
    obtain ⟨rest, hrest, hend⟩ := (matchesPath_iff.1 hmatches).resolve_left hstrips.2
    rw [after?_eq_some_iff.2 hrest, Option.getD_some]
    rcases hend with rfl | hslash
    · exact hasDotSegment_nil
    · obtain ⟨rest', rfl⟩ := List.head?_eq_some_iff.1 hslash
      rw [hrest, hasDotSegment_append_cons (by decide), Bool.or_eq_false_iff] at hclean
      rw [hasDotSegment_slash_cons]
      exact hclean.2
  · exact hclean

/-- **A clean path arrives clean**, whether the route strips it or not. -/
theorem hasDotSegment_arrival (hmatches : r.matchesPath path = true)
    (hclean : hasDotSegment path.toList = false) : hasDotSegment (r.arrival path) = false := by
  rw [arrival, hasDotSegment_slash_cons, hasDotSegment_dropWhile_slash]
  exact hasDotSegment_forwardedPath hmatches hclean

/-- **The screen for dot segments is exact, and holds for what is sent on.**  A single dot is one of
three spellings, a double dot any two of them.  A path passes the screen exactly if removing dot
segments leaves its segments as they are; and what a route that matches it puts behind the address
of the service, stripped of the route's path or not, would pass as well. -/
theorem dot_segments_screened (r : Route) (path : String) :
    (∀ s, isSingleDot s = true ↔ s ∈ dots) ∧
    (∀ s, isDoubleDot s = true ↔ ∃ a ∈ dots, ∃ b ∈ dots, s = a ++ b) ∧
    (hasDotSegment path.toList = false ↔
      resolve (segments path.toList) = segments path.toList) ∧
    (hasDotSegment path.toList = false → r.matchesPath path = true →
      ∃ sent, r.url path none = String.ofList (r.base ++ sent) ∧ hasDotSegment sent = false ∧
        resolve (segments sent) = segments sent) :=
  ⟨fun _ => isSingleDot_iff, fun _ => isDoubleDot_iff, resolve_eq_self_iff.symm,
    fun hclean hmatches => ⟨r.arrival path, r.url_none_eq path,
      hasDotSegment_arrival hmatches hclean,
      resolve_eq_self_iff.2 (hasDotSegment_arrival hmatches hclean)⟩⟩

/-- A name that starts with a dot passes and is sent on, without the path of the route; an escaped
step upwards does not. -/
theorem dot_segments_screened_site :
    (∃ sent, { Site.admin with stripsPath := true }.url "/admin/.well-known" none =
        String.ofList (Site.admin.base ++ sent) ∧ hasDotSegment sent = false) ∧
      resolve (segments "/admin/%2E./users".toList) ≠ segments "/admin/%2E./users".toList := by
  obtain ⟨-, -, -, hsent⟩ :=
    dot_segments_screened { Site.admin with stripsPath := true } "/admin/.well-known"
  obtain ⟨-, -, hexact, -⟩ := dot_segments_screened Site.admin "/admin/%2E./users"
  obtain ⟨sent, hurl, hclean, -⟩ := hsent (by decide +kernel) (by decide +kernel)
  refine ⟨⟨sent, hurl, hclean⟩, fun hsame => ?_⟩
  have hunclean : hasDotSegment "/admin/%2E./users".toList = true := by decide +kernel
  rw [hexact.2 hsame] at hunclean
  cases hunclean

end Route

end OAuthGateway
