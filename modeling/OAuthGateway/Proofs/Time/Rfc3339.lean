import OAuthGateway.Proofs.Text.Decimal
import OAuthGateway.Proofs.Time.Calendar
import OAuthGateway.Time.Rfc3339

/-!
# Proofs/Time/Rfc3339 — every instant is read back from its timestamp

Each part of a timestamp is followed by a character that cannot belong to it, so the reader of the
part takes exactly what the writer put there, whatever comes after.  The parts together are the
instant, leap seconds included: `read?_writeChars`.  A leap second that does not end a minute would
be read as the second behind it (`read?_writeFields`); that is why there are no such instants.
-/

namespace OAuthGateway.Time.Rfc3339

open Text

variable {rest : List Char}

/-! ## The parts -/

theorem isBlank_of_digit {c : Char} (h : isDigit c = true) : isBlank c = false := by
  rw [isDigit_iff] at h
  simp [isBlank]
  omega

theorem trimStart_of_not_blank {c : Char} (h : isBlank c = false) (cs : List Char) :
    trimStart (c :: cs) = c :: cs := by
  simp [trimStart, h]

theorem mark?_cons {c : Char} (h : isBlank c = false) (rest : List Char) :
    mark? c (c :: rest) = some rest := by
  simp [mark?, trimStart_of_not_blank h]

/-- Digits are read up to the limit, or to what is no digit. -/
theorem digits?_append {most : Nat} {ds : List Char} (hne : ds ≠ [])
    (hds : ∀ c ∈ ds, isDigit c = true) (hmost : ds.length ≤ most)
    (hend : ds.length = most ∨ ∀ c ∈ rest.head?, isDigit c = false) :
    digits? most (ds ++ rest) = some (ofDigits 0 ds, rest) := by
  have hrun : ((ds ++ rest).take most).takeWhile isDigit = ds := by
    rw [List.take_append, List.take_of_length_le hmost]
    refine takeWhile_isDigit_append hds ?_
    rcases hend with hend | hend
    · simp [hend]
    · intro c hc
      rw [List.head?_take] at hc
      split at hc
      · cases hc
      · exact hend c hc
  simp [digits?, hrun, hne]

/-- A number of two digits. -/
theorem pair?_padded {n : Nat} (h : n < 100) (rest : List Char) :
    pair? (padded 2 n ++ rest) = some (n, rest) := by
  have hlength : (padded 2 n).length = 2 := length_padded (by decide) h
  obtain ⟨d, ds, hds, hdigit⟩ := exists_padded_eq_cons 2 n
  have htrim : trimStart (padded 2 n ++ rest) = padded 2 n ++ rest := by
    rw [hds]
    exact trimStart_of_not_blank (isBlank_of_digit hdigit) _
  rw [pair?, htrim, digits?_append (padded_ne_nil 2 n) (fun _ => isDigit_of_mem_padded) hlength.le
    (.inl hlength), ofDigits_padded]

/-- A year before the mark behind it: outside of four digits it has a sign. -/
theorem year?_year (y : Int) (rest : List Char) :
    year? (year y ++ '-' :: rest) = some (y, '-' :: rest) := by
  have hend : ∀ c ∈ ('-' :: rest).head?, isDigit c = false := head?_cons_not_digit (by decide)
  have hdigits : ∀ {most n}, (padded 4 n).length ≤ most →
      digits? most (padded 4 n ++ '-' :: rest) = some (n, '-' :: rest) := fun hmost => by
    rw [digits?_append (padded_ne_nil 4 _) (fun _ => isDigit_of_mem_padded) hmost (.inr hend),
      ofDigits_padded]
  have hall : ∀ n, (padded 4 n).length ≤ (padded 4 n ++ '-' :: rest).length := by simp
  rw [year]
  split
  · have hlength : (padded 4 y.toNat).length = 4 := length_padded (by decide) (by omega)
    obtain ⟨d, ds, hds, hdigit⟩ := exists_padded_eq_cons 4 y.toNat
    have hread := hdigits hlength.le
    rw [hds, List.cons_append] at hread ⊢
    rw [year?, trimStart_of_not_blank (isBlank_of_digit hdigit)]
    split
    · cases ‹d :: _ = _›
      cases hdigit
    · cases ‹d :: _ = _›
      cases hdigit
    · rw [hread]
      simp
      omega
  · split
    · rw [year?, List.cons_append, trimStart_of_not_blank (by decide)]
      simp only [hdigits (hall _), Option.map_some, Option.some.injEq, Prod.mk.injEq, and_true]
      omega
    · rw [year?, List.cons_append, trimStart_of_not_blank (by decide)]
      simp only [hdigits (hall _), Option.map_some, Option.some.injEq, Prod.mk.injEq, and_true]
      omega

/-- A fraction, without which there is none. -/
theorem fraction?_fraction {nanos : Nat} (h : nanos < 1000000000) (rest : List Char) :
    fraction? (fraction nanos ++ 'Z' :: rest) = some (nanos, 'Z' :: rest) := by
  have hend : ∀ c ∈ ('Z' :: rest).head?, isDigit c = false := head?_cons_not_digit (by decide)
  have hpart : ∀ {width n}, 0 < width → width ≤ 9 → n < 10 ^ width →
      fraction? ('.' :: padded width n ++ 'Z' :: rest) =
        some (n * 10 ^ (9 - width), 'Z' :: rest) := by
    intro width n hpos hle hn
    have hlength : (padded width n).length = width := length_padded hpos hn
    have hrun : (padded width n ++ 'Z' :: rest).takeWhile isDigit = padded width n :=
      takeWhile_isDigit_append (fun _ => isDigit_of_mem_padded) hend
    simp [fraction?, hrun, padded_ne_nil, List.take_of_length_le (hlength.le.trans hle), hlength]
  rw [fraction]
  split
  · subst nanos
    rfl
  · split
    · rw [hpart (by decide) (by decide) (by omega)]
      simp
      omega
    · split
      · rw [hpart (by decide) (by decide) (by omega)]
        simp
        omega
      · rw [hpart (by decide) (by decide) (by omega)]
        simp

/-! ## The whole

The parts are those of the date and the time of day; a leap second has the number 60. -/

/-- **The parts of a timestamp make up its instant**, if they are those of a date and a time.  A
second 60 is the leap second of the second 59. -/
theorem read?_parts {date : Date} {hour minute second nanos : Nat} (hdate : date.isValid = true)
    (hyear : yearRange date.year = true) (hhour : hour < 24) (hminute : minute < 60)
    (hsecond : second ≤ 60) (hnanos : nanos < 1000000000) :
    read? (year date.year ++ '-' :: padded 2 date.month ++ '-' :: padded 2 date.day ++
        'T' :: padded 2 hour ++ ':' :: padded 2 minute ++ ':' :: padded 2 second ++
        fraction nanos ++ ['Z']) =
      Instant.of? (date.toDays * 86400 + (hour * 3600 + minute * 60 + min second 59 : Nat))
        (if second = 60 then 1000000000 + nanos else nanos) := by
  have hmonth : date.month < 100 := by
    simp only [Date.isValid, Bool.and_eq_true, decide_eq_true_eq] at hdate
    omega
  have hday : date.day < 100 := by
    simp only [Date.isValid, Bool.and_eq_true, decide_eq_true_eq] at hdate
    have := daysInMonth_le date.year date.month
    omega
  have hdash : isBlank '-' = false := by decide
  have hcolon : isBlank ':' = false := by decide
  have hzone : offset? (trimStart ['Z']) = some (0, []) := by decide
  simp only [List.append_assoc, List.cons_append]
  rw [read?, year?_year]
  simp only [Option.bind_eq_bind, Option.bind_some, mark?_cons hdash, mark?_cons hcolon,
    pair?_padded hmonth, pair?_padded hday, pair?_padded (show hour < 100 by omega),
    pair?_padded (show minute < 100 by omega), pair?_padded (show second < 100 by omega),
    fraction?_fraction hnanos, hzone]
  simp [hdate, hyear, hhour, hminute, hsecond, trimStart]

/-- **A second and its nanoseconds are read back from their text**, leap seconds at the ends of
minutes included.  The text of any other leap second is that of the second behind it. -/
theorem read?_writeFields {second : Int} {nanosecond : Nat} (hfirst : firstSecond ≤ second)
    (hlast : second ≤ lastSecond) (hnanosecond : nanosecond < 2000000000) :
    read? (writeFields second nanosecond) =
      if 1000000000 ≤ nanosecond ∧ second % 60 ≠ 59 then
        Instant.of? (second + 1) (nanosecond - 1000000000)
      else Instant.of? second nanosecond := by
  simp only [firstSecond, lastSecond] at hfirst hlast
  simp (disch := decide) only [writeFields, perDay, Int.fdiv_eq_ediv_of_nonneg]
  have hdays : -96465292 ≤ second / 86400 ∧ second / 86400 ≤ 95026236 := by omega
  have hrange := Date.year_ofDays_bounds hdays
  rw [read?_parts (Date.isValid_ofDays _) (by simpa [yearRange] using hrange) (by omega)
    (by omega) (by omega) (by omega), Date.toDays_ofDays]
  have hsum : second / 86400 * 86400 + (second - second / 86400 * 86400) = second := by omega
  generalize hday : second / 86400 * 86400 = day at hsum ⊢
  by_cases hleap : 1000000000 ≤ nanosecond
  · have hone : nanosecond / 1000000000 = 1 := by omega
    have hrest : nanosecond % 1000000000 = nanosecond - 1000000000 := by omega
    rw [hone, hrest]
    by_cases hends : second % 60 = 59
    · have hsixty : (second - day).toNat % 60 + 1 = 60 := by omega
      rw [hsixty, if_pos rfl, if_neg fun h => h.2 hends]
      exact congrArg₂ Instant.of? (by omega) (by omega)
    · have hsixty : (second - day).toNat % 60 + 1 ≠ 60 := by omega
      rw [if_neg hsixty, if_pos ⟨hleap, hends⟩]
      exact congrArg₂ Instant.of? (by omega) rfl
  · have hnone : nanosecond / 1000000000 = 0 := by omega
    have hrest : nanosecond % 1000000000 = nanosecond := by omega
    rw [hnone, hrest, if_neg (by omega), if_neg fun h => hleap h.1]
    exact congrArg₂ Instant.of? (by omega) rfl

/-- **Every instant is read back from its timestamp.** -/
theorem read?_writeChars (t : Instant) : read? (writeChars t) = some t := by
  have hends : ¬ (1000000000 ≤ t.nanosecond ∧ t.second % 60 ≠ 59) :=
    fun hleap => hleap.2 (t.ends_minute hleap.1)
  rw [writeChars, read?_writeFields t.first_le t.le_last t.nanosecond_lt, if_neg hends,
    Instant.of?_fields]

/-- Every instant is read back from the string of its timestamp. -/
theorem read?_write (t : Instant) : read? (write t).toList = some t := by
  rw [write, String.toList_ofList, read?_writeChars]

end OAuthGateway.Time.Rfc3339
