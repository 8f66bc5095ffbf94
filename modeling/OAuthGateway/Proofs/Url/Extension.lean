import OAuthGateway.Proofs.Text.Ends
import OAuthGateway.Proofs.Url.Reading

/-!
# Proofs/Url/Extension — a URL with a path put behind it

A path is put behind a URL by dropping the slashes at the end of its text and appending the path.
What is read then is the text of the URL again with the path at its end, but for blanks: those at
the end of a text are dropped when it is read, and with a path behind them they are at the end no
more (`exists_cleaned_append`).  For a web URL the path goes to the end of the rest of its text, so
nothing changes before (`WebText.ofCleaned_front_append`), unless there is no rest.  Then blanks end
up in the authority, and no URL is read at all (`WebText.ofCleaned_front_append_of_low`).
`read_append` puts this together.
-/

namespace OAuthGateway.Url

open Text

/-! ## Blanks at the end -/

/-- A blank or a control character. -/
def isLow (c : Char) : Bool := c.toNat ≤ 32

/-- Neither a tab nor a line break; those are dropped wherever they stand. -/
def isKept (c : Char) : Bool := c ≠ '\t' && c ≠ '\n' && c ≠ '\x0d'

/-- The blanks and controls at the end of a text, without tabs and line breaks. -/
def endBlanks (s : String) : List Char :=
  ((s.toList.dropWhile isLow).rtakeWhile isLow).filter isKept

theorem cleaned_eq (s : String) :
    cleaned s = (dropEndWhile isLow (s.toList.dropWhile isLow)).filter isKept := rfl

theorem isLow_iff {c : Char} : isLow c = true ↔ c.toNat ≤ 32 := decide_eq_true_iff

theorem toNat_le_of_mem_endBlanks {s : String} {c : Char} (h : c ∈ endBlanks s) : c.toNat ≤ 32 :=
  isLow_iff.1 (List.mem_rtakeWhile_imp (List.mem_filter.1 h).1)

/-- Characters that are not low stay when a text is cleaned. -/
theorem filter_isKept {cs : List Char} (h : ∀ c ∈ cs, 32 < c.toNat) : cs.filter isKept = cs := by
  refine List.filter_eq_self.2 fun c hc => ?_
  have hne : ∀ d : Char, d.toNat ≤ 32 → c ≠ d := fun d hd => (ne_of_low hd (h c hc)).symm
  simp [isKept, hne]

theorem mem_of_mem_cleaned {s : String} {c : Char} (h : c ∈ cleaned s) : c ∈ s.toList :=
  (List.dropWhile_suffix _).subset
    ((dropEndWhile_isPrefix _ _).subset (List.mem_filter.1 h).1)

/-- A text that ends in no low character loses none of its end. -/
theorem not_isLow_getLast? {back : List Char} (hne : back ≠ [])
    (hlow : ∀ c ∈ back, 32 < c.toNat) (front : List Char) (c : Char)
    (hc : (front ++ back).getLast? = some c) : ¬ isLow c = true := by
  rw [List.getLast?_append_of_ne_nil _ hne] at hc
  have hgreat := hlow c (List.mem_of_getLast? hc)
  rw [isLow_iff]
  omega

/-- **With a path behind it, a URL is cleaned but for the blanks at its end**; and it has some only
if it does not end in slashes. -/
theorem exists_cleaned_append {service : String} {tail : List Char}
    (hcolon : ':' ∈ cleaned service) (htail : tail ≠ []) (hlow : ∀ c ∈ tail, 32 < c.toNat) :
    ∃ kept slashes, cleaned service = kept ++ slashes ∧ (∀ c ∈ slashes, c = '/') ∧
      (slashes = [] ∨ endBlanks service = []) ∧
      cleaned (String.ofList (dropEndWhile (· = '/') service.toList ++ tail)) =
        kept ++ (endBlanks service ++ tail) := by
  obtain ⟨slashes, hservice, hdropped⟩ := exists_dropped (· = '/') service.toList
  have hslashes : ∀ c ∈ slashes, c = '/' := fun c hc => of_decide_eq_true (hdropped c hc)
  generalize dropEndWhile (· = '/') service.toList = base at hservice ⊢
  have hmem : ':' ∈ base := by
    have hboth := mem_of_mem_cleaned hcolon
    rw [hservice] at hboth
    rcases List.mem_append.1 hboth with hbase | hslash
    · exact hbase
    · exact absurd (hslashes ':' hslash) (by decide)
  -- the colon is not dropped at the start, so what stands behind the base is not touched there
  have hstart : ∀ behind, (base ++ behind).dropWhile isLow = base.dropWhile isLow ++ behind := by
    intro behind
    rw [List.dropWhile_append, if_neg]
    rw [List.isEmpty_iff, List.dropWhile_eq_nil_iff]
    exact fun hall => absurd (hall ':' hmem) (by decide)
  have hurl : cleaned (String.ofList (base ++ tail)) =
      (base.dropWhile isLow).filter isKept ++ tail := by
    rw [cleaned_eq, String.toList_ofList, hstart,
      dropEndWhile_of_last (not_isLow_getLast? htail hlow _), List.filter_append,
      filter_isKept hlow]
  by_cases hnone : slashes = []
  · rw [hnone, List.append_nil] at hservice
    refine ⟨cleaned service, [], (List.append_nil _).symm, nofun, .inl rfl, ?_⟩
    rw [hurl, cleaned_eq, endBlanks, hservice, ← List.append_assoc, ← List.filter_append,
      dropEndWhile_append_rtakeWhile]
  · have hlow' : ∀ c ∈ slashes, 32 < c.toNat := fun c hc => by
      rw [hslashes c hc]
      decide
    have hends := not_isLow_getLast? hnone hlow' (base.dropWhile isLow)
    have hblanks : endBlanks service = [] := by
      rw [endBlanks, hservice, hstart, List.rtakeWhile_eq_nil_iff.2, List.filter_nil]
      exact fun hne => hends _ (List.getLast?_eq_some_getLast hne)
    refine ⟨(base.dropWhile isLow).filter isKept, slashes, ?_, hslashes, .inr hblanks, ?_⟩
    · rw [cleaned_eq, hservice, hstart, dropEndWhile_of_last hends, List.filter_append,
        filter_isKept hlow']
    · rw [hurl, hblanks, List.nil_append]

/-! ## A path behind a web URL

A path is a path wherever it is read, so a URL can be extended by one without being read again. -/

namespace WebText

variable (w : WebText)

/-- The text up to the rest. -/
def front : List Char := w.spelled ++ ':' :: (w.slashes ++ w.authority)

theorem text_eq : w.text = w.front ++ w.rest := by
  simp [text, front]

/-- The text up to the rest does not end in a slash. -/
theorem exists_getLast?_front : ∃ c, w.front.getLast? = some c ∧ c ≠ '/' := by
  obtain ⟨init, c, hauthority⟩ :=
    (List.eq_nil_or_concat w.authority).resolve_left w.authority_ne_nil
  rw [List.concat_eq_append] at hauthority
  refine ⟨c, ?_, ?_⟩
  · rw [front, hauthority, ← List.append_assoc, ← List.cons_append, ← List.append_assoc,
      List.getLast?_concat]
  · rintro rfl
    have hend := w.not_isEnd_of_mem '/' (hauthority ▸ List.mem_append_right _ List.mem_cons_self)
    exact absurd hend (by decide)

/-- Slashes at the end of a text are at the end of its rest. -/
theorem exists_rest_of_text_eq {kept slashes : List Char} (h : w.text = kept ++ slashes)
    (hslashes : ∀ c ∈ slashes, c = '/') :
    ∃ rest, kept = w.front ++ rest ∧ w.rest = rest ++ slashes := by
  rw [text_eq] at h
  rcases List.append_eq_append_iff.1 h with ⟨rest, hkept, hrest⟩ | ⟨between, hfront, hsame⟩
  · exact ⟨rest, hkept, hrest⟩
  · rcases List.eq_nil_or_concat between with rfl | ⟨init, last, rfl⟩
    · exact ⟨[], by rw [hfront, List.append_nil, List.append_nil], hsame.symm⟩
    · -- then the last character before the rest is one of the slashes
      obtain ⟨c, hlast, hc⟩ := w.exists_getLast?_front
      rw [List.concat_eq_append] at hfront hsame
      rw [hfront, ← List.append_assoc, List.getLast?_concat, Option.some.injEq] at hlast
      exact absurd (hlast ▸ hslashes last (by simp [hsame])) hc

variable {w} {s : Url} {tail : List Char}

/-- **With another rest, only path, query and fragment change.** -/
theorem ofCleaned_front_append (hs : ofCleaned w.text = .ok s)
    (htail : ∀ c, tail.head? = some c → isEnd c = true) :
    ofCleaned (w.front ++ tail) = .ok { s with
      path := (parts tail).1, query := (parts tail).2.1, fragment := (parts tail).2.2 } := by
  have htext : w.front ++ tail = { w with rest := tail, isEnd_head := htail }.text := by
    simp [text, front]
  rw [htext, ofCleaned_text]
  rw [ofCleaned_text] at hs
  rcases hauthority : Url.authority w.authority with fault | a <;> rw [hauthority] at hs
  · cases hs
  · cases hs
    rfl

/-- **With blanks behind the authority, it is no URL.** -/
theorem ofCleaned_front_append_of_low {blanks : List Char} (hne : blanks ≠ [])
    (hblanks : ∀ c ∈ blanks, c.toNat ≤ 32) (htail : ∀ c, tail.head? = some c → isEnd c = true) :
    ∃ fault, ofCleaned (w.front ++ (blanks ++ tail)) = .error fault := by
  have hnot : ∀ c ∈ w.authority ++ blanks, isEnd c = false := by
    intro c hc
    rcases List.mem_append.1 hc with hc | hc
    · exact w.not_isEnd_of_mem c hc
    · have hne : ∀ d : Char, 32 < d.toNat → c ≠ d := fun d => ne_of_low (hblanks c hc)
      simp [isEnd, isSlash, hne]
  have htext : w.front ++ (blanks ++ tail) = { w with
      authority := w.authority ++ blanks, rest := tail, not_isEnd_of_mem := hnot,
      authority_ne_nil := by simp [hne], isEnd_head := htail }.text := by
    simp [text, front]
  obtain ⟨fault, hfault⟩ : ∃ fault, Url.authority (w.authority ++ blanks) = .error fault := by
    obtain ⟨init, g, hblank⟩ := (List.eq_nil_or_concat blanks).resolve_left hne
    rw [hblank, List.concat_eq_append, ← List.append_assoc]
    exact authority_of_low (hblanks g (by simp [hblank])) _
  rw [htext, ofCleaned_text, hfault]
  exact ⟨fault, rfl⟩

/-- What is read as a web URL has a host, and its last three parts are those of the rest. -/
theorem parts_rest (hs : ofCleaned w.text = .ok s) :
    s.host.isSome = true ∧ parts w.rest = (s.path, s.query, s.fragment) := by
  rw [ofCleaned_text] at hs
  rcases hauthority : Url.authority w.authority with fault | a <;> rw [hauthority] at hs
  · cases hs
  · cases hs
    exact ⟨rfl, rfl⟩

end WebText

variable {service : String} {s : Url} {tail : List Char}

/-- **A web URL with a path behind it.**  Either it has no rest and ends in blanks, and then no URL
is read; or what is read is the URL with another rest: its own, without the slashes at its end, and
the path behind that. -/
theorem read_append (hs : read service = .ok s) (hweb : isWebScheme s.scheme = true)
    (hstart : tail.head? = some '/') (hlow : ∀ c ∈ tail, 32 < c.toNat) :
    s.host.isSome = true ∧
      ((parts [] = (s.path, s.query, s.fragment) ∧ endBlanks service ≠ [] ∧ ∃ fault,
        read (String.ofList (dropEndWhile (· = '/') service.toList ++ tail)) = .error fault) ∨
      ∃ rest slashes, parts (rest ++ slashes) = (s.path, s.query, s.fragment) ∧
        (∀ c ∈ slashes, c = '/') ∧ (rest = [] → endBlanks service = []) ∧
        read (String.ofList (dropEndWhile (· = '/') service.toList ++ tail)) = .ok { s with
          path := (parts (rest ++ (endBlanks service ++ tail))).1
          query := (parts (rest ++ (endBlanks service ++ tail))).2.1
          fragment := (parts (rest ++ (endBlanks service ++ tail))).2.2 }) := by
  rw [read_eq] at hs
  obtain ⟨w, htext, -⟩ := WebText.exists_of_ofCleaned hs hweb
  have hcolon : ':' ∈ cleaned service := by
    rw [← htext, WebText.text]
    simp
  have hne : tail ≠ [] := fun hnil => by simp [hnil] at hstart
  have hend : ∀ c, tail.head? = some c → isEnd c = true := by
    rintro c hc
    rw [← Option.some.inj (hstart.symm.trans hc)]
    decide
  obtain ⟨kept, slashes, hkept, hslashes, hblanks, haddress⟩ :=
    exists_cleaned_append hcolon hne hlow
  rw [← htext] at hs hkept
  obtain ⟨rest, rfl, hrest⟩ := w.exists_rest_of_text_eq hkept hslashes
  obtain ⟨hhost, hparts⟩ := WebText.parts_rest hs
  rw [read_eq, haddress, List.append_assoc]
  refine ⟨hhost, ?_⟩
  by_cases hnone : rest = [] ∧ endBlanks service ≠ []
  · obtain ⟨rfl, hsome⟩ := hnone
    obtain rfl : slashes = [] := hblanks.resolve_right hsome
    rw [hrest] at hparts
    rw [List.nil_append]
    exact .inl ⟨hparts, hsome, WebText.ofCleaned_front_append_of_low hsome
      (fun c => toNat_le_of_mem_endBlanks) hend⟩
  · have hone : rest = [] → endBlanks service = [] := fun hnil =>
      not_not.1 fun hsome => hnone ⟨hnil, hsome⟩
    refine .inr ⟨rest, slashes, hrest ▸ hparts, hslashes, hone,
      WebText.ofCleaned_front_append hs fun c hc => ?_⟩
    rcases rest with _ | ⟨c', rest⟩
    · rw [hone rfl, List.nil_append, List.nil_append] at hc
      exact hend c hc
    · exact w.isEnd_head c (by rw [hrest]; exact hc)

end OAuthGateway.Url
