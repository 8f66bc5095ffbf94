import OAuthGateway.Proofs.Text.Percent
import OAuthGateway.Url.Basic

/-!
# Proofs/Url/Authority — the authority of a web URL, read on its own

What stands between the slashes and the path of a web URL is read without a look at the rest
(`authority`, `withAuthority_web`).  It does not end in a low character, that is a blank or a
control: there it would belong to the number, to a host in brackets or to a domain, and none of them
ends in one (`authority_of_low`).
-/

namespace OAuthGateway.Url

open Text

/-- A character behind which the authority of a web URL is over. -/
def isEnd (c : Char) : Bool := isSlash true c || c = '?' || c = '#'

/-- Reads the authority of a web URL: user information, host and number. -/
def authority (cs : List Char) : Except Fault (Option (List Char) × Host × Option ℕ) := do
  let (user, rest) := userInfo cs
  let (hostText, behind) := hostPart false rest
  if hostText.isEmpty then throw .emptyHost
  let host ← Host.read hostText
  let number ← number? (behind.drop 1)
  return (user, host, number)

/-- The URL of an authority and of what stands behind it. -/
def assemble (scheme rest : List Char) (a : Option (List Char) × Host × Option ℕ) : Url :=
  ⟨scheme, a.1, some a.2.1, a.2.2, (parts rest).1, (parts rest).2.1, (parts rest).2.2⟩

/-- **The authority is read on its own.** -/
theorem withAuthority_web (scheme cs : List Char) :
    withAuthority scheme true cs =
      (authority (cs.takeWhile fun c => !isEnd c)).map
        (assemble scheme (cs.dropWhile fun c => !isEnd c)) := by
  have hend : (fun c => !(isSlash true c || decide (c = '?') || decide (c = '#'))) =
      fun c => !isEnd c := rfl
  simp only [withAuthority, authority, Bool.true_or, Bool.and_true, if_true, hend]
  generalize userInfo (cs.takeWhile fun c => !isEnd c) = user
  generalize hostPart false user.2 = host
  split
  · rfl
  · rcases Host.read host.1 with fault | h
    · rfl
    · rcases number? (host.2.drop 1) with fault | n <;> rfl

/-- An authority of nothing has no host. -/
theorem authority_nil : authority [] = .error .emptyHost := rfl

/-! ## Low characters -/

variable {g : Char}

theorem not_le_of_low (hg : g.toNat ≤ 32) {c : Char} (hc : 32 < c.toNat) : ¬ c ≤ g := by
  intro hle
  have hnat : c.toNat ≤ g.toNat := hle
  omega

theorem ne_of_low (hg : g.toNat ≤ 32) {c : Char} (hc : 32 < c.toNat) : g ≠ c := by
  rintro rfl
  omega

theorem hexValue?_of_low (hg : g.toNat ≤ 32) : hexValue? g = none := by
  have hdigit : ¬ '0' ≤ g := not_le_of_low hg (by decide)
  have hsmall : ¬ 'a' ≤ g := not_le_of_low hg (by decide)
  have hlarge : ¬ 'A' ≤ g := not_le_of_low hg (by decide)
  simp [hexValue?, isDigit, hdigit, hsmall, hlarge]

/-- A low character is neither ignored in a domain nor changed, nor may it stand there. -/
theorem isDomainChar_of_low (hg : g.toNat ≤ 32) :
    isIgnored g = false ∧ lower (narrow g) = g ∧ isDomainChar g = false := by
  have hlarge : ¬ 'A' ≤ g := not_le_of_low hg (by decide)
  have hnarrow : narrow g = g := by
    simp only [narrow, Bool.and_eq_true, decide_eq_true_eq]
    rw [if_neg (by omega), if_neg (by simp; omega)]
  refine ⟨?_, by rw [hnarrow]; simp [lower, hlarge], ?_⟩
  · simp [isIgnored]
    omega
  · simp only [isDomainChar]
    rw [if_pos (by omega), decide_eq_false (by omega : ¬ 32 < g.toNat)]
    rfl

/-- A domain does not end in a low character. -/
theorem domain?_of_low (hg : g.toNat ≤ 32) (cs : List Char) : domain? (cs ++ [g]) = none := by
  obtain ⟨hkept, hsame, hbad⟩ := isDomainChar_of_low hg
  rcases hdecoded : percentDecoded? (cs ++ [g]) with _ | decoded
  · rw [domain?, hdecoded]
    rfl
  · have hlast := getLast?_of_percentDecoded? (hexValue?_of_low hg) (by omega) hdecoded
    have hmem : g ∈ (decoded.filter fun c => !isIgnored c).map fun c => lower (narrow c) :=
      List.mem_map.2 ⟨g, List.mem_filter.2 ⟨List.mem_of_getLast? hlast, by rw [hkept]; rfl⟩, hsame⟩
    rw [domain?, hdecoded]
    refine if_neg fun hsound => ?_
    have hall := List.all_eq_true.1 (Bool.and_eq_true_iff.1 hsound).1 g hmem
    exact absurd (hbad.symm.trans hall) (by decide)

theorem bracketed?_of_low (hg : g.toNat ≤ 32) (cs : List Char) :
    bracketed? (cs ++ [g]) = none ∨ bracketed? (cs ++ [g]) = some (.error .badIpv6) := by
  unfold bracketed?
  split
  · rename_i rest htext
    refine .inr (congrArg some (if_pos ?_))
    have hlast := congrArg List.getLast? htext
    rw [List.getLast?_concat] at hlast
    rcases List.eq_nil_or_concat rest with rfl | ⟨init, last, rfl⟩
    · simp
    · rw [List.concat_eq_append, ← List.cons_append, List.getLast?_concat] at hlast
      rw [List.concat_eq_append, List.getLast?_concat, ← hlast]
      exact fun hbracket => ne_of_low hg (by decide) (Option.some.inj hbracket)
  · exact .inl rfl

/-- No host ends in a low character. -/
theorem hostRead_of_low (hg : g.toNat ≤ 32) (cs : List Char) :
    ∃ fault, Host.read (cs ++ [g]) = .error fault := by
  rw [Host.read]
  rcases bracketed?_of_low hg cs with hnone | hbad
  · rw [hnone, domain?_of_low hg]
    exact ⟨_, rfl⟩
  · rw [hbad]
    exact ⟨_, rfl⟩

/-- No number ends in a low character. -/
theorem number?_of_low (hg : g.toNat ≤ 32) (cs : List Char) :
    number? (cs ++ [g]) = .error .badNumber := by
  have hdigit : isDigit g = false := by
    simp [isDigit, not_le_of_low hg (c := '0') (by decide)]
  rw [number?]
  · refine if_neg fun h => ?_
    have hall := List.all_eq_true.1 (Bool.and_eq_true_iff.1 h).1 g (by simp)
    exact absurd (hdigit.symm.trans hall) (by decide)
  · simp

/-- A low character at the end belongs to the host, or to what stands behind its colon. -/
theorem hostPart_of_low (hg : g.toNat ≤ 32) (inside : Bool) (cs : List Char) :
    (∃ init, hostPart inside (cs ++ [g]) = (init ++ [g], [])) ∨
      ∃ host init, hostPart inside (cs ++ [g]) = (host, ':' :: (init ++ [g])) := by
  induction cs generalizing inside with
  | nil =>
    have hcolon : g ≠ ':' := ne_of_low hg (by decide)
    refine .inl ⟨[], ?_⟩
    rw [List.nil_append, hostPart, if_neg (by simp [hcolon])]
    rfl
  | cons c rest ih =>
    rw [List.cons_append, hostPart]
    split
    · rename_i hcolon
      have hc : c = ':' := of_decide_eq_true (Bool.and_eq_true_iff.1 hcolon).1
      exact .inr ⟨[], rest, by rw [hc]⟩
    · rcases ih (c = '[' || (inside && c ≠ ']')) with ⟨init, hrest⟩ | ⟨host, init, hrest⟩
      · exact .inl ⟨c :: init, by rw [hrest, List.cons_append]⟩
      · exact .inr ⟨c :: host, init, by rw [hrest]⟩

/-- Behind the user information, the text ends as before. -/
theorem userInfo_of_low (hg : g.toNat ≤ 32) (cs : List Char) :
    ∃ rest, (userInfo (cs ++ [g])).2 = rest ++ [g] := by
  rw [userInfo]
  split
  · have hat : g ≠ '@' := ne_of_low hg (by decide)
    refine ⟨(cs.reverse.takeWhile (· ≠ '@')).reverse, ?_⟩
    rw [List.reverse_concat, List.takeWhile_cons_of_pos (by simpa using hat), List.reverse_cons]
  · exact ⟨cs, rfl⟩

/-- **No authority ends in a low character.** -/
theorem authority_of_low (hg : g.toNat ≤ 32) (cs : List Char) :
    ∃ fault, authority (cs ++ [g]) = .error fault := by
  obtain ⟨rest, hrest⟩ := userInfo_of_low hg cs
  simp only [authority, hrest]
  split
  · exact ⟨_, rfl⟩
  · rcases hostPart_of_low hg false rest with ⟨init, hhost⟩ | ⟨host, init, hhost⟩ <;> rw [hhost]
    · obtain ⟨fault, hfault⟩ := hostRead_of_low hg init
      rw [hfault]
      exact ⟨fault, rfl⟩
    · rw [List.drop_one, List.tail_cons, number?_of_low hg]
      rcases Host.read host with fault | host <;> exact ⟨_, rfl⟩

end OAuthGateway.Url
