import WebTestbed.Proofs.Url.DomainName
import WebTestbed.Url.Parser

/-! The host of a URL that was made of a name, a port and more: what the name is read to, whatever
follows the port. -/
namespace WebTestbed

namespace Url

section Clean

/-- What cleaning leaves of a text at the end of another. -/
def tail (s : List Char) : List Char :=
  (s.rdropWhile (·.toNat ≤ 0x20)).filter fun c => c ≠ '\t' && c ≠ '\n' && c ≠ '\r'

theorem tail_append {s : List Char} (hs : ∀ c ∈ s, 0x20 < c.toNat) (t : List Char) :
    tail (s ++ t) = s ++ tail t := by
  have hlast : (s ++ t).rdropWhile (·.toNat ≤ 0x20) = s ++ t.rdropWhile (·.toNat ≤ 0x20) := by
    induction t using List.reverseRecOn with
    | nil =>
      rw [List.append_nil, List.rdropWhile_nil, List.append_nil, List.rdropWhile_eq_self_iff]
      intro hne
      simpa using hs (s.getLast hne) (List.getLast_mem hne)
    | append_singleton t c ih =>
      rw [← List.append_assoc, List.rdropWhile_concat, List.rdropWhile_concat]
      split
      · exact ih
      · exact List.append_assoc ..
  have hkeep : s.filter (fun c => c ≠ '\t' && c ≠ '\n' && c ≠ '\r') = s := by
    rw [List.filter_eq_self]
    intro c hc
    have hne : ∀ d : Char, d.toNat ≤ 0x20 → c ≠ d := by
      rintro d hd rfl
      exact Nat.not_lt.mpr hd (hs c hc)
    simp [hne '\t' (by decide), hne '\n' (by decide), hne '\r' (by decide)]
  rw [tail, hlast, List.filter_append, hkeep]
  rfl

theorem clean_append {s : List Char} (hne : s ≠ []) (hs : ∀ c ∈ s, 0x20 < c.toNat)
    (t : List Char) : clean (s ++ t) = s ++ tail t := by
  have hfirst : (s ++ t).dropWhile (·.toNat ≤ 0x20) = s ++ t := by
    obtain ⟨c, r, rfl⟩ := List.exists_cons_of_ne_nil hne
    have hlt := hs c List.mem_cons_self
    rw [List.cons_append, List.dropWhile_cons_of_neg (by simpa using hlt)]
  change tail ((s ++ t).dropWhile (·.toNat ≤ 0x20)) = _
  rw [hfirst, tail_append hs]

/-- Cleaning puts no character into the part before the path. -/
theorem mem_takeWhile_of_tail {k : SchemeClass} {c : Char} {s : List Char}
    (h : c ∈ (tail s).takeWhile (!endsAuthority k ·)) :
    c ∈ s.takeWhile (!endsAuthority k ·) := by
  have hblank : ∀ c : Char, (!(c ≠ '\t' && c ≠ '\n' && c ≠ '\r') || !endsAuthority k c) =
      !endsAuthority k c := by
    intro c
    by_cases hc : c = '\t' ∨ c = '\n' ∨ c = '\r'
    · obtain rfl | rfl | rfl := hc <;> simp [endsAuthority, isSlash]
    · rw [not_or, not_or] at hc
      simp [hc]
  rw [tail, List.takeWhile_filter, List.mem_filter] at h
  simp only [hblank] at h
  obtain ⟨r, hr⟩ := List.rdropWhile_prefix (fun c : Char => decide (c.toNat ≤ 0x20)) s
  rw [← hr, List.takeWhile_append]
  split
  · exact List.mem_append_left _ ((List.takeWhile_prefix _).subset h.1)
  · exact h.1

end Clean

section Authority

theorem read_https (s : String) :
    read ("https:" ++ s) = readAuthority "https" .web ((tail s.toList).dropWhile (isSlash .web)) := by
  have hclean : clean ("https:" ++ s).toList = "https:".toList ++ tail s.toList := by
    have hscheme : "https:".toList.all (0x20 < ·.toNat) = true := by decide
    rw [String.toList_append]
    exact clean_append (by decide)
      (fun c hc => of_decide_eq_true (List.all_eq_true.mp hscheme c hc)) s.toList
  have hscheme : ∀ r, cutScheme? ("https:".toList ++ r) = some ("https", r) := fun _ => rfl
  unfold read
  rw [hclean, hscheme]
  rfl

theorem scheme_of_readAuthority {scheme : String} {k : SchemeClass} {s : List Char} {u : Url}
    (h : readAuthority scheme k s = .ok u) : u.scheme = scheme := by
  unfold readAuthority at h
  dsimp only at h
  split at h
  · cases h
  cases hread : readHostPort scheme k ((cutLast? '@' (s.takeWhile (!endsAuthority k ·))).getD
      ([], s.takeWhile (!endsAuthority k ·))).2 with
  | error e =>
    rw [hread] at h
    cases h
  | ok x =>
    rw [hread] at h
    change (if _ then _ else pure _) = Except.ok u at h
    split at h
    · cases h
    · cases h
      rfl

theorem scheme_of_read_https {s : String} {u : Url} (h : read ("https:" ++ s) = .ok u) :
    u.scheme = "https" := by
  rw [read_https] at h
  exact scheme_of_readAuthority h

/-- Without an at sign there is no user part. -/
theorem readAuthority_of_not_mem {k : SchemeClass} {s : List Char} (scheme : String)
    (h : '@' ∉ s.takeWhile (!endsAuthority k ·)) : readAuthority scheme k s = do
      let (host, port, rest) ← readHostPort scheme k (s.takeWhile (!endsAuthority k ·))
      return ⟨scheme, true, "", host, port,
        withTail k (readHostPath k) (rest ++ s.dropWhile (!endsAuthority k ·))⟩ := by
  have hcut : cutLast? '@' (s.takeWhile (!endsAuthority k ·)) = none := by
    rw [cutLast?, Text.cut_eq_none_iff.mpr (by simpa using h), Option.map_none]
  have hcontains : (s.takeWhile (!endsAuthority k ·)).contains '@' = false := by
    simpa using h
  have huser : (writeUser []).isEmpty = true := rfl
  unfold readAuthority
  simp only [hcut, hcontains, huser, Option.getD_none, Bool.and_false, Bool.false_and,
    Bool.not_true, Bool.false_eq_true, if_false]
  rfl

variable {name : List Char}

theorem hostLength_append (hname : DomainName.IsAllowed name) (s : List Char) :
    hostLength false (name ++ ':' :: s) = name.length := by
  induction name with
  | nil => rfl
  | cons c name ih =>
    have hne : ∀ d : Char, DomainName.isForbidden d = true → c ≠ d := fun _ =>
      DomainName.ne_of_isForbidden (hname c List.mem_cons_self)
    simp [hostLength, hne ':' (by decide), hne '[' (by decide), hne ']' (by decide),
      ih fun d hd => hname d (List.mem_cons_of_mem c hd)]

theorem readHostPort_append (scheme : String) (hname : DomainName.IsAllowed name) (hne : name ≠ [])
    (s : List Char) : readHostPort scheme .web (name ++ ':' :: s) = do
      let host ← UrlHost.read name
      let (port, rest) ← readPort scheme s
      return (some host, port, rest) := by
  have hlength : name.length ≠ 0 := by simpa using hne
  unfold readHostPort
  simp only [hostLength_append hname, List.take_left', List.drop_left', reduceCtorEq, if_false,
    hlength]
  cases UrlHost.read name with
  | error e => rfl
  | ok host => rfl

theorem readPort_toDigits (scheme : String) (p : UInt16) :
    readPort scheme (Nat.toDigits 10 p.toNat) =
      .ok (if knownPort? scheme = some p then none else some p, []) := by
  have hdigits : ∀ c ∈ Nat.toDigits 10 p.toNat, c.isDigit = true := fun _ =>
    Numeral.isDigit_of_mem_toDigits
  have hlt : p.toNat < 65536 := p.toNat_lt
  unfold readPort
  simp only [List.takeWhile_eq_self_iff.mpr hdigits, List.dropWhile_eq_nil_iff.mpr hdigits,
    Numeral.value_toDigits]
  have hsmall : ¬ 65535 < p.toNat := by omega
  have hne : (Nat.toDigits 10 p.toNat).isEmpty = false := by simp
  simp [hsmall, hne, UInt16.ofNat_toNat]

theorem endsAuthority_eq_false {k : SchemeClass} {c : Char}
    (h : DomainName.isForbidden c = false ∨ c = ':') : endsAuthority k c = false := by
  obtain h | rfl := h
  · have hne : ∀ d : Char, DomainName.isForbidden d = true → c ≠ d := fun _ =>
      DomainName.ne_of_isForbidden h
    simp [endsAuthority, isSlash, hne '/' (by decide), hne '\\' (by decide),
      hne '?' (by decide), hne '#' (by decide)]
  · simp [endsAuthority, isSlash]

end Authority

section Name

variable {name path : String} {port : Nat} {u : Url}

/-- A URL that is made of a name, a port and more, of which nothing makes a user part of what is
before: the name is read as a host. -/
theorem read_name (hname : DomainName.IsAllowed name.toList) (hne : name.toList ≠ [])
    (hpath : '@' ∉ path.toList.takeWhile (!endsAuthority .web ·)) :
    read ("https:" ++ ("//" ++ name ++ ":" ++ toString port ++ path)) = do
      let host ← UrlHost.read name.toList
      let (p, rest) ← readPort "https"
        (Nat.toDigits 10 port ++ (tail path.toList).takeWhile (!endsAuthority .web ·))
      return ⟨"https", true, "", some host, p, withTail .web (readHostPath .web)
        (rest ++ (tail path.toList).dropWhile (!endsAuthority .web ·))⟩ := by
  -- of what stands before the path, only the colon is no character of domain names
  let before := name.toList ++ ':' :: Nat.toDigits 10 port
  have hbefore : ∀ c ∈ before, DomainName.isForbidden c = false ∨ c = ':' := by
    intro c hc
    obtain hc | hc := List.mem_append.mp hc
    · exact .inl (hname c hc)
    · obtain rfl | hc := List.mem_cons.mp hc
      · exact .inr rfl
      · exact .inl (DomainName.isForbidden_of_isDigit (Numeral.isDigit_of_mem_toDigits hc))
  have hends : ∀ c ∈ before, (!endsAuthority .web c) = true := by
    intro c hc
    rw [endsAuthority_eq_false (hbefore c hc)]
    rfl
  have hlt : ∀ c ∈ "//".toList ++ before, 0x20 < c.toNat := by
    intro c hc
    have hslashes : "//".toList.all (0x20 < ·.toNat) = true := by decide
    obtain hc | hc := List.mem_append.mp hc
    · exact of_decide_eq_true (List.all_eq_true.mp hslashes c hc)
    · obtain hc | rfl := hbefore c hc
      · exact DomainName.lt_toNat hc
      · decide
  have htext : ("//" ++ name ++ ":" ++ toString port ++ path).toList =
      "//".toList ++ before ++ path.toList := by
    simp [before]
  have hrest : (tail ("//" ++ name ++ ":" ++ toString port ++ path).toList).dropWhile
      (isSlash .web) = before ++ tail path.toList := by
    obtain ⟨c, r, hcons⟩ : ∃ c r, before = c :: r := List.exists_cons_of_ne_nil (by simp [before])
    have hslash : ¬ isSlash .web c = true := by
      have hc : endsAuthority .web c = false :=
        endsAuthority_eq_false (hbefore c (hcons ▸ List.mem_cons_self))
      simp only [endsAuthority, Bool.or_eq_false_iff] at hc
      simp [hc]
    rw [htext, tail_append hlt, hcons]
    exact List.dropWhile_cons_of_neg hslash
  have htake : (before ++ tail path.toList).takeWhile (!endsAuthority .web ·) =
      before ++ (tail path.toList).takeWhile (!endsAuthority .web ·) :=
    List.takeWhile_append_of_pos hends
  have hdrop : (before ++ tail path.toList).dropWhile (!endsAuthority .web ·) =
      (tail path.toList).dropWhile (!endsAuthority .web ·) :=
    List.dropWhile_append_of_pos hends
  have huser : '@' ∉ (before ++ tail path.toList).takeWhile (!endsAuthority .web ·) := by
    intro hmem
    rw [htake, List.mem_append] at hmem
    obtain hmem | hmem := hmem
    · obtain hc | hc := hbefore _ hmem
      · cases hc
      · cases hc
    · exact hpath (mem_takeWhile_of_tail hmem)
  have happend : before ++ (tail path.toList).takeWhile (!endsAuthority .web ·) = name.toList ++
      ':' :: (Nat.toDigits 10 port ++ (tail path.toList).takeWhile (!endsAuthority .web ·)) := by
    simp [before]
  rw [read_https, hrest, readAuthority_of_not_mem _ huser, htake, hdrop, happend,
    readHostPort_append _ hname hne]
  simp only [bind_assoc, pure_bind]

theorem host_of_read (hname : DomainName.IsAllowed name.toList) (hne : name.toList ≠ [])
    (hpath : '@' ∉ path.toList.takeWhile (!endsAuthority .web ·))
    (h : read ("https:" ++ ("//" ++ name ++ ":" ++ toString port ++ path)) = .ok u) :
    ∃ host, UrlHost.read name.toList = .ok host ∧ u.host = some host := by
  rw [read_name hname hne hpath] at h
  cases hread : UrlHost.read name.toList with
  | error e =>
    rw [hread] at h
    cases h
  | ok host =>
    rw [hread] at h
    cases hport : readPort "https"
        (Nat.toDigits 10 port ++ (tail path.toList).takeWhile (!endsAuthority .web ·)) with
    | error e =>
      rw [hport] at h
      cases h
    | ok x =>
      rw [hport] at h
      cases h
      exact ⟨host, rfl, rfl⟩

/-- Where the path starts at once, all that the URL needs is a name that is a host. -/
theorem read_eq_ok (p : UInt16) {host : UrlHost} (hname : DomainName.IsAllowed name.toList)
    (hne : name.toList ≠ []) (hhost : UrlHost.read name.toList = .ok host)
    (hpath : path.toList.takeWhile (!endsAuthority .web ·) = []) :
    ∃ rest, read ("https:" ++ ("//" ++ name ++ ":" ++ toString p.toNat ++ path)) =
      .ok ⟨"https", true, "", some host, if knownPort? "https" = some p then none else some p,
        rest⟩ := by
  have htail : (tail path.toList).takeWhile (!endsAuthority .web ·) = [] := by
    rw [List.eq_nil_iff_forall_not_mem]
    intro c hc
    have hmem := mem_takeWhile_of_tail hc
    rw [hpath] at hmem
    cases hmem
  rw [read_name hname hne (hpath ▸ List.not_mem_nil), hhost, htail, List.append_nil,
    readPort_toDigits]
  exact ⟨_, rfl⟩

end Name

end Url

end WebTestbed
