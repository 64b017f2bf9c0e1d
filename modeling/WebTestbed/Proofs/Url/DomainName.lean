import WebTestbed.Proofs.Text.Basic
import WebTestbed.Proofs.Text.Utf8
import WebTestbed.Url.Basic

/-! Domain names in ASCII: as hosts of URLs they are the same in lower case. -/
namespace WebTestbed

namespace DomainName

/-- A text of characters that may stand in a domain name. -/
def IsAllowed (s : List Char) : Prop :=
  ∀ c ∈ s, isForbidden c = false

instance (s : List Char) : Decidable (IsAllowed s) :=
  decidable_of_iff (s.any isForbidden = false) (by simp [IsAllowed])

theorem ne_of_isForbidden {c d : Char} (hc : isForbidden c = false) (hd : isForbidden d = true) :
    c ≠ d := by
  rintro rfl
  rw [hc] at hd
  cases hd

theorem isForbidden_of_isDigit {c : Char} (h : c.isDigit = true) : isForbidden c = false := by
  have hsign : "%#/:<>?@[\\]^|".toList.all (!·.isDigit) = true := by decide
  have hmem : c ∉ "%#/:<>?@[\\]^|".toList := by
    intro hc
    have hdigit := List.all_eq_true.mp hsign c hc
    rw [h] at hdigit
    cases hdigit
  have hrange : 48 ≤ c.toNat ∧ c.toNat ≤ 57 := by
    simpa [Char.isDigit, UInt32.le_iff_toNat_le] using h
  unfold isForbidden
  rw [List.contains_eq_mem, decide_eq_false hmem]
  simp
  omega

theorem IsAllowed.not_mem {s : List Char} (h : IsAllowed s) {c : Char}
    (hc : isForbidden c = true) : c ∉ s := by
  intro hmem
  exact ne_of_isForbidden (h c hmem) hc rfl

theorem lt_toNat {c : Char} (hc : isForbidden c = false) : 0x20 < c.toNat := by
  unfold isForbidden at hc
  rw [Bool.or_eq_false_iff, Bool.or_eq_false_iff, decide_eq_false_iff_not] at hc
  omega

theorem joinLabels_pieces (s : List Char) : joinLabels (Text.pieces '.' s) = s := by
  induction s with
  | nil => rfl
  | cons c r ih =>
    obtain ⟨p, ps, hr⟩ := List.exists_cons_of_ne_nil (Text.pieces_ne_nil '.' r)
    rw [hr, joinLabels] at ih
    by_cases hc : c = '.'
    · rw [Text.pieces, if_pos hc, hr, joinLabels, List.intersperse_cons_cons]
      simp [ih, hc]
    · rw [Text.pieces, if_neg hc, hr, ← ih]
      cases ps with
      | nil => simp [joinLabels]
      | cons q qs => simp [joinLabels]

section Ascii

variable {s : List Char}

/-- No character of ASCII is written from right to left. -/
theorem isRightToLeft_of_lt {c : Char} (h : c.toNat < 128) : isRightToLeft c = false := by
  -- the ranges of the classes that are written so lie above ASCII
  have htable : ∀ r ∈ Text.directionRanges,
      r.1 ∉ [.right, .arabicLetter, .arabicNumber] ∨ r.2.pairs.all (128 ≤ ·.1) = true := by
    decide +kernel
  have hclass : Text.direction c ∉ [.right, .arabicLetter, .arabicNumber] := by
    unfold Text.direction
    cases hr : Text.directionRanges.find? fun r => r.2.contains c.toNat with
    | none => decide
    | some r =>
      obtain hclass | hpairs := htable r (List.mem_of_find?_eq_some hr)
      · exact hclass
      · have hcontains := List.find?_some hr
        obtain ⟨i, hi, hp⟩ := Array.any_eq_true.mp hcontains
        have hle := Array.all_eq_true.mp hpairs i hi
        simp only [Bool.and_eq_true, decide_eq_true_eq] at hp hle
        omega
  unfold isRightToLeft
  generalize Text.direction c = d at hclass
  split
  · exact absurd hclass (by decide)
  · exact absurd hclass (by decide)
  · exact absurd hclass (by decide)
  · rfl

theorem lt_of_mem_lower (hs : isAscii s = true) : ∀ c ∈ s.map Char.toLower, c.toNat < 128 := by
  intro c hc
  obtain ⟨b, hb, rfl⟩ := List.mem_map.mp hc
  have hascii : b.toNat < 128 := by simpa using List.all_eq_true.mp hs b hb
  rw [Text.toNat_toLower]
  split <;> omega

theorem isForbidden_toLower {c : Char} (h : isForbidden c = false) :
    isForbidden c.toLower = false := by
  have hsign : "%#/:<>?@[\\]^|".toList.all (fun d => ¬ (97 ≤ d.toNat ∧ d.toNat ≤ 122)) = true := by
    decide
  by_contra hn
  rw [Bool.not_eq_false] at hn
  have hletter : ¬ (97 ≤ c.toLower.toNat ∧ c.toLower.toNat ≤ 122) := by
    unfold isForbidden at hn
    rw [Bool.or_eq_true, Bool.or_eq_true, decide_eq_true_eq, decide_eq_true_eq,
      List.contains_iff_mem] at hn
    obtain (hn | hn) | hn := hn
    · omega
    · omega
    · exact of_decide_eq_true (List.all_eq_true.mp hsign _ hn)
  rw [← Text.eq_of_toLower_eq hletter rfl, h] at hn
  cases hn

/-- What becomes of a name in ASCII: its labels are read in lower case, but written as they are. -/
theorem toAscii?_of_isAscii (hs : isAscii s = true) : toAscii? s =
    ((Text.pieces '.' (s.map Char.toLower)).mapM readLabel?).bind fun read =>
      if read.any (·.any isRightToLeft) && !read.all directionFits then none
      else if (s.map Char.toLower).any isForbidden then none
      else some (s.map Char.toLower) := by
  have hnorm : normalize? s = some (s.map Char.toLower) := if_pos hs
  have hlabel : ∀ l ∈ Text.pieces '.' (s.map Char.toLower), writeLabel l = l := by
    intro l hl
    refine if_pos (List.all_eq_true.mpr fun c hc => decide_eq_true ?_)
    exact lt_of_mem_lower hs c (Text.mem_of_mem_pieces hl hc)
  have hlabels : (Text.pieces '.' (s.map Char.toLower)).map writeLabel =
      Text.pieces '.' (s.map Char.toLower) := by
    rw [List.map_congr_left hlabel, List.map_id']
  unfold toAscii?
  rw [hnorm]
  simp only [Option.bind_eq_bind, Option.bind_some, hlabels, joinLabels_pieces]
  rfl

theorem eq_of_toAscii?_of_isAscii {d : List Char} (hs : isAscii s = true)
    (h : toAscii? s = some d) : d = s.map Char.toLower := by
  rw [toAscii?_of_isAscii hs] at h
  obtain ⟨read, -, h⟩ := Option.bind_eq_some_iff.mp h
  split at h
  · cases h
  split at h
  · cases h
  exact (Option.some.inj h).symm

/-- A name in ASCII without labels in Punycode is a domain name in lower case. -/
theorem toAscii?_eq_some (hs : isAscii s = true) (hname : IsAllowed s)
    (hlabels : ∀ l ∈ Text.pieces '.' (s.map Char.toLower), punycodeMark.isPrefixOf l = false) :
    toAscii? s = some (s.map Char.toLower) := by
  have hread : (Text.pieces '.' (s.map Char.toLower)).mapM readLabel? =
      some (Text.pieces '.' (s.map Char.toLower)) := by
    have hlabel : ∀ l ∈ Text.pieces '.' (s.map Char.toLower), readLabel? l = some l := by
      intro l hl
      have hascii : isAscii l = true := List.all_eq_true.mpr fun c hc =>
        decide_eq_true (lt_of_mem_lower hs c (Text.mem_of_mem_pieces hl hc))
      simp [readLabel?, hlabels l hl, hascii]
    generalize Text.pieces '.' (s.map Char.toLower) = labels at hlabel
    induction labels with
    | nil => rfl
    | cons l labels ih =>
      rw [List.mapM_cons, hlabel l List.mem_cons_self,
        ih fun m hm => hlabel m (List.mem_cons_of_mem l hm)]
      rfl
  have hright : (Text.pieces '.' (s.map Char.toLower)).any (·.any isRightToLeft) = false := by
    rw [List.any_eq_false]
    intro l hl
    rw [List.any_eq_true]
    rintro ⟨c, hc, hr⟩
    rw [isRightToLeft_of_lt (lt_of_mem_lower hs c (Text.mem_of_mem_pieces hl hc))] at hr
    cases hr
  have hforbidden : (s.map Char.toLower).any isForbidden = false := by
    rw [List.any_eq_false]
    intro c hc
    obtain ⟨b, hb, rfl⟩ := List.mem_map.mp hc
    rw [isForbidden_toLower (hname b hb)]
    exact Bool.false_ne_true
  rw [toAscii?_of_isAscii hs, hread, Option.bind_some, hright, hforbidden]
  rfl

end Ascii

end DomainName

theorem Utf8.decode?_encodeChars_of_isAscii {s : List Char} (hs : DomainName.isAscii s = true) :
    decode? (encodeChars s) = some s := by
  induction s with
  | nil => rfl
  | cons c s ih =>
    obtain ⟨hc, hs⟩ := Bool.and_eq_true_iff.mp hs
    have hle : c.toNat ≤ 0x7F := by
      have hlt : c.toNat < 128 := by simpa using hc
      omega
    have henc : encodeChars (c :: s) = UInt8.ofNat c.toNat :: encodeChars s := by
      rw [encodeChars, List.flatMap_cons, utf8EncodeChar_eq, if_pos hle]
      rfl
    have hnext : next (UInt8.ofNat c.toNat) (encodeChars s) = (some c, 0) := by
      have hl := toNat_ofNat_of_lt (show c.toNat < 256 by omega)
      have hf : follow (UInt8.ofNat c.toNat) = some (0, 0x80, 0xBF) := by
        refine if_pos ?_
        rw [UInt8.le_iff_toNat_le, hl]
        exact hle
      simp [next, hf, tails, codePoint, hl]
    rw [henc]
    unfold decode? decodeFrom?
    rw [hnext]
    change (decodeFrom? 0 (encodeChars s)).bind (fun s => some (c :: s)) = some (c :: s)
    have hrest : decodeFrom? 0 (encodeChars s) = some s := ih hs
    rw [hrest, Option.bind_some]

/-- Where nothing is encoded, the bytes are those of the text. -/
theorem Percent.decode_of_not_mem {s : List Char} (h : '%' ∉ s) :
    decode s = Utf8.encodeChars s := by
  induction s with
  | nil => rfl
  | cons c r ih =>
    have hc : c ≠ '%' := fun he => h (he ▸ List.mem_cons_self)
    have hr : '%' ∉ r := List.not_mem_of_not_mem_cons h
    rw [decode, ih hr]
    · rfl
    · intro _ _ _ he
      exact absurd he hc

/-- A name in ASCII that is no address. -/
structure DomainName.IsAsciiName (s : List Char) : Prop where
  isAllowed : IsAllowed s
  isAscii : isAscii s = true
  endsInNumber : Ipv4.endsInNumber (s.map Char.toLower) = false

namespace UrlHost

variable {s : List Char} {host : UrlHost}

theorem domain?_of_isAscii (hname : DomainName.IsAllowed s) (hs : DomainName.isAscii s = true) :
    domain? s = DomainName.toAscii? s := by
  rw [domain?, Percent.decode_of_not_mem (hname.not_mem (by decide)),
    Utf8.decode?_encodeChars_of_isAscii hs, Option.bind_some]

/-- A name in ASCII is read to nothing but the name in lower case. -/
theorem eq_of_read (hs : DomainName.IsAsciiName s) (h : read s = .ok host) :
    host = .name (String.ofList (s.map Char.toLower)) := by
  unfold read at h
  split at h
  · exact absurd List.mem_cons_self (hs.isAllowed.not_mem (by decide))
  split at h
  · cases h
  · cases h
  · next d _ hd =>
    rw [domain?_of_isAscii hs.isAllowed hs.isAscii] at hd
    rw [DomainName.eq_of_toAscii?_of_isAscii hs.isAscii hd, hs.endsInNumber] at h
    exact (Except.ok.inj h).symm

theorem read_of_isAsciiName (hs : DomainName.IsAsciiName s) (hne : s ≠ [])
    (hlabels : ∀ l ∈ Text.pieces '.' (s.map Char.toLower),
      DomainName.punycodeMark.isPrefixOf l = false) :
    read s = .ok (.name (String.ofList (s.map Char.toLower))) := by
  have hdomain : domain? s = some (s.map Char.toLower) := by
    rw [domain?_of_isAscii hs.isAllowed hs.isAscii,
      DomainName.toAscii?_eq_some hs.isAscii hs.isAllowed hlabels]
  unfold read
  split
  · exact absurd List.mem_cons_self (hs.isAllowed.not_mem (by decide))
  rw [hdomain]
  split
  · next h => cases h
  · next h => exact absurd (List.map_eq_nil_iff.mp (Option.some.inj h)) hne
  · next d _ hd =>
    rw [← Option.some.inj hd, hs.endsInNumber]
    rfl

end UrlHost

end WebTestbed
