import WebTestbed.Text.Blank
import WebTestbed.Text.Cut
import WebTestbed.Text.Numeral
import Mathlib.Data.List.DropRight
import Mathlib.Data.Nat.Digits.Defs

/-! Trimming, lower case, cuts and numerals: doing each twice, and reading what was written. -/
namespace WebTestbed.Text

theorem cut_append {sep : Char} {a : List Char} (h : sep ∉ a) (b : List Char) :
    cut sep (a ++ sep :: b) = some (a, b) := by
  induction a with
  | nil => simp [cut]
  | cons c a ih =>
    have hc : c ≠ sep := fun he => h (he ▸ List.mem_cons_self)
    have ha : sep ∉ a := fun hm => h (List.mem_cons_of_mem _ hm)
    simp [cut, hc, ih ha]

theorem pieces_ne_nil (sep : Char) (s : List Char) : pieces sep s ≠ [] := by
  cases s with
  | nil => exact List.cons_ne_nil _ _
  | cons c r =>
    unfold pieces
    split
    · exact List.cons_ne_nil _ _
    · split <;> exact List.cons_ne_nil _ _

theorem not_mem_of_mem_pieces {sep : Char} {s p : List Char} (h : p ∈ pieces sep s) : sep ∉ p := by
  induction s generalizing p with
  | nil =>
    rw [pieces, List.mem_singleton] at h
    rw [h]
    exact List.not_mem_nil
  | cons c r ih =>
    by_cases hc : c = sep
    · rw [pieces, if_pos hc, List.mem_cons] at h
      obtain rfl | hp := h
      · exact List.not_mem_nil
      · exact ih hp
    · rw [pieces, if_neg hc] at h
      have hcons : ∀ q : List Char, sep ∉ q → sep ∉ c :: q := fun q hq hm =>
        (List.mem_cons.mp hm).elim (fun he => hc he.symm) hq
      cases hr : pieces sep r with
      | nil =>
        rw [hr, List.mem_singleton] at h
        exact h ▸ hcons [] List.not_mem_nil
      | cons q qs =>
        rw [hr, List.mem_cons] at h
        rw [hr] at ih
        obtain rfl | hp := h
        · exact hcons q (ih List.mem_cons_self)
        · exact ih (List.mem_cons_of_mem q hp)

theorem mem_of_mem_pieces {sep c : Char} {s p : List Char} (hp : p ∈ pieces sep s)
    (hc : c ∈ p) : c ∈ s := by
  induction s generalizing p with
  | nil =>
    rw [pieces, List.mem_singleton] at hp
    rw [← hp]
    exact hc
  | cons d r ih =>
    unfold pieces at hp
    split at hp
    · obtain rfl | hp := List.mem_cons.mp hp
      · cases hc
      · exact List.mem_cons_of_mem d (ih hp hc)
    · split at hp
      · rw [List.mem_singleton.mp hp, List.mem_singleton] at hc
        exact hc ▸ List.mem_cons_self
      · next q qs hr =>
        rw [hr] at ih
        obtain rfl | hp := List.mem_cons.mp hp
        · obtain rfl | hc := List.mem_cons.mp hc
          · exact List.mem_cons_self
          · exact List.mem_cons_of_mem d (ih List.mem_cons_self hc)
        · exact List.mem_cons_of_mem d (ih (List.mem_cons_of_mem q hp) hc)

theorem pieces_of_not_mem {sep : Char} {s : List Char} (h : sep ∉ s) : pieces sep s = [s] := by
  induction s with
  | nil => rfl
  | cons c r ih =>
    have hc : c ≠ sep := fun he => h (he ▸ List.mem_cons_self)
    rw [pieces, if_neg hc, ih (List.not_mem_of_not_mem_cons h)]

theorem piecesString_of_not_mem {sep : Char} {s : String} (h : sep ∉ s.toList) :
    piecesString sep s = [s] := by
  rw [piecesString, pieces_of_not_mem h]
  exact congrArg (fun t => [t]) String.ofList_toList

theorem pieces_append (sep : Char) (a b : List Char) :
    pieces sep (a ++ sep :: b) = pieces sep a ++ pieces sep b := by
  induction a with
  | nil => simp [pieces]
  | cons c a ih =>
    by_cases hc : c = sep
    · rw [List.cons_append, pieces, if_pos hc, ih, pieces, if_pos hc, List.cons_append]
    · rw [List.cons_append, pieces, if_neg hc, ih, pieces, if_neg hc]
      cases ha : pieces sep a with
      | nil => exact absurd ha (pieces_ne_nil sep a)
      | cons p ps => rfl

theorem toList_joinWith_cons (sep s : String) {r : List String} (hr : r ≠ []) :
    (joinWith sep (s :: r)).toList = s.toList ++ (sep.toList ++ (joinWith sep r).toList) := by
  cases r with
  | nil => exact absurd rfl hr
  | cons t r =>
    rw [joinWith, String.toList_append, String.toList_append, List.append_assoc]
    exact List.cons_ne_nil t r

/-- The pieces of joined texts are the pieces of each. -/
theorem piecesString_joinWith_eq_flatMap {sep : Char} {text : String} (hsep : text.toList = [sep])
    {l : List String} (hne : l ≠ []) :
    piecesString sep (joinWith text l) = l.flatMap (piecesString sep) := by
  induction l with
  | nil => exact absurd rfl hne
  | cons s r ih =>
    by_cases hr : r = []
    · rw [hr, List.flatMap_singleton]
      rfl
    · have hrest := ih hr
      rw [piecesString] at hrest
      rw [piecesString, toList_joinWith_cons text s hr, hsep, List.singleton_append, pieces_append,
        List.map_append, hrest, List.flatMap_cons, piecesString]

/-- Texts that do not hold the separator are the pieces of what they are joined to. -/
theorem piecesString_joinWith {sep : Char} {text : String} (hsep : text.toList = [sep])
    {l : List String} (hne : l ≠ []) (h : ∀ s ∈ l, sep ∉ s.toList) :
    piecesString sep (joinWith text l) = l := by
  have hpieces : ∀ s ∈ l, piecesString sep s = [s] := fun s hs => piecesString_of_not_mem (h s hs)
  rw [piecesString_joinWith_eq_flatMap hsep hne, List.flatMap_congr hpieces,
    List.flatMap_singleton']

theorem trim_eq (s : List Char) : trim s = (s.dropWhile isBlank).rdropWhile isBlank := rfl

theorem mem_of_mem_trim {c : Char} {s : List Char} (h : c ∈ trim s) : c ∈ s := by
  rw [trim_eq] at h
  exact (List.dropWhile_suffix _).subset ((List.rdropWhile_prefix _ _).subset h)

theorem trim_eq_nil_iff {s : List Char} : trim s = [] ↔ ∀ c ∈ s, isBlank c = true := by
  constructor
  · intro h c hc
    rw [trim_eq, List.rdropWhile_eq_nil_iff] at h
    rw [← List.takeWhile_append_dropWhile (p := isBlank) (l := s), List.mem_append] at hc
    obtain hc | hc := hc
    · exact List.mem_takeWhile_imp hc
    · exact h c hc
  · intro h
    rw [trim_eq, List.dropWhile_eq_nil_iff.mpr h]
    rfl

theorem trim_cons_of_isBlank {c : Char} (hc : isBlank c = true) (s : List Char) :
    trim (c :: s) = trim s := by
  simp [trim, hc]

/-- What is trimmed does not start with a blank. -/
theorem dropWhile_trim (s : List Char) : (trim s).dropWhile isBlank = trim s := by
  rw [List.dropWhile_eq_self_iff]
  intro hl
  have hp : trim s <+: s.dropWhile isBlank := List.rdropWhile_prefix _ _
  have hn : 0 < (s.dropWhile isBlank).length := Nat.lt_of_lt_of_le hl hp.length_le
  rw [hp.getElem hl]
  exact List.dropWhile_get_zero_not _ _ hn

@[simp] theorem trim_trim (s : List Char) : trim (trim s) = trim s := by
  rw [trim_eq (trim s), dropWhile_trim, trim_eq]
  exact List.rdropWhile_idempotent _ _

/-- What is trimmed does not end with a blank. -/
theorem getLast?_trim_ne {c : Char} (hc : isBlank c = true) (s : List Char) :
    (trim s).getLast? ≠ some c := by
  intro h
  have hne : trim s ≠ [] := by
    intro hn
    simp [hn] at h
  have hl : isBlank ((trim s).getLast hne) ≠ true := List.rdropWhile_last_not _ _ hne
  rw [List.getLast?_eq_some_getLast hne, Option.some.injEq] at h
  exact hl (h ▸ hc)

theorem trim_append_of_isBlank {c : Char} (hc : isBlank c = true) (s : List Char) :
    trim (s ++ [c]) = trim s := by
  rw [trim_eq, trim_eq, List.dropWhile_append]
  split
  · next h => simp [hc, List.isEmpty_iff.mp h]
  · exact List.rdropWhile_concat_pos _ _ _ hc

/-- Nothing is trimmed where neither end is a blank. -/
theorem trim_eq_self_iff {s : List Char} : trim s = s ↔
    (∀ c ∈ s.head?, isBlank c = false) ∧ ∀ c ∈ s.getLast?, isBlank c = false := by
  constructor
  · intro h
    constructor
    · intro c hc
      have hdrop := dropWhile_trim s
      rw [h] at hdrop
      obtain ⟨r, rfl⟩ := List.head?_eq_some_iff.mp hc
      rw [List.dropWhile_eq_self_iff] at hdrop
      simpa using hdrop (Nat.zero_lt_succ _)
    · intro c hc
      by_contra hblank
      exact getLast?_trim_ne (by simpa using hblank) s (h.symm ▸ hc)
  · rintro ⟨hhead, hlast⟩
    have hdrop : s.dropWhile isBlank = s := by
      cases s with
      | nil => rfl
      | cons c r => exact List.dropWhile_cons_of_neg (by simpa using hhead c rfl)
    rw [trim_eq, hdrop, List.rdropWhile_eq_self_iff]
    intro hne
    simpa using hlast _ (List.getLast?_eq_some_getLast hne)

theorem toNat_toLower (c : Char) :
    c.toLower.toNat = if 65 ≤ c.toNat ∧ c.toNat ≤ 90 then c.toNat + 32 else c.toNat := by
  have hc : (c.val ≥ 'A'.val ∧ c.val ≤ 'Z'.val) ↔ 65 ≤ c.toNat ∧ c.toNat ≤ 90 := Iff.rfl
  unfold Char.toLower
  by_cases h : 65 ≤ c.toNat ∧ c.toNat ≤ 90
  · rw [if_pos h, dif_pos (hc.mpr h)]
    change (c.val + ('a'.val - 'A'.val)).toNat = c.val.toNat + 32
    have hu : c.val.toNat ≤ 90 := h.2
    rw [UInt32.toNat_add, show ('a'.val - 'A'.val).toNat = 32 from rfl]
    omega
  · rw [if_neg h, dif_neg (fun hh => h (hc.mp hh))]

/-- Characters that are no letters of ASCII come from themselves only. -/
theorem eq_of_toLower_eq {c d : Char} (hd : ¬ (97 ≤ d.toNat ∧ d.toNat ≤ 122))
    (h : c.toLower = d) : c = d := by
  have hn := toNat_toLower c
  rw [h] at hn
  split at hn
  · omega
  · exact Char.toNat_inj.mp hn.symm

theorem toLower_toLower (c : Char) : c.toLower.toLower = c.toLower := by
  apply Char.toNat_inj.mp
  have hn := toNat_toLower c
  rw [toNat_toLower c.toLower, if_neg]
  split at hn <;> omega

theorem toList_lowercase (s : String) : (lowercase s).toList = s.toList.map Char.toLower :=
  String.toList_ofList

@[simp] theorem lowercase_lowercase (s : String) : lowercase (lowercase s) = lowercase s := by
  apply String.toList_inj.mp
  rw [toList_lowercase, toList_lowercase, List.map_map]
  exact List.map_congr_left fun c _ => toLower_toLower c

theorem mem_of_mem_lowercase {c : Char} (hc : ¬ (97 ≤ c.toNat ∧ c.toNat ≤ 122)) {s : String}
    (h : c ∈ (lowercase s).toList) : c ∈ s.toList := by
  rw [toList_lowercase] at h
  obtain ⟨d, hd, he⟩ := List.mem_map.mp h
  exact eq_of_toLower_eq hc he ▸ hd

end WebTestbed.Text

namespace WebTestbed.Numeral

theorem value_toDigits (n : Nat) : value (Nat.toDigits 10 n) = n :=
  Nat.ofDigitChars_ten_toDigits

theorem isDigit_of_mem_toDigits {c : Char} {n : Nat} (h : c ∈ Nat.toDigits 10 n) :
    c.isDigit = true :=
  Nat.isDigit_of_mem_toDigits (by decide) (by decide) h

/-- The last digit counts ones, the one before it tens, and so on. -/
theorem value_eq_ofDigits (s : List Char) :
    value s = Nat.ofDigits 10 (s.reverse.map digitValue) := by
  induction s using List.reverseRecOn with
  | nil => rfl
  | append_singleton s c ih =>
    have hvalue : value (s ++ [c]) = 10 * value s + digitValue c := by simp [value]
    rw [hvalue, List.reverse_concat, List.map_cons, Nat.ofDigits_cons, ← ih, Nat.add_comm]

/-- Numerals are the runs of digits that are not empty. -/
theorem read?_eq_some_iff {s : List Char} {n : Nat} :
    read? s = some n ↔ s ≠ [] ∧ (∀ c ∈ s, c.isDigit = true) ∧ value s = n := by
  have hread : (s.isEmpty || !s.all Char.isDigit) = false ↔
      s ≠ [] ∧ ∀ c ∈ s, c.isDigit = true := by
    rw [Bool.or_eq_false_iff, List.isEmpty_eq_false_iff, Bool.not_eq_false', List.all_eq_true]
  unfold read?
  rw [← and_assoc, ← hread]
  split
  · next h => simp [h]
  · next h => simp [Bool.eq_false_iff.mpr h]

/-- A number is read as it is written. -/
theorem read?_toDigits (n : Nat) : read? (Nat.toDigits 10 n) = some n :=
  read?_eq_some_iff.mpr ⟨by simp, fun _ => isDigit_of_mem_toDigits, value_toDigits n⟩

/-- Numerals consist of digits. -/
theorem isDigit_of_read? {s : List Char} {n : Nat} (h : read? s = some n) :
    ∀ c ∈ s, c.isDigit = true :=
  (read?_eq_some_iff.mp h).2.1

/-- A numeral without a sign is read up to the limit. -/
theorem signedRead?_of_read? {limit n : Nat} {s : List Char} (h : read? s = some n) :
    signedRead? limit s = if n ≤ limit then some n else none := by
  have hplus : s.head? ≠ some '+' := by
    intro hhead
    exact absurd (isDigit_of_read? h '+' (List.mem_of_mem_head? hhead)) (by decide)
  unfold signedRead?
  split
  · exact absurd rfl hplus
  · change (read? s).filter (· ≤ limit) = _
    rw [h, Option.filter_some]
    simp only [decide_eq_true_eq]

end WebTestbed.Numeral
