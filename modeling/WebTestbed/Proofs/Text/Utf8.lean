import WebTestbed.Text.Utf8

/-! Decoding what was encoded, and decoding in parts that are cut at a line feed. Lossy decoding
never fails, so both hold of bytes that are not UTF-8 as well. -/
namespace WebTestbed.Utf8

theorem length_tails_le (n : Nat) (lo hi : UInt8) (r : Bytes) :
    (tails n lo hi r).length ≤ r.length := by
  induction r generalizing n lo hi with
  | nil => cases n <;> simp [tails]
  | cons b r ih =>
    cases n with
    | zero => simp [tails]
    | succ n =>
      have := ih n 0x80 0xBF
      unfold tails
      split
      · rw [List.length_cons, List.length_cons]
        omega
      · exact Nat.zero_le _

/-- A sequence is not continued by bytes of ASCII. -/
theorem tails_append {b : Bytes} (hb : ∀ x ∈ b.head?, x < 0x80) (n : Nat) (lo hi : UInt8)
    (hlo : 0x80 ≤ lo) (a : Bytes) : tails n lo hi (a ++ b) = tails n lo hi a := by
  induction a generalizing n lo hi with
  | nil =>
    cases n with
    | zero => simp [tails]
    | succ n =>
      cases b with
      | nil => rfl
      | cons x b =>
        have hx : x < 0x80 := hb x (by simp)
        have hn : ¬ lo ≤ x := by
          simp only [UInt8.lt_iff_toNat_lt, UInt8.le_iff_toNat_le] at *
          omega
        simp [tails, hn]
  | cons c a ih =>
    cases n with
    | zero => simp [tails]
    | succ n => simp only [List.cons_append, tails, ih n 0x80 0xBF (by decide)]

theorem le_of_follow {lead lo hi : UInt8} {n : Nat} (h : follow lead = some (n, lo, hi)) :
    0x80 ≤ lo := by
  unfold follow at h
  repeat' split at h
  all_goals first | (obtain ⟨-, rfl, -⟩ := by simpa using h) | cases h
  all_goals decide

theorem next_append {b : Bytes} (hb : ∀ x ∈ b.head?, x < 0x80) (lead : UInt8) (a : Bytes) :
    next lead (a ++ b) = next lead a := by
  unfold next
  cases hf : follow lead with
  | none => rfl
  | some f =>
    obtain ⟨n, lo, hi⟩ := f
    simp only [tails_append hb n lo hi (le_of_follow hf) a]

theorem next_length_le (lead : UInt8) (r : Bytes) : (next lead r).2 ≤ r.length := by
  unfold next
  cases follow lead with
  | none => simp
  | some f => exact length_tails_le ..

theorem lossyFrom_append {b : Bytes} (hb : ∀ x ∈ b.head?, x < 0x80) (k : Nat) (a : Bytes)
    (hk : k ≤ a.length) : lossyFrom k (a ++ b) = lossyFrom k a ++ lossyFrom 0 b := by
  induction a generalizing k with
  | nil =>
    obtain rfl : k = 0 := by simpa using hk
    simp [lossyFrom]
  | cons c a ih =>
    cases k with
    | succ k => exact ih k (by simpa using hk)
    | zero =>
      simp only [List.cons_append, lossyFrom, next_append hb]
      rw [ih _ (next_length_le c a)]

/-- What is decoded before a byte of ASCII does not depend on what comes from there on. -/
theorem lossy_append {b : Bytes} (hb : ∀ x ∈ b.head?, x < 0x80) (a : Bytes) :
    lossy (a ++ b) = lossy a ++ lossy b :=
  lossyFrom_append hb 0 a (Nat.zero_le _)

theorem lossy_lineFeed_cons (b : Bytes) : lossy (0x0A :: b) = '\n' :: lossy b := rfl

/-- A line feed cuts a text in two that are decoded apart. -/
theorem lossy_append_lineFeed_append (a b : Bytes) :
    lossy (a ++ [0x0A] ++ b) = lossy a ++ ['\n'] ++ lossy b := by
  have hc : lossy (a ++ 0x0A :: b) = lossy a ++ lossy (0x0A :: b) := lossy_append (by simp) a
  rw [List.append_assoc, List.singleton_append, hc, lossy_lineFeed_cons]
  simp

theorem lossy_append_lineFeed (a : Bytes) : lossy (a ++ [0x0A]) = lossy a ++ ['\n'] :=
  lossy_append (by simp) a

theorem lossy_eq_nil_iff (bs : Bytes) : lossy bs = [] ↔ bs = [] := by
  cases bs <;> simp [lossy, lossyFrom]

theorem lossyFrom_length_append (t r : Bytes) : lossyFrom t.length (t ++ r) = lossyFrom 0 r := by
  induction t with
  | nil => rfl
  | cons b t ih => exact ih

/-- A lead byte with all the bytes that it asks for is one character. -/
theorem lossyFrom_sequence {c : Char} {lead lo hi : UInt8} {t : Bytes} (r : Bytes)
    (hf : follow lead = some (t.length, lo, hi)) (ht : tails t.length lo hi (t ++ r) = t)
    (hc : codePoint lead t = c.toNat) : lossyFrom 0 (lead :: t ++ r) = c :: lossyFrom 0 r := by
  have hn : next lead (t ++ r) = (some c, t.length) := by simp [next, hf, ht, hc]
  simp [lossyFrom, hn, lossyFrom_length_append]

/-- The byte that continues a sequence with the lowest six bits of a number. -/
def tailOf (n : Nat) : UInt8 := UInt8.ofNat (n % 64 + 128)

theorem toNat_ofNat_of_lt {n : Nat} (h : n < 256) : (UInt8.ofNat n).toNat = n := by
  rw [UInt8.toNat_ofNat', Nat.mod_eq_of_lt h]

theorem toNat_tailOf (n : Nat) : (tailOf n).toNat = n % 64 + 128 :=
  toNat_ofNat_of_lt (by omega)

theorem tails_tailOf {lo hi : UInt8} {v : Nat} (hl : lo.toNat ≤ v % 64 + 128)
    (hh : v % 64 + 128 ≤ hi.toNat) (n : Nat) (r : Bytes) :
    tails (n + 1) lo hi (tailOf v :: r) = tailOf v :: tails n 0x80 0xBF r := by
  have hb : lo ≤ tailOf v ∧ tailOf v ≤ hi := by
    simp only [UInt8.le_iff_toNat_le, toNat_tailOf]
    exact ⟨hl, hh⟩
  simp [tails, hb]

theorem tails_tailOf_of_any (v n : Nat) (r : Bytes) :
    tails (n + 1) 0x80 0xBF (tailOf v :: r) = tailOf v :: tails n 0x80 0xBF r :=
  tails_tailOf (by simp) (by simp; omega) n r

theorem lossyFrom_one {c : Char} (h : c.toNat ≤ 0x7F) (r : Bytes) :
    lossyFrom 0 ([UInt8.ofNat c.toNat] ++ r) = c :: lossyFrom 0 r := by
  have hl := toNat_ofNat_of_lt (show c.toNat < 256 by omega)
  have hf : follow (UInt8.ofNat c.toNat) = some (0, 0x80, 0xBF) := by
    simp only [follow, UInt8.le_iff_toNat_le, hl, UInt8.reduceToNat]
    exact if_pos h
  exact lossyFrom_sequence (t := []) r hf rfl hl

theorem lossyFrom_two {c : Char} (h : 0x7F < c.toNat) (h' : c.toNat ≤ 0x7FF) (r : Bytes) :
    lossyFrom 0 ([UInt8.ofNat (c.toNat / 64 % 32 + 192), tailOf c.toNat] ++ r) =
      c :: lossyFrom 0 r := by
  have hl := toNat_ofNat_of_lt (show c.toNat / 64 % 32 + 192 < 256 by omega)
  have hf : follow (UInt8.ofNat (c.toNat / 64 % 32 + 192)) = some (1, 0x80, 0xBF) := by
    simp only [follow, UInt8.le_iff_toNat_le, hl, UInt8.reduceToNat]
    rw [if_neg (by omega), if_neg (by omega), if_pos (by omega)]
  refine lossyFrom_sequence (t := [tailOf c.toNat]) r hf ?_ ?_
  · exact tails_tailOf_of_any _ 0 r
  · simp only [codePoint, List.length_cons, List.length_nil, List.foldl_cons, List.foldl_nil, hl,
      toNat_tailOf]
    omega

/-- The lead bytes E0 and ED narrow the byte after them; no character lies in the gap that this
leaves, as surrogates are not characters. -/
theorem lossyFrom_three {c : Char} (h : 0x7FF < c.toNat) (h' : c.toNat ≤ 0xFFFF) (r : Bytes) :
    lossyFrom 0 ([UInt8.ofNat (c.toNat / 4096 % 16 + 224), tailOf (c.toNat / 64),
      tailOf c.toNat] ++ r) = c :: lossyFrom 0 r := by
  have hv : c.toNat < 0xD800 ∨ 0xDFFF < c.toNat := by
    rcases c.valid with hv | hv
    · exact Or.inl hv
    · exact Or.inr hv.1
  have hl := toNat_ofNat_of_lt (show c.toNat / 4096 % 16 + 224 < 256 by omega)
  have hf : ∃ lo hi : UInt8, follow (UInt8.ofNat (c.toNat / 4096 % 16 + 224)) = some (2, lo, hi) ∧
      lo.toNat ≤ c.toNat / 64 % 64 + 128 ∧ c.toNat / 64 % 64 + 128 ≤ hi.toNat := by
    simp only [follow, UInt8.le_iff_toNat_le, ← UInt8.toNat_inj, hl, UInt8.reduceToNat]
    rw [if_neg (by omega), if_neg (by omega), if_neg (by omega)]
    by_cases he : c.toNat / 4096 % 16 + 224 = 224
    · exact ⟨0xA0, 0xBF, if_pos he, by simp; omega, by simp; omega⟩
    rw [if_neg he]
    by_cases hd : c.toNat / 4096 % 16 + 224 = 237
    · exact ⟨0x80, 0x9F, if_pos hd, by simp, by simp; omega⟩
    · exact ⟨0x80, 0xBF, by rw [if_neg hd, if_pos (by omega)], by simp, by simp; omega⟩
  obtain ⟨lo, hi, hf, hlo, hhi⟩ := hf
  refine lossyFrom_sequence (t := [tailOf (c.toNat / 64), tailOf c.toNat]) r hf ?_ ?_
  · change tails 2 lo hi (tailOf (c.toNat / 64) :: tailOf c.toNat :: r) = _
    rw [tails_tailOf hlo hhi, tails_tailOf_of_any]
    rfl
  · simp only [codePoint, List.length_cons, List.length_nil, List.foldl_cons, List.foldl_nil, hl,
      toNat_tailOf]
    omega

/-- The lead bytes F0 and F4 narrow the byte after them to what lies above U+FFFF and below the
end of the code points. -/
theorem lossyFrom_four {c : Char} (h : 0xFFFF < c.toNat) (r : Bytes) :
    lossyFrom 0 ([UInt8.ofNat (c.toNat / 262144 % 8 + 240), tailOf (c.toNat / 4096),
      tailOf (c.toNat / 64), tailOf c.toNat] ++ r) = c :: lossyFrom 0 r := by
  have hv : c.toNat < 0x110000 := by
    rcases c.valid with hv | hv
    · exact Nat.lt_trans hv (by decide)
    · exact hv.2
  have hl := toNat_ofNat_of_lt (show c.toNat / 262144 % 8 + 240 < 256 by omega)
  have hf : ∃ lo hi : UInt8, follow (UInt8.ofNat (c.toNat / 262144 % 8 + 240)) = some (3, lo, hi) ∧
      lo.toNat ≤ c.toNat / 4096 % 64 + 128 ∧ c.toNat / 4096 % 64 + 128 ≤ hi.toNat := by
    simp only [follow, UInt8.le_iff_toNat_le, ← UInt8.toNat_inj, hl, UInt8.reduceToNat]
    rw [if_neg (by omega), if_neg (by omega), if_neg (by omega), if_neg (by omega),
      if_neg (by omega), if_neg (by omega)]
    by_cases h0 : c.toNat / 262144 % 8 + 240 = 240
    · exact ⟨0x90, 0xBF, if_pos h0, by simp; omega, by simp; omega⟩
    rw [if_neg h0]
    by_cases h3 : c.toNat / 262144 % 8 + 240 ≤ 243
    · exact ⟨0x80, 0xBF, if_pos h3, by simp, by simp; omega⟩
    · exact ⟨0x80, 0x8F, by rw [if_neg h3, if_pos (by omega)], by simp, by simp; omega⟩
  obtain ⟨lo, hi, hf, hlo, hhi⟩ := hf
  refine lossyFrom_sequence
    (t := [tailOf (c.toNat / 4096), tailOf (c.toNat / 64), tailOf c.toNat]) r hf ?_ ?_
  · change tails 3 lo hi
      (tailOf (c.toNat / 4096) :: tailOf (c.toNat / 64) :: tailOf c.toNat :: r) = _
    rw [tails_tailOf hlo hhi, tails_tailOf_of_any, tails_tailOf_of_any]
    rfl
  · simp only [codePoint, List.length_cons, List.length_nil, List.foldl_cons, List.foldl_nil, hl,
      toNat_tailOf]
    omega

theorem utf8EncodeChar_eq (c : Char) : String.utf8EncodeChar c =
    if c.toNat ≤ 0x7F then [UInt8.ofNat c.toNat]
    else if c.toNat ≤ 0x7FF then [UInt8.ofNat (c.toNat / 64 % 32 + 192), tailOf c.toNat]
    else if c.toNat ≤ 0xFFFF then
      [UInt8.ofNat (c.toNat / 4096 % 16 + 224), tailOf (c.toNat / 64), tailOf c.toNat]
    else [UInt8.ofNat (c.toNat / 262144 % 8 + 240), tailOf (c.toNat / 4096),
      tailOf (c.toNat / 64), tailOf c.toNat] := rfl

theorem lossyFrom_utf8EncodeChar (c : Char) (r : Bytes) :
    lossyFrom 0 (String.utf8EncodeChar c ++ r) = c :: lossyFrom 0 r := by
  rw [utf8EncodeChar_eq]
  by_cases h1 : c.toNat ≤ 0x7F
  · rw [if_pos h1]
    exact lossyFrom_one h1 r
  rw [if_neg h1]
  by_cases h2 : c.toNat ≤ 0x7FF
  · rw [if_pos h2]
    exact lossyFrom_two (by omega) h2 r
  rw [if_neg h2]
  by_cases h3 : c.toNat ≤ 0xFFFF
  · rw [if_pos h3]
    exact lossyFrom_three (by omega) h3 r
  · rw [if_neg h3]
    exact lossyFrom_four (by omega) r

theorem lossy_encodeChars (s : List Char) : lossy (encodeChars s) = s := by
  induction s with
  | nil => rfl
  | cons c s ih =>
    rw [encodeChars, List.flatMap_cons]
    exact (lossyFrom_utf8EncodeChar c _).trans (congrArg (c :: ·) ih)

/-- Text is decoded as it was encoded. -/
theorem lossy_encode (s : String) : lossy (encode s) = s.toList :=
  lossy_encodeChars s.toList

/-- The lead byte of a longer sequence, or the byte that is asked for after it, is too great for a
character of ASCII. -/
theorem follow_cases {lead lo hi : UInt8} {n : Nat} (h : follow lead = some (n, lo, hi)) :
    n = 0 ∧ lead.toNat ≤ 0x7F ∨ n = 1 ∧ 0xC2 ≤ lead.toNat ∨
      n = 2 ∧ (0xE1 ≤ lead.toNat ∨ 0xA0 ≤ lo.toNat) ∨
      n = 3 ∧ (0xF1 ≤ lead.toNat ∨ 0x90 ≤ lo.toNat) := by
  have hA0 : (0xA0 : UInt8).toNat = 0xA0 := rfl
  have h90 : (0x90 : UInt8).toNat = 0x90 := rfl
  simp only [follow, UInt8.le_iff_toNat_le, ← UInt8.toNat_inj, UInt8.reduceToNat] at h
  repeat' split at h
  all_goals first | (obtain ⟨rfl, rfl, -⟩ := by simpa using h) | cases h
  all_goals omega

theorem le_head_of_tails {n : Nat} {lo hi b : UInt8} {r t : Bytes} (h : tails n lo hi r = b :: t) :
    lo.toNat ≤ b.toNat := by
  cases n with
  | zero => simp [tails] at h
  | succ n =>
    cases r with
    | nil => simp [tails] at h
    | cons c r =>
      unfold tails at h
      split at h
      · next hc =>
        obtain ⟨rfl, -⟩ := List.cons.inj h
        simp only [Bool.and_eq_true, decide_eq_true_eq] at hc
        exact UInt8.le_iff_toNat_le.mp hc.1
      · cases h

theorem le_codePoint {lead lo hi : UInt8} {n : Nat} {r : Bytes}
    (hf : follow lead = some (n, lo, hi)) (hn : n ≠ 0) (ht : (tails n lo hi r).length = n) :
    0x80 ≤ codePoint lead (tails n lo hi r) := by
  have hcases := follow_cases hf
  have hhead : ∀ b t, tails n lo hi r = b :: t → lo.toNat ≤ b.toNat := fun _ _ => le_head_of_tails
  generalize tails n lo hi r = t at *
  match t with
  | [] => exact absurd ht.symm hn
  | [b] =>
    simp only [List.length_singleton] at ht
    simp only [codePoint, List.length_singleton, List.foldl_cons, List.foldl_nil]
    omega
  | [b, c] =>
    have hb := hhead b _ rfl
    simp only [List.length_cons, List.length_nil] at ht
    simp only [codePoint, List.length_cons, List.length_nil, List.foldl_cons, List.foldl_nil]
    omega
  | [b, c, d] =>
    have hb := hhead b _ rfl
    simp only [List.length_cons, List.length_nil] at ht
    simp only [codePoint, List.length_cons, List.length_nil, List.foldl_cons, List.foldl_nil]
    omega
  | _ :: _ :: _ :: _ :: _ =>
    simp only [List.length_cons] at ht
    omega

theorem toNat_of_ofNat_eq {n : Nat} {c : Char} (hc : c ≠ '\x00') (h : Char.ofNat n = c) :
    c.toNat = n := by
  by_cases hn : n.isValidChar
  · have hvalid : Char.ofNat n = Char.ofNatAux n hn := dif_pos hn
    rw [← h, hvalid]
    rfl
  · have hnul : Char.ofNat n = '\x00' := dif_neg hn
    exact absurd (h.symm.trans hnul) hc

/-- Only a byte of ASCII is read as a character of ASCII. -/
theorem toNat_of_next {lead : UInt8} {r : Bytes} {c : Char} (hc : c.toNat < 0x80)
    (hne : c ≠ '\x00') (h : (next lead r).1 = some c) : lead.toNat = c.toNat := by
  unfold next at h
  cases hf : follow lead with
  | none => simp [hf] at h
  | some f =>
    obtain ⟨n, lo, hi⟩ := f
    simp only [hf] at h
    split at h
    case isFalse => cases h
    next ht =>
      have hpoint := toNat_of_ofNat_eq hne (Option.some.inj h)
      by_cases hn : n = 0
      · rw [hn] at hpoint
        exact hpoint.symm
      · have hge := le_codePoint hf hn ht
        omega

theorem mem_of_mem_lossyFrom {c : Char} (hc : c.toNat < 0x80) (hne : c ≠ '\x00') {k : Nat}
    {bs : Bytes} (h : c ∈ lossyFrom k bs) : UInt8.ofNat c.toNat ∈ bs := by
  induction bs generalizing k with
  | nil => simp [lossyFrom] at h
  | cons b bs ih =>
    cases k with
    | succ k => exact List.mem_cons_of_mem b (ih h)
    | zero =>
      rw [lossyFrom, List.mem_cons] at h
      rcases h with h | h
      · have hread : (next b bs).1 = some c := by
          cases hx : (next b bs).1 with
          | none =>
            rw [hx] at h
            rw [h] at hc
            exact absurd hc (by decide)
          | some d => simp [h, hx]
        have hb := toNat_of_next hc hne hread
        rw [← hb, UInt8.ofNat_toNat]
        exact List.mem_cons_self
      · exact List.mem_cons_of_mem b (ih h)

/-- A character of ASCII is decoded from its byte only. -/
theorem mem_of_mem_lossy {c : Char} (hc : c.toNat < 0x80) (hne : c ≠ '\x00') {bs : Bytes}
    (h : c ∈ lossy bs) : UInt8.ofNat c.toNat ∈ bs :=
  mem_of_mem_lossyFrom hc hne h

end WebTestbed.Utf8
