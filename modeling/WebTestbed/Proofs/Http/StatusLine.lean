import WebTestbed.Http.StatusLine
import WebTestbed.Proofs.Text.Basic
import WebTestbed.Proofs.Text.Lines

/-! The form of a status line, and reading one that was written. A line is read exactly if it has a
spelling, of which there is only one, with a number of 16 bits for its code. -/
namespace WebTestbed.Http
open Text

/-- The protocol of a status line has at least one character, and no blank. -/
def StatusLine.Proper (s : StatusLine) : Prop :=
  s.protocol.toList ≠ [] ∧ ∀ c ∈ s.protocol.toList, isBlank c = false

theorem StatusLine.Proper.not_mem {s : StatusLine} (h : s.Proper) {c : Char}
    (hc : isBlank c = true) : c ∉ s.protocol.toList := fun hm => by
  rw [h.2 c hm] at hc
  cases hc

/-- The code is the number that the digits write, with no bits of it lost. -/
theorem readCode?_eq_some_iff {digits : List Char} {code : UInt16} :
    readCode? digits = some code ↔
      digits ≠ [] ∧ (∀ c ∈ digits, c.isDigit = true) ∧ Numeral.value digits = code.toNat := by
  have hcode (n : Nat) : (if h : n < 65536 then some (UInt16.ofNatLT n h) else none) = some code ↔
      n = code.toNat := by
    split
    · rw [Option.some.injEq, ← UInt16.toNat_inj, UInt16.toNat_ofNatLT]
    · next h =>
      have hlt : code.toNat < 65536 := code.toNat_lt
      simp only [reduceCtorEq, false_iff]
      omega
  unfold readCode?
  rw [Option.bind_eq_some_iff]
  constructor
  · rintro ⟨n, hn, hc⟩
    obtain ⟨hne, hd, rfl⟩ := Numeral.read?_eq_some_iff.mp hn
    exact ⟨hne, hd, (hcode _).mp hc⟩
  · rintro ⟨hne, hd, hv⟩
    exact ⟨_, Numeral.read?_eq_some_iff.mpr ⟨hne, hd, rfl⟩, (hcode _).mpr hv⟩

theorem space_not_mem_of_isDigit {digits : List Char} (h : ∀ c ∈ digits, c.isDigit = true) :
    ' ' ∉ digits := fun hm => by
  have := h ' ' hm
  revert this
  decide

theorem readCode?_toDigits (code : UInt16) :
    readCode? (Nat.toDigits 10 code.toNat) = some code :=
  readCode?_eq_some_iff.mpr ⟨by simp, fun _ => Numeral.isDigit_of_mem_toDigits,
    Numeral.value_toDigits _⟩

/-- What comes after the protocol and its space: digits and the reason. -/
def codeAndReason (rest : List Char) : List Char × List Char :=
  (cut ' ' rest).getD (rest, [])

theorem codeAndReason_digits {digits : List Char} (h : ' ' ∉ digits) :
    codeAndReason digits = (digits, []) := by
  simp [codeAndReason, cut_eq_none_iff.mpr h]

theorem codeAndReason_append {digits : List Char} (h : ' ' ∉ digits) (reason : List Char) :
    codeAndReason (digits ++ ' ' :: reason) = (digits, reason) := by
  simp [codeAndReason, cut_append h]

theorem eq_of_codeAndReason (rest : List Char) :
    (rest = (codeAndReason rest).1 ∧ (codeAndReason rest).2 = []) ∨
      rest = (codeAndReason rest).1 ++ ' ' :: (codeAndReason rest).2 := by
  unfold codeAndReason
  cases hc : cut ' ' rest with
  | none => exact Or.inl ⟨rfl, rfl⟩
  | some p => exact Or.inr (cut_eq_some hc).1

theorem readStatus?_eq (line : List Char) : readStatus? line = (cut ' ' line).bind fun p =>
    if p.1.isEmpty || p.1.any isBlank then none
    else (readCode? (codeAndReason p.2).1).map fun code =>
      ⟨String.ofList p.1, code, String.ofList (codeAndReason p.2).2⟩ := by
  unfold readStatus?
  cases cut ' ' line with
  | none => rfl
  | some p =>
    simp only [Option.bind_eq_bind, Option.bind_some]
    split
    · rfl
    · exact Option.map_eq_bind.symm

/-- The lines that are read as a status line: the protocol, a space and digits, and nothing more or
another space and the reason. -/
theorem readStatus?_eq_some_iff {line : List Char} {s : StatusLine} :
    readStatus? line = some s ↔ s.Proper ∧ ∃ digits, readCode? digits = some s.code ∧
      (line = s.protocol.toList ++ ' ' :: digits ∧ s.reason = "" ∨
        line = s.protocol.toList ++ ' ' :: (digits ++ ' ' :: s.reason.toList)) := by
  rw [readStatus?_eq]
  constructor
  · intro h
    obtain ⟨⟨protocol, rest⟩, hp, hs⟩ := Option.bind_eq_some_iff.mp h
    obtain ⟨rfl, -⟩ := cut_eq_some hp
    dsimp only at hs
    split at hs
    · cases hs
    rename_i hproper
    obtain ⟨code, hcode, rfl⟩ := Option.map_eq_some_iff.mp hs
    simp only [Bool.or_eq_true, List.isEmpty_iff, not_or, Bool.not_eq_true,
      List.any_eq_false] at hproper
    refine ⟨?_, (codeAndReason rest).1, hcode, ?_⟩
    · simpa [StatusLine.Proper] using hproper
    · rcases eq_of_codeAndReason rest with ⟨hr, he⟩ | hr
      · left
        simp [he, ← hr]
      · right
        simp [← hr]
  · rintro ⟨hproper, digits, hcode, hline⟩
    have hs : ' ' ∉ digits := space_not_mem_of_isDigit (readCode?_eq_some_iff.mp hcode).2.1
    have hp : ' ' ∉ s.protocol.toList := hproper.not_mem (by decide)
    have hn : (s.protocol.toList.isEmpty || s.protocol.toList.any isBlank) = false := by
      rw [Bool.or_eq_false_iff, List.isEmpty_eq_false_iff, List.any_eq_false]
      exact ⟨hproper.1, fun c hc => by simp [hproper.2 c hc]⟩
    rcases hline with ⟨rfl, hr⟩ | rfl
    · rw [cut_append hp, Option.bind_some, hn, codeAndReason_digits hs]
      simp [hcode, ← hr]
    · rw [cut_append hp, Option.bind_some, hn, codeAndReason_append hs]
      simp [hcode]

theorem not_readStatus?_nil : readStatus? [] = none := rfl

theorem lineFeed_not_mem_reason {line : List Char} {s : StatusLine} (h : readStatus? line = some s)
    (hl : '\n' ∉ line) : '\n' ∉ s.reason.toList := by
  obtain ⟨-, digits, -, ⟨-, hr⟩ | rfl⟩ := readStatus?_eq_some_iff.mp h
  · simp [hr]
  · exact fun hm => hl (by simp [hm])

theorem toList_render (s : StatusLine) : s.render.toList =
    s.protocol.toList ++ ' ' :: (Nat.toDigits 10 s.code.toNat ++ ' ' :: s.reason.toList) := by
  simp [StatusLine.render, ← Nat.toList_repr]

/-- A status line that is written as a line is read again; a carriage return at the end of the
reason goes with the line end. -/
theorem readStatus?_chopReturn_render {s : StatusLine} (h : s.Proper) :
    readStatus? (chopReturn s.render.toList) =
      some { s with reason := String.ofList (chopReturn s.reason.toList) } := by
  have hc : chopReturn s.render.toList = s.protocol.toList ++
      ' ' :: (Nat.toDigits 10 s.code.toNat ++ ' ' :: chopReturn s.reason.toList) := by
    rw [toList_render, chopReturn_append_cons (by decide), chopReturn_append_cons (by decide)]
  rw [hc, readStatus?_eq_some_iff]
  exact ⟨h, Nat.toDigits 10 s.code.toNat, readCode?_toDigits s.code, Or.inr (by simp)⟩

/-- How a status line is spelled: a protocol without blanks, the code as digits of ASCII, and the
reason, which may be missing together with the space before it. -/
@[ext] structure StatusLine.Spelling where
  protocol : List Char
  digits : List Char
  reason : Option (List Char)
  protocol_ne_nil : protocol ≠ []
  not_isBlank : ∀ c ∈ protocol, isBlank c = false
  digits_ne_nil : digits ≠ []
  isDigit : ∀ c ∈ digits, c.isDigit = true

namespace StatusLine.Spelling

/-- What comes after the protocol and its space. -/
def rest (w : Spelling) : List Char :=
  match w.reason with
  | none => w.digits
  | some reason => w.digits ++ ' ' :: reason

/-- The line that is spelled. -/
def text (w : Spelling) : List Char :=
  w.protocol ++ ' ' :: w.rest

/-- The number that the digits write, however many bits it takes. -/
def number (w : Spelling) : Nat :=
  Nat.ofDigits 10 (w.digits.reverse.map Numeral.digitValue)

/-- The spelling stands for the status line with these parts; a missing reason is empty. -/
structure Denotes (w : Spelling) (s : StatusLine) : Prop where
  protocol : s.protocol.toList = w.protocol
  code : s.code.toNat = w.number
  reason : s.reason.toList = w.reason.getD []

theorem number_eq (w : Spelling) : w.number = Numeral.value w.digits :=
  (Numeral.value_eq_ofDigits w.digits).symm

theorem cut_text (w : Spelling) : cut ' ' w.text = some (w.protocol, w.rest) := by
  have hspace : ' ' ∉ w.protocol := fun hm => absurd (w.not_isBlank ' ' hm) (by decide)
  exact cut_append hspace w.rest

theorem cut_rest (w : Spelling) : cut ' ' w.rest = w.reason.map fun r => (w.digits, r) := by
  have hspace : ' ' ∉ w.digits := space_not_mem_of_isDigit w.isDigit
  unfold rest
  cases w.reason with
  | none => exact cut_eq_none_iff.mpr hspace
  | some reason => exact cut_append hspace reason

theorem codeAndReason_rest (w : Spelling) :
    codeAndReason w.rest = (w.digits, w.reason.getD []) := by
  rw [codeAndReason, cut_rest]
  cases h : w.reason with
  | none => simp [rest, h]
  | some reason => rfl

/-- A line has one spelling at most: its first two spaces tell the parts. -/
theorem text_injective : Function.Injective text := by
  intro v w h
  have htext : some (v.protocol, v.rest) = some (w.protocol, w.rest) := by
    rw [← cut_text, ← cut_text, h]
  obtain ⟨hprotocol, hrest⟩ := Prod.mk.inj (Option.some.inj htext)
  have hdigits : v.digits = w.digits := by
    have hparts := congrArg codeAndReason hrest
    rw [codeAndReason_rest, codeAndReason_rest] at hparts
    exact (Prod.mk.inj hparts).1
  -- A missing reason is told from an empty one by the space before it.
  have hreason : v.reason = w.reason := by
    have hcut := congrArg (cut ' ') hrest
    rw [cut_rest, cut_rest, hdigits] at hcut
    exact Option.map_injective (Prod.mk_right_injective w.digits) hcut
  exact Spelling.ext hprotocol hdigits hreason

/-- A number of 16 bits is the code of a status line. -/
theorem exists_denotes {w : Spelling} (h : w.number ≤ 65535) : ∃ s, w.Denotes s :=
  ⟨⟨String.ofList w.protocol, UInt16.ofNat w.number, String.ofList (w.reason.getD [])⟩,
    String.toList_ofList, UInt16.toNat_ofNat_of_lt (Nat.lt_succ_of_le h), String.toList_ofList⟩

theorem Denotes.proper {w : Spelling} {s : StatusLine} (h : w.Denotes s) : s.Proper := by
  rw [StatusLine.Proper, h.protocol]
  exact ⟨w.protocol_ne_nil, w.not_isBlank⟩

theorem Denotes.readCode? {w : Spelling} {s : StatusLine} (h : w.Denotes s) :
    readCode? w.digits = some s.code :=
  readCode?_eq_some_iff.mpr ⟨w.digits_ne_nil, w.isDigit, by rw [h.code, number_eq]⟩

end StatusLine.Spelling

/-- What is read is what the spelling of the line stands for. -/
theorem readStatus?_eq_some_iff_denotes {line : List Char} {s : StatusLine} :
    readStatus? line = some s ↔ ∃ w : StatusLine.Spelling, w.text = line ∧ w.Denotes s := by
  rw [readStatus?_eq_some_iff]
  constructor
  · rintro ⟨⟨hne, hblank⟩, digits, hcode, hline⟩
    obtain ⟨hdigits, hdigit, hvalue⟩ := readCode?_eq_some_iff.mp hcode
    rw [Numeral.value_eq_ofDigits] at hvalue
    obtain ⟨rfl, hreason⟩ | rfl := hline
    · exact ⟨⟨s.protocol.toList, digits, none, hne, hblank, hdigits, hdigit⟩, rfl,
        ⟨rfl, hvalue.symm, by rw [hreason]; rfl⟩⟩
    · exact ⟨⟨s.protocol.toList, digits, some s.reason.toList, hne, hblank, hdigits, hdigit⟩, rfl,
        ⟨rfl, hvalue.symm, rfl⟩⟩
  · rintro ⟨w, rfl, hs⟩
    refine ⟨hs.proper, w.digits, hs.readCode?, ?_⟩
    have hreason := hs.reason
    rw [hs.protocol, StatusLine.Spelling.text, StatusLine.Spelling.rest]
    cases h : w.reason with
    | none =>
      rw [h] at hreason
      exact Or.inl ⟨rfl, String.toList_inj.mp hreason⟩
    | some reason =>
      rw [h] at hreason
      exact Or.inr (by rw [hreason]; rfl)

/-- A line is read exactly if it has a spelling with a number of 16 bits. It has no other spelling
then; the protocol and the reason, with all spaces after the second, are read as they are spelled,
and the code is the number itself. -/
theorem readStatus?_iff_spelling (line : List Char) :
    ((∃ s, readStatus? line = some s) ↔
      ∃ w : StatusLine.Spelling, w.text = line ∧ w.number ≤ 65535) ∧
    (∀ v w : StatusLine.Spelling, v.text = line → w.text = line → v = w) ∧
    ∀ w : StatusLine.Spelling, w.text = line → ∀ s, readStatus? line = some s ↔
      s.protocol.toList = w.protocol ∧ s.code.toNat = w.number ∧
        s.reason.toList = w.reason.getD [] := by
  have hunique (v w : StatusLine.Spelling) (hv : v.text = line) (hw : w.text = line) : v = w :=
    StatusLine.Spelling.text_injective (hv.trans hw.symm)
  refine ⟨⟨?_, ?_⟩, hunique, fun w hw s => ⟨?_, ?_⟩⟩
  · rintro ⟨s, hs⟩
    obtain ⟨w, hw, hdenotes⟩ := readStatus?_eq_some_iff_denotes.mp hs
    refine ⟨w, hw, ?_⟩
    rw [← hdenotes.code]
    exact Nat.le_of_lt_succ s.code.toNat_lt
  · rintro ⟨w, hw, hn⟩
    obtain ⟨s, hs⟩ := StatusLine.Spelling.exists_denotes hn
    exact ⟨s, readStatus?_eq_some_iff_denotes.mpr ⟨w, hw, hs⟩⟩
  · intro hs
    obtain ⟨v, hv, hdenotes⟩ := readStatus?_eq_some_iff_denotes.mp hs
    obtain rfl := hunique v w hv hw
    exact ⟨hdenotes.protocol, hdenotes.code, hdenotes.reason⟩
  · rintro ⟨hprotocol, hcode, hreason⟩
    exact readStatus?_eq_some_iff_denotes.mpr ⟨w, hw, hprotocol, hcode, hreason⟩

theorem readStatus?_iff_spelling_zeros : ∃ w : StatusLine.Spelling,
    w.text = "HTTP/2 00065535  a b".toList ∧ w.number = 65535 ∧
      readStatus? "HTTP/2 00065535  a b".toList = some ⟨"HTTP/2", 65535, " a b"⟩ := by
  let w : StatusLine.Spelling := ⟨"HTTP/2".toList, "00065535".toList, some " a b".toList,
    by decide, by simp [isBlank], by decide, by simp⟩
  have htext : w.text = "HTTP/2 00065535  a b".toList := by decide
  have hnumber : w.number = 65535 := by decide
  have hread := ((readStatus?_iff_spelling _).2.2 w htext ⟨"HTTP/2", 65535, " a b"⟩).mpr
    ⟨rfl, hnumber.symm, rfl⟩
  exact ⟨w, htext, hnumber, hread⟩

example : readStatus? "HTTP/1.1 65536 Big".toList = none := by decide

end WebTestbed.Http
