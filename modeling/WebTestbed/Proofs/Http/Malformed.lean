import WebTestbed.Proofs.Http.Concat
import Mathlib.Data.Nat.Find

/-! Streams that are not read: the error tells of the first line that does not fit where it stands,
and nothing that comes after that line changes it. -/
namespace WebTestbed.Http

/-- Whether a status line stands at a place, counted from 0 on: the first line, unless a response is
open, and any line after an empty one that closes a response. -/
def takesStatus (open_ : Bool) (ls : List (List Char)) : Nat → Bool
  | 0 => !open_
  | i + 1 => ls[i]? == some [] && !takesStatus open_ ls i

/-- Whether a line fits: a status line where one stands, and else a header line or an empty line. -/
def fits (status : Bool) (l : List Char) : Bool :=
  if status then (readStatus? l).isSome else l.isEmpty || (readHeader? l).isSome

/-- The line is the first that does not fit where it stands. -/
structure FirstMisfit (open_ : Bool) (ls : List (List Char)) (i : Nat) (l : List Char) : Prop where
  line : ls[i]? = some l
  misfit : fits (takesStatus open_ ls i) l = false
  first : ∀ j < i, ∀ k, ls[j]? = some k → fits (takesStatus open_ ls j) k = true

/-- The error that tells of a line. -/
def misfitError (status : Bool) (number : Nat) (l : List Char) : ChainError :=
  if status then .statusLine number (String.ofList l) else .headerLine number (String.ofList l)

section Lines

variable {open_ : Bool} {l k : List Char} {ls : List (List Char)} {i : Nat}

/-- Whether a response is open after a line that fits. -/
def opens (open_ : Bool) (l : List Char) : Bool :=
  !(open_ && l.isEmpty)

/-- What stands at a place is decided line by line. -/
theorem takesStatus_cons (open_ : Bool) (l : List Char) (ls : List (List Char)) (i : Nat) :
    takesStatus open_ (l :: ls) (i + 1) = takesStatus (opens open_ l) ls i := by
  induction i with
  | zero => cases open_ <;> cases l <;> rfl
  | succ i ih =>
    rw [takesStatus, ih, List.getElem?_cons_succ]
    rfl

theorem takesStatus_append (h : i ≤ ls.length) (more : List (List Char)) :
    takesStatus open_ (ls ++ more) i = takesStatus open_ ls i := by
  induction i with
  | zero => rfl
  | succ i ih =>
    rw [takesStatus, takesStatus, ih (Nat.le_of_succ_le h), List.getElem?_append_left h]

/-- The first line, if it does not fit, is the first that does not. -/
theorem firstMisfit_head (h : fits (!open_) l = false) :
    FirstMisfit open_ (l :: ls) i k ↔ i = 0 ∧ k = l := by
  constructor
  · intro hk
    cases i with
    | zero => exact ⟨rfl, (Option.some.inj hk.line).symm⟩
    | succ i =>
      have hl : fits (!open_) l = true := hk.first 0 (Nat.succ_pos i) l rfl
      rw [h] at hl
      cases hl
  · rintro ⟨rfl, rfl⟩
    exact ⟨rfl, h, nofun⟩

/-- Behind a line that fits, the first that does not is that of the lines that are left. -/
theorem firstMisfit_cons (h : fits (!open_) l = true) :
    FirstMisfit open_ (l :: ls) i k ↔
      ∃ j, i = j + 1 ∧ FirstMisfit (opens open_ l) ls j k := by
  constructor
  · intro hk
    cases i with
    | zero =>
      obtain rfl : l = k := Option.some.inj hk.line
      have hl : fits (!open_) l = false := hk.misfit
      rw [h] at hl
      cases hl
    | succ i =>
      refine ⟨i, rfl, hk.line, ?_, fun j hj k' hk' => ?_⟩
      · rw [← takesStatus_cons]
        exact hk.misfit
      · rw [← takesStatus_cons]
        exact hk.first (j + 1) (Nat.succ_lt_succ hj) k' hk'
  · rintro ⟨j, rfl, hk⟩
    refine ⟨hk.line, ?_, fun j' hj k' hk' => ?_⟩
    · rw [takesStatus_cons]
      exact hk.misfit
    · cases j' with
      | zero =>
        obtain rfl : l = k' := Option.some.inj hk'
        exact h
      | succ j' =>
        rw [takesStatus_cons]
        exact hk.first j' (Nat.lt_of_succ_lt_succ hj) k' hk'

/-- Lines that come after it do not matter. -/
theorem FirstMisfit.append (h : FirstMisfit open_ ls i l) (more : List (List Char)) :
    FirstMisfit open_ (ls ++ more) i l := by
  obtain ⟨hi, -⟩ := List.getElem?_eq_some_iff.mp h.line
  constructor
  case line => rw [List.getElem?_append_left hi, h.line]
  case misfit => rw [takesStatus_append (Nat.le_of_lt hi), h.misfit]
  case first =>
    intro j hj k hk
    have hjl : j < ls.length := Nat.lt_trans hj hi
    rw [List.getElem?_append_left hjl] at hk
    rw [takesStatus_append (Nat.le_of_lt hjl)]
    exact h.first j hj k hk

/-- Where some line does not fit, there is a first. -/
theorem exists_firstMisfit_iff : (∃ i l, FirstMisfit open_ ls i l) ↔
    ∃ i l, ls[i]? = some l ∧ fits (takesStatus open_ ls i) l = false := by
  constructor
  · rintro ⟨i, l, h⟩
    exact ⟨i, l, h.line, h.misfit⟩
  · intro h
    obtain ⟨l, hl, hmisfit⟩ := Nat.find_spec h
    refine ⟨Nat.find h, l, hl, hmisfit, fun j hj k hk => ?_⟩
    rw [← Bool.not_eq_false]
    exact fun hf => Nat.find_min h hj ⟨k, hk, hf⟩

end Lines

theorem readLines_of_misfit {open_ : Bool} {l : List Char} (h : fits (!open_) l = false) (n : Nat)
    (c : Option Chain) (ls : List (List Char)) :
    readLines n open_ c (l :: ls) = .error (misfitError (!open_) n l) := by
  cases open_ with
  | false =>
    have hs : readStatus? l = none := by simpa [fits] using h
    simp [readLines, hs, misfitError]
  | true =>
    have hl : l.isEmpty = false ∧ readHeader? l = none := by simpa [fits] using h
    simp [readLines, hl, misfitError]

theorem readLines_of_fits {open_ : Bool} {l : List Char} (h : fits (!open_) l = true) (n : Nat)
    (c : Option Chain) (ls : List (List Char)) :
    ∃ d, readLines n open_ c (l :: ls) = readLines (n + 1) (opens open_ l) d ls := by
  cases open_ with
  | false =>
    obtain ⟨s, hs⟩ := Option.isSome_iff_exists.mp (show (readStatus? l).isSome = true from h)
    exact ⟨some (Chain.push (.ofStatus s) c), by simp [readLines, hs, opens]⟩
  | true =>
    by_cases hl : l.isEmpty = true
    · exact ⟨c, by simp [readLines, hl, opens]⟩
    · have hf : (readHeader? l).isSome = true := by simpa [fits, hl] using h
      obtain ⟨field, hf⟩ := Option.isSome_iff_exists.mp hf
      exact ⟨c.map (·.withHeader field), by simp [readLines, hl, hf, opens]⟩

/-- Reading fails exactly at the first line that does not fit. -/
theorem readLines_eq_error_iff (ls : List (List Char)) (n : Nat) (open_ : Bool) (c : Option Chain)
    (e : ChainError) : readLines n open_ c ls = .error e ↔
      ∃ i l, FirstMisfit open_ ls i l ∧ e = misfitError (takesStatus open_ ls i) (n + i) l := by
  induction ls generalizing n open_ c with
  | nil =>
    constructor
    · nofun
    · rintro ⟨i, l, h, -⟩
      cases h.line
  | cons l ls ih =>
    cases h : fits (!open_) l with
    | false =>
      rw [readLines_of_misfit h, Except.error.injEq]
      simp only [firstMisfit_head h]
      constructor
      · rintro rfl
        exact ⟨0, l, ⟨rfl, rfl⟩, rfl⟩
      · rintro ⟨i, k, ⟨rfl, rfl⟩, rfl⟩
        rfl
    | true =>
      obtain ⟨d, hd⟩ := readLines_of_fits h n c ls
      rw [hd, ih]
      simp only [firstMisfit_cons h]
      constructor
      · rintro ⟨i, k, hk, rfl⟩
        exact ⟨i + 1, k, ⟨i, rfl, hk⟩, by rw [takesStatus_cons, Nat.add_right_comm, Nat.add_assoc]⟩
      · rintro ⟨_, k, ⟨i, rfl, hk⟩, rfl⟩
        exact ⟨i, k, hk, by rw [takesStatus_cons, Nat.add_right_comm, Nat.add_assoc]⟩

/-- The body does not matter for whether a stream is read. -/
theorem readChain_eq_error_iff (stream body : Bytes) (e : ChainError) :
    readChain stream body = .error e ↔
      ∃ i l, FirstMisfit false (streamLines stream) i l ∧
        e = misfitError (takesStatus false (streamLines stream) i) (i + 1) l := by
  have hmap : readChain stream body = .error e ↔
      readLines 1 false none (streamLines stream) = .error e := by
    rw [readChain_eq]
    cases readLines 1 false none (streamLines stream) with
    | ok c => exact ⟨nofun, nofun⟩
    | error e' => rfl
  rw [hmap, readLines_eq_error_iff]
  simp only [Nat.add_comm 1]

/-- A stream is not read if a line does not fit where it stands. The error then gives the number and
the text of the first such line, and says what stands there. The body does not matter, nor does
anything that comes after a line feed at the end of the stream. -/
theorem readChain_malformed (stream : Bytes) :
    (∀ body, (∃ e, readChain stream body = .error e) ↔ ∃ i l, (streamLines stream)[i]? = some l ∧
      fits (takesStatus false (streamLines stream) i) l = false) ∧
    (∀ body e, readChain stream body = .error e ↔ ∃ i l,
      FirstMisfit false (streamLines stream) i l ∧
      e = if takesStatus false (streamLines stream) i then .statusLine (i + 1) (String.ofList l)
        else .headerLine (i + 1) (String.ofList l)) ∧
    (∀ body body' e, readChain stream body = .error e → readChain stream body' = .error e) ∧
    (∀ body body' more e, stream.getLast? = some 0x0A → readChain stream body = .error e →
      readChain (stream ++ more) body' = .error e) := by
  refine ⟨fun body => ?_, readChain_eq_error_iff stream, fun body body' e h => ?_,
    fun body body' more e hend h => ?_⟩
  · simp only [readChain_eq_error_iff]
    rw [← exists_firstMisfit_iff]
    constructor
    · rintro ⟨e, i, l, h, -⟩
      exact ⟨i, l, h⟩
    · rintro ⟨i, l, h⟩
      exact ⟨_, i, l, h, rfl⟩
  · rw [readChain_eq_error_iff] at h ⊢
    exact h
  · rw [readChain_eq_error_iff] at h ⊢
    obtain ⟨i, l, hl, rfl⟩ := h
    obtain ⟨a, rfl⟩ := List.getLast?_eq_some_iff.mp hend
    rw [streamLines_append_lineFeed_append]
    obtain ⟨hi, -⟩ := List.getElem?_eq_some_iff.mp hl.line
    exact ⟨i, l, hl.append _, by rw [takesStatus_append (Nat.le_of_lt hi)]⟩

theorem readChain_malformed_third_line :
    (Utf8.encode "HTTP/2 100 \r\n\r\nA: b\n").getLast? = some 0x0A ∧
    readChain (Utf8.encode "HTTP/2 100 \r\n\r\nA: b\n") [] = .error (.statusLine 3 "A: b") ∧
    ∀ more body, readChain (Utf8.encode "HTTP/2 100 \r\n\r\nA: b\n" ++ more) body =
      .error (.statusLine 3 "A: b") := by
  have hend : (Utf8.encode "HTTP/2 100 \r\n\r\nA: b\n").getLast? = some 0x0A := rfl
  have h : readChain (Utf8.encode "HTTP/2 100 \r\n\r\nA: b\n") [] =
      .error (.statusLine 3 "A: b") := rfl
  exact ⟨hend, h, fun more body => (readChain_malformed _).2.2.2 [] body more _ hend h⟩

end WebTestbed.Http
