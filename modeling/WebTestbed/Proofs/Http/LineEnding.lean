import WebTestbed.Proofs.Http.Block

/-! Streams with a carriage return before every line feed: they are read like those without. -/
namespace WebTestbed

section BeforeEach

variable {α : Type} [DecidableEq α] {mark x : α}

/-- The list with `extra` before every `mark`. -/
def beforeEach (mark extra : α) (l : List α) : List α :=
  l.flatMap fun x => if x = mark then [extra, mark] else [x]

theorem beforeEach_cons_self (mark extra : α) (l : List α) :
    beforeEach mark extra (mark :: l) = extra :: mark :: beforeEach mark extra l := by
  simp [beforeEach]

theorem beforeEach_cons_of_ne (h : x ≠ mark) (extra : α) (l : List α) :
    beforeEach mark extra (x :: l) = x :: beforeEach mark extra l := by
  simp [beforeEach, h]

theorem beforeEach_append_of_not_mem {a : List α} (h : mark ∉ a) (extra : α) (l : List α) :
    beforeEach mark extra (a ++ l) = a ++ beforeEach mark extra l := by
  induction a with
  | nil => rfl
  | cons x a ih =>
    have hx : x ≠ mark := fun he => h (he ▸ List.mem_cons_self)
    have ha : mark ∉ a := fun hm => h (List.mem_cons_of_mem x hm)
    rw [List.cons_append, beforeEach_cons_of_ne hx, ih ha, List.cons_append]

theorem beforeEach_of_not_mem {a : List α} (h : mark ∉ a) (extra : α) :
    beforeEach mark extra a = a := by
  simpa [beforeEach] using beforeEach_append_of_not_mem h extra []

end BeforeEach

theorem Text.linesFrom_beforeEach {cur s : List Char} (hcur : '\r' ∉ cur) (hs : '\r' ∉ s) :
    linesFrom cur (beforeEach '\n' '\r' s) = linesFrom cur s := by
  induction s generalizing cur with
  | nil => rfl
  | cons c s ih =>
    have hrest : '\r' ∉ s := fun h => hs (List.mem_cons_of_mem c h)
    by_cases hc : c = '\n'
    · have hline : dropReturn cur = cur := by
        apply dropReturn_of_head?_ne
        intro h
        exact hcur (List.mem_of_mem_head? h)
      subst hc
      rw [beforeEach_cons_self, linesFrom, if_neg (by decide), linesFrom, if_pos rfl,
        ih List.not_mem_nil hrest, linesFrom, if_pos rfl, hline]
      rfl
    · have hmore : '\r' ∉ c :: cur := by
        rw [List.mem_cons, not_or]
        exact ⟨fun h => hs (h ▸ List.mem_cons_self), hcur⟩
      rw [beforeEach_cons_of_ne hc, linesFrom, if_neg hc, ih hmore hrest, linesFrom, if_neg hc]

namespace Http

/-- The stream with a carriage return before every line feed. -/
def withReturns (stream : Bytes) : Bytes :=
  beforeEach 0x0A 0x0D stream

/-- A carriage return ends what is not UTF-8 just as a line feed does. -/
theorem lossy_withReturns (stream : Bytes) :
    Utf8.lossy (withReturns stream) = beforeEach '\n' '\r' (Utf8.lossy stream) := by
  have htext : ∀ a : Bytes, 0x0A ∉ a → '\n' ∉ Utf8.lossy a := fun a ha h =>
    ha (Utf8.mem_of_mem_lossy (by decide) (by decide) h)
  -- along the stream, with the part of the line that is passed
  have hfrom : ∀ s a : Bytes, 0x0A ∉ a → Utf8.lossy (withReturns (a ++ s)) =
      beforeEach '\n' '\r' (Utf8.lossy (a ++ s)) := by
    intro s
    induction s with
    | nil =>
      intro a ha
      rw [List.append_nil, withReturns, beforeEach_of_not_mem ha,
        beforeEach_of_not_mem (htext a ha)]
    | cons b s ih =>
      intro a ha
      by_cases hb : b = 0x0A
      · have hcut : Utf8.lossy (a ++ 0x0A :: s) = Utf8.lossy a ++ '\n' :: Utf8.lossy s :=
          Utf8.lossy_append (by simp) a
        have hcut' : Utf8.lossy (a ++ 0x0D :: 0x0A :: withReturns s) =
            Utf8.lossy a ++ '\r' :: '\n' :: Utf8.lossy (withReturns s) :=
          Utf8.lossy_append (by simp) a
        have hrest := ih [] List.not_mem_nil
        rw [List.nil_append] at hrest
        rw [hb, withReturns, beforeEach_append_of_not_mem ha, beforeEach_cons_self]
        change Utf8.lossy (a ++ 0x0D :: 0x0A :: withReturns s) = _
        rw [hcut', hcut, beforeEach_append_of_not_mem (htext a ha), beforeEach_cons_self, hrest]
      · have hline : 0x0A ∉ a ++ [b] := by
          rw [List.mem_append, List.mem_singleton, not_or]
          exact ⟨ha, Ne.symm hb⟩
        have hmore := ih (a ++ [b]) hline
        rwa [List.append_assoc, List.singleton_append] at hmore
  exact hfrom stream [] List.not_mem_nil

theorem streamLines_withReturns {stream : Bytes} (h : 0x0D ∉ stream) :
    streamLines (withReturns stream) = streamLines stream := by
  have htext : '\r' ∉ Utf8.lossy stream := fun hm =>
    h (Utf8.mem_of_mem_lossy (by decide) (by decide) hm)
  rw [streamLines, lossy_withReturns]
  exact Text.linesFrom_beforeEach List.not_mem_nil htext

/-- Line ends do not matter: a stream without carriage returns is read the same with one before
every line feed. The chain is the same, or the error with its line and text, and so are the lines
that are looked at on the way. -/
theorem readChain_withReturns {stream : Bytes} (h : 0x0D ∉ stream) (body : Bytes) :
    readChain (withReturns stream) body = readChain stream body ∧
      streamLinesRead (withReturns stream) = streamLinesRead stream := by
  have hlines := streamLines_withReturns h
  constructor
  · rw [readChain_eq, readChain_eq, hlines]
  · change linesRead false (streamLines (withReturns stream)) = linesRead false (streamLines stream)
    rw [hlines]

/-- Half a character stands before a line end, and the last line has no end. -/
theorem readChain_withReturns_truncated :
    let stream := Utf8.encode "HTTP/2 200\na: " ++ [0xE2, 0x82, 0x0A, 0x0A] ++ Utf8.encode "HTTP"
    0x0D ∉ stream ∧
      withReturns stream = Utf8.encode "HTTP/2 200\r\na: " ++
        [0xE2, 0x82, 0x0D, 0x0A, 0x0D, 0x0A] ++ Utf8.encode "HTTP" ∧
      readChain (withReturns stream) [] = .error (.statusLine 4 "HTTP") ∧
      streamLinesRead (withReturns stream) =
        [(.status, "HTTP/2 200"), (.header, "a: \uFFFD"), (.status, "HTTP")] := by
  intro stream
  have h : 0x0D ∉ stream := by decide
  obtain ⟨hchain, hlines⟩ := readChain_withReturns h []
  refine ⟨h, by decide, ?_, ?_⟩
  · rw [hchain]
    decide
  · rw [hlines]
    decide

end Http

end WebTestbed
