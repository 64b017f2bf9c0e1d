import WebTestbed.Http.ChainReader
import WebTestbed.Proofs.Http.Headers
import WebTestbed.Proofs.Http.StatusLine
import WebTestbed.Proofs.Text.Utf8

/-! The grammar of header streams: blocks of a status line and header lines, each with an empty line
after it that only the last block may lack. A stream is read exactly if it has this form, and then
the chain has one response for each block. -/
namespace WebTestbed.Http

/-- The lines of a header stream. -/
def streamLines (stream : Bytes) : List (List Char) :=
  Text.lines (Utf8.lossy stream)

/-- A header line with the field that it holds. -/
structure FieldLine where
  text : List Char
  field : String × String
  read_text : readHeader? text = some field

theorem FieldLine.text_ne_nil (f : FieldLine) : f.text ≠ [] := by
  intro h
  have := f.read_text
  rw [h] at this
  cases this

/-- A status line with the header lines that come after it. -/
structure Block where
  statusText : List Char
  status : StatusLine
  read_statusText : readStatus? statusText = some status
  fieldLines : List FieldLine

namespace Block

def lines (b : Block) : List (List Char) :=
  b.statusText :: b.fieldLines.map (·.text)

/-- The lines together with the empty line after them. -/
def closedLines (b : Block) : List (List Char) :=
  b.lines ++ [[]]

/-- The fields of the block, collected in order. -/
def headers (b : Block) : Headers :=
  (b.fieldLines.map (·.field)).foldl (fun h e => h.insert e.1 e.2) .empty

/-- What the block says of a response, with the body from elsewhere. -/
def response (b : Block) (body : Bytes) : Response :=
  ⟨b.status.protocol, b.status.code, b.status.reason, b.headers, body⟩

theorem nil_not_mem_lines (b : Block) : [] ∉ b.lines := by
  intro h
  rcases List.mem_cons.mp h with h | h
  · have := b.read_statusText
    rw [← h, not_readStatus?_nil] at this
    cases this
  · obtain ⟨f, -, hf⟩ := List.mem_map.mp h
    exact f.text_ne_nil hf

end Block

/-- The lines of the older blocks, each closed, and then those of the newest, closed or not. -/
def Spells (older : List Block) (newest : Block) (ls : List (List Char)) : Prop :=
  ls = older.flatMap Block.closedLines ++ newest.lines ∨
    ls = older.flatMap Block.closedLines ++ newest.closedLines

namespace Chain

/-- The chain of some responses, newest first, if there are any. -/
def ofList? : List Response → Option Chain
  | [] => none
  | r :: rs => some ⟨r, rs⟩

/-- The responses of a chain that may be missing, newest first. -/
def responses : Option Chain → List Response
  | none => []
  | some c => c.toList

theorem push_ofList? (r : Response) (rs : List Response) :
    some (push r (ofList? rs)) = ofList? (r :: rs) := by
  cases rs <;> rfl

theorem foldl_withHeader (fields : List (String × String)) (r : Response) (rs : List Response) :
    fields.foldl withHeader ⟨r, rs⟩ =
      ⟨{ r with headers := fields.foldl (fun h e => h.insert e.1 e.2) r.headers }, rs⟩ := by
  induction fields generalizing r with
  | nil => rfl
  | cons e fields ih => exact ih _

/-- The chain of the blocks; its newest response has the body. -/
def ofBlocks (older : List Block) (newest : Block) (body : Bytes) : Chain :=
  ⟨newest.response body, (older.map (·.response [])).reverse⟩

theorem reverse_toList_ofBlocks (older : List Block) (newest : Block) (body : Bytes) :
    (ofBlocks older newest body).toList.reverse =
      older.map (·.response []) ++ [newest.response body] := by
  simp [ofBlocks, toList]

theorem size_ofBlocks (older : List Block) (newest : Block) (body : Bytes) :
    (ofBlocks older newest body).size = older.length + 1 := by
  simp [ofBlocks, size, toList]

theorem toList_injective {c d : Chain} (h : c.toList = d.toList) : c = d := by
  obtain ⟨c, cs⟩ := c
  obtain ⟨d, ds⟩ := d
  obtain ⟨rfl, rfl⟩ := List.cons.inj h
  rfl

end Chain

theorem readLines_fieldLines (fs : List FieldLine) (n : Nat) (c : Chain)
    (rest : List (List Char)) :
    readLines n true (some c) (fs.map (·.text) ++ rest) =
      readLines (n + fs.length) true (some ((fs.map (·.field)).foldl Chain.withHeader c)) rest := by
  induction fs generalizing n c with
  | nil => rfl
  | cons f fs ih =>
    have hf : f.text.isEmpty = false := List.isEmpty_eq_false_iff.mpr f.text_ne_nil
    simp only [List.map_cons, List.cons_append, readLines, hf, f.read_text, if_true,
      Bool.false_eq_true, if_false, Option.map_some, List.foldl_cons, List.length_cons]
    rw [ih, Nat.add_right_comm, Nat.add_assoc]

theorem readLines_block (b : Block) (n : Nat) (rs : List Response) (rest : List (List Char)) :
    readLines n false (Chain.ofList? rs) (b.lines ++ rest) =
      readLines (n + b.lines.length) true (Chain.ofList? (b.response [] :: rs)) rest := by
  have hp : Chain.push (.ofStatus b.status) (Chain.ofList? rs) = ⟨.ofStatus b.status, rs⟩ := by
    cases rs <;> rfl
  simp only [Block.lines, List.cons_append, readLines, b.read_statusText, Bool.false_eq_true,
    if_false, hp]
  rw [readLines_fieldLines, Chain.foldl_withHeader, List.length_cons, List.length_map,
    Nat.add_right_comm, Nat.add_assoc]
  rfl

theorem readLines_closedLines (b : Block) (n : Nat) (rs : List Response)
    (rest : List (List Char)) :
    readLines n false (Chain.ofList? rs) (b.closedLines ++ rest) =
      readLines (n + b.closedLines.length) false (Chain.ofList? (b.response [] :: rs)) rest := by
  rw [Block.closedLines, List.append_assoc, readLines_block, List.length_append]
  rfl

/-- Closed blocks are read one by one; the reader is then where it was, with their responses on
top of those it had. -/
theorem readLines_blocks (bs : List Block) (n : Nat) (rs : List Response)
    (rest : List (List Char)) :
    readLines n false (Chain.ofList? rs) (bs.flatMap Block.closedLines ++ rest) =
      readLines (n + (bs.flatMap Block.closedLines).length) false
        (Chain.ofList? ((bs.map (·.response [])).reverse ++ rs)) rest := by
  induction bs generalizing n rs with
  | nil => rfl
  | cons b bs ih =>
    rw [List.flatMap_cons, List.append_assoc, readLines_closedLines, ih, List.length_append,
      Nat.add_assoc]
    simp

theorem readLines_spells {older : List Block} {newest : Block} {ls : List (List Char)}
    (h : Spells older newest ls) (n : Nat) :
    readLines n false none ls = .ok (some (Chain.ofBlocks older newest [])) := by
  have hn : (none : Option Chain) = Chain.ofList? [] := rfl
  rcases h with rfl | rfl
  · rw [hn, readLines_blocks, ← List.append_nil newest.lines, readLines_block]
    simp [readLines, Chain.ofList?, Chain.ofBlocks]
  · rw [hn, readLines_blocks, ← List.append_nil newest.closedLines, readLines_closedLines]
    simp [readLines, Chain.ofList?, Chain.ofBlocks]

/-- The lines that a reader can go on with after a closed block. -/
def Continues (ls : List (List Char)) : Prop :=
  ls = [] ∨ ∃ older newest, Spells older newest ls

/-- The lines that a reader can go on with inside a block. -/
def Completes (ls : List (List Char)) : Prop :=
  ∃ fs : List FieldLine, ls = fs.map (·.text) ∨
    ∃ rest, ls = fs.map (·.text) ++ [] :: rest ∧ Continues rest

theorem continues_cons {l : List Char} {s : StatusLine} (h : readStatus? l = some s)
    {ls : List (List Char)} (hls : Completes ls) : Continues (l :: ls) := by
  obtain ⟨fs, rfl | ⟨rest, rfl, hrest⟩⟩ := hls
  · exact Or.inr ⟨[], ⟨l, s, h, fs⟩, Or.inl rfl⟩
  let b : Block := ⟨l, s, h, fs⟩
  have hb : l :: (fs.map (·.text) ++ [] :: rest) = b.closedLines ++ rest := by
    simp [b, Block.closedLines, Block.lines]
  right
  rw [hb]
  rcases hrest with rfl | ⟨older, newest, rfl | rfl⟩
  · exact ⟨[], b, Or.inr (by simp)⟩
  · exact ⟨b :: older, newest, Or.inl (by simp)⟩
  · exact ⟨b :: older, newest, Or.inr (by simp)⟩

theorem completes_cons {l : List Char} {field : String × String} (h : readHeader? l = some field)
    {ls : List (List Char)} (hls : Completes ls) : Completes (l :: ls) := by
  obtain ⟨fs, rfl | ⟨rest, rfl, hrest⟩⟩ := hls
  · exact ⟨⟨l, field, h⟩ :: fs, Or.inl rfl⟩
  · exact ⟨⟨l, field, h⟩ :: fs, Or.inr ⟨rest, rfl, hrest⟩⟩

/-- Lines that are read have the form of blocks. Both states of the reader are needed at once, as
either leads to the other. -/
theorem continues_and_completes_of_readLines (ls : List (List Char)) :
    (∀ n c d, readLines n false c ls = .ok d → Continues ls) ∧
      (∀ n c d, readLines n true c ls = .ok d → Completes ls) := by
  induction ls with
  | nil => exact ⟨fun _ _ _ _ => Or.inl rfl, fun _ _ _ _ => ⟨[], Or.inl rfl⟩⟩
  | cons l ls ih =>
    obtain ⟨ihc, ihf⟩ := ih
    constructor
    · intro n c d h
      simp only [readLines, Bool.false_eq_true, if_false] at h
      cases hs : readStatus? l with
      | none => simp [hs] at h
      | some s =>
        rw [hs] at h
        exact continues_cons hs (ihf _ _ _ h)
    · intro n c d h
      simp only [readLines, if_true] at h
      by_cases hl : l = []
      · subst hl
        exact ⟨[], Or.inr ⟨ls, rfl, ihc _ _ _ h⟩⟩
      · rw [if_neg (by simpa using hl)] at h
        cases hf : readHeader? l with
        | none => simp [hf] at h
        | some field =>
          rw [hf] at h
          exact completes_cons hf (ihf _ _ _ h)

theorem readChain_eq (stream body : Bytes) : readChain stream body =
    (readLines 1 false none (streamLines stream)).map (·.map (·.withBody body)) := rfl

theorem streamLines_eq_nil_iff (stream : Bytes) : streamLines stream = [] ↔ stream = [] := by
  rw [streamLines, Text.lines_eq_nil_iff, Utf8.lossy_eq_nil_iff]

theorem readChain_of_spells {stream : Bytes} {older : List Block} {newest : Block}
    (h : Spells older newest (streamLines stream)) (body : Bytes) :
    readChain stream body = .ok (some (Chain.ofBlocks older newest body)) := by
  rw [readChain_eq, readLines_spells h]
  rfl

/-- Closed blocks alone give their chain, and no blocks give none. -/
theorem readChain_of_blocks {stream : Bytes} {bs : List Block}
    (h : streamLines stream = bs.flatMap Block.closedLines) (body : Bytes) :
    readChain stream body =
      .ok ((Chain.ofList? (bs.map (·.response [])).reverse).map (·.withBody body)) := by
  have hn : (none : Option Chain) = Chain.ofList? [] := rfl
  rw [readChain_eq, h, ← List.append_nil (bs.flatMap Block.closedLines), hn, readLines_blocks]
  simp [readLines, Except.map]

theorem stream_eq_nil_or_spells {stream body : Bytes} {c : Option Chain}
    (h : readChain stream body = .ok c) :
    (stream = [] ∧ c = none) ∨ ∃ older newest, Spells older newest (streamLines stream) ∧
      c = some (Chain.ofBlocks older newest body) := by
  rw [readChain_eq] at h
  cases hr : readLines 1 false none (streamLines stream) with
  | error e => simp [hr, Except.map] at h
  | ok d =>
    rcases (continues_and_completes_of_readLines _).1 _ _ _ hr with hn | ⟨older, newest, hs⟩
    · left
      rw [hn] at h
      exact ⟨(streamLines_eq_nil_iff stream).mp hn, (Except.ok.inj h).symm⟩
    · right
      rw [readLines_spells hs] at h
      exact ⟨older, newest, hs, (Except.ok.inj h).symm⟩

/-- A header stream without bytes has no responses. Any other is read exactly if its lines are those
of blocks, and gives a chain with a response for each block, in the order of the stream: only the
newest has the body. All else is an error. -/
theorem readChain_eq_ok_iff_spells (stream body : Bytes) :
    (readChain stream body = .ok none ↔ stream = []) ∧
    (∀ c, readChain stream body = .ok (some c) ↔
      ∃ older newest, Spells older newest (streamLines stream) ∧
        c.size = older.length + 1 ∧
        c.toList.reverse = older.map (·.response []) ++ [newest.response body]) ∧
    ((∃ e, readChain stream body = .error e) ↔
      stream ≠ [] ∧ ¬ ∃ older newest, Spells older newest (streamLines stream)) := by
  have hnil : readChain [] body = .ok none := rfl
  refine ⟨⟨?_, ?_⟩, fun c => ⟨?_, ?_⟩, ⟨?_, ?_⟩⟩
  · intro h
    rcases stream_eq_nil_or_spells h with ⟨hs, -⟩ | ⟨_, _, -, hc⟩
    · exact hs
    · cases hc
  · rintro rfl
    exact hnil
  · intro h
    rcases stream_eq_nil_or_spells h with ⟨-, hc⟩ | ⟨older, newest, hs, hc⟩
    · cases hc
    · obtain rfl := Option.some.inj hc
      exact ⟨older, newest, hs, Chain.size_ofBlocks .., Chain.reverse_toList_ofBlocks ..⟩
  · rintro ⟨older, newest, hs, -, hc⟩
    have he : c = Chain.ofBlocks older newest body := by
      apply Chain.toList_injective
      rw [← List.reverse_inj, hc, Chain.reverse_toList_ofBlocks]
    rw [he]
    exact readChain_of_spells hs body
  · rintro ⟨e, he⟩
    constructor
    · rintro rfl
      rw [hnil] at he
      cases he
    · rintro ⟨older, newest, hs⟩
      rw [readChain_of_spells hs] at he
      cases he
  · rintro ⟨hne, hns⟩
    cases hr : readChain stream body with
    | error e => exact ⟨e, rfl⟩
    | ok c =>
      rcases stream_eq_nil_or_spells hr with ⟨hs, -⟩ | ⟨older, newest, hs, -⟩
      · exact absurd hs hne
      · exact absurd ⟨older, newest, hs⟩ hns

end WebTestbed.Http
