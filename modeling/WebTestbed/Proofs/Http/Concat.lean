import WebTestbed.Proofs.Http.Block

/-! Streams that are read one after the other: closed blocks in front of a stream only add their
responses behind its chain, and move its errors down by their lines. -/
namespace WebTestbed.Http

/-- The error of the same line with `k` lines in front of it. -/
def ChainError.shift (k : Nat) : ChainError → ChainError
  | .statusLine n t => .statusLine (n + k) t
  | .headerLine n t => .headerLine (n + k) t

namespace Chain

/-- The chain with the responses of an earlier one behind its oldest. -/
def behind (c : Chain) (earlier : Option Chain) : Chain :=
  ⟨c.head, c.earlier ++ responses earlier⟩

/-- The chain with responses behind its oldest; without a chain, they are one. -/
def onto (rs : List Response) (c : Option Chain) : Option Chain :=
  ofList? (responses c ++ rs)

theorem push_onto (r : Response) (rs : List Response) (c : Option Chain) :
    some (push r (onto rs c)) = onto rs (some (push r c)) := by
  cases c with
  | none => exact push_ofList? r rs
  | some c => rfl

end Chain

/-- Reading does not look at the responses that it has, nor at the number of the line, but to hand
them on. Inside a block there is a newest response that takes the fields. -/
theorem readLines_onto (rs : List Response) (k : Nat) (ls : List (List Char)) (n : Nat)
    (open_ : Bool) (c : Option Chain) (hc : open_ = true → c ≠ none) :
    readLines (n + k) open_ (Chain.onto rs c) ls =
      ((readLines n open_ c ls).map (Chain.onto rs)).mapError (·.shift k) := by
  induction ls generalizing n open_ c with
  | nil => rfl
  | cons l ls ih =>
    cases open_ with
    | false =>
      simp only [readLines, Bool.false_eq_true, if_false]
      cases readStatus? l with
      | none => rfl
      | some s =>
        dsimp only
        rw [Chain.push_onto, Nat.add_right_comm]
        exact ih _ _ _ (by simp)
    | true =>
      obtain ⟨d, rfl⟩ := Option.ne_none_iff_exists'.mp (hc rfl)
      simp only [readLines, if_true]
      split
      · rw [Nat.add_right_comm]
        exact ih _ _ _ (by simp)
      cases readHeader? l with
      | none => rfl
      | some field =>
        dsimp only
        rw [Nat.add_right_comm]
        exact ih (n + 1) true (some (d.withHeader field)) (by simp)

/-- A stream that ends with an empty line. -/
def EndsBlank (stream : Bytes) : Prop :=
  [0x0A, 0x0A] <:+ stream ∨ [0x0A, 0x0D, 0x0A] <:+ stream

theorem streamLines_append_lineFeed_append (a b : Bytes) :
    streamLines (a ++ [0x0A] ++ b) = streamLines (a ++ [0x0A]) ++ streamLines b := by
  unfold streamLines
  rw [Utf8.lossy_append_lineFeed_append, Utf8.lossy_append_lineFeed,
    Text.lines_append_lineFeed_append]

/-- The last line feed of such a stream ends an empty line, and may be cut after. -/
theorem EndsBlank.exists_eq {a : Bytes} (h : EndsBlank a) :
    (∃ p, a = p ++ [0x0A]) ∧ ∃ ls, streamLines a = ls ++ [[]] := by
  rcases h with ⟨p, rfl⟩ | ⟨p, rfl⟩
  · refine ⟨⟨p ++ [0x0A], by simp⟩, streamLines (p ++ [0x0A]), ?_⟩
    have hp : p ++ [0x0A, 0x0A] = p ++ [0x0A] ++ [0x0A] := by simp
    rw [hp, streamLines_append_lineFeed_append]
    rfl
  · refine ⟨⟨p ++ [0x0A, 0x0D], by simp⟩, streamLines (p ++ [0x0A]), ?_⟩
    have hp : p ++ [0x0A, 0x0D, 0x0A] = p ++ [0x0A] ++ [0x0D, 0x0A] := by simp
    rw [hp, streamLines_append_lineFeed_append]
    rfl

theorem streamLines_append {a : Bytes} (ha : a = [] ∨ EndsBlank a) (b : Bytes) :
    streamLines (a ++ b) = streamLines a ++ streamLines b := by
  rcases ha with rfl | ha
  · rfl
  · obtain ⟨⟨p, rfl⟩, -⟩ := ha.exists_eq
    exact streamLines_append_lineFeed_append p b

/-- A stream that is read and ends with an empty line has closed blocks only, as no line of a block
is empty. -/
theorem exists_closed_blocks {a body : Bytes} {c : Option Chain} (ha : a = [] ∨ EndsBlank a)
    (h : readChain a body = .ok c) :
    ∃ bs : List Block, streamLines a = bs.flatMap Block.closedLines := by
  rcases stream_eq_nil_or_spells h with ⟨rfl, -⟩ | ⟨older, newest, hs | hs, -⟩
  · exact ⟨[], rfl⟩
  · rcases ha with rfl | ha
    · exact ⟨[], rfl⟩
    obtain ⟨-, ls, hls⟩ := ha.exists_eq
    have hne : newest.lines ≠ [] := List.cons_ne_nil _ _
    have hlast : newest.lines.getLast? = some [] := by
      have : (older.flatMap Block.closedLines ++ newest.lines).getLast? = some [] := by
        rw [← hs, hls]
        simp
      rwa [List.getLast?_append_of_ne_nil _ hne] at this
    exact absurd (List.mem_of_getLast? hlast) newest.nil_not_mem_lines
  · exact ⟨older ++ [newest], by simpa using hs⟩

section ClosedBlocks

variable {a : Bytes} {bs : List Block} (ha : streamLines a = bs.flatMap Block.closedLines)

include ha

/-- Closed blocks leave their responses for what comes after them. -/
theorem readChain_closed_append {b : Bytes}
    (hab : streamLines (a ++ b) = streamLines a ++ streamLines b) (body : Bytes) :
    readChain (a ++ b) body =
      (((readLines 1 false none (streamLines b)).map
        (Chain.onto (bs.map (·.response [])).reverse)).mapError
          (·.shift (streamLines a).length)).map (·.map (·.withBody body)) := by
  have hn : (none : Option Chain) = Chain.ofList? [] := rfl
  have ho : Chain.ofList? ((bs.map (·.response [])).reverse ++ []) =
      Chain.onto (bs.map (·.response [])).reverse none := by
    simp [Chain.onto, Chain.responses]
  rw [readChain_eq, hab, ha, hn, readLines_blocks, ho, readLines_onto _ _ _ _ _ _ (by simp)]
  rfl

theorem responses_of_readChain_closed {c : Option Chain} (h : readChain a [] = .ok c) :
    Chain.responses c = (bs.map (·.response [])).reverse := by
  rw [readChain_of_blocks ha] at h
  obtain rfl := Except.ok.inj h
  cases bs using List.reverseRecOn with
  | nil => rfl
  | append_singleton bs b =>
    simp [Chain.ofList?, Chain.responses, Chain.withBody, Chain.toList, Block.response]

end ClosedBlocks

/-- Reading is compositional: a stream that ends with an empty line, and is read, may stand in front
of any other. -/
theorem readChain_append {a : Bytes} {ca : Option Chain} (ha : a = [] ∨ EndsBlank a)
    (hr : readChain a [] = .ok ca) (b x : Bytes) :
    (∀ r ∈ Chain.responses ca, r.body = []) ∧
    (readChain b x = .ok none → readChain (a ++ b) x = readChain a x) ∧
    (∀ c, readChain b x = .ok (some c) → readChain (a ++ b) x = .ok (some (c.behind ca))) ∧
    (∀ e, readChain b x = .error e →
      readChain (a ++ b) x = .error (e.shift (streamLines a).length)) := by
  obtain ⟨bs, hbs⟩ := exists_closed_blocks ha hr
  have hrs := responses_of_readChain_closed hbs hr
  have happ := readChain_closed_append hbs (streamLines_append ha b) x
  have hb := readChain_eq b x
  have ha := readChain_of_blocks hbs x
  rw [← hrs] at happ ha
  have hbody : ∀ r ∈ Chain.responses ca, r.body = [] := by
    rw [hrs]
    simp [Block.response]
  refine ⟨hbody, ?_⟩
  cases hd : readLines 1 false none (streamLines b) with
  | error e =>
    rw [hd] at hb happ
    refine ⟨fun h => ?_, fun c h => ?_, fun e' h => ?_⟩
    · cases hb.symm.trans h
    · cases hb.symm.trans h
    · obtain rfl := Except.error.inj (hb.symm.trans h)
      exact happ
  | ok d =>
    rw [hd] at hb happ
    refine ⟨fun h => ?_, fun c h => ?_, fun e h => ?_⟩
    · cases d with
      | none => exact happ.trans ha.symm
      | some d => cases hb.symm.trans h
    · cases d with
      | none => cases hb.symm.trans h
      | some d =>
        obtain rfl := Option.some.inj (Except.ok.inj (hb.symm.trans h))
        exact happ
    · cases hb.symm.trans h

theorem readChain_append_interim :
    EndsBlank (Utf8.encode "HTTP/2 100 \r\n\r\n") ∧
    readChain (Utf8.encode "HTTP/2 100 \r\n\r\n") [] =
      .ok (some ⟨⟨"HTTP/2", 100, "", .empty, []⟩, []⟩) ∧
    readChain (Utf8.encode "HTTP/2 200 \nx") [] = .error (.headerLine 2 "x") ∧
    readChain (Utf8.encode "HTTP/2 100 \r\n\r\n" ++ Utf8.encode "HTTP/2 200 \nx") [] =
      .error (.headerLine 4 "x") := by
  have ha : EndsBlank (Utf8.encode "HTTP/2 100 \r\n\r\n") :=
    Or.inr ⟨Utf8.encode "HTTP/2 100 \r", rfl⟩
  have hr : readChain (Utf8.encode "HTTP/2 100 \r\n\r\n") [] =
      .ok (some ⟨⟨"HTTP/2", 100, "", .empty, []⟩, []⟩) := rfl
  have he : readChain (Utf8.encode "HTTP/2 200 \nx") [] = .error (.headerLine 2 "x") := rfl
  exact ⟨ha, hr, he, (readChain_append (Or.inr ha) hr _ []).2.2.2 _ he⟩

end WebTestbed.Http
