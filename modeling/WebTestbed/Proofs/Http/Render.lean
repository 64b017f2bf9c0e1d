import WebTestbed.Proofs.Http.Block

/-! Chains that are written and read again. What a chain holds was read from lines, so that the heads
it is written as are closed blocks: all comes back but a carriage return at the end of a reason,
which then belongs to the line end. -/
namespace WebTestbed.Http
open Text

namespace Response

/-- Responses whose texts are those of lines. -/
structure Proper (r : Response) : Prop where
  statusLine : r.statusLine.Proper
  lineFeed_not_mem_reason : '\n' ∉ r.reason.toList
  headers : r.headers.Proper

/-- The response without the carriage return that its reason may end with. -/
def chopReason (r : Response) : Response :=
  { r with reason := String.ofList (chopReturn r.reason.toList) }

theorem chopReason_of_getLast?_ne {r : Response} (h : r.reason.toList.getLast? ≠ some '\r') :
    r.chopReason = r := by
  simp [chopReason, chopReturn_of_getLast?_ne h]

/-- The block that a response is written as. -/
def block (r : Response) (h : r.Proper) : Block where
  statusText := chopReturn r.statusLine.render.toList
  status := { r.statusLine with reason := String.ofList (chopReturn r.reason.toList) }
  read_statusText := readStatus?_chopReturn_render h.statusLine
  fieldLines := r.headers.entries.pmap
    (fun e he => ⟨(renderHeader e).toList, e, readHeader?_renderHeader he⟩) h.headers.field

theorem response_block {r : Response} (h : r.Proper) (body : Bytes) :
    (r.block h).response body = { r.chopReason with body := body } := by
  have hh : (r.block h).headers = r.headers := by
    rw [Block.headers, block, List.map_pmap, List.pmap_eq_map, List.map_id']
    exact Headers.foldl_insert_entries h.headers
  rw [Block.response, hh]
  rfl

theorem lineFeed_not_mem_render {r : Response} (h : r.Proper) :
    '\n' ∉ r.statusLine.render.toList := by
  have hp : '\n' ∉ r.protocol.toList := h.statusLine.not_mem (by decide)
  have hd : '\n' ∉ Nat.toDigits 10 r.status.toNat := fun hm => by
    have := Numeral.isDigit_of_mem_toDigits hm
    revert this
    decide
  rw [toList_render]
  simp [statusLine, hp, hd, h.lineFeed_not_mem_reason]

theorem lineFeed_not_mem_renderHeader {e : String × String} (h : ProperField e) :
    '\n' ∉ (renderHeader e).toList := by
  rw [toList_renderHeader]
  simp [h.lineFeed_not_mem]

/-- The head of a response is read as the lines of its block and the empty line. -/
theorem lines_renderHead_append {r : Response} (h : r.Proper) (t : List Char) :
    lines (r.renderHead.toList ++ t) = (r.block h).closedLines ++ lines t := by
  have hl : ∀ l ∈ r.statusLine.render :: r.headers.entries.map renderHeader ++ [""],
      '\n' ∉ l.toList := by
    intro l hm
    simp only [List.cons_append, List.mem_cons, List.mem_append, List.mem_map,
      List.not_mem_nil, or_false] at hm
    rcases hm with rfl | ⟨e, he, rfl⟩ | rfl
    · exact lineFeed_not_mem_render h
    · exact lineFeed_not_mem_renderHeader (h.headers.field e he)
    · simp
  have hf : (r.block h).fieldLines.map (·.text) =
      r.headers.entries.map fun e => chopReturn (renderHeader e).toList := by
    rw [block, List.map_pmap, List.pmap_eq_map]
    exact List.map_congr_left fun e he => (chopReturn_renderHeader (h.headers.field e he)).symm
  rw [renderHead, lines_unlines_append hl, Block.closedLines, Block.lines, hf]
  simp [block, chopReturn, dropReturn]

end Response

theorem toList_renderHeads (c : Chain) :
    c.renderHeads.toList = c.toList.reverse.flatMap (·.renderHead.toList) := by
  have h : ∀ rs : List Response, (rs.foldr (fun r s => r.renderHead ++ s) "").toList =
      rs.flatMap (·.renderHead.toList) := by
    intro rs
    induction rs with
    | nil => rfl
    | cons r rs ih => simp [ih]
  exact h _

theorem lines_flatMap_renderHead {rs : List Response} (h : ∀ r ∈ rs, r.Proper) :
    lines (rs.flatMap (·.renderHead.toList)) =
      (rs.pmap Response.block h).flatMap Block.closedLines := by
  induction rs with
  | nil => rfl
  | cons r rs ih =>
    rw [List.flatMap_cons, Response.lines_renderHead_append (h r List.mem_cons_self), ih]
    rfl

/-- Blocks made of lines give responses that can be written. -/
theorem Block.proper_response {b : Block} (hb : ∀ l ∈ b.lines, '\n' ∉ l) (body : Bytes) :
    (b.response body).Proper := by
  refine ⟨(readStatus?_eq_some_iff.mp b.read_statusText).1, ?_, ?_⟩
  · exact lineFeed_not_mem_reason b.read_statusText (hb _ List.mem_cons_self)
  · refine Headers.proper_empty.foldl_insert ?_
    intro e he
    obtain ⟨f, hf, rfl⟩ := List.mem_map.mp he
    have hl : f.text ∈ b.lines := List.mem_cons_of_mem _ (List.mem_map_of_mem hf)
    exact properField_of_readHeader? f.read_text (hb _ hl)

theorem lineFeed_not_mem_of_spells {older : List Block} {newest : Block} {stream : Bytes}
    (h : Spells older newest (streamLines stream)) :
    ∀ b ∈ older ++ [newest], ∀ l ∈ b.lines, '\n' ∉ l := by
  intro b hb l hl
  apply lineFeed_not_mem_of_mem_lines (s := Utf8.lossy stream)
  change l ∈ streamLines stream
  rcases List.mem_append.mp hb with hb | hb
  · have hm : l ∈ older.flatMap Block.closedLines :=
      List.mem_flatMap.mpr ⟨b, hb, List.mem_append_left _ hl⟩
    rcases h with h | h <;> rw [h] <;> exact List.mem_append_left _ hm
  · obtain rfl := List.mem_singleton.mp hb
    rcases h with h | h <;> rw [h]
    · exact List.mem_append_right _ hl
    · exact List.mem_append_right _ (List.mem_append_left _ hl)

/-- The responses of a chain that was read can all be written. -/
theorem proper_of_readChain {stream body : Bytes} {c : Chain}
    (h : readChain stream body = .ok (some c)) : ∀ r ∈ c.toList, r.Proper := by
  rcases stream_eq_nil_or_spells h with ⟨-, hc⟩ | ⟨older, newest, hs, hc⟩
  · cases hc
  obtain rfl := Option.some.inj hc
  have hl := lineFeed_not_mem_of_spells hs
  intro r hr
  rcases List.mem_cons.mp hr with rfl | hr
  · exact Block.proper_response (hl newest (by simp)) body
  · obtain ⟨b, hb, rfl⟩ := List.mem_map.mp (List.mem_reverse.mp hr)
    exact Block.proper_response (hl b (by simp [hb])) []

/-- Only the newest response has the body. -/
theorem bodies_of_readChain {stream body : Bytes} {c : Chain}
    (h : readChain stream body = .ok (some c)) :
    c.head.body = body ∧ ∀ r ∈ c.earlier, r.body = [] := by
  rcases stream_eq_nil_or_spells h with ⟨-, hc⟩ | ⟨older, newest, -, hc⟩
  · cases hc
  obtain rfl := Option.some.inj hc
  exact ⟨rfl, by simp [Chain.ofBlocks, Block.response]⟩

/-- The heads of a chain are read as the chain itself, with the reasons chopped. -/
theorem readChain_renderHeads {c : Chain} (hp : ∀ r ∈ c.toList, r.Proper)
    (hb : ∀ r ∈ c.earlier, r.body = []) :
    readChain (Utf8.encode c.renderHeads) c.head.body =
      .ok (some ⟨c.head.chopReason, c.earlier.map (·.chopReason)⟩) := by
  have hr : ∀ r ∈ c.toList.reverse, r.Proper := fun r hm => hp r (List.mem_reverse.mp hm)
  have hs : streamLines (Utf8.encode c.renderHeads) =
      (c.toList.reverse.pmap Response.block hr).flatMap Block.closedLines := by
    rw [streamLines, Utf8.lossy_encode, toList_renderHeads, lines_flatMap_renderHead hr]
  have hresponses : ((c.toList.reverse.pmap Response.block hr).map (·.response [])).reverse =
      c.toList.map fun r => { r.chopReason with body := [] } := by
    simp only [List.map_pmap, Response.response_block, List.pmap_eq_map, List.map_reverse,
      List.reverse_reverse]
  have hearlier : (c.earlier.map fun r => { r.chopReason with body := [] }) =
      c.earlier.map (·.chopReason) := by
    apply List.map_congr_left
    intro r hm
    have : r.chopReason.body = [] := hb r hm
    rw [← this]
  rw [readChain_of_blocks hs, hresponses, Chain.toList, List.map_cons, hearlier]
  rfl

/-- A chain that was read is written as its heads and the body; read again, they give each response
as it was, but for a carriage return at the end of its reason. -/
theorem readChain_render {stream body : Bytes} {c : Chain}
    (h : readChain stream body = .ok (some c)) :
    ∃ heads, c.render = heads ++ body ∧ ∃ d, readChain heads body = .ok (some d) ∧
      d.toList = c.toList.map (·.chopReason) ∧
      ((∀ r ∈ c.toList, r.reason.toList.getLast? ≠ some '\r') → d = c) := by
  have hp := proper_of_readChain h
  obtain ⟨hbody, hb⟩ := bodies_of_readChain h
  have hd := readChain_renderHeads hp hb
  rw [hbody] at hd
  refine ⟨Utf8.encode c.renderHeads, by rw [Chain.render, hbody], _, hd, rfl, fun hr => ?_⟩
  apply Chain.toList_injective
  have hc : ∀ r ∈ c.toList, r.chopReason = r := fun r hm =>
    Response.chopReason_of_getLast?_ne (hr r hm)
  change c.toList.map (·.chopReason) = c.toList
  rw [List.map_congr_left hc, List.map_id']

theorem readChain_render_doubled_return :
    readChain (Utf8.encode "HTTP/1.1 0200 OK\r\r\nVary: a\r\nvary:b\n") [0x78] =
      .ok (some ⟨⟨"HTTP/1.1", 200, "OK\r", ⟨[("vary", "b")]⟩, [0x78]⟩, []⟩) ∧
    ∃ heads, (⟨⟨"HTTP/1.1", 200, "OK\r", ⟨[("vary", "b")]⟩, [0x78]⟩, []⟩ : Chain).render =
        heads ++ [0x78] ∧
      ∃ d, readChain heads [0x78] = .ok (some d) ∧
        d.toList = [⟨"HTTP/1.1", 200, "OK", ⟨[("vary", "b")]⟩, [0x78]⟩] := by
  have h : readChain (Utf8.encode "HTTP/1.1 0200 OK\r\r\nVary: a\r\nvary:b\n") [0x78] =
      .ok (some ⟨⟨"HTTP/1.1", 200, "OK\r", ⟨[("vary", "b")]⟩, [0x78]⟩, []⟩) := by
    decide +kernel
  obtain ⟨heads, hw, d, hd, hl, -⟩ := readChain_render h
  exact ⟨h, heads, hw, d, hd, hl⟩

end WebTestbed.Http
