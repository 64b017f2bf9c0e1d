import WebTestbed.Proofs.Text.Template

/-! Templates that are written for a text: characters as they are, and values of variables. -/
namespace WebTestbed.Template

/-- A part of a text: characters as they are, or the value of a variable. -/
inductive Segment where
  | literal (text : String)
  | value (name : String)
  deriving DecidableEq, Repr

/-- The text with its dollar signs doubled. -/
def escape (s : List Char) : List Char :=
  s.flatMap fun c => if c = '$' then ['$', '$'] else [c]

namespace Segment

/-- How a template has the segment. -/
def write : Segment → List Char
  | literal text => escape text.toList
  | value name => '$' :: '\x7b' :: (name.toList ++ ['\x7d'])

/-- The text of the segment. -/
def text (vars : String → Option String) : Segment → String
  | literal text => text
  | value name => (vars name).getD ""

/-- The parts that a template has for the segment. -/
def pieces : Segment → List Piece
  | literal text => text.toList.map .char
  | value name => [.variable name.toList]

end Segment

/-- The template for a text of segments. -/
def ofSegments (segments : List Segment) : String :=
  String.ofList (segments.flatMap Segment.write)

section Segments

variable {vars : String → Option String} {segments : List Segment}

theorem Scans.escape_append {r : List Char} {ps : List Piece} (h : Scans r ps) (s : List Char) :
    Scans (escape s ++ r) (s.map .char ++ ps) := by
  induction s with
  | nil => exact h
  | cons c s ih =>
    rw [escape, List.flatMap_cons, List.append_assoc, List.map_cons, List.cons_append]
    by_cases hc : c = '$'
    · rw [if_pos hc, hc]
      exact .reference (.dollar _) ih
    · rw [if_neg hc]
      exact .plain hc ih

theorem scans_ofSegments (h : ∀ name, .value name ∈ segments → IsName name.toList) :
    Scans (ofSegments segments).toList (segments.flatMap Segment.pieces) := by
  rw [ofSegments, String.toList_ofList]
  induction segments with
  | nil => exact .nil
  | cons x segments ih =>
    have hrest := ih fun name hname => h name (List.mem_cons_of_mem x hname)
    rw [List.flatMap_cons, List.flatMap_cons]
    match x with
    | .literal text => exact hrest.escape_append text.toList
    | .value name =>
      have hname : IsName name.toList := h name List.mem_cons_self
      have hp := Reference.braced hname (segments.flatMap Segment.write)
      rw [Segment.write, List.cons_append, List.cons_append, List.append_assoc]
      exact .reference hp hrest

theorem Segment.text?_ne_none {x : Segment} (h : ∀ name, x = .value name → vars name ≠ none) :
    ∀ p ∈ x.pieces, p.text? vars ≠ none := by
  match x with
  | .literal text =>
    intro p hp
    obtain ⟨c, -, rfl⟩ := List.mem_map.mp hp
    exact Option.some_ne_none [c]
  | .value name =>
    intro p hp
    rw [Segment.pieces, List.mem_singleton] at hp
    have hname := h name rfl
    simpa [hp, Piece.text?] using hname

theorem Segment.flatMap_pieces (x : Segment) :
    x.pieces.flatMap (fun p => (p.text? vars).getD []) = (x.text vars).toList := by
  match x with
  | .literal text =>
    rw [Segment.pieces, List.flatMap_map]
    exact List.flatMap_singleton' text.toList
  | .value name =>
    cases h : vars name <;> simp [Segment.pieces, Segment.text, Piece.text?, h]

theorem comesTo_pieces (h : ∀ name, .value name ∈ segments → vars name ≠ none) :
    ComesTo vars (segments.flatMap Segment.pieces)
      (.ok (String.join (segments.map (Segment.text vars)))) := by
  constructor
  · intro p hp
    obtain ⟨x, hx, hp⟩ := List.mem_flatMap.mp hp
    exact Segment.text?_ne_none (fun name hname => h name (hname ▸ hx)) p hp
  · rw [List.flatMap_assoc, String.toList_join, List.flatMap_map]
    simp only [Segment.flatMap_pieces]

end Segments

/-- A template can be written for every text of segments: characters of all kinds, and the values of
variables whose names a template can have. -/
theorem expand_ofSegments (vars : String → Option String) (segments : List Segment)
    (h : ∀ name, .value name ∈ segments → IsName name.toList ∧ vars name ≠ none) :
    expand vars (ofSegments segments) = .ok (String.join (segments.map (Segment.text vars))) :=
  expand_eq_of_comesTo (scans_ofSegments fun name hname => (h name hname).1)
    (comesTo_pieces fun name hname => (h name hname).2)

/-- Dollar signs meet a reference, and the value looks like one. -/
theorem expand_ofSegments_dollars :
    (∀ name, .value name ∈ [Segment.literal "$$\x7bv\x7d$", .value "v", .literal "\x7d"] →
      IsName name.toList ∧ (some "$$\x7bv\x7d" : Option String) ≠ none) ∧
    expand (fun _ => some "$$\x7bv\x7d")
      (ofSegments [.literal "$$\x7bv\x7d$", .value "v", .literal "\x7d"]) =
        .ok "$$\x7bv\x7d$$$\x7bv\x7d\x7d" := by
  have h : ∀ name, .value name ∈ [Segment.literal "$$\x7bv\x7d$", .value "v", .literal "\x7d"] →
      IsName name.toList ∧ (some "$$\x7bv\x7d" : Option String) ≠ none := by
    intro name hname
    have hv : name = "v" := by simpa using hname
    rw [hv]
    exact ⟨⟨'v', [], rfl, by decide, by simp⟩, by simp⟩
  exact ⟨h, expand_ofSegments (fun _ => some "$$\x7bv\x7d") _ h⟩

/-- No reference gives the value of a variable whose name starts with a digit. -/
theorem expand_ofSegments_digit :
    (∀ name, .value name ∈ [Segment.value "1x"] →
      (if name = "1x" then some "v" else none) ≠ none) ∧
    expand (fun name => if name = "1x" then some "v" else none) (ofSegments [.value "1x"]) =
      .ok "$\x7b1x\x7d" ∧
    String.join ([.value "1x"].map
      (Segment.text fun name => if name = "1x" then some "v" else none)) = "v" :=
  ⟨by simp, by decide +kernel, by decide +kernel⟩

theorem Reference.of_brace {r rest : List Char} {p : Piece} (h : Reference ('\x7b' :: r) p rest) :
    ∃ name, p = .variable name ∧ IsName name := by
  have hr := reference?_eq_some_iff.mpr h
  obtain ⟨⟨name, rest'⟩, hn, he⟩ := Option.map_eq_some_iff.mp hr
  cases he
  exact ⟨name, rfl, (bracedName?_eq_some_iff.mp hn).2⟩

/-- A reference to a variable gives its value, whatever that is, exactly if the name is one that
templates can have. -/
theorem expand_value_iff (name : String) :
    (∀ v, expand (fun n => if n = name then some v else none) (ofSegments [.value name]) = .ok v) ↔
      IsName name.toList := by
  constructor
  · intro h
    -- the empty value leaves no dollar sign, so the one of the template is read with a name
    have hscan := scans_parse (ofSegments [.value name]).toList
    have hempty := comesTo_fill (fun n => if n = name then some "" else none)
      (parse (ofSegments [.value name]).toList)
    rw [← expand_eq_fill, h ""] at hempty
    obtain ⟨hvalues, htext⟩ := hempty
    generalize parse (ofSegments [.value name]).toList = ps at *
    have htemplate : (ofSegments [.value name]).toList =
        '$' :: '\x7b' :: (name.toList ++ ['\x7d']) := by
      simp [ofSegments, Segment.write]
    rw [htemplate] at hscan
    cases hscan with
    | plain hc => exact absurd rfl hc
    | alone => cases htext
    | reference hp =>
      obtain ⟨n, rfl, hn⟩ := hp.of_brace
      have hvalue := hvalues _ List.mem_cons_self
      by_cases he : String.ofList n = name
      · rwa [← he, String.toList_ofList]
      · simp [Piece.text?, he] at hvalue
  · intro hname v
    have hnames : ∀ n, .value n ∈ [Segment.value name] → IsName n.toList := by simpa using hname
    have hvalues : ∀ n, .value n ∈ [Segment.value name] →
        (if n = name then some v else none) ≠ none := by simp
    have h := expand_eq_of_comesTo (scans_ofSegments hnames) (comesTo_pieces hvalues)
    simpa [Segment.text] using h

end WebTestbed.Template
