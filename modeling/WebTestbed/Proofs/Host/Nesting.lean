import WebTestbed.Proofs.Directive.Document
import WebTestbed.Proofs.Host.Parts

/-! Blocks of hosts in the lines of a configuration: each is closed at the depth at which it was
opened, and what was added in between stands deeper. -/
namespace WebTestbed

namespace Document

def Indented (depth : Nat) (line : String) : Prop :=
  List.replicate (2 * depth) ' ' <+: line.toList

def hostLine (port : UInt16) : String :=
  "<VirtualHost *:" ++ toString port.toNat ++ ">"

/-- The lines of a block of a host. -/
def blockLines (depth : Nat) (port : UInt16) (inside : List String) : List String :=
  ["", hostLine port].map (indent depth) ++ inside ++ ["</VirtualHost>", ""].map (indent depth)

theorem Indented.mono {a b : Nat} {line : String} (hab : a ≤ b) (h : Indented b line) :
    Indented a line := by
  have hr : List.replicate (2 * b) ' ' =
      List.replicate (2 * a) ' ' ++ List.replicate (2 * b - 2 * a) ' ' := by
    rw [List.replicate_append_replicate]
    congr 1
    omega
  unfold Indented at h
  rw [hr] at h
  exact (List.prefix_append _ _).trans h

theorem indented_of_mem {depth : Nat} {lines : List String} {l : String}
    (h : l ∈ lines.map (indent depth)) : Indented depth l := by
  obtain ⟨line, -, rfl⟩ := List.mem_map.mp h
  unfold Indented
  rw [toList_indent]
  exact List.prefix_append _ _

theorem indented_blockLines {depth : Nat} {port : UInt16} {inside : List String}
    (h : ∀ l ∈ inside, Indented (depth + 1) l) :
    ∀ l ∈ blockLines depth port inside, Indented depth l := by
  intro l hl
  unfold blockLines at hl
  rw [List.mem_append, List.mem_append] at hl
  obtain (hl | hl) | hl := hl
  · exact indented_of_mem hl
  · exact (h l hl).mono (Nat.le_succ depth)
  · exact indented_of_mem hl

theorem lineFeed_not_mem_hostLine (port : UInt16) : '\n' ∉ (hostLine port).toList := by
  have hdigits : '\n' ∉ (toString port.toNat).toList := by
    intro h
    have hl : (toString port.toNat).toList = Nat.toDigits 10 port.toNat := Nat.toList_repr
    rw [hl] at h
    exact absurd (Numeral.isDigit_of_mem_toDigits h) (by decide)
  unfold hostLine
  rw [String.toList_append, String.toList_append, List.mem_append, List.mem_append]
  rintro ((h | h) | h)
  · exact absurd h (by decide)
  · exact hdigits h
  · exact absurd h (by decide)

theorem linesOf_hostLine (port : UInt16) : linesOf ["", hostLine port] = ["", hostLine port] := by
  have hpieces := Text.piecesString_of_not_mem (lineFeed_not_mem_hostLine port)
  rw [linesOf, List.flatMap_cons, List.flatMap_cons, hpieces]
  rfl

end Document

namespace ServerConfig
open Document

variable {c d m n : ServerConfig} {ps inner : List Part}

/-- Every host that is opened in the parts is closed in them, and the other way around. -/
inductive Balanced : List Part → Prop
  | nil : Balanced []
  | add {texts ps} (rest : Balanced ps) : Balanced (.add texts :: ps)
  | block {domains port root withTls inner ps} (inside : Balanced inner) (rest : Balanced ps) :
      Balanced (.startHost domains port root withTls :: inner ++ .endHost :: ps)

/-- Lines were added, and none stands less deep than where the first of them was added. -/
def AddsWithin (c d : ServerConfig) : Prop :=
  d.document.depth = c.document.depth ∧
    ∃ more, d.document.lines = c.document.lines ++ more ∧
      ∀ l ∈ more, Indented c.document.depth l

theorem AddsWithin.refl (c : ServerConfig) : AddsWithin c c :=
  ⟨rfl, [], (List.append_nil _).symm, by simp⟩

theorem AddsWithin.trans (h : AddsWithin c m) (h' : AddsWithin m d) : AddsWithin c d := by
  obtain ⟨hm, more, hlines, hmore⟩ := h
  obtain ⟨hd, more', hlines', hmore'⟩ := h'
  refine ⟨hd.trans hm, more ++ more', ?_, ?_⟩
  · rw [hlines', hlines, List.append_assoc]
  · intro l hl
    obtain hl | hl := List.mem_append.mp hl
    · exact hmore l hl
    · exact hm ▸ hmore' l hl

theorem addsWithin_add (c : ServerConfig) (texts : List String) : AddsWithin c (c.add texts) :=
  ⟨rfl, (linesOf texts).map (indent c.document.depth), rfl, fun _ hl => indented_of_mem hl⟩

theorem lines_openHost (c : ServerConfig) (h : Host) :
    (c.openHost h).document.lines =
      c.document.lines ++ ["", hostLine (c.portOf h)].map (indent c.document.depth) ++
        (linesOf (c.openingLines h)).map (indent (c.document.depth + 1)) := by
  have hlines : (c.openHost h).document.lines =
      c.document.lines ++ (linesOf ["", hostLine (c.portOf h)]).map (indent c.document.depth) ++
        (linesOf (c.openingLines h)).map (indent (c.document.depth + 1)) := rfl
  rw [hlines, linesOf_hostLine]

theorem lines_closeHost (c : ServerConfig) :
    c.closeHost.document.lines =
      c.document.lines ++ ["</VirtualHost>", ""].map (indent (c.document.depth - 1)) := by
  have hl : linesOf ["</VirtualHost>", ""] = ["</VirtualHost>", ""] := by decide
  simp only [closeHost, Document.add, leave, hl]

/-- What opening a host, adding to it and closing it makes of the lines. That the parts in between
add within is a hypothesis, which the induction on `Balanced` will supply. -/
theorem Made.block {domains : List String} {port : Option UInt16} {root : String} {withTls : Bool}
    (hinner : ∀ {m n}, Made m inner n → AddsWithin m n)
    (h : Made c (.startHost domains port root withTls :: inner ++ [.endHost]) d) :
    ∃ name aliases inside, domains = name :: aliases ∧
      d.document.depth = c.document.depth ∧
      d.document.lines = c.document.lines ++
        blockLines c.document.depth (port.getD c.env.httpsPort) inside ∧
      (linesOf (c.openingLines ⟨name, aliases, port, root, withTls⟩)).map
        (indent (c.document.depth + 1)) <+: inside ∧
      ∀ l ∈ inside, Indented (c.document.depth + 1) l := by
  obtain ⟨n, hn, hend⟩ := h.of_append
  cases hn with
  | cons hstart hn =>
    cases hend with
    | cons hend hnil =>
      cases hnil
      obtain ⟨name, aliases, rfl, rfl⟩ := make_startHost_eq_ok hstart
      obtain ⟨-, rfl⟩ := make_endHost_eq_ok hend
      obtain ⟨hdepth, more, hlines, hmore⟩ := hinner hn
      rw [depth_openHost] at hdepth hmore
      refine ⟨name, aliases, _ ++ more, rfl, ?_, ?_, List.prefix_append _ _, ?_⟩
      · rw [depth_closeHost, hdepth, Nat.add_sub_cancel]
      · rw [lines_closeHost, hlines, hdepth, Nat.add_sub_cancel, lines_openHost]
        simp only [blockLines, portOf, List.append_assoc]
      · intro l hl
        obtain hl | hl := List.mem_append.mp hl
        · exact indented_of_mem hl
        · exact hmore l hl

/-- Parts that close what they open only add lines, and none of them above the depth at which they
start. -/
theorem Balanced.addsWithin (hb : Balanced ps) (h : Made c ps d) : AddsWithin c d := by
  induction hb generalizing c d with
  | nil =>
    cases h
    exact .refl c
  | add _ ih =>
    cases h with
    | cons hadd hrest =>
      cases hadd
      exact (addsWithin_add c _).trans (ih hrest)
  | @block domains port root withTls inner ps _ _ ihinner ihrest =>
    -- the block apart from the parts after it
    have hsplit : Made c ((.startHost domains port root withTls :: inner ++ [.endHost]) ++ ps) d := by
      simpa using h
    obtain ⟨m, hblock, hrest⟩ := hsplit.of_append
    obtain ⟨_, _, inside, -, hdepth, hlines, -, hinside⟩ := hblock.block ihinner
    exact AddsWithin.trans ⟨hdepth, _, hlines, indented_blockLines hinside⟩ (ihrest hrest)

theorem Balanced.append {qs : List Part} (h : Balanced ps) (h' : Balanced qs) :
    Balanced (ps ++ qs) := by
  induction h with
  | nil => exact h'
  | add _ ih => exact .add ih
  | block inside _ _ ih =>
    rw [List.cons_append, List.cons_append, List.append_assoc]
    exact .block inside ih

theorem balanced_hostParts (h : Host) (lines : List String) : Balanced (hostParts h lines) :=
  .block (.add .nil) .nil

theorem balanced_presetParts (e : Environment) (p : Preset) : Balanced (presetParts e p) := by
  cases p with
  | test1 self selfHttp2 => exact (balanced_hostParts _ _).append (balanced_hostParts _ _)
  | test2 => exact (balanced_hostParts _ _).append (balanced_hostParts _ _)
  | cgi self selfHttp2 =>
    exact ((Balanced.add (balanced_hostParts _ _)).append (balanced_hostParts _ _)).append
      (.add .nil)
  | noh2 => exact (balanced_hostParts _ _).append (balanced_hostParts _ _)

/-- A host that is added closed, and a preset, leave as many blocks open as there were. -/
theorem depth_step_of_balanced {s : Step} (hb : Balanced (c.parts s)) :
    (c.step s).document.depth = c.document.depth := by
  cases hs : c.apply s with
  | error f => rw [step, hs]
  | ok d =>
    have hmade := made_parts hs
    rw [step, hs]
    exact (hb.addsWithin hmade).1

theorem Unbroken.make {p : Part} (hc : c.document.Unbroken) (h : c.make p = .ok d) :
    d.document.Unbroken := by
  obtain ⟨texts, -, rfl⟩ | ⟨name, aliases, port, root, withTls, -, rfl⟩ | ⟨-, -, rfl⟩ :=
    make_cases h
  · exact hc.add texts
  · exact Unbroken.add (d := (c.document.add _).push) (hc.add _) _
  · exact Unbroken.add (d := c.document.leave) hc _

theorem unbroken_start (e : Environment) (flavour : Flavour) (extras : Option Extras) :
    (start e flavour extras).document.Unbroken := by
  have hempty : Document.empty.Unbroken := by simp [Unbroken, Document.empty]
  exact hempty.add _

/-- What `ps` keep to where they lead from one configuration to another. -/
structure Nested (c : ServerConfig) (ps : List Part) (d : ServerConfig) : Prop where
  made : Made c ps d
  /-- The blocks that are open are those opened and not closed. -/
  depth_eq : (d.document.depth : Int) = ps.countP Part.opens - ps.countP Part.closes
  depth_addHost : ∀ domains port root,
    (d.step (.addHost domains port root)).document.depth = d.document.depth
  depth_addPreset : ∀ p, (d.step (.addPreset p)).document.depth = d.document.depth
  /-- A call fails where it does not fit, and nowhere else. -/
  error_iff : ∀ s f, d.apply s = .error f ↔ d.Misfit s f
  /-- A call that fails has added nothing and opened nothing on the way. -/
  unchanged : ∀ s f, d.apply s = .error f → d.makeAll (d.parts s) = ⟨[], d, some f⟩
  /-- A call that does not fail is made in all its parts. -/
  complete : ∀ s d', d.apply s = .ok d' → d.makeAll (d.parts s) = ⟨d.parts s, d', none⟩
  appends : ∀ s, d.document.lines <+: (d.step s).document.lines
  unbroken : d.document.Unbroken
  /-- A host and its end stand at one depth, and everything between them deeper. -/
  matched : ∀ before domains port root withTls inner after,
    ps = before ++ .startHost domains port root withTls :: inner ++ .endHost :: after →
    Balanced inner →
    ∃ m inside later, Made c before m ∧
      d.document.lines = m.document.lines ++
        blockLines m.document.depth (port.getD c.env.httpsPort) inside ++ later ∧
      ∀ l ∈ inside, Indented (m.document.depth + 1) l

theorem prefix_lines_step (c : ServerConfig) (s : Step) :
    c.document.lines <+: (c.step s).document.lines := by
  rw [← left_makeAll_parts]
  exact (made_makeAll c (c.parts s)).prefix_lines

theorem Made.matched (h : Made c ps d) {before inner after : List Part} {domains : List String}
    {port : Option UInt16} {root : String} {withTls : Bool}
    (hps : ps = before ++ .startHost domains port root withTls :: inner ++ .endHost :: after)
    (hb : Balanced inner) :
    ∃ m name aliases inside later, Made c before m ∧ domains = name :: aliases ∧
      d.document.lines = m.document.lines ++
        blockLines m.document.depth (port.getD c.env.httpsPort) inside ++ later ∧
      (linesOf (m.openingLines ⟨name, aliases, port, root, withTls⟩)).map
        (indent (m.document.depth + 1)) <+: inside ∧
      ∀ l ∈ inside, Indented (m.document.depth + 1) l := by
  have hsplit : Made c (before ++ ((.startHost domains port root withTls :: inner ++ [.endHost]) ++
      after)) d := by
    simpa [hps] using h
  obtain ⟨m, hm, hrest⟩ := hsplit.of_append
  obtain ⟨n, hblock, hafter⟩ := hrest.of_append
  obtain ⟨name, aliases, inside, hname, -, hlines, hopening, hinside⟩ :=
    hblock.block hb.addsWithin
  obtain ⟨later, hlater⟩ := hafter.prefix_lines
  rw [hm.env_eq] at hlines
  exact ⟨m, name, aliases, inside, later, hm, hname, by rw [← hlater, hlines], hopening, hinside⟩

/-- Blocks are nested properly whatever calls are made on a new configuration. -/
theorem nested_history (e : Environment) (flavour : Flavour) (extras : Option Extras)
    (steps : List Step) :
    Nested (start e flavour extras) ((start e flavour extras).history steps)
      (steps.foldl step (start e flavour extras)) := by
  have hmade := made_history (start e flavour extras) steps
  constructor
  case made => exact hmade
  case depth_eq =>
    have hcount := hmade.depth_add_closes
    have hzero : (start e flavour extras).document.depth = 0 := rfl
    omega
  case depth_addHost =>
    intro domains port root
    exact depth_step_of_balanced (.block .nil .nil)
  case depth_addPreset =>
    intro p
    exact depth_step_of_balanced (balanced_presetParts _ p)
  case error_iff => exact apply_eq_error_iff _
  case unchanged =>
    intro s f hs
    exact makeAll_parts_of_misfit ((apply_eq_error_iff _ s f).mp hs)
  case complete =>
    intro s d' hs
    exact (made_parts hs).makeAll
  case appends => exact prefix_lines_step _
  case unbroken => exact hmade.keeps Unbroken.make (unbroken_start e flavour extras)
  case matched =>
    intro before domains port root withTls inner after hps hb
    obtain ⟨m, _, _, inside, later, hm, -, hlines, -, hinside⟩ := hmade.matched hps hb
    exact ⟨m, inside, later, hm, hlines, hinside⟩

example : (List.foldl step (start (.ofSettings {} "w" (some "tls") none) .plain none)
      [.startHost ["a.test"] (some 80) "a" false, .endHost, .endHost,
        .startHost ["b.test"] (some 81) "b" false, .addHost [] none "c",
        .addHost ["d.test"] (some 82) "d", .add ["x\ny"]]).document.lines =
    ["", "<VirtualHost *:80>", "  ServerName a.test", "  DocumentRoot a", "</VirtualHost>", "",
      "", "<VirtualHost *:81>", "  ServerName b.test", "  DocumentRoot b",
      "  ", "  <VirtualHost *:82>", "    ServerName d.test", "    DocumentRoot d",
      "  </VirtualHost>", "  ", "  x", "  y"] := by
  decide +kernel

end ServerConfig

end WebTestbed
