import WebTestbed.Proofs.Host.Extras

/-! The HTTP/2 flavour beside the plain one: what it adds is one line about protocols for each host
that is opened. -/
namespace WebTestbed.ServerConfig
open Document Extras

/-- A part that was made, and the lines that it added. -/
structure Output where
  part : Part
  lines : List String

/-- What parts add to the lines, one part after the other until one does not fit. -/
def outputs (c : ServerConfig) : List Part → List Output
  | [] => []
  | p :: ps =>
    match c.make p with
    | .error _ => []
    | .ok d => ⟨p, d.document.lines.drop c.document.lines.length⟩ :: d.outputs ps

/-- The protocols of a host with the given domains, the preferred one first. -/
def protocolsText (e : Environment) (domains : List String) (tls : Bool) : String :=
  if e.host "noh2" ∈ domains then "Protocols http/1.1"
  else if e.host "test2" ∈ domains then
    if tls then "Protocols http/1.1 h2" else "Protocols http/1.1 h2c"
  else if tls then "Protocols h2 http/1.1" else "Protocols h2c http/1.1"

/-- What a part that is made at a depth adds at the end of its lines in HTTP/2. -/
def protocolsOf (e : Environment) (depth : Nat) : Part → List String
  | .startHost domains port _ withTls =>
    [indent (depth + 1)
      (protocolsText e domains (port.getD e.httpsPort = e.httpsPort || withTls))]
  | _ => []

/-- The lines of all outputs, those about protocols at the end of each. -/
def withProtocols (e : Environment) (depth : Nat) : List Output → List String
  | [] => []
  | o :: os =>
    o.lines ++ protocolsOf e depth o.part ++ withProtocols e (o.part.depthAfter depth) os

/-- A plain configuration and one for HTTP/2 that are alike but for the lines. -/
structure Twins (c b : ServerConfig) : Prop where
  flavour : c.flavour = .plain
  same : b = { c with flavour := .http2, document := b.document }
  depth_eq : b.document.depth = c.document.depth

variable {c b d : ServerConfig} {p : Part} {ps : List Part}

namespace Twins

theorem env_eq (h : Twins c b) : b.env = c.env := by
  rw [h.same]

theorem portOf (h : Twins c b) (host : Host) : b.portOf host = c.portOf host := by
  rw [h.same]
  rfl

theorem protocolLines (h : Twins c b) (host : Host) :
    b.protocolLines host =
      [protocolsText c.env (host.name :: host.aliases) (c.servesTls host)] := by
  have hflavour : b.flavour = .http2 := by rw [h.same]
  have htls : b.servesTls host = c.servesTls host := by rw [h.same]; rfl
  unfold ServerConfig.protocolLines ServerConfig.protocols protocolsText
  rw [hflavour, htls, h.env_eq]
  by_cases hnoh2 : c.env.host "noh2" ∈ host.name :: host.aliases <;>
    by_cases htest2 : c.env.host "test2" ∈ host.name :: host.aliases <;>
      cases c.servesTls host <;> simp [hnoh2, htest2] <;> rfl

/-- The line about protocols is the last of those that a host starts with. -/
theorem openingLines (h : Twins c b) (host : Host) :
    b.openingLines host = c.openingLines host ++
      [protocolsText c.env (host.name :: host.aliases) (c.servesTls host)] := by
  have htls : b.tlsLines host = c.tlsLines host := by rw [h.same]; rfl
  have hextras : b.extras = c.extras := by rw [h.same]
  have hplain : c.protocolLines host = [] := by rw [ServerConfig.protocolLines, h.flavour]
  unfold ServerConfig.openingLines
  rw [htls, hextras, hplain, h.protocolLines, List.append_nil]

end Twins

theorem linesOf_protocolsText (e : Environment) (domains : List String) (tls : Bool) :
    linesOf [protocolsText e domains tls] = [protocolsText e domains tls] := by
  unfold protocolsText
  split_ifs <;> decide

theorem depth_make (h : c.make p = .ok d) : d.document.depth = p.depthAfter c.document.depth := by
  obtain ⟨texts, rfl, rfl⟩ | ⟨name, aliases, port, root, withTls, rfl, rfl⟩ | ⟨rfl, -, rfl⟩ :=
    make_cases h <;> rfl

theorem lines_make (h : c.make p = .ok d) :
    d.document.lines = c.document.lines ++ d.document.lines.drop c.document.lines.length :=
  (List.prefix_iff_eq_append.mp (Made.single h).prefix_lines).symm

namespace Twins

/-- A part that fits one fits the other, and adds the same lines to both but for the one about
protocols. -/
theorem make (h : Twins c b) (hp : c.make p = .ok d) :
    ∃ n, b.make p = .ok n ∧ Twins d n ∧
      n.document.lines = b.document.lines ++
        d.document.lines.drop c.document.lines.length ++
          protocolsOf c.env c.document.depth p := by
  obtain ⟨n, hn, hdepth⟩ := make_congr h.depth_eq.symm hp
  have htwins : Twins d n := by
    have hd := make_eq_with_document hp
    have hb := make_eq_with_document hn
    constructor
    case flavour =>
      rw [hd]
      exact h.flavour
    case same =>
      refine hb.trans ?_
      rw [hd, h.same]
    case depth_eq => exact hdepth.symm
  refine ⟨n, hn, htwins, ?_⟩
  obtain ⟨texts, rfl, rfl⟩ | ⟨name, aliases, port, root, withTls, rfl, rfl⟩ | ⟨rfl, -, rfl⟩ :=
    make_cases hp
  · cases hn
    simp [protocolsOf, Document.add, h.depth_eq]
  · cases hn
    rw [lines_openHost, lines_openHost, h.openingLines, h.portOf, h.depth_eq, linesOf_append,
      linesOf_protocolsText, List.append_assoc c.document.lines, List.drop_left]
    simp only [List.map_append, List.append_assoc]
    rfl
  · obtain ⟨-, rfl⟩ := make_endHost_eq_ok hn
    rw [lines_closeHost, lines_closeHost, List.drop_left, h.depth_eq]
    exact (List.append_nil _).symm

theorem lines_made (h : Twins c b) (hps : Made c ps d) :
    ∃ n, Made b ps n ∧ Twins d n ∧
      n.document.lines =
        b.document.lines ++ withProtocols c.env c.document.depth (c.outputs ps) := by
  induction hps generalizing b with
  | nil => exact ⟨b, .nil, h, (List.append_nil _).symm⟩
  | @cons c m d p ps first _ ih =>
    obtain ⟨n, hn, htwins, hlines⟩ := h.make first
    obtain ⟨n', hn', htwins', hlines'⟩ := ih htwins
    have henv : m.env = c.env := (Made.single first).env_eq
    refine ⟨n', .cons hn hn', htwins', ?_⟩
    rw [hlines', hlines, outputs, first, henv, depth_make first]
    simp only [withProtocols, List.append_assoc]

end Twins

end WebTestbed.ServerConfig
