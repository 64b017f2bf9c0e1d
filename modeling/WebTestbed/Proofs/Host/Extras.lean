import WebTestbed.Proofs.Directive.Merge
import WebTestbed.Proofs.Host.Nesting

/-! Extras in the lines of a configuration: those that belong to no host come first, those of a name
stand in every host that has it, and nothing else depends on them. -/
namespace WebTestbed

theorem Document.eq_of_lines_eq {a b : Document} (hlines : a.lines = b.lines)
    (hdepth : a.depth = b.depth) : a = b := by
  cases a
  cases b
  exact congr (congrArg Document.mk hlines) hdepth

namespace ServerConfig
open Document Extras

/-- Lines that no extras change, or the place for the directives of a key. -/
inductive Piece where
  | fixed (lines : List String)
  | extras (depth : Nat) (key : String)

/-- The lines of a piece if the keys have the given directives. -/
def Piece.fill (u : String → List String) : Piece → List String
  | fixed lines => lines
  | extras depth key => (linesOf (u key)).map (indent depth)

/-- The pieces that a part adds at a depth. The directives that the configuration has of its own
come after those that are filled in. -/
def pieces (c : ServerConfig) (depth : Nat) : Part → List Piece
  | .add texts => [.fixed ((linesOf texts).map (indent depth))]
  | .startHost [] _ _ _ => []
  | .startHost (name :: aliases) port root withTls =>
    let h : Host := ⟨name, aliases, port, root, withTls⟩
    [.fixed (["", hostLine (c.portOf h)].map (indent depth) ++
        (linesOf (hostLines h ++ c.tlsLines h)).map (indent (depth + 1))),
      .extras (depth + 1) name,
      .fixed ((linesOf ((c.extras.get? name).getD [] ++ c.protocolLines h)).map
        (indent (depth + 1)))]
  | .endHost => [.fixed (["</VirtualHost>", ""].map (indent (depth - 1)))]

def Part.depthAfter (depth : Nat) : Part → Nat
  | .add _ => depth
  | .startHost .. => depth + 1
  | .endHost => depth - 1

def skeleton (c : ServerConfig) (depth : Nat) : List Part → List Piece
  | [] => []
  | p :: ps => c.pieces depth p ++ c.skeleton (p.depthAfter depth) ps

def Part.hostName? : Part → Option String
  | .startHost domains .. => domains.head?
  | _ => none

/-- The names of all hosts that calls open. -/
def hostNames (c : ServerConfig) (steps : List Step) : List String :=
  (steps.flatMap c.parts).filterMap Part.hostName?

variable {c c₀ d d' : ServerConfig} {p : Part} {ps : List Part} {u v : String → List String}

/-- One configuration is like another but for its document and for directives that each key has
before those of the other. -/
structure Extended (u : String → List String) (c₀ c : ServerConfig) : Prop where
  same : c = { c₀ with extras := c.extras, document := c.document }
  extras : ∀ key, (c.extras.get? key).getD [] = u key ++ (c₀.extras.get? key).getD []

theorem Extended.make (h : Extended u c₀ c) (hp : c.make p = .ok d) : Extended u c₀ d := by
  rw [make_eq_with_document hp]
  constructor
  case same =>
    rw [h.same]
  case extras => exact h.extras

theorem Extended.portOf (h : Extended u c₀ c) (host : Host) : c.portOf host = c₀.portOf host := by
  rw [h.same]
  rfl

/-- The lines that a host starts with, cut at the place of the extras. -/
theorem Extended.openingLines (h : Extended u c₀ c) (host : Host) :
    c.openingLines host = hostLines host ++ c₀.tlsLines host ++ u host.name ++
      ((c₀.extras.get? host.name).getD [] ++ c₀.protocolLines host) := by
  have htls : c.tlsLines host = c₀.tlsLines host := by
    rw [h.same]
    rfl
  have hprotocols : c.protocolLines host = c₀.protocolLines host := by
    rw [h.same]
    rfl
  unfold ServerConfig.openingLines
  rw [htls, hprotocols, h.extras]
  simp only [List.append_assoc]

/-- A part adds its pieces, filled. -/
theorem Extended.lines_make (h : Extended u c₀ c) (hp : c.make p = .ok d) :
    d.document.lines = c.document.lines ++
        (c₀.pieces c.document.depth p).flatMap (Piece.fill u) ∧
      d.document.depth = p.depthAfter c.document.depth := by
  obtain ⟨texts, rfl, rfl⟩ | ⟨name, aliases, port, root, withTls, rfl, rfl⟩ | ⟨rfl, -, rfl⟩ :=
    make_cases hp
  · refine ⟨?_, rfl⟩
    simp [pieces, Piece.fill, Document.add]
  · refine ⟨?_, rfl⟩
    rw [lines_openHost, h.openingLines, h.portOf]
    simp [pieces, Piece.fill, linesOf]
  · refine ⟨?_, rfl⟩
    rw [lines_closeHost]
    simp [pieces, Piece.fill]

theorem Extended.lines_made (h : Extended u c₀ c) (hps : Made c ps d) :
    d.document.lines = c.document.lines ++
      (c₀.skeleton c.document.depth ps).flatMap (Piece.fill u) := by
  induction hps with
  | nil => exact (List.append_nil _).symm
  | cons first _ ih =>
    obtain ⟨hlines, hdepth⟩ := h.lines_make first
    rw [ih (h.make first), hlines, hdepth, skeleton, List.flatMap_append, List.append_assoc]

theorem hostName?_of_mem_pieces {depth n : Nat} {key : String}
    (h : .extras n key ∈ c.pieces depth p) : p.hostName? = some key := by
  cases p with
  | add texts => simp [pieces] at h
  | startHost domains port root withTls =>
    cases domains with
    | nil => simp [pieces] at h
    | cons name aliases =>
      have hkey : key = name := by
        simp only [pieces, List.mem_cons, Piece.extras.injEq, List.not_mem_nil, reduceCtorEq,
          false_or, or_false] at h
        exact h.2
      rw [hkey]
      rfl
  | endHost => simp [pieces] at h

theorem hostName?_of_mem_skeleton {depth n : Nat} {key : String}
    (h : .extras n key ∈ c.skeleton depth ps) : ∃ p ∈ ps, p.hostName? = some key := by
  induction ps generalizing depth with
  | nil => simp [skeleton] at h
  | cons p ps ih =>
    obtain h | h := List.mem_append.mp h
    · exact ⟨p, List.mem_cons_self, hostName?_of_mem_pieces h⟩
    · obtain ⟨q, hq, hkey⟩ := ih h
      exact ⟨q, List.mem_cons_of_mem p hq, hkey⟩

/-- A skeleton is filled alike by extras that agree on the names of the hosts. -/
theorem fill_skeleton_congr {depth : Nat}
    (h : ∀ p ∈ ps, ∀ key, p.hostName? = some key → u key = v key) :
    (c.skeleton depth ps).flatMap (Piece.fill u) =
      (c.skeleton depth ps).flatMap (Piece.fill v) := by
  refine List.flatMap_congr fun x hx => ?_
  cases x with
  | fixed lines => rfl
  | extras n key =>
    obtain ⟨p, hp, hkey⟩ := hostName?_of_mem_skeleton hx
    rw [Piece.fill, Piece.fill, h p hp key hkey]

section Start

variable (e : Environment) (flavour : Flavour) (x : Option Extras)

theorem baseKey_ne_cgiHost : baseKey ≠ e.cgiHost := by
  intro h
  have hlist : baseKey.toList = "cgi".toList ++ ".".toList ++ e.domain.toList := by
    rw [h, Environment.cgiHost, Environment.host, String.toList_append, String.toList_append]
  have hhead := congrArg List.head? hlist
  simp [baseKey] at hhead

/-- The directives given for a key come before those that it has of the flavour. -/
theorem getD_get?_usedExtras (key : String) :
    ((usedExtras e flavour x).get? key).getD [] =
      directivesOf x key ++ ((usedExtras e flavour none).get? key).getD [] := by
  have hgetD : ∀ y : Option Extras, ((y.getD .empty).get? key).getD [] = directivesOf y key := by
    intro y
    cases y <;> rfl
  cases flavour with
  | plain => simp [usedExtras, hgetD]
  | http2 =>
    simp only [usedExtras, hgetD, directivesOf_merge, directivesOf_none, List.nil_append]

theorem extended_start :
    Extended (directivesOf x) (start e flavour none) (start e flavour x) :=
  ⟨rfl, getD_get?_usedExtras e flavour x⟩

theorem lines_start :
    (start e flavour x).document.lines = (linesOf (directivesOf x baseKey)).map (indent 0) := by
  have hbase : ((usedExtras e flavour x).get? baseKey).getD [] = directivesOf x baseKey := by
    rw [getD_get?_usedExtras]
    have hnone : ((usedExtras e flavour none).get? baseKey).getD [] = [] := by
      cases flavour with
      | plain => rfl
      | http2 =>
        change ((cgiExtras e).get? baseKey).getD [] = []
        rw [cgiExtras, get?_insert_of_ne (baseKey_ne_cgiHost e)]
        rfl
    rw [hnone, List.append_nil]
  rw [← hbase]
  rfl

end Start

/-- The calls that fit do not depend on the extras. -/
theorem history_start (e : Environment) (flavour : Flavour) (x : Option Extras)
    (steps : List Step) :
    (start e flavour x).history steps = (start e flavour none).history steps := by
  have henv : (start e flavour x).env = (start e flavour none).env := rfl
  have hdepth : (start e flavour x).document.depth = (start e flavour none).document.depth := rfl
  exact history_congr henv hdepth steps

theorem lines_foldl_step (e : Environment) (flavour : Flavour) (x : Option Extras)
    (steps : List Step) :
    (steps.foldl step (start e flavour x)).document.lines =
      (.extras 0 baseKey :: (start e flavour none).skeleton 0
        ((start e flavour none).history steps)).flatMap (Piece.fill (directivesOf x)) := by
  have hmade := made_history (start e flavour x) steps
  rw [history_start] at hmade
  rw [(extended_start e flavour x).lines_made hmade, lines_start, List.flatMap_cons]
  rfl

theorem depth_foldl_step (e : Environment) (flavour : Flavour) (x : Option Extras)
    (steps : List Step) :
    (steps.foldl step (start e flavour x)).document.depth =
      (steps.foldl step (start e flavour none)).document.depth := by
  have hx := (made_history (start e flavour x) steps).depth_add_closes
  have hnone := (made_history (start e flavour none) steps).depth_add_closes
  have hdepth : (start e flavour x).document.depth = (start e flavour none).document.depth := rfl
  rw [history_start] at hx
  omega

/-- Extras reach the hosts that they name and nothing else. Whatever calls are made, the document is
a skeleton that no extras change: without extras it is left empty, and extras that agree on the base
key and on the names of the hosts fill it alike. -/
theorem extras_confined (e : Environment) (flavour : Flavour) (steps : List Step) :
    let bare := start e flavour none
    let skeleton := .extras 0 baseKey :: bare.skeleton 0 (bare.history steps)
    (steps.foldl step bare).document.lines = skeleton.flatMap (Piece.fill fun _ => []) ∧
    (∀ x : Option Extras,
      (start e flavour x).history steps = bare.history steps ∧
      (steps.foldl step (start e flavour x)).document.lines =
        skeleton.flatMap (Piece.fill (directivesOf x))) ∧
    ∀ x y : Option Extras,
      (∀ key ∈ baseKey :: bare.hostNames steps, directivesOf x key = directivesOf y key) →
      (steps.foldl step (start e flavour x)).document =
        (steps.foldl step (start e flavour y)).document := by
  intro bare skeleton
  refine ⟨lines_foldl_step e flavour none steps, fun x => ⟨history_start e flavour x steps,
    lines_foldl_step e flavour x steps⟩, ?_⟩
  intro x y hagree
  have hdepth : (steps.foldl step (start e flavour x)).document.depth =
      (steps.foldl step (start e flavour y)).document.depth := by
    rw [depth_foldl_step e flavour x, depth_foldl_step e flavour y]
  have hbase : directivesOf x baseKey = directivesOf y baseKey :=
    hagree baseKey List.mem_cons_self
  have hhosts : ∀ p ∈ bare.history steps, ∀ key, p.hostName? = some key →
      directivesOf x key = directivesOf y key := by
    intro p hp key hkey
    refine hagree key (List.mem_cons_of_mem _ ?_)
    exact List.mem_filterMap.mpr ⟨p, mem_parts_of_mem_history hp, hkey⟩
  have hlines : (steps.foldl step (start e flavour x)).document.lines =
      (steps.foldl step (start e flavour y)).document.lines := by
    rw [lines_foldl_step, lines_foldl_step, List.flatMap_cons, List.flatMap_cons,
      fill_skeleton_congr hhosts, Piece.fill, Piece.fill, hbase]
  exact Document.eq_of_lines_eq hlines hdepth

/-- Directives for an alias change nothing. -/
theorem extras_confined_alias :
    let e := Environment.ofSettings {} "w" (some "tls") none
    let steps := [.startHost ["a.test", "b.test"] (some 80) "a" false, .endHost]
    let x := Extras.empty.append "a.test" ["x"]
    let y := x.append "b.test" ["y"]
    directivesOf (some x) "b.test" ≠ directivesOf (some y) "b.test" ∧
      (steps.foldl step (start e .http2 (some x))).document =
        (steps.foldl step (start e .http2 (some y))).document := by
  intro e steps x y
  exact ⟨by decide +kernel,
    (extras_confined e .http2 steps).2.2 (some x) (some y) (by decide +kernel)⟩

example : (List.foldl step (start (.ofSettings {} "w" (some "tls") none) .http2
      (some ((Extras.empty.append "base" ["Listen 1"]).append "a.test" ["x\ny", "z"])))
      [.endHost, .startHost ["a.test", "b.test"] (some 80) "a" false, .endHost,
        .startHost ["b.test", "a.test"] (some 80) "b" false]).document.lines =
    ["Listen 1", "", "<VirtualHost *:80>", "  ServerName a.test", "  ServerAlias b.test",
      "  DocumentRoot a", "  x", "  y", "  z", "  Protocols h2c http/1.1", "</VirtualHost>", "",
      "", "<VirtualHost *:80>", "  ServerName b.test", "  ServerAlias a.test", "  DocumentRoot b",
      "  Protocols h2c http/1.1"] := by
  decide +kernel

end ServerConfig

end WebTestbed
