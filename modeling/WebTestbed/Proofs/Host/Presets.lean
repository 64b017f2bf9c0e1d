import WebTestbed.Host.Install
import WebTestbed.Proofs.Directive.Assignment
import WebTestbed.Proofs.Host.Extras

/-! Configurations from presets: a preset adds the same lines wherever it stands, and leaves no block
open. -/
namespace WebTestbed.ServerConfig
open Document Extras

variable {c : ServerConfig} {lines : List String}

/-- The configuration with more lines before its own. -/
def after (c : ServerConfig) (lines : List String) : ServerConfig :=
  { c with document := ⟨lines ++ c.document.lines, c.document.depth⟩ }

/-- The configuration with the given lines only, and no block open. -/
def withLines (c : ServerConfig) (lines : List String) : ServerConfig :=
  { c with document := ⟨lines, 0⟩ }

/-- The lines that a preset adds where no block is open. -/
def presetLines (c : ServerConfig) (p : Preset) : List String :=
  ((c.withLines []).addPreset p).document.lines

@[simp] theorem env_after (c : ServerConfig) (lines : List String) : (c.after lines).env = c.env :=
  rfl

@[simp] theorem add_after (c : ServerConfig) (lines texts : List String) :
    (c.after lines).add texts = (c.add texts).after lines := by
  simp [after, add, Document.add]

@[simp] theorem openHost_after (c : ServerConfig) (lines : List String) (h : Host) :
    (c.after lines).openHost h = (c.openHost h).after lines := by
  have hopening : (c.after lines).openingLines h = c.openingLines h := rfl
  have hport : (c.after lines).portOf h = c.portOf h := rfl
  unfold openHost
  rw [hopening, hport]
  simp [after, Document.add, push]

@[simp] theorem closeHost_after (c : ServerConfig) (lines : List String) :
    (c.after lines).closeHost = c.closeHost.after lines := by
  simp [after, closeHost, Document.add, leave]

@[simp] theorem addHostWith_after (c : ServerConfig) (lines : List String) (h : Host)
    (texts : List String) :
    (c.after lines).addHostWith h texts = (c.addHostWith h texts).after lines := by
  simp [addHostWith]

/-- A preset depends on none of the lines that are there before it. -/
theorem addPreset_after (c : ServerConfig) (lines : List String) (p : Preset) :
    (c.after lines).addPreset p = (c.addPreset p).after lines := by
  cases p <;> simp [addPreset]

theorem depth_addPreset (c : ServerConfig) (p : Preset) :
    (c.addPreset p).document.depth = c.document.depth :=
  depth_step_of_balanced (s := .addPreset p) (balanced_presetParts c.env p)

theorem addPreset_withLines (c : ServerConfig) (lines : List String) (p : Preset) :
    (c.withLines lines).addPreset p = c.withLines (lines ++ c.presetLines p) := by
  have hbare : (c.withLines []).addPreset p = c.withLines (c.presetLines p) := by
    have hdepth : ((c.withLines []).addPreset p).document = ⟨c.presetLines p, 0⟩ := by
      have h := depth_addPreset (c.withLines []) p
      exact congrArg (Document.mk _) h
    rw [(made_presetParts (c.withLines []) p).eq_with_document, hdepth]
    rfl
  have hafter : c.withLines lines = (c.withLines []).after lines := by
    simp [withLines, after]
  rw [hafter, addPreset_after, hbare]
  simp [withLines, after]

theorem foldl_addPreset_withLines (c : ServerConfig) (lines : List String)
    (presets : List Preset) :
    presets.foldl addPreset (c.withLines lines) =
      c.withLines (lines ++ presets.flatMap c.presetLines) := by
  induction presets generalizing lines with
  | nil => rw [List.flatMap_nil, List.append_nil, List.foldl_nil]
  | cons p presets ih =>
    rw [List.foldl_cons, addPreset_withLines, ih, List.flatMap_cons, List.append_assoc]

theorem map_indent_zero (lines : List String) : lines.map (indent 0) = lines :=
  (List.map_congr_left fun _ _ => String.empty_append).trans (List.map_id lines)

theorem start_eq_withLines (e : Environment) (flavour : Flavour) (x : Option Extras) :
    start e flavour x = (start e flavour x).withLines (linesOf (directivesOf x baseKey)) := by
  have hlines := lines_start e flavour x
  rw [map_indent_zero] at hlines
  rw [← hlines]
  rfl

/-- The server-wide lines that assignments give. -/
def baseLines (assignments : List String) : List String :=
  linesOf (assignments.filterMap (directiveFor? baseKey))

/-- The configuration from presets has the server-wide lines, and then those of each preset. -/
theorem ofPresets_eq_ok (e : Environment) (flavour : Flavour) {assignments : List String}
    (h : ∀ s ∈ assignments, IsAssignment s) :
    ∃ c : ServerConfig, ∀ presets, ofPresets e presets assignments flavour =
      .ok (c.withLines (baseLines assignments ++ presets.flatMap c.presetLines)) := by
  obtain ⟨x, hx, hkeys⟩ := ofAssignments_eq_ok h
  let c := start e flavour (if x.isEmpty then none else some x)
  have hbase : directivesOf (if x.isEmpty then none else some x) baseKey =
      assignments.filterMap (directiveFor? baseKey) := by
    rw [directivesOf_ite_isEmpty, hkeys]
  refine ⟨c, fun presets => ?_⟩
  have hpresets : ofPresets e presets assignments flavour = .ok (presets.foldl addPreset c) := by
    rw [ofPresets, hx]
    rfl
  have hstart : c = c.withLines (baseLines assignments) := by
    rw [baseLines, ← hbase]
    exact start_eq_withLines e flavour _
  rw [hpresets, ← foldl_addPreset_withLines, ← hstart]

theorem ofPresets_eq_error_iff (e : Environment) (flavour : Flavour) (presets : List Preset)
    (assignments : List String) (fault : InvalidAssignment) :
    ofPresets e presets assignments flavour = .error fault ↔ FirstInvalid assignments fault := by
  rw [← ofAssignments_eq_error_iff, ofPresets]
  cases ofAssignments assignments <;> simp [bind, Except.bind, pure, Except.pure]

example : (ofPresets (.ofSettings {} "w" none none) [.noh2] ["base=x", " =y", "z"] .plain).map
    (·.document.lines) = .error ⟨" =y"⟩ :=
  rfl

theorem install_ne_unclosedBlocks (h : c.document.depth = 0) (t : FileTree) (n : Nat) :
    c.install t ≠ .error (.unclosedBlocks n) := by
  rw [install, if_pos h]
  cases t.write c.env.testConfFile (Utf8.encode c.installedText) <;> simp [Except.mapError]

/-- A configuration from presets fails with the first text that is no assignment. Otherwise it leaves
no block open, and consists of the server-wide lines and of those of each preset, which are the same
wherever and however often it stands. -/
theorem ofPresets_piecewise (e : Environment) (flavour : Flavour) (assignments : List String) :
    (∀ presets fault, ofPresets e presets assignments flavour = .error fault ↔
      FirstInvalid assignments fault) ∧
    ((∀ s ∈ assignments, IsAssignment s) →
      ∃ piece : Preset → List String, ∀ presets, ∃ c,
        ofPresets e presets assignments flavour = .ok c ∧
        c.document.depth = 0 ∧ (∀ t n, c.install t ≠ .error (.unclosedBlocks n)) ∧
        c.document.lines = baseLines assignments ++ presets.flatMap piece ∧
        ∀ later, ∃ d b, ofPresets e later assignments flavour = .ok d ∧
          ofPresets e (presets ++ later) assignments flavour = .ok b ∧
          b.document.lines =
            c.document.lines ++ d.document.lines.drop (baseLines assignments).length) := by
  refine ⟨fun presets fault => ofPresets_eq_error_iff e flavour presets assignments fault, ?_⟩
  intro hvalid
  obtain ⟨c, hc⟩ := ofPresets_eq_ok e flavour hvalid
  refine ⟨c.presetLines, fun presets => ⟨_, hc presets, rfl, ?_, rfl, fun later => ?_⟩⟩
  · exact install_ne_unclosedBlocks rfl
  · refine ⟨_, _, hc later, hc (presets ++ later), ?_⟩
    simp [withLines]

/-- The same preset before and after another. -/
theorem ofPresets_piecewise_twice :
    let e := Environment.ofSettings {} "w" (some "tls") none
    let assignments := ["base=Listen 1", " a.test = x"]
    (∀ s ∈ assignments, IsAssignment s) ∧
      ofPresets e [.noh2] ("none" :: assignments) .http2 = .error ⟨"none"⟩ ∧
      ∃ c d b, ofPresets e [.noh2] assignments .http2 = .ok c ∧ c.document.depth = 0 ∧
        (∀ t n, c.install t ≠ .error (.unclosedBlocks n)) ∧
        ofPresets e [.test2, .noh2] assignments .http2 = .ok d ∧
        ofPresets e [.noh2, .test2, .noh2] assignments .http2 = .ok b ∧
        b.document.lines = c.document.lines ++ d.document.lines.drop 1 := by
  intro e assignments
  have hvalid : ∀ s ∈ assignments, IsAssignment s := by
    have hbase : IsAssignment "base=Listen 1" :=
      ⟨"base".toList, "Listen 1".toList, rfl, by decide, 'b', by decide, by decide⟩
    have hhost : IsAssignment " a.test = x" :=
      ⟨" a.test ".toList, " x".toList, rfl, by decide, 'a', by decide, by decide⟩
    simp [assignments, hbase, hhost]
  have hinvalid : FirstInvalid ("none" :: assignments) ⟨"none"⟩ := by
    refine ⟨[], assignments, rfl, nofun, ?_⟩
    rintro ⟨key, directive, htext, -⟩
    have hequals : '=' ∈ "none".toList := htext ▸ by simp
    exact absurd hequals (by decide)
  obtain ⟨herror, hok⟩ := ofPresets_piecewise e .http2 ("none" :: assignments)
  refine ⟨hvalid, (herror [.noh2] ⟨"none"⟩).mpr hinvalid, ?_⟩
  obtain ⟨piece, hpiece⟩ := (ofPresets_piecewise e .http2 assignments).2 hvalid
  obtain ⟨c, hc, hdepth, hinstall, -, hlater⟩ := hpiece [.noh2]
  obtain ⟨d, b, hd, hb, hlines⟩ := hlater [.test2, .noh2]
  exact ⟨c, d, b, hc, hdepth, hinstall, hd, hb, hlines⟩

end WebTestbed.ServerConfig
