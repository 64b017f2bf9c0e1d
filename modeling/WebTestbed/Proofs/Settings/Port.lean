import WebTestbed.Proofs.Settings.Load

/-! The ports of a settings file: how much of the number that is written there is loaded. -/
namespace WebTestbed.Settings

variable {t : FileTree} {p : Path} {file : Ini.Sections} {x : Setting} {v text : String} {n : Nat}

/-- A settings file that names one setting. -/
def single (x : Setting) (v : String) : SettingsFile where
  sections := [(x.sectionName, [(x, v)])]
  names := by simpa using sectionName_mem x
  sections_nodup := List.nodup_singleton _
  home := by simp
  settings_nodup := by simp

theorem load_single_port (htext : t.readText (fileOf t p) = .ok (single x v).text)
    (hx : x.isPort = true) (hv : Numeral.read? v.toList = some n) (hn : n ≤ Numeral.max64) :
    ∃ s, load t p = .ok s ∧ s.get x = .number (n % 65536) := by
  have hgiven : (single x v).given = [(x, v)] := by simp [SettingsFile.given, single]
  have hread : x.read? v = some (.number (n % 65536)) := by rw [read?_of_numeral hx hv, if_pos hn]
  obtain ⟨s, hs, hget⟩ := SettingsFile.exists_load_eq_ok htext
    (by simpa [hgiven] using isValue_of_read? hv) (by simp [hgiven, hread])
  have hx := (hget x).1 v (by simp [hgiven])
  exact ⟨s, hs, (Option.some.inj (hread.symm.trans hx)).symm⟩

/-- A port is loaded as it is written up to 16 bits. Above, the low 16 bits of the number are
loaded, and nothing is loaded if the number has more than 64 bits. -/
theorem load_port_low_bits (htext : t.readText (fileOf t p) = .ok text)
    (hfile : Ini.read text.toList = .ok file) (hx : x.isPort = true) (hgives : Gives file x v)
    (hv : Numeral.read? v.toList = some n) :
    (n ≤ 65535 → ∀ s, load t p = .ok s → s.get x = .number n) ∧
    (65535 < n → n ≤ Numeral.max64 → ∀ s, load t p = .ok s →
      s.get x = .number (n % 65536) ∧ s.get x ≠ .number n) ∧
    (Numeral.max64 < n → ∃ e, load t p = .error e) := by
  have hread (s : Settings) (hload : load t p = .ok s) :
      (if n ≤ Numeral.max64 then some (.number (n % 65536)) else none) = some (s.get x) := by
    rw [load_eq htext hfile] at hload
    obtain ⟨w, hw, hread⟩ := (ofNode_eq_ok_iff.mp hload).2 x
    rw [hgives.at?_overlaid] at hw
    cases hw
    rwa [read?_of_numeral hx hv] at hread
  have hlow (hn : n ≤ Numeral.max64) (s : Settings) (hload : load t p = .ok s) :
      s.get x = .number (n % 65536) := by
    have hs := hread s hload
    rw [if_pos hn] at hs
    exact (Option.some.inj hs).symm
  refine ⟨?_, ?_, ?_⟩
  · intro hn s hload
    rw [hlow (hn.trans (by decide)) s hload, Nat.mod_eq_of_lt (Nat.lt_succ_of_le hn)]
  · intro hn hlt s hload
    rw [hlow hlt s hload]
    refine ⟨rfl, fun h => ?_⟩
    have hsame : n % 65536 = n := Setting.Value.number.inj h
    omega
  · intro hn
    cases hload : load t p with
    | error e => exact ⟨e, rfl⟩
    | ok s =>
      have hs := hread s hload
      rw [if_neg (Nat.not_le.mpr hn)] at hs
      cases hs

theorem load_port_low_bits_above : ∃ s, load (treeOf (single .httpsPort "70000").text) "c" = .ok s ∧
    s.get .httpsPort = .number 4464 := by
  have hvalue : ∀ e ∈ (single .httpsPort "70000").given, Ini.IsValue e.2 := by
    simpa [SettingsFile.given, single] using isValue_of_read? (n := 70000) (by decide)
  have htext : (treeOf (single .httpsPort "70000").text).readText
      (fileOf (treeOf (single .httpsPort "70000").text) "c") =
        .ok (single .httpsPort "70000").text := by
    decide +kernel
  obtain ⟨s, hs, -⟩ := load_single_port (n := 70000) htext rfl (by decide) (by decide)
  have hgives : Gives ⟨[], (single .httpsPort "70000").ini⟩ .httpsPort "70000" :=
    SettingsFile.gives (by decide)
  have hranges := load_port_low_bits (n := 70000) htext (SettingsFile.read_text hvalue) rfl hgives
    (by decide)
  exact ⟨s, hs, (hranges.2.1 (by decide) (by decide) s hs).1⟩

/-- A port of more than 16 bits is loaded as another port. -/
theorem load_port_wraps : ∃ s, load (treeOf "[test]\nhttp_port = 65536\n") "c" = .ok s ∧
    s.get .httpPort = .number 0 := by
  have hfile : "[test]\nhttp_port = 65536\n" = (single .httpPort "65536").text := by decide
  have htext : (treeOf "[test]\nhttp_port = 65536\n").readText
      (fileOf (treeOf "[test]\nhttp_port = 65536\n") "c") = .ok "[test]\nhttp_port = 65536\n" := by
    decide +kernel
  obtain ⟨s, hs, hport⟩ := load_single_port (n := 65536) (htext.trans (congrArg Except.ok hfile))
    rfl (by decide) (by decide)
  exact ⟨s, hs, hport⟩

end WebTestbed.Settings
