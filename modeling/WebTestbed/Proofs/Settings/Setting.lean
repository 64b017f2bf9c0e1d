import WebTestbed.Proofs.Files.FileTree
import WebTestbed.Proofs.Settings.Node
import WebTestbed.Proofs.Text.Basic

/-! The settings one by one: where a settings file has each, and what is loaded for it. -/
namespace WebTestbed

inductive Setting where
  | installDir
  | binDir
  | apxs
  | apachectl
  | curl
  | nghttp
  | h2load
  | httpPort
  | httpsPort
  | proxyPort
  | domain
  | testDir
  | genDir
  | sharedModules
  | staticModules
  | moduleDir
  deriving DecidableEq, Repr

namespace Setting

/-- The section that has the setting. -/
def sectionName : Setting → String
  | installDir | binDir | apxs | apachectl | curl | nghttp | h2load => "global"
  | httpPort | httpsPort | proxyPort | domain | testDir | genDir => "test"
  | sharedModules | staticModules | moduleDir => "httpd"

/-- The key of the setting in its section. -/
def key : Setting → String
  | installDir => "prefix"
  | binDir => "bindir"
  | apxs => "apxs"
  | apachectl => "apachectl"
  | curl => "curl_bin"
  | nghttp => "nghttp"
  | h2load => "h2load"
  | httpPort => "http_port"
  | httpsPort => "https_port"
  | proxyPort => "proxy_port"
  | domain => "http_tld"
  | testDir => "test_dir"
  | genDir => "gen_dir"
  | sharedModules => "dso_modules"
  | staticModules => "static_modules"
  | moduleDir => "libexecdir"

def isPort : Setting → Bool
  | httpPort | httpsPort | proxyPort => true
  | _ => false

inductive Value where
  | text (s : String)
  | number (n : Nat)
  deriving DecidableEq, Repr

/-- A value as it is written. -/
def Value.write : Value → String
  | text s => s
  | number n => toString n

/-- What a text is read as: for a port the low 16 bits of its number. -/
def read? (x : Setting) (v : String) : Option Value :=
  if x.isPort then (Settings.number? v).map fun n => .number (n % 65536) else some (.text v)

/-- No two settings have the same key. -/
theorem key_injective : Function.Injective key := by
  intro x y h
  cases x <;> cases y <;> first | rfl | exact absurd h (by decide)

end Setting

namespace Settings

def sectionNames : List String := ["global", "test", "httpd"]

theorem sectionName_mem (x : Setting) : x.sectionName ∈ sectionNames := by
  cases x <;> decide

/-- The value of a setting. -/
def get (s : Settings) : Setting → Setting.Value
  | .installDir => .text s.programs.installDir
  | .binDir => .text s.programs.binDir
  | .apxs => .text s.programs.apxs
  | .apachectl => .text s.programs.apachectl
  | .curl => .text s.programs.curl
  | .nghttp => .text s.programs.nghttp
  | .h2load => .text s.programs.h2load
  | .httpPort => .number s.test.httpPort.toNat
  | .httpsPort => .number s.test.httpsPort.toNat
  | .proxyPort => .number s.test.proxyPort.toNat
  | .domain => .text s.test.domain
  | .testDir => .text s.test.testDir
  | .genDir => .text s.test.genDir
  | .sharedModules => .text s.server.sharedModules
  | .staticModules => .text s.server.staticModules
  | .moduleDir => .text s.server.moduleDir

variable {n m : Node} {s : Settings} {name key v : String} {fs : List (String × Node)}

theorem readSection_eq_ok_iff :
    readSection n name = .ok m ↔ ∃ fs, n.get? name = some (.table fs) ∧ .table fs = m := by
  unfold readSection
  constructor
  · intro h
    split at h
    · next fs hfs => exact ⟨fs, hfs, Except.ok.inj h⟩
    · cases h
    · cases h
  · rintro ⟨fs, hfs, rfl⟩
    rw [hfs]

theorem readString_eq_ok_iff : readString name n key = .ok v ↔ n.get? key = some (.text v) := by
  unfold readString
  constructor
  · intro h
    split at h
    · next s hs => rw [hs, Except.ok.inj h]
    · cases h
    · cases h
  · intro h
    rw [h]

theorem readPort_eq_ok_iff {u : UInt16} : readPort name n key = .ok u ↔
    ∃ v, n.get? key = some (.text v) ∧ (number? v).map (· % 65536) = some u.toNat := by
  unfold readPort
  rw [bind_eq_ok_iff]
  simp only [readString_eq_ok_iff]
  refine exists_congr fun v => and_congr_right fun _ => ?_
  cases number? v with
  | none => simp
  | some k => simp [pure, Except.pure, ← UInt16.toNat_inj]

theorem read?_of_not_isPort {x : Setting} (hx : x.isPort = false) : x.read? v = some (.text v) := by
  rw [Setting.read?, hx]
  rfl

theorem read?_eq_number_iff {x : Setting} (hx : x.isPort = true) {k : Nat} :
    x.read? v = some (.number k) ↔ (number? v).map (· % 65536) = some k := by
  rw [Setting.read?, if_pos hx, Option.map_eq_some_iff, Option.map_eq_some_iff]
  simp only [Setting.Value.number.injEq]

theorem lowercase_of_isDigit (h : ∀ c ∈ v.toList, c.isDigit = true) : Text.lowercase v = v := by
  rw [← String.toList_inj, Text.toList_lowercase]
  refine (List.map_congr_left fun c hc => ?_).trans (List.map_id _)
  have hdigit : 48 ≤ c.toNat ∧ c.toNat ≤ 57 := by
    simpa [Char.isDigit, UInt32.le_iff_toNat_le] using h c hc
  have hlower := Text.toNat_toLower c
  rw [if_neg (by omega)] at hlower
  exact Char.toNat_inj.mp hlower

/-- A numeral of more than 64 bits stands for no number. -/
theorem number?_of_read? {k : Nat} (h : Numeral.read? v.toList = some k) :
    number? v = if k ≤ Numeral.max64 then some k else none := by
  have hdigits := Numeral.isDigit_of_read? h
  have hword (w : String) (hw : w.toList.all Char.isDigit = false) : v ≠ w := by
    rintro rfl
    rw [List.all_eq_true.mpr hdigits] at hw
    cases hw
  unfold number?
  rw [lowercase_of_isDigit hdigits, if_neg, if_neg, Numeral.signedRead?_of_read? h]
  · simp [hword "false" (by decide), hword "off" (by decide), hword "no" (by decide)]
  · simp [hword "true" (by decide), hword "on" (by decide), hword "yes" (by decide)]

theorem read?_of_numeral {x : Setting} (hx : x.isPort = true) {k : Nat}
    (h : Numeral.read? v.toList = some k) :
    x.read? v = if k ≤ Numeral.max64 then some (.number (k % 65536)) else none := by
  rw [Setting.read?, if_pos hx, number?_of_read? h]
  split <;> rfl

theorem read?_toString (n : Nat) : Numeral.read? (toString n).toList = some n := by
  rw [Nat.toString_eq_repr, Nat.toList_repr]
  exact Numeral.read?_toDigits n

/-- The settings of a record are read as they are written. -/
theorem read?_write (s : Settings) (x : Setting) : x.read? (s.get x).write = some (s.get x) := by
  have port (u : UInt16) (hx : x.isPort = true) :
      x.read? (toString u.toNat) = some (.number u.toNat) := by
    have hu : u.toNat ≤ 65535 := Nat.le_of_lt_succ u.toNat_lt
    rw [read?_of_numeral hx (read?_toString _), if_pos (hu.trans (by decide)),
      Nat.mod_eq_of_lt u.toNat_lt]
  cases x
  case httpPort => exact port s.test.httpPort rfl
  case httpsPort => exact port s.test.httpsPort rfl
  case proxyPort => exact port s.test.proxyPort rfl
  all_goals rfl

theorem at?_toNode (s : Settings) (x : Setting) :
    (toNode s).at? x.sectionName x.key = some (.text (s.get x).write) := by
  cases x <;> rfl

theorem get?_toNode (s : Settings) (hname : name ∈ sectionNames) :
    ∃ fs, (toNode s).get? name = some (.table fs) := by
  simp only [sectionNames, List.mem_cons, List.not_mem_nil, or_false] at hname
  obtain rfl | rfl | rfl := hname <;> exact ⟨_, rfl⟩

/-- Settings are loaded if each section is there and each setting is a text that can be read. -/
theorem ofNode_eq_ok_iff : ofNode n = .ok s ↔
    (∀ name ∈ sectionNames, ∃ fs, n.get? name = some (.table fs)) ∧
    ∀ x : Setting, ∃ v, n.at? x.sectionName x.key = some (.text v) ∧
      x.read? v = some (s.get x) := by
  unfold ofNode
  simp only [bind_eq_ok_iff, readSection_eq_ok_iff, readString_eq_ok_iff, readPort_eq_ok_iff]
  constructor
  · rintro ⟨_, ⟨g, hg, rfl⟩, _, ⟨t, ht, rfl⟩, _, ⟨h, hh, rfl⟩, installDir, h₁, binDir, h₂, apxs, h₃,
      apachectl, h₄, curl, h₅, nghttp, h₆, h2load, h₇, httpPort, ⟨v₈, h₈, hp₈⟩, httpsPort,
      ⟨v₉, h₉, hp₉⟩, proxyPort, ⟨v₁₀, h₁₀, hp₁₀⟩, domain, h₁₁, testDir, h₁₂, genDir, h₁₃,
      sharedModules, h₁₄, staticModules, h₁₅, moduleDir, h₁₆, hs⟩
    cases hs
    constructor
    · simp only [sectionNames, List.forall_mem_cons, List.not_mem_nil, false_implies, implies_true,
        and_true]
      exact ⟨⟨g, hg⟩, ⟨t, ht⟩, ⟨h, hh⟩⟩
    · intro x
      cases x <;>
        simp only [Setting.sectionName, Setting.key, Node.at?, hg, ht, hh, Option.bind_some]
      case httpPort => exact ⟨v₈, h₈, (read?_eq_number_iff rfl).mpr hp₈⟩
      case httpsPort => exact ⟨v₉, h₉, (read?_eq_number_iff rfl).mpr hp₉⟩
      case proxyPort => exact ⟨v₁₀, h₁₀, (read?_eq_number_iff rfl).mpr hp₁₀⟩
      all_goals exact ⟨_, by assumption, rfl⟩
  · rintro ⟨hsections, hall⟩
    obtain ⟨g, hg⟩ := hsections "global" (by decide)
    obtain ⟨t, ht⟩ := hsections "test" (by decide)
    obtain ⟨h, hh⟩ := hsections "httpd" (by decide)
    have text {x : Setting} {m : Node} {v : String} (hm : n.get? x.sectionName = some m)
        (hx : x.isPort = false) (hv : s.get x = .text v) : m.get? x.key = some (.text v) := by
      obtain ⟨w, hw, hread⟩ := hall x
      rw [Node.at?_eq_of_get? hm] at hw
      rw [read?_of_not_isPort hx, hv] at hread
      cases hread
      exact hw
    have port {x : Setting} {m : Node} {k : Nat} (hm : n.get? x.sectionName = some m)
        (hx : x.isPort = true) (hk : s.get x = .number k) :
        ∃ v, m.get? x.key = some (.text v) ∧ (number? v).map (· % 65536) = some k := by
      obtain ⟨w, hw, hread⟩ := hall x
      rw [Node.at?_eq_of_get? hm] at hw
      rw [hk, read?_eq_number_iff hx] at hread
      exact ⟨w, hw, hread⟩
    exact ⟨_, ⟨g, hg, rfl⟩, _, ⟨t, ht, rfl⟩, _, ⟨h, hh, rfl⟩,
      _, text (x := .installDir) hg rfl rfl, _, text (x := .binDir) hg rfl rfl,
      _, text (x := .apxs) hg rfl rfl, _, text (x := .apachectl) hg rfl rfl,
      _, text (x := .curl) hg rfl rfl, _, text (x := .nghttp) hg rfl rfl,
      _, text (x := .h2load) hg rfl rfl, _, port (x := .httpPort) ht rfl rfl,
      _, port (x := .httpsPort) ht rfl rfl, _, port (x := .proxyPort) ht rfl rfl,
      _, text (x := .domain) ht rfl rfl, _, text (x := .testDir) ht rfl rfl,
      _, text (x := .genDir) ht rfl rfl, _, text (x := .sharedModules) hh rfl rfl,
      _, text (x := .staticModules) hh rfl rfl, _, text (x := .moduleDir) hh rfl rfl, rfl⟩

theorem exists_ofNode_eq_ok {value : Setting → Setting.Value}
    (hsections : ∀ name ∈ sectionNames, ∃ fs, n.get? name = some (.table fs))
    (h : ∀ x : Setting, ∃ v, n.at? x.sectionName x.key = some (.text v) ∧
      x.read? v = some (value x)) : ∃ s, ofNode n = .ok s ∧ s.get = value := by
  have asText : ∀ x : Setting, x.isPort = false → ∃ v, .text v = value x := by
    intro x hx
    obtain ⟨v, -, hread⟩ := h x
    rw [read?_of_not_isPort hx] at hread
    exact ⟨_, Option.some.inj hread⟩
  have asPort : ∀ x : Setting, x.isPort = true → ∃ u : UInt16, .number u.toNat = value x := by
    intro x hx
    obtain ⟨v, -, hread⟩ := h x
    rw [Setting.read?, if_pos hx] at hread
    obtain ⟨k, -, hk⟩ := Option.map_eq_some_iff.mp hread
    refine ⟨.ofNat (k % 65536), ?_⟩
    rw [UInt16.toNat_ofNat', Nat.mod_mod]
    exact hk
  choose t ht using asText
  choose u hu using asPort
  let s : Settings := {
    programs := {
      installDir := t .installDir rfl
      binDir := t .binDir rfl
      apxs := t .apxs rfl
      apachectl := t .apachectl rfl
      curl := t .curl rfl
      nghttp := t .nghttp rfl
      h2load := t .h2load rfl }
    test := {
      httpPort := u .httpPort rfl
      httpsPort := u .httpsPort rfl
      proxyPort := u .proxyPort rfl
      domain := t .domain rfl
      testDir := t .testDir rfl
      genDir := t .genDir rfl }
    server := {
      sharedModules := t .sharedModules rfl
      staticModules := t .staticModules rfl
      moduleDir := t .moduleDir rfl } }
  have hget : s.get = value := by
    funext x
    cases x
    case httpPort | httpsPort | proxyPort => exact hu _ rfl
    all_goals exact ht _ rfl
  exact ⟨s, ofNode_eq_ok_iff.mpr ⟨hsections, fun x => hget ▸ h x⟩, hget⟩

end Settings

end WebTestbed
