import WebTestbed.Host.Install
import WebTestbed.Proofs.Files.Removal
import WebTestbed.Proofs.Files.Walk
import WebTestbed.Proofs.Host.Nesting

/-! Configurations that are installed: one replaces what was there as a whole, or nothing changes. -/
namespace WebTestbed

namespace FileTree

variable {t u : FileTree} {p : Path} {l : Location} {n : FileNode}

theorem erase_set : (t.set l n).erase l = t.erase l := by
  unfold erase set
  rw [assign_eq_putAt, filter_putAt]

/-- What a write changes is the file that it is about. -/
theorem sameBut_of_write {content : Bytes} (h : t.write p content = .ok u) : SameBut p t u := by
  obtain ⟨⟨l, old, x⟩, hw, hu⟩ := bind_eq_ok_iff.mp h
  obtain ⟨hl, hslash, hn⟩ := writable_cases hw
  have hfile : t.node? l ≠ some .directory := by
    obtain ⟨hn, -⟩ | hn := hn <;> rw [hn] <;> simp
  obtain rfl : t.set l (.file content x) = u := Except.ok.inj hu
  have hl' : (t.set l (.file content x)).locate p = .ok l :=
    (sameDirectories_set_file hfile).locate_eq_ok hl
  have hnode : (t.set l (.file content x)).node? l = some (.file content x) :=
    node?_set_self (ne_nil_of_node?_ne hfile)
  have ht : t.isDirectory p = false := by
    rw [Bool.eq_false_iff, Ne, isDirectory_iff]
    rintro ⟨htext, m, hway, hm⟩
    have hfind := find_eq_ok_directory.mpr ⟨htext, hway, hm⟩
    obtain ⟨l₀, hl₀, -⟩ := bind_eq_ok_iff.mp hfind
    rw [eq_place_of_way? hway, ← eq_place_of_locate hl] at hm
    exact hfile hm
  refine .inr ⟨ht, ?_, ?_⟩
  · simp [isDirectory, found?, find_of_file hl' hnode hslash, FileNode.isDirectory]
  · rw [without_of_locate hl, without_of_locate hl', erase_set]

end FileTree

namespace ServerConfig
open FileTree

/-- How a configuration came about: its environment, flavour and extras, and the calls made on it. -/
structure Build where
  env : Environment
  flavour : Flavour
  extras : Option Extras
  steps : List Step

/-- The configuration for the server in the given directory. -/
def Build.result (dir : Path) (b : Build) : ServerConfig :=
  b.steps.foldl step (start { b.env with serverDir := dir } b.flavour b.extras)

/-- The files after an attempt to install a configuration. -/
def installed (t : FileTree) (c : ServerConfig) : FileTree :=
  match c.install t with
  | .ok u => u
  | .error _ => t

/-- The server-wide lines and the printed document, as bytes. -/
def installedBytes (c : ServerConfig) : Bytes :=
  Utf8.encode (Text.joinWith "\n" c.env.baseConf) ++ Utf8.encode "\n" ++ Utf8.encode c.document.text

/-- What installing a configuration does to files. -/
structure Installs (c : ServerConfig) (t : FileTree) : Prop where
  refused : c.document.depth ≠ 0 →
    c.install t = .error (.unclosedBlocks c.document.depth) ∧ installed t c = t
  /-- Without the directory of the configuration nothing is made. -/
  missing : c.document.depth = 0 → t.isDirectory c.env.confDir = false →
    (∃ e, c.install t = .error (.file e)) ∧ installed t c = t
  occupied : c.document.depth = 0 → t.isDirectory c.env.testConfFile = true →
    c.install t = .error (.file .isADirectory) ∧ installed t c = t
  /-- Otherwise the file is replaced, whatever it held, and nothing else changes. -/
  replaced : c.document.depth = 0 → t.isDirectory c.env.confDir = true →
    t.isDirectory c.env.testConfFile = false →
    ∃ u, c.install t = .ok u ∧ installed t c = u ∧
      u.read c.env.testConfFile = .ok c.installedBytes ∧ SameBut c.env.testConfFile t u

variable {c : ServerConfig} {t u : FileTree}

theorem encode_append (a b : String) : Utf8.encode (a ++ b) = Utf8.encode a ++ Utf8.encode b := by
  rw [Utf8.encode, String.toList_append, Utf8.encodeChars, List.flatMap_append]
  rfl

theorem encode_installedText (c : ServerConfig) :
    Utf8.encode c.installedText = c.installedBytes := by
  simp only [installedText, installedBytes, Document.text, encode_append, List.append_assoc]

theorem isName_testConf : Path.IsName "test.conf" := by
  constructor <;> decide

theorem isName_conf : Path.IsName "conf" := by
  constructor <;> decide

theorem locate_testConfFile {l : Location} :
    t.locate c.env.testConfFile = .ok l ↔
      ∃ m, t.way? c.env.confDir = some m ∧ l = m ++ ["test.conf"] :=
  locate_join_eq_ok isName_testConf

theorem endsInSlash_testConfFile (e : Environment) : e.testConfFile.endsInSlash = false := by
  rw [Environment.testConfFile, Path.endsInSlash_join _ (by decide)]
  exact isName_testConf.endsInSlash_eq

theorem installed_of_error {e : InstallError} (h : c.install t = .error e) : installed t c = t := by
  rw [installed, h]

theorem installed_of_ok (h : c.install t = .ok u) : installed t c = u := by
  rw [installed, h]

theorem install_of_write (hdepth : c.document.depth = 0) :
    c.install t = (t.write c.env.testConfFile c.installedBytes).mapError .file := by
  rw [install, if_pos hdepth, encode_installedText]

theorem install_of_not_isDirectory (hdepth : c.document.depth = 0)
    (h : t.isDirectory c.env.confDir = false) : ∃ e, c.install t = .error (.file e) := by
  have hlocate : ∀ l, t.locate c.env.testConfFile ≠ .ok l := by
    intro l hl
    obtain ⟨m, hm, -⟩ := locate_testConfFile.mp hl
    rw [Bool.eq_false_iff, Ne, Environment.confDir, isDirectory_join_iff isName_conf] at h
    exact h ⟨m, hm⟩
  rw [install_of_write hdepth]
  cases hl : t.locate c.env.testConfFile with
  | ok l => exact absurd hl (hlocate l)
  | error e =>
    exact ⟨e, by simp [write, writable, hl, bind, Except.bind, Except.mapError]⟩

theorem install_of_isDirectory (hdepth : c.document.depth = 0)
    (h : t.isDirectory c.env.testConfFile = true) :
    c.install t = .error (.file .isADirectory) := by
  obtain ⟨htext, l, hway, hn⟩ := isDirectory_iff.mp h
  obtain ⟨l₀, hl, -⟩ := bind_eq_ok_iff.mp (find_eq_ok_directory.mpr ⟨htext, hway, hn⟩)
  rw [eq_place_of_way? hway, ← eq_place_of_locate hl] at hn
  rw [install_of_write hdepth]
  simp [write, writable, hl, hn, bind, Except.bind, Except.mapError]

theorem write_testConfFile (hconf : t.isDirectory c.env.confDir = true)
    (h : t.isDirectory c.env.testConfFile = false) (content : Bytes) :
    ∃ u, t.write c.env.testConfFile content = .ok u := by
  obtain ⟨-, m, hm, -⟩ := isDirectory_iff.mp hconf
  have hl : t.locate c.env.testConfFile = .ok (m ++ ["test.conf"]) :=
    locate_testConfFile.mpr ⟨m, hm, rfl⟩
  have hslash := endsInSlash_testConfFile c.env
  cases hn : t.node? (m ++ ["test.conf"]) with
  | none => simp [write, writable, hl, hn, hslash, bind, Except.bind, pure, Except.pure]
  | some n =>
    cases n with
    | directory => exact absurd hn (node?_ne_of_not_isDirectory h hl)
    | file old x => simp [write, writable, hl, hn, hslash, bind, Except.bind, pure, Except.pure]

theorem read_of_install (h : c.install t = .ok u) :
    u.read c.env.testConfFile = .ok c.installedBytes ∧ SameBut c.env.testConfFile t u := by
  have hwrite : t.write c.env.testConfFile c.installedBytes = .ok u := by
    by_cases hdepth : c.document.depth = 0
    · rw [install_of_write hdepth] at h
      cases hw : t.write c.env.testConfFile c.installedBytes with
      | error e => simp [hw, Except.mapError] at h
      | ok u' => simpa [hw, Except.mapError] using h
    · rw [install, if_neg hdepth] at h
      cases h
  refine ⟨?_, sameBut_of_write hwrite⟩
  obtain ⟨⟨l, old, x⟩, hw, hu⟩ := bind_eq_ok_iff.mp hwrite
  obtain rfl : t.set l (.file c.installedBytes x) = u := Except.ok.inj hu
  exact read_set_of_writable hw

theorem installs (c : ServerConfig) (t : FileTree) : Installs c t := by
  constructor
  case refused =>
    intro hdepth
    have h : c.install t = .error (.unclosedBlocks c.document.depth) := by
      rw [install, if_neg hdepth]
    exact ⟨h, installed_of_error h⟩
  case missing =>
    intro hdepth hconf
    obtain ⟨e, h⟩ := install_of_not_isDirectory hdepth hconf
    exact ⟨⟨e, h⟩, installed_of_error h⟩
  case occupied =>
    intro hdepth hdir
    have h := install_of_isDirectory hdepth hdir
    exact ⟨h, installed_of_error h⟩
  case replaced =>
    intro hdepth hconf hfile
    obtain ⟨u, hw⟩ := write_testConfFile hconf hfile c.installedBytes
    have h : c.install t = .ok u := by
      rw [install_of_write hdepth, hw]
      rfl
    exact ⟨u, h, installed_of_ok h, read_of_install h⟩

/-- After many attempts the files are as the last that was successful left them. -/
theorem foldl_installed (t : FileTree) (cs : List ServerConfig) :
    (cs.foldl installed t = t ∧ ∀ c ∈ cs, ∃ e, c.install t = .error e) ∨
      ∃ before c after u, cs = before ++ c :: after ∧
        c.install (before.foldl installed t) = .ok u ∧
        (∀ d ∈ after, ∃ e, d.install u = .error e) ∧ cs.foldl installed t = u := by
  induction cs generalizing t with
  | nil => exact .inl ⟨rfl, by simp⟩
  | cons c cs ih =>
    rw [List.foldl_cons]
    obtain ⟨hfold, hfail⟩ | ⟨before, d, after, u, hcs, hd, hafter, hu⟩ := ih (installed t c)
    · cases h : c.install t with
      | ok u =>
        rw [installed_of_ok h] at hfold hfail ⊢
        exact .inr ⟨[], c, cs, u, rfl, h, hfail, hfold⟩
      | error e =>
        rw [installed_of_error h] at hfold hfail ⊢
        refine .inl ⟨hfold, fun d hd => ?_⟩
        obtain rfl | hd := List.mem_cons.mp hd
        · exact ⟨e, h⟩
        · exact hfail d hd
    · exact .inr ⟨c :: before, d, after, u, by rw [hcs, List.cons_append], hd, hafter, hu⟩

theorem env_foldl_step (c : ServerConfig) (steps : List Step) :
    (steps.foldl step c).env = c.env :=
  (made_history c steps).env_eq

theorem testConfFile_result (dir : Path) (b : Build) :
    (b.result dir).env.testConfFile = (dir.join "conf").join "test.conf" := by
  rw [Build.result, env_foldl_step]
  rfl

theorem unbroken_result (dir : Path) (b : Build) : (b.result dir).document.Unbroken :=
  (made_history _ b.steps).keeps Unbroken.make (unbroken_start _ b.flavour b.extras)

end ServerConfig

namespace Document

/-- The printed text gives the lines back. -/
theorem piecesString_text {d : Document} (h : d.Unbroken) :
    ∃ body, d.text = body ++ "\n" ∧ (d.lines ≠ [] → Text.piecesString '\n' body = d.lines) :=
  ⟨Text.joinWith "\n" d.lines, rfl, fun hne => Text.piecesString_joinWith rfl hne h⟩

end Document

namespace ServerConfig

/-- A configuration is installed as a whole or not at all. The file holds the server-wide lines and
the document as it is printed, from which its lines can be told; after many attempts it is that of
the last that was successful. -/
theorem install_all_or_nothing (dir : Path) :
    (∀ (b : Build) (t : FileTree), Installs (b.result dir) t) ∧
    (∀ b : Build, (b.result dir).document.Unbroken ∧
      ∃ body, (b.result dir).document.text = body ++ "\n" ∧
        ((b.result dir).document.lines ≠ [] →
          Text.piecesString '\n' body = (b.result dir).document.lines)) ∧
    ∀ (builds : List Build) (t : FileTree),
      let cs := builds.map (Build.result dir)
      (cs.foldl installed t = t ∧ ∀ c ∈ cs, ∃ e, c.install t = .error e) ∨
        ∃ before c after u, cs = before ++ c :: after ∧
          c.install (before.foldl installed t) = .ok u ∧
          (∀ d ∈ after, ∃ e, d.install u = .error e) ∧ cs.foldl installed t = u ∧
          u.read ((dir.join "conf").join "test.conf") = .ok c.installedBytes := by
  refine ⟨fun b t => installs _ t, fun b => ?_, fun builds t => ?_⟩
  · have hlines := unbroken_result dir b
    exact ⟨hlines, Document.piecesString_text hlines⟩
  · obtain hnone | ⟨before, c, after, u, hcs, hc, hafter, hu⟩ :=
      foldl_installed t (builds.map (Build.result dir))
    · exact .inl hnone
    · obtain ⟨b, -, hb⟩ := List.mem_map.mp (hcs ▸ List.mem_append_right before List.mem_cons_self)
      have hread := (read_of_install hc).1
      rw [← hb, testConfFile_result, hb] at hread
      exact .inr ⟨before, c, after, u, hcs, hc, hafter, hu, hread⟩

end ServerConfig

end WebTestbed
