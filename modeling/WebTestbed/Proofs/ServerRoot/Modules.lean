import Mathlib.Data.List.Nodup
import WebTestbed.Proofs.Files.Operation
import WebTestbed.Proofs.ServerRoot.Change

/-! The modules of the server: the names that are asked for are those configured and those that the
environment needs, and each of them is accounted for when their list is written. -/
namespace WebTestbed.ServerRoot
open FileTree

variable {e : Environment} {s : ServerRoot} {t : FileTree} {name : String} {names : List String}

/-- A choice of modules: these and no others, or these as well. -/
inductive Choice where
  | only (names : List String)
  | also (names : List String)
  deriving DecidableEq, Repr

def choose (s : ServerRoot) : Choice → ServerRoot
  | .only names => s.withModules names
  | .also names => s.addModules names

/-- The modules that are configured by choices, one after the other. -/
def configured (names : List String) : List Choice → List String
  | [] => names
  | .only names' :: choices => configured names' choices
  | .also names' :: choices => configured (names ++ names') choices

/-- The modules that an environment does not go without. -/
def neededModules (e : Environment) : List String :=
  e.mpmModule :: (e.tls.map (·.name)).toList

theorem foldl_choose (s : ServerRoot) (choices : List Choice) :
    choices.foldl choose s = { s with modules := configured s.modules choices } := by
  induction choices generalizing s with
  | nil => rfl
  | cons choice choices ih =>
    rw [List.foldl_cons, ih]
    cases choice <;> rfl

theorem moduleNames_eq_foldl (s : ServerRoot) :
    s.moduleNames =
      (neededModules s.env).foldl (fun names name => ensure name names) s.modules := by
  unfold moduleNames neededModules
  cases s.env.tls <;> rfl

theorem ensure_of_mem (h : name ∈ names) : ensure name names = names :=
  if_pos (by simpa using h)

theorem ensure_of_not_mem (h : name ∉ names) : ensure name names = names ++ [name] :=
  if_neg (by simpa using h)

/-- Names that are ensured one after the other: each that is not there comes to the end, once. -/
theorem foldl_ensure (needed names : List String) : ∃ added,
    needed.foldl (fun names name => ensure name names) names = names ++ added ∧
      added.Sublist needed ∧ added.Nodup ∧ ∀ n, n ∈ added ↔ n ∈ needed ∧ n ∉ names := by
  induction needed generalizing names with
  | nil => exact ⟨[], by simp⟩
  | cons name needed ih =>
    obtain ⟨added, hfold, hsub, hnodup, hmem⟩ := ih (ensure name names)
    rw [List.foldl_cons, hfold]
    by_cases h : name ∈ names
    · rw [ensure_of_mem h] at hmem ⊢
      refine ⟨added, rfl, hsub.cons name, hnodup, fun n => ?_⟩
      rw [hmem, List.mem_cons]
      constructor
      · rintro ⟨hn, hnot⟩
        exact ⟨.inr hn, hnot⟩
      · rintro ⟨rfl | hn, hnot⟩
        · exact absurd h hnot
        · exact ⟨hn, hnot⟩
    · rw [ensure_of_not_mem h] at hmem ⊢
      have hnot : name ∉ added := fun hm => ((hmem name).mp hm).2 (by simp)
      refine ⟨name :: added, by simp, hsub.cons_cons name, hnodup.cons hnot, fun n => ?_⟩
      rw [List.mem_cons, List.mem_cons, hmem, List.mem_append, List.mem_singleton, not_or]
      constructor
      · rintro (rfl | ⟨hn, hnames, -⟩)
        · exact ⟨.inl rfl, h⟩
        · exact ⟨.inr hn, hnames⟩
      · rintro ⟨rfl | hn, hnames⟩
        · exact .inl rfl
        · by_cases heq : n = name
          · exact .inl heq
          · exact .inr ⟨hn, hnames, heq⟩

theorem foldl_ensure_of_subset {needed : List String} (h : needed ⊆ names) :
    needed.foldl (fun names name => ensure name names) names = names := by
  obtain ⟨added, hfold, -, -, hmem⟩ := foldl_ensure needed names
  have hempty : added = [] := List.eq_nil_iff_forall_not_mem.mpr fun n hn =>
    ((hmem n).mp hn).2 (h ((hmem n).mp hn).1)
  rw [hfold, hempty, List.append_nil]

/-- The modules that are configured come first, as they are. Those that the environment needs come
after them, each once, if they are not configured. -/
theorem moduleNames_completes (e : Environment) (choices : List Choice) :
    let s := choices.foldl choose (ofEnvironment e)
    ∃ added, s.moduleNames = configured defaultModules choices ++ added ∧
      added.Sublist (neededModules e) ∧ added.Nodup ∧
      (∀ n, n ∈ added ↔ n ∈ neededModules e ∧ n ∉ configured defaultModules choices) ∧
      neededModules e ⊆ s.moduleNames ∧
      (s.moduleNames.Nodup ↔ (configured defaultModules choices).Nodup) ∧
      (s.withModules s.moduleNames).moduleNames = s.moduleNames := by
  intro s
  obtain ⟨added, hfold, hsub, hnodup, hmem⟩ :=
    foldl_ensure (neededModules e) (configured defaultModules choices)
  have hs : s = { ofEnvironment e with modules := configured defaultModules choices } :=
    foldl_choose (ofEnvironment e) choices
  have hnames : s.moduleNames = configured defaultModules choices ++ added := by
    rw [hs, moduleNames_eq_foldl]
    exact hfold
  have hneeded : neededModules e ⊆ s.moduleNames := by
    intro n hn
    rw [hnames, List.mem_append, hmem]
    by_cases hconf : n ∈ configured defaultModules choices
    · exact .inl hconf
    · exact .inr ⟨hn, hconf⟩
  refine ⟨added, hnames, hsub, hnodup, hmem, hneeded, ?_, ?_⟩
  · rw [hnames, List.nodup_append]
    constructor
    · exact fun h => h.1
    · intro h
      refine ⟨h, hnodup, fun n hn m hm heq => ?_⟩
      exact ((hmem m).mp hm).2 (heq ▸ hn)
  · rw [moduleNames_eq_foldl]
    refine foldl_ensure_of_subset ?_
    have henv : s.env = e := by rw [hs]; rfl
    change neededModules s.env ⊆ s.moduleNames
    rwa [henv]

/-- No module has its file in the place of the list of modules. -/
theorem place_moduleFile_ne (e : Environment) (name : String) (workDir : Location) :
    (moduleFile e name).place workDir ≠ e.modulesConfFile.place workDir := by
  have habs : (Path.mk ("mod_" ++ name ++ ".so")).isAbsolute = false := by
    rw [Bool.eq_false_iff, Ne, Path.isAbsolute_iff]
    simp
  obtain ⟨r, last, hnames, hlast⟩ :=
    Path.exists_names_eq_append (by decide : ".so" ≠ "") (by decide) ("mod_" ++ name)
  have hother : ∀ other ∈ [".", "..", "modules.conf"], last ≠ other := by
    intro other hother heq
    rw [heq] at hlast
    exact absurd hlast ((by decide : ∀ other ∈ [".", "..", "modules.conf"],
      ¬ ".so".toList <:+ other.toList) other hother)
  have hmem : last ∈ (Path.mk ("mod_" ++ name ++ ".so")).names := by simp [hnames]
  obtain ⟨hempty, hslash⟩ := Path.ne_empty_and_slash_not_mem_of_mem_names hmem
  have hname : Path.IsName last := ⟨hempty, hslash, hother _ (by simp), hother _ (by simp)⟩
  intro heq
  rw [Environment.modulesConfFile, Path.place_join _ _ (by decide), moduleFile, Path.place,
    Path.names_join _ habs, hnames, ← List.append_assoc, resolve_append, resolve_name hname] at heq
  exact hother "modules.conf" (by simp) (List.singleton_inj.mp (List.append_inj' heq rfl).2)

/-- The server has a module: its file is there, or it is built in. -/
def provides (e : Environment) (t : FileTree) (name : String) : Bool :=
  t.isFile (moduleFile e name) || e.staticModules.contains name

/-- The line for a module that the server has. What is both a file and built in is loaded. -/
def accountLine (e : Environment) (t : FileTree) (name : String) : String :=
  (if t.isFile (moduleFile e name) then "LoadModule " else "#built static: LoadModule ") ++
    name ++ "_module   \"" ++ (moduleFile e name).text ++ "\""

theorem moduleLine?_eq (e : Environment) (t : FileTree) (name : String) :
    moduleLine? e t name = if provides e t name then some (accountLine e t name) else none := by
  unfold moduleLine? provides accountLine loadLine
  have hbuiltIn : "#built static: LoadModule " = "#built static: " ++ "LoadModule " := by decide
  rw [hbuiltIn]
  cases t.isFile (moduleFile e name) with
  | true => simp
  | false => cases e.staticModules.contains name <;> simp only [String.append_assoc] <;> rfl

theorem filterMap_moduleLine? (e : Environment) (t : FileTree) (names : List String) :
    names.filterMap (moduleLine? e t) = (names.filter (provides e t)).map (accountLine e t) := by
  induction names with
  | nil => rfl
  | cons name names ih =>
    rw [List.filterMap_cons, moduleLine?_eq, List.filter_cons, ih]
    cases provides e t name <;> rfl

theorem missingModules_eq (e : Environment) (t : FileTree) (names : List String) :
    missingModules e t names = names.filter (!provides e t ·) := by
  refine List.filter_congr fun name _ => ?_
  rw [moduleLine?_eq]
  cases provides e t name <;> rfl

/-- The list of modules holds the lines of those that the server has; the others are an error. -/
theorem run_writeModules {l : Location} {old : Bytes} {x : Bool}
    (hw : t.writable s.env.modulesConfFile = .ok (l, old, x)) (names : List String) :
    (s.writeModules names).run.run t =
      (if (missingModules s.env t names).isEmpty then .ok ()
        else .error (.missingModules (missingModules s.env t names) s.env.sharedModules),
      t.set l (.file
        (Utf8.encode (Text.unlines (names.filterMap (moduleLine? s.env t)))) x)) := by
  have hl := eq_place_of_locate (writable_cases hw).1
  have hlines : moduleLine? s.env (t.set l (.file [] x)) = moduleLine? s.env t := by
    funext name
    rw [moduleLine?, moduleLine?, isFile_set_of_ne (node?_ne_directory_of_writable hw)
      (hl ▸ place_moduleFile_ne s.env name t.workDir)]
  have hempty : (Change.ofFiles (·.write s.env.modulesConfFile [])).Leads t ()
      (t.set l (.file [] x)) :=
    Change.leads_ofFiles.mpr (write_eq_ok.mpr ⟨l, old, x, hw, rfl⟩)
  have hfull : ∀ content, (Change.ofFiles (·.write s.env.modulesConfFile content)).Leads
      (t.set l (.file [] x)) () (t.set l (.file content x)) := fun content =>
    Change.leads_ofFiles.mpr (write_eq_ok.mpr ⟨l, [], x, writable_set_of_writable hw, set_set.symm⟩)
  unfold writeModules missingModules
  rw [Change.run_bind_of_leads hempty, Change.run_bind_of_leads (Change.leads_get.mpr ⟨rfl, rfl⟩),
    Change.run_bind_of_leads (hfull _), hlines]
  dsimp only
  split <;> rfl

theorem exists_writable_modulesConfFile (hdir : t.isDirectory s.env.confDir = true)
    (hfree : t.isDirectory s.env.modulesConfFile = false) :
    ∃ l old x, t.writable s.env.modulesConfFile = .ok (l, old, x) := by
  have hname : Path.IsName "modules.conf" := by decide
  obtain ⟨m, hm⟩ := (isDirectory_join_iff (by decide)).mp hdir
  have hnot := node?_ne_of_not_isDirectory hfree ((locate_join_eq_ok hname).mpr ⟨m, hm, rfl⟩)
  cases hn : t.node? (m ++ ["modules.conf"]) with
  | none => exact ⟨_, _, _, (writable_join_eq_ok hname).mpr ⟨m, hm, rfl, .inl ⟨hn, rfl, rfl⟩⟩⟩
  | some n =>
    cases n with
    | directory => exact absurd hn hnot
    | file old x => exact ⟨_, _, _, (writable_join_eq_ok hname).mpr ⟨m, hm, rfl, .inr hn⟩⟩

/-- Each module that is asked for is accounted for as often as it is, and in its place: by a line
of its own if the server has it, or else in the error. Nothing but the list of modules changes. -/
theorem writeModules_accounts (s : ServerRoot) (names : List String) (t : FileTree)
    (hdir : t.isDirectory s.env.confDir = true)
    (hfree : t.isDirectory s.env.modulesConfFile = false) :
    let missing := names.filter (!provides s.env t ·)
    let lines := (names.filter (provides s.env t)).map (accountLine s.env t)
    ∃ u, (s.writeModules names).run.run t =
        (if missing = [] then .ok ()
          else .error (.missingModules missing s.env.sharedModules), u) ∧
      u.read s.env.modulesConfFile = .ok (Utf8.encode (Text.unlines lines)) ∧
      (∀ l, l ≠ s.env.modulesConfFile.place t.workDir → u.node? l = t.node? l) ∧
      lines.length + missing.length = names.length := by
  intro missing lines
  obtain ⟨l, old, x, hw⟩ := exists_writable_modulesConfFile hdir hfree
  have hl := eq_place_of_locate (writable_cases hw).1
  have hrun := run_writeModules hw names
  rw [filterMap_moduleLine?, missingModules_eq] at hrun
  simp only [List.isEmpty_iff] at hrun
  refine ⟨_, hrun, read_set_of_writable hw, fun l' hl' => node?_set_of_ne (hl ▸ hl'), ?_⟩
  rw [List.length_map]
  exact (List.length_eq_length_filter_add (provides s.env t)).symm

/-- One module is there as a file, one is built in, and one is both; another, asked for twice, is
missing twice. -/
theorem writeModules_accounts_sample :
    let e : Environment := { Environment.ofSettings {} "w" none none with
      moduleDir := "lib", sharedModules := ["mime"], staticModules := ["core", "dir"] }
    let s : ServerRoot := ⟨e, "src", []⟩
    let t : FileTree := ⟨[], [["w"], ["w", "test"], ["w", "test", "gen"],
      ["w", "test", "gen", "apache"], ["w", "test", "gen", "apache", "conf"], ["lib"]].map
        (·, .directory) ++
      [(["w", "test", "gen", "apache", "conf", "modules.conf"], .file [33] false),
        (["lib", "mod_mime.so"], .file [] true), (["lib", "mod_dir.so"], .file [] true)]⟩
    t.isDirectory e.confDir = true ∧ t.isDirectory e.modulesConfFile = false ∧
      ∃ u, (s.writeModules ["absent", "mime", "core", "absent", "dir", "mime"]).run.run t =
          (.error (.missingModules ["absent", "absent"] ["mime"]), u) ∧
        u.read e.modulesConfFile = .ok (Utf8.encode (Text.unlines
          ["LoadModule mime_module   \"lib/mod_mime.so\"",
            "#built static: LoadModule core_module   \"lib/mod_core.so\"",
            "LoadModule dir_module   \"lib/mod_dir.so\"",
            "LoadModule mime_module   \"lib/mod_mime.so\""])) := by
  intro e s t
  have hdir : t.isDirectory e.confDir = true := by decide +kernel
  have hfree : t.isDirectory e.modulesConfFile = false := by decide +kernel
  obtain ⟨u, hrun, hread, -, -⟩ := writeModules_accounts s
    ["absent", "mime", "core", "absent", "dir", "mime"] t hdir hfree
  have hmissing : ["absent", "mime", "core", "absent", "dir", "mime"].filter
      (!provides s.env t ·) = ["absent", "absent"] := by decide +kernel
  rw [hmissing, if_neg (List.cons_ne_nil _ _)] at hrun
  refine ⟨hdir, hfree, u, hrun, hread.trans ?_⟩
  congr 3
  decide +kernel

end WebTestbed.ServerRoot
