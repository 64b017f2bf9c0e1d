import WebTestbed.Proofs.Host.Credentials

/-! Certificates of the hosts that HTTP/2 configurations serve over TLS: all of them have one, but for
the host without HTTP/2. -/
namespace WebTestbed.ServerConfig
open Document

variable {c d : ServerConfig} {ps : List Part}

/-- The lines of the certificate of a name are among the given ones. -/
def Certified (e : Environment) (b : TlsModule) (depth : Nat) (name : String)
    (inside : List String) : Prop :=
  ∃ x, e.credentials? name = some x ∧ b.certificateDirectives x ≠ [] ∧
    (linesOf (b.certificateDirectives x)).map (indent depth) <:+: inside

/-- Where hosts that are opened are closed, each of them is. -/
theorem Balanced.exists_end (hb : Balanced ps) {before after : List Part} {domains : List String}
    {port : Option UInt16} {root : String} {withTls : Bool}
    (hps : ps = before ++ .startHost domains port root withTls :: after) :
    ∃ inner later, after = inner ++ .endHost :: later ∧ Balanced inner := by
  induction hb generalizing before after with
  | nil => simp at hps
  | add _ ih =>
    cases before with
    | nil => cases hps
    | cons p before =>
      rw [List.cons_append, List.cons.injEq] at hps
      exact ih hps.2
  | @block _ _ _ _ inner ps hinner _ ihinner ihrest =>
    cases before with
    | nil =>
      rw [List.nil_append, List.cons_append, List.cons.injEq] at hps
      exact ⟨inner, ps, hps.2.symm, hinner⟩
    | cons p before =>
      rw [List.cons_append, List.cons_append, List.cons.injEq] at hps
      obtain ⟨between, hbefore, hafter⟩ | ⟨between, hinside, hafter⟩ :=
        List.append_eq_append_iff.mp hps.2
      · -- the host is opened after the end of the first
        cases between with
        | nil => cases hafter
        | cons q between =>
          rw [List.cons_append, List.cons.injEq] at hafter
          exact ihrest hafter.2
      · -- the host is opened within the first
        cases between with
        | nil => cases hafter
        | cons q between =>
          rw [List.cons_append, List.cons.injEq] at hafter
          obtain ⟨rfl, rfl⟩ := hafter
          obtain ⟨inner', later, hbetween, hb'⟩ := ihinner hinside
          refine ⟨inner', later ++ .endHost :: ps, ?_, hb'⟩
          rw [hbetween, List.append_assoc, List.cons_append]

theorem made_presets (c : ServerConfig) (presets : List Preset) :
    Made c (presets.flatMap (presetParts c.env)) (presets.foldl addPreset c) := by
  induction presets generalizing c with
  | nil => exact .nil
  | cons p presets ih =>
    have hp := made_presetParts c p
    have hrest := ih (c.addPreset p)
    rw [hp.env_eq] at hrest
    exact hp.append hrest

theorem balanced_presets (e : Environment) (presets : List Preset) :
    Balanced (presets.flatMap (presetParts e)) := by
  induction presets with
  | nil => exact .nil
  | cons p presets ih => exact (balanced_presetParts e p).append ih

section Names

variable {e : Environment} {name : String} {aliases : List String} {port : Option UInt16}
  {root : String} {withTls : Bool}

theorem name_of_mem_hostParts {h : Host} {lines : List String}
    (hmem : .startHost (name :: aliases) port root withTls ∈ hostParts h lines) :
    name = h.name := by
  unfold hostParts at hmem
  obtain hmem | hmem := List.mem_cons.mp hmem
  · have hdomains := (Part.startHost.inj hmem).1
    exact (List.cons.inj hdomains).1
  · simp at hmem

theorem name_of_mem_presetParts {p : Preset}
    (h : .startHost (name :: aliases) port root withTls ∈ presetParts e p) :
    ∃ s ∈ ["test1", "test2", "cgi", "noh2"], name = e.host s := by
  cases p with
  | test1 self selfHttp2 =>
    refine ⟨"test1", by decide, ?_⟩
    obtain h | h := List.mem_append.mp h <;> exact name_of_mem_hostParts h
  | test2 =>
    refine ⟨"test2", by decide, ?_⟩
    obtain h | h := List.mem_append.mp h <;> exact name_of_mem_hostParts h
  | cgi self selfHttp2 =>
    refine ⟨"cgi", by decide, ?_⟩
    unfold presetParts at h
    rw [List.mem_append, List.mem_append, List.mem_append] at h
    obtain ((h | h) | h) | h := h
    · simp at h
    · exact name_of_mem_hostParts h
    · exact name_of_mem_hostParts h
    · simp at h
  | noh2 =>
    refine ⟨"noh2", by decide, ?_⟩
    obtain h | h := List.mem_append.mp h <;> exact name_of_mem_hostParts h

end Names

theorem Certified.of_prefix {e : Environment} {b : TlsModule} {depth : Nat} {name : String}
    {lines inside : List String} (h : Certified e b depth name lines) (hp : lines <+: inside) :
    Certified e b depth name inside := by
  obtain ⟨x, hx, hne, hlines⟩ := h
  exact ⟨x, hx, hne, hlines.trans hp.isInfix⟩

/-- A host on the port of https starts with the lines of its certificate, if its name has one. -/
theorem certified_openingLines {h : Host} {b : TlsModule} {x : Credentials} (depth : Nat)
    (hb : c.env.tls = some b) (hport : c.portOf h = c.env.httpsPort)
    (hx : c.env.credentials? h.name = some x) :
    Certified c.env b depth h.name ((linesOf (c.openingLines h)).map (indent depth)) := by
  have htls : c.tlsLines h = b.engineDirective.toList ++ b.certificateDirectives x := by
    have hserves : c.servesTls h = true := by simp [servesTls, hport]
    rw [tlsLines_eq, if_pos hserves, Environment.certificateDirectives, hb, hx]
    rfl
  have hlines : linesOf (c.openingLines h) =
      linesOf (hostLines h ++ b.engineDirective.toList) ++ linesOf (b.certificateDirectives x) ++
        linesOf ((c.extras.get? h.name).getD [] ++ c.protocolLines h) := by
    rw [openingLines, htls]
    simp only [linesOf_append, List.append_assoc]
  refine ⟨x, hx, ?_, ?_⟩
  · cases b <;> simp [TlsModule.certificateDirectives]
  · rw [hlines, List.map_append, List.map_append]
    exact List.infix_append _ _ _

/-- The hosts that have certificates: those that every environment gives one, and those added for
HTTP/2. -/
theorem isSome_credentials?_host (s : Settings) (workDir : Path) (tls mpm : Option String)
    (name : String) :
    ((http2Environment (.ofSettings s workDir tls mpm)).credentials?
      ((http2Environment (.ofSettings s workDir tls mpm)).host name)).isSome = true ↔
    name ++ "." ∈ ["test1.", "test2.", "test3.", "cgi."] ++
      ["push", "hints", "ssl", "pad0", "pad1", "pad2", "pad3", "pad8"].map (· ++ ".") := by
  rw [Environment.isSome_credentials?_iff]
  simp [http2Environment, Environment.addBaseConf, Environment.addCertificates,
    Environment.ofSettings, Environment.host, http2Domains, or_assoc]

theorem host_inj {e : Environment} {a b : String} : e.host a = e.host b ↔ a = b := by
  simp [Environment.host]

/-- Of the hosts of the presets, one has no certificate. -/
theorem isSome_credentials?_iff_ne_noh2 (s : Settings) (workDir : Path)
    (tls mpm : Option String) {name : String} (hname : name ∈ ["test1", "test2", "cgi", "noh2"]) :
    ((http2Environment (.ofSettings s workDir tls mpm)).credentials?
      ((http2Environment (.ofSettings s workDir tls mpm)).host name)).isSome = true ↔
    (http2Environment (.ofSettings s workDir tls mpm)).host name ≠
      (http2Environment (.ofSettings s workDir tls mpm)).host "noh2" := by
  have hnames : ∀ name ∈ ["test1", "test2", "cgi", "noh2"],
      (name ++ "." ∈ ["test1.", "test2.", "test3.", "cgi."] ++
        ["push", "hints", "ssl", "pad0", "pad1", "pad2", "pad3", "pad8"].map (· ++ ".") ↔
      name ≠ "noh2") := by
    decide +kernel
  rw [isSome_credentials?_host, hnames name hname, ne_eq, ne_eq, host_inj]

/-- Each host of the presets that listens on the port of https has its certificate in its block,
but for the host without HTTP/2: there is none for that. -/
theorem ofPresets_certified (s : Settings) (workDir : Path) (tls mpm : Option String)
    (presets : List Preset) (assignments : List String) {b : TlsModule} {x : Extras}
    (htls : (Environment.ofSettings s workDir tls mpm).tls = some b)
    (hx : Extras.ofAssignments assignments = .ok x) :
    let e := http2Environment (.ofSettings s workDir tls mpm)
    ∃ c, ofPresets e presets assignments .http2 = .ok c ∧
      ∀ before domains port root withTls after,
        presets.flatMap (presetParts e) = before ++ .startHost domains port root withTls :: after →
        port.getD e.httpsPort = e.httpsPort →
        ∃ m name aliases inside later, domains = name :: aliases ∧
          Made (start e .http2 (if x.isEmpty then none else some x)) before m ∧
          c.document.lines = m.document.lines ++
            blockLines m.document.depth e.httpsPort inside ++ later ∧
          (Certified e b (m.document.depth + 1) name inside ↔ name ≠ e.host "noh2") := by
  intro e
  let c₀ := start e .http2 (if x.isEmpty then none else some x)
  refine ⟨presets.foldl addPreset c₀, by rw [ofPresets, hx]; rfl, ?_⟩
  intro before domains port root withTls after hparts hport
  have hmade : Made c₀ (presets.flatMap (presetParts e)) (presets.foldl addPreset c₀) :=
    made_presets c₀ presets
  obtain ⟨inner, rest, rfl, hinner⟩ := (balanced_presets e presets).exists_end hparts
  have hsplit : presets.flatMap (presetParts e) =
      before ++ .startHost domains port root withTls :: inner ++ .endHost :: rest := by
    rw [hparts, List.append_assoc, List.cons_append]
  obtain ⟨m, name, aliases, inside, later, hm, rfl, hlines, hopening, -⟩ :=
    hmade.matched hsplit hinner
  have henv : m.env = e := hm.env_eq
  have hport₀ : port.getD c₀.env.httpsPort = e.httpsPort := hport
  rw [hport₀] at hlines
  refine ⟨m, name, aliases, inside, later, rfl, hm, hlines, ?_⟩
  obtain ⟨s₀, hs₀, hname⟩ : ∃ s₀ ∈ ["test1", "test2", "cgi", "noh2"], name = e.host s₀ := by
    have hmem : .startHost (name :: aliases) port root withTls ∈
        presets.flatMap (presetParts e) := by
      rw [hparts]
      exact List.mem_append_right _ List.mem_cons_self
    obtain ⟨p, -, hp⟩ := List.mem_flatMap.mp hmem
    exact name_of_mem_presetParts hp
  have hsome : (e.credentials? name).isSome = true ↔ name ≠ e.host "noh2" := by
    rw [hname]
    exact isSome_credentials?_iff_ne_noh2 s workDir tls mpm hs₀
  constructor
  · rintro ⟨y, hy, -⟩
    exact hsome.mp (by rw [hy]; rfl)
  · intro hne
    obtain ⟨y, hy⟩ := Option.isSome_iff_exists.mp (hsome.mpr hne)
    let h : Host := ⟨name, aliases, port, root, withTls⟩
    have hb : m.env.tls = some b := by rw [henv]; exact htls
    have hlistens : m.portOf h = m.env.httpsPort := by rw [portOf, henv]; exact hport
    have hy' : m.env.credentials? h.name = some y := by rw [henv]; exact hy
    have hcert := certified_openingLines (m.document.depth + 1) hb hlistens hy'
    rw [henv] at hcert
    exact hcert.of_prefix hopening

theorem ofPresets_certified_test2 :
    ∃ (c m : ServerConfig) (inside later : List String),
      ofPresets (http2Environment (.ofSettings {} "w" none none)) [.noh2, .test2]
        ["base=LogLevel debug"] .http2 = .ok c ∧
      c.document.lines =
        m.document.lines ++ blockLines m.document.depth 5001 inside ++ later ∧
      Certified (http2Environment (.ofSettings {} "w" none none)) .ssl (m.document.depth + 1)
        "test2.tests.httpd.apache.org" inside := by
  have hx : Extras.ofAssignments ["base=LogLevel debug"] =
      .ok (Extras.empty.append "base" ["LogLevel debug"]) := by
    decide +kernel
  obtain ⟨c, hc, hblocks⟩ :=
    ofPresets_certified {} "w" none none [.noh2, .test2] ["base=LogLevel debug"] rfl hx
  let e := http2Environment (.ofSettings {} "w" none none)
  obtain ⟨m, name, aliases, inside, later, hdomains, -, hlines, hiff⟩ :=
    hblocks (presetParts e .noh2 ++ hostParts (testHost e "test2" "www2" e.httpPort) [])
      [e.host "test2", e.host "www2"] (some e.httpsPort) "htdocs/test2" false
      [.add indexLines, .endHost] rfl rfl
  obtain ⟨rfl, -⟩ := List.cons.inj hdomains
  have hne : e.host "test2" ≠ e.host "noh2" := by
    rw [ne_eq, host_inj]
    decide
  exact ⟨c, m, inside, later, hc, hlines, hiff.mpr hne⟩

/-- TLS is switched on for a host that gets no certificate. -/
theorem ofPresets_noh2_uncertified :
    ∃ c, ofPresets (http2Environment (.ofSettings {} "w" none none)) [.noh2] [] .http2 = .ok c ∧
      c.document.lines =
        blockLines 0 5001
          ["  ServerName noh2.tests.httpd.apache.org",
            "  ServerAlias noh2-alias.tests.httpd.apache.org", "  DocumentRoot htdocs/noh2",
            "  SSLEngine on", "  Protocols http/1.1", "  Protocols http/1.1",
            "  SSLOptions +StdEnvVars"] ++
        blockLines 0 5002
          ["  ServerName noh2.tests.httpd.apache.org",
            "  ServerAlias noh2-alias.tests.httpd.apache.org", "  DocumentRoot htdocs/noh2",
            "  Protocols http/1.1", "  Protocols http/1.1", "  SSLOptions +StdEnvVars"] :=
  ⟨_, rfl, by decide +kernel⟩

end WebTestbed.ServerConfig
