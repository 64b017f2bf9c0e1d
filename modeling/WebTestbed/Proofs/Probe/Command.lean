import WebTestbed.Proofs.Probe.Certificate

/-! The command of a request. The first URL decides whether there is one, and what stands in it
between the file for the headers and the options of the caller. -/
namespace WebTestbed

namespace Binary64

/-- Positional notation has digits and a point only. -/
theorem isDigit_or_point_of_mem_positional {d : Decimal} {c : Char}
    (h : c ∈ d.positional.toList) : c.isDigit = true ∨ c = '.' := by
  have hdigits : c ∈ Nat.toDigits 10 d.digits → c.isDigit = true :=
    Numeral.isDigit_of_mem_toDigits
  have hzeros : ∀ n, c ∈ List.replicate n '0' → c.isDigit = true := by
    intro n hc
    rw [(List.mem_replicate.mp hc).2]
    decide
  have hpadded : ∀ n, c ∈ List.replicate n '0' ++ Nat.toDigits 10 d.digits → c.isDigit = true :=
    fun n hc => (List.mem_append.mp hc).elim (hzeros n) hdigits
  unfold Decimal.positional at h
  split at h
  · rw [String.toList_ofList, List.mem_append] at h
    exact Or.inl (h.elim hdigits (hzeros _))
  · simp only [String.toList_ofList, List.mem_append, List.mem_cons] at h
    obtain h | rfl | h := h
    · exact Or.inl (hpadded _ (List.mem_of_mem_take h))
    · exact Or.inr rfl
    · exact Or.inl (hpadded _ (List.mem_of_mem_drop h))

end Binary64

namespace Curl

variable {e : Environment} {o : CurlOptions} {t : Target} {url : String} {urls : List String}
  {err : ProbeError} {s : String}

/-! The target of a request. -/

/-- The target is what the URL is read to: a host, and the port that is given or known for the
scheme. -/
def Target.IsOf (t : Target) (url : String) : Prop :=
  ∃ u host, Url.read url = .ok u ∧ u.host = some host ∧ u.portOrKnown? = some t.port ∧
    t.scheme = u.scheme ∧ t.host = host.write

/-- URLs that no request can be made for, and why. -/
inductive Refused : List String → ProbeError → Prop where
  | nothing : Refused [] (.invalidUrl .emptyHost)
  | unread {url : String} {err : UrlError} (rest : List String)
    (hread : Url.read url = .error err) : Refused (url :: rest) (.invalidUrl err)
  | noHost {url : String} {u : Url} (rest : List String) (hread : Url.read url = .ok u)
    (hhost : u.host = none) : Refused (url :: rest) (.missingHost u.write)
  | noPort {url : String} {u : Url} (rest : List String) (hread : Url.read url = .ok u)
    (hhost : u.host.isSome = true) (hport : u.portOrKnown? = none) :
    Refused (url :: rest) (.missingPort u.write)

theorem readTarget_cons_eq_ok_iff {rest : List String} :
    readTarget (url :: rest) = .ok t ↔ t.IsOf url := by
  constructor
  · intro h
    exact read_of_readTarget h
  · rintro ⟨u, host, hu, hhost, hport, hscheme, hname⟩
    calc readTarget (url :: rest)
      _ = .ok ⟨u.scheme, host.write, t.port⟩ := readTarget_of_read hu hhost hport
      _ = .ok t := by rw [← hscheme, ← hname]

theorem readTarget_eq_error_iff : readTarget urls = .error err ↔ Refused urls err := by
  constructor
  · intro h
    cases urls with
    | nil =>
      cases h
      exact .nothing
    | cons url rest =>
      cases hu : Url.read url with
      | error err' =>
        simp only [readTarget, hu, Except.error.injEq] at h
        subst h
        exact .unread rest hu
      | ok u =>
        cases hhost : u.host with
        | none =>
          simp only [readTarget, hu, hhost, Except.error.injEq] at h
          subst h
          exact .noHost rest hu hhost
        | some host =>
          cases hport : u.portOrKnown? with
          | none =>
            simp only [readTarget, hu, hhost, hport, Except.error.injEq] at h
            subst h
            exact .noPort rest hu (by rw [hhost, Option.isSome_some]) hport
          | some port => simp [readTarget, hu, hhost, hport] at h
  · intro h
    cases h with
    | nothing => rfl
    | unread rest hu => simp only [readTarget, hu]
    | noHost rest hu hhost => simp only [readTarget, hu, hhost]
    | noPort rest hu hhost hport =>
      obtain ⟨host, hhost⟩ := Option.isSome_iff_exists.mp hhost
      simp only [readTarget, hu, hhost, hport]

/-! The arguments that the target decides on. -/

/-- The flags of these arguments, in their order. -/
def flags : List String := ["--insecure", "--cacert", "--resolve", "--connect-timeout"]

/-- Hosts that are not looked up: the machine itself by name or address, and all that begin as an
address does. -/
def NeedsNoLookup (host : String) : Prop :=
  host = "localhost" ∨ host = "127.0.0.1" ∨
    ∃ c rest, host.toList = c :: rest ∧ ('0' ≤ c ∧ c ≤ '9' ∨ c = '[' ∨ c = ':')

/-- Where to look the host up, as curl takes it. -/
def Target.atServer (t : Target) : String :=
  t.host ++ ":" ++ toString t.port.toNat ++ ":127.0.0.1"

theorem isLiteral_iff (host : String) : isLiteral host = true ↔ NeedsNoLookup host := by
  unfold isLiteral NeedsNoLookup Environment.address
  cases host.toList with
  | nil => simp
  | cons c rest => simp [Char.isDigit, Char.le_def, or_assoc]

theorem not_mem_flags (he : s.toList.getLast? ≠ some 'e') (ht : s.toList.getLast? ≠ some 't') :
    s ∉ flags := by
  have hlast : ∀ flag ∈ flags,
      flag.toList.getLast? = some 'e' ∨ flag.toList.getLast? = some 't' := by
    decide
  intro hmem
  exact (hlast s hmem).elim he ht

theorem caFile_not_mem_flags (e : Environment) : e.caFile.text ∉ flags := by
  have hlast : e.caFile.text.toList.getLast? = some 'm' := Path.getLast?_join e.caDir (by decide)
  exact not_mem_flags (by rw [hlast]; decide) (by rw [hlast]; decide)

theorem atServer_not_mem_flags (t : Target) : t.atServer ∉ flags := by
  have hlast : t.atServer.toList.getLast? = some '1' := by
    rw [Target.atServer, String.toList_append, List.getLast?_append_of_ne_nil _ (by decide)]
    decide
  exact not_mem_flags (by rw [hlast]; decide) (by rw [hlast]; decide)

theorem decimalSeconds_not_mem_flags (d : Duration) : d.decimalSeconds ∉ flags := by
  have hlast : ∀ c, d.decimalSeconds.toList.getLast? = some c → c.isDigit = true ∨ c = '.' :=
    fun c hc => Binary64.isDigit_or_point_of_mem_positional (List.mem_of_getLast? hc)
  exact not_mem_flags (fun h => absurd (hlast 'e' h) (by decide))
    (fun h => absurd (hlast 't' h) (by decide))

/-! Certificates, the address and the time are three lists, each with at most one flag. -/

def middleArgs (e : Environment) (o : CurlOptions) (t : Target) : List String :=
  certificateArgs e o t ++ resolveArgs o t ++ timeoutArgs o

theorem certificateArgs_cases (e : Environment) (o : CurlOptions) (t : Target) :
    certificateArgs e o t = [] ∨ certificateArgs e o t = ["--insecure"] ∨
      certificateArgs e o t = ["--cacert", e.caFile.text] := by
  unfold certificateArgs
  split_ifs <;> simp

theorem resolveArgs_eq (o : CurlOptions) (t : Target) : resolveArgs o t =
    if o.forceResolve && !isLiteral t.host then ["--resolve", t.atServer] else [] := by
  have hvalue : t.host ++ ":" ++ toString t.port.toNat ++ ":" ++ Environment.address = t.atServer :=
    String.append_assoc ..
  rw [resolveArgs, hvalue]

theorem resolveArgs_cases (o : CurlOptions) (t : Target) :
    resolveArgs o t = [] ∨ resolveArgs o t = ["--resolve", t.atServer] := by
  rw [resolveArgs_eq]
  split <;> simp

theorem mem_certificateArgs : s ∈ certificateArgs e o t ↔ t.scheme = "https" ∧
    (o.insecure = true ∧ s = "--insecure" ∨ o.insecure = false ∧ "--cacert" ∉ o.options ∧
      (e.credentials? t.host).isSome = true ∧ (s = "--cacert" ∨ s = e.caFile.text)) := by
  by_cases hscheme : t.scheme = "https"
  · cases hinsecure : o.insecure <;> simp [certificateArgs, hscheme, hinsecure, and_assoc]
  · simp [certificateArgs, hscheme]

theorem mem_resolveArgs : s ∈ resolveArgs o t ↔
    o.forceResolve = true ∧ ¬ NeedsNoLookup t.host ∧ (s = "--resolve" ∨ s = t.atServer) := by
  rw [resolveArgs_eq, ← isLiteral_iff]
  simp [and_assoc]

theorem mem_timeoutArgs : s ∈ timeoutArgs o ↔
    ∃ d, o.timeout = some d ∧ (s = "--connect-timeout" ∨ s = d.decimalSeconds) := by
  unfold timeoutArgs
  cases o.timeout <;> simp

/-- None of the flags is given as a value, so each is there only where it is meant. -/
theorem mem_middleArgs_iff (hs : s ∈ flags) : s ∈ middleArgs e o t ↔
    t.scheme = "https" ∧ (o.insecure = true ∧ s = "--insecure" ∨
      o.insecure = false ∧ "--cacert" ∉ o.options ∧ (e.credentials? t.host).isSome = true ∧
        s = "--cacert") ∨
    (o.forceResolve = true ∧ ¬ NeedsNoLookup t.host ∧ s = "--resolve") ∨
    o.timeout.isSome = true ∧ s = "--connect-timeout" := by
  have hfile : s ≠ e.caFile.text := ne_of_mem_of_not_mem hs (caFile_not_mem_flags e)
  have hserver : s ≠ t.atServer := ne_of_mem_of_not_mem hs (atServer_not_mem_flags t)
  have hseconds : ∀ d : Duration, s ≠ d.decimalSeconds :=
    fun d => ne_of_mem_of_not_mem hs (decimalSeconds_not_mem_flags d)
  simp only [middleArgs, List.mem_append, mem_certificateArgs, mem_resolveArgs, mem_timeoutArgs,
    hfile, hserver, hseconds, or_false, or_assoc, Option.isSome_iff_exists, exists_and_right]

theorem filter_flag_value {flag value : String} (hflag : flag ∈ flags) (hvalue : value ∉ flags) :
    [flag, value].filter (· ∈ flags) = [flag] := by
  rw [List.filter_cons_of_pos (by simpa using hflag),
    List.filter_cons_of_neg (by simpa using hvalue), List.filter_nil]

theorem filter_flags_sublist (e : Environment) (o : CurlOptions) (t : Target) :
    ((middleArgs e o t).filter (· ∈ flags)).Sublist flags := by
  have hcertificate : ((certificateArgs e o t).filter (· ∈ flags)).Sublist
      ["--insecure", "--cacert"] := by
    obtain h | h | h := certificateArgs_cases e o t <;> rw [h]
    · decide
    · decide
    · rw [filter_flag_value (by decide) (caFile_not_mem_flags e)]
      decide
  have hresolve : ((resolveArgs o t).filter (· ∈ flags)).Sublist ["--resolve"] := by
    obtain h | h := resolveArgs_cases o t <;> rw [h]
    · decide
    · rw [filter_flag_value (by decide) (atServer_not_mem_flags t)]
  have htimeout : ((timeoutArgs o).filter (· ∈ flags)).Sublist ["--connect-timeout"] := by
    unfold timeoutArgs
    cases o.timeout with
    | none => decide
    | some d => rw [filter_flag_value (by decide) (decimalSeconds_not_mem_flags d)]
  rw [middleArgs, List.filter_append, List.filter_append]
  exact (hcertificate.append hresolve).append htimeout

/-- How the arguments between the file for the headers and the options of the caller come from the
target: which flags are among them, with which values, and that none is there twice. -/
structure Middle (e : Environment) (o : CurlOptions) (t : Target) (args : List String) : Prop where
  insecure_iff : "--insecure" ∈ args ↔ t.scheme = "https" ∧ o.insecure = true
  cacert_iff : "--cacert" ∈ args ↔ t.scheme = "https" ∧ o.insecure = false ∧
    "--cacert" ∉ o.options ∧ (e.credentials? t.host).isSome = true
  cacert_value : "--cacert" ∈ args → ["--cacert", e.caFile.text] <:+: args
  resolve_iff : ["--resolve", t.atServer] <:+: args ↔
    o.forceResolve = true ∧ ¬ NeedsNoLookup t.host
  resolve_value : "--resolve" ∈ args → ["--resolve", t.atServer] <:+: args
  timeout_iff : "--connect-timeout" ∈ args ↔ o.timeout.isSome = true
  timeout_value : ∀ d, o.timeout = some d → ["--connect-timeout", d.decimalSeconds] <:+: args
  once : (args.filter (· ∈ flags)).Sublist flags

theorem cacert_mem_middleArgs_iff : "--cacert" ∈ middleArgs e o t ↔ t.scheme = "https" ∧
    o.insecure = false ∧ "--cacert" ∉ o.options ∧ (e.credentials? t.host).isSome = true := by
  rw [mem_middleArgs_iff (by decide)]
  simp

theorem resolve_mem_middleArgs_iff : "--resolve" ∈ middleArgs e o t ↔
    o.forceResolve = true ∧ ¬ NeedsNoLookup t.host := by
  rw [mem_middleArgs_iff (by decide)]
  simp

theorem cacert_infix_middleArgs (h : "--cacert" ∈ middleArgs e o t) :
    ["--cacert", e.caFile.text] <:+: middleArgs e o t := by
  obtain ⟨hscheme, hinsecure, hoptions, hcredentials⟩ := cacert_mem_middleArgs_iff.mp h
  have hargs : certificateArgs e o t = ["--cacert", e.caFile.text] := by
    simp [certificateArgs, hscheme, hinsecure, hoptions, hcredentials]
  exact ⟨[], resolveArgs o t ++ timeoutArgs o, by
    rw [middleArgs, hargs, List.nil_append, List.append_assoc]⟩

theorem resolve_infix_middleArgs (h : "--resolve" ∈ middleArgs e o t) :
    ["--resolve", t.atServer] <:+: middleArgs e o t := by
  obtain ⟨hforce, hlookup⟩ := resolve_mem_middleArgs_iff.mp h
  have hargs : resolveArgs o t = ["--resolve", t.atServer] := by
    rw [← isLiteral_iff] at hlookup
    simp [resolveArgs_eq, hforce, hlookup]
  exact ⟨certificateArgs e o t, timeoutArgs o, by rw [middleArgs, hargs]⟩

theorem middle_middleArgs (e : Environment) (o : CurlOptions) (t : Target) :
    Middle e o t (middleArgs e o t) := by
  constructor
  case insecure_iff =>
    rw [mem_middleArgs_iff (by decide)]
    simp
  case cacert_iff => exact cacert_mem_middleArgs_iff
  case cacert_value => exact cacert_infix_middleArgs
  case resolve_iff =>
    rw [← resolve_mem_middleArgs_iff (e := e)]
    constructor
    · intro h
      exact h.subset List.mem_cons_self
    · exact resolve_infix_middleArgs
  case resolve_value => exact resolve_infix_middleArgs
  case timeout_iff =>
    rw [mem_middleArgs_iff (by decide)]
    simp
  case timeout_value =>
    intro d hd
    have hargs : timeoutArgs o = ["--connect-timeout", d.decimalSeconds] := by
      rw [timeoutArgs, hd]
    exact ⟨certificateArgs e o t ++ resolveArgs o t, [], by
      rw [middleArgs, hargs, List.append_nil]⟩
  case once => exact filter_flags_sublist e o t

theorem Middle.not_both {args : List String} (h : Middle e o t args) :
    ¬ ("--insecure" ∈ args ∧ "--cacert" ∈ args) := by
  rw [h.insecure_iff, h.cacert_iff]
  rintro ⟨⟨-, hinsecure⟩, -, hsecure, -⟩
  rw [hinsecure] at hsecure
  cases hsecure

/-! The whole command. -/

theorem command_eq_error_iff : command e o urls = .error err ↔ Refused urls err := by
  rw [← readTarget_eq_error_iff]
  unfold command
  cases readTarget urls with
  | error err' =>
    show (Except.error err' : Except ProbeError (List String)) = .error err ↔ _
    rw [Except.error.injEq, Except.error.injEq]
  | ok t => exact iff_of_false nofun nofun

theorem command_of_isOf (ht : t.IsOf url) (rest : List String) : command e o (url :: rest) =
    .ok ([e.curl, "-s", "-D", e.headerFile.text] ++ middleArgs e o t ++ o.options ++
      url :: rest) := by
  unfold command
  rw [readTarget_cons_eq_ok_iff.mpr ht]
  rfl

/-- A request has a command unless its first URL is missing or has no target. The command is the
program, the file for the headers, arguments that are the same for all lists that begin with that
URL, the options of the caller and the URLs. -/
theorem command_shape (e : Environment) (o : CurlOptions) :
    (∀ urls err, command e o urls = .error err ↔ Refused urls err) ∧
      ∀ url, (∃ err, ∀ rest, command e o (url :: rest) = .error err) ∨
        ∃ t middle, t.IsOf url ∧ Middle e o t middle ∧
          ¬ ("--insecure" ∈ middle ∧ "--cacert" ∈ middle) ∧
          ∀ rest, command e o (url :: rest) = .ok
            ([e.curl, "-s", "-D", e.headerFile.text] ++ middle ++ o.options ++ url :: rest) := by
  refine ⟨fun urls err => command_eq_error_iff, fun url => ?_⟩
  cases h : readTarget [url] with
  | error err =>
    left
    exact ⟨err, fun rest => command_eq_error_iff.mpr (readTarget_eq_error_iff.mp h)⟩
  | ok t =>
    right
    have ht : t.IsOf url := read_of_readTarget h
    have hmiddle := middle_middleArgs e o t
    exact ⟨t, _, ht, hmiddle, hmiddle.not_both, command_of_isOf ht⟩

end Curl

end WebTestbed
