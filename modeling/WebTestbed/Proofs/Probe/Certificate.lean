import WebTestbed.Proofs.Files.Path
import WebTestbed.Proofs.Url.Host
import WebTestbed.Probe.Curl

/-! Which requests trust the certificates of the tests. A host has its certificate under the name
that it is configured with, and a request looks for one under the name that its URL is read to. -/
namespace WebTestbed

theorem Environment.caFile_text_ne (e : Environment) {s : String}
    (hs : s.toList.getLast? ≠ some 'm') : e.caFile.text ≠ s := by
  rintro rfl
  exact hs (Path.getLast?_join e.caDir (by decide))

namespace Curl

variable {e : Environment}

/-- Curl is told to trust the authority that the certificates of the tests come from. -/
def Trusts (e : Environment) (args : List String) : Prop :=
  ["--cacert", e.caFile.text] <:+: args

theorem command_of_readTarget {url : String} {t : Target} (ht : readTarget [url] = .ok t) :
    command e {} [url] = .ok ([e.curl, "-s", "-D", e.headerFile.text] ++
      (certificateArgs e {} t ++ resolveArgs {} t ++ ["--connect-timeout", "10"]) ++ [url]) := by
  have htime : timeoutArgs {} = ["--connect-timeout", "10"] := by decide +kernel
  unfold command
  rw [ht, ← htime]
  exact congrArg (fun args => Except.ok (args ++ [url])) (List.append_nil _)

/-- A request for one URL trusts the certificates of the tests exactly if it is made by https to a
host that has one. -/
theorem trusts_iff {url : String} {args : List String} {t : Target}
    (hargs : command e {} [url] = .ok args) (ht : readTarget [url] = .ok t) :
    Trusts e args ↔ t.scheme = "https" ∧ (e.credentials? t.host).isSome = true := by
  have hcert : certificateArgs e {} t =
      if t.scheme = "https" ∧ (e.credentials? t.host).isSome = true then
        ["--cacert", e.caFile.text]
      else [] := by
    by_cases hscheme : t.scheme = "https" <;> simp [certificateArgs, hscheme]
  rw [command_of_readTarget ht, Except.ok.injEq] at hargs
  rw [Trusts, ← hargs, hcert]
  split
  · next h =>
    refine iff_of_true ?_ h
    exact ⟨[e.curl, "-s", "-D", e.headerFile.text],
      resolveArgs {} t ++ ["--connect-timeout", "10", url], by simp⟩
  · next h =>
    refine iff_of_false ?_ h
    -- the arguments that are not fixed may be anything, but what follows each of them is no file
    have hs := e.caFile_text_ne (show "-s".toList.getLast? ≠ some 'm' by decide)
    have hresolve := e.caFile_text_ne (show "--resolve".toList.getLast? ≠ some 'm' by decide)
    have htimeout :=
      e.caFile_text_ne (show "--connect-timeout".toList.getLast? ≠ some 'm' by decide)
    unfold resolveArgs
    split <;> simp [List.infix_cons_iff, List.cons_prefix_cons, hs, hresolve, htimeout]

theorem readTarget_of_read {url : String} {u : Url} {host : UrlHost} {port : UInt16}
    (h : Url.read url = .ok u) (hhost : u.host = some host) (hport : u.portOrKnown? = some port) :
    readTarget [url] = .ok ⟨u.scheme, host.write, port⟩ := by
  simp only [readTarget, h, hhost, hport]

/-- What is asked for is what the URL is read to. -/
theorem read_of_readTarget {url : String} {t : Target} (h : readTarget [url] = .ok t) :
    ∃ u host, Url.read url = .ok u ∧ u.host = some host ∧ u.portOrKnown? = some t.port ∧
      t.scheme = u.scheme ∧ t.host = host.write := by
  cases hu : Url.read url with
  | error err => simp [readTarget, hu] at h
  | ok u =>
    cases hhost : u.host with
    | none => simp [readTarget, hu, hhost] at h
    | some host =>
      cases hport : u.portOrKnown? with
      | none => simp [readTarget, hu, hhost, hport] at h
      | some port =>
        rw [readTarget_of_read hu hhost hport] at h
        cases h
        exact ⟨u, host, rfl, hhost, hport, rfl, rfl⟩

section Names

variable {name path : String}

theorem url_https (e : Environment) (name path : String) : e.url "https" name path =
    "https:" ++ ("//" ++ e.host name ++ ":" ++ toString e.httpsPort.toNat ++ path) := by
  apply String.toList_inj.mp
  simp [Environment.url]

theorem toList_host_ne_nil (e : Environment) (name : String) : (e.host name).toList ≠ [] := by
  simp [Environment.host]

/-- A host of the tests with a name in ASCII can be asked for: the request goes to the name in lower
case. -/
theorem readTarget_url (hname : DomainName.IsAsciiName (e.host name).toList)
    (hlabels : ∀ l ∈ Text.pieces '.' ((e.host name).toList.map Char.toLower),
      DomainName.punycodeMark.isPrefixOf l = false)
    (hpath : path.toList.takeWhile (!Url.endsAuthority .web ·) = []) :
    readTarget [e.url "https" name path] =
      .ok ⟨"https", Text.lowercase (e.host name), e.httpsPort⟩ := by
  have hne := toList_host_ne_nil e name
  have hhost := UrlHost.read_of_isAsciiName hname hne hlabels
  obtain ⟨rest, hread⟩ := Url.read_eq_ok e.httpsPort hname.isAllowed hne hhost hpath
  rw [← url_https] at hread
  refine readTarget_of_read hread rfl ?_
  unfold Url.portOrKnown?
  split
  · next h => rw [Option.none_or, h]
  · rfl

/-- A request by https for a host of the tests trusts their certificates exactly if there is one for
the host that the URL is read to. That host is what the name is read to where the name has only
characters of domain names, and in ASCII it is the name in lower case. So the server and its clients
agree on all names in lower case, and on others only where the name in lower case has a certificate
as well. -/
theorem trusts_url_iff {args : List String}
    (hargs : command e {} [e.url "https" name path] = .ok args) :
    ∃ t, readTarget [e.url "https" name path] = .ok t ∧
      (Trusts e args ↔ (e.credentials? t.host).isSome = true) ∧
      ('@' ∉ path.toList.takeWhile (!Url.endsAuthority .web ·) →
        (DomainName.IsAllowed (e.host name).toList →
          ∃ host, UrlHost.read (e.host name).toList = .ok host ∧ t.host = host.write) ∧
        (DomainName.IsAsciiName (e.host name).toList → t.host = Text.lowercase (e.host name) ∧
          (Trusts e args ↔ (e.credentials? (Text.lowercase (e.host name))).isSome = true) ∧
          (Text.lowercase (e.host name) = e.host name →
            (e.credentials? (e.host name)).isSome = true → Trusts e args))) := by
  obtain ⟨t, ht⟩ : ∃ t, readTarget [e.url "https" name path] = .ok t := by
    cases h : readTarget [e.url "https" name path] with
    | ok t => exact ⟨t, rfl⟩
    | error err =>
      unfold command at hargs
      rw [h] at hargs
      cases hargs
  obtain ⟨u, host, hu, hhost, -, hscheme, hwrite⟩ := read_of_readTarget ht
  rw [url_https] at hu
  have htrusts : Trusts e args ↔ (e.credentials? t.host).isSome = true := by
    rw [trusts_iff hargs ht, hscheme, Url.scheme_of_read_https hu]
    exact and_iff_right rfl
  have hread : '@' ∉ path.toList.takeWhile (!Url.endsAuthority .web ·) →
      DomainName.IsAllowed (e.host name).toList → UrlHost.read (e.host name).toList = .ok host := by
    intro hpath hname
    obtain ⟨host', hread, hhost'⟩ := Url.host_of_read hname (toList_host_ne_nil e name) hpath hu
    rw [hhost, Option.some.injEq] at hhost'
    rw [hread, hhost']
  refine ⟨t, ht, htrusts, fun hpath => ⟨fun h => ⟨host, hread hpath h, hwrite⟩, fun hname => ?_⟩⟩
  have hlower : t.host = Text.lowercase (e.host name) := by
    rw [hwrite, UrlHost.eq_of_read hname (hread hpath hname.isAllowed)]
    rfl
  rw [hlower] at htrusts
  refine ⟨hlower, htrusts, fun hsame hcred => htrusts.mpr ?_⟩
  rw [hsame]
  exact hcred

theorem trusts_url_iff_test1 :
    let e := Environment.ofSettings {} "w" none none
    ∃ args, command e {} [e.url "https" "test1" "/index.html"] = .ok args ∧ Trusts e args := by
  intro e
  have hname : DomainName.IsAsciiName (e.host "test1").toList :=
    ⟨by decide +kernel, by decide +kernel, by decide +kernel⟩
  have hargs := command_of_readTarget (e := e)
    (readTarget_url hname (by decide +kernel) (show "/index.html".toList.takeWhile _ = [] by decide))
  refine ⟨_, hargs, ?_⟩
  obtain ⟨t, -, -, h⟩ := trusts_url_iff hargs
  exact ((h (by decide)).2 hname).2.2 (by decide +kernel) (by decide +kernel)

/-- A domain that is configured with capital letters: a host has a certificate, and requests for it
do not trust that. -/
theorem not_trusts_capital :
    let e := Environment.ofSettings { test := { domain := "Tests.Example" } } "w" none none
    (e.credentials? (e.host "test1")).isSome = true ∧
      ∃ args, command e {} [e.url "https" "test1" "/"] = .ok args ∧ ¬ Trusts e args := by
  intro e
  have hname : DomainName.IsAsciiName (e.host "test1").toList :=
    ⟨by decide +kernel, by decide +kernel, by decide +kernel⟩
  have ht : readTarget [e.url "https" "test1" "/"] = .ok ⟨"https", _, _⟩ :=
    readTarget_url hname (by decide +kernel) (by decide)
  have hnone : (e.credentials? (Text.lowercase (e.host "test1"))).isSome = false := by
    decide +kernel
  refine ⟨by decide +kernel, _, command_of_readTarget ht, ?_⟩
  rw [trusts_iff (command_of_readTarget ht) ht, hnone]
  rintro ⟨-, h⟩
  cases h

end Names

end Curl

end WebTestbed
