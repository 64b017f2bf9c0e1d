import WebTestbed.Proofs.Host.Nesting

/-! Which certificate a name has: that of the first list that holds the name, whatever is added
later. Its directives are the certificate lines of a host. -/
namespace WebTestbed

/-- The files of a certificate in a directory, by the name that they are called after. -/
def Credentials.named (dir : Path) (name : String) : Credentials :=
  ⟨dir.join ⟨name ++ ".cert.pem"⟩, dir.join ⟨name ++ ".pkey.pem"⟩⟩

namespace CertificateSpec

variable {dir : Path} {domain : String} {spec : CertificateSpec} {x : Credentials}

theorem credentials?_cons (dir : Path) (domain name : String) (others : List String) :
    credentials? dir domain ⟨name :: others⟩ =
      if domain ∈ name :: others then some (.named dir name) else none := by
  by_cases h : domain ∈ name :: others
  · rw [if_pos h, credentials?, if_pos (List.contains_iff_mem.mpr h)]
    rfl
  · rw [if_neg h, credentials?, if_neg (mt List.contains_iff_mem.mp h)]

theorem credentials?_eq_some_iff :
    spec.credentials? dir domain = some x ↔ ∃ name others, spec = ⟨name :: others⟩ ∧
      domain ∈ name :: others ∧ x = .named dir name := by
  obtain ⟨domains⟩ := spec
  cases domains with
  | nil => simp [credentials?]
  | cons name others =>
    rw [credentials?_cons]
    constructor
    · intro hx
      split at hx
      · next h => exact ⟨name, others, rfl, h, (Option.some.inj hx).symm⟩
      · cases hx
    · rintro ⟨_, _, heq, h, rfl⟩
      cases heq
      exact if_pos h

theorem credentials?_eq_none_iff : spec.credentials? dir domain = none ↔ domain ∉ spec.domains := by
  obtain ⟨domains⟩ := spec
  cases domains with
  | nil => simp [credentials?]
  | cons name others =>
    rw [credentials?_cons, ite_eq_right_iff]
    exact forall_congr' fun _ => iff_of_false (Option.some_ne_none _) id

end CertificateSpec

namespace Environment

variable {e : Environment} {domain : String} {x : Credentials}

theorem credentials?_eq_some_iff :
    e.credentials? domain = some x ↔ ∃ before name others after,
      e.certificates = before ++ ⟨name :: others⟩ :: after ∧
        (∀ spec ∈ before, domain ∉ spec.domains) ∧ domain ∈ name :: others ∧
        x = .named e.caDir name := by
  unfold credentials?
  rw [List.findSome?_eq_some_iff]
  simp only [CertificateSpec.credentials?_eq_some_iff, CertificateSpec.credentials?_eq_none_iff]
  constructor
  · rintro ⟨before, _, after, hlist, ⟨name, others, rfl, hmem, hx⟩, hbefore⟩
    exact ⟨before, name, others, after, hlist, hbefore, hmem, hx⟩
  · rintro ⟨before, name, others, after, hlist, hbefore, hmem, hx⟩
    exact ⟨before, _, after, hlist, ⟨name, others, rfl, hmem, hx⟩, hbefore⟩

theorem isSome_credentials?_iff (e : Environment) (domain : String) :
    (e.credentials? domain).isSome = true ↔ ∃ spec ∈ e.certificates, domain ∈ spec.domains := by
  unfold credentials?
  rw [List.isSome_findSome?, List.any_eq_true]
  refine exists_congr fun spec => and_congr_right fun _ => ?_
  rw [← not_iff_not, Bool.not_eq_true, Option.isSome_eq_false_iff, Option.isNone_iff_eq_none,
    CertificateSpec.credentials?_eq_none_iff]

/-- What a list of certificates has for a name in an environment. -/
def lookIn? (e : Environment) (domain : String) (specs : List CertificateSpec) :
    Option Credentials :=
  { e with certificates := specs }.credentials? domain

/-- A name keeps its certificate when others are added. -/
theorem credentials?_addCertificates (e : Environment) (specs : List CertificateSpec)
    (domain : String) :
    (e.addCertificates specs).credentials? domain =
      (e.credentials? domain).or (e.lookIn? domain specs) :=
  List.findSome?_append

theorem credentials?_foldl_addCertificates (e : Environment)
    (batches : List (List CertificateSpec)) (domain : String) :
    (batches.foldl addCertificates e).credentials? domain =
      (e.credentials? domain).or (batches.findSome? (e.lookIn? domain)) := by
  induction batches generalizing e with
  | nil => simp
  | cons specs batches ih =>
    have hsame : (e.addCertificates specs).lookIn? domain = e.lookIn? domain := rfl
    rw [List.foldl_cons, ih, credentials?_addCertificates, hsame, List.findSome?_cons,
      Option.or_assoc]
    cases e.lookIn? domain specs <;> rfl

/-- The directives for the certificate of a name, if there is one and a TLS module to serve it. -/
def certificateDirectives (e : Environment) (domain : String) : List String :=
  match e.tls, e.credentials? domain with
  | some m, some x => m.certificateDirectives x
  | _, _ => []

end Environment

namespace ServerConfig
open Document

theorem tlsLines_eq (c : ServerConfig) (h : Host) :
    c.tlsLines h =
      if c.servesTls h then
        (c.env.tls.bind (·.engineDirective)).toList ++ c.env.certificateDirectives h.name
      else [] := by
  unfold tlsLines Environment.certificateDirectives certificateLines
  cases c.env.tls <;> cases c.env.credentials? h.name <;> rfl

/-- A name has the certificate of the first list that holds it, in the order in which the lists are
added, and a host that serves TLS has the directives for that certificate. -/
theorem first_spec_certifies (c : ServerConfig) (batches : List (List CertificateSpec))
    (domain : String) (aliases : List String) (port : Option UInt16) (root : String)
    (withTls : Bool) :
    let e := c.env
    let h : Host := ⟨domain, aliases, port, root, withTls⟩
    (∀ x, e.credentials? domain = some x ↔ ∃ before name others after,
      e.certificates = before ++ ⟨name :: others⟩ :: after ∧
        (∀ spec ∈ before, domain ∉ spec.domains) ∧ domain ∈ name :: others ∧
        x = ⟨e.caDir.join ⟨name ++ ".cert.pem"⟩, e.caDir.join ⟨name ++ ".pkey.pem"⟩⟩) ∧
    ((e.credentials? domain).isSome = true ↔ ∃ spec ∈ e.certificates, domain ∈ spec.domains) ∧
    (batches.foldl Environment.addCertificates e).credentials? domain =
      (e.credentials? domain).or (batches.findSome? (e.lookIn? domain)) ∧
    ∃ d, c.startHost (domain :: aliases) port root withTls = .ok d ∧
      d.document.lines =
        c.document.lines ++ ["", hostLine (c.portOf h)].map (indent c.document.depth) ++
          (linesOf (hostLines h) ++
            (if c.servesTls h then
              linesOf (e.tls.bind (·.engineDirective)).toList ++
                linesOf (e.certificateDirectives domain)
            else []) ++
            linesOf ((c.extras.get? domain).getD [] ++ c.protocolLines h)).map
              (indent (c.document.depth + 1)) := by
  intro e h
  refine ⟨fun x => Environment.credentials?_eq_some_iff,
    Environment.isSome_credentials?_iff e domain,
    Environment.credentials?_foldl_addCertificates e batches domain, c.openHost h, rfl, ?_⟩
  rw [lines_openHost, openingLines, tlsLines_eq]
  split
  · simp only [linesOf_append, List.append_assoc]
    rfl
  · simp only [linesOf_append, List.append_assoc]
    rfl

end ServerConfig

end WebTestbed
