import WebTestbed.ErrorLog.Basic
import WebTestbed.Proofs.Files.FileTree
import WebTestbed.Proofs.Text.Lines
import WebTestbed.Proofs.Text.Utf8

/-! A log that is read forward while it grows by whole lines: what the looks find is what is found in
all that was added. -/
namespace WebTestbed

namespace FileTree

/-- The content of a file; one that cannot be read counts as empty. -/
def content (t : FileTree) (p : Path) : Bytes :=
  match t.read p with
  | .ok b => b
  | .error _ => []

theorem content_append {t t' : FileTree} {p : Path} {more : Bytes}
    (h : t.append p more = .ok t') : t'.content p = t.content p ++ more := by
  obtain ⟨old, hold, hnew⟩ := read_append h
  have hcontent : t.content p = old := by
    obtain hr | ⟨hr, rfl⟩ := hold <;> rw [content, hr]
  rw [hcontent, content, hnew]

end FileTree

namespace Findings

theorem ofLines_append (i : ErrorLog.Ignored) (a b : List String) :
    ofLines i (a ++ b) = (ofLines i a).append (ofLines i b) := by
  simp only [ofLines, append, List.filter_append]

end Findings

namespace ErrorLog

def logLines (b : Bytes) : List String :=
  (Text.lines (Utf8.lossy b)).map String.ofList

/-- Bytes that end where a line ends. -/
def WholeLines (b : Bytes) : Prop :=
  b = [] ∨ ∃ a, b = a ++ [0x0A]

theorem WholeLines.append {a b : Bytes} (ha : WholeLines a) (hb : WholeLines b) :
    WholeLines (a ++ b) := by
  obtain rfl | ⟨b', rfl⟩ := hb
  · rwa [List.append_nil]
  · right
    exact ⟨a ++ b', (List.append_assoc a b' _).symm⟩

/-- Whole lines are decoded and cut apart from what comes after them. -/
theorem logLines_append {a : Bytes} (ha : WholeLines a) (b : Bytes) :
    logLines (a ++ b) = logLines a ++ logLines b := by
  obtain rfl | ⟨a', rfl⟩ := ha
  · rfl
  · have hlossy := Utf8.lossy_append_lineFeed_append a' b
    have hlines := Text.lines_append_lineFeed_append (Utf8.lossy a') (Utf8.lossy b)
    rw [logLines, hlossy, hlines, List.map_append, ← Utf8.lossy_append_lineFeed]
    rfl

variable {t : FileTree} {p : Path} {g g' : ErrorLog} {f : Findings} {advance : Bool}

theorem sizeOf_eq (t : FileTree) (p : Path) : sizeOf t p = (t.content p).length := by
  unfold sizeOf FileTree.content
  cases t.read p <;> rfl

/-- What is new to a log. -/
def news (g : ErrorLog) (t : FileTree) : Bytes :=
  (t.content g.path).drop g.position

theorem news_eq {old seen rest : Bytes} (hpath : g.path = p)
    (hcontent : t.content p = old ++ (seen ++ rest))
    (hposition : g.position = old.length + seen.length) : g.news t = rest := by
  rw [news, hpath, hcontent, hposition, ← List.append_assoc, ← List.length_append,
    List.drop_left]

theorem linesFrom_eq_ok {position after : Nat} {ls : List String}
    (h : g.linesFrom t position = .ok (ls, after)) :
    ls = logLines ((t.content g.path).drop position) ∧
      after = position + ((t.content g.path).drop position).length := by
  unfold linesFrom at h
  unfold FileTree.content
  cases hr : t.read g.path with
  | ok b =>
    rw [hr] at h
    cases h
    exact ⟨rfl, rfl⟩
  | error e =>
    rw [hr] at h
    rw [List.drop_nil]
    cases e <;> cases h
    exact ⟨rfl, rfl⟩

/-- What a look returns and how it changes the log. -/
theorem recent_eq_ok (h : g.recent t advance = .ok (f, g')) :
    f = Findings.ofLines g.ignored (logLines (g.news t)) ∧
      g' = { g with
        position := if advance then g.position + (g.news t).length else g.position
        last := f
        observed := g.observed.append f } := by
  unfold recent at h
  obtain ⟨⟨ls, after⟩, hl, hr⟩ := bind_eq_ok_iff.mp h
  obtain ⟨rfl, rfl⟩ := linesFrom_eq_ok hl
  cases hr
  exact ⟨rfl, rfl⟩

theorem recentCount_eq_ok {n : Nat × Nat} (h : g.recentCount t advance = .ok (n, g')) :
    g.recent t advance = .ok (g'.last, g') ∧
      n = (g'.last.errors.length, g'.last.warnings.length) := by
  unfold recentCount at h
  obtain ⟨⟨f, g''⟩, hr, hn⟩ := bind_eq_ok_iff.mp h
  have hlast : g''.last = f := by rw [(recent_eq_ok hr).2]
  cases hn
  rw [hlast]
  exact ⟨hr, rfl⟩

/-- A look that does not advance returns what one that does would. -/
theorem recent_false (g : ErrorLog) (t : FileTree) :
    (g.recent t false).map Prod.fst = (g.recent t true).map Prod.fst := by
  unfold recent
  cases g.linesFrom t g.position <;> rfl

theorem recentCount_false (g : ErrorLog) (t : FileTree) :
    (g.recentCount t false).map Prod.fst = (g.recentCount t true).map Prod.fst := by
  unfold recentCount recent
  cases g.linesFrom t g.position <;> rfl

/-- What happens to a log, and what is asked of it. -/
inductive Event where
  | append (more : Bytes)
  | recent (advance : Bool)
  | recentCount (advance : Bool)
  | scan (pattern : Pattern)

def Event.added : Event → Bytes
  | .append more => more
  | _ => []

/-- A log, the files that it is one of, and what looks that advance have found, in order. -/
structure Watch where
  log : ErrorLog
  files : FileTree
  found : Findings := {}

namespace Watch

/-- A look that counts finds what it counts. -/
def step (w : Watch) : Event → Except FileError Watch
  | .append more => do
    let t ← w.files.append w.log.path more
    return { w with files := t }
  | .recent advance => do
    let (f, g) ← w.log.recent w.files advance
    return { w with log := g, found := if advance then w.found.append f else w.found }
  | .recentCount advance => do
    let (_, g) ← w.log.recentCount w.files advance
    return { w with log := g, found := if advance then w.found.append g.last else w.found }
  | .scan pattern => do
    let _ ← w.log.scan w.files pattern
    return w

def run (w : Watch) (events : List Event) : Except FileError Watch :=
  events.foldlM step w

variable {old seen rest : Bytes} {i : Ignored} {w w' : Watch} {ev : Event}

/-- All that an event can do: add to the log, look at it, or change nothing. -/
theorem step_cases (h : w.step ev = .ok w') :
    (∃ t, w.files.append w.log.path ev.added = .ok t ∧ w' = { w with files := t }) ∨
    (ev.added = [] ∧ ∃ advance f g, w.log.recent w.files advance = .ok (f, g) ∧
      w' = { w with log := g, found := if advance then w.found.append f else w.found }) ∨
    (ev.added = [] ∧ w' = w) := by
  cases ev with
  | append more =>
    obtain ⟨t, ht, hw⟩ := bind_eq_ok_iff.mp h
    cases hw
    exact .inl ⟨t, ht, rfl⟩
  | recent advance =>
    obtain ⟨⟨f, g⟩, hr, hw⟩ := bind_eq_ok_iff.mp h
    cases hw
    exact .inr (.inl ⟨rfl, advance, f, g, hr, rfl⟩)
  | recentCount advance =>
    obtain ⟨⟨n, g⟩, hc, hw⟩ := bind_eq_ok_iff.mp h
    obtain ⟨hr, -⟩ := recentCount_eq_ok hc
    cases hw
    exact .inr (.inl ⟨rfl, advance, g.last, g, hr, rfl⟩)
  | scan pattern =>
    obtain ⟨b, -, hw⟩ := bind_eq_ok_iff.mp h
    cases hw
    exact .inr (.inr ⟨rfl, rfl⟩)

/-- The log was read up to `seen`, and `rest` was added to it since; before all that it held `old`. -/
structure Forward (i : Ignored) (p : Path) (old seen rest : Bytes) (w : Watch) : Prop where
  path : w.log.path = p
  ignored : w.log.ignored = i
  position : w.log.position = old.length + seen.length
  content : w.files.content p = old ++ (seen ++ rest)
  found : w.found = Findings.ofLines i (logLines seen)
  wholeSeen : WholeLines seen
  wholeRest : WholeLines rest

theorem Forward.news (h : Forward i p old seen rest w) : w.log.news w.files = rest :=
  news_eq h.path h.content h.position

/-- A look finds what is in the rest, and if it advances, no more rest is left. -/
theorem Forward.recent (h : Forward i p old seen rest w)
    (hr : w.log.recent w.files advance = .ok (f, g)) :
    f = Findings.ofLines i (logLines rest) ∧
      ∃ seen' rest', seen' ++ rest' = seen ++ rest ∧
        Forward i p old seen' rest'
          { w with log := g, found := if advance then w.found.append f else w.found } := by
  obtain ⟨hf, hg⟩ := recent_eq_ok hr
  rw [h.news, h.ignored] at hf
  rw [h.news] at hg
  refine ⟨hf, ?_⟩
  cases advance with
  | false =>
    refine ⟨seen, rest, rfl, ?_⟩
    rw [hg]
    exact ⟨h.path, h.ignored, h.position, h.content, h.found, h.wholeSeen, h.wholeRest⟩
  | true =>
    refine ⟨seen ++ rest, [], List.append_nil _, ?_⟩
    rw [hg]
    constructor
    case path => exact h.path
    case ignored => exact h.ignored
    case position =>
      change w.log.position + rest.length = old.length + (seen ++ rest).length
      rw [h.position, List.length_append]
      omega
    case content =>
      rw [List.append_nil]
      exact h.content
    case found =>
      change w.found.append f = _
      rw [h.found, hf, logLines_append h.wholeSeen, Findings.ofLines_append]
    case wholeSeen => exact h.wholeSeen.append h.wholeRest
    case wholeRest => exact .inl rfl

theorem Forward.append (h : Forward i p old seen rest w) {more : Bytes} (hm : WholeLines more)
    (ha : w.files.append w.log.path more = .ok t) :
    Forward i p old seen (rest ++ more) { w with files := t } := by
  rw [h.path] at ha
  have hcontent : t.content p = old ++ (seen ++ (rest ++ more)) := by
    rw [FileTree.content_append ha, h.content]
    simp only [List.append_assoc]
  exact ⟨h.path, h.ignored, h.position, hcontent, h.found, h.wholeSeen, h.wholeRest.append hm⟩

theorem Forward.step (h : Forward i p old seen rest w) (hev : WholeLines ev.added)
    (hs : w.step ev = .ok w') :
    ∃ seen' rest', seen' ++ rest' = seen ++ rest ++ ev.added ∧ Forward i p old seen' rest' w' := by
  obtain ⟨t, ht, rfl⟩ | ⟨hadded, advance, f, g, hr, rfl⟩ | ⟨hadded, rfl⟩ := step_cases hs
  · exact ⟨seen, rest ++ ev.added, (List.append_assoc _ _ _).symm, h.append hev ht⟩
  · rw [hadded, List.append_nil]
    exact (h.recent hr).2
  · rw [hadded, List.append_nil]
    exact ⟨seen, rest, rfl, h⟩

theorem Forward.run {events : List Event} (h : Forward i p old seen rest w)
    (hwhole : ∀ ev ∈ events, WholeLines ev.added) (hr : w.run events = .ok w') :
    ∃ seen' rest', seen' ++ rest' = seen ++ rest ++ events.flatMap Event.added ∧
      Forward i p old seen' rest' w' := by
  induction events generalizing w seen rest with
  | nil =>
    have hw : w = w' := Except.ok.inj hr
    rw [List.flatMap_nil, List.append_nil, ← hw]
    exact ⟨seen, rest, rfl, h⟩
  | cons ev events ih =>
    obtain ⟨hev, hevents⟩ := List.forall_mem_cons.mp hwhole
    obtain ⟨m, hs, hrest⟩ := bind_eq_ok_iff.mp hr
    obtain ⟨seen₁, rest₁, hadded₁, h₁⟩ := h.step hev hs
    obtain ⟨seen₂, rest₂, hadded₂, h₂⟩ := ih h₁ hevents hrest
    refine ⟨seen₂, rest₂, ?_, h₂⟩
    rw [hadded₂, hadded₁, List.flatMap_cons, ← List.append_assoc]

theorem forward_watch (t : FileTree) (p : Path) (i : Ignored) :
    Forward i p (t.content p) [] [] ⟨{ ErrorLog.watch t p with ignored := i }, t, {}⟩ := by
  constructor
  case path => rfl
  case ignored => rfl
  case position => exact sizeOf_eq t p
  case content => rw [List.append_nil, List.append_nil]
  case found => rfl
  case wholeSeen => exact .inl rfl
  case wholeRest => exact .inl rfl

/-- Reading forward loses nothing and finds nothing twice: the looks that advance and one last look
find together what is found in all that was added since watching began. -/
theorem found_append_recent (t : FileTree) (p : Path) (i : Ignored) {events : List Event}
    (hwhole : ∀ ev ∈ events, WholeLines ev.added)
    (hrun : Watch.run ⟨{ ErrorLog.watch t p with ignored := i }, t, {}⟩ events = .ok w)
    (hlast : w.log.recent w.files true = .ok (f, g)) :
    w.found.append f = Findings.ofLines i (logLines (events.flatMap Event.added)) ∧
      ∀ (g : ErrorLog) (t : FileTree),
        (g.recent t false).map Prod.fst = (g.recent t true).map Prod.fst ∧
        (g.recentCount t false).map Prod.fst = (g.recentCount t true).map Prod.fst ∧
        ∀ advance n g', g.recentCount t advance = .ok (n, g') →
          n = (g'.last.errors.length, g'.last.warnings.length) := by
  obtain ⟨seen, rest, hadded, h⟩ := (forward_watch t p i).run hwhole hrun
  obtain ⟨hf, -⟩ := h.recent hlast
  rw [List.nil_append, List.nil_append] at hadded
  constructor
  · rw [← hadded, logLines_append h.wholeSeen, Findings.ofLines_append, h.found, hf]
  · intro g t
    exact ⟨recent_false g t, recentCount_false g t, fun _ _ _ hc => (recentCount_eq_ok hc).2⟩

/-- Text that is not UTF-8 after a line that is not ended, looks of all kinds, and one more line. -/
def sampleEvents : List Event :=
  [.append (0xFF :: Utf8.encode "[a:error] 1\r\n"), .recent false, .recentCount true, .scan .empty,
    .append (Utf8.encode "[b:warn] 2\n")]

def sampleFiles : FileTree :=
  ⟨[], [(["error_log"], .file (Utf8.encode "[a:error]") false)]⟩

theorem found_append_recent_sample :
    ∃ w f g,
      Watch.run ⟨{ ErrorLog.watch sampleFiles "error_log" with ignored := {} }, sampleFiles, {}⟩
        sampleEvents = .ok w ∧
      w.log.recent w.files true = .ok (f, g) ∧
      w.found.append f =
        Findings.ofLines {} (logLines (sampleEvents.flatMap Event.added)) ∧
      f = ⟨[], ["[b:warn] 2"]⟩ := by
  have h : (match Watch.run
        ⟨{ ErrorLog.watch sampleFiles "error_log" with ignored := {} }, sampleFiles, {}⟩
        sampleEvents with
      | .ok w => match w.log.recent w.files true with
        | .ok (f, _) => decide (f = ⟨[], ["[b:warn] 2"]⟩)
        | .error _ => false
      | .error _ => false) = true := by
    decide +kernel
  have hwhole : ∀ ev ∈ sampleEvents, WholeLines ev.added := by
    intro ev hev
    simp only [sampleEvents, List.mem_cons, List.not_mem_nil, or_false] at hev
    obtain rfl | rfl | rfl | rfl | rfl := hev
    · exact .inr ⟨0xFF :: Utf8.encode "[a:error] 1\r", rfl⟩
    · exact .inl rfl
    · exact .inl rfl
    · exact .inl rfl
    · exact .inr ⟨Utf8.encode "[b:warn] 2", rfl⟩
  split at h
  · next w hrun =>
    split at h
    · next f g hlast =>
      have hfound := (found_append_recent sampleFiles "error_log" {} hwhole hrun hlast).1
      exact ⟨w, f, g, hrun, hlast, hfound, of_decide_eq_true h⟩
    · cases h
  · cases h

end Watch

end ErrorLog

end WebTestbed
