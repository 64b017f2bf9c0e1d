import WebTestbed.Proofs.Text.Basic
import WebTestbed.Settings.Ini

/-! Settings files as they are written: sections, with a line for each key and its value. What is
read from them is what was written. -/
namespace WebTestbed.Ini

/-- The line that gives a key its value. -/
def writeProperty (p : String × String) : List Char :=
  p.1.toList ++ ' ' :: '=' :: ' ' :: (p.2.toList ++ ['\n'])

/-- A section: its name on a line, and its properties. -/
def writeSection (s : String × Properties) : List Char :=
  '[' :: (s.1.toList ++ ']' :: '\n' :: s.2.flatMap writeProperty)

/-- A settings file of sections. -/
def write (l : List (String × Properties)) : List Char :=
  l.flatMap writeSection

/-- No blanks at either end. -/
def IsTidy (s : String) : Prop :=
  Text.trim s.toList = s.toList

instance (s : String) : Decidable (IsTidy s) :=
  instDecidableEqList (Text.trim s.toList) s.toList

/-- A name that a section can have as it stands. -/
structure IsName (s : String) : Prop where
  tidy : IsTidy s
  plain : ∀ c ∈ s.toList, c ≠ '\\' ∧ c ≠ ']'

instance (s : String) : Decidable (IsName s) :=
  decidable_of_iff (IsTidy s ∧ s.toList.all fun c => c ≠ '\\' ∧ c ≠ ']')
    ⟨fun h => ⟨h.1, by simpa using h.2⟩, fun h => ⟨h.tidy, by simpa using h.plain⟩⟩

/-- A key that can stand before an equals sign as it is. -/
structure IsKey (s : String) : Prop where
  tidy : IsTidy s
  nonempty : s.toList ≠ []
  start : ∀ c ∈ s.toList.head?, c ≠ ';' ∧ c ≠ '#' ∧ c ≠ '['
  plain : ∀ c ∈ s.toList, c ≠ '\\' ∧ c ≠ '=' ∧ c ≠ ':'

instance (s : String) : Decidable (IsKey s) :=
  decidable_of_iff (IsTidy s ∧ s.toList ≠ [] ∧
      (s.toList.head?.all fun c => c ≠ ';' ∧ c ≠ '#' ∧ c ≠ '[') ∧
      s.toList.all fun c => c ≠ '\\' ∧ c ≠ '=' ∧ c ≠ ':')
    ⟨fun h => ⟨h.1, h.2.1, by simpa [Option.all_eq_true] using h.2.2.1, by simpa using h.2.2.2⟩,
      fun h => ⟨h.tidy, h.nonempty, by simpa [Option.all_eq_true] using h.start,
        by simpa using h.plain⟩⟩

/-- A value that can stand at the end of a line as it is. -/
structure IsValue (s : String) : Prop where
  tidy : IsTidy s
  start : ∀ c ∈ s.toList.head?, c ≠ '"' ∧ c ≠ '\''
  plain : ∀ c ∈ s.toList, c ≠ '\\' ∧ c ≠ '\n' ∧ c ≠ '\r'

variable {ends : Char → Bool} {endAllowed fresh : Bool} {s r : List Char} {c : Char}

theorem textUntil_cons_of_ends (hc : ends c = true) :
    textUntil ends endAllowed fresh (c :: r) = .ok ([], ⟨c :: r, fresh⟩) := by
  rw [textUntil.eq_def]
  exact if_pos hc

theorem textUntil_cons_of_plain (hc : c ≠ '\\' ∧ ends c = false) :
    textUntil ends endAllowed fresh (c :: r) =
      (textUntil ends endAllowed (c = '\n') r).map (put [c]) := by
  rw [textUntil.eq_def]
  dsimp only
  rw [if_neg (Bool.not_eq_true _ ▸ hc.2), if_neg hc.1]

/-- Text without backslashes is read as it is, up to the first character that ends it. -/
theorem textUntil_append (hs : ∀ d ∈ s, d ≠ '\\' ∧ ends d = false) (hc : ends c = true) :
    textUntil ends endAllowed fresh (s ++ c :: r) =
      .ok (s, ⟨c :: r, s.foldl (fun _ d => d = '\n') fresh⟩) := by
  induction s generalizing fresh with
  | nil => exact textUntil_cons_of_ends hc
  | cons d s ih =>
    obtain ⟨hd, hrest⟩ := List.forall_mem_cons.mp hs
    rw [List.cons_append, textUntil_cons_of_plain hd, ih hrest]
    rfl

theorem foldl_fresh_of_not_mem (hs : '\n' ∉ s) :
    s.foldl (fun _ d => decide (d = '\n')) false = false := by
  induction s with
  | nil => rfl
  | cons d s ih =>
    have hd : d ≠ '\n' := fun h => hs (h ▸ List.mem_cons_self)
    rw [List.foldl_cons, decide_eq_false hd]
    exact ih (List.not_mem_of_not_mem_cons hs)

theorem tidy_of_isTidy {s : String} (h : IsTidy s) : tidy s.toList = s := by
  rw [tidy, h, String.ofList_toList]

theorem tidy_append_space {s : String} (h : IsTidy s) : tidy (s.toList ++ [' ']) = s := by
  rw [tidy, Text.trim_append_of_isBlank (by decide), h, String.ofList_toList]

/-- A tidy text does not start with a blank. -/
theorem IsTidy.start {s : String} (h : IsTidy s) : ∀ c ∈ s.toList.head?, Text.isBlank c = false :=
  (Text.trim_eq_self_iff.mp h).1

theorem readItem_section {name : String} (h : IsName name) (fresh : Bool) (r : List Char) :
    readItem fresh '[' (name.toList ++ ']' :: r) = .ok (.section name, ⟨r, false⟩) := by
  have htext : textUntil (· == ']') false false (name.toList ++ ']' :: r) =
      .ok (name.toList, ⟨']' :: r, name.toList.foldl (fun _ d => d = '\n') false⟩) :=
    textUntil_append (fun d hd => ⟨(h.plain d hd).1, by simpa using (h.plain d hd).2⟩) (by decide)
  unfold readItem
  rw [if_neg (by decide), if_pos rfl, htext]
  change Except.ok (Item.section (tidy name.toList), _) = _
  rw [tidy_of_isTidy h.tidy]
  rfl

theorem readValue_append {value : String} (h : IsValue value) (r : List Char) :
    readValue (' ' :: (value.toList ++ '\n' :: r)) = .ok (value.toList, ⟨'\n' :: r, false⟩) := by
  -- the first character after the blank is one of the value, or the end of the line
  obtain ⟨c, u, hu, hblank, hquote⟩ : ∃ c u, value.toList ++ '\n' :: r = c :: u ∧
      isInlineBlank c = false ∧ (c = '"' || c = '\'') = false := by
    cases hv : value.toList with
    | nil => exact ⟨'\n', r, rfl, by decide, by decide⟩
    | cons c v =>
      have hc : c ∈ value.toList.head? := by rw [hv]; rfl
      refine ⟨c, v ++ '\n' :: r, rfl, ?_, by simp [h.start c hc]⟩
      rw [isInlineBlank, h.tidy.start c hc]
      rfl
  have hdrop : (' ' :: c :: u).dropWhile isInlineBlank = c :: u := by
    rw [List.dropWhile_cons_of_pos (by decide), List.dropWhile_cons_of_neg (by simp [hblank])]
  have htext : textUntil endsLine true false (value.toList ++ '\n' :: r) =
      .ok (value.toList, ⟨'\n' :: r, value.toList.foldl (fun _ d => d = '\n') false⟩) :=
    textUntil_append (fun d hd => ⟨(h.plain d hd).1, by simp [endsLine, h.plain d hd]⟩) (by decide)
  rw [foldl_fresh_of_not_mem fun hn => (h.plain _ hn).2.1 rfl] at htext
  rw [hu] at htext ⊢
  unfold readValue
  rw [hdrop]
  simp only [hquote, Bool.false_eq_true, if_false, htext]

theorem readItem_property {key value : String} (hkey : IsKey key) (hvalue : IsValue value)
    {c : Char} {k : List Char} (hk : key.toList = c :: k) (fresh : Bool) (r : List Char) :
    readItem fresh c (k ++ ' ' :: '=' :: ' ' :: (value.toList ++ '\n' :: r)) =
      .ok (.property key value, ⟨'\n' :: r, false⟩) := by
  have hstart : c ≠ ';' ∧ c ≠ '#' ∧ c ≠ '[' := hkey.start c (by rw [hk]; rfl)
  have htext : textUntil (fun c => c = '=' || c = ':') false fresh
      ((key.toList ++ [' ']) ++ '=' :: ' ' :: (value.toList ++ '\n' :: r)) =
      .ok (key.toList ++ [' '], ⟨'=' :: ' ' :: (value.toList ++ '\n' :: r),
        (key.toList ++ [' ']).foldl (fun _ d => d = '\n') fresh⟩) := by
    refine textUntil_append (fun d hd => ?_) (by decide)
    obtain hd | hd := List.mem_append.mp hd
    · exact ⟨(hkey.plain d hd).1, by simp [(hkey.plain d hd).2]⟩
    · rw [List.mem_singleton.mp hd]
      decide
  have htrim : (Text.trim (key.toList ++ [' '])).isEmpty = false := by
    rw [Text.trim_append_of_isBlank (by decide), hkey.tidy, hk]
    rfl
  rw [hk, List.append_assoc, List.cons_append, List.singleton_append] at htext
  unfold readItem
  rw [if_neg (by simp [hstart]), if_neg hstart.2.2, htext]
  rw [hk] at htrim
  have htidy := tidy_append_space hkey.tidy
  rw [hk] at htidy
  simp only [htrim, Bool.false_eq_true, if_false, readValue_append hvalue, Except.map, htidy,
    tidy_of_isTidy hvalue.tidy]

/-- What follows the blanks at the start of a text is read item by item. -/
theorem items_eq (fresh : Bool) (s : List Char) : items fresh s = match skipBlanks fresh s with
    | ⟨[], _⟩ => .ok []
    | ⟨c :: r, fresh⟩ => match readItem fresh c r with
      | .error e => .error e
      | .ok (i, rest) => (items rest.fresh rest.chars).map (i :: ·) := by
  rw [items]
  split
  · next h => rw [h]
  · next h =>
    split
    · next hi => simp only [h, hi]
    · next hi => simp only [h, hi]

theorem items_lineFeed (fresh : Bool) (r : List Char) : items fresh ('\n' :: r) = items true r := by
  rw [items_eq, items_eq true r]
  rfl

theorem items_cons {i : Item} {rest : Rest} (hc : Text.isBlank c = false)
    (hi : readItem fresh c r = .ok (i, rest)) :
    items fresh (c :: r) = (items rest.fresh rest.chars).map (i :: ·) := by
  have hskip : skipBlanks fresh (c :: r) = ⟨c :: r, fresh⟩ := by
    rw [skipBlanks, hc]
    rfl
  rw [items_eq]
  simp only [hskip, hi]

theorem items_writeProperty {p : String × String} (hkey : IsKey p.1) (hvalue : IsValue p.2)
    (r : List Char) :
    items true (writeProperty p ++ r) = (items true r).map (.property p.1 p.2 :: ·) := by
  obtain ⟨c, k, hk⟩ := List.exists_cons_of_ne_nil hkey.nonempty
  have hc : Text.isBlank c = false := hkey.tidy.start c (by rw [hk]; rfl)
  have hread := readItem_property hkey hvalue hk true r
  have htext : writeProperty p ++ r =
      c :: (k ++ ' ' :: '=' :: ' ' :: (p.2.toList ++ '\n' :: r)) := by
    rw [writeProperty, hk]
    simp
  rw [htext, items_cons hc hread, items_lineFeed]

theorem items_writeProperties {ps : Properties} (h : ∀ p ∈ ps, IsKey p.1 ∧ IsValue p.2)
    (r : List Char) : items true (ps.flatMap writeProperty ++ r) =
      (items true r).map ((ps.map fun p => .property p.1 p.2) ++ ·) := by
  induction ps with
  | nil =>
    change items true r = _
    cases items true r <;> rfl
  | cons p ps ih =>
    obtain ⟨hp, hps⟩ := List.forall_mem_cons.mp h
    rw [List.flatMap_cons, List.append_assoc, items_writeProperty hp.1 hp.2, ih hps]
    cases items true r <;> rfl

theorem items_writeSection {s : String × Properties} (hname : IsName s.1)
    (h : ∀ p ∈ s.2, IsKey p.1 ∧ IsValue p.2) (r : List Char) :
    items true (writeSection s ++ r) =
      (items true r).map ((.section s.1 :: s.2.map fun p => .property p.1 p.2) ++ ·) := by
  have htext : writeSection s ++ r =
      '[' :: (s.1.toList ++ ']' :: '\n' :: (s.2.flatMap writeProperty ++ r)) := by
    simp [writeSection]
  rw [htext, items_cons (by decide) (readItem_section hname true _), items_lineFeed,
    items_writeProperties h]
  cases items true r <;> rfl

/-- The items of a section, put before what follows them, are that section. -/
theorem foldr_cons_section (s : String × Properties) (l : List (String × Properties)) :
    (.section s.1 :: s.2.map fun p => Item.property p.1 p.2).foldr Sections.cons ⟨[], l⟩ =
      ⟨[], s :: l⟩ := by
  have hprops : ∀ ps : Properties,
      (ps.map fun p => Item.property p.1 p.2).foldr Sections.cons ⟨[], l⟩ = ⟨ps, l⟩ := by
    intro ps
    induction ps with
    | nil => rfl
    | cons p ps ih => rw [List.map_cons, List.foldr_cons, ih]; rfl
  rw [List.foldr_cons, hprops]
  rfl

/-- What is written is read. -/
theorem read_write {l : List (String × Properties)}
    (h : ∀ s ∈ l, IsName s.1 ∧ ∀ p ∈ s.2, IsKey p.1 ∧ IsValue p.2) :
    read (write l) = .ok ⟨[], l⟩ := by
  unfold read
  induction l with
  | nil =>
    rw [write, List.flatMap_nil, items_eq]
    rfl
  | cons s l ih =>
    obtain ⟨hs, hl⟩ := List.forall_mem_cons.mp h
    obtain ⟨is, his, hfold⟩ := exists_of_map_ok (ih hl)
    rw [write] at his
    rw [write, List.flatMap_cons, items_writeSection hs.1 hs.2, his]
    change Except.ok ((_ ++ is).foldr Sections.cons _) = _
    rw [List.foldr_append, hfold, foldr_cons_section]

end WebTestbed.Ini
