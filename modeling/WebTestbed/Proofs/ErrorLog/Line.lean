import Mathlib.Data.List.Infix
import Mathlib.Data.List.TakeWhile
import WebTestbed.ErrorLog.Line

/-! Where the tags and the numbers of a line stand: a line is told by its first tag, and by the last
number after it. -/
namespace WebTestbed.ErrorLog

/-- How a tag has its severity. -/
def Severity.word : Severity → List Char
  | .error => ['e', 'r', 'r', 'o', 'r']
  | .warning => ['w', 'a', 'r', 'n']

/-- How a line has the tag. -/
def Tag.write (t : Tag) : List Char :=
  '[' :: (t.module.toList ++ ':' :: (t.severity.word ++ [']']))

/-- A tag stands in the text between `before` and `after`. -/
structure HasTag (s before : List Char) (t : Tag) (after : List Char) : Prop where
  text : s = before ++ (t.write ++ after)
  named : t.module.toList ≠ []
  unmarked : ∀ c ∈ t.module.toList, isTagMark c = false

/-- A tag stands between `before` and `after`, and none starts further to the left. -/
structure FirstTag (s before : List Char) (t : Tag) (after : List Char) : Prop
    extends HasTag s before t after where
  leftmost : ∀ before' t' after', HasTag s before' t' after' → before.length ≤ before'.length

variable {s r before after before' after' n n' : List Char} {t t' : Tag}

theorem severity?_eq_some_iff {v : Severity} :
    severity? s = some (v, r) ↔ s = v.word ++ ']' :: r := by
  constructor
  · intro h
    unfold severity? at h
    split at h <;> cases h <;> rfl
  · rintro rfl
    cases v <;> rfl

theorem tagAfter?_eq_some_iff : tagAfter? s = some (t, after) ↔ HasTag ('[' :: s) [] t after := by
  constructor
  · intro h
    unfold tagAfter? at h
    extract_lets name at h
    split at h
    · next c m r hname hrest =>
      obtain ⟨⟨v, after'⟩, hv, he⟩ := Option.map_eq_some_iff.mp h
      have hs : s = (c :: m) ++ ':' :: (v.word ++ ']' :: after') := by
        rw [← severity?_eq_some_iff.mp hv, ← hname, ← hrest, List.takeWhile_append_dropWhile]
      rw [hname] at he
      cases he
      constructor
      case text =>
        rw [hs]
        simp [Tag.write]
      case named => simp
      case unmarked =>
        rw [String.toList_ofList, ← hname]
        intro d hd
        simpa using List.mem_takeWhile_imp hd
    · cases h
  · rintro ⟨htext, hnamed, hunmarked⟩
    have hs : s = t.module.toList ++ ':' :: (t.severity.word ++ ']' :: after) := by
      simpa [Tag.write] using htext
    have hall : ∀ c ∈ t.module.toList, (!isTagMark c) = true := fun c hc => by simp [hunmarked c hc]
    have hcolon : isTagMark ':' = true := by decide
    have hname : s.takeWhile (!isTagMark ·) = t.module.toList := by
      rw [hs, List.takeWhile_append_of_pos hall, List.takeWhile_cons_of_neg (by simp [hcolon]),
        List.append_nil]
    have hrest : s.dropWhile (!isTagMark ·) = ':' :: (t.severity.word ++ ']' :: after) := by
      rw [hs, List.dropWhile_append_of_pos hall, List.dropWhile_cons_of_neg (by simp [hcolon])]
    have hv := severity?_eq_some_iff.mpr (rfl : t.severity.word ++ ']' :: after = _)
    obtain ⟨c, m, hm⟩ := List.exists_cons_of_ne_nil hnamed
    have hmodule : String.ofList (c :: m) = t.module := by rw [← hm, String.ofList_toList]
    unfold tagAfter?
    simp only [hname, hrest, hm, hv, Option.map_some, hmodule]

/-- A tag stands at the start of a text or in what follows its first character. -/
theorem hasTag_cons_iff {c : Char} : HasTag (c :: s) before t after ↔
    (before = [] ∧ c = '[' ∧ tagAfter? s = some (t, after)) ∨
      ∃ b, before = c :: b ∧ HasTag s b t after := by
  constructor
  · intro h
    cases before with
    | nil =>
      have hc : c = '[' := (List.cons.inj h.text).1
      exact .inl ⟨rfl, hc, tagAfter?_eq_some_iff.mpr (hc ▸ h)⟩
    | cons d b =>
      obtain ⟨rfl, hs⟩ := List.cons.inj h.text
      exact .inr ⟨b, rfl, hs, h.named, h.unmarked⟩
  · rintro (⟨rfl, rfl, h⟩ | ⟨b, rfl, h⟩)
    · exact tagAfter?_eq_some_iff.mp h
    · exact ⟨congrArg (c :: ·) h.text, h.named, h.unmarked⟩

theorem HasTag.suffix (h : HasTag s before t after) : after <:+ s := by
  rw [h.text, ← List.append_assoc]
  exact List.suffix_append _ _

/-- Where no bracket opens, no tag starts. -/
theorem HasTag.suffix_of_not_mem {u : List Char} (hu : '[' ∉ u)
    (h : HasTag (u ++ r) before t after) : after <:+ r := by
  induction u generalizing before with
  | nil => exact h.suffix
  | cons c u ih =>
    obtain ⟨-, hc, -⟩ | ⟨b, -, hb⟩ := hasTag_cons_iff.mp h
    · exact absurd (hc ▸ List.mem_cons_self) hu
    · exact ih (List.not_mem_of_not_mem_cons hu) hb

/-- What follows any tag is the end of what follows one that starts the text. -/
theorem HasTag.suffix_of_tagAfter? (ht : tagAfter? s = some (t, after))
    (h : HasTag ('[' :: s) before' t' after') : after' <:+ after := by
  obtain ⟨-, -, h⟩ | ⟨b, -, h⟩ := hasTag_cons_iff.mp h
  · rw [ht] at h
    cases h
    exact List.suffix_rfl
  · have htag := tagAfter?_eq_some_iff.mp ht
    have hs : s = (t.module.toList ++ ':' :: (t.severity.word ++ [']'])) ++ after :=
      (List.cons.inj htag.text).2
    have hmodule : '[' ∉ t.module.toList := fun hm => by
      have := htag.unmarked '[' hm
      contradiction
    have hword : '[' ∉ t.severity.word := by
      cases t.severity <;> decide
    rw [hs] at h
    exact h.suffix_of_not_mem (by simp [hmodule, hword])

theorem tag?_cons_of_tagAfter? (h : tagAfter? s = some (t, after)) :
    tag? ('[' :: s) = some (t, after) := by
  simp [tag?, h]

theorem tag?_cons_of_not {c : Char} (h : ¬ (c = '[' ∧ (tagAfter? s).isSome)) :
    tag? (c :: s) = tag? s := by
  by_cases hc : c = '['
  · have hnone : tagAfter? s = none := by simpa using fun hs => h ⟨hc, hs⟩
    rw [tag?, if_pos hc, hnone, Option.none_or]
  · rw [tag?, if_neg hc]

/-- The tag that a text is told by is its first, and what follows any other is the end of what
follows it. -/
theorem firstTag_of_tag? (h : tag? s = some (t, after)) :
    (∃ before, FirstTag s before t after) ∧
      ∀ before' t' after', HasTag s before' t' after' → after' <:+ after := by
  induction s with
  | nil => cases h
  | cons c s ih =>
    by_cases hc : c = '[' ∧ (tagAfter? s).isSome
    · obtain ⟨rfl, hsome⟩ := hc
      obtain ⟨⟨t₀, after₀⟩, ht⟩ := Option.isSome_iff_exists.mp hsome
      rw [tag?_cons_of_tagAfter? ht] at h
      cases h
      exact ⟨⟨[], tagAfter?_eq_some_iff.mp ht, fun _ _ _ _ => Nat.zero_le _⟩,
        fun _ _ _ h' => h'.suffix_of_tagAfter? ht⟩
    · rw [tag?_cons_of_not hc] at h
      obtain ⟨⟨b, hfirst⟩, hsuffix⟩ := ih h
      have hlater : ∀ before' t' after', HasTag (c :: s) before' t' after' →
          ∃ b', before' = c :: b' ∧ HasTag s b' t' after' := by
        intro before' t' after' h'
        refine (hasTag_cons_iff.mp h').resolve_left ?_
        rintro ⟨-, hopen, hsome⟩
        exact hc ⟨hopen, by rw [hsome]; rfl⟩
      refine ⟨⟨c :: b, hasTag_cons_iff.mpr (.inr ⟨b, rfl, hfirst.toHasTag⟩), ?_⟩, ?_⟩
      · intro before' t' after' h'
        obtain ⟨b', rfl, hb'⟩ := hlater _ _ _ h'
        exact Nat.succ_le_succ (hfirst.leftmost _ _ _ hb')
      · intro before' t' after' h'
        obtain ⟨b', -, hb'⟩ := hlater _ _ _ h'
        exact hsuffix _ _ _ hb'

theorem isSome_tag?_of_hasTag (h : HasTag s before t after) : (tag? s).isSome := by
  induction s generalizing before with
  | nil =>
    have htext := h.text
    simp [Tag.write] at htext
  | cons c s ih =>
    by_cases hc : c = '[' ∧ (tagAfter? s).isSome
    · obtain ⟨rfl, hsome⟩ := hc
      obtain ⟨p, hp⟩ := Option.isSome_iff_exists.mp hsome
      rw [tag?_cons_of_tagAfter? hp]
      rfl
    · rw [tag?_cons_of_not hc]
      obtain ⟨-, hopen, hsome⟩ | ⟨b, -, hb⟩ := hasTag_cons_iff.mp h
      · exact absurd ⟨hopen, by rw [hsome]; rfl⟩ hc
      · exact ih hb

/-- At one place there is at most one tag. -/
theorem HasTag.unique (h : HasTag s before t after) (h' : HasTag s before' t' after')
    (hlength : before.length = before'.length) : t = t' ∧ after = after' := by
  have htext : t.write ++ after = t'.write ++ after' :=
    (List.append_inj (h.text.symm.trans h'.text) hlength).2
  have ht : tagAfter? (t.write ++ after).tail = some (t, after) :=
    tagAfter?_eq_some_iff.mpr ⟨rfl, h.named, h.unmarked⟩
  have ht' : tagAfter? (t'.write ++ after').tail = some (t', after') :=
    tagAfter?_eq_some_iff.mpr ⟨rfl, h'.named, h'.unmarked⟩
  rw [htext] at ht
  simpa using ht.symm.trans ht'

theorem tag?_eq_some_iff : tag? s = some (t, after) ↔ ∃ before, FirstTag s before t after := by
  constructor
  · exact fun h => (firstTag_of_tag? h).1
  · rintro ⟨before, h⟩
    obtain ⟨⟨t', after'⟩, hs⟩ := Option.isSome_iff_exists.mp (isSome_tag?_of_hasTag h.toHasTag)
    obtain ⟨⟨before', h'⟩, -⟩ := firstTag_of_tag? hs
    have hlength : before.length = before'.length :=
      Nat.le_antisymm (h.leftmost _ _ _ h'.toHasTag) (h'.leftmost _ _ _ h.toHasTag)
    obtain ⟨rfl, rfl⟩ := h.toHasTag.unique h'.toHasTag hlength
    exact hs

/-- Of two tags the first counts, and brackets around it do not matter. -/
example : tag? "[a:b [ssl:warn] [c:error] x".toList =
    some (⟨"ssl", .warning⟩, " [c:error] x".toList) := by
  decide +kernel

/-- The letters AH and digits. -/
def IsNumber (n : List Char) : Prop :=
  ∃ d ds, n = 'A' :: 'H' :: d :: ds ∧ ∀ c ∈ d :: ds, Text.isAnyDigit c = true

/-- A number stands in the text after `before` and a space; a colon, a space and more follow it. -/
def HasNumber (s before n : List Char) : Prop :=
  IsNumber n ∧ ∃ after, after ≠ [] ∧ s = before ++ ' ' :: (n ++ ':' :: ' ' :: after)

theorem numberAt?_eq_some_iff : numberAt? s = some n ↔ HasNumber s [] n := by
  have hcolon : Text.isAnyDigit ':' = false := by decide +kernel
  constructor
  · intro h
    unfold numberAt? at h
    split at h
    · next r =>
      split at h
      · next d ds a as hdigits hrest =>
        cases h
        refine ⟨⟨d, ds, rfl, ?_⟩, a :: as, List.cons_ne_nil a as, ?_⟩
        · rw [← hdigits]
          exact fun c hc => List.mem_takeWhile_imp hc
        · have hr : r = (d :: ds) ++ ':' :: ' ' :: a :: as := by
            rw [← hdigits, ← hrest, List.takeWhile_append_dropWhile]
          rw [hr]
          rfl
      · cases h
    · cases h
  · rintro ⟨⟨d, ds, rfl, hdigits⟩, after, hafter, rfl⟩
    obtain ⟨a, as, rfl⟩ := List.exists_cons_of_ne_nil hafter
    have htake : (d :: ds ++ ':' :: ' ' :: a :: as).takeWhile Text.isAnyDigit = d :: ds := by
      rw [List.takeWhile_append_of_pos hdigits, List.takeWhile_cons_of_neg (by simp [hcolon]),
        List.append_nil]
    have hdrop : (d :: ds ++ ':' :: ' ' :: a :: as).dropWhile Text.isAnyDigit =
        ':' :: ' ' :: a :: as := by
      rw [List.dropWhile_append_of_pos hdigits, List.dropWhile_cons_of_neg (by simp [hcolon])]
    change numberAt? (' ' :: 'A' :: 'H' :: (d :: ds ++ ':' :: ' ' :: a :: as)) = _
    unfold numberAt?
    simp only [htake, hdrop]

theorem hasNumber_cons_iff {c : Char} : HasNumber (c :: s) before n ↔
    (before = [] ∧ numberAt? (c :: s) = some n) ∨ ∃ b, before = c :: b ∧ HasNumber s b n := by
  constructor
  · rintro ⟨hn, after, hafter, hs⟩
    cases before with
    | nil => exact .inl ⟨rfl, numberAt?_eq_some_iff.mpr ⟨hn, after, hafter, hs⟩⟩
    | cons d b =>
      obtain ⟨rfl, htail⟩ := List.cons.inj hs
      exact .inr ⟨b, rfl, hn, after, hafter, htail⟩
  · rintro (⟨rfl, h⟩ | ⟨b, rfl, hn, after, hafter, rfl⟩)
    · exact numberAt?_eq_some_iff.mp h
    · exact ⟨hn, after, hafter, rfl⟩

/-- At one place there is at most one number. -/
theorem HasNumber.unique (h : HasNumber s before n) (h' : HasNumber s before' n')
    (hlength : before.length = before'.length) : n = n' := by
  obtain ⟨hn, after, hafter, hs⟩ := h
  obtain ⟨hn', after', hafter', hs'⟩ := h'
  have htext := (List.append_inj (hs.symm.trans hs') hlength).2
  have hnumber : numberAt? (' ' :: (n ++ ':' :: ' ' :: after)) = some n :=
    numberAt?_eq_some_iff.mpr ⟨hn, after, hafter, rfl⟩
  have hnumber' : numberAt? (' ' :: (n' ++ ':' :: ' ' :: after')) = some n' :=
    numberAt?_eq_some_iff.mpr ⟨hn', after', hafter', rfl⟩
  rw [htext] at hnumber
  exact Option.some.inj (hnumber.symm.trans hnumber')

theorem isSome_lastNumber?_of_hasNumber (h : HasNumber s before n) : (lastNumber? s).isSome := by
  induction s generalizing before with
  | nil =>
    obtain ⟨-, after, -, hs⟩ := h
    simp at hs
  | cons c s ih =>
    rw [lastNumber?, Option.isSome_or, Bool.or_eq_true]
    obtain ⟨-, h⟩ | ⟨b, -, h⟩ := hasNumber_cons_iff.mp h
    · right
      rw [h]
      rfl
    · exact .inl (ih h)

/-- The number that is found stands in the text, and no other stands further to the right. -/
theorem hasNumber_of_lastNumber? (h : lastNumber? s = some n) :
    ∃ before, HasNumber s before n ∧
      ∀ before' n', HasNumber s before' n' → before'.length ≤ before.length := by
  induction s with
  | nil => cases h
  | cons c s ih =>
    rw [lastNumber?] at h
    cases hs : lastNumber? s with
    | some m =>
      rw [hs, Option.some_or, Option.some.injEq] at h
      subst h
      obtain ⟨b, hb, hlast⟩ := ih hs
      refine ⟨c :: b, hasNumber_cons_iff.mpr (.inr ⟨b, rfl, hb⟩), fun before' n' h' => ?_⟩
      obtain ⟨rfl, -⟩ | ⟨b', rfl, hb'⟩ := hasNumber_cons_iff.mp h'
      · exact Nat.zero_le _
      · exact Nat.succ_le_succ (hlast _ _ hb')
    | none =>
      rw [hs, Option.none_or] at h
      refine ⟨[], numberAt?_eq_some_iff.mp h, fun before' n' h' => ?_⟩
      obtain ⟨rfl, -⟩ | ⟨b', -, hb'⟩ := hasNumber_cons_iff.mp h'
      · exact Nat.le_refl _
      · have hsome := isSome_lastNumber?_of_hasNumber hb'
        rw [hs] at hsome
        cases hsome

theorem lastNumber?_eq_some_iff : lastNumber? s = some n ↔ ∃ before, HasNumber s before n ∧
    ∀ before' n', HasNumber s before' n' → before'.length ≤ before.length := by
  constructor
  · exact hasNumber_of_lastNumber?
  · rintro ⟨before, h, hlast⟩
    obtain ⟨m, hm⟩ := Option.isSome_iff_exists.mp (isSome_lastNumber?_of_hasNumber h)
    obtain ⟨before', h', hlast'⟩ := hasNumber_of_lastNumber? hm
    have hlength : before'.length = before.length :=
      Nat.le_antisymm (hlast _ _ h') (hlast' _ _ h)
    rw [hm, h'.unique h hlength]

/-- Of two numbers the last counts that has a colon and more after it. -/
example : lastNumber? " AH1: AH2: x AH3:".toList = some "AH2".toList := by
  decide +kernel

/-- The line has a tag and after it a number, which stands after `before` and a space. -/
structure Carries (s before n : List Char) : Prop where
  number : HasNumber s before n
  tagged : ∃ b t after, HasTag before b t after

/-- The number of a line is the last that it carries. -/
structure LastNumber (s before n : List Char) : Prop extends Carries s before n where
  rightmost : ∀ before' n', Carries s before' n' → before'.length ≤ before.length

theorem HasTag.append (h : HasTag s before t after) (r : List Char) :
    HasTag (s ++ r) before t (after ++ r) :=
  ⟨by rw [h.text]; simp only [List.append_assoc], h.named, h.unmarked⟩

theorem HasNumber.append (h : HasNumber s before n) (r : List Char) :
    HasNumber (r ++ s) (r ++ before) n := by
  obtain ⟨hn, after, hafter, rfl⟩ := h
  exact ⟨hn, after, hafter, (List.append_assoc r before _).symm⟩

/-- All numbers that a line carries stand after its first tag. -/
theorem carries_iff (h : FirstTag s before t after) :
    Carries s before' n ↔ ∃ b, before' = before ++ (t.write ++ b) ∧ HasNumber after b n := by
  constructor
  · rintro ⟨⟨hn, rest, hrest, hs⟩, b₁, t₁, a₁, htag⟩
    have hlater : HasTag s b₁ t₁ (a₁ ++ ' ' :: (n ++ ':' :: ' ' :: rest)) :=
      hs ▸ htag.append _
    obtain ⟨-, hsuffix⟩ := firstTag_of_tag? (tag?_eq_some_iff.mpr ⟨before, h⟩)
    obtain ⟨u, hu⟩ := hsuffix _ _ _ hlater
    have hbefore : before' = before ++ (t.write ++ (u ++ a₁)) := by
      have htext : before' ++ ' ' :: (n ++ ':' :: ' ' :: rest) =
          before ++ (t.write ++ (u ++ a₁)) ++ ' ' :: (n ++ ':' :: ' ' :: rest) := by
        rw [← hs, h.text, ← hu]
        simp only [List.append_assoc]
      exact List.append_cancel_right htext
    refine ⟨u ++ a₁, hbefore, hn, rest, hrest, ?_⟩
    rw [← hu, List.append_assoc]
  · rintro ⟨b, rfl, hb⟩
    constructor
    case number =>
      rw [h.text, ← List.append_assoc, ← List.append_assoc]
      exact hb.append _
    case tagged => exact ⟨before, t, b, rfl, h.named, h.unmarked⟩

theorem lastNumber_iff (h : FirstTag s before t after) :
    (∃ before', LastNumber s before' n) ↔ lastNumber? after = some n := by
  rw [lastNumber?_eq_some_iff]
  constructor
  · rintro ⟨before', hlast⟩
    obtain ⟨b, rfl, hb⟩ := (carries_iff h).mp hlast.toCarries
    refine ⟨b, hb, fun b' n' hb' => ?_⟩
    have hle := hlast.rightmost _ _ ((carries_iff h).mpr ⟨b', rfl, hb'⟩)
    simp only [List.length_append] at hle
    omega
  · rintro ⟨b, hb, hlast⟩
    refine ⟨before ++ (t.write ++ b), (carries_iff h).mpr ⟨b, rfl, hb⟩, fun before' n' h' => ?_⟩
    obtain ⟨b', rfl, hb'⟩ := (carries_iff h).mp h'
    have hle := hlast _ _ hb'
    simp only [List.length_append]
    omega

theorem Carries.exists_firstTag (h : Carries s before n) : ∃ b t after, FirstTag s b t after := by
  obtain ⟨⟨-, after, -, rfl⟩, b, t, a, htag⟩ := h
  obtain ⟨⟨t', after'⟩, ht⟩ := Option.isSome_iff_exists.mp (isSome_tag?_of_hasTag (htag.append _))
  obtain ⟨b', hfirst⟩ := tag?_eq_some_iff.mp ht
  exact ⟨b', t', after', hfirst⟩

/-- A line that carries a number has a last one. -/
theorem Carries.exists_lastNumber (h : Carries s before n) :
    ∃ before' n', LastNumber s before' n' := by
  obtain ⟨b₀, t, after, hfirst⟩ := h.exists_firstTag
  obtain ⟨b, -, hb⟩ := (carries_iff hfirst).mp h
  obtain ⟨m, hm⟩ := Option.isSome_iff_exists.mp (isSome_lastNumber?_of_hasNumber hb)
  obtain ⟨before', hlast⟩ := (lastNumber_iff hfirst).mpr hm
  exact ⟨before', m, hlast⟩

theorem number?_eq_some_iff {line n : String} :
    number? line = some n ↔ ∃ before, LastNumber line.toList before n.toList := by
  unfold number?
  constructor
  · intro h
    obtain ⟨⟨t, after⟩, ht, h⟩ := Option.bind_eq_some_iff.mp h
    obtain ⟨m, hm, he⟩ := Option.bind_eq_some_iff.mp h
    cases he
    obtain ⟨b, hfirst⟩ := tag?_eq_some_iff.mp ht
    rw [String.toList_ofList]
    exact (lastNumber_iff hfirst).mpr hm
  · rintro ⟨before, h⟩
    obtain ⟨b, t, after, hfirst⟩ := h.toCarries.exists_firstTag
    have ht := tag?_eq_some_iff.mpr ⟨b, hfirst⟩
    have hm := (lastNumber_iff hfirst).mp ⟨before, h⟩
    simp [ht, hm]

end WebTestbed.ErrorLog
