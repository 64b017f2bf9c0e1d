import WebTestbed.Http.Headers
import WebTestbed.Proofs.Lookup
import WebTestbed.Proofs.Text.Basic
import WebTestbed.Proofs.Text.Lines

/-! Header fields as they are read from lines and collected: reading again what was collected gives
the same fields. -/
namespace WebTestbed.Http
open Text

/-- The lines that are read as a header line. -/
theorem readHeader?_eq_some_iff {line : List Char} {field : String × String} :
    readHeader? line = some field ↔ field.1.toList ≠ [] ∧ ':' ∉ field.1.toList ∧
      ∃ value, line = field.1.toList ++ ':' :: value ∧ field.2 = String.ofList (trim value) := by
  have he : readHeader? line = (cut ':' line).bind fun p =>
      if p.1.isEmpty then none else some (String.ofList p.1, String.ofList (trim p.2)) := by
    unfold readHeader?
    cases cut ':' line with
    | none => rfl
    | some p =>
      simp only [Option.bind_eq_bind, Option.bind_some]
      split <;> rfl
  rw [he]
  constructor
  · intro h
    obtain ⟨⟨name, value⟩, hc, hs⟩ := Option.bind_eq_some_iff.mp h
    obtain ⟨rfl, hn⟩ := cut_eq_some hc
    dsimp only at hs
    split at hs
    · cases hs
    rename_i hne
    obtain rfl := Option.some.inj hs
    rw [List.isEmpty_iff] at hne
    exact ⟨by simpa using hne, by simpa using hn, value, by simp, rfl⟩
  · rintro ⟨hne, hn, value, rfl, hv⟩
    rw [cut_append hn, Option.bind_some, if_neg (by simpa using hne), ← hv]
    simp

/-- A field that a header line can hold and that does not change when it is collected: a name in
lower case, and a value without blanks around it. -/
structure ProperField (field : String × String) : Prop where
  name_ne_nil : field.1.toList ≠ []
  colon_not_mem : ':' ∉ field.1.toList
  lowercase_name : lowercase field.1 = field.1
  trim_value : trim field.2.toList = field.2.toList
  lineFeed_not_mem : '\n' ∉ field.1.toList ∧ '\n' ∉ field.2.toList

/-- What a header line gives is proper once its name is in lower case. -/
theorem properField_of_readHeader? {line : List Char} {field : String × String}
    (h : readHeader? line = some field) (hl : '\n' ∉ line) :
    ProperField (lowercase field.1, field.2) := by
  obtain ⟨hne, hn, value, rfl, hv⟩ := readHeader?_eq_some_iff.mp h
  refine ⟨?_, ?_, lowercase_lowercase _, ?_, ?_, ?_⟩
  · simpa [toList_lowercase] using hne
  · exact fun hm => hn (mem_of_mem_lowercase (by decide) hm)
  · simp [hv]
  · intro hm
    have := mem_of_mem_lowercase (by decide) hm
    exact hl (by simp [this])
  · intro hm
    have : '\n' ∈ value := mem_of_mem_trim (by simpa [hv] using hm)
    exact hl (by simp [this])

theorem toList_renderHeader (field : String × String) :
    (renderHeader field).toList = field.1.toList ++ ':' :: ' ' :: field.2.toList := by
  simp [renderHeader]

/-- No carriage return is lost at the end of a header line: the value has no blank there. -/
theorem chopReturn_renderHeader {field : String × String} (h : ProperField field) :
    chopReturn (renderHeader field).toList = (renderHeader field).toList := by
  have hv : field.2.toList.getLast? ≠ some '\r' := by
    rw [← h.trim_value]
    exact getLast?_trim_ne (by decide) _
  have hs : (renderHeader field).toList = (field.1.toList ++ [':']) ++ ' ' :: field.2.toList := by
    simp [toList_renderHeader]
  rw [hs, chopReturn_append_cons (by decide), chopReturn_of_getLast?_ne hv]

theorem readHeader?_renderHeader {field : String × String} (h : ProperField field) :
    readHeader? (renderHeader field).toList = some field := by
  refine readHeader?_eq_some_iff.mpr ⟨h.name_ne_nil, h.colon_not_mem, ' ' :: field.2.toList,
    toList_renderHeader field, ?_⟩
  rw [trim_cons_of_isBlank (by decide), h.trim_value, String.ofList_toList]

namespace Headers

theorem assign_eq_putAt (name value : String) (l : List (String × String)) :
    assign name value l = putAt name value l := by
  induction l with
  | nil => rfl
  | cons e l ih => rw [assign, putAt, ih]

/-- Fields with distinct names that header lines can hold. -/
structure Proper (h : Headers) : Prop where
  names_nodup : (h.entries.map Prod.fst).Nodup
  field : ∀ e ∈ h.entries, ProperField e

theorem proper_empty : Proper empty := ⟨List.nodup_nil, by simp [empty]⟩

theorem Proper.insert {h : Headers} (hp : h.Proper) {name value : String}
    (hf : ProperField (lowercase name, value)) : (h.insert name value).Proper := by
  have hentries : (h.insert name value).entries = putAt (lowercase name) value h.entries :=
    assign_eq_putAt _ _ _
  refine ⟨?_, ?_⟩
  · rw [hentries]
    exact nodup_putAt hp.names_nodup _ _
  · intro e he
    rw [hentries] at he
    obtain rfl | he := mem_of_mem_putAt he
    · exact hf
    · exact hp.field e he

theorem Proper.foldl_insert {fields : List (String × String)} {h : Headers} (hp : h.Proper)
    (hf : ∀ e ∈ fields, ProperField (lowercase e.1, e.2)) :
    (fields.foldl (fun k e => k.insert e.1 e.2) h).Proper := by
  induction fields generalizing h with
  | nil => exact hp
  | cons e fields ih =>
    exact ih (hp.insert (hf e List.mem_cons_self)) fun d hd => hf d (List.mem_cons_of_mem _ hd)

/-- Collecting fields with new names in lower case appends them. -/
theorem foldl_insert {l : List (String × String)} {h : Headers}
    (hn : ((h.entries ++ l).map Prod.fst).Nodup) (hl : ∀ e ∈ l, lowercase e.1 = e.1) :
    l.foldl (fun k e => k.insert e.1 e.2) h = ⟨h.entries ++ l⟩ := by
  induction l generalizing h with
  | nil => simp
  | cons d l ih =>
    have hd : lowercase d.1 = d.1 := hl d List.mem_cons_self
    have hnew : d.1 ∉ h.entries.map Prod.fst := by
      rw [List.map_append, List.nodup_append] at hn
      exact fun hm => hn.2.2 _ hm d.1 (by simp) rfl
    have hi : h.insert d.1 d.2 = ⟨h.entries ++ [d]⟩ := by
      rw [Headers.insert, hd, assign_eq_putAt, putAt_of_not_mem hnew]
    rw [List.foldl_cons, hi, ih (by simpa using hn) fun e he => hl e (List.mem_cons_of_mem _ he)]
    simp

/-- What was collected is collected again as it is. -/
theorem foldl_insert_entries {h : Headers} (hp : h.Proper) :
    h.entries.foldl (fun k e => k.insert e.1 e.2) empty = h :=
  foldl_insert hp.names_nodup fun e he => (hp.field e he).lowercase_name

end Headers

end WebTestbed.Http
