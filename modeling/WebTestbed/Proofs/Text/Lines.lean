import WebTestbed.Text.Lines

/-! Lines of a text that is put together from parts: a line feed always cuts, whatever stands on
its two sides. -/
namespace WebTestbed.Text

/-- A line without the carriage return at its end, if there is one. -/
def chopReturn (l : List Char) : List Char :=
  (dropReturn l.reverse).reverse

@[simp] theorem chopReturn_append_return (l : List Char) : chopReturn (l ++ ['\r']) = l := by
  simp [chopReturn, dropReturn]

theorem dropReturn_of_head?_ne {l : List Char} (h : l.head? ≠ some '\r') : dropReturn l = l := by
  unfold dropReturn
  split
  · exact absurd rfl h
  · rfl

theorem chopReturn_of_getLast?_ne {l : List Char} (h : l.getLast? ≠ some '\r') :
    chopReturn l = l := by
  rw [chopReturn, dropReturn_of_head?_ne (by rwa [List.head?_reverse]), List.reverse_reverse]

theorem dropReturn_append_cons {c : Char} (hc : c ≠ '\r') (r a : List Char) :
    dropReturn (r ++ c :: a) = dropReturn r ++ c :: a := by
  cases r with
  | nil => exact dropReturn_of_head?_ne (by simpa using hc)
  | cons d r =>
    by_cases hd : d = '\r'
    · subst hd
      rfl
    · have h : ∀ l : List Char, dropReturn (d :: l) = d :: l := fun l =>
        dropReturn_of_head?_ne (by simpa using hd)
      rw [List.cons_append, h, h, List.cons_append]

/-- Only what comes after the last character of another kind can lose its end. -/
theorem chopReturn_append_cons {c : Char} (hc : c ≠ '\r') (a r : List Char) :
    chopReturn (a ++ c :: r) = a ++ c :: chopReturn r := by
  have h : (a ++ c :: r).reverse = r.reverse ++ c :: a.reverse := by simp
  rw [chopReturn, h, dropReturn_append_cons hc]
  simp [chopReturn]

theorem mem_of_mem_chopReturn {c : Char} {l : List Char} (h : c ∈ chopReturn l) : c ∈ l := by
  by_cases hl : l.getLast? = some '\r'
  · obtain ⟨r, rfl⟩ := List.getLast?_eq_some_iff.mp hl
    rw [chopReturn_append_return] at h
    exact List.mem_append_left _ h
  · rwa [chopReturn_of_getLast?_ne hl] at h

theorem linesFrom_append_lineFeed_append (cur s t : List Char) :
    linesFrom cur (s ++ '\n' :: t) = linesFrom cur (s ++ ['\n']) ++ linesFrom [] t := by
  induction s generalizing cur with
  | nil => simp [linesFrom]
  | cons c s ih =>
    simp only [List.cons_append, linesFrom]
    split
    · rw [ih, List.cons_append]
    · exact ih _

/-- The lines up to a line feed and the lines after it. -/
theorem lines_append_lineFeed_append (s t : List Char) :
    lines (s ++ ['\n'] ++ t) = lines (s ++ ['\n']) ++ lines t := by
  rw [List.append_assoc]
  exact linesFrom_append_lineFeed_append [] s t

theorem linesFrom_line {l : List Char} (hl : '\n' ∉ l) (cur t : List Char) :
    linesFrom cur (l ++ '\n' :: t) = chopReturn (cur.reverse ++ l) :: linesFrom [] t := by
  induction l generalizing cur with
  | nil => simp [linesFrom, chopReturn]
  | cons c l ih =>
    have hc : c ≠ '\n' := fun h => hl (h ▸ List.mem_cons_self)
    have hr : '\n' ∉ l := fun h => hl (List.mem_cons_of_mem _ h)
    simp only [List.cons_append, linesFrom, if_neg hc]
    rw [ih hr]
    simp

theorem lines_line {l : List Char} (hl : '\n' ∉ l) (t : List Char) :
    lines (l ++ '\n' :: t) = chopReturn l :: lines t :=
  linesFrom_line hl [] t

theorem toList_unlines (ls : List String) :
    (unlines ls).toList = ls.flatMap fun l => l.toList ++ ['\n'] := by
  induction ls with
  | nil => rfl
  | cons l ls ih =>
    have hc : unlines (l :: ls) = l ++ "\n" ++ unlines ls := rfl
    rw [hc, String.toList_append, String.toList_append, ih]
    rfl

/-- Lines that are written are read again, each without a carriage return at its end. -/
theorem lines_unlines_append {ls : List String} (h : ∀ l ∈ ls, '\n' ∉ l.toList) (t : List Char) :
    lines ((unlines ls).toList ++ t) = (ls.map fun l => chopReturn l.toList) ++ lines t := by
  rw [toList_unlines]
  induction ls with
  | nil => rfl
  | cons l ls ih =>
    have hl := h l List.mem_cons_self
    have hls : ∀ l ∈ ls, '\n' ∉ l.toList := fun l hm => h l (List.mem_cons_of_mem _ hm)
    rw [List.flatMap_cons, List.append_assoc, List.append_assoc, List.singleton_append,
      lines_line hl, ih hls]
    rfl

theorem lineFeed_not_mem_of_mem_linesFrom {l cur s : List Char} (hc : '\n' ∉ cur)
    (h : l ∈ linesFrom cur s) : '\n' ∉ l := by
  induction s generalizing cur with
  | nil =>
    unfold linesFrom at h
    split at h
    · cases h
    · obtain rfl := List.mem_singleton.mp h
      simpa using hc
  | cons c s ih =>
    simp only [linesFrom] at h
    split at h
    · rcases List.mem_cons.mp h with rfl | h
      · intro hm
        have := mem_of_mem_chopReturn (l := cur.reverse) (by simpa [chopReturn] using hm)
        exact hc (List.mem_reverse.mp this)
      · exact ih List.not_mem_nil h
    · rename_i hn
      exact ih (by simp [Ne.symm hn, hc]) h

theorem lineFeed_not_mem_of_mem_lines {l s : List Char} (h : l ∈ lines s) : '\n' ∉ l :=
  lineFeed_not_mem_of_mem_linesFrom List.not_mem_nil h

theorem linesFrom_cons_ne_nil (c : Char) (cur s : List Char) : linesFrom (c :: cur) s ≠ [] := by
  induction s generalizing c cur with
  | nil => simp [linesFrom]
  | cons d s ih =>
    unfold linesFrom
    split
    · exact List.cons_ne_nil _ _
    · exact ih d _

theorem lines_eq_nil_iff (s : List Char) : lines s = [] ↔ s = [] := by
  cases s with
  | nil => simp [lines, linesFrom]
  | cons c s =>
    have h : lines (c :: s) ≠ [] := by
      unfold lines linesFrom
      split
      · exact List.cons_ne_nil _ _
      · exact linesFrom_cons_ne_nil c [] s
    simp [h]

end WebTestbed.Text
