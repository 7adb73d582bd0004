import Songbook.Text.Blank

/-!
# Blanks around a text and around its parts

Trimming takes away the blanks before a text and after it, and nothing else.
So what is read from a text once it is trimmed does not change with the blanks
around it, and when a text is taken apart at a separator that is not blank,
and each part is trimmed before it is read, it makes no difference whether the
text was trimmed as a whole before: its outer blanks stand around its first
part and its last.
-/

namespace Songbook.Text

variable {before after s : List Char}

theorem trimStart_append_of_isAllBlank (h : isAllBlank before = true)
    (s : List Char) :
    trimStart (before ++ s) = trimStart s :=
  List.dropWhile_append_of_pos (List.all_eq_true.1 h)

theorem isAllBlank_reverse (s : List Char) :
    isAllBlank s.reverse = isAllBlank s :=
  List.all_reverse

theorem trimEnd_append_of_isAllBlank (h : isAllBlank after = true)
    (s : List Char) :
    trimEnd (s ++ after) = trimEnd s := by
  rw [trimEnd, trimEnd, List.reverse_append,
    trimStart_append_of_isAllBlank (by rw [isAllBlank_reverse]; exact h)]

theorem trim_surround (hbefore : isAllBlank before = true)
    (hafter : isAllBlank after = true) (s : List Char) :
    trim (before ++ s ++ after) = trim s := by
  rw [trim, trim, List.append_assoc, trimStart_append_of_isAllBlank hbefore]
  cases hs : (trimStart s).isEmpty with
  | true =>
      have hnil : trimStart s = [] := List.isEmpty_iff.1 hs
      have hall : trimStart (s ++ after) = trimStart after := by
        rw [trimStart, List.dropWhile_append]
        exact if_pos hs
      have hafter' : trimStart after = [] :=
        trimStart_eq_nil_iff.2 (List.all_eq_true.1 hafter)
      rw [hall, hafter', hnil]
  | false =>
      have hall : trimStart (s ++ after) = trimStart s ++ after := by
        rw [trimStart, List.dropWhile_append]
        exact if_neg
          (by rw [show s.dropWhile isBlank = trimStart s from rfl, hs]; simp)
      rw [hall, trimEnd_append_of_isAllBlank hafter]

theorem isAllBlank_takeWhile (s : List Char) :
    isAllBlank (s.takeWhile isBlank) = true :=
  List.all_takeWhile

theorem exists_eq_trimEnd (s : List Char) :
    ∃ after, isAllBlank after = true ∧ s = trimEnd s ++ after := by
  refine ⟨(s.reverse.takeWhile isBlank).reverse, ?_, ?_⟩
  · rw [isAllBlank_reverse, isAllBlank_takeWhile]
  · rw [trimEnd, trimStart, ← List.reverse_append,
      List.takeWhile_append_dropWhile, List.reverse_reverse]

theorem exists_eq_trim (s : List Char) :
    ∃ before after, isAllBlank before = true ∧
      isAllBlank after = true ∧ s = before ++ trim s ++ after := by
  obtain ⟨after, hafter, hend⟩ := exists_eq_trimEnd (trimStart s)
  refine ⟨s.takeWhile isBlank, after, isAllBlank_takeWhile s, hafter, ?_⟩
  rw [trim, List.append_assoc, ← hend, trimStart,
    List.takeWhile_append_dropWhile]

theorem not_mem_of_isAllBlank {c : Char} (hc : isBlank c = false)
    (h : isAllBlank s = true) :
    c ∉ s := by
  intro hmem
  rw [List.all_eq_true.1 h c hmem] at hc
  cases hc

/-! ## Parts between separators -/

variable {α : Type} {f : List Char → α} {c : Char}

/-- Whether something is read from a text alike whatever blanks stand around
it. -/
def IgnoresBlanks (f : List Char → α) : Prop :=
  ∀ ⦃before after⦄, isAllBlank before = true → isAllBlank after = true →
    ∀ s, f (before ++ s ++ after) = f s

theorem IgnoresBlanks.prepend (h : IgnoresBlanks f)
    (hbefore : isAllBlank before = true) (s : List Char) :
    f (before ++ s) = f s := by
  have hnil : isAllBlank [] = true := rfl
  have := h hbefore hnil s
  rwa [List.append_nil] at this

theorem IgnoresBlanks.append (h : IgnoresBlanks f)
    (hafter : isAllBlank after = true) (s : List Char) :
    f (s ++ after) = f s := by
  have hnil : isAllBlank [] = true := rfl
  exact h hnil hafter s

theorem IgnoresBlanks.map_splitOn_before (h : IgnoresBlanks f)
    (hc : isBlank c = false) (hbefore : isAllBlank before = true)
    (s : List Char) :
    ((before ++ s).splitOn c).map f = (s.splitOn c).map f := by
  have hmem : c ∉ before := not_mem_of_isAllBlank hc hbefore
  by_cases hs : c ∈ s
  · obtain ⟨part, rest, rfl, hpart⟩ := List.eq_append_cons_of_mem hs
    have hfirst : c ∉ before ++ part := by simp [hmem, hpart]
    rw [← List.append_assoc, List.splitOn_append_cons_self_of_not_mem hfirst,
      List.splitOn_append_cons_self_of_not_mem hpart, List.map_cons,
      List.map_cons, h.prepend hbefore]
  · have hwhole : c ∉ before ++ s := by simp [hmem, hs]
    rw [List.splitOn_eq_singleton hwhole, List.splitOn_eq_singleton hs,
      List.map_singleton, List.map_singleton, h.prepend hbefore]

theorem IgnoresBlanks.map_splitOn_after (h : IgnoresBlanks f)
    (hc : isBlank c = false) (hafter : isAllBlank after = true)
    (s : List Char) :
    ((s ++ after).splitOn c).map f = (s.splitOn c).map f := by
  have hmem : c ∉ after := not_mem_of_isAllBlank hc hafter
  -- the parts are taken off at the front, so the induction is on the length
  -- of what is left
  induction hn : s.length using Nat.strongRecOn generalizing s with
  | ind n ih =>
      by_cases hs : c ∈ s
      · obtain ⟨part, rest, rfl, hpart⟩ := List.eq_append_cons_of_mem hs
        have hlt : rest.length < n := by
          rw [List.length_append, List.length_cons] at hn
          omega
        rw [List.append_assoc, List.cons_append,
          List.splitOn_append_cons_self_of_not_mem hpart,
          List.splitOn_append_cons_self_of_not_mem hpart, List.map_cons,
          List.map_cons, ih rest.length hlt rest rfl]
      · have hwhole : c ∉ s ++ after := by simp [hmem, hs]
        rw [List.splitOn_eq_singleton hwhole, List.splitOn_eq_singleton hs,
          List.map_singleton, List.map_singleton, h.append hafter]

/-- What is read from the parts of a text is read from the parts of the
trimmed text. -/
theorem IgnoresBlanks.map_splitOn_trim (h : IgnoresBlanks f)
    (hc : isBlank c = false) (s : List Char) :
    ((trim s).splitOn c).map f = (s.splitOn c).map f := by
  obtain ⟨before, after, hbefore, hafter, hs⟩ := exists_eq_trim s
  have hsplit : ((before ++ trim s ++ after).splitOn c).map f =
      ((trim s).splitOn c).map f := by
    rw [h.map_splitOn_after hc hafter, h.map_splitOn_before hc hbefore]
  rw [← hsplit, ← hs]

end Songbook.Text
