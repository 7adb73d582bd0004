import Mathlib
import Songbook.Text.Blank
import Songbook.Text.Lowercase

/-!
# What lower-casing leaves alone

Digits, signs, hyphens and blanks have no case, and no letter has one of them
for its lower case. So a text keeps them where they stand when it is
lower-cased, and gets none that it did not have: what stands between two
hyphens is lower-cased by itself, and a part that is no numeral does not
become one.

This rests on the table of cases, where each run of letters, and each run of
their lower cases, lies clear of the plain characters. That much is evaluated,
run by run.
-/

namespace Songbook.Text

/-- A character below the letters, or a blank. -/
def IsPlain (c : Char) : Prop :=
  c.toNat < 65 ∨ isBlank c = true

instance (c : Char) : Decidable (IsPlain c) :=
  inferInstanceAs (Decidable (_ ∨ _))

/-! ## The table of cases -/

/-- The blanks beyond ASCII that stand alone; the others are 0x2000 to 0x200A.
-/
def loneBlanks : List Int :=
  [0x85, 0xA0, 0x1680, 0x2028, 0x2029, 0x202F, 0x205F, 0x3000]

/-- Whether no plain character lies between two code points, these included. -/
def IsClear (lo hi : Int) : Prop :=
  65 ≤ lo ∧ (∀ blank ∈ loneBlanks, hi < blank ∨ blank < lo) ∧
    (hi < 0x2000 ∨ 0x200A < lo)

instance (lo hi : Int) : Decidable (IsClear lo hi) :=
  inferInstanceAs (Decidable (_ ∧ _))

theorem IsClear.not_isPlain {lo hi : Int} {c : Char} (h : IsClear lo hi)
    (hlo : lo ≤ c.toNat) (hhi : c.toNat ≤ hi) : ¬IsPlain c := by
  obtain ⟨hletter, hlone, hrange⟩ := h
  simp only [loneBlanks, List.forall_mem_cons, List.not_mem_nil, false_implies,
    implies_true, and_true] at hlone
  rintro (hlt | hblank)
  · omega
  · simp only [isBlank, Bool.or_eq_true, Bool.and_eq_true, decide_eq_true_eq,
      beq_iff_eq] at hblank
    omega

/-- The letters of each run are clear of the plain characters, and so are
their lower cases, which are characters. -/
theorem isClear_caseRuns : ∀ run ∈ caseRuns, IsClear run.first run.last ∧
    IsClear (run.first + run.shift) (run.last + run.shift) ∧
    (run.last + run.shift < 0xD800 ∨
      0xDFFF < run.first + run.shift ∧ run.last + run.shift < 0x110000) := by
  decide +kernel

theorem CaseRun.holds_bounds {run : CaseRun} {code : Nat}
    (h : run.holds code = true) :
    run.first ≤ code ∧ code ≤ run.last := by
  simp only [holds, Bool.and_eq_true, decide_eq_true_eq] at h
  exact h.1

theorem lowerChar_of_isPlain {c : Char} (h : IsPlain c) :
    lowerChar c = [c] := by
  have hnone : caseRuns.find? (·.holds c.toNat) = none := by
    refine List.find?_eq_none.2 fun run hrun hholds => ?_
    obtain ⟨hfirst, hlast⟩ := CaseRun.holds_bounds hholds
    exact (isClear_caseRuns run hrun).1.not_isPlain (by omega) (by omega) h
  rw [lowerChar, hnone, if_neg]
  rintro rfl
  exact absurd h (by decide)

theorem not_isPlain_of_mem_lowerChar {c d : Char} (h : ¬IsPlain c)
    (hd : d ∈ lowerChar c) :
    ¬IsPlain d := by
  rw [lowerChar] at hd
  split at hd
  · simp only [List.mem_cons, List.not_mem_nil, or_false] at hd
    rcases hd with rfl | rfl
    · decide
    · decide
  · split at hd
    · next run hfind =>
      have hholds := List.find?_some hfind
      obtain ⟨hfirst, hlast⟩ := CaseRun.holds_bounds hholds
      obtain ⟨-, hclear, hchar⟩ :=
        isClear_caseRuns run (List.mem_of_find?_eq_some hfind)
      have hnat : ((c.toNat + run.shift).toNat : Int) =
          c.toNat + run.shift := by
        have := hclear.1
        omega
      rw [List.mem_singleton.1 hd]
      refine hclear.not_isPlain ?_ ?_
      · rw [Char.toNat_ofNat, if_pos (by omega)]
        omega
      · rw [Char.toNat_ofNat, if_pos (by omega)]
        omega
    · rwa [List.mem_singleton.1 hd]

theorem lowerChar_ne_nil (c : Char) : lowerChar c ≠ [] := by
  rw [lowerChar]
  split
  · exact List.cons_ne_nil _ _
  · split
    · exact List.cons_ne_nil _ _
    · exact List.cons_ne_nil _ _

/-! ## Texts -/

/-- Whether a text comes of another by putting one or more characters that are
not plain for each character that is not plain. -/
inductive Folds : List Char → List Char → Prop
  | nil : Folds [] []
  | keep {c : Char} {s t : List Char} (h : IsPlain c) :
      Folds s t → Folds (c :: s) (c :: t)
  | change {c : Char} {l s t : List Char} (hc : ¬IsPlain c) (hne : l ≠ [])
    (hl : ∀ d ∈ l, ¬IsPlain d) : Folds s t → Folds (c :: s) (l ++ t)

theorem folds_lowerFrom (inWord : Bool) (s : List Char) :
    Folds s (lowerFrom inWord s) := by
  induction s generalizing inWord with
  | nil => exact .nil
  | cons c s ih =>
      rw [lowerFrom]
      split
      · next hc =>
        refine .change (by rw [hc]; decide) (List.cons_ne_nil _ _)
          (fun d hd => ?_) (ih _)
        rw [List.mem_singleton.1 hd]
        split
        · decide
        · decide
      · by_cases hplain : IsPlain c
        · rw [lowerChar_of_isPlain hplain]
          exact .keep hplain (ih _)
        · exact .change hplain (lowerChar_ne_nil c) (fun d =>
            not_isPlain_of_mem_lowerChar hplain)
            (ih _)

theorem folds_lower (s : List Char) : Folds s (lower s) :=
  folds_lowerFrom false s

variable {s t : List Char}

theorem Folds.eq_or_exists (h : Folds s t) :
    t = s ∨ (∃ c ∈ s, ¬IsPlain c) ∧ ∃ c ∈ t, ¬IsPlain c := by
  induction h with
  | nil => exact .inl rfl
  | keep hplain _ ih =>
      rcases ih with rfl | ⟨⟨c, hc, hc'⟩, d, hd, hd'⟩
      · exact .inl rfl
      · exact .inr ⟨⟨c, List.mem_cons_of_mem _ hc, hc'⟩, d,
          List.mem_cons_of_mem _ hd, hd'⟩
  | change hc hne hl _ _ =>
      obtain ⟨d, l, rfl⟩ := List.exists_cons_of_ne_nil hne
      exact .inr ⟨⟨_, List.mem_cons_self, hc⟩, d, List.mem_cons_self,
        hl d List.mem_cons_self⟩

theorem lower_eq_self (h : ∀ c ∈ s, IsPlain c) : lower s = s := by
  rcases (folds_lower s).eq_or_exists with heq | ⟨⟨c, hc, hplain⟩, -⟩
  · exact heq
  · exact absurd (h c hc) hplain

/-! ## Parts between separators -/

theorem Folds.append {s' t' : List Char} (h : Folds s t) (h' : Folds s' t') :
    Folds (s ++ s') (t ++ t') := by
  induction h with
  | nil => exact h'
  | keep hplain _ ih => exact .keep hplain ih
  | change hc hne hl _ ih =>
      rw [List.append_assoc]
      exact .change hc hne hl ih

variable {α : Type} {f : List Char → α} {separator : Char}

/-- The parts of a text that begins with `part` are read as those of what it
folds to: `part` is what has been passed of the first part. -/
theorem Folds.map_splitOn_append (hf : ∀ {s t}, Folds s t → f t = f s)
    (hseparator : IsPlain separator) (h : Folds s t) {part part' : List Char}
    (hpart : Folds part part') (hmem : separator ∉ part)
    (hmem' : separator ∉ part') :
    ((part' ++ t).splitOn separator).map f =
      ((part ++ s).splitOn separator).map f := by
  induction h generalizing part part' with
  | nil =>
      rw [List.append_nil, List.append_nil, List.splitOn_eq_singleton hmem,
        List.splitOn_eq_singleton hmem', List.map_singleton, List.map_singleton,
        hf hpart]
  | @keep c s t hplain _ ih =>
      by_cases hc : c = separator
      · subst hc
        rw [List.splitOn_append_cons_self_of_not_mem hmem,
          List.splitOn_append_cons_self_of_not_mem hmem', List.map_cons,
          List.map_cons, hf hpart]
        exact congrArg _ (ih .nil List.not_mem_nil List.not_mem_nil)
      · rw [List.append_cons, List.append_cons part c s]
        refine ih (hpart.append (.keep hplain .nil)) ?_ ?_
        · simp [hmem, Ne.symm hc]
        · simp [hmem', Ne.symm hc]
  | @change c l s t hc hne hl _ ih =>
      rw [← List.append_assoc, List.append_cons part c s]
      refine ih
        (hpart.append (by simpa using Folds.change hc hne hl .nil)) ?_ ?_
      · have : separator ≠ c := fun heq => hc (heq ▸ hseparator)
        simp [hmem, this]
      · have : separator ∉ l := fun hmem => hl _ hmem hseparator
        simp [hmem', this]

/-- What is read alike from a text and from what it folds to is read from
their parts alike. -/
theorem Folds.map_splitOn (h : Folds s t) (hf : ∀ {s t}, Folds s t → f t = f s)
    (hseparator : IsPlain separator) :
    (t.splitOn separator).map f = (s.splitOn separator).map f :=
  h.map_splitOn_append hf hseparator .nil List.not_mem_nil List.not_mem_nil

end Songbook.Text
