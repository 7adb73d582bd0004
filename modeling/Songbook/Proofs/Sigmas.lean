import Mathlib.Data.List.Infix
import Songbook.Text.Lowercase

/-!
# Lower case in context

A text is lower-cased as a whole, and a part of it may come out otherwise than
it does alone. One character makes the difference, the capital sigma, and it
takes two places to make it. The last letter of a part, if it is a sigma after
a letter with case, is final when the part stands alone and is not when a
letter follows. The first letter of a part, if it is a sigma and no letter
with case comes next, is not final when the part stands alone and is when a
letter comes before. Everywhere else the part itself holds the letters that
decide.

That the other texts come out alike wherever they stand is shown by following
the part from either side up to the first letter on that side. That these two
do not, whatever one might look for them with, is shown by counting: in the
wrong surroundings the whole has one sigma of the kind less than the part.
-/

namespace Songbook.Text

/-! ## Surroundings -/

/-- Whether the nearest letter after a place has case, where `after` says it
of what follows the text. -/
def casedAhead (after : Bool) (s : List Char) : Bool :=
  match s.dropWhile isCaseIgnorable with
  | [] => after
  | c :: _ => isCased c

/-- Whether the nearest letter before the end of a text has case, where
`before` says it of what comes before the text. -/
def casedBehind (before : Bool) (s : List Char) : Bool :=
  s.foldl
    (fun inWord c => if isCaseIgnorable c then inWord else isCased c) before

/-- Lower-cases a text that stands between others. -/
def lowerBetween (before after : Bool) : List Char → List Char
  | [] => []
  | c :: s =>
    let lower :=
      if c = 'Σ' then [if before && !casedAhead after s then 'ς' else 'σ']
      else lowerChar c
    lower ++ lowerBetween
      (if isCaseIgnorable c then before else isCased c) after s

variable {before after : Bool} {s t : List Char} {c : Char}

theorem isCaseIgnorable_sigma : isCaseIgnorable 'Σ' = false := by
  decide +kernel

theorem isCased_sigma : isCased 'Σ' = true := by
  decide +kernel

theorem casedAhead_of_isCaseIgnorable (h : isCaseIgnorable c = true) :
    casedAhead after (c :: s) = casedAhead after s := by
  rw [casedAhead, List.dropWhile_cons_of_pos h, casedAhead]

theorem casedAhead_of_not_isCaseIgnorable (h : isCaseIgnorable c = false) :
    casedAhead after (c :: s) = isCased c := by
  rw [casedAhead, List.dropWhile_cons_of_neg (by simp [h])]

theorem casedAhead_append (s t : List Char) :
    casedAhead after (s ++ t) = casedAhead (casedAhead after t) s := by
  induction s with
  | nil => rfl
  | cons c s ih =>
      rw [List.cons_append]
      cases hc : isCaseIgnorable c with
      | true =>
          rw [casedAhead_of_isCaseIgnorable hc,
            casedAhead_of_isCaseIgnorable hc, ih]
      | false =>
          rw [casedAhead_of_not_isCaseIgnorable hc,
            casedAhead_of_not_isCaseIgnorable hc]

/-- Without a letter in between, what follows decides. -/
theorem casedAhead_of_all (h : ∀ c ∈ s, isCaseIgnorable c = true) :
    casedAhead after s = after := by
  induction s with
  | nil => rfl
  | cons c s ih =>
      rw [casedAhead_of_isCaseIgnorable (h c List.mem_cons_self),
        ih fun d hd => h d (List.mem_cons_of_mem c hd)]

theorem casedAhead_of_exists (h : ∃ c ∈ s, isCaseIgnorable c = false)
    (other : Bool) :
    casedAhead after s = casedAhead other s := by
  induction s with
  | nil => simp at h
  | cons c s ih =>
      cases hc : isCaseIgnorable c with
      | false =>
          rw [casedAhead_of_not_isCaseIgnorable hc,
            casedAhead_of_not_isCaseIgnorable hc]
      | true =>
          rw [casedAhead_of_isCaseIgnorable hc,
            casedAhead_of_isCaseIgnorable hc]
          refine ih ?_
          obtain ⟨d, hd, hletter⟩ := h
          rcases List.mem_cons.1 hd with rfl | hd
          · rw [hc] at hletter
            cases hletter
          · exact ⟨d, hd, hletter⟩

theorem casedBehind_of_all (h : ∀ c ∈ s, isCaseIgnorable c = true) :
    casedBehind before s = before := by
  induction s with
  | nil => rfl
  | cons c s ih =>
      rw [casedBehind, List.foldl_cons, if_pos (h c List.mem_cons_self)]
      exact ih fun d hd => h d (List.mem_cons_of_mem c hd)

theorem lowerFrom_eq_lowerBetween (before : Bool) (s : List Char) :
    lowerFrom before s = lowerBetween before false s := by
  induction s generalizing before with
  | nil => rfl
  | cons c s ih =>
      rw [lowerFrom, lowerBetween, ih]
      rfl

theorem lower_eq_lowerBetween (s : List Char) :
    lower s = lowerBetween false false s :=
  lowerFrom_eq_lowerBetween false s

/-- A text in two parts is lower-cased part by part, each told what stands on
its other side. -/
theorem lowerBetween_append (before after : Bool) (s t : List Char) :
    lowerBetween before after (s ++ t) =
      lowerBetween before (casedAhead after t) s ++
        lowerBetween (casedBehind before s) after t := by
  induction s generalizing before with
  | nil => rfl
  | cons c s ih =>
      rw [List.cons_append, lowerBetween, lowerBetween, ih, casedAhead_append,
        List.append_assoc]
      rfl

/-- What becomes of a sigma is decided by the nearest letters on its two
sides. -/
theorem lowerBetween_sigma (before after : Bool) (s t : List Char) :
    lowerBetween before after (s ++ 'Σ' :: t) =
      lowerBetween before true s ++
        (if casedBehind before s && !casedAhead after t then 'ς' else 'σ') ::
          lowerBetween true after t := by
  rw [lowerBetween_append,
    casedAhead_of_not_isCaseIgnorable isCaseIgnorable_sigma, isCased_sigma,
    lowerBetween, if_pos rfl, isCaseIgnorable_sigma, if_neg Bool.false_ne_true,
    isCased_sigma]
  rfl

/-! ## Texts that come out alike -/

/-- Whether the last letter of a text is a capital sigma that comes after a
letter with case. -/
def EndsInFinalSigma (s : List Char) : Prop :=
  ∃ p q, s = p ++ 'Σ' :: q ∧ casedBehind false p = true ∧
    ∀ c ∈ q, isCaseIgnorable c = true

/-- Whether the first letter of a text is a capital sigma that no letter with
case comes after. -/
def StartsWithLoneSigma (s : List Char) : Prop :=
  ∃ p q, s = p ++ 'Σ' :: q ∧ (∀ c ∈ p, isCaseIgnorable c = true) ∧
    startsCased q = false

/-- What comes before a text does not matter if its first letter is no sigma,
or one that a letter with case comes after. -/
theorem lowerBetween_before (h : ∀ p q, s = p ++ 'Σ' :: q →
      (∀ c ∈ p, isCaseIgnorable c = true) →
        casedAhead after q = true) (before other : Bool) :
    lowerBetween before after s = lowerBetween other after s := by
  induction s with
  | nil => rfl
  | cons c s ih =>
      rw [lowerBetween, lowerBetween]
      cases hc : isCaseIgnorable c with
      | true =>
          have hne : c ≠ 'Σ' := by
            rintro rfl
            rw [isCaseIgnorable_sigma] at hc
            cases hc
          rw [if_neg hne, if_neg hne, if_pos rfl, if_pos rfl, ih]
          intro p q hs hp
          refine h (c :: p) q (congrArg (c :: ·) hs) fun d hd => ?_
          rcases List.mem_cons.1 hd with rfl | hd
          · exact hc
          · exact hp d hd
      | false =>
          by_cases hsigma : c = 'Σ'
          · have hahead : casedAhead after s = true :=
              h [] s (congrArg (· :: s) hsigma) (by simp)
            simp [hahead]
          · simp [hsigma]

/-- What follows a text does not matter if its last letter is no sigma, or one
that no letter with case comes before. -/
theorem lowerBetween_after (h : ∀ p q, s = p ++ 'Σ' :: q →
      (∀ c ∈ q, isCaseIgnorable c = true) →
        casedBehind before p = false) (after other : Bool) :
    lowerBetween before after s = lowerBetween before other s := by
  induction s generalizing before with
  | nil => rfl
  | cons c s ih =>
      rw [lowerBetween, lowerBetween]
      have hrest : lowerBetween
          (if isCaseIgnorable c then before else isCased c) after s =
          lowerBetween
            (if isCaseIgnorable c then before else isCased c) other s :=
        ih fun p q hs hq => h (c :: p) q (congrArg (c :: ·) hs) hq
      rw [hrest]
      by_cases hsigma : c = 'Σ'
      · by_cases hletter : ∃ d ∈ s, isCaseIgnorable d = false
        · rw [casedAhead_of_exists hletter other]
        · have hbefore : before = false := by
            refine h [] s (congrArg (· :: s) hsigma) fun d hd => ?_
            by_contra hd'
            exact hletter ⟨d, hd, Bool.not_eq_true _ ▸ hd'⟩
          simp [hbefore]
      · simp [hsigma]

theorem lowerBetween_of_not_endsInFinalSigma (h : ¬EndsInFinalSigma s)
    (after : Bool) :
    lowerBetween false after s = lower s := by
  rw [lower_eq_lowerBetween]
  refine lowerBetween_after (fun p q hs hq => ?_) after false
  by_contra hp
  exact h ⟨p, q, hs, Bool.not_eq_false _ ▸ hp, hq⟩

theorem casedAhead_of_startsCased (h : startsCased s = true) :
    casedAhead after s = true := by
  rw [startsCased] at h
  rw [casedAhead]
  cases hs : s.dropWhile isCaseIgnorable with
  | nil => simp [hs] at h
  | cons c rest => simpa [hs] using h

theorem lowerBetween_of_not_startsWithLoneSigma (h : ¬StartsWithLoneSigma s)
    (before after : Bool) :
    lowerBetween before after s = lowerBetween false after s := by
  refine lowerBetween_before
    (fun p q hs hp => casedAhead_of_startsCased ?_) before false
  by_contra hq
  exact h ⟨p, q, hs, hp, Bool.not_eq_true _ ▸ hq⟩

theorem lower_prefix_lower (h : ¬EndsInFinalSigma s) (hstart : s <+: t) :
    lower s <+: lower t := by
  obtain ⟨rest, rfl⟩ := hstart
  rw [lower_eq_lowerBetween (s ++ rest), lowerBetween_append,
    lowerBetween_of_not_endsInFinalSigma h]
  exact List.prefix_append _ _

theorem lower_suffix_lower (h : ¬StartsWithLoneSigma s) (hend : s <:+ t) :
    lower s <:+ lower t := by
  obtain ⟨start, rfl⟩ := hend
  rw [lower_eq_lowerBetween (start ++ s), lowerBetween_append,
    lowerBetween_of_not_startsWithLoneSigma h, ← lower_eq_lowerBetween]
  exact List.suffix_append _ _

theorem lower_infix_lower (hends : ¬EndsInFinalSigma s)
    (hstarts : ¬StartsWithLoneSigma s) (hoccurs : s <:+: t) :
    lower s <:+: lower t := by
  obtain ⟨start, rest, rfl⟩ := hoccurs
  rw [List.append_assoc, lower_eq_lowerBetween (start ++ (s ++ rest)),
    lowerBetween_append, lowerBetween_append,
    lowerBetween_of_not_startsWithLoneSigma hstarts,
    lowerBetween_of_not_endsInFinalSigma hends, ← List.append_assoc]
  exact List.infix_append _ _ _

theorem not_endsInFinalSigma_of_not_mem (h : 'Σ' ∉ s) :
    ¬EndsInFinalSigma s := by
  rintro ⟨p, q, rfl, -, -⟩
  simp at h

theorem not_startsWithLoneSigma_of_not_mem (h : 'Σ' ∉ s) :
    ¬StartsWithLoneSigma s := by
  rintro ⟨p, q, rfl, -, -⟩
  simp at h

/-! ## Texts that do not -/

theorem not_mem_sigma_of_all (h : ∀ c ∈ s, isCaseIgnorable c = true) :
    'Σ' ∉ s := by
  intro hs
  have := h _ hs
  rw [isCaseIgnorable_sigma] at this
  cases this

theorem lowerBetween_of_all (h : ∀ c ∈ s, isCaseIgnorable c = true)
    (before after other other' : Bool) :
    lowerBetween before after s = lowerBetween other other' s := by
  have hmem : ∀ p q, s ≠ p ++ 'Σ' :: q := by
    rintro p q rfl
    exact not_mem_sigma_of_all h (by simp)
  rw [lowerBetween_before (fun p q hs => absurd hs (hmem p q)) before other,
    lowerBetween_after (fun p q hs => absurd hs (hmem p q)) after other']

theorem isCased_letter : isCaseIgnorable 'a' = false ∧ isCased 'a' = true := by
  decide +kernel

theorem lowerBetween_letter (before after : Bool) (s : List Char) :
    lowerBetween before after ('a' :: s) =
      'a' :: lowerBetween true after s := by
  have hlower : lowerChar 'a' = ['a'] := by decide +kernel
  rw [lowerBetween, if_neg (by decide), hlower, isCased_letter.1,
    isCased_letter.2]
  rfl

/-- A final sigma is no longer final when a letter follows. -/
theorem not_sublist_append_letter (h : EndsInFinalSigma s) :
    ¬(lower s).Sublist (lower (s ++ ['a'])) := by
  obtain ⟨p, q, rfl, hp, hq⟩ := h
  rw [lower_eq_lowerBetween, lower_eq_lowerBetween,
    lowerBetween_append false false (p ++ _), lowerBetween_letter,
    casedAhead_of_not_isCaseIgnorable isCased_letter.1, isCased_letter.2,
    lowerBetween_sigma, lowerBetween_sigma, hp, casedAhead_of_all hq,
    casedAhead_of_all hq, lowerBetween_of_all hq true true true false]
  intro hsublist
  -- around the sigma the two are alike, so only the sigma can be missing
  have hcount := hsublist.count_le 'ς'
  simp only [lowerBetween, Bool.not_false, Bool.not_true, Bool.and_self,
    Bool.and_false, Bool.false_eq_true, reduceIte, List.count_append,
    List.count_cons_self, ne_eq, Char.reduceEq, not_false_eq_true,
    List.count_cons_of_ne, List.count_nil] at hcount
  omega

/-- A sigma that no letter follows is final when a letter comes before it. -/
theorem not_sublist_cons_letter (h : StartsWithLoneSigma s) :
    ¬(lower s).Sublist (lower ('a' :: s)) := by
  obtain ⟨p, q, rfl, hp, hq⟩ := h
  have hahead : casedAhead false q = false := hq
  rw [lower_eq_lowerBetween, lower_eq_lowerBetween, lowerBetween_letter,
    lowerBetween_sigma, lowerBetween_sigma, casedBehind_of_all hp,
    casedBehind_of_all hp, hahead, lowerBetween_of_all hp true true false true]
  intro hsublist
  have hcount := hsublist.count_le 'σ'
  simp only [Bool.not_false, Bool.and_self, Bool.and_true, Bool.false_eq_true,
    reduceIte, List.count_append, List.count_cons_self, ne_eq, Char.reduceEq,
    not_false_eq_true, List.count_cons_of_ne] at hcount
  omega

end Songbook.Text
