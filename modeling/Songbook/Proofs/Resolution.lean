import Songbook.Proofs.Spelling

/-!
# What is found is spelled there

Resolving an entry undoes a spelling: where a leaf is spelled, it is found.
The other way round, a leaf is found only where the form has all the texts
that spell it, each under the key of its place: the word of the field, the
word of the rule, and every operand that the rule reads. So what is said later
about an operand of a leaf is said about a text that somebody put into the
form.

The form may have more at the address, a third operand for one, which no rule
reads; that is why a leaf that is found need not be all that is spelled there.
-/

namespace Songbook.Filter.Form

variable {form : Form} {address : String}

/-! ## Operands -/

/-- Whether each text of a list is that of the operand in its place. -/
def HoldsOperands (form : Form) (address : String) (operands : List String) :
    Prop :=
  ∀ index text, operands[index]? = some text →
    form.get? (Address.operand address index) = some text

theorem requireOperand_eq_ok_iff {index : Nat} {text : String} :
    form.requireOperand address index = .ok text ↔
      form.get? (Address.operand address index) = some text := by
  rw [requireOperand]
  cases form.get? (Address.operand address index) <;> simp

theorem holdsOperands_singleton_iff {text : String} :
    form.HoldsOperands address [text] ↔
      form.requireOperand address 0 = .ok text := by
  rw [requireOperand_eq_ok_iff]
  constructor
  · exact fun h => h 0 text rfl
  · intro h index t ht
    cases index with
    | zero => cases ht; exact h
    | succ index => cases ht

theorem holdsOperands_pair_iff {first second : String} :
    form.HoldsOperands address [first, second] ↔
      form.requireOperand address 0 = .ok first ∧
        form.requireOperand address 1 = .ok second := by
  rw [requireOperand_eq_ok_iff, requireOperand_eq_ok_iff]
  constructor
  · exact fun h => ⟨h 0 first rfl, h 1 second rfl⟩
  · rintro ⟨h₀, h₁⟩ index t ht
    match index with
    | 0 => cases ht; exact h₀
    | 1 => cases ht; exact h₁
    | index + 2 => cases ht

theorem holdsOperands_of_requireInterval {interval : Interval String}
    (h : form.requireInterval address = .ok interval) :
    form.HoldsOperands address [interval.lo, interval.hi] := by
  obtain ⟨lo, hlo, h⟩ := bind_eq_ok_iff.1 h
  obtain ⟨hi, hhi, h⟩ := bind_eq_ok_iff.1 h
  cases h
  exact holdsOperands_pair_iff.2 ⟨hlo, hhi⟩

theorem holdsOperands_of_numberComparison {rule : NumberRule}
    {comparison : NumberComparison String}
    (h : form.numberComparison address rule = .ok comparison) :
    comparison.rule = rule ∧
      form.HoldsOperands address comparison.operands := by
  cases rule with
  | atMost | atLeast | equal | notEqual =>
      obtain ⟨text, ht, rfl⟩ := map_eq_ok_iff.1 h
      exact ⟨rfl, holdsOperands_singleton_iff.2 ht⟩
  | inside | outside =>
      obtain ⟨interval, hi, rfl⟩ := map_eq_ok_iff.1 h
      exact ⟨rfl, holdsOperands_of_requireInterval hi⟩

/-! ## Leaves -/

/-- A leaf that is filled in, spelled by two words and by operands that the
form holds. -/
structure HoldsLeaf (form : Form) (address token word : String)
    (raw : RawLeaf) : Prop where
  filled : raw.IsFilled
  token_eq : raw.spelling.token = token
  rule_eq : raw.spelling.rule? = some word
  operands : form.HoldsOperands address raw.spelling.operands

theorem holdsOperands_of_recentLeaf {field : DateField} {negated : Bool}
    {raw : RawLeaf} (h : form.recentLeaf address field negated = .ok raw) :
    ∃ count unit, raw = .recent field count unit negated ∧
      form.HoldsOperands address [count, unit] := by
  obtain ⟨count, hcount, h⟩ := bind_eq_ok_iff.1 h
  obtain ⟨unit, hunit, h⟩ := bind_eq_ok_iff.1 h
  cases h
  exact ⟨count, unit, rfl, holdsOperands_pair_iff.2 ⟨hcount, hunit⟩⟩

theorem holdsLeaf_of_dateLeaf {field : DateField} {rule : DateRule}
    {raw : RawLeaf} (h : form.dateLeaf address field rule = .ok raw) :
    form.HoldsLeaf address field.token rule.token raw := by
  cases rule with
  | last | noLast =>
      obtain ⟨count, unit, rfl, hoperands⟩ := holdsOperands_of_recentLeaf h
      exact ⟨trivial, rfl, rfl, hoperands⟩
  | before | after =>
      obtain ⟨text, ht, rfl⟩ := map_eq_ok_iff.1 h
      exact ⟨trivial, rfl, rfl, holdsOperands_singleton_iff.2 ht⟩
  | inside | outside =>
      obtain ⟨interval, hi, rfl⟩ := map_eq_ok_iff.1 h
      exact ⟨trivial, rfl, rfl, holdsOperands_of_requireInterval hi⟩

theorem checkRule_eq_ok_iff {α : Type} {kind : FieldKind} {word : String}
    {rule? : Option α} {rule : α} :
    checkRule address kind word rule? = .ok rule ↔ rule? = some rule := by
  unfold checkRule
  cases rule? <;> simp

theorem holdsOperands_of_isBlankAt {field : TextField}
    (h : form.isBlankAt address (.text field) = false) :
    form.HoldsOperands address
      [(form.get? (Address.operand address 0)).getD ""] := by
  rw [isBlankAt] at h
  rw [holdsOperands_singleton_iff, requireOperand_eq_ok_iff]
  cases hget : form.get? (Address.operand address 0) with
  | none => rw [hget] at h; cases h
  | some text => rfl

theorem holdsLeaf_of_leafAt {kind : FieldKind} {word : String} {raw : RawLeaf}
    (h : form.leafAt address word kind = .ok raw)
    (hblank : form.isBlankAt address kind = false) :
    form.HoldsLeaf address kind.token word raw := by
  cases kind with
  | text field =>
      obtain ⟨rule, hrule, h⟩ := bind_eq_ok_iff.1 h
      cases h
      rw [checkRule_eq_ok_iff, TextRule.ofToken?_eq_some_iff] at hrule
      subst hrule
      exact ⟨hblank, rfl, rfl, holdsOperands_of_isBlankAt hblank⟩
  | number field =>
      obtain ⟨rule, hrule, h⟩ := bind_eq_ok_iff.1 h
      obtain ⟨comparison, hcomparison, h⟩ := bind_eq_ok_iff.1 h
      cases h
      rw [checkRule_eq_ok_iff, NumberRule.ofToken?_eq_some_iff] at hrule
      subst hrule
      obtain ⟨rfl, hoperands⟩ := holdsOperands_of_numberComparison hcomparison
      exact ⟨trivial, rfl, rfl, hoperands⟩
  | date field =>
      obtain ⟨rule, hrule, hleaf⟩ := bind_eq_ok_iff.1 h
      rw [checkRule_eq_ok_iff, DateRule.ofToken?_eq_some_iff] at hrule
      subst hrule
      exact holdsLeaf_of_dateLeaf hleaf

/-- A leaf that is found in a form is filled in, and the form has all the
texts that spell it. -/
theorem texts_of_resolve {raw : RawLeaf}
    (h : form.resolve address = .ok (.leaf raw)) :
    raw.IsFilled ∧ ∀ slot text, raw.spelling.text? slot = some text →
      form.get? (Address.key address slot) = some text := by
  rcases form.get?_cases address with hn | ⟨combinator, hc⟩ | ⟨kind, hk⟩ |
    ⟨token, ht, hc, hk⟩
  · rw [resolve_of_get?_eq_none hn] at h
    cases h
  · rw [resolve_of_combinator hc] at h
    cases h
  · rw [resolve_of_kind hk] at h
    split at h
    · cases h
    · next hblank =>
        split at h
        · cases h
        · next word hword =>
            obtain ⟨_, hleaf, ⟨⟩⟩ := map_eq_ok_iff.1 h
            have hholds :=
              holdsLeaf_of_leafAt hleaf (Bool.not_eq_true _ ▸ hblank)
            refine ⟨hholds.filled, fun slot text htext => ?_⟩
            cases slot with
            | entry =>
                cases htext
                rw [hholds.token_eq]
                exact hk
            | rule => exact hword.trans (hholds.rule_eq.symm.trans htext)
            | operand index => exact hholds.operands index text htext
  · rw [resolve_of_unknown ht hc hk] at h
    cases h

end Songbook.Filter.Form
