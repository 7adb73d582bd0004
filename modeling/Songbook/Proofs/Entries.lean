import Songbook.Filter.Entry

/-!
# What an entry is

A form holds one of four things at an address: nothing, the word of a
combinator, the word of a field, or a word that is neither, which is a fault.
A word belongs to one thing only, so which of the four it is can be said by
the text alone; for a field the rest of the leaf is looked at, and never turns
into a branch or into nothing.
-/

namespace Songbook.Filter

theorem Combinator.ofToken?_eq_some_iff {token : String}
    {combinator : Combinator} :
    Combinator.ofToken? token = some combinator ↔ token = combinator.token := by
  constructor
  · intro h
    unfold Combinator.ofToken? at h
    split at h <;> cases h <;> rfl
  · rintro rfl
    exact Combinator.ofToken?_token combinator

theorem FieldKind.ofToken?_eq_some_iff {token : String} {kind : FieldKind} :
    FieldKind.ofToken? token = some kind ↔ token = kind.token := by
  constructor
  · intro h
    unfold FieldKind.ofToken? at h
    split at h <;> cases h <;> rfl
  · rintro rfl
    exact FieldKind.ofToken?_token kind

theorem TextRule.ofToken?_eq_some_iff {token : String} {rule : TextRule} :
    TextRule.ofToken? token = some rule ↔ token = rule.token := by
  constructor
  · intro h
    unfold TextRule.ofToken? at h
    split at h <;> cases h <;> rfl
  · rintro rfl
    exact TextRule.ofToken?_token rule

theorem NumberRule.ofToken?_eq_some_iff {token : String} {rule : NumberRule} :
    NumberRule.ofToken? token = some rule ↔ token = rule.token := by
  constructor
  · intro h
    unfold NumberRule.ofToken? at h
    split at h <;> cases h <;> rfl
  · rintro rfl
    exact NumberRule.ofToken?_token rule

theorem DateRule.ofToken?_eq_some_iff {token : String} {rule : DateRule} :
    DateRule.ofToken? token = some rule ↔ token = rule.token := by
  constructor
  · intro h
    unfold DateRule.ofToken? at h
    split at h <;> cases h <;> rfl
  · rintro rfl
    exact DateRule.ofToken?_token rule

namespace Form

variable {form : Form} {address : String}

theorem resolve_of_get?_eq_none (h : form.get? address = none) :
    form.resolve address = .ok .absent := by
  rw [resolve, h]

theorem resolve_of_combinator {combinator : Combinator}
    (h : form.get? address = some combinator.token) :
    form.resolve address = .ok (.branch combinator) := by
  rw [resolve, h]
  simp only [Combinator.ofToken?_token]

theorem resolve_of_unknown {token : String} (h : form.get? address = some token)
    (hc : Combinator.ofToken? token = none)
    (hk : FieldKind.ofToken? token = none) :
    form.resolve address = .error (.unknownKind address token) := by
  rw [resolve, h]
  simp only [hc, hk]

theorem resolve_of_kind {kind : FieldKind}
    (h : form.get? address = some kind.token) :
    form.resolve address =
      if form.isBlankAt address kind then .ok .blank
      else match form.get? (Address.rule address) with
        | none => .error (.missingRule address)
        | some word => .leaf <$> form.leafAt address word kind := by
  rcases kind with field | field | field <;> cases field <;>
      (rw [resolve, h]; rfl)

theorem get?_cases (form : Form) (address : String) :
    form.get? address = none ∨
    (∃ combinator : Combinator, form.get? address = some combinator.token) ∨
    (∃ kind : FieldKind, form.get? address = some kind.token) ∨
    ∃ token, form.get? address = some token ∧ Combinator.ofToken? token = none ∧
      FieldKind.ofToken? token = none := by
  cases h : form.get? address with
  | none => exact .inl rfl
  | some token =>
      refine .inr ?_
      cases hc : Combinator.ofToken? token with
      | some combinator =>
          exact .inl ⟨combinator,
            congrArg some (Combinator.ofToken?_eq_some_iff.1 hc)⟩
      | none =>
          refine .inr ?_
          cases hk : FieldKind.ofToken? token with
          | some kind =>
              exact .inl ⟨kind,
                congrArg some (FieldKind.ofToken?_eq_some_iff.1 hk)⟩
          | none => exact .inr ⟨token, rfl, hc, hk⟩

/-- At the word of a field there is a blank, a leaf or a fault. -/
theorem resolve_of_kind_cases {kind : FieldKind}
    (h : form.get? address = some kind.token) :
    form.resolve address = .ok .blank ∨
      (∃ raw, form.resolve address = .ok (.leaf raw)) ∨
      ∃ fault, form.resolve address = .error fault := by
  rw [resolve_of_kind h]
  split
  · exact .inl rfl
  · refine .inr ?_
    split
    · exact .inr ⟨_, rfl⟩
    · next word _ =>
        cases form.leafAt address word kind with
        | error fault => exact .inr ⟨fault, rfl⟩
        | ok raw => exact .inl ⟨raw, rfl⟩

theorem resolve_eq_branch_iff {combinator : Combinator} :
    form.resolve address = .ok (.branch combinator) ↔
      form.get? address = some combinator.token := by
  refine ⟨fun h => ?_, resolve_of_combinator⟩
  rcases form.get?_cases address with hn | ⟨c, hc⟩ | ⟨kind, hk⟩ |
    ⟨token, ht, hc, hk⟩
  · rw [resolve_of_get?_eq_none hn] at h
    cases h
  · rw [resolve_of_combinator hc] at h
    cases h
    exact hc
  · rcases resolve_of_kind_cases hk with hr | ⟨raw, hr⟩ | ⟨fault, hr⟩ <;>
        rw [hr] at h <;> cases h
  · rw [resolve_of_unknown ht hc hk] at h
    cases h

theorem resolve_eq_absent_iff :
    form.resolve address = .ok .absent ↔ form.contains address = false := by
  rw [contains, Option.isSome_eq_false_iff, Option.isNone_iff_eq_none]
  refine ⟨fun h => ?_, resolve_of_get?_eq_none⟩
  rcases form.get?_cases address with hn | ⟨c, hc⟩ | ⟨kind, hk⟩ |
    ⟨token, ht, hc, hk⟩
  · exact hn
  · rw [resolve_of_combinator hc] at h
    cases h
  · rcases resolve_of_kind_cases hk with hr | ⟨raw, hr⟩ | ⟨fault, hr⟩ <;>
        rw [hr] at h <;> cases h
  · rw [resolve_of_unknown ht hc hk] at h
    cases h

end Form

end Songbook.Filter
