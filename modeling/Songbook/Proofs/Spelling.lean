import Songbook.Proofs.Addresses
import Songbook.Proofs.Dates
import Songbook.Proofs.Entries
import Songbook.Proofs.Reading

/-!
# How a leaf is spelled

A leaf is spelled by the word of its field, the word of its rule and the texts
of its operands. Reading takes two steps and the spelling is undone in the
same two: the words and the shape of the comparison come back when the entry
is resolved, for any operands, and the operands come back from their texts
after that. So no proof has to look at a rule and at a numeral at once.

A criterion on text that was left blank is spelled in the same way, perhaps
without a rule and without an operand. It is told from a leaf by its operand
alone.
-/

namespace Songbook.Filter

/-! ## Comparisons and their rules -/

namespace NumberComparison

variable {α β γ ε : Type}

/-- The rule of a comparison, its operands left out. -/
def rule : NumberComparison α → NumberRule
  | atMost _ => .atMost
  | atLeast _ => .atLeast
  | equal _ => .equal
  | notEqual _ => .notEqual
  | inside _ => .inside
  | outside _ => .outside

/-- A comparison with every operand changed by `f`. -/
def map (f : α → β) : NumberComparison α → NumberComparison β
  | atMost bound => atMost (f bound)
  | atLeast bound => atLeast (f bound)
  | equal value => equal (f value)
  | notEqual value => notEqual (f value)
  | inside interval => inside ⟨f interval.lo, f interval.hi⟩
  | outside interval => outside ⟨f interval.lo, f interval.hi⟩

theorem traverse_map {f : Nat → β → Except ε γ} {g : α → β} {h : α → γ}
    (hf : ∀ index a, f index (g a) = .ok (h a))
    (comparison : NumberComparison α) :
    (comparison.map g).traverse f = .ok (comparison.map h) := by
  cases comparison with
  | atMost bound => rw [map, traverse, hf]; rfl
  | atLeast bound => rw [map, traverse, hf]; rfl
  | equal value => rw [map, traverse, hf]; rfl
  | notEqual value => rw [map, traverse, hf]; rfl
  | inside interval => rw [map, traverse, Interval.traverse, hf, hf]; rfl
  | outside interval => rw [map, traverse, Interval.traverse, hf, hf]; rfl

theorem traverse_map_ok (comparison : NumberComparison α) :
    (comparison.map (Except.ok : α → Except ε α)).traverse
      (fun _ operand => operand) =
      .ok comparison := by
  cases comparison <;> rfl

end NumberComparison

namespace DayComparison

variable {α β γ ε : Type}

/-- The rule of a comparison, its operands left out. -/
def rule : DayComparison α → DateRule
  | before _ => .before
  | after _ => .after
  | inside _ => .inside
  | outside _ => .outside

/-- The operands of a comparison, in order. -/
def operands : DayComparison α → List α
  | before bound => [bound]
  | after bound => [bound]
  | inside interval => [interval.lo, interval.hi]
  | outside interval => [interval.lo, interval.hi]

/-- A comparison with every operand changed by `f`. -/
def map (f : α → β) : DayComparison α → DayComparison β
  | before bound => before (f bound)
  | after bound => after (f bound)
  | inside interval => inside ⟨f interval.lo, f interval.hi⟩
  | outside interval => outside ⟨f interval.lo, f interval.hi⟩

theorem traverse_map {f : Nat → β → Except ε α} {g : α → β}
    {comparison : DayComparison α}
    (hf : ∀ index, ∀ a ∈ comparison.operands, f index (g a) = .ok a) :
    (comparison.map g).traverse f = .ok comparison := by
  cases comparison with
  | before bound => rw [map, traverse, hf 0 bound (by simp [operands])]; rfl
  | after bound => rw [map, traverse, hf 0 bound (by simp [operands])]; rfl
  | inside interval =>
      rw [map, traverse, Interval.traverse,
        hf 0 interval.lo (by simp [operands]),
        hf 1 interval.hi (by simp [operands])]
      rfl
  | outside interval =>
      rw [map, traverse, Interval.traverse,
        hf 0 interval.lo (by simp [operands]),
        hf 1 interval.hi (by simp [operands])]
      rfl

end DayComparison

/-! ## Spellings -/

/-- The texts that spell a criterion. -/
structure Spelling where
  token : String
  rule? : Option String
  operands : List String

namespace Spelling

/-- The text that a spelling has at each place of a leaf. -/
def text? (spelling : Spelling) : Address.Slot → Option String
  | .entry => some spelling.token
  | .rule => spelling.rule?
  | .operand index => spelling.operands[index]?

/-- The pairs of key and text that put a spelling at an address. -/
def entries (spelling : Spelling) (address : String) : List (String × String) :=
  (address, spelling.token) ::
    (spelling.rule?.toList.map fun word => (Address.rule address, word)) ++
    spelling.operands.mapIdx fun index text =>
      (Address.operand address index, text)

theorem mem_entries_iff {spelling : Spelling} {address : String}
    {pair : String × String} :
    pair ∈ spelling.entries address ↔
      ∃ slot, pair.1 = Address.key address slot ∧
        spelling.text? slot = some pair.2 := by
  obtain ⟨k, t⟩ := pair
  rw [entries, List.mem_append, List.mem_cons]
  constructor
  · rintro ((h | h) | h)
    · cases h
      exact ⟨.entry, rfl, rfl⟩
    · obtain ⟨word, hw, h⟩ := List.mem_map.1 h
      cases h
      exact ⟨.rule, rfl, Option.mem_toList.1 hw⟩
    · obtain ⟨index, hi, h⟩ := List.mem_mapIdx.1 h
      cases h
      exact ⟨.operand index, rfl, List.getElem?_eq_getElem hi⟩
  · rintro ⟨slot, hk, ht⟩
    cases hk
    cases slot with
    | entry =>
        cases ht
        exact .inl (.inl rfl)
    | rule =>
        exact .inl (.inr (List.mem_map.2 ⟨t, Option.mem_toList.2 ht, rfl⟩))
    | operand index =>
        obtain ⟨hi, rfl⟩ := List.getElem?_eq_some_iff.1 ht
        exact .inr (List.mem_mapIdx.2 ⟨index, hi, rfl⟩)

end Spelling

/-- A form spells a criterion at an address if it has just these texts there. -/
def Form.Spells (form : Form) (address : String) (spelling : Spelling) : Prop :=
  ∀ slot, form.get? (Address.key address slot) = spelling.text? slot

/-! ## The words come back -/

variable {form : Form} {address : String}

namespace RawLeaf

/-- The field that a leaf is about. -/
def kind : RawLeaf → FieldKind
  | text field _ _ => .text field
  | number field _ => .number field
  | calendar field _ => .date field
  | recent field _ _ _ => .date field

/-- The words that spell a leaf. -/
def spelling : RawLeaf → Spelling
  | text field rule operand => ⟨field.token, some rule.token, [operand]⟩
  | number field comparison =>
      ⟨field.token, some comparison.rule.token, comparison.operands⟩
  | calendar field comparison =>
      ⟨field.token, some comparison.rule.token, comparison.operands⟩
  | recent field count unit negated =>
    ⟨field.token, some (if negated then DateRule.noLast else .last).token,
      [count, unit]⟩

/-- Whether a leaf is more than a blank criterion, which only one on text can
be. -/
def IsFilled : RawLeaf → Prop
  | text _ _ operand => Text.isAllBlank operand.toList = false
  | number _ _ => True
  | calendar _ _ => True
  | recent _ _ _ _ => True

theorem token_spelling (raw : RawLeaf) :
    raw.spelling.token = raw.kind.token := by
  cases raw <;> rfl

theorem exists_rule (raw : RawLeaf) :
    ∃ word, raw.spelling.rule? = some word := by
  cases raw <;> exact ⟨_, rfl⟩

end RawLeaf

namespace Form.Spells

variable {spelling : Spelling}

theorem entry (h : form.Spells address spelling) :
    form.get? address = some spelling.token :=
  h .entry

theorem operand (h : form.Spells address spelling) (index : Nat) :
    form.get? (Address.operand address index) = spelling.operands[index]? :=
  h (.operand index)

theorem requireOperand {index : Nat} {text : String}
    (h : form.Spells address spelling)
    (ht : spelling.operands[index]? = some text) :
    form.requireOperand address index = .ok text := by
  rw [Form.requireOperand, h.operand, ht]

theorem requireInterval {interval : Interval String}
    (h : form.Spells address spelling)
    (ht : spelling.operands = [interval.lo, interval.hi]) :
    form.requireInterval address = .ok interval := by
  have h₀ : form.requireOperand address 0 = .ok interval.lo :=
    h.requireOperand (by rw [ht]; rfl)
  have h₁ : form.requireOperand address 1 = .ok interval.hi :=
    h.requireOperand (by rw [ht]; rfl)
  rw [Form.requireInterval, h₀, h₁]
  rfl

theorem numberComparison {comparison : NumberComparison String}
    (h : form.Spells address spelling)
    (ht : spelling.operands = comparison.operands) :
    form.numberComparison address comparison.rule = .ok comparison := by
  have hone : ∀ text, comparison.operands = [text] →
      form.requireOperand address 0 = .ok text :=
    fun text hc => h.requireOperand (by rw [ht, hc]; rfl)
  cases comparison with
  | atMost bound =>
      rw [NumberComparison.rule, Form.numberComparison, hone bound rfl]; rfl
  | atLeast bound =>
      rw [NumberComparison.rule, Form.numberComparison, hone bound rfl]; rfl
  | equal value =>
      rw [NumberComparison.rule, Form.numberComparison, hone value rfl]; rfl
  | notEqual value =>
      rw [NumberComparison.rule, Form.numberComparison, hone value rfl]; rfl
  | inside interval =>
      rw [NumberComparison.rule, Form.numberComparison, h.requireInterval ht]
      rfl
  | outside interval =>
      rw [NumberComparison.rule, Form.numberComparison, h.requireInterval ht]
      rfl

theorem dateLeaf {field : DateField} {comparison : DayComparison String}
    (h : form.Spells address spelling)
    (ht : spelling.operands = comparison.operands) :
    form.dateLeaf address field comparison.rule =
      .ok (.calendar field comparison) := by
  have hone : ∀ text, comparison.operands = [text] →
      form.requireOperand address 0 = .ok text :=
    fun text hc => h.requireOperand (by rw [ht, hc]; rfl)
  cases comparison with
  | before bound => rw [DayComparison.rule, Form.dateLeaf, hone bound rfl]; rfl
  | after bound => rw [DayComparison.rule, Form.dateLeaf, hone bound rfl]; rfl
  | inside interval =>
      rw [DayComparison.rule, Form.dateLeaf, h.requireInterval ht]; rfl
  | outside interval =>
      rw [DayComparison.rule, Form.dateLeaf, h.requireInterval ht]; rfl

theorem recentLeaf {field : DateField} {count unit : String} {negated : Bool}
    (h : form.Spells address spelling)
    (ht : spelling.operands = [count, unit]) :
    form.recentLeaf address field negated =
      .ok (.recent field count unit negated) := by
  have h₀ : form.requireOperand address 0 = .ok count :=
    h.requireOperand (by rw [ht]; rfl)
  have h₁ : form.requireOperand address 1 = .ok unit :=
    h.requireOperand (by rw [ht]; rfl)
  rw [Form.recentLeaf, h₀, h₁]
  rfl

theorem leafAt {raw : RawLeaf} {word : String}
    (h : form.Spells address raw.spelling)
    (hword : raw.spelling.rule? = some word) :
    form.leafAt address word raw.kind = .ok raw := by
  cases raw with
  | text field rule operand =>
      cases hword
      have hoperand :
          form.get? (Address.operand address 0) = some operand := h.operand 0
      simp only [RawLeaf.kind, Form.leafAt, checkRule, TextRule.ofToken?_token,
        hoperand]
      rfl
  | number field comparison =>
      cases hword
      simp only [RawLeaf.kind, Form.leafAt, checkRule,
        NumberRule.ofToken?_token]
      exact congrArg (RawLeaf.number field <$> ·) (h.numberComparison rfl)
  | calendar field comparison =>
      cases hword
      simp only [RawLeaf.kind, Form.leafAt, checkRule, DateRule.ofToken?_token]
      exact h.dateLeaf rfl
  | recent field count unit negated =>
      cases hword
      simp only [RawLeaf.kind, Form.leafAt, checkRule, DateRule.ofToken?_token]
      cases negated with
      | false => exact h.recentLeaf rfl
      | true => exact h.recentLeaf rfl

theorem isBlankAt {raw : RawLeaf} (h : form.Spells address raw.spelling)
    (hfilled : raw.IsFilled) : form.isBlankAt address raw.kind = false := by
  cases raw with
  | text field rule operand =>
      have hoperand :
          form.get? (Address.operand address 0) = some operand := h.operand 0
      rw [RawLeaf.kind, Form.isBlankAt, hoperand]
      exact hfilled
  | number field comparison => rfl
  | calendar field comparison => rfl
  | recent field count unit negated => rfl

theorem resolve {raw : RawLeaf} (h : form.Spells address raw.spelling)
    (hfilled : raw.IsFilled) :
    form.resolve address = .ok (.leaf raw) := by
  have hentry : form.get? address = some raw.kind.token := by
    rw [h.entry, raw.token_spelling]
  obtain ⟨word, hword⟩ := raw.exists_rule
  have hrule : form.get? (Address.rule address) = some word :=
    (h .rule).trans hword
  rw [resolve_of_kind hentry, h.isBlankAt hfilled, if_neg Bool.false_ne_true,
    hrule]
  exact congrArg (Entry.leaf <$> ·) (h.leafAt hword)

end Form.Spells

/-! ## The operands come back -/

namespace Leaf

/-- A leaf with its operands as they are written. -/
def raw : Leaf → RawLeaf
  | text field rule value => .text field rule value
  | number field comparison =>
    .number field (comparison.map fun n => Text.decimal n.toInt)
  | calendar field comparison => .calendar field (comparison.map Date.text)
  | recent field count unit negated =>
      .recent field (Text.decimal count.toInt) unit.name negated

/-- Whether a leaf has operands that can be written: text that is more than
blanks, and dates without a minus sign. -/
def IsWritable : Leaf → Prop
  | text _ _ value => Text.trim value.toList ≠ []
  | number _ _ => True
  | calendar _ comparison => ∀ d ∈ comparison.operands, 0 ≤ d.year
  | recent _ _ _ _ => True

theorem isFilled_raw {test : Leaf} (h : test.IsWritable) :
    test.raw.IsFilled := by
  cases test with
  | text field rule value =>
      exact Bool.eq_false_iff.2 fun hb => h (Text.trim_eq_nil_iff.2 hb)
  | number field comparison => exact trivial
  | calendar field comparison => exact trivial
  | recent field count unit negated => exact trivial

theorem readNumber_decimal {field : NumberField} (index : Nat) (n : Int64) :
    readNumber field address index (Text.decimal n.toInt) = .ok (.ok n) := by
  cases field with
  | time => simp only [readNumber, Value.readDuration_decimal]
  | track => simp only [readNumber, Value.readInteger_decimal]
  | playCount => simp only [readNumber, Value.readInteger_decimal]

/-- A leaf comes back from the texts of its operands, whatever day it is read
on. -/
theorem buildLeaf_raw {today : Date} {test : Leaf} (h : test.IsWritable) :
    buildLeaf today address test.raw = .ok (.leaf test) := by
  cases test with
  | text field rule value => rfl
  | number field comparison =>
      have hread : (comparison.map fun n => Text.decimal n.toInt).traverse
          (readNumber field address) = .ok (comparison.map .ok) :=
        NumberComparison.traverse_map readNumber_decimal comparison
      rw [raw, buildLeaf, hread]
      simp only [bind, Except.bind, NumberComparison.traverse_map_ok]
      rfl
  | calendar field comparison =>
      rw [raw, buildLeaf, DayComparison.traverse_map]
      intro index d hd
      rw [Value.readDate_text today (h d hd)]
      rfl
  | recent field count unit negated =>
      simp only [raw, buildLeaf, Value.readInteger_decimal,
        TimeUnit.ofName?_name]

end Leaf

theorem buildWithin_of_spells {today : Date} {room : Nat} {test : Leaf}
    (hw : test.IsWritable) (h : form.Spells address test.raw.spelling) :
    buildWithin form today (room + 1) address = .ok (.leaf test) :=
  buildWithin_succ_eq_ok_iff.2
    (.inr (.inl ⟨_, h.resolve (Leaf.isFilled_raw hw), Leaf.buildLeaf_raw hw⟩))

/-! ## Criteria that were left blank -/

/-- A criterion on text without anything to look for. Its rule may be any
word, or missing. -/
structure BlankText where
  field : TextField
  rule? : Option String
  operand? : Option String
  isBlank : Text.isAllBlank (operand?.getD "").toList = true

/-- The words that spell a blank criterion. -/
def BlankText.spelling (blank : BlankText) : Spelling :=
  ⟨blank.field.token, blank.rule?, blank.operand?.toList⟩

theorem buildWithin_of_spells_blank {today : Date} {room : Nat}
    {blank : BlankText} (h : form.Spells address blank.spelling) :
    buildWithin form today (room + 1) address = .ok .void := by
  have hentry : form.get? address =
      some (FieldKind.text blank.field).token := h.entry
  have hoperand : form.get? (Address.operand address 0) = blank.operand? := by
    rw [h.operand, BlankText.spelling]
    cases blank.operand? <;> rfl
  have hblank : form.isBlankAt address (.text blank.field) = true := by
    rw [Form.isBlankAt, hoperand]
    exact blank.isBlank
  refine buildWithin_succ_eq_ok_iff.2 (.inl ⟨.inr ?_, rfl⟩)
  rw [Form.resolve_of_kind hentry, hblank, if_pos rfl]

end Songbook.Filter
