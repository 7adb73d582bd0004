import Songbook.Proofs.Durations
import Songbook.Proofs.Reach
import Songbook.Proofs.Resolution
import Songbook.Proofs.Tally

/-!
# Which operands are reported

What a person typed wrong is reported completely, once each, and in the order
of the form. Which operands those are is said here leaf by leaf, from what the
form holds at an address and from nothing else: `RawLeaf.errors` looks at each
operand by itself, so neither another operand, nor another leaf, nor what
becomes of the branch above can add an error or take one away.

The families differ in how much they report. A leaf on a number reports every
operand that its rule reads; a leaf on calendar days stops at its first, since
the second is not read any more; a leaf that looks back from the present has
one operand that a person types, the count.

Reading a tree drops a child that counts nothing, together with its errors. It
has none to drop, as what was read is balanced, and so the errors of a whole
tree are those of its leaves in the order in which reading comes by them.
-/

namespace Songbook.Filter

/-! ## The errors of a leaf -/

/-- The error to report of an operand that had to be read, if reading it
failed. -/
def refusal? {ε α : Type} (read : Except ε α) (error : ValueError) :
    Option ValueError :=
  match read with
  | .ok _ => none
  | .error _ => some error

/-- The error of an operand of a number field: the time is a duration, the
others are integers. -/
def NumberField.refusal? (field : NumberField) (text : String) :
    Option ValueError :=
  match field with
  | .time => Filter.refusal? (Value.readDuration text) (.duration text)
  | .track | .playCount =>
      Filter.refusal? (Value.readInteger text) (.integer text)

/-- What is reported of operands that are each looked at by themselves. -/
def operandErrors (address : String) (refusal? : String → Option ValueError)
    (operands : List String) : List OperandError :=
  operands.zipIdx.filterMap fun operand =>
    (refusal? operand.1).map
      (OperandError.mk (Address.operand address operand.2))

/-- The errors that a leaf has in its operands. A leaf on calendar days has
only the first, and one that looks back has its count alone, as its unit is no
operand to read. -/
def RawLeaf.errors (today : Date) (address : String) :
    RawLeaf → List OperandError
  | .text .. => []
  | .number field comparison =>
      operandErrors address field.refusal? comparison.operands
  | .calendar _ comparison =>
    (operandErrors address (fun text =>
      refusal? (Value.readDate today text) (.date text))
      comparison.operands).take 1
  | .recent _ count _ _ =>
    operandErrors address
      (fun text => refusal? (Value.readInteger text) (.integer text)) [count]

/-- The errors of what a form holds at an address; only a leaf has any. -/
def Form.errorsAt (form : Form) (today : Date) (address : String) :
    List OperandError :=
  match form.resolve address with
  | .ok (.leaf raw) => raw.errors today address
  | _ => []

/-! ## Reading a leaf -/

variable {form : Form} {today : Date} {address : String}

theorem filterMap_eq_of_forall₂ {α β γ : Type} {f : α → Option γ}
    {g : β → Option γ} {l : List α} {r : List β}
    (h : List.Forall₂ (fun a b => f a = g b) l r) :
    l.filterMap f = r.filterMap g := by
  induction h with
  | nil => rfl
  | cons hab _ ih => rw [List.filterMap_cons, List.filterMap_cons, hab, ih]

theorem operandErrors_singleton {refusal? : String → Option ValueError}
    {text : String} :
    operandErrors address refusal? [text] =
      ((refusal? text).map
        (OperandError.mk (Address.operand address 0))).toList := by
  rw [operandErrors, List.zipIdx_singleton]
  cases h : refusal? text <;> simp [h]

/-- Operands that were converted are each what their own text was converted
to. -/
theorem NumberComparison.forall₂_operands {α β ε : Type}
    {f : Nat → α → Except ε β} {comparison : NumberComparison α}
    {read : NumberComparison β} (h : comparison.traverse f = .ok read) :
    List.Forall₂ (fun operand value => f operand.2 operand.1 = .ok value)
      comparison.operands.zipIdx read.operands := by
  cases comparison with
  | atMost bound | atLeast bound | equal bound | notEqual bound =>
      obtain ⟨value, hvalue, rfl⟩ := map_eq_ok_iff.1 h
      exact .cons hvalue .nil
  | inside interval | outside interval =>
      obtain ⟨values, hvalues, rfl⟩ := map_eq_ok_iff.1 h
      obtain ⟨lo, hlo, hvalues⟩ := bind_eq_ok_iff.1 hvalues
      obtain ⟨hi, hhi, hvalues⟩ := bind_eq_ok_iff.1 hvalues
      cases hvalues
      exact .cons hlo (.cons hhi .nil)

theorem DayComparison.errorOf?_traverse {α β ε : Type}
    {f : Nat → α → Except ε β} {comparison : DayComparison α} :
    errorOf? (comparison.traverse f) =
      comparison.operands.zipIdx.findSome? fun operand =>
        errorOf? (f operand.2 operand.1) := by
  cases comparison with
  | before bound | after bound =>
      rw [traverse, errorOf?_map]
      exact List.findSome?_singleton.symm
  | inside interval | outside interval =>
      rw [traverse, errorOf?_map, Interval.errorOf?_traverse]
      rfl

theorem errorOf?_of_readNumber {field : NumberField} {index : Nat}
    {text : String} {operand : Except OperandError Int64}
    (h : readNumber field address index text = .ok operand) :
    errorOf? operand =
      (field.refusal? text).map
        (OperandError.mk (Address.operand address index)) := by
  cases field with
  | time =>
      rw [readNumber] at h
      rw [NumberField.refusal?]
      by_cases hx : Value.HasExcessParts text
      · rw [Value.readDuration_of_hasExcessParts hx] at h
        cases h
      · rcases Value.readDuration_of_not_hasExcessParts hx with ⟨n, hn⟩ | hn
        · rw [hn] at h ⊢
          cases h
          rfl
        · rw [hn] at h ⊢
          cases h
          rfl
  | track | playCount =>
      rw [readNumber] at h
      rw [NumberField.refusal?]
      cases hread : Value.readInteger text with
      | ok n =>
          rw [hread] at h
          cases h
          rfl
      | error e =>
          obtain ⟨-, rfl⟩ := Value.readInteger_eq_error_iff.1 hread
          rw [hread] at h
          cases h
          rfl

theorem errors_of_buildLeaf {raw : RawLeaf} {built : Built}
    (h : buildLeaf today address raw = .ok built) :
    built.errors = raw.errors today address := by
  cases raw with
  | text field rule operand => cases h; rfl
  | number field comparison =>
      obtain ⟨read, hread, h⟩ := bind_eq_ok_iff.1 h
      have herrors : read.operands.filterMap errorOf? =
          operandErrors address field.refusal? comparison.operands :=
        (filterMap_eq_of_forall₂ ((NumberComparison.forall₂_operands hread).imp
          fun _ _ hr => (errorOf?_of_readNumber hr).symm)).symm
      rw [RawLeaf.errors, ← herrors]
      cases hnumbers : read.traverse fun _ operand => operand with
      | error e =>
          rw [hnumbers] at h
          cases h
          rfl
      | ok numbers =>
          rw [hnumbers] at h
          cases h
          have hnone : read.operands.findSome? errorOf? = none := by
            rw [← NumberComparison.errorOf?_traverse
              (f := fun _ operand => operand) errorOf?
              fun _ _ => rfl, hnumbers]
            rfl
          rw [← List.head?_filterMap, List.head?_eq_none_iff] at hnone
          exact hnone.symm
  | calendar field comparison =>
      have hfirst : (RawLeaf.calendar field comparison).errors today address =
          (errorOf? (comparison.traverse fun index text =>
            (Value.readDate today text).mapError
            (OperandError.mk (Address.operand address index)))).toList := by
        rw [RawLeaf.errors, List.take_one, operandErrors, List.head?_filterMap,
          DayComparison.errorOf?_traverse]
        congr 1
        refine findSome?_congr fun operand _ => ?_
        rw [Value.readDate]
        cases Value.date? today operand.1.toList <;> rfl
      rw [hfirst]
      simp only [buildLeaf] at h
      split at h
      · next dates hread => cases h; rw [hread]; rfl
      · next e hread => cases h; rw [hread]; rfl
  | recent field count unit negated =>
      simp only [buildLeaf] at h
      split at h
      · next e hread =>
          cases h
          obtain ⟨-, rfl⟩ := Value.readInteger_eq_error_iff.1 hread
          rw [RawLeaf.errors, operandErrors_singleton, hread]
          rfl
      · next n hread =>
          split at h
          · cases h
            rw [RawLeaf.errors, operandErrors_singleton, hread]
            rfl
          · cases h

/-! ## Errors and the form -/

theorem mem_operandErrors {refusal? : String → Option ValueError}
    {operands : List String} {e : OperandError}
    (h : e ∈ operandErrors address refusal? operands) :
    ∃ index text, operands[index]? = some text ∧ refusal? text = some e.error ∧
      e.address = Address.operand address index := by
  obtain ⟨⟨text, index⟩, hmem, he⟩ := List.mem_filterMap.1 h
  obtain ⟨error, herror, rfl⟩ := Option.map_eq_some_iff.1 he
  exact ⟨index, text, List.mk_mem_zipIdx_iff_getElem?.1 hmem, herror, rfl⟩

theorem eq_of_refusal? {ε α : Type} {read : Except ε α}
    {error error' : ValueError} (h : refusal? read error = some error') :
    error' = error := by
  unfold refusal? at h
  split at h
  · cases h
  · exact (Option.some.inj h).symm

theorem NumberField.text_of_refusal? {field : NumberField} {text : String}
    {error : ValueError} (h : field.refusal? text = some error) :
    error.text = text := by
  cases field with
  | time | track | playCount => rw [eq_of_refusal? h]; rfl

theorem RawLeaf.mem_errors {raw : RawLeaf} {e : OperandError}
    (h : e ∈ raw.errors today address) :
    ∃ index, e.address = Address.operand address index ∧
      raw.spelling.operands[index]? = some e.error.text := by
  cases raw with
  | text field rule operand => cases h
  | number field comparison =>
      obtain ⟨index, text, htext, herror, haddress⟩ := mem_operandErrors h
      exact ⟨index, haddress, NumberField.text_of_refusal? herror ▸ htext⟩
  | calendar field comparison =>
      obtain ⟨index, text, htext, herror, haddress⟩ :=
        mem_operandErrors (List.mem_of_mem_take h)
      exact ⟨index, haddress, by rw [eq_of_refusal? herror]; exact htext⟩
  | recent field count unit negated =>
      rw [errors] at h
      obtain ⟨index, text, htext, herror, haddress⟩ := mem_operandErrors h
      refine ⟨index, haddress, ?_⟩
      rw [eq_of_refusal? herror]
      cases index with
      | zero => exact htext
      | succ index => cases htext

theorem Form.mem_errorsAt_iff {e : OperandError} :
    e ∈ form.errorsAt today address ↔
      ∃ raw, form.resolve address = .ok (.leaf raw) ∧
        e ∈ raw.errors today address := by
  rw [errorsAt]
  split
  · next raw hr => simp [hr]
  · next hr =>
      refine iff_of_false List.not_mem_nil ?_
      rintro ⟨raw, hraw, -⟩
      exact hr raw hraw

/-- The address of an error is the key of an operand, and the form has the
text of the error there. -/
theorem Form.get?_of_mem_errorsAt {e : OperandError}
    (h : e ∈ form.errorsAt today address) :
    (∃ index, e.address = Address.operand address index) ∧
      form.get? e.address = some e.error.text := by
  obtain ⟨raw, hraw, he⟩ := mem_errorsAt_iff.1 h
  obtain ⟨index, haddress, htext⟩ := RawLeaf.mem_errors he
  refine ⟨⟨index, haddress⟩, ?_⟩
  rw [haddress]
  exact (texts_of_resolve hraw).2 (.operand index) _ htext

/-! ## No key is reported twice -/

theorem operand_descend_inj {root : String} {path path' : List Nat}
    {i j : Nat} :
    Address.operand (Address.descend root path) i =
      Address.operand (Address.descend root path') j ↔
        path = path' ∧ i = j := by
  have h : Address.key (Address.descend root path) (.operand i) =
      Address.key (Address.descend root path') (.operand j) ↔ _ :=
        Address.key_descend_inj
  rw [Address.Slot.operand.injEq] at h
  exact h

theorem pairwise_operandErrors {refusal? : String → Option ValueError}
    {operands : List String} :
    (operandErrors address refusal? operands).Pairwise fun e e' =>
      e.address ≠ e'.address := by
  have hplaces : (operands.zipIdx.map Prod.snd).Nodup := by
    rw [List.zipIdx_map_snd]
    exact List.nodup_range'
  rw [operandErrors, List.pairwise_filterMap]
  refine (List.pairwise_map.1 hplaces).imp ?_
  rintro operand operand' hne e he e' he' heq
  obtain ⟨_, -, rfl⟩ := Option.map_eq_some_iff.1 he
  obtain ⟨_, -, rfl⟩ := Option.map_eq_some_iff.1 he'
  exact hne ((@operand_descend_inj address [] [] _ _).1 heq).2

theorem Form.pairwise_errorsAt :
    (form.errorsAt today address).Pairwise fun e e' =>
      e.address ≠ e'.address := by
  rw [errorsAt]
  split
  · next raw _ =>
      cases raw with
      | text field rule operand => exact List.Pairwise.nil
      | number field comparison => exact pairwise_operandErrors
      | calendar field comparison =>
          exact pairwise_operandErrors.sublist (List.take_sublist _ _)
      | recent field count unit negated =>
          rw [RawLeaf.errors]
          exact pairwise_operandErrors
  · exact List.Pairwise.nil

/-! ## Whole trees -/

theorem flatMap_eq_of_forall₂ {α β γ : Type} {f : α → List γ} {g : β → List γ}
    {l : List α} {r : List β} (h : List.Forall₂ (fun a b => f a = g b) l r) :
    l.flatMap f = r.flatMap g := by
  induction h with
  | nil => rfl
  | cons hab _ ih => rw [List.flatMap_cons, List.flatMap_cons, hab, ih]

/-- The errors of what is read are those at the addresses that reading comes
by, in that order. -/
theorem errors_of_buildWithin {room : Nat} {built : Built}
    (h : buildWithin form today room address = .ok built) :
    built.errors =
      (form.addressesWithin room address).flatMap (form.errorsAt today) := by
  refine buildWithin_induction (motive := fun room address built =>
    built.errors = (form.addressesWithin room address).flatMap
      (form.errorsAt today)) ?_ ?_ ?_ h
  · rintro room address (hr | hr)
    · rw [Form.addressesWithin_of_absent hr]
      rfl
    · rw [Form.addressesWithin_of_blank hr, List.flatMap_singleton,
        Form.errorsAt, hr]
      rfl
  · intro room address raw built hr hb
    rw [Form.addressesWithin_of_leaf hr, List.flatMap_singleton, Form.errorsAt,
      hr]
    exact errors_of_buildLeaf hb
  · intro room address combinator parts hr hparts
    have hbalanced :=
      Built.isBalanced_of_forall₂ (hparts.imp fun _ _ hpart => hpart.1)
    have hself : form.errorsAt today address = [] := by rw [Form.errorsAt, hr]
    rw [Built.errors_branch hbalanced, Form.addressesWithin_of_branch hr,
      List.flatMap_cons, hself, List.nil_append, List.flatMap_assoc]
    exact
      (flatMap_eq_of_forall₂ (hparts.imp fun _ _ hpart => hpart.2.symm)).symm

/-- The errors of a filter are exactly the operands that do not read, over all
leaves that reading comes by, in the order of the paths that lead there. Every
one is of a text that the form has at the key reported, unchanged, and no key
is reported twice. None gets lost, whatever else does not read and whatever is
dropped on the way. -/
theorem build_errors {form : Form} {root : String} {today : Date}
    {built : Built} (h : build form root today = .ok built) :
    built.errors = (form.paths root).flatMap (fun path =>
        form.errorsAt today (Address.descend root path)) ∧
      (∀ path, path ∈ form.paths root ↔ form.Reaches root path) ∧
      (form.paths root).Pairwise Precedes ∧
      (∀ e, e ∈ built.errors ↔ ∃ path raw, form.Reaches root path ∧
        form.resolve (Address.descend root path) = .ok (.leaf raw) ∧
        e ∈ raw.errors today (Address.descend root path)) ∧
      (∀ e ∈ built.errors, form.get? e.address = some e.error.text) ∧
      (built.errors.map (·.address)).Nodup := by
  have herrors : built.errors = (form.paths root).flatMap fun path =>
      form.errorsAt today (Address.descend root path) := by
    rw [errors_of_buildWithin h, Form.addressesWithin, List.flatMap_map]
    rfl
  refine ⟨herrors, fun _ => Form.mem_paths_iff,
    form.pairwise_paths root, fun e => ?_, fun e he => ?_, ?_⟩
  · simp only [herrors, List.mem_flatMap, Form.mem_paths_iff,
      Form.mem_errorsAt_iff]
    constructor
    · rintro ⟨path, hreach, raw, hr, he⟩
      exact ⟨path, raw, hreach, hr, he⟩
    · rintro ⟨path, raw, hreach, hr, he⟩
      exact ⟨path, hreach, raw, hr, he⟩
  · rw [herrors] at he
    obtain ⟨path, -, he⟩ := List.mem_flatMap.1 he
    exact (Form.get?_of_mem_errorsAt he).2
  · rw [herrors, List.Nodup, List.pairwise_map, List.pairwise_flatMap]
    refine ⟨fun path _ => Form.pairwise_errorsAt, ?_⟩
    refine (form.nodup_paths root).imp ?_
    -- Two errors of two leaves lie behind different paths, so their keys
    -- differ.
    intro path path' hne e he e' he' heq
    obtain ⟨⟨i, hi⟩, -⟩ := Form.get?_of_mem_errorsAt he
    obtain ⟨⟨j, hj⟩, -⟩ := Form.get?_of_mem_errorsAt he'
    rw [hi, hj] at heq
    exact hne (operand_descend_inj.1 heq).1

/-- Slips in two families below a branch of eleven children, most of them left
blank. The tenth comes after the second here, as its index is a number. -/
def slips : Form :=
  .ofList [("k", "or"), ("k_0", "title"), ("k_1", "album"), ("k_2", "time"),
    ("k_2_r", "outside"), ("k_2_f0", " 1:x "), ("k_2_f1", ""), ("k_3", "and"),
    ("k_4", "title"), ("k_5", "title"), ("k_6", "title"), ("k_7", "title"),
    ("k_8", "title"), ("k_9", "track"), ("k_9_r", "is"), ("k_9_f0", "7"),
    ("k_10", "nor"), ("k_10_0", "date_added"), ("k_10_0_r", "inside"),
    ("k_10_0_f0", "soon"), ("k_10_0_f1", "later"), ("k_10_1", "last_queued"),
    ("k_10_1_r", "last"), ("k_10_1_f0", "9x"), ("k_10_1_f1", "aeon")]

theorem build_slips : build slips "k" ⟨0, by decide, by decide⟩ =
    .ok ⟨some (.branch .or [.leaf (.number .track (.equal 7))]), 4,
      [⟨"k_2_f0", .duration " 1:x "⟩, ⟨"k_2_f1", .duration ""⟩,
        ⟨"k_10_0_f0", .date "soon"⟩, ⟨"k_10_1_f0", .integer "9x"⟩]⟩ := by
  rfl

theorem build_errors_slips :
    ∃ built, build slips "k" ⟨0, by decide, by decide⟩ = .ok built ∧
      built.errors.map (·.address) =
        ["k_2_f0", "k_2_f1", "k_10_0_f0", "k_10_1_f0"] ∧
      built.errors = (slips.paths "k").flatMap (fun path =>
        slips.errorsAt ⟨0, by decide, by decide⟩ (Address.descend "k" path)) ∧
      (∀ e ∈ built.errors, slips.get? e.address = some e.error.text) ∧
      (built.errors.map (·.address)).Nodup := by
  obtain ⟨herrors, -, -, -, htexts, hnodup⟩ := build_errors build_slips
  exact ⟨_, build_slips, rfl, herrors, htexts, hnodup⟩

end Songbook.Filter
