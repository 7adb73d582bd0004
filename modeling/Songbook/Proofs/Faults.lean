import Songbook.Proofs.Durations
import Songbook.Proofs.Reach
import Songbook.Proofs.Reading

/-!
# Which forms are faulty, and where

A fault ends the reading of a filter at once, and operands that do not read
never do; so whether there is a fault, and which one is reported, has to be
independent of every such operand. It is said here by the addresses alone.
Each address that reading comes by has a fault of its own or none, by what the
form holds there and how deep it lies: `fault?` looks at no other address, and
at no operand beyond the question of how many parts it has or whether it is an
integer.

Reading ends with a fault exactly when some address that it comes by has one,
and then with the fault of the first, in the order in which it comes by them.
Whatever lies behind a gap in the children of a branch, or under a leaf, is
never come by and may hold anything.
-/

namespace Songbook.Filter

open Songbook.Value (HasExcessParts)

/-! ## The fault of an address -/

/-- The fault of a leaf, if its operands have one: the first duration with too
many parts, or a unit that there is not, unless the count before it does not
read. -/
def RawLeaf.fault? (address : String) : RawLeaf → Option SchemaFault
  | .number .time comparison =>
    comparison.operands.findSome? fun text =>
      if HasExcessParts text then some (.durationComponents text) else none
  | .recent _ count unit _ =>
    match Value.readInteger count, TimeUnit.ofName? unit with
    | .ok _, none => some (.unknownUnit address unit)
    | .ok _, some _ => none
    | .error _, _ => none
  | .text .. => none
  | .number .track _ => none
  | .number .playCount _ => none
  | .calendar .. => none

/-- The fault of an address at a depth, if it has one. -/
def Form.fault? (form : Form) (depth : Nat) (address : String) :
    Option SchemaFault :=
  if maxDepth < depth then some (.tooDeep address)
  else match form.resolve address with
    | .error fault => some fault
    | .ok (.leaf raw) => raw.fault? address
    | .ok .absent => none
    | .ok .blank => none
    | .ok (.branch _) => none

/-- Whether an address at a depth is faulty. -/
def Form.IsFaulty (form : Form) (depth : Nat) (address : String) : Prop :=
  maxDepth < depth ∨
  (∃ fault, form.resolve address = .error fault) ∨
  (∃ comparison, form.resolve address = .ok (.leaf (.number .time comparison)) ∧
    ∃ text ∈ comparison.operands, HasExcessParts text) ∨
  ∃ field count unit negated n,
    form.resolve address = .ok (.leaf (.recent field count unit negated)) ∧
      Value.readInteger count = .ok n ∧ TimeUnit.ofName? unit = none

/-! ## Leaves -/

variable {form : Form} {today : Date}

theorem errorOf?_readNumber {field : NumberField} {address : String}
    {index : Nat} {text : String} :
    errorOf? (readNumber field address index text) =
      if field = .time ∧ HasExcessParts text
        then some (.durationComponents text) else none := by
  cases field with
  | time =>
      by_cases hx : HasExcessParts text
      · rw [if_pos ⟨rfl, hx⟩, readNumber,
          Value.readDuration_of_hasExcessParts hx]
        rfl
      · rw [if_neg fun h => hx h.2, readNumber]
        rcases Value.readDuration_of_not_hasExcessParts hx with ⟨n, h⟩ | h <;>
            rw [h] <;> rfl
  | track =>
      rw [if_neg fun h => NumberField.noConfusion h.1, readNumber]
      cases Value.readInteger text <;> rfl
  | playCount =>
      rw [if_neg fun h => NumberField.noConfusion h.1, readNumber]
      cases Value.readInteger text <;> rfl

/-- A leaf is read with exactly the fault that it has, whatever else does not
read. -/
theorem errorOf?_buildLeaf {address : String} {raw : RawLeaf} :
    errorOf? (buildLeaf today address raw) = raw.fault? address := by
  cases raw with
  | text field rule operand => rfl
  | number field comparison =>
      have hread : errorOf?
          (buildLeaf today address (.number field comparison)) =
          errorOf? (comparison.traverse (readNumber field address)) := by
        rw [buildLeaf]
        cases comparison.traverse (readNumber field address) with
        | error fault => rfl
        | ok read =>
            simp only [bind, Except.bind]
            split <;> rfl
      rw [hread, NumberComparison.errorOf?_traverse
        (f := readNumber field address) _
        fun _ _ => errorOf?_readNumber]
      cases field with
      | time => simp only [true_and]; rfl
      | track => simp [RawLeaf.fault?]
      | playCount => simp [RawLeaf.fault?]
  | calendar field comparison =>
      rw [buildLeaf]
      split <;> rfl
  | recent field count unit negated =>
      rw [buildLeaf, RawLeaf.fault?]
      cases Value.readInteger count with
      | error e => rfl
      | ok n => cases TimeUnit.ofName? unit <;> rfl

/-! ## Whole trees -/

/-- Reading ends with the first fault along the paths that it goes, and
without one if there is none. The induction is on the room that is left below
an address; the room and the depth of the address always add up to the same
number, so room runs out exactly at the depth that is a fault. -/
theorem errorOf?_buildWithin {room depth : Nat} {address : String}
    (hdepth : depth + room = maxDepth + 1)
    (hroom : form.contains address = true ∨ 0 < room) :
    errorOf? (buildWithin form today room address) =
      (form.pathsWithin room address).findSome? fun path =>
        form.fault? (depth + path.length) (Address.descend address path) := by
  induction room generalizing depth address with
  | zero =>
      have hc : form.contains address = true :=
        hroom.resolve_right (Nat.lt_irrefl 0)
      rw [buildWithin, Form.pathsWithin, if_pos hc, List.findSome?_singleton]
      exact (if_pos (by simp only [List.length_nil]; omega)).symm
  | succ room ih =>
      have hlow : ¬maxDepth < depth := by omega
      rw [errorOf?_buildWithin_succ, Form.pathsWithin]
      cases hr : form.resolve address with
      | error fault =>
          simp only [List.findSome?_singleton, List.length_nil, Nat.add_zero,
            Address.descend_nil, Form.fault?, if_neg hlow, hr]
      | ok entry =>
          cases entry with
          | absent => rfl
          | blank =>
              simp only [List.findSome?_singleton, List.length_nil,
                Nat.add_zero, Address.descend_nil, Form.fault?, if_neg hlow, hr]
          | leaf raw =>
              simp only [List.findSome?_singleton, List.length_nil,
                Nat.add_zero, Address.descend_nil, Form.fault?, if_neg hlow, hr,
                errorOf?_buildLeaf]
          | branch combinator =>
              have hself : form.fault? (depth + ([] : List Nat).length)
                  (Address.descend address []) = none := by
                simp only [List.length_nil, Nat.add_zero, Address.descend_nil,
                  Form.fault?, if_neg hlow, hr]
              obtain ⟨hchildren, hin, -⟩ := form.children_eq_map_range address
              simp only [List.findSome?_cons, hself, findSome?_flatMap,
                hchildren, List.findSome?_map]
              refine findSome?_congr fun index hi => ?_
              have hc := hin index (List.mem_range.1 hi)
              have hbelow : depth + 1 + room = maxDepth + 1 := by omega
              rw [Function.comp_apply, ih hbelow (.inl hc)]
              refine findSome?_congr fun path _ => ?_
              rw [Function.comp_apply, Address.descend_cons, List.length_cons,
                show depth + 1 + path.length =
                    depth + (path.length + 1) by omega]

theorem errorOf?_build (form : Form) (root : String) (today : Date) :
    errorOf? (build form root today) =
      (form.paths root).findSome? fun path =>
        form.fault? path.length (Address.descend root path) := by
  rw [build, errorOf?_buildWithin (Nat.zero_add _) (.inr (Nat.succ_pos _))]
  exact findSome?_congr fun path _ => by rw [Nat.zero_add]

/-! ## Faulty addresses -/

theorem RawLeaf.fault?_ne_none_iff {address : String} {raw : RawLeaf} :
    raw.fault? address ≠ none ↔
      (∃ comparison, raw = .number .time comparison ∧
        ∃ text ∈ comparison.operands, HasExcessParts text) ∨
      ∃ field count unit negated n, raw = .recent field count unit negated ∧
        Value.readInteger count = .ok n ∧ TimeUnit.ofName? unit = none := by
  cases raw with
  | text => simp [fault?]
  | calendar => simp [fault?]
  | number field comparison => cases field <;> simp [fault?]
  | recent field count unit negated =>
      rw [fault?]
      cases hc : Value.readInteger count with
      | error e => simp [hc]
      | ok n =>
          cases hu : TimeUnit.ofName? unit with
          | none => simp [hc, hu]
          | some unit' => simp [hu]

theorem Form.fault?_ne_none_iff {depth : Nat} {address : String} :
    form.fault? depth address ≠ none ↔ form.IsFaulty depth address := by
  rw [fault?, IsFaulty]
  split
  · next h => simp [h]
  · next h =>
      cases hr : form.resolve address with
      | error fault => simp
      | ok entry =>
          cases entry with
          | absent => simp [h]
          | blank => simp [h]
          | branch combinator => simp [h]
          | leaf raw =>
              simp only [h, false_or, reduceCtorEq, exists_false,
                Except.ok.injEq, Entry.leaf.injEq]
              exact RawLeaf.fault?_ne_none_iff

/-- Reading ends with a fault exactly when some address that it comes by is
faulty, and the fault is that of the first such address; which operands do not
read, there or before, does not matter, nor what lies at addresses that it
does not come by. -/
theorem build_fault_iff (form : Form) (root : String) (today : Date) :
    ((∃ fault, build form root today = .error fault) ↔
      ∃ path, form.Reaches root path ∧
        form.IsFaulty path.length (Address.descend root path)) ∧
    ∀ fault, build form root today = .error fault ↔
      ∃ path, form.Reaches root path ∧
        form.fault? path.length (Address.descend root path) = some fault ∧
        ∀ earlier, form.Reaches root earlier → Precedes earlier path →
          ¬form.IsFaulty earlier.length (Address.descend root earlier) := by
  have hfirst : ∀ fault, build form root today = .error fault ↔
      ∃ path, form.Reaches root path ∧
        form.fault? path.length (Address.descend root path) = some fault ∧
        ∀ earlier, form.Reaches root earlier → Precedes earlier path →
          ¬form.IsFaulty earlier.length (Address.descend root earlier) := by
    intro fault
    rw [← errorOf?_eq_some_iff, errorOf?_build,
      Form.findSome?_paths_eq_some_iff]
    simp only [← Form.fault?_ne_none_iff, ne_eq, Decidable.not_not]
  refine ⟨⟨?_, ?_⟩, hfirst⟩
  · rintro ⟨fault, h⟩
    obtain ⟨path, hreach, hfault, -⟩ := (hfirst fault).1 h
    exact ⟨path, hreach, Form.fault?_ne_none_iff.1 (by rw [hfault]; simp)⟩
  · rintro ⟨path, hreach, hfaulty⟩
    cases hb : build form root today with
    | error fault => exact ⟨fault, rfl⟩
    | ok built =>
        -- Nothing was found along the paths, so nothing is wrong at this one.
        have hnone := errorOf?_build form root today
        rw [hb, errorOf?] at hnone
        have :=
          List.findSome?_eq_none_iff.1 hnone.symm path
            (Form.mem_paths_iff.2 hreach)
        exact absurd this (Form.fault?_ne_none_iff.2 hfaulty)

end Songbook.Filter
