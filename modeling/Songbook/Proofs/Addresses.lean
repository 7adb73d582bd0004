import Mathlib.Data.List.Nodup
import Mathlib.Data.List.Perm.Subperm
import Songbook.Filter.Address
import Songbook.Proofs.Numerals

/-!
# Every key has one reading

Addresses are made by putting text behind text, so two places of a filter
could come to share a key. They do not. What is put behind the address of a
branch is an underscore and a numeral; what is put behind the address of a
leaf is an underscore and a letter. Read from the root on, the characters of a
key say at each underscore whether the path goes on and with which index, as
no numeral runs into what follows it. So the path and the purpose of a key can
be read back from the key, whatever the root is, even one that looks like an
address.

That the children of a branch are counted from 0 without a bound, and yet
found by looking at no more of them than there are keys, is the same fact: a
form with a key for each of more children than it has keys does not exist.
-/

namespace Songbook.Filter

open Songbook.Text
  (isDigit_of_mem_toDigits toDigits_injective toDigits_append_inj)

namespace Address

/-- The address that a path of indices leads to. -/
def descend (root : String) : List Nat → String
  | [] => root
  | index :: path => descend (child root index) path

@[simp] theorem descend_nil (root : String) : descend root [] = root := rfl

@[simp] theorem descend_cons (root : String) (index : Nat) (path : List Nat) :
    descend root (index :: path) = descend (child root index) path := rfl

/-- What a key is for: the entry at an address, the rule of a leaf, or one of
its operands. -/
inductive Slot
  | entry
  | rule
  | operand (index : Nat)
deriving DecidableEq

/-- The key at an address for a purpose. -/
def key (address : String) : Slot → String
  | .entry => address
  | .rule => rule address
  | .operand index => operand address index

/-! ## The characters of a key -/

/-- What a path puts behind the root. -/
def pathText (path : List Nat) : List Char :=
  path.flatMap fun index => '_' :: Nat.toDigits 10 index

/-- What a purpose puts behind an address. -/
def slotText : Slot → List Char
  | .entry => []
  | .rule => ['_', 'r']
  | .operand index => '_' :: 'f' :: Nat.toDigits 10 index

theorem toList_descend (root : String) (path : List Nat) :
    (descend root path).toList = root.toList ++ pathText path := by
  induction path generalizing root with
  | nil => exact (List.append_nil _).symm
  | cons index path ih =>
      rw [descend_cons, ih, child, String.toList_append, String.toList_append,
        Nat.toList_repr, pathText, pathText, List.flatMap_cons,
        List.append_assoc, List.append_assoc]
      rfl

theorem toList_key (root : String) (path : List Nat) (slot : Slot) :
    (key (descend root path) slot).toList =
      root.toList ++ (pathText path ++ slotText slot) := by
  rw [← List.append_assoc, ← toList_descend]
  cases slot with
  | entry => exact (List.append_nil _).symm
  | rule => exact String.toList_append
  | operand index =>
      rw [key, operand, String.toList_append, String.toList_append,
        Nat.toList_repr, List.append_assoc]
      rfl

/-- What follows the first index of a path does not go on with a digit. -/
theorem takeWhile_isDigit_text (path : List Nat) (slot : Slot) :
    (pathText path ++ slotText slot).takeWhile Char.isDigit = [] := by
  cases path with
  | nil => cases slot <;> rfl
  | cons index path => rfl

theorem slotText_ne_pathText_cons (slot : Slot) (index : Nat) (path : List Nat)
    (slot' : Slot) :
    slotText slot ≠ pathText (index :: path) ++ slotText slot' := by
  intro h
  rw [pathText, List.flatMap_cons, List.cons_append, List.cons_append] at h
  cases hd : Nat.toDigits 10 index with
  | nil => exact Nat.toDigits_ne_nil hd
  | cons c s =>
      have hc := isDigit_of_mem_toDigits c (hd ▸ List.mem_cons_self)
      rw [hd] at h
      cases slot with
      | entry => cases h
      | rule =>
          injection h with _ h
          injection h with h
          exact absurd (h ▸ hc) (by decide)
      | operand index' =>
          injection h with _ h
          injection h with h
          exact absurd (h ▸ hc) (by decide)

theorem text_injective {path path' : List Nat} {slot slot' : Slot}
    (h : pathText path ++ slotText slot = pathText path' ++ slotText slot') :
    path = path' ∧ slot = slot' := by
  induction path generalizing path' with
  | nil =>
      cases path' with
      | cons index' path' => exact absurd h (slotText_ne_pathText_cons _ _ _ _)
      | nil =>
          refine ⟨rfl, ?_⟩
          cases slot with
          | entry => cases slot' <;> first | rfl | cases h
          | rule =>
              cases slot' with
              | entry => cases h
              | rule => rfl
              | operand n => simp [pathText, slotText] at h
          | operand m =>
              cases slot' with
              | entry => cases h
              | rule => simp [pathText, slotText] at h
              | operand n =>
                  injection h with _ h
                  injection h with _ h
                  rw [toDigits_injective h]
  | cons index path ih =>
      cases path' with
      | nil => exact absurd h.symm (slotText_ne_pathText_cons _ _ _ _)
      | cons index' path' =>
          rw [pathText, pathText, List.flatMap_cons, List.flatMap_cons,
            List.cons_append, List.cons_append, List.cons_append,
            List.cons_append, List.append_assoc, List.append_assoc] at h
          injection h with _ h
          obtain ⟨rfl, ht⟩ :=
            toDigits_append_inj (takeWhile_isDigit_text path slot)
            (takeWhile_isDigit_text path' slot') h
          obtain ⟨rfl, rfl⟩ := ih ht
          exact ⟨rfl, rfl⟩

/-- No key serves two paths or two purposes. -/
theorem key_descend_inj {root : String} {path path' : List Nat}
    {slot slot' : Slot} :
    key (descend root path) slot = key (descend root path') slot' ↔
      path = path' ∧ slot = slot' := by
  constructor
  · intro h
    have ht := congrArg String.toList h
    rw [toList_key, toList_key] at ht
    exact text_injective (List.append_cancel_left ht)
  · rintro ⟨rfl, rfl⟩
    rfl

theorem child_inj {address : String} {i j : Nat} :
    child address i = child address j ↔ i = j := by
  have h : key (descend address [i]) .entry = key (descend address [j]) .entry ↔
      [i] = [j] ∧ Slot.entry = Slot.entry := key_descend_inj
  simpa [key] using h

end Address

/-! ## The children of a branch -/

namespace Form

variable {form : Form} {address : String}

/-- Looking for children gives some number of them in a row, each of which is
there. -/
theorem childrenFrom_eq_map (form : Form) (address : String)
    (index most : Nat) :
    ∃ count, count ≤ most ∧
      form.childrenFrom address index most =
        (List.range' index count).map (Address.child address) ∧
      (∀ i < count, form.contains (Address.child address (index + i)) = true) ∧
      (count < most →
        form.contains (Address.child address (index + count)) = false) := by
  induction most generalizing index with
  | zero => exact ⟨0, Nat.le_refl 0, rfl, nofun, nofun⟩
  | succ most ih =>
      simp only [childrenFrom]
      split
      · next hc =>
          obtain ⟨count, hle, heq, hin, hout⟩ := ih (index + 1)
          refine ⟨count + 1, Nat.succ_le_succ hle, ?_, ?_, ?_⟩
          · rw [heq, List.range'_succ, List.map_cons]
          · intro i hi
            cases i with
            | zero => exact hc
            | succ i =>
                rw [show index + (i + 1) = index + 1 + i by omega]
                exact hin i (by omega)
          · intro h
            rw [show index + (count + 1) = index + 1 + count by omega]
            exact hout (by omega)
      · next hc =>
          exact ⟨0, Nat.zero_le _, rfl, nofun, fun _ => Bool.not_eq_true _ ▸ hc⟩

theorem length_le_size {keys : List String} (hnodup : keys.Nodup)
    (hpresent : ∀ key ∈ keys, form.contains key = true) :
    keys.length ≤ form.size := by
  have hsub : keys ⊆ form.keys :=
    fun key hkey => contains_iff_mem_keys.1 (hpresent key hkey)
  have hle := (List.subperm_of_subset hnodup hsub).length_le
  rwa [Form.keys, List.length_map] at hle

theorem count_le_size {count : Nat}
    (h : ∀ i < count, form.contains (Address.child address i) = true) :
    count ≤ form.size := by
  have hnodup : ((List.range count).map (Address.child address)).Nodup :=
    List.nodup_range.map fun _ _ h => Address.child_inj.1 h
  have hle := form.length_le_size hnodup fun key hkey => by
    obtain ⟨i, hi, rfl⟩ := List.mem_map.1 hkey
    exact h i (List.mem_range.1 hi)
  rwa [List.length_map, List.length_range] at hle

/-- The number of children of a branch. -/
def childCount (form : Form) (address : String) : Nat :=
  (form.children address).length

/-- The children are numbered from 0 to the first that is not there. -/
theorem children_eq_map_range (form : Form) (address : String) :
    form.children address =
      (List.range (form.childCount address)).map (Address.child address) ∧
      (∀ i < form.childCount address,
        form.contains (Address.child address i) = true) ∧
      form.contains (Address.child address (form.childCount address)) =
        false := by
  obtain ⟨count, hle, heq, hin, hout⟩ :=
    form.childrenFrom_eq_map address 0 form.size
  simp only [Nat.zero_add] at hin hout
  have hcount : form.childCount address = count := by
    rw [childCount, children, heq, List.length_map, List.length_range']
  rw [hcount]
  refine ⟨by rw [children, heq, List.range_eq_range'], hin, ?_⟩
  rcases Nat.lt_or_ge count form.size with hlt | hge
  · exact hout hlt
  · -- All keys are children already, so one more child would be a key too many.
    rw [← Bool.not_eq_true]
    intro hc
    have hall : ∀ i < count + 1,
        form.contains (Address.child address i) = true := by
      intro i hi
      rcases Nat.lt_succ_iff_lt_or_eq.1 hi with hlt | rfl
      · exact hin i hlt
      · exact hc
    have := form.count_le_size hall
    omega

/-- A branch has a child at an index when it has one at each index up to
there. -/
theorem lt_childCount_iff {index : Nat} :
    index < form.childCount address ↔
      ∀ i ≤ index, form.contains (Address.child address i) = true := by
  obtain ⟨-, hin, hout⟩ := form.children_eq_map_range address
  constructor
  · exact fun h i hi => hin i (by omega)
  · intro h
    rcases Nat.lt_or_ge index (form.childCount address) with hlt | hge
    · exact hlt
    · rw [h _ hge] at hout
      cases hout

/-- A form with children in a row has no more than up to the first gap. -/
theorem childCount_eq {count : Nat}
    (hin : ∀ i < count, form.contains (Address.child address i) = true)
    (hout : form.contains (Address.child address count) = false) :
    form.childCount address = count := by
  refine Nat.le_antisymm ?_ ?_
  · rw [← Nat.not_lt, lt_childCount_iff]
    intro h
    rw [h count (Nat.le_refl count)] at hout
    cases hout
  · cases count with
    | zero => exact Nat.zero_le _
    | succ count =>
        exact lt_childCount_iff.2 fun i hi => hin i (Nat.lt_succ_of_le hi)

end Form

end Songbook.Filter
