import Mathlib.Order.Bounds.Basic
import Songbook.Proofs.Footprint

/-!
# Children are counted up to the first gap

The children of a branch are looked for at the indices 0, 1, 2, … with no last
index, one at a time and only when the next child is asked for. A `Walk` is
where such a search stands; asking it is one look at a form, and nothing in it
counts against the size of the form. That the search ends all the same is a
fact about addresses: different indices have different addresses, so a form
that had a key at each of them would have more keys than it has.

`Walk.after_of_le` and `Walk.after_of_lt` say where a walk stands however
often it was asked, and `Loop` is what a loop over a walk comes to, as a
judgment that holds only of a loop that ends. Both are compared with
`Form.children`, which looks at as many indices as there are keys and at no
more.

Where the children end is decided by the keys up to the first gap. A key that
merely looks like one of them is none: its numeral is past the gap or has a
zero too many, or the key lies below a child.
-/

namespace Songbook.Filter

open Songbook.Text (not_leadingZero_toDigits)

variable {form other : Form} {address : String}

/-! ## Asking for one child after the other -/

/-- Where a search for the children of a branch stands: the index to look at
next, and whether a gap was met. -/
structure Walk where
  index : Nat
  ended : Bool

namespace Walk

/-- A search that was not asked yet. -/
def start : Walk := ⟨0, false⟩

/-- Asks for the next child. The index moves on before the form is looked at,
and once a gap was met nothing is looked at any more. -/
def next (form : Form) (address : String) (walk : Walk) :
    Option String × Walk :=
  if walk.ended then (none, walk)
  else if form.contains (Address.child address walk.index) then
    (some (Address.child address walk.index), ⟨walk.index + 1, false⟩)
  else (none, ⟨walk.index + 1, true⟩)

/-- Where the search stands when it was asked that often from the start on. -/
def after (form : Form) (address : String) : Nat → Walk
  | 0 => start
  | asked + 1 => ((after form address asked).next form address).2

@[simp] theorem next_ended (form : Form) (address : String) (index : Nat) :
    next form address ⟨index, true⟩ = (none, ⟨index, true⟩) := rfl

theorem next_of_contains {index : Nat}
    (h : form.contains (Address.child address index) = true) :
    next form address ⟨index, false⟩ =
      (some (Address.child address index), ⟨index + 1, false⟩) := by
  simp [next, h]

theorem next_of_not_contains {index : Nat}
    (h : form.contains (Address.child address index) = false) :
    next form address ⟨index, false⟩ = (none, ⟨index + 1, true⟩) := by
  simp [next, h]

theorem next_of_lt {index : Nat} (h : index < form.childCount address) :
    next form address ⟨index, false⟩ =
      (some (Address.child address index), ⟨index + 1, false⟩) :=
  next_of_contains (Form.lt_childCount_iff.1 h index (Nat.le_refl index))

theorem next_childCount (form : Form) (address : String) :
    next form address ⟨form.childCount address, false⟩ =
      (none, ⟨form.childCount address + 1, true⟩) :=
  next_of_not_contains (form.children_eq_map_range address).2.2

variable {asked : Nat}

/-- Up to the gap, a walk stands at the index of the child to come. -/
theorem after_of_le (h : asked ≤ form.childCount address) :
    after form address asked = ⟨asked, false⟩ := by
  induction asked with
  | zero => rfl
  | succ asked ih => rw [after, ih (by omega), next_of_lt (by omega)]

/-- It looks at the gap once, and from then on stays right behind it. -/
theorem after_of_lt (h : form.childCount address < asked) :
    after form address asked = ⟨form.childCount address + 1, true⟩ := by
  induction asked with
  | zero => omega
  | succ asked ih =>
      rw [after]
      rcases Nat.lt_succ_iff_lt_or_eq.1 h with hlt | heq
      · rw [ih hlt, next_ended]
      · rw [← heq, after_of_le (Nat.le_refl _), next_childCount]

theorem index_after_le (form : Form) (address : String) (asked : Nat) :
    (after form address asked).index ≤ form.childCount address + 1 := by
  rcases Nat.lt_or_ge (form.childCount address) asked with hlt | hge
  · rw [after_of_lt hlt]
  · rw [after_of_le hge]
    exact Nat.le_succ_of_le hge

/-- What a walk gives when it is asked once more: the children in the order of
their indices, and then nothing ever again. -/
theorem fst_next_after (form : Form) (address : String) (asked : Nat) :
    ((after form address asked).next form address).1 =
      if asked < form.childCount address then some (Address.child address asked)
      else none := by
  rcases Nat.lt_trichotomy asked (form.childCount address) with hlt | heq | hgt
  · rw [after_of_le (Nat.le_of_lt hlt), next_of_lt hlt, if_pos hlt]
  · rw [heq, after_of_le (Nat.le_refl _), next_childCount,
      if_neg (Nat.lt_irrefl _)]
  · rw [after_of_lt hgt, next_ended, if_neg (by omega)]

end Walk

/-! ## Going through the children -/

/-- What a loop comes to that asks a walk for one child after the other and
visits it, and stops at the first visit that fails, as reading a branch does.
How often it goes round is not bounded: a loop without an end would come to
nothing. -/
inductive Loop (form : Form) (address : String) {ε α : Type}
    (visit : String → Except ε α) :
    Walk → Except ε (List α) → Prop
  | ended {walk walk' : Walk} (h : walk.next form address = (none, walk')) :
      Loop form address visit walk (.ok [])
  | failed {walk walk' : Walk} {child : String} {e : ε}
      (h : walk.next form address = (some child, walk'))
      (hvisit : visit child = .error e) :
      Loop form address visit walk (.error e)
  | passed {walk walk' : Walk} {child : String} {a : α}
      {result : Except ε (List α)}
      (h : walk.next form address = (some child, walk'))
      (hvisit : visit child = .ok a)
      (rest : Loop form address visit walk' result) :
      Loop form address visit walk (result.map (a :: ·))

namespace Loop

variable {ε α : Type} {visit : String → Except ε α} {walk : Walk}
  {result : Except ε (List α)}

/-- What a loop comes to, by what the walk gives next and how the visit goes. -/
theorem iff_next :
    Loop form address visit walk result ↔
      match walk.next form address with
      | (none, _) => result = .ok []
      | (some child, walk') =>
        match visit child with
        | .error e => result = .error e
        | .ok a => ∃ rest, Loop form address visit walk' rest ∧
          result = rest.map (a :: ·) := by
  constructor
  · intro h
    cases h with
    | ended hnext => simp [hnext]
    | failed hnext hvisit => simp [hnext, hvisit]
    | passed hnext hvisit rest =>
        simp only [hnext, hvisit]
        exact ⟨_, rest, rfl⟩
  · intro h
    split at h
    · next hnext =>
        subst h
        exact .ended hnext
    · next hnext =>
        split at h
        · next hvisit =>
            subst h
            exact .failed hnext hvisit
        · next hvisit =>
            obtain ⟨rest, hrest, rfl⟩ := h
            exact .passed hnext hvisit hrest

/-- From any child on, a loop ends and goes through the children that are
left. -/
theorem iff_mapM_range' {index left : Nat}
    (h : index + left = form.childCount address) :
    Loop form address visit ⟨index, false⟩ result ↔
      result =
        ((List.range' index left).map (Address.child address)).mapM visit := by
  induction left generalizing index result with
  | zero =>
      rw [Nat.add_zero] at h
      subst h
      rw [iff_next, Walk.next_childCount]
      rfl
  | succ left ih =>
      rw [iff_next, Walk.next_of_lt (by omega), List.range'_succ, List.map_cons,
        List.mapM_cons]
      cases hvisit : visit (Address.child address index) with
      | error e =>
          simp only [hvisit]
          rfl
      | ok a =>
          have hrest : ∀ rest, Loop form address visit ⟨index + 1, false⟩ rest ↔
              rest = ((List.range' (index + 1) left).map
                (Address.child address)).mapM visit :=
            fun _ => ih (by omega)
          simp only [hvisit, hrest, exists_eq_left]
          cases ((List.range' (index + 1) left).map
            (Address.child address)).mapM visit <;> rfl

/-- A loop over the children ends, and comes to what going through the list of
them comes to. -/
theorem iff_mapM_children :
    Loop form address visit Walk.start result ↔
      result = (form.children address).mapM visit := by
  rw [(form.children_eq_map_range address).1, List.range_eq_range']
  exact iff_mapM_range' (Nat.zero_add _)

end Loop

/-! ## Keys that are no children -/

namespace Address

/-- Keys that look like children of a branch whose first gap is at `gap`, and
have no part in where its children end: those past the gap, those whose
numeral has zeros before it, and whatever lies below a child. -/
inductive IsStray (address : String) (gap : Nat) : String → Prop
  | beyond {index : Nat} (h : gap < index) :
      IsStray address gap (child address index)
  | padded (zeros index : Nat) :
      IsStray address gap (address ++ "_" ++
        String.ofList (List.replicate (zeros + 1) '0' ++ Nat.toDigits 10 index))
  | below (index : Nat) {rest : String} (hne : rest ≠ "") (h : IsBelow rest) :
      IsStray address gap (child address index ++ rest)

theorem child_ne_padded (address : String) (index zeros index' : Nat) :
    child address index ≠ address ++ "_" ++
      String.ofList (List.replicate (zeros + 1) '0' ++
        Nat.toDigits 10 index') := by
  intro h
  have hlist := congrArg String.toList h
  simp only [child, String.toList_append, String.toList_ofList, Nat.toList_repr,
    List.append_cancel_left_eq] at hlist
  refine not_leadingZero_toDigits index ?_
  rw [hlist, List.replicate_succ]
  have hpos : 0 < (Nat.toDigits 10 index').length :=
    List.length_pos_of_ne_nil Nat.toDigits_ne_nil
  constructor
  · simp only [List.cons_append, List.length_cons, List.length_append,
      List.length_replicate]
    omega
  · rfl

theorem IsStray.ne_child {gap index : Nat} {key : String}
    (h : IsStray address gap key) (hindex : index ≤ gap) :
    key ≠ child address index := by
  cases h with
  | beyond hgap =>
      intro heq
      have := child_inj.1 heq
      omega
  | padded zeros index' =>
      exact (child_ne_padded address index zeros index').symm
  | below index' hne hbelow =>
      intro heq
      rw [← String.append_empty (s := child address index)] at heq
      exact hne (child_append_inj hbelow IsSuffix.entry.isBelow heq).2

end Address

/-- Two forms that have the same children up to the first gap of one, and the
gap, have the same children. -/
theorem Form.children_congr
    (h : ∀ index ≤ form.childCount address,
      other.contains (Address.child address index) =
        form.contains (Address.child address index)) :
    other.children address = form.children address := by
  obtain ⟨hform, hin, hout⟩ := form.children_eq_map_range address
  have hcount : other.childCount address = form.childCount address := by
    refine childCount_eq (fun index hindex => ?_) ?_
    · rw [h index (Nat.le_of_lt hindex)]
      exact hin index hindex
    · rw [h _ (Nat.le_refl _)]
      exact hout
  rw [(other.children_eq_map_range address).1, hcount, hform]

/-- Whatever the form and the address, there is a first gap, at an index no
greater than the number of keys, and the children are those at the indices
below it. A walk over the indices, on which there is no bound, gives just
these in their order and then nothing however often it is asked, and never
stands further than one past the gap. A loop over it ends and comes to what
going through the list of the children comes to. Keys past the gap, with zeros
before the numeral or below a child change nothing: without them, or with
others of them, the children are the same. -/
theorem children_up_to_gap (form : Form) (address : String) :
    ∃ gap ≤ form.size,
      IsLeast
        {index | form.contains (Address.child address index) = false} gap ∧
      form.children address = (List.range gap).map (Address.child address) ∧
      (∀ asked, ((Walk.after form address asked).next form address).1 =
        if asked < gap then some (Address.child address asked) else none) ∧
      (∀ asked, (Walk.after form address asked).index ≤ gap + 1) ∧
      (∀ (ε α : Type) (visit : String → Except ε α) result,
        Loop form address visit Walk.start result ↔
          result = (form.children address).mapM visit) ∧
      ∀ other : Form,
        (∀ key, ¬Address.IsStray address gap key →
          other.contains key = form.contains key) →
          other.children address = form.children address := by
  obtain ⟨hchildren, hin, hout⟩ := form.children_eq_map_range address
  refine ⟨form.childCount address, Form.count_le_size hin,
    ⟨hout, fun index hindex => ?_⟩,
    hchildren, Walk.fst_next_after form address,
    Walk.index_after_le form address,
    fun _ _ _ _ => Loop.iff_mapM_children, fun other hother => ?_⟩
  · -- An index without a child is not below the gap.
    by_contra hlt
    have hpresent := hin index (by omega)
    rw [hindex] at hpresent
    cases hpresent
  · refine Form.children_congr fun index hindex => hother _ fun hstray => ?_
    exact hstray.ne_child hindex rfl

namespace Form

/-- A branch with two children. -/
def twoChildren : Form :=
  .ofList [("k", "or"), ("k_0", "and"), ("k_1", "title")]

/-- Entries that are stray about a branch at `k` with two children. -/
def strayEntries : List (String × String) :=
  [("k_3", "album"), ("k_00", "time"), ("k_01", "artist"), ("k_0_1", "and"),
    ("k_1_r", "in")]

theorem isStray_of_mem_strayEntries {entry : String × String}
    (h : entry ∈ strayEntries) :
    Address.IsStray "k" 2 entry.1 := by
  simp only [strayEntries, List.mem_cons, List.not_mem_nil, or_false] at h
  rcases h with rfl | rfl | rfl | rfl | rfl
  · exact @Address.IsStray.beyond "k" 2 3 (by decide)
  · exact .padded 0 0
  · exact .padded 0 1
  · exact @Address.IsStray.below "k" 2 0 "_1" (by decide) (by decide)
  · exact @Address.IsStray.below "k" 2 1 "_r" (by decide) (by decide)

end Form

/-- A branch with stray keys of every kind about it has the two children that
it has without them. -/
theorem children_up_to_gap_crowded :
    (∀ key, ¬Address.IsStray "k" 2 key →
      Form.twoChildren.contains key =
        (Form.twoChildren.insertAll Form.strayEntries).contains key) ∧
    (Form.twoChildren.insertAll Form.strayEntries).size = 8 ∧
    (Form.twoChildren.insertAll Form.strayEntries).children "k" =
      ["k_0", "k_1"] ∧
    Form.twoChildren.children "k" =
      (Form.twoChildren.insertAll Form.strayEntries).children "k" := by
  have hsame : ∀ key, ¬Address.IsStray "k" 2 key →
      Form.twoChildren.contains key =
        (Form.twoChildren.insertAll Form.strayEntries).contains key := by
    intro key hkey
    have hget : (Form.twoChildren.insertAll Form.strayEntries).get? key =
        Form.twoChildren.get? key :=
      Form.get?_insertAll
        (fun _ hmem =>
          absurd (Form.isStray_of_mem_strayEntries hmem) hkey) (.inl rfl)
    rw [Form.contains, Form.contains, hget]
  obtain ⟨gap, -, -, hchildren, -, -, -, hstray⟩ :=
    children_up_to_gap (Form.twoChildren.insertAll Form.strayEntries) "k"
  have htwo : (Form.twoChildren.insertAll Form.strayEntries).children "k" =
      ["k_0", "k_1"] := by
    decide
  have hgap : gap = 2 := by
    have hlength := congrArg List.length hchildren
    rw [htwo, List.length_map, List.length_range] at hlength
    exact hlength.symm
  subst hgap
  exact ⟨hsame, rfl, htwo, hstray _ hsame⟩

end Songbook.Filter
