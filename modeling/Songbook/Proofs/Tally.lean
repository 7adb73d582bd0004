import Songbook.Proofs.Reading

/-!
# Count, tree and errors keep step

Reading a tree keeps three accounts: the tree of what could be read, the
number of criteria, and the operands that could not be read. They are added to
separately, and two things are thrown away on the way up: a child that counts
nothing, and a branch none of whose children left a node. What ties the
accounts together is `IsBalanced`. A criterion that is missing from the tree
has left an error or two, and nothing else leaves an error, so once there are
no errors the count is the number of leaves. A node that is there has a leaf,
so no criteria means no node.

A child that counts nothing has no leaf and no error by the same invariant,
which is why dropping it loses nothing.
-/

namespace Songbook.Filter

namespace Built

/-- The number of leaves of the tree that was read, none if there is no tree. -/
def leafCount (built : Built) : Nat :=
  match built.node with
  | some node => node.criterionCount
  | none => 0

/-- The criteria that are missing from the tree account for the errors, one or
two each. -/
structure IsBalanced (built : Built) : Prop where
  leafCount_le : built.leafCount ≤ built.count
  count_le : built.count ≤ built.leafCount + built.errors.length
  errors_le : built.errors.length ≤ 2 * (built.count - built.leafCount)
  criterionCount_pos : ∀ node ∈ built.node, 0 < node.criterionCount

theorem isBalanced_void : void.IsBalanced :=
  ⟨Nat.le_refl _, Nat.le_refl _, Nat.le_refl _, nofun⟩

theorem isBalanced_leaf {test : Leaf} : (leaf test).IsBalanced := by
  refine ⟨Nat.le_refl _, Nat.le_refl _, Nat.le_refl _, ?_⟩
  rintro node ⟨⟩
  exact Nat.one_pos

theorem isBalanced_rejected {errors : List OperandError}
    (h₁ : 0 < errors.length) (h₂ : errors.length ≤ 2) :
    (rejected errors).IsBalanced :=
  ⟨Nat.zero_le _, by show 1 ≤ 0 + errors.length; omega, h₂, nofun⟩

theorem IsBalanced.count_eq_leafCount {built : Built} (h : built.IsBalanced)
    (he : built.errors = []) : built.count = built.leafCount := by
  have h₁ := h.leafCount_le
  have h₂ := h.count_le
  rw [he, List.length_nil] at h₂
  omega

theorem IsBalanced.node_eq_none_iff {built : Built} (h : built.IsBalanced) :
    built.node = none ↔ built.leafCount = 0 := by
  cases hn : built.node with
  | none => simp [leafCount, hn]
  | some node =>
      have := h.criterionCount_pos node hn
      simp only [leafCount, hn, reduceCtorEq, false_iff]
      omega

theorem IsBalanced.errors_eq_nil {built : Built} (h : built.IsBalanced)
    (hc : built.count = 0) :
    built.errors = [] := by
  have := h.errors_le
  exact List.eq_nil_of_length_eq_zero (by omega)

theorem IsBalanced.node_eq_none {built : Built} (h : built.IsBalanced)
    (hc : built.count = 0) :
    built.node = none := by
  have := h.leafCount_le
  exact h.node_eq_none_iff.2 (by omega)

/-! ## Branches -/

theorem criterionCountAll_filterMap_node (parts : List Built) :
    Node.criterionCountAll (parts.filterMap (·.node)) =
      parts.foldr (fun part count => part.leafCount + count) 0 := by
  induction parts with
  | nil => rfl
  | cons part parts ih =>
      rw [List.foldr_cons, ← ih]
      cases h : part.node with
      | none => rw [List.filterMap_cons_none h, leafCount, h, Nat.zero_add]
      | some node =>
          rw [List.filterMap_cons_some h, leafCount, h, Node.criterionCountAll]

theorem leafCount_branch {combinator : Combinator} {parts : List Built} :
    (branch combinator parts).leafCount =
      (parts.filter fun part => part.count != 0).foldr
        (fun part count => part.leafCount + count) 0 := by
  rw [← criterionCountAll_filterMap_node]
  simp only [leafCount, branch]
  cases (parts.filter fun part => part.count != 0).filterMap (·.node) with
  | nil => rfl
  | cons node nodes => rfl

theorem criterionCountAll_pos {nodes : List Node}
    (h : ∀ node ∈ nodes, 0 < node.criterionCount)
    (hne : nodes.isEmpty = false) : 0 < Node.criterionCountAll nodes := by
  cases nodes with
  | nil => cases hne
  | cons node nodes =>
      have := h node List.mem_cons_self
      rw [Node.criterionCountAll]
      omega

theorem sums_balanced {parts : List Built}
    (h : ∀ part ∈ parts, part.IsBalanced) :
    let leaves := parts.foldr (fun part count => part.leafCount + count) 0
    let count := parts.foldr (fun part count => part.count + count) 0
    let errors := (parts.flatMap (·.errors)).length
    leaves ≤ count ∧ count ≤ leaves + errors ∧
      errors ≤ 2 * (count - leaves) := by
  induction parts with
  | nil => exact ⟨Nat.le_refl _, Nat.le_refl _, Nat.le_refl _⟩
  | cons part parts ih =>
      obtain ⟨h₁, h₂, h₃⟩ := ih fun p hp => h p (List.mem_cons_of_mem _ hp)
      obtain ⟨p₁, p₂, p₃, -⟩ := h part List.mem_cons_self
      simp only [List.foldr_cons, List.flatMap_cons, List.length_append]
      omega

theorem isBalanced_branch {combinator : Combinator} {parts : List Built}
    (h : ∀ part ∈ parts, part.IsBalanced) :
    (branch combinator parts).IsBalanced := by
  have hkept : ∀ part ∈ parts.filter fun part =>
      part.count != 0, part.IsBalanced :=
    fun part hp => h part (List.mem_of_mem_filter hp)
  obtain ⟨h₁, h₂, h₃⟩ := sums_balanced hkept
  refine ⟨?_, ?_, ?_, ?_⟩
  · rw [leafCount_branch]; exact h₁
  · rw [leafCount_branch]; exact h₂
  · rw [leafCount_branch]; exact h₃
  · intro node hnode
    simp only [branch, Option.mem_def] at hnode
    split at hnode
    · cases hnode
    · next hne =>
        cases hnode
        rw [Node.criterionCount]
        refine criterionCountAll_pos (fun node hmem => ?_)
          (Bool.not_eq_true _ ▸ hne)
        obtain ⟨part, hp, hn⟩ := List.mem_filterMap.1 hmem
        exact (hkept part hp).criterionCount_pos node hn

/-! ## Nothing is lost with what is dropped -/

/-- A sum over the children of a branch can leave out those that count
nothing. -/
theorem foldr_filter_count {f : Built → Nat} {parts : List Built}
    (h : ∀ part ∈ parts, part.count = 0 → f part = 0) :
    (parts.filter fun part => part.count != 0).foldr
      (fun part total => f part + total) 0 =
      parts.foldr (fun part total => f part + total) 0 := by
  induction parts with
  | nil => rfl
  | cons part parts ih =>
      rw [List.filter_cons, List.foldr_cons, ← ih fun p hp =>
        h p (List.mem_cons_of_mem _ hp)]
      split
      · rfl
      · next hc =>
          have hzero : part.count = 0 := by simpa using hc
          rw [h part List.mem_cons_self hzero, Nat.zero_add]

theorem count_branch {combinator : Combinator} {parts : List Built} :
    (branch combinator parts).count =
      parts.foldr (fun part count => part.count + count) 0 :=
  foldr_filter_count fun _ _ h => h

theorem leafCount_branch_of_balanced {combinator : Combinator}
    {parts : List Built} (h : ∀ part ∈ parts, part.IsBalanced) :
    (branch combinator parts).leafCount =
      parts.foldr (fun part count => part.leafCount + count) 0 := by
  rw [leafCount_branch]
  refine foldr_filter_count fun part hp hc => ?_
  have := (h part hp).leafCount_le
  omega

theorem errors_branch {combinator : Combinator} {parts : List Built}
    (h : ∀ part ∈ parts, part.IsBalanced) :
    (branch combinator parts).errors = parts.flatMap (·.errors) := by
  rw [branch]
  induction parts with
  | nil => rfl
  | cons part parts ih =>
      rw [List.filter_cons, List.flatMap_cons,
        ← ih fun p hp => h p (List.mem_cons_of_mem _ hp)]
      split
      · rw [List.flatMap_cons]
      · next hc =>
          have hzero : part.count = 0 := by simpa using hc
          rw [(h part List.mem_cons_self).errors_eq_nil hzero, List.nil_append]

theorem node_branch {combinator : Combinator} {parts : List Built}
    (h : ∀ part ∈ parts, part.IsBalanced) :
    (branch combinator parts).node =
      if (parts.filterMap (·.node)).isEmpty then none
      else some (.branch combinator (parts.filterMap (·.node))) := by
  have hnodes : (parts.filter fun part => part.count != 0).filterMap (·.node) =
      parts.filterMap (·.node) := by
    rw [List.filterMap_filter]
    refine List.filterMap_congr fun part hp => ?_
    split
    · rfl
    · next hc =>
        have hzero : part.count = 0 := by simpa using hc
        exact ((h part hp).node_eq_none hzero).symm
  rw [branch, hnodes]

/-! ## Whole trees -/

theorem isBalanced_of_buildWithin {form : Form} {today : Date} {room : Nat}
    {address : String} {built : Built}
    (h : buildWithin form today room address = .ok built) :
    built.IsBalanced := by
  refine buildWithin_induction
    (motive := fun _ _ built => built.IsBalanced) ?_ ?_ ?_ h
  · exact fun _ _ _ => isBalanced_void
  · intro _ _ raw built _ hb
    rcases buildLeaf_eq_ok hb with ⟨test, rfl⟩ | ⟨errors, rfl, h₁, h₂⟩
    · exact isBalanced_leaf
    · exact isBalanced_rejected h₁ h₂
  · intro _ _ combinator parts _ hparts
    refine isBalanced_branch fun part hp => ?_
    obtain ⟨_, -, -, hpart⟩ := exists_mem_of_forall₂ hparts part hp
    exact hpart

theorem isBalanced_of_forall₂ {form : Form} {today : Date} {room : Nat}
    {children : List String} {parts : List Built}
    (h : List.Forall₂ (fun child part =>
      buildWithin form today room child = .ok part) children
      parts) : ∀ part ∈ parts, part.IsBalanced := by
  intro part hp
  obtain ⟨_, -, hpart⟩ := exists_mem_of_forall₂ h part hp
  exact isBalanced_of_buildWithin hpart

end Built

end Songbook.Filter
