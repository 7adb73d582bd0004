import Songbook.Proofs.OperandErrors
import Songbook.Proofs.ReadBack

/-!
# What is counted and what is kept

The count of a filter and its tree drift apart on purpose. A criterion with an
operand that does not read is counted although the tree has lost it; a text
criterion that was left blank is neither counted nor kept. How far they drift
is said exactly: by the number of leaves that reading comes by and cannot
read, which is at most the number of errors and at least half of it.

What is kept is a proper tree, also when there are errors beside it: no branch
of it is empty, no text in it is blank, and no leaf of it lies under more
branches than are allowed.
-/

namespace Songbook.Filter

/-! ## Leaves that could not be read -/

variable {form : Form} {today : Date} {address : String}

namespace Form

/-- The addresses where a leaf cannot be read, among those that reading comes
by. -/
def failuresWithin (form : Form) (today : Date) (room : Nat)
    (address : String) : List String :=
  (form.addressesWithin room address).filter fun place =>
    !(form.errorsAt today place).isEmpty

/-- The operands that do not read, as reading a filter comes by them. -/
def failures (form : Form) (today : Date) (root : String) : List String :=
  form.failuresWithin today (maxDepth + 1) root

theorem failuresWithin_of_branch {room : Nat} {combinator : Combinator}
    (h : form.resolve address = .ok (.branch combinator)) :
    form.failuresWithin today (room + 1) address =
      (form.children address).flatMap (form.failuresWithin today room) := by
  have hself : form.errorsAt today address = [] := by rw [errorsAt, h]
  rw [failuresWithin, filter_addressesWithin_of_branch h, hself,
    if_neg (by simp)]
  rfl

theorem mem_failures_iff {root : String} :
    address ∈ form.failures today root ↔
      ∃ path raw, form.Reaches root path ∧ address = Address.descend root path ∧
        form.resolve address = .ok (.leaf raw) ∧
          raw.errors today address ≠ [] := by
  rw [failures, failuresWithin, List.mem_filter, addressesWithin, List.mem_map,
    Bool.not_eq_true', List.isEmpty_eq_false_iff_exists_mem]
  constructor
  · rintro ⟨⟨path, hpath, rfl⟩, e, he⟩
    obtain ⟨raw, hraw, he⟩ := mem_errorsAt_iff.1 he
    exact ⟨path, raw, mem_paths_iff.1 hpath, rfl, hraw, List.ne_nil_of_mem he⟩
  · rintro ⟨path, raw, hpath, rfl, hraw, hne⟩
    obtain ⟨e, he⟩ := List.exists_mem_of_ne_nil _ hne
    exact ⟨⟨path, mem_paths_iff.2 hpath, rfl⟩, e,
      mem_errorsAt_iff.2 ⟨raw, hraw, he⟩⟩

theorem nodup_failures (form : Form) (today : Date) (root : String) :
    (form.failures today root).Nodup :=
  (form.nodup_addressesWithin _ root).filter _

end Form

/-! ## The count -/

theorem count_eq_of_forall₂ {children : List String} {parts : List Built}
    {failures : String → List String}
    (h : List.Forall₂ (fun child part =>
      part.count = part.leafCount + (failures child).length)
      children parts) :
    parts.foldr (fun part count => part.count + count) 0 =
      parts.foldr (fun part count => part.leafCount + count) 0 +
        (children.flatMap failures).length := by
  induction h with
  | nil => rfl
  | cons hpart _ ih =>
      rw [List.foldr_cons, List.foldr_cons, List.flatMap_cons,
        List.length_append, ih, hpart]
      omega

theorem count_of_buildWithin {room : Nat} {built : Built}
    (h : buildWithin form today room address = .ok built) :
    built.count = built.leafCount +
      (form.failuresWithin today room address).length := by
  refine buildWithin_induction (motive := fun room address built =>
    built.count = built.leafCount +
      (form.failuresWithin today room address).length) ?_ ?_ ?_ h
  · rintro room address (hr | hr)
    · rw [Form.failuresWithin, Form.addressesWithin_of_absent hr]
      rfl
    · have hself : form.errorsAt today address = [] := by rw [Form.errorsAt, hr]
      rw [Form.failuresWithin, Form.addressesWithin_of_blank hr,
        List.filter_singleton, hself]
      rfl
  · intro room address raw built hr hb
    have hself : form.errorsAt today address = built.errors := by
      rw [Form.errorsAt, hr, errors_of_buildLeaf hb]
    rw [Form.failuresWithin, Form.addressesWithin_of_leaf hr,
      List.filter_singleton, hself]
    rcases buildLeaf_eq_ok hb with ⟨test, rfl⟩ | ⟨errors, rfl, hpos, -⟩
    · rfl
    · rw [Built.rejected,
        List.isEmpty_eq_false_iff.2 (List.ne_nil_of_length_pos hpos)]
      rfl
  · intro room address combinator parts hr hparts
    have hbalanced :=
      Built.isBalanced_of_forall₂ (hparts.imp fun _ _ hpart => hpart.1)
    rw [Built.count_branch, Built.leafCount_branch_of_balanced hbalanced,
      Form.failuresWithin_of_branch hr]
    exact count_eq_of_forall₂ (hparts.imp fun _ _ hpart => hpart.2)

/-! ## The tree -/

/-- Whether a leaf has something to look for, as only one on text can fail to.
-/
def Leaf.IsFilled : Leaf → Prop
  | .text _ _ value => Text.trim value.toList ≠ []
  | .number _ _ => True
  | .calendar _ _ => True
  | .recent _ _ _ _ => True

/-- A tree without empty branches, all of whose leaves are filled in. -/
inductive Node.IsFilled : Node → Prop
  | leaf {test : Leaf} (h : test.IsFilled) : IsFilled (.leaf test)
  | branch {combinator : Combinator} {children : List Node}
      (hne : children ≠ []) (h : ∀ child ∈ children, IsFilled child) :
      IsFilled (.branch combinator children)

theorem Node.heightAll_le {nodes : List Node} {room : Nat}
    (h : ∀ node ∈ nodes, node.height < room) : heightAll nodes ≤ room := by
  induction nodes with
  | nil => exact Nat.zero_le _
  | cons node nodes ih =>
      have hnode := h node List.mem_cons_self
      have hnodes := ih fun n hn => h n (List.mem_cons_of_mem _ hn)
      rw [heightAll]
      omega

theorem isFilled_of_buildLeaf {raw : RawLeaf} {test : Leaf}
    (h : buildLeaf today address raw = .ok (.leaf test))
    (hfilled : raw.IsFilled) :
    test.IsFilled := by
  cases raw with
  | text field rule operand =>
      cases h
      intro htrim
      rw [RawLeaf.IsFilled, Text.trim_eq_nil_iff.1 htrim] at hfilled
      cases hfilled
  | number field comparison =>
      obtain ⟨read, -, h⟩ := bind_eq_ok_iff.1 h
      split at h
      · cases h; trivial
      · cases h
  | calendar field comparison =>
      simp only [buildLeaf] at h
      split at h
      · cases h; trivial
      · cases h
  | recent field count unit negated =>
      simp only [buildLeaf] at h
      split at h
      · cases h
      · split at h
        · cases h; trivial
        · cases h

/-- The tree that is read is filled in, and is no higher than there is room
for. -/
theorem isFilled_of_buildWithin {room : Nat} {built : Built}
    (h : buildWithin form today room address = .ok built) :
    ∀ node ∈ built.node, node.IsFilled ∧ node.height < room := by
  refine buildWithin_induction (motive := fun room _ built =>
    ∀ node ∈ built.node, node.IsFilled ∧ node.height < room) ?_ ?_ ?_ h
  · exact fun _ _ _ => nofun
  · intro room address raw built hr hb node hnode
    rcases buildLeaf_eq_ok hb with ⟨test, rfl⟩ | ⟨errors, rfl, -, -⟩
    · cases hnode
      exact ⟨.leaf (isFilled_of_buildLeaf hb (Form.texts_of_resolve hr).1),
        Nat.succ_pos room⟩
    · cases hnode
  · intro room address combinator parts hr hparts node hnode
    simp only [Built.branch, Option.mem_def] at hnode
    split at hnode
    · cases hnode
    · next hne =>
        cases hnode
        have hchildren : ∀ child ∈
            (parts.filter fun part => part.count != 0).filterMap (·.node),
            child.IsFilled ∧ child.height < room := by
          intro child hchild
          obtain ⟨part, hp, hn⟩ := List.mem_filterMap.1 hchild
          obtain ⟨_, -, -, hpart⟩ :=
            exists_mem_of_forall₂ hparts part (List.mem_of_mem_filter hp)
          exact hpart child hn
        refine ⟨.branch (mt List.isEmpty_iff.2 hne) fun child hc =>
          (hchildren child hc).1, ?_⟩
        exact Nat.lt_succ_of_le (Node.heightAll_le fun child hc =>
          (hchildren child hc).2)

/-- Every criterion that is counted is a leaf of the tree or a leaf that
reading came by and could not read; such a leaf has one error or two. So a
filter that counts nothing has neither a tree nor an error, and one without
errors has a tree exactly when it counts something, with as many leaves as it
counts. The tree, with errors or without, has no empty branch and no blank
text, and no leaf under more branches than are allowed. -/
theorem build_counts {form : Form} {root : String} {today : Date}
    {built : Built} (h : build form root today = .ok built) :
    built.count = built.leafCount + (form.failures today root).length ∧
      (form.failures today root).length ≤ built.errors.length ∧
      built.errors.length ≤ 2 * (form.failures today root).length ∧
      (form.failures today root).Nodup ∧
      (∀ address, address ∈ form.failures today root ↔
        ∃ path raw, form.Reaches root path ∧
          address = Address.descend root path ∧
          form.resolve address = .ok (.leaf raw) ∧
          raw.errors today address ≠ []) ∧
      (built.count = 0 → built.node = none ∧ built.errors = []) ∧
      (built.errors = [] →
        ((∃ node, built.node = some node) ↔ 0 < built.count) ∧
        ∀ node, built.node = some node → node.criterionCount = built.count) ∧
      ∀ node, built.node = some node →
        node.IsFilled ∧ node.height ≤ maxDepth := by
  have hbalanced : built.IsBalanced := Built.isBalanced_of_buildWithin h
  have hcount : built.count =
      built.leafCount + (form.failures today root).length :=
    count_of_buildWithin h
  have hle := hbalanced.leafCount_le
  refine ⟨hcount, ?_, ?_, form.nodup_failures today root,
    fun _ => Form.mem_failures_iff,
    fun hzero => ⟨?_, hbalanced.errors_eq_nil hzero⟩, fun he => ?_,
    fun node hnode => ?_⟩
  · have := hbalanced.count_le
    omega
  · have := hbalanced.errors_le
    omega
  · exact hbalanced.node_eq_none_iff.2 (by omega)
  · have hleaves := hbalanced.count_eq_leafCount he
    refine ⟨?_, fun node hnode => ?_⟩
    · rw [← Option.ne_none_iff_exists', ne_eq, hbalanced.node_eq_none_iff]
      omega
    · rw [hleaves, Built.leafCount, hnode]
  · obtain ⟨hfilled, hheight⟩ := isFilled_of_buildWithin h node hnode
    exact ⟨hfilled, Nat.le_of_lt_succ hheight⟩

theorem build_counts_slips :
    ∃ built, build slips "k" ⟨0, by decide, by decide⟩ = .ok built ∧
      built.count = 4 ∧ built.leafCount = 1 ∧
      slips.failures ⟨0, by decide, by decide⟩ "k" =
        ["k_2", "k_10_0", "k_10_1"] ∧
      built.count = built.leafCount +
        (slips.failures ⟨0, by decide, by decide⟩ "k").length ∧
      ∀ node, built.node = some node →
        node.IsFilled ∧ node.height ≤ maxDepth := by
  obtain ⟨hcount, -, -, -, -, -, -, hnode⟩ := build_counts build_slips
  exact ⟨_, build_slips, rfl, rfl, rfl, hcount, hnode⟩

end Songbook.Filter
