import Songbook.Proofs.Draft
import Songbook.Proofs.Meaning
import Songbook.Proofs.Tally

/-!
# Filters read back as they were written

Every tree that can be written is read back from the form it was written to,
wherever in the form it begins, and so is every draft of it. The induction is
along the draft, with the form and the address free: what a form carries of a
child it carries at the address of the child, so the child is read as if it
were written alone. Room for the levels below is the one thing that runs out,
and it runs out exactly where the draft is higher than branches may be deep.

Criteria are not counted on the way. What is read without errors counts the
leaves of its tree, so the tree says everything about it, and `Built.ofTree?`
is what goes through the induction.
-/

namespace Songbook.Filter

/-! ## Trees that can be written -/

namespace Node

/-- A tree can be written if its leaves can and no branch is empty: an empty
branch in a form is no criterion. -/
inductive IsWritable : Node → Prop
  | leaf {test : Leaf} (h : test.IsWritable) : IsWritable (.leaf test)
  | branch {combinator : Combinator} {children : List Node}
      (hne : children ≠ []) (h : ∀ child ∈ children, IsWritable child) :
      IsWritable (.branch combinator children)

mutual

/-- The most branches that lie around a leaf. -/
def height : Node → Nat
  | leaf _ => 0
  | branch _ children => heightAll children

/-- One level more than the highest of nodes, 0 when there are none. -/
def heightAll : List Node → Nat
  | [] => 0
  | node :: nodes => max (node.height + 1) (heightAll nodes)

end

mutual

/-- The draft of a tree with nothing left blank. -/
def draft : Node → Draft
  | leaf test => .leaf test
  | branch combinator children => .branch combinator (drafts children)

/-- The drafts of nodes, in order. -/
def drafts : List Node → List Draft
  | [] => []
  | node :: nodes => node.draft :: drafts nodes

end

theorem trees_drafts {nodes : List Node}
    (h : ∀ node ∈ nodes, node.draft.tree? = some node) :
    Draft.trees (drafts nodes) = nodes := by
  induction nodes with
  | nil => rfl
  | cons node nodes ih =>
      rw [drafts, Draft.trees, h node List.mem_cons_self,
        ih fun n hn => h n (List.mem_cons_of_mem _ hn)]
      rfl

theorem IsWritable.tree?_draft {tree : Node} (h : tree.IsWritable) :
    tree.draft.tree? = some tree := by
  induction h with
  | leaf h => rfl
  | branch hne h ih =>
      rw [draft, Draft.tree?, trees_drafts ih,
        if_neg (by rwa [List.isEmpty_iff])]

theorem heightAll_drafts {nodes : List Node}
    (h : ∀ node ∈ nodes, node.draft.height = node.height) :
    Draft.heightAll (drafts nodes) = heightAll nodes := by
  induction nodes with
  | nil => rfl
  | cons node nodes ih =>
      rw [drafts, Draft.heightAll, heightAll, h node List.mem_cons_self,
        ih fun n hn => h n (List.mem_cons_of_mem _ hn)]

theorem height_draft (tree : Node) : tree.draft.height = tree.height := by
  induction tree with
  | leaf test => rfl
  | branch combinator children ih =>
      rw [draft, Draft.height, height, heightAll_drafts ih]

end Node

/-! ## Reading a branch without errors -/

namespace Built

/-- What is read, without errors, where a tree was written or nothing was
filled in. -/
def ofTree? : Option Node → Built
  | none => void
  | some tree => ⟨some tree, tree.criterionCount, []⟩

@[simp] theorem node_ofTree? (tree? : Option Node) :
    (ofTree? tree?).node = tree? := by
  cases tree? <;> rfl

@[simp] theorem errors_ofTree? (tree? : Option Node) :
    (ofTree? tree?).errors = [] := by
  cases tree? <;> rfl

/-- Without errors the tree says everything. -/
theorem IsBalanced.eq_ofTree? {built : Built} (h : built.IsBalanced)
    (he : built.errors = []) :
    built = ofTree? built.node := by
  have hcount := h.count_eq_leafCount he
  obtain ⟨node, count, errors⟩ := built
  cases he
  cases node with
  | none => exact congrArg (Built.mk none · []) hcount
  | some tree => exact congrArg (Built.mk (some tree) · []) hcount

/-- A branch over what drafts give is what a draft of the branch gives. -/
theorem branch_map_ofTree? {combinator : Combinator} {drafts : List Draft}
    (h : ∀ draft ∈ drafts, (ofTree? draft.tree?).IsBalanced) :
    branch combinator (drafts.map fun draft => ofTree? draft.tree?) =
      ofTree? (Draft.branch combinator drafts).tree? := by
  have hparts : ∀ part ∈ drafts.map fun draft =>
      ofTree? draft.tree?, part.IsBalanced := by
    intro part hp
    obtain ⟨draft, hd, rfl⟩ := List.mem_map.1 hp
    exact h draft hd
  have herrors :
      (branch combinator (drafts.map fun draft => ofTree? draft.tree?)).errors =
        [] := by
    rw [errors_branch hparts, List.flatMap_eq_nil_iff]
    intro part hp
    obtain ⟨draft, -, rfl⟩ := List.mem_map.1 hp
    exact errors_ofTree? _
  have hnodes :
      (drafts.map fun draft => ofTree? draft.tree?).filterMap (·.node) =
      Draft.trees drafts := by
    rw [Draft.trees_eq_filterMap, List.filterMap_map]
    exact congrArg (drafts.filterMap ·) (funext fun draft => node_ofTree? _)
  have hnode :
      (branch combinator (drafts.map fun draft => ofTree? draft.tree?)).node =
      (Draft.branch combinator drafts).tree? := by
    rw [node_branch hparts, hnodes]
    rfl
  rw [(isBalanced_branch hparts).eq_ofTree? herrors, hnode]

end Built

/-! ## Reading what was written -/

variable {form : Form} {today : Date}

theorem isWritable_of_mem {combinator : Combinator} {drafts : List Draft}
    (h : ∀ tree, (Draft.branch combinator drafts).tree? = some tree →
      tree.IsWritable) :
    ∀ draft ∈ drafts, ∀ tree, draft.tree? = some tree → tree.IsWritable := by
  intro draft hd tree ht
  have hmem : tree ∈ Draft.trees drafts := by
    rw [Draft.trees_eq_filterMap]
    exact List.mem_filterMap.2 ⟨draft, hd, ht⟩
  have hne : ¬(Draft.trees drafts).isEmpty = true := by
    rw [List.isEmpty_iff]
    exact List.ne_nil_of_mem hmem
  rw [Draft.tree?, if_neg hne] at h
  obtain ⟨⟩ | ⟨-, hall⟩ := h _ rfl
  exact hall tree hmem

theorem buildWithin_of_carries {room : Nat} {address : String} {draft : Draft}
    (hcarries : form.Carries address draft) (hroom : draft.height < room)
    (hw : ∀ tree, draft.tree? = some tree → tree.IsWritable) :
    buildWithin form today room address = .ok (.ofTree? draft.tree?) := by
  obtain ⟨room, rfl⟩ :=
    Nat.exists_eq_succ_of_ne_zero (Nat.ne_of_gt (Nat.zero_lt_of_lt hroom))
  induction draft generalizing room address with
  | leaf test =>
      obtain ⟨htest⟩ := hw (.leaf test) rfl
      exact buildWithin_of_spells htest hcarries.spells
  | blank criterion => exact buildWithin_of_spells_blank hcarries.spells
  | branch combinator children ih =>
      have hread : ∀ child ∈ children, ∀ place : String,
          form.Carries place child →
          buildWithin form today room place = .ok (.ofTree? child.tree?) := by
        intro child hmem place hplace
        have hlow : child.height < room := by
          have := Draft.height_lt_heightAll child hmem
          rw [Draft.height] at hroom
          omega
        obtain ⟨room, rfl⟩ :=
          Nat.exists_eq_succ_of_ne_zero (Nat.ne_of_gt (Nat.zero_lt_of_lt hlow))
        exact ih child hmem hplace (isWritable_of_mem hw child hmem) room hlow
      -- Each child has been read now, so each is balanced, which is what
      -- dropping the void ones asks for.
      have hparts := hcarries.forall₂_children hread
      have hbalanced :
          ∀ child ∈ children, (Built.ofTree? child.tree?).IsBalanced := by
        intro child hmem
        obtain ⟨place, -, hplace⟩ := exists_mem_of_forall₂ hparts child hmem
        exact Built.isBalanced_of_buildWithin hplace
      rw [← Built.branch_map_ofTree? hbalanced]
      exact buildWithin_succ_eq_ok_iff.2 (.inr (.inr ⟨combinator, _,
        Form.resolve_of_combinator hcarries.spells.entry,
        List.forall₂_map_right_iff.2 hparts, rfl⟩))

/-- A tree that can be written, with its leaves under no more branches than a
filter may have, is read back from the form it was written to, at any address
and on any day: the tree itself, without errors and with each of its leaves
counted. So it is from any draft of it, whatever was left blank in between, as
long as no blank lies deeper than that. -/
theorem build_form_eq {tree : Node} (hw : tree.IsWritable)
    (hheight : tree.height ≤ maxDepth) (address : String) (today : Date) :
    build (tree.draft.form address) address today =
      .ok ⟨some tree, tree.criterionCount, []⟩ ∧
      ∀ draft : Draft, draft.tree? = some tree → draft.height ≤ maxDepth →
        build (draft.form address) address today =
          .ok ⟨some tree, tree.criterionCount, []⟩ := by
  have hread : ∀ draft : Draft, draft.tree? = some tree →
      draft.height ≤ maxDepth →
      build (draft.form address) address today =
        .ok ⟨some tree, tree.criterionCount, []⟩ := by
    intro draft ht hh
    have hwritable : ∀ other, draft.tree? = some other → other.IsWritable := by
      intro other ho
      rw [ht] at ho
      cases ho
      exact hw
    rw [build, buildWithin_of_carries (Form.carries_form draft address)
      (Nat.lt_succ_of_le hh)
      hwritable, ht]
    rfl
  exact ⟨hread tree.draft hw.tree?_draft (tree.height_draft ▸ hheight), hread⟩

/-- A leaf of each family, with the least number there is and a year of five
digits. -/
def sampleTree : Node :=
  .branch .nor [
    .leaf (.text .title ⟨.contains, true⟩ " Été "),
    .branch .and [
      .leaf (.number .time (.inside ⟨-9223372036854775808, 59⟩)),
      .leaf (.calendar .dateAdded (.before ⟨3789548, by decide, by decide⟩)),
      .leaf (.recent .lastQueued (-3) .week true)]]

/-- The same filter with blanks and branches of blanks before, between and
after its parts. -/
def sampleDraft : Draft :=
  .branch .nor [
    .branch .or [.blank ⟨.artist, none, none, rfl⟩, .branch .nand []],
    .leaf (.text .title ⟨.contains, true⟩ " Été "),
    .blank ⟨.album, some "resembles", some " \t ", by decide⟩,
    .branch .and [
      .leaf (.number .time (.inside ⟨-9223372036854775808, 59⟩)),
      .blank ⟨.title, some "is", some "", rfl⟩,
      .leaf (.calendar .dateAdded (.before ⟨3789548, by decide, by decide⟩)),
      .leaf (.recent .lastQueued (-3) .week true)],
    .branch .and []]

theorem isWritable_sampleTree : sampleTree.IsWritable := by
  refine .branch (List.cons_ne_nil _ _) (List.forall_mem_cons.2 ⟨.leaf ?_,
    List.forall_mem_cons.2 ⟨.branch (List.cons_ne_nil _ _) ?_,
      List.forall_mem_nil _⟩⟩)
  · show Text.trim " Été ".toList ≠ []
    decide
  · refine List.forall_mem_cons.2 ⟨.leaf trivial,
      List.forall_mem_cons.2 ⟨.leaf ?_,
      List.forall_mem_cons.2 ⟨.leaf trivial, List.forall_mem_nil _⟩⟩⟩
    show ∀ d : Date, d ∈ [_] → 0 ≤ d.year
    decide

theorem build_form_eq_sample :
    sampleTree.IsWritable ∧ sampleTree.height ≤ maxDepth ∧
      sampleDraft.tree? = some sampleTree ∧ sampleDraft.height ≤ maxDepth ∧
      build (sampleTree.draft.form "filter_0") "filter_0"
        ⟨0, by decide, by decide⟩ =
        .ok ⟨some sampleTree, 4, []⟩ ∧
      build (sampleDraft.form "filter_0") "filter_0" ⟨0, by decide, by decide⟩ =
        .ok ⟨some sampleTree, 4, []⟩ := by
  have htree : sampleDraft.tree? = some sampleTree := rfl
  have hheight : sampleTree.height ≤ maxDepth := by decide
  have hdraft : sampleDraft.height ≤ maxDepth := by decide
  obtain ⟨hplain, hdrafts⟩ :=
    build_form_eq isWritable_sampleTree hheight "filter_0"
    ⟨0, by decide, by decide⟩
  exact ⟨isWritable_sampleTree, hheight, htree, hdraft, hplain,
    hdrafts sampleDraft htree hdraft⟩

end Songbook.Filter
