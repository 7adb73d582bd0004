import Songbook.Catalog.Fallible
import Songbook.Proofs.Counts

/-!
# No key serves two nodes

A branch of a filter lies under one key, and a criterion under three at least:
its field, its rule and its first operand. Whether the criterion reads does
not matter to that. As no key has two readings, no two nodes share one, and
what a form holds bounds what can be read from it: there are no more branches
than keys, nor more criteria than a third of them. So a total of criteria,
also one that is still being added up, is no greater than a form is large, and
it never has to be bounded.

Reading itself comes to an address once, so it takes no more steps than there
are keys. That is said of reading that notes the addresses as it comes to
them, which otherwise does what reading does; it stops where reading stops, so
it comes to no more addresses than are there to be come by.
-/

namespace Songbook.Filter

/-! ## Branches of a tree -/

namespace Node

mutual

/-- How many branches a tree has. -/
def branchCount : Node → Nat
  | leaf _ => 0
  | branch _ children => branchCountAll children + 1

/-- How many branches trees have together. -/
def branchCountAll : List Node → Nat
  | [] => 0
  | node :: nodes => node.branchCount + branchCountAll nodes

end

end Node

namespace Built

/-- The number of branches of the tree that was read, none if there is no
tree. -/
def branchCount (built : Built) : Nat :=
  match built.node with
  | some node => node.branchCount
  | none => 0

theorem branchCountAll_filterMap_node (parts : List Built) :
    Node.branchCountAll (parts.filterMap (·.node)) =
      parts.foldr (fun part count => part.branchCount + count) 0 := by
  induction parts with
  | nil => rfl
  | cons part parts ih =>
      rw [List.foldr_cons, ← ih]
      cases h : part.node with
      | none => rw [List.filterMap_cons_none h, branchCount, h, Nat.zero_add]
      | some node =>
          rw [List.filterMap_cons_some h, branchCount, h, Node.branchCountAll]

theorem branchCount_branch_le {combinator : Combinator} {parts : List Built}
    (h : ∀ part ∈ parts, part.IsBalanced) :
    (branch combinator parts).branchCount ≤
      parts.foldr (fun part count => part.branchCount + count) 0 + 1 := by
  rw [← branchCountAll_filterMap_node, branchCount, node_branch h]
  split
  · next node heq =>
      split at heq
      · cases heq
      · cases heq
        exact Nat.le_refl _
  · exact Nat.zero_le _

end Built

/-! ## The keys that nodes take -/

namespace Address

/-- The keys that every leaf has: its own, the one of its rule and the one of
its first operand. -/
def leafKeys (address : String) : List String :=
  [address, rule address, operand address 0]

theorem leafKeys_eq_map (address : String) :
    leafKeys address = [Slot.entry, .rule, .operand 0].map (key address) :=
  rfl

theorem exists_slot_of_mem_leafKeys {address text : String}
    (h : text ∈ leafKeys address) :
    ∃ slot, key address slot = text := by
  rw [leafKeys_eq_map] at h
  obtain ⟨slot, -, heq⟩ := List.mem_map.1 h
  exact ⟨slot, heq⟩

end Address

theorem RawLeaf.exists_operand (raw : RawLeaf) :
    ∃ text, raw.spelling.text? (.operand 0) = some text := by
  cases raw with
  | text field rule operand => exact ⟨operand, rfl⟩
  | number field comparison => cases comparison <;> exact ⟨_, rfl⟩
  | calendar field comparison => cases comparison <;> exact ⟨_, rfl⟩
  | recent field count unit negated => exact ⟨count, rfl⟩

namespace Form

variable {form : Form} {address : String} {room : Nat}

/-- Whether a form holds a branch at an address. -/
def isBranchAt (form : Form) (address : String) : Bool :=
  match form.resolve address with
  | .ok (.branch _) => true
  | _ => false

/-- Whether a form holds a leaf at an address. -/
def isLeafAt (form : Form) (address : String) : Bool :=
  match form.resolve address with
  | .ok (.leaf _) => true
  | _ => false

theorem isBranchAt_iff :
    form.isBranchAt address = true ↔
      ∃ combinator : Combinator, form.get? address = some combinator.token := by
  simp only [← resolve_eq_branch_iff]
  unfold isBranchAt
  split
  · next combinator h => exact iff_of_true rfl ⟨combinator, h⟩
  · next h =>
        exact iff_of_false Bool.false_ne_true fun ⟨combinator, hc⟩ =>
          h combinator hc

theorem isLeafAt_iff :
    form.isLeafAt address = true ↔
      ∃ raw, form.resolve address = .ok (.leaf raw) := by
  unfold isLeafAt
  split
  · next raw h => exact iff_of_true rfl ⟨raw, h⟩
  · next h => exact iff_of_false Bool.false_ne_true fun ⟨raw, hr⟩ => h raw hr

/-- The addresses of branches, among those that reading comes by. -/
def branchesWithin (form : Form) (room : Nat) (address : String) :
    List String :=
  (form.addressesWithin room address).filter form.isBranchAt

/-- The addresses of leaves, among those that reading comes by. -/
def leavesWithin (form : Form) (room : Nat) (address : String) : List String :=
  (form.addressesWithin room address).filter form.isLeafAt

/-- The branches that reading a filter comes by, in order. -/
def branches (form : Form) (root : String) : List String :=
  form.branchesWithin (maxDepth + 1) root

/-- The leaves that reading a filter comes by, in order. -/
def leaves (form : Form) (root : String) : List String :=
  form.leavesWithin (maxDepth + 1) root

/-- The keys of all branches and leaves that reading comes by, for each the
keys that it has to have. -/
def takenWithin (form : Form) (room : Nat) (address : String) : List String :=
  form.branchesWithin room address ++
    (form.leavesWithin room address).flatMap Address.leafKeys

/-- What reading comes by under one address is told apart by its keys. -/
theorem key_inj_of_mem {first second : String} {slot slot' : Address.Slot}
    (hfirst : first ∈ form.addressesWithin room address)
    (hsecond : second ∈ form.addressesWithin room address)
    (h : Address.key first slot = Address.key second slot') :
    first = second ∧ slot = slot' := by
  obtain ⟨path, -, rfl⟩ := List.mem_map.1 hfirst
  obtain ⟨path', -, rfl⟩ := List.mem_map.1 hsecond
  obtain ⟨rfl, hslot⟩ := Address.key_descend_inj.1 h
  exact ⟨rfl, hslot⟩

theorem nodup_takenWithin (form : Form) (room : Nat) (address : String) :
    (form.takenWithin room address).Nodup := by
  have haddresses := form.nodup_addressesWithin room address
  have hleaves : (form.leavesWithin room address).Nodup := haddresses.filter _
  refine List.nodup_append.2 ⟨haddresses.filter _,
    List.nodup_flatMap.2 ⟨?_, ?_⟩, ?_⟩
  · -- the keys of one leaf are for different purposes
    intro leaf hleaf
    have hmem := List.mem_of_mem_filter hleaf
    rw [Address.leafKeys_eq_map]
    refine List.Nodup.map_on (fun slot _ slot' _ h => ?_) (by decide)
    exact (key_inj_of_mem hmem hmem h).2
  · -- those of two leaves lie at different addresses
    refine hleaves.imp_of_mem
      fun {leaf leaf'} hleaf hleaf' hne key hkey hkey' => hne ?_
    obtain ⟨slot, rfl⟩ := Address.exists_slot_of_mem_leafKeys hkey
    obtain ⟨slot', heq⟩ := Address.exists_slot_of_mem_leafKeys hkey'
    exact (key_inj_of_mem (List.mem_of_mem_filter hleaf)
      (List.mem_of_mem_filter hleaf')
      heq.symm).1
  · -- and no address is that of a branch and of a leaf
    intro branch hbranch key hkey heq
    obtain ⟨leaf, hleaf, hkey⟩ := List.mem_flatMap.1 hkey
    obtain ⟨slot, hslot⟩ := Address.exists_slot_of_mem_leafKeys hkey
    have heq : Address.key leaf slot = Address.key branch .entry :=
      hslot.trans heq.symm
    obtain ⟨hmem, hisLeaf⟩ := List.mem_filter.1 hleaf
    obtain ⟨hmem', hisBranch⟩ := List.mem_filter.1 hbranch
    obtain ⟨rfl, -⟩ := key_inj_of_mem hmem hmem' heq
    obtain ⟨raw, hraw⟩ := isLeafAt_iff.1 hisLeaf
    obtain ⟨combinator, hcombinator⟩ := isBranchAt_iff.1 hisBranch
    rw [resolve_eq_branch_iff.2 hcombinator] at hraw
    cases hraw

theorem contains_of_mem_leafKeys {raw : RawLeaf} {key : String}
    (h : form.resolve address = .ok (.leaf raw))
    (hkey : key ∈ Address.leafKeys address) :
    form.contains key = true := by
  have hpresent : ∀ slot text, raw.spelling.text? slot = some text →
      form.contains (Address.key address slot) = true := by
    intro slot text htext
    rw [contains, (texts_of_resolve h).2 slot text htext]
    rfl
  obtain ⟨word, hword⟩ := raw.exists_rule
  obtain ⟨text, htext⟩ := raw.exists_operand
  rcases List.mem_cons.1 hkey with rfl | hkey
  · exact hpresent .entry _ rfl
  · rcases List.mem_pair.1 hkey with rfl | rfl
    · exact hpresent .rule word hword
    · exact hpresent (.operand 0) text htext

theorem contains_of_mem_takenWithin {key : String}
    (h : key ∈ form.takenWithin room address) :
    form.contains key = true := by
  rcases List.mem_append.1 h with hbranch | hleaf
  · obtain ⟨combinator, hcombinator⟩ :=
      isBranchAt_iff.1 (List.mem_filter.1 hbranch).2
    rw [contains, hcombinator]
    rfl
  · obtain ⟨leaf, hleaf, hkey⟩ := List.mem_flatMap.1 hleaf
    obtain ⟨raw, hraw⟩ := isLeafAt_iff.1 (List.mem_filter.1 hleaf).2
    exact contains_of_mem_leafKeys hraw hkey

theorem length_takenWithin (form : Form) (room : Nat) (address : String) :
    (form.takenWithin room address).length =
      (form.branchesWithin room address).length +
        3 * (form.leavesWithin room address).length := by
  rw [takenWithin, List.length_append]
  congr 1
  induction form.leavesWithin room address with
  | nil => rfl
  | cons leaf leaves ih =>
      rw [List.flatMap_cons, List.length_append, ih]
      show 3 + 3 * leaves.length = 3 * (leaves.length + 1)
      omega

/-- Branches and leaves have room in the form, each leaf for three. -/
theorem branches_leaves_le_size (form : Form) (room : Nat) (address : String) :
    (form.branchesWithin room address).length +
      3 * (form.leavesWithin room address).length ≤
      form.size := by
  rw [← length_takenWithin]
  exact length_le_size (form.nodup_takenWithin room address) fun _ =>
    contains_of_mem_takenWithin

/-! ## What is counted has a key -/

theorem branchesWithin_of_branch {combinator : Combinator}
    (h : form.resolve address = .ok (.branch combinator)) :
    form.branchesWithin (room + 1) address =
      address :: (form.children address).flatMap
        (form.branchesWithin room) := by
  have hself : form.isBranchAt address = true := by rw [isBranchAt, h]
  rw [branchesWithin, filter_addressesWithin_of_branch h, if_pos hself]
  rfl

theorem leavesWithin_of_branch {combinator : Combinator}
    (h : form.resolve address = .ok (.branch combinator)) :
    form.leavesWithin (room + 1) address =
      (form.children address).flatMap (form.leavesWithin room) := by
  have hself : ¬form.isLeafAt address = true := by
    rw [isLeafAt, h]; exact Bool.false_ne_true
  rw [leavesWithin, filter_addressesWithin_of_branch h, if_neg hself]
  rfl

end Form

namespace Built

variable {form : Form} {today : Date} {room : Nat} {address : String}
  {built : Built}

/-- How much of what was read under an address has a key there: each criterion
that is counted, and at least one branch for each branch of the tree. -/
structure IsHeldBy (built : Built) (form : Form) (room : Nat)
    (address : String) : Prop where
  count_eq : built.count = (form.leavesWithin room address).length
  branchCount_le : built.branchCount ≤ (form.branchesWithin room address).length

theorem count_branch_of_isHeldBy {children : List String} {parts : List Built}
    {combinator : Combinator}
    (h : List.Forall₂ (fun child part =>
      part.IsHeldBy form room child) children parts) :
    (branch combinator parts).count =
      (children.flatMap (form.leavesWithin room)).length := by
  rw [count_branch]
  induction h with
  | nil => rfl
  | cons hpart _ ih =>
      rw [List.foldr_cons, List.flatMap_cons, List.length_append, ih,
        hpart.count_eq]

theorem branchCounts_le_of_isHeldBy {children : List String}
    {parts : List Built}
    (h : List.Forall₂ (fun child part =>
      part.IsHeldBy form room child) children parts) :
    parts.foldr (fun part count => part.branchCount + count) 0 ≤
      (children.flatMap (form.branchesWithin room)).length := by
  induction h with
  | nil => exact Nat.le_refl 0
  | cons hpart _ ih =>
      rw [List.foldr_cons, List.flatMap_cons, List.length_append]
      exact Nat.add_le_add hpart.branchCount_le ih

theorem isHeldBy_of_buildWithin
    (h : buildWithin form today room address = .ok built) :
    built.IsHeldBy form room address := by
  refine buildWithin_induction
    (motive := fun room address built =>
      built.IsHeldBy form room address) ?_ ?_ ?_ h
  · rintro room address (hr | hr)
    · refine ⟨?_, Nat.zero_le _⟩
      rw [Form.leavesWithin, Form.addressesWithin_of_absent hr]
      rfl
    · have hself : form.isLeafAt address = false := by rw [Form.isLeafAt, hr]
      refine ⟨?_, Nat.zero_le _⟩
      rw [Form.leavesWithin, Form.addressesWithin_of_blank hr,
        List.filter_singleton, hself]
      rfl
  · intro room address raw built hr hb
    have hself : form.isLeafAt address = true := by rw [Form.isLeafAt, hr]
    have hleaves : form.leavesWithin (room + 1) address = [address] := by
      rw [Form.leavesWithin, Form.addressesWithin_of_leaf hr,
        List.filter_singleton, hself]
      rfl
    rcases buildLeaf_eq_ok hb with ⟨test, rfl⟩ | ⟨errors, rfl, -, -⟩
    · exact ⟨by rw [hleaves]; rfl, Nat.zero_le _⟩
    · exact ⟨by rw [hleaves]; rfl, Nat.zero_le _⟩
  · intro room address combinator parts hr hparts
    have hbalanced :=
      isBalanced_of_forall₂ (hparts.imp fun _ _ hpart => hpart.1)
    have hheld := hparts.imp fun _ _ hpart => hpart.2
    refine ⟨?_, ?_⟩
    · rw [Form.leavesWithin_of_branch hr, count_branch_of_isHeldBy hheld]
    · rw [Form.branchesWithin_of_branch hr, List.length_cons]
      exact Nat.le_trans (branchCount_branch_le hbalanced)
        (Nat.succ_le_succ (branchCounts_le_of_isHeldBy hheld))

/-- A total of criteria that is still being added up has its keys as well. -/
theorem count_le_of_children {combinator : Combinator} {done rest : List String}
    {parts : List Built} (hr : form.resolve address = .ok (.branch combinator))
    (hchildren : form.children address = done ++ rest)
    (hparts : List.Forall₂
      (fun child part => buildWithin form today room child = .ok part) done
      parts) : 3 * (branch combinator parts).count ≤ form.size := by
  have hheld := hparts.imp fun _ _ hpart => isHeldBy_of_buildWithin hpart
  have hleaves : form.leavesWithin (room + 1) address =
      (form.children address).flatMap (form.leavesWithin room) :=
        Form.leavesWithin_of_branch hr
  rw [hchildren, List.flatMap_append] at hleaves
  have hsize := form.branches_leaves_le_size (room + 1) address
  rw [hleaves, List.length_append] at hsize
  rw [count_branch_of_isHeldBy hheld]
  omega

end Built

/-! ## Where reading comes to -/

/-- Whether an act answers with `result`, whatever has been noted before, and
notes some of `most`, in their order. -/
def Notes {ε α β : Type} (act : Fallible ε (List β) α) (result : Except ε α)
    (most : List β) : Prop :=
  ∀ notes, ∃ added, act.on notes = (result, notes ++ added) ∧ added.Sublist most

section Notes

variable {ε α β γ : Type} {act : Fallible ε (List β) α}
  {next : α → Fallible ε (List β) γ} {answer : Except ε α} {result : Except ε γ}
  {after : α → Except ε γ} {first second : List β}

theorem notes_liftM (result : Except ε α) :
    Notes (liftM result : Fallible ε (List β) α) result [] :=
  fun notes => ⟨[], by rw [Fallible.on_liftM, List.append_nil], .refl _⟩

theorem notes_pure (a : α) :
    Notes (pure a : Fallible ε (List β) α) (pure a) [] :=
  notes_liftM (.ok a)

theorem notes_modify (b : β) :
    Notes (modify (· ++ [b]) : Fallible ε (List β) PUnit) (.ok ⟨⟩) [b] :=
  fun _ => ⟨[b], rfl, .refl _⟩

/-- What would come after an error notes nothing. -/
theorem Notes.bind (hact : Notes act answer first)
    (hnext : ∀ a, answer = .ok a → Notes (next a) (after a) second) :
    Notes (act >>= next) (answer >>= after) (first ++ second) := by
  intro notes
  obtain ⟨added, hon, hadded⟩ := hact notes
  cases answer with
  | error e =>
      exact ⟨added, Fallible.on_bind_of_error hon,
        hadded.trans (List.sublist_append_left first second)⟩
  | ok a =>
      obtain ⟨more, hon', hmore⟩ := hnext a rfl (notes ++ added)
      refine ⟨added ++ more, ?_, hadded.append hmore⟩
      rw [Fallible.on_bind_of_ok hon, hon', List.append_assoc]
      rfl

theorem Notes.after_modify {b : β} (hact : Notes act answer second) :
    Notes (modify (· ++ [b]) >>= fun _ => act) answer (b :: second) := by
  show Notes _ ((Except.ok ⟨⟩ : Except ε PUnit) >>= fun _ => answer)
      ([b] ++ second)
  exact (notes_modify b).bind fun _ _ => hact

theorem notes_mapM {f : α → Fallible ε (List β) γ} {g : α → Except ε γ}
    {most : α → List β} {l : List α} (h : ∀ a ∈ l, Notes (f a) (g a) (most a)) :
    Notes (l.mapM f) (l.mapM g) (l.flatMap most) := by
  induction l with
  | nil => exact notes_pure []
  | cons a l ih =>
      have htail := ih fun b hb => h b (List.mem_cons_of_mem a hb)
      rw [List.mapM_cons, List.mapM_cons, List.flatMap_cons,
        ← List.append_nil (l.flatMap most)]
      exact (h a List.mem_cons_self).bind fun c _ => htail.bind fun cs _ =>
        notes_pure (c :: cs)

end Notes

/-- Reads the filter at an address as `buildWithin` does and notes each
address that it comes to. -/
def noteWithin (form : Form) (today : Date) :
    Nat → String → Fallible SchemaFault (List String) Built
  | 0, address => do
    modify (· ++ [address])
    throw (.tooDeep address)
  | room + 1, address => do
    modify (· ++ [address])
    match ← form.resolve address with
    | .absent => pure .void
    | .blank => pure .void
    | .leaf raw => buildLeaf today address raw
    | .branch combinator =>
      let children ← (form.children address).mapM (noteWithin form today room)
      pure (.branch combinator children)

variable {form : Form} {today : Date} {room : Nat} {address : String}

theorem Form.contains_of_mem_children {child : String}
    (h : child ∈ form.children address) :
    form.contains child = true := by
  obtain ⟨heq, hin, -⟩ := form.children_eq_map_range address
  rw [heq] at h
  obtain ⟨index, hindex, rfl⟩ := List.mem_map.1 h
  exact hin index (List.mem_range.1 hindex)

theorem Form.exists_addressesWithin_eq_cons (h : form.contains address = true)
    (room : Nat) :
    ∃ rest, form.addressesWithin room address = address :: rest := by
  cases room with
  | zero =>
      rw [addressesWithin, pathsWithin, if_pos h]
      exact ⟨[], rfl⟩
  | succ room =>
      rw [addressesWithin, pathsWithin]
      split
      · next hr =>
          rw [resolve_eq_absent_iff.1 hr] at h
          cases h
      · exact ⟨_, rfl⟩
      · exact ⟨[], rfl⟩

/-- Reading that notes where it comes to reads the same, and comes by no other
addresses. -/
theorem notes_noteWithin (hpresent : form.contains address = true) :
    Notes (noteWithin form today room address)
      (buildWithin form today room address)
      (form.addressesWithin room address) := by
  induction room generalizing address with
  | zero =>
      obtain ⟨rest, hrest⟩ := Form.exists_addressesWithin_eq_cons hpresent 0
      have hnil : rest = [] := by
        rw [Form.addressesWithin, Form.pathsWithin, if_pos hpresent] at hrest
        exact (List.cons.inj hrest).2.symm
      rw [hrest, hnil, noteWithin, buildWithin]
      exact Notes.after_modify
        (notes_liftM (.error (SchemaFault.tooDeep address)))
  | succ room ih =>
      obtain ⟨rest, hrest⟩ :=
        Form.exists_addressesWithin_eq_cons hpresent (room + 1)
      rw [hrest, noteWithin, buildWithin, ← List.nil_append rest]
      refine Notes.after_modify
        ((notes_liftM (form.resolve address)).bind fun entry hr => ?_)
      cases entry with
      | absent =>
          rw [Form.resolve_eq_absent_iff.1 hr] at hpresent
          cases hpresent
      | blank =>
          rw [Form.addressesWithin_of_blank hr] at hrest
          cases hrest
          exact notes_pure Built.void
      | leaf raw =>
          rw [Form.addressesWithin_of_leaf hr] at hrest
          cases hrest
          exact notes_liftM (buildLeaf today address raw)
      | branch combinator =>
          rw [Form.addressesWithin_of_branch hr] at hrest
          cases hrest
          rw [← List.append_nil (List.flatMap _ _)]
          refine Notes.bind (notes_mapM fun child hchild => ?_)
              fun children _ =>
            notes_pure (Built.branch combinator children)
          exact ih (Form.contains_of_mem_children hchild)

/-! ## The size of a form bounds what is read from it -/

theorem Form.mem_branches_iff {root : String} :
    address ∈ form.branches root ↔ ∃ path combinator, form.Reaches root path ∧
      address = Address.descend root path ∧
      form.get? address = some (Combinator.token combinator) := by
  rw [branches, branchesWithin, List.mem_filter, addressesWithin, List.mem_map,
    isBranchAt_iff]
  constructor
  · rintro ⟨⟨path, hpath, rfl⟩, combinator, hcombinator⟩
    exact ⟨path, combinator, mem_paths_iff.1 hpath, rfl, hcombinator⟩
  · rintro ⟨path, combinator, hpath, rfl, hcombinator⟩
    exact ⟨⟨path, mem_paths_iff.2 hpath, rfl⟩, combinator, hcombinator⟩

theorem Form.mem_leaves_iff {root : String} :
    address ∈ form.leaves root ↔ ∃ path raw, form.Reaches root path ∧
      address = Address.descend root path ∧
        form.resolve address = .ok (.leaf raw) := by
  rw [leaves, leavesWithin, List.mem_filter, addressesWithin, List.mem_map,
    isLeafAt_iff]
  constructor
  · rintro ⟨⟨path, hpath, rfl⟩, raw, hraw⟩
    exact ⟨path, raw, mem_paths_iff.1 hpath, rfl, hraw⟩
  · rintro ⟨path, raw, hpath, rfl, hraw⟩
    exact ⟨⟨path, mem_paths_iff.2 hpath, rfl⟩, raw, hraw⟩

/-- Reading comes to each address once, and but for the one it begins with to
none that is not there, whether it ends with a fault or not. -/
theorem exists_noted (form : Form) (today : Date) (root : String) :
    ∃ noted, (noteWithin form today (maxDepth + 1) root).on [] =
      (build form root today, noted) ∧
      noted.Nodup ∧
      (∀ address ∈ noted, address = root ∨ form.contains address = true) ∧
      noted.length ≤ max form.size 1 := by
  cases hroot : form.contains root with
  | true =>
      have hnotes : Notes (noteWithin form today (maxDepth + 1) root)
          (build form root today)
          (form.addressesWithin (maxDepth + 1) root) := notes_noteWithin hroot
      obtain ⟨noted, hon, hnoted⟩ := hnotes []
      have hnodup := hnoted.nodup (form.nodup_addressesWithin _ root)
      have hpresent : ∀ address ∈ noted, form.contains address = true := by
        intro address haddress
        obtain ⟨path, hpath, rfl⟩ := List.mem_map.1 (hnoted.mem haddress)
        exact Form.contains_of_mem_pathsWithin hpath
      refine ⟨noted, hon, hnodup,
        fun address h => .inr (hpresent address h), ?_⟩
      exact Nat.le_trans (Form.length_le_size hnodup hpresent)
        (Nat.le_max_left _ _)
  | false =>
      have habsent := Form.resolve_eq_absent_iff.2 hroot
      refine ⟨[root], ?_, List.nodup_singleton root, ?_, Nat.le_max_right _ _⟩
      · rw [build, noteWithin, buildWithin, habsent]
        rfl
      · intro address haddress
        exact .inl (List.mem_singleton.1 haddress)

/-- Whatever the form and the address where its filter begins, no key can be
read as one of two paths or for two purposes. So the keys of the branches that
reading comes by, and the three keys that each leaf has, are all different,
and all of them are there. A tree that is read has no more branches than
reading came by and counts just the leaves, so its branches and three times
its count are no more than the form has keys. The same is true while a count
is still being added up, after any of the children of a branch; and reading,
also if it ends with a fault, comes to no more addresses than there are keys.
-/
theorem build_within_size (form : Form) (root : String) (today : Date) :
    (∀ path path' slot slot', Address.key (Address.descend root path) slot =
      Address.key (Address.descend root path') slot' →
        path = path' ∧ slot = slot') ∧
    ((form.branches root ++ (form.leaves root).flatMap Address.leafKeys).Nodup ∧
      (∀ key ∈ form.branches root ++
        (form.leaves root).flatMap Address.leafKeys,
        form.contains key = true) ∧
      (∀ address, address ∈ form.branches root ↔
        ∃ path combinator, form.Reaches root path ∧
          address = Address.descend root path ∧
          form.get? address = some (Combinator.token combinator)) ∧
      ∀ address, address ∈ form.leaves root ↔
        ∃ path raw, form.Reaches root path ∧
          address = Address.descend root path ∧
          form.resolve address = .ok (.leaf raw)) ∧
    (∀ built, build form root today = .ok built →
      built.branchCount ≤ (form.branches root).length ∧
        built.count = (form.leaves root).length ∧
        built.branchCount + 3 * built.count ≤ form.size) ∧
    (∀ room address combinator done rest parts,
      form.get? address = some (Combinator.token combinator) →
      form.children address = done ++ rest →
      List.Forall₂ (fun child part =>
        buildWithin form today room child = .ok part) done parts →
      3 * (Built.branch combinator parts).count ≤ form.size) ∧
    ∃ noted, (noteWithin form today (maxDepth + 1) root).on [] =
      (build form root today, noted) ∧
      noted.Nodup ∧
      (∀ address ∈ noted, address = root ∨ form.contains address = true) ∧
      noted.length ≤ max form.size 1 := by
  refine ⟨fun _ _ _ _ => Address.key_descend_inj.1,
    ⟨form.nodup_takenWithin _ root, fun _ => Form.contains_of_mem_takenWithin,
      fun _ => Form.mem_branches_iff, fun _ => Form.mem_leaves_iff⟩,
    fun built h => ?_,
    fun room address combinator done rest parts hcombinator hchildren hparts =>
      Built.count_le_of_children
        (Form.resolve_eq_branch_iff.2 hcombinator) hchildren hparts,
    exists_noted form today root⟩
  have hheld : built.IsHeldBy form (maxDepth + 1) root :=
    Built.isHeldBy_of_buildWithin h
  have hsize : (form.branches root).length +
      3 * (form.leaves root).length ≤ form.size :=
    form.branches_leaves_le_size (maxDepth + 1) root
  have hcount : built.count = (form.leaves root).length := hheld.count_eq
  have hbranches : built.branchCount ≤ (form.branches root).length :=
    hheld.branchCount_le
  exact ⟨hbranches, hcount, by omega⟩

/-- The branch without children and the one whose leaves do not read are not
in the tree. They have their keys nevertheless, and the unreadable leaves are
counted. -/
theorem build_within_size_slips :
    ∃ built, build slips "k" ⟨0, by decide, by decide⟩ = .ok built ∧
      built.branchCount = 1 ∧ built.count = 4 ∧ slips.size = 25 ∧
      slips.branches "k" = ["k", "k_3", "k_10"] ∧
      slips.leaves "k" = ["k_2", "k_9", "k_10_0", "k_10_1"] ∧
      built.branchCount + 3 * built.count ≤ slips.size ∧
      ∃ noted,
        (noteWithin slips ⟨0, by decide, by decide⟩ (maxDepth + 1) "k").on [] =
        (.ok built, noted) ∧ noted.length ≤ 25 := by
  obtain ⟨-, -, hbuilt, -, noted, hnoted, -, -, hlength⟩ :=
    build_within_size slips "k" ⟨0, by decide, by decide⟩
  rw [build_slips] at hnoted
  have hsize := (hbuilt _ build_slips).2.2
  exact ⟨_, build_slips, rfl, rfl, rfl, rfl, rfl, hsize, noted, hnoted, hlength⟩

end Songbook.Filter
