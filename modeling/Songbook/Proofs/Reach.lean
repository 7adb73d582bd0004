import Mathlib.Data.List.Induction
import Songbook.Filter.Build
import Songbook.Proofs.Addresses
import Songbook.Proofs.Entries

/-!
# The addresses that reading comes by

Reading a filter starts at one address and goes on from each address that
holds a combinator to its children, so where it gets to depends on the form
alone and is said without the recursion: by the paths of indices that lead
there. An address is reached one step at a time, and it takes no more than one
step beyond the depth at which branches may still lie.

The paths can be listed as well, and that is what proofs about reading use.
The list follows the recursion; `mem_paths_iff` says that it has every path
that is reached and no other, and `pairwise_paths` that it has them in the
order in which reading comes by them, a branch before its children and a
child, with all that lies below it, before the next.
-/

namespace Songbook.Filter

/-- The order in which reading comes by paths. -/
def Precedes : List Nat → List Nat → Prop
  | _, [] => False
  | [], _ :: _ => True
  | i :: path, j :: path' => i < j ∨ (i = j ∧ Precedes path path')

theorem not_precedes_self (path : List Nat) : ¬Precedes path path := by
  induction path with
  | nil => exact id
  | cons i path ih =>
      rintro (h | ⟨-, h⟩)
      · exact Nat.lt_irrefl i h
      · exact ih h

theorem Precedes.asymm {path path' : List Nat} (h : Precedes path path') :
    ¬Precedes path' path := by
  induction path generalizing path' with
  | nil => cases path' <;> exact id
  | cons i path ih =>
      cases path' with
      | nil => exact h.elim
      | cons j path' =>
          rintro (h' | ⟨hij, h'⟩)
          · rcases h with h | ⟨hij, -⟩ <;> omega
          · rcases h with h | ⟨-, h⟩
            · omega
            · exact ih h h'

namespace Form

variable {form : Form} {root address : String}

/-- The paths along which reading goes from an address that is there. A child
of a branch is reached when it and all before it are there. -/
inductive Reaches (form : Form) (root : String) : List Nat → Prop
  | root (present : form.contains root = true) : Reaches form root []
  | child {path : List Nat} {index : Nat} {combinator : Combinator}
      (reached : Reaches form root path) (depth : path.length ≤ maxDepth)
      (holds : form.get? (Address.descend root path) = some combinator.token)
      (present : ∀ i ≤ index,
        form.contains (Address.child (Address.descend root path) i) = true) :
      Reaches form root (path ++ [index])

/-! ## Listing the paths -/

/-- The paths of at most `room` indices along which reading goes, as it comes
by them. -/
def pathsWithin (form : Form) : Nat → String → List (List Nat)
  | 0, address => if form.contains address then [[]] else []
  | room + 1, address =>
    match form.resolve address with
    | .ok .absent => []
    | .ok (.branch _) =>
      [] :: (List.range (form.childCount address)).flatMap fun index =>
        (form.pathsWithin room (Address.child address index)).map (index :: ·)
    | _ => [[]]

/-- The paths along which reading goes from an address. -/
def paths (form : Form) (root : String) : List (List Nat) :=
  form.pathsWithin (maxDepth + 1) root

theorem nil_mem_pathsWithin_iff {room : Nat} :
    [] ∈ form.pathsWithin room address ↔ form.contains address = true := by
  cases room with
  | zero =>
      rw [pathsWithin]
      split
      · next h => simp [h]
      · next h => simp [h]
  | succ room =>
      rw [pathsWithin]
      split
      · next h => simp [resolve_eq_absent_iff.1 h]
      · next h =>
          refine iff_of_true List.mem_cons_self ?_
          rw [contains, resolve_eq_branch_iff.1 h]
          rfl
      · next h _ =>
          refine iff_of_true List.mem_cons_self ?_
          rw [← Bool.not_eq_false, ← resolve_eq_absent_iff]
          exact h

theorem cons_mem_pathsWithin_iff {room index : Nat} {path : List Nat} :
    index :: path ∈ form.pathsWithin (room + 1) address ↔
      (∃ combinator : Combinator, form.get? address = some combinator.token) ∧
      (∀ i ≤ index, form.contains (Address.child address i) = true) ∧
      path ∈ form.pathsWithin room (Address.child address index) := by
  rw [pathsWithin]
  split
  · next h =>
      refine iff_of_false List.not_mem_nil ?_
      rintro ⟨⟨combinator, hc⟩, -⟩
      rw [resolve_eq_branch_iff.2 hc] at h
      cases h
  · next combinator h =>
      have hb : ∃ combinator : Combinator,
          form.get? address = some combinator.token :=
        ⟨combinator, resolve_eq_branch_iff.1 h⟩
      simp only [hb, true_and, List.mem_cons, reduceCtorEq, false_or,
        List.mem_flatMap, List.mem_range, List.mem_map, List.cons.injEq]
      constructor
      · rintro ⟨i, hi, path', hp, rfl, rfl⟩
        exact ⟨lt_childCount_iff.1 hi, hp⟩
      · rintro ⟨hi, hp⟩
        exact ⟨index, lt_childCount_iff.2 hi, path, hp, rfl, rfl⟩
  · next _ h =>
      refine iff_of_false (by simp) ?_
      rintro ⟨⟨combinator, hc⟩, -⟩
      exact h combinator (resolve_eq_branch_iff.2 hc)

theorem contains_of_mem_pathsWithin {room : Nat} {path : List Nat}
    (h : path ∈ form.pathsWithin room address) :
    form.contains (Address.descend address path) = true := by
  induction path generalizing room address with
  | nil => exact nil_mem_pathsWithin_iff.1 h
  | cons index path ih =>
      cases room with
      | zero =>
          rw [pathsWithin] at h
          split at h <;> simp at h
      | succ room => exact ih (cons_mem_pathsWithin_iff.1 h).2.2

/-- A listed path goes on to every child of the branch that it leads to, while
there is room. -/
theorem append_mem_pathsWithin_iff {room index : Nat} {path : List Nat} :
    path ++ [index] ∈ form.pathsWithin room address ↔
      path ∈ form.pathsWithin room address ∧ path.length < room ∧
      (∃ combinator : Combinator,
        form.get? (Address.descend address path) = some combinator.token) ∧
      ∀ i ≤ index, form.contains
        (Address.child (Address.descend address path) i) = true := by
  induction path generalizing room address with
  | nil =>
      cases room with
      | zero =>
          rw [List.nil_append, pathsWithin]
          refine iff_of_false ?_ fun h => absurd h.2.1 (Nat.lt_irrefl 0)
          split <;> simp
      | succ room =>
          rw [List.nil_append, cons_mem_pathsWithin_iff,
            nil_mem_pathsWithin_iff, nil_mem_pathsWithin_iff,
            Address.descend_nil]
          constructor
          · rintro ⟨⟨combinator, hc⟩, hi, -⟩
            exact ⟨by rw [contains, hc]; rfl, Nat.succ_pos _,
              ⟨combinator, hc⟩, hi⟩
          · rintro ⟨-, -, hc, hi⟩
            exact ⟨hc, hi, hi index (Nat.le_refl _)⟩
  | cons first path ih =>
      cases room with
      | zero =>
          refine iff_of_false ?_ fun h => absurd h.2.1 (Nat.not_lt_zero _)
          rw [pathsWithin]
          split <;> simp
      | succ room =>
          rw [List.cons_append, cons_mem_pathsWithin_iff,
            cons_mem_pathsWithin_iff, ih, Address.descend_cons,
            List.length_cons, Nat.succ_lt_succ_iff]
          constructor
          · rintro ⟨hc, hi, hp, hlt, hb, hn⟩
            exact ⟨⟨hc, hi, hp⟩, hlt, hb, hn⟩
          · rintro ⟨⟨hc, hi, hp⟩, hlt, hb, hn⟩
            exact ⟨hc, hi, hp, hlt, hb, hn⟩

theorem mem_paths_iff {path : List Nat} :
    path ∈ form.paths root ↔ form.Reaches root path := by
  constructor
  · intro h
    induction path using List.reverseRecOn with
    | nil => exact .root (nil_mem_pathsWithin_iff.1 h)
    | append_singleton path index ih =>
        obtain ⟨hp, hlt, ⟨combinator, hc⟩, hi⟩ := append_mem_pathsWithin_iff.1 h
        exact .child (ih hp) (Nat.le_of_lt_succ hlt) hc hi
  · intro h
    induction h with
    | root present => exact nil_mem_pathsWithin_iff.2 present
    | child reached depth holds present ih =>
        exact append_mem_pathsWithin_iff.2 ⟨ih, Nat.lt_succ_of_le depth,
          ⟨_, holds⟩, present⟩

/-- The list is in the order in which reading comes by the paths. -/
theorem pairwise_pathsWithin (room : Nat) (address : String) :
    (form.pathsWithin room address).Pairwise Precedes := by
  induction room generalizing address with
  | zero => rw [pathsWithin]; split <;> simp
  | succ room ih =>
      rw [pathsWithin]
      split
      · exact List.Pairwise.nil
      · refine List.pairwise_cons.2 ⟨?_, List.pairwise_flatMap.2 ⟨?_, ?_⟩⟩
        · intro path hp
          obtain ⟨index, -, hp⟩ := List.mem_flatMap.1 hp
          obtain ⟨rest, -, rfl⟩ := List.mem_map.1 hp
          exact trivial
        · intro index _
          exact (ih _).map _ fun _ _ h => .inr ⟨rfl, h⟩
        · refine List.pairwise_lt_range.imp fun hlt path hp path' hp' => ?_
          obtain ⟨rest, -, rfl⟩ := List.mem_map.1 hp
          obtain ⟨rest', -, rfl⟩ := List.mem_map.1 hp'
          exact .inl hlt
      · exact List.pairwise_singleton _ _

theorem pairwise_paths (form : Form) (root : String) :
    (form.paths root).Pairwise Precedes :=
  pairwise_pathsWithin _ _

/-- What is found first along the paths is found at a path that is reached,
and at none before. -/
theorem findSome?_paths_eq_some_iff {α : Type} {f : List Nat → Option α}
    {a : α} :
    (form.paths root).findSome? f = some a ↔
      ∃ path, form.Reaches root path ∧ f path = some a ∧
        ∀ earlier, form.Reaches root earlier → Precedes earlier path →
          f earlier = none := by
  simp only [← mem_paths_iff]
  have hsorted := form.pairwise_paths root
  rw [List.findSome?_eq_some_iff]
  constructor
  · rintro ⟨before, path, after, heq, hf, hbefore⟩
    refine ⟨path, heq ▸ List.mem_append_right _ List.mem_cons_self, hf,
      fun earlier he hlt => ?_⟩
    rw [heq] at he hsorted
    obtain ⟨-, hcons, -⟩ := List.pairwise_append.1 hsorted
    rcases List.mem_append.1 he with he | he
    · exact hbefore earlier he
    · rcases List.mem_cons.1 he with rfl | he
      · exact absurd hlt (not_precedes_self _)
      · exact absurd hlt ((List.pairwise_cons.1 hcons).1 earlier he).asymm
  · rintro ⟨path, hp, hf, hfirst⟩
    obtain ⟨before, after, heq⟩ := List.append_of_mem hp
    refine ⟨before, path, after, heq, hf, fun earlier he => ?_⟩
    rw [heq] at hsorted
    refine hfirst earlier (heq ▸ List.mem_append_left _ he) ?_
    exact
      (List.pairwise_append.1 hsorted).2.2 earlier he path List.mem_cons_self

/-! ## Listing the addresses -/

/-- The addresses at the ends of the paths, as reading comes by them. -/
def addressesWithin (form : Form) (room : Nat) (address : String) :
    List String :=
  (form.pathsWithin room address).map (Address.descend address)

theorem addressesWithin_of_branch {room : Nat} {combinator : Combinator}
    (h : form.resolve address = .ok (.branch combinator)) :
    form.addressesWithin (room + 1) address =
      address :: (form.children address).flatMap
        (form.addressesWithin room) := by
  rw [addressesWithin, pathsWithin, h]
  simp only [List.map_cons, Address.descend_nil, List.map_flatMap, List.map_map]
  rw [(form.children_eq_map_range address).1, List.flatMap_map]
  rfl

/-- What is looked for among the addresses is at the branch itself or under
one of its children. -/
theorem filter_addressesWithin_of_branch {room : Nat} {combinator : Combinator}
    (h : form.resolve address = .ok (.branch combinator)) (p : String → Bool) :
    (form.addressesWithin (room + 1) address).filter p =
      (if p address then [address] else []) ++
        (form.children address).flatMap fun child =>
          (form.addressesWithin room child).filter p := by
  rw [addressesWithin_of_branch h, List.filter_cons, List.filter_flatMap]
  split <;> rfl

theorem addressesWithin_of_absent {room : Nat}
    (h : form.resolve address = .ok .absent) :
    form.addressesWithin (room + 1) address = [] := by
  rw [addressesWithin, pathsWithin, h]
  rfl

theorem addressesWithin_of_blank {room : Nat}
    (h : form.resolve address = .ok .blank) :
    form.addressesWithin (room + 1) address = [address] := by
  rw [addressesWithin, pathsWithin, h]
  rfl

theorem addressesWithin_of_leaf {room : Nat} {raw : RawLeaf}
    (h : form.resolve address = .ok (.leaf raw)) :
    form.addressesWithin (room + 1) address = [address] := by
  rw [addressesWithin, pathsWithin, h]
  rfl

theorem nodup_pathsWithin (form : Form) (room : Nat) (address : String) :
    (form.pathsWithin room address).Nodup := by
  refine (form.pairwise_pathsWithin room address).imp ?_
  rintro path _ h rfl
  exact not_precedes_self path h

theorem nodup_paths (form : Form) (root : String) : (form.paths root).Nodup :=
  form.nodup_pathsWithin _ _

/-- Different paths lead to different addresses, so no address is come by
twice either. -/
theorem nodup_addressesWithin (form : Form) (room : Nat) (address : String) :
    (form.addressesWithin room address).Nodup := by
  refine (form.nodup_pathsWithin room address).map fun path path' heq => ?_
  have hkey : Address.key (Address.descend address path) .entry =
      Address.key (Address.descend address path') .entry := heq
  exact (Address.key_descend_inj.1 hkey).1

end Form

end Songbook.Filter
