import Songbook.Proofs.Spelling

/-!
# Filters as they are written down

What is put into a form need not be a tree. Criteria that were left blank may
stand between the others, and branches in which nothing was filled in, and
each takes an index, so what comes after them is addressed as if they counted.
A draft keeps them; the tree that it stands for has lost them.

A form that a draft is put into holds the texts of the draft and nothing
besides. Which text lies where is said by paths, not by addresses: no two
paths share a key, so what a form holds of a draft can be taken apart along
the draft, and what it holds of a child is again a form of that child.
-/

namespace Songbook.Filter

/-- A filter as it is written down. -/
inductive Draft
  | leaf (test : Leaf)
  | blank (criterion : BlankText)
  | branch (combinator : Combinator) (children : List Draft)

namespace Draft

/-- To show something of every draft it is enough to show it of leaves and
blanks, and of a branch when it holds of each of its children. -/
@[induction_eliminator]
theorem induction {motive : Draft → Prop} (leaf : ∀ test, motive (.leaf test))
    (blank : ∀ criterion, motive (.blank criterion))
    (branch : ∀ combinator children, (∀ child ∈ children, motive child) →
      motive (.branch combinator children)) (draft : Draft) : motive draft := by
  match draft with
  | .leaf test => exact leaf test
  | .blank criterion => exact blank criterion
  | .branch combinator children =>
      exact branch combinator children fun child _ =>
        induction leaf blank branch child

mutual

/-- The tree that a draft stands for, if anything was filled in. -/
def tree? : Draft → Option Node
  | leaf test => some (.leaf test)
  | blank _ => none
  | branch combinator children =>
    if (trees children).isEmpty then none
    else some (.branch combinator (trees children))

/-- The trees of drafts, those that have one. -/
def trees : List Draft → List Node
  | [] => []
  | draft :: drafts => draft.tree?.toList ++ trees drafts

end

mutual

/-- The most branches that lie around anything in a draft. -/
def height : Draft → Nat
  | leaf _ => 0
  | blank _ => 0
  | branch _ children => heightAll children

/-- One level more than the highest of drafts, 0 when there are none. -/
def heightAll : List Draft → Nat
  | [] => 0
  | draft :: drafts => max (draft.height + 1) (heightAll drafts)

end

mutual

/-- The pairs of key and text that put a draft at an address. -/
def entries : Draft → String → List (String × String)
  | leaf test, address => test.raw.spelling.entries address
  | blank criterion, address => criterion.spelling.entries address
  | branch combinator children, address =>
    (address, combinator.token) :: entriesFrom children address 0

/-- The pairs that put children behind an address, the first of them at an
index. -/
def entriesFrom : List Draft → String → Nat → List (String × String)
  | [], _, _ => []
  | draft :: drafts, address, index =>
    draft.entries (Address.child address index) ++
      entriesFrom drafts address (index + 1)

end

/-- The form with just the entries of a draft. -/
def form (draft : Draft) (address : String) : Form :=
  .ofList (draft.entries address)

theorem trees_eq_filterMap (drafts : List Draft) :
    trees drafts = drafts.filterMap tree? := by
  induction drafts with
  | nil => rfl
  | cons draft drafts ih =>
      rw [trees, ih]
      cases h : draft.tree? with
      | none => exact (List.filterMap_cons_none h).symm
      | some node => exact (List.filterMap_cons_some h).symm

theorem height_lt_heightAll {drafts : List Draft} :
    ∀ draft ∈ drafts, draft.height < heightAll drafts := by
  induction drafts with
  | nil => exact nofun
  | cons draft drafts ih =>
      intro d hd
      rw [heightAll]
      rcases List.mem_cons.1 hd with rfl | hd
      · omega
      · have := ih d hd
        omega

/-! ## The texts of a draft -/

/-- The texts that spell what stands at the head of a draft. -/
def spelling : Draft → Spelling
  | leaf test => test.raw.spelling
  | blank criterion => criterion.spelling
  | branch combinator _ => ⟨combinator.token, none, []⟩

/-- The child of a draft at an index. -/
def child? : Draft → Nat → Option Draft
  | leaf _, _ => none
  | blank _, _ => none
  | branch _ children, index => children[index]?

/-- The text at the end of a path for a purpose. -/
def text? (draft : Draft) : List Nat → Address.Slot → Option String
  | [], slot => draft.spelling.text? slot
  | index :: path, slot =>
      (draft.child? index).bind fun child => child.text? path slot

theorem mem_entriesFrom_iff {drafts : List Draft} {address : String}
    {index : Nat} {pair : String × String} :
    pair ∈ entriesFrom drafts address index ↔
      ∃ (i : Nat) (draft : Draft), drafts[i]? = some draft ∧
        pair ∈ draft.entries (Address.child address (index + i)) := by
  induction drafts generalizing index with
  | nil => simp [entriesFrom]
  | cons draft drafts ih =>
      rw [entriesFrom, List.mem_append, ih]
      constructor
      · rintro (h | ⟨i, d, hi, h⟩)
        · exact ⟨0, draft, rfl, h⟩
        · refine ⟨i + 1, d, hi, ?_⟩
          rw [show index + (i + 1) = index + 1 + i by omega]
          exact h
      · rintro ⟨i, d, hi, h⟩
        cases i with
        | zero =>
            cases hi
            exact .inl h
        | succ i =>
            refine .inr ⟨i, d, hi, ?_⟩
            rw [show index + 1 + i = index + (i + 1) by omega]
            exact h

theorem mem_entries_spelling_iff (draft : Draft)
    (hchild : ∀ index, draft.child? index = none) {address : String}
    {pair : String × String} :
    pair ∈ draft.spelling.entries address ↔
      ∃ path slot, pair.1 = Address.key (Address.descend address path) slot ∧
        draft.text? path slot = some pair.2 := by
  rw [Spelling.mem_entries_iff]
  constructor
  · rintro ⟨slot, hk, ht⟩
    exact ⟨[], slot, hk, ht⟩
  · rintro ⟨path, slot, hk, ht⟩
    cases path with
    | nil => exact ⟨slot, hk, ht⟩
    | cons index path =>
        rw [text?, hchild] at ht
        cases ht

theorem mem_entries_iff {draft : Draft} {address : String}
    {pair : String × String} :
    pair ∈ draft.entries address ↔
      ∃ path slot, pair.1 = Address.key (Address.descend address path) slot ∧
        draft.text? path slot = some pair.2 := by
  induction draft generalizing address with
  | leaf test => exact mem_entries_spelling_iff (leaf test) fun _ => rfl
  | blank criterion =>
      exact mem_entries_spelling_iff (blank criterion) fun _ => rfl
  | branch combinator children ih =>
      rw [entries, List.mem_cons, mem_entriesFrom_iff]
      simp only [Nat.zero_add]
      constructor
      · rintro (rfl | ⟨i, d, hi, h⟩)
        · exact ⟨[], .entry, rfl, rfl⟩
        · obtain ⟨path, slot, hk, ht⟩ := (ih d (List.mem_of_getElem? hi)).1 h
          refine ⟨i :: path, slot, hk, ?_⟩
          rw [text?, child?, hi]
          exact ht
      · rintro ⟨path, slot, hk, ht⟩
        cases path with
        | nil =>
            cases slot with
            | entry => exact .inl (Prod.ext hk (Option.some.inj ht).symm)
            | rule => cases ht
            | operand index => cases ht
        | cons i path =>
            rw [text?, child?, Option.bind_eq_some_iff] at ht
            obtain ⟨d, hi, ht⟩ := ht
            exact .inr ⟨i, d, hi,
              (ih d (List.mem_of_getElem? hi)).2 ⟨path, slot, hk, ht⟩⟩

end Draft

/-! ## Forms with a draft in them -/

namespace Form

/-- Of pairs that agree on the text of a key, that text is put into the form. -/
theorem get?_insertAll {pairs : List (String × String)} {key : String}
    {text? : Option String}
    (h : ∀ text, (key, text) ∈ pairs → text? = some text) {form : Form}
    (hform : form.get? key = text? ∨ ∃ text, (key, text) ∈ pairs) :
    (form.insertAll pairs).get? key = text? := by
  induction pairs generalizing form with
  | nil => exact hform.resolve_right nofun
  | cons pair pairs ih =>
      obtain ⟨k, t⟩ := pair
      rw [insertAll, List.foldl_cons]
      refine ih (fun text hmem => h text (List.mem_cons_of_mem _ hmem)) ?_
      rw [get?_insert]
      split
      · next hk =>
          subst hk
          exact .inl (h t List.mem_cons_self).symm
      · next hk =>
          refine hform.imp_right ?_
          rintro ⟨text, hmem⟩
          rcases List.mem_cons.1 hmem with heq | hmem
          · exact absurd (congrArg Prod.fst heq) hk
          · exact ⟨text, hmem⟩

theorem get?_ofList {pairs : List (String × String)} {key : String}
    {text? : Option String}
    (h : ∀ text, (key, text) ∈ pairs ↔ text? = some text) :
    (ofList pairs).get? key = text? := by
  refine get?_insertAll (fun text => (h text).1) ?_
  cases text? with
  | none => exact .inl (get?_empty key)
  | some text => exact .inr ⟨text, (h text).2 rfl⟩

/-- A form carries a draft at an address if it has the texts of the draft at
their places, and no other text at a place that a filter there could have. -/
def Carries (form : Form) (address : String) (draft : Draft) : Prop :=
  ∀ path slot,
    form.get? (Address.key (Address.descend address path) slot) =
      draft.text? path slot

theorem carries_form (draft : Draft) (address : String) :
    (draft.form address).Carries address draft := by
  intro path slot
  refine get?_ofList fun text => ?_
  rw [Draft.mem_entries_iff]
  constructor
  · rintro ⟨path', slot', hk, ht⟩
    obtain ⟨rfl, rfl⟩ := Address.key_descend_inj.1 hk
    exact ht
  · exact fun ht => ⟨path, slot, rfl, ht⟩

namespace Carries

variable {form : Form} {address : String} {draft : Draft}

theorem spells (h : form.Carries address draft) :
    form.Spells address draft.spelling :=
  h []

theorem child (h : form.Carries address draft) {index : Nat} {child : Draft}
    (hchild : draft.child? index = some child) :
    form.Carries (Address.child address index) child := by
  intro path slot
  have hat := h (index :: path) slot
  rw [Draft.text?, hchild] at hat
  exact hat

theorem contains_child (h : form.Carries address draft) (index : Nat) :
    form.contains (Address.child address index) =
      (draft.child? index).isSome := by
  rw [contains, show form.get? (Address.child address index) = _ from h
    [index] .entry, Draft.text?]
  cases draft.child? index <;> rfl

theorem children {combinator : Combinator} {drafts : List Draft}
    (h : form.Carries address (.branch combinator drafts)) :
    form.children address =
      (List.range drafts.length).map (Address.child address) := by
  have hiff : ∀ index, form.contains (Address.child address index) = true ↔
      index < drafts.length := fun index => by
    rw [h.contains_child, Draft.child?, isSome_getElem?]
  rw [(form.children_eq_map_range address).1, childCount_eq]
  · exact fun index => (hiff index).2
  · rw [← Bool.not_eq_true, hiff]
    exact Nat.lt_irrefl _

/-- What is so of each child where it is carried is so of the children that
are found. -/
theorem forall₂_children {combinator : Combinator} {drafts : List Draft}
    (h : form.Carries address (.branch combinator drafts))
    {R : String → Draft → Prop} (hR : ∀ child ∈ drafts, ∀ place : String,
      form.Carries place child → R place child) :
    List.Forall₂ R (form.children address) drafts := by
  rw [h.children]
  refine forall₂_map_range fun index hi =>
    hR _ (List.getElem_mem hi) _ (h.child ?_)
  exact List.getElem?_eq_getElem hi

end Carries

end Form

end Songbook.Filter
