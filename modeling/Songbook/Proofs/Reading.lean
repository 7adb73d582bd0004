import Mathlib.Data.List.Forall2
import Songbook.Filter.Build

/-!
# What reading a tree can do

One level of reading does one of four things: it finds nothing that was asked
for, it reads a leaf, it reads the children of a branch and joins what they
gave, or it ends with a fault. Everything that is proved of a tree that was
read goes through `buildWithin_induction`, and everything about faults through
`errorOf?_buildWithin`, so that no proof after this file opens the recursion
again.

The order in which the children are read matters to faults alone: the first
child that ends with one ends the branch with it.
-/

namespace Songbook.Filter

/-! ## Reading a list one by one -/

section Except

variable {ε α β : Type}

theorem errorOf?_eq_some_iff {x : Except ε α} {e : ε} :
    errorOf? x = some e ↔ x = .error e := by
  cases x <;> simp [errorOf?]

theorem errorOf?_map {f : α → β} {x : Except ε α} :
    errorOf? (f <$> x) = errorOf? x := by
  cases x <;> rfl

theorem map_eq_ok_iff {f : α → β} {x : Except ε α} {b : β} :
    f <$> x = .ok b ↔ ∃ a, x = .ok a ∧ f a = b := by
  cases x with
  | error e => exact ⟨nofun, nofun⟩
  | ok a =>
      refine ⟨fun h => ⟨a, rfl, Except.ok.inj h⟩, ?_⟩
      rintro ⟨_, ⟨⟩, rfl⟩
      rfl

theorem bind_eq_ok_iff {f : α → Except ε β} {x : Except ε α} {b : β} :
    x >>= f = .ok b ↔ ∃ a, x = .ok a ∧ f a = .ok b := by
  cases x with
  | error e => exact ⟨nofun, nofun⟩
  | ok a =>
      refine ⟨fun h => ⟨a, rfl, h⟩, ?_⟩
      rintro ⟨_, ⟨⟩, h⟩
      exact h

/-- What a list is read into, one by one. -/
theorem mapM_eq_ok_iff {f : α → Except ε β} {l : List α} {r : List β} :
    l.mapM f = .ok r ↔ List.Forall₂ (fun a b => f a = .ok b) l r := by
  induction l generalizing r with
  | nil =>
      rw [List.mapM_nil, List.forall₂_nil_left_iff]
      exact ⟨fun h => (Except.ok.inj h).symm,
        fun h => congrArg Except.ok h.symm⟩
  | cons a l ih =>
      rw [List.mapM_cons, List.forall₂_cons_left_iff]
      cases ha : f a with
      | error e =>
          refine ⟨nofun, ?_⟩
          rintro ⟨b, bs, hb, -, -⟩
          cases hb
      | ok b =>
          cases hl : l.mapM f with
          | error e =>
              refine ⟨nofun, ?_⟩
              rintro ⟨b', bs, -, hbs, -⟩
              rw [← ih, hl] at hbs
              cases hbs
          | ok bs =>
              constructor
              · intro h
                exact ⟨b, bs, rfl, ih.1 hl, (Except.ok.inj h).symm⟩
              · rintro ⟨b', bs', hb, hbs, rfl⟩
                cases hb
                rw [← ih, hl] at hbs
                cases hbs
                rfl

theorem errorOf?_mapM {f : α → Except ε β} {l : List α} :
    errorOf? (l.mapM f) = l.findSome? fun a => errorOf? (f a) := by
  induction l with
  | nil => rfl
  | cons a l ih =>
      rw [List.mapM_cons]
      cases ha : f a with
      | error e => rw [List.findSome?_cons, ha]; rfl
      | ok b =>
          rw [List.findSome?_cons, ha]
          show _ = l.findSome? fun a => errorOf? (f a)
          rw [← ih]
          cases l.mapM f with
          | error e => rfl
          | ok bs => rfl

/-- Readings of one list that agree on each element that does not fail in a
way that is looked for agree on the list, if it does not fail in that way. -/
theorem mapM_congr_of_settled {f g : α → Except ε β} {p : ε → Prop} {l : List α}
    (h : ∀ a ∈ l, (∀ e, f a = .error e → ¬p e) → g a = f a)
    (hl : ∀ e, l.mapM f = .error e → ¬p e) : l.mapM g = l.mapM f := by
  induction l with
  | nil => rfl
  | cons a l ih =>
      have ha := h a List.mem_cons_self
      rw [List.mapM_cons] at hl
      rw [List.mapM_cons, List.mapM_cons]
      cases hf : f a with
      | error e =>
          rw [hf] at hl ha
          have he : ¬p e := hl e rfl
          rw [ha fun _ heq => Except.error.inj heq ▸ he]
          rfl
      | ok b =>
          rw [hf] at hl ha
          have hrest : l.mapM g = l.mapM f := by
            refine ih (fun a' ha' => h a' (List.mem_cons_of_mem _ ha'))
              fun e he => hl e ?_
            rw [he]
            rfl
          rw [ha nofun, hrest]

/-- Only what is looked for in the list itself matters. -/
theorem findSome?_congr {l : List α} {f g : α → Option β}
    (h : ∀ a ∈ l, f a = g a) :
    l.findSome? f = l.findSome? g := by
  induction l with
  | nil => rfl
  | cons a l ih =>
      rw [List.findSome?_cons, List.findSome?_cons, h a List.mem_cons_self,
        ih fun b hb => h b (List.mem_cons_of_mem _ hb)]

theorem findSome?_flatMap {γ : Type} {l : List α} {g : α → List β}
    {f : β → Option γ} :
    (l.flatMap g).findSome? f = l.findSome? fun a => (g a).findSome? f := by
  induction l with
  | nil => rfl
  | cons a l ih =>
      rw [List.flatMap_cons, List.findSome?_append, List.findSome?_cons, ih]
      cases (g a).findSome? f <;> rfl

theorem exists_mem_of_forall₂ {R : α → β → Prop} {l : List α} {r : List β}
    (h : List.Forall₂ R l r) : ∀ b ∈ r, ∃ a ∈ l, R a b := by
  induction h with
  | nil => exact nofun
  | cons hab _ ih =>
      intro b hb
      rcases List.mem_cons.1 hb with rfl | hb
      · exact ⟨_, List.mem_cons_self, hab⟩
      · obtain ⟨a, ha, h⟩ := ih b hb
        exact ⟨a, List.mem_cons_of_mem _ ha, h⟩

theorem exists_forall₂ {R : α → β → Prop} {l : List α}
    (h : ∀ a ∈ l, ∃ b, R a b) :
    ∃ r, List.Forall₂ R l r := by
  induction l with
  | nil => exact ⟨[], .nil⟩
  | cons a l ih =>
      obtain ⟨b, hb⟩ := h a List.mem_cons_self
      obtain ⟨r, hr⟩ := ih fun a' ha' => h a' (List.mem_cons_of_mem _ ha')
      exact ⟨b :: r, .cons hb hr⟩

theorem forall₂_map_range {R : α → β → Prop} {f : Nat → α} {l : List β}
    (h : ∀ index (hi : index < l.length), R (f index) l[index]) :
    List.Forall₂ R ((List.range l.length).map f) l := by
  rw [List.forall₂_iff_get]
  refine ⟨by rw [List.length_map, List.length_range], fun index _ hi => ?_⟩
  simpa using h index hi

end Except

/-! ## One level -/

variable {form : Form} {today : Date}

/-- What one level gives, said by what the form holds there. -/
theorem buildWithin_succ_eq_ok_iff {room : Nat} {address : String}
    {built : Built} :
    buildWithin form today (room + 1) address = .ok built ↔
      ((form.resolve address = .ok .absent ∨
        form.resolve address = .ok .blank) ∧
          built = .void) ∨
        (∃ raw, form.resolve address = .ok (.leaf raw) ∧
          buildLeaf today address raw = .ok built) ∨
        ∃ combinator parts, form.resolve address = .ok (.branch combinator) ∧
          List.Forall₂ (fun child part =>
            buildWithin form today room child = .ok part)
            (form.children address) parts ∧
          built = .branch combinator parts := by
  rw [buildWithin]
  cases hr : form.resolve address with
  | error fault => simp [bind, Except.bind]
  | ok entry =>
      cases entry with
      | absent => simp [bind, Except.bind, pure, Except.pure, eq_comm]
      | blank => simp [bind, Except.bind, pure, Except.pure, eq_comm]
      | leaf raw => simp [bind, Except.bind]
      | branch combinator =>
          simp only [bind, Except.bind, ← mapM_eq_ok_iff]
          cases hm : (form.children address).mapM
            (buildWithin form today room) with
          | error fault => simp
          | ok parts => simp [pure, Except.pure, eq_comm]

/-- The fault of one level, if it ends with one. -/
theorem errorOf?_buildWithin_succ {room : Nat} {address : String} :
    errorOf? (buildWithin form today (room + 1) address) =
      match form.resolve address with
      | .error fault => some fault
      | .ok (.leaf raw) => errorOf? (buildLeaf today address raw)
      | .ok (.branch _) =>
        (form.children address).findSome? fun child =>
          errorOf? (buildWithin form today room child)
      | .ok .absent => none
      | .ok .blank => none := by
  rw [buildWithin]
  cases form.resolve address with
  | error fault => rfl
  | ok entry =>
      cases entry with
      | absent => rfl
      | blank => rfl
      | leaf raw => rfl
      | branch combinator =>
          rw [← errorOf?_mapM]
          simp only [bind, Except.bind]
          cases (form.children address).mapM (buildWithin form today room) with
          | error fault => rfl
          | ok parts => rfl

/-- What holds of nothing, of each leaf that was read, and of a branch when it
holds of what its children gave, holds of everything that is read. -/
theorem buildWithin_induction {motive : Nat → String → Built → Prop}
    (void : ∀ room address,
      form.resolve address = .ok .absent ∨ form.resolve address = .ok .blank →
      motive (room + 1) address .void)
    (leaf : ∀ room address raw built, form.resolve address = .ok (.leaf raw) →
      buildLeaf today address raw = .ok built → motive (room + 1) address built)
    (branch : ∀ room address combinator parts,
      form.resolve address = .ok (.branch combinator) →
      List.Forall₂
        (fun child part =>
          buildWithin form today room child = .ok part ∧ motive room child part)
        (form.children address) parts →
      motive (room + 1) address (.branch combinator parts))
    {room : Nat} {address : String} {built : Built}
    (h : buildWithin form today room address = .ok built) :
    motive room address built := by
  induction room generalizing address built with
  | zero => rw [buildWithin] at h; cases h
  | succ room ih =>
      rcases buildWithin_succ_eq_ok_iff.1 h with ⟨hr, rfl⟩ | ⟨raw, hr, hb⟩ |
        ⟨combinator, parts, hr, hp, rfl⟩
      · exact void room address hr
      · exact leaf room address raw built hr hb
      · exact branch room address combinator parts hr (hp.imp fun _ _ hpart =>
          ⟨hpart, ih hpart⟩)

/-- More room makes no difference unless there was too little. -/
theorem buildWithin_more_room {room : Nat} {address : String}
    (h : ∀ place, buildWithin form today room address ≠
      .error (.tooDeep place)) :
    buildWithin form today (room + 1) address =
      buildWithin form today room address := by
  induction room generalizing address with
  | zero => exact absurd rfl (h address)
  | succ room ih =>
      rw [buildWithin] at h
      rw [buildWithin, buildWithin]
      cases hr : form.resolve address with
      | error fault => rfl
      | ok entry =>
          cases entry with
          | absent | blank | leaf => rfl
          | branch combinator =>
              rw [hr] at h
              have hchildren : (form.children address).mapM
                  (buildWithin form today (room + 1)) =
                  (form.children address).mapM
                    (buildWithin form today room) := by
                refine mapM_congr_of_settled (p := fun fault =>
                  ∃ place, fault = .tooDeep place)
                  (fun child _ hchild => ih fun place hp =>
                    hchild _ hp ⟨place, rfl⟩) ?_
                rintro _ hm ⟨place, rfl⟩
                refine h place ?_
                simp only [bind, Except.bind, hm]
              simp only [bind, Except.bind, hchildren]

/-! ## Operands in their places -/

theorem Interval.errorOf?_traverse {α β ε : Type} {f : Nat → α → Except ε β}
    {interval : Interval α} :
    errorOf? (interval.traverse f) =
        [(interval.lo, 0), (interval.hi, 1)].findSome? fun operand =>
      errorOf? (f operand.2 operand.1) := by
  rw [traverse, List.findSome?_cons, List.findSome?_singleton]
  cases f 0 interval.lo with
  | error e => rfl
  | ok lo => cases f 1 interval.hi <;> rfl

namespace NumberComparison

variable {α β ε : Type}

theorem length_operands_le (comparison : NumberComparison α) :
    comparison.operands.length ≤ 2 := by
  cases comparison with
  | atMost | atLeast | equal | notEqual => exact Nat.le_succ 1
  | inside | outside => exact Nat.le_refl 2

theorem errorOf?_traverse {f : Nat → α → Except ε β} (e? : α → Option ε)
    (hf : ∀ index a, errorOf? (f index a) = e? a)
    {comparison : NumberComparison α} :
    errorOf? (comparison.traverse f) = comparison.operands.findSome? e? := by
  cases comparison with
  | atMost bound | atLeast bound | equal bound | notEqual bound =>
      rw [traverse, errorOf?_map, hf, operands, List.findSome?_singleton]
  | inside interval | outside interval =>
      rw [traverse, errorOf?_map, Interval.errorOf?_traverse, operands]
      simp only [hf, List.findSome?_cons, List.findSome?_nil]

end NumberComparison

/-- A leaf that is read gives one criterion: the leaf itself, or an error for
one or both of its operands. -/
theorem buildLeaf_eq_ok {address : String} {raw : RawLeaf} {built : Built}
    (h : buildLeaf today address raw = .ok built) :
    (∃ test, built = .leaf test) ∨
      ∃ errors, built = .rejected errors ∧ 0 < errors.length ∧
        errors.length ≤ 2 := by
  cases raw with
  | text field rule operand => exact .inl ⟨_, (Except.ok.inj h).symm⟩
  | number field comparison =>
      rw [buildLeaf] at h
      cases hread : comparison.traverse (readNumber field address) with
      | error fault => rw [hread] at h; cases h
      | ok read =>
          rw [hread] at h
          simp only [bind, Except.bind, pure, Except.pure] at h
          split at h
          · exact .inl ⟨_, (Except.ok.inj h).symm⟩
          · next e he =>
              refine .inr ⟨_, (Except.ok.inj h).symm, ?_, ?_⟩
              · have hsome := errorOf?_eq_some_iff.2 he
                have hfirst : errorOf?
                    (read.traverse fun _ operand => operand) =
                    read.operands.findSome? errorOf? :=
                  NumberComparison.errorOf?_traverse errorOf? fun _ _ => rfl
                rw [hfirst] at hsome
                obtain ⟨operand, hmem, ho⟩ :=
                  List.exists_of_findSome?_eq_some hsome
                exact List.length_pos_of_mem
                  (List.mem_filterMap.2 ⟨operand, hmem, ho⟩)
              · exact Nat.le_trans
                  (List.length_filterMap_le _ _) read.length_operands_le
  | calendar field comparison =>
      simp only [buildLeaf] at h
      split at h
      · exact .inl ⟨_, (Except.ok.inj h).symm⟩
      · exact .inr ⟨_, (Except.ok.inj h).symm, Nat.one_pos, Nat.le_succ 1⟩
  | recent field count unit negated =>
      simp only [buildLeaf] at h
      split at h
      · exact .inr ⟨_, (Except.ok.inj h).symm, Nat.one_pos, Nat.le_succ 1⟩
      · split at h
        · exact .inl ⟨_, (Except.ok.inj h).symm⟩
        · cases h

end Songbook.Filter
