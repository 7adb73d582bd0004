import Songbook.Proofs.Footprint
import Songbook.Proofs.OperandErrors

/-!
# A filter reads its own keys only

Two readings, of two forms at two addresses, go the same way as long as the
forms agree on the filters there. Every key that is looked up is one on which
they agree, which is shown along the steps of reading: what holds of two
addresses holds of their children, so nothing has to be known about how the
address itself looks, which may be empty, or look like the address of a child.

The two results differ in the addresses that faults and errors carry, and in
nothing else. They are compared over any map of addresses that turns what lies
behind the one address into what lies behind the other. Such a map may do
anything elsewhere, so the comparison says of one reading too that every
address it carries lies behind the one where it began.
-/

namespace Songbook.Filter

/-! ## The same result elsewhere -/

/-- A fault whose addresses were moved. -/
def SchemaFault.relocate (move : String → String) : SchemaFault → SchemaFault
  | unknownKind address token => unknownKind (move address) token
  | missingRule address => missingRule (move address)
  | unknownRule address kind rule => unknownRule (move address) kind rule
  | missingOperand key => missingOperand (move key)
  | unknownUnit address unit => unknownUnit (move address) unit
  | durationComponents text => durationComponents text
  | tooDeep address => tooDeep (move address)

/-- An error in an operand whose address was moved. -/
def OperandError.relocate (move : String → String) (e : OperandError) :
    OperandError :=
  ⟨move e.address, e.error⟩

/-- What was built, with the addresses in its errors moved. -/
def Built.relocate (move : String → String) (built : Built) : Built :=
  { built with errors := built.errors.map (·.relocate move) }

/-- What reading gives, with every address in it moved. -/
def relocate (move : String → String) :
    Except SchemaFault Built → Except SchemaFault Built
  | .ok built => .ok (built.relocate move)
  | .error fault => .error (fault.relocate move)

section Relocate

variable {move move' : String → String}

theorem SchemaFault.relocate_relocate {fault : SchemaFault} :
    (fault.relocate move').relocate move = fault.relocate (move ∘ move') := by
  cases fault <;> rfl

theorem Built.relocate_relocate {built : Built} :
    (built.relocate move').relocate move = built.relocate (move ∘ move') := by
  simp only [relocate, List.map_map]
  rfl

theorem relocate_relocate {read : Except SchemaFault Built} :
    relocate move (relocate move' read) = relocate (move ∘ move') read := by
  cases read with
  | ok built => exact congrArg Except.ok Built.relocate_relocate
  | error fault => exact congrArg Except.error SchemaFault.relocate_relocate

theorem relocate_id {read : Except SchemaFault Built} :
    relocate id read = read := by
  cases read with
  | ok built =>
      have herrors : built.errors.map (OperandError.relocate id) =
          built.errors := List.map_id _
      rw [relocate, Built.relocate, herrors]
  | error fault => cases fault <;> rfl

theorem Built.relocate_of_errors_eq_nil {built : Built}
    (he : built.errors = []) :
    built.relocate move = built := by
  rw [relocate, he, List.map_nil, ← he]

theorem errorOf?_relocate {read : Except SchemaFault Built} :
    errorOf? (Filter.relocate move read) =
      (errorOf? read).map (SchemaFault.relocate move) := by
  cases read <;> rfl

theorem Built.relocate_branch {combinator : Combinator} {parts : List Built} :
    branch combinator (parts.map (relocate move)) =
      (branch combinator parts).relocate move := by
  simp only [branch, relocate, List.filter_map, List.filterMap_map,
    List.foldr_map, List.flatMap_map, List.map_flatMap, Function.comp_def]

/-- Parts that are all read elsewhere are read elsewhere together, with the
first fault if there is one. -/
theorem mapM_relocate {α : Type} {f f' : α → Except SchemaFault Built}
    {l : List α} (h : ∀ a ∈ l, f' a = relocate move (f a)) :
    l.mapM f' = ((l.mapM f).map (List.map (Built.relocate move))).mapError
      (SchemaFault.relocate move) := by
  induction l with
  | nil => rfl
  | cons a l ih =>
      rw [List.mapM_cons, List.mapM_cons, h a List.mem_cons_self,
        ih fun b hb => h b (List.mem_cons_of_mem _ hb)]
      cases f a with
      | error fault => rfl
      | ok part => cases l.mapM f <;> rfl

end Relocate

/-! ## Two forms -/

/-- Two forms that agree, and a map that turns the addresses of the one into
those of the other. -/
structure Form.Moves (move : String → String) (form : Form) (address : String)
    (form' : Form) (address' : String) : Prop where
  agrees : form.Agrees address form' address'
  move_append : ∀ rest, move (address ++ rest) = address' ++ rest

namespace Form.Moves

variable {move : String → String} {form form' : Form}
  {address address' : String}

theorem get?_entry (h : Moves move form address form' address') :
    form'.get? address' = form.get? address := by
  simpa using h.agrees "" .entry

theorem move_address (h : Moves move form address form' address') :
    move address = address' := by
  simpa using h.move_append ""

theorem get?_rule (h : Moves move form address form' address') :
    form'.get? (Address.rule address') = form.get? (Address.rule address) :=
  h.agrees "_r" .rule

theorem move_operand (h : Moves move form address form' address')
    (index : Nat) :
    move (Address.operand address index) = Address.operand address' index := by
  rw [Address.operand_eq_append, Address.operand_eq_append, h.move_append]

theorem get?_operand (h : Moves move form address form' address') {index : Nat}
    (hindex : index < 2) :
    form'.get? (Address.operand address' index) =
      form.get? (Address.operand address index) := by
  rw [Address.operand_eq_append, Address.operand_eq_append]
  match index with
  | 0 => exact h.agrees "_f0" .firstOperand
  | 1 => exact h.agrees "_f1" .secondOperand

theorem child (h : Moves move form address form' address') (index : Nat) :
    Moves move form (Address.child address index) form'
      (Address.child address' index) where
  agrees rest hrest := by
    rw [Address.child_append, Address.child_append]
    exact h.agrees _ (.child index hrest)
  move_append rest := by
    rw [Address.child_append, Address.child_append, h.move_append]

/-! ## Entries -/

theorem mapError_map {ε ε' α β : Type} {f : α → β} {g : ε → ε'}
    {x : Except ε α} :
    (f <$> x).mapError g = f <$> x.mapError g := by
  cases x <;> rfl

theorem mapError_bind {ε ε' α β : Type} {f : α → Except ε β} {g : ε → ε'}
    {x : Except ε α} :
    (x >>= f).mapError g = x.mapError g >>= fun a => (f a).mapError g := by
  cases x <;> rfl

theorem requireOperand (h : Moves move form address form' address')
    {index : Nat} (hindex : index < 2) :
    form'.requireOperand address' index =
      (form.requireOperand address index).mapError
        (SchemaFault.relocate move) := by
  rw [Form.requireOperand, Form.requireOperand, h.get?_operand hindex,
    ← h.move_operand]
  cases form.get? (Address.operand address index) <;> rfl

theorem requireInterval (h : Moves move form address form' address') :
    form'.requireInterval address' =
      (form.requireInterval address).mapError (SchemaFault.relocate move) := by
  rw [Form.requireInterval, Form.requireInterval, h.requireOperand Nat.two_pos,
    h.requireOperand Nat.one_lt_two, mapError_bind]
  congr 1
  funext lo
  rw [mapError_bind]
  rfl

theorem numberComparison (h : Moves move form address form' address')
    (rule : NumberRule) :
    form'.numberComparison address' rule =
      (form.numberComparison address rule).mapError
        (SchemaFault.relocate move) := by
  cases rule with
  | atMost | atLeast | equal | notEqual =>
      rw [Form.numberComparison, Form.numberComparison,
        h.requireOperand Nat.two_pos, mapError_map]
  | inside | outside =>
      rw [Form.numberComparison, Form.numberComparison, h.requireInterval,
        mapError_map]

theorem recentLeaf (h : Moves move form address form' address')
    (field : DateField) (negated : Bool) :
    form'.recentLeaf address' field negated =
      (form.recentLeaf address field negated).mapError
        (SchemaFault.relocate move) := by
  rw [Form.recentLeaf, Form.recentLeaf, h.requireOperand Nat.two_pos,
    h.requireOperand Nat.one_lt_two, mapError_bind]
  congr 1
  funext count
  rw [mapError_bind]
  rfl

theorem dateLeaf (h : Moves move form address form' address')
    (field : DateField) (rule : DateRule) :
    form'.dateLeaf address' field rule =
      (form.dateLeaf address field rule).mapError
        (SchemaFault.relocate move) := by
  cases rule with
  | last | noLast => exact h.recentLeaf field _
  | before | after =>
      rw [Form.dateLeaf, Form.dateLeaf, h.requireOperand Nat.two_pos,
        mapError_map]
  | inside | outside =>
      rw [Form.dateLeaf, Form.dateLeaf, h.requireInterval, mapError_map]

theorem checkRule (h : Moves move form address form' address') {α : Type}
    (kind : FieldKind) (word : String) (rule? : Option α) :
    Form.checkRule address' kind word rule? =
      (Form.checkRule address kind word rule?).mapError
        (SchemaFault.relocate move) := by
  cases rule? with
  | none => rw [← h.move_address]; rfl
  | some rule => rfl

theorem leafAt (h : Moves move form address form' address') (word : String)
    (kind : FieldKind) :
    form'.leafAt address' word kind =
      (form.leafAt address word kind).mapError (SchemaFault.relocate move) := by
  cases kind with
  | text field =>
      rw [Form.leafAt, Form.leafAt, h.checkRule, h.get?_operand Nat.two_pos,
        mapError_bind]
      rfl
  | number field =>
      rw [Form.leafAt, Form.leafAt, h.checkRule, mapError_bind]
      congr 1
      funext rule
      rw [h.numberComparison, mapError_bind]
      rfl
  | date field =>
      rw [Form.leafAt, Form.leafAt, h.checkRule, mapError_bind]
      congr 1
      funext rule
      exact h.dateLeaf field rule

theorem isBlankAt (h : Moves move form address form' address')
    (kind : FieldKind) :
    form'.isBlankAt address' kind = form.isBlankAt address kind := by
  cases kind with
  | text field =>
      rw [Form.isBlankAt, Form.isBlankAt, h.get?_operand Nat.two_pos]
  | number field => rfl
  | date field => rfl

theorem resolve (h : Moves move form address form' address') :
    form'.resolve address' =
      (form.resolve address).mapError (SchemaFault.relocate move) := by
  rcases form.get?_cases address with hn | ⟨combinator, hc⟩ | ⟨kind, hk⟩ |
    ⟨token, ht, hc, hk⟩
  · rw [resolve_of_get?_eq_none hn,
      resolve_of_get?_eq_none (h.get?_entry.trans hn)]
    rfl
  · rw [resolve_of_combinator hc, resolve_of_combinator (h.get?_entry.trans hc)]
    rfl
  · rw [resolve_of_kind hk, resolve_of_kind (h.get?_entry.trans hk),
      h.isBlankAt, h.get?_rule]
    split
    · rfl
    · cases form.get? (Address.rule address) with
      | none => rw [← h.move_address]; rfl
      | some word => simp only [h.leafAt, mapError_map]
  · rw [resolve_of_unknown ht hc hk,
      resolve_of_unknown (h.get?_entry.trans ht) hc hk, ← h.move_address]
    rfl

theorem childCount (h : Moves move form address form' address') :
    form'.childCount address' = form.childCount address := by
  have hcontains : ∀ i, form'.contains (Address.child address' i) =
      form.contains (Address.child address i) := by
    intro i
    rw [contains, contains, (h.child i).get?_entry]
  have hlt : ∀ n, n < form'.childCount address' ↔
      n < form.childCount address := by
    intro n
    simp only [lt_childCount_iff, hcontains]
  have h₁ := hlt (form.childCount address)
  have h₂ := hlt (form'.childCount address')
  omega

/-! ## Reading -/

variable {today : Date}

theorem readNumber (h : Moves move form address form' address')
    (field : NumberField) (index : Nat) (text : String) :
    Filter.readNumber field address' index text =
      ((Filter.readNumber field address index text).map
        (Except.mapError (OperandError.relocate move))).mapError
          (SchemaFault.relocate move) := by
  cases field with
  | time =>
      rw [Filter.readNumber, Filter.readNumber, ← h.move_operand]
      cases Value.readDuration text with
      | ok n => rfl
      | error e => cases e <;> rfl
  | track | playCount =>
      rw [Filter.readNumber, Filter.readNumber, ← h.move_operand]
      cases Value.readInteger text <;> rfl

theorem buildLeaf (h : Moves move form address form' address') (raw : RawLeaf) :
    Filter.buildLeaf today address' raw =
      relocate move (Filter.buildLeaf today address raw) := by
  cases raw with
  | text field rule operand => rfl
  | number field comparison =>
      cases comparison with
      | atMost bound | atLeast bound | equal bound | notEqual bound =>
          simp only [Filter.buildLeaf, NumberComparison.traverse, h.readNumber]
          cases Filter.readNumber field address 0 bound with
          | error fault => rfl
          | ok operand => cases operand <;> rfl
      | inside interval | outside interval =>
          simp only [Filter.buildLeaf, NumberComparison.traverse,
            Interval.traverse, h.readNumber]
          cases Filter.readNumber field address 0 interval.lo with
          | error fault => rfl
          | ok lo =>
              cases Filter.readNumber field address 1 interval.hi with
              | error fault => rfl
              | ok hi => cases lo <;> cases hi <;> rfl
  | calendar field comparison =>
      cases comparison with
      | before bound | after bound =>
          simp only [Filter.buildLeaf, DayComparison.traverse, ← h.move_operand]
          cases Value.readDate today bound <;> rfl
      | inside interval | outside interval =>
          simp only [Filter.buildLeaf, DayComparison.traverse,
            Interval.traverse, ← h.move_operand]
          cases Value.readDate today interval.lo with
          | error e => rfl
          | ok lo => cases Value.readDate today interval.hi <;> rfl
  | recent field count unit negated =>
      rw [Filter.buildLeaf, Filter.buildLeaf, ← h.move_operand]
      cases Value.readInteger count with
      | error e => rfl
      | ok n =>
          cases TimeUnit.ofName? unit with
          | none => rw [← h.move_address]; rfl
          | some unit => rfl

/-- What is read in the one place is what is read in the other, with the
addresses moved. The induction is on the room below the addresses, and the
addresses go along with it. -/
theorem buildWithin (h : Moves move form address form' address') (room : Nat) :
    Filter.buildWithin form' today room address' =
      relocate move (Filter.buildWithin form today room address) := by
  induction room generalizing address address' with
  | zero => rw [Filter.buildWithin, Filter.buildWithin, ← h.move_address]; rfl
  | succ room ih =>
      rw [Filter.buildWithin, Filter.buildWithin, h.resolve]
      cases form.resolve address with
      | error fault => rfl
      | ok entry =>
          cases entry with
          | absent => rfl
          | blank => rfl
          | leaf raw => exact h.buildLeaf raw
          | branch combinator =>
              have hparts :=
                mapM_relocate (l := List.range (form.childCount address))
                fun index _ => ih (h.child index)
              have hchildren := (form'.children_eq_map_range address').1
              rw [h.childCount] at hchildren
              simp only [Except.mapError, bind, Except.bind]
              rw [hchildren, (form.children_eq_map_range address).1,
                List.mapM_map, List.mapM_map]
              simp only [Function.comp_def, hparts]
              cases (List.range (form.childCount address)).mapM fun index =>
                  Filter.buildWithin form today room
                    (Address.child address index) with
              | error fault => rfl
              | ok parts => exact congrArg Except.ok Built.relocate_branch

end Form.Moves

/-- Two forms that agree have a map between their addresses, which takes the
one address off and puts the other in its place. -/
theorem Form.Agrees.moves {form form' : Form} {address address' : String}
    (h : form.Agrees address form' address') :
    Form.Moves ((address' ++ ·) ∘ Address.strip address) form address
      form' address' :=
  ⟨h, fun rest => congrArg (address' ++ ·) (Address.strip_append address rest)⟩

theorem build_of_moves {move : String → String} {form form' : Form}
    {address address' : String}
    (h : Form.Moves move form address form' address') (today : Date) :
    build form' address' today = relocate move (build form address today) :=
  h.buildWithin (maxDepth + 1)

/-- Two readings with the same address are the same where the form differs in
other keys only. -/
theorem build_eq_of_agrees {form other : Form} {address : String}
    (h : form.Agrees address other address) (today : Date) :
    build other address today = build form address today := by
  have hmoves : Form.Moves id form address other address := ⟨h, fun _ => rfl⟩
  rw [build_of_moves hmoves, relocate_id]

/-- A filter reads its own keys only, and can be moved. Where two forms have
the same texts behind two addresses, there is one result, with addresses that
say only what lies behind, such that reading gives it with the one address put
in front of all of them, or the other: the same tree, the same count, the same
errors or the same fault. So keys that are none of the filter's can be put in,
changed or taken out without any change to the result. -/
theorem build_relocates {form form' : Form} {address address' : String}
    (h : form.Agrees address form' address') (today : Date) :
    (∃ outcome, build form address today = relocate (address ++ ·) outcome ∧
        build form' address' today = relocate (address' ++ ·) outcome) ∧
      (∀ other : Form,
        (∀ key, other.get? key ≠ form.get? key →
          ∀ rest, Address.IsSuffix rest → key ≠ address ++ rest) →
        build other address today = build form address today) ∧
      ∀ rest ∈ ["_00", "_f2", "x"], ∀ text,
        build (form.insert (address ++ rest) text) address today =
          build form address today := by
  have hother : ∀ other : Form,
      (∀ key, other.get? key ≠ form.get? key →
        ∀ rest, Address.IsSuffix rest → key ≠ address ++ rest) →
      build other address today = build form address today := by
    intro other hkeys
    refine build_eq_of_agrees (fun rest hrest => ?_) today
    by_contra hne
    exact hkeys _ hne rest hrest rfl
  refine ⟨⟨relocate (Address.strip address) (build form address today), ?_, ?_⟩,
    hother, ?_⟩
  · -- Moving every address to itself changes none, so each has the root in
    -- front.
    have hself : form.Agrees address form address := fun _ _ => rfl
    rw [relocate_relocate, ← build_of_moves hself.moves]
  · rw [relocate_relocate, ← build_of_moves h.moves]
  · intro rest hrest text
    refine hother _ fun key hne rest' hrest' heq => ?_
    rw [Form.get?_insert] at hne
    split at hne
    · next hkey =>
        rw [hkey, String.append_right_inj] at heq
        exact Address.not_isSuffix_of_mem hrest (heq ▸ hrest')
    · exact hne rfl

/-- The address of the second filter looks like that of a child. -/
theorem build_relocates_slips :
    slips.Agrees "k" (slips.moved "k" "k_0") "k_0" ∧
      (∃ outcome, build slips "k" ⟨0, by decide, by decide⟩ =
        relocate ("k" ++ ·) outcome ∧
        build (slips.moved "k" "k_0") "k_0" ⟨0, by decide, by decide⟩ =
          relocate ("k_0" ++ ·) outcome) ∧
      build (slips.moved "k" "k_0") "k_0" ⟨0, by decide, by decide⟩ =
        .ok ⟨some (.branch .or [.leaf (.number .track (.equal 7))]), 4,
          [⟨"k_0_2_f0", .duration " 1:x "⟩, ⟨"k_0_2_f1", .duration ""⟩,
            ⟨"k_0_10_0_f0", .date "soon"⟩,
            ⟨"k_0_10_1_f0", .integer "9x"⟩]⟩ := by
  have hagrees := slips.agrees_moved "k" "k_0"
  refine ⟨hagrees, (build_relocates hagrees ⟨0, by decide, by decide⟩).1, ?_⟩
  rw [build_of_moves hagrees.moves, build_slips]
  rfl

end Songbook.Filter
