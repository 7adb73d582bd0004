import Songbook.Cli.Run
import Songbook.Proofs.Composition
import Songbook.Proofs.Counts
import Songbook.Proofs.SelfDelimiting

/-!
# Explanations tell filters apart

The phrase of a filter holds what was typed by whoever made it, and that may
be anything: a parenthesis, a quote, a joiner, half of another filter. Still
two filters with one phrase ask the same of every song. The phrase is read
from the left, and at each place the next word says what is there: a field,
and then a rule of its family, or the opening of a branch. Operands end where
they end whatever is in them, and after a child comes a joiner or the closing
parenthesis.

One thing a phrase leaves out. Where a branch has a single child nothing is
joined, so no joiner is printed, and a conjunction looks like a disjunction.
They mean the same. `Node.canonical` forgets the difference, and no other.
-/

namespace Songbook.Filter

open Songbook.Text

/-! ## Comparisons -/

/-- What a comparison of numbers begins with, before its operands. -/
def NumberRule.lead : NumberRule → String
  | atMost => "<= "
  | atLeast => ">= "
  | equal => "= "
  | notEqual => "<> "
  | inside => "inside "
  | outside => "outside "

/-- What a rule on a date begins with, before its operands. -/
def DateRule.lead : DateRule → String
  | last => "within last "
  | noLast => "not within last "
  | before => "before "
  | after => "after "
  | inside => "inside "
  | outside => "outside "

/-- The operands of a comparison, with two dots between them. -/
def dotted {α : Type} (render : α → String) : List α → List Char
  | [] => []
  | [a] => (render a).toList
  | a :: operands => (render a).toList ++ '.' :: '.' :: dotted render operands

variable {α : Type} {render : α → String} {s t : List Char}

/-- Two equally long lists of operands can be told apart if single operands
can. -/
theorem dotted_append_inj
    (hrender : SelfDelimiting (fun a => (render a).toList) EndsNumeral)
    (hs : EndsNumeral s) (ht : EndsNumeral t) {l m : List α}
    (hlength : l.length = m.length)
    (h : dotted render l ++ s = dotted render m ++ t) : l = m ∧ s = t := by
  induction l generalizing m with
  | nil =>
      obtain rfl := List.length_eq_zero_iff.1 hlength.symm
      exact ⟨rfl, h⟩
  | cons a l ih =>
      obtain ⟨b, m, rfl⟩ := List.exists_cons_of_length_eq_add_one hlength.symm
      have hlengths : l.length = m.length := Nat.succ.inj hlength
      cases l with
      | nil =>
          obtain rfl := List.length_eq_zero_iff.1 hlengths.symm
          obtain ⟨rfl, hst⟩ := hrender hs ht h
          exact ⟨rfl, hst⟩
      | cons a' l =>
          obtain ⟨b', m, rfl⟩ :=
            List.exists_cons_of_length_eq_add_one hlengths.symm
          simp only [dotted, List.append_assoc, List.cons_append] at h
          obtain ⟨rfl, hrest⟩ := hrender (endsNumeral_cons (by decide) _)
            (endsNumeral_cons (by decide) _) h
          obtain ⟨hlm, hst⟩ :=
            ih hlengths (List.cons.inj (List.cons.inj hrest).2).2
          exact ⟨congrArg _ hlm, hst⟩

theorem NumberComparison.toList_phrase (comparison : NumberComparison α) :
    (comparison.phrase render).toList =
      comparison.rule.lead.toList ++ dotted render comparison.operands := by
  cases comparison <;>
    simp [phrase, rule, NumberRule.lead, operands, dotted, Interval.phrase]

theorem DayComparison.toList_phrase (comparison : DayComparison α) :
    (comparison.phrase render).toList =
      comparison.rule.lead.toList ++ dotted render comparison.operands := by
  cases comparison <;>
    simp [phrase, rule, DateRule.lead, operands, dotted, Interval.phrase]

theorem NumberComparison.ext_rule {a b : NumberComparison α}
    (h : a.rule = b.rule) :
    a.operands.length = b.operands.length ∧
      (a.operands = b.operands → a = b) := by
  rcases a with _ | _ | _ | _ | ⟨_, _⟩ | ⟨_, _⟩ <;>
    rcases b with _ | _ | _ | _ | ⟨_, _⟩ | ⟨_, _⟩ <;> simp_all [rule, operands]

theorem DayComparison.ext_rule {a b : DayComparison α} (h : a.rule = b.rule) :
    a.operands.length = b.operands.length ∧
      (a.operands = b.operands → a = b) := by
  rcases a with _ | _ | ⟨_, _⟩ | ⟨_, _⟩ <;>
    rcases b with _ | _ | ⟨_, _⟩ | ⟨_, _⟩ <;> simp_all [rule, operands]

theorem NumberRule.selfDelimiting_lead :
    SelfDelimiting (fun rule : NumberRule => rule.lead.toList) fun _ => True :=
  .of_words fun a b => by cases a <;> cases b <;> decide

theorem DateRule.selfDelimiting_lead :
    SelfDelimiting (fun rule : DateRule => rule.lead.toList) fun _ => True :=
  .of_words fun a b => by cases a <;> cases b <;> decide

/-- A comparison of either family is told apart by its rule, and then by its
operands. -/
theorem selfDelimiting_comparison {γ ρ : Type} {write : γ → List Char}
    {rule : γ → ρ} {lead : ρ → List Char} {operands : γ → List α}
    (hrender : SelfDelimiting (fun a => (render a).toList) EndsNumeral)
    (hlead : SelfDelimiting lead fun _ => True)
    (hwrite : ∀ c, write c = lead (rule c) ++ dotted render (operands c))
    (hext : ∀ {a b}, rule a = rule b →
      (operands a).length = (operands b).length ∧
        (operands a = operands b → a = b)) :
    SelfDelimiting write EndsNumeral := by
  intro a b s t hs ht h
  rw [hwrite, hwrite, List.append_assoc, List.append_assoc] at h
  obtain ⟨hrule, hrest⟩ := hlead trivial trivial h
  obtain ⟨hlength, hinj⟩ := hext hrule
  obtain ⟨hoperands, hst⟩ := dotted_append_inj hrender hs ht hlength hrest
  exact ⟨hinj hoperands, hst⟩

theorem NumberComparison.selfDelimiting_phrase :
    SelfDelimiting (fun comparison : NumberComparison Int64 =>
      (comparison.phrase fun n => decimal n.toInt).toList) EndsNumeral := by
  refine selfDelimiting_comparison ?_ NumberRule.selfDelimiting_lead
    toList_phrase ext_rule
  intro a b s t hs ht h
  obtain ⟨hab, hst⟩ := selfDelimiting_decimal hs ht h
  exact ⟨Int64.toInt_inj.1 hab, hst⟩

theorem DayComparison.selfDelimiting_phrase :
    SelfDelimiting (fun comparison : DayComparison Date =>
      (comparison.phrase Date.text).toList)
      EndsNumeral :=
  selfDelimiting_comparison Date.selfDelimiting_text
    DateRule.selfDelimiting_lead toList_phrase
    ext_rule

/-! ## Leaves -/

/-- What a filter begins with: the field of a leaf, or the opening of a
branch, negated or not. -/
def leadWord : FieldKind ⊕ Bool → List Char
  | .inl kind => kind.token.toList ++ [' ']
  | .inr negated => (if negated then "not (" else "(").toList

theorem selfDelimiting_leadWord : SelfDelimiting leadWord fun _ => True :=
  .of_words fun a b => by
    rcases a with (a | a | a) | a <;> cases a <;> rcases b with (b | b | b) |
      b <;> cases b <;>
      decide

theorem TextRule.selfDelimiting_phrase :
    SelfDelimiting (fun rule : TextRule => rule.phrase.toList ++ [' ', '"'])
      fun _ => True :=
  .of_words fun ⟨a, negated⟩ ⟨b, negated'⟩ => by
    cases a <;> cases negated <;> cases b <;> cases negated' <;> decide

theorem TimeUnit.selfDelimiting_name :
    SelfDelimiting (fun unit : TimeUnit => unit.name.toList) fun _ => True :=
  .of_words fun a b => by cases a <;> cases b <;> decide

namespace Leaf

/-- What the phrase of a leaf says of the field. -/
def detail : Leaf → List Char
  | text _ rule value =>
    rule.phrase.toList ++ [' ', '"'] ++
      (value.toList.flatMap escapeChar ++ ['"'])
  | number _ comparison => (comparison.phrase fun n => decimal n.toInt).toList
  | calendar _ comparison => (comparison.phrase Date.text).toList
  | recent _ count unit negated =>
    (if negated then DateRule.noLast else .last).lead.toList ++
      (decimal count.toInt).toList ++ ' ' :: unit.name.toList

theorem toList_phrase (test : Leaf) :
    test.phrase.toList = leadWord (.inl test.raw.kind) ++ test.detail := by
  cases test with
  | text field rule value =>
      simp [phrase, raw, RawLeaf.kind, FieldKind.token, leadWord, detail,
        quoted, quote]
  | number field comparison =>
      simp [phrase, raw, RawLeaf.kind, FieldKind.token, leadWord, detail]
  | calendar field comparison =>
      simp [phrase, raw, RawLeaf.kind, FieldKind.token, leadWord, detail]
  | recent field count unit negated =>
      cases negated <;>
        simp [phrase, raw, RawLeaf.kind, FieldKind.token, leadWord, detail,
          DateRule.lead]

/-- A look back from the present is told apart by which way it looks, by its
count and by its unit. -/
theorem recent_detail_append_inj {field field' : DateField}
    {count count' : Int64} {unit unit' : TimeUnit} {negated negated' : Bool}
    (h : (recent field count unit negated).detail ++ s =
      (recent field' count' unit' negated').detail ++ t) :
    (count = count' ∧ unit = unit' ∧ negated = negated') ∧ s = t := by
  simp only [detail, List.append_assoc, List.cons_append] at h
  obtain ⟨hrule, h⟩ := DateRule.selfDelimiting_lead trivial trivial h
  obtain ⟨hcount, h⟩ := selfDelimiting_decimal (endsNumeral_cons (by decide) _)
    (endsNumeral_cons (by decide) _) h
  obtain ⟨hunit, hst⟩ :=
    TimeUnit.selfDelimiting_name trivial trivial (List.cons.inj h).2
  have hnegated : negated = negated' := by
    cases negated <;> cases negated' <;> simp_all
  exact ⟨⟨Int64.toInt_inj.1 hcount, hunit, hnegated⟩, hst⟩

theorem calendar_detail_append_ne {field field' : DateField}
    {comparison : DayComparison Date} {count : Int64} {unit : TimeUnit}
    {negated : Bool} :
    (calendar field comparison).detail ++ s ≠
      (recent field' count unit negated).detail ++ t := by
  intro h
  simp only [detail, DayComparison.toList_phrase, List.append_assoc,
    List.cons_append] at h
  obtain ⟨hrule, -⟩ := DateRule.selfDelimiting_lead trivial trivial h
  cases comparison <;> cases negated <;> cases hrule

/-- Leaves on one field are told apart by what they say of it. -/
theorem detail_append_inj {a b : Leaf} (hkind : a.raw.kind = b.raw.kind)
    (hs : EndsNumeral s) (ht : EndsNumeral t)
    (h : a.detail ++ s = b.detail ++ t) : a = b ∧ s = t := by
  cases a with
  | text field rule value =>
      cases b with
      | text field' rule' value' =>
          cases hkind
          -- the first quote belongs to the rule, so that `is` is no beginning
          -- of `is not`
          rw [detail, detail, List.append_assoc (rule.phrase.toList ++ _),
            List.append_assoc (rule'.phrase.toList ++ _)] at h
          obtain ⟨hrule, hrest⟩ :=
            TextRule.selfDelimiting_phrase trivial trivial h
          obtain ⟨hvalue, hst⟩ := selfDelimiting_quoted trivial trivial hrest
          rw [hrule, String.toList_inj.1 hvalue]
          exact ⟨rfl, hst⟩
      | number | calendar | recent => cases hkind
  | number field comparison =>
      cases b with
      | number field' comparison' =>
          cases hkind
          obtain ⟨rfl, hst⟩ := NumberComparison.selfDelimiting_phrase hs ht h
          exact ⟨rfl, hst⟩
      | text | calendar | recent => cases hkind
  | calendar field comparison =>
      cases b with
      | calendar field' comparison' =>
          cases hkind
          obtain ⟨rfl, hst⟩ := DayComparison.selfDelimiting_phrase hs ht h
          exact ⟨rfl, hst⟩
      | recent field' count unit negated =>
          exact absurd h calendar_detail_append_ne
      | text | number => cases hkind
  | recent field count unit negated =>
      cases b with
      | recent field' count' unit' negated' =>
          cases hkind
          obtain ⟨⟨rfl, rfl, rfl⟩, hst⟩ := recent_detail_append_inj h
          exact ⟨rfl, hst⟩
      | calendar field' comparison =>
          exact absurd h.symm calendar_detail_append_ne
      | text | number => cases hkind

end Leaf

/-! ## Trees -/

/-- A tree without empty branches. -/
inductive Node.HasNoEmptyBranch : Node → Prop
  | leaf (test : Leaf) : HasNoEmptyBranch (.leaf test)
  | branch {combinator : Combinator} {children : List Node}
      (hne : children ≠ []) (h : ∀ child ∈ children, HasNoEmptyBranch child) :
      HasNoEmptyBranch (.branch combinator children)

theorem Node.IsFilled.hasNoEmptyBranch {node : Node} (h : node.IsFilled) :
    node.HasNoEmptyBranch := by
  induction h with
  | leaf _ => exact .leaf _
  | branch hne _ ih => exact .branch hne ih

/-- The combinator that stands for those that join a single child alike: the
conjunction, negated or not. -/
def Combinator.ofSingle (combinator : Combinator) : Combinator :=
  if combinator.isNegated then .nand else .and

namespace Node

mutual

/-- A tree, with one combinator for those that would join a single child
alike. -/
def canonical : Node → Node
  | leaf test => leaf test
  | branch combinator children =>
    branch (if children.length = 1 then combinator.ofSingle else combinator)
      (canonicalAll children)

/-- The canonical trees of nodes, in order. -/
def canonicalAll : List Node → List Node
  | [] => []
  | node :: nodes => node.canonical :: canonicalAll nodes

end

theorem canonicalAll_eq_map (nodes : List Node) :
    canonicalAll nodes = nodes.map canonical := by
  induction nodes with
  | nil => rfl
  | cons node nodes ih => rw [canonicalAll, List.map_cons, ih]

/-! ## What a tree without its single joiners means -/

theorem asks_ofSingle {combinator : Combinator} {node : Node}
    {holds : Node → Prop} :
    combinator.ofSingle.Asks [node] holds ↔ combinator.Asks [node] holds := by
  cases combinator <;>
    simp [Combinator.ofSingle, Combinator.isNegated, Combinator.Asks]

/-- What joins a single child does not matter. -/
theorem holds_canonical {node : Node} {now : Instant} {song : Song} :
    node.canonical.Holds now song ↔ node.Holds now song := by
  induction node with
  | leaf test => rw [canonical]
  | branch combinator children ih =>
      have hchildren : combinator.Asks (canonicalAll children) (fun child =>
          child.Holds now song) ↔
          combinator.Asks children fun child => child.Holds now song := by
        rw [canonicalAll_eq_map, Combinator.asks_map]
        exact Combinator.asks_congr (fun _ => Iff.rfl) ih
      rw [canonical, holds_branch_iff, holds_branch_iff]
      split
      · next hlength =>
          obtain ⟨child, rfl⟩ := List.length_eq_one_iff.1 hlength
          exact asks_ofSingle.trans hchildren
      · exact hchildren

theorem criterionCountAll_canonicalAll {nodes : List Node}
    (h : ∀ node ∈ nodes, node.canonical.criterionCount = node.criterionCount) :
    criterionCountAll (canonicalAll nodes) = criterionCountAll nodes := by
  induction nodes with
  | nil => rfl
  | cons node nodes ih =>
      rw [canonicalAll, criterionCountAll, criterionCountAll,
        h node List.mem_cons_self, ih fun n hn =>
          h n (List.mem_cons_of_mem _ hn)]

theorem criterionCount_canonical (node : Node) :
    node.canonical.criterionCount = node.criterionCount := by
  induction node with
  | leaf test => rw [canonical]
  | branch combinator children ih =>
      rw [canonical, criterionCount, criterionCount,
        criterionCountAll_canonicalAll ih]

/-! ## What its phrase tells -/

/-- What may follow the phrase of a filter: nothing, a joiner or the end of a
branch. -/
def EndsFilter (s : List Char) : Prop :=
  s = [] ∨ ∃ c rest, s = c :: rest ∧ (c = ' ' ∨ c = ')')

theorem EndsFilter.endsNumeral (h : EndsFilter s) : EndsNumeral s := by
  rcases h with rfl | ⟨c, rest, rfl, rfl | rfl⟩
  · rfl
  · exact endsNumeral_cons (by decide) rest
  · exact endsNumeral_cons (by decide) rest

/-- What comes after the first child of a branch. -/
def laterChildren (combinator : Combinator) (nodes : List Node) : List Char :=
  nodes.flatMap fun node => (joiner combinator).toList ++ node.phrase.toList

theorem toList_phraseAll (combinator : Combinator) (node : Node)
    (nodes : List Node) :
    (phraseAll (joiner combinator) (node :: nodes)).toList =
      node.phrase.toList ++ laterChildren combinator nodes := by
  induction nodes generalizing node with
  | nil => simp [phraseAll, laterChildren]
  | cons next nodes ih =>
      rw [phraseAll, String.toList_append, String.toList_append, ih,
        laterChildren, laterChildren, List.flatMap_cons, List.append_assoc,
        List.append_assoc]
      · simp

theorem toList_phrase_leaf (test : Leaf) :
    (leaf test).phrase.toList =
      leadWord (.inl test.raw.kind) ++ test.detail := by
  rw [phrase, Leaf.toList_phrase]

theorem toList_phrase_branch (combinator : Combinator) (node : Node)
    (nodes : List Node) :
    (branch combinator (node :: nodes)).phrase.toList =
      leadWord (.inr combinator.isNegated) ++
        (node.phrase.toList ++ (laterChildren combinator nodes ++ [')'])) := by
  rw [phrase, String.toList_append, String.toList_append, toList_phraseAll]
  simp [opening, leadWord]

theorem leaf_phrase_append_ne {test : Leaf} {combinator : Combinator}
    {node : Node} {nodes : List Node} :
    (leaf test).phrase.toList ++ s ≠
      (branch combinator (node :: nodes)).phrase.toList ++ t := by
  intro h
  rw [toList_phrase_leaf, toList_phrase_branch, List.append_assoc,
    List.append_assoc] at h
  cases (selfDelimiting_leadWord trivial trivial h).1

theorem endsFilter_laterChildren (combinator : Combinator) (nodes : List Node)
    (s : List Char) :
    EndsFilter (laterChildren combinator nodes ++ ')' :: s) := by
  cases nodes with
  | nil => exact .inr ⟨')', s, rfl, .inr rfl⟩
  | cons node nodes =>
      cases combinator <;> exact .inr ⟨' ', _, rfl, .inl rfl⟩

/-- Whether a tree can be told from every other by its phrase, but for what
joins single children, wherever the two phrases stand. -/
def IsToldApart (a : Node) : Prop :=
  ∀ ⦃b : Node⦄ ⦃s t⦄, b.HasNoEmptyBranch → EndsFilter s → EndsFilter t →
    a.phrase.toList ++ s = b.phrase.toList ++ t →
      a.canonical = b.canonical ∧ s = t

theorem selfDelimiting_joiner :
    SelfDelimiting (fun disjunction : Bool =>
      (if disjunction then " or " else " and ").toList)
      (fun _ => True) :=
  .of_words fun a b => by cases a <;> cases b <;> decide

/-- After each child comes a joiner, and another child, or the end. -/
theorem laterChildren_append_inj {combinator combinator' : Combinator}
    {nodes nodes' : List Node} (htold : ∀ node ∈ nodes, node.IsToldApart)
    (hnodes' : ∀ node ∈ nodes', node.HasNoEmptyBranch)
    (h : laterChildren combinator nodes ++ ')' :: s =
      laterChildren combinator' nodes' ++ ')' :: t) :
    nodes.map canonical = nodes'.map canonical ∧ s = t ∧
      (nodes ≠ [] → combinator.isDisjunction = combinator'.isDisjunction) := by
  have hjoiner : ∀ combinator : Combinator,
      ∃ rest, (joiner combinator).toList = ' ' :: rest := by
    intro combinator
    cases combinator <;> exact ⟨_, rfl⟩
  induction nodes generalizing nodes' with
  | nil =>
      cases nodes' with
      | nil => exact ⟨rfl, (List.cons.inj h).2, fun hne => absurd rfl hne⟩
      | cons node' nodes' =>
          obtain ⟨rest, hrest⟩ := hjoiner combinator'
          rw [laterChildren, laterChildren, List.flatMap_cons, hrest] at h
          cases h
  | cons node nodes ih =>
      cases nodes' with
      | nil =>
          obtain ⟨rest, hrest⟩ := hjoiner combinator
          rw [laterChildren, laterChildren, List.flatMap_cons, hrest] at h
          cases h
      | cons node' nodes' =>
          simp only [laterChildren, List.flatMap_cons, List.append_assoc] at h
          obtain ⟨hdisjunction, h⟩ := selfDelimiting_joiner trivial trivial h
          obtain ⟨hnode, h⟩ :=
            htold node List.mem_cons_self (hnodes' node' List.mem_cons_self)
            (endsFilter_laterChildren combinator nodes s)
            (endsFilter_laterChildren combinator' nodes' t) h
          obtain ⟨hnodes, hst, -⟩ :=
            ih (fun n hn => htold n (List.mem_cons_of_mem _ hn))
            (fun n hn => hnodes' n (List.mem_cons_of_mem _ hn)) h
          exact ⟨by rw [List.map_cons, List.map_cons, hnode, hnodes], hst,
            fun _ => hdisjunction⟩

theorem canonical_branch_eq {combinator combinator' : Combinator}
    {children children' : List Node}
    (hchildren : children.map canonical = children'.map canonical)
    (hnegated : combinator.isNegated = combinator'.isNegated)
    (hdisjunction : children.length ≠ 1 →
      combinator.isDisjunction = combinator'.isDisjunction) :
    (branch combinator children).canonical =
      (branch combinator' children').canonical := by
  have hlength : children.length = children'.length := by
    simpa using congrArg List.length hchildren
  rw [canonical, canonical, canonicalAll_eq_map, canonicalAll_eq_map, hchildren,
    ← hlength]
  split
  · rw [Combinator.ofSingle, Combinator.ofSingle, hnegated]
  · next hne =>
      have hboth := hdisjunction hne
      have hcombinator : combinator = combinator' := by
        cases combinator <;> cases combinator' <;>
          simp_all [Combinator.isNegated, Combinator.isDisjunction]
      rw [hcombinator]

/-- The induction is on one tree; the other is taken apart as the words of
their phrases agree. -/
theorem HasNoEmptyBranch.isToldApart {a : Node} (ha : a.HasNoEmptyBranch) :
    a.IsToldApart := by
  induction ha with
  | leaf test =>
      intro b s t hb hs ht h
      cases hb with
      | leaf test' =>
          rw [toList_phrase_leaf, toList_phrase_leaf, List.append_assoc,
            List.append_assoc] at h
          obtain ⟨hkind, h⟩ := selfDelimiting_leadWord trivial trivial h
          obtain ⟨rfl, hst⟩ :=
            Leaf.detail_append_inj
              (Sum.inl.inj hkind) hs.endsNumeral ht.endsNumeral h
          exact ⟨rfl, hst⟩
      | branch hne _ =>
          obtain ⟨node, nodes, rfl⟩ := List.exists_cons_of_ne_nil hne
          exact absurd h leaf_phrase_append_ne
  | @branch combinator children hne _ ih =>
      intro b s t hb hs ht h
      obtain ⟨node, nodes, rfl⟩ := List.exists_cons_of_ne_nil hne
      cases hb with
      | leaf test => exact absurd h.symm leaf_phrase_append_ne
      | @branch combinator' children' hne' hchildren' =>
          obtain ⟨node', nodes', rfl⟩ := List.exists_cons_of_ne_nil hne'
          simp only [toList_phrase_branch, List.append_assoc,
            List.singleton_append] at h
          obtain ⟨hnegated, h⟩ := selfDelimiting_leadWord trivial trivial h
          obtain ⟨hnode, h⟩ :=
            ih node List.mem_cons_self (hchildren' node' List.mem_cons_self)
            (endsFilter_laterChildren combinator nodes s)
            (endsFilter_laterChildren combinator' nodes' t) h
          obtain ⟨hnodes, hst, hdisjunction⟩ :=
            laterChildren_append_inj (fun n hn =>
              ih n (List.mem_cons_of_mem _ hn))
              (fun n hn => hchildren' n (List.mem_cons_of_mem _ hn)) h
          -- with one child there was no joiner to read, and the negation is
          -- all that is known
          refine ⟨canonical_branch_eq ?_ (Sum.inr.inj hnegated)
            fun hlength => ?_, hst⟩
          · rw [List.map_cons, List.map_cons, hnode, hnodes]
          · exact hdisjunction (by rintro rfl; exact hlength rfl)

theorem phraseAll_canonicalAll {between : String} {nodes : List Node}
    (h : ∀ node ∈ nodes, node.canonical.phrase = node.phrase) :
    phraseAll between (canonicalAll nodes) = phraseAll between nodes := by
  induction nodes with
  | nil => rfl
  | cons node nodes ih =>
      have hnode := h node List.mem_cons_self
      have hnodes := ih fun n hn => h n (List.mem_cons_of_mem _ hn)
      cases nodes with
      | nil => exact hnode
      | cons next nodes =>
          rw [canonicalAll, phraseAll, phraseAll, hnode, hnodes]
          · simp
          · simp [canonicalAll]

theorem phrase_canonical (node : Node) :
    node.canonical.phrase = node.phrase := by
  induction node with
  | leaf test => rw [canonical]
  | branch combinator children ih =>
      rw [canonical, phrase, phrase, phraseAll_canonicalAll ih]
      split
      · next hlength =>
          obtain ⟨child, rfl⟩ := List.length_eq_one_iff.1 hlength
          cases combinator <;> rfl
      · rfl

/-- Two trees have one phrase exactly when they are the same but for what
joins single children. -/
theorem phrase_eq_iff {a b : Node} (ha : a.HasNoEmptyBranch)
    (hb : b.HasNoEmptyBranch) :
    a.phrase = b.phrase ↔ a.canonical = b.canonical := by
  constructor
  · intro h
    exact (ha.isToldApart hb (.inl rfl) (.inl rfl) (by rw [h])).1
  · intro h
    rw [← phrase_canonical a, h, phrase_canonical]

theorem holds_iff_of_canonical_eq {a b : Node} (h : a.canonical = b.canonical)
    {now : Instant} {song : Song} : a.Holds now song ↔ b.Holds now song := by
  rw [← holds_canonical, h, holds_canonical]

end Node

/-- An explained filter tells what it asks. Two trees without empty branches
that have one phrase are one tree, but for the combinators of branches with a
single child, and so they pass the same songs at any time; whatever their
texts, numbers and dates are, and however deep they go. Every tree that is
read from a form is without empty branches. -/
theorem phrase_unambiguous :
    (∀ a b : Node, a.HasNoEmptyBranch → b.HasNoEmptyBranch →
      (a.phrase = b.phrase ↔ a.canonical = b.canonical) ∧
        (a.phrase = b.phrase → ∀ now song,
          (a.compile now).holds song = (b.compile now).holds song)) ∧
      ∀ form root today built, build form root today = .ok built →
        ∀ node, built.node = some node → node.HasNoEmptyBranch := by
  refine ⟨fun a b ha hb => ⟨Node.phrase_eq_iff ha hb, fun h now song => ?_⟩, ?_⟩
  · rw [Bool.eq_iff_iff, Node.holds_compile, Node.holds_compile]
    exact Node.holds_iff_of_canonical_eq ((Node.phrase_eq_iff ha hb).1 h)
  · intro form root today built h node hnode
    exact (isFilled_of_buildWithin h node hnode).1.hasNoEmptyBranch

/-- Two branches of one child that are joined in different ways and print
alike; the text of the child has a quote, a backslash, parentheses, a joiner
and a line feed in it. -/
theorem phrase_unambiguous_single :
    let test := Node.leaf (.text .title ⟨.contains, false⟩ "\") or not (\\\n")
    (Node.branch .nor [test]).phrase = (Node.branch .nand [test]).phrase ∧
      ∀ now song, ((Node.branch .nor [test]).compile now).holds song =
        ((Node.branch .nand [test]).compile now).holds song := by
  intro test
  have hphrase : (Node.branch .nor [test]).phrase =
      (Node.branch .nand [test]).phrase := rfl
  have hsingle :
      ∀ combinator, (Node.branch combinator [test]).HasNoEmptyBranch := fun _ =>
    .branch (List.cons_ne_nil _ _) fun child hchild =>
      List.mem_singleton.1 hchild ▸ .leaf _
  obtain ⟨htrees, -⟩ := phrase_unambiguous
  exact ⟨hphrase, (htrees _ _ (hsingle .nor) (hsingle .nand)).2 hphrase⟩

/-! ## What is explained is what is run -/

theorem Node.HasNoEmptyBranch.exists_lead {node : Node}
    (h : node.HasNoEmptyBranch) :
    ∃ lead rest, node.phrase.toList = leadWord lead ++ rest := by
  cases h with
  | leaf test => exact ⟨_, _, toList_phrase_leaf test⟩
  | branch hne _ =>
      obtain ⟨child, children, rfl⟩ := List.exists_cons_of_ne_nil hne
      exact ⟨_, _, toList_phrase_branch _ child children⟩

/-- No phrase reads like what is printed for a filter without a tree. -/
theorem Node.HasNoEmptyBranch.phrase_ne_none {node : Node}
    (h : node.HasNoEmptyBranch) :
    node.phrase ≠ "(none)" := by
  have hleaf : ∀ kind, ¬leadWord (.inl kind) <+: "(none)".toList := by
    rintro (field | field | field) <;> cases field <;> decide
  have hbranch : ∀ negated lead, ¬leadWord (.inr negated) ++ leadWord lead <+:
      "(none)".toList := by
    rintro negated ((lead | lead | lead) | lead) <;> cases negated <;>
      cases lead <;> decide
  intro hnone
  -- an opening alone could begin it, but not with what a child begins with
  -- behind it
  cases h with
  | leaf test =>
      refine hleaf test.raw.kind ⟨test.detail, ?_⟩
      rw [← toList_phrase_leaf, hnone]
  | @branch combinator children hne hchildren =>
      obtain ⟨child, children, rfl⟩ := List.exists_cons_of_ne_nil hne
      obtain ⟨lead, rest, hlead⟩ :=
        (hchildren child List.mem_cons_self).exists_lead
      refine hbranch combinator.isNegated lead
        ⟨rest ++ (laterChildren combinator children ++ [')']), ?_⟩
      rw [← hnone, toList_phrase_branch, hlead, List.append_assoc,
        List.append_assoc]

theorem Node.outcome_eq_of_canonical_eq {a b : Node}
    (h : a.canonical = b.canonical) (now : Instant) (listed : List Song) :
    a.outcome now listed = b.outcome now listed := by
  have hcount : a.criterionCount = b.criterionCount := by
    rw [← criterionCount_canonical, h, criterionCount_canonical]
  have hsongs : listed.filter (fun song => decide (a.Holds now song)) =
      listed.filter fun song => decide (b.Holds now song) :=
    List.filter_congr fun song _ =>
      by rw [decide_eq_decide, holds_iff_of_canonical_eq h]
  rw [outcome, outcome, hcount, hsongs]

/-- Two filters without errors that explain themselves alike give the same
songs, and count the same criteria, from any catalog. -/
theorem run_eq_of_explanation_eq {form form' : Form} {root root' : String}
    {now : Instant} {built built' : Built}
    (hbuilt : build form root now.date = .ok built)
    (hbuilt' : build form' root' now.date = .ok built')
    (herrors : built.errors = []) (herrors' : built'.errors = [])
    (h : Cli.explanation form root now.date =
      Cli.explanation form' root' now.date)
    (visible : Except CatalogError (List Song)) :
    run form root visible now = run form' root' visible now := by
  have hfull : ∀ node, built.node = some node → node.HasNoEmptyBranch :=
    fun node hnode =>
      (isFilled_of_buildWithin hbuilt node hnode).1.hasNoEmptyBranch
  have hfull' : ∀ node, built'.node = some node → node.HasNoEmptyBranch :=
    fun node hnode =>
      (isFilled_of_buildWithin hbuilt' node hnode).1.hasNoEmptyBranch
  have houtcome :
      ∀ listed, built.outcome now listed = built'.outcome now listed := by
    intro listed
    simp only [Cli.explanation, hbuilt, hbuilt', ← String.toList_inj,
      String.toList_append, List.append_assoc, List.append_cancel_left_eq,
      List.append_cancel_right_eq] at h
    rw [String.toList_inj] at h
    rw [Built.outcome, Built.outcome]
    cases hnode : built.node with
    | none =>
        cases hnode' : built'.node with
        | none => rfl
        | some node' =>
            rw [hnode, hnode'] at h
            exact absurd h.symm (hfull' node' hnode').phrase_ne_none
    | some node =>
        cases hnode' : built'.node with
        | none =>
            rw [hnode, hnode'] at h
            exact absurd h (hfull node hnode).phrase_ne_none
        | some node' =>
            rw [hnode, hnode'] at h
            exact Node.outcome_eq_of_canonical_eq
              ((Node.phrase_eq_iff (hfull node hnode)
                (hfull' node' hnode')).1 h) now listed
  rw [run, run, hbuilt, hbuilt']
  simp only [Built.run_of_errors_eq_nil
    (Built.isBalanced_of_buildWithin hbuilt) herrors,
    Built.run_of_errors_eq_nil
      (Built.isBalanced_of_buildWithin hbuilt') herrors', houtcome]

end Songbook.Filter
