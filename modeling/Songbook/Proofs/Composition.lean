import Songbook.Proofs.Outcomes
import Songbook.Proofs.Relocation

/-!
# Filters put together

Filters that were made apart can be put below one branch, each as a child of
it, and what comes of the branch can be said from what comes of the filters,
without a look into their trees. Below a branch a filter is what it is alone,
because it reads its own keys only; it has one level less room, which makes no
difference unless there is too little.

The one thing that does not carry over is what a filter gives that asks for
nothing. Alone it gives every song, and so it would be wrong to join the songs
that the filters give: such a filter would widen an `or` to all songs and
leave a `nor` without any. Below a branch it is dropped, so it constrains
nothing under any of the four combinators. The outcome of a branch is
therefore said over the outcomes of the filters that ask for something.
-/

namespace Songbook.Filter

/-! ## Forms -/

/-- A filter in a form of its own, and where it begins there. -/
structure Part where
  form : Form
  address : String

/-- Whether a filter reads without a fault and without an error. -/
def Part.IsValid (part : Part) (today : Date) : Prop :=
  ∃ built, build part.form part.address today = .ok built ∧ built.errors = []

namespace Form

/-- Whether a form has several filters as the children of a branch, and no
child after them. -/
structure Combines (form : Form) (root : String) (combinator : Combinator)
    (parts : List Part) : Prop where
  token : form.get? root = some combinator.token
  agrees : ∀ index (part : Part), parts[index]? = some part →
    part.form.Agrees part.address form (Address.child root index)
  ends : form.contains (Address.child root parts.length) = false

/-- The entries of a branch over several filters: its combinator, and behind
the address of each child what the form of the part holds behind its own. -/
def entriesCombined (root : String) (combinator : Combinator)
    (parts : List Part) : List (String × String) :=
  (root, combinator.token) :: parts.zipIdx.flatMap fun part =>
    part.1.form.entriesMoved part.1.address (Address.child root part.2)

/-- A form with nothing but several filters as the children of a branch. -/
def combine (root : String) (combinator : Combinator) (parts : List Part) :
    Form :=
  ofList (entriesCombined root combinator parts)

section Combine

variable {root : String} {combinator : Combinator} {parts : List Part}

theorem mem_entriesCombined_iff {key text : String} :
    (key, text) ∈ entriesCombined root combinator parts ↔
      (key = root ∧ text = combinator.token) ∨
        ∃ index part rest, parts[index]? = some part ∧ Address.IsBelow rest ∧
          key = Address.child root index ++ rest ∧
          part.form.get? (part.address ++ rest) = some text := by
  rw [entriesCombined, List.mem_cons, Prod.mk.injEq, List.mem_flatMap]
  refine or_congr_right ?_
  constructor
  · rintro ⟨⟨part, index⟩, hpart, hmem⟩
    obtain ⟨rest, hbelow, hkey, hget⟩ := mem_entriesMoved_iff.1 hmem
    exact ⟨index, part, rest, List.mk_mem_zipIdx_iff_getElem?.1 hpart,
      hbelow, hkey, hget⟩
  · rintro ⟨index, part, rest, hpart, hbelow, hkey, hget⟩
    exact ⟨(part, index), List.mk_mem_zipIdx_iff_getElem?.2 hpart,
      mem_entriesMoved_iff.2 ⟨rest, hbelow, hkey, hget⟩⟩

/-- Whatever else the forms of the filters hold, no key of one becomes a key
of another. -/
theorem combines_combine (root : String) (combinator : Combinator)
    (parts : List Part) :
    (combine root combinator parts).Combines root combinator parts where
  token := by
    refine get?_ofList fun text => ?_
    rw [mem_entriesCombined_iff]
    constructor
    · rintro (⟨-, rfl⟩ | ⟨index, part, rest, -, -, hkey, -⟩)
      · rfl
      · exact absurd hkey.symm Address.child_append_ne_self
    · exact fun htext => .inl ⟨rfl, (Option.some.inj htext).symm⟩
  agrees index part hpart rest hrest := by
    refine get?_ofList fun text => ?_
    rw [mem_entriesCombined_iff]
    constructor
    · rintro (⟨hkey, -⟩ | ⟨index', part', rest', hpart', hbelow, hkey, hget⟩)
      · exact absurd hkey Address.child_append_ne_self
      · obtain ⟨rfl, rfl⟩ := Address.child_append_inj hrest.isBelow hbelow hkey
        rw [hpart] at hpart'
        cases hpart'
        exact hget
    · exact fun hget =>
        .inr ⟨index, part, rest, hpart, hrest.isBelow, rfl, hget⟩
  ends := by
    have hnone : (combine root combinator parts).get?
        (Address.child root parts.length) = none := by
      refine get?_ofList fun text => iff_of_false ?_ nofun
      rw [← String.append_empty (s := Address.child root parts.length),
        mem_entriesCombined_iff]
      rintro (⟨hkey, -⟩ | ⟨index, part, rest, hpart, hbelow, hkey, -⟩)
      · exact Address.child_append_ne_self hkey
      · obtain ⟨rfl, -⟩ :=
          Address.child_append_inj Address.IsSuffix.entry.isBelow hbelow hkey
        rw [List.getElem?_eq_none (Nat.le_refl _)] at hpart
        cases hpart
    rw [contains, hnone]
    rfl

end Combine

end Form

/-! ## Reading -/

section Reading

variable {form : Form} {root : String} {combinator : Combinator}
  {parts : List Part} {today : Date}

/-- What a filter reads to below a branch, without errors. -/
def Part.ReadsTo (today : Date) (part : Part) (built : Built) : Prop :=
  buildWithin part.form today maxDepth part.address = .ok built ∧
    built.errors = []

theorem Part.ReadsTo.build_eq {part : Part} {built : Built}
    (h : part.ReadsTo today built) :
    build part.form part.address today = .ok built := by
  rw [build, buildWithin_more_room, h.1]
  rw [h.1]
  exact nofun

/-- A valid filter is the same below a branch, if it fits there. -/
theorem Part.IsValid.fits_or_tooDeep {part : Part} (h : part.IsValid today) :
    (∃ built, part.ReadsTo today built) ∨
      ∃ place, buildWithin part.form today maxDepth part.address =
        .error (.tooDeep place) := by
  by_cases hdeep : ∃ place, buildWithin part.form today maxDepth part.address =
      .error (.tooDeep place)
  · exact .inr hdeep
  · obtain ⟨built, hb, he⟩ := h
    rw [build, buildWithin_more_room fun place hp => hdeep ⟨place, hp⟩] at hb
    exact .inl ⟨built, hb, he⟩

namespace Form.Combines

/-- The children of the branch are the filters, as long as each of them is
there. -/
theorem childCount (h : form.Combines root combinator parts)
    (hpresent : ∀ part ∈ parts, part.form.contains part.address = true) :
    form.childCount root = parts.length := by
  refine childCount_eq (fun index hi => ?_) h.ends
  have hpart := List.getElem?_eq_getElem hi
  rw [contains, (h.agrees index _ hpart).moves.get?_entry]
  exact hpresent _ (List.getElem_mem hi)

theorem children (h : form.Combines root combinator parts)
    (hpresent : ∀ part ∈ parts, part.form.contains part.address = true) :
    form.children root =
      (List.range parts.length).map (Address.child root) := by
  rw [(form.children_eq_map_range root).1, h.childCount hpresent]

/-- If the branch is not too deep, neither is any of the filters below it. -/
theorem exists_readsTo (h : form.Combines root combinator parts)
    (hpresent : ∀ part ∈ parts, part.form.contains part.address = true)
    (hvalid : ∀ part ∈ parts, part.IsValid today)
    (hdepth : ∀ place, build form root today ≠ .error (.tooDeep place)) :
    ∃ builts, List.Forall₂ (Part.ReadsTo today) parts builts := by
  refine exists_forall₂ fun part hpart =>
    (hvalid part hpart).fits_or_tooDeep.resolve_right ?_
  rintro ⟨place, hdeep⟩
  have hread : ∀ index (hi : index < parts.length),
      errorOf? (buildWithin form today maxDepth (Address.child root index)) =
        (errorOf? (buildWithin parts[index].form today maxDepth
          parts[index].address)).map (SchemaFault.relocate _) :=
    fun index hi => by
    rw [(h.agrees index _ (List.getElem?_eq_getElem hi)).moves.buildWithin,
      errorOf?_relocate]
  have hbuild : errorOf? (build form root today) =
      (List.range parts.length).findSome? fun index =>
        errorOf? (buildWithin form today maxDepth
          (Address.child root index)) := by
    rw [build, errorOf?_buildWithin_succ, resolve_of_combinator h.token]
    simp only [h.children hpresent, List.findSome?_map, Function.comp_def]
  -- One child ends with a fault, so the branch ends with the fault of the
  -- first that does, and that of a valid filter can only be that it is too
  -- deep.
  cases hfirst : errorOf? (build form root today) with
  | none =>
      rw [hfirst] at hbuild
      obtain ⟨index, hi, rfl⟩ := List.getElem_of_mem hpart
      have hnone :=
        List.findSome?_eq_none_iff.1 hbuild.symm index (List.mem_range.2 hi)
      rw [hread index hi, hdeep] at hnone
      cases hnone
  | some fault =>
      rw [hfirst] at hbuild
      obtain ⟨index, hmem, hfault⟩ :=
        List.exists_of_findSome?_eq_some hbuild.symm
      have hi := List.mem_range.1 hmem
      rw [hread index hi] at hfault
      rcases (hvalid _ (List.getElem_mem hi)).fits_or_tooDeep
          with ⟨built, hb, -⟩ | ⟨place, hp⟩
      · rw [hb] at hfault
        cases hfault
      · rw [hp] at hfault
        cases hfault
        exact hdepth _ (errorOf?_eq_some_iff.1 hfirst)

/-- What is read is a branch over what is read of each filter alone. -/
theorem build_eq (h : form.Combines root combinator parts)
    (hpresent : ∀ part ∈ parts, part.form.contains part.address = true)
    {builts : List Built}
    (hread : List.Forall₂ (Part.ReadsTo today) parts builts) :
    build form root today = .ok (.branch combinator builts) := by
  refine buildWithin_succ_eq_ok_iff.2 (.inr (.inr ⟨combinator, builts,
    resolve_of_combinator h.token, ?_, rfl⟩))
  obtain ⟨hlength, hget⟩ := List.forall₂_iff_get.1 hread
  rw [h.children hpresent, hlength]
  refine forall₂_map_range fun index hi => ?_
  have hpart : index < parts.length := hlength ▸ hi
  obtain ⟨hb, he⟩ : (parts[index]).ReadsTo today builts[index] :=
    hget index hpart hi
  rw [(h.agrees index _ (List.getElem?_eq_getElem hpart)).moves.buildWithin, hb,
    relocate, Built.relocate_of_errors_eq_nil he]

end Form.Combines

end Reading

/-! ## Outcomes -/

/-- Whether nothing was asked for. -/
def Outcome.isUnfiltered : Outcome → Bool
  | filtered _ _ => false
  | unfiltered _ => true
  | rejected _ => false

/-- The criteria that an outcome counts; only songs that were filtered have
any. -/
def Outcome.criteria : Outcome → Nat
  | filtered _ criteria => criteria
  | unfiltered _ => 0
  | rejected _ => 0

namespace Combinator

/-- What a combinator asks of several things. -/
def Asks {α : Type} (combinator : Combinator) (l : List α) (holds : α → Prop) :
    Prop :=
  match combinator with
  | and => ∀ a ∈ l, holds a
  | or => ∃ a ∈ l, holds a
  | nand => ¬∀ a ∈ l, holds a
  | nor => ¬∃ a ∈ l, holds a

instance {α : Type} (combinator : Combinator) (l : List α) (holds : α → Prop)
    [DecidablePred holds] : Decidable (combinator.Asks l holds) :=
  match combinator with
  | and => inferInstanceAs (Decidable (∀ a ∈ l, holds a))
  | or => inferInstanceAs (Decidable (∃ a ∈ l, holds a))
  | nand => inferInstanceAs (Decidable (¬∀ a ∈ l, holds a))
  | nor => inferInstanceAs (Decidable (¬∃ a ∈ l, holds a))

theorem asks_map {α β : Type} {combinator : Combinator} {f : α → β} {l : List α}
    {holds : β → Prop} :
    combinator.Asks (l.map f) holds ↔ combinator.Asks l (holds ∘ f) := by
  cases combinator <;> simp [Asks]

theorem asks_congr {α : Type} {combinator : Combinator} {l l' : List α}
    {holds holds' : α → Prop} (hmem : ∀ a, a ∈ l ↔ a ∈ l')
    (h : ∀ a ∈ l, holds a ↔ holds' a) :
    combinator.Asks l holds ↔ combinator.Asks l' holds' := by
  have hall : (∀ a ∈ l, holds a) ↔ ∀ a ∈ l', holds' a := by
    simp only [← hmem]
    exact forall₂_congr h
  have hany : (∃ a ∈ l, holds a) ↔ ∃ a ∈ l', holds' a := by
    simp only [← hmem]
    exact exists_congr fun a => and_congr_right (h a)
  cases combinator with
  | and => exact hall
  | or => exact hany
  | nand => exact not_congr hall
  | nor => exact not_congr hany

/-- What comes of several filters below a branch, when `listed` are the
visible songs. -/
def outcome (combinator : Combinator) (listed : List Song)
    (outcomes : List Outcome) : Outcome :=
  let asked := outcomes.filter fun outcome => !outcome.isUnfiltered
  if asked.isEmpty then .unfiltered listed
  else .filtered
    (listed.filter fun song => combinator.Asks asked fun outcome =>
      song ∈ outcome.songs)
    (outcomes.foldr (fun outcome total => outcome.criteria + total) 0)

theorem outcome_perm {combinator : Combinator} {listed : List Song}
    {outcomes outcomes' : List Outcome} (h : outcomes.Perm outcomes') :
    combinator.outcome listed outcomes =
      combinator.outcome listed outcomes' := by
  have hasked := h.filter fun outcome => !outcome.isUnfiltered
  have hsum : outcomes.foldr (fun outcome total => outcome.criteria + total) 0 =
      outcomes'.foldr (fun outcome total => outcome.criteria + total) 0 :=
    h.foldr_eq'
      (fun a _ b _ total => Nat.add_left_comm b.criteria a.criteria total) 0
  have hsongs : ∀ song, combinator.Asks (outcomes.filter fun outcome =>
      !outcome.isUnfiltered)
      (fun outcome => song ∈ outcome.songs) ↔
      combinator.Asks (outcomes'.filter fun outcome => !outcome.isUnfiltered)
        (fun outcome => song ∈ outcome.songs) := fun song =>
    asks_congr (fun _ => hasked.mem_iff) fun _ _ => Iff.rfl
  simp only [outcome, hasked.isEmpty_eq, hsum, hsongs]

end Combinator

theorem Node.holds_branch_iff {combinator : Combinator} {children : List Node}
    {now : Instant} {song : Song} :
    (branch combinator children).Holds now song ↔
        combinator.Asks children fun child => child.Holds now song := by
  cases combinator <;> simp only [Node.Holds, Combinator.Asks, exists_prop]

/-- What comes of a tree, when `listed` are the visible songs. -/
def Node.outcome (now : Instant) (listed : List Song) (node : Node) : Outcome :=
  .filtered (listed.filter fun song => node.Holds now song) node.criterionCount

namespace Built

variable {now : Instant} {listed : List Song} {built : Built}

/-- What comes of a filter without errors, when `listed` are the visible
songs. -/
def outcome (now : Instant) (listed : List Song) (built : Built) : Outcome :=
  match built.node with
  | some node => node.outcome now listed
  | none => .unfiltered listed

theorem run_of_errors_eq_nil (hb : built.IsBalanced) (he : built.errors = [])
    {visible : Except CatalogError (List Song)} :
    built.run visible now = visible.map fun listed =>
      built.outcome now listed := by
  cases hn : built.node with
  | none =>
      rw [run_of_node_eq_none he hn]
      simp only [outcome, hn]
  | some node =>
      rw [run_of_node_eq_some hb he hn]
      simp only [outcome, hn, Node.outcome]

theorem asked_map_outcome {builts : List Built} :
    (builts.map (outcome now listed)).filter (fun outcome =>
      !outcome.isUnfiltered) =
      (builts.filterMap (·.node)).map (Node.outcome now listed) := by
  induction builts with
  | nil => rfl
  | cons built builts ih =>
      rw [List.map_cons, List.filter_cons, ih]
      cases hn : built.node with
      | none =>
          rw [List.filterMap_cons_none hn]
          simp only [outcome, hn]
          rfl
      | some node =>
          rw [List.filterMap_cons_some hn]
          simp only [outcome, hn]
          rfl

theorem criteria_outcome :
    (built.outcome now listed).criteria = built.leafCount := by
  rw [outcome, leafCount]
  cases built.node <;> rfl

theorem outcome_branch {combinator : Combinator} {builts : List Built}
    (h : ∀ built ∈ builts, built.IsBalanced) :
    (branch combinator builts).outcome now listed =
      combinator.outcome listed (builts.map (outcome now listed)) := by
  rw [Combinator.outcome, asked_map_outcome, List.isEmpty_map, outcome,
    node_branch h]
  split
  · next node hn =>
      split at hn
      · cases hn
      · next hne =>
          cases hn
          rw [if_neg hne, Node.outcome, Node.criterionCount,
            criterionCountAll_filterMap_node, List.foldr_map]
          simp only [criteria_outcome]
          congr 1
          refine List.filter_congr fun song hsong => ?_
          rw [decide_eq_decide, Combinator.asks_map, Node.holds_branch_iff]
          refine Combinator.asks_congr (fun _ => Iff.rfl) fun node _ => ?_
          simp [Node.outcome, Outcome.songs, hsong]
  · next hn =>
      split at hn
      · next hempty => rw [if_pos hempty]
      · cases hn

end Built

/-! ## Filters and what comes of them -/

section Run

variable {now : Instant} {visible : Except CatalogError (List Song)}

theorem Part.ReadsTo.run_eq {part : Part} {built : Built}
    (h : part.ReadsTo now.date built) :
    run part.form part.address visible now =
      visible.map (built.outcome now ·) := by
  rw [run, h.build_eq]
  exact Built.run_of_errors_eq_nil (Built.isBalanced_of_buildWithin h.1) h.2

theorem Form.Combines.run_eq {form : Form} {root : String}
    {combinator : Combinator} {parts : List Part}
    (h : form.Combines root combinator parts)
    (hpresent : ∀ part ∈ parts, part.form.contains part.address = true)
    {builts : List Built}
    (hread : List.Forall₂ (Part.ReadsTo now.date) parts builts) :
    run form root visible now = visible.map fun listed =>
      combinator.outcome listed (builts.map (Built.outcome now listed)) := by
  have hparts : ∀ built ∈ builts, built.IsBalanced ∧ built.errors = [] := by
    intro built hmem
    obtain ⟨part, -, hb, he⟩ := exists_mem_of_forall₂ hread built hmem
    exact ⟨Built.isBalanced_of_buildWithin hb, he⟩
  have hbalanced : ∀ built ∈ builts, built.IsBalanced :=
    fun built hmem => (hparts built hmem).1
  have herrors : (Built.branch combinator builts).errors = [] := by
    rw [Built.errors_branch hbalanced, List.flatMap_eq_nil_iff]
    exact fun built hmem => (hparts built hmem).2
  rw [run, h.build_eq hpresent hread]
  simp only [Built.run_of_errors_eq_nil
    (Built.isBalanced_branch hbalanced) herrors,
    Built.outcome_branch hbalanced]

end Run

/-- Valid filters compose, provided that together they are not too deep. They
can be moved below one branch, and whatever form has them there, with the
branch at its root, gives what can be said from what they give alone over the
same songs. If each of them gives every song as nothing was asked for, so does
the branch, under any combinator. Otherwise it is a filter of as many criteria
as they have together, and the songs, in the order of the catalog, are those
that every filter that asks for something gives, or at least one of them, or
not every one, or none, as the combinator says; filters that ask for nothing
have no say in it. The order of the filters makes no difference, and an error
of the catalog comes back. -/
theorem run_combination {parts : List Part} {now : Instant}
    (hpresent : ∀ part ∈ parts, part.form.contains part.address = true)
    (hvalid : ∀ part ∈ parts, part.IsValid now.date) (root : String)
    (combinator : Combinator) :
    (Form.combine root combinator parts).Combines root combinator parts ∧
      ∀ form : Form, form.Combines root combinator parts →
        (∀ place, build form root now.date ≠ .error (.tooDeep place)) →
        (∀ e, run form root (.error e) now = .error e) ∧
        ∀ listed, ∃ outcomes,
          List.Forall₂ (fun (part : Part) outcome =>
            run part.form part.address (.ok listed) now = .ok outcome)
            parts outcomes ∧
          ((∀ outcome ∈ outcomes, outcome.isUnfiltered = true) →
            run form root (.ok listed) now = .ok (.unfiltered listed)) ∧
          ((∃ outcome ∈ outcomes, outcome.isUnfiltered = false) →
            run form root (.ok listed) now = .ok (.filtered
              (listed.filter fun song =>
                combinator.Asks
                  (outcomes.filter fun outcome => !outcome.isUnfiltered)
                  fun outcome => song ∈ outcome.songs)
              (outcomes.foldr
                (fun outcome total => outcome.criteria + total) 0))) ∧
          ∀ (form' : Form) root' parts', parts'.Perm parts →
            form'.Combines root' combinator parts' →
            run form' root' (.ok listed) now =
              run form root (.ok listed) now := by
  refine ⟨Form.combines_combine root combinator parts, fun form h hdepth => ?_⟩
  obtain ⟨builts, hread⟩ := h.exists_readsTo hpresent hvalid hdepth
  refine ⟨fun e => h.run_eq hpresent hread, fun listed => ?_⟩
  have hrun : run form root (.ok listed) now =
      .ok (combinator.outcome listed (builts.map (Built.outcome now listed))) :=
    h.run_eq hpresent hread
  refine ⟨builts.map (Built.outcome now listed), ?_, fun hvoid => ?_, ?_, ?_⟩
  · exact List.forall₂_map_right_iff.2
      (hread.imp fun part built hpart => hpart.run_eq)
  · have hasked : (builts.map (Built.outcome now listed)).filter
        (fun outcome => !outcome.isUnfiltered) = [] := by
      rw [List.filter_eq_nil_iff]
      intro outcome hmem
      simp [hvoid outcome hmem]
    rw [hrun, Combinator.outcome, hasked]
    rfl
  · rintro ⟨outcome, hmem, hasks⟩
    rw [hrun, Combinator.outcome, if_neg]
    rw [List.isEmpty_iff]
    exact List.ne_nil_of_mem (List.mem_filter.2 ⟨hmem, by simp [hasks]⟩)
  · intro form' root' parts' hperm h'
    have hpresent' : ∀ part ∈ parts', part.form.contains part.address = true :=
      fun part hmem => hpresent part (hperm.mem_iff.1 hmem)
    obtain ⟨builts', hread', hbuilts⟩ := List.perm_comp_forall₂ hperm hread
    rw [hrun, h'.run_eq hpresent' hread', Except.map,
      Combinator.outcome_perm (hbuilts.map _)]

/-- A filter that asks for nothing, one that begins where the branch will be,
and one with two criteria. -/
def sampleParts : List Part :=
  [⟨.ofList [("a", "and"), ("a_0", "title"), ("a_0_f0", " ")], "a"⟩,
    ⟨.ofList [("k", "track"), ("k_r", "lte"), ("k_f0", "3")], "k"⟩,
    ⟨.ofList [("b", "or"), ("b_0", "play_count"), ("b_0_r", "gte"),
      ("b_0_f0", "5"), ("b_1", "last_queued"), ("b_1_r", "last"),
      ("b_1_f0", "2"), ("b_1_f1", "day")], "b"⟩]

/-- A song of which only a track and a play count are told. -/
def sampleSong (track playCount : Int64) : Song :=
  ⟨⟨0⟩, "", "", "", track, 0, playCount, .epoch, none, true⟩

/-- Songs that differ in their track and their play count. -/
def sampleSongs : List Song :=
  [sampleSong 2 9, sampleSong 7 1, sampleSong 8 6]

theorem run_combination_sample :
    (∀ part ∈ sampleParts, part.form.contains part.address = true) ∧
      (∀ part ∈ sampleParts, part.IsValid Instant.epoch.date) ∧
      run (.combine "k" .nor sampleParts) "k" (.ok sampleSongs) .epoch =
        .ok (.filtered [sampleSong 7 1] 3) ∧
      ∀ form root parts, parts.Perm sampleParts →
        Form.Combines form root .nor parts →
        run form root (.ok sampleSongs) .epoch =
          .ok (.filtered [sampleSong 7 1] 3) := by
  have hpresent : ∀ part ∈ sampleParts, part.form.contains part.address =
      true := by decide
  have hvalid : ∀ part ∈ sampleParts, part.IsValid Instant.epoch.date := by
    refine List.forall_mem_cons.2 ⟨⟨_, rfl, rfl⟩,
      List.forall_mem_cons.2 ⟨⟨_, rfl, rfl⟩,
      List.forall_mem_cons.2 ⟨⟨_, rfl, rfl⟩, List.forall_mem_nil _⟩⟩⟩
  have hbuild : build (.combine "k" .nor sampleParts) "k" Instant.epoch.date =
      .ok ⟨some (.branch .nor [.leaf (.number .track (.atMost 3)),
        .branch .or [.leaf (.number .playCount (.atLeast 5)),
          .leaf (.recent .lastQueued 2 .day false)]]), 3, []⟩ := by
    rfl
  have hrun : run (.combine "k" .nor sampleParts) "k" (.ok sampleSongs) .epoch =
      .ok (.filtered [sampleSong 7 1] 3) := by
    rw [run, hbuild]
    rfl
  have hdepth : ∀ place,
      build (.combine "k" .nor sampleParts) "k" Instant.epoch.date ≠
      .error (.tooDeep place) := by
    rw [hbuild]
    intro place h
    cases h
  obtain ⟨hcombines, hresult⟩ := run_combination hpresent hvalid "k" .nor
  obtain ⟨-, hlisted⟩ := hresult _ hcombines hdepth
  obtain ⟨outcomes, -, -, -, hperm⟩ := hlisted sampleSongs
  exact ⟨hpresent, hvalid, hrun, fun form root parts hparts h =>
    (hperm form root parts hparts h).trans hrun⟩

end Songbook.Filter
