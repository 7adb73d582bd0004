import Songbook.Catalog.Basic
import Songbook.Proofs.Meaning
import Songbook.Proofs.Tally

/-!
# What comes of a filter

Reading the form decides what comes of a filter, and it decides it before a
song is looked at. The one arm that could give too much is the last: a filter
without a tree gives every visible song, so a valid tree must never get lost
on the way, and a tree that counts nothing must never be there. Neither
happens, because what is read is balanced; so the songs of a filter with
criteria are those that its tree holds of, and every song is given only where
nothing was asked for.

A catalog is here what it answers when it is asked for its visible songs. It
may answer with an error of its own, and then a filter that needs songs fails
with that error and no other.
-/

namespace Songbook.Filter

/-! ## One tree -/

theorem Predicate.select_compile {node : Node} {now : Instant} {criteria : Nat}
    {songs : List Song} (h : 0 < criteria) :
    (node.compile now).select criteria songs =
      songs.filter fun song => node.Holds now song := by
  rw [select, if_neg (by omega)]
  refine List.filter_congr fun song _ => ?_
  rw [Bool.eq_iff_iff, decide_eq_true_eq]
  exact Node.holds_compile

namespace Built

variable {built : Built} {visible : Except CatalogError (List Song)}
  {now : Instant}

theorem run_of_errors_ne_nil (he : built.errors ≠ []) :
    built.run visible now = .ok (.rejected built.errors) := by
  rw [run, isValid, List.isEmpty_eq_false_iff.2 he]
  exact if_neg Bool.false_ne_true

theorem run_of_node_eq_none (he : built.errors = []) (hn : built.node = none) :
    built.run visible now = visible.map .unfiltered := by
  rw [run, isValid, he, hn]
  exact if_pos rfl

theorem run_of_node_eq_some {node : Node} (hb : built.IsBalanced)
    (he : built.errors = []) (hn : built.node = some node) :
    built.run visible now = visible.map fun songs =>
      .filtered (songs.filter fun song => node.Holds now song)
        node.criterionCount := by
  have hcount : built.count = node.criterionCount := by
    rw [hb.count_eq_leafCount he, leafCount, hn]
  have hpos : 0 < node.criterionCount := hb.criterionCount_pos node hn
  rw [run, isValid, he, hn, List.isEmpty_nil, if_pos rfl]
  simp only [hcount, if_pos hpos, Predicate.select_compile hpos]
  rfl

end Built

/-! ## Every form -/

/-- The four things a filter can come to, each for all catalogs at once. -/
theorem run_cases (form : Form) (address : String) (now : Instant) :
    (∃ fault, build form address now.date = .error fault ∧
      ∀ visible, run form address visible now =
        .error (.malformedFilter fault)) ∨
    (∃ built, build form address now.date = .ok built ∧ built.errors ≠ [] ∧
      ∀ visible, run form address visible now = .ok (.rejected built.errors)) ∨
    (∃ built, build form address now.date = .ok built ∧ built.errors = [] ∧
      built.leafCount = 0 ∧
      ∀ visible, run form address visible now = visible.map .unfiltered) ∨
    ∃ built node, build form address now.date = .ok built ∧ built.errors = [] ∧
      built.node = some node ∧ 0 < node.criterionCount ∧
      ∀ visible, run form address visible now = visible.map fun songs =>
        .filtered (songs.filter fun song => node.Holds now song)
          node.criterionCount := by
  cases hb : build form address now.date with
  | error fault =>
      refine .inl ⟨fault, rfl, fun visible => ?_⟩
      rw [run, hb]
  | ok built =>
      have hrun : ∀ visible, run form address visible now =
          built.run visible now := by
        intro visible
        rw [run, hb]
      have hbal : built.IsBalanced := Built.isBalanced_of_buildWithin hb
      refine .inr ?_
      by_cases he : built.errors = []
      · refine .inr ?_
        cases hn : built.node with
        | none =>
            refine .inl ⟨built, rfl, he, hbal.node_eq_none_iff.1 hn,
              fun visible => ?_⟩
            rw [hrun, Built.run_of_node_eq_none he hn]
        | some node =>
            refine .inr ⟨built, node, rfl, he, hn,
              hbal.criterionCount_pos node hn, ?_⟩
            intro visible
            rw [hrun, Built.run_of_node_eq_some hbal he hn]
      · refine .inl ⟨built, rfl, he, fun visible => ?_⟩
        rw [hrun, Built.run_of_errors_ne_nil he]

section Classified

variable {form : Form} {address : String} {now : Instant}
  {visible : Except CatalogError (List Song)}

/-- A filter fails on a fault in the form, or on an error of the catalog when
songs are needed. -/
theorem run_eq_error_iff {e : CatalogError} :
    run form address visible now = .error e ↔
      (∃ fault, build form address now.date = .error fault ∧
        e = .malformedFilter fault) ∨
      ∃ built, build form address now.date = .ok built ∧ built.errors = [] ∧
        visible = .error e := by
  rcases run_cases form address now with ⟨fault, hb, hrun⟩ |
    ⟨built, hb, he, hrun⟩ |
    ⟨built, hb, he, -, hrun⟩ | ⟨built, node, hb, he, -, -, hrun⟩
  · simp [hrun, hb, eq_comm]
  · simp [hrun, hb, he]
  · cases visible <;> simp [hrun, hb, he, Except.map]
  · cases visible <;> simp [hrun, hb, he, Except.map]

theorem run_eq_rejected_iff {errors : List OperandError} :
    run form address visible now = .ok (.rejected errors) ↔
      ∃ built, build form address now.date = .ok built ∧ built.errors ≠ [] ∧
        errors = built.errors := by
  rcases run_cases form address now with ⟨fault, hb, hrun⟩ |
    ⟨built, hb, he, hrun⟩ |
    ⟨built, hb, he, -, hrun⟩ | ⟨built, node, hb, he, -, -, hrun⟩
  · simp [hrun, hb]
  · simp [hrun, hb, he, eq_comm]
  · cases visible <;> simp [hrun, hb, he, Except.map]
  · cases visible <;> simp [hrun, hb, he, Except.map]

/-- Every visible song is given only where there is no leaf. -/
theorem run_eq_unfiltered_iff {songs : List Song} :
    run form address visible now = .ok (.unfiltered songs) ↔
      ∃ built, build form address now.date = .ok built ∧ built.errors = [] ∧
        built.leafCount = 0 ∧ visible = .ok songs := by
  rcases run_cases form address now with ⟨fault, hb, hrun⟩ |
    ⟨built, hb, he, hrun⟩ |
    ⟨built, hb, he, h0, hrun⟩ | ⟨built, node, hb, he, hn, hpos, hrun⟩
  · simp [hrun, hb]
  · simp [hrun, hb, he]
  · cases visible <;> simp [hrun, hb, he, h0, Except.map]
  · have hne : built.leafCount ≠ 0 := by
      rw [Built.leafCount, hn]; exact Nat.ne_of_gt hpos
    cases visible <;> simp [hrun, hb, hne, Except.map]

theorem run_eq_filtered_iff {songs : List Song} {criteria : Nat} :
    run form address visible now = .ok (.filtered songs criteria) ↔
      ∃ built node listed, build form address now.date = .ok built ∧
        built.errors = [] ∧
        built.node = some node ∧ 0 < node.criterionCount ∧
        criteria = node.criterionCount ∧
        visible = .ok listed ∧ songs = listed.filter fun song =>
          node.Holds now song := by
  rcases run_cases form address now with ⟨fault, hb, hrun⟩ |
    ⟨built, hb, he, hrun⟩ |
    ⟨built, hb, he, h0, hrun⟩ | ⟨built, node, hb, he, hn, hpos, hrun⟩
  · simp [hrun, hb]
  · simp [hrun, hb, he]
  · have hnode : ∀ node, built.node = some node → ¬0 < node.criterionCount := by
      intro node hn
      rw [Built.leafCount, hn] at h0
      exact Nat.not_lt.2 (Nat.le_of_eq h0)
    refine ⟨fun h => ?_, ?_⟩
    · rw [hrun] at h
      cases visible <;> cases h
    · rintro ⟨_, node, _, hb', -, hn, hpos, -⟩
      rw [hb] at hb'
      cases hb'
      exact absurd hpos (hnode node hn)
  · constructor
    · intro h
      rw [hrun] at h
      cases visible with
      | error e => cases h
      | ok listed =>
          cases h
          exact ⟨built, node, listed, hb, he, hn, hpos, rfl, rfl, rfl⟩
    · rintro ⟨built', node', listed, hb', -, hn', -, rfl, rfl, rfl⟩
      rw [hb] at hb'
      cases hb'
      rw [hn] at hn'
      cases hn'
      exact hrun _

theorem exists_mem_of_run_eq_ok {outcome : Outcome}
    (h : run form address visible now = .ok outcome) :
    ∀ song ∈ outcome.songs, ∃ listed, visible = .ok listed ∧ song ∈ listed := by
  intro song hsong
  cases outcome with
  | rejected errors => cases hsong
  | unfiltered songs =>
      obtain ⟨-, -, -, -, hv⟩ := run_eq_unfiltered_iff.1 h
      exact ⟨songs, hv, hsong⟩
  | filtered songs criteria =>
      obtain ⟨_, _, listed, -, -, -, -, -, hv, rfl⟩ := run_eq_filtered_iff.1 h
      exact ⟨listed, hv, List.mem_of_mem_filter hsong⟩

end Classified

/-- What comes of a filter is decided by what is read from the form, in one of
four ways. A fault in the form is the error, and there is no other such error
unless the catalog makes one. Operands that did not read come back. Without a
leaf every song that the catalog lists is given, and with one those that the
tree holds of, in their order; an error of the catalog comes back in these two
alone, and in the other two the catalog does not matter. Every criterion of a
valid filter is a leaf, so with one not every song is given. What is shown is
among what the catalog lists, so a hidden song never is, whether the songs are
a list or kept in a table. -/
theorem run_outcome (form : Form) (address : String) (now : Instant)
    (visible : Except CatalogError (List Song)) :
    (∀ e, run form address visible now = .error e ↔
      (∃ fault, build form address now.date = .error fault ∧
        e = .malformedFilter fault) ∨
      ∃ built, build form address now.date = .ok built ∧ built.errors = [] ∧
        visible = .error e) ∧
    ((∀ fault, visible ≠ .error (.malformedFilter fault)) →
      ∀ fault, run form address visible now = .error (.malformedFilter fault) ↔
        build form address now.date = .error fault) ∧
    (∀ errors, run form address visible now = .ok (.rejected errors) ↔
      ∃ built, build form address now.date = .ok built ∧ built.errors ≠ [] ∧
        errors = built.errors) ∧
    (∀ songs, run form address visible now = .ok (.unfiltered songs) ↔
      ∃ built, build form address now.date = .ok built ∧ built.errors = [] ∧
        built.leafCount = 0 ∧ visible = .ok songs) ∧
    (∀ songs criteria,
      run form address visible now = .ok (.filtered songs criteria) ↔
      ∃ built node listed, build form address now.date = .ok built ∧
        built.errors = [] ∧ built.node = some node ∧
        0 < node.criterionCount ∧ criteria = node.criterionCount ∧
        visible = .ok listed ∧
        songs = listed.filter fun song => node.Holds now song) ∧
    (∀ built, build form address now.date = .ok built → built.errors = [] →
      built.count = built.leafCount ∧
        (0 < built.count →
          ∀ songs, run form address visible now ≠ .ok (.unfiltered songs))) ∧
    ((∀ built, build form address now.date = .ok built → built.errors ≠ []) →
      ∀ other, run form address other now = run form address visible now) ∧
    (∀ outcome, run form address visible now = .ok outcome →
      ∀ song ∈ outcome.songs, ∃ listed, visible = .ok listed ∧ song ∈ listed) ∧
    (∀ songs outcome,
      run form address (.ok (visibleSongs songs)) now = .ok outcome →
      ∀ song ∈ outcome.songs, song ∈ songs ∧ song.visible = true) ∧
    ∀ (catalog : Catalog) outcome,
      catalog.filter form address now = .ok outcome →
      ∀ song ∈ outcome.songs, song.visible = true := by
  refine ⟨fun _ => run_eq_error_iff, fun hvisible fault => ?_,
    fun _ => run_eq_rejected_iff,
    fun _ => run_eq_unfiltered_iff, fun _ _ => run_eq_filtered_iff,
    fun built hb he => ?_,
    fun hinvalid other => ?_, fun _ => exists_mem_of_run_eq_ok, ?_, ?_⟩
  · rw [run_eq_error_iff]
    constructor
    · rintro (⟨fault', hb, hf⟩ | ⟨built, -, -, hv⟩)
      · cases hf
        exact hb
      · exact absurd hv (hvisible fault)
    · exact fun hb => .inl ⟨fault, hb, rfl⟩
  · have hcount := (Built.isBalanced_of_buildWithin hb).count_eq_leafCount he
    refine ⟨hcount, fun hpos songs hrun => ?_⟩
    obtain ⟨other, hb', -, h0, -⟩ := run_eq_unfiltered_iff.1 hrun
    rw [hb] at hb'
    cases hb'
    omega
  · rcases run_cases form address now with ⟨fault, -, hrun⟩ |
      ⟨built, -, -, hrun⟩ | ⟨built, hb, he, -⟩ | ⟨built, node, hb, he, -⟩
    · rw [hrun, hrun]
    · rw [hrun, hrun]
    · exact absurd he (hinvalid built hb)
    · exact absurd he (hinvalid built hb)
  · intro songs outcome h song hsong
    obtain ⟨listed, hl, hmem⟩ := exists_mem_of_run_eq_ok h song hsong
    cases hl
    exact List.mem_filter.1 hmem
  · intro catalog outcome h song hsong
    obtain ⟨listed, hl, hmem⟩ := exists_mem_of_run_eq_ok h song hsong
    cases ht : catalog.table with
    | error e => rw [ht] at hl; cases hl
    | ok table =>
        rw [ht] at hl
        cases hl
        exact (List.mem_filter.1 hmem).2

end Songbook.Filter
