import Songbook.Proofs.Outcomes
import Songbook.Proofs.ReadBack

/-!
# Search as a filter

A search could have been asked for as a filter: every word of the query in
some one of three fields. The two are made in different ways, the search from
its words and the filter from texts at addresses, and they come to the same
predicate. What carries this over is that a word is never blank, so no
criterion that asks for one is taken for one that was left blank, and that
blanks between words are the blanks that are trimmed from an operand.

They part where there is no word. A filter that asks for nothing gives every
song, and a search for nothing gives none.
-/

namespace Songbook

namespace Text

theorem isBlank_eq_false_of_mem_splitOnP {s part : List Char}
    (h : part ∈ s.splitOnP isBlank) :
    ∀ c ∈ part, isBlank c = false := by
  induction s generalizing part with
  | nil =>
      rw [List.splitOnP_nil, List.mem_singleton] at h
      subst h
      exact nofun
  | cons d s ih =>
      rw [List.splitOnP_cons_eq_if_modifyHead] at h
      obtain ⟨first, rest, hsplit⟩ :=
        List.exists_cons_of_ne_nil (List.splitOnP_ne_nil isBlank s)
      rw [hsplit] at h ih
      split at h
      · rcases List.mem_cons.1 h with rfl | h
        · exact nofun
        · exact ih h
      · next hd =>
          rw [List.modifyHead_cons] at h
          rcases List.mem_cons.1 h with rfl | h
          · intro c hc
            rcases List.mem_cons.1 hc with rfl | hc
            · exact Bool.not_eq_true _ ▸ hd
            · exact ih List.mem_cons_self c hc
          · exact ih (List.mem_cons_of_mem _ h)

theorem ne_nil_of_mem_words {s word : List Char} (h : word ∈ words s) :
    word ≠ [] ∧ ∀ c ∈ word, isBlank c = false := by
  obtain ⟨hmem, hne⟩ := List.mem_filter.1 h
  refine ⟨?_, isBlank_eq_false_of_mem_splitOnP hmem⟩
  rintro rfl
  cases hne

theorem trim_of_mem_words {s word : List Char} (h : word ∈ words s) :
    trim word = word :=
  trim_eq_self (ne_nil_of_mem_words h).2

end Text

namespace Search

open Songbook.Filter

/-! ## The form of a query -/

/-- The pairs that ask, at an address, for a word in a field. -/
def fieldEntries (address field : String) (word : List Char) :
    List (String × String) :=
  [(address, field), (Address.rule address, "in"),
    (Address.operand address 0, String.ofList word)]

/-- The pairs that ask, at an address, for a word in some one of the fields. -/
def wordEntries (address : String) (word : List Char) :
    List (String × String) :=
  (address, "or") :: fieldEntries (Address.child address 0) "title" word ++
    fieldEntries (Address.child address 1) "album" word ++
    fieldEntries (Address.child address 2) "artist" word

/-- The pairs that ask, at an address, for each of several words. -/
def wordsEntries (address : String) (words : List (List Char)) :
    List (String × String) :=
  (address, "and") :: words.zipIdx.flatMap fun (word, index) =>
    wordEntries (Address.child address index) word

/-- A form that asks for every word of a query. -/
def form (query address : String) : Form :=
  .ofList (wordsEntries address (Text.words query.toList))

/-! ## The tree of a query -/

/-- The tree that asks for one word, in any of the fields. -/
def wordTree (word : List Char) : Node :=
  .branch .or (fields.map fun field =>
    .leaf (.text field ⟨.contains, false⟩ (String.ofList word)))

/-- The tree that asks for every one of several words. -/
def tree (words : List (List Char)) : Node :=
  .branch .and (words.map wordTree)

theorem compile_tree (words : List (List Char)) (now : Instant) :
    (tree words).compile now = .all (words.map wordPredicate) := by
  rw [tree, Node.compile, Node.compileAll_eq_map, List.map_map]
  rfl

theorem criterionCount_tree (words : List (List Char)) :
    (tree words).criterionCount = 3 * words.length := by
  rw [tree, Node.criterionCount]
  induction words with
  | nil => rfl
  | cons word words ih =>
      rw [List.map_cons, Node.criterionCountAll, ih, List.length_cons]
      have : (wordTree word).criterionCount = 3 := rfl
      omega

/-! ## The form holds the tree -/

theorem entriesFrom_drafts {words : List (List Char)} {address : String}
    (index : Nat) :
    Draft.entriesFrom (Node.drafts (words.map wordTree)) address index =
      (words.zipIdx index).flatMap fun (word, index) =>
        wordEntries (Address.child address index) word := by
  induction words generalizing index with
  | nil => rfl
  | cons word words ih =>
      rw [List.map_cons, Node.drafts, Draft.entriesFrom, ih, List.zipIdx_cons,
        List.flatMap_cons]
      rfl

theorem form_eq (query address : String) :
    form query address =
      (tree (Text.words query.toList)).draft.form address := by
  rw [form, wordsEntries, Draft.form, tree, Node.draft, Draft.entries,
    entriesFrom_drafts]
  rfl

theorem height_tree_le (words : List (List Char)) :
    (tree words).height ≤ 2 := by
  rw [tree, Node.height]
  induction words with
  | nil => exact Nat.zero_le 2
  | cons word words ih =>
      rw [List.map_cons, Node.heightAll]
      exact Nat.max_le.2 ⟨Nat.le_refl 2, ih⟩

theorem isWritable_wordTree {s word : List Char} (h : word ∈ Text.words s) :
    (wordTree word).IsWritable := by
  refine .branch (by simp [fields]) fun child hchild => ?_
  obtain ⟨field, -, rfl⟩ := List.mem_map.1 hchild
  refine .leaf ?_
  -- A criterion that is blank once it is trimmed asks for nothing; a word is
  -- not one of those.
  show Text.trim (String.ofList word).toList ≠ []
  rw [String.toList_ofList, Text.trim_of_mem_words h]
  exact (Text.ne_nil_of_mem_words h).1

theorem isWritable_tree {s : List Char} (hne : Text.words s ≠ []) :
    (tree (Text.words s)).IsWritable := by
  refine .branch (by simpa using hne) fun child hchild => ?_
  obtain ⟨word, hword, rfl⟩ := List.mem_map.1 hchild
  exact isWritable_wordTree hword

/-- The form of a query reads as the tree of its words, if there are any. -/
theorem build_form {query : String} (hne : Text.words query.toList ≠ [])
    (address : String) (today : Date) :
    build (form query address) address today =
      .ok ⟨some (tree (Text.words query.toList)),
        3 * (Text.words query.toList).length, []⟩ := by
  have hw := isWritable_tree hne
  -- However many words there are, they stand side by side, below two branches.
  have hroom : (tree (Text.words query.toList)).draft.height <
      maxDepth + 1 := by
    rw [Node.height_draft, maxDepth]
    exact Nat.lt_of_le_of_lt (height_tree_le _) (by decide)
  rw [build, form_eq,
    buildWithin_of_carries (Form.carries_form _ address) hroom, hw.tree?_draft,
    ← criterionCount_tree]
  · rfl
  · intro other hother
    rw [hw.tree?_draft] at hother
    cases hother
    exact hw

theorem build_form_of_eq_nil {query : String}
    (hnil : Text.words query.toList = []) (address : String) (today : Date) :
    build (form query address) address today = .ok .void := by
  rw [build, form_eq, hnil,
    buildWithin_of_carries (Form.carries_form _ address)
      (Nat.succ_pos maxDepth)]
  · rfl
  · intro other hother
    cases hother

theorem predicate?_eq {query : String} (hne : Text.words query.toList ≠ [])
    (now : Instant) :
    predicate? query = some ((tree (Text.words query.toList)).compile now) := by
  rw [compile_tree, predicate?]
  split
  · next h => exact absurd h hne
  · rfl

theorem predicate?_eq_none {query : String} (h : Text.words query.toList = []) :
    predicate? query = none := by
  rw [predicate?, h]

/-- A search is the filter for its words. They come to one predicate, which
the filter reads from the form without a fault and without an error, with
three criteria a word, so the filter gives the songs that the search gives, in
their order, from any catalog, and fails where the catalog does. For a query
without words there is no predicate: the search gives nothing, and the filter,
in which only the root is left, asks for nothing and gives every song. -/
theorem run_form_agrees (query address : String) (now : Instant) :
    (Text.words query.toList ≠ [] →
      (∃ node, build (form query address) address now.date =
          .ok ⟨some node, 3 * (Text.words query.toList).length, []⟩ ∧
        predicate? query = some (node.compile now)) ∧
      (∀ visible, run (form query address) address visible now =
          visible.map fun songs =>
        .filtered (find query songs) (3 * (Text.words query.toList).length)) ∧
      ∀ catalog : Catalog, catalog.filter (form query address) address now =
        (catalog.search query).map fun songs =>
          .filtered songs (3 * (Text.words query.toList).length)) ∧
    (Text.words query.toList = [] →
      predicate? query = none ∧ (∀ songs, find query songs = []) ∧
      form query address = .ofList [(address, "and")] ∧
      ∀ visible, run (form query address) address visible now =
        visible.map .unfiltered) := by
  refine ⟨fun hne => ?_, fun hnil => ?_⟩
  · have hbuild := build_form hne address now.date
    have hpredicate := predicate?_eq hne now
    have hpos : 0 < 3 * (Text.words query.toList).length :=
      Nat.mul_pos (by decide) (List.length_pos_of_ne_nil hne)
    have hrun : ∀ visible, run (form query address) address visible now =
        visible.map fun songs =>
          .filtered (find query songs)
            (3 * (Text.words query.toList).length) := by
      intro visible
      rw [run, hbuild]
      simp only [Built.run, Built.isValid, List.isEmpty_nil, if_pos hpos,
        if_true, find, hpredicate, Predicate.select, if_neg (Nat.ne_of_gt hpos)]
      rfl
    refine ⟨⟨_, hbuild, hpredicate⟩, hrun, fun catalog => ?_⟩
    rw [Catalog.filter, hrun, Catalog.search]
    cases catalog.table <;> rfl
  · have hform : form query address = .ofList [(address, "and")] := by
      rw [form, hnil]; rfl
    refine ⟨predicate?_eq_none hnil, fun songs => ?_, hform, fun visible => ?_⟩
    · rw [find, predicate?_eq_none hnil]
    · rw [run, build_form_of_eq_nil hnil]
      exact Built.run_of_node_eq_none rfl rfl

/-- Two words in six criteria, at the keys that a form would have for them. -/
example : form " Love\tblue " "k" = .ofList [
    ("k", "and"),
    ("k_0", "or"),
    ("k_0_0", "title"), ("k_0_0_r", "in"), ("k_0_0_f0", "Love"),
    ("k_0_1", "album"), ("k_0_1_r", "in"), ("k_0_1_f0", "Love"),
    ("k_0_2", "artist"), ("k_0_2_r", "in"), ("k_0_2_f0", "Love"),
    ("k_1", "or"),
    ("k_1_0", "title"), ("k_1_0_r", "in"), ("k_1_0_f0", "blue"),
    ("k_1_1", "album"), ("k_1_1_r", "in"), ("k_1_1_f0", "blue"),
    ("k_1_2", "artist"), ("k_1_2_r", "in"), ("k_1_2_f0", "blue")] := by
  decide

/-- The first song has the words in two fields, the second has one of them. -/
def sampleSongs : List Song :=
  [⟨⟨0⟩, "LOVE", "Kind of Blue", "", 1, 60, 0, .epoch, none, true⟩,
    ⟨⟨1⟩, "Lovesick", "", "", 2, 60, 0, .epoch, none, true⟩]

theorem run_form_agrees_sample :
    Text.words "Love blue".toList ≠ [] ∧ Text.words " \t".toList = [] ∧
      run (form "Love blue" "k") "k" (.ok sampleSongs) .epoch =
        .ok (.filtered (find "Love blue" sampleSongs) 6) ∧
      find "Love blue" sampleSongs = sampleSongs.take 1 ∧
      run (form " \t" "k") "k" (.ok sampleSongs) .epoch =
        .ok (.unfiltered sampleSongs) := by
  have hne : Text.words "Love blue".toList ≠ [] := by decide
  have hnil : Text.words " \t".toList = [] := by decide
  obtain ⟨-, hrun, -⟩ := (run_form_agrees "Love blue" "k" .epoch).1 hne
  obtain ⟨-, -, -, hall⟩ := (run_form_agrees " \t" "k" .epoch).2 hnil
  exact ⟨hne, hnil, hrun (.ok sampleSongs), by decide +kernel,
    hall (.ok sampleSongs)⟩

end Search

end Songbook
