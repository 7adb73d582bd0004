import Songbook.Proofs.Meaning
import Songbook.Proofs.Sigmas
import Songbook.Search

/-!
# Literal occurrences

What stands in a text letter for letter, case included, ought to be found in
it, by the rule that asks for it and by a search. The operand and the field
are lower-cased apart and only then held against each other, so this is a
question about the operand alone: whether it comes out as it does inside every
text that has it.

For most operands it does. For a part at the start of a text the last letter
may fail, for a part at the end the first, and for a part in the middle
either; each fails only as a sigma, in the two places that `EndsInFinalSigma`
and `StartsWithLoneSigma` describe. An operand that is the whole text cannot
fail.
-/

namespace Songbook.Filter

open Songbook.Text

/-- Whether an operand comes out in lower case as it does in every text that
it stands in as the test asks. -/
def TextTest.Keeps : TextTest → List Char → Prop
  | contains, needle => ¬EndsInFinalSigma needle ∧ ¬StartsWithLoneSigma needle
  | startsWith, needle => ¬EndsInFinalSigma needle
  | endsWith, needle => ¬StartsWithLoneSigma needle
  | equals, _ => True

/-- A song with one text for its title, its album and its artist. -/
def songWithText (s : List Char) : Song :=
  ⟨⟨0⟩, String.ofList s, String.ofList s, String.ofList s, 0, 0, 0,
    .first, none, true⟩

variable {test : TextTest} {needle : List Char} {song : Song} {now : Instant}

theorem text_songWithText (s : List Char) (field : TextField) :
    ((songWithText s).text field).toList = s := by
  cases field with
  | title | album | artist => exact String.toList_ofList

theorem TextTest.keeps_of_not_mem_sigma (h : 'Σ' ∉ needle) :
    test.Keeps needle := by
  have hends := not_endsInFinalSigma_of_not_mem h
  have hstarts := not_startsWithLoneSigma_of_not_mem h
  cases test with
  | contains => exact ⟨hends, hstarts⟩
  | startsWith => exact hends
  | endsWith => exact hstarts
  | equals => trivial

/-- The operands that come out alike are all that come out alike: each of the
others has a letter put beside it that changes it. -/
theorem TextTest.keeps_iff : test.Keeps needle ↔
    ∀ s, test.Relates s needle → test.Relates (lower s) (lower needle) := by
  have hends : (∀ s, needle <+: s → (lower needle).Sublist (lower s)) →
      ¬EndsInFinalSigma needle :=
    fun h hfinal =>
      not_sublist_append_letter hfinal (h _ (List.prefix_append _ _))
  have hstarts : (∀ s, needle <:+ s → (lower needle).Sublist (lower s)) →
      ¬StartsWithLoneSigma needle :=
    fun h hlone => not_sublist_cons_letter hlone (h _ (List.suffix_cons _ _))
  cases test with
  | contains =>
      constructor
      · rintro ⟨hend, hstart⟩ s hs
        exact lower_infix_lower hend hstart hs
      · intro h
        exact ⟨hends fun s hs => (h s hs.isInfix).sublist, hstarts fun s hs =>
          (h s hs.isInfix).sublist⟩
  | startsWith => exact ⟨fun h s => lower_prefix_lower h,
    fun h => hends fun s hs => (h s hs).sublist⟩
  | endsWith => exact ⟨fun h s => lower_suffix_lower h,
    fun h => hstarts fun s hs => (h s hs).sublist⟩
  | equals => exact ⟨fun _ s hs => congrArg lower hs, fun _ => trivial⟩

/-- A rule passes, and its opposite does not, exactly when the texts stand as
the test asks. -/
theorem Leaf.holds_compile_text_iff {field : TextField} {negated : Bool}
    {value : String} :
    ((text field ⟨test, negated⟩ value).compile now).holds song = !negated ↔
      test.Relates (lower (song.text field).toList) (lower value.toList) := by
  cases negated with
  | false => exact holds_compile
  | true =>
      rw [Bool.not_true, ← Bool.not_eq_true, holds_compile]
      exact not_not

end Songbook.Filter

namespace Songbook.Search

open Songbook.Filter Songbook.Text

variable {query : String} {visible : List Song} {song : Song}

/-- A search finds the visible songs in which every word, lower-cased, occurs
in some text that is lower-cased. -/
theorem mem_find_iff (hne : words query.toList ≠ []) :
    song ∈ find query visible ↔
      song ∈ visible ∧ ∀ word ∈ words query.toList,
        ∃ field, lower word <:+: lower (song.text field).toList := by
  have hword : ∀ word, (wordPredicate word).holds song = true ↔
      ∃ field, lower word <:+: lower (song.text field).toList := by
    intro word
    have hfields : ∀ field, field ∈ fields :=
      fun field => by cases field <;> decide
    rw [wordPredicate, Predicate.holds_any_map]
    refine exists_congr fun field => ?_
    rw [Predicate.holds_ofNeedle, String.toList_ofList,
      TextTest.holds_iff_relates, and_iff_right (hfields field)]
    exact Iff.rfl
  rw [find, predicate?]
  split
  · next h =>
    split at h
    · next hnil => exact absurd hnil hne
    · cases h
  · next predicate h =>
    split at h
    · cases h
    · cases h
      rw [List.mem_filter, Predicate.holds_all_map]
      exact and_congr_right fun _ => forall₂_congr fun word _ => hword word

/-- A word that comes out alike everywhere is found wherever it occurs
literally. -/
theorem mem_find_of_occurs (hne : words query.toList ≠ [])
    (hvisible : song ∈ visible)
    (h : ∀ word ∈ words query.toList, TextTest.contains.Keeps word ∧
      ∃ field, word <:+: (song.text field).toList) : song ∈
        find query visible := by
  refine (mem_find_iff hne).2 ⟨hvisible, fun word hword => ?_⟩
  obtain ⟨hkeeps, field, hoccurs⟩ := h word hword
  exact ⟨field, lower_infix_lower hkeeps.1 hkeeps.2 hoccurs⟩

end Songbook.Search

namespace Songbook.Filter

open Songbook.Search Songbook.Text

/-- The operands that a rule never misses where they stand in the field as
they were typed, and that its opposite never passes there, are those that come
out alike everywhere; so are the words that a search never misses. Several
words are found together if each is such a word and occurs. -/
theorem literal_occurrence_found_iff (now : Instant) :
    (∀ field test (needle : String),
      (∀ song : Song,
        test.Relates (song.text field).toList needle.toList → ∀ negated,
          ((Leaf.text field ⟨test, negated⟩ needle).compile now).holds
            song = !negated) ↔
        test.Keeps needle.toList) ∧
    (∀ (query : String) word, words query.toList = [word] →
      ((∀ visible, ∀ song ∈ visible,
        (∃ field, word <:+: (song.text field).toList) →
          song ∈ find query visible) ↔
        TextTest.contains.Keeps word)) ∧
    ∀ (query : String) visible, ∀ song ∈ visible, words query.toList ≠ [] →
      (∀ word ∈ words query.toList, TextTest.contains.Keeps word ∧
        ∃ field, word <:+: (song.text field).toList) →
      song ∈ find query visible := by
  refine ⟨fun field test needle => ?_, fun query word hwords => ?_,
    fun query visible song hsong hne => mem_find_of_occurs hne hsong⟩
  · rw [TextTest.keeps_iff]
    constructor
    · intro h s hs
      have hsong := h (songWithText s) (by rwa [text_songWithText]) false
      rwa [Leaf.holds_compile_text_iff, text_songWithText] at hsong
    · intro h song hs negated
      exact Leaf.holds_compile_text_iff.2 (h _ hs)
  · have hne : words query.toList ≠ [] := by simp [hwords]
    constructor
    · intro h
      rw [TextTest.keeps_iff]
      intro s hs
      have hsong :=
        h [songWithText s] _ List.mem_cons_self
          ⟨.title, by rwa [text_songWithText]⟩
      obtain ⟨-, hfound⟩ := (mem_find_iff hne).1 hsong
      obtain ⟨field, hoccurs⟩ := hfound word (by simp [hwords])
      rwa [text_songWithText] at hoccurs
    · intro hkeeps visible song hsong hoccurs
      refine mem_find_of_occurs hne hsong fun other hother => ?_
      rw [hwords, List.mem_singleton] at hother
      rw [hother]
      exact ⟨hkeeps, hoccurs⟩

/-- A word without a sigma is found in the middle of another by every rule and
by a search. -/
theorem literal_occurrence_found_sample :
    TextTest.contains.Keeps "ove".toList ∧ words "ove".toList = ["ove".toList] ∧
      ((Leaf.text .title ⟨.contains, false⟩ "ove").compile .epoch).holds
        (songWithText "Glove".toList) = true ∧
      songWithText "Glove".toList ∈
        find "ove" [songWithText "Glove".toList] := by
  obtain ⟨hrule, hsearch, -⟩ := literal_occurrence_found_iff .epoch
  have hkeeps : TextTest.contains.Keeps "ove".toList :=
    TextTest.keeps_of_not_mem_sigma (by decide)
  have hwords : words "ove".toList = ["ove".toList] := by decide +kernel
  have hoccurs :
      "ove".toList <:+: ((songWithText "Glove".toList).text .title).toList :=
    ⟨['G', 'l'], [], by decide +kernel⟩
  refine ⟨hkeeps, hwords, ?_, ?_⟩
  · exact (hrule .title .contains "ove").2 hkeeps _ hoccurs false
  · exact (hsearch "ove" _ hwords).2 hkeeps _ _ List.mem_cons_self
      ⟨.title, hoccurs⟩

/-- The title ΑΣΑ begins with ΑΣ, and the title ΑΣ ends with Σ, but no rule
finds them there, and no search finds the first. -/
theorem literal_occurrence_missed :
    "ΑΣ".toList <+: ((songWithText "ΑΣΑ".toList).text .title).toList ∧
      ((Leaf.text .title ⟨.startsWith, false⟩ "ΑΣ").compile .epoch).holds
        (songWithText "ΑΣΑ".toList) = false ∧
      ((Leaf.text .title ⟨.contains, false⟩ "ΑΣ").compile .epoch).holds
        (songWithText "ΑΣΑ".toList) = false ∧
      ((Leaf.text .title ⟨.contains, true⟩ "ΑΣ").compile .epoch).holds
        (songWithText "ΑΣΑ".toList) = true ∧
      find "ΑΣ" [songWithText "ΑΣΑ".toList] = [] ∧
      "Σ".toList <:+ ((songWithText "ΑΣ".toList).text .title).toList ∧
      ((Leaf.text .title ⟨.endsWith, false⟩ "Σ").compile .epoch).holds
        (songWithText "ΑΣ".toList) = false := by
  decide +kernel

end Songbook.Filter
