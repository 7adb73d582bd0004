import Songbook.Cli.Run
import Songbook.Proofs.Keywords
import Songbook.Proofs.Occurrences

/-!
# A search is for a set of words

A search with at least one word looks at the words of its query and at nothing
else, and asks for each of them apart, so the songs that it finds are those
that searches for its parts have in common. Which word stands first, how often
it stands there, and which blanks stand between two words make no difference.
One more word can only take songs away.

The program makes a query of the operands that it is given, with a blank
between them, so it is the same to a search whether words are given one by one
or together.

None of this goes for a query without words, which finds nothing: next to
other words it asks for nothing, and does not take away what they find.
-/

namespace Songbook

/-! ## The words of texts put together -/

namespace Text

variable {s t blanks : List Char}

/-- A blank parts the words before it from those after it. -/
theorem words_append_cons {c : Char} (h : isBlank c = true) (s t : List Char) :
    words (s ++ c :: t) = words s ++ words t := by
  rw [words, List.splitOnP_append_cons s t h, List.filter_append]
  rfl

theorem words_nil : words [] = [] := by
  rw [words, List.splitOnP_nil]
  rfl

theorem words_append_of_isAllBlank (h : isAllBlank blanks = true)
    (t : List Char) :
    words (blanks ++ t) = words t := by
  induction blanks with
  | nil => rfl
  | cons c blanks ih =>
      rw [isAllBlank, List.all_cons, Bool.and_eq_true] at h
      have hcons := words_append_cons h.1 [] (blanks ++ t)
      rw [List.nil_append, words_nil, List.nil_append] at hcons
      rw [List.cons_append, hcons, ih h.2]

/-- Blanks between two texts, one at least, keep their words apart. -/
theorem words_append_blanks (hne : blanks ≠ []) (h : isAllBlank blanks = true)
    (s t : List Char) :
    words (s ++ blanks ++ t) = words s ++ words t := by
  obtain ⟨c, rest, rfl⟩ := List.exists_cons_of_ne_nil hne
  rw [isAllBlank, List.all_cons, Bool.and_eq_true] at h
  rw [List.append_assoc, List.cons_append, words_append_cons h.1,
    words_append_of_isAllBlank h.2]

/-- The words of several texts with a blank between each and the next. -/
theorem words_intercalate (texts : List String) :
    words (" ".intercalate texts).toList = texts.flatMap fun text =>
      words text.toList := by
  have hblank : isBlank ' ' = true := by decide
  rw [String.toList_intercalate]
  induction texts with
  | nil => exact words_nil
  | cons text texts ih =>
      cases texts with
      | nil => simp
      | cons next texts =>
          have hjoin : " ".toList.intercalate
              ((text :: next :: texts).map String.toList) =
              text.toList ++ ' ' :: " ".toList.intercalate
                ((next :: texts).map String.toList) := by
            rw [List.map_cons, List.map_cons, List.intercalate_cons_cons,
              List.append_assoc]
            rfl
          rw [hjoin, words_append_cons hblank, ih]
          rfl

end Text

namespace Search

open Songbook.Filter

variable {query other first second between : String} {visible : List Song}
  {song : Song}

/-! ## Queries with the same words -/

/-- Whether two queries have the same words, in whatever order and however
often. -/
def SameWords (query other : String) : Prop :=
  ∀ word, word ∈ Text.words query.toList ↔ word ∈ Text.words other.toList

theorem find_of_words_eq_nil (h : Text.words query.toList = [])
    (visible : List Song) :
    find query visible = [] := by
  rw [find, predicate?_eq_none h]

/-- A search chooses among the songs, so it is enough to know which it
chooses. -/
theorem find_eq_filter_mem (query : String) (visible : List Song) :
    find query visible = visible.filter fun song =>
      song ∈ find query visible := by
  rw [find]
  split
  · simp
  · next predicate _ =>
      refine List.filter_congr fun song hsong => ?_
      rw [Bool.eq_iff_iff, decide_eq_true_eq, List.mem_filter,
        and_iff_right hsong]

theorem find_congr (h : ∀ song ∈ visible, song ∈ find query visible ↔
    song ∈ find other visible) :
    find query visible = find other visible := by
  rw [find_eq_filter_mem query, find_eq_filter_mem other]
  exact List.filter_congr fun song hsong => decide_eq_decide.2 (h song hsong)

theorem SameWords.find_eq (h : SameWords query other) (visible : List Song) :
    find query visible = find other visible := by
  by_cases hnil : Text.words query.toList = []
  · have hnil' : Text.words other.toList = [] := by
      rw [List.eq_nil_iff_forall_not_mem]
      intro word hword
      rw [← h word, hnil] at hword
      cases hword
    rw [find_of_words_eq_nil hnil, find_of_words_eq_nil hnil']
  · have hne : Text.words other.toList ≠ [] := by
      obtain ⟨word, hword⟩ := List.exists_mem_of_ne_nil _ hnil
      exact List.ne_nil_of_mem ((h word).1 hword)
    refine find_congr fun song _ => ?_
    rw [mem_find_iff hnil, mem_find_iff hne]
    exact and_congr_right fun _ => forall_congr' fun word =>
      imp_congr_left (h word)

/-! ## More words, fewer songs -/

/-- With more words there is more to ask of a song. -/
theorem find_sublist_of_words_subset (hne : Text.words query.toList ≠ [])
    (h : Text.words query.toList ⊆ Text.words other.toList)
    (visible : List Song) :
    (find other visible).Sublist (find query visible) := by
  have hne' : Text.words other.toList ≠ [] :=
    fun hnil => hne (List.subset_nil.1 (hnil ▸ h))
  rw [find_eq_filter_mem query, find_eq_filter_mem other]
  refine List.monotone_filter_right visible fun song hsong => ?_
  rw [decide_eq_true_eq, mem_find_iff hne'] at hsong
  rw [decide_eq_true_eq, mem_find_iff hne]
  exact ⟨hsong.1, fun word hword => hsong.2 word (h hword)⟩

theorem words_append (hne : between ≠ "")
    (hblank : Text.isAllBlank between.toList = true) (first second : String) :
    Text.words (first ++ between ++ second).toList =
        Text.words first.toList ++ Text.words second.toList := by
  rw [String.toList_append, String.toList_append]
  exact Text.words_append_blanks (by simpa using hne) hblank _ _

/-- The songs that both parts of a query find are those that the whole query
finds. -/
theorem find_append (hne : between ≠ "")
    (hblank : Text.isAllBlank between.toList = true)
    (hfirst : Text.words first.toList ≠ [])
    (hsecond : Text.words second.toList ≠ []) (visible : List Song) :
    find (first ++ between ++ second) visible =
        visible.filter fun song =>
          song ∈ find first visible ∧ song ∈ find second visible := by
  have hwords := words_append hne hblank first second
  have hwhole : Text.words (first ++ between ++ second).toList ≠ [] := by
    rw [hwords]
    exact List.append_ne_nil_of_left_ne_nil hfirst _
  rw [find_eq_filter_mem]
  refine List.filter_congr fun song hsong => ?_
  rw [decide_eq_decide, mem_find_iff hwhole, mem_find_iff hfirst,
    mem_find_iff hsecond, hwords, List.forall_mem_append, and_and_left]

end Search

/-! ## How the program is given words -/

namespace Cli

namespace Arguments

variable {switches : List Switch} {arguments after : Arguments}
  {words before : List String} {word : String}

/-- Whether a word is taken for what it says. A hyphen with something behind
it begins an option. -/
def IsOperand (word : String) : Prop :=
  ∀ c s, word.toList ≠ '-' :: c :: s

theorem take_of_isOperand (h : IsOperand word)
    (hwaiting : arguments.waiting = none) :
    arguments.take switches word = .ok (arguments.operand word) := by
  unfold take
  rw [hwaiting]
  split
  · next heq _ => exact absurd heq (h _ _)
  · next heq _ => exact absurd heq (h _ _)
  · next heq _ => exact absurd heq (h _ _)
  · next heq _ => cases heq
  · rfl

theorem foldl_operand (arguments : Arguments) (words : List String) :
    words.foldl operand arguments =
      { arguments with operands := arguments.operands ++ words } := by
  induction words generalizing arguments with
  | nil => simp
  | cons word words ih =>
      rw [List.foldl_cons, ih, operand, List.append_assoc]
      rfl

theorem settled_eq_ok_iff :
    arguments.settled = .ok after ↔
      arguments.waiting = none ∧ arguments = after := by
  unfold settled
  cases arguments.waiting with
  | none => simp
  | some switch => simp

/-- Words that are taken for what they say are operands, in their order. -/
theorem takeAll_of_isOperand (h : ∀ word ∈ words, IsOperand word)
    (hwaiting : arguments.waiting = none) :
    takeAll switches arguments words = .ok (words.foldl operand arguments) := by
  induction words generalizing arguments with
  | nil => exact settled_eq_ok_iff.2 ⟨hwaiting, rfl⟩
  | cons word words ih =>
      obtain ⟨hword, hwords⟩ := List.forall_mem_cons.1 h
      have hne : word ≠ "--" := by
        rintro rfl
        exact hword '-' [] (by decide)
      rw [takeAll, if_neg hne, take_of_isOperand hword hwaiting]
      exact ih hwords hwaiting

/-- What has been read goes on with what stands behind it. -/
theorem takeAll_append (h : takeAll switches arguments before = .ok after)
    (hmark : "--" ∉ before) (words : List String) :
    takeAll switches arguments (before ++ words) =
      takeAll switches after words ∧
      after.waiting = none := by
  induction before generalizing arguments with
  | nil =>
      obtain ⟨hwaiting, rfl⟩ := settled_eq_ok_iff.1 h
      exact ⟨rfl, hwaiting⟩
  | cons word before ih =>
      rw [List.mem_cons, not_or] at hmark
      rw [takeAll, if_neg (Ne.symm hmark.1)] at h
      rw [List.cons_append, takeAll, if_neg (Ne.symm hmark.1)]
      cases htake : arguments.take switches word with
      | error stop =>
          rw [htake] at h
          cases h
      | ok next =>
          rw [htake] at h
          exact ih h hmark.2

end Arguments

variable {name word : String} {options words others : List String}
  {format : Format}

/-- Options before what is searched for, and operands behind them, whichever
way those are told. -/
theorem ofWords_search (hname : name ∈ ["search", "s"])
    (h : Command.ofWords (name :: options) = .ok (.search [] format))
    (hmark : "--" ∉ options) :
    ((∀ word ∈ words, Arguments.IsOperand word) →
      Command.ofWords (name :: (options ++ words)) =
        .ok (.search words format)) ∧
    Command.ofWords (name :: (options ++ "--" :: words)) =
      .ok (.search words format) := by
  have hsearch (words : List String) :
      Command.ofWords (name :: words) = Command.ofWords.search words := by
    simp only [List.mem_cons, List.not_mem_nil, or_false] at hname
    rcases hname with rfl | rfl <;> rfl
  rw [hsearch] at h
  rw [hsearch, hsearch]
  obtain ⟨given, hgiven, h⟩ := Filter.bind_eq_ok_iff.1 h
  obtain ⟨chosen, hchosen, h⟩ := Filter.bind_eq_ok_iff.1 h
  injection h with h
  injection h with hoperands hformat
  subst hformat
  have hread : (do
      let arguments := words.foldl Arguments.operand given
      pure (.search arguments.operands (← Command.formatOf arguments)) : Except
        Stop Command) =
        .ok (.search words chosen) := by
    rw [Arguments.foldl_operand, hoperands]
    show (Command.formatOf given >>= fun format =>
        pure (Command.search words format)) = _
    rw [hchosen]
    rfl
  obtain ⟨happend, hwaiting⟩ := Arguments.takeAll_append hgiven hmark words
  refine ⟨fun hwords => ?_, ?_⟩
  · rw [Command.ofWords.search, Arguments.ofWords, happend,
      Arguments.takeAll_of_isOperand hwords hwaiting]
    exact hread
  · have hsettled : given.settled = .ok given :=
      Arguments.settled_eq_ok_iff.2 ⟨hwaiting, rfl⟩
    rw [Command.ofWords.search, Arguments.ofWords,
      (Arguments.takeAll_append hgiven hmark _).1, Arguments.takeAll,
      if_pos rfl, hsettled]
    exact hread

/-- A search says what it says of the words that its operands have between
them. -/
theorem run_search_congr
    (h : ∀ word, (∃ text ∈ words, word ∈ Text.words text.toList) ↔
      ∃ text ∈ others, word ∈ Text.words text.toList)
    (around : Surroundings) (catalog : Catalog) (format : Format) :
    (Command.search words format).run around catalog =
      (Command.search others format).run around catalog := by
  have hsame : Search.SameWords (" ".intercalate words)
      (" ".intercalate others) := by
    intro word
    rw [Text.words_intercalate, Text.words_intercalate, List.mem_flatMap,
      List.mem_flatMap]
    exact h word
  have hsearch : catalog.search (" ".intercalate words) =
      catalog.search (" ".intercalate others) := by
    rw [Catalog.search, Catalog.search, funext fun table =>
      hsame.find_eq (Table.visible table)]
  have hfind : Cli.search catalog words format =
      Cli.search catalog others format := by
    rw [Cli.search, Cli.search, hsearch]
  have hon (words : List String) :
      ((Command.search words format).action around).on catalog =
      (Cli.search catalog words format, catalog) :=
    rfl
  rw [Command.run, Command.run, hon, hon, hfind]

end Cli

namespace Search

open Songbook.Cli (Command Arguments Surroundings Format)

/-- The words of two texts with blanks between them are the words of the one
and of the other. If each has a word, a search for the whole finds the visible
songs, in their order, that searches for the one and for the other both find,
and fails where they do. So two queries with the same words find the same,
whatever the order of the words, how often each stands there and what blanks
stand between them, and a query with more words finds no other song. The
program takes the operands of a search as they stand, behind its options or
behind a double hyphen, and says the same for operands that have the same
words between them, however they are parted. A query without words finds
nothing, but beside another it makes no difference, so there the songs found
are not those that both find. -/
theorem search_intersects :
    (∀ first second between : String, between ≠ "" →
      Text.isAllBlank between.toList = true →
      Text.words (first ++ between ++ second).toList =
        Text.words first.toList ++ Text.words second.toList ∧
      (Text.words first.toList ≠ [] → Text.words second.toList ≠ [] →
        (∀ visible, find (first ++ between ++ second) visible =
          visible.filter fun song =>
            song ∈ find first visible ∧ song ∈ find second visible) ∧
        ∀ catalog : Catalog, catalog.search (first ++ between ++ second) = do
          let table ← catalog.table
          let found ← catalog.search first
          let others ← catalog.search second
          pure (table.visible.filter fun song =>
            song ∈ found ∧ song ∈ others))) ∧
    (∀ query other, SameWords query other →
      ∀ visible, find query visible = find other visible) ∧
    (∀ query longer : String, Text.words query.toList ≠ [] →
      Text.words query.toList ⊆ Text.words longer.toList →
      ∀ visible, (find longer visible).Sublist (find query visible)) ∧
    (∀ name ∈ ["search", "s"], ∀ options format,
      Command.ofWords (name :: options) = .ok (.search [] format) →
        "--" ∉ options → ∀ words,
      ((∀ word ∈ words, Arguments.IsOperand word) →
        Command.ofWords (name :: (options ++ words)) =
          .ok (.search words format)) ∧
      Command.ofWords (name :: (options ++ "--" :: words)) =
        .ok (.search words format)) ∧
    (∀ words others : List String,
      (∀ word, (∃ text ∈ words, word ∈ Text.words text.toList) ↔
        ∃ text ∈ others, word ∈ Text.words text.toList) →
      ∀ around catalog format,
        (Command.search words format).run around catalog =
        (Command.search others format).run around catalog) ∧
    ∀ wordless : String, Text.words wordless.toList = [] →
      (∀ visible, find wordless visible = []) ∧
      ∀ query between visible, between ≠ "" →
        Text.isAllBlank between.toList = true →
        find (wordless ++ between ++ query) visible = find query visible ∧
        find (query ++ between ++ wordless) visible = find query visible ∧
        (find query visible ≠ [] → find (wordless ++ between ++ query) visible ≠
          visible.filter fun song =>
            song ∈ find wordless visible ∧ song ∈ find query visible) := by
  refine ⟨fun first second between hne hblank =>
    ⟨words_append hne hblank first second, ?_⟩,
    fun query other h => h.find_eq,
    fun query longer => find_sublist_of_words_subset,
    fun name hname options format h hmark words =>
      Cli.ofWords_search hname h hmark,
    fun words others h around catalog format =>
      Cli.run_search_congr h around catalog format,
    fun wordless hnil => ⟨find_of_words_eq_nil hnil, ?_⟩⟩
  · intro hfirst hsecond
    refine ⟨find_append hne hblank hfirst hsecond, fun catalog => ?_⟩
    simp only [Catalog.search]
    cases catalog.table with
    | error error => rfl
    | ok table =>
        exact congrArg Except.ok
          (find_append hne hblank hfirst hsecond table.visible)
  · intro query between visible hne hblank
    have hbefore :
        find (wordless ++ between ++ query) visible = find query visible := by
      refine SameWords.find_eq (fun word => ?_) visible
      rw [words_append hne hblank, hnil, List.nil_append]
    have hafter : find (query ++ between ++ wordless) visible =
        find query visible := by
      refine SameWords.find_eq (fun word => ?_) visible
      rw [words_append hne hblank, hnil, List.append_nil]
    refine ⟨hbefore, hafter, fun hfound heq => hfound ?_⟩
    rw [← hbefore, heq, find_of_words_eq_nil hnil]
    simp

/-- Both songs have the one word, the first has the other too. Parted
otherwise and told twice, the words are still the same two. -/
theorem search_intersects_sample :
    "\t " ≠ "" ∧ Text.isAllBlank "\t ".toList = true ∧
      find "Love" sampleSongs = sampleSongs ∧
      find "blue" sampleSongs = sampleSongs.take 1 ∧
      find "Love\t blue" sampleSongs = sampleSongs.filter (fun song =>
        song ∈ find "Love" sampleSongs ∧ song ∈ find "blue" sampleSongs) ∧
      Command.ofWords ["s", "-f", "titles", "blue", "Love"] =
        .ok (.search ["blue", "Love"] .titles) ∧
      Command.ofWords ["s", "-f", "titles", "--", "-blue"] =
        .ok (.search ["-blue"] .titles) ∧
      (∀ around catalog,
        (Command.search ["blue", "Love"] .titles).run around catalog =
        (Command.search ["Love  blue", "Love"] .titles).run around catalog) ∧
      find " " sampleSongs = [] ∧
      find (" " ++ "\t " ++ "blue") sampleSongs = sampleSongs.take 1 := by
  have hne : "\t " ≠ "" := by decide
  have hblank : Text.isAllBlank "\t ".toList = true := by decide
  have hlove : find "Love" sampleSongs = sampleSongs := by decide +kernel
  have hblue : find "blue" sampleSongs = sampleSongs.take 1 := by decide +kernel
  have hoptions :
      Command.ofWords ["s", "-f", "titles"] = .ok (.search [] .titles) := by
    decide +kernel
  have hwords : ∀ word,
      (∃ text ∈ ["blue", "Love"], word ∈ Text.words text.toList) ↔
      ∃ text ∈ ["Love  blue", "Love"], word ∈ Text.words text.toList := by
    have hone : ["blue", "Love"].flatMap (fun text => Text.words text.toList) =
        [['b', 'l', 'u', 'e'], ['L', 'o', 'v', 'e']] := by decide +kernel
    have htwo : ["Love  blue", "Love"].flatMap (fun text =>
        Text.words text.toList) =
        [['L', 'o', 'v', 'e'], ['b', 'l', 'u', 'e'], ['L', 'o', 'v', 'e']] := by
          decide +kernel
    intro word
    rw [← List.mem_flatMap, ← List.mem_flatMap, hone, htwo]
    simp only [List.mem_cons, List.not_mem_nil, or_false]
    tauto
  obtain ⟨hlaw, -, -, hread, hrun, hwordless⟩ := search_intersects
  obtain ⟨hplain, -⟩ :=
    hread "s" (by decide) _ .titles hoptions (by decide) ["blue", "Love"]
  obtain ⟨-, hmarked⟩ :=
    hread "s" (by decide) _ .titles hoptions (by decide) ["-blue"]
  obtain ⟨hnothing, hbeside⟩ := hwordless " " (by decide +kernel)
  obtain ⟨hfound, -⟩ :=
    (hlaw "Love" "blue" "\t " hne hblank).2 (by decide) (by decide)
  refine ⟨hne, hblank, hlove, hblue, hfound sampleSongs, hplain ?_, hmarked, ?_,
    hnothing sampleSongs,
    (hbeside "blue" "\t " sampleSongs hne hblank).1.trans hblue⟩
  · intro word hword c s
    rcases List.mem_pair.1 hword with rfl | rfl
    · exact fun h => absurd (List.cons.inj h).1 (by decide)
    · exact fun h => absurd (List.cons.inj h).1 (by decide)
  · exact fun around catalog => hrun _ _ hwords around catalog .titles

end Search

end Songbook
