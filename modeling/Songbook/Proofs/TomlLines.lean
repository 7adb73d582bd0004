import Songbook.Proofs.Numerals
import Songbook.Proofs.TomlReadBack

/-!
# Written lines read back

A line that is written for a key and a value reads as an entry of the table
that is being read, put behind the entries before it. The keys are bare, so
nothing is to be undone for them. Of the values a quoted text says by its
first character what it is. A number does not: it is read as a word up to the
end of the line, and a word is tried as a truth value, a date or time, and a
float before it is an integer. Each of these has a character in it that no
numeral has.
-/

namespace Songbook.Toml

open Songbook.Text

/-! ## Numbers -/

section Words

variable {s : List Char}

theorem splitOn_of_isDigit (h : ∀ c ∈ s, c.isDigit = true) {sep : Char}
    (hsep : sep.isDigit = false) : s.splitOn sep = [s] :=
  List.splitOn_eq_singleton fun hmem => ne_of_isDigit (h sep hmem) hsep rfl

theorem isDate_of_isDigit (h : ∀ c ∈ s, c.isDigit = true) :
    isDate s = false := by
  rw [isDate, splitOn_of_isDigit h rfl]

theorem isTime_of_isDigit (h : ∀ c ∈ s, c.isDigit = true) :
    isTime s = false := by
  have hcolon : ((s.drop 5).head? == some ':') = false := by
    refine beq_eq_false_iff_ne.2 fun hhead => ?_
    exact ne_of_isDigit
      (h ':' (List.mem_of_mem_drop (List.mem_of_head? hhead))) rfl rfl
  rw [isTime, hcolon, Bool.and_false, Bool.false_and]

theorem isDateTime_of_isDigit (h : ∀ c ∈ s, c.isDigit = true) :
    isDateTime s = false := by
  have htake : isDate (s.take 10) = false :=
    isDate_of_isDigit fun c hc => h c (List.mem_of_mem_take hc)
  rw [isDateTime, isTime_of_isDigit h, isDate_of_isDigit h, htake]
  rfl

theorem splitSign_of_isDigit (h : ∀ c ∈ s, c.isDigit = true) :
    splitSign s = (false, s) := by
  unfold splitSign
  split
  · exact absurd (h '-' List.mem_cons_self) (by decide)
  · exact absurd (h '+' List.mem_cons_self) (by decide)
  · rfl

theorem ne_of_isDigit_of_mem (h : ∀ c ∈ s, c.isDigit = true) {name : List Char}
    {c : Char} (hmem : c ∈ name) (hc : c.isDigit = false) : s ≠ name := by
  rintro rfl
  exact ne_of_isDigit (h c hmem) hc rfl

theorem isFloat_of_isDigit (h : ∀ c ∈ s, c.isDigit = true) :
    isFloat s = false := by
  have hwhole : ∀ c ∈ s, (c.isDigit || c == '_') = true := fun c hc =>
    Bool.or_eq_true_iff.2 (.inl (h c hc))
  have hrest : (s ++ []).dropWhile (fun c : Char =>
      c.isDigit || c == '_') = [] :=
    List.dropWhile_append_of_pos hwhole
  have hnames : (s = "inf".toList || s = "nan".toList) = false := by
    rw [decide_eq_false
      (ne_of_isDigit_of_mem h (by decide : 'n' ∈ "inf".toList) rfl),
      decide_eq_false
        (ne_of_isDigit_of_mem h (by decide : 'n' ∈ "nan".toList) rfl)]
    rfl
  have htail : floatTail? [] = none := rfl
  rw [List.append_nil] at hrest
  rw [isFloat, splitSign_of_isDigit h]
  simp only [hnames, Bool.false_eq_true, if_false, hrest, htail]
  cases wholeDigits? _ <;> rfl

theorem ungroup?_of_isDigit (h : ∀ c ∈ s, c.isDigit = true) (hne : s ≠ []) :
    ungroup? Char.isDigit s = some s := by
  have hall : s.all Char.isDigit = true := List.all_eq_true.2 h
  have hempty : s.isEmpty = false := List.isEmpty_eq_false_iff.2 hne
  rw [ungroup?, splitOn_of_isDigit h rfl]
  simp only [List.all_cons, List.all_nil, hall, hempty, List.flatten_singleton]
  rfl

end Words

theorem valueOf_concat (base : Nat) (s : List Char) (c : Char) :
    valueOf base (s ++ [c]) = valueOf base s * base + (hexDigit? c).getD 0 :=
  List.foldl_append

theorem valueOf_toDigits (n : Nat) : valueOf 10 (Nat.toDigits 10 n) = n := by
  have hdigit : ∀ n < 10, (hexDigit? (Nat.digitChar n)).getD 0 = n := by decide
  induction n using Nat.strongRecOn with
  | ind n ih =>
    by_cases hn : n < 10
    · rw [Nat.toDigits_of_lt_base hn]
      exact (Nat.zero_add _).trans (hdigit n hn)
    · rw [Nat.toDigits_of_base_le (by decide) (by omega), valueOf_concat,
        ih (n / 10) (by omega), hdigit (n % 10) (by omega)]
      omega

theorem wholeDigits?_toDigits (n : Nat) :
    wholeDigits? (Nat.toDigits 10 n) = some (Nat.toDigits 10 n) := by
  rw [wholeDigits?,
    ungroup?_of_isDigit isDigit_of_mem_toDigits Nat.toDigits_ne_nil]
  split
  · next heq =>
    refine absurd ?_ (not_leadingZero_toDigits n)
    rw [Option.some.inj heq]
    exact ⟨Nat.succ_lt_succ (Nat.succ_pos _), rfl⟩
  · rfl

theorem integerOf?_toDigits (n : Nat) :
    integerOf? (Nat.toDigits 10 n) = some (n : Int) := by
  have hno {s : List Char} {c d : Char} (hd : d.isDigit = false) :
      Nat.toDigits 10 n ≠ c :: d :: s := fun heq =>
    ne_of_isDigit_of_mem isDigit_of_mem_toDigits
      (List.mem_cons_of_mem _ List.mem_cons_self) hd heq
  unfold integerOf?
  split
  · next heq => exact absurd heq (hno rfl)
  · next heq => exact absurd heq (hno rfl)
  · next heq => exact absurd heq (hno rfl)
  · rw [splitSign_of_isDigit isDigit_of_mem_toDigits]
    simp only [wholeDigits?_toDigits, Option.map_some, Bool.false_eq_true,
      if_false, valueOf_toDigits]

/-- A numeral is the word of the integer that it is the numeral of. -/
theorem word?_toDigits {n : Nat} {i : Int64} (h : i.toInt = n) :
    word? (Nat.toDigits 10 n) = some (.integer i) := by
  have hfit : fit? (n : Int) = some i := fit?_eq_some_iff.2 h
  rw [word?, if_neg (ne_of_isDigit_of_mem isDigit_of_mem_toDigits
      (by decide : 't' ∈ "true".toList) rfl),
    if_neg (ne_of_isDigit_of_mem isDigit_of_mem_toDigits
      (by decide : 'f' ∈ "false".toList) rfl),
    isDateTime_of_isDigit isDigit_of_mem_toDigits,
    isFloat_of_isDigit isDigit_of_mem_toDigits, integer?, integerOf?_toDigits,
    Option.bind_some, hfit]
  rfl

/-! ## Values -/

/-- Whether a value is read from a text that is written for it, up to the end
of the line. -/
def Reads (text : List Char) (value : Value) : Prop :=
  ∀ steps rest,
    takeValue (depthLimit - 1) (steps + 1) (skipSpace (text ++ '\n' :: rest)) =
    some (value, '\n' :: rest)

theorem quote_eq_cons (s : List Char) :
    ∃ t, quote s = '"' :: t ∨ quote s = '\'' :: t := by
  simp only [quote]
  repeat' split
  · exact ⟨_, .inl rfl⟩
  · exact ⟨_, .inr rfl⟩
  · exact ⟨_, .inl rfl⟩
  · exact ⟨_, .inr rfl⟩
  · exact ⟨_, .inl rfl⟩
  · exact ⟨_, .inl rfl⟩

theorem reads_quote (text : String) :
    Reads (quote text.toList) (.string text) := by
  intro steps rest
  have hread := takeString_quote text.toList rest
  have htake : takeValue (depthLimit - 1) (steps + 1)
      (skipSpace (quote text.toList ++ '\n' :: rest)) =
        (takeString (quote text.toList ++ '\n' :: rest)).map fun taken =>
          (.string taken.1, taken.2) := by
    obtain ⟨t, ht | ht⟩ := quote_eq_cons text.toList
    · rw [ht]
      rfl
    · rw [ht]
      rfl
  rw [htake, hread, String.ofList_toList]
  rfl

theorem endsWord_of_isDigit {c : Char} (h : c.isDigit = true) :
    endsWord c = false := by
  have hne {d : Char} (hd : d.isDigit = false) : (c == d) = false :=
    beq_eq_false_iff_ne.2 (ne_of_isDigit h hd)
  simp only [endsWord, hne (by decide : ' '.isDigit = false),
    hne (by decide : '\t'.isDigit = false),
    hne (by decide : '\n'.isDigit = false),
    hne (by decide : '\r'.isDigit = false), hne
      (by decide : ','.isDigit = false), hne (by decide : ']'.isDigit = false),
    hne (by decide : '\x7d'.isDigit = false),
    hne (by decide : '#'.isDigit = false), Bool.or_self]

theorem takeWord_toDigits {n : Nat} {i : Int64} (h : i.toInt = n)
    (rest : List Char) :
    takeWord (Nat.toDigits 10 n ++ '\n' :: rest) =
      some (.integer i, '\n' :: rest) := by
  have hword : ∀ c ∈ Nat.toDigits 10 n, (!endsWord c) = true := fun c hc => by
    rw [endsWord_of_isDigit (isDigit_of_mem_toDigits c hc)]
    rfl
  have htake : (Nat.toDigits 10 n ++ '\n' :: rest).takeWhile (fun c =>
      !endsWord c) =
      Nat.toDigits 10 n :=
    (List.takeWhile_append_of_pos hword).trans (List.append_nil _)
  have hdrop : (Nat.toDigits 10 n ++ '\n' :: rest).dropWhile (fun c =>
      !endsWord c) =
      '\n' :: rest :=
    List.dropWhile_append_of_pos hword
  rw [takeWord]
  simp only [htake, hdrop, word?_toDigits h, Option.map_some]
  rfl

theorem reads_toDigits {n : Nat} {i : Int64} (h : i.toInt = n) :
    Reads (Nat.toDigits 10 n) (.integer i) := by
  obtain ⟨c, t, ht⟩ :=
    List.exists_cons_of_ne_nil (Nat.toDigits_ne_nil (b := 10) (n := n))
  have hc : c.isDigit = true :=
    isDigit_of_mem_toDigits (n := n) c (ht ▸ List.mem_cons_self)
  have hne {d : Char} (hd : d.isDigit = false) : c ≠ d := ne_of_isDigit hc hd
  intro steps rest
  have hhead {d : Char} (hd : d.isDigit = false) (tail : List Char) :
      c :: t ++ '\n' :: rest = d :: tail → False :=
    fun heq => hne hd (List.cons.inj heq).1
  have hspace : skipSpace (c :: t ++ '\n' :: rest) =
      c :: t ++ '\n' :: rest := by
    refine List.dropWhile_cons_of_neg ?_
    simp only [isSpace, Bool.or_eq_true, beq_iff_eq]
    exact not_or.2 ⟨hne rfl, hne rfl⟩
  rw [← takeWord_toDigits h, ht, hspace]
  exact takeValue.eq_8 _ _ _ (hhead rfl) (hhead rfl) (hhead rfl) (hhead rfl)

/-! ## Keys -/

/-- Whether a key needs no quotes. -/
def IsBareKey (key : String) : Prop :=
  key.toList ≠ [] ∧ key.toList.all isBare = true

instance (key : String) : Decidable (IsBareKey key) :=
  inferInstanceAs (Decidable (_ ∧ _))

theorem ne_of_isBare {c d : Char} (hc : isBare c = true)
    (hd : isBare d = false) : c ≠ d := by
  rintro rfl
  rw [hc] at hd
  cases hd

namespace IsBareKey

variable {key : String} {rest : List Char}

theorem isBare_of_mem (h : IsBareKey key) : ∀ c ∈ key.toList, isBare c = true :=
  List.all_eq_true.1 h.2

/-- A bare key begins with a character that nothing else in a document begins
with. -/
theorem exists_eq_cons (h : IsBareKey key) :
    ∃ c s, key.toList = c :: s ∧ ∀ d, isBare d = false → c ≠ d := by
  obtain ⟨c, s, hs⟩ := List.exists_cons_of_ne_nil h.1
  exact ⟨c, s, hs,
    fun d hd => ne_of_isBare (h.isBare_of_mem c (hs ▸ List.mem_cons_self)) hd⟩

theorem line_append_eq_cons (h : IsBareKey key) (text rest : List Char) :
    ∃ c s, line key text ++ rest = c :: s ∧ ∀ d, isBare d = false → c ≠ d := by
  obtain ⟨c, s, hs, hne⟩ := h.exists_eq_cons
  refine ⟨c, s ++ (" = ".toList ++ (text ++ '\n' :: rest)), ?_, hne⟩
  simp only [line, hs, List.append_assoc, List.cons_append, List.nil_append]

theorem skipSpace_append (h : IsBareKey key) (rest : List Char) :
    skipSpace (key.toList ++ rest) = key.toList ++ rest := by
  obtain ⟨c, s, hs, hne⟩ := h.exists_eq_cons
  rw [hs]
  refine List.dropWhile_cons_of_neg ?_
  simp only [isSpace, Bool.or_eq_true, beq_iff_eq]
  exact not_or.2 ⟨hne _ (by decide), hne _ (by decide)⟩

theorem takeKey_append (h : IsBareKey key) (rest : List Char) :
    takeKey (key.toList ++ ' ' :: rest) = some (key, ' ' :: rest) := by
  have htake : (key.toList ++ ' ' :: rest).takeWhile isBare = key.toList :=
    (List.takeWhile_append_of_pos h.isBare_of_mem).trans (List.append_nil _)
  have hdrop : (key.toList ++ ' ' :: rest).dropWhile isBare = ' ' :: rest :=
    List.dropWhile_append_of_pos h.isBare_of_mem
  obtain ⟨c, s, hs, hne⟩ := h.exists_eq_cons
  unfold takeKey
  split
  · next heq =>
    rw [hs] at heq
    exact absurd (List.cons.inj heq).1 (hne _ (by decide))
  · next heq =>
    rw [hs] at heq
    exact absurd (List.cons.inj heq).1 (hne _ (by decide))
  · rw [htake, hdrop]
    split
    · next heq => exact absurd heq h.1
    · rw [String.ofList_toList]

theorem takePath_append (h : IsBareKey key) (rest : List Char) :
    takePath (key.toList ++ (" = ".toList ++ rest)) =
      some (([], key), '=' :: ' ' :: rest) := by
  have hkeys (steps : Nat) :
      takeKeys (steps + 1) (key.toList ++ (" = ".toList ++ rest)) =
      some ([key], '=' :: ' ' :: rest) := by
    rw [takeKeys, h.skipSpace_append]
    show (takeKey (key.toList ++ ' ' :: '=' :: ' ' :: rest)).bind _ = _
    rw [h.takeKey_append]
    rfl
  rw [takePath, hkeys]
  rfl

end IsBareKey

/-! ## Lines -/

variable {key : String} {text : List Char} {value : Value} {entries : Entries}

/-- A line that is written for a new key reads as an entry behind the others. -/
theorem takeEntry_line (hkey : IsBareKey key) (hread : Reads text value)
    (hnew : entries.lookup key = none) (rest : List Char) :
    takeEntry ⟨entries, []⟩ (line key text ++ rest) =
      some (⟨entries ++ [(key, value)], []⟩, rest) := by
  have hline : line key text ++ rest =
      key.toList ++ (" = ".toList ++ (text ++ '\n' :: rest)) := by
    simp only [line, List.append_assoc, List.singleton_append]
  have hset : entries.setUnder [] [] key value =
      some (entries ++ [(key, value)]) := by
    show (if ([].isEmpty || _) && (entries.lookup key).isNone
        then _ else none) = _
    rw [hnew]
    rfl
  have htake : takeValue (depthLimit - 1)
      (2 * (' ' :: (text ++ '\n' :: rest)).length + 2)
      (skipSpace (' ' :: (text ++ '\n' :: rest))) =
        some (value, '\n' :: rest) :=
    hread _ rest
  have hend : takeLineEnd ('\n' :: rest) = some rest := rfl
  rw [takeEntry, hline, hkey.takePath_append]
  simp only [Option.bind_eq_bind, Option.bind_some, htake, hend, hset]

theorem readLines_line (hkey : IsBareKey key) (hread : Reads text value)
    (hnew : entries.lookup key = none) (steps : Nat) (rest : List Char) :
    readLines (steps + 1) ⟨entries, []⟩ (line key text ++ rest) =
      readLines steps ⟨entries ++ [(key, value)], []⟩ rest := by
  have hentry := takeEntry_line hkey hread hnew rest
  obtain ⟨c, s, hline, hne⟩ := hkey.line_append_eq_cons text rest
  have hspace : skipSpace (line key text ++ rest) = line key text ++ rest := by
    rw [line, List.append_assoc, List.append_assoc, List.append_assoc,
      hkey.skipSpace_append]
  rw [readLines, hspace]
  rw [hline] at hentry ⊢
  -- a bare key is no header, no comment and no end of a line
  split
  · next heq => cases heq
  · next heq => exact absurd (List.cons.inj heq).1 (hne _ (by decide))
  · next heq =>
    obtain ⟨rfl, rfl⟩ := List.cons.inj heq
    rw [if_neg, hentry]
    · rfl
    · rintro (rfl | rfl | rfl)
      · exact hne _ (by decide) rfl
      · exact hne _ (by decide) rfl
      · exact hne _ (by decide) rfl

/-! ## Documents -/

/-- A line that is written for a value. -/
structure Line where
  key : String
  text : List Char
  value : Value
  isBareKey : IsBareKey key
  reads : Reads text value

namespace Line

/-- The characters of a line. -/
def chars (l : Line) : List Char :=
  Toml.line l.key l.text

/-- What a line says: its key and its value. -/
def entry (l : Line) : String × Value :=
  (l.key, l.value)

theorem length_chars_pos (l : Line) : 0 < l.chars.length := by
  obtain ⟨c, s, hline, -⟩ := l.isBareKey.line_append_eq_cons l.text []
  rw [chars, ← List.append_nil (Toml.line _ _), hline]
  exact Nat.succ_pos _

end Line

/-- Lines with new keys, each another one, read as entries behind the others. -/
theorem readLines_flatMap {lines : List Line} {steps : Nat}
    (hnew : ∀ l ∈ lines, entries.lookup l.key = none)
    (hnodup : (lines.map Line.key).Nodup) (hsteps : lines.length < steps) :
    readLines steps ⟨entries, []⟩ (lines.flatMap Line.chars) =
      some (entries ++ lines.map Line.entry) := by
  induction lines generalizing entries steps with
  | nil =>
    obtain ⟨k, rfl⟩ : ∃ k, steps = k + 1 := ⟨steps - 1, by omega⟩
    exact congrArg some (List.append_nil entries).symm
  | cons l lines ih =>
    obtain ⟨k, rfl⟩ : ∃ k, steps = k + 1 := ⟨steps - 1, by omega⟩
    rw [List.map_cons, List.nodup_cons] at hnodup
    have hrest : ∀ m ∈ lines,
        (entries ++ [(l.key, l.value)]).lookup m.key = none := by
      intro m hm
      have hne : (m.key == l.key) = false :=
        beq_eq_false_iff_ne.2 fun heq => hnodup.1 (List.mem_map.2 ⟨m, hm, heq⟩)
      rw [List.lookup_append, hnew m (List.mem_cons_of_mem _ hm),
        Option.none_or, List.lookup_cons, hne]
      rfl
    rw [List.flatMap_cons, Line.chars,
      readLines_line l.isBareKey l.reads (hnew l List.mem_cons_self),
      ih hrest hnodup.2 (Nat.lt_of_succ_lt_succ hsteps), List.append_assoc]
    rfl

/-- A document of lines with different keys reads as their entries. There is
no byte order mark before a bare key. -/
theorem ofText?_flatMap {lines : List Line}
    (hnodup : (lines.map Line.key).Nodup) :
    ofText? (String.ofList (lines.flatMap Line.chars)) =
      some (lines.map Line.entry) := by
  have hlength : lines.length ≤ (lines.flatMap Line.chars).length := by
    induction lines with
    | nil => exact Nat.zero_le _
    | cons l lines ih =>
      have := ih (List.nodup_cons.1 hnodup).2
      have := l.length_chars_pos
      rw [List.flatMap_cons, List.length_append, List.length_cons]
      omega
  have hread : readLines ((lines.flatMap Line.chars).length + 1) ⟨[], []⟩
      (lines.flatMap Line.chars) = some (lines.map Line.entry) :=
    readLines_flatMap (fun _ _ => rfl) hnodup (Nat.lt_succ_of_le hlength)
  rw [ofText?, String.toList_ofList, ← hread]
  split
  · next heq =>
    cases lines with
    | nil => cases heq
    | cons l lines =>
      obtain ⟨c, s, hline, hne⟩ :=
        l.isBareKey.line_append_eq_cons l.text (lines.flatMap Line.chars)
      rw [List.flatMap_cons, Line.chars, hline] at heq
      exact absurd (List.cons.inj heq).1 (hne _ (by decide))
  · rfl

end Songbook.Toml
