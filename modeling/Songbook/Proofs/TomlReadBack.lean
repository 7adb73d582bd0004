import Songbook.Toml.Printer
import Songbook.Toml.Reader

/-!
# Written texts read back

A text reads back from quotes whichever of the four forms was chosen for it.
On one line this is so character by character, as a character is taken from
what stands for it.

Over several lines it is not: the reader takes a run of quotes at once, and
only behind the run is it known whether they ended the text. So what the
induction carries is a text with the quotes before it that have not been taken
yet, of which there are never more than two, in one form because the third is
escaped and in the other because a text with a longer run is not written in
it. At the end of the text these quotes and the three that close it make a run
of five at most, which is what the reader allows.
-/

namespace Songbook.Toml

open Songbook.Text

/-! ## Characters -/

/-- But for the end of a line, what is no control character may stand in
quotes as it is. -/
theorem isPlain_of_isControl {c : Char} (h : isControl c = false)
    (hnewline : c ≠ '\n') :
    isPlain c = true := by
  simp only [isControl, Bool.or_eq_false_iff, Bool.and_eq_false_iff,
    decide_eq_false_iff_not, bne_eq_false_iff_eq, beq_eq_false_iff_ne] at h
  simp only [isPlain, Bool.or_eq_true, Bool.and_eq_true, decide_eq_true_eq,
    bne_iff_ne, beq_iff_eq]
  rcases h with ⟨(hlow | htab) | hn, hdelete⟩
  · exact .inr ⟨by omega, hdelete⟩
  · exact .inl htab
  · exact absurd hn hnewline

theorem takeNewline_of_isPlain {c : Char} (h : isPlain c = true)
    (s : List Char) :
    takeNewline (c :: s) = none := by
  unfold takeNewline
  split
  · next heq =>
    rw [(List.cons.inj heq).1] at h
    exact absurd h (by decide)
  · next heq =>
    rw [(List.cons.inj heq).1] at h
    exact absurd h (by decide)
  · rfl

/-- Whether characters, from behind a backslash, are an escape for a
character. Such a backslash does not stand at the end of a line. -/
def Escapes (s : List Char) (c : Char) : Prop :=
  ∀ rest, takeEscape (s ++ rest) = some (c, rest) ∧
    takeNewline (skipSpace (s ++ rest)) = none

theorem escapes_quote : Escapes ['"'] '"' :=
  fun _ => ⟨rfl, rfl⟩

/-- A control character is written with four digits, which read as it. -/
theorem escapes_control {c : Char} (h : isControl c = true) :
    Escapes ('u' :: padStart 4 '0'
      ((Nat.toDigits 16 c.toNat).map Char.toUpper)) c := by
  have hlt : c.toNat < 128 := by
    simp only [isControl, Bool.or_eq_true, Bool.and_eq_true, decide_eq_true_eq,
      beq_iff_eq] at h
    rcases h with ⟨⟨hlow, -⟩, -⟩ | rfl
    · omega
    · decide
  have hall : ∀ n < 128,
      (padStart 4 '0' ((Nat.toDigits 16 n).map Char.toUpper)).length = 4 ∧
      (hexNumber? (padStart 4 '0' ((Nat.toDigits 16 n).map Char.toUpper))).bind
        scalar? = some (Char.ofNat n) := by decide
  obtain ⟨hlength, hread⟩ := hall c.toNat hlt
  rw [Char.ofNat_toNat] at hread
  intro rest
  match hs : padStart 4 '0'
    ((Nat.toDigits 16 c.toNat).map Char.toUpper), hlength with
  | [a, b, d, e], _ =>
    rw [hs] at hread
    exact ⟨congrArg (Option.map fun c => (c, rest)) hread, rfl⟩

theorem escapeChar_cases (c : Char) :
    (escapeChar c = [c] ∧ isPlain c = true ∧ c ≠ '\\') ∨
      ∃ s, escapeChar c = '\\' :: s ∧ Escapes s c := by
  unfold escapeChar
  iterate 6
    split
    · next h =>
      subst h
      exact .inr ⟨_, rfl, fun _ => ⟨rfl, rfl⟩⟩
  split
  · next hcontrol => exact .inr ⟨_, rfl, escapes_control hcontrol⟩
  · next _ hnewline _ _ hbackslash hcontrol =>
    exact .inl ⟨rfl,
      isPlain_of_isControl (Bool.eq_false_iff.2 hcontrol) hnewline, hbackslash⟩

theorem head?_cons_ne {c quote : Char} (h : c ≠ quote) (s : List Char) :
    (c :: s).head? ≠ some quote :=
  fun hhead => h (Option.some.inj hhead)

theorem head?_escapeChar_ne {c : Char} (h : c ≠ '"') (s : List Char) :
    (escapeChar c ++ s).head? ≠ some '"' := by
  rcases escapeChar_cases c with ⟨heq, -, -⟩ | ⟨e, heq, -⟩
  · rw [heq]
    exact head?_cons_ne h _
  · rw [heq]
    exact head?_cons_ne (by decide) _

theorem length_le_escapeAll (long : Bool) (run : Nat) (s : List Char) :
    s.length ≤ (escapeAll long run s).length := by
  induction s generalizing run with
  | nil => exact Nat.le_refl _
  | cons c s ih =>
    have hpos : 0 < (escapeChar c).length := by
      rcases escapeChar_cases c with ⟨heq, -, -⟩ | ⟨e, heq, -⟩
      · rw [heq]
        exact Nat.zero_lt_one
      · rw [heq]
        exact Nat.succ_pos _
    rw [escapeAll]
    repeat' split
    · exact Nat.succ_le_succ (ih _)
    · exact Nat.succ_le_succ (Nat.le_succ_of_le (ih _))
    · exact Nat.succ_le_succ (ih _)
    · have := ih 0
      rw [List.length_append, List.length_cons]
      omega

/-! ## On one line -/

variable {steps run : Nat} {c : Char} {s rest : List Char}

/-- Whether a reader of what stands in double quotes takes a character at a
time, as an escape or as it is. -/
structure TakesChars (take : Nat → List Char → Option (List Char × List Char)) :
    Prop where
  escape {steps : Nat} {c : Char} {e s : List Char} (h : Escapes e c) :
    take (steps + 1) ('\\' :: (e ++ s)) =
      (take steps s).map fun taken => (c :: taken.1, taken.2)
  plain {steps : Nat} {c : Char} {s : List Char} (hquote : c ≠ '"')
    (hbackslash : c ≠ '\\')
    (h : isPlain c = true) :
    take (steps + 1) (c :: s) = (take steps s).map fun taken =>
      (c :: taken.1, taken.2)

theorem TakesChars.escapeChar
    {take : Nat → List Char → Option (List Char × List Char)}
    (h : TakesChars take) (hquote : c ≠ '"') :
    take (steps + 1) (escapeChar c ++ s) =
        (take steps s).map fun taken => (c :: taken.1, taken.2) := by
  rcases escapeChar_cases c with ⟨heq, hplain, hbackslash⟩ | ⟨e, heq, hescapes⟩
  · rw [heq]
    exact h.plain hquote hbackslash hplain
  · rw [heq]
    exact h.escape hescapes

theorem takesChars_takeBasic : TakesChars takeBasic where
  escape {steps c e s} h := by
    rw [takeBasic, (h s).1]
    simp only [Option.bind_eq_bind, Option.bind_some]
    cases takeBasic steps s <;> rfl
  plain {steps c s} hquote hbackslash h := by
    rw [takeBasic.eq_4 _ _ _ hquote hbackslash, if_pos h]
    cases takeBasic steps s <;> rfl

theorem takeBasic_escapeAll (h : s.length < steps) :
    takeBasic steps (escapeAll false run s ++ '"' :: rest) =
      some (s, rest) := by
  induction s generalizing steps run with
  | nil =>
    obtain ⟨k, rfl⟩ : ∃ k, steps = k + 1 := ⟨steps - 1, by omega⟩
    rfl
  | cons c s ih =>
    obtain ⟨k, rfl⟩ : ∃ k, steps = k + 1 := ⟨steps - 1, by omega⟩
    have hk : s.length < k := Nat.lt_of_succ_lt_succ h
    rw [escapeAll]
    simp only [Bool.false_and, Bool.false_eq_true, if_false]
    split
    · next hquote =>
      subst hquote
      have hread : takeBasic k (escapeAll false 0 s ++ '"' :: rest) =
          some (s, rest) := ih hk
      exact (takesChars_takeBasic.escape escapes_quote).trans
        (congrArg (Option.map _) hread)
    · next hquote =>
      rw [List.append_assoc, takesChars_takeBasic.escapeChar hquote, ih hk]
      rfl

theorem takeLiteral_append (h : ∀ c ∈ s, isPlain c = true ∧ c ≠ '\'') :
    takeLiteral (s ++ '\'' :: rest) = some (s, rest) := by
  have hall : ∀ c ∈ s, (isPlain c && c != '\'') = true := fun c hc =>
    Bool.and_eq_true_iff.2 ⟨(h c hc).1, bne_iff_ne.2 (h c hc).2⟩
  rw [takeLiteral, List.dropWhile_append_of_pos hall,
    List.takeWhile_append_of_pos hall]
  exact congrArg (fun text => some (text, rest)) (List.append_nil s)

/-! ## Over several lines -/

/-- Whether a reader takes quotes a run at a time, as those over several lines
do. -/
def TakesRuns (quote : Char)
    (take : Nat → List Char → Option (List Char × List Char)) : Prop :=
  ∀ steps s, take (steps + 1) (quote :: s) = do
    let (quotes, ends, s) ← takeQuotes quote (quote :: s)
    if ends then some (quotes, s)
    else do
      let (text, rest) ← take steps s
      some (quotes ++ text, rest)

theorem takesRuns_takeLongBasic : TakesRuns '"' takeLongBasic :=
  fun _ _ => rfl

theorem takesRuns_takeLongLiteral : TakesRuns '\'' takeLongLiteral :=
  fun _ _ => rfl

theorem takeWhile_replicate_append {quote : Char} (n : Nat)
    (h : s.head? ≠ some quote) :
    (List.replicate n quote ++ s).takeWhile (· == quote) =
      List.replicate n quote := by
  have hs : s.takeWhile (· == quote) = [] := by
    cases s with
    | nil => rfl
    | cons c s =>
      refine List.takeWhile_cons_of_neg fun hc => h ?_
      rw [beq_iff_eq.1 hc]
      rfl
  rw [List.takeWhile_append_of_pos, hs, List.append_nil]
  intro c hc
  exact beq_iff_eq.2 (List.eq_of_mem_replicate hc)

theorem dropWhile_replicate_append {quote : Char} (n : Nat)
    (h : s.head? ≠ some quote) :
    (List.replicate n quote ++ s).dropWhile (· == quote) = s := by
  have hsplit := List.takeWhile_append_dropWhile (p := (· == quote))
    (l := List.replicate n quote ++ s)
  rw [takeWhile_replicate_append n h] at hsplit
  exact List.append_cancel_left hsplit

namespace TakesRuns

variable {quote : Char}
  {take : Nat → List Char → Option (List Char × List Char)} {text : List Char}

/-- Quotes that are no more than two are taken as they are. -/
theorem take_quotes (h : TakesRuns quote take) (hrun : run ≤ 2)
    (hs : s.head? ≠ some quote) {n : Nat}
    (hread : ∀ steps, n < steps → take steps s = some (text, rest)) :
    ∀ steps, n + run < steps →
      take steps (List.replicate run quote ++ s) =
        some (List.replicate run quote ++ text, rest) := by
  intro steps hsteps
  cases run with
  | zero => exact hread steps (by omega)
  | succ k =>
    obtain ⟨m, rfl⟩ : ∃ m, steps = m + 1 := ⟨steps - 1, by omega⟩
    have htake : takeQuotes quote (List.replicate (k + 1) quote ++ s) =
        some (List.replicate (k + 1) quote, false, s) := by
      rw [takeQuotes, takeWhile_replicate_append _ hs,
        dropWhile_replicate_append _ hs, List.length_replicate]
      exact if_pos hrun
    have hrest : take m s = some (text, rest) := hread m (by omega)
    refine (h m (List.replicate k quote ++ s)).trans ?_
    rw [← List.cons_append, ← List.replicate_succ, htake]
    simp only [Option.bind_eq_bind, Option.bind_some, Bool.false_eq_true,
      if_false, hrest]

/-- Three quotes end a text, and of up to two more before them it ends with
these. -/
theorem take_end (h : TakesRuns quote take) (hrun : run ≤ 2)
    (hrest : rest.head? ≠ some quote) {steps : Nat} (hsteps : 0 < steps) :
    take steps (List.replicate run quote ++ (quote :: quote :: quote :: rest)) =
      some (List.replicate run quote, rest) := by
  obtain ⟨m, rfl⟩ : ∃ m, steps = m + 1 := ⟨steps - 1, by omega⟩
  have hquotes : List.replicate run quote ++ (quote :: quote :: quote :: rest) =
      List.replicate (run + 3) quote ++ rest := by
    rw [← List.replicate_append_replicate, List.append_assoc]
    rfl
  have htake : takeQuotes quote (List.replicate (run + 3) quote ++ rest) =
      some (List.replicate run quote, true, rest) := by
    rw [takeQuotes, takeWhile_replicate_append _ hrest,
      dropWhile_replicate_append _ hrest, List.length_replicate]
    simp only [if_neg (show ¬run + 3 ≤ 2 by omega),
      if_pos (show run + 3 ≤ 5 by omega), List.drop_replicate,
      Nat.add_sub_cancel]
  rw [hquotes, List.replicate_succ, List.cons_append]
  refine (h m _).trans ?_
  rw [← List.cons_append, ← List.replicate_succ, htake]
  rfl

end TakesRuns

theorem takeLongBasic_newline : takeLongBasic (steps + 1) ('\n' :: s) =
    (takeLongBasic steps s).map fun taken => ('\n' :: taken.1, taken.2) := by
  show (takeLongBasic steps s).bind _ = _
  cases takeLongBasic steps s <;> rfl

theorem takesChars_takeLongBasic : TakesChars takeLongBasic where
  escape {steps c e s} h := by
    rw [takeLongBasic]
    simp only [(h s).1, (h s).2, Option.bind_eq_bind, Option.bind_some]
    cases takeLongBasic steps s <;> rfl
  plain {steps c s} hquote hbackslash h := by
    rw [takeLongBasic.eq_4 _ _ _ hquote hbackslash]
    simp only [takeNewline_of_isPlain h, h, if_true]
    cases takeLongBasic steps s <;> rfl

theorem takeLongBasic_escapeAll (hrun : run ≤ 2)
    (hrest : rest.head? ≠ some '"') :
    ∀ steps, s.length + run < steps →
      takeLongBasic steps (List.replicate run '"' ++
        (escapeAll true run s ++ ('"' :: '"' :: '"' :: rest))) =
        some (List.replicate run '"' ++ s, rest) := by
  induction s generalizing run with
  | nil =>
    intro steps hsteps
    rw [List.append_nil]
    exact takesRuns_takeLongBasic.take_end hrun hrest (by omega)
  | cons c s ih =>
    have hnext : ∀ steps, s.length < steps →
        takeLongBasic steps
          (escapeAll true 0 s ++ ('"' :: '"' :: '"' :: rest)) =
            some (s, rest) :=
      fun steps hsteps => ih (Nat.zero_le 2) steps hsteps
    -- what a character after which no quotes wait is read from, with the
    -- quotes before it
    have hread {text : List Char} (hhead : text.head? ≠ some '"')
        (htake : ∀ k, takeLongBasic (k + 1) text =
          (takeLongBasic k (escapeAll true 0 s ++
          ('"' :: '"' :: '"' :: rest))).map fun taken =>
            (c :: taken.1, taken.2)) :
        ∀ steps, s.length + 1 + run < steps →
          takeLongBasic steps (List.replicate run '"' ++ text) =
          some (List.replicate run '"' ++ c :: s, rest) := by
      refine takesRuns_takeLongBasic.take_quotes hrun hhead
        fun steps hsteps => ?_
      obtain ⟨k, rfl⟩ : ∃ k, steps = k + 1 := ⟨steps - 1, by omega⟩
      rw [htake, hnext k (Nat.lt_of_succ_lt_succ hsteps)]
      rfl
    rw [List.length_cons, escapeAll]
    split
    · next hquote =>
      subst hquote
      split
      · next hfew =>
        -- a quote that stands as it is waits with those before it
        have hlt : run < 2 := by simpa using hfew
        intro steps hsteps
        have hmore := ih (Nat.succ_le_of_lt hlt) steps (by omega)
        rw [List.replicate_succ', List.append_assoc, List.append_assoc] at hmore
        exact hmore
      · exact hread (head?_cons_ne (by decide) _) fun k =>
          takesChars_takeLongBasic.escape escapes_quote
    · next hquote =>
      split
      · next hnewline =>
        have hc : c = '\n' := by simpa using hnewline
        subst hc
        exact hread (head?_cons_ne (by decide) _) fun k => takeLongBasic_newline
      · rw [List.append_assoc]
        exact hread (head?_escapeChar_ne hquote _) fun k =>
          takesChars_takeLongBasic.escapeChar hquote

theorem takeLongLiteral_char (hquote : c ≠ '\'')
    (hplain : c = '\n' ∨ isPlain c = true) :
    takeLongLiteral (steps + 1) (c :: s) =
      (takeLongLiteral steps s).map fun taken => (c :: taken.1, taken.2) := by
  rcases hplain with rfl | hplain
  · show (takeLongLiteral steps s).bind _ = _
    cases takeLongLiteral steps s <;> rfl
  · rw [takeLongLiteral.eq_3 _ _ _ hquote]
    simp only [takeNewline_of_isPlain hplain, hplain, if_true]
    cases takeLongLiteral steps s <;> rfl

theorem le_longestRun (quote : Char) (run : Nat) (s : List Char) :
    run ≤ longestRun quote run s := by
  induction s generalizing run with
  | nil => exact Nat.le_refl _
  | cons c s ih =>
    rw [longestRun]
    split
    · exact Nat.le_of_succ_le (ih _)
    · exact Nat.le_max_left ..

/-- A text without longer runs of quotes is taken as it is, with the quotes
before it. -/
theorem takeLongLiteral_append (hplain : ∀ c ∈ s, c = '\n' ∨ isPlain c = true)
    (hruns : longestRun '\'' run s ≤ 2) (hrest : rest.head? ≠ some '\'') :
    ∀ steps, s.length + run < steps →
      takeLongLiteral steps
        (List.replicate run '\'' ++ (s ++ ('\'' :: '\'' :: '\'' :: rest))) =
        some (List.replicate run '\'' ++ s, rest) := by
  have hrun : run ≤ 2 := Nat.le_trans (le_longestRun ..) hruns
  induction s generalizing run with
  | nil =>
    intro steps hsteps
    rw [List.append_nil]
    exact takesRuns_takeLongLiteral.take_end hrun hrest (by omega)
  | cons c s ih =>
    have htail : ∀ c ∈ s, c = '\n' ∨ isPlain c = true := fun d hd =>
      hplain d (List.mem_cons_of_mem _ hd)
    rw [longestRun] at hruns
    split at hruns
    · next hquote =>
      subst hquote
      intro steps hsteps
      have hmore := ih htail hruns (Nat.le_trans (le_longestRun ..) hruns) steps
        (by rw [List.length_cons] at hsteps; omega)
      rw [List.replicate_succ', List.append_assoc, List.append_assoc] at hmore
      exact hmore
    · next hquote =>
      have hzero : longestRun '\'' 0 s ≤ 2 :=
        Nat.le_trans (Nat.le_max_right ..) hruns
      refine takesRuns_takeLongLiteral.take_quotes hrun
        (head?_cons_ne hquote _) ?_
      intro steps hsteps
      rw [List.length_cons] at hsteps
      obtain ⟨k, rfl⟩ : ∃ k, steps = k + 1 := ⟨steps - 1, by omega⟩
      have hread : takeLongLiteral k (s ++ ('\'' :: '\'' :: '\'' :: rest)) =
          some (s, rest) :=
        ih htail hzero (Nat.zero_le 2) k (by omega)
      exact (takeLongLiteral_char hquote (hplain c List.mem_cons_self)).trans
        (congrArg (Option.map _) hread)

/-! ## The four forms -/

theorem takeString_basic (s rest : List Char) :
    takeString ('"' :: (escapeAll false 0 s ++ '"' :: '\n' :: rest)) =
      some (String.ofList s, '\n' :: rest) := by
  have hread : takeBasic
      ((escapeAll false 0 s ++ '"' :: '\n' :: rest).length + 1)
      (escapeAll false 0 s ++ '"' :: '\n' :: rest) =
        some (s, '\n' :: rest) := by
    refine takeBasic_escapeAll ?_
    have hlength := length_le_escapeAll false 0 s
    rw [List.length_append]
    omega
  -- the first quote is no part of three
  have hone (t : List Char) :
      escapeAll false 0 s ++ '"' :: '\n' :: rest ≠ '"' :: '"' :: t := by
    intro heq
    cases s with
    | nil => cases heq
    | cons c s =>
      have hhead := congrArg List.head? heq
      rw [escapeAll] at hhead
      simp only [Bool.false_and, Bool.false_eq_true, if_false] at hhead
      split at hhead
      · exact head?_cons_ne (by decide) _ hhead
      · next hquote =>
        rw [List.append_assoc] at hhead
        exact head?_escapeChar_ne hquote _ hhead
  simp only [takeString, hread]
  rfl

theorem takeString_literal (rest : List Char)
    (h : ∀ c ∈ s, isPlain c = true ∧ c ≠ '\'') :
    takeString ('\'' :: (s ++ '\'' :: '\n' :: rest)) =
      some (String.ofList s, '\n' :: rest) := by
  have hone (t : List Char) :
      s ++ '\'' :: '\n' :: rest ≠ '\'' :: '\'' :: t := by
    intro heq
    cases s with
    | nil => cases heq
    | cons c s => exact (h c List.mem_cons_self).2 (List.cons.inj heq).1
  simp only [takeString, takeLiteral_append h]
  rfl

/-- The end of a line before a text over several lines does not belong to it. -/
theorem skipNewline_append {body : List Char}
    (h : '\n' ∉ s → takeNewline body = none) :
    skipNewline ((if s.contains '\n' then ['\n'] else []) ++ body) = body := by
  split
  · rfl
  · next hs =>
    rw [List.nil_append, skipNewline, h fun hmem =>
      hs (List.contains_iff_mem.2 hmem)]
    rfl

theorem enclose_append (quote : Char) (s body rest : List Char) :
    enclose [quote, quote, quote] s body ++ rest = quote :: quote :: quote ::
      ((if s.contains '\n' then ['\n'] else []) ++
        (body ++ (quote :: quote :: quote :: rest))) := by
  simp only [enclose, List.append_assoc]
  rfl

theorem takeString_longBasic (s rest : List Char) :
    takeString (enclose ['"', '"', '"'] s (escapeAll true 0 s) ++
      '\n' :: rest) =
      some (String.ofList s, '\n' :: rest) := by
  have hbody : '\n' ∉ s →
      takeNewline
        (escapeAll true 0 s ++ ('"' :: '"' :: '"' :: '\n' :: rest)) = none := by
    intro hs
    cases s with
    | nil => rfl
    | cons c s =>
      have hnewline : (c == '\n') = false :=
        beq_eq_false_iff_ne.2 fun heq => hs (heq ▸ List.mem_cons_self)
      rw [escapeAll]
      simp only [hnewline, Bool.and_false, Bool.false_eq_true, if_false]
      split
      · rfl
      · rcases escapeChar_cases c with ⟨heq, hplain, -⟩ | ⟨e, heq, -⟩
        · rw [heq]
          exact takeNewline_of_isPlain hplain _
        · rw [heq]
          rfl
  have hread (start : List Char) : takeLongBasic
      ((start ++ (escapeAll true 0 s ++
        ('"' :: '"' :: '"' :: '\n' :: rest))).length + 1)
      (escapeAll true 0 s ++ ('"' :: '"' :: '"' :: '\n' :: rest)) =
        some (s, '\n' :: rest) := by
    refine takeLongBasic_escapeAll (Nat.zero_le 2)
      (head?_cons_ne (by decide) _) _ ?_
    have hlength := length_le_escapeAll true 0 s
    simp only [List.length_append]
    omega
  rw [enclose_append]
  show ((takeLongBasic _ (skipNewline _)).map _) = _
  rw [skipNewline_append hbody, hread]
  rfl

theorem takeString_longLiteral (rest : List Char)
    (hplain : ∀ c ∈ s, c = '\n' ∨ isPlain c = true)
    (hruns : longestRun '\'' 0 s ≤ 2) :
    takeString (enclose ['\'', '\'', '\''] s s ++ '\n' :: rest) =
      some (String.ofList s, '\n' :: rest) := by
  have hbody : '\n' ∉ s →
      takeNewline (s ++ ('\'' :: '\'' :: '\'' :: '\n' :: rest)) = none := by
    intro hs
    cases s with
    | nil => rfl
    | cons c s =>
      refine takeNewline_of_isPlain
        ((hplain c List.mem_cons_self).resolve_left ?_) _
      exact fun heq => hs (heq ▸ List.mem_cons_self)
  have hread (start : List Char) : takeLongLiteral
      ((start ++ (s ++ ('\'' :: '\'' :: '\'' :: '\n' :: rest))).length + 1)
      (s ++ ('\'' :: '\'' :: '\'' :: '\n' :: rest)) =
        some (s, '\n' :: rest) := by
    refine takeLongLiteral_append hplain hruns
      (head?_cons_ne (by decide) _) _ ?_
    simp only [List.length_append]
    omega
  rw [enclose_append]
  show ((takeLongLiteral _ (skipNewline _)).map _) = _
  rw [skipNewline_append hbody, hread]
  rfl

theorem longestRun_eq_zero {quote : Char} (h : longestRun quote 0 s = 0) :
    ∀ c ∈ s, c ≠ quote := by
  induction s with
  | nil => exact List.forall_mem_nil _
  | cons c s ih =>
    rw [longestRun] at h
    split at h
    · exact absurd h (Nat.ne_of_gt (le_longestRun ..))
    · next hc => exact List.forall_mem_cons.2 ⟨hc, ih (by omega)⟩

/-- A text reads back from its quotes, whichever they are, up to the end of
the line. -/
theorem takeString_quote (s rest : List Char) :
    takeString (quote s ++ '\n' :: rest) =
      some (String.ofList s, '\n' :: rest) := by
  have hbasic : takeString
      ('"' :: escapeAll false 0 s ++ ['"'] ++ '\n' :: rest) =
      some (String.ofList s, '\n' :: rest) := by
    rw [List.append_assoc]
    exact takeString_basic s rest
  have hplain (h : s.any isControl = false) : ∀ c ∈ s, c = '\n' ∨
      isPlain c = true := by
    intro c hc
    rw [List.any_eq_false] at h
    by_cases hnewline : c = '\n'
    · exact .inl hnewline
    · exact .inr (isPlain_of_isControl (Bool.eq_false_iff.2 (h c hc)) hnewline)
  simp only [quote]
  split
  · exact hbasic
  split
  · next h =>
    simp only [Bool.and_eq_true, Bool.not_eq_true', beq_iff_eq] at h
    obtain ⟨⟨hcontrol, hsingles⟩, hnewline⟩ := h
    rw [List.append_assoc]
    refine takeString_literal rest fun c hc =>
      ⟨(hplain hcontrol c hc).resolve_left ?_, ?_⟩
    · rintro rfl
      rw [List.contains_iff_mem.2 hc] at hnewline
      cases hnewline
    · exact longestRun_eq_zero hsingles c hc
  split
  · exact takeString_longBasic s rest
  split
  · next h =>
    simp only [Bool.and_eq_true, Bool.not_eq_true', decide_eq_true_eq] at h
    exact takeString_longLiteral rest (hplain h.1) h.2
  split
  · exact takeString_longBasic s rest
  · exact hbasic

end Songbook.Toml
