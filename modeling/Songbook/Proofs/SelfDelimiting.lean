import Songbook.Proofs.CivilDays
import Songbook.Proofs.Numerals
import Songbook.Text.Hexadecimal
import Songbook.Text.Quoted

/-!
# Where a written thing ends

Things that are written one after another can be told apart if each of them
shows where it ends. A word shows it when no other word that could stand in
its place goes on from it. A quoted text shows it whatever follows: between
the quotes a quote has a backslash before it, and each escape shows where it
ends in turn. A numeral shows it only before something that is no digit, and a
date ends in a numeral, whatever signs and hyphens stand in it before.

All this is one property, of a way of writing and of what may follow. It is
stated for two writings at once and asks nothing of a reader, so two things of
a kind are told apart before there is one.
-/

namespace Songbook

namespace Text

/-- Whether what is written can be told from what follows it, if that is one
of some texts. -/
def SelfDelimiting {α : Type} (write : α → List Char)
    (ends : List Char → Prop) : Prop :=
  ∀ ⦃a b s t⦄, ends s → ends t → write a ++ s = write b ++ t → a = b ∧ s = t

/-- Whether a text does not go on with a digit. -/
def EndsNumeral (s : List Char) : Prop :=
  s.takeWhile Char.isDigit = []

variable {α : Type} {write : α → List Char} {s t : List Char}

theorem endsNumeral_cons {c : Char} (h : c.isDigit = false) (s : List Char) :
    EndsNumeral (c :: s) :=
  List.takeWhile_cons_of_neg (by simp [h])

/-- Words of which none begins with another can be told from whatever follows.
-/
theorem SelfDelimiting.of_words (h : ∀ a b, write a <+: write b → a = b) :
    SelfDelimiting write fun _ => True := by
  intro a b s t _ _ heq
  have hab : a = b := by
    rcases List.prefix_or_prefix_of_prefix (List.prefix_append (write a) s)
      (heq ▸ List.prefix_append (write b) t) with hstart | hstart
    · exact h a b hstart
    · exact (h b a hstart).symm
  rw [hab] at heq
  exact ⟨hab, List.append_cancel_left heq⟩

/-! ## Numerals -/

theorem selfDelimiting_digits (width : Nat) :
    SelfDelimiting (digits width) EndsNumeral := by
  intro m n s t hs ht h
  have hdigits := congrArg (List.takeWhile Char.isDigit) h
  rw [List.takeWhile_append_of_pos isDigit_of_mem_digits, hs,
    List.takeWhile_append_of_pos isDigit_of_mem_digits, ht, List.append_nil,
    List.append_nil]
    at hdigits
  have hm := natural?_digits width m
  rw [hdigits, natural?_digits] at hm
  rw [hdigits] at h
  exact ⟨(Option.some.inj hm).symm, List.append_cancel_left h⟩

/-- What may stand before the digits of a number. -/
def signs : List (List Char) :=
  [[], ['-'], ['+']]

/-- A sign, or its absence, can be told from the digits that follow. -/
theorem sign_append_inj {p q u v : List Char} (hp : p ∈ signs) (hq : q ∈ signs)
    (hu : u ≠ []) (hudigits : ∀ c ∈ u, c.isDigit = true) (hv : v ≠ [])
    (hvdigits : ∀ c ∈ v, c.isDigit = true) (h : p ++ (u ++ s) = q ++ (v ++ t)) :
    p = q ∧ u ++ s = v ++ t := by
  obtain ⟨c, u, rfl⟩ := List.exists_cons_of_ne_nil hu
  obtain ⟨d, v, rfl⟩ := List.exists_cons_of_ne_nil hv
  have hc := hudigits c List.mem_cons_self
  have hd := hvdigits d List.mem_cons_self
  have hsign : ∀ sign : Char, sign.isDigit = false → c ≠ sign ∧ d ≠ sign :=
    fun sign hsign => ⟨ne_of_isDigit hc hsign, ne_of_isDigit hd hsign⟩
  obtain ⟨hcminus, hdminus⟩ := hsign '-' (by decide)
  obtain ⟨hcplus, hdplus⟩ := hsign '+' (by decide)
  simp only [signs, List.mem_cons, List.not_mem_nil, or_false] at hp hq
  rcases hp with rfl | rfl | rfl
  · rcases hq with rfl | rfl | rfl
    · exact ⟨rfl, h⟩
    · exact absurd (List.cons.inj h).1 hcminus
    · exact absurd (List.cons.inj h).1 hcplus
  · rcases hq with rfl | rfl | rfl
    · exact absurd (List.cons.inj h).1.symm hdminus
    · exact ⟨rfl, (List.cons.inj h).2⟩
    · exact absurd (List.cons.inj h).1 (by decide)
  · rcases hq with rfl | rfl | rfl
    · exact absurd (List.cons.inj h).1.symm hdplus
    · exact absurd (List.cons.inj h).1 (by decide)
    · exact ⟨rfl, (List.cons.inj h).2⟩

/-- A number is given by its sign and its digits, if the sign says whether it
is negative. -/
theorem SelfDelimiting.of_sign {sign : Int → List Char} {width : Nat}
    (hsign : ∀ n, sign n ∈ signs) (hneg : ∀ n, sign n = ['-'] ↔ n < 0) :
    SelfDelimiting (fun n => sign n ++ digits width n.natAbs) EndsNumeral := by
  intro m n s t hs ht h
  rw [List.append_assoc, List.append_assoc] at h
  obtain ⟨hsigns, hrest⟩ :=
    sign_append_inj (hsign m) (hsign n) (digits_ne_nil _ _)
    isDigit_of_mem_digits (digits_ne_nil _ _) isDigit_of_mem_digits h
  obtain ⟨habs, hst⟩ := selfDelimiting_digits width hs ht hrest
  have hiff : m < 0 ↔ n < 0 := by rw [← hneg, ← hneg, hsigns]
  exact ⟨by omega, hst⟩

theorem selfDelimiting_decimal :
    SelfDelimiting (fun n : Int => (decimal n).toList) EndsNumeral := by
  have hdecimal : (fun n : Int => (decimal n).toList) = fun n =>
      (if n < 0 then ['-'] else []) ++ digits 0 n.natAbs := by
    funext n
    rw [decimal, digits, padStart, Nat.zero_sub, List.replicate_zero]
    split
    · rw [String.toList_append, Nat.toList_repr]
      rfl
    · exact Nat.toList_repr
  rw [hdecimal]
  refine SelfDelimiting.of_sign (fun n => ?_) fun n => ?_
  · split <;> decide
  · split <;> simp [*]

/-! ## Quoted texts -/

/-- What is closed by a character that does not stand in it can be told from
whatever follows. -/
theorem SelfDelimiting.of_close {close : Char} (hmem : ∀ a, close ∉ write a)
    (hinj : Function.Injective write) :
    SelfDelimiting (fun a => write a ++ [close]) fun _ => True := by
  intro a b s t _ _ h
  have htake : ∀ a s,
      ((write a ++ [close]) ++ s).takeWhile (· != close) = write a := by
    intro a s
    rw [List.append_assoc, List.takeWhile_append_of_pos, List.singleton_append,
      List.takeWhile_cons_of_neg (by simp), List.append_nil]
    intro c hc
    rw [bne_iff_ne]
    rintro rfl
    exact hmem a hc
  have hwrite := congrArg (List.takeWhile (· != close)) h
  rw [htake, htake] at hwrite
  refine ⟨hinj hwrite, ?_⟩
  simp only [hwrite] at h
  exact List.append_cancel_left h

theorem brace_not_mem_toDigits (n : Nat) : '\x7d' ∉ Nat.toDigits 16 n := by
  have hdigit : ∀ n < 16, '\x7d' ≠ Nat.digitChar n := by decide
  induction n using Nat.strongRecOn with
  | ind n ih =>
    by_cases hn : n < 16
    · rw [Nat.toDigits_of_lt_base hn, List.mem_singleton]
      exact hdigit n hn
    · rw [Nat.toDigits_of_base_le (by decide) (by omega), List.mem_append,
        List.mem_singleton]
      rintro (h | h)
      · exact ih (n / 16) (by omega) h
      · exact hdigit (n % 16) (by omega) h

/-- The characters that have an escape of one letter, and the letter. -/
def shortEscapes : List (Char × Char) :=
  [('\x00', '0'), ('\t', 't'), ('\r', 'r'), ('\n', 'n'),
    ('"', '"'), ('\\', '\\')]

theorem escapeChar_cases (c : Char) :
    (∃ letter, (c, letter) ∈ shortEscapes ∧ escapeChar c = ['\\', letter]) ∨
      escapeChar c =
        '\\' :: 'u' :: '\x7b' :: (Nat.toDigits 16 c.toNat ++ ['\x7d']) ∨
      c ≠ '\\' ∧ c ≠ '"' ∧ escapeChar c = [c] := by
  rw [escapeChar]
  split
  · next h => exact .inl ⟨'0', by simp [shortEscapes, h], rfl⟩
  split
  · next h => exact .inl ⟨'t', by simp [shortEscapes, h], rfl⟩
  split
  · next h => exact .inl ⟨'r', by simp [shortEscapes, h], rfl⟩
  split
  · next h => exact .inl ⟨'n', by simp [shortEscapes, h], rfl⟩
  split
  · next h => exact .inl ⟨'"', by simp [shortEscapes, h], rfl⟩
  split
  · next h => exact .inl ⟨'\\', by simp [shortEscapes, h], rfl⟩
  next hquote hbackslash =>
  split
  · exact .inr (.inl rfl)
  · exact .inr (.inr ⟨hbackslash, hquote, rfl⟩)

theorem selfDelimiting_escapeChar :
    SelfDelimiting escapeChar fun _ => True := by
  have hletters : ∀ p ∈ shortEscapes, p.2 ≠ 'u' ∧
      ∀ q ∈ shortEscapes, p.2 = q.2 → p.1 = q.1 := by
    decide
  have hnumber :
      SelfDelimiting (fun c : Char => Nat.toDigits 16 c.toNat ++ ['\x7d'])
        fun _ => True :=
    SelfDelimiting.of_close (fun _ => brace_not_mem_toDigits _) fun c d h => by
      have hc := hexNumber?_toDigits c.toNat
      rw [show Nat.toDigits 16 c.toNat = Nat.toDigits 16 d.toNat from h,
        hexNumber?_toDigits] at hc
      exact Char.toNat_inj.1 (Option.some.inj hc).symm
  intro c d s t hs ht h
  rcases escapeChar_cases c with ⟨e, he, hc⟩ | hc | ⟨hcback, -, hc⟩
  · rcases escapeChar_cases d with ⟨f, hf, hd⟩ | hd | ⟨hdback, -, hd⟩
    · simp only [hc, hd, List.cons_append, List.cons.injEq, true_and] at h
      exact ⟨(hletters _ he).2 _ hf h.1, h.2⟩
    · simp only [hc, hd, List.cons_append, List.cons.injEq, true_and] at h
      exact absurd h.1 (hletters _ he).1
    · simp only [hc, hd, List.cons_append, List.cons.injEq] at h
      exact absurd h.1.symm hdback
  · rcases escapeChar_cases d with ⟨f, hf, hd⟩ | hd | ⟨hdback, -, hd⟩
    · simp only [hc, hd, List.cons_append, List.cons.injEq, true_and] at h
      exact absurd h.1.symm (hletters _ hf).1
    · simp only [hc, hd, List.cons_append, List.cons.injEq, true_and] at h
      exact hnumber hs ht h
    · simp only [hc, hd, List.cons_append, List.cons.injEq] at h
      exact absurd h.1.symm hdback
  · rcases escapeChar_cases d with ⟨f, hf, hd⟩ | hd | ⟨hdback, -, hd⟩
    · simp only [hc, hd, List.cons_append, List.cons.injEq] at h
      exact absurd h.1 hcback
    · simp only [hc, hd, List.cons_append, List.cons.injEq] at h
      exact absurd h.1 hcback
    · simp only [hc, hd, List.cons_append, List.nil_append,
        List.cons.injEq] at h
      exact h

/-- No character between the quotes is written so that it could be taken for
the closing quote. -/
theorem escapeChar_append_ne (c : Char) (s t : List Char) :
    escapeChar c ++ s ≠ '"' :: t := by
  intro h
  rcases escapeChar_cases c with ⟨e, -, hc⟩ | hc | ⟨-, hquote, hc⟩
  · rw [hc] at h
    exact absurd (List.cons.inj h).1 (by decide)
  · rw [hc] at h
    exact absurd (List.cons.inj h).1 (by decide)
  · rw [hc] at h
    exact hquote (List.cons.inj h).1

/-- A quoted text, once its first quote has been read. -/
theorem selfDelimiting_quoted :
    SelfDelimiting (fun s : List Char => s.flatMap escapeChar ++ ['"'])
      fun _ => True := by
  intro a b s t hs ht h
  simp only [List.append_assoc, List.singleton_append] at h
  induction a generalizing b with
  | nil =>
      cases b with
      | nil => exact ⟨rfl, (List.cons.inj h).2⟩
      | cons d b =>
          rw [List.flatMap_cons, List.append_assoc] at h
          exact absurd h.symm (escapeChar_append_ne d _ _)
  | cons c a ih =>
      cases b with
      | nil =>
          rw [List.flatMap_cons, List.append_assoc] at h
          exact absurd h (escapeChar_append_ne c _ _)
      | cons d b =>
          rw [List.flatMap_cons, List.flatMap_cons, List.append_assoc,
            List.append_assoc] at h
          obtain ⟨rfl, hrest⟩ := selfDelimiting_escapeChar trivial trivial h
          obtain ⟨rfl, hst⟩ := ih hrest
          exact ⟨rfl, hst⟩

end Text

namespace Date

open Songbook.Text

theorem selfDelimiting_yearText : SelfDelimiting yearText EndsNumeral := by
  have hyear : yearText = fun year =>
      (if year < 0 then ['-'] else if 9999 < year then ['+'] else []) ++
        digits 4 year.natAbs := by
    funext year
    rw [yearText]
    split
    · rfl
    · split
      · rfl
      · rfl
  rw [hyear]
  refine SelfDelimiting.of_sign (fun year => ?_) fun year => ?_
  · split
    · decide
    · split <;> decide
  · split
    · simp [*]
    · split <;> simp [*]

theorem selfDelimiting_text :
    SelfDelimiting (fun d : Date => d.text.toList) EndsNumeral := by
  intro a b s t hs ht h
  simp only [text, String.toList_ofList, List.append_assoc,
    List.cons_append] at h
  obtain ⟨hyear, h⟩ :=
    selfDelimiting_yearText (endsNumeral_cons rfl _) (endsNumeral_cons rfl _) h
  obtain ⟨hmonth, h⟩ :=
    selfDelimiting_digits 2 (endsNumeral_cons rfl _) (endsNumeral_cons rfl _)
    (List.cons.inj h).2
  obtain ⟨hday, h⟩ := selfDelimiting_digits 2 hs ht (List.cons.inj h).2
  have ha := ofCivil?_self a
  rw [hyear, hmonth, hday, ofCivil?_self] at ha
  exact ⟨(Option.some.inj ha).symm, h⟩

end Date

end Songbook
