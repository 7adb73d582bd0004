import Mathlib.Data.List.TakeWhile
import Songbook.Cli.Run
import Songbook.Proofs.Reading
import Songbook.Proofs.Utf8

/-!
# Query strings that were written

There are many ways to write a list of pairs as a query string, and which one
is used is up to whoever writes it: a blank as a plus sign or in hexadecimal,
digits of either case, more in hexadecimal than need be, ampersands to spare.
So writing is a relation here and no function, and reading is shown to undo
all of it at once.

The reader takes a query string apart before it decodes anything. It may,
because what is written for a text holds neither an ampersand nor an equals
sign, whatever the text holds. Inside of a part it turns plus signs into
blanks before it looks at percent signs, so that a plus sign of the text,
which is written in hexadecimal, stays one. And it reads characters last of
all, from bytes that are complete by then.
-/

namespace Songbook.Filter

open Songbook.Text

namespace Form

/-! ## Writing -/

/-- The characters that may stand for themselves: letters and digits of ASCII
and four more. -/
def isUnreserved (c : Char) : Bool :=
  c.isAlphanum || c == '-' || c == '.' || c == '_' || c == '~'

/-- The hexadecimal digit of a number below 16, of either case. -/
def IsHexDigit (n : Nat) (c : Char) : Prop :=
  c = Nat.digitChar n ∨ c = (Nat.digitChar n).toUpper

/-- The ways to write a byte. -/
inductive WritesByte : UInt8 → List Char → Prop
  | plain {c : Char} (h : isUnreserved c = true) :
      WritesByte (UInt8.ofNat c.toNat) [c]
  | plus : WritesByte 32 ['+']
  | percent {byte : UInt8} {a b : Char} (ha : IsHexDigit (byte.toNat / 16) a)
      (hb : IsHexDigit (byte.toNat % 16) b) : WritesByte byte ['%', a, b]

/-- The ways to write bytes, one after another. -/
inductive WritesBytes : List UInt8 → List Char → Prop
  | nil : WritesBytes [] []
  | cons {byte : UInt8} {bytes : List UInt8} {s t : List Char}
      (h : WritesByte byte s) (hrest : WritesBytes bytes t) :
      WritesBytes (byte :: bytes) (s ++ t)

/-- Whether characters write a text: one way or another, each byte of it. -/
def WritesText (text : String) (s : List Char) : Prop :=
  WritesBytes (toBytes text.toList) s

/-- The ways to write a pair. The equals sign may be left out before the empty
text, but something has to be written. -/
inductive WritesPair : String × String → List Char → Prop
  | joined {key text : String} {s t : List Char} (hkey : WritesText key s)
      (htext : WritesText text t) : WritesPair (key, text) (s ++ '=' :: t)
  | keyOnly {key : String} {s : List Char} (hkey : WritesText key s)
    (hne : key ≠ "") :
      WritesPair (key, "") s

/-- The ways to write pairs, with ampersands between any two, and more of them
anywhere. -/
inductive WritesPairs : List (String × String) → List Char → Prop
  | nil : WritesPairs [] []
  | ampersand {pairs : List (String × String)} {s : List Char}
    (h : WritesPairs pairs s) :
      WritesPairs pairs ('&' :: s)
  | last {pair : String × String} {s : List Char} (h : WritesPair pair s) :
      WritesPairs [pair] s
  | cons {pair : String × String} {pairs : List (String × String)}
      {s t : List Char} (h : WritesPair pair s) (hrest : WritesPairs pairs t) :
      WritesPairs (pair :: pairs) (s ++ '&' :: t)

/-- The ways to write pairs as a query string, which a question mark may
begin. -/
inductive WritesQuery (pairs : List (String × String)) : List Char → Prop
  | bare {s : List Char} (h : WritesPairs pairs s) : WritesQuery pairs s
  | marked {s : List Char} (h : WritesPairs pairs s) :
      WritesQuery pairs ('?' :: s)

/-! ## Everything can be written -/

theorem exists_writesBytes (bytes : List UInt8) : ∃ s, WritesBytes bytes s := by
  induction bytes with
  | nil => exact ⟨_, .nil⟩
  | cons byte bytes ih =>
      obtain ⟨s, hs⟩ := ih
      exact ⟨_, .cons (.percent (.inl rfl) (.inl rfl)) hs⟩

theorem exists_writesPairs (pairs : List (String × String)) :
    ∃ s, WritesPairs pairs s := by
  induction pairs with
  | nil => exact ⟨_, .nil⟩
  | cons pair pairs ih =>
      obtain ⟨rest, hrest⟩ := ih
      obtain ⟨s, hs⟩ := exists_writesBytes (toBytes pair.1.toList)
      obtain ⟨t, ht⟩ := exists_writesBytes (toBytes pair.2.toList)
      exact ⟨_, .cons (.joined hs ht) hrest⟩

/-! ## Hexadecimal digits -/

theorem IsHexDigit.spec {n : Nat} {c : Char} (h : IsHexDigit n c)
    (hn : n < 16) :
    hexDigit? c = some n ∧ isUnreserved c = true := by
  have hall : ∀ n < 16, (hexDigit? (Nat.digitChar n) = some n ∧
      isUnreserved (Nat.digitChar n) = true) ∧
      hexDigit? (Nat.digitChar n).toUpper = some n ∧
      isUnreserved (Nat.digitChar n).toUpper = true := by decide
  -- Digits may stand for themselves, which is what keeps them whole when the
  -- text is taken apart.
  rcases h with rfl | rfl
  · exact (hall n hn).1
  · exact (hall n hn).2

theorem toNat_lt_of_isUnreserved {c : Char} (h : isUnreserved c = true) :
    c.toNat < 128 := by
  have hranges : (decide (c.val ≥ 'A'.val ∧ c.val ≤ 'Z'.val) ||
      (decide (c.val ≥ 'a'.val) && decide (c.val ≤ 'z'.val)) ||
      (decide (c.val ≥ '0'.val) && decide (c.val ≤ '9'.val)) ||
      c == '-' || c == '.' || c == '_' || c == '~') = true := h
  simp only [Bool.or_eq_true, Bool.and_eq_true, decide_eq_true_eq,
    beq_iff_eq] at hranges
  rcases hranges with (((((⟨-, h⟩ | ⟨-, h⟩) | ⟨-, h⟩) | rfl) | rfl) | rfl) | rfl
  · exact Nat.lt_of_le_of_lt h (by decide)
  · exact Nat.lt_of_le_of_lt h (by decide)
  · exact Nat.lt_of_le_of_lt h (by decide)
  all_goals decide

/-! ## What is not written -/

section

variable {c : Char}

/-- A character that may not stand for itself is written only where it has a
meaning. -/
theorem WritesByte.not_mem {byte : UInt8} {s : List Char}
    (h : WritesByte byte s) (hc : isUnreserved c = false) (hplus : c ≠ '+')
    (hpercent : c ≠ '%') : c ∉ s := by
  cases h with
  | plain h =>
      rw [List.mem_singleton]
      rintro rfl
      rw [hc] at h
      cases h
  | plus => rwa [List.mem_singleton]
  | percent ha hb =>
      have hlt := byte.toNat_lt
      have ha := (ha.spec (by omega)).2
      have hb := (hb.spec (by omega)).2
      simp only [List.mem_cons, List.not_mem_nil, or_false]
      rintro (rfl | rfl | rfl)
      · exact hpercent rfl
      · rw [hc] at ha
        cases ha
      · rw [hc] at hb
        cases hb

theorem WritesBytes.not_mem {bytes : List UInt8} {s : List Char}
    (h : WritesBytes bytes s) (hc : isUnreserved c = false) (hplus : c ≠ '+')
    (hpercent : c ≠ '%') : c ∉ s := by
  induction h with
  | nil => exact List.not_mem_nil
  | cons h hrest ih =>
      rw [List.mem_append]
      exact not_or.2 ⟨h.not_mem hc hplus hpercent, ih⟩

end

/-! ## Decoding texts -/

/-- The bytes of a part of a query string, plus signs read as blanks. -/
def spaced (s : List Char) : List UInt8 :=
  (toBytes s).map fun b => if b = 43 then 32 else b

theorem spaced_append (s t : List Char) :
    spaced (s ++ t) = spaced s ++ spaced t := by
  rw [spaced, spaced, spaced, toBytes, toBytes, toBytes, List.flatMap_append,
    List.map_append]

theorem byte_ne_of_ne {c : Char} {byte : UInt8} (hlt : c.toNat < 128)
    (hne : c ≠ Char.ofNat byte.toNat) : UInt8.ofNat c.toNat ≠ byte := by
  rintro rfl
  rw [UInt8.toNat_ofNat_of_lt' (Nat.lt_trans hlt (by decide)),
    Char.ofNat_toNat] at hne
  exact hne rfl

theorem spaced_singleton {c : Char} (hlt : c.toNat < 128) (hplus : c ≠ '+') :
    spaced [c] = [UInt8.ofNat c.toNat] := by
  have hbyte : String.utf8EncodeChar c = [UInt8.ofNat c.toNat] := by
    rw [String.utf8EncodeChar]
    exact if_pos (Nat.le_of_lt_succ hlt)
  rw [spaced, toBytes, List.flatMap_singleton, hbyte, List.map_singleton,
    if_neg (@byte_ne_of_ne c 43 hlt hplus)]

theorem percentDecode_cons_of_ne {byte : UInt8} (h : byte ≠ 37)
    (bytes : List UInt8) :
    percentDecode (byte :: bytes) = byte :: percentDecode bytes := by
  rw [percentDecode]
  exact fun _ _ _ h' _ => h h'

theorem percentDecode_percent {a b byte : UInt8} (h : hexByte? a b = some byte)
    (bytes : List UInt8) :
    percentDecode (37 :: a :: b :: bytes) = byte :: percentDecode bytes := by
  rw [percentDecode, h]

theorem ofNat_toNat_ofNat {c : Char} (h : c.toNat < 128) :
    Char.ofNat (UInt8.ofNat c.toNat).toNat = c := by
  rw [UInt8.toNat_ofNat_of_lt' (Nat.lt_trans h (by decide)), Char.ofNat_toNat]

theorem hexByte?_of_isHexDigit {byte : UInt8} {a b : Char}
    (ha : IsHexDigit (byte.toNat / 16) a)
    (hb : IsHexDigit (byte.toNat % 16) b) :
    hexByte? (UInt8.ofNat a.toNat) (UInt8.ofNat b.toNat) = some byte := by
  have hlt := byte.toNat_lt
  obtain ⟨ha, hla⟩ := ha.spec (by omega)
  obtain ⟨hb, hlb⟩ := hb.spec (by omega)
  have hnumber : hexNumber? [a, b] = some byte.toNat := by
    have hsum : (0 * 16 + byte.toNat / 16) * 16 + byte.toNat % 16 =
        byte.toNat := by omega
    rw [hexNumber?, List.foldlM_cons, ha, Option.map_some, Option.bind_eq_bind,
      Option.bind_some, List.foldlM_cons, hb, Option.map_some,
      Option.bind_eq_bind, Option.bind_some, List.foldlM_nil, hsum]
    rfl
  rw [hexByte?, ofNat_toNat_ofNat (toNat_lt_of_isUnreserved hla),
    ofNat_toNat_ofNat (toNat_lt_of_isUnreserved hlb), hnumber, Option.map_some,
    UInt8.ofNat_toNat]

theorem ne_of_isUnreserved {c d : Char} (h : isUnreserved c = true)
    (hd : isUnreserved d = false) :
    c ≠ d := by
  rintro rfl
  rw [h] at hd
  cases hd

theorem spaced_of_isUnreserved {c : Char} (h : isUnreserved c = true) :
    spaced [c] = [UInt8.ofNat c.toNat] :=
  spaced_singleton (toNat_lt_of_isUnreserved h) (ne_of_isUnreserved h rfl)

/-- Each way to write a byte is undone, whatever comes after it. -/
theorem percentDecode_of_writesByte {byte : UInt8} {s : List Char}
    (h : WritesByte byte s) (rest : List UInt8) :
    percentDecode (spaced s ++ rest) = byte :: percentDecode rest := by
  cases h with
  | plain h =>
      rw [spaced_of_isUnreserved h]
      refine percentDecode_cons_of_ne ?_ rest
      exact byte_ne_of_ne (toNat_lt_of_isUnreserved h)
        (ne_of_isUnreserved h rfl)
  | plus => exact percentDecode_cons_of_ne (by decide) rest
  | @percent _ a b ha hb =>
      have hlt := byte.toNat_lt
      have hspaced : spaced ['%', a, b] =
          [37, UInt8.ofNat a.toNat, UInt8.ofNat b.toNat] := by
        rw [← List.singleton_append, spaced_append,
          ← List.singleton_append (l := [b]), spaced_append,
          spaced_of_isUnreserved (ha.spec (by omega)).2,
          spaced_of_isUnreserved (hb.spec (by omega)).2]
        rfl
      rw [hspaced]
      exact percentDecode_percent (hexByte?_of_isHexDigit ha hb) rest

theorem percentDecode_of_writesBytes {bytes : List UInt8} {s : List Char}
    (h : WritesBytes bytes s) : percentDecode (spaced s) = bytes := by
  induction h with
  | nil => rfl
  | cons h hrest ih => rw [spaced_append, percentDecode_of_writesByte h, ih]

theorem decodeComponent_of_writesText {text : String} {s : List Char}
    (h : WritesText text s) :
    decodeComponent s = text := by
  -- Blanks, then percent signs, then characters: in any other order some text
  -- would not come back.
  show String.ofList (ofBytes (percentDecode (spaced s))) = text
  rw [percentDecode_of_writesBytes h, ofBytes_toBytes, String.ofList_toList]

/-! ## Taking query strings apart -/

theorem takeWhile_append_cons {p : Char → Bool} {c : Char} {s : List Char}
    (hs : ∀ d ∈ s, p d = true) (hc : p c = false) (t : List Char) :
    (s ++ c :: t).takeWhile p = s ∧ (s ++ c :: t).dropWhile p = c :: t := by
  rw [List.takeWhile_append_of_pos hs, List.dropWhile_append_of_pos hs,
    List.takeWhile_cons, List.dropWhile_cons, hc]
  exact ⟨List.append_nil s, rfl⟩

theorem bne_of_mem_of_writesText {text : String} {s : List Char}
    (h : WritesText text s) :
    ∀ c ∈ s, (c != '=') = true := by
  intro c hc
  rw [bne_iff_ne]
  rintro rfl
  exact h.not_mem rfl (by decide) (by decide) hc

theorem decodePair_of_writesPair {pair : String × String} {s : List Char}
    (h : WritesPair pair s) :
    decodePair s = pair := by
  cases h with
  | @joined key text s t hkey htext =>
      -- The key holds no equals sign, so the first one is the one that joins.
      obtain ⟨htake, hdrop⟩ :=
        takeWhile_append_cons (bne_of_mem_of_writesText hkey) (c := '=') rfl t
      rw [decodePair, htake, hdrop, List.drop_one, List.tail_cons,
        decodeComponent_of_writesText hkey, decodeComponent_of_writesText htext]
  | keyOnly hkey hne =>
      have hs := bne_of_mem_of_writesText hkey
      rw [decodePair, List.takeWhile_eq_self_iff.2 hs,
        List.dropWhile_eq_nil_iff.2 hs, decodeComponent_of_writesText hkey]
      rfl

theorem WritesPair.not_mem {pair : String × String} {s : List Char}
    (h : WritesPair pair s) {c : Char} (hc : isUnreserved c = false)
    (hplus : c ≠ '+') (hpercent : c ≠ '%') (hequals : c ≠ '=') : c ∉ s := by
  cases h with
  | joined hkey htext =>
      rw [List.mem_append, List.mem_cons]
      rintro (hk | h | ht)
      · exact hkey.not_mem hc hplus hpercent hk
      · exact hequals h
      · exact htext.not_mem hc hplus hpercent ht
  | keyOnly hkey hne => exact hkey.not_mem hc hplus hpercent

theorem WritesPair.ne_nil {pair : String × String} {s : List Char}
    (h : WritesPair pair s) :
    s ≠ [] := by
  cases h with
  | joined hkey htext =>
      exact List.append_ne_nil_of_right_ne_nil _ (List.cons_ne_nil _ _)
  | keyOnly hkey hne =>
      rintro rfl
      exact hne (decodeComponent_of_writesText hkey).symm

/-- The pairs between the ampersands of a text. -/
def pairsBetween (s : List Char) : List (String × String) :=
  ((s.splitOn '&').filter fun segment => !segment.isEmpty).map decodePair

theorem pairsBetween_append (s t : List Char) :
    pairsBetween (s ++ '&' :: t) = pairsBetween s ++ pairsBetween t := by
  have hsplit : (s ++ '&' :: t).splitOn '&' =
      s.splitOn '&' ++ t.splitOn '&' := by
    simp only [List.splitOn_eq_splitOnP]
    exact List.splitOnP_append_cons _ _ (beq_self_eq_true _)
  rw [pairsBetween, hsplit, List.filter_append, List.map_append]
  rfl

theorem pairsBetween_of_writesPair {pair : String × String} {s : List Char}
    (h : WritesPair pair s) : pairsBetween s = [pair] := by
  have hne : s.isEmpty = false := List.isEmpty_eq_false_iff.2 h.ne_nil
  rw [pairsBetween,
    List.splitOn_eq_singleton
      (h.not_mem rfl (by decide) (by decide) (by decide)),
    List.filter_singleton, hne, Bool.not_false, cond_true, List.map_singleton,
    decodePair_of_writesPair h]

theorem pairsBetween_of_writesPairs {pairs : List (String × String)}
    {s : List Char} (h : WritesPairs pairs s) : pairsBetween s = pairs := by
  induction h with
  | nil => rfl
  -- An ampersand to spare parts off an empty text, which is no pair.
  | ampersand h ih => exact (pairsBetween_append [] _).trans ih
  | last h => exact pairsBetween_of_writesPair h
  | cons h hrest ih =>
      rw [pairsBetween_append, pairsBetween_of_writesPair h, ih]; rfl

theorem WritesPairs.not_mem_question {pairs : List (String × String)}
    {s : List Char} (h : WritesPairs pairs s) : '?' ∉ s := by
  induction h with
  | nil => exact List.not_mem_nil
  | ampersand h ih => exact List.not_mem_cons_of_ne_of_not_mem (by decide) ih
  | last h => exact h.not_mem rfl (by decide) (by decide) (by decide)
  | cons h hrest ih =>
      rw [List.mem_append]
      exact not_or.2 ⟨h.not_mem rfl (by decide) (by decide) (by decide),
        List.not_mem_cons_of_ne_of_not_mem (by decide) ih⟩

theorem pairsOfQuery_eq {s : List Char} (h : ∀ t, s ≠ '?' :: t) :
    pairsOfQuery s = pairsBetween s := by
  unfold pairsOfQuery
  split
  · next t => exact absurd rfl (h t)
  · rfl

/-- Each way to write pairs as a query string is undone. -/
theorem pairsOfQuery_of_writesQuery {pairs : List (String × String)}
    {s : List Char} (h : WritesQuery pairs s) : pairsOfQuery s = pairs := by
  cases h with
  | bare h =>
      have hs : ∀ t, s ≠ '?' :: t := by
        rintro t rfl
        exact h.not_mem_question List.mem_cons_self
      rw [pairsOfQuery_eq hs, pairsBetween_of_writesPairs h]
  | marked h => exact pairsBetween_of_writesPairs h

/-- What stands behind an ampersand adds its pairs, whatever stands before it.
-/
theorem pairsOfQuery_append (s t : List Char) :
    pairsOfQuery (s ++ '&' :: t) = pairsOfQuery s ++ pairsBetween t := by
  by_cases h : ∃ rest, s = '?' :: rest
  · obtain ⟨rest, rfl⟩ := h
    exact pairsBetween_append rest t
  · have hs : ∀ rest, s ≠ '?' :: rest := fun rest hrest => h ⟨rest, hrest⟩
    have happend : ∀ rest, s ++ '&' :: t ≠ '?' :: rest := by
      intro rest hrest
      cases s with
      | nil => exact absurd (List.cons.inj hrest).1 (by decide)
      | cons c s => exact hs s (by rw [(List.cons.inj hrest).1])
    rw [pairsOfQuery_eq happend, pairsOfQuery_eq hs, pairsBetween_append]

/-! ## Forms -/

theorem insertAll_append (form : Form) (pairs pairs' : List (String × String)) :
    form.insertAll (pairs ++ pairs') =
      (form.insertAll pairs).insertAll pairs' :=
  List.foldl_append

/-- Of pairs with one key the last counts. -/
theorem get?_insertAll_eq (form : Form) (pairs : List (String × String))
    (key : String) :
    (form.insertAll pairs).get? key =
      (pairs.reverse.lookup key).or (form.get? key) := by
  induction pairs generalizing form with
  | nil => rfl
  | cons pair pairs ih =>
      obtain ⟨k, text⟩ := pair
      rw [insertAll, List.foldl_cons, ← insertAll, ih, get?_insert,
        List.reverse_cons, List.lookup_append, List.lookup_cons,
        Option.or_assoc]
      by_cases h : key = k
      · subst h
        simp
      · have hne : (key == k) = false := beq_eq_false_iff_ne.2 h
        simp [h, hne]

end Form

/-! ## Criteria -/

open Form

/-- Whether a word is a criterion: a key, the first equals sign of the word,
and a text. -/
def IsCriterion (word : String) (pair : String × String) : Prop :=
  word = pair.1 ++ "=" ++ pair.2 ∧ '=' ∉ pair.1.toList

theorem IsCriterion.criterion {word : String} {pair : String × String}
    (h : IsCriterion word pair) :
    Cli.criterion word = .ok pair := by
  obtain ⟨rfl, hkey⟩ := h
  obtain ⟨key, text⟩ := pair
  have hs : ∀ c ∈ key.toList, decide (c ≠ '=') = true := fun c hc =>
    decide_eq_true fun heq => hkey (heq ▸ hc)
  obtain ⟨htake, hdrop⟩ := takeWhile_append_cons hs (c := '=') rfl text.toList
  have hword : (key ++ "=" ++ text).toList =
      key.toList ++ '=' :: text.toList := by
    rw [String.toList_append, String.toList_append, List.append_assoc]
    rfl
  rw [Cli.criterion, hword, hdrop, htake]
  simp only [List.tail?_cons, String.ofList_toList]

theorem exists_isCriterion_iff {word : String} :
    (∃ pair, IsCriterion word pair) ↔ '=' ∈ word.toList := by
  constructor
  · rintro ⟨pair, rfl, -⟩
    simp
  · intro h
    obtain ⟨s, t, hs, hword⟩ := List.eq_append_cons_of_mem h
    refine ⟨(String.ofList s, String.ofList t), ?_, ?_⟩
    · rw [← String.toList_inj, hs]
      simp
    · simpa using hword

/-- Criteria are the pairs behind an ampersand, however they are written
there. -/
theorem criteriaForm_eq {criteria : List String}
    {pairs : List (String × String)}
    (hcriteria : List.Forall₂ IsCriterion criteria pairs)
    (query : Option String) {written : String}
    (h : WritesPairs pairs written.toList) :
    Cli.criteriaForm criteria query =
      .ok (ofQuery (query.getD "" ++ "&" ++ written)) := by
  have hread : criteria.mapM Cli.criterion = .ok pairs :=
    mapM_eq_ok_iff.2 (hcriteria.imp fun _ _ => IsCriterion.criterion)
  have hbefore : query.elim Form.empty ofQuery = ofQuery (query.getD "") := by
    cases query <;> rfl
  have hurl : (query.getD "" ++ "&" ++ written).toList =
      (query.getD "").toList ++ '&' :: written.toList := by
    rw [String.toList_append, String.toList_append, List.append_assoc]
    rfl
  rw [Cli.criteriaForm, hread, hbefore, ofQuery, ofQuery, hurl,
    pairsOfQuery_append, pairsBetween_of_writesPairs h, ofList, ofList,
    insertAll_append]
  rfl

/-- A query string reads as the pairs that it was written for, however it was
written, and of pairs with one key the last counts; and every list of pairs
can be written. Criteria, which are words with an equals sign each, count as
if they were written behind the query string, so nothing can be asked for in
one of the two ways only. -/
theorem ofQuery_writing :
    (∀ pairs : List (String × String),
      (∃ s, WritesQuery pairs s) ∧
      ∀ query : String, WritesQuery pairs query.toList →
        ofQuery query = ofList pairs ∧
        ∀ key, (ofQuery query).get? key = pairs.reverse.lookup key) ∧
    (∀ word : String, (∃ pair, IsCriterion word pair) ↔ '=' ∈ word.toList) ∧
    ∀ (criteria : List String) (pairs : List (String × String)),
      List.Forall₂ IsCriterion criteria pairs →
      ∀ (query : Option String) (written : String),
        WritesPairs pairs written.toList →
        Cli.criteriaForm criteria query =
          .ok (ofQuery (query.getD "" ++ "&" ++ written)) ∧
        ∀ around catalog address explain format,
          Cli.filter around catalog criteria query address explain format =
            Cli.filter around catalog []
              (some (query.getD "" ++ "&" ++ written)) address explain
              format := by
  refine ⟨fun pairs => ⟨?_, fun query h => ?_⟩,
    fun word => exists_isCriterion_iff,
    fun criteria pairs hcriteria query written h => ?_⟩
  · obtain ⟨s, hs⟩ := exists_writesPairs pairs
    exact ⟨s, .bare hs⟩
  · have heq : ofQuery query = ofList pairs := by
      rw [ofQuery, pairsOfQuery_of_writesQuery h]
    refine ⟨heq, fun key => ?_⟩
    rw [heq, ofList, get?_insertAll_eq, get?_empty, Option.or_none]
  · have hform := criteriaForm_eq hcriteria query h
    refine ⟨hform, fun around catalog address explain format => ?_⟩
    have hwhole : Cli.criteriaForm [] (some (query.getD "" ++ "&" ++ written)) =
        .ok (ofQuery (query.getD "" ++ "&" ++ written)) := rfl
    rw [Cli.filter, Cli.filter, hform, hwhole]

/-- A plus sign, a letter beyond ASCII, a key without a text and a key that
comes twice. -/
def samplePairs : List (String × String) :=
  [("k", "+é"), ("k_", ""), ("k", "- ~")]

/-- A query string with bytes in hexadecimal of both cases, an empty part, and
a key that comes again. -/
def sampleWritten : String := "k=%2b%C3%a9&&k%5f&k=-+~&"

theorem writesPairs_sample : WritesPairs samplePairs sampleWritten.toList := by
  have hk : WritesText "k" ['k'] := .cons (.plain rfl) .nil
  have hplus : WritesText "+é" ['%', '2', 'b', '%', 'C', '3', '%', 'a', '9'] :=
    .cons (.percent (.inl rfl) (.inl rfl))
      (.cons (.percent (.inr rfl) (.inl rfl))
      (.cons (.percent (.inl rfl) (.inl rfl)) .nil))
  have hkey : WritesText "k_" ['k', '%', '5', 'f'] :=
    .cons (.plain rfl) (.cons (.percent (.inl rfl) (.inl rfl)) .nil)
  have hblank : WritesText "- ~" ['-', '+', '~'] :=
    .cons (.plain rfl) (.cons .plus (.cons (.plain rfl) .nil))
  exact .cons (.joined hk hplus) (.ampersand (.cons (.keyOnly hkey (by decide))
    (.cons (.joined hk hblank) .nil)))

theorem ofQuery_writing_sample :
    WritesQuery samplePairs ("?&" ++ sampleWritten).toList ∧
      ofQuery ("?&" ++ sampleWritten) = ofList samplePairs ∧
      (ofQuery ("?&" ++ sampleWritten)).get? "k" = some "- ~" ∧
      List.Forall₂ IsCriterion ["k=+é", "k_=", "k=- ~"] samplePairs ∧
      Cli.criteriaForm ["k=+é", "k_=", "k=- ~"] (some "?k=x&k_r=y") =
        .ok (ofQuery ("?k=x&k_r=y" ++ "&" ++ sampleWritten)) := by
  have hquery : WritesQuery samplePairs ("?&" ++ sampleWritten).toList :=
    .marked (.ampersand writesPairs_sample)
  have hcriteria :
      List.Forall₂ IsCriterion ["k=+é", "k_=", "k=- ~"] samplePairs := by
    refine .cons ⟨rfl, by decide⟩
      (.cons ⟨rfl, by decide⟩ (.cons ⟨rfl, by decide⟩ .nil))
  obtain ⟨hread, -, hforms⟩ := ofQuery_writing
  obtain ⟨-, hread⟩ := hread samplePairs
  obtain ⟨heq, hget⟩ := hread _ hquery
  exact ⟨hquery, heq, hget "k", hcriteria,
    (hforms _ _ hcriteria
      (some "?k=x&k_r=y") sampleWritten writesPairs_sample).1⟩

end Songbook.Filter
