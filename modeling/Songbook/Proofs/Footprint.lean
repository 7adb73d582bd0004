import Songbook.Proofs.Draft

/-!
# The keys of a filter

A filter has its keys behind the address where it begins. Which they are is
said by what stands there, `IsSuffix`, a grammar of texts that does not ask
how an address is made: indices, and then nothing, or the mark of a rule or of
one of two operands. Two forms agree on a filter if they have the same texts
at those keys, wherever in the one and in the other the filter begins.

A filter can be moved into another form with all that lies below its address,
keys that no filter reads included. What must not come along is a key that
merely begins with the same characters: moved under the address of a child, a
key that goes on with a digit would turn into a key of another child.
-/

namespace Songbook.Filter

open Songbook.Text
  (isDigit_of_mem_toDigits natural?_toDigits toDigits_append_inj)

/-! ## Behind an address -/

namespace Address

/-- What the keys of a filter have behind the address where it begins: the
indices of a path, and then nothing, the mark of a rule, or the mark of one of
two operands. -/
inductive IsSuffix : String → Prop
  | entry : IsSuffix ""
  | rule : IsSuffix "_r"
  | firstOperand : IsSuffix "_f0"
  | secondOperand : IsSuffix "_f1"
  | child (index : Nat) {rest : String} (h : IsSuffix rest) :
      IsSuffix ("_" ++ index.repr ++ rest)

/-- Whether a text can stand behind an address in a key that lies below it:
nothing can, and so can what begins with an underscore. -/
def IsBelow (rest : String) : Prop :=
  ∀ c ∈ rest.toList.head?, c = '_'

instance (rest : String) : Decidable (IsBelow rest) :=
  decidable_of_iff (rest.toList.head?.all (· == '_') = true) <| by
    rw [Option.all_eq_true]
    exact forall₂_congr fun _ _ => beq_iff_eq

theorem IsSuffix.isBelow {rest : String} (h : IsSuffix rest) :
    IsBelow rest := by
  cases h with
  | entry | rule | firstOperand | secondOperand => decide
  | child index h =>
      intro c hc
      rw [String.append_assoc, String.toList_append] at hc
      exact (Option.some.inj hc).symm

theorem child_append (address : String) (index : Nat) (rest : String) :
    child address index ++ rest = address ++ ("_" ++ index.repr ++ rest) := by
  simp only [child, String.append_assoc]

theorem operand_eq_append (address : String) (index : Nat) :
    operand address index = address ++ ("_f" ++ index.repr) :=
  String.append_assoc

theorem child_append_ne_self {address : String} {index : Nat} {rest : String} :
    child address index ++ rest ≠ address := by
  intro h
  have hlength := congrArg (fun key => key.toList.length) h
  have hmark : "_".toList.length = 1 := rfl
  simp only [child, String.toList_append, List.length_append] at hlength
  omega

theorem IsBelow.takeWhile_isDigit {rest : String} (h : IsBelow rest) :
    rest.toList.takeWhile Char.isDigit = [] := by
  rw [IsBelow] at h
  cases hrest : rest.toList with
  | nil => rfl
  | cons c s =>
      rw [hrest] at h
      rw [h c rfl]
      rfl

/-- Below different children lie different keys. -/
theorem child_append_inj {address : String} {i j : Nat} {rest rest' : String}
    (h : IsBelow rest) (h' : IsBelow rest')
    (heq : child address i ++ rest = child address j ++ rest') :
    i = j ∧ rest = rest' := by
  rw [child_append, child_append] at heq
  have hlist := congrArg String.toList heq
  simp only [String.toList_append, Nat.toList_repr, List.append_assoc,
    List.append_cancel_left_eq]
    at hlist
  obtain ⟨hindex, hrest⟩ :=
    toDigits_append_inj h.takeWhile_isDigit h'.takeWhile_isDigit hlist
  exact ⟨hindex, String.toList_inj.1 hrest⟩

/-- What goes on with an index begins with all the digits of the index. -/
theorem IsSuffix.cases_toList {text : String} (h : IsSuffix text) :
    text ∈ ["", "_r", "_f0", "_f1"] ∨
      text.toList.head? = some '_' ∧
        ∃ index, (text.toList.drop 1).takeWhile Char.isDigit =
          Nat.toDigits 10 index := by
  cases h with
  | entry | rule | firstOperand | secondOperand => exact .inl (by decide)
  | child index h =>
      refine .inr ?_
      simp only [String.toList_append, Nat.toList_repr, List.append_assoc]
      refine ⟨rfl, index, ?_⟩
      show (Nat.toDigits 10 index ++ _).takeWhile Char.isDigit = _
      rw [List.takeWhile_append_of_pos isDigit_of_mem_toDigits,
        h.isBelow.takeWhile_isDigit, List.append_nil]

/-- An index has no leading zero, a leaf has no third operand, and nothing
goes on without an underscore. -/
theorem not_isSuffix_of_mem {rest : String} (h : rest ∈ ["_00", "_f2", "x"]) :
    ¬IsSuffix rest := by
  intro hsuffix
  simp only [List.mem_cons, List.not_mem_nil, or_false] at h
  rcases h with rfl | rfl | rfl
  · rcases hsuffix.cases_toList with hmem | ⟨-, index, hdigits⟩
    · exact absurd hmem (by decide)
    · have hzeros : Nat.toDigits 10 index = ['0', '0'] := hdigits.symm
      have hindex := natural?_toDigits index
      rw [hzeros] at hindex
      rw [show index = 0 from (Option.some.inj hindex).symm] at hzeros
      cases hzeros
  · rcases hsuffix.cases_toList with hmem | ⟨-, index, hdigits⟩
    · exact absurd hmem (by decide)
    · exact Nat.toDigits_ne_nil hdigits.symm
  · rcases hsuffix.cases_toList with hmem | ⟨hhead, -⟩
    · exact absurd hmem (by decide)
    · exact absurd hhead (by decide)

/-- What a key has behind an address, or something else if it does not begin
with it. -/
def strip (address key : String) : String :=
  String.ofList (key.toList.drop address.toList.length)

theorem strip_append (address rest : String) :
    strip address (address ++ rest) = rest := by
  rw [strip, String.toList_append, List.drop_left, String.ofList_toList]

end Address

namespace Form

/-- Whether a form has the same texts behind an address as another form behind
another. -/
def Agrees (form : Form) (address : String) (form' : Form) (address' : String) :
    Prop :=
  ∀ rest, Address.IsSuffix rest →
    form'.get? (address' ++ rest) = form.get? (address ++ rest)

/-! ## Moving a filter -/

theorem get?_eq_some_iff {form : Form} {key text : String} :
    form.get? key = some text ↔ (key, text) ∈ form.entries := by
  rw [get?, List.lookup_eq_some_iff]
  constructor
  · rintro ⟨before, after, heq, -⟩
    rw [heq]
    exact List.mem_append_right _ List.mem_cons_self
  · intro hmem
    obtain ⟨before, after, heq⟩ := List.append_of_mem hmem
    refine ⟨before, after, heq, fun entry hentry => ?_⟩
    have hnodup := form.nodup
    rw [heq, List.map_append, List.map_cons, List.nodup_append] at hnodup
    have hne :=
      hnodup.2.2 entry.1 (List.mem_map_of_mem hentry) key List.mem_cons_self
    simpa using hne.symm

/-- The pairs of key and text of a filter, moved to another address. -/
def entriesMoved (form : Form) (address target : String) :
    List (String × String) :=
  form.entries.filterMap fun entry =>
    let rest := Address.strip address entry.1
    if address ++ rest = entry.1 ∧ Address.IsBelow rest then some
      (target ++ rest, entry.2)
    else none

theorem mem_entriesMoved_iff {form : Form} {address target : String}
    {pair : String × String} :
    pair ∈ form.entriesMoved address target ↔
      ∃ rest, Address.IsBelow rest ∧ pair.1 = target ++ rest ∧
        form.get? (address ++ rest) = some pair.2 := by
  rw [entriesMoved, List.mem_filterMap]
  constructor
  · rintro ⟨⟨key, text⟩, hmem, h⟩
    simp only [Option.ite_none_right_eq_some, Option.some.injEq] at h
    obtain ⟨⟨hkey, hbelow⟩, rfl⟩ := h
    exact ⟨_, hbelow, rfl, by rw [hkey]; exact get?_eq_some_iff.2 hmem⟩
  · rintro ⟨rest, hbelow, hkey, hget⟩
    refine ⟨(address ++ rest, pair.2), get?_eq_some_iff.1 hget, ?_⟩
    simp only [Address.strip_append, hbelow, and_self, if_true]
    exact congrArg some (Prod.ext hkey.symm rfl)

/-- A form with nothing but the filter that another form has at an address,
moved. -/
def moved (form : Form) (address target : String) : Form :=
  ofList (form.entriesMoved address target)

/-- A filter that was moved is the same filter. -/
theorem agrees_moved (form : Form) (address target : String) :
    form.Agrees address (form.moved address target) target := by
  intro rest hrest
  refine get?_ofList fun text => ?_
  rw [mem_entriesMoved_iff]
  constructor
  · rintro ⟨rest', -, heq, hget⟩
    rwa [(String.append_right_inj target).1 heq]
  · exact fun hget => ⟨rest, hrest.isBelow, rfl, hget⟩

end Form

end Songbook.Filter
