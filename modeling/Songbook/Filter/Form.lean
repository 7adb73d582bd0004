import Songbook.Text.Bytes
import Songbook.Text.Hexadecimal

/-!
# Forms

A submitted form is a flat map from keys to texts. Putting a key in again
replaces its text, and no key occurs twice, which the type keeps. A form may
come as the query part of an address on the web: pairs separated by `&`, key
and text by the first `=`, each with `+` for a blank and percent signs before
bytes in hexadecimal.
-/

namespace Songbook.Filter

/-- A map from keys to texts. -/
structure Form where
  entries : List (String × String)
  nodup : (entries.map Prod.fst).Nodup
deriving DecidableEq

namespace Form

/-- The form without entries. -/
def empty : Form :=
  ⟨[], List.nodup_nil⟩

/-- The text of a key, if it has one. -/
def get? (form : Form) (key : String) : Option String :=
  form.entries.lookup key

/-- Whether a key has a text. -/
def contains (form : Form) (key : String) : Bool :=
  (form.get? key).isSome

/-- How many keys there are. -/
def size (form : Form) : Nat :=
  form.entries.length

/-- Whether there is no key. -/
def isEmpty (form : Form) : Bool :=
  form.entries.isEmpty

/-- The keys, latest first. -/
def keys (form : Form) : List String :=
  form.entries.map Prod.fst

/-- Gives a key a text, in place of the one it had. -/
def insert (form : Form) (key text : String) : Form where
  entries := (key, text) :: form.entries.filter fun entry => entry.1 != key
  nodup := by
    rw [List.map_cons, List.nodup_cons]
    constructor
    · simp
    · exact form.nodup.sublist (List.filter_sublist.map _)

/-- Gives keys texts, one pair after the other. -/
def insertAll (form : Form) (pairs : List (String × String)) : Form :=
  pairs.foldl (fun form pair => form.insert pair.1 pair.2) form

/-- The form of a list of pairs; of pairs with one key the last counts. -/
def ofList (pairs : List (String × String)) : Form :=
  empty.insertAll pairs

/-! ## Query strings -/

/-- The byte that two hexadecimal digits write. -/
def hexByte? (a b : UInt8) : Option UInt8 :=
  (Text.hexNumber? [Char.ofNat a.toNat, Char.ofNat b.toNat]).map UInt8.ofNat

/-- Decodes percent signs; one that no two hexadecimal digits follow stands
for itself. -/
def percentDecode : List UInt8 → List UInt8
  | [] => []
  | 37 :: a :: b :: bytes =>
    match hexByte? a b with
    | some byte => byte :: percentDecode bytes
    | none => 37 :: percentDecode (a :: b :: bytes)
  | byte :: bytes => byte :: percentDecode bytes

/-- Decodes one key or text of a query string. Plus signs are decoded first,
so that one written in hexadecimal stays a plus sign. -/
def decodeComponent (s : List Char) : String :=
  let bytes := (Text.toBytes s).map fun b => if b = 43 then 32 else b
  String.ofList (Text.ofBytes (percentDecode bytes))

/-- Decodes one pair of a query string; without a `=` it is a key with the
empty text. -/
def decodePair (s : List Char) : String × String :=
  (decodeComponent (s.takeWhile (· != '=')),
    decodeComponent ((s.dropWhile (· != '=')).drop 1))

/-- The pairs of a query string, left to right; one question mark may come
first. -/
def pairsOfQuery (s : List Char) : List (String × String) :=
  let s := match s with
    | '?' :: s => s
    | s => s
  ((s.splitOn '&').filter fun segment => !segment.isEmpty).map decodePair

/-- Reads a form from a query string. -/
def ofQuery (query : String) : Form :=
  ofList (pairsOfQuery query.toList)

/-! ## Reading after writing -/

@[simp] theorem get?_empty (key : String) : empty.get? key = none := rfl

theorem get?_insert (form : Form) (key text other : String) :
    (form.insert key text).get? other =
      if other = key then some text else form.get? other := by
  unfold get? insert
  by_cases h : other = key
  · simp [h]
  · have h' : (other == key) = false := by simpa using h
    simp only [List.lookup_cons, h', if_neg h]
    induction form.entries with
    | nil => simp
    | cons entry entries ih =>
      obtain ⟨k, t⟩ := entry
      by_cases hk : k = key
      · have hok : (other == k) = false := by simpa [hk] using h
        simp [hk, List.lookup_cons, ih, h']
      · by_cases hok : other = k
        · simp [hok, hk]
        · have : (other == k) = false := by simpa using hok
          simp [hk, List.lookup_cons, this, ih]

theorem contains_iff_mem_keys {form : Form} {key : String} :
    form.contains key ↔ key ∈ form.keys := by
  unfold contains get? keys
  induction form.entries with
  | nil => simp
  | cons entry entries ih =>
    obtain ⟨k, t⟩ := entry
    by_cases hk : key = k
    · simp [hk]
    · have : (key == k) = false := by simpa using hk
      simp [List.lookup_cons, this, ih, hk]

end Form

end Songbook.Filter
