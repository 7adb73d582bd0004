import Songbook.Filter.Form

/-!
# Addresses

Where the parts of a filter lie in a form. A filter begins at a key of the
caller's choice. A branch at an address has its children at the address with
`_0`, `_1`, … behind it, up to the first that is not there; a leaf has its
rule behind `_r` and its operands behind `_f0` and `_f1`.
-/

namespace Songbook.Filter

namespace Address

/-- The address of a child of a branch. -/
def child (address : String) (index : Nat) : String :=
  address ++ "_" ++ index.repr

/-- The key of the rule of a leaf. -/
def rule (address : String) : String :=
  address ++ "_r"

/-- The key of an operand of a leaf. -/
def operand (address : String) (index : Nat) : String :=
  address ++ "_f" ++ index.repr

end Address

namespace Form

/-- The children at `index` and after it, `most` of them at most. -/
def childrenFrom (form : Form) (address : String) (index : Nat) :
    Nat → List String
  | 0 => []
  | most + 1 =>
    let child := Address.child address index
    if form.contains child then child :: form.childrenFrom address
      (index + 1) most else []

/-- The addresses of the children of a branch. There are no more of them than
keys, so looking at that many finds the first gap. -/
def children (form : Form) (address : String) : List String :=
  form.childrenFrom address 0 form.size

end Form

end Songbook.Filter
