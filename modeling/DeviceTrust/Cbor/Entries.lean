import DeviceTrust.Cbor.Same

/-!
# Entries of a map

Entries keep the order in which their labels first came. Two labels that are the same value are
one label: the first spelling stays in its place, and the last content wins.
-/

set_option autoImplicit false

namespace DeviceTrust.Entries

def find? (es : Entries) (label : Value) : Option Value :=
  match es with
  | [] => none
  | (k, v) :: rest => if label.agrees k then some v else find? rest label

def contains (es : Entries) (label : Value) : Bool := (find? es label).isSome

/-- The entries with one more: under a label already there the content is replaced, a new label
goes to the end. -/
def insert (es : Entries) (label content : Value) : Entries :=
  match es with
  | [] => [(label, content)]
  | (k, v) :: rest =>
    if label.agrees k then (k, content) :: rest else (k, v) :: insert rest label content

def ofList (pairs : List (Value × Value)) : Entries :=
  pairs.foldl (fun es p => insert es p.1 p.2) []

end DeviceTrust.Entries
