import FacetSearch.Toml.Scalar

/-!
# Decoding TOML into records

A record is given as a table, in which unknown entries are ignored, or as the array of its first
fields; a date has no known fields. Every field has a default for when it is missing. Integers are
taken when they are in range, and no type stands for another.
-/

namespace FacetSearch.Toml

/-- The fields of a record, by name in a table and by position in an array. -/
def record (names : List String) : Toml → Option (List (Option Toml))
  | table _ entries => some (names.map (Entries.get? entries))
  | array elements | tables elements =>
    some (names.zipIdx.map fun (_, position) ↦ elements[position]?)
  | dateTime _ => some (names.map fun _ ↦ none)
  | string _ | integer _ | float _ | boolean _ => none

/-- A field that may be missing. -/
def withDefault {α : Type} (default : α) (item : Toml → Option α) : Option Toml → Option α
  | none => some default
  | some value => item value

def string? : Toml → Option String
  | string s => some s
  | _ => none

/-- An unsigned integer below a bound. -/
def natBelow? (bound : Nat) : Toml → Option Nat
  | integer i => if 0 ≤ i ∧ i < bound then some i.toNat else none
  | _ => none

def uint32? (value : Toml) : Option UInt32 := (natBelow? UInt32.size value).map UInt32.ofNat

def uint64? (value : Toml) : Option UInt64 := (natBelow? UInt64.size value).map UInt64.ofNat

/-- A signed integer of 64 bits. -/
def int64? : Toml → Option Int64
  | integer i => if fitsInt64 i then some (Int64.ofInt i) else none
  | _ => none

def strings? : Toml → Option (List String)
  | array elements | tables elements => elements.mapM string?
  | _ => none

end FacetSearch.Toml
