import FacetSearch.StringMap
import FacetSearch.Decimal.Binary

/-!
# JSON values

A number is an integer or a finite number of the 64-bit binary format: `1` and `1.0` differ. The
members of an object stand in ascending order of their names, each name once; `Json.Canonical` says
so at every depth, and `Json.ofMembers` builds such an object from members in any order.
-/

namespace FacetSearch

/-- A JSON number. -/
inductive Number where
  | int (i : Int)
  | float (x : Binary64)
deriving DecidableEq

/-- A JSON value. -/
inductive Json where
  | null
  | bool (b : Bool)
  | num (n : Number)
  | str (s : String)
  | arr (elements : List Json)
  | obj (members : List (String × Json))

namespace Json

instance : Inhabited Json := ⟨null⟩

mutual

/-- Equality of values is decidable. -/
def decEq : (a b : Json) → Decidable (a = b)
  | null, null => isTrue rfl
  | bool x, bool y => decidable_of_iff (x = y) (by simp)
  | num x, num y => decidable_of_iff (x = y) (by simp)
  | str x, str y => decidable_of_iff (x = y) (by simp)
  | arr xs, arr ys => @decidable_of_iff _ (xs = ys) (by simp) (decEqElements xs ys)
  | obj xs, obj ys => @decidable_of_iff _ (xs = ys) (by simp) (decEqMembers xs ys)
  | null, bool _ | null, num _ | null, str _ | null, arr _ | null, obj _ => isFalse (by simp)
  | bool _, null | bool _, num _ | bool _, str _ | bool _, arr _ | bool _, obj _ =>
    isFalse (by simp)
  | num _, null | num _, bool _ | num _, str _ | num _, arr _ | num _, obj _ =>
    isFalse (by simp)
  | str _, null | str _, bool _ | str _, num _ | str _, arr _ | str _, obj _ =>
    isFalse (by simp)
  | arr _, null | arr _, bool _ | arr _, num _ | arr _, str _ | arr _, obj _ =>
    isFalse (by simp)
  | obj _, null | obj _, bool _ | obj _, num _ | obj _, str _ | obj _, arr _ =>
    isFalse (by simp)
termination_by structural a => a

/-- Equality of lists of elements is decidable. -/
def decEqElements : (xs ys : List Json) → Decidable (xs = ys)
  | [], [] => isTrue rfl
  | [], _ :: _ | _ :: _, [] => isFalse (by simp)
  | x :: xs, y :: ys =>
    match decEq x y with
    | isFalse h => isFalse fun eq ↦ h (List.cons.inj eq).1
    | isTrue h => match decEqElements xs ys with
      | isFalse h' => isFalse fun eq ↦ h' (List.cons.inj eq).2
      | isTrue h' => isTrue (h ▸ h' ▸ rfl)
termination_by structural xs => xs

/-- Equality of lists of members is decidable. -/
def decEqMembers : (xs ys : List (String × Json)) → Decidable (xs = ys)
  | [], [] => isTrue rfl
  | [], _ :: _ | _ :: _, [] => isFalse (by simp)
  | (k, x) :: xs, (l, y) :: ys =>
    if hk : k = l then
      match decEq x y with
      | isFalse h => isFalse fun eq ↦ h (Prod.mk.inj (List.cons.inj eq).1).2
      | isTrue h => match decEqMembers xs ys with
        | isFalse h' => isFalse fun eq ↦ h' (List.cons.inj eq).2
        | isTrue h' => isTrue (hk ▸ h ▸ h' ▸ rfl)
    else isFalse fun eq ↦ hk (Prod.mk.inj (List.cons.inj eq).1).1
termination_by structural xs => xs

end

instance : DecidableEq Json := decEq

/-- The object of the given members; of those with one name, the last. -/
def ofMembers (members : List (String × Json)) : Json := obj (Entries.sorted members)

def ofMap (map : StringMap Json) : Json := obj map.entries

def nat (n : Nat) : Json := num (.int n)

def int (i : Int) : Json := num (.int i)

def float (x : Binary64) : Json := num (.float x)

def strings (list : List String) : Json := arr (list.map str)

/-- The member of an object under a name. -/
def member? (json : Json) (name : String) : Option Json :=
  match json with
  | obj members => Entries.get? members name
  | _ => none

def str? : Json → Option String
  | str s => some s
  | _ => none

def members? : Json → Option (List (String × Json))
  | obj members => some members
  | _ => none

mutual

/-- Every object has its members in ascending order of their names, each name once. -/
def Canonical : Json → Prop
  | arr elements => CanonicalElements elements
  | obj members => Entries.Ascending members ∧ CanonicalMembers members
  | _ => True

/-- Every element is canonical. -/
def CanonicalElements : List Json → Prop
  | [] => True
  | element :: rest => Canonical element ∧ CanonicalElements rest

/-- The value of every member is canonical. -/
def CanonicalMembers : List (String × Json) → Prop
  | [] => True
  | (_, value) :: rest => Canonical value ∧ CanonicalMembers rest

end

end Json

end FacetSearch
