/-
# LaneDuel.Json.Basic -- documents

A document is a tree of members kept in the order they were written.  An object
holds each key once: `Json.members` is what `set` builds, in which a later value
for a known key takes the place of the earlier one and keeps its position.
-/
import LaneDuel.Number

namespace LaneDuel

set_option autoImplicit false

inductive Json where
  | null
  | bool (b : Bool)
  | num (n : Number)
  | str (s : String)
  | arr (items : List Json)
  | obj (members : List (String × Json))
deriving Repr

namespace Json

instance : Inhabited Json := ⟨.null⟩

mutual

/-- Deciding whether two documents are the same. -/
def decEq : (a b : Json) → Decidable (a = b)
  | .null, .null => isTrue rfl
  | .bool a, .bool b => decidable_of_iff (a = b) (by simp)
  | .num a, .num b => decidable_of_iff (a = b) (by simp)
  | .str a, .str b => decidable_of_iff (a = b) (by simp)
  | .arr a, .arr b =>
    match decEqItems a b with
    | isTrue h => isTrue (by rw [h])
    | isFalse h => isFalse (by simp [h])
  | .obj a, .obj b =>
    match decEqMembers a b with
    | isTrue h => isTrue (by rw [h])
    | isFalse h => isFalse (by simp [h])
  | .null, .bool _ | .null, .num _ | .null, .str _ | .null, .arr _ | .null, .obj _
  | .bool _, .null | .bool _, .num _ | .bool _, .str _ | .bool _, .arr _ | .bool _, .obj _
  | .num _, .null | .num _, .bool _ | .num _, .str _ | .num _, .arr _ | .num _, .obj _
  | .str _, .null | .str _, .bool _ | .str _, .num _ | .str _, .arr _ | .str _, .obj _
  | .arr _, .null | .arr _, .bool _ | .arr _, .num _ | .arr _, .str _ | .arr _, .obj _
  | .obj _, .null | .obj _, .bool _ | .obj _, .num _ | .obj _, .str _ | .obj _, .arr _ =>
    isFalse nofun

def decEqItems : (a b : List Json) → Decidable (a = b)
  | [], [] => isTrue rfl
  | [], _ :: _ => isFalse nofun
  | _ :: _, [] => isFalse nofun
  | a :: as, b :: bs =>
    match decEq a b, decEqItems as bs with
    | isTrue h, isTrue t => isTrue (by rw [h, t])
    | isFalse h, _ => isFalse (by simp [h])
    | _, isFalse t => isFalse (by simp [t])

def decEqMembers : (a b : List (String × Json)) → Decidable (a = b)
  | [], [] => isTrue rfl
  | [], _ :: _ => isFalse nofun
  | _ :: _, [] => isFalse nofun
  | (k, a) :: as, (l, b) :: bs =>
    match decEq a b, decEqMembers as bs, (inferInstance : Decidable (k = l)) with
    | isTrue h, isTrue t, isTrue e => isTrue (by rw [h, t, e])
    | isFalse h, _, _ => isFalse (by simp [h])
    | _, isFalse t, _ => isFalse (by simp [t])
    | _, _, isFalse e => isFalse (by simp [e])

end

instance : DecidableEq Json := decEq

def int (n : Int) : Json := .num (.int n)

def real (x : Double) : Json := .num (.real x)

def nat (n : Nat) : Json := .int n

/-- The value of a key in a list of members. -/
def find? (members : List (String × Json)) (key : String) : Option Json :=
  members.lookup key

/-- Give a key a value: in place where the key is known, at the end otherwise. -/
def set : List (String × Json) → String → Json → List (String × Json)
  | [], key, value => [(key, value)]
  | (k, v) :: rest, key, value =>
    if k = key then (k, value) :: rest else (k, v) :: set rest key value

/-- The members that remain when pairs are written one after another. -/
def members (pairs : List (String × Json)) : List (String × Json) :=
  pairs.foldl (fun acc p => set acc p.1 p.2) []

/-- The value of a key; none on what is no object. -/
def get? : Json → String → Option Json
  | .obj ms, key => find? ms key
  | _, _ => none

/-- Empty and zero values, `false` and `null` are falsy. -/
def truthy : Json → Bool
  | .null => false
  | .bool b => b
  | .num n => !n.isZero
  | .str s => s != ""
  | .arr items => !items.isEmpty
  | .obj ms => !ms.isEmpty

/-- What a value holds when it is gone through: the items of a list, the keys of
an object, the characters of a text. -/
def elements? : Json → Option (List Json)
  | .arr items => some items
  | .obj ms => some (ms.map fun (k, _) => .str k)
  | .str s => some (s.toList.map fun c => .str (String.singleton c))
  | _ => none

def isNull : Json → Bool
  | .null => true
  | _ => false

mutual

/-- The document with null in the place of numbers that are not finite. -/
def onlyFinite : Json → Json
  | .num n => if n.quotient?.isSome then .num n else .null
  | .arr items => .arr (itemsOnlyFinite items)
  | .obj ms => .obj (membersOnlyFinite ms)
  | v => v

def itemsOnlyFinite : List Json → List Json
  | [] => []
  | v :: vs => v.onlyFinite :: itemsOnlyFinite vs

def membersOnlyFinite : List (String × Json) → List (String × Json)
  | [] => []
  | (k, v) :: ms => (k, v.onlyFinite) :: membersOnlyFinite ms

end

mutual

/-- Whether a value, counted as one, and those inside it stand in at most so many
levels. -/
def nestsWithin : Json → (levels : Nat) → Bool
  | _, 0 => false
  | .arr items, levels + 1 => itemsNestWithin items levels
  | .obj ms, levels + 1 => membersNestWithin ms levels
  | _, _ + 1 => true

def itemsNestWithin : List Json → Nat → Bool
  | [], _ => true
  | v :: vs, levels => v.nestsWithin levels && itemsNestWithin vs levels

def membersNestWithin : List (String × Json) → Nat → Bool
  | [], _ => true
  | (_, v) :: ms, levels => v.nestsWithin levels && membersNestWithin ms levels

end

def ofOption {α : Type} (f : α → Json) : Option α → Json
  | none => .null
  | some a => f a

end Json

end LaneDuel
