import TemplateDebug.Decimal.Double
/-!
# JSON values

An integer from -2^63 to 2^64 - 1 stays an integer; every other number is a double and is never read as an integer.
An object lists its members by key, in the order of the keys' code points, each key once. A change of one member
leaves the others where they are.
-/

namespace TemplateDebug

inductive Json where
  | null
  | bool (value : Bool)
  | int (value : Int)
  | real (value : Double)
  | str (value : String)
  | arr (items : List Json)
  | obj (members : List (String × Json))
  deriving Repr, Inhabited

namespace Json

mutual
def decEq : (a b : Json) → Decidable (a = b)
  | null, null => isTrue rfl
  | bool a, bool b => if h : a = b then isTrue (by rw [h]) else isFalse (by simp [h])
  | int a, int b => if h : a = b then isTrue (by rw [h]) else isFalse (by simp [h])
  | real a, real b => if h : a = b then isTrue (by rw [h]) else isFalse (by simp [h])
  | str a, str b => if h : a = b then isTrue (by rw [h]) else isFalse (by simp [h])
  | arr a, arr b => match decEqItems a b with
    | isTrue h => isTrue (by rw [h])
    | isFalse h => isFalse (by simp [h])
  | obj a, obj b => match decEqMembers a b with
    | isTrue h => isTrue (by rw [h])
    | isFalse h => isFalse (by simp [h])
  | null, bool _ | null, int _ | null, real _ | null, str _ | null, arr _ | null, obj _
  | bool _, null | bool _, int _ | bool _, real _ | bool _, str _ | bool _, arr _ | bool _, obj _
  | int _, null | int _, bool _ | int _, real _ | int _, str _ | int _, arr _ | int _, obj _
  | real _, null | real _, bool _ | real _, int _ | real _, str _ | real _, arr _ | real _, obj _
  | str _, null | str _, bool _ | str _, int _ | str _, real _ | str _, arr _ | str _, obj _
  | arr _, null | arr _, bool _ | arr _, int _ | arr _, real _ | arr _, str _ | arr _, obj _
  | obj _, null | obj _, bool _ | obj _, int _ | obj _, real _ | obj _, str _ | obj _, arr _ => isFalse (by simp)

def decEqItems : (a b : List Json) → Decidable (a = b)
  | [], [] => isTrue rfl
  | [], _ :: _ | _ :: _, [] => isFalse (by simp)
  | a :: as, b :: bs => match decEq a b with
    | isFalse h => isFalse (by simp [h])
    | isTrue h => match decEqItems as bs with
      | isTrue t => isTrue (by rw [h, t])
      | isFalse t => isFalse (by simp [t])

def decEqMembers : (a b : List (String × Json)) → Decidable (a = b)
  | [], [] => isTrue rfl
  | [], _ :: _ | _ :: _, [] => isFalse (by simp)
  | (k, a) :: as, (l, b) :: bs =>
    if hk : k = l then match decEq a b with
      | isFalse h => isFalse (by simp [h])
      | isTrue h => match decEqMembers as bs with
        | isTrue t => isTrue (by rw [hk, h, t])
        | isFalse t => isFalse (by simp [t])
    else isFalse (by simp [hk])
end

instance : DecidableEq Json := decEq

/-! ## Members -/

/-- The members with `key` set to `value`; a new key takes its place in the order of keys. -/
def insertMember (key : String) (value : Json) : List (String × Json) → List (String × Json)
  | [] => [(key, value)]
  | (k, v) :: rest =>
    if key = k then (key, value) :: rest
    else if key < k then (key, value) :: (k, v) :: rest
    else (k, v) :: insertMember key value rest

/-- The object with these members; of members with one key the last counts. -/
def ofMembers (members : List (String × Json)) : Json :=
  obj (members.foldl (fun ms m => insertMember m.1 m.2 ms) [])

/-- The member under `key`, of an object that has one. -/
def get? (key : String) : Json → Option Json
  | obj ms => ms.lookup key
  | _ => none

/-- The object with `key` set to `value`; other values stay. -/
def set (j : Json) (key : String) (value : Json) : Json :=
  match j with
  | obj ms => obj (insertMember key value ms)
  | j => j

/-- The object without `key`; other values stay. -/
def erase (key : String) : Json → Json
  | obj ms => obj (ms.filter fun m => m.1 ≠ key)
  | j => j

/-! ## Views -/

def str? : Json → Option String
  | str s => some s
  | _ => none

def bool? : Json → Option Bool
  | bool b => some b
  | _ => none

def items? : Json → Option (List Json)
  | arr js => some js
  | _ => none

/-- An integer that fits a signed word of 64 bits. -/
def int64? : Json → Option Int
  | int n => if fitsSigned n then some n else none
  | _ => none

/-- An integer that is not negative. -/
def nat? : Json → Option Nat
  | int n => n.toNat?
  | _ => none

end Json

end TemplateDebug
