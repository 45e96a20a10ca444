import Mathlib
import SnakeArena.Library.Json

/-!
# Library — values without types

What a script does with a value that it read as JSON and never checked: a property of it, its text,
its number, the spread of its members.  None is `undefined`; a throw is none too, one level up.

* `get_update`: an update keeps the other properties.
-/

namespace SnakeArena.Library
open Utf16 (Units ofChars)

namespace Dynamic

/-- None is `undefined`. -/
abbrev Value := Option Json

def key (name : String) : Units := ofChars name.toList

/-- How numbers are written, and texts read as numbers. -/
structure Numerals where
  /-- `Number::toString`. -/
  toString : Double → Units
  /-- `StringToNumber`; none is `NaN`. -/
  toNumber : Units → Option Double

/-! ### Properties -/

/-- A property that no string and no array has. -/
def prop (name : String) : Value → Option Value
  | none => none
  | some .null => none
  | some v => some (v.get (key name))

def length : Value → Option Value
  | some (.str text) => some (some (.num (.finite text.length)))
  | some (.arr items) => some (some (.num (.finite items.length)))
  | v => prop "length" v

/-- What has the methods of an array. -/
def array : Value → Option (List Json)
  | some (.arr items) => some items
  | _ => none

def index (i : ℕ) : Units := ofChars (Nat.toDigits 10 i)

/-- The members of `{ ...v }`. -/
def spread : Value → List (Units × Json)
  | some (.obj members) => members
  | some (.arr items) => items.zipIdx.map fun item => (index item.2, item.1)
  | some (.str text) => text.zipIdx.map fun unit => (index unit.2, .str [unit.1])
  | _ => []

/-- `{ ...v, name: value }`, and so on. -/
def update (v : Value) (changes : List (String × Json)) : Json :=
  .obj (changes.foldl (fun members change => Json.set (key change.1) change.2 members) (spread v))

/-! ### Comparisons -/

def isNull : Value → Bool
  | some .null => true
  | _ => false

/-- `=== text`. -/
def isText (text : Units) : Value → Bool
  | some (.str text') => text' = text
  | _ => false

/-- `=== b`. -/
def isBool (b : Bool) : Value → Bool
  | some (.bool b') => b' = b
  | _ => false

def truthy : Value → Bool
  | none => false
  | some .null => false
  | some (.bool b) => b
  | some (.num x) => x ≠ .finite 0
  | some (.str text) => text ≠ []
  | some _ => true

def below (n : ℕ) : Double → Bool
  | .finite q => q < n
  | .infinity negative => negative

def above (n : ℕ) : Double → Bool
  | .finite q => n < q
  | .infinity negative => !negative

/-! ### Conversions -/

section Conversions
variable (n : Numerals)

mutual

/-- `String(v)`.  The `toString` of an object is a method, unless a member hides it. -/
def text : Json → Option Units
  | .null => some (key "null")
  | .bool true => some (key "true")
  | .bool false => some (key "false")
  | .num x => some (n.toString x)
  | .str text => some text
  | .arr items => joined items
  | .obj members =>
      if (Json.obj members).get (key "toString") = none then some (key "[object Object]") else none

/-- `join(',')`, where `null` is empty. -/
def joined : List Json → Option Units
  | [] => some []
  | item :: rest => do
      let first ← if isNull (some item) then some [] else text item
      let others ← joined rest
      some (if rest.isEmpty then first else first ++ key "," ++ others)

end

/-- `${v}`. -/
def template : Value → Option Units
  | none => some (key "undefined")
  | some v => text n v

/-- `Number(v)`; the inner none is `NaN`. -/
def number : Value → Option (Option Double)
  | none => some none
  | some .null => some (some (.finite 0))
  | some (.bool b) => some (some (.finite (if b then 1 else 0)))
  | some (.num x) => some (some x)
  | some v => (text n v).map n.toNumber

/-- Whether the number of `v` passes a test, which `NaN` does not. -/
def compare (test : Double → Bool) (v : Value) : Option Bool :=
  (number n v).map (·.any test)

/-- `v + 1`; `NaN` is `null`, as which it is written. -/
def plusOne : Value → Option Json
  | none => some .null
  | some .null => some (.num (.finite 1))
  | some (.bool b) => some (.num (.finite (if b then 2 else 1)))
  | some (.num (.finite q)) => some (.num (.ofRat (q + 1)))
  | some (.num (.infinity negative)) => some (.num (.infinity negative))
  | some v => (text n v).map fun text => .str (text ++ key "1")

mutual

/-- `JSON.stringify(v)`. -/
def stringify : Json → List Char
  | .null => "null".toList
  | .bool true => "true".toList
  | .bool false => "false".toList
  | .num (.finite q) => (Utf16.scalars (n.toString (.finite q)))
  | .num (.infinity _) => "null".toList
  | .str text => Json.quote text
  | .arr items => '[' :: (writtenItems items ++ [']'])
  | .obj members => '{' :: (writtenMembers members ++ ['}'])

def writtenItems : List Json → List Char
  | [] => []
  | [item] => stringify item
  | item :: rest => stringify item ++ ',' :: writtenItems rest

def writtenMembers : List (Units × Json) → List Char
  | [] => []
  | [(name, value)] => Json.quote name ++ ':' :: stringify value
  | (name, value) :: rest =>
      Json.quote name ++ ':' :: (stringify value ++ ',' :: writtenMembers rest)

end

end Conversions

/-! ### Updates -/

theorem get_set_ne {name name' : Units} (h : name ≠ name') (value : Json)
    (members : List (Units × Json)) :
    (Json.obj (Json.set name' value members)).get name = (Json.obj members).get name := by
  induction members with
  | nil => simp [Json.set, Json.get, h.symm]
  | cons member members ih =>
      rw [Json.set]
      split_ifs with hmember
      · simp [Json.get, hmember, h.symm]
      · by_cases hname : member.1 = name
        · simp [Json.get, hname]
        · simpa [Json.get, List.find?_cons, hname] using ih

/-- A name that starts with no digit. -/
def Named (name : String) : Prop := ∀ c ∈ name.toList.head?, c.isDigit = false

/-- A place is no name. -/
theorem index_ne {name : String} (h : Named name) (i : ℕ) : index i ≠ key name := by
  intro heq
  have hdigits : Nat.toDigits 10 i = name.toList := by
    have hscalars := congrArg Utf16.scalars heq
    rwa [index, key, Utf16.scalars_ofChars, Utf16.scalars_ofChars] at hscalars
  obtain ⟨c, rest, hcons, hc⟩ := Json.toDigits_cons i
  have hother := h c (by rw [← hdigits, hcons]; rfl)
  rw [hc] at hother
  cases hother

theorem get_indexed {α : Type*} {name : String} (h : Named name) (value : α × ℕ → Json)
    (items : List (α × ℕ)) :
    (Json.obj (items.map fun item => (index item.2, value item))).get (key name) = none := by
  simp [Json.get, index_ne h]

theorem get_spread {name : String} (h : Named name) (v : Value) :
    (Json.obj (spread v)).get (key name) = v.bind (·.get (key name)) := by
  cases v with
  | none => rfl
  | some v =>
      cases v with
      | null | bool | num | obj => rfl
      | str text => exact get_indexed h (fun unit => .str [unit.1]) _
      | arr items => exact get_indexed h (fun item => item.1) _

theorem key_injective : Function.Injective key := fun name name' h => by
  have hscalars := congrArg Utf16.scalars h
  rw [key, key, Utf16.scalars_ofChars, Utf16.scalars_ofChars] at hscalars
  exact String.toList_injective hscalars

theorem get_update {name : String} (h : Named name) (v : Value) {changes : List (String × Json)}
    (hnew : ∀ change ∈ changes, change.1 ≠ name) :
    (update v changes).get (key name) = v.bind (·.get (key name)) := by
  rw [← get_spread h, update]
  generalize spread v = members
  induction changes generalizing members with
  | nil => rfl
  | cons change changes ih =>
      obtain ⟨hchange, hnew⟩ := List.forall_mem_cons.mp hnew
      rw [List.foldl_cons, ih hnew, get_set_ne fun heq => hchange (key_injective heq).symm]

end Dynamic

end SnakeArena.Library
