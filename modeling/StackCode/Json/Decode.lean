import StackCode.Json.Tree

/-!
# Reading data from documents

Records are objects, or arrays of their fields in order; alternatives are a name or an
object with one member.  A record ignores members it does not know and refuses one
that is repeated.

Main definitions:

- `Json.toNat?`, `toBool?`, `toText?`, `toList?`, `toOption?`: plain data.
- `Json.fields?`: the fields of a record.
- `Json.variant?`: the name and the contents of an alternative.
-/

namespace StackCode.Json

/-! ## Plain data -/

/-- A whole number below a bound, written with digits only. -/
def toNat? (bound : Nat) : Tree → Option Nat
  | .number digits =>
    if digits.all Char.isDigit then
      let n := digits.foldl (fun n c => 10 * n + (c.toNat - '0'.toNat)) 0
      if n < bound then some n else none
    else none
  | _ => none

/-- A truth value. -/
def toBool? : Tree → Option Bool
  | .bool value => some value
  | _ => none

/-- A text. -/
def toText? : Tree → Option String
  | .string parts => text? parts
  | _ => none

/-- A list, each item read in one way. -/
def toList? {α : Type} (item : Tree → Option α) : Tree → Option (List α)
  | .array items => items.mapM item
  | _ => none

/-- An optional item, where `null` stands for its absence. -/
def toOption? {α : Type} (item : Tree → Option α) : Tree → Option (Option α)
  | .null => some none
  | tree => (item tree).map some

/-! ## Records -/

/-- The members of an object with their names as texts. -/
def named? : List (List Part × Tree) → Option (List (String × Tree))
  | [] => some []
  | (name, value) :: rest => do
    let name ← text? name
    let others ← named? rest
    return (name, value) :: others

/-- The member with a name: absent when there is none, refused when there are two. -/
def member? (members : List (String × Tree)) (name : String) : Option (Option Tree) :=
  match members.filter fun member => member.1 == name with
  | [] => some none
  | [(_, value)] => some (some value)
  | _ => none

/-- The fields of a record, each one present or absent.  An array must not hold more
fields than the record has, and only a record with defaults may be given fewer. -/
def fields? (names : List String) (defaults : Bool) : Tree → Option (List (Option Tree))
  | .object members => do
    let members ← named? members
    names.mapM (member? members)
  | .array items =>
    if names.length < items.length then none
    else if items.length < names.length ∧ !defaults then none
    else some (items.map some ++ List.replicate (names.length - items.length) none)
  | _ => none

/-- A field that must be present. -/
def required? {α : Type} (item : Tree → Option α) (field : Option Tree) : Option α :=
  field.bind item

/-- A field that has a default. -/
def withDefault? {α : Type} (value : α) (item : Tree → Option α) : Option Tree → Option α
  | none => some value
  | some tree => item tree

/-! ## Alternatives -/

/-- The name of an alternative, and its contents when it is given as a member. -/
def variant? : Tree → Option (String × Option Tree)
  | .string parts => (text? parts).map fun name => (name, none)
  | .object [(name, contents)] => (text? name).map fun name => (name, some contents)
  | _ => none

/-- An alternative without contents, out of a list, by its name. -/
def choice? {α : Type} (all : List α) (name : α → String) (tree : Tree) : Option α := do
  let (found, contents) ← variant? tree
  match contents with
  | none => all.find? fun item => name item == found
  | some .null => all.find? fun item => name item == found
  | some _ => none

/-- The parts of an alternative with several of them. -/
def tuple? : Tree → Option (List Tree)
  | .array items => some items
  | _ => none

/-! ## Writing -/

/-- A number as a document. -/
def ofNat (n : Nat) : Tree := .number (Nat.toDigits 10 n)

/-- A text as a document. -/
def ofString (text : String) : Tree := .string (ofText text)

/-- A list as a document. -/
def ofList {α : Type} (item : α → Tree) (items : List α) : Tree := .array (items.map item)

/-- An optional item as a document. -/
def ofOption {α : Type} (item : α → Tree) : Option α → Tree
  | none => .null
  | some value => item value

/-- A record as a document. -/
def record (fields : List (String × Tree)) : Tree :=
  .object (fields.map fun (name, value) => (ofText name, value))

/-- An alternative with contents as a document. -/
def variant (name : String) (contents : Tree) : Tree := record [(name, contents)]

end StackCode.Json
