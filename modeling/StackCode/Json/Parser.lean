import StackCode.Json.Tree

/-!
# Reading JSON

A reader for JSON texts.  Blanks are the space, the tab, the line feed and the
carriage return; a number has no leading zeros and no sign but a minus; control
characters must be escaped in strings.

Main definition: `Json.parse?`.
-/

namespace StackCode.Json

/-- Whether a character is a blank. -/
def isBlank (c : Char) : Bool := c == ' ' || c == '\t' || c == '\n' || c == '\r'

/-- The text after its leading blanks. -/
def skipBlanks (text : List Char) : List Char := text.dropWhile isBlank

/-! ## Literals and numbers -/

/-- The text after a literal that it starts with. -/
def afterLiteral? : List Char → List Char → Option (List Char)
  | [], text => some text
  | _ :: _, [] => none
  | expected :: literal, found :: text =>
    if expected = found then afterLiteral? literal text else none

/-- The digits that a text starts with, at least one, and the text after them. -/
def digits? (text : List Char) : Option (List Char × List Char) :=
  match text.span Char.isDigit with
  | ([], _) => none
  | (digits, rest) => some (digits, rest)

/-- The digits before the point of a number. -/
def wholePart? (text : List Char) : Option (List Char × List Char) :=
  match text with
  | '0' :: rest => some (['0'], rest)
  | _ => digits? text

/-- The point of a number and the digits after it, if there is a point. -/
def fraction? (text : List Char) : Option (List Char × List Char) :=
  match text with
  | '.' :: rest => (digits? rest).map fun (digits, rest) => ('.' :: digits, rest)
  | _ => some ([], text)

/-- The exponent of a number, if there is one. -/
def exponent? (text : List Char) : Option (List Char × List Char) :=
  match text with
  | mark :: rest =>
    if mark = 'e' ∨ mark = 'E' then
      match rest with
      | sign :: after =>
        if sign = '+' ∨ sign = '-' then
          (digits? after).map fun (digits, rest) => (mark :: sign :: digits, rest)
        else (digits? rest).map fun (digits, rest) => (mark :: digits, rest)
      | [] => none
    else some ([], text)
  | [] => some ([], [])

/-- A number without its sign. -/
def magnitude? (text : List Char) : Option (List Char × List Char) := do
  let (whole, text) ← wholePart? text
  let (fraction, text) ← fraction? text
  let (exponent, text) ← exponent? text
  return (whole ++ fraction ++ exponent, text)

/-- A number. -/
def number? (text : List Char) : Option (List Char × List Char) :=
  match text with
  | '-' :: rest => (magnitude? rest).map fun (digits, rest) => ('-' :: digits, rest)
  | _ => magnitude? text

/-! ## Strings -/

/-- The character that a one-letter escape stands for. -/
def escape? (c : Char) : Option Char :=
  if c = '"' ∨ c = '\\' ∨ c = '/' then some c
  else if c = 'b' then some '\x08'
  else if c = 'f' then some '\x0c'
  else if c = 'n' then some '\n'
  else if c = 'r' then some '\r'
  else if c = 't' then some '\t'
  else none

/-- The number of four hexadecimal digits. -/
def unit? (a b c d : Char) : Option Nat := do
  let a ← Text.hexDigit? a
  let b ← Text.hexDigit? b
  let c ← Text.hexDigit? c
  let d ← Text.hexDigit? d
  return ((a * 16 + b) * 16 + c) * 16 + d

/-- The parts of a string up to its closing quote, after parts given in reverse, and
the text after the quote. -/
def stringAfter? (reversed : List Part) : List Char → Option (List Part × List Char)
  | [] => none
  | '"' :: rest => some (reversed.reverse, rest)
  | '\\' :: 'u' :: a :: b :: c :: d :: rest =>
    match unit? a b c d with
    | some unit => stringAfter? (.unit unit :: reversed) rest
    | none => none
  | '\\' :: c :: rest =>
    match escape? c with
    | some meaning => stringAfter? (.char meaning :: reversed) rest
    | none => none
  | c :: rest =>
    if c.toNat < 0x20 ∨ c = '\\' then none else stringAfter? (.char c :: reversed) rest

/-! ## Documents -/

mutual

/-- The document at the start of a text without leading blanks, and the text after it.
The first argument bounds the nesting. -/
def tree? : Nat → List Char → Option (Tree × List Char)
  | 0, _ => none
  | bound + 1, text =>
    match text with
    | [] => none
    | 'n' :: _ => (afterLiteral? "null".toList text).map fun rest => (.null, rest)
    | 't' :: _ => (afterLiteral? "true".toList text).map fun rest => (.bool true, rest)
    | 'f' :: _ => (afterLiteral? "false".toList text).map fun rest => (.bool false, rest)
    | '"' :: rest => (stringAfter? [] rest).map fun (parts, rest) => (.string parts, rest)
    | '[' :: rest =>
      match skipBlanks rest with
      | ']' :: rest => some (.array [], rest)
      | rest => (items? bound [] rest).map fun (items, rest) => (.array items, rest)
    | '\x7b' :: rest =>
      match skipBlanks rest with
      | '\x7d' :: rest => some (.object [], rest)
      | rest => (members? bound [] rest).map fun (members, rest) => (.object members, rest)
    | _ => (number? text).map fun (digits, rest) => (.number digits, rest)

/-- The items of an array up to its closing bracket, after items given in reverse. -/
def items? : Nat → List Tree → List Char → Option (List Tree × List Char)
  | 0, _, _ => none
  | bound + 1, reversed, text =>
    match tree? bound text with
    | none => none
    | some (item, rest) =>
      match skipBlanks rest with
      | ',' :: rest => items? bound (item :: reversed) (skipBlanks rest)
      | ']' :: rest => some ((item :: reversed).reverse, rest)
      | _ => none

/-- The members of an object up to its closing brace, after members given in
reverse. -/
def members? : Nat → List (List Part × Tree) → List Char →
    Option (List (List Part × Tree) × List Char)
  | 0, _, _ => none
  | bound + 1, reversed, text =>
    match text with
    | '"' :: text =>
      match stringAfter? [] text with
      | none => none
      | some (name, rest) =>
        match skipBlanks rest with
        | ':' :: rest =>
          match tree? bound (skipBlanks rest) with
          | none => none
          | some (value, rest) =>
            match skipBlanks rest with
            | ',' :: rest => members? bound ((name, value) :: reversed) (skipBlanks rest)
            | '\x7d' :: rest => some (((name, value) :: reversed).reverse, rest)
            | _ => none
        | _ => none
    | _ => none

end

/-- The document that a text holds, between blanks. -/
def parse? (text : String) : Option Tree :=
  let chars := skipBlanks text.toList
  match tree? (2 * chars.length + 2) chars with
  | some (tree, rest) => if (skipBlanks rest).isEmpty then some tree else none
  | none => none

end StackCode.Json
