import StackCode.Text.Alphanumeric
import StackCode.Tool.Number

/-!
# Log filters

A log filter is a list of directives between commas.  A directive is a level, or a
target with an optional span and an optional level: `target[span{fields}]=level`.
The target starts with a letter, a digit or one of `-`, `:` and `_`; it may be absent
in front of a span.  A level is a name in any case or a number up to 5, and nothing
after the equals sign stands for all levels.

Main definitions: `LogFilter.check`, `LogFilter.Problem`.
-/

namespace StackCode.Tool.LogFilter

/-- What is wrong with a log filter. -/
inductive Problem where
  | directive
  | level
deriving DecidableEq, Repr

/-- Why a level is refused. -/
def levelMessage : String :=
  "error parsing level filter: expected one of \"off\", \"error\", \"warn\", \"info\", " ++
    "\"debug\", \"trace\", or a number 0-5"

/-- The text of a problem; that of a level names its cause once more. -/
def Problem.message : Problem → String
  | directive => "invalid filter directive"
  | level => levelMessage ++ ": " ++ levelMessage

/-! ## Levels -/

/-- The names of levels. -/
def levelNames : List String := ["off", "error", "warn", "info", "debug", "trace"]

/-- Whether a text is a level. -/
def isLevel (text : String) : Bool :=
  levelNames.contains text.toLower || (word64? text).any fun n => decide (n ≤ 5)

/-! ## Spans -/

/-- The level after a span, if one is given. -/
def levelAfterSpan : List Char → Except Problem (Option String)
  | [] => .ok none
  | '=' :: level => .ok (some (String.ofList level))
  | _ => .error .directive

/-- The level after a span, which is read from behind its opening bracket.  Fields
stand between braces at the end of a span, and there is at least one. -/
def levelOfSpan (text : List Char) : Except Problem (Option String) :=
  match text.dropWhile fun c => c != ']' && c != '\x7b' with
  | [] => .error .directive
  | ']' :: rest => levelAfterSpan rest
  | _ :: fields =>
    match fields.takeWhile (· != '\x7d'), fields.dropWhile (· != '\x7d') with
    | _ :: _, _ :: ']' :: rest => levelAfterSpan rest
    | _, _ => .error .directive

/-! ## Directives -/

/-- Whether a character is blank (the Unicode property White_Space). -/
def isBlank (c : Char) : Bool :=
  Text.inRanges
    [(0x9, 0xD), (0x20, 0x20), (0x85, 0x85), (0xA0, 0xA0), (0x1680, 0x1680), (0x2000, 0x200A),
      (0x2028, 0x2029), (0x202F, 0x202F), (0x205F, 0x205F), (0x3000, 0x3000)] c.toNat

/-- A text without the blanks at its ends. -/
def trim (text : List Char) : List Char :=
  ((text.dropWhile isBlank).reverse.dropWhile isBlank).reverse

/-- Whether a target can start with a character. -/
def startsTarget (c : Char) : Bool :=
  Text.isAlphanumeric c || c == '-' || c == ':' || c == '_'

/-- The level that a directive without blanks at its ends gives to its target or span,
if it gives one. -/
def levelOf (text : List Char) : Except Problem (Option String) :=
  match text with
  | [] => .error .directive
  | '[' :: span => levelOfSpan span
  | c :: _ =>
    if !startsTarget c then .error .directive
    else
      match text.dropWhile fun c => c != '=' && c != '[' with
      | '=' :: level => .ok (some (String.ofList level))
      | '[' :: span => levelOfSpan span
      | _ => .ok none

/-- Checks a directive.  Blanks at its ends are allowed only if it gives no level to a
target or span. -/
def checkDirective (directive : String) : Except Problem Unit := do
  let text := directive.toList
  match ← levelOf (trim text) with
  | none => .ok ()
  | some level =>
    if trim text == text && (level.isEmpty || isLevel level) then .ok () else .error .level

/-! ## Filters -/

/-- Checks a log filter, whose empty directives do not count. -/
def check (filter : String) : Except Problem Unit :=
  ((filter.splitOn ",").filter fun directive => !directive.isEmpty).forM checkDirective

end StackCode.Tool.LogFilter
