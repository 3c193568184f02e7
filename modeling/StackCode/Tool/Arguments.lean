import StackCode.Tool.Number

/-!
# Command lines

The command line of the tool: options of the tool itself, a command, and the options
and words of the command.

- An option is `--name value` or `--name=value`; `-o value`, `-ovalue` and `-o=value`
  are short for `--output`.
- An option may stand once before the command and once after it, where the later one
  counts; a value given apart from its option does not start with a dash.
- After `--` everything is a word.
- Arguments are looked at in order, and the first misuse or request for help decides.
  A command has one word.

Main definitions: `Invocation`, `Request`, `Request.parse?`.
-/

namespace StackCode.Tool

/-! ## Requests -/

/-- A sample program. -/
inductive Sample where
  | count
  | pow
  | hello
deriving DecidableEq, Repr

/-- What the tool is asked to do. -/
inductive Command where
  | run (file : String) (noVerify : Bool) (fuel stackSize : Option Nat)
  | verify (file : String)
  | dump (file : String)
  | demo (sample : Sample) (output : String)
deriving DecidableEq, Repr

/-- A command with the options of the tool. -/
structure Invocation where
  config : Option String
  log : Option String
  command : Command
deriving DecidableEq, Repr

/-- What a command line asks for. -/
inductive Request where
  | version
  | help
  | invoke (invocation : Invocation)
deriving DecidableEq, Repr

/-! ## Options -/

/-- The options that are known. -/
inductive OptionName where
  | config
  | log
  | noVerify
  | fuel
  | stackSize
  | output
  | version
  | help
deriving DecidableEq, Repr

namespace OptionName

/-- The option with a long name. -/
def ofLong? (name : String) : Option OptionName :=
  match name with
  | "config" => some config
  | "log" => some log
  | "no-verify" => some noVerify
  | "fuel" => some fuel
  | "stack-size" => some stackSize
  | "output" => some output
  | "version" => some version
  | "help" => some help
  | _ => none

/-- The option with a short name. -/
def ofShort? (name : Char) : Option OptionName :=
  match name with
  | 'o' => some output
  | 'V' => some version
  | 'h' => some help
  | _ => none

/-- Whether the option has a value. -/
def takesValue : OptionName → Bool
  | config | log | fuel | stackSize | output => true
  | noVerify | version | help => false

/-- Whether a text can be the value of the option: a path is not empty, and a number
is one of 64 bits. -/
def admits (name : OptionName) (text : String) : Bool :=
  match name with
  | config | output => !text.isEmpty
  | fuel | stackSize => (word64? text).isSome
  | log | noVerify | version | help => true

end OptionName

/-! ## Tokens -/

/-- A piece of a command line. -/
inductive Token where
  | separator
  | word (text : String)
  | option (name : OptionName) (value : Option String)
  | unknown
deriving DecidableEq, Repr

/-- The token of an option by its long name. -/
def longToken (name : List Char) (value : Option String) : Token :=
  match OptionName.ofLong? (String.ofList name) with
  | some name => .option name value
  | none => .unknown

/-- The token of an option by its short name and what is attached to it, which only an
option with a value looks at. -/
def shortToken (name : Char) (attached : List Char) : Token :=
  match OptionName.ofShort? name with
  | none => .unknown
  | some name =>
    if !name.takesValue then .option name none
    else
      match attached with
      | [] => .option name none
      | '=' :: value | value => .option name (some (String.ofList value))

/-- The token that an argument is. -/
def token (argument : String) : Token :=
  match argument.toList with
  | ['-', '-'] => .separator
  | '-' :: '-' :: rest =>
    match rest.dropWhile (· != '=') with
    | [] => longToken rest none
    | _ :: value => longToken (rest.takeWhile (· != '=')) (some (String.ofList value))
  | '-' :: name :: attached => shortToken name attached
  | _ => .word argument

/-- Whether an argument can be the value of the option before it. -/
def isValue (argument : String) : Bool :=
  match token argument with
  | .word _ => true
  | _ => false

/-! ## Scanning -/

/-- Options with their values, the latest first. -/
abbrev Given := List (OptionName × String)

/-- The value of an option. -/
def Given.value? (given : Given) (name : OptionName) : Option String := given.lookup name

/-- What a scan of arguments ends with. -/
inductive Scan where
  | misuse
  | version
  | help
  | done (given : Given) (word : Option String) (rest : List String)
deriving DecidableEq, Repr

/-- What may stand in a part of a command line: options, and a word that is admitted.
Where no rule for words is given, the first word ends the part. -/
structure Part where
  options : List OptionName
  admits : Option (String → Bool)

/-- The end of a scan with words only: those found so far and the ones after `--`. -/
def Scan.words (admits : String → Bool) (given : Given) : List String → Scan
  | [] => .done given none []
  | [word] => if admits word then .done given (some word) [] else .misuse
  | _ => .misuse

/-- Reads the options and the word of a part. -/
def scan (part : Part) (given : Given) (word : Option String) : List String → Scan
  | [] => .done given word []
  | argument :: rest =>
    match token argument with
    | .unknown => .misuse
    | .separator =>
      match part.admits with
      | none => .misuse
      | some admits => .words admits given (word.toList ++ rest)
    | .word text =>
      match part.admits with
      | none => .done given (some text) rest
      | some admits =>
        if word.isNone && admits text then scan part given (some text) rest else .misuse
    | .option name value =>
      if !part.options.contains name || (given.value? name).isSome then .misuse
      else if name.takesValue then
        match value with
        | some value =>
          if name.admits value then scan part ((name, value) :: given) word rest
          else .misuse
        | none =>
          match rest with
          | [] => .misuse
          | value :: rest =>
            if isValue value && name.admits value then
              scan part ((name, value) :: given) word rest
            else .misuse
      else
        match name, value with
        | .version, none => .version
        | .help, none => .help
        | _, none => scan part ((name, "") :: given) word rest
        | _, some _ => .misuse

/-! ## Commands -/

/-- The number that an option gives. -/
def Given.number? (given : Given) (name : OptionName) : Option Nat :=
  (given.value? name).bind word64?

/-- The sample with a name. -/
def Sample.ofName? : String → Option Sample
  | "count" => some .count
  | "pow" => some .pow
  | "hello" => some .hello
  | _ => none

/-- The name of a command. -/
inductive CommandName where
  | run
  | verify
  | dump
  | demo
deriving DecidableEq, Repr

namespace CommandName

/-- The command that a text names. -/
def ofText? : String → Option CommandName
  | "run" => some run
  | "verify" => some verify
  | "dump" => some dump
  | "demo" => some demo
  | _ => none

/-- The options of a command. -/
def options : CommandName → List OptionName
  | run => [.config, .log, .help, .noVerify, .fuel, .stackSize]
  | verify => [.config, .log, .help]
  | dump => [.config, .log, .help]
  | demo => [.config, .log, .help, .output]

/-- Whether a text can be the word of a command: the name of a sample, or a path, which
is not empty. -/
def admits (name : CommandName) (text : String) : Bool :=
  match name with
  | run | verify | dump => !text.isEmpty
  | demo => (Sample.ofName? text).isSome

/-- What may stand after the name of a command. -/
def part (name : CommandName) : Part := ⟨name.options, some name.admits⟩

/-- The command with a name, options and a word. -/
def command? (name : CommandName) (given : Given) (word : String) : Option Command :=
  match name with
  | run =>
    some (.run word (given.value? .noVerify).isSome (given.number? .fuel)
      (given.number? .stackSize))
  | verify => some (.verify word)
  | dump => some (.dump word)
  | demo => do return .demo (← Sample.ofName? word) (← given.value? .output)

end CommandName

/-- An option that may stand before and after the command; the later one counts. -/
def later (before after : Given) (name : OptionName) : Option String :=
  (after.value? name).or (before.value? name)

/-- Whether help can be asked for with these words: none, or the name of a command. -/
def isHelpTopic : List String → Bool
  | [] => true
  | [name] => name == "help" || (CommandName.ofText? name).isSome
  | _ => false

/-- What a command line asks for after the options of the tool and the name of a
command. -/
def Request.ofCommand? (before : Given) (name : CommandName) (rest : List String) :
    Option Request := do
  match scan name.part [] none rest with
  | .help => return .help
  | .done after word _ =>
    let command ← name.command? after (← word)
    return .invoke ⟨later before after .config, later before after .log, command⟩
  | .misuse | .version => none

/-- What a command line asks for; absent when it is misused. -/
def Request.parse? (arguments : List String) : Option Request := do
  match scan ⟨[.config, .log, .version, .help], none⟩ [] none arguments with
  | .version => return .version
  | .help => return .help
  | .done before word rest =>
    let name ← word
    if name = "help" then
      if isHelpTopic rest then return .help else none
    else Request.ofCommand? before (← CommandName.ofText? name) rest
  | .misuse => none

end StackCode.Tool
