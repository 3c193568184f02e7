import Mathlib.Data.List.Basic
import StackCode.Proofs.Listing.Quoting

/-!
# Lines of a listing

A listing is a list of lines, each written with a newline behind it.  What a reader of the
text takes for a line is what stands between two newlines, and the two agree as long as no
line of the listing has a newline inside.  Only the names of definitions can bring one in:
numbers, constants, signatures and quoted resources never do.

Main definitions:

- `Text.lines`: the lines of a text.
- `Listing.OneLine`: texts without a newline.
- `Listing.block`: the text of a routine.

Main results:

- Theorem `Text.lines_join`: the lines of a text that was put together from lines.
- Theorem `Listing.unbroken_value`: constants have no line-breaking characters.
- Theorem `Listing.oneLine_routine`: the lines of a routine when no name has a newline.
- Theorem `Listing.exists_module_eq`: the text of a routine in the listing of its module.
-/

namespace StackCode

namespace Text

/-! ## Reading lines -/

/-- The lines of a text that all end with a newline. -/
def lines (text : String) : List String :=
  ((text.toList.splitOn '\n').dropLast).map String.ofList

/-- Lines without newlines inside are separated again. -/
theorem splitOn_flatMap {lines : List (List Char)} (hlines : ∀ line ∈ lines, '\n' ∉ line) :
    (lines.flatMap fun line => line ++ ['\n']).splitOn '\n' = lines ++ [[]] := by
  induction lines with
  | nil => exact List.splitOn_nil '\n'
  | cons line lines ih =>
    obtain ⟨hline, hothers⟩ := List.forall_mem_cons.mp hlines
    have halone : line.splitOnP (· == '\n') = [line] := by
      refine List.splitOnP_eq_singleton fun c hc => ?_
      rw [beq_eq_false_iff_ne]
      rintro rfl
      exact hline hc
    rw [List.flatMap_cons, List.append_assoc, List.singleton_append, List.splitOn,
      List.splitOnP_append_cons, halone]
    · exact congrArg (line :: ·) (ih hothers)
    · rfl

/-- A text that was put together from lines has these lines. -/
theorem lines_join {parts : List String} (hparts : ∀ part ∈ parts, '\n' ∉ part.toList) :
    lines (String.join (parts.map (· ++ "\n"))) = parts := by
  have hchars : (String.join (parts.map (· ++ "\n"))).toList =
      (parts.map String.toList).flatMap fun line => line ++ ['\n'] := by
    rw [String.toList_join, List.flatMap_map, List.flatMap_map]
    congr 1
    funext part
    exact String.toList_append
  have hlines : ∀ line ∈ parts.map String.toList, '\n' ∉ line := by
    intro line hline
    obtain ⟨part, hpart, rfl⟩ := List.mem_map.mp hline
    exact hparts part hpart
  unfold lines
  rw [hchars, splitOn_flatMap hlines, List.dropLast_concat, List.map_map]
  exact List.map_id'' (fun part => String.ofList_toList) parts

end Text

namespace Listing

open Text

/-! ## Texts of numbers and constants -/

section Digits

variable {base : Nat}

/-- Digits never break a line. -/
theorem lineBreaking_not_mem_toDigits (hbase : 1 < base) (hhex : base ≤ 16) (n : Nat) :
    ∀ c ∈ Nat.toDigits base n, c ∉ lineBreaking := by
  have hdigit : ∀ d < 16, Nat.digitChar d ∉ lineBreaking := by decide
  induction n using Nat.strongRecOn with
  | ind n ih =>
    intro c hc
    rw [Nat.toDigits_eq_if hbase] at hc
    split_ifs at hc with hsmall
    · rw [List.mem_singleton] at hc
      exact hc ▸ hdigit n (by omega)
    · rcases List.mem_append.mp hc with hfront | hlast
      · exact ih (n / base) (Nat.div_lt_self (by omega) hbase) c hfront
      · rw [List.mem_singleton] at hlast
        have hlt := Nat.mod_lt n (show 0 < base by omega)
        exact hlast ▸ hdigit (n % base) (by omega)

end Digits

/-- A text of characters that break no line. -/
theorem unbroken_ofList {chars : List Char} (hchars : ∀ c ∈ chars, c ∉ lineBreaking) :
    Unbroken (String.ofList chars) := by
  intro c hc hmem
  rw [String.toList_ofList] at hmem
  exact hchars c hmem hc

theorem unbroken_address (n : Nat) : Unbroken (Text.address n) :=
  unbroken_append (by decide)
    (unbroken_ofList (lineBreaking_not_mem_toDigits (by decide) (by decide) n))

theorem unbroken_int (n : Int) : Unbroken (toString n) := by
  cases n with
  | ofNat n => exact unbroken_toString n
  | negSucc n => exact unbroken_append (by decide) (unbroken_toString (n + 1))

/-- Positional decimal digits are digits and a point. -/
theorem unbroken_decimal (decimal : Floating.Decimal) : Unbroken decimal.text := by
  have hdigits := lineBreaking_not_mem_toDigits (show 1 < 10 by decide) (by decide) decimal.digits
  have hzeros : ∀ n, ∀ c ∈ List.replicate n '0', c ∉ lineBreaking := by
    intro n c hc
    rw [List.eq_of_mem_replicate hc]
    decide
  unfold Floating.Decimal.text
  dsimp only
  split
  · exact unbroken_ofList (List.forall_mem_append.mpr ⟨hdigits, hzeros _⟩)
  · have hpadded := List.forall_mem_append.mpr
      ⟨hzeros ((-decimal.exponent).toNat + 1 - (Nat.toDigits 10 decimal.digits).length), hdigits⟩
    split
    · exact unbroken_ofList fun c hc => hpadded c (List.mem_of_mem_take hc)
    · refine unbroken_ofList (List.forall_mem_append.mpr
        ⟨fun c hc => hpadded c (List.mem_of_mem_take hc), List.forall_mem_cons.mpr
          ⟨by decide, fun c hc => ?_⟩⟩)
      have hkept := (List.dropWhile_sublist _).subset (List.mem_reverse.mp hc)
      exact hpadded c (List.mem_of_mem_drop (List.mem_reverse.mp hkept))

theorem unbroken_float (format : Floating.Format) (bits : Nat) : Unbroken (format.text bits) := by
  unfold Floating.Format.text Floating.Format.numberText
  split
  · decide
  · split <;> decide
  · have hmagnitude : ∀ significand exponent, Unbroken
        (if significand = 0 then "0" else (format.shortest significand exponent).text) := by
      intro significand exponent
      split
      · decide
      · exact unbroken_decimal _
    dsimp only
    split
    · exact unbroken_append (by decide) (hmagnitude _ _)
    · exact hmagnitude _ _

/-- Constants have no line-breaking characters. -/
theorem unbroken_value (value : Value) : Unbroken value.text := by
  unfold Value.text
  cases value.type with
  | pointer => exact unbroken_address _
  | void => exact (by decide : Unbroken "void")
  | f64 => exact unbroken_float _ _
  | f32 => exact unbroken_float _ _
  | _ => exact unbroken_int _

theorem unbroken_comparison (comparison : Comparison) : Unbroken comparison.mnemonic := by
  cases comparison <;> decide

theorem unbroken_kind (kind : OperandKind) : Unbroken kind.mnemonic := by
  cases kind <;> decide

theorem unbroken_signature (signature : Signature) : Unbroken signature.text :=
  unbroken_append (unbroken_append (unbroken_append (unbroken_append
    (unbroken_type _) (by decide)) (unbroken_types _)) (by decide)) (unbroken_convention _)

/-! ## Texts without newlines -/

/-- A text that stays on one line. -/
def OneLine (text : String) : Prop := '\n' ∉ text.toList

instance (text : String) : Decidable (OneLine text) := inferInstanceAs (Decidable (¬ _ ∈ _))

theorem Unbroken.oneLine {text : String} (hunbroken : Unbroken text) : OneLine text :=
  hunbroken '\n' (by decide)

theorem OneLine.append {text other : String} (htext : OneLine text) (hother : OneLine other) :
    OneLine (text ++ other) := by
  unfold OneLine
  rw [String.toList_append, List.mem_append, not_or]
  exact ⟨htext, hother⟩

section Names

variable {module : Module}
  (hnames : ∀ definition ∈ module.definitions, OneLine definition.name)
include hnames

/-- A definition is named on one line, also one that does not exist. -/
theorem oneLine_definitionName (id : DefinitionId) : OneLine (definitionName module id) := by
  unfold definitionName
  split
  · next definition hfound => exact hnames definition (List.mem_of_find?_eq_some hfound)
  · exact (unbroken_append (by decide) (unbroken_toString _)).oneLine

theorem oneLine_operand (opcode : Opcode) (target : Operand) :
    OneLine (operand module opcode target) := by
  have hindex : ∀ index : Nat, OneLine (" " ++ toString index) := fun index =>
    (unbroken_append (by decide) (unbroken_toString index)).oneLine
  cases target with
  | const value =>
    refine Unbroken.oneLine (unbroken_append (unbroken_append (by decide) (unbroken_type _)) ?_)
    split
    · decide
    · exact unbroken_append (by decide) (unbroken_value value)
  | localVar index => exact hindex _
  | argument index => exact hindex _
  | localAddress index => exact hindex _
  | argumentAddress index => exact hindex _
  | resource index =>
    unfold operand
    dsimp only
    split
    · exact (unbroken_append (by decide) (unbroken_quoted _)).oneLine
    · exact (unbroken_append (by decide) (unbroken_toString _)).oneLine
  | routine id => exact OneLine.append (by decide) (oneLine_definitionName hnames id)

/-- An instruction is written on one line. -/
theorem oneLine_instruction (routine : Routine) (current : Instruction) :
    OneLine (instruction module routine current) := by
  refine OneLine.append (unbroken_opcode _).oneLine ?_
  cases current with
  | simple opcode => exact (by decide : OneLine "")
  | typed opcode type => exact (unbroken_append (by decide) (unbroken_type type)).oneLine
  | convert opcode source target =>
    exact (unbroken_append (unbroken_append (unbroken_append (by decide) (unbroken_type source))
      (by decide)) (unbroken_type target)).oneLine
  | conditional opcode comparison type =>
    exact (unbroken_append (unbroken_append (unbroken_append (by decide)
      (unbroken_comparison comparison)) (by decide)) (unbroken_type type)).oneLine
  | branch opcode label =>
    dsimp only
    split
    · exact (unbroken_append (by decide) (unbroken_toString _)).oneLine
    · exact (unbroken_append (unbroken_append (by decide) (unbroken_toString _))
        (by decide)).oneLine
  | stack opcode target =>
    exact OneLine.append (unbroken_append (by decide) (unbroken_kind _)).oneLine
      (oneLine_operand hnames opcode target)
  | call opcode mode target =>
    refine OneLine.append (by cases mode <;> decide) ?_
    cases target with
    | definition id => exact OneLine.append (by decide) (oneLine_definitionName hnames id)
    | indirect signature =>
      exact (unbroken_append (by decide) (unbroken_signature signature)).oneLine

/-- Code is written line by line. -/
theorem oneLine_code (routine : Routine) (position : Nat) (guarded : Bool)
    (instructions : List Instruction) :
    ∀ line ∈ (code module routine position guarded instructions).flatten, OneLine line := by
  have hlabel : ∀ position, ∀ line ∈ labelLine routine position, OneLine line := by
    intro position line hline
    unfold labelLine at hline
    split at hline
    · rw [List.mem_singleton.mp hline]
      exact (unbroken_append (unbroken_append (by decide) (unbroken_toString _))
        (by decide)).oneLine
    · cases hline
  induction instructions generalizing position guarded with
  | nil =>
    rw [code, List.flatten_singleton]
    exact hlabel position
  | cons current instructions ih =>
    rw [code, List.flatten_cons, List.forall_mem_append, List.forall_mem_append,
      List.forall_mem_singleton]
    refine ⟨⟨hlabel position, ?_⟩, ih _ _⟩
    refine OneLine.append (OneLine.append (by decide) ?_) (oneLine_instruction hnames _ _)
    split <;> decide

/-- A routine of the module is written line by line. -/
theorem oneLine_routine {body : Routine} (hroutine : .routine body ∈ module.definitions) :
    ∀ line ∈ routine module body, OneLine line := by
  obtain ⟨before, after, hbefore, hafter, hheading⟩ := exists_heading_eq
    (show Unbroken "routine" by decide) body.returnType body.name body.parameters
  have hlocals : ∀ line ∈ body.locals.toList.map (fun type => indent ++ "local." ++ type.mnemonic),
      OneLine line := by
    intro line hline
    obtain ⟨type, -, rfl⟩ := List.mem_map.mp hline
    exact (unbroken_append (unbroken_append (by decide) (by decide)) (unbroken_type type)).oneLine
  have hcode := oneLine_code hnames body 0 false body.code.toList
  unfold routine
  simp only [List.forall_mem_append, List.forall_mem_cons, hheading]
  exact ⟨⟨⟨⟨(hbefore.oneLine.append (hnames _ hroutine)).append hafter.oneLine, by decide, nofun⟩,
    hlocals⟩, hcode⟩, by decide, nofun⟩

end Names

/-! ## Blocks -/

/-- The text of a routine in a listing. -/
def block (module : Module) (body : Routine) : String :=
  String.join ((routine module body).map (· ++ "\n"))

/-- The text of a routine is a part of the listing that starts on a line of its own. -/
theorem exists_module_eq {module : Module} {body : Routine}
    (hroutine : .routine body ∈ module.definitions) :
    ∃ before after, Listing.module module = before ++ "\n" ++ block module body ++ after := by
  obtain ⟨front, back, hdefinitions⟩ := List.append_of_mem hroutine
  refine ⟨String.join ((("module " ++ module.name) :: front.flatMap (definition module)).map
    (· ++ "\n")), String.join ((back.flatMap (definition module)).map (· ++ "\n")), ?_⟩
  unfold Listing.module lines block
  rw [hdefinitions, List.flatMap_append, List.flatMap_cons, definition]
  simp only [List.map_cons, List.map_append, List.cons_append, String.join_cons,
    String.join_append, String.append_assoc, String.empty_append]

/-- The lines of the text are those that were written. -/
theorem lines_block {module : Module}
    (hnames : ∀ definition ∈ module.definitions, OneLine definition.name) {body : Routine}
    (hroutine : .routine body ∈ module.definitions) :
    Text.lines (block module body) = routine module body :=
  lines_join (oneLine_routine hnames hroutine)

end Listing

end StackCode
