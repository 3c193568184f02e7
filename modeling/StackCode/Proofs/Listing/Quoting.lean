import Mathlib.Data.List.Induction
import StackCode.Listing

/-!
# Quoted text in listings

A reader that takes the character after a backslash as an escape gets back what was quoted,
and stops at the closing delimiter whatever follows it.  So two quoted texts never begin in the
same way unless they are the same.  Characters that would break a line are all escaped, hence
a quoted resource or library stays on the line of its listing.

Main definitions:

- `Text.readQuoted?`: reading up to the closing delimiter.
- `Text.Escapes`: characters after which the next one is escaped.
- `Text.lineBreaking`: the characters that never stand in quoted text.
- `Listing.Unbroken`: texts without such characters.

Main results:

- Theorem `Text.readQuoted?_append`: reading undoes quoting and leaves what follows.
- Theorems `Text.escapes_before_quote`, `Text.not_escapes_flatMap`: which quotes are escaped.
- Theorem `Text.lineBreaking_not_mem_quoted`: quoted text has no line-breaking characters.
- Theorems `Listing.unbroken_resource`, `Listing.mem_external_iff`: the lines with quoted text.
- Theorem `Listing.quoted_unambiguous`: quoted text and the listing lines around it.
-/

namespace StackCode

namespace Text

/-! ## Reading -/

/-- The character that an escape stands for, given by its letter. -/
def unescape? (letter : Char) : Option Char :=
  if letter = '"' then some '"'
  else if letter = '\\' then some '\\'
  else if letter = 't' then some '\t'
  else if letter = 'n' then some '\n'
  else if letter = 'r' then some '\r'
  else if letter = '0' then some '\x00'
  else none

/-- Reads a quoted text behind its opening delimiter, and returns what follows the closing
one. -/
def readQuoted? : List Char → Option (List Char × List Char)
  | [] => none
  | '"' :: rest => some ([], rest)
  | '\\' :: letter :: rest => do
    let c ← unescape? letter
    let (text, left) ← readQuoted? rest
    return (c :: text, left)
  | c :: rest => do
    let (text, left) ← readQuoted? rest
    return (c :: text, left)

/-- The characters that never stand in quoted text. -/
def lineBreaking : List Char := ['\t', '\n', '\r', '\x00']

/-- A character is written with an escape, or as it is when it needs none. -/
theorem quotedChar_cases (c : Char) :
    (∃ letter ∉ lineBreaking, unescape? letter = some c ∧ quotedChar c = ['\\', letter]) ∨
      c ≠ '"' ∧ c ≠ '\\' ∧ c ∉ lineBreaking ∧ quotedChar c = [c] := by
  unfold quotedChar
  split_ifs with hquote hbackslash htab hline hreturn hnull
  · exact .inl ⟨'"', by decide, by rw [hquote]; rfl, rfl⟩
  · exact .inl ⟨'\\', by decide, by rw [hbackslash]; rfl, rfl⟩
  · exact .inl ⟨'t', by decide, by rw [htab]; rfl, rfl⟩
  · exact .inl ⟨'n', by decide, by rw [hline]; rfl, rfl⟩
  · exact .inl ⟨'r', by decide, by rw [hreturn]; rfl, rfl⟩
  · exact .inl ⟨'0', by decide, by rw [hnull]; rfl, rfl⟩
  · exact .inr ⟨hquote, hbackslash, by simp [lineBreaking, htab, hline, hreturn, hnull], rfl⟩

/-- A character is read back from what was written for it. -/
theorem readQuoted?_quotedChar_append (c : Char) (rest : List Char) :
    readQuoted? (quotedChar c ++ rest) =
      (readQuoted? rest).map fun (text, left) => (c :: text, left) := by
  rcases quotedChar_cases c with ⟨letter, -, hletter, hwritten⟩ | ⟨hquote, hbackslash, -, hwritten⟩
  · rw [hwritten, List.cons_append, List.singleton_append, readQuoted?, hletter]
    cases readQuoted? rest <;> rfl
  · rw [hwritten, List.singleton_append, readQuoted?]
    · cases readQuoted? rest <;> rfl
    · exact hquote
    · exact fun _ _ h => absurd h hbackslash

/-- Reading undoes quoting and leaves what follows. -/
theorem readQuoted?_append (text rest : List Char) :
    readQuoted? (text.flatMap quotedChar ++ '"' :: rest) = some (text, rest) := by
  induction text with
  | nil => rw [List.flatMap_nil, List.nil_append, readQuoted?]
  | cons c text ih =>
    rw [List.flatMap_cons, List.append_assoc, readQuoted?_quotedChar_append, ih, Option.map_some]

theorem toList_quoted (text : String) :
    (quoted text).toList = '"' :: (text.toList.flatMap quotedChar ++ ['"']) := by
  rw [quoted, String.toList_ofList, quotedChars]

/-- Quoted texts begin in the same way only when they are the same. -/
theorem quoted_append_inj {text other front rest : String}
    (hsame : quoted text ++ front = quoted other ++ rest) : text = other ∧ front = rest := by
  have hchars := congrArg String.toList hsame
  simp only [String.toList_append, toList_quoted, List.cons_append, List.append_assoc,
    List.nil_append, List.cons.injEq, true_and] at hchars
  have hread := congrArg readQuoted? hchars
  rw [readQuoted?_append, readQuoted?_append, Option.some.injEq, Prod.mk.injEq] at hread
  exact ⟨String.toList_inj.mp hread.1, String.toList_inj.mp hread.2⟩

/-! ## Escaped characters -/

/-- Number of backslashes at the end. -/
def trailingBackslashes (chars : List Char) : Nat :=
  (chars.reverse.takeWhile (· = '\\')).length

/-- The character that comes next is escaped, because the backslashes before it pair up but
for one. -/
def Escapes (chars : List Char) : Prop := trailingBackslashes chars % 2 = 1

theorem trailingBackslashes_concat (chars : List Char) (c : Char) :
    trailingBackslashes (chars ++ [c]) =
      if c = '\\' then trailingBackslashes chars + 1 else 0 := by
  unfold trailingBackslashes
  rw [List.reverse_append, List.reverse_singleton, List.singleton_append, List.takeWhile_cons]
  by_cases hc : c = '\\'
  · simp [hc]
  · simp [hc]

/-- In what was written for a text the backslashes at the end pair up. -/
theorem not_escapes_flatMap (text : List Char) : ¬ Escapes (text.flatMap quotedChar) := by
  unfold Escapes
  induction text using List.reverseRecOn with
  | nil => decide
  | append_singleton text c ih =>
    rw [List.flatMap_append, List.flatMap_singleton]
    rcases quotedChar_cases c with ⟨letter, -, -, hwritten⟩ | ⟨-, hbackslash, -, hwritten⟩
    · rw [hwritten, List.append_cons, trailingBackslashes_concat, trailingBackslashes_concat,
        if_pos rfl]
      split <;> omega
    · rw [hwritten, trailingBackslashes_concat, if_neg hbackslash]
      decide

/-- A quote in what was written for a character comes behind its backslash. -/
theorem front_eq_of_quotedChar_eq {c : Char} {front rest : List Char}
    (hsplit : quotedChar c = front ++ '"' :: rest) : front = ['\\'] := by
  rcases quotedChar_cases c with ⟨letter, -, -, hwritten⟩ | ⟨hquote, -, -, hwritten⟩
  · rw [hwritten] at hsplit
    match front with
    | [] => cases hsplit
    | [_] =>
      cases hsplit
      rfl
    | _ :: _ :: _ => simp at hsplit
  · rw [hwritten] at hsplit
    cases front with
    | nil =>
      cases hsplit
      exact absurd rfl hquote
    | cons _ _ => simp at hsplit

/-- Every quote in what was written for a text is escaped. -/
theorem escapes_before_quote {text front rest : List Char}
    (hsplit : text.flatMap quotedChar = front ++ '"' :: rest) : Escapes front := by
  induction text using List.reverseRecOn generalizing rest with
  | nil => simp at hsplit
  | append_singleton text c ih =>
    rw [List.flatMap_append, List.flatMap_singleton] at hsplit
    -- the quote stands in what was written for the last character or before that
    obtain ⟨behind, rfl, hlast⟩ | ⟨behind, hbefore, hlast⟩ := List.append_eq_append_iff.mp hsplit
    · have heven := not_escapes_flatMap text
      rw [front_eq_of_quotedChar_eq hlast]
      unfold Escapes at heven ⊢
      rw [trailingBackslashes_concat, if_pos rfl]
      omega
    · cases behind with
      | nil =>
        have hstart : quotedChar c = [] ++ '"' :: rest := hlast.symm
        cases front_eq_of_quotedChar_eq hstart
      | cons first behind =>
        cases hlast
        exact ih hbefore

/-- Quoted text has no line-breaking characters. -/
theorem lineBreaking_not_mem_quoted (text : String) {c : Char} (hc : c ∈ lineBreaking) :
    c ∉ (quoted text).toList := by
  have hquote : c ≠ '"' := by
    rintro rfl
    exact absurd hc (by decide)
  have hbackslash : c ≠ '\\' := by
    rintro rfl
    exact absurd hc (by decide)
  have hwritten : ∀ other ∈ text.toList, c ∉ quotedChar other := by
    intro other _
    rcases quotedChar_cases other with ⟨letter, hletter, -, hwritten⟩ | ⟨-, -, hother, hwritten⟩
    · have hne : c ≠ letter := fun hsame => hletter (hsame ▸ hc)
      simp [hwritten, hbackslash, hne]
    · have hne : c ≠ other := fun hsame => hother (hsame ▸ hc)
      simp [hwritten, hne]
  rw [toList_quoted]
  simp only [List.mem_cons, List.mem_append, List.mem_flatMap, List.not_mem_nil, or_false,
    hquote, false_or, not_exists, not_and]
  exact hwritten

end Text

/-! ## Listing lines -/

namespace Listing

open Text

/-- A text without line-breaking characters. -/
def Unbroken (text : String) : Prop := ∀ c ∈ lineBreaking, c ∉ text.toList

instance (text : String) : Decidable (Unbroken text) :=
  List.decidableBAll (fun c => c ∉ text.toList) lineBreaking

theorem unbroken_append {text other : String} (htext : Unbroken text) (hother : Unbroken other) :
    Unbroken (text ++ other) := by
  intro c hc
  rw [String.toList_append, List.mem_append, not_or]
  exact ⟨htext c hc, hother c hc⟩

theorem unbroken_quoted (text : String) : Unbroken (quoted text) :=
  fun _ hc => lineBreaking_not_mem_quoted text hc

theorem unbroken_toString (n : Nat) : Unbroken (toString n) := by
  have hnodigit : ∀ c ∈ lineBreaking, ¬ c.isDigit := by simp [lineBreaking]
  intro c hc hmem
  rw [Nat.toString_eq_repr, Nat.repr_eq_ofList_toDigits, String.toList_ofList] at hmem
  exact hnodigit c hc (Nat.isDigit_of_mem_toDigits (by decide) (by decide) hmem)

theorem unbroken_opcode (opcode : Opcode) : Unbroken opcode.mnemonic := by
  cases opcode <;> decide

theorem unbroken_type (type : DataType) : Unbroken type.mnemonic := by
  cases type <;> decide

theorem unbroken_convention (convention : Convention) : Unbroken convention.mnemonic := by
  cases convention <;> decide

theorem unbroken_intercalate {separator : String} (hseparator : Unbroken separator)
    {texts : List String} (htexts : ∀ text ∈ texts, Unbroken text) :
    Unbroken (separator.intercalate texts) := by
  induction texts with
  | nil =>
    rw [String.intercalate_nil]
    decide
  | cons text texts ih =>
    obtain ⟨htext, hrest⟩ := List.forall_mem_cons.mp htexts
    cases texts with
    | nil => rwa [String.intercalate_singleton]
    | cons next texts =>
      rw [String.intercalate_cons_cons]
      exact unbroken_append (unbroken_append htext hseparator) (ih hrest)

/-- A resource stays on the line of its instruction. -/
theorem unbroken_resource (module : Module) (routine : Routine) (opcode : Opcode)
    (index : ResourceIndex) :
    Unbroken (instruction module routine (.stack opcode (.resource index))) := by
  have hoperand : Unbroken (operand module opcode (.resource index)) := by
    unfold operand
    dsimp only
    split
    · exact unbroken_append (by decide) (unbroken_quoted _)
    · exact unbroken_append (by decide) (unbroken_toString _)
  have hkind : Unbroken ("." ++ OperandKind.resource.mnemonic) := by decide
  exact unbroken_append (unbroken_opcode opcode) (unbroken_append hkind hoperand)

/-- Types with commas between them have no line-breaking characters. -/
theorem unbroken_types (types : List DataType) :
    Unbroken (", ".intercalate (types.map DataType.mnemonic)) := by
  refine unbroken_intercalate (by decide) fun text htext => ?_
  obtain ⟨type, -, rfl⟩ := List.mem_map.mp htext
  exact unbroken_type type

/-- Around the name the first line of a definition has no line-breaking characters. -/
theorem exists_heading_eq {keyword : String} (hkeyword : Unbroken keyword)
    (returnType : DataType) (name : String) (parameters : List DataType) :
    ∃ before after, Unbroken before ∧ Unbroken after ∧
      heading keyword returnType name parameters = before ++ name ++ after := by
  have hreturn : Unbroken (if returnType = .void then "" else returnType.mnemonic ++ " ") := by
    split
    · decide
    · exact unbroken_append (unbroken_type returnType) (by decide)
  have hparameters : Unbroken (if parameters.isEmpty then ""
      else "(" ++ ", ".intercalate (parameters.map DataType.mnemonic) ++ ")") := by
    split
    · decide
    · exact unbroken_append (unbroken_append (by decide) (unbroken_types parameters)) (by decide)
  exact ⟨_, _, unbroken_append (unbroken_append hkeyword (by decide)) hreturn, hparameters, rfl⟩

/-- Around its name the line of an external function has no line-breaking characters. -/
theorem exists_external_eq (function : External) :
    ∃ before after, Unbroken before ∧ Unbroken after ∧
      external function = [before ++ function.name ++ after] := by
  obtain ⟨_, name, returnType, parameters, library, convention⟩ := function
  obtain ⟨before, after, hbefore, hafter, hheading⟩ :=
    exists_heading_eq (show Unbroken "extern" by decide) returnType name parameters
  have hlibrary : Unbroken (" from " ++ quoted library ++ " " ++ convention.mnemonic) :=
    unbroken_append (unbroken_append (unbroken_append (by decide) (unbroken_quoted library))
      (by decide)) (unbroken_convention convention)
  refine ⟨before, _, hbefore, unbroken_append hafter hlibrary, ?_⟩
  rw [external, hheading]
  simp only [String.append_assoc]

/-- The line of an external function is broken only by its name. -/
theorem mem_external_iff {function : External} {line : String} (hline : line ∈ external function)
    {c : Char} (hc : c ∈ lineBreaking) : c ∈ line.toList ↔ c ∈ function.name.toList := by
  obtain ⟨before, after, hbefore, hafter, hlines⟩ := exists_external_eq function
  rw [hlines, List.mem_singleton] at hline
  rw [hline, String.toList_append, String.toList_append, List.mem_append, List.mem_append]
  simp [hbefore c hc, hafter c hc]

/-- Quoted texts with something behind them are the same only when the texts are the same and
so is what stands behind them.  Between its delimiters a quoted text has no unescaped quote,
and it has no line-breaking character at all.  So a resource stays on the line of its
instruction, and the line of an external function is broken only by its name. -/
theorem quoted_unambiguous :
    (∀ text other front rest : String,
      quoted text ++ front = quoted other ++ rest ↔ text = other ∧ front = rest) ∧
    (∀ text : String, Unbroken (quoted text) ∧
      ∃ inner, (quoted text).toList = '"' :: (inner ++ ['"']) ∧ ¬ Escapes inner ∧
        ∀ front rest, inner = front ++ '"' :: rest → Escapes front) ∧
    (∀ (module : Module) (routine : Routine) (opcode : Opcode) (index : ResourceIndex),
      Unbroken (instruction module routine (.stack opcode (.resource index)))) ∧
    ∀ function : External, ∀ line ∈ external function, ∀ c ∈ lineBreaking,
      (c ∈ line.toList ↔ c ∈ function.name.toList) := by
  refine ⟨fun text other front rest => ⟨quoted_append_inj, ?_⟩, fun text =>
    ⟨unbroken_quoted text, _, toList_quoted text, not_escapes_flatMap text.toList,
      fun _ _ => escapes_before_quote⟩, unbroken_resource,
    fun _ _ hline _ hc => mem_external_iff hline hc⟩
  rintro ⟨rfl, rfl⟩
  rfl

/-- A backslash before an `n` and a newline are quoted differently, and the quote behind a
backslash in the text comes behind three of them. -/
theorem quoted_unambiguous_backslashes :
    quoted "\\n" ++ "" ≠ quoted "\n" ++ "" ∧ quoted "\\\"" = "\"\\\\\\\"\"" ∧
      Escapes ['\\', '\\', '\\'] := by
  obtain ⟨hinj, hinner, -, -⟩ := quoted_unambiguous
  refine ⟨fun hsame => absurd ((hinj _ _ _ _).mp hsame).1 (by decide), by decide, ?_⟩
  obtain ⟨-, inner, hquoted, -, hescaped⟩ := hinner "\\\""
  have hsplit : inner ++ ['"'] = ['\\', '\\', '\\', '"'] ++ ['"'] :=
    (List.cons.inj hquoted).2.symm
  exact hescaped _ [] (List.append_cancel_right hsplit)

end Listing

end StackCode
