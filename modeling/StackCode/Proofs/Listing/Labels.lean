import StackCode.Proofs.Listing.Lines
import StackCode.Proofs.Verify.Accepted
import StackCode.Samples

/-!
# Labels of a listing

A jump is listed with the position that it goes to, and a line of its own marks this position.
The two are written apart from each other, the jump from the table of labels and the line from
a search of this table at every position.  They agree: each position that labels stand for is
marked once, directly before its instruction, and each jump to an existing label shows such a
position.

Main definitions:

- `Listing.IsTarget`: the positions that labels stand for.
- `Listing.lineOf`: the line of an instruction.
- `Listing.linesBefore`: what a routine is listed with before the label of a position.
- `Listing.LabelsPlaced`: how labels and jumps stand in a block.

Main results:

- Theorem `Listing.routine_eq`: the lines of a routine, cut open at a position.
- Theorem `Listing.length_marked`: the number of lines before an instruction.
- Theorem `Listing.count_marked`: the marks that a position has got so far.
- Theorem `Listing.labels_placed`: labels and jumps of the listing of a module.
-/

namespace StackCode.Listing

/-! ## Positions and their lines -/

/-- Whether a label of a routine stands for a position. -/
def IsTarget (body : Routine) (position : Nat) : Prop :=
  ∃ target ∈ body.labels, target.toNat = position

theorem any_labels_iff (body : Routine) (position : Nat) :
    (body.labels.any fun target => target.toNat == position) = true ↔ IsTarget body position := by
  simp only [Array.any_eq_true', beq_iff_eq, IsTarget]

instance (body : Routine) : DecidablePred (IsTarget body) := fun position =>
  decidable_of_iff _ (any_labels_iff body position)

/-- The mark of a position. -/
def labelText (position : Nat) : String := "inst" ++ toString position ++ ":"

/-- The line of an instruction in its block, counted from zero.  Before it stand the heading and
the brace, the local variables, the earlier instructions and the marks up to its own. -/
def lineOf (body : Routine) (position : Nat) : Nat :=
  2 + body.locals.size + position + (List.range (position + 1)).countP (IsTarget body ·)

/-- Whether the instruction before a position guards the one there. -/
def isGuarded (body : Routine) : Nat → Bool
  | 0 => false
  | position + 1 => body.code[position]?.any isGuard

/-- The space before an instruction. -/
def indentation (body : Routine) (position : Nat) : String :=
  indent ++ if isGuarded body position then indent else ""

/-- The lines of a routine before the mark of a position. -/
def linesBefore (module : Module) (body : Routine) : Nat → List String
  | 0 =>
    [heading "routine" body.returnType body.name body.parameters, "\x7b"] ++
      body.locals.toList.map (fun type => indent ++ "local." ++ type.mnemonic)
  | position + 1 =>
    linesBefore module body position ++ labelLine body position ++
      (body.code[position]?.map fun current =>
        indentation body position ++ instruction module body current).toList

section Block

variable {module : Module} {body : Routine} {position : Nat}

theorem labelLine_eq (body : Routine) (position : Nat) :
    labelLine body position = if IsTarget body position then [labelText position] else [] := by
  simp only [labelLine, any_labels_iff, labelText]

/-- A label that exists stands for its target. -/
theorem isTarget_of_target? {label : Label} {target : Nat}
    (htarget : body.target? label = some target) : IsTarget body target := by
  obtain ⟨found, hfound, rfl⟩ := Option.map_eq_some_iff.mp htarget
  exact ⟨found, Array.mem_of_getElem? hfound, rfl⟩

/-- The code from a position on is listed behind the lines before it. -/
theorem code_drop {current : Instruction} (hcode : body.code[position]? = some current) :
    code module body position (isGuarded body position) (body.code.toList.drop position) =
      (labelLine body position ++ [indentation body position ++ instruction module body current]) ::
        code module body (position + 1) (isGuarded body (position + 1))
          (body.code.toList.drop (position + 1)) := by
  obtain ⟨hposition, rfl⟩ := Array.getElem?_eq_some_iff.mp hcode
  have hguard : isGuarded body (position + 1) = isGuard body.code[position] := by
    rw [isGuarded, hcode, Option.any_some]
  rw [List.drop_eq_getElem_cons (by rwa [Array.length_toList]), code, hguard, Array.getElem_toList,
    indentation]

/-- The lines of a routine, cut open before the mark of a position. -/
theorem routine_eq (hposition : position ≤ body.code.size) :
    routine module body = linesBefore module body position ++
      (code module body position (isGuarded body position)
        (body.code.toList.drop position)).flatten ++ ["\x7d"] := by
  -- One instruction at a time moves from the code that is left to the lines before it.
  induction position with
  | zero => rfl
  | succ position ih =>
    have hcode := Array.getElem?_eq_getElem (show position < body.code.size by omega)
    rw [ih (by omega), code_drop hcode, linesBefore, hcode]
    simp only [List.flatten_cons, List.append_assoc, Option.map_some, Option.toList_some]

/-- The lines of a routine, cut open at an instruction. -/
theorem routine_eq_instruction (module : Module) {current : Instruction}
    (hcode : body.code[position]? = some current) :
    ∃ rest, routine module body = linesBefore module body position ++ labelLine body position ++
      (indentation body position ++ instruction module body current) :: rest := by
  obtain ⟨hposition, -⟩ := Array.getElem?_eq_some_iff.mp hcode
  rw [routine_eq hposition.le, code_drop hcode, List.flatten_cons]
  simp only [List.append_assoc, List.cons_append, List.nil_append]
  exact ⟨_, rfl⟩

/-- The lines of a routine, cut open before its closing brace. -/
theorem routine_eq_closing : routine module body =
    linesBefore module body body.code.size ++ labelLine body body.code.size ++ ["\x7d"] := by
  rw [routine_eq le_rfl, List.drop_of_length_le (by rw [Array.length_toList]), code,
    List.flatten_singleton]

/-! ## Counting lines -/

/-- The next instruction comes a line later, and another one if its position is marked. -/
theorem lineOf_succ (body : Routine) (position : Nat) :
    lineOf body (position + 1) =
      lineOf body position + 1 + (labelLine body (position + 1)).length := by
  rw [lineOf, lineOf, List.range_succ, List.countP_append, List.countP_singleton, labelLine_eq]
  simp only [decide_eq_true_eq]
  split <;> simp only [List.length_singleton, List.length_nil] <;> omega

/-- An instruction stands behind the lines before it and its mark. -/
theorem length_marked (module : Module) (hposition : position ≤ body.code.size) :
    (linesBefore module body position ++ labelLine body position).length =
      lineOf body position := by
  induction position with
  | zero =>
    rw [List.length_append, labelLine_eq, lineOf, List.range_one, List.countP_singleton]
    simp only [linesBefore, List.length_append, List.length_map, Array.length_toList,
      List.length_cons, List.length_nil, decide_eq_true_eq]
    split <;> rfl
  | succ position ih =>
    have hcode := Array.getElem?_eq_getElem (show position < body.code.size by omega)
    rw [List.length_append, linesBefore, List.length_append, ih (by omega), hcode, lineOf_succ]
    rfl

theorem labelText_inj {other : Nat} :
    labelText position = labelText other ↔ position = other := by
  refine ⟨fun hsame => ?_, congrArg labelText⟩
  have hnumber : toString position = toString other :=
    (String.append_right_inj "inst").mp ((String.append_left_inj ":").mp hsame)
  -- Reading the digits back gives the number.
  have hdigits := congrArg (fun text : String => Nat.ofDigitChars 10 text.toList 0) hnumber
  simpa only [Nat.toString_eq_repr, Nat.toList_repr, Nat.ofDigitChars_toDigits (b := 10)
    (by decide) le_rfl] using hdigits

/-- Marks start with a letter that no other line of a block starts with. -/
theorem ne_labelText {text : String} (hfirst : text.toList.head? ≠ some 'i') :
    text ≠ labelText position := by
  rintro rfl
  apply hfirst
  unfold labelText
  rw [String.toList_append, String.toList_append]
  rfl

theorem indented_ne_labelText (text : String) : indent ++ text ≠ labelText position := by
  apply ne_labelText
  rw [String.toList_append]
  simp [indent]

/-- The mark of a position is written only there. -/
theorem count_labelLine (body : Routine) (position place : Nat) :
    (labelLine body place).count (labelText position) =
      if IsTarget body position ∧ position = place then 1 else 0 := by
  rw [labelLine_eq]
  by_cases htarget : IsTarget body place
  · rw [if_pos htarget, List.count_singleton]
    refine if_congr ((beq_iff_eq.trans labelText_inj).trans ?_) rfl rfl
    exact ⟨fun hsame => ⟨hsame ▸ htarget, hsame.symm⟩, fun hmarked => hmarked.2.symm⟩
  · rw [if_neg htarget, List.count_nil, if_neg]
    rintro ⟨hmarked, rfl⟩
    exact htarget hmarked

/-- Each position up to the one reached has been marked once if a label stands for it. -/
theorem count_marked (module : Module) (body : Routine) (position place : Nat) :
    (linesBefore module body place ++ labelLine body place).count (labelText position) =
      if IsTarget body position ∧ position ≤ place then 1 else 0 := by
  rw [List.count_append, count_labelLine]
  induction place with
  | zero =>
    have hfront : (linesBefore module body 0).count (labelText position) = 0 := by
      rw [List.count_eq_zero, linesBefore, List.mem_append, not_or]
      constructor
      · rw [List.mem_cons, List.mem_singleton, not_or]
        refine ⟨(ne_labelText ?_).symm, (ne_labelText (by decide)).symm⟩
        simp [heading, String.toList_append]
      · intro hlocal
        obtain ⟨type, -, htype⟩ := List.mem_map.mp hlocal
        rw [String.append_assoc] at htype
        exact indented_ne_labelText _ htype
    simp only [hfront, Nat.zero_add, Nat.le_zero_eq]
  | succ place ih =>
    -- Only the mark of the new position can add to the count.
    have hinstruction : ((body.code[place]?.map fun current =>
        indentation body place ++ instruction module body current).toList).count
          (labelText position) = 0 := by
      rw [List.count_eq_zero]
      intro hline
      obtain ⟨current, -, hcurrent⟩ := Option.map_eq_some_iff.mp (Option.mem_toList.mp hline)
      rw [indentation, String.append_assoc] at hcurrent
      exact indented_ne_labelText _ hcurrent
    rw [linesBefore, List.count_append, List.count_append, count_labelLine, ih, hinstruction]
    by_cases htarget : IsTarget body position
    · simp only [htarget, true_and]
      split_ifs <;> omega
    · simp only [htarget, false_and, if_false]

/-- A position in the code or at its end is marked exactly once if a label stands for it, and
no other position is. -/
theorem count_routine (module : Module) (body : Routine) (position : Nat) :
    (routine module body).count (labelText position) =
      if IsTarget body position ∧ position ≤ body.code.size then 1 else 0 := by
  have hbrace : ["\x7d"].count (labelText position) = 0 :=
    List.count_eq_zero.mpr fun hline =>
      ne_labelText (by decide) (List.mem_singleton.mp hline).symm
  rw [routine_eq_closing, List.count_append, count_marked, hbrace, Nat.add_zero]

/-! ## Placement -/

/-- What stands behind the lines before a position and its mark. -/
theorem getElem?_lineOf (hposition : position ≤ body.code.size) {lines rest : List String}
    {line : String} (hlines : lines = linesBefore module body position ++
      labelLine body position ++ line :: rest) : lines[lineOf body position]? = some line := by
  have hmarked := length_marked module hposition
  rw [hlines, List.getElem?_append_right hmarked.le, hmarked, Nat.sub_self,
    List.getElem?_cons_zero]

/-- A position that a label stands for has its mark on the line before its own. -/
theorem getElem?_mark (hposition : position ≤ body.code.size) (htarget : IsTarget body position)
    {lines rest : List String} (hlines : lines = linesBefore module body position ++
      labelLine body position ++ rest) :
    lines[lineOf body position - 1]? = some (labelText position) := by
  have hmarked := length_marked module hposition
  rw [labelLine_eq, if_pos htarget] at hlines hmarked
  rw [List.length_append, List.length_singleton] at hmarked
  rw [hlines, ← hmarked, Nat.add_sub_cancel, List.append_assoc,
    List.getElem?_append_right le_rfl, Nat.sub_self]
  rfl

end Block

/-- How labels and jumps stand in the lines of a routine. -/
structure LabelsPlaced (module : Module) (body : Routine) (lines : List String) : Prop where
  /-- Each instruction is on its line. -/
  instruction : ∀ position current, body.code[position]? = some current →
    lines[lineOf body position]? =
      some (indentation body position ++ Listing.instruction module body current)
  /-- A brace comes where the next instruction would, and ends the lines. -/
  closing : lines[lineOf body body.code.size]? = some "\x7d" ∧
    lines.length = lineOf body body.code.size + 1
  /-- Directly before its instruction or the brace, a position is marked. -/
  mark : ∀ position ≤ body.code.size, IsTarget body position →
    lines[lineOf body position - 1]? = some (labelText position)
  /-- However many labels stand for a position, it has one mark. -/
  count_mark : ∀ position, lines.count (labelText position) =
    if IsTarget body position ∧ position ≤ body.code.size then 1 else 0
  /-- A jump shows the position of its label, which is one that labels stand for. -/
  jump : ∀ position label target, body.code[position]? = some (.branch .jump label) →
    body.target? label = some target → IsTarget body target ∧
      lines[lineOf body position]? =
        some (indentation body position ++ "jump inst" ++ toString target)

/-- A jump to an existing label is listed with the position of the label. -/
theorem instruction_jump (module : Module) {body : Routine} {label : Label} {target : Nat}
    (htarget : body.target? label = some target) :
    instruction module body (.branch .jump label) = "jump inst" ++ toString target := by
  simp only [instruction, htarget, ← String.append_assoc]
  rfl

/-- Labels and jumps are placed like this in the lines that are written. -/
theorem labelsPlaced_routine (module : Module) (body : Routine) :
    LabelsPlaced module body (routine module body) := by
  have hinstruction : ∀ position current, body.code[position]? = some current →
      (routine module body)[lineOf body position]? =
        some (indentation body position ++ instruction module body current) := by
    intro position current hcode
    obtain ⟨hposition, -⟩ := Array.getElem?_eq_some_iff.mp hcode
    obtain ⟨rest, hlines⟩ := routine_eq_instruction module hcode
    exact getElem?_lineOf hposition.le hlines
  refine ⟨hinstruction, ⟨getElem?_lineOf le_rfl routine_eq_closing, ?_⟩, ?_,
    count_routine module body, ?_⟩
  · rw [routine_eq_closing, List.length_append, length_marked module le_rfl, List.length_singleton]
  · intro position hposition htarget
    rcases hposition.lt_or_eq with hinside | rfl
    · obtain ⟨rest, hlines⟩ := routine_eq_instruction module
        (Array.getElem?_eq_getElem hinside)
      exact getElem?_mark hposition htarget hlines
    · exact getElem?_mark hposition htarget routine_eq_closing
  · intro position label target hcode htarget
    refine ⟨isTarget_of_target? htarget, ?_⟩
    rw [hinstruction position _ hcode, instruction_jump module htarget, String.append_assoc]

/-- In a listing whose names have no newlines, the block of a routine has the mark of a position
exactly once if a label stands for it and it is not past the end, directly before the line of
the instruction there, and each jump to an existing label shows the position of the label.  When
the module is accepted, each jump has exactly one mark to go to in its own block. -/
theorem labels_placed {module : Module}
    (hnames : ∀ definition ∈ module.definitions, OneLine definition.name) {body : Routine}
    (hroutine : .routine body ∈ module.definitions) :
    (∃ before after, Listing.module module = before ++ "\n" ++ block module body ++ after) ∧
      LabelsPlaced module body (Text.lines (block module body)) ∧
      ((Verify.verify module).isValid = true → ∀ position label,
        body.code[position]? = some (.branch .jump label) → ∃ target,
          body.target? label = some target ∧
          (Text.lines (block module body))[lineOf body position]? =
            some (indentation body position ++ "jump inst" ++ toString target) ∧
          (Text.lines (block module body)).count (labelText target) = 1) := by
  have hplaced := labelsPlaced_routine module body
  rw [lines_block hnames hroutine]
  refine ⟨exists_module_eq hroutine, hplaced, fun hvalid position label hcode => ?_⟩
  obtain ⟨target, htarget, hinside⟩ := Verify.exists_target hvalid hroutine hcode rfl
  obtain ⟨hmarked, hjump⟩ := hplaced.jump position label target hcode htarget
  refine ⟨target, htarget, hjump, ?_⟩
  rw [hplaced.count_mark, if_pos ⟨hmarked, hinside.le⟩]

/-- Repeats its start, where two labels stand, until a guarded jump leaves. -/
def repeating : Routine :=
  { Routine.empty 0 entryName with
    labels := #[0, 5, 0]
    code := #[Samples.pushInt 1, Samples.pushInt 2, .guard .lessThan .i32, .jump 1, .jump 2,
      Samples.ret] }

/-- A module with this routine alone. -/
def repeatingOnly : Module := ⟨"repeating", [.routine repeating], .empty⟩

/-- The guarded jump is on the seventh line and goes to the only mark of its position. -/
theorem labels_placed_repeatingOnly :
    (∀ definition ∈ repeatingOnly.definitions, OneLine definition.name) ∧
      .routine repeating ∈ repeatingOnly.definitions ∧
      (Verify.verify repeatingOnly).isValid = true ∧
      LabelsPlaced repeatingOnly repeating (Text.lines (block repeatingOnly repeating)) ∧
      (Text.lines (block repeatingOnly repeating))[6]? = some "        jump inst5" ∧
      (Text.lines (block repeatingOnly repeating)).count "inst5:" = 1 := by
  have hnames : ∀ definition ∈ repeatingOnly.definitions, OneLine definition.name := by decide
  have hroutine : .routine repeating ∈ repeatingOnly.definitions := List.mem_singleton_self _
  have hvalid : (Verify.verify repeatingOnly).isValid = true := by decide +kernel
  obtain ⟨-, hplaced, haccepted⟩ := labels_placed hnames hroutine
  obtain ⟨target, htarget, hjump, hcount⟩ := haccepted hvalid 3 1 rfl
  obtain rfl : 5 = target := Option.some.inj htarget
  have hline : lineOf repeating 3 = 6 := by decide +kernel
  have hguarded : indentation repeating 3 ++ "jump inst" ++ toString 5 = "        jump inst5" := by
    decide
  rw [hline, hguarded] at hjump
  exact ⟨hnames, hroutine, hvalid, hplaced, hjump, hcount⟩

/-- Labels at the end are marked before the brace, and labels past the end are not. -/
example : routine ⟨"", [], .empty⟩
    { Routine.empty 0 entryName with labels := #[1, 1, 7], code := #[Samples.ret] } =
      ["routine main", "\x7b", "    return", "inst1:", "\x7d"] := by
  decide +kernel

end StackCode.Listing
