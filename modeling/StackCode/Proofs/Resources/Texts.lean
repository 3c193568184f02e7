import StackCode.Proofs.Format.Layout
import StackCode.Proofs.Resources.Additions

/-!
# Texts in resources

A string resource has a text exactly when its bytes are the encoding of that text.  For UTF-16
the two directions are separate functions, one that splits characters into units and units
into bytes and one that joins them again, so both are followed through the units.  No text is
lost in between: what has none are an odd number of bytes and a surrogate without its partner.

Main definitions:

- `Text.HasLoneSurrogate`: units with a surrogate that is not part of a pair.

Main results:

- Theorem `Text.pairUnits?_eq_some_iff`: bytes and units.
- Theorem `Text.ofUnits?_eq_some_iff`: units and characters.
- Theorem `Text.ofUtf16?_eq_some_iff`: strict decoding accepts encodings only.
- Theorem `Text.ofUnits?_eq_none_iff`, `Text.ofUtf16?_eq_none_iff`: what has no text.
- Theorem `ResourceTable.texts_exact`: the texts of resources.
-/

namespace StackCode

namespace Text

/-! ## Bytes and units -/

/-- A unit is joined from its bytes. -/
theorem joined_unitBytes {unit : Nat} (hunit : unit < 0x10000) :
    (unit % 256).toUInt8.toNat + 256 * (unit / 256).toUInt8.toNat = unit := by
  have hlow : (unit % 256).toUInt8.toNat = unit % 256 := by
    simp
  have hhigh : (unit / 256).toUInt8.toNat = unit / 256 := by
    simp
    omega
  rw [hlow, hhigh, Nat.mod_add_div]

/-- Two bytes are those of the unit that they are joined to. -/
theorem unitBytes_joined (low high : UInt8) :
    unitBytes (low.toNat + 256 * high.toNat) = [low, high] := by
  have hlow := low.toNat_lt
  have hmod : (low.toNat + 256 * high.toNat) % 256 = low.toNat := by omega
  have hdiv : (low.toNat + 256 * high.toNat) / 256 = high.toNat := by omega
  rw [unitBytes, hmod, hdiv]
  simp

/-- Bytes pair up into units exactly when they are the bytes of these units. -/
theorem pairUnits?_eq_some_iff {bytes : List UInt8} {us : List Nat} :
    pairUnits? bytes = some us ↔
      bytes = us.flatMap unitBytes ∧ ∀ unit ∈ us, unit < 0x10000 := by
  constructor
  · intro hpaired
    fun_induction pairUnits? bytes generalizing us with
    | case1 =>
      cases hpaired
      exact ⟨rfl, by simp⟩
    | case2 => cases hpaired
    | case3 low high rest ih =>
      obtain ⟨others, hothers, rfl⟩ := Option.map_eq_some_iff.mp hpaired
      obtain ⟨rfl, hbound⟩ := ih hothers
      refine ⟨?_, ?_⟩
      · rw [List.flatMap_cons, unitBytes_joined]
        rfl
      · have hlow := low.toNat_lt
        have hhigh := high.toNat_lt
        rw [List.forall_mem_cons]
        exact ⟨by omega, hbound⟩
  · rintro ⟨rfl, hbound⟩
    induction us with
    | nil => rfl
    | cons unit us ih =>
      obtain ⟨hunit, hrest⟩ := List.forall_mem_cons.mp hbound
      rw [List.flatMap_cons, unitBytes, List.cons_append, List.cons_append, List.nil_append,
        pairUnits?, ih hrest, Option.map_some, joined_unitBytes hunit]

/-- Only the last byte of an odd number is left over. -/
theorem pairUnits?_eq_none_iff {bytes : List UInt8} :
    pairUnits? bytes = none ↔ bytes.length % 2 = 1 := by
  fun_induction pairUnits? bytes with
  | case1 => simp
  | case2 => simp
  | case3 low high rest ih =>
    rw [Option.map_eq_none_iff, ih, List.length_cons, List.length_cons]
    omega

/-! ## Units and characters -/

/-- Whether a unit is one half of a surrogate pair. -/
def isSurrogate (unit : Nat) : Bool := isHighSurrogate unit || isLowSurrogate unit

theorem isHighSurrogate_iff {unit : Nat} :
    isHighSurrogate unit = true ↔ 0xD800 ≤ unit ∧ unit < 0xDC00 := by
  simp [isHighSurrogate]

theorem isLowSurrogate_iff {unit : Nat} :
    isLowSurrogate unit = true ↔ 0xDC00 ≤ unit ∧ unit < 0xE000 := by
  simp [isLowSurrogate]

theorem isSurrogate_iff {unit : Nat} :
    isSurrogate unit = true ↔ 0xD800 ≤ unit ∧ unit < 0xE000 := by
  rw [isSurrogate, Bool.or_eq_true, isHighSurrogate_iff, isLowSurrogate_iff]
  omega

/-- The code point of a character is no surrogate. -/
theorem isSurrogate_toNat (c : Char) : isSurrogate c.toNat = false := by
  have hvalid : c.toNat < 0xD800 ∨ 0xDFFF < c.toNat ∧ c.toNat < 0x110000 := c.valid
  rw [← Bool.not_eq_true, isSurrogate_iff]
  omega

/-- The character of a valid code point has this code point. -/
theorem toNat_ofNat_of_valid {code : Nat} (hvalid : code.isValidChar) :
    (Char.ofNat code).toNat = code := by
  unfold Char.ofNat
  rw [dif_pos hvalid]
  rfl

/-- A unit that is no surrogate is the only one of its character. -/
theorem units_ofNat {unit : Nat} (hunit : unit < 0x10000) (hsingle : isSurrogate unit = false) :
    units (Char.ofNat unit) = [unit] := by
  rw [← Bool.not_eq_true, isSurrogate_iff] at hsingle
  have hcode : (Char.ofNat unit).toNat = unit :=
    toNat_ofNat_of_valid (show unit < 0xD800 ∨ 0xDFFF < unit ∧ unit < 0x110000 by omega)
  rw [units, hcode, if_pos hunit]

/-- A surrogate pair is the two units of its character. -/
theorem units_ofNat_pair {high low : Nat} (hhigh : isHighSurrogate high = true)
    (hlow : isLowSurrogate low = true) :
    units (Char.ofNat (0x10000 + (high - 0xD800) * 0x400 + (low - 0xDC00))) = [high, low] := by
  rw [isHighSurrogate_iff] at hhigh
  rw [isLowSurrogate_iff] at hlow
  generalize hcode : 0x10000 + (high - 0xD800) * 0x400 + (low - 0xDC00) = code
  have hvalid : code < 0xD800 ∨ 0xDFFF < code ∧ code < 0x110000 := by omega
  have hfirst : 0xD800 + (code - 0x10000) / 0x400 = high := by omega
  have hsecond : 0xDC00 + (code - 0x10000) % 0x400 = low := by omega
  rw [units, toNat_ofNat_of_valid hvalid, if_neg (by omega), hfirst, hsecond]

/-- The units of a character fit into sixteen bits. -/
theorem lt_of_mem_units {c : Char} {unit : Nat} (hunit : unit ∈ units c) : unit < 0x10000 := by
  have hvalid : c.toNat < 0xD800 ∨ 0xDFFF < c.toNat ∧ c.toNat < 0x110000 := c.valid
  unfold units at hunit
  split at hunit
  · rw [List.mem_singleton] at hunit
    omega
  · simp only [List.mem_cons, List.not_mem_nil, or_false] at hunit
    omega

/-- A unit that is no surrogate is read on its own. -/
theorem ofUnits?_cons {unit : Nat} (hsingle : isSurrogate unit = false) (rest : List Nat) :
    ofUnits? (unit :: rest) = (ofUnits? rest).map (Char.ofNat unit :: ·) := by
  have hneither := Bool.or_eq_false_iff.mp hsingle
  cases rest with
  | nil => simp [ofUnits?, hneither]
  | cons next rest => simp [ofUnits?, hneither]

/-- A surrogate pair is read together. -/
theorem ofUnits?_pair {high low : Nat} (hhigh : isHighSurrogate high = true)
    (hlow : isLowSurrogate low = true) (rest : List Nat) :
    ofUnits? (high :: low :: rest) =
      (ofUnits? rest).map
        (Char.ofNat (0x10000 + (high - 0xD800) * 0x400 + (low - 0xDC00)) :: ·) := by
  rw [ofUnits?, if_pos hhigh, if_pos hlow]

/-- The units of a character are read as this character. -/
theorem ofUnits?_units_append (c : Char) (rest : List Nat) :
    ofUnits? (units c ++ rest) = (ofUnits? rest).map (c :: ·) := by
  have hvalid : c.toNat < 0xD800 ∨ 0xDFFF < c.toNat ∧ c.toNat < 0x110000 := c.valid
  unfold units
  split
  · rw [List.singleton_append, ofUnits?_cons (isSurrogate_toNat c), Char.ofNat_toNat]
  · have hhigh : isHighSurrogate (0xD800 + (c.toNat - 0x10000) / 0x400) = true := by
      rw [isHighSurrogate_iff]
      omega
    have hlow : isLowSurrogate (0xDC00 + (c.toNat - 0x10000) % 0x400) = true := by
      rw [isLowSurrogate_iff]
      omega
    have hcode : 0x10000 + (0xD800 + (c.toNat - 0x10000) / 0x400 - 0xD800) * 0x400 +
        (0xDC00 + (c.toNat - 0x10000) % 0x400 - 0xDC00) = c.toNat := by omega
    rw [List.cons_append, List.singleton_append, ofUnits?_pair hhigh hlow, hcode,
      Char.ofNat_toNat]

/-- Units are read as characters exactly when they are the units of these characters. -/
theorem ofUnits?_eq_some_iff {us : List Nat} (hbound : ∀ unit ∈ us, unit < 0x10000)
    {chars : List Char} : ofUnits? us = some chars ↔ us = chars.flatMap units := by
  constructor
  · intro hread
    fun_induction ofUnits? us generalizing chars with
    | case1 =>
      cases hread
      rfl
    | case2 => cases hread
    | case3 unit hsingle =>
      cases hread
      have hunits := units_ofNat (hbound unit (by simp)) (Bool.not_eq_true _ ▸ hsingle)
      rw [List.flatMap_singleton, hunits]
    | case4 high low rest hhigh hlow ih =>
      obtain ⟨others, hothers, rfl⟩ := Option.map_eq_some_iff.mp hread
      rw [List.flatMap_cons, units_ofNat_pair hhigh hlow,
        ← ih (fun unit hunit => hbound unit (by simp [hunit])) hothers]
      rfl
    | case5 => cases hread
    | case6 => cases hread
    | case7 unit next rest hhigh hlow ih =>
      obtain ⟨others, hothers, rfl⟩ := Option.map_eq_some_iff.mp hread
      have hsingle : isSurrogate unit = false := by
        rw [isSurrogate, Bool.or_eq_false_iff]
        exact ⟨Bool.not_eq_true _ ▸ hhigh, Bool.not_eq_true _ ▸ hlow⟩
      rw [List.flatMap_cons, units_ofNat (hbound unit (by simp)) hsingle,
        ← ih (fun unit hunit => hbound unit (List.mem_cons_of_mem _ hunit)) hothers]
      rfl
  · rintro rfl
    clear hbound
    induction chars with
    | nil => rfl
    | cons c chars ih => rw [List.flatMap_cons, ofUnits?_units_append, ih, Option.map_some]

/-! ## Units without a text -/

/-- A unit between others is a surrogate without its partner: a first one that no second one
follows, or a second one that follows no first one. -/
def IsLone (front : List Nat) (unit : Nat) (rest : List Nat) : Prop :=
  isHighSurrogate unit = true ∧ rest.head?.any isLowSurrogate = false ∨
    isLowSurrogate unit = true ∧ front.getLast?.any isHighSurrogate = false

/-- Some surrogate has no partner. -/
def HasLoneSurrogate (us : List Nat) : Prop :=
  ∃ front unit rest, us = front ++ unit :: rest ∧ IsLone front unit rest

/-- A unit that is no first surrogate has no part in what comes after it. -/
theorem hasLoneSurrogate_cons {unit : Nat} (hhigh : isHighSurrogate unit = false)
    (us : List Nat) :
    HasLoneSurrogate (unit :: us) ↔ isLowSurrogate unit = true ∨ HasLoneSurrogate us := by
  have hlast : ∀ front : List Nat, (unit :: front).getLast?.any isHighSurrogate =
      front.getLast?.any isHighSurrogate := by
    intro front
    rw [List.getLast?_cons]
    cases front.getLast? with
    | none => simp [hhigh]
    | some last => rfl
  constructor
  · rintro ⟨front, other, rest, hsplit, hlone⟩
    cases front with
    | nil =>
      cases hsplit
      exact .inl (by simpa [IsLone, hhigh] using hlone)
    | cons first front =>
      cases hsplit
      rw [IsLone, hlast] at hlone
      exact .inr ⟨front, other, rest, rfl, hlone⟩
  · rintro (hlow | ⟨front, other, rest, rfl, hlone⟩)
    · exact ⟨[], unit, us, rfl, .inr ⟨hlow, rfl⟩⟩
    · refine ⟨unit :: front, other, rest, rfl, ?_⟩
      rw [IsLone, hlast]
      exact hlone

/-- Both halves of a pair have their partner. -/
theorem hasLoneSurrogate_pair {high low : Nat} (hhigh : isHighSurrogate high = true)
    (hlow : isLowSurrogate low = true) (us : List Nat) :
    HasLoneSurrogate (high :: low :: us) ↔ HasLoneSurrogate us := by
  have hfirst : isLowSurrogate high = false := by
    rw [isHighSurrogate_iff] at hhigh
    rw [← Bool.not_eq_true, isLowSurrogate_iff]
    omega
  have hsecond : isHighSurrogate low = false := by
    rw [isLowSurrogate_iff] at hlow
    rw [← Bool.not_eq_true, isHighSurrogate_iff]
    omega
  have hlast : ∀ front : List Nat, (high :: low :: front).getLast?.any isHighSurrogate =
      front.getLast?.any isHighSurrogate := by
    intro front
    rw [List.getLast?_cons_cons, List.getLast?_cons]
    cases front.getLast? with
    | none => simp [hsecond]
    | some last => rfl
  constructor
  · rintro ⟨front, unit, rest, hsplit, hlone⟩
    match front with
    | [] =>
      cases hsplit
      simp [IsLone, hfirst, hlow] at hlone
    | [_] =>
      cases hsplit
      simp [IsLone, hsecond, hhigh] at hlone
    | _ :: _ :: front =>
      cases hsplit
      rw [IsLone, hlast] at hlone
      exact ⟨front, unit, rest, rfl, hlone⟩
  · rintro ⟨front, unit, rest, rfl, hlone⟩
    refine ⟨high :: low :: front, unit, rest, rfl, ?_⟩
    rw [IsLone, hlast]
    exact hlone

theorem not_hasLoneSurrogate_nil : ¬ HasLoneSurrogate [] := by
  rintro ⟨front, unit, rest, hsplit, -⟩
  simp at hsplit

/-- Units stand for no text exactly when a surrogate among them has no partner. -/
theorem ofUnits?_eq_none_iff {us : List Nat} : ofUnits? us = none ↔ HasLoneSurrogate us := by
  fun_induction ofUnits? us with
  | case1 => simp [not_hasLoneSurrogate_nil]
  | case2 unit hsurrogate =>
    refine iff_of_true rfl ⟨[], unit, [], rfl, ?_⟩
    rw [Bool.or_eq_true] at hsurrogate
    exact hsurrogate.imp (fun hhigh => ⟨hhigh, rfl⟩) fun hlow => ⟨hlow, rfl⟩
  | case3 unit hsingle =>
    obtain ⟨hhigh, hlow⟩ := Bool.or_eq_false_iff.mp (Bool.not_eq_true _ ▸ hsingle)
    rw [hasLoneSurrogate_cons hhigh]
    simp [hlow, not_hasLoneSurrogate_nil]
  | case4 high low rest hhigh hlow ih =>
    rw [Option.map_eq_none_iff, ih, hasLoneSurrogate_pair hhigh hlow]
  | case5 high next rest hhigh hnext =>
    refine iff_of_true rfl ⟨[], high, next :: rest, rfl, .inl ⟨hhigh, ?_⟩⟩
    simpa using hnext
  | case6 unit next rest hhigh hlow =>
    exact iff_of_true rfl ⟨[], unit, next :: rest, rfl, .inr ⟨hlow, rfl⟩⟩
  | case7 unit next rest hhigh hlow ih =>
    have hcons := hasLoneSurrogate_cons (Bool.not_eq_true _ ▸ hhigh) (next :: rest)
    rw [Option.map_eq_none_iff, ih, hcons]
    simp [hlow]

/-! ## Bytes and texts -/

/-- The encoding of a text has the bytes of the units of its characters. -/
theorem utf16_eq (text : String) :
    utf16 text = (text.toList.flatMap units).flatMap unitBytes :=
  List.flatMap_assoc.symm

/-- The units of characters fit into sixteen bits. -/
theorem forall_units_lt (chars : List Char) : ∀ unit ∈ chars.flatMap units, unit < 0x10000 := by
  intro unit hunit
  obtain ⟨c, -, hmem⟩ := List.mem_flatMap.mp hunit
  exact lt_of_mem_units hmem

/-- Strict decoding of UTF-16 accepts encodings only. -/
theorem ofUtf16?_eq_some_iff {bytes : List UInt8} {text : String} :
    ofUtf16? bytes = some text ↔ bytes = utf16 text := by
  unfold ofUtf16?
  constructor
  · intro hdecoded
    obtain ⟨chars, hchars, rfl⟩ := Option.map_eq_some_iff.mp hdecoded
    obtain ⟨us, hpaired, hread⟩ := Option.bind_eq_some_iff.mp hchars
    obtain ⟨rfl, hbound⟩ := pairUnits?_eq_some_iff.mp hpaired
    rw [(ofUnits?_eq_some_iff hbound).mp hread, utf16_eq, String.toList_ofList]
  · rintro rfl
    have hbound := forall_units_lt text.toList
    rw [pairUnits?_eq_some_iff.mpr ⟨utf16_eq text, hbound⟩, Option.bind_some,
      (ofUnits?_eq_some_iff hbound).mpr rfl, Option.map_some, String.ofList_toList]

/-- Bytes encode no text exactly when one is left over or a surrogate has no partner. -/
theorem ofUtf16?_eq_none_iff {bytes : List UInt8} :
    ofUtf16? bytes = none ↔ bytes.length % 2 = 1 ∨
      ∃ us : List Nat, (∀ unit ∈ us, unit < 0x10000) ∧ bytes = us.flatMap unitBytes ∧
        HasLoneSurrogate us := by
  unfold ofUtf16?
  rw [Option.map_eq_none_iff, ← pairUnits?_eq_none_iff]
  cases hpaired : pairUnits? bytes with
  | none => simp
  | some us =>
    have hunits := pairUnits?_eq_some_iff.mp hpaired
    rw [Option.bind_some, ofUnits?_eq_none_iff]
    constructor
    · intro hlone
      exact .inr ⟨us, hunits.2, hunits.1, hlone⟩
    · rintro (hodd | ⟨others, hbound, hbytes, hlone⟩)
      · cases hodd
      · have hsame := pairUnits?_eq_some_iff.mpr ⟨hbytes, hbound⟩
        rw [hpaired, Option.some.injEq] at hsame
        rwa [hsame]

end Text

/-! ## Resources -/

namespace ResourceTable

/-- The entry that is appended stands at the returned index as long as indices do not run
out. -/
theorem get?_appended (table : ResourceTable) (resource : Resource)
    (hroom : table.size < UInt32.size) :
    (⟨table.entries ++ [resource]⟩ : ResourceTable).get? table.size.toUInt32 = some resource := by
  have hplace : table.size.toUInt32.toNat = table.entries.length :=
    UInt32.toNat_ofNat_of_lt' hroom
  rw [get?, hplace, List.getElem?_concat_length]

/-- A text in UTF-16 whose bytes are new to a table is the text of the entry that is
appended. -/
theorem addUtf16_new {table : ResourceTable} {text : String}
    (hnew : ∀ entry ∈ table.entries, entry.bytes ≠ Text.utf16 text) :
    ∃ entry, (table.addUtf16 text).1.entries = table.entries ++ [entry] ∧
      entry.string? = some text ∧
        (table.size < UInt32.size →
          (table.addUtf16 text).1.get? (table.addUtf16 text).2 = some entry) := by
  have hadded : table.addUtf16 text =
      (⟨table.entries ++ [⟨.utf16, Text.utf16 text⟩]⟩, table.size.toUInt32) :=
    add_of_notMem (by simpa using hnew)
  refine ⟨⟨.utf16, Text.utf16 text⟩, ?_, Text.ofUtf16?_eq_some_iff.mpr rfl, fun hroom => ?_⟩
  · rw [hadded]
  · rw [hadded]
    exact get?_appended table _ hroom

/-- The text of a resource in UTF-16 or UTF-8 is the one that its bytes encode.  An odd number
of bytes and units with a lone surrogate, and nothing else, have no text in UTF-16.  So a text
in UTF-16 whose bytes are new to a table is the text of the entry that its addition appends,
and the index that is returned is the one of this entry as long as indices do not run out. -/
theorem texts_exact :
    (∀ bytes text, (⟨.utf16, bytes⟩ : Resource).string? = some text ↔
      bytes = Text.utf16 text) ∧
    (∀ bytes text, (⟨.utf8, bytes⟩ : Resource).string? = some text ↔ bytes = Text.utf8 text) ∧
    (∀ bytes, (⟨.utf16, bytes⟩ : Resource).string? = none ↔ bytes.length % 2 = 1 ∨
      ∃ us : List Nat, (∀ unit ∈ us, unit < 0x10000) ∧ bytes = us.flatMap Text.unitBytes ∧
        Text.HasLoneSurrogate us) ∧
    ∀ (table : ResourceTable) (text : String),
      (∀ entry ∈ table.entries, entry.bytes ≠ Text.utf16 text) →
        ∃ entry, (table.addUtf16 text).1.entries = table.entries ++ [entry] ∧
          entry.string? = some text ∧
            (table.size < UInt32.size →
              (table.addUtf16 text).1.get? (table.addUtf16 text).2 = some entry) :=
  ⟨fun _ _ => Text.ofUtf16?_eq_some_iff, fun _ _ => Text.ofUtf8?_eq_some_iff,
    fun _ => Text.ofUtf16?_eq_none_iff, fun _ _ => addUtf16_new⟩

/-- A character beyond the basic plane is a pair of surrogates, which has no text the other
way round. -/
theorem texts_exact_paired :
    (⟨.utf16, [104, 0, 61, 216, 0, 222]⟩ : Resource).string? = some "h😀" ∧
    (⟨.utf16, [0, 222, 61, 216]⟩ : Resource).string? = none ∧
    ∃ entry, (addUtf16 ⟨[⟨.utf8, [104]⟩]⟩ "h").1.get? 1 = some entry ∧
      entry.string? = some "h" := by
  obtain ⟨hutf16, -, hnone, hadded⟩ := texts_exact
  refine ⟨(hutf16 _ _).mpr (by decide), (hnone _).mpr (.inr ⟨[0xDE00, 0xD83D], ?_⟩), ?_⟩
  · exact ⟨by decide, by decide, [], 0xDE00, [0xD83D], rfl, .inr (by decide)⟩
  · obtain ⟨entry, -, htext, hindex⟩ := hadded ⟨[⟨.utf8, [104]⟩]⟩ "h" (by decide)
    exact ⟨entry, hindex (by decide), htext⟩

end ResourceTable

end StackCode
