import StackCode.Proofs.Format.Reading

/-!
# What readers accept

A layout relates bytes to what they stand for.  A reader recognizes a layout when it
accepts exactly the inputs that start with bytes of the layout: it takes these bytes
whatever follows them, and whatever it takes is laid out so.

Main definitions:

- `Reader.Recognizes`: the reader accepts a layout and nothing else.
- `Reader.Each`, `Reader.Counted`: the layout of a sequence of items, without and with
  their number in front.
- `Reader.Sectioned`: the layout of a section.

Main results:

- Theorem `Reader.Recognizes.bind`: readers in sequence.
- Theorems `Reader.word16_recognizes`, `Reader.word32_recognizes`,
  `Reader.word64_recognizes`, `Reader.tag_recognizes`: numbers and tags.
- Theorem `Reader.counted_recognizes`: counted sequences.
- Theorem `Reader.within_recognizes`: sections.
-/

namespace StackCode.Format

namespace Reader

variable {α β : Type}

/-! ## Recognition -/

/-- The reader accepts bytes of the layout in front of any input, and nothing else. -/
structure Recognizes (reader : Reader α) (layout : List UInt8 → α → Prop) : Prop where
  reads : ∀ {bytes : List UInt8} {result : α}, layout bytes result → Reads reader bytes result
  inverts : ∀ {input rest : Input} {result : α}, reader input = .ok (result, rest) →
    ∃ front, layout front result ∧ input.bytes = front ++ rest.bytes

section Recognizes

variable {reader : Reader α} {layout : List UInt8 → α → Prop}

/-- Layouts with the same bytes are recognized alike. -/
theorem Recognizes.congr {other : List UInt8 → α → Prop} (hreader : Recognizes reader layout)
    (hsame : ∀ bytes result, layout bytes result ↔ other bytes result) :
    Recognizes reader other := by
  constructor
  · exact fun hother => hreader.reads ((hsame _ _).mpr hother)
  · intro input rest result hresult
    obtain ⟨front, hfront, hinput⟩ := hreader.inverts hresult
    exact ⟨front, (hsame _ _).mp hfront, hinput⟩

theorem Recognizes.pure (result : α) :
    Recognizes (pure result) fun bytes found => bytes = [] ∧ found = result := by
  constructor
  · rintro bytes found ⟨rfl, rfl⟩
    exact Reads.pure found
  · intro input rest found hresult
    cases hresult
    exact ⟨[], ⟨rfl, rfl⟩, rfl⟩

/-- A reader that fails accepts nothing. -/
theorem Recognizes.fail (fault : DecodeError) :
    Recognizes (fail fault : Reader α) fun _ _ => False := by
  constructor
  · exact fun hfalse => hfalse.elim
  · intro input rest result hresult
    cases hresult

/-- What two readers in sequence give is given by the second one. -/
theorem exists_of_bind_eq_ok {next : α → Reader β} {input rest : Input} {result : β}
    (hresult : (reader >>= next) input = .ok (result, rest)) :
    ∃ item middle, reader input = .ok (item, middle) ∧ next item middle = .ok (result, rest) := by
  obtain ⟨⟨item, middle⟩, hfirst, hnext⟩ := Format.exists_of_bind_eq_ok hresult
  exact ⟨item, middle, hfirst, hnext⟩

/-- What the first of two readers takes is laid out, and the second one goes on after it. -/
theorem Recognizes.inverts_bind (hreader : Recognizes reader layout) {next : α → Reader β}
    {input rest : Input} {result : β} (hresult : (reader >>= next) input = .ok (result, rest)) :
    ∃ item front middle, layout front item ∧ input.bytes = front ++ middle.bytes ∧
      next item middle = .ok (result, rest) := by
  obtain ⟨item, middle, hfirst, hsecond⟩ := exists_of_bind_eq_ok hresult
  obtain ⟨front, hfront, hinput⟩ := hreader.inverts hfirst
  exact ⟨item, front, middle, hfront, hinput, hsecond⟩

/-- Readers in sequence accept the bytes of both layouts in sequence. -/
theorem Recognizes.bind {next : α → Reader β} {after : α → List UInt8 → β → Prop}
    (hreader : Recognizes reader layout) (hnext : ∀ item, Recognizes (next item) (after item)) :
    Recognizes (reader >>= next) fun bytes result =>
      ∃ front back item, bytes = front ++ back ∧ layout front item ∧ after item back result := by
  constructor
  · rintro bytes result ⟨front, back, item, rfl, hfront, hback⟩
    exact (hreader.reads hfront).bind ((hnext item).reads hback)
  · intro input rest result hresult
    obtain ⟨item, front, middle, hfront, hinput, hsecond⟩ := hreader.inverts_bind hresult
    obtain ⟨back, hback, hmiddle⟩ := (hnext item).inverts hsecond
    refine ⟨front ++ back, ⟨front, back, item, rfl, hfront, hback⟩, ?_⟩
    rw [hinput, hmiddle, List.append_assoc]

/-- An item that is laid out in one way only stands in front of what follows it. -/
theorem Recognizes.before {write : α → List UInt8} {next : α → Reader β}
    {after : α → List UInt8 → β → Prop}
    (hreader : Recognizes reader fun bytes item => bytes = write item)
    (hnext : ∀ item, Recognizes (next item) (after item)) :
    Recognizes (reader >>= next) fun bytes result =>
      ∃ item back, bytes = write item ++ back ∧ after item back result := by
  refine (hreader.bind hnext).congr fun bytes result => ?_
  constructor
  · rintro ⟨_, back, item, rfl, rfl, hback⟩
    exact ⟨item, back, rfl, hback⟩
  · rintro ⟨item, back, rfl, hback⟩
    exact ⟨_, back, item, rfl, rfl, hback⟩

/-- Three readers in sequence, of which the first two belong together. -/
theorem Recognizes.assoc {γ : Type} {middle : α → Reader β} {last : β → Reader γ}
    {layout : List UInt8 → γ → Prop} (hsequence : Recognizes (reader >>= middle >>= last) layout) :
    Recognizes (reader >>= fun item => middle item >>= last) layout := by
  rw [bind_assoc] at hsequence
  exact hsequence

/-- What is returned depends on the item that was read. -/
theorem Recognizes.map (hreader : Recognizes reader layout) (view : α → β) :
    Recognizes (reader >>= fun item => Pure.pure (view item)) fun bytes result =>
      ∃ item, layout bytes item ∧ result = view item := by
  refine (hreader.bind fun item => Recognizes.pure (view item)).congr fun bytes result => ?_
  constructor
  · rintro ⟨front, back, item, rfl, hfront, rfl, rfl⟩
    rw [List.append_nil]
    exact ⟨item, hfront, rfl⟩
  · rintro ⟨item, hitem, rfl⟩
    exact ⟨bytes, [], item, by simp, hitem, rfl, rfl⟩

/-- A reader that returns an outcome found without it, or fails, takes no bytes. -/
theorem Recognizes.ofExcept (outcome : Except DecodeError α)
    (hok : ∀ result, outcome = .ok result → reader = Pure.pure result)
    (herror : ∀ fault, outcome = .error fault → reader = Reader.fail fault) :
    Recognizes reader fun bytes result => bytes = [] ∧ outcome = .ok result := by
  cases outcome with
  | ok found =>
    rw [hok found rfl]
    refine (Recognizes.pure found).congr fun bytes result => ?_
    simp [eq_comm]
  | error fault =>
    rw [herror fault rfl]
    refine (Recognizes.fail fault).congr fun bytes result => ?_
    simp

/-- A choice accepts what the branch that is taken accepts. -/
theorem Recognizes.ite {condition : Prop} [Decidable condition] {other : Reader α}
    {otherwise : List UInt8 → α → Prop} (hreader : Recognizes reader layout)
    (hother : Recognizes other otherwise) :
    Recognizes (if condition then reader else other) fun bytes result =>
      condition ∧ layout bytes result ∨ ¬condition ∧ otherwise bytes result := by
  by_cases hcondition : condition
  · rw [if_pos hcondition]
    refine hreader.congr fun bytes result => ?_
    simp [hcondition]
  · rw [if_neg hcondition]
    refine hother.congr fun bytes result => ?_
    simp [hcondition]

end Recognizes

/-! ## Bytes and numbers -/

theorem byte_recognizes : Recognizes byte fun bytes first => bytes = [first] := by
  constructor
  · rintro bytes first rfl
    exact byte_reads first
  · rintro ⟨bytes, position⟩ rest first hresult
    cases bytes with
    | nil => cases hresult
    | cons byte bytes =>
      cases hresult
      exact ⟨[first], rfl, rfl⟩

theorem take_recognizes (count : Nat) :
    Recognizes (take count) fun bytes taken => bytes = taken ∧ taken.length = count := by
  constructor
  · rintro bytes taken ⟨rfl, hlength⟩
    exact take_reads hlength
  · rintro ⟨bytes, position⟩ rest taken hresult
    unfold take at hresult
    simp only at hresult
    split at hresult
    · rename_i hlength
      cases hresult
      exact ⟨_, ⟨rfl, hlength⟩, (List.take_append_drop count bytes).symm⟩
    · cases hresult

/-- A number in a fixed number of bytes. -/
theorem number_recognizes (length : Nat) :
    Recognizes (number length) fun bytes n =>
      bytes = LittleEndian.encode length n ∧ n < 256 ^ length := by
  refine ((take_recognizes length).map LittleEndian.decode).congr fun bytes n => ?_
  constructor
  · rintro ⟨taken, ⟨rfl, rfl⟩, rfl⟩
    exact ⟨(LittleEndian.encode_decode _).symm, LittleEndian.decode_lt _⟩
  · rintro ⟨rfl, hfits⟩
    refine ⟨_, ⟨rfl, LittleEndian.length_encode length n⟩, ?_⟩
    have hmod : n % Nat.pow 256 length = n := Nat.mod_eq_of_lt hfits
    rw [LittleEndian.decode_encode, hmod]

theorem word16_recognizes : Recognizes word16 fun bytes n => bytes = Format.word16 n := by
  refine ((number_recognizes 2).map Nat.toUInt16).congr fun bytes n => ?_
  constructor
  · rintro ⟨m, ⟨rfl, hfits⟩, rfl⟩
    have htoNat : m.toUInt16.toNat = m := by
      rw [Nat.toUInt16_eq, UInt16.toNat_ofNat']
      exact Nat.mod_eq_of_lt hfits
    rw [Format.word16, htoNat]
  · rintro rfl
    exact ⟨n.toNat, ⟨rfl, n.toNat_lt⟩, UInt16.ofNat_toNat.symm⟩

theorem word32_recognizes : Recognizes word32 fun bytes n => bytes = Format.word32 n := by
  refine ((number_recognizes 4).map Nat.toUInt32).congr fun bytes n => ?_
  constructor
  · rintro ⟨m, ⟨rfl, hfits⟩, rfl⟩
    have htoNat : m.toUInt32.toNat = m := by
      rw [Nat.toUInt32_eq, UInt32.toNat_ofNat']
      exact Nat.mod_eq_of_lt hfits
    rw [Format.word32, htoNat]
  · rintro rfl
    exact ⟨n.toNat, ⟨rfl, n.toNat_lt⟩, UInt32.ofNat_toNat.symm⟩

theorem word64_recognizes : Recognizes word64 fun bytes n => bytes = Format.word64 n := by
  refine ((number_recognizes 8).map Nat.toUInt64).congr fun bytes n => ?_
  constructor
  · rintro ⟨m, ⟨rfl, hfits⟩, rfl⟩
    have htoNat : m.toUInt64.toNat = m := by
      rw [Nat.toUInt64_eq, UInt64.toNat_ofNat']
      exact Nat.mod_eq_of_lt hfits
    rw [Format.word64, htoNat]
  · rintro rfl
    exact ⟨n.toNat, ⟨rfl, n.toNat_lt⟩, UInt64.ofNat_toNat.symm⟩

/-- The number that a byte stands for. -/
theorem count8_recognizes : Recognizes (do return (← byte).toNat) fun bytes n =>
    bytes = LittleEndian.encode 1 n ∧ n < 256 ^ 1 := by
  refine (byte_recognizes.map UInt8.toNat).congr fun bytes n => ?_
  constructor
  · rintro ⟨first, rfl, rfl⟩
    refine ⟨?_, first.toNat_lt⟩
    simp [LittleEndian.encode]
  · rintro ⟨rfl, hfits⟩
    have hmod : n % 256 = n := Nat.mod_eq_of_lt hfits
    refine ⟨n.toUInt8, ?_, (UInt8.toNat_ofNat_of_lt hfits).symm⟩
    rw [LittleEndian.encode, hmod, LittleEndian.encode]

/-- The number that two bytes stand for. -/
theorem count16_recognizes : Recognizes (do return (← word16).toNat) fun bytes n =>
    bytes = LittleEndian.encode 2 n ∧ n < 256 ^ 2 := by
  refine (word16_recognizes.map UInt16.toNat).congr fun bytes n => ?_
  constructor
  · rintro ⟨word, rfl, rfl⟩
    exact ⟨rfl, word.toNat_lt⟩
  · rintro ⟨rfl, hfits⟩
    have htoNat : n = n.toUInt16.toNat := (UInt16.toNat_ofNat_of_lt hfits).symm
    exact ⟨n.toUInt16, congrArg _ htoNat, htoNat⟩

/-- The number that four bytes stand for. -/
theorem count32_recognizes : Recognizes (do return (← word32).toNat) fun bytes n =>
    bytes = LittleEndian.encode 4 n ∧ n < 256 ^ 4 := by
  refine (word32_recognizes.map UInt32.toNat).congr fun bytes n => ?_
  constructor
  · rintro ⟨word, rfl, rfl⟩
    exact ⟨rfl, word.toNat_lt⟩
  · rintro ⟨rfl, hfits⟩
    have htoNat : n = n.toUInt32.toNat := (UInt32.toNat_ofNat_of_lt hfits).symm
    exact ⟨n.toUInt32, congrArg _ htoNat, htoNat⟩

/-- A tag that was read has a meaning when it is the tag of one. -/
theorem meaning_recognizes (kind : TagKind) {ofTag? : UInt8 → Option α} {tagOf : α → UInt8}
    (htags : ∀ {found : UInt8} {meaning : α}, ofTag? found = some meaning ↔ tagOf meaning = found)
    (found : UInt8) :
    Recognizes (match ofTag? found with
      | some meaning => Pure.pure meaning
      | none => Reader.fail (.unknownTag kind found) : Reader α)
      fun bytes meaning => bytes = [] ∧ found = tagOf meaning := by
  cases hmeaning : ofTag? found with
  | some meaning =>
    refine (Recognizes.pure meaning).congr fun bytes other => and_congr_right fun _ => ?_
    constructor
    · rintro rfl
      exact (htags.mp hmeaning).symm
    · intro hother
      rw [htags.mpr hother.symm] at hmeaning
      exact Option.some.inj hmeaning
  | none =>
    refine (Recognizes.fail _).congr fun bytes other => ?_
    constructor
    · exact False.elim
    · rintro ⟨-, hother⟩
      rw [htags.mpr hother.symm] at hmeaning
      cases hmeaning

/-- A tag is recognized when it stands for the one meaning that has it. -/
theorem tag_recognizes (kind : TagKind) {ofTag? : UInt8 → Option α} {tagOf : α → UInt8}
    (htags : ∀ {found : UInt8} {meaning : α}, ofTag? found = some meaning ↔ tagOf meaning = found) :
    Recognizes (tag kind ofTag?) fun bytes meaning => bytes = [tagOf meaning] := by
  refine (byte_recognizes.before (meaning_recognizes kind htags)).congr fun bytes meaning => ?_
  constructor
  · rintro ⟨_, _, rfl, rfl, rfl⟩
    rfl
  · rintro rfl
    exact ⟨_, [], rfl, rfl, rfl⟩

/-! ## Sequences -/

/-- The layout of items one after another. -/
inductive Each (layout : List UInt8 → α → Prop) : List UInt8 → List α → Prop
  | nil : Each layout [] []
  | cons {front back : List UInt8} {first : α} {items : List α} (hfirst : layout front first)
      (hitems : Each layout back items) : Each layout (front ++ back) (first :: items)

theorem manyAfter_recognizes {reader : Reader α} {layout : List UInt8 → α → Prop}
    (hreader : Recognizes reader layout) (reversed : List α) (count : Nat) :
    Recognizes (manyAfter reader reversed count) fun bytes result =>
      ∃ items, result = reversed.reverse ++ items ∧ items.length = count ∧
        Each layout bytes items := by
  induction count generalizing reversed with
  | zero =>
    refine (Recognizes.pure reversed.reverse).congr fun bytes result => ?_
    constructor
    · rintro ⟨rfl, rfl⟩
      exact ⟨[], by simp, rfl, .nil⟩
    · rintro ⟨items, rfl, hlength, heach⟩
      obtain rfl := List.length_eq_zero_iff.mp hlength
      cases heach
      exact ⟨rfl, by simp⟩
  | succ count ih =>
    refine (hreader.bind fun first => ih (first :: reversed)).congr fun bytes result => ?_
    constructor
    · rintro ⟨front, back, first, rfl, hfront, items, rfl, hlength, heach⟩
      exact ⟨first :: items, by simp, by simp [hlength], .cons hfront heach⟩
    · rintro ⟨items, rfl, hlength, heach⟩
      cases heach with
      | nil => simp at hlength
      | @cons front back first items hfirst hitems =>
        exact ⟨front, back, first, rfl, hfirst, items, by simp, by simpa using hlength, hitems⟩

theorem many_recognizes {reader : Reader α} {layout : List UInt8 → α → Prop}
    (hreader : Recognizes reader layout) (count : Nat) :
    Recognizes (many reader count) fun bytes items =>
      items.length = count ∧ Each layout bytes items := by
  refine (manyAfter_recognizes hreader [] count).congr fun bytes items => ?_
  simp

/-- The layout of a counted sequence: the number of items in `width` bytes, and the items. -/
inductive Counted (width : Nat) (layout : List UInt8 → α → Prop) : List UInt8 → List α → Prop
  | intro {contents : List UInt8} {items : List α} (hfits : items.length < 256 ^ width)
      (hitems : Each layout contents items) :
      Counted width layout (LittleEndian.encode width items.length ++ contents) items

section Counted

variable {count : Reader α} {toNat : α → Nat} {width : Nat} {reader : Reader β}
  {layout : List UInt8 → β → Prop}

/-- A number in front of a sequence is the number of its items. -/
theorem counted_recognizes
    (hcount : Recognizes (do return toNat (← count)) fun bytes n =>
      bytes = LittleEndian.encode width n ∧ n < 256 ^ width)
    (hreader : Recognizes reader layout) :
    Recognizes (do many reader (toNat (← count))) (Counted width layout) := by
  have hsequence := hcount.bind (many_recognizes hreader)
  simp only [bind_assoc, pure_bind] at hsequence
  refine hsequence.congr fun bytes items => ?_
  constructor
  · rintro ⟨_, contents, _, rfl, ⟨rfl, hfits⟩, rfl, hitems⟩
    exact .intro hfits hitems
  · rintro ⟨hfits, hitems⟩
    exact ⟨_, _, _, rfl, ⟨rfl, hfits⟩, rfl, hitems⟩

end Counted

/-! ## Sections -/

/-- The layout of a section: its tag, the number of its bytes and the bytes. -/
inductive Sectioned (tag : UInt8) (layout : List UInt8 → α → Prop) : List UInt8 → α → Prop
  | intro {contents : List UInt8} {result : α} (hfits : contents.length < 256 ^ 4)
      (hcontents : layout contents result) :
      Sectioned tag layout (tag :: (LittleEndian.encode 4 contents.length ++ contents)) result

/-- Bytes after their number. -/
theorem sized_recognizes : Recognizes (do take (← word32).toNat) fun bytes contents =>
    bytes = LittleEndian.encode 4 contents.length ++ contents ∧ contents.length < 256 ^ 4 := by
  have hsequence := count32_recognizes.bind take_recognizes
  simp only [bind_assoc, pure_bind] at hsequence
  refine hsequence.congr fun bytes contents => ?_
  constructor
  · rintro ⟨_, _, _, rfl, ⟨rfl, hfits⟩, rfl, rfl⟩
    exact ⟨rfl, hfits⟩
  · rintro ⟨rfl, hfits⟩
    exact ⟨_, _, _, rfl, ⟨rfl, hfits⟩, rfl, rfl⟩

theorem sectionBytes_recognizes (kind : Section) :
    Recognizes (sectionBytes kind) (Sectioned kind.tag fun bytes contents => bytes = contents) := by
  refine (byte_recognizes.before fun found =>
    Recognizes.ite sized_recognizes (.fail (.wrongSection kind found))).congr ?_
  intro bytes contents
  constructor
  · rintro ⟨_, _, rfl, ⟨rfl, rfl, hfits⟩ | ⟨-, hfalse⟩⟩
    · exact .intro hfits rfl
    · exact hfalse.elim
  · rintro ⟨hfits, rfl⟩
    exact ⟨kind.tag, _, rfl, .inl ⟨rfl, rfl, hfits⟩⟩

/-- What goes on after the end of an input has nothing left to read. -/
theorem of_finish_bind_eq_ok {after : String} {next : Unit → Reader α} {input rest : Input}
    {result : α} (hresult : (finish after >>= next) input = .ok (result, rest)) :
    input.bytes = [] ∧ next () input = .ok (result, rest) := by
  obtain ⟨_, middle, hfinish, hnext⟩ := exists_of_bind_eq_ok hresult
  unfold finish at hfinish
  split at hfinish
  · rename_i hempty
    cases hfinish
    exact ⟨List.isEmpty_iff.mp hempty, hnext⟩
  · cases hfinish

/-- A reader that must use up its input accepts bytes of the layout and nothing after them. -/
theorem Recognizes.exhausts {reader : Reader α} {layout : List UInt8 → α → Prop}
    (hreader : Recognizes reader layout) (after : String) (contents : List UInt8) (result : α) :
    (∃ rest, (do let result ← reader; finish after; return result : Reader α) ⟨contents, 0⟩ =
      .ok (result, rest)) ↔ layout contents result := by
  constructor
  · rintro ⟨rest, hresult⟩
    obtain ⟨item, front, middle, hfront, hcontents, hrest⟩ := hreader.inverts_bind hresult
    obtain ⟨hempty, hreturn⟩ := of_finish_bind_eq_ok hrest
    cases hreturn
    rw [hempty, List.append_nil] at hcontents
    rwa [show contents = front from hcontents]
  · intro hlayout
    refine ⟨⟨[], 0 + contents.length⟩, ?_⟩
    change Except.bind (reader ⟨contents, 0⟩) _ = _
    rw [(hreader.reads hlayout).all 0]
    rfl

/-- The contents of a section are accepted when a reader uses them up. -/
theorem contents_recognizes (kind : Section) {reader : Reader α}
    {layout : List UInt8 → α → Prop} (hreader : Recognizes reader layout)
    (contents : List UInt8) :
    Recognizes
      (match (do let result ← reader; finish kind.contents; return result : Reader α)
          ⟨contents, 0⟩ with
        | .ok (result, _) => Pure.pure result
        | .error fault => Reader.fail fault : Reader α)
      fun bytes result => bytes = [] ∧ layout contents result := by
  have hexhausts := hreader.exhausts kind.contents contents
  cases houtcome : (do let result ← reader; finish kind.contents; return result : Reader α)
      ⟨contents, 0⟩ with
  | ok outcome =>
    refine (Recognizes.pure outcome.1).congr fun bytes result => and_congr_right fun _ => ?_
    rw [← hexhausts result, houtcome]
    constructor
    · rintro rfl
      exact ⟨outcome.2, rfl⟩
    · rintro ⟨rest, hsame⟩
      cases hsame
      rfl
  | error fault =>
    refine (Recognizes.fail fault).congr fun bytes result => ?_
    rw [← hexhausts result, houtcome]
    simp

/-- A section is accepted when a reader of its contents uses them up. -/
theorem within_recognizes (kind : Section) {reader : Reader α} {layout : List UInt8 → α → Prop}
    (hreader : Recognizes reader layout) :
    Recognizes (within kind reader) (Sectioned kind.tag layout) := by
  refine ((sectionBytes_recognizes kind).bind (contents_recognizes kind hreader)).congr fun bytes result => ?_
  constructor
  · rintro ⟨front, back, contents, rfl, ⟨hfits, rfl⟩, rfl, hlayout⟩
    rw [List.append_nil]
    exact .intro hfits hlayout
  · rintro ⟨hfits, hlayout⟩
    exact ⟨_, [], _, (List.append_nil _).symm, .intro hfits rfl, rfl, hlayout⟩

end Reader

end StackCode.Format
