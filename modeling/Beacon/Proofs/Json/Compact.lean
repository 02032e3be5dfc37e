import Beacon.Proofs.Json.Struct

/-!
# The written form of records

The compact form of a record, as a grammar beside the writer: the members in their order, with one
comma between two of them and no blanks, and strings in which nothing but the quote, the backslash
and the controls below the space is escaped. What is written in this form is one line.
-/

namespace Beacon.Json

/-! ## Characters -/

/-- The controls that have an escape of their own, with its letter. -/
def shortEscapes : List (Char × Char) :=
  [('\x08', 'b'), ('\x0C', 'f'), ('\n', 'n'), ('\r', 'r'), ('\t', 't')]

/-- How a character stands in a string. -/
inductive StandsFor : List Char → Char → Prop where
  | itself {char : Char} (hquote : char ≠ '"') (hbackslash : char ≠ '\\')
      (hvisible : 0x20 ≤ char.toNat) : StandsFor [char] char
  | quote : StandsFor ['\\', '"'] '"'
  | backslash : StandsFor ['\\', '\\'] '\\'
  | letter {char mark : Char} (hshort : (char, mark) ∈ shortEscapes) :
      StandsFor ['\\', mark] char
  /-- A control without an escape of its own stands by its number, in two lower-case digits. -/
  | number {char : Char} (hcontrol : char.toNat < 0x20)
      (hlong : ∀ mark, (char, mark) ∉ shortEscapes) :
      StandsFor ['\\', 'u', '0', '0', Nat.digitChar (char.toNat / 16),
        Nat.digitChar (char.toNat % 16)] char

/-- Each character is written in its form. -/
theorem standsFor_escapeChar (char : Char) : StandsFor (escapeChar char) char := by
  have hletter : ∀ {mark : Char} {n : Nat}, char.toNat = n →
      (Char.ofNat n, mark) ∈ shortEscapes → StandsFor ['\\', mark] char := by
    intro mark n hchar hmem
    apply StandsFor.letter
    rwa [← Char.ofNat_toNat char, hchar]
  unfold escapeChar
  split_ifs with hquote hbackslash hback hform hline hreturn htab hcontrol
  · rw [hquote]
    exact .quote
  · rw [hbackslash]
    exact .backslash
  · exact hletter hback (by decide)
  · exact hletter hform (by decide)
  · exact hletter (congrArg Char.toNat hline) (by decide)
  · exact hletter (congrArg Char.toNat hreturn) (by decide)
  · exact hletter (congrArg Char.toNat htab) (by decide)
  · apply StandsFor.number hcontrol
    intro mark hmem
    simp only [shortEscapes, List.mem_cons, Prod.mk.injEq, List.not_mem_nil, or_false] at hmem
    rcases hmem with ⟨rfl, -⟩ | ⟨rfl, -⟩ | ⟨rfl, -⟩ | ⟨rfl, -⟩ | ⟨rfl, -⟩
    · exact hback rfl
    · exact hform rfl
    · exact hline rfl
    · exact hreturn rfl
    · exact htab rfl
  · exact .itself hquote hbackslash (Nat.not_lt.mp hcontrol)

/-- No control is left in what stands for a character. -/
theorem StandsFor.visible {written : List Char} {char : Char} (h : StandsFor written char) :
    ∀ c ∈ written, 0x20 ≤ c.toNat := by
  cases h with
  | itself _ _ hvisible =>
      intro c hmem
      rwa [List.mem_singleton.mp hmem]
  | quote => decide
  | backslash => decide
  | @letter _ mark hshort =>
      have hmarks : ∀ pair ∈ shortEscapes, 0x20 ≤ pair.2.toNat := by decide
      intro c hmem
      simp only [List.mem_cons, List.not_mem_nil, or_false] at hmem
      rcases hmem with rfl | rfl
      · decide
      · exact hmarks _ hshort
  | number hcontrol _ =>
      have hdigits : ∀ n : Fin 16, 0x20 ≤ (Nat.digitChar n).toNat := by decide
      have hhigh := hdigits ⟨char.toNat / 16, by omega⟩
      have hlow := hdigits ⟨char.toNat % 16, by omega⟩
      intro c hmem
      simp only [List.mem_cons, List.not_mem_nil, or_false] at hmem
      rcases hmem with rfl | rfl | rfl | rfl | rfl | rfl
      · decide
      · decide
      · decide
      · decide
      · exact hhigh
      · exact hlow

/-! ## Strings -/

/-- A text, character by character in its form. -/
inductive Spells : List Char → List Char → Prop where
  | nil : Spells [] []
  | cons {piece written text : List Char} {char : Char} (hchar : StandsFor piece char)
      (hrest : Spells written text) : Spells (piece ++ written) (char :: text)

theorem spells_flatMap (text : List Char) : Spells (text.flatMap escapeChar) text := by
  induction text with
  | nil => exact .nil
  | cons char text ih =>
      rw [List.flatMap_cons]
      exact .cons (standsFor_escapeChar char) ih

theorem Spells.visible {written text : List Char} (h : Spells written text) :
    ∀ c ∈ written, 0x20 ≤ c.toNat := by
  induction h with
  | nil => exact fun c hmem => absurd hmem List.not_mem_nil
  | cons hchar _ ih =>
      intro c hmem
      rcases List.mem_append.mp hmem with hmem | hmem
      · exact hchar.visible c hmem
      · exact ih c hmem

/-! ## Records -/

/-- A member: its name and its value, each between quotes, and a colon between them. -/
inductive IsMember : List Char → String × String → Prop where
  | intro {field value : List Char} {member : String × String}
      (hfield : Spells field member.1.toList) (hvalue : Spells value member.2.toList) :
      IsMember (['"'] ++ field ++ ['"', ':', '"'] ++ value ++ ['"']) member

/-- Members in their order, with a comma between two of them. -/
inductive AreMembers : List Char → List (String × String) → Prop where
  | nil : AreMembers [] []
  | single {piece : List Char} {member : String × String} (hmember : IsMember piece member) :
      AreMembers piece [member]
  | cons {piece written : List Char} {member next : String × String}
      {later : List (String × String)} (hmember : IsMember piece member)
      (hlater : AreMembers written (next :: later)) :
      AreMembers (piece ++ [','] ++ written) (member :: next :: later)

/-- The compact form of a record: its members between braces. -/
inductive IsCompact : List Char → List (String × String) → Prop where
  | intro {written : List Char} {members : List (String × String)}
      (hmembers : AreMembers written members) :
      IsCompact (['\x7b'] ++ written ++ ['\x7d']) members

theorem isMember_writeMember (field value : String) :
    IsMember (Shape.writeMember field value) (field, value) := by
  have hwritten : Shape.writeMember field value =
      ['"'] ++ field.toList.flatMap escapeChar ++ ['"', ':', '"'] ++
        value.toList.flatMap escapeChar ++ ['"'] := by
    simp only [Shape.writeMember, writeString, List.append_assoc, List.cons_append,
      List.nil_append]
  rw [hwritten]
  exact .intro (spells_flatMap _) (spells_flatMap _)

theorem areMembers_writeMembers (members : List (String × String)) :
    AreMembers (Shape.writeMembers members) members := by
  induction members with
  | nil => exact .nil
  | cons member later ih =>
      obtain ⟨field, value⟩ := member
      cases later with
      | nil => exact .single (isMember_writeMember field value)
      | cons next rest => exact .cons (isMember_writeMember field value) ih

/-- A record is written in its compact form. -/
theorem isCompact_write (shape : Shape) (values : List String) :
    IsCompact (shape.write values) (shape.fields.zip values) :=
  .intro (areMembers_writeMembers _)

theorem IsMember.visible {written : List Char} {member : String × String}
    (h : IsMember written member) : ∀ c ∈ written, 0x20 ≤ c.toNat := by
  cases h with
  | intro hfield hvalue =>
      have hmarks : ∀ c ∈ ['"', ':', '"'], 0x20 ≤ c.toNat := by decide
      intro c hmem
      simp only [List.mem_append] at hmem
      rcases hmem with (((hmem | hmem) | hmem) | hmem) | hmem
      · exact hmarks c (List.mem_cons_of_mem _ (List.mem_cons_of_mem _ hmem))
      · exact hfield.visible c hmem
      · exact hmarks c hmem
      · exact hvalue.visible c hmem
      · exact hmarks c (List.mem_cons_of_mem _ (List.mem_cons_of_mem _ hmem))

theorem AreMembers.visible {written : List Char} {members : List (String × String)}
    (h : AreMembers written members) : ∀ c ∈ written, 0x20 ≤ c.toNat := by
  induction h with
  | nil => exact fun c hmem => absurd hmem List.not_mem_nil
  | single hmember => exact hmember.visible
  | cons hmember _ ih =>
      intro c hmem
      simp only [List.mem_append, List.mem_singleton] at hmem
      rcases hmem with (hmem | rfl) | hmem
      · exact hmember.visible c hmem
      · decide
      · exact ih c hmem

/-- The compact form of a record holds no control, so it is one line. -/
theorem IsCompact.visible {written : List Char} {members : List (String × String)}
    (h : IsCompact written members) : ∀ c ∈ written, 0x20 ≤ c.toNat := by
  cases h with
  | intro hmembers =>
      intro c hmem
      simp only [List.mem_append, List.mem_singleton] at hmem
      rcases hmem with (rfl | hmem) | rfl
      · decide
      · exact hmembers.visible c hmem
      · decide

theorem IsCompact.le_of_mem_encode {written : List Char} {members : List (String × String)}
    (h : IsCompact written members) {octet : UInt8} (hmem : octet ∈ Utf8.encode written) :
    0x20 ≤ octet.toNat := by
  obtain ⟨char, hchar, hoctet⟩ := List.mem_flatMap.mp hmem
  exact Utf8.le_of_mem_utf8EncodeChar (h.visible char hchar) hoctet

end Beacon.Json
