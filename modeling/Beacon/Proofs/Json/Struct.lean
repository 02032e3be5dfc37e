import Beacon.Json.Struct
import Beacon.Proofs.Json.Text

/-!
# Reading written records

A record that was written decodes to its values, if its fields have different names.
-/

namespace Beacon.Json

/-! ## Between tokens -/

theorem skipSpace_cons {octet : UInt8} (h : isSpace octet = false) (rest : Octets) :
    skipSpace (octet :: rest) = octet :: rest :=
  List.dropWhile_cons_of_neg (by simp [h])

theorem readColon_colon (rest : Octets) : readColon (colon :: rest) = .ok rest := by
  rw [readColon, skipSpace_cons (by decide)]
  exact if_pos rfl

namespace Shape

/-! ## Members -/

/-- The octets of a member that is written, after its opening quote. -/
def memberOctets (field value : String) : Octets :=
  closedOctets field.toList ++ colon :: quoteMark :: closedOctets value.toList

/-- The octets from the end of a member on: the members after it and the closing brace. -/
def membersTail : List (String × String) → Octets
  | [] => [closeObject]
  | (field, value) :: rest => comma :: quoteMark :: memberOctets field value ++ membersTail rest

theorem encode_writeMember (field value : String) :
    Utf8.encode (writeMember field value) = quoteMark :: memberOctets field value := by
  rw [writeMember, Utf8.encode_append, Utf8.encode_append, encode_writeString, encode_writeString,
    memberOctets, List.append_assoc]
  rfl

theorem encode_writeMembers (field value : String) (rest : List (String × String)) :
    Utf8.encode (writeMembers ((field, value) :: rest)) ++ [closeObject] =
      quoteMark :: memberOctets field value ++ membersTail rest := by
  induction rest generalizing field value with
  | nil => rw [writeMembers, encode_writeMember, membersTail]
  | cons next rest ih =>
      obtain ⟨field', value'⟩ := next
      have hwritten : writeMembers ((field, value) :: (field', value') :: rest) =
          writeMember field value ++ [','] ++ writeMembers ((field', value') :: rest) := rfl
      rw [hwritten, Utf8.encode_append, Utf8.encode_append, List.append_assoc, ih,
        encode_writeMember, membersTail, List.append_assoc]
      rfl

theorem length_le_membersTail (later : List (String × String)) :
    later.length < (membersTail later).length := by
  induction later with
  | nil => exact Nat.zero_lt_one
  | cons pair later ih =>
      obtain ⟨field, value⟩ := pair
      simp only [membersTail, List.length_append, List.length_cons]
      omega

theorem nextKey_first (rest : Octets) : nextKey true (quoteMark :: rest) = .ok (.key rest) := by
  rw [nextKey, skipSpace_cons (by decide)]
  rfl

theorem nextKey_comma (rest : Octets) :
    nextKey false (comma :: quoteMark :: rest) = .ok (.key rest) := by
  rw [nextKey, skipSpace_cons (by decide)]
  simp only [skipSpace_cons (show isSpace quoteMark = false by decide)]
  rfl

theorem nextKey_close (first : Bool) (rest : Octets) :
    nextKey first (closeObject :: rest) = .ok (.done rest) := by
  rw [nextKey, skipSpace_cons (by decide)]
  rfl

/-- A value that is written is read back. -/
theorem readField_written (value : String) (rest : Octets) :
    readField (quoteMark :: closedOctets value.toList ++ rest) = .ok (value, rest) := by
  rw [readField, List.cons_append, skipSpace_cons (by decide)]
  simp only [if_pos, readString_closedOctets, Except.map, String.ofList_toList]

/-- Reading a member of a field that was not found before. -/
theorem readMembers_member {shape : Shape} {fuel : Nat} {found : List (String × String)}
    {first : Bool} {octets rest : Octets} {field value : String}
    (hkey : nextKey first octets = .ok (.key (memberOctets field value ++ rest)))
    (hfield : field ∈ shape.fields) (hnew : field ∉ found.map (·.1)) :
    readMembers shape (fuel + 1) found first octets =
      readMembers shape fuel (found ++ [(field, value)]) false rest := by
  rw [memberOctets, List.append_assoc, List.cons_append] at hkey
  rw [readMembers, hkey]
  simp only [readString_closedOctets, String.ofList_toList, if_pos hfield, if_neg hnew,
    readColon_colon, Except.bind, readField_written]

/-- Reading all members that are left. -/
theorem readMembers_membersTail {shape : Shape} {fuel : Nat}
    {found later : List (String × String)} (rest : Octets)
    (hfields : ∀ pair ∈ later, pair.1 ∈ shape.fields)
    (hnodup : ((found ++ later).map (·.1)).Nodup) (hfuel : later.length < fuel) :
    readMembers shape fuel found false (membersTail later ++ rest) =
      .ok (found ++ later, rest) := by
  induction later generalizing found fuel with
  | nil =>
      obtain ⟨fuel, rfl⟩ := Nat.exists_eq_add_one_of_ne_zero (Nat.ne_of_gt hfuel)
      rw [readMembers, membersTail, List.singleton_append, nextKey_close, List.append_nil]
  | cons pair later ih =>
      obtain ⟨fuel, rfl⟩ :=
        Nat.exists_eq_add_one_of_ne_zero (Nat.ne_of_gt (Nat.zero_lt_of_lt hfuel))
      obtain ⟨field, value⟩ := pair
      have hnew : field ∉ found.map (·.1) := by
        rw [List.map_append, List.nodup_append] at hnodup
        intro hmem
        exact hnodup.2.2 field hmem field List.mem_cons_self rfl
      have hkey : nextKey false (membersTail ((field, value) :: later) ++ rest) =
          .ok (.key (memberOctets field value ++ (membersTail later ++ rest))) := by
        rw [membersTail, List.append_assoc]
        exact nextKey_comma _
      rw [readMembers_member hkey (hfields _ List.mem_cons_self) hnew,
        ih (fun pair hmem => hfields pair (List.mem_cons_of_mem _ hmem))
          (by rwa [List.append_assoc]) (by simpa using hfuel),
        List.append_assoc]
      rfl

/-! ## Collecting the values -/

/-- The values found under fields with different names are collected in the order of the fields. -/
theorem collect_zip (front : List (String × String)) {fields values : List String}
    (rest : Octets) (hnew : ∀ field ∈ fields, field ∉ front.map (·.1)) (hnodup : fields.Nodup)
    (hlength : values.length = fields.length) :
    collect (front ++ fields.zip values) rest fields = .ok values := by
  induction fields generalizing front values with
  | nil =>
      rw [List.length_nil, List.length_eq_zero_iff] at hlength
      rw [hlength, collect]
  | cons field fields ih =>
      obtain ⟨value, values, rfl⟩ := List.exists_cons_of_length_eq_add_one hlength
      rw [List.nodup_cons] at hnodup
      have hlookup : (front ++ (field, value) :: fields.zip values).lookup field = some value := by
        have hnone : front.lookup field = none := by
          rw [List.lookup_eq_none_iff]
          intro pair hmem
          rw [bne_iff_ne]
          rintro rfl
          exact hnew pair.1 List.mem_cons_self (List.mem_map_of_mem hmem)
        rw [List.lookup_append, hnone, List.lookup_cons_self]
        rfl
      have hlater : collect ((front ++ [(field, value)]) ++ fields.zip values) rest fields =
          .ok values := by
        refine ih _ (fun later hmem => ?_) hnodup.2 (by simpa using hlength)
        rw [List.map_append, List.mem_append, not_or]
        refine ⟨hnew later (List.mem_cons_of_mem _ hmem), fun hlater => ?_⟩
        rw [List.map_singleton, List.mem_singleton] at hlater
        subst hlater
        exact hnodup.1 hmem
      rw [List.append_assoc, List.singleton_append] at hlater
      rw [List.zip_cons_cons, collect, hlookup]
      simp only [hlater, Except.map]

/-! ## Whole records -/

/-- All members that were written are read back. -/
theorem readMembers_writeMembers (shape : Shape) {fuel : Nat} {pairs : List (String × String)}
    (hfields : ∀ pair ∈ pairs, pair.1 ∈ shape.fields) (hnodup : (pairs.map (·.1)).Nodup)
    (hfuel : pairs.length < fuel) :
    readMembers shape fuel [] true (Utf8.encode (writeMembers pairs) ++ [closeObject]) =
      .ok (pairs, []) := by
  obtain ⟨fuel, rfl⟩ := Nat.exists_eq_add_one_of_ne_zero (Nat.ne_of_gt (Nat.zero_lt_of_lt hfuel))
  cases pairs with
  | nil => rw [readMembers, writeMembers, Utf8.encode_nil, List.nil_append, nextKey_close]
  | cons pair later =>
      obtain ⟨field, value⟩ := pair
      rw [encode_writeMembers, List.cons_append,
        readMembers_member (nextKey_first _) (hfields _ List.mem_cons_self) (by simp),
        List.nil_append, ← List.append_nil (membersTail later),
        readMembers_membersTail [] (fun pair hmem => hfields pair (List.mem_cons_of_mem _ hmem))
          hnodup (by simpa using hfuel)]
      rfl

theorem encode_write (shape : Shape) (values : List String) :
    Utf8.encode (shape.write values) =
      openObject :: (Utf8.encode (writeMembers (shape.fields.zip values)) ++ [closeObject]) := by
  rw [write, Utf8.encode_append, Utf8.encode_append, List.append_assoc]
  rfl

theorem length_le_encode_writeMembers (pairs : List (String × String)) :
    pairs.length ≤ (Utf8.encode (writeMembers pairs) ++ [closeObject]).length := by
  cases pairs with
  | nil => exact Nat.zero_le _
  | cons pair later =>
      obtain ⟨field, value⟩ := pair
      have hlater := length_le_membersTail later
      rw [encode_writeMembers]
      simp only [List.cons_append, List.length_cons, List.length_append]
      omega

/-- A record that is written decodes to its values. -/
theorem decode_write {shape : Shape} {values : List String} (hnodup : shape.fields.Nodup)
    (hlength : values.length = shape.fields.length) :
    shape.decode (Utf8.encode (shape.write values)) = .ok values := by
  have hkeys : (shape.fields.zip values).map (·.1) = shape.fields :=
    List.map_fst_zip (Nat.le_of_eq hlength.symm)
  have hmembers := readMembers_writeMembers shape
    (fun pair hmem => hkeys ▸ List.mem_map_of_mem hmem) (hkeys.symm ▸ hnodup)
    (Nat.lt_succ_of_le (length_le_encode_writeMembers (shape.fields.zip values)))
  have hcollect : collect (shape.fields.zip values) [] shape.fields = .ok values :=
    collect_zip [] [] (by simp) hnodup hlength
  have hread : shape.read (Utf8.encode (shape.write values)) = .ok (values, []) := by
    rw [encode_write, read, skipSpace_cons (by decide)]
    simp only [if_neg (show openObject ≠ openList by decide), if_pos, hmembers, hcollect,
      Except.map]
  rw [decode, hread]
  rfl

end Shape

end Beacon.Json
