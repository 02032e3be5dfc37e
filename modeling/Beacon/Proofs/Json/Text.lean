import Beacon.Json.Text
import Beacon.Proofs.Text.Utf8

/-!
# Reading written strings

A string that was written reads back as it was, whatever follows it. Reading is taken apart into
one equation for each thing that can stand in a string.
-/

namespace Beacon.Json

/-! ## Equations of reading -/

def prepend (front : Octets) (read : Octets × Octets) : Octets × Octets :=
  (front ++ read.1, read.2)

/-- The octets that stand for themselves in a string. -/
def IsPlain (octet : UInt8) : Prop :=
  octet ≠ quoteMark ∧ octet ≠ backslash ∧ ¬ octet < 0x20

theorem readOctets_quote (rest : Octets) : readOctets (quoteMark :: rest) = .ok ([], rest) := by
  rw [readOctets, if_pos rfl]

theorem readOctets_plain {octet : UInt8} (h : IsPlain octet) (rest : Octets) :
    readOctets (octet :: rest) = (readOctets rest).map (prepend [octet]) := by
  obtain ⟨hquote, hbackslash, hcontrol⟩ := h
  rw [readOctets, if_neg hquote, if_neg hbackslash, if_neg hcontrol]
  cases readOctets rest <;> rfl

theorem readOctets_escape {rest rest' : Octets} {char : Char}
    (h : readEscape rest = .ok (char, rest')) :
    readOctets (backslash :: rest) =
      (readOctets rest').map (prepend (String.utf8EncodeChar char)) := by
  rw [readOctets, if_neg (by decide), if_pos rfl]
  split
  next fault hread =>
    rw [h] at hread
    cases hread
  next found after hread =>
    rw [h] at hread
    cases hread
    cases readOctets rest' <;> rfl

theorem map_prepend_append (front later : Octets) (read : Reading Octets) :
    (read.map (prepend later)).map (prepend front) = read.map (prepend (front ++ later)) := by
  cases read with
  | error fault => rfl
  | ok pair => simp only [Except.map, prepend, List.append_assoc]

/-- Octets that stand for themselves are read as they are. -/
theorem readOctets_plain_append {front : Octets} (h : ∀ octet ∈ front, IsPlain octet)
    (rest : Octets) :
    readOctets (front ++ rest) = (readOctets rest).map (prepend front) := by
  induction front with
  | nil => cases hread : readOctets rest <;> simp [hread, Except.map, prepend]
  | cons octet front ih =>
      rw [List.cons_append, readOctets_plain (h octet List.mem_cons_self),
        ih fun octet hmem => h octet (List.mem_cons_of_mem _ hmem), map_prepend_append]
      rfl

/-! ## Escapes -/

theorem readEscape_named {letter : UInt8} {char : Char} (hletter : letter ≠ letterU)
    (h : namedEscape? letter = some char) (rest : Octets) :
    readEscape (letter :: rest) = .ok (char, rest) := by
  rw [readEscape, if_neg hletter, h]

theorem readEscape_number {a b c d : UInt8} {n : Nat} (h : hexNumber? a b c d = some n)
    (htrailing : isTrailing n = false) (hleading : isLeading n = false) (rest : Octets) :
    readEscape (letterU :: a :: b :: c :: d :: rest) = .ok (Char.ofNat n, rest) := by
  simp only [readEscape, if_pos, readHex, h, htrailing, hleading, Bool.false_eq_true, if_false]

/-- A hexadecimal digit that is written has its value. -/
theorem hexValue?_hexDigit {n : Nat} (h : n < 16) :
    hexValue? (UInt8.ofNat (hexDigit n).toNat) = some n := by
  have hall : ∀ n : Fin 16, hexValue? (UInt8.ofNat (hexDigit n).toNat) = some n.val := by
    decide
  exact hall ⟨n, h⟩

theorem toNat_hexDigit_le {n : Nat} (h : n < 16) : (hexDigit n).toNat ≤ 0x7F := by
  have hall : ∀ n : Fin 16, (hexDigit n).toNat ≤ 0x7F := by
    decide
  exact hall ⟨n, h⟩

/-- An escape by name is read as its character. -/
theorem readOctets_named {mark char : Char} (hmark : mark.toNat ≤ 0x7F)
    (hletter : UInt8.ofNat mark.toNat ≠ letterU)
    (h : namedEscape? (UInt8.ofNat mark.toNat) = some char) (rest : Octets) :
    readOctets (Utf8.encode ['\\', mark] ++ rest) =
      (readOctets rest).map (prepend (String.utf8EncodeChar char)) := by
  have hwritten : Utf8.encode ['\\', mark] ++ rest =
      backslash :: UInt8.ofNat mark.toNat :: rest := by
    rw [Utf8.encode_cons, Utf8.encode_cons, Utf8.encode_nil,
      Utf8.utf8EncodeChar_of_ascii hmark, Utf8.utf8EncodeChar_of_ascii (by decide)]
    rfl
  rw [hwritten]
  exact readOctets_escape (readEscape_named hletter h rest)

/-- An escape by number is read as the control that has the number. -/
theorem readOctets_control {char : Char} (h : char.toNat < 0x20) (rest : Octets) :
    readOctets (Utf8.encode ['\\', 'u', '0', '0', hexDigit (char.toNat / 16),
        hexDigit (char.toNat % 16)] ++ rest) =
      (readOctets rest).map (prepend (String.utf8EncodeChar char)) := by
  have hhigh : char.toNat / 16 < 16 := by omega
  have hlow : char.toNat % 16 < 16 := by omega
  have hwritten : Utf8.encode ['\\', 'u', '0', '0', hexDigit (char.toNat / 16),
        hexDigit (char.toNat % 16)] ++ rest =
      backslash :: letterU :: 0x30 :: 0x30 ::
        UInt8.ofNat (hexDigit (char.toNat / 16)).toNat ::
        UInt8.ofNat (hexDigit (char.toNat % 16)).toNat :: rest := by
    simp only [Utf8.encode_cons, Utf8.encode_nil,
      Utf8.utf8EncodeChar_of_ascii (toNat_hexDigit_le hhigh),
      Utf8.utf8EncodeChar_of_ascii (toNat_hexDigit_le hlow)]
    rfl
  have hnumber : hexNumber? 0x30 0x30 (UInt8.ofNat (hexDigit (char.toNat / 16)).toNat)
      (UInt8.ofNat (hexDigit (char.toNat % 16)).toNat) = some char.toNat := by
    have hzero : hexValue? 0x30 = some 0 := by decide
    simp only [hexNumber?, hzero, hexValue?_hexDigit hhigh, hexValue?_hexDigit hlow]
    exact congrArg some (by omega)
  have hescape := readEscape_number hnumber
    (by simp only [isTrailing, Bool.and_eq_false_iff, decide_eq_false_iff_not]; omega)
    (by simp only [isLeading, Bool.and_eq_false_iff, decide_eq_false_iff_not]; omega) rest
  rw [Char.ofNat_toNat] at hescape
  rw [hwritten]
  exact readOctets_escape hescape

/-! ## Characters that are not escaped -/

/-- The octets of a character that is not escaped stand for themselves. -/
theorem isPlain_of_mem_utf8EncodeChar {char : Char} (hquote : char ≠ '"')
    (hbackslash : char ≠ '\\') (hcontrol : ¬ char.toNat < 0x20) :
    ∀ octet ∈ String.utf8EncodeChar char, IsPlain octet := by
  rintro octet hmem
  refine ⟨?_, ?_, ?_⟩
  · rintro rfl
    exact hquote ((Utf8.mem_utf8EncodeChar_iff '"' (by decide) char).mp hmem)
  · rintro rfl
    exact hbackslash ((Utf8.mem_utf8EncodeChar_iff '\\' (by decide) char).mp hmem)
  · rw [UInt8.lt_iff_toNat_lt]
    exact Nat.not_lt.mpr (Utf8.le_of_mem_utf8EncodeChar (Nat.not_lt.mp hcontrol) hmem)

/-! ## Strings -/

/-- Whatever a character is written as is read as the octets of that character. -/
theorem readOctets_escapeChar (char : Char) (rest : Octets) :
    readOctets (Utf8.encode (escapeChar char) ++ rest) =
      (readOctets rest).map (prepend (String.utf8EncodeChar char)) := by
  unfold escapeChar
  split_ifs with hquote hbackslash hback hform hline hreturn htab hcontrol
  · exact readOctets_named (by decide) (by decide) (by rw [hquote]; rfl) rest
  · exact readOctets_named (by decide) (by decide) (by rw [hbackslash]; rfl) rest
  · refine readOctets_named (by decide) (by decide) ?_ rest
    rw [← Char.ofNat_toNat char, hback]
    rfl
  · refine readOctets_named (by decide) (by decide) ?_ rest
    rw [← Char.ofNat_toNat char, hform]
    rfl
  · exact readOctets_named (by decide) (by decide) (by rw [hline]; rfl) rest
  · exact readOctets_named (by decide) (by decide) (by rw [hreturn]; rfl) rest
  · exact readOctets_named (by decide) (by decide) (by rw [htab]; rfl) rest
  · exact readOctets_control hcontrol rest
  · rw [Utf8.encode_cons, Utf8.encode_nil, List.append_nil]
    exact readOctets_plain_append (isPlain_of_mem_utf8EncodeChar hquote hbackslash hcontrol) rest

/-- The octets of a string that is written, after its opening quote. -/
def closedOctets (text : List Char) : Octets :=
  Utf8.encode (text.flatMap escapeChar) ++ [quoteMark]

theorem encode_writeString (text : List Char) :
    Utf8.encode (writeString text) = quoteMark :: closedOctets text := by
  rw [writeString, Utf8.encode_append, Utf8.encode_append, closedOctets]
  rfl

theorem readOctets_closedOctets (text : List Char) (rest : Octets) :
    readOctets (closedOctets text ++ rest) = .ok (Utf8.encode text, rest) := by
  rw [closedOctets, List.append_assoc, List.singleton_append]
  induction text with
  | nil => exact readOctets_quote rest
  | cons char text ih =>
      rw [List.flatMap_cons, Utf8.encode_append, List.append_assoc, readOctets_escapeChar, ih]
      simp only [Except.map, prepend, Utf8.encode_cons]

/-- A string that is written is read back. -/
theorem readString_closedOctets (text : List Char) (rest : Octets) :
    readString (closedOctets text ++ rest) = .ok (text, rest) := by
  rw [readString, readOctets_closedOctets]
  simp only [Utf8.decode?_encode]

end Beacon.Json
