import Beacon.Proofs.Text.Utf8
import Beacon.Text.Decimal

/-!
# Numerals and their values

The numeral of a number is made of digits and has the value of the number, on characters and on
octets. A word of sixteen bits is read from digits exactly if their value is no greater than the
greatest word: reading stops where the word is outgrown, and so never goes round.
-/

namespace Beacon.Decimal

theorem numeral_zero : numeral 0 = "0" := by
  rw [numeral, digits, Nat.toDigits_zero]

theorem digits_ne_nil (n : Nat) : digits n ≠ [] :=
  Nat.toDigits_ne_nil

/-- The digits of a number are ASCII digits. -/
theorem toNat_of_mem_digits {n : Nat} {char : Char} (h : char ∈ digits n) :
    0x30 ≤ char.toNat ∧ char.toNat ≤ 0x39 := by
  have hdigit := Nat.isDigit_of_mem_toDigits (by omega) (by omega) h
  rw [Char.isDigit_iff_toNat] at hdigit
  exact hdigit

theorem value_digits (n : Nat) : value (digits n) = n := by
  have hread := Nat.ofDigitChars_ten_toDigits (n := n)
  rw [Nat.ofDigitChars_eq_foldl] at hread
  simp only [Nat.mul_comm] at hread
  exact hread

/-- Zeros in front of digits change nothing. -/
theorem value_zeros_append (zeros : Nat) (text : List Char) :
    value (List.replicate zeros '0' ++ text) = value text := by
  induction zeros with
  | zero => rfl
  | succ zeros ih => exact ih

/-! ## On octets -/

/-- Digits are written as one octet each. -/
theorem encode_of_digits {text : List Char}
    (h : ∀ char ∈ text, 0x30 ≤ char.toNat ∧ char.toNat ≤ 0x39) :
    Utf8.encode text = text.map fun char => UInt8.ofNat char.toNat := by
  induction text with
  | nil => rfl
  | cons char text ih =>
      have hchar := h char List.mem_cons_self
      rw [Utf8.encode_cons, Utf8.utf8EncodeChar_of_ascii (by omega),
        ih fun char hmem => h char (List.mem_cons_of_mem _ hmem)]
      rfl

theorem octets_numeral (n : Nat) :
    Utf8.octets (numeral n) = (digits n).map fun char => UInt8.ofNat char.toNat := by
  rw [numeral, Utf8.octets_ofList]
  exact encode_of_digits fun char hmem => toNat_of_mem_digits hmem

theorem octets_numeral_ne_nil (n : Nat) : Utf8.octets (numeral n) ≠ [] := by
  rw [octets_numeral]
  simpa using digits_ne_nil n

/-- The octets of a numeral are those of digits. -/
theorem toNat_of_mem_octets_numeral {n : Nat} {octet : UInt8}
    (h : octet ∈ Utf8.octets (numeral n)) : 0x30 ≤ octet.toNat ∧ octet.toNat ≤ 0x39 := by
  rw [octets_numeral, List.mem_map] at h
  obtain ⟨char, hmem, rfl⟩ := h
  have hchar := toNat_of_mem_digits hmem
  rwa [Utf8.toNat_ofNat_of_lt (by omega)]

/-- Adding up the octets of a numeral gives its number. -/
theorem foldl_octets_numeral (n : Nat) :
    (Utf8.octets (numeral n)).foldl (fun total octet => total * 10 + (octet.toNat - 0x30)) 0 =
      n := by
  have hsum : ∀ (text : List Char) (total : Nat),
      (∀ char ∈ text, 0x30 ≤ char.toNat ∧ char.toNat ≤ 0x39) →
      (text.map fun char => UInt8.ofNat char.toNat).foldl
        (fun total octet => total * 10 + (octet.toNat - 0x30)) total =
      text.foldl (fun total char => total * 10 + digitValue char) total := by
    intro text
    induction text with
    | nil => exact fun _ _ => rfl
    | cons char text ih =>
        intro total htext
        have hchar := htext char List.mem_cons_self
        rw [List.map_cons, List.foldl_cons, List.foldl_cons,
          ih _ fun char hmem => htext char (List.mem_cons_of_mem _ hmem),
          Utf8.toNat_ofNat_of_lt (by omega)]
        rfl
  rw [octets_numeral, hsum _ _ fun char hmem => toNat_of_mem_digits hmem]
  exact value_digits n

/-! ## Words -/

theorem exists_word {n : Nat} (h : n < UInt16.size) : ∃ word : UInt16, word.toNat = n :=
  ⟨UInt16.ofNat n, by simp [Nat.mod_eq_of_lt (show n < 65536 from h)]⟩

section

variable {a b c : UInt16}

theorem product?_eq_some_iff : product? a b = some c ↔ c.toNat = a.toNat * b.toNat := by
  have hword := c.toNat_lt_size
  unfold product?
  split
  next hfits =>
    rw [Option.some.injEq, ← UInt16.toNat_inj, UInt16.toNat_mul, Nat.mod_eq_of_lt hfits]
    exact eq_comm
  next hgreat =>
    constructor
    · rintro ⟨⟩
    · intro hproduct
      omega

theorem sum?_eq_some_iff : sum? a b = some c ↔ c.toNat = a.toNat + b.toNat := by
  have hword := c.toNat_lt_size
  unfold sum?
  split
  next hfits =>
    rw [Option.some.injEq, ← UInt16.toNat_inj, UInt16.toNat_add, Nat.mod_eq_of_lt hfits]
    exact eq_comm
  next hgreat =>
    constructor
    · rintro ⟨⟩
    · intro hsum
      omega

end

theorem isDigit_iff {char : Char} : isDigit char = true ↔ '0' ≤ char ∧ char ≤ '9' := by
  rw [isDigit, Bool.and_eq_true, decide_eq_true_eq, decide_eq_true_eq]

theorem digitValue_le {char : Char} (h : isDigit char = true) : digitValue char ≤ 9 := by
  have hnine : char.toNat ≤ 57 := (isDigit_iff.mp h).2
  unfold digitValue
  omega

/-- A digit is put after a word exactly if ten times the word and the digit are a word. -/
theorem appendDigit?_eq_some_iff {total next : UInt16} {char : Char} :
    appendDigit? total char = some next ↔
      isDigit char = true ∧ next.toNat = total.toNat * 10 + digitValue char := by
  unfold appendDigit?
  split
  next hdigit =>
    have hnine := digitValue_le hdigit
    have hvalue : (UInt16.ofNat (digitValue char)).toNat = digitValue char := by
      rw [UInt16.toNat_ofNat', Nat.mod_eq_of_lt (by omega)]
    rw [Option.bind_eq_some_iff]
    constructor
    · rintro ⟨shifted, hshifted, hnext⟩
      rw [product?_eq_some_iff] at hshifted
      rw [sum?_eq_some_iff, hshifted, hvalue] at hnext
      exact ⟨hdigit, hnext⟩
    · rintro ⟨-, hnext⟩
      -- What is ten times the word is no greater than the next word, and so a word itself.
      have hfits : total.toNat * 10 < UInt16.size := by
        have hword := next.toNat_lt_size
        omega
      obtain ⟨shifted, hshifted⟩ := exists_word hfits
      refine ⟨shifted, product?_eq_some_iff.mpr hshifted, ?_⟩
      rw [sum?_eq_some_iff, hshifted, hvalue, hnext]
  next hdigit => simp [hdigit]

/-- Digits never make a number smaller. -/
theorem le_foldl_digits (text : List Char) (total : Nat) :
    total ≤ text.foldl (fun total char => total * 10 + digitValue char) total := by
  induction text generalizing total with
  | nil => exact Nat.le_refl _
  | cons char text ih =>
      have hlater := ih (total * 10 + digitValue char)
      rw [List.foldl_cons]
      omega

/-- Digits are put after a word exactly if what they make of it is a word. -/
theorem foldlM_appendDigit?_eq_some_iff {text : List Char} {total word : UInt16} :
    text.foldlM appendDigit? total = some word ↔
      (∀ char ∈ text, isDigit char = true) ∧
        word.toNat =
          text.foldl (fun total char => total * 10 + digitValue char) total.toNat := by
  induction text generalizing total with
  | nil =>
      rw [List.foldlM_nil, List.foldl_nil, UInt16.toNat_inj]
      constructor
      · rintro ⟨⟩
        exact ⟨List.forall_mem_nil _, rfl⟩
      · rintro ⟨-, rfl⟩
        rfl
  | cons char text ih =>
      rw [List.foldlM_cons, List.foldl_cons, List.forall_mem_cons, Option.bind_eq_bind,
        Option.bind_eq_some_iff]
      constructor
      · rintro ⟨next, hnext, hrest⟩
        obtain ⟨hdigit, hvalue⟩ := appendDigit?_eq_some_iff.mp hnext
        obtain ⟨hall, hword⟩ := ih.mp hrest
        rw [hvalue] at hword
        exact ⟨⟨hdigit, hall⟩, hword⟩
      · rintro ⟨⟨hdigit, hall⟩, hword⟩
        have hfits : total.toNat * 10 + digitValue char < UInt16.size := by
          have hless := le_foldl_digits text (total.toNat * 10 + digitValue char)
          have hsize := word.toNat_lt_size
          omega
        obtain ⟨next, hnext⟩ := exists_word hfits
        refine ⟨next, appendDigit?_eq_some_iff.mpr ⟨hdigit, hnext⟩, ih.mpr ⟨hall, ?_⟩⟩
        rw [hnext, hword]

/-- The word that digits spell is their value, and there is one exactly if the value is a word. -/
theorem word?_eq_some_iff {text : List Char} {word : UInt16} :
    word? text = some word ↔
      text ≠ [] ∧ (∀ char ∈ text, isDigit char = true) ∧ word.toNat = value text := by
  unfold word?
  split
  next hempty => simp [hempty]
  next hne =>
    rw [foldlM_appendDigit?_eq_some_iff]
    exact (and_iff_right hne).symm

end Beacon.Decimal
