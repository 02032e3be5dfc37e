import Beacon.Proofs.Json.Grammar
import Beacon.Proofs.Text.Utf8
import Mathlib.Data.List.TakeWhile

/-!
# Blanks and numbers against the grammar

Blanks in front of anything change nothing. What is passed over as a number is a number of the
grammar, and every number of the grammar is passed over, unless the next octet continues it.
-/

namespace Beacon.Json

/-! ## Blanks -/

theorem isSpace_iff {octet : UInt8} :
    isSpace octet = true ↔ octet = 0x20 ∨ octet = 0x0A ∨ octet = 0x09 ∨ octet = 0x0D := by
  simp only [isSpace, Bool.or_eq_true, decide_eq_true_eq, or_assoc]

theorem Blank.nil : Blank [] :=
  fun _ hmem => absurd hmem List.not_mem_nil

theorem skipSpace_blank {blank octets : Octets} (h : Blank blank) :
    skipSpace (blank ++ octets) = skipSpace octets :=
  List.dropWhile_append_of_pos fun octet hmem => isSpace_iff.mpr (h octet hmem)

/-- What is no blank is found behind the blanks. -/
theorem skipSpace_eq_cons_iff {octets rest : Octets} {octet : UInt8} :
    skipSpace octets = octet :: rest ↔
      isSpace octet = false ∧ ∃ blank, Blank blank ∧ octets = blank ++ octet :: rest := by
  constructor
  · intro h
    have hsplit := List.takeWhile_append_dropWhile (p := isSpace) (l := octets)
    rw [← skipSpace, h] at hsplit
    refine ⟨?_, octets.takeWhile isSpace, fun other hmem => ?_, hsplit.symm⟩
    · have hhead := List.head?_dropWhile_not isSpace octets
      rw [← skipSpace, h] at hhead
      simpa using hhead
    · exact isSpace_iff.mp (List.mem_takeWhile_imp hmem)
  · rintro ⟨hoctet, blank, hblank, rfl⟩
    rw [skipSpace_blank hblank]
    exact List.dropWhile_cons_of_neg (by simp [hoctet])

theorem skipSpace_eq_nil_iff {octets : Octets} : skipSpace octets = [] ↔ Blank octets := by
  rw [skipSpace, List.dropWhile_eq_nil_iff]
  exact forall₂_congr fun _ _ => isSpace_iff

theorem skipPart_blank {blank : Octets} (h : Blank blank) (fuel : Nat) (part : Part)
    (octets : Octets) : skipPart fuel part (blank ++ octets) = skipPart fuel part octets := by
  cases fuel with
  | zero => cases part <;> rfl
  | succ fuel => cases part <;> rw [skipPart, skipPart, skipSpace_blank h]

/-! ## Marks and digits -/

theorem isDigit_iff {octet : UInt8} : isDigit octet = true ↔ IsDecimal octet := by
  unfold isDigit digit? IsDecimal
  split <;> simp_all

theorem isExponentMark_iff {octet : UInt8} :
    isExponentMark octet = true ↔ octet = 0x65 ∨ octet = 0x45 := by
  rw [isExponentMark, Bool.or_eq_true, decide_eq_true_eq, decide_eq_true_eq]

def EndsNumber (octets : Octets) : Prop :=
  ∀ octet ∈ octets.head?, isDigit octet = false ∧ octet ≠ point ∧ isExponentMark octet = false

def skipDigits : Octets → Except Fault Octets
  | octet :: rest =>
      if isDigit octet then .ok (rest.dropWhile isDigit) else .error ⟨.invalidNumber, rest⟩
  | [] => .error ⟨.invalidNumber, []⟩

/-- Passes over an exponent with its mark, if it is there. -/
def skipPower : Octets → Except Fault Octets
  | octet :: rest => if isExponentMark octet then skipExponent rest else .ok (octet :: rest)
  | [] => .ok []

/-- Passes over a fraction with its point and over an exponent, if they are there. -/
def skipPlaces : Octets → Except Fault Octets
  | octet :: rest => if octet = point then skipFraction rest else skipPower (octet :: rest)
  | [] => .ok []

theorem skipExponent_sign {octet : UInt8} (h : octet = 0x2B ∨ octet = 0x2D) (rest : Octets) :
    skipExponent (octet :: rest) = skipDigits rest := by
  obtain rfl | rfl := h <;> rfl

theorem skipExponent_unsigned {octets : Octets}
    (h : ∀ octet ∈ octets.head?, ¬ (octet = 0x2B ∨ octet = 0x2D)) :
    skipExponent octets = skipDigits octets := by
  unfold skipExponent
  split
  next rest => exact absurd (.inl rfl) (h 0x2B rfl)
  next rest => exact absurd (.inr rfl) (h 0x2D rfl)
  · rfl

theorem skipFraction_eq (octets : Octets) :
    skipFraction octets =
      if octets.takeWhile isDigit = [] then .error (.peek .invalidNumber octets)
      else skipPower (octets.dropWhile isDigit) :=
  rfl

theorem skipUnsigned_eq (first : UInt8) (tail : Octets) :
    skipUnsigned (first :: tail) =
      if !isDigit first then .error ⟨.invalidNumber, tail⟩
      else if first = 0x30 ∧ tail.takeWhile isDigit ≠ [] then .error (.peek .invalidNumber tail)
      else skipPlaces (tail.dropWhile isDigit) :=
  rfl

/-! ## What is passed over is a number -/

theorem decimal_of_mem_takeWhile {octets : Octets} :
    ∀ octet ∈ octets.takeWhile isDigit, IsDecimal octet :=
  fun _ hmem => isDigit_iff.mp (List.mem_takeWhile_imp hmem)

theorem digits_of_skipDigits {octets rest : Octets} (h : skipDigits octets = .ok rest) :
    ∃ digits, Digits digits ∧ octets = digits ++ rest := by
  unfold skipDigits at h
  split at h
  next octet tail =>
    split at h
    next hdigit =>
      cases h
      refine ⟨octet :: tail.takeWhile isDigit, ⟨fun other hmem => ?_, List.cons_ne_nil _ _⟩, ?_⟩
      · obtain rfl | hmem := List.mem_cons.mp hmem
        · exact isDigit_iff.mp hdigit
        · exact decimal_of_mem_takeWhile other hmem
      · rw [List.cons_append, List.takeWhile_append_dropWhile]
    · cases h
  · cases h

theorem exponent_of_skipExponent {octets rest : Octets} (h : skipExponent octets = .ok rest) :
    ∃ sign digits, ExponentSign sign ∧ Digits digits ∧ octets = sign ++ digits ++ rest := by
  by_cases hsign : ∃ octet ∈ octets.head?, octet = 0x2B ∨ octet = 0x2D
  · obtain ⟨octet, hhead, hoctet⟩ := hsign
    obtain ⟨tail, rfl⟩ := List.head?_eq_some_iff.mp hhead
    rw [skipExponent_sign hoctet] at h
    obtain ⟨digits, hdigits, rfl⟩ := digits_of_skipDigits h
    obtain rfl | rfl := hoctet
    · exact ⟨_, digits, .plus, hdigits, rfl⟩
    · exact ⟨_, digits, .minus, hdigits, rfl⟩
  · rw [skipExponent_unsigned fun octet hhead hoctet => hsign ⟨octet, hhead, hoctet⟩] at h
    obtain ⟨digits, hdigits, rfl⟩ := digits_of_skipDigits h
    exact ⟨[], digits, .absent, hdigits, rfl⟩

theorem exponent_of_skipPower {octets rest : Octets} (h : skipPower octets = .ok rest) :
    ∃ exponent, Exponent exponent ∧ octets = exponent ++ rest := by
  unfold skipPower at h
  split at h
  next octet tail =>
    split at h
    next hmark =>
      obtain ⟨sign, digits, hsign, hdigits, rfl⟩ := exponent_of_skipExponent h
      exact ⟨_, .digits (isExponentMark_iff.mp hmark) hsign hdigits, rfl⟩
    · cases h
      exact ⟨[], .absent, rfl⟩
  · cases h
    exact ⟨[], .absent, rfl⟩

theorem fraction_of_skipFraction {octets rest : Octets} (h : skipFraction octets = .ok rest) :
    ∃ digits exponent, Digits digits ∧ Exponent exponent ∧
      octets = digits ++ exponent ++ rest := by
  rw [skipFraction_eq] at h
  split at h
  · cases h
  next hdigits =>
    obtain ⟨exponent, hexponent, hrest⟩ := exponent_of_skipPower h
    refine ⟨_, exponent, ⟨decimal_of_mem_takeWhile, hdigits⟩, hexponent, ?_⟩
    rw [List.append_assoc, ← hrest, List.takeWhile_append_dropWhile]

theorem places_of_skipPlaces {octets rest : Octets} (h : skipPlaces octets = .ok rest) :
    ∃ fraction exponent, Fraction fraction ∧ Exponent exponent ∧
      octets = fraction ++ exponent ++ rest := by
  unfold skipPlaces at h
  split at h
  next octet tail =>
    split at h
    next hpoint =>
      obtain ⟨digits, exponent, hdigits, hexponent, rfl⟩ := fraction_of_skipFraction h
      exact ⟨_, exponent, .digits hdigits, hexponent, by rw [hpoint]; rfl⟩
    · obtain ⟨exponent, hexponent, hoctets⟩ := exponent_of_skipPower h
      exact ⟨[], exponent, .absent, hexponent, hoctets⟩
  · cases h
    exact ⟨[], [], .absent, .absent, rfl⟩

theorem unsigned_of_skipUnsigned {octets rest : Octets} (h : skipUnsigned octets = .ok rest) :
    ∃ number, Unsigned number ∧ octets = number ++ rest := by
  cases octets with
  | nil => cases h
  | cons first tail =>
      rw [skipUnsigned_eq] at h
      split at h
      · cases h
      next hdigit =>
        rw [Bool.not_eq_true, Bool.not_eq_false'] at hdigit
        split at h
        · cases h
        next hzero =>
          obtain ⟨fraction, exponent, hfraction, hexponent, hrest⟩ := places_of_skipPlaces h
          have hwhole : Whole (first :: tail.takeWhile isDigit) := by
            by_cases hfirst : first = 0x30
            · rw [hfirst, not_not.mp fun hne => hzero ⟨hfirst, hne⟩]
              exact .zero
            · refine .digits ⟨fun other hmem => ?_, List.cons_ne_nil _ _⟩ ?_
              · obtain rfl | hmem := List.mem_cons.mp hmem
                · exact isDigit_iff.mp hdigit
                · exact decimal_of_mem_takeWhile other hmem
              · exact fun hhead => hfirst (Option.some.inj hhead)
          refine ⟨_, .parts hwhole hfraction hexponent, ?_⟩
          rw [List.append_assoc, List.append_assoc, ← List.append_assoc fraction, ← hrest,
            List.cons_append, List.takeWhile_append_dropWhile]

theorem number_of_skipNumber {octets rest : Octets} (h : skipNumber octets = .ok rest) :
    ∃ number, IsNumber number ∧ octets = number ++ rest := by
  unfold skipNumber at h
  split at h
  next octet tail =>
    split at h
    next hminus =>
      obtain ⟨number, hnumber, rfl⟩ := unsigned_of_skipUnsigned h
      exact ⟨_, .negative hnumber, by rw [hminus]; rfl⟩
    · obtain ⟨number, hnumber, hoctets⟩ := unsigned_of_skipUnsigned h
      exact ⟨number, .positive hnumber, hoctets⟩
  · cases h

/-! ## Every number is passed over -/

theorem Digits.exists_cons {octets : Octets} (h : Digits octets) :
    ∃ first later, octets = first :: later ∧ isDigit first = true ∧
      ∀ octet ∈ later, isDigit octet = true := by
  obtain ⟨first, later, rfl⟩ := List.exists_cons_of_ne_nil h.ne_nil
  exact ⟨first, later, rfl, isDigit_iff.mpr (h.decimal first List.mem_cons_self),
    fun octet hmem => isDigit_iff.mpr (h.decimal octet (List.mem_cons_of_mem _ hmem))⟩

theorem skipExponent_append {sign digits rest : Octets} (hsign : ExponentSign sign)
    (hdigits : Digits digits) (hrest : EndsNumber rest) :
    skipExponent (sign ++ digits ++ rest) = .ok rest := by
  obtain ⟨first, later, rfl, hfirst, hlater⟩ := hdigits.exists_cons
  have hskip : skipDigits (first :: later ++ rest) = .ok rest := by
    rw [List.cons_append, skipDigits, if_pos hfirst,
      dropWhile_append_rest hlater fun octet hmem => (hrest octet hmem).1]
  cases hsign with
  | plus => exact (skipExponent_sign (.inl rfl) _).trans hskip
  | minus => exact (skipExponent_sign (.inr rfl) _).trans hskip
  | absent =>
      refine (skipExponent_unsigned fun octet hhead hoctet => ?_).trans hskip
      cases hhead
      obtain rfl | rfl := hoctet <;> cases hfirst

theorem skipPower_append {exponent rest : Octets} (hexponent : Exponent exponent)
    (hrest : EndsNumber rest) : skipPower (exponent ++ rest) = .ok rest := by
  cases hexponent with
  | absent =>
      cases rest with
      | nil => rfl
      | cons octet rest =>
          rw [List.nil_append, skipPower, (hrest octet rfl).2.2, if_neg Bool.false_ne_true]
  | digits hmark hsign hdigits =>
      rw [List.cons_append, List.cons_append, skipPower, if_pos (isExponentMark_iff.mpr hmark)]
      exact skipExponent_append hsign hdigits hrest

/-- Nothing behind the digits of a number is a digit. -/
theorem Exponent.head?_append {exponent rest : Octets} (h : Exponent exponent)
    (hrest : EndsNumber rest) :
    ∀ octet ∈ (exponent ++ rest).head?, isDigit octet = false ∧ octet ≠ point := by
  intro octet hmem
  cases h with
  | absent => exact ⟨(hrest octet hmem).1, (hrest octet hmem).2.1⟩
  | digits hmark =>
      cases hmem
      obtain rfl | rfl := hmark <;> decide

theorem skipFraction_append {digits exponent rest : Octets} (hdigits : Digits digits)
    (hexponent : Exponent exponent) (hrest : EndsNumber rest) :
    skipFraction (digits ++ (exponent ++ rest)) = .ok rest := by
  have hall : ∀ octet ∈ digits, isDigit octet = true :=
    fun octet hmem => isDigit_iff.mpr (hdigits.decimal octet hmem)
  have hstop := fun octet hmem => (hexponent.head?_append hrest octet hmem).1
  rw [skipFraction_eq, takeWhile_append_rest hall hstop, if_neg hdigits.ne_nil,
    dropWhile_append_rest hall hstop]
  exact skipPower_append hexponent hrest

theorem skipPlaces_append {fraction exponent rest : Octets} (hfraction : Fraction fraction)
    (hexponent : Exponent exponent) (hrest : EndsNumber rest) :
    skipPlaces (fraction ++ (exponent ++ rest)) = .ok rest := by
  cases hfraction with
  | digits hdigits => exact skipFraction_append hdigits hexponent hrest
  | absent =>
      have hskip := skipPower_append hexponent hrest
      have hhead := hexponent.head?_append hrest
      rw [List.nil_append]
      generalize exponent ++ rest = octets at hskip hhead ⊢
      cases octets with
      | nil => exact hskip
      | cons octet tail => rw [skipPlaces, if_neg (hhead octet rfl).2, hskip]

theorem Fraction.head?_append {fraction exponent rest : Octets} (h : Fraction fraction)
    (hexponent : Exponent exponent) (hrest : EndsNumber rest) :
    ∀ octet ∈ (fraction ++ (exponent ++ rest)).head?, isDigit octet = false := by
  intro octet hmem
  cases h with
  | absent => exact (hexponent.head?_append hrest octet hmem).1
  | digits _ =>
      cases hmem
      decide

theorem Whole.exists_cons {octets : Octets} (h : Whole octets) :
    ∃ first later, octets = first :: later ∧ isDigit first = true ∧
      (∀ octet ∈ later, isDigit octet = true) ∧ (first = 0x30 → later = []) := by
  cases h with
  | zero =>
      exact ⟨0x30, [], rfl, by decide, fun _ hmem => absurd hmem List.not_mem_nil, fun _ => rfl⟩
  | digits hdigits hhead =>
      obtain ⟨first, later, rfl, hfirst, hlater⟩ := hdigits.exists_cons
      exact ⟨first, later, rfl, hfirst, hlater,
        fun hzero => absurd (congrArg some hzero) hhead⟩

theorem skipUnsigned_append {number rest : Octets} (h : Unsigned number)
    (hrest : EndsNumber rest) : skipUnsigned (number ++ rest) = .ok rest := by
  cases h with
  | @parts whole fraction exponent hwhole hfraction hexponent =>
      obtain ⟨first, later, rfl, hfirst, hlater, hzero⟩ := hwhole.exists_cons
      have hstop := hfraction.head?_append hexponent hrest
      rw [List.append_assoc, List.append_assoc, List.cons_append, skipUnsigned_eq, hfirst,
        if_neg (by decide), takeWhile_append_rest hlater hstop, dropWhile_append_rest hlater hstop,
        if_neg fun hboth => hboth.2 (hzero hboth.1)]
      exact skipPlaces_append hfraction hexponent hrest

theorem Unsigned.exists_cons {octets : Octets} (h : Unsigned octets) :
    ∃ first later, octets = first :: later ∧ isDigit first = true := by
  cases h with
  | parts hwhole =>
      obtain ⟨first, later, rfl, hfirst, -⟩ := hwhole.exists_cons
      exact ⟨first, _, rfl, hfirst⟩

theorem skipNumber_append {number rest : Octets} (h : IsNumber number) (hrest : EndsNumber rest) :
    skipNumber (number ++ rest) = .ok rest := by
  cases h with
  | negative h =>
      rw [List.cons_append, skipNumber, if_pos rfl]
      exact skipUnsigned_append h hrest
  | positive h =>
      have hskip := skipUnsigned_append h hrest
      obtain ⟨first, later, rfl, hfirst⟩ := h.exists_cons
      have hminus : first ≠ minusSign := by
        rintro rfl
        cases hfirst
      rw [List.cons_append, skipNumber, if_neg hminus, ← List.cons_append, hskip]

end Beacon.Json
