import Beacon.Text.Utf8
import Mathlib.Tactic.SplitIfs

/-!
# UTF-8 round trips

Reading undoes writing, strictly and with replacement characters, and what is read strictly was
written so. Both rest on one fact in each direction about the character at the front.
-/

namespace Beacon

section

variable {α : Type} (p : α → Prop) [DecidablePred p]

/-- What holds of all that is in a list is decided along the list, never by going through all
characters or octets there are. -/
instance (priority := 2000) decidableForallMemList (list : List α) :
    Decidable (∀ element ∈ list, p element) :=
  List.decidableBAll p list

instance (priority := 2000) decidableForallMemOption (found : Option α) :
    Decidable (∀ element ∈ found, p element) :=
  Option.decidableForallMem found

end

section

variable {α : Type} {test : α → Bool} {front rest : List α}

/-- What is taken ends at the first element that fails the test. -/
theorem takeWhile_append_rest (hfront : ∀ element ∈ front, test element = true)
    (hrest : ∀ element ∈ rest.head?, test element = false) :
    (front ++ rest).takeWhile test = front := by
  rw [List.takeWhile_append_of_pos hfront]
  cases rest with
  | nil => rw [List.takeWhile_nil, List.append_nil]
  | cons element rest =>
      rw [List.takeWhile_cons_of_neg (by simp [hrest element rfl]), List.append_nil]

theorem dropWhile_of_head? (hrest : ∀ element ∈ rest.head?, test element = false) :
    rest.dropWhile test = rest := by
  cases rest with
  | nil => rfl
  | cons element rest => exact List.dropWhile_cons_of_neg (by simp [hrest element rfl])

/-- What is left starts at the first element that fails the test. -/
theorem dropWhile_append_rest (hfront : ∀ element ∈ front, test element = true)
    (hrest : ∀ element ∈ rest.head?, test element = false) :
    (front ++ rest).dropWhile test = rest := by
  rw [List.dropWhile_append_of_pos hfront, dropWhile_of_head? hrest]

/-- A list has one splitting into a front that passes a test and a rest that starts otherwise. -/
theorem split_unique (test : α → Bool) {front front' rest rest' : List α}
    (hfront : ∀ x ∈ front, test x = true) (hfront' : ∀ x ∈ front', test x = true)
    (hrest : ∀ x ∈ rest.head?, test x = false) (hrest' : ∀ x ∈ rest'.head?, test x = false)
    (h : front ++ rest = front' ++ rest') : front = front' ∧ rest = rest' := by
  have htake := congrArg (List.takeWhile test) h
  rw [takeWhile_append_rest hfront hrest, takeWhile_append_rest hfront' hrest'] at htake
  subst htake
  exact ⟨rfl, List.append_cancel_left h⟩

end

namespace Utf8

/-! ## Octets and their numbers -/

theorem toNat_ofNat_of_lt {n : Nat} (h : n < 256) : (UInt8.ofNat n).toNat = n := by
  simp [Nat.mod_eq_of_lt h]

theorem ofNat_eq_of_toNat {n : Nat} (octet : UInt8) (h : octet.toNat = n) :
    UInt8.ofNat n = octet := by
  rw [← h]
  exact UInt8.ofNat_toNat

theorem width_eq_one_iff {lead : UInt8} : width lead = 1 ↔ lead.toNat ≤ 0x7F := by
  simp only [width, UInt8.le_iff_toNat_le, UInt8.reduceToNat]
  split_ifs <;> simp <;> omega

theorem width_eq_two_iff {lead : UInt8} :
    width lead = 2 ↔ 0xC2 ≤ lead.toNat ∧ lead.toNat ≤ 0xDF := by
  simp only [width, UInt8.le_iff_toNat_le, UInt8.reduceToNat]
  split_ifs <;> simp <;> omega

theorem width_eq_three_iff {lead : UInt8} :
    width lead = 3 ↔ 0xE0 ≤ lead.toNat ∧ lead.toNat ≤ 0xEF := by
  simp only [width, UInt8.le_iff_toNat_le, UInt8.reduceToNat]
  split_ifs <;> simp <;> omega

theorem width_eq_four_iff {lead : UInt8} :
    width lead = 4 ↔ 0xF0 ≤ lead.toNat ∧ lead.toNat ≤ 0xF4 := by
  simp only [width, UInt8.le_iff_toNat_le, UInt8.reduceToNat]
  split_ifs <;> simp <;> omega

theorem isTail_iff {octet : UInt8} :
    isTail octet = true ↔ 0x80 ≤ octet.toNat ∧ octet.toNat ≤ 0xBF := by
  simp [isTail, UInt8.le_iff_toNat_le]

theorem isSecond_iff {lead octet : UInt8} :
    isSecond lead octet = true ↔
      (0x80 ≤ octet.toNat ∧ octet.toNat ≤ 0xBF) ∧
        (lead.toNat = 0xE0 → 0xA0 ≤ octet.toNat) ∧ (lead.toNat = 0xED → octet.toNat ≤ 0x9F) ∧
        (lead.toNat = 0xF0 → 0x90 ≤ octet.toNat) ∧ (lead.toNat = 0xF4 → octet.toNat ≤ 0x8F) := by
  simp only [isSecond, isTail, ← UInt8.toNat_inj, UInt8.reduceToNat, UInt8.le_iff_toNat_le]
  split_ifs <;> simp <;> omega

/-! ## The front, by the width of its character -/

theorem next_one {lead : UInt8} (hlead : width lead = 1) (rest : Octets) :
    next lead rest = .scalar (Char.ofNat lead.toNat) rest := by
  simp only [next, hlead]

theorem next_two {lead b : UInt8} (hlead : width lead = 2) (hb : isSecond lead b = true)
    (rest : Octets) :
    next lead (b :: rest) = .scalar (Char.ofNat (lead.toNat % 32 * 64 + payload b)) rest := by
  simp only [next, hlead, hb, if_true]

theorem next_three {lead b c : UInt8} (hlead : width lead = 3) (hb : isSecond lead b = true)
    (hc : isTail c = true) (rest : Octets) :
    next lead (b :: c :: rest) =
      .scalar (Char.ofNat (lead.toNat % 16 * 4096 + payload b * 64 + payload c)) rest := by
  simp only [next, hlead, hb, hc, if_true]

theorem next_four {lead b c d : UInt8} (hlead : width lead = 4) (hb : isSecond lead b = true)
    (hc : isTail c = true) (hd : isTail d = true) (rest : Octets) :
    next lead (b :: c :: d :: rest) =
      .scalar (Char.ofNat (lead.toNat % 8 * 262144 + payload b * 4096 + payload c * 64 +
        payload d)) rest := by
  simp only [next, hlead, hb, hc, hd, if_true]

/-- The four ways in which a character can stand at the front. -/
theorem next_eq_scalar {lead : UInt8} {rest tail : Octets} {char : Char}
    (h : next lead rest = .scalar char tail) :
    (width lead = 1 ∧ char = Char.ofNat lead.toNat ∧ rest = tail) ∨
    (∃ b, width lead = 2 ∧ isSecond lead b = true ∧
      char = Char.ofNat (lead.toNat % 32 * 64 + payload b) ∧ rest = b :: tail) ∨
    (∃ b c, width lead = 3 ∧ isSecond lead b = true ∧ isTail c = true ∧
      char = Char.ofNat (lead.toNat % 16 * 4096 + payload b * 64 + payload c) ∧
      rest = b :: c :: tail) ∨
    (∃ b c d, width lead = 4 ∧ isSecond lead b = true ∧ isTail c = true ∧ isTail d = true ∧
      char = Char.ofNat (lead.toNat % 8 * 262144 + payload b * 4096 + payload c * 64 +
        payload d) ∧ rest = b :: c :: d :: tail) := by
  unfold next at h
  split at h
  · next hlead =>
      injection h with hchar hrest
      exact .inl ⟨hlead, hchar.symm, hrest⟩
  · next hlead =>
      repeat' split at h
      all_goals cases h
      exact .inr (.inl ⟨_, hlead, ‹_›, rfl, rfl⟩)
  · next hlead =>
      repeat' split at h
      all_goals cases h
      exact .inr (.inr (.inl ⟨_, _, hlead, ‹_›, ‹_›, rfl, rfl⟩))
  · next hlead =>
      repeat' split at h
      all_goals cases h
      exact .inr (.inr (.inr ⟨_, _, _, hlead, ‹_›, ‹_›, ‹_›, rfl, rfl⟩))
  · cases h

/-! ## Writing one character -/

theorem val_toNat_ofNat {n : Nat} (h : n.isValidChar) : (Char.ofNat n).val.toNat = n := by
  rw [Char.ofNat, dif_pos h]
  rfl

/-- The number of a character is a code point and no surrogate. -/
theorem isValidChar_val (char : Char) : char.val.toNat.isValidChar :=
  char.valid

/-- The front of a written character is that character. -/
theorem next_utf8EncodeChar (char : Char) (rest : Octets) :
    ∃ lead tail, String.utf8EncodeChar char = lead :: tail ∧
      next lead (tail ++ rest) = .scalar char rest := by
  have hvalid := isValidChar_val char
  have hback : Char.ofNat char.val.toNat = char := Char.ofNat_toNat char
  unfold String.utf8EncodeChar
  generalize char.val.toNat = v at hvalid hback
  dsimp only
  split_ifs with hone htwo hthree
  · refine ⟨_, _, rfl, ?_⟩
    have hlead := toNat_ofNat_of_lt (n := v) (by omega)
    rw [List.nil_append, next_one (width_eq_one_iff.mpr (by omega)), hlead, hback]
  · refine ⟨_, _, rfl, ?_⟩
    have hlead := toNat_ofNat_of_lt (n := v / 64 % 0x20 + 0xC0) (by omega)
    have hb := toNat_ofNat_of_lt (n := v % 0x40 + 0x80) (by omega)
    rw [List.cons_append, List.nil_append, next_two (width_eq_two_iff.mpr (by omega))
      (isSecond_iff.mpr (by omega)), payload, hlead, hb,
      show (v / 64 % 0x20 + 0xC0) % 32 * 64 + (v % 0x40 + 0x80) % 64 = v by omega, hback]
  · refine ⟨_, _, rfl, ?_⟩
    have hlead := toNat_ofNat_of_lt (n := v / 4096 % 0x10 + 0xE0) (by omega)
    have hb := toNat_ofNat_of_lt (n := v / 64 % 0x40 + 0x80) (by omega)
    have hc := toNat_ofNat_of_lt (n := v % 0x40 + 0x80) (by omega)
    have hvalue : (v / 4096 % 0x10 + 0xE0) % 16 * 4096 + (v / 64 % 0x40 + 0x80) % 64 * 64 +
        (v % 0x40 + 0x80) % 64 = v := by omega
    rw [List.cons_append, List.cons_append, List.nil_append,
      next_three (width_eq_three_iff.mpr (by omega))
        (isSecond_iff.mpr (by rcases hvalid with hvalid | hvalid <;> omega))
        (isTail_iff.mpr (by omega)), payload, payload, hlead, hb, hc, hvalue, hback]
  · refine ⟨_, _, rfl, ?_⟩
    have hlead := toNat_ofNat_of_lt (n := v / 262144 % 0x08 + 0xF0) (by omega)
    have hb := toNat_ofNat_of_lt (n := v / 4096 % 0x40 + 0x80) (by omega)
    have hc := toNat_ofNat_of_lt (n := v / 64 % 0x40 + 0x80) (by omega)
    have hd := toNat_ofNat_of_lt (n := v % 0x40 + 0x80) (by omega)
    have hbound : v < 0x110000 := by rcases hvalid with hvalid | hvalid <;> omega
    have hvalue : (v / 262144 % 0x08 + 0xF0) % 8 * 262144 +
        (v / 4096 % 0x40 + 0x80) % 64 * 4096 + (v / 64 % 0x40 + 0x80) % 64 * 64 +
        (v % 0x40 + 0x80) % 64 = v := by omega
    rw [List.cons_append, List.cons_append, List.cons_append, List.nil_append,
      next_four (width_eq_four_iff.mpr (by omega)) (isSecond_iff.mpr (by omega))
        (isTail_iff.mpr (by omega)) (isTail_iff.mpr (by omega)),
      payload, payload, payload, hlead, hb, hc, hd, hvalue, hback]

/-- A character that is read at the front was written there. -/
theorem eq_utf8EncodeChar_append {lead : UInt8} {rest tail : Octets} {char : Char}
    (h : next lead rest = .scalar char tail) :
    lead :: rest = String.utf8EncodeChar char ++ tail := by
  obtain ⟨hlead, rfl, rfl⟩ | ⟨b, hlead, hb, rfl, rfl⟩ | ⟨b, c, hlead, hb, hc, rfl, rfl⟩ |
    ⟨b, c, d, hlead, hb, hc, hd, rfl, rfl⟩ := next_eq_scalar h
  · rw [width_eq_one_iff] at hlead
    have hvalue := val_toNat_ofNat (n := lead.toNat) (.inl (by omega))
    simp only [String.utf8EncodeChar, hvalue]
    rw [if_pos (by omega), UInt8.ofNat_toNat]
    rfl
  · rw [width_eq_two_iff] at hlead
    rw [isSecond_iff] at hb
    have hpb : payload b = b.toNat % 64 := rfl
    have hvalue := val_toNat_ofNat (n := lead.toNat % 32 * 64 + payload b) (.inl (by omega))
    simp only [String.utf8EncodeChar, hvalue]
    rw [if_neg (by omega), if_pos (by omega), ofNat_eq_of_toNat lead (by omega),
      ofNat_eq_of_toNat b (by omega)]
    rfl
  · rw [width_eq_three_iff] at hlead
    rw [isSecond_iff] at hb
    rw [isTail_iff] at hc
    have hpb : payload b = b.toNat % 64 := rfl
    have hpc : payload c = c.toNat % 64 := rfl
    have hvalue := val_toNat_ofNat (n := lead.toNat % 16 * 4096 + payload b * 64 + payload c)
      (by simp only [Nat.isValidChar]; omega)
    simp only [String.utf8EncodeChar, hvalue]
    rw [if_neg (by omega), if_neg (by omega), if_pos (by omega),
      ofNat_eq_of_toNat lead (by omega), ofNat_eq_of_toNat b (by omega),
      ofNat_eq_of_toNat c (by omega)]
    rfl
  · rw [width_eq_four_iff] at hlead
    rw [isSecond_iff] at hb
    rw [isTail_iff] at hc hd
    have hpb : payload b = b.toNat % 64 := rfl
    have hpc : payload c = c.toNat % 64 := rfl
    have hpd : payload d = d.toNat % 64 := rfl
    have hvalue := val_toNat_ofNat
      (n := lead.toNat % 8 * 262144 + payload b * 4096 + payload c * 64 + payload d)
      (by simp only [Nat.isValidChar]; omega)
    simp only [String.utf8EncodeChar, hvalue]
    rw [if_neg (by omega), if_neg (by omega), if_neg (by omega),
      ofNat_eq_of_toNat lead (by omega), ofNat_eq_of_toNat b (by omega),
      ofNat_eq_of_toNat c (by omega), ofNat_eq_of_toNat d (by omega)]
    rfl

/-- No character begins like another one. -/
theorem utf8EncodeChar_append_inj {first second : Char} {rest tail : Octets}
    (h : String.utf8EncodeChar first ++ rest = String.utf8EncodeChar second ++ tail) :
    first = second ∧ rest = tail := by
  obtain ⟨lead, more, hfirst, hnext⟩ := next_utf8EncodeChar first rest
  obtain ⟨lead', more', hsecond, hnext'⟩ := next_utf8EncodeChar second tail
  rw [hfirst, hsecond, List.cons_append, List.cons_append, List.cons.injEq] at h
  rw [h.1, h.2, hnext'] at hnext
  cases hnext
  exact ⟨rfl, rfl⟩

/-- The first octet of a character goes on with no other one, and all others do. -/
theorem exists_lead (char : Char) :
    ∃ lead tail, String.utf8EncodeChar char = lead :: tail ∧ isTail lead = false ∧
      ∀ octet ∈ tail, isTail octet = true := by
  have hlead : ∀ {lead : UInt8}, lead.toNat ≤ 0x7F ∨ 0xC2 ≤ lead.toNat → isTail lead = false := by
    intro lead hrange
    rw [Bool.eq_false_iff, Ne, isTail_iff]
    omega
  have hsecond : ∀ {lead b : UInt8}, isSecond lead b = true → isTail b = true := by
    intro lead b hb
    exact isTail_iff.mpr (isSecond_iff.mp hb).1
  obtain ⟨lead, tail, hchar, hnext⟩ := next_utf8EncodeChar char []
  rw [List.append_nil] at hnext
  refine ⟨lead, tail, hchar, ?_⟩
  obtain ⟨hwidth, -, rfl⟩ | ⟨b, hwidth, hb, -, rfl⟩ | ⟨b, c, hwidth, hb, hc, -, rfl⟩ |
    ⟨b, c, d, hwidth, hb, hc, hd, -, rfl⟩ := next_eq_scalar hnext
  · rw [width_eq_one_iff] at hwidth
    exact ⟨hlead (.inl hwidth), by simp⟩
  · rw [width_eq_two_iff] at hwidth
    exact ⟨hlead (.inr hwidth.1), by simp [hsecond hb]⟩
  · rw [width_eq_three_iff] at hwidth
    exact ⟨hlead (.inr (by omega)), by simp [hsecond hb, hc]⟩
  · rw [width_eq_four_iff] at hwidth
    exact ⟨hlead (.inr (by omega)), by simp [hsecond hb, hc, hd]⟩

/-! ## Whole texts -/

theorem scan_encode_append (text : List Char) (rest : Octets) :
    scan (encode text ++ rest) = (text ++ (scan rest).1, (scan rest).2) := by
  induction text with
  | nil => rfl
  | cons char text ih =>
      obtain ⟨lead, tail, hchar, hnext⟩ := next_utf8EncodeChar char (encode text ++ rest)
      rw [encode_cons, hchar, List.cons_append, List.cons_append, scan, List.append_assoc]
      split
      · next found hfound =>
          rw [hnext] at hfound
          cases hfound
          rw [ih]
          rfl
      · next hfound =>
          rw [hnext] at hfound
          cases hfound

/-- Strict reading gives back what was written. -/
@[simp] theorem decode?_encode (text : List Char) : decode? (encode text) = some text := by
  have hscan := scan_encode_append text []
  rw [List.append_nil, scan, List.append_nil] at hscan
  rw [decode?, hscan]

/-- A text and what follows it are the octets that were scanned. -/
theorem encode_scan (octets : Octets) : encode (scan octets).1 ++ (scan octets).2 = octets := by
  induction octets using scan.induct with
  | case1 =>
      rw [scan]
      rfl
  | case2 lead rest char tail hfront ih =>
      rw [scan]
      split
      · next found hfound =>
          rw [hfront] at hfound
          cases hfound
          rw [encode_cons, List.append_assoc, ih, ← eq_utf8EncodeChar_append hfront]
      · next hfound =>
          rw [hfront] at hfound
          cases hfound
  | case3 lead rest tail hfront =>
      rw [scan]
      split
      · next hfound =>
          rw [hfront] at hfound
          cases hfound
      · rfl

/-- What is read strictly was written so. -/
theorem encode_of_decode? {octets : Octets} {text : List Char}
    (h : decode? octets = some text) : encode text = octets := by
  have hwhole := encode_scan octets
  unfold decode? at h
  split at h
  · next found hscan =>
      cases h
      rwa [hscan, List.append_nil] at hwhole
  · cases h

theorem encode_injective {first second : List Char} (h : encode first = encode second) :
    first = second := by
  have hread := congrArg decode? h
  rw [decode?_encode, decode?_encode] at hread
  exact Option.some.inj hread

@[simp] theorem octets_ofList (text : List Char) :
    octets (String.ofList text) = encode text := by
  rw [octets, String.toList_ofList]

@[simp] theorem octets_append (first second : String) :
    octets (first ++ second) = octets first ++ octets second := by
  rw [octets, String.toList_append, encode_append, octets, octets]

theorem octets_inj {first second : String} : octets first = octets second ↔ first = second := by
  constructor
  · intro h
    exact String.toList_inj.mp (encode_injective h)
  · rintro rfl
    rfl

/-- Reading with replacement characters needs none for what was written. -/
theorem lossy_encode (text : List Char) : lossy (encode text) = text := by
  induction text with
  | nil => rw [encode_nil, lossy]
  | cons char text ih =>
      obtain ⟨lead, tail, hchar, hnext⟩ := next_utf8EncodeChar char (encode text)
      rw [encode_cons, hchar, List.cons_append, lossy]
      split
      · next found hfound =>
          rw [hnext] at hfound
          cases hfound
          rw [ih]
      · next hfound =>
          rw [hnext] at hfound
          cases hfound

/-- A string is displayed as it was written. -/
@[simp] theorem display_octets (text : String) : display (octets text) = text := by
  rw [display, octets, lossy_encode, String.ofList_toList]

/-! ## ASCII -/

theorem utf8EncodeChar_of_ascii {char : Char} (h : char.toNat ≤ 0x7F) :
    String.utf8EncodeChar char = [UInt8.ofNat char.toNat] := by
  rw [String.utf8EncodeChar]
  exact if_pos h

/-- All octets of a character beyond ASCII have the high bit set. -/
theorem high_of_mem_utf8EncodeChar {char : Char} (h : 0x7F < char.toNat) {octet : UInt8}
    (hmem : octet ∈ String.utf8EncodeChar char) : 0x80 ≤ octet.toNat := by
  change 0x7F < char.val.toNat at h
  unfold String.utf8EncodeChar at hmem
  generalize char.val.toNat = v at h hmem
  dsimp only at hmem
  split_ifs at hmem with hone htwo hthree
  · omega
  all_goals
    simp only [List.mem_cons, List.not_mem_nil, or_false] at hmem
    obtain rfl | rfl | rfl | rfl := hmem
    all_goals
      rw [toNat_ofNat_of_lt (by omega)]
      omega

/-- No octet of a character from the space on is one of the controls. -/
theorem le_of_mem_utf8EncodeChar {char : Char} (h : 0x20 ≤ char.toNat) {octet : UInt8}
    (hmem : octet ∈ String.utf8EncodeChar char) : 0x20 ≤ octet.toNat := by
  by_cases hascii : char.toNat ≤ 0x7F
  · rw [utf8EncodeChar_of_ascii hascii, List.mem_singleton] at hmem
    rw [hmem, toNat_ofNat_of_lt (by omega)]
    exact h
  · have hhigh := high_of_mem_utf8EncodeChar (by omega) hmem
    omega

/-- An ASCII octet stands for its character alone. -/
theorem mem_utf8EncodeChar_iff (mark : Char) (hmark : mark.toNat ≤ 0x7F) (char : Char) :
    UInt8.ofNat mark.toNat ∈ String.utf8EncodeChar char ↔ char = mark := by
  have hnumber := toNat_ofNat_of_lt (n := mark.toNat) (by omega)
  constructor
  · intro hmem
    by_cases hchar : char.toNat ≤ 0x7F
    · rw [utf8EncodeChar_of_ascii hchar, List.mem_singleton] at hmem
      have heq := congrArg UInt8.toNat hmem
      rw [hnumber, toNat_ofNat_of_lt (by omega)] at heq
      exact (Char.toNat_inj.mp heq).symm
    · have hhigh := high_of_mem_utf8EncodeChar (by omega) hmem
      omega
  · rintro rfl
    rw [utf8EncodeChar_of_ascii hmark]
    exact List.mem_singleton_self _

theorem mem_encode_iff (mark : Char) (hmark : mark.toNat ≤ 0x7F) (text : List Char) :
    UInt8.ofNat mark.toNat ∈ encode text ↔ mark ∈ text := by
  simp only [encode, List.mem_flatMap, mem_utf8EncodeChar_iff mark hmark, exists_eq_right]

/-- Cutting a text off at an ASCII character cuts its octets off at the octet of that. -/
theorem takeWhile_encode (mark : Char) (hmark : mark.toNat ≤ 0x7F) (text : List Char) :
    (encode text).takeWhile (· ≠ UInt8.ofNat mark.toNat) =
      encode (text.takeWhile (· ≠ mark)) := by
  induction text with
  | nil => rfl
  | cons char text ih =>
      rw [encode_cons]
      by_cases hchar : char = mark
      · subst hchar
        rw [utf8EncodeChar_of_ascii hmark, List.singleton_append,
          List.takeWhile_cons_of_neg (by simp), List.takeWhile_cons_of_neg (by simp)]
        rfl
      · have hall : ∀ octet ∈ String.utf8EncodeChar char,
            decide (octet ≠ UInt8.ofNat mark.toNat) = true := by
          intro octet hmem
          rw [decide_eq_true_eq]
          rintro rfl
          exact hchar ((mem_utf8EncodeChar_iff mark hmark char).mp hmem)
        rw [List.takeWhile_append_of_pos hall, ih, List.takeWhile_cons_of_pos (by simpa),
          encode_cons]

end Utf8

end Beacon
