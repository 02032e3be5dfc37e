import Beacon.Proofs.Json.Grammar
import Beacon.Proofs.Json.Text

/-!
# Strings against the grammar

What is read as a string is a string of the grammar, with the text that it denotes, and every
string of the grammar is read. The same holds of strings that are passed over. Octets are checked
to be UTF-8 only after the escapes have been replaced; an escape cannot complete a character that
was begun before it, so each character stands in one piece.
-/

namespace Beacon.Json

/-! ## Hexadecimal digits -/

theorem hexValue?_eq_some_iff {octet : UInt8} {n : Nat} :
    hexValue? octet = some n ↔ HexDigit octet n := by
  constructor
  · intro h
    unfold hexValue? at h
    simp only [UInt8.le_iff_toNat_le, UInt8.reduceToNat] at h
    split_ifs at h with hdecimal hupper hlower
    · obtain ⟨m, hm⟩ := Nat.exists_eq_add_of_le hdecimal.1
      have hoctet := Utf8.ofNat_eq_of_toNat octet hm
      obtain rfl : m = n := by
        rw [hm, Nat.add_sub_cancel_left] at h
        exact Option.some.inj h
      exact hoctet ▸ .decimal (by omega)
    · obtain ⟨m, hm⟩ := Nat.exists_eq_add_of_le hupper.1
      have hoctet := Utf8.ofNat_eq_of_toNat octet hm
      obtain rfl : 10 + m = n := by
        rw [hm, Nat.add_sub_cancel_left, Nat.add_comm] at h
        exact Option.some.inj h
      exact hoctet ▸ .upper (by omega)
    · obtain ⟨m, hm⟩ := Nat.exists_eq_add_of_le hlower.1
      have hoctet := Utf8.ofNat_eq_of_toNat octet hm
      obtain rfl : 10 + m = n := by
        rw [hm, Nat.add_sub_cancel_left, Nat.add_comm] at h
        exact Option.some.inj h
      exact hoctet ▸ .lower (by omega)
  · have hdecimal : ∀ n : Fin 10, hexValue? (UInt8.ofNat (0x30 + n)) = some n.val := by decide
    have hupper : ∀ n : Fin 6, hexValue? (UInt8.ofNat (0x41 + n)) = some (10 + n.val) := by decide
    have hlower : ∀ n : Fin 6, hexValue? (UInt8.ofNat (0x61 + n)) = some (10 + n.val) := by decide
    intro h
    cases h with
    | @decimal n hn => exact hdecimal ⟨n, hn⟩
    | @upper n hn => exact hupper ⟨n, hn⟩
    | @lower n hn => exact hlower ⟨n, hn⟩

theorem HexDigit.lt {octet : UInt8} {n : Nat} (h : HexDigit octet n) : n < 16 := by
  cases h <;> omega

theorem HexNumber.lt {octets : Octets} {n : Nat} (h : HexNumber octets n) : n < 0x10000 := by
  cases h with
  | digits ha hb hc hd =>
      have := ha.lt
      have := hb.lt
      have := hc.lt
      have := hd.lt
      omega

/-- Four digits are read as the number that they spell. -/
theorem readHex_eq_ok_iff {octets rest : Octets} {n : Nat} :
    readHex octets = .ok (n, rest) ↔ ∃ digits, HexNumber digits n ∧ octets = digits ++ rest := by
  constructor
  · intro h
    unfold readHex at h
    split at h
    next a b c d after =>
      split at h
      next number hnumber =>
        cases h
        simp only [hexNumber?, Option.bind_eq_bind, Option.bind_eq_some_iff, Option.pure_def,
          Option.some.injEq] at hnumber
        obtain ⟨p, hp, q, hq, r, hr, s, hs, rfl⟩ := hnumber
        exact ⟨[a, b, c, d], .digits (hexValue?_eq_some_iff.mp hp) (hexValue?_eq_some_iff.mp hq)
          (hexValue?_eq_some_iff.mp hr) (hexValue?_eq_some_iff.mp hs), rfl⟩
      · cases h
    · cases h
  · rintro ⟨digits, hdigits, rfl⟩
    cases hdigits with
    | digits ha hb hc hd =>
        simp only [readHex, hexNumber?, List.cons_append, List.nil_append,
          hexValue?_eq_some_iff.mpr ha, hexValue?_eq_some_iff.mpr hb,
          hexValue?_eq_some_iff.mpr hc, hexValue?_eq_some_iff.mpr hd]
        rfl

/-! ## Escapes -/

theorem namedEscape?_eq_some_iff {mark : UInt8} {char : Char} :
    namedEscape? mark = some char ↔ (mark, char) ∈ escapeLetters := by
  constructor
  · intro h
    unfold namedEscape? at h
    split_ifs at h with h₁ h₂ h₃ h₄ h₅ h₆ h₇ h₈
    all_goals
      cases h
      subst mark
      decide
  · have hall : ∀ pair ∈ escapeLetters, namedEscape? pair.1 = some pair.2 := by decide
    exact hall (mark, char)

theorem ne_letterU_of_mem_escapeLetters {mark : UInt8} {char : Char}
    (h : (mark, char) ∈ escapeLetters) : mark ≠ letterU := by
  have hall : ∀ pair ∈ escapeLetters, pair.1 ≠ letterU := by decide
  exact hall _ h

theorem isTrailing_iff {n : Nat} : isTrailing n = true ↔ 0xDC00 ≤ n ∧ n ≤ 0xDFFF := by
  rw [isTrailing, Bool.and_eq_true, decide_eq_true_eq, decide_eq_true_eq]

theorem isLeading_iff {n : Nat} : isLeading n = true ↔ 0xD800 ≤ n ∧ n ≤ 0xDBFF := by
  rw [isLeading, Bool.and_eq_true, decide_eq_true_eq, decide_eq_true_eq]

/-- The number of a character is no half of a surrogate pair. -/
theorem not_surrogate (char : Char) :
    isTrailing char.toNat = false ∧ isLeading char.toNat = false := by
  have hvalid : char.toNat < 0xD800 ∨ 0xDFFF < char.toNat ∧ char.toNat < 0x110000 := char.valid
  simp only [isTrailing, isLeading, Bool.and_eq_false_iff, decide_eq_false_iff_not]
  omega

/-- A number that is no half of a surrogate pair is that of a character. -/
theorem toNat_ofNat_of_not_surrogate {n : Nat} (hn : n < 0x10000)
    (htrailing : ¬ isTrailing n = true)
    (hleading : ¬ isLeading n = true) : (Char.ofNat n).toNat = n := by
  apply Utf8.val_toNat_ofNat
  simp only [isTrailing, isLeading, Bool.and_eq_true, decide_eq_true_eq] at htrailing hleading
  simp only [Nat.isValidChar]
  omega

theorem toNat_pairChar {high low : Nat} (hhigh : 0xD800 ≤ high ∧ high ≤ 0xDBFF)
    (hlow : 0xDC00 ≤ low ∧ low ≤ 0xDFFF) :
    (pairChar high low).toNat = (high - 0xD800) * 0x400 + (low - 0xDC00) + 0x10000 := by
  apply Utf8.val_toNat_ofNat
  simp only [Nat.isValidChar]
  omega

theorem readTrailing_eq_ok_iff {high : Nat} {octets rest : Octets} {char : Char} :
    readTrailing high octets = .ok (char, rest) ↔
      ∃ second low, HexNumber second low ∧ (0xDC00 ≤ low ∧ low ≤ 0xDFFF) ∧
        char = pairChar high low ∧ octets = backslash :: letterU :: second ++ rest := by
  constructor
  · intro h
    unfold readTrailing at h
    split at h
    · cases h
    next a after =>
      split at h
      · cases h
      next ha =>
        split at h
        · cases h
        next b after =>
          split at h
          · cases h
          next hb =>
            split at h
            · cases h
            next low final hread =>
              split at h
              next hlow =>
                rw [Except.ok.injEq, Prod.mk.injEq] at h
                obtain ⟨second, hsecond, rfl⟩ := readHex_eq_ok_iff.mp hread
                rw [not_not.mp ha, not_not.mp hb, ← h.2]
                exact ⟨second, low, hsecond, isTrailing_iff.mp hlow, h.1.symm, rfl⟩
              · cases h
  · rintro ⟨second, low, hsecond, hlow, hchar, rfl⟩
    have hread : readHex (second ++ rest) = .ok (low, rest) :=
      readHex_eq_ok_iff.mpr ⟨second, hsecond, rfl⟩
    simp only [readTrailing, List.cons_append, ne_eq, not_true_eq_false, if_false, hread,
      isTrailing_iff.mpr hlow, if_true, hchar]

/-- An escape that is read is an escape of the character that it is read as. -/
theorem readEscape_eq_ok_iff {octets rest : Octets} {char : Char} :
    readEscape octets = .ok (char, rest) ↔
      ∃ escape, Escapes escape char ∧ octets = escape ++ rest := by
  constructor
  · intro h
    unfold readEscape at h
    split at h
    · cases h
    next letter after =>
      split at h
      next hletter =>
        subst hletter
        split at h
        · cases h
        next n middle hread =>
          obtain ⟨digits, hdigits, rfl⟩ := readHex_eq_ok_iff.mp hread
          split at h
          · cases h
          next htrailing =>
            split at h
            next hleading =>
              obtain ⟨second, low, hsecond, hlow, hchar, rfl⟩ := readTrailing_eq_ok_iff.mp h
              have hhigh := isLeading_iff.mp hleading
              have hnumber := toNat_pairChar hhigh hlow
              rw [← hchar] at hnumber
              refine ⟨_, .pair hdigits hsecond hhigh hlow hnumber, ?_⟩
              simp only [List.cons_append, List.append_assoc]
            next hleading =>
              cases h
              have hchar := toNat_ofNat_of_not_surrogate hdigits.lt htrailing hleading
              exact ⟨letterU :: digits, .number (hchar.symm ▸ hdigits), rfl⟩
      · split at h
        next hnamed =>
          cases h
          exact ⟨[letter], .letter (namedEscape?_eq_some_iff.mp hnamed), rfl⟩
        · cases h
  · rintro ⟨escape, hescape, rfl⟩
    cases hescape with
    | @letter mark char h =>
        exact readEscape_named (ne_letterU_of_mem_escapeLetters h)
          (namedEscape?_eq_some_iff.mpr h) rest
    | @number digits char h =>
        obtain ⟨htrailing, hleading⟩ := not_surrogate char
        have hread : readHex (digits ++ rest) = .ok (char.toNat, rest) :=
          readHex_eq_ok_iff.mpr ⟨digits, h, rfl⟩
        simp only [readEscape, List.cons_append, if_true, hread, htrailing, hleading,
          Bool.false_eq_true, if_false, Char.ofNat_toNat]
    | @pair first second high low char hfirst hsecond hhigh hlow hchar =>
        have hread : readHex (first ++ (backslash :: letterU :: (second ++ rest))) =
            .ok (high, backslash :: letterU :: (second ++ rest)) :=
          readHex_eq_ok_iff.mpr ⟨first, hfirst, rfl⟩
        have htrailing : isTrailing high = false := by
          simp only [isTrailing, Bool.and_eq_false_iff, decide_eq_false_iff_not]
          omega
        have hleading : isLeading high = true := isLeading_iff.mpr hhigh
        have hpair : readTrailing high (backslash :: letterU :: (second ++ rest)) =
            .ok (char, rest) :=
          readTrailing_eq_ok_iff.mpr ⟨second, low, hsecond, hlow,
            Char.toNat_inj.mp (hchar.trans (toNat_pairChar hhigh hlow).symm), rfl⟩
        simp only [readEscape, List.cons_append, List.append_assoc, if_true, hread, htrailing,
          hleading, Bool.false_eq_true, if_false, hpair]

/-! ## Strings that are read -/

/-- What may stand in a string for some octets, which need not be a text. -/
inductive DenotesOctets : Octets → Octets → Prop where
  | nil : DenotesOctets [] []
  | plain {octet : UInt8} {octets content : Octets} (hplain : IsPlain octet)
      (hrest : DenotesOctets octets content) : DenotesOctets (octet :: octets) (octet :: content)
  | escaped {escape octets content : Octets} {char : Char} (hescape : Escapes escape char)
      (hrest : DenotesOctets octets content) :
      DenotesOctets (backslash :: escape ++ octets) (String.utf8EncodeChar char ++ content)

theorem denotes_of_readOctets {octets content rest : Octets}
    (h : readOctets octets = .ok (content, rest)) :
    ∃ front, DenotesOctets front content ∧ octets = front ++ quoteMark :: rest := by
  fun_induction readOctets octets generalizing content with
  | case1 => cases h
  | case2 after =>
      cases h
      exact ⟨[], .nil, rfl⟩
  | case3 => cases h
  | case4 => cases h
  | case5 after char middle hread more final hinner _ ih =>
      cases h
      obtain ⟨escape, hescape, rfl⟩ := readEscape_eq_ok_iff.mp hread
      obtain ⟨front, hfront, rfl⟩ := ih hinner
      refine ⟨_, .escaped hescape hfront, ?_⟩
      rw [List.cons_append, List.cons_append, List.append_assoc]
  | case6 => cases h
  | case7 => cases h
  | case8 octet after hquote hbackslash hcontrol more final hinner ih =>
      cases h
      obtain ⟨front, hfront, rfl⟩ := ih hinner
      exact ⟨octet :: front, .plain ⟨hquote, hbackslash, hcontrol⟩ hfront, rfl⟩

/-- Octets with which no character begins stand for themselves. -/
theorem DenotesOctets.of_tail {tail octets content : Octets}
    (htail : ∀ octet ∈ tail, Utf8.isTail octet = true)
    (h : DenotesOctets octets (tail ++ content)) :
    ∃ later, octets = tail ++ later ∧ DenotesOctets later content := by
  induction tail generalizing octets with
  | nil => exact ⟨octets, rfl, h⟩
  | cons first tail ih =>
      rw [List.cons_append] at h
      generalize hwhole : first :: (tail ++ content) = whole at h
      cases h with
      | nil => cases hwhole
      | plain _ hrest =>
          cases hwhole
          obtain ⟨later, rfl, hlater⟩ :=
            ih (fun octet hmem => htail octet (List.mem_cons_of_mem _ hmem)) hrest
          exact ⟨later, rfl, hlater⟩
      | @escaped escape more content' char hescape hrest =>
          obtain ⟨lead, others, hchar, hlead, -⟩ := Utf8.exists_lead char
          rw [hchar, List.cons_append, List.cons.injEq] at hwhole
          rw [← hwhole.1, htail first List.mem_cons_self] at hlead
          cases hlead

/-- A character is denoted in one piece. -/
theorem DenotesOctets.of_char {octets content : Octets} {char : Char}
    (h : DenotesOctets octets (String.utf8EncodeChar char ++ content)) :
    ∃ piece later, octets = piece ++ later ∧ Denotes piece char ∧
      DenotesOctets later content := by
  obtain ⟨lead, tail, hchar, -, htail⟩ := Utf8.exists_lead char
  generalize hwhole : String.utf8EncodeChar char ++ content = whole at h
  cases h with
  | nil =>
      rw [hchar] at hwhole
      cases hwhole
  | @plain octet more content' hplain hrest =>
      rw [hchar, List.cons_append, List.cons.injEq] at hwhole
      obtain ⟨rfl, rfl⟩ := hwhole
      obtain ⟨later, rfl, hlater⟩ := hrest.of_tail htail
      refine ⟨lead :: tail, later, rfl, ?_, hlater⟩
      rw [← hchar]
      obtain ⟨hquote, hbackslash, hcontrol⟩ := hplain
      refine .itself ?_ ?_ ?_
      · rintro rfl
        exact hquote (List.cons.inj hchar).1.symm
      · rintro rfl
        exact hbackslash (List.cons.inj hchar).1.symm
      · by_contra hlow
        rw [Utf8.utf8EncodeChar_of_ascii (by omega)] at hchar
        obtain ⟨hsame, -⟩ := List.cons.inj hchar
        rw [← hsame, UInt8.lt_iff_toNat_lt, Utf8.toNat_ofNat_of_lt (by omega)] at hcontrol
        exact hcontrol (Nat.not_le.mp hlow)
  | @escaped escape more content' char' hescape hrest =>
      obtain ⟨rfl, rfl⟩ := Utf8.utf8EncodeChar_append_inj hwhole
      exact ⟨_, more, rfl, .escaped hescape, hrest⟩

theorem DenotesOctets.text {octets : Octets} {text : List Char}
    (h : DenotesOctets octets (Utf8.encode text)) : DenotesText octets text := by
  induction text generalizing octets with
  | nil =>
      generalize hempty : Utf8.encode [] = content at h
      cases h with
      | nil => exact .nil
      | plain => cases hempty
      | escaped =>
          obtain ⟨lead, tail, hchar, -⟩ := Utf8.exists_lead _
          rw [hchar] at hempty
          cases hempty
  | cons char text ih =>
      rw [Utf8.encode_cons] at h
      obtain ⟨piece, later, rfl, hpiece, hlater⟩ := h.of_char
      exact .cons hpiece (ih hlater)

theorem readOctets_of_denotes {octets : Octets} {char : Char} (h : Denotes octets char)
    (rest : Octets) :
    readOctets (octets ++ rest) =
      (readOctets rest).map (prepend (String.utf8EncodeChar char)) := by
  cases h with
  | itself hquote hbackslash hvisible =>
      exact readOctets_plain_append
        (isPlain_of_mem_utf8EncodeChar hquote hbackslash (Nat.not_lt.mpr hvisible)) rest
  | escaped hescape => exact readOctets_escape (readEscape_eq_ok_iff.mpr ⟨_, hescape, rfl⟩)

theorem readOctets_of_denotesText {octets : Octets} {text : List Char}
    (h : DenotesText octets text) (rest : Octets) :
    readOctets (octets ++ quoteMark :: rest) = .ok (Utf8.encode text, rest) := by
  induction h with
  | nil => exact readOctets_quote rest
  | cons hchar _ ih =>
      rw [List.append_assoc, readOctets_of_denotes hchar, ih, Utf8.encode_cons]
      rfl

/-- Reading a string after its opening quote. -/
theorem readString_eq_ok_iff {octets rest : Octets} {text : List Char} :
    readString octets = .ok (text, rest) ↔
      ∃ front, DenotesText front text ∧ octets = front ++ quoteMark :: rest := by
  constructor
  · intro h
    unfold readString at h
    split at h
    · cases h
    next content after hread =>
      split at h
      next found hfound =>
        cases h
        obtain ⟨front, hfront, rfl⟩ := denotes_of_readOctets hread
        rw [← Utf8.encode_of_decode? hfound] at hfront
        exact ⟨front, hfront.text, rfl⟩
      · cases h
  · rintro ⟨front, hfront, rfl⟩
    rw [readString, readOctets_of_denotesText hfront]
    simp only [Utf8.decode?_encode]

/-! ## Strings that are passed over -/

theorem skipEscape_eq_ok_iff {octets rest : Octets} :
    skipEscape octets = .ok rest ↔
      ∃ escape, LoosePart (backslash :: escape) ∧ octets = escape ++ rest := by
  constructor
  · intro h
    unfold skipEscape at h
    split at h
    · cases h
    next letter after =>
      split at h
      next hletter =>
        subst hletter
        cases hread : readHex after with
        | error fault =>
            rw [hread] at h
            cases h
        | ok found =>
            rw [hread] at h
            cases h
            obtain ⟨digits, hdigits, rfl⟩ := readHex_eq_ok_iff.mp hread
            exact ⟨letterU :: digits, .number hdigits, rfl⟩
      · split at h
        next hnamed =>
          cases h
          exact ⟨[letter], .letter (namedEscape?_eq_some_iff.mp hnamed), rfl⟩
        · cases h
  · rintro ⟨escape, hpart, rfl⟩
    cases hpart with
    | plain _ hbackslash _ => exact absurd rfl hbackslash
    | letter h =>
        simp only [skipEscape, List.cons_append, if_neg (ne_letterU_of_mem_escapeLetters h),
          namedEscape?_eq_some_iff.mpr h, List.nil_append]
    | @number digits n h =>
        have hread : readHex (digits ++ rest) = .ok (n, rest) :=
          readHex_eq_ok_iff.mpr ⟨digits, h, rfl⟩
        simp only [skipEscape, List.cons_append, if_true, hread, Except.map]

theorem skipString_escape {octets rest : Octets} (h : skipEscape octets = .ok rest) :
    skipString (backslash :: octets) = skipString rest := by
  rw [skipString, if_neg (by decide), if_pos rfl]
  split
  next fault hread =>
    rw [h] at hread
    cases hread
  next after hread =>
    rw [h] at hread
    cases hread
    rfl

/-- Passing over a string after its opening quote. -/
theorem skipString_eq_ok_iff {octets rest : Octets} :
    skipString octets = .ok rest ↔
      ∃ front, LooseText front ∧ octets = front ++ quoteMark :: rest := by
  constructor
  · intro h
    fun_induction skipString octets with
    | case1 => cases h
    | case2 after =>
        cases h
        exact ⟨[], .nil, rfl⟩
    | case3 => cases h
    | case4 after middle hskip _ ih =>
        obtain ⟨escape, hpart, rfl⟩ := skipEscape_eq_ok_iff.mp hskip
        obtain ⟨front, hfront, rfl⟩ := ih h
        refine ⟨_, .cons hpart hfront, ?_⟩
        rw [List.cons_append, List.cons_append, List.append_assoc]
    | case5 => cases h
    | case6 octet after hquote hbackslash hcontrol ih =>
        obtain ⟨front, hfront, rfl⟩ := ih h
        exact ⟨octet :: front, .cons (.plain hquote hbackslash hcontrol) hfront, rfl⟩
  · rintro ⟨front, hfront, rfl⟩
    induction hfront with
    | nil => rw [List.nil_append, skipString, if_pos rfl]
    | @cons piece octets hpart _ ih =>
        rw [List.append_assoc]
        cases hpart with
        | plain hquote hbackslash hvisible =>
            rw [List.singleton_append, skipString, if_neg hquote, if_neg hbackslash,
              if_neg hvisible, ih]
        | letter h =>
            exact (skipString_escape (skipEscape_eq_ok_iff.mpr ⟨_, .letter h, rfl⟩)).trans ih
        | number h =>
            exact (skipString_escape (skipEscape_eq_ok_iff.mpr ⟨_, .number h, rfl⟩)).trans ih

/-! ## A string with a text is a string -/

theorem LooseText.append {first second : Octets} (hfirst : LooseText first)
    (hsecond : LooseText second) : LooseText (first ++ second) := by
  induction hfirst with
  | nil => exact hsecond
  | cons hpart _ ih =>
      rw [List.append_assoc]
      exact .cons hpart ih

theorem LooseText.of_plain {octets : Octets} (h : ∀ octet ∈ octets, IsPlain octet) :
    LooseText octets := by
  induction octets with
  | nil => exact .nil
  | cons octet octets ih =>
      obtain ⟨hquote, hbackslash, hvisible⟩ := h octet List.mem_cons_self
      exact .cons (.plain hquote hbackslash hvisible)
        (ih fun other hmem => h other (List.mem_cons_of_mem _ hmem))

theorem LooseText.of_part {octets : Octets} (h : LoosePart octets) : LooseText octets := by
  have htext := LooseText.cons h .nil
  rwa [List.append_nil] at htext

theorem Denotes.looseText {octets : Octets} {char : Char} (h : Denotes octets char) :
    LooseText octets := by
  cases h with
  | itself hquote hbackslash hvisible =>
      exact .of_plain (isPlain_of_mem_utf8EncodeChar hquote hbackslash (Nat.not_lt.mpr hvisible))
  | escaped hescape =>
      cases hescape with
      | letter h => exact .of_part (.letter h)
      | number h => exact .of_part (.number h)
      | pair hfirst hsecond =>
          exact .append (.of_part (.number hfirst)) (.of_part (.number hsecond))

theorem DenotesText.looseText {octets : Octets} {text : List Char} (h : DenotesText octets text) :
    LooseText octets := by
  induction h with
  | nil => exact .nil
  | cons hchar _ ih => exact hchar.looseText.append ih

theorem IsString.wellFormed {octets : Octets} {text : String} (h : IsString octets text) :
    WellFormed .value octets := by
  cases h with
  | quoted h => exact .string h.looseText

end Beacon.Json
