import Beacon.Proofs.Configuration
import Beacon.Proofs.Text.Decimal
import Mathlib.Data.List.Basic
import Mathlib.Data.List.TakeWhile

/-!
# What port numbers are accepted

A port is read from the texts that spell its number: digits, with a plus sign in front of them or
none, and with blanks on both sides. The value of the digits is the number, however many there are
and although it is added up in sixteen bits; every other text is refused as it was read.
-/

namespace Beacon

/-! ## Trimming -/

namespace Text

def Blank (text : List Char) : Prop :=
  ∀ char ∈ text, isBlank char = true

instance (text : List Char) : Decidable (Blank text) :=
  inferInstanceAs (Decidable (∀ char ∈ text, isBlank char = true))

/-- What is trimmed away is blank. -/
theorem exists_trim (text : List Char) :
    ∃ before after, Blank before ∧ Blank after ∧ text = before ++ trim text ++ after := by
  let rest := text.dropWhile isBlank
  refine ⟨text.takeWhile isBlank, (rest.reverse.takeWhile isBlank).reverse, ?_, ?_, ?_⟩
  · exact fun _ hmem => List.mem_takeWhile_imp hmem
  · exact fun _ hmem => List.mem_takeWhile_imp (List.mem_reverse.mp hmem)
  · have hrest : trim text ++ (rest.reverse.takeWhile isBlank).reverse = rest := by
      rw [trim, ← List.reverse_append, List.takeWhile_append_dropWhile, List.reverse_reverse]
    rw [List.append_assoc, hrest, List.takeWhile_append_dropWhile]

/-- A text that neither begins nor ends with a blank is what is left of it between blanks. -/
theorem trim_append {before text after : List Char} (hbefore : Blank before) (hafter : Blank after)
    (hne : text ≠ []) (hfirst : ∀ char ∈ text.head?, isBlank char = false)
    (hlast : ∀ char ∈ text.getLast?, isBlank char = false) :
    trim (before ++ text ++ after) = text := by
  have hstart : ∀ char ∈ (text ++ after).head?, isBlank char = false := by
    rwa [List.head?_append_of_ne_nil _ hne]
  have hfinish : ∀ char ∈ text.reverse.head?, isBlank char = false := by
    rwa [List.head?_reverse]
  have hblank : ∀ char ∈ after.reverse, isBlank char = true :=
    fun char hmem => hafter char (List.mem_reverse.mp hmem)
  rw [trim, List.append_assoc, dropWhile_append_rest hbefore hstart, List.reverse_append,
    dropWhile_append_rest hblank hfinish, List.reverse_reverse]

end Text

/-! ## Spelling -/

def IsSign (sign : List Char) : Prop :=
  sign = [] ∨ sign = ['+']

/-- A text spells a number as ports are written: as one or more digits, zeros in front of them
included, with a sign or none, between blanks. -/
inductive SpellsNumber : List Char → Nat → Prop where
  | intro {before sign digits after : List Char} (hbefore : Text.Blank before)
      (hsign : IsSign sign) (hne : digits ≠ [])
      (hdigits : ∀ char ∈ digits, '0' ≤ char ∧ char ≤ '9') (hafter : Text.Blank after) :
      SpellsNumber (before ++ (sign ++ digits) ++ after) (Decimal.value digits)

namespace Decimal

theorem isSign_unsigned (text : List Char) :
    ∃ sign, IsSign sign ∧ text = sign ++ unsigned text := by
  unfold unsigned
  split
  next rest => exact ⟨['+'], .inr rfl, rfl⟩
  · exact ⟨[], .inl rfl, rfl⟩

theorem ne_plus_of_isDigit {char : Char} (h : isDigit char = true) : char ≠ '+' := by
  rintro rfl
  cases h

theorem isBlank_of_isDigit {char : Char} (h : isDigit char = true) : Text.isBlank char = false := by
  have hzero : 48 ≤ char.toNat := (isDigit_iff.mp h).1
  have hnine : char.toNat ≤ 57 := (isDigit_iff.mp h).2
  simp only [Text.isBlank, Bool.or_eq_false_iff, Bool.and_eq_false_iff, decide_eq_false_iff_not,
    beq_eq_false_iff_ne]
  omega

/-- The sign of digits is told from them. -/
theorem unsigned_append {sign digits : List Char} (hsign : IsSign sign)
    (hdigits : ∀ char ∈ digits, isDigit char = true) : unsigned (sign ++ digits) = digits := by
  obtain rfl | rfl := hsign
  · cases digits with
    | nil => rfl
    | cons char rest =>
        have hplus := ne_plus_of_isDigit (hdigits char List.mem_cons_self)
        rw [List.nil_append, unsigned]
        rintro rest' hcons
        exact hplus (List.cons.inj hcons).1
  · rfl

end Decimal

/-- Between its blanks, a text that spells a number is signed digits. -/
theorem trim_signed {before sign digits after : List Char} (hbefore : Text.Blank before)
    (hsign : IsSign sign) (hne : digits ≠ [])
    (hdigits : ∀ char ∈ digits, Decimal.isDigit char = true) (hafter : Text.Blank after) :
    Text.trim (before ++ (sign ++ digits) ++ after) = sign ++ digits := by
  have hall : ∀ char ∈ sign ++ digits, Text.isBlank char = false := by
    intro char hmem
    obtain hmem | hmem := List.mem_append.mp hmem
    · obtain rfl | rfl := hsign
      · cases hmem
      · obtain rfl := List.mem_singleton.mp hmem
        rfl
    · exact Decimal.isBlank_of_isDigit (hdigits char hmem)
  exact Text.trim_append hbefore hafter (List.append_ne_nil_of_right_ne_nil sign hne)
    (fun char hmem => hall char (List.mem_of_mem_head? hmem))
    fun char hmem => hall char (List.mem_of_mem_getLast? hmem)

/-- A text spells a number exactly if what is left of it without blanks and without a sign is digits
of that value. -/
theorem spellsNumber_iff {text : List Char} {n : Nat} :
    SpellsNumber text n ↔ Decimal.unsigned (Text.trim text) ≠ [] ∧
      (∀ char ∈ Decimal.unsigned (Text.trim text), Decimal.isDigit char = true) ∧
        n = Decimal.value (Decimal.unsigned (Text.trim text)) := by
  constructor
  · intro h
    cases h with
    | intro hbefore hsign hne hdigits hafter =>
    have hall := fun char hmem => Decimal.isDigit_iff.mpr (hdigits char hmem)
    rw [trim_signed hbefore hsign hne hall hafter, Decimal.unsigned_append hsign hall]
    exact ⟨hne, hall, rfl⟩
  · rintro ⟨hne, hall, rfl⟩
    obtain ⟨before, after, hbefore, hafter, htext⟩ := Text.exists_trim text
    obtain ⟨sign, hsign, htrim⟩ := Decimal.isSign_unsigned (Text.trim text)
    have hspells := SpellsNumber.intro hbefore hsign hne
      (fun char hmem => Decimal.isDigit_iff.mp (hall char hmem)) hafter
    rwa [← htrim, ← htext] at hspells

/-- A text spells one number. -/
theorem SpellsNumber.unique {text : List Char} {n m : Nat} (h : SpellsNumber text n)
    (h' : SpellsNumber text m) : n = m := by
  obtain ⟨-, -, rfl⟩ := spellsNumber_iff.mp h
  obtain ⟨-, -, rfl⟩ := spellsNumber_iff.mp h'
  rfl

/-- A text is a port exactly if it spells its number, and that is not zero. -/
theorem Port.ofText?_eq_some_iff {value : String} {port : Port} :
    Port.ofText? value = some port ↔ SpellsNumber value.toList port.toNat ∧ 1 ≤ port.toNat := by
  have hzero : port ≠ 0 ↔ 1 ≤ port.toNat := by
    rw [Nat.one_le_iff_ne_zero, ne_eq, ne_eq, ← UInt16.toNat_inj]
    rfl
  rw [Port.ofText?, Option.filter_eq_some_iff, Decimal.word?_eq_some_iff, decide_eq_true_eq, hzero,
    spellsNumber_iff]

/-! ## Selecting a port -/

def SpellsPort (text : List Char) (n : Nat) : Prop :=
  SpellsNumber text n ∧ 1 ≤ n ∧ n ≤ 65535

/-- A result is the error that carries the name of the port variable, and its value as it was
read. -/
def RefusesPort (value : String) (result : Except ConfigError Transport) : Prop :=
  ∃ error, result = .error error ∧ error.setting.name = "PORT" ∧ error.value = value

/-- What becomes of a value of the port variable. -/
structure ReadsPort (value : String) (result : Except ConfigError Transport) : Prop where
  accepted_iff : ∀ n, (∃ port : Port, port.toNat = n ∧ result = .ok (.tcp port)) ↔
    SpellsPort value.toList n
  refused : (¬ ∃ n, SpellsPort value.toList n) → RefusesPort value result
  /-- No number is taken for another one, however great it is. -/
  outgrown : ∀ n, SpellsNumber value.toList n → 65535 < n → RefusesPort value result

/-- A value of the port variable that is not empty is accepted exactly if it spells the number of a
port, and is that port then; it is refused as it was read otherwise. -/
theorem port_read_as_spelled (lookup : String → Option String) (value : String)
    (hset : lookup "PORT" = some value) (hvalue : value ≠ "") :
    ReadsPort value (selectTransport (.ofLookup lookup)).result := by
  have hrefused (hnone : ¬ ∃ n, SpellsPort value.toList n) :
      RefusesPort value (selectTransport (.ofLookup lookup)).result := by
    have hport : Port.ofText? value = none := by
      refine Option.eq_none_iff_forall_ne_some.mpr fun port hport => ?_
      obtain ⟨hspells, hpositive⟩ := Port.ofText?_eq_some_iff.mp hport
      exact hnone ⟨_, hspells, hpositive, Nat.le_of_lt_succ port.toNat_lt_size⟩
    exact ⟨_, (Selects.invalidPort hset hvalue hport).result_eq, rfl, rfl⟩
  refine ⟨fun n => ⟨?_, ?_⟩, hrefused, fun n hspells hgreat => hrefused ?_⟩
  · rintro ⟨port, rfl, hresult⟩
    have hselects := selectTransport_selects lookup
    rw [hresult] at hselects
    generalize (selectTransport (.ofLookup lookup)).asked = names at hselects
    cases hselects with
    | port hfound _ hport =>
        rw [hset] at hfound
        cases hfound
        obtain ⟨hspells, hpositive⟩ := Port.ofText?_eq_some_iff.mp hport
        exact ⟨hspells, hpositive, Nat.le_of_lt_succ port.toNat_lt_size⟩
  · rintro ⟨hspells, hpositive, hgreatest⟩
    obtain ⟨port, rfl⟩ := Decimal.exists_word (Nat.lt_succ_of_le hgreatest)
    exact ⟨port, rfl, (Selects.port hset hvalue
      (Port.ofText?_eq_some_iff.mpr ⟨hspells, hpositive⟩)).result_eq⟩
  · rintro ⟨m, hspells', -, hsmall⟩
    have hsame := hspells.unique hspells'
    omega

/-- Blanks, a sign and zeros in front of a number change nothing, and a number that is greater than
another one by all that a word can hold is not taken for it. -/
theorem padded_port_is_read :
    (selectTransport (.ofLookup fun _ => some "\u3000+0080\n")).result = .ok (.tcp 80) ∧
      (selectTransport (.ofLookup fun _ => some "65616")).result =
        .error (.invalidPort "65616") := by
  constructor
  · have hspells : SpellsNumber "\u3000+0080\n".toList 80 :=
      @SpellsNumber.intro ['\u3000'] ['+'] ['0', '0', '8', '0'] ['\n'] (by decide) (.inr rfl)
        (by decide) (by decide) (by decide)
    obtain ⟨port, hport, hresult⟩ :=
      ((port_read_as_spelled (fun _ => some "\u3000+0080\n") _ rfl (by decide)).accepted_iff 80).mpr
        ⟨hspells, by decide, by decide⟩
    rw [hresult, UInt16.toNat_inj.mp (show port.toNat = UInt16.toNat 80 from hport)]
  · have hspells : SpellsNumber "65616".toList 65616 :=
      @SpellsNumber.intro [] [] ['6', '5', '6', '1', '6'] [] (by decide) (.inl rfl) (by decide)
        (by decide) (by decide)
    obtain ⟨error, hresult, -, hvalue⟩ :=
      (port_read_as_spelled (fun _ => some "65616") _ rfl (by decide)).outgrown _ hspells
        (by decide)
    rw [hresult]
    cases error with
    | invalidPort value =>
        obtain rfl : value = _ := hvalue
        rfl

end Beacon
