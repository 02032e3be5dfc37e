import Beacon.Proofs.Text.Utf8
import Beacon.Text.Quoted
import Mathlib.Data.Nat.Init

/-!
# What a quoted text tells

A quoted text shows visible characters only: no control character is among them, and none that ends
a line. It tells the text all the same. Every character is written in a form that no other
character has, and the form itself tells where it ends, whatever follows. So a quoted text ends
where it is closed, and no two texts are quoted alike.
-/

namespace Beacon.Text

/-! ## Visible characters -/

def IsControl (char : Char) : Prop :=
  char.toNat ≤ 0x1F ∨ 0x7F ≤ char.toNat ∧ char.toNat ≤ 0x9F

/-- The characters after which a text goes on in another line. -/
def EndsLine (char : Char) : Prop :=
  char.toNat ∈ [0xA, 0xB, 0xC, 0xD, 0x85, 0x2028, 0x2029]

/-- What lies in a hidden range is not visible. -/
theorem isVisible_eq_false_of_mem {char : Char} {range : Nat × Nat} (hmem : range ∈ hiddenRanges)
    (hdelete : 0x7F ≤ char.toNat) (hfirst : range.1 ≤ char.toNat) (hlast : char.toNat ≤ range.2) :
    isVisible char = false := by
  have hany : hiddenRanges.any (fun range => range.1 ≤ char.toNat && char.toNat ≤ range.2) = true :=
    List.any_eq_true.mpr ⟨range, hmem, by simp [hfirst, hlast]⟩
  rw [isVisible, if_neg (Nat.not_lt.mpr hdelete), hany]
  rfl

theorem IsControl.isVisible_eq_false {char : Char} (h : IsControl char) :
    isVisible char = false := by
  obtain hlow | ⟨hdelete, hlast⟩ := h
  · rw [isVisible, if_pos (by omega), decide_eq_false_iff_not]
    omega
  · exact isVisible_eq_false_of_mem List.mem_cons_self hdelete hdelete (by omega)

/-- What ends a line is a control character or one of two separators. -/
theorem EndsLine.isControl_or_separates {char : Char} (h : EndsLine char) :
    IsControl char ∨ 0x2028 ≤ char.toNat ∧ char.toNat ≤ 0x2029 := by
  simp only [EndsLine, List.mem_cons, List.not_mem_nil, or_false] at h
  simp only [IsControl]
  omega

theorem EndsLine.isVisible_eq_false {char : Char} (h : EndsLine char) :
    isVisible char = false := by
  obtain hcontrol | ⟨hfirst, hlast⟩ := h.isControl_or_separates
  · exact hcontrol.isVisible_eq_false
  · have hmem : (0x2028, 0x202F) ∈ hiddenRanges := by decide
    exact isVisible_eq_false_of_mem hmem (by omega) hfirst (by omega)

def AllVisible (text : List Char) : Prop :=
  ∀ char ∈ text, isVisible char = true

instance (text : List Char) : Decidable (AllVisible text) :=
  inferInstanceAs (Decidable (∀ char ∈ text, isVisible char = true))

namespace AllVisible

variable {text rest : List Char}

theorem append (h : AllVisible text) (hrest : AllVisible rest) : AllVisible (text ++ rest) :=
  List.forall_mem_append.mpr ⟨h, hrest⟩

/-- A text that shows all of its characters is one line, and steers nothing. -/
theorem plain (h : AllVisible text) : ∀ char ∈ text, ¬ IsControl char ∧ ¬ EndsLine char := by
  intro char hmem
  have hvisible := h char hmem
  refine ⟨fun hcontrol => ?_, fun hends => ?_⟩
  · rw [hcontrol.isVisible_eq_false] at hvisible
    cases hvisible
  · rw [hends.isVisible_eq_false] at hvisible
    cases hvisible

end AllVisible

/-! ## Hexadecimal digits -/

theorem digitChar_inj {n m : Nat} (hn : n < 16) (hm : m < 16)
    (h : Nat.digitChar n = Nat.digitChar m) : n = m := by
  have hall : ∀ n m : Fin 16, Nat.digitChar n = Nat.digitChar m → n = m := by
    decide
  exact congrArg Fin.val (hall ⟨n, hn⟩ ⟨m, hm⟩ h)

theorem hex_of_lt {n : Nat} (h : n < 16) : hex n = [Nat.digitChar n] :=
  Nat.toDigits_of_lt_base h

theorem hex_of_le {n : Nat} (h : 16 ≤ n) : hex n = hex (n / 16) ++ [Nat.digitChar (n % 16)] :=
  Nat.toDigits_of_base_le (by decide) h

/-- What holds of sixteen digits holds of all digits of a number. -/
theorem forall_mem_hex {p : Char → Prop} (h : ∀ digit < 16, p (Nat.digitChar digit)) (n : Nat) :
    ∀ char ∈ hex n, p char := by
  induction n using Nat.strong_induction_on with
  | _ n ih =>
    obtain hsmall | hgreat := Nat.lt_or_ge n 16
    · rw [hex_of_lt hsmall, List.forall_mem_singleton]
      exact h n hsmall
    · rw [hex_of_le hgreat, List.forall_mem_append, List.forall_mem_singleton]
      exact ⟨ih (n / 16) (by omega), h (n % 16) (by omega)⟩

/-- A number is told by its hexadecimal digits. -/
theorem hex_inj {n m : Nat} (h : hex n = hex m) : n = m := by
  have hsize (n : Nat) : (hex n).length ≤ 1 ↔ n < 16 :=
    Nat.length_toDigits_le_iff (by decide) (by decide)
  have hsame {n m : Nat} (h : hex n = hex m) : n < 16 ↔ m < 16 := by
    rw [← hsize, ← hsize, h]
  induction n using Nat.strong_induction_on generalizing m with
  | _ n ih =>
    obtain hn | hn := Nat.lt_or_ge n 16
    · have hm := (hsame h).mp hn
      rw [hex_of_lt hn, hex_of_lt hm] at h
      exact digitChar_inj hn hm (List.singleton_inj.mp h)
    · have hm : 16 ≤ m := Nat.not_lt.mp fun hm => Nat.not_lt.mpr hn ((hsame h).mpr hm)
      rw [hex_of_le hn, hex_of_le hm] at h
      obtain ⟨hfront, hlast⟩ := List.append_inj' h rfl
      have hhigh := ih (n / 16) (by omega) hfront
      have hlow := digitChar_inj (by omega) (by omega) (List.singleton_inj.mp hlast)
      omega

theorem allVisible_hex (n : Nat) : AllVisible (hex n) :=
  forall_mem_hex (by decide) n

/-! ## Forms -/

/-- The characters that are escaped by name, each with its name. -/
def escapeNames : List (Char × Char) :=
  [('"', '"'), ('\\', '\\'), ('\n', 'n'), ('\r', 'r'), ('\t', 't'), ('\x00', '0')]

/-- The forms that a character may have in a quoted text: it stands for itself, or it is escaped by
a name, or by its number. -/
inductive Form (char : Char) : List Char → Prop where
  | plain (hvisible : isVisible char = true) (hquote : char ≠ '"') (hbackslash : char ≠ '\\') :
      Form char [char]
  | named {name : Char} (hname : (char, name) ∈ escapeNames) : Form char ['\\', name]
  | numbered : Form char ('\\' :: 'u' :: '\x7b' :: (hex char.toNat ++ ['\x7d']))

theorem form_quoteChar (char : Char) : Form char (quoteChar char) := by
  unfold quoteChar
  split_ifs with hquote hbackslash hfeed hreturn htab hnull hvisible
  · exact .named (by rw [hquote]; decide)
  · exact .named (by rw [hbackslash]; decide)
  · exact .named (by rw [hfeed]; decide)
  · exact .named (by rw [hreturn]; decide)
  · exact .named (by rw [htab]; decide)
  · exact .named (by rw [hnull]; decide)
  · exact .plain hvisible hquote hbackslash
  · exact .numbered

namespace Form

variable {char char' : Char} {form form' rest rest' : List Char}

theorem allVisible (h : Form char form) : AllVisible form := by
  cases h with
  | plain hvisible => exact List.forall_mem_singleton.mpr hvisible
  | named hname =>
      have hall : ∀ entry ∈ escapeNames, AllVisible ['\\', entry.2] := by
        decide
      exact hall _ hname
  | numbered =>
      have hopen : AllVisible ['\\', 'u', '\x7b'] := by decide
      exact hopen.append ((allVisible_hex _).append (by decide))

/-- No form starts with the mark that closes a quoted text. -/
theorem append_ne_quote (h : Form char form) : form ++ rest ≠ '"' :: rest' := by
  intro heq
  cases h with
  | plain _ hquote => exact hquote (List.cons.inj heq).1
  | named | numbered => exact absurd (List.cons.inj heq).1 (by decide)

/-- A character that stands for itself is not taken for an escape. -/
theorem append_ne_backslash (hbackslash : char ≠ '\\') : [char] ++ rest ≠ '\\' :: rest' :=
  fun heq => hbackslash (List.cons.inj heq).1

/-- A form tells its character and where it ends, whatever follows. -/
theorem append_inj (h : Form char form) (h' : Form char' form')
    (heq : form ++ rest = form' ++ rest') : char = char' ∧ rest = rest' := by
  have hnumber : ∀ entry ∈ escapeNames, entry.2 ≠ 'u' := by decide
  have hname : ∀ entry ∈ escapeNames, ∀ other ∈ escapeNames,
      entry.2 = other.2 → entry.1 = other.1 := by
    decide
  cases h with
  | plain _ _ hbackslash =>
      cases h' with
      | plain => exact List.cons.inj heq
      | named | numbered => exact absurd heq (append_ne_backslash hbackslash)
  | named hmem =>
      cases h' with
      | plain _ _ hbackslash => exact absurd heq.symm (append_ne_backslash hbackslash)
      | named hmem' =>
          obtain ⟨hsame, hrest⟩ := List.cons.inj (List.cons.inj heq).2
          exact ⟨hname _ hmem _ hmem' hsame, hrest⟩
      | numbered => exact absurd (List.cons.inj (List.cons.inj heq).2).1 (hnumber _ hmem)
  | numbered =>
      cases h' with
      | plain _ _ hbackslash => exact absurd heq.symm (append_ne_backslash hbackslash)
      | named hmem' =>
          exact absurd (List.cons.inj (List.cons.inj heq).2).1.symm (hnumber _ hmem')
      | numbered =>
          -- The digits end at the brace, which is none of them.
          have hinside (n : Nat) : ∀ digit ∈ hex n, decide (digit ≠ '\x7d') = true :=
            forall_mem_hex (by decide) n
          have hdigits : hex char.toNat ++ '\x7d' :: rest = hex char'.toNat ++ '\x7d' :: rest' := by
            simpa using heq
          obtain ⟨hsame, hrest⟩ := split_unique (· ≠ '\x7d') (hinside _) (hinside _)
            (by rintro brace ⟨⟩; rfl) (by rintro brace ⟨⟩; rfl) hdigits
          exact ⟨Char.toNat_inj.mp (hex_inj hsame), (List.cons.inj hrest).2⟩

end Form

/-! ## Quoted texts -/

theorem toList_quote (text : String) :
    (quote text).toList = '"' :: (text.toList.flatMap quoteChar ++ ['"']) := by
  rw [quote, String.toList_ofList]
  rfl

/-- A quoted text shows all of its characters, whatever is quoted. -/
theorem allVisible_quote (text : String) : AllVisible (quote text).toList := by
  have hinside : AllVisible (text.toList.flatMap quoteChar) := by
    intro shown hmem
    obtain ⟨char, -, hshown⟩ := List.mem_flatMap.mp hmem
    exact (form_quoteChar char).allVisible shown hshown
  have hmark : AllVisible ['"'] := by decide
  rw [toList_quote]
  exact hmark.append (hinside.append hmark)

/-- What is between the quotes tells the text and where it is closed. -/
theorem flatMap_quoteChar_append_inj {text text' rest rest' : List Char}
    (h : text.flatMap quoteChar ++ '"' :: rest = text'.flatMap quoteChar ++ '"' :: rest') :
    text = text' ∧ rest = rest' := by
  induction text generalizing text' with
  | nil =>
      cases text' with
      | nil => exact ⟨rfl, (List.cons.inj h).2⟩
      | cons char' later' =>
          rw [List.flatMap_cons, List.append_assoc] at h
          exact absurd h.symm (form_quoteChar char').append_ne_quote
  | cons char later ih =>
      rw [List.flatMap_cons, List.append_assoc] at h
      cases text' with
      | nil => exact absurd h (form_quoteChar char).append_ne_quote
      | cons char' later' =>
          rw [List.flatMap_cons, List.append_assoc] at h
          obtain ⟨rfl, hlater⟩ := (form_quoteChar char).append_inj (form_quoteChar char') h
          obtain ⟨rfl, hrest⟩ := ih hlater
          exact ⟨rfl, hrest⟩

/-- A quoted text tells the text and where it ends, whatever follows. -/
theorem quote_append_inj {text text' rest rest' : String}
    (h : quote text ++ rest = quote text' ++ rest') : text = text' ∧ rest = rest' := by
  have hlist := congrArg String.toList h
  rw [String.toList_append, String.toList_append, toList_quote, toList_quote, List.cons_append,
    List.cons_append, List.append_assoc, List.append_assoc] at hlist
  obtain ⟨htext, hrest⟩ := flatMap_quoteChar_append_inj (List.cons.inj hlist).2
  exact ⟨String.toList_injective htext, String.toList_injective hrest⟩

/-- No two texts are quoted alike. -/
theorem quote_inj {text text' : String} (h : quote text = quote text') : text = text' :=
  (@quote_append_inj text text' "" "" (congrArg (· ++ "") h)).1

end Beacon.Text
