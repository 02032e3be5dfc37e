import Beacon.Json.Skip
import Mathlib.Data.List.Forall2

/-!
# The grammar of JSON text

What JSON text is, apart from any reader of it. A string spells a text if its octets are those of
the characters, each as it is or escaped; in a string whose text nobody asks for, any octets may
stand between the escapes. A record is an object in which each of its fields has one string, among
any other members, or a list of the strings alone.
-/

namespace Beacon.Json

/-! ## Blanks -/

/-- Spaces, line feeds, tabs and carriage returns, any number of them. -/
def Blank (octets : Octets) : Prop :=
  ∀ octet ∈ octets, octet = 0x20 ∨ octet = 0x0A ∨ octet = 0x09 ∨ octet = 0x0D

/-! ## Escapes -/

/-- A hexadecimal digit of either case, and its value. -/
inductive HexDigit : UInt8 → Nat → Prop where
  | decimal {n : Nat} (h : n < 10) : HexDigit (UInt8.ofNat (0x30 + n)) n
  | upper {n : Nat} (h : n < 6) : HexDigit (UInt8.ofNat (0x41 + n)) (10 + n)
  | lower {n : Nat} (h : n < 6) : HexDigit (UInt8.ofNat (0x61 + n)) (10 + n)

/-- Four hexadecimal digits, and the number that they spell. -/
inductive HexNumber : Octets → Nat → Prop where
  | digits {a b c d : UInt8} {p q r s : Nat} (ha : HexDigit a p) (hb : HexDigit b q)
      (hc : HexDigit c r) (hd : HexDigit d s) :
      HexNumber [a, b, c, d] (((p * 16 + q) * 16 + r) * 16 + s)

/-- The letters after a backslash that stand for a character, and that character. -/
def escapeLetters : List (UInt8 × Char) :=
  [(0x22, '"'), (0x5C, '\\'), (0x2F, '/'), (0x62, '\x08'), (0x66, '\x0C'), (0x6E, '\n'),
    (0x72, '\r'), (0x74, '\t')]

/-- The escapes of a character, without their backslash. -/
inductive Escapes : Octets → Char → Prop where
  | letter {mark : UInt8} {char : Char} (h : (mark, char) ∈ escapeLetters) : Escapes [mark] char
  | number {digits : Octets} {char : Char} (h : HexNumber digits char.toNat) :
      Escapes (letterU :: digits) char
  /-- A character beyond sixteen bits is escaped by the halves of its surrogate pair. -/
  | pair {first second : Octets} {high low : Nat} {char : Char} (hfirst : HexNumber first high)
      (hsecond : HexNumber second low) (hhigh : 0xD800 ≤ high ∧ high ≤ 0xDBFF)
      (hlow : 0xDC00 ≤ low ∧ low ≤ 0xDFFF)
      (hchar : char.toNat = (high - 0xD800) * 0x400 + (low - 0xDC00) + 0x10000) :
      Escapes (letterU :: first ++ backslash :: letterU :: second) char

/-! ## Strings -/

/-- What may stand in a string for a character. -/
inductive Denotes : Octets → Char → Prop where
  | itself {char : Char} (hquote : char ≠ '"') (hbackslash : char ≠ '\\')
      (hvisible : 0x20 ≤ char.toNat) : Denotes (String.utf8EncodeChar char) char
  | escaped {escape : Octets} {char : Char} (h : Escapes escape char) :
      Denotes (backslash :: escape) char

/-- What may stand in a string for a text. -/
inductive DenotesText : Octets → List Char → Prop where
  | nil : DenotesText [] []
  | cons {piece octets : Octets} {char : Char} {text : List Char} (hchar : Denotes piece char)
      (htext : DenotesText octets text) : DenotesText (piece ++ octets) (char :: text)

/-- A string between its quotes, and its text. -/
inductive IsString : Octets → String → Prop where
  | quoted {octets : Octets} {text : String} (h : DenotesText octets text.toList) :
      IsString (quoteMark :: octets ++ [quoteMark]) text

/-- The parts of a string that need not spell any text: octets that are neither marks nor controls,
and escapes, of which those by number may have any number. -/
inductive LoosePart : Octets → Prop where
  | plain {octet : UInt8} (hquote : octet ≠ quoteMark) (hbackslash : octet ≠ backslash)
      (hvisible : ¬ octet < 0x20) : LoosePart [octet]
  | letter {mark : UInt8} {char : Char} (h : (mark, char) ∈ escapeLetters) :
      LoosePart [backslash, mark]
  | number {digits : Octets} {n : Nat} (h : HexNumber digits n) :
      LoosePart (backslash :: letterU :: digits)

/-- What may stand between the quotes of a string that need not spell any text. -/
inductive LooseText : Octets → Prop where
  | nil : LooseText []
  | cons {piece octets : Octets} (hpart : LoosePart piece) (htext : LooseText octets) :
      LooseText (piece ++ octets)

/-! ## Numbers -/

def IsDecimal (octet : UInt8) : Prop :=
  0x30 ≤ octet ∧ octet ≤ 0x39

structure Digits (octets : Octets) : Prop where
  decimal : ∀ octet ∈ octets, IsDecimal octet
  ne_nil : octets ≠ []

/-- The digits before the point: zero, or digits that do not start with a zero. -/
inductive Whole : Octets → Prop where
  | zero : Whole [0x30]
  | digits {octets : Octets} (h : Digits octets) (hfirst : octets.head? ≠ some 0x30) : Whole octets

/-- The point and the digits after it, if they are there. -/
inductive Fraction : Octets → Prop where
  | absent : Fraction []
  | digits {octets : Octets} (h : Digits octets) : Fraction (point :: octets)

/-- The sign of an exponent, if it is there. -/
inductive ExponentSign : Octets → Prop where
  | absent : ExponentSign []
  | plus : ExponentSign [0x2B]
  | minus : ExponentSign [0x2D]

/-- The exponent after its mark of either case, if it is there. -/
inductive Exponent : Octets → Prop where
  | absent : Exponent []
  | digits {mark : UInt8} {sign octets : Octets} (hmark : mark = 0x65 ∨ mark = 0x45)
      (hsign : ExponentSign sign) (h : Digits octets) : Exponent (mark :: sign ++ octets)

inductive Unsigned : Octets → Prop where
  | parts {whole fraction exponent : Octets} (hwhole : Whole whole) (hfraction : Fraction fraction)
      (hexponent : Exponent exponent) : Unsigned (whole ++ fraction ++ exponent)

inductive IsNumber : Octets → Prop where
  | positive {octets : Octets} (h : Unsigned octets) : IsNumber octets
  | negative {octets : Octets} (h : Unsigned octets) : IsNumber (minusSign :: octets)

/-! ## Values -/

/-- The kinds of phrases that a value is made of. -/
inductive Phrase where
  | value
  /-- What stands between the brackets of a list that has elements. -/
  | elements
  /-- What stands between the braces of an object that has members. -/
  | members
  deriving DecidableEq, Repr

/-- The well-formed phrases of each kind, nested to any depth. -/
inductive WellFormed : Phrase → Octets → Prop where
  | word {word : Octets} (h : word = nullWord ∨ word = trueWord ∨ word = falseWord) :
      WellFormed .value word
  | number {octets : Octets} (h : IsNumber octets) : WellFormed .value octets
  | string {octets : Octets} (h : LooseText octets) :
      WellFormed .value (quoteMark :: octets ++ [quoteMark])
  | emptyList {blank : Octets} (h : Blank blank) :
      WellFormed .value (openList :: blank ++ [closeList])
  | list {elements : Octets} (h : WellFormed .elements elements) :
      WellFormed .value (openList :: elements ++ [closeList])
  | emptyObject {blank : Octets} (h : Blank blank) :
      WellFormed .value (openObject :: blank ++ [closeObject])
  | object {members : Octets} (h : WellFormed .members members) :
      WellFormed .value (openObject :: members ++ [closeObject])
  | lastElement {before value after : Octets} (hbefore : Blank before) (hafter : Blank after)
      (hvalue : WellFormed .value value) : WellFormed .elements (before ++ value ++ after)
  | element {before value after later : Octets} (hbefore : Blank before) (hafter : Blank after)
      (hvalue : WellFormed .value value) (hlater : WellFormed .elements later) :
      WellFormed .elements (before ++ value ++ after ++ comma :: later)
  | lastMember {before key middle gap value after : Octets} (hbefore : Blank before)
      (hkey : LooseText key) (hmiddle : Blank middle) (hgap : Blank gap) (hafter : Blank after)
      (hvalue : WellFormed .value value) :
      WellFormed .members (before ++ quoteMark :: key ++ quoteMark :: middle ++
        colon :: gap ++ value ++ after)
  | member {before key middle gap value after later : Octets} (hbefore : Blank before)
      (hkey : LooseText key) (hmiddle : Blank middle) (hgap : Blank gap) (hafter : Blank after)
      (hvalue : WellFormed .value value) (hlater : WellFormed .members later) :
      WellFormed .members (before ++ quoteMark :: key ++ quoteMark :: middle ++
        colon :: gap ++ value ++ after ++ comma :: later)

/-! ## Lists and objects -/

/-- Items as they are written, with blanks around each and commas between them. -/
inductive Separated {α : Type} (Item : Octets → α → Prop) : Octets → List α → Prop where
  | last {before octets after : Octets} {item : α} (hbefore : Blank before)
      (hitem : Item octets item) (hafter : Blank after) :
      Separated Item (before ++ octets ++ after) [item]
  | more {before octets after later : Octets} {item : α} {items : List α} (hbefore : Blank before)
      (hitem : Item octets item) (hafter : Blank after) (hlater : Separated Item later items) :
      Separated Item (before ++ octets ++ after ++ comma :: later) (item :: items)

/-- Items between an opening and a closing mark, if there are any. -/
inductive Enclosed {α : Type} (opening closing : UInt8) (Item : Octets → α → Prop) :
    Octets → List α → Prop where
  | empty {blank : Octets} (h : Blank blank) :
      Enclosed opening closing Item (opening :: blank ++ [closing]) []
  | items {octets : Octets} {items : List α} (h : Separated Item octets items) :
      Enclosed opening closing Item (opening :: octets ++ [closing]) items

/-- A member of an object: the text of its key, and its value as it is written. -/
structure Member where
  key : String
  value : Octets
  deriving DecidableEq, Repr

inductive WritesMember : Octets → Member → Prop where
  | written {key middle gap value : Octets} {name : String} (hkey : IsString key name)
      (hmiddle : Blank middle) (hgap : Blank gap) (hvalue : WellFormed .value value) :
      WritesMember (key ++ middle ++ colon :: gap ++ value) ⟨name, value⟩

/-! ## Records -/

/-- A field has a value among some members: its name is the key of one of them and of no other, and
the value of that one is a string with that text. -/
def Gives (members : List Member) (field value : String) : Prop :=
  ∃ written, members.filter (·.key = field) = [⟨field, written⟩] ∧ IsString written value

/-- A record and the values of its fields, in declared order: an object that gives each field its
value, or a list of the values, and nothing but blanks around it. -/
inductive IsRecord (fields : List String) : Octets → List String → Prop where
  | object {before octets after : Octets} {members : List Member} {values : List String}
      (hbefore : Blank before) (hafter : Blank after)
      (h : Enclosed openObject closeObject WritesMember octets members)
      (hvalues : List.Forall₂ (Gives members) fields values) :
      IsRecord fields (before ++ octets ++ after) values
  | list {before octets after : Octets} {values : List String} (hbefore : Blank before)
      (hafter : Blank after) (h : Enclosed openList closeList IsString octets values)
      (hlength : values.length = fields.length) : IsRecord fields (before ++ octets ++ after) values

theorem IsRecord.length_eq {fields : List String} {octets : Octets} {values : List String}
    (h : IsRecord fields octets values) : values.length = fields.length := by
  cases h with
  | object _ _ _ hvalues => exact hvalues.length_eq.symm
  | list _ _ _ hlength => exact hlength

end Beacon.Json
