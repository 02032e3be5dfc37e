/-!
# UTF-8

Octet strings and their reading as text. `encode` writes characters as octets. `next` reads the
character at the front of an octet string, or finds the longest beginning of a character that
nothing completes; strict decoding stops at the first such place, and lossy decoding puts the
replacement character there and goes on.
-/

namespace Beacon

abbrev Octets := List UInt8

namespace Utf8

/-! ## Writing -/

def encode (text : List Char) : Octets :=
  text.flatMap String.utf8EncodeChar

@[simp] theorem encode_nil : encode [] = [] := rfl

@[simp] theorem encode_cons (c : Char) (text : List Char) :
    encode (c :: text) = String.utf8EncodeChar c ++ encode text := by
  simp [encode]

@[simp] theorem encode_append (first second : List Char) :
    encode (first ++ second) = encode first ++ encode second := by
  simp [encode]

def octets (text : String) : Octets :=
  encode text.toList

/-! ## Reading one character -/

/-- What stands at the front of an octet string. -/
inductive Lead where
  /-- A whole character, and what follows it. -/
  | scalar (char : Char) (rest : Octets)
  /-- A beginning that no continuation completes, and what follows it. -/
  | broken (rest : Octets)

def Lead.rest : Lead → Octets
  | .scalar _ rest => rest
  | .broken rest => rest

/-- The length of a character that starts with the octet; zero where none does. -/
def width (lead : UInt8) : Nat :=
  if lead ≤ 0x7F then 1
  else if 0xC2 ≤ lead ∧ lead ≤ 0xDF then 2
  else if 0xE0 ≤ lead ∧ lead ≤ 0xEF then 3
  else if 0xF0 ≤ lead ∧ lead ≤ 0xF4 then 4
  else 0

/-- Octets that stand third or fourth in a character. -/
def isTail (octet : UInt8) : Bool :=
  0x80 ≤ octet && octet ≤ 0xBF

/-- Octets that stand second after the given first one: overlong forms, surrogates and values
above the last code point are ruled out here. -/
def isSecond (lead octet : UInt8) : Bool :=
  if lead = 0xE0 then 0xA0 ≤ octet && octet ≤ 0xBF
  else if lead = 0xED then 0x80 ≤ octet && octet ≤ 0x9F
  else if lead = 0xF0 then 0x90 ≤ octet && octet ≤ 0xBF
  else if lead = 0xF4 then 0x80 ≤ octet && octet ≤ 0x8F
  else isTail octet

/-- The six low bits of a continuation octet. -/
def payload (octet : UInt8) : Nat :=
  octet.toNat % 64

/-- The front of the octet string `lead :: rest`. -/
def next (lead : UInt8) (rest : Octets) : Lead :=
  match width lead with
  | 1 => .scalar (Char.ofNat lead.toNat) rest
  | 2 =>
      match rest with
      | b :: tail =>
          if isSecond lead b then .scalar (Char.ofNat (lead.toNat % 32 * 64 + payload b)) tail
          else .broken rest
      | [] => .broken []
  | 3 =>
      match rest with
      | b :: tail =>
          if isSecond lead b then
            match tail with
            | c :: tail' =>
                if isTail c then
                  .scalar (Char.ofNat (lead.toNat % 16 * 4096 + payload b * 64 + payload c)) tail'
                else .broken tail
            | [] => .broken []
          else .broken rest
      | [] => .broken []
  | 4 =>
      match rest with
      | b :: tail =>
          if isSecond lead b then
            match tail with
            | c :: tail' =>
                if isTail c then
                  match tail' with
                  | d :: tail'' =>
                      if isTail d then
                        .scalar (Char.ofNat (lead.toNat % 8 * 262144 + payload b * 4096 +
                          payload c * 64 + payload d)) tail''
                      else .broken tail'
                  | [] => .broken []
                else .broken tail
            | [] => .broken []
          else .broken rest
      | [] => .broken []
  | _ => .broken rest

/-- Reading the front never lengthens what follows it. -/
theorem length_rest_next_le (lead : UInt8) (rest : Octets) :
    (next lead rest).rest.length ≤ rest.length := by
  unfold next
  repeat' split
  all_goals (simp only [Lead.rest, List.length_cons, List.length_nil]; omega)

/-! ## Reading texts -/

/-- The longest beginning that is a text, and the octets from the first broken character on. -/
def scan : Octets → List Char × Octets
  | [] => ([], [])
  | lead :: rest =>
      match _front : next lead rest with
      | .scalar char tail =>
          let inner := scan tail
          (char :: inner.1, inner.2)
      | .broken _ => ([], lead :: rest)
termination_by octets => octets.length
decreasing_by
  have bound := length_rest_next_le lead rest
  rw [_front] at bound
  simp only [Lead.rest] at bound
  simp only [List.length_cons]
  omega

def decode? (octets : Octets) : Option (List Char) :=
  match scan octets with
  | (text, []) => some text
  | _ => none

/-- The text of an octet string with the replacement character for every broken part. -/
def lossy : Octets → List Char
  | [] => []
  | lead :: rest =>
      match _front : next lead rest with
      | .scalar char tail => char :: lossy tail
      | .broken tail => '\uFFFD' :: lossy tail
termination_by octets => octets.length
decreasing_by
  all_goals
    have bound := length_rest_next_le lead rest
    rw [_front] at bound
    simp only [Lead.rest] at bound
    simp only [List.length_cons]
    omega

def display (octets : Octets) : String :=
  String.ofList (lossy octets)

end Utf8

end Beacon
