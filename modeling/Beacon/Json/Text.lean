import Beacon.Json.Fault

/-!
# Strings in JSON text

Strings are written with the fewest escapes: the quote, the backslash and the controls below the
space. Reading accepts every escape, joins the two halves of a surrogate pair, and requires the
rest to be UTF-8; skipping only finds the closing quote.
-/

namespace Beacon.Json

/-! ## Writing -/

def hexDigit (n : Nat) : Char :=
  Nat.digitChar n

def escapeChar (c : Char) : List Char :=
  if c = '"' then ['\\', '"']
  else if c = '\\' then ['\\', '\\']
  else if c.toNat = 0x08 then ['\\', 'b']
  else if c.toNat = 0x0C then ['\\', 'f']
  else if c = '\n' then ['\\', 'n']
  else if c = '\r' then ['\\', 'r']
  else if c = '\t' then ['\\', 't']
  else if c.toNat < 0x20 then
    ['\\', 'u', '0', '0', hexDigit (c.toNat / 16), hexDigit (c.toNat % 16)]
  else [c]

def writeString (text : List Char) : List Char :=
  ['"'] ++ text.flatMap escapeChar ++ ['"']

/-! ## Escapes -/

def quoteMark : UInt8 := 0x22

def backslash : UInt8 := 0x5C

/-- The octet of the letter that starts an escape by number. -/
def letterU : UInt8 := 0x75

def hexValue? (octet : UInt8) : Option Nat :=
  if 0x30 ≤ octet ∧ octet ≤ 0x39 then some (octet.toNat - 0x30)
  else if 0x41 ≤ octet ∧ octet ≤ 0x46 then some (octet.toNat - 0x41 + 10)
  else if 0x61 ≤ octet ∧ octet ≤ 0x66 then some (octet.toNat - 0x61 + 10)
  else none

def hexNumber? (a b c d : UInt8) : Option Nat := do
  let p ← hexValue? a
  let q ← hexValue? b
  let r ← hexValue? c
  let s ← hexValue? d
  return ((p * 16 + q) * 16 + r) * 16 + s

def readHex : Octets → Reading Nat
  | a :: b :: c :: d :: rest =>
      match hexNumber? a b c d with
      | some n => .ok (n, rest)
      | none => .error ⟨.invalidEscape, rest⟩
  | _ => .error ⟨.endInString, []⟩

/-- The character of a letter after a backslash, for the escapes by name. -/
def namedEscape? (octet : UInt8) : Option Char :=
  if octet = quoteMark then some '"'
  else if octet = backslash then some '\\'
  else if octet = 0x2F then some '/'
  else if octet = 0x62 then some '\x08'
  else if octet = 0x66 then some '\x0C'
  else if octet = 0x6E then some '\n'
  else if octet = 0x72 then some '\r'
  else if octet = 0x74 then some '\t'
  else none

/-- The halves of a surrogate pair: the first ones and the second ones. -/
def isLeading (n : Nat) : Bool := 0xD800 ≤ n && n ≤ 0xDBFF

def isTrailing (n : Nat) : Bool := 0xDC00 ≤ n && n ≤ 0xDFFF

def pairChar (high low : Nat) : Char :=
  Char.ofNat ((high - 0xD800) * 0x400 + (low - 0xDC00) + 0x10000)

/-- Reads the second half of a surrogate pair after its first half. -/
def readTrailing (high : Nat) : Octets → Reading Char
  | [] => .error ⟨.endInString, []⟩
  | a :: rest =>
      if a ≠ backslash then .error ⟨.unexpectedEndOfHexEscape, rest⟩
      else
        match rest with
        | [] => .error ⟨.endInString, []⟩
        | b :: rest' =>
            if b ≠ letterU then .error ⟨.unexpectedEndOfHexEscape, rest'⟩
            else
              match readHex rest' with
              | .error fault => .error fault
              | .ok (low, rest'') =>
                  if isTrailing low then .ok (pairChar high low, rest'')
                  else .error ⟨.loneSurrogate, rest''⟩

def readEscape : Octets → Reading Char
  | [] => .error ⟨.endInString, []⟩
  | letter :: rest =>
      if letter = letterU then
        match readHex rest with
        | .error fault => .error fault
        | .ok (n, rest') =>
            if isTrailing n then .error ⟨.loneSurrogate, rest'⟩
            else if isLeading n then readTrailing n rest'
            else .ok (Char.ofNat n, rest')
      else
        match namedEscape? letter with
        | some c => .ok (c, rest)
        | none => .error ⟨.invalidEscape, rest⟩

/-- Passes over an escape after its backslash; surrogates are not looked at. -/
def skipEscape : Octets → Except Fault Octets
  | [] => .error ⟨.endInString, []⟩
  | letter :: rest =>
      if letter = letterU then (readHex rest).map (·.2)
      else
        match namedEscape? letter with
        | some _ => .ok rest
        | none => .error ⟨.invalidEscape, rest⟩

theorem length_readHex {octets rest : Octets} {n : Nat} (h : readHex octets = .ok (n, rest)) :
    rest.length ≤ octets.length := by
  unfold readHex at h
  repeat' split at h
  all_goals simp_all
  all_goals omega

theorem length_readTrailing {high : Nat} {octets rest : Octets} {c : Char}
    (h : readTrailing high octets = .ok (c, rest)) : rest.length ≤ octets.length := by
  unfold readTrailing at h
  repeat' split at h
  all_goals try contradiction
  rename_i found _
  have bound := length_readHex found
  simp only [Except.ok.injEq, Prod.mk.injEq] at h
  obtain ⟨-, rfl⟩ := h
  simp only [List.length_cons]
  omega

theorem length_readEscape {octets rest : Octets} {c : Char}
    (h : readEscape octets = .ok (c, rest)) : rest.length ≤ octets.length := by
  unfold readEscape at h
  repeat' split at h
  all_goals try contradiction
  · rename_i found _ _
    have bound := length_readHex found
    have bound' := length_readTrailing h
    simp only [List.length_cons]
    omega
  · rename_i found _ _
    have bound := length_readHex found
    simp only [Except.ok.injEq, Prod.mk.injEq] at h
    obtain ⟨-, rfl⟩ := h
    simp only [List.length_cons]
    omega
  · simp only [Except.ok.injEq, Prod.mk.injEq] at h
    obtain ⟨-, rfl⟩ := h
    simp

theorem length_skipEscape {octets rest : Octets} (h : skipEscape octets = .ok rest) :
    rest.length ≤ octets.length := by
  unfold skipEscape at h
  repeat' split at h
  all_goals try contradiction
  · cases found : readHex _ with
    | error fault => rw [found] at h; cases h
    | ok value =>
        rw [found] at h
        simp only [Except.map, Except.ok.injEq] at h
        subst h
        have bound := length_readHex found
        simp only [List.length_cons]
        omega
  · simp only [Except.ok.injEq] at h
    subst h
    simp

/-! ## Whole strings -/

/-- Reads the octets of a string after its opening quote, with every escape replaced. -/
def readOctets : Octets → Reading Octets
  | [] => .error ⟨.endInString, []⟩
  | octet :: rest =>
      if octet = quoteMark then .ok ([], rest)
      else if octet = backslash then
        match _read : readEscape rest with
        | .error fault => .error fault
        | .ok (c, rest') =>
            match readOctets rest' with
            | .error fault => .error fault
            | .ok (more, final) => .ok (String.utf8EncodeChar c ++ more, final)
      else if octet < 0x20 then .error ⟨.controlCharacter, rest⟩
      else
        match readOctets rest with
        | .error fault => .error fault
        | .ok (more, final) => .ok (octet :: more, final)
termination_by octets => octets.length
decreasing_by
  · have bound := length_readEscape _read
    simp only [List.length_cons]
    omega
  · simp

/-- Where a string that is no text is reported, with `rest` after its closing quote: as far before
that quote as its content goes on from the first octet that is no text. An escape takes more room
than the octets it stands for, so this is the place of that octet only if no escape follows it. -/
def unicodeFaultAt (octets content rest : Octets) : Octets :=
  octets.drop (octets.length - (rest.length + 1 + (Utf8.scan content).2.length))

def readString (octets : Octets) : Reading (List Char) :=
  match readOctets octets with
  | .error fault => .error fault
  | .ok (content, rest) =>
      match Utf8.decode? content with
      | some text => .ok (text, rest)
      | none => .error (.peek .invalidUnicode (unicodeFaultAt octets content rest))

/-- Passes over a string after its opening quote; its text is not looked at. -/
def skipString : Octets → Except Fault Octets
  | [] => .error ⟨.endInString, []⟩
  | octet :: rest =>
      if octet = quoteMark then .ok rest
      else if octet = backslash then
        match _read : skipEscape rest with
        | .error fault => .error fault
        | .ok rest' => skipString rest'
      else if octet < 0x20 then .error ⟨.controlCharacter, octet :: rest⟩
      else skipString rest
termination_by octets => octets.length
decreasing_by
  · have bound := length_skipEscape _read
    simp only [List.length_cons]
    omega
  · simp

end Beacon.Json
