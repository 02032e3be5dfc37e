import Beacon.Http.Head
import Beacon.Proofs.Text.Utf8
import Mathlib.Data.List.TakeWhile

/-!
# Reading written heads

The parts that all heads have in common read back as they were written, whatever follows them.
-/

namespace Beacon.Http

/-! ## Octets up to a stop -/

theorem takeWhile_append_stop {test : UInt8 → Bool} {front : Octets} (stop : UInt8)
    (hfront : ∀ octet ∈ front, test octet = true) (hstop : test stop = false) (rest : Octets) :
    (front ++ stop :: rest).takeWhile test = front :=
  takeWhile_append_rest hfront (by rintro octet ⟨⟩; exact hstop)

/-! ## Lines -/

theorem readLineEnd_lineEnd (fault : HeadFault) (rest : Octets) :
    readLineEnd fault (lineEnd ++ rest) = .done () rest := rfl

theorem skipBlankLines_cons {octet : UInt8} (hfeed : octet ≠ lineFeed)
    (hreturn : octet ≠ carriageReturn) (rest : Octets) :
    skipBlankLines (octet :: rest) = .done () (octet :: rest) := by
  rw [skipBlankLines.eq_def]
  exact (if_neg hfeed).trans (if_neg hreturn)

/-! ## Versions -/

theorem length_octets_version (version : Version) : version.octets.length = 8 := by
  cases version <;> rfl

theorem readVersion_octets (version : Version) (rest : Octets) :
    readVersion (version.octets ++ rest) = .done version rest := by
  have hlength := length_octets_version version
  have htake : (version.octets ++ rest).take 8 = version.octets := List.take_left' hlength
  have hdrop : (version.octets ++ rest).drop 8 = rest := List.drop_left' hlength
  rw [readVersion, if_neg (by rw [List.length_append]; omega), htake, hdrop]
  cases version with
  | oneOne => rw [if_pos rfl]
  | oneZero => rw [if_neg (by decide), if_pos rfl]

/-! ## Headers -/

/-- The headers that read back as they were: the name is a token in lower case, and the value
holds octets of values alone, without blanks at its ends. -/
structure Header.IsSendable (header : Header) : Prop where
  token : isToken (Utf8.octets header.name) = true
  lower : asciiText ((Utf8.octets header.name).map Target.lower) = header.name
  value : ∀ octet ∈ header.value, isValueOctet octet = true
  start : ∀ octet ∈ header.value.head?, isBlankOctet octet = false
  finish : ∀ octet ∈ header.value.getLast?, isBlankOctet octet = false

theorem trimEnd_eq {octets : Octets} (h : ∀ octet ∈ octets.getLast?, isBlankOctet octet = false) :
    trimEnd octets = octets := by
  rw [trimEnd, dropWhile_of_head? (by rwa [List.head?_reverse]), List.reverse_reverse]

/-- A value that is written reads back. -/
theorem readValue_written {value : Octets} (hvalue : ∀ octet ∈ value, isValueOctet octet = true)
    (hstart : ∀ octet ∈ value.head?, isBlankOctet octet = false)
    (hfinish : ∀ octet ∈ value.getLast?, isBlankOctet octet = false) (rest : Octets) :
    readValue (space :: (value ++ (lineEnd ++ rest))) = .done value rest := by
  have hskip : (space :: (value ++ (lineEnd ++ rest))).dropWhile isBlankOctet =
      value ++ carriageReturn :: lineFeed :: rest := by
    rw [List.dropWhile_cons_of_pos (by decide)]
    refine dropWhile_of_head? fun octet hmem => ?_
    cases value with
    | nil =>
        cases hmem
        decide
    | cons first later => exact hstart octet hmem
  have htake := takeWhile_append_stop carriageReturn hvalue (by decide)
    (lineFeed :: rest)
  simp only [readValue, hskip, htake, List.drop_left]
  rw [trimEnd_eq hfinish]
  rfl

/-- A header that is written reads back. -/
theorem readHeader_octets {header : Header} (h : header.IsSendable) (rest : Octets) :
    readHeader (header.octets ++ rest) = .done header rest := by
  have htoken := h.token
  rw [isToken, Bool.and_eq_true, List.all_eq_true] at htoken
  have hwritten : header.octets ++ rest =
      Utf8.octets header.name ++ 0x3A :: space :: (header.value ++ (lineEnd ++ rest)) := by
    simp only [Header.octets, List.append_assoc, List.cons_append, List.nil_append]
  have htake := takeWhile_append_stop 0x3A htoken.2 (by decide)
    (space :: (header.value ++ (lineEnd ++ rest)))
  have hname : ¬ ((Utf8.octets header.name).isEmpty = true ∨ (0x3A : UInt8) ≠ 0x3A) := by
    rintro (hempty | hne)
    · rw [hempty] at htoken
      cases htoken.1
    · exact hne rfl
  simp only [hwritten, readHeader, htake, List.drop_left, if_neg hname,
    readValue_written h.value h.start h.finish, Progress.done_andThen, h.lower]

/-- A written header starts with no line end. -/
theorem head_octets {header : Header} (h : header.IsSendable) :
    ∃ octet rest, header.octets = octet :: rest ∧
      ¬ (octet = carriageReturn ∨ octet = lineFeed) := by
  have htoken := h.token
  rw [isToken, Bool.and_eq_true, List.all_eq_true] at htoken
  cases hname : Utf8.octets header.name with
  | nil =>
      rw [hname] at htoken
      cases htoken.1
  | cons octet later =>
      have hoctet := htoken.2 octet (by rw [hname]; exact List.mem_cons_self)
      refine ⟨octet, _, by rw [Header.octets, hname]; rfl, ?_⟩
      rintro (rfl | rfl)
      · exact absurd hoctet (by decide)
      · exact absurd hoctet (by decide)

/-- A block of headers that is written reads back, if there is room for all of them. -/
theorem readHeaders_headerBlock {headers : List Header} {room : Nat}
    (h : ∀ header ∈ headers, header.IsSendable) (hroom : headers.length ≤ room) (rest : Octets) :
    readHeaders room (headerBlock headers ++ rest) = .done headers rest := by
  induction headers generalizing room with
  | nil =>
      rw [readHeaders.eq_def]
      rfl
  | cons header headers ih =>
      obtain ⟨room, rfl⟩ := Nat.exists_eq_add_one_of_ne_zero
        (Nat.ne_of_gt (Nat.lt_of_lt_of_le (Nat.succ_pos _) hroom))
      have hheader := h header List.mem_cons_self
      have hlater := ih (fun later hmem => h later (List.mem_cons_of_mem _ hmem))
        (Nat.le_of_succ_le_succ hroom)
      obtain ⟨octet, tail, hoctets, hstart⟩ := head_octets hheader
      have hread := readHeader_octets hheader (headerBlock headers ++ rest)
      have hwritten : headerBlock (header :: headers) ++ rest =
          header.octets ++ (headerBlock headers ++ rest) := by
        simp only [headerBlock, List.flatMap_cons, List.append_assoc]
      rw [hoctets, List.cons_append] at hread
      rw [hwritten, hoctets, List.cons_append, readHeaders.eq_def]
      simp only [if_neg hstart, hread, Progress.done_andThen, hlater]

end Beacon.Http
