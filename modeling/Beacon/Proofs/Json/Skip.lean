import Beacon.Proofs.Json.Number
import Beacon.Proofs.Json.Spelling
import Beacon.Proofs.Json.Struct

/-!
# Passing over values against the grammar

What is passed over as a value is a value of the grammar after blanks, and every value of the
grammar is passed over, whatever follows it. Only a number can go on with what follows, so there
the next octet must not continue it. The number of calls never runs out: a value inside another
one is shorter.
-/

namespace Beacon.Json

/-! ## Words and marks -/

theorem bind_eq_ok {ε α β : Type} {result : Except ε α} {next : α → Except ε β} {final : β} :
    result.bind next = .ok final ↔ ∃ value, result = .ok value ∧ next value = .ok final := by
  cases result with
  | error failure => exact ⟨nofun, nofun⟩
  | ok value =>
      constructor
      · exact fun h => ⟨value, rfl, h⟩
      · rintro ⟨_, ⟨⟩, h⟩
        exact h

theorem map_eq_ok {ε α β : Type} {result : Except ε α} {f : α → β} {final : β} :
    result.map f = .ok final ↔ ∃ value, result = .ok value ∧ f value = final := by
  cases result with
  | error failure => exact ⟨nofun, nofun⟩
  | ok value => simp only [Except.map, Except.ok.injEq, exists_eq_left']

theorem expectWord_eq_ok_iff {word octets rest : Octets} :
    expectWord word octets = .ok rest ↔ octets = word ++ rest := by
  induction word generalizing octets with
  | nil => rw [expectWord, Except.ok.injEq, List.nil_append]
  | cons wanted word ih =>
      cases octets with
      | nil => exact ⟨nofun, nofun⟩
      | cons octet octets =>
          rw [expectWord, List.cons_append, List.cons.injEq]
          split
          next hsame => rw [ih, and_iff_right hsame]
          next hdiffer => exact ⟨nofun, fun h => absurd h.1 hdiffer⟩

theorem readColon_eq_ok_iff {octets rest : Octets} :
    readColon octets = .ok rest ↔ ∃ blank, Blank blank ∧ octets = blank ++ colon :: rest := by
  constructor
  · intro h
    unfold readColon at h
    split at h
    next octet tail hskip =>
      split at h
      next hcolon =>
        cases h
        rw [← hcolon]
        exact (skipSpace_eq_cons_iff.mp hskip).2
      · cases h
    · cases h
  · rintro ⟨blank, hblank, rfl⟩
    rw [readColon, skipSpace_eq_cons_iff.mpr ⟨by decide, blank, hblank, rfl⟩]
    exact if_pos rfl

/-! ## What is passed over is well-formed -/

/-- What stands in front of some octets, if a part before them was passed over. -/
def Passes (rest : Octets) : Part → Octets → Prop
  | .value, octets =>
      ∃ blank value, Blank blank ∧ WellFormed .value value ∧ octets = blank ++ value ++ rest
  | .afterElement, octets =>
      ∃ blank, Blank blank ∧ (octets = blank ++ closeList :: rest ∨
        ∃ later, WellFormed .elements later ∧
          octets = blank ++ comma :: later ++ closeList :: rest)
  | .member, octets =>
      ∃ members, WellFormed .members members ∧ octets = members ++ closeObject :: rest
  | .afterMember, octets =>
      ∃ blank, Blank blank ∧ (octets = blank ++ closeObject :: rest ∨
        ∃ later, WellFormed .members later ∧
          octets = blank ++ comma :: later ++ closeObject :: rest)

/-- A value and what follows it in a list are elements and the closing bracket. -/
theorem Passes.elements {octets middle rest : Octets} (hvalue : Passes middle .value octets)
    (hafter : Passes rest .afterElement middle) :
    ∃ elements, WellFormed .elements elements ∧ octets = elements ++ closeList :: rest := by
  obtain ⟨before, value, hbefore, hvalue, rfl⟩ := hvalue
  obtain ⟨after, hafter, rfl | ⟨later, hlater, rfl⟩⟩ := hafter
  · refine ⟨_, .lastElement hbefore hafter hvalue, ?_⟩
    simp only [List.append_assoc]
  · refine ⟨_, .element hbefore hafter hvalue hlater, ?_⟩
    simp only [List.append_assoc]

/-- A key, a value and what follows it in an object are members and the closing brace. -/
theorem Passes.members {before key middle octets final rest : Octets} (hbefore : Blank before)
    (hkey : LooseText key) (hmiddle : Blank middle) (hvalue : Passes final .value octets)
    (hafter : Passes rest .afterMember final) :
    Passes rest .member
      (before ++ quoteMark :: (key ++ quoteMark :: (middle ++ colon :: octets))) := by
  obtain ⟨gap, value, hgap, hvalue, rfl⟩ := hvalue
  obtain ⟨after, hafter, rfl | ⟨later, hlater, rfl⟩⟩ := hafter
  · refine ⟨_, .lastMember hbefore hkey hmiddle hgap hafter hvalue, ?_⟩
    simp only [List.append_assoc, List.cons_append]
  · refine ⟨_, .member hbefore hkey hmiddle hgap hafter hvalue hlater, ?_⟩
    simp only [List.append_assoc, List.cons_append]

/-- The value that starts with an octet which is not blank. -/
theorem value_of_skipPart {fuel : Nat} {octets rest : Octets}
    (ih : ∀ {part octets rest}, skipPart fuel part octets = .ok rest → Passes rest part octets)
    (h : skipPart (fuel + 1) .value octets = .ok rest) : Passes rest .value octets := by
  unfold skipPart at h
  split at h
  · cases h
  next octet tail hskip =>
    obtain ⟨-, blank, hblank, rfl⟩ := skipSpace_eq_cons_iff.mp hskip
    suffices hvalue : ∃ value, WellFormed .value value ∧ octet :: tail = value ++ rest by
      obtain ⟨value, hvalue, hoctets⟩ := hvalue
      exact ⟨blank, value, hblank, hvalue, by rw [hoctets, List.append_assoc]⟩
    split_ifs at h with hn ht hf hnumber hquote hlist hobject
    · exact ⟨nullWord, .word (.inl rfl), expectWord_eq_ok_iff.mp h⟩
    · exact ⟨trueWord, .word (.inr (.inl rfl)), expectWord_eq_ok_iff.mp h⟩
    · exact ⟨falseWord, .word (.inr (.inr rfl)), expectWord_eq_ok_iff.mp h⟩
    · obtain ⟨number, hnumber, hoctets⟩ := number_of_skipNumber h
      exact ⟨number, .number hnumber, hoctets⟩
    · obtain ⟨text, htext, rfl⟩ := skipString_eq_ok_iff.mp h
      refine ⟨_, .string htext, ?_⟩
      simp only [hquote, List.append_assoc, List.cons_append, List.nil_append]
    · split at h
      · cases h
      next next tail' hskip' =>
        rw [hlist]
        split at h
        next hclose =>
          cases h
          obtain ⟨-, inner, hinner, rfl⟩ := skipSpace_eq_cons_iff.mp hskip'
          refine ⟨_, .emptyList hinner, ?_⟩
          simp only [hclose, List.append_assoc, List.cons_append, List.nil_append]
        · obtain ⟨middle, hvalue, hafter⟩ := bind_eq_ok.mp h
          obtain ⟨elements, helements, rfl⟩ := (ih hvalue).elements (ih hafter)
          refine ⟨_, .list helements, ?_⟩
          simp only [List.append_assoc, List.cons_append, List.nil_append]
    · split at h
      · cases h
      next next tail' hskip' =>
        rw [hobject]
        split at h
        next hclose =>
          cases h
          obtain ⟨-, inner, hinner, rfl⟩ := skipSpace_eq_cons_iff.mp hskip'
          refine ⟨_, .emptyObject hinner, ?_⟩
          simp only [hclose, List.append_assoc, List.cons_append, List.nil_append]
        · obtain ⟨members, hmembers, rfl⟩ := ih h
          refine ⟨_, .object hmembers, ?_⟩
          simp only [List.append_assoc, List.cons_append, List.nil_append]

theorem passes_of_skipPart {fuel : Nat} {part : Part} {octets rest : Octets}
    (h : skipPart fuel part octets = .ok rest) : Passes rest part octets := by
  -- On the calls that are left, for all parts at once: each part calls for others.
  induction fuel generalizing part octets rest with
  | zero => cases h
  | succ fuel ih =>
      cases part with
      | value => exact value_of_skipPart ih h
      | afterElement =>
          unfold skipPart at h
          split at h
          · cases h
          next octet tail hskip =>
            obtain ⟨-, blank, hblank, rfl⟩ := skipSpace_eq_cons_iff.mp hskip
            split_ifs at h with hcomma hclose
            · obtain ⟨middle, hvalue, hafter⟩ := bind_eq_ok.mp h
              obtain ⟨later, hlater, rfl⟩ := (ih hvalue).elements (ih hafter)
              refine ⟨blank, hblank, .inr ⟨later, hlater, ?_⟩⟩
              rw [hcomma, List.append_assoc]
              rfl
            · cases h
              exact ⟨blank, hblank, .inl (by rw [hclose])⟩
      | member =>
          unfold skipPart at h
          split at h
          · cases h
          next octet tail hskip =>
            obtain ⟨-, blank, hblank, rfl⟩ := skipSpace_eq_cons_iff.mp hskip
            split_ifs at h with hquote
            obtain ⟨afterKey, hstring, h⟩ := bind_eq_ok.mp h
            obtain ⟨afterColon, hcolon, h⟩ := bind_eq_ok.mp h
            obtain ⟨final, hvalue, hafter⟩ := bind_eq_ok.mp h
            obtain ⟨key, hkey, rfl⟩ := skipString_eq_ok_iff.mp hstring
            obtain ⟨middle, hmiddle, rfl⟩ := readColon_eq_ok_iff.mp hcolon
            rw [hquote]
            exact .members hblank hkey hmiddle (ih hvalue) (ih hafter)
      | afterMember =>
          unfold skipPart at h
          split at h
          · cases h
          next octet tail hskip =>
            obtain ⟨-, blank, hblank, rfl⟩ := skipSpace_eq_cons_iff.mp hskip
            split_ifs at h with hcomma hclose
            · obtain ⟨later, hlater, rfl⟩ := ih h
              refine ⟨blank, hblank, .inr ⟨later, hlater, ?_⟩⟩
              rw [hcomma, List.append_assoc]
              rfl
            · cases h
              exact ⟨blank, hblank, .inl (by rw [hclose])⟩

/-! ## What is well-formed is passed over -/

def StartsValue (octet : UInt8) : Prop :=
  isSpace octet = false ∧ octet ≠ closeList

theorem IsNumber.exists_cons {octets : Octets} (h : IsNumber octets) :
    ∃ first later, octets = first :: later ∧ (first = minusSign ∨ isDigit first = true) := by
  cases h with
  | negative => exact ⟨minusSign, _, rfl, .inl rfl⟩
  | positive h =>
      obtain ⟨first, later, hoctets, hfirst⟩ := h.exists_cons
      exact ⟨first, later, hoctets, .inr hfirst⟩

theorem startsValue_of_number {octet : UInt8} (h : octet = minusSign ∨ isDigit octet = true) :
    StartsValue octet := by
  constructor
  · rw [← Bool.not_eq_true, isSpace_iff]
    rintro (rfl | rfl | rfl | rfl) <;> revert h <;> decide
  · rintro rfl
    revert h
    decide

theorem WellFormed.exists_cons {value : Octets} (h : WellFormed .value value) :
    ∃ first later, value = first :: later ∧ StartsValue first := by
  cases h with
  | word h =>
      obtain rfl | rfl | rfl := h <;> exact ⟨_, _, rfl, by decide, by decide⟩
  | number h =>
      obtain ⟨first, later, hoctets, hfirst⟩ := h.exists_cons
      exact ⟨first, later, hoctets, startsValue_of_number hfirst⟩
  | string => exact ⟨quoteMark, _, rfl, by decide, by decide⟩
  | emptyList | list => exact ⟨openList, _, rfl, by decide, by decide⟩
  | emptyObject | object => exact ⟨openObject, _, rfl, by decide, by decide⟩

/-- Blanks, commas and closing marks end a number. -/
theorem EndsNumber.blank {blank rest : Octets} (hblank : Blank blank) (h : EndsNumber rest) :
    EndsNumber (blank ++ rest) := by
  cases blank with
  | nil => exact h
  | cons octet blank =>
      intro other hmem
      cases hmem
      obtain rfl | rfl | rfl | rfl := hblank octet List.mem_cons_self <;> decide

theorem endsNumber_cons {octet : UInt8} {rest : Octets}
    (h : octet = comma ∨ octet = closeList ∨ octet = closeObject) : EndsNumber (octet :: rest) := by
  intro other hmem
  cases hmem
  obtain rfl | rfl | rfl := h <;> decide

/-- How the phrases of each kind are passed over, given calls enough. -/
def Skips : Phrase → Octets → Prop
  | .value, octets => ∀ fuel rest, octets.length ≤ fuel → EndsNumber rest →
      skipPart (fuel + 1) .value (octets ++ rest) = .ok rest
  | .elements, octets => ∀ fuel rest, octets.length ≤ fuel →
      (skipPart (fuel + 1) .value (octets ++ closeList :: rest)).bind
        (skipPart (fuel + 1) .afterElement) = .ok rest
  | .members, octets => ∀ fuel rest, octets.length ≤ fuel →
      skipPart (fuel + 1) .member (octets ++ closeObject :: rest) = .ok rest

theorem skipPart_word {word : Octets} (h : word = nullWord ∨ word = trueWord ∨ word = falseWord)
    (fuel : Nat) (rest : Octets) : skipPart (fuel + 1) .value (word ++ rest) = .ok rest := by
  obtain rfl | rfl | rfl := h <;> rfl

theorem skipPart_number {number rest : Octets} (h : IsNumber number) (hrest : EndsNumber rest)
    (fuel : Nat) : skipPart (fuel + 1) .value (number ++ rest) = .ok rest := by
  obtain ⟨first, later, rfl, hfirst⟩ := h.exists_cons
  have hne : ∀ mark, (mark ≠ minusSign ∧ isDigit mark = false) → first ≠ mark := by
    rintro mark ⟨hminus, hdigit⟩ rfl
    rw [hdigit] at hfirst
    exact hfirst.elim hminus Bool.false_ne_true
  rw [List.cons_append, skipPart, skipSpace_cons (startsValue_of_number hfirst).1]
  simp only [if_neg (hne 0x6E (by decide)), if_neg (hne 0x74 (by decide)),
    if_neg (hne 0x66 (by decide)), if_pos hfirst]
  exact skipNumber_append h hrest

theorem skipPart_string {text : Octets} (h : LooseText text) (fuel : Nat) (rest : Octets) :
    skipPart (fuel + 1) .value (quoteMark :: text ++ [quoteMark] ++ rest) = .ok rest := by
  rw [List.append_assoc, List.cons_append]
  exact skipString_eq_ok_iff.mpr ⟨text, h, rfl⟩

theorem skipPart_list {octets tail : Octets} {next : UInt8}
    (hskip : skipSpace octets = next :: tail) (fuel : Nat) :
    skipPart (fuel + 1) .value (openList :: octets) =
      if next = closeList then .ok tail
      else (skipPart fuel .value octets).bind (skipPart fuel .afterElement) := by
  rw [skipPart, skipSpace_cons (by decide)]
  simp only [hskip]
  rfl

theorem skipPart_object {octets tail : Octets} {next : UInt8}
    (hskip : skipSpace octets = next :: tail) (fuel : Nat) :
    skipPart (fuel + 1) .value (openObject :: octets) =
      if next = closeObject then .ok tail else skipPart fuel .member octets := by
  rw [skipPart, skipSpace_cons (by decide)]
  simp only [hskip]
  rfl

theorem skipPart_comma (fuel : Nat) (octets : Octets) :
    skipPart (fuel + 1) .afterElement (comma :: octets) =
      (skipPart fuel .value octets).bind (skipPart fuel .afterElement) :=
  rfl

theorem skipPart_closeList (fuel : Nat) (octets : Octets) :
    skipPart (fuel + 1) .afterElement (closeList :: octets) = .ok octets :=
  rfl

theorem skipPart_commaMember (fuel : Nat) (octets : Octets) :
    skipPart (fuel + 1) .afterMember (comma :: octets) = skipPart fuel .member octets :=
  rfl

theorem skipPart_closeObject (fuel : Nat) (octets : Octets) :
    skipPart (fuel + 1) .afterMember (closeObject :: octets) = .ok octets :=
  rfl

/-- Passing over a member leaves its value, and what follows that. -/
theorem skipPart_key {key middle : Octets} (hkey : LooseText key) (hmiddle : Blank middle)
    (fuel : Nat) (octets : Octets) :
    skipPart (fuel + 1) .member (quoteMark :: (key ++ quoteMark :: (middle ++ colon :: octets))) =
      (skipPart fuel .value octets).bind (skipPart fuel .afterMember) := by
  rw [skipPart, skipSpace_cons (by decide)]
  simp only [if_true, skipString_eq_ok_iff.mpr ⟨key, hkey, rfl⟩,
    readColon_eq_ok_iff.mpr ⟨middle, hmiddle, rfl⟩, Except.bind]

/-- What is between the brackets of a list does not begin with the closing one. -/
theorem WellFormed.skipSpace_elements {elements : Octets} (h : WellFormed .elements elements)
    (rest : Octets) :
    ∃ first later, skipSpace (elements ++ rest) = first :: later ∧ first ≠ closeList := by
  have hstart : ∃ blank first later, Blank blank ∧ elements = blank ++ first :: later ∧
      StartsValue first := by
    cases h with
    | @lastElement before value after hbefore _ hvalue =>
        obtain ⟨first, later, rfl, hfirst⟩ := hvalue.exists_cons
        exact ⟨before, first, later ++ after, hbefore, List.append_assoc _ _ _, hfirst⟩
    | @element before value after others hbefore _ hvalue =>
        obtain ⟨first, later, rfl, hfirst⟩ := hvalue.exists_cons
        exact ⟨before, first, later ++ after ++ comma :: others, hbefore,
          by simp only [List.append_assoc, List.cons_append], hfirst⟩
  obtain ⟨blank, first, later, hblank, rfl, hspace, hclose⟩ := hstart
  refine ⟨first, later ++ rest, ?_, hclose⟩
  rw [List.append_assoc, skipSpace_blank hblank]
  exact skipSpace_cons hspace _

theorem WellFormed.skipSpace_members {members : Octets} (h : WellFormed .members members)
    (rest : Octets) : ∃ later, skipSpace (members ++ rest) = quoteMark :: later := by
  have hstart : ∃ blank later, Blank blank ∧ members = blank ++ quoteMark :: later := by
    cases h with
    | lastMember hbefore =>
        exact ⟨_, _, hbefore, by simp only [List.append_assoc, List.cons_append]; rfl⟩
    | member hbefore =>
        exact ⟨_, _, hbefore, by simp only [List.append_assoc, List.cons_append]; rfl⟩
  obtain ⟨blank, later, hblank, rfl⟩ := hstart
  refine ⟨later ++ rest, ?_⟩
  rw [List.append_assoc, skipSpace_blank hblank]
  exact skipSpace_cons (by decide) _

theorem WellFormed.skips {phrase : Phrase} {octets : Octets} (h : WellFormed phrase octets) :
    Skips phrase octets := by
  induction h with
  | word h => exact fun fuel rest _ _ => skipPart_word h fuel rest
  | number h => exact fun fuel rest _ hrest => skipPart_number h hrest fuel
  | string h => exact fun fuel rest _ _ => skipPart_string h fuel rest
  | @emptyList blank h =>
      intro fuel rest _ _
      have hskip : skipSpace (blank ++ closeList :: rest) = closeList :: rest := by
        rw [skipSpace_blank h, skipSpace_cons (by decide)]
      rw [List.append_assoc, List.cons_append, List.singleton_append, skipPart_list hskip,
        if_pos rfl]
  | @emptyObject blank h =>
      intro fuel rest _ _
      have hskip : skipSpace (blank ++ closeObject :: rest) = closeObject :: rest := by
        rw [skipSpace_blank h, skipSpace_cons (by decide)]
      rw [List.append_assoc, List.cons_append, List.singleton_append, skipPart_object hskip,
        if_pos rfl]
  | @list elements h ih =>
      intro fuel rest hfuel _
      simp only [List.length_append, List.length_cons] at hfuel
      obtain ⟨fuel, rfl⟩ := Nat.exists_eq_add_one_of_ne_zero (show fuel ≠ 0 by omega)
      obtain ⟨first, later, hskip, hclose⟩ := h.skipSpace_elements (closeList :: rest)
      rw [List.append_assoc, List.cons_append, List.singleton_append, skipPart_list hskip,
        if_neg hclose]
      exact ih fuel rest (by omega)
  | @object members h ih =>
      intro fuel rest hfuel _
      simp only [List.length_append, List.length_cons] at hfuel
      obtain ⟨fuel, rfl⟩ := Nat.exists_eq_add_one_of_ne_zero (show fuel ≠ 0 by omega)
      obtain ⟨later, hskip⟩ := h.skipSpace_members (closeObject :: rest)
      rw [List.append_assoc, List.cons_append, List.singleton_append, skipPart_object hskip,
        if_neg (by decide)]
      exact ih fuel rest (by omega)
  | @lastElement before value after hbefore hafter _ ih =>
      intro fuel rest hfuel
      simp only [List.length_append] at hfuel
      have hends : EndsNumber (after ++ closeList :: rest) :=
        (endsNumber_cons (.inr (.inl rfl))).blank hafter
      rw [List.append_assoc, List.append_assoc, skipPart_blank hbefore,
        ih fuel _ (by omega) hends]
      exact (skipPart_blank hafter _ _ _).trans (skipPart_closeList fuel rest)
  | @element before value after later hbefore hafter _ _ ih ihlater =>
      intro fuel rest hfuel
      simp only [List.length_append, List.length_cons] at hfuel
      -- The comma takes a call of its own.
      obtain ⟨fuel, rfl⟩ := Nat.exists_eq_add_one_of_ne_zero (show fuel ≠ 0 by omega)
      have hends : EndsNumber (after ++ comma :: (later ++ closeList :: rest)) :=
        (endsNumber_cons (.inl rfl)).blank hafter
      simp only [List.append_assoc, List.cons_append]
      rw [skipPart_blank hbefore, ih (fuel + 1) _ (by omega) hends]
      refine (skipPart_blank hafter _ _ _).trans ((skipPart_comma _ _).trans ?_)
      exact ihlater fuel rest (by omega)
  | @lastMember before key middle gap value after hbefore hkey hmiddle hgap hafter _ ih =>
      intro fuel rest hfuel
      simp only [List.length_append, List.length_cons] at hfuel
      obtain ⟨fuel, rfl⟩ := Nat.exists_eq_add_one_of_ne_zero (show fuel ≠ 0 by omega)
      have hends : EndsNumber (after ++ closeObject :: rest) :=
        (endsNumber_cons (.inr (.inr rfl))).blank hafter
      simp only [List.append_assoc, List.cons_append]
      rw [skipPart_blank hbefore, skipPart_key hkey hmiddle, skipPart_blank hgap,
        ih fuel _ (by omega) hends]
      exact (skipPart_blank hafter _ _ _).trans (skipPart_closeObject fuel rest)
  | @member before key middle gap value after later hbefore hkey hmiddle hgap hafter _ _ ih
      ihlater =>
      intro fuel rest hfuel
      simp only [List.length_append, List.length_cons] at hfuel
      -- The key and the comma take a call each.
      obtain ⟨fuel, rfl⟩ := Nat.exists_eq_add_of_le' (show 2 ≤ fuel by omega)
      have hends : EndsNumber (after ++ comma :: (later ++ closeObject :: rest)) :=
        (endsNumber_cons (.inl rfl)).blank hafter
      simp only [List.append_assoc, List.cons_append]
      rw [skipPart_blank hbefore, skipPart_key hkey hmiddle, skipPart_blank hgap,
        ih (fuel + 1) _ (by omega) hends]
      refine (skipPart_blank hafter _ _ _).trans ((skipPart_commaMember _ _).trans ?_)
      exact ihlater fuel rest (by omega)

/-- Every value is passed over, after any blanks. -/
theorem skipValue_append {blank value rest : Octets} (hblank : Blank blank)
    (h : WellFormed .value value) (hrest : EndsNumber rest) :
    skipValue (blank ++ (value ++ rest)) = .ok rest := by
  rw [skipValue, skipPart_blank hblank]
  exact h.skips _ _ (by simp only [List.length_append]; omega) hrest

/-- What is passed over is a value, after blanks. -/
theorem value_of_skipValue {octets rest : Octets} (h : skipValue octets = .ok rest) :
    ∃ blank value, Blank blank ∧ WellFormed .value value ∧ octets = blank ++ (value ++ rest) := by
  obtain ⟨blank, value, hblank, hvalue, hoctets⟩ := passes_of_skipPart h
  exact ⟨blank, value, hblank, hvalue, by rw [hoctets, List.append_assoc]⟩

end Beacon.Json
