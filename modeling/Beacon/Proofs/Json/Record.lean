import Beacon.Proofs.Json.Skip
import Mathlib.Data.List.Nodup

/-!
# Reading records against the grammar

What is decoded is a record of the grammar, with the values that it has, and every record of the
grammar is decoded. The members of an object and the elements of a list are read the same way: the
first one at once, each later one after a comma, and a closing mark in the end.
-/

namespace Beacon.Json

/-! ## Strings and blanks in front of them -/

theorem Blank.append {first second : Octets} (hfirst : Blank first) (hsecond : Blank second) :
    Blank (first ++ second) := by
  intro octet hmem
  obtain hmem | hmem := List.mem_append.mp hmem
  · exact hfirst octet hmem
  · exact hsecond octet hmem

/-- A string that is read from its opening quote on is a string. -/
theorem isString_of_readString {octets rest : Octets} {text : List Char}
    (h : readString octets = .ok (text, rest)) :
    ∃ string, IsString string (String.ofList text) ∧ quoteMark :: octets = string ++ rest := by
  obtain ⟨front, hfront, rfl⟩ := readString_eq_ok_iff.mp h
  refine ⟨_, .quoted ((String.toList_ofList (l := text)).symm ▸ hfront), ?_⟩
  simp only [List.append_assoc, List.cons_append, List.nil_append]

/-- A string is read from its opening quote on. -/
theorem IsString.read {string : Octets} {text : String} (h : IsString string text)
    (rest : Octets) :
    ∃ octets, string ++ rest = quoteMark :: octets ∧
      readString octets = .ok (text.toList, rest) := by
  cases h with
  | quoted h =>
      refine ⟨_, ?_, readString_eq_ok_iff.mpr ⟨_, h, rfl⟩⟩
      simp only [List.append_assoc, List.cons_append, List.nil_append]

/-- A string has one text. -/
theorem IsString.unique {string : Octets} {first second : String} (hfirst : IsString string first)
    (hsecond : IsString string second) : first = second := by
  obtain ⟨octets, hoctets, hread⟩ := hfirst.read []
  obtain ⟨octets', hoctets', hread'⟩ := hsecond.read []
  rw [hoctets, List.cons.injEq] at hoctets'
  rw [← hoctets'.2, hread, Except.ok.injEq, Prod.mk.injEq] at hread'
  exact String.toList_inj.mp hread'.1

/-! ## Rows of items -/

/-- What stands in front of an item: blanks, and a comma among them unless it is the first. -/
def Leads (first : Bool) (front : Octets) : Prop :=
  if first then Blank front
  else ∃ blank gap, Blank blank ∧ Blank gap ∧ front = blank ++ comma :: gap

theorem Leads.append {first : Bool} {front blank : Octets} (h : Leads first front)
    (hblank : Blank blank) : Leads first (front ++ blank) := by
  cases first with
  | true => exact Blank.append h hblank
  | false =>
      obtain ⟨outer, gap, houter, hgap, rfl⟩ := h
      exact ⟨outer, gap ++ blank, houter, hgap.append hblank,
        by rw [List.append_assoc, List.cons_append]⟩

/-- What is left of a list or an object, from an item on: the items that are left, each with what
stands in front of it, the closing mark, and what follows that. -/
inductive Row {α : Type} (closing : UInt8) (Item : Octets → α → Prop) (rest : Octets) :
    Bool → List α → Octets → Prop where
  | close {first : Bool} {blank : Octets} (hblank : Blank blank) :
      Row closing Item rest first [] (blank ++ closing :: rest)
  | item {first : Bool} {front octets later : Octets} {item : α} {items : List α}
      (hfront : Leads first front) (hitem : Item octets item)
      (hlater : Row closing Item rest false items later) :
      Row closing Item rest first (item :: items) (front ++ (octets ++ later))

section Rows

variable {α : Type} {closing : UInt8} {Item : Octets → α → Prop} {rest : Octets}

/-- An item and the row behind it are items with commas between them. -/
theorem Separated.of_row {before octets later : Octets} {item : α} {items : List α}
    (hbefore : Blank before) (hitem : Item octets item)
    (h : Row closing Item rest false items later) :
    ∃ front, Separated Item front (item :: items) ∧
      before ++ (octets ++ later) = front ++ closing :: rest := by
  -- Every row behind an item is one whose next item has a comma in front of it.
  generalize hfirst : false = first at h
  induction h generalizing before octets item with
  | close hblank =>
      refine ⟨_, .last hbefore hitem hblank, ?_⟩
      simp only [List.append_assoc]
  | item hfront hitem' _ ih =>
      subst hfirst
      obtain ⟨after, gap, hafter, hgap, rfl⟩ := hfront
      obtain ⟨front, hseparated, hoctets⟩ := ih hgap hitem' rfl
      refine ⟨_, .more hbefore hitem hafter hseparated, ?_⟩
      simp only [List.append_assoc, List.cons_append, hoctets]

theorem Row.after_comma {blank octets : Octets} {items : List α} (hblank : Blank blank)
    (h : Row closing Item rest true items octets) (hitems : items ≠ []) :
    Row closing Item rest false items (blank ++ comma :: octets) := by
  cases h with
  | close => exact absurd rfl hitems
  | item hfront hitem hlater =>
      have hlead : Leads false _ := ⟨blank, _, hblank, hfront, rfl⟩
      have hrow := Row.item hlead hitem hlater
      rwa [List.append_assoc, List.cons_append] at hrow

theorem Separated.ne_nil {octets : Octets} {items : List α} (h : Separated Item octets items) :
    items ≠ [] := by
  cases h <;> exact List.cons_ne_nil _ _

theorem Separated.row {octets : Octets} {items : List α} (h : Separated Item octets items) :
    Row closing Item rest true items (octets ++ closing :: rest) := by
  induction h with
  | last hbefore hitem hafter =>
      rw [List.append_assoc, List.append_assoc]
      exact .item hbefore hitem (.close hafter)
  | more hbefore hitem hafter hlater ih =>
      rw [List.append_assoc, List.append_assoc, List.append_assoc, List.cons_append]
      exact .item hbefore hitem (ih.after_comma hafter hlater.ne_nil)

/-- What follows an opening mark is the row of what is enclosed. -/
theorem row_iff_enclosed (opening : UInt8) {items : List α} {octets : Octets} :
    Row closing Item rest true items octets ↔
      ∃ enclosed, Enclosed opening closing Item enclosed items ∧
        opening :: octets = enclosed ++ rest := by
  constructor
  · intro h
    cases h with
    | close hblank =>
        refine ⟨_, .empty hblank, ?_⟩
        simp only [List.append_assoc, List.cons_append, List.nil_append]
    | item hfront hitem hlater =>
        obtain ⟨front, hseparated, hoctets⟩ := Separated.of_row hfront hitem hlater
        refine ⟨_, .items hseparated, ?_⟩
        simp only [List.append_assoc, List.cons_append, List.nil_append, hoctets]
  · rintro ⟨_, ⟨hblank⟩ | ⟨hseparated⟩, hoctets⟩
    · rw [List.append_assoc, List.cons_append, List.cons.injEq] at hoctets
      rw [hoctets.2]
      exact .close hblank
    · rw [List.append_assoc, List.cons_append, List.cons.injEq] at hoctets
      rw [hoctets.2]
      exact hseparated.row

end Rows

namespace Shape

theorem readField_eq_ok_iff {octets rest : Octets} {value : String} :
    readField octets = .ok (value, rest) ↔
      ∃ blank string, Blank blank ∧ IsString string value ∧
        octets = blank ++ (string ++ rest) := by
  constructor
  · intro h
    unfold readField at h
    split at h
    · cases h
    next octet tail hskip =>
      obtain ⟨-, blank, hblank, rfl⟩ := skipSpace_eq_cons_iff.mp hskip
      split at h
      next hquote =>
        cases hread : readString tail with
        | error fault =>
            rw [hread] at h
            cases h
        | ok pair =>
            rw [hread] at h
            cases h
            obtain ⟨string, hstring, hoctets⟩ := isString_of_readString hread
            exact ⟨blank, string, hblank, hstring, by rw [hquote, hoctets]⟩
      · cases h
  · rintro ⟨blank, string, hblank, hstring, rfl⟩
    obtain ⟨octets, hoctets, hread⟩ := hstring.read rest
    rw [hoctets, readField, skipSpace_eq_cons_iff.mpr ⟨by decide, blank, hblank, rfl⟩]
    simp only [if_true, hread, Except.map, String.ofList_toList]

/-! ## Lists -/

theorem leads_of_nextElement {first : Bool} {octets start after : Octets}
    (h : nextElement first octets = .ok (some start, after)) :
    ∃ front, Leads first front ∧ octets = front ++ start := by
  unfold nextElement at h
  split at h
  · cases h
  next octet tail hskip =>
    obtain ⟨-, blank, hblank, rfl⟩ := skipSpace_eq_cons_iff.mp hskip
    split_ifs at h with hclose hfirst hcomma
    · cases h
    · cases h
      exact ⟨blank, by rwa [hfirst], rfl⟩
    · split at h
      · cases h
      next next tail' hskip' =>
        split_ifs at h
        cases h
        obtain ⟨-, gap, hgap, rfl⟩ := skipSpace_eq_cons_iff.mp hskip'
        rw [Bool.not_eq_true] at hfirst
        exact ⟨_, by rw [hfirst]; exact ⟨blank, gap, hblank, hgap, rfl⟩,
          by rw [hcomma, List.append_assoc, List.cons_append]⟩

theorem nextElement_of_leads {first : Bool} {front : Octets} (h : Leads first front)
    (tail : Octets) :
    nextElement first (front ++ quoteMark :: tail) = .ok (some (quoteMark :: tail), []) := by
  cases first with
  | true =>
      rw [nextElement, skipSpace_blank h, skipSpace_cons (by decide)]
      rfl
  | false =>
      obtain ⟨blank, gap, hblank, hgap, rfl⟩ := h
      rw [List.append_assoc, List.cons_append, nextElement, skipSpace_blank hblank,
        skipSpace_cons (by decide)]
      simp only [skipSpace_blank hgap, skipSpace_cons (show isSpace quoteMark = false by decide)]
      rfl

theorem closeElements_eq_ok_iff {octets rest : Octets} :
    closeElements octets = .ok rest ↔
      ∃ blank, Blank blank ∧ octets = blank ++ closeList :: rest := by
  constructor
  · intro h
    unfold closeElements at h
    split at h
    · cases h
    next octet tail hskip =>
      split_ifs at h with hclose hcomma
      · cases h
        rw [← hclose]
        exact (skipSpace_eq_cons_iff.mp hskip).2
      · split at h
        · cases h
        · split_ifs at h
  · rintro ⟨blank, hblank, rfl⟩
    rw [closeElements, skipSpace_blank hblank, skipSpace_cons (by decide)]
    rfl

/-- Elements that are read, with the closing bracket behind them, are a row of as many strings as
there are fields. -/
theorem row_of_readElements {shape : Shape} {index : Nat} {fields values : List String}
    {octets final rest : Octets} (h : readElements shape index fields octets = .ok (values, final))
    (hclose : closeElements final = .ok rest) :
    Row closeList IsString rest (index = 0) values octets ∧ values.length = fields.length := by
  induction fields generalizing index values octets with
  | nil =>
      cases h
      obtain ⟨blank, hblank, rfl⟩ := closeElements_eq_ok_iff.mp hclose
      exact ⟨.close hblank, rfl⟩
  | cons field fields ih =>
      unfold readElements at h
      split at h
      · cases h
      · cases h
      next start _ hnext =>
        split at h
        · cases h
        next value middle hread =>
          obtain ⟨⟨later, final'⟩, hlater, h⟩ := map_eq_ok.mp h
          cases h
          obtain ⟨front, hfront, rfl⟩ := leads_of_nextElement hnext
          obtain ⟨blank, string, hblank, hstring, rfl⟩ := readField_eq_ok_iff.mp hread
          obtain ⟨hrow, hlength⟩ := ih hlater
          rw [decide_eq_false (Nat.succ_ne_zero index)] at hrow
          rw [← List.append_assoc]
          exact ⟨.item (hfront.append hblank) hstring hrow, congrArg (· + 1) hlength⟩

/-- A row of as many strings as there are fields is read, up to its closing bracket. -/
theorem readElements_of_row {shape : Shape} {index : Nat} {fields values : List String}
    {octets rest : Octets} (h : Row closeList IsString rest (index = 0) values octets)
    (hlength : values.length = fields.length) :
    ∃ final, readElements shape index fields octets = .ok (values, final) ∧
      closeElements final = .ok rest := by
  induction fields generalizing index values octets with
  | nil =>
      rw [List.length_nil, List.length_eq_zero_iff] at hlength
      subst hlength
      cases h with
      | close hblank => exact ⟨_, rfl, closeElements_eq_ok_iff.mpr ⟨_, hblank, rfl⟩⟩
  | cons field fields ih =>
      cases h with
      | close => cases hlength
      | @item _ front string later value values hfront hstring hlater =>
          rw [← decide_eq_false (Nat.succ_ne_zero index)] at hlater
          obtain ⟨final, hread, hclose⟩ := ih hlater (Nat.succ.inj hlength)
          refine ⟨final, ?_, hclose⟩
          have hfield : readField (string ++ later) = .ok (value, later) :=
            readField_eq_ok_iff.mpr ⟨[], string, .nil, hstring, rfl⟩
          obtain ⟨octets, hoctets, -⟩ := hstring.read later
          rw [hoctets] at hfield ⊢
          rw [readElements, nextElement_of_leads hfront]
          simp only [hfield, hread, Except.map]

/-! ## Objects -/

theorem leads_of_nextKey {first : Bool} {octets start : Octets}
    (h : nextKey first octets = .ok (.key start)) :
    ∃ front, Leads first front ∧ octets = front ++ quoteMark :: start := by
  unfold nextKey at h
  split at h
  · cases h
  next octet tail hskip =>
    obtain ⟨-, blank, hblank, rfl⟩ := skipSpace_eq_cons_iff.mp hskip
    split_ifs at h with hclose hfirst hquote hcomma
    · cases h
    · cases h
      exact ⟨blank, by rwa [hfirst], by rw [hquote]⟩
    · split at h
      · cases h
      next next tail' hskip' =>
        split_ifs at h with hquote
        cases h
        obtain ⟨-, gap, hgap, rfl⟩ := skipSpace_eq_cons_iff.mp hskip'
        rw [Bool.not_eq_true] at hfirst
        exact ⟨_, by rw [hfirst]; exact ⟨blank, gap, hblank, hgap, rfl⟩,
          by rw [hcomma, hquote, List.append_assoc, List.cons_append]⟩

theorem nextKey_of_leads {first : Bool} {front : Octets} (h : Leads first front)
    (tail : Octets) : nextKey first (front ++ quoteMark :: tail) = .ok (.key tail) := by
  cases first with
  | true =>
      rw [nextKey, skipSpace_blank h]
      exact nextKey_first tail
  | false =>
      obtain ⟨blank, gap, hblank, hgap, rfl⟩ := h
      rw [List.append_assoc, List.cons_append, nextKey, skipSpace_blank hblank,
        skipSpace_cons (by decide)]
      simp only [skipSpace_blank hgap, skipSpace_cons (show isSpace quoteMark = false by decide)]
      rfl

theorem nextKey_eq_done_iff {first : Bool} {octets rest : Octets} :
    nextKey first octets = .ok (.done rest) ↔
      ∃ blank, Blank blank ∧ octets = blank ++ closeObject :: rest := by
  constructor
  · intro h
    unfold nextKey at h
    split at h
    · cases h
    next octet tail hskip =>
      split_ifs at h with hclose hfirst hquote hcomma
      · cases h
        rw [← hclose]
        exact (skipSpace_eq_cons_iff.mp hskip).2
      · cases h
      · split at h
        · cases h
        · split_ifs at h
          cases h
  · rintro ⟨blank, hblank, rfl⟩
    rw [nextKey, skipSpace_blank hblank]
    exact nextKey_close first rest

/-- The fields among some members, with their values, in the order of the members. -/
def Declares (shape : Shape) (members : List Member) (found : List (String × String)) : Prop :=
  List.Forall₂ (fun member pair => member.key = pair.1 ∧ IsString member.value pair.2)
    (members.filter (·.key ∈ shape.fields)) found

theorem Declares.field {shape : Shape} {members : List Member} {found : List (String × String)}
    {member : Member} {value : String} (h : Declares shape members found)
    (hfield : member.key ∈ shape.fields) (hvalue : IsString member.value value) :
    Declares shape (member :: members) ((member.key, value) :: found) := by
  rw [Declares, List.filter_cons_of_pos (by simpa using hfield)]
  exact .cons ⟨rfl, hvalue⟩ h

theorem declares_other_iff {shape : Shape} {members : List Member}
    {found : List (String × String)} {member : Member} (hother : member.key ∉ shape.fields) :
    Declares shape (member :: members) found ↔ Declares shape members found := by
  rw [Declares, List.filter_cons_of_neg (by simpa using hother), Declares]

theorem row_member {first : Bool} {front key before gap value later rest : Octets} {name : String}
    {members : List Member} (hfront : Leads first front) (hkey : IsString key name)
    (hbefore : Blank before) (hgap : Blank gap) (hvalue : WellFormed .value value)
    (hlater : Row closeObject WritesMember rest false members later) :
    Row closeObject WritesMember rest first (⟨name, value⟩ :: members)
      (front ++ (key ++ (before ++ colon :: (gap ++ (value ++ later))))) := by
  have hmember : WritesMember (key ++ before ++ colon :: gap ++ value) ⟨name, value⟩ :=
    .written hkey hbefore hgap hvalue
  have hrow := Row.item hfront hmember hlater
  simpa only [List.append_assoc, List.cons_append] using hrow

/-- Members that are read, with the closing brace behind them, are a row of members, of which none
declares a field that was found before. -/
theorem row_of_readMembers {shape : Shape} {fuel : Nat} {found all : List (String × String)}
    {first : Bool} {octets rest : Octets} (hfound : (found.map (·.1)).Nodup)
    (h : readMembers shape fuel found first octets = .ok (all, rest)) :
    ∃ members declared, Row closeObject WritesMember rest first members octets ∧
      all = found ++ declared ∧ Declares shape members declared ∧ (all.map (·.1)).Nodup := by
  induction fuel generalizing found first octets with
  | zero => cases h
  | succ fuel ih =>
      unfold readMembers at h
      split at h
      · cases h
      next final hnext =>
        cases h
        obtain ⟨blank, hblank, rfl⟩ := nextKey_eq_done_iff.mp hnext
        exact ⟨[], [], .close hblank, (List.append_nil _).symm, .nil, hfound⟩
      next start hnext =>
        obtain ⟨front, hfront, rfl⟩ := leads_of_nextKey hnext
        split at h
        · cases h
        next text afterKey hread =>
          obtain ⟨key, hkey, hoctets⟩ := isString_of_readString hread
          rw [hoctets]
          dsimp only at h
          -- A field that was found before is refused; any other key is followed by a value to skip.
          split_ifs at h with hfield hdouble
          · split at h
            · cases h
            next value middle hmember =>
              obtain ⟨afterColon, hcolon, hreads⟩ := bind_eq_ok.mp hmember
              obtain ⟨before, hbefore, rfl⟩ := readColon_eq_ok_iff.mp hcolon
              obtain ⟨gap, string, hgap, hstring, rfl⟩ := readField_eq_ok_iff.mp hreads
              have hnew : ((found ++ [(String.ofList text, value)]).map (·.1)).Nodup := by
                rw [List.map_append, List.map_singleton]
                exact List.Nodup.append hfound (List.nodup_singleton _)
                  (List.disjoint_singleton.mpr hdouble)
              obtain ⟨members, declared, hrow, rfl, hdeclares, hnodup⟩ := ih hnew h
              rw [List.append_assoc, List.singleton_append] at hnodup ⊢
              exact ⟨_, _, row_member hfront hkey hbefore hgap hstring.wellFormed hrow, rfl,
                hdeclares.field hfield hstring, hnodup⟩
          · split at h
            · cases h
            next middle hmember =>
              obtain ⟨afterColon, hcolon, hskips⟩ := bind_eq_ok.mp hmember
              obtain ⟨before, hbefore, rfl⟩ := readColon_eq_ok_iff.mp hcolon
              obtain ⟨gap, value, hgap, hvalue, rfl⟩ := value_of_skipValue hskips
              obtain ⟨members, declared, hrow, rfl, hdeclares, hnodup⟩ := ih hfound h
              exact ⟨_, declared, row_member hfront hkey hbefore hgap hvalue hrow, rfl,
                (declares_other_iff hfield).mpr hdeclares, hnodup⟩

/-- A number does not go on with what stands behind a member. -/
theorem endsNumber_of_row {members : List Member} {rest octets : Octets}
    (h : Row closeObject WritesMember rest false members octets) : EndsNumber octets := by
  cases h with
  | close hblank => exact (endsNumber_cons (.inr (.inr rfl))).blank hblank
  | item hfront =>
      obtain ⟨blank, gap, hblank, -, rfl⟩ := hfront
      rw [List.append_assoc]
      exact (endsNumber_cons (.inl rfl)).blank hblank

/-- A row of members is read, up to its closing brace, if none declares a field that another one
does or that was found before. -/
theorem readMembers_of_row {shape : Shape} {fuel : Nat} {found declared : List (String × String)}
    {first : Bool} {members : List Member} {octets rest : Octets}
    (h : Row closeObject WritesMember rest first members octets)
    (hdeclares : Declares shape members declared)
    (hnodup : ((found ++ declared).map (·.1)).Nodup) (hfuel : members.length < fuel) :
    readMembers shape fuel found first octets = .ok (found ++ declared, rest) := by
  induction h generalizing found declared fuel with
  | close hblank =>
      obtain ⟨fuel, rfl⟩ := Nat.exists_eq_add_one_of_ne_zero (Nat.ne_of_gt hfuel)
      cases hdeclares
      rw [readMembers, nextKey_eq_done_iff.mpr ⟨_, hblank, rfl⟩, List.append_nil]
  | @item _ front _ later member members hfront hmember hlater ih =>
      obtain ⟨fuel, rfl⟩ := Nat.exists_eq_add_one_of_ne_zero (Nat.ne_zero_of_lt hfuel)
      have hfewer : members.length < fuel := Nat.lt_of_succ_lt_succ hfuel
      cases hmember with
      | @written key middle gap value name hkey hmiddle hgap hvalue =>
          simp only [List.append_assoc, List.cons_append]
          obtain ⟨start, hstart, hread⟩ := hkey.read (middle ++ colon :: (gap ++ (value ++ later)))
          have hcolon : readColon (middle ++ colon :: (gap ++ (value ++ later))) =
              .ok (gap ++ (value ++ later)) :=
            readColon_eq_ok_iff.mpr ⟨middle, hmiddle, rfl⟩
          rw [hstart, readMembers, nextKey_of_leads hfront]
          by_cases hfield : name ∈ shape.fields
          · rw [Declares, List.filter_cons_of_pos (by simpa using hfield)] at hdeclares
            cases hdeclares with
            | @cons _ pair _ declared hpair hdeclares =>
                obtain ⟨field, text⟩ := pair
                obtain ⟨rfl, hstring⟩ := hpair
                have hnew : name ∉ found.map (·.1) := by
                  rw [List.map_append, List.nodup_append] at hnodup
                  exact fun hmem => hnodup.2.2 name hmem name List.mem_cons_self rfl
                have hvalue : readField (gap ++ (value ++ later)) = .ok (text, later) :=
                  readField_eq_ok_iff.mpr ⟨gap, value, hgap, hstring, rfl⟩
                have hsplit : found ++ (name, text) :: declared =
                    (found ++ [(name, text)]) ++ declared := by
                  rw [List.append_assoc, List.singleton_append]
                rw [hsplit] at hnodup ⊢
                simp only [hread, String.ofList_toList, if_pos hfield, if_neg hnew, hcolon,
                  Except.bind, hvalue]
                exact ih hdeclares hnodup hfewer
          · have hskip := skipValue_append hgap hvalue (endsNumber_of_row hlater)
            simp only [hread, String.ofList_toList, if_neg hfield, hcolon, Except.bind, hskip]
            exact ih ((declares_other_iff hfield).mp hdeclares) hnodup hfewer

/-! ## Values of the fields -/

theorem collect_eq_ok_iff {found : List (String × String)} {rest : Octets}
    {fields values : List String} :
    collect found rest fields = .ok values ↔
      List.Forall₂ (fun field value => found.lookup field = some value) fields values := by
  induction fields generalizing values with
  | nil =>
      rw [collect, Except.ok.injEq, List.forall₂_nil_left_iff]
      exact eq_comm
  | cons field fields ih =>
      rw [collect, List.forall₂_cons_left_iff]
      cases hlookup : found.lookup field with
      | none =>
          constructor
          · rintro ⟨⟩
          · rintro ⟨value, later, ⟨⟩, -⟩
      | some value =>
          simp only [map_eq_ok, ih, Option.some.injEq]
          constructor
          · rintro ⟨later, hlater, rfl⟩
            exact ⟨value, later, rfl, hlater, rfl⟩
          · rintro ⟨_, later, rfl, hlater, rfl⟩
            exact ⟨later, hlater, rfl⟩

theorem lookup_eq_some_iff_mem {pairs : List (String × String)} {field value : String}
    (hnodup : (pairs.map (·.1)).Nodup) :
    pairs.lookup field = some value ↔ (field, value) ∈ pairs := by
  induction pairs with
  | nil => exact ⟨nofun, nofun⟩
  | cons pair pairs ih =>
      obtain ⟨field', value'⟩ := pair
      rw [List.map_cons, List.nodup_cons] at hnodup
      rw [List.lookup_cons, List.mem_cons, Prod.mk.injEq]
      by_cases hsame : field = field'
      · subst hsame
        have hother : (field, value) ∉ pairs := fun hmem =>
          hnodup.1 (List.mem_map.mpr ⟨_, hmem, rfl⟩)
        simp only [beq_self_eq_true, Option.some.injEq, true_and, hother, or_false]
        exact eq_comm
      · simp only [beq_eq_false_iff_ne.mpr hsame, hsame, false_and, false_or]
        exact ih hnodup.2

theorem filter_field {shape : Shape} {field : String} (hfield : field ∈ shape.fields)
    (members : List Member) :
    (members.filter (·.key ∈ shape.fields)).filter (·.key = field) =
      members.filter (·.key = field) := by
  rw [List.filter_filter]
  refine List.filter_congr fun member _ => ?_
  by_cases hkey : member.key = field <;> simp [hkey, hfield]

/-- The names of the fields that are declared are keys of members. -/
theorem Declares.map_key {shape : Shape} {members : List Member}
    {declared : List (String × String)} (h : Declares shape members declared) :
    declared.map (·.1) = (members.filter (·.key ∈ shape.fields)).map (·.key) := by
  have hkeys : List.Forall₂ (· = ·) ((members.filter (·.key ∈ shape.fields)).map (·.key))
      (declared.map (·.1)) := by
    rw [List.forall₂_map_left_iff, List.forall₂_map_right_iff]
    exact h.imp fun _ _ hpair => hpair.1
  rw [List.forall₂_eq_eq_eq] at hkeys
  exact hkeys.symm

/-- A field is declared as often as it is the key of a member. -/
theorem Declares.count {shape : Shape} {members : List Member}
    {declared : List (String × String)} (h : Declares shape members declared) {field : String}
    (hfield : field ∈ shape.fields) :
    (declared.map (·.1)).count field = (members.filter (·.key = field)).length := by
  rw [h.map_key, List.count, List.countP_map, List.countP_eq_length_filter,
    ← filter_field hfield]
  rfl

theorem exists_mem_of_forall₂ {α β : Type} {R : α → β → Prop} {items : List α} {others : List β}
    (h : List.Forall₂ R items others) {item : α} (hmem : item ∈ items) :
    ∃ other ∈ others, R item other := by
  induction h with
  | nil => cases hmem
  | @cons _ other _ _ hhead _ ih =>
      obtain rfl | hmem := List.mem_cons.mp hmem
      · exact ⟨other, List.mem_cons_self, hhead⟩
      · obtain ⟨other', hmem', hrelated⟩ := ih hmem
        exact ⟨other', List.mem_cons_of_mem _ hmem', hrelated⟩

theorem exists_forall₂ {α β : Type} {R : α → β → Prop} {items : List α}
    (h : ∀ item ∈ items, ∃ other, R item other) : ∃ others, List.Forall₂ R items others := by
  induction items with
  | nil => exact ⟨[], .nil⟩
  | cons item items ih =>
      obtain ⟨other, hother⟩ := h item List.mem_cons_self
      obtain ⟨others, hothers⟩ := ih fun item hmem => h item (List.mem_cons_of_mem _ hmem)
      exact ⟨other :: others, .cons hother hothers⟩

/-- The fields that are declared are given the values that they are declared with. -/
theorem Declares.gives_iff {shape : Shape} {members : List Member}
    {declared : List (String × String)} (h : Declares shape members declared)
    (hnodup : (declared.map (·.1)).Nodup) {field value : String} (hfield : field ∈ shape.fields) :
    declared.lookup field = some value ↔ Gives members field value := by
  rw [lookup_eq_some_iff_mem hnodup]
  constructor
  · intro hmem
    obtain ⟨member, hmember, rfl, hvalue⟩ := exists_mem_of_forall₂ h.flip hmem
    have hkey : member ∈ members.filter (·.key = member.key) :=
      List.mem_filter.mpr ⟨(List.mem_filter.mp hmember).1, by simp⟩
    have hlength : (members.filter (·.key = member.key)).length ≤ 1 := by
      rw [← h.count hfield]
      exact List.nodup_iff_count_le_one.mp hnodup _
    obtain ⟨only, honly⟩ := List.length_eq_one_iff.mp
      (Nat.le_antisymm hlength (List.length_pos_of_mem hkey))
    rw [honly, List.mem_singleton] at hkey
    exact ⟨member.value, hkey ▸ honly, hvalue⟩
  · rintro ⟨written, hfilter, hvalue⟩
    have hmember : (⟨field, written⟩ : Member) ∈ members.filter (·.key ∈ shape.fields) := by
      have hmem := hfilter ▸ List.mem_singleton_self (⟨field, written⟩ : Member)
      exact List.mem_filter.mpr ⟨(List.mem_filter.mp hmem).1, by simpa using hfield⟩
    obtain ⟨⟨_, text⟩, hpair, rfl, htext⟩ := exists_mem_of_forall₂ h hmember
    rwa [hvalue.unique htext]

/-- The values that are collected are those that the members give. -/
theorem Declares.collect_iff {shape : Shape} {members : List Member}
    {declared : List (String × String)} (h : Declares shape members declared)
    (hnodup : (declared.map (·.1)).Nodup) {rest : Octets} {values : List String} :
    collect declared rest shape.fields = .ok values ↔
      List.Forall₂ (Gives members) shape.fields values := by
  have hall : ∀ field ∈ shape.fields, field ∈ shape.fields := fun _ hmem => hmem
  rw [collect_eq_ok_iff]
  constructor
  · intro hvalues
    exact ((List.forall₂_and_left _ _).mpr ⟨hall, hvalues⟩).imp fun _ _ hboth =>
      (h.gives_iff hnodup hboth.1).mp hboth.2
  · intro hvalues
    exact ((List.forall₂_and_left _ _).mpr ⟨hall, hvalues⟩).imp fun _ _ hboth =>
      (h.gives_iff hnodup hboth.1).mpr hboth.2

/-- If every field is given a value, no field is declared twice. -/
theorem exists_declares {shape : Shape} {members : List Member} {values : List String}
    (h : List.Forall₂ (Gives members) shape.fields values) :
    ∃ declared, Declares shape members declared ∧ (declared.map (·.1)).Nodup := by
  have hstring : ∀ member ∈ members.filter (·.key ∈ shape.fields), ∃ pair : String × String,
      member.key = pair.1 ∧ IsString member.value pair.2 := by
    intro member hmember
    obtain ⟨hmember, hfield⟩ := List.mem_filter.mp hmember
    obtain ⟨value, -, written, hfilter, hvalue⟩ :=
      exists_mem_of_forall₂ h (of_decide_eq_true hfield)
    have hmem : member ∈ members.filter (·.key = member.key) :=
      List.mem_filter.mpr ⟨hmember, by simp⟩
    rw [hfilter, List.mem_singleton] at hmem
    rw [hmem]
    exact ⟨(_, value), rfl, hvalue⟩
  obtain ⟨declared, hdeclares⟩ := exists_forall₂ hstring
  refine ⟨declared, hdeclares, List.nodup_iff_count_le_one.mpr fun field => ?_⟩
  by_cases hfield : field ∈ shape.fields
  · obtain ⟨value, -, written, hfilter, -⟩ := exists_mem_of_forall₂ h hfield
    rw [Declares.count hdeclares hfield, hfilter, List.length_singleton]
  · have hnone : field ∉ declared.map (·.1) := by
      rw [Declares.map_key hdeclares]
      intro hmem
      obtain ⟨member, hmember, rfl⟩ := List.mem_map.mp hmem
      exact hfield (of_decide_eq_true (List.mem_filter.mp hmember).2)
    rw [List.count_eq_zero_of_not_mem hnone]
    exact Nat.zero_le 1

/-! ## Whole texts -/

/-- The number of calls suffices: every member is written with a colon. -/
theorem length_lt_of_row {first : Bool} {members : List Member} {rest octets : Octets}
    (h : Row closeObject WritesMember rest first members octets) :
    members.length < octets.length + 1 := by
  induction h with
  | close => exact Nat.succ_pos _
  | item _ hmember _ ih =>
      cases hmember
      simp only [List.length_append, List.length_cons] at ih ⊢
      omega

/-- What a record is, without the blanks around it. -/
def IsBareRecord (fields : List String) (octets : Octets) (values : List String) : Prop :=
  (∃ members, Enclosed openObject closeObject WritesMember octets members ∧
    List.Forall₂ (Gives members) fields values) ∨
  (Enclosed openList closeList IsString octets values ∧ values.length = fields.length)

theorem isRecord_iff {fields : List String} {octets : Octets} {values : List String} :
    IsRecord fields octets values ↔
      ∃ before record after, Blank before ∧ Blank after ∧ IsBareRecord fields record values ∧
        octets = before ++ (record ++ after) := by
  constructor
  · rintro (⟨hbefore, hafter, h, hvalues⟩ | ⟨hbefore, hafter, h, hlength⟩)
    · exact ⟨_, _, _, hbefore, hafter, .inl ⟨_, h, hvalues⟩, List.append_assoc _ _ _⟩
    · exact ⟨_, _, _, hbefore, hafter, .inr ⟨h, hlength⟩, List.append_assoc _ _ _⟩
  · rintro ⟨before, record, after, hbefore, hafter, ⟨members, h, hvalues⟩ | ⟨h, hlength⟩, rfl⟩
    · rw [← List.append_assoc]
      exact .object hbefore hafter h hvalues
    · rw [← List.append_assoc]
      exact .list hbefore hafter h hlength

theorem bareRecord_of_read {shape : Shape} {octets rest : Octets} {values : List String}
    (h : shape.read octets = .ok (values, rest)) :
    ∃ before record, Blank before ∧ IsBareRecord shape.fields record values ∧
      octets = before ++ (record ++ rest) := by
  unfold read at h
  split at h
  · cases h
  next octet tail hskip =>
    obtain ⟨-, before, hbefore, rfl⟩ := skipSpace_eq_cons_iff.mp hskip
    split_ifs at h with hlist hobject
    · split at h
      · cases h
      next found final hread =>
        obtain ⟨after, hclose, hpair⟩ := map_eq_ok.mp h
        cases hpair
        obtain ⟨hrow, hlength⟩ := row_of_readElements hread hclose
        obtain ⟨record, hrecord, hoctets⟩ := (row_iff_enclosed openList).mp hrow
        exact ⟨before, record, hbefore, .inr ⟨hrecord, hlength⟩, by rw [hlist, hoctets]⟩
    · split at h
      · cases h
      next found final hread =>
        obtain ⟨collected, hcollect, hpair⟩ := map_eq_ok.mp h
        cases hpair
        obtain ⟨members, declared, hrow, hfound, hdeclares, hnodup⟩ :=
          row_of_readMembers (by exact List.nodup_nil) hread
        rw [List.nil_append] at hfound
        subst hfound
        obtain ⟨record, hrecord, hoctets⟩ := (row_iff_enclosed openObject).mp hrow
        exact ⟨before, record, hbefore,
          .inl ⟨members, hrecord, (hdeclares.collect_iff hnodup).mp hcollect⟩,
          by rw [hobject, hoctets]⟩

theorem read_of_object {shape : Shape} {record : Octets} {members : List Member}
    {values : List String} (h : Enclosed openObject closeObject WritesMember record members)
    (hvalues : List.Forall₂ (Gives members) shape.fields values) (rest : Octets) :
    shape.read (record ++ rest) = .ok (values, rest) := by
  obtain ⟨tail, htail⟩ : ∃ tail, record ++ rest = openObject :: tail := by
    cases h <;> exact ⟨_, rfl⟩
  have hrow := (row_iff_enclosed openObject).mpr ⟨record, h, htail.symm⟩
  obtain ⟨declared, hdeclares, hnodup⟩ := exists_declares hvalues
  have hread := readMembers_of_row hrow hdeclares (by rwa [List.nil_append])
    (length_lt_of_row hrow)
  have hcollect : collect declared rest shape.fields = .ok values :=
    (hdeclares.collect_iff hnodup).mpr hvalues
  rw [List.nil_append] at hread
  rw [htail, read, skipSpace_cons (by decide)]
  simp only [if_neg (show openObject ≠ openList by decide), if_true, hread, hcollect, Except.map]

theorem read_of_list {shape : Shape} {record : Octets} {values : List String}
    (h : Enclosed openList closeList IsString record values)
    (hlength : values.length = shape.fields.length) (rest : Octets) :
    shape.read (record ++ rest) = .ok (values, rest) := by
  obtain ⟨tail, htail⟩ : ∃ tail, record ++ rest = openList :: tail := by
    cases h <;> exact ⟨_, rfl⟩
  have hrow := (row_iff_enclosed openList).mpr ⟨record, h, htail.symm⟩
  obtain ⟨final, hread, hclose⟩ : ∃ final,
      readElements shape 0 shape.fields tail = .ok (values, final) ∧
        closeElements final = .ok rest :=
    readElements_of_row hrow hlength
  rw [htail, read, skipSpace_cons (by decide)]
  simp only [if_true, hread, hclose, Except.map]

theorem read_blank {shape : Shape} {blank : Octets} (h : Blank blank) (octets : Octets) :
    shape.read (blank ++ octets) = shape.read octets := by
  rw [read, read, skipSpace_blank h]

/-- A text decodes to the values of a record exactly if it is a record with these values. -/
theorem decode_eq_ok_iff {shape : Shape} {octets : Octets} {values : List String} :
    shape.decode octets = .ok values ↔ IsRecord shape.fields octets values := by
  rw [isRecord_iff]
  constructor
  · intro h
    unfold decode at h
    split at h
    · cases h
    next found rest hread =>
      split at h
      next hskip =>
        cases h
        obtain ⟨before, record, hbefore, hrecord, rfl⟩ := bareRecord_of_read hread
        exact ⟨before, record, rest, hbefore, skipSpace_eq_nil_iff.mp hskip, hrecord, rfl⟩
      · cases h
  · rintro ⟨before, record, after, hbefore, hafter, hrecord, rfl⟩
    have hread : shape.read (record ++ after) = .ok (values, after) := by
      obtain ⟨members, h, hvalues⟩ | ⟨h, hlength⟩ := hrecord
      · exact read_of_object h hvalues after
      · exact read_of_list h hlength after
    rw [decode, read_blank hbefore, hread]
    simp only [skipSpace_eq_nil_iff.mpr hafter]

end Shape

end Beacon.Json
