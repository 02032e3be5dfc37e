import Beacon.Application
import Beacon.Proofs.Requests
import Beacon.Proofs.Routing

/-!
# The accounting of requests

Every request that reaches a router leaves one record, whoever answers it, and the record tells of
that request and of the response to it. The window of records shows the end of this account. What
is answered has nothing to do with it.
-/

namespace Beacon

open Http

/-! ## What a target is recorded as -/

/-- The texts before a fragment, and what they are recorded as. -/
inductive RecordedAs : String → String → Prop where
  | asterisk : RecordedAs "*" "*"
  /-- What starts with a slash is recorded as it is. -/
  | path {target : String} (hslash : target.toList.head? = some '/') : RecordedAs target target
  | authority {authority : String} (hauthority : IsAuthorityText authority)
      (hmark : authority ≠ "*") : RecordedAs authority ""
  /-- Of an absolute target the part behind the authority is recorded. -/
  | absolute {scheme authority rest : String} (hscheme : IsSchemeText scheme)
      (hauthority : IsAuthorityText authority)
      (hrest : rest = "" ∨ rest.toList.head? = some '/' ∨ rest.toList.head? = some '?') :
      RecordedAs (scheme ++ "://" ++ authority ++ rest) (if rest = "" then "/" else rest)

/-! ## The text decides -/

theorem IsAuthorityText.slash_not_mem {text : String} (h : IsAuthorityText text) :
    '/' ∉ text.toList := fun hmem => (h.2 '/' hmem).1 rfl

theorem slash_mem_absolute (scheme authority rest : String) :
    '/' ∈ (scheme ++ "://" ++ authority ++ rest).toList := by
  have hmark : '/' ∈ "://".toList := by decide
  simp only [String.toList_append, List.mem_append]
  exact .inl (.inl (.inr hmark))

/-- An absolute target starts with its scheme, or with the mark behind it. -/
theorem head?_absolute_ne {scheme : String} (hscheme : IsSchemeText scheme)
    (authority rest : String) :
    (scheme ++ "://" ++ authority ++ rest).toList.head? ≠ some '/' := by
  intro hhead
  simp only [String.toList_append] at hhead
  cases htext : scheme.toList with
  | nil =>
      rw [htext] at hhead
      cases hhead
  | cons char later =>
      rw [htext] at hhead
      have hchar : char ∈ scheme.toList := by
        rw [htext]
        exact List.mem_cons_self
      exact (hscheme char hchar).2.1 (Option.some.inj hhead)

/-- An absolute target is split in one way. -/
theorem rest_unique {scheme scheme' authority authority' rest rest' : String}
    (hscheme : IsSchemeText scheme) (hscheme' : IsSchemeText scheme')
    (hauthority : IsAuthorityText authority) (hauthority' : IsAuthorityText authority')
    (hrest : rest = "" ∨ rest.toList.head? = some '/' ∨ rest.toList.head? = some '?')
    (hrest' : rest' = "" ∨ rest'.toList.head? = some '/' ∨ rest'.toList.head? = some '?')
    (h : scheme ++ "://" ++ authority ++ rest = scheme' ++ "://" ++ authority' ++ rest') :
    rest = rest' := by
  have hlist := congrArg String.toList h
  simp only [String.toList_append, List.append_assoc] at hlist
  have hcolon : ∀ {text : String}, IsSchemeText text →
      ∀ char ∈ text.toList, decide (char ≠ ':') = true := by
    intro text htext char hmem
    rw [decide_eq_true_eq]
    exact (htext char hmem).1
  have hstop : ∀ later : List Char, ∀ char ∈ ("://".toList ++ later).head?,
      decide (char ≠ ':') = false := by
    rintro later char ⟨⟩
    rfl
  have hbehind := List.append_cancel_left
    (split_unique _ (hcolon hscheme) (hcolon hscheme') (hstop _) (hstop _) hlist).2
  have hinside : ∀ {text : String}, IsAuthorityText text →
      ∀ char ∈ text.toList, decide (char ≠ '/' ∧ char ≠ '?') = true := by
    intro text htext char hmem
    rw [decide_eq_true_eq]
    exact ⟨(htext.2 char hmem).1, (htext.2 char hmem).2.1⟩
  have hends : ∀ {text : String},
      text = "" ∨ text.toList.head? = some '/' ∨ text.toList.head? = some '?' →
      ∀ char ∈ text.toList.head?, decide (char ≠ '/' ∧ char ≠ '?') = false := by
    intro text htext char hmem
    rcases htext with rfl | hhead | hhead
    · cases hmem
    · rw [hhead] at hmem
      cases hmem
      rfl
    · rw [hhead] at hmem
      cases hmem
      rfl
  exact String.toList_injective (split_unique _ (hinside hauthority) (hinside hauthority')
    (hends hrest) (hends hrest') hbehind).2

namespace RecordedAs

variable {target shown : String}

theorem eq_of_head? (h : RecordedAs target shown) (hslash : target.toList.head? = some '/') :
    shown = target := by
  cases h with
  | asterisk => rfl
  | path _ => rfl
  | authority hauthority _ =>
      exact absurd (List.mem_of_mem_head? hslash) hauthority.slash_not_mem
  | absolute hscheme _ _ => exact absurd hslash (head?_absolute_ne hscheme _ _)

theorem eq_of_not_mem (h : RecordedAs target shown) (hslash : '/' ∉ target.toList) :
    shown = if target = "*" then "*" else "" := by
  cases h with
  | asterisk => rfl
  | path hhead => exact absurd (List.mem_of_mem_head? hhead) hslash
  | authority _ hmark => rw [if_neg hmark]
  | absolute _ _ _ => exact absurd (slash_mem_absolute _ _ _) hslash

theorem eq_of_absolute {scheme authority rest : String} (hscheme : IsSchemeText scheme)
    (hauthority : IsAuthorityText authority)
    (hrest : rest = "" ∨ rest.toList.head? = some '/' ∨ rest.toList.head? = some '?')
    (h : RecordedAs (scheme ++ "://" ++ authority ++ rest) shown) :
    shown = if rest = "" then "/" else rest := by
  generalize htext : scheme ++ "://" ++ authority ++ rest = text at h
  cases h with
  | asterisk => exact absurd (htext ▸ slash_mem_absolute scheme authority rest) (by decide)
  | path hslash => exact absurd (htext ▸ hslash) (head?_absolute_ne hscheme _ _)
  | authority hother _ =>
      exact absurd (htext ▸ slash_mem_absolute scheme authority rest) hother.slash_not_mem
  | absolute hscheme' hauthority' hrest' =>
      rw [rest_unique hscheme hscheme' hauthority hauthority' hrest hrest' htext]

/-- A target is recorded as one text only. -/
theorem unique {other : String} (h : RecordedAs target shown) (h' : RecordedAs target other) :
    shown = other := by
  cases h with
  | asterisk => exact (h'.eq_of_not_mem (by decide)).symm
  | path hslash => exact (h'.eq_of_head? hslash).symm
  | authority hauthority hmark =>
      rw [h'.eq_of_not_mem hauthority.slash_not_mem, if_neg hmark]
  | absolute hscheme hauthority hrest => exact (eq_of_absolute hscheme hauthority hrest h').symm

end RecordedAs

/-! ## Targets that are read -/

theorem head?_of_octets {text : String} {mark : Char} (hmark : mark.toNat ≤ 0x7F)
    (h : (Utf8.octets text).head? = some (UInt8.ofNat mark.toNat)) :
    text.toList.head? = some mark := by
  rw [Utf8.octets] at h
  cases htext : text.toList with
  | nil =>
      rw [htext] at h
      cases h
  | cons char later =>
      rw [htext, Utf8.encode_cons] at h
      have hnonempty : String.utf8EncodeChar char ≠ [] := by
        intro hnil
        have hlength := congrArg List.length hnil
        rw [String.length_utf8EncodeChar] at hlength
        exact absurd hlength (Nat.ne_of_gt char.utf8Size_pos)
      rw [List.head?_append_of_ne_nil _ hnonempty] at h
      have hchar := (Utf8.mem_utf8EncodeChar_iff mark hmark char).mp (List.mem_of_mem_head? h)
      rw [hchar]
      rfl

/-- A target is recorded as its text before the fragment tells. -/
theorem recordedAs_of_parse {grammar : Target.Grammar} {text : String} {target : Target}
    (h : Target.parse (Utf8.octets text) grammar = .ok target) :
    RecordedAs (withoutFragment text) target.recorded := by
  have hspells := Target.spells_of_parse h
  rw [← octets_withoutFragment] at hspells
  generalize hoctets : Utf8.octets (withoutFragment text) = octets at hspells
  cases hspells with
  | asterisk =>
      have htext : withoutFragment text = "*" := Utf8.octets_inj.mp (hoctets.trans (by decide))
      rw [htext]
      exact .asterisk
  | @origin path query hslash _ =>
      have hne : path ≠ "" := by
        rintro rfl
        cases hslash
      rw [Utf8.octets_inj.mp hoctets]
      apply RecordedAs.path
      apply head?_of_octets (by decide)
      rw [Target.head?_withQuery hne]
      exact hslash
  | authority hhost =>
      have htext : withoutFragment text = asciiText octets :=
        Utf8.octets_inj.mp (hoctets.trans (octets_asciiText hhost.ascii).symm)
      rw [htext]
      exact .authority (isAuthorityText_of_isHost hhost) (Target.ne_asterisk_of_parse_authority h)
  | @absolute spelled host scheme path query hspelled _ hhost hslash _ =>
      rw [text_of_octets_absolute hspelled hhost hoctets]
      apply RecordedAs.absolute (isSchemeText_of_octets hspelled) (isAuthorityText_of_isHost hhost)
      by_cases hpath : path = ""
      · subst hpath
        cases query with
        | none => exact .inl rfl
        | some query =>
            right
            right
            apply head?_of_octets (by decide)
            rw [Target.octets_withQuery_some]
            rfl
      · right
        left
        apply head?_of_octets (by decide)
        rw [Target.head?_withQuery hpath]
        exact hslash.resolve_left hpath

/-! ## Accounts -/

/-- A record that tells of a request and of the response to it. -/
structure Record.TellsOf (record : Record) (identity : Identity) (draft : Draft)
    (response : Response) : Prop where
  service : record.service = identity.name
  method : record.method = draft.method
  path : RecordedAs (withoutFragment draft.target) record.path
  status : record.status = response.status.code

/-- What is answered to drafts, and the records of it: one of each request, in order, and none of a
request that cannot be built. -/
inductive Accounts (identity : Identity) (grammar : Target.Grammar) :
    List Draft → List (Except RequestError Response) → List Record → Prop where
  | nil : Accounts identity grammar [] [] []
  | unbuilt {draft : Draft} {fault : RequestError} {drafts : List Draft}
      {results : List (Except RequestError Response)} {records : List Record}
      (hbuild : draft.build grammar = .error fault)
      (hlater : Accounts identity grammar drafts results records) :
      Accounts identity grammar (draft :: drafts) (.error fault :: results) records
  | answered {draft : Draft} {request : Request} {response : Response} {record : Record}
      {drafts : List Draft} {results : List (Except RequestError Response)}
      {records : List Record} (hbuild : draft.build grammar = .ok request)
      (hrecord : record.TellsOf identity draft response)
      (hlater : Accounts identity grammar drafts results records) :
      Accounts identity grammar (draft :: drafts) (.ok response :: results) (record :: records)

namespace Service

/-- The record of a request tells of it, whoever has answered. -/
theorem tellsOf_handle (identity : Identity) (config : Config) {grammar : Target.Grammar}
    {draft : Draft} {request : Request}
    (h : draft.build grammar = .ok request) :
    ((ofConfig identity config).handle request).2.TellsOf identity draft
      ((ofConfig identity config).handle request).1 := by
  obtain ⟨hmethod, htarget⟩ := parts_of_build h
  rw [handle_snd]
  exact ⟨rfl, Method.name_of_ofName? hmethod, recordedAs_of_parse htarget, rfl⟩

end Service

namespace Application

variable (grammar : Target.Grammar)

/-- What is answered depends on the service alone. -/
theorem result_send (application : Application) (sink : Sink) (draft : Draft) :
    (application.send draft grammar).result =
      (send { application with sink := sink } draft grammar).result := by
  unfold send
  cases draft.build grammar with
  | error fault => rfl
  | ok request => rfl

theorem service_send (application : Application) (draft : Draft) :
    (application.send draft grammar).application.service = application.service := by
  unfold send
  cases draft.build grammar with
  | error fault => rfl
  | ok request => rfl

theorem results_sendAll (application : Application) (sink : Sink) (drafts : List Draft) :
    (application.sendAll drafts grammar).1 =
      drafts.map fun draft => (send { application with sink := sink } draft grammar).result := by
  induction drafts generalizing application with
  | nil => rfl
  | cons draft rest ih =>
      rw [sendAll, List.map_cons, ih, application.result_send grammar sink, service_send]

/-- Sending drafts keeps the account, whatever the sink makes of it. -/
theorem exists_accounts (identity : Identity) (config : Config) (sink : Sink)
    (drafts : List Draft) :
    ∃ records,
      Accounts identity grammar drafts ((create identity config sink).sendAll drafts grammar).1
          records ∧
        ((create identity config sink).sendAll drafts grammar).2.sink =
          (sink.recordAll records).1 := by
  induction drafts generalizing sink with
  | nil => exact ⟨[], .nil, rfl⟩
  | cons draft rest ih =>
      cases hbuild : draft.build grammar with
      | error fault =>
          obtain ⟨records, haccounts, hsink⟩ := ih sink
          have hsent : (create identity config sink).send draft grammar =
              ⟨.error fault, [], create identity config sink⟩ := by rw [send, hbuild]
          refine ⟨records, ?_, ?_⟩
          · rw [sendAll, hsent]
            exact .unbuilt hbuild haccounts
          · rw [sendAll, hsent]
            exact hsink
      | ok request =>
          let served := (Service.ofConfig identity config).handle request
          have hsent : (create identity config sink).send draft grammar =
              ⟨.ok served.1, (sink.record served.2).2,
                create identity config (sink.record served.2).1⟩ := by
            rw [send, hbuild]
            rfl
          obtain ⟨records, haccounts, hsink⟩ := ih (sink.record served.2).1
          refine ⟨served.2 :: records, ?_, ?_⟩
          · rw [sendAll, hsent]
            exact .answered hbuild (Service.tellsOf_handle identity config hbuild) haccounts
          · rw [sendAll, hsent]
            exact hsink

end Application

/-- The records of everything that was sent are accounted for, the window shows the end of the
account, and each answer is the one that the request gets alone, whatever the sink, and by whichever
grammar the targets are read. -/
theorem requests_are_accounted (identity : Identity) (config : Config) (capacity : Nat)
    (grammar : Target.Grammar) (drafts : List Draft) :
    let sent :=
      (Application.create identity config (.kept (.empty capacity))).sendAll drafts grammar
    (∃ records, Accounts identity grammar drafts sent.1 records ∧
      sent.2.sink.records = records.rtake capacity) ∧
    ∀ sink, sent.1 =
      drafts.map fun draft =>
        ((Application.create identity config sink).send draft grammar).result := by
  intro sent
  constructor
  · obtain ⟨records, haccounts, hsink⟩ :=
      Application.exists_accounts grammar identity config (.kept (.empty capacity)) drafts
    refine ⟨records, haccounts, ?_⟩
    rw [hsink, Sink.recordAll_kept]
    exact Window.entries_pushAll (.empty capacity) records
  · intro sink
    exact Application.results_sendAll grammar _ sink drafts

end Beacon
