import Beacon.Client
import Beacon.Http.Connection
import Beacon.Proofs.Http.MessageHead
import Beacon.Proofs.Text.Decimal

/-!
# Exchanges on a connection

A request without a body is all that a client sends on a connection, so a service gives one answer
to it. A client that gets one answer with a stated length gets its status and its whole body.
-/

namespace Beacon.Http

/-! ## Values of headers -/

theorem allValues_ofText_cons (name text : String) (headers : List Header) :
    allValues name (.ofText name text :: headers) =
      Utf8.octets text :: allValues name headers := by
  rw [allValues, List.filter_cons, Header.ofText, if_pos (beq_self_eq_true name)]
  rfl

theorem allValues_append (name : String) (front headers : List Header) :
    allValues name (front ++ headers) = allValues name front ++ allValues name headers := by
  rw [allValues, List.filter_append, List.map_append]
  rfl

theorem allValues_eq_nil {name : String} {headers : List Header}
    (h : ∀ header ∈ headers, header.name ≠ name) : allValues name headers = [] := by
  rw [allValues, List.map_eq_nil_iff, List.filter_eq_nil_iff]
  intro header hmem heq
  exact h header hmem (beq_iff_eq.mp heq)

/-! ## Requests without a body -/

/-- The heads of requests that end with the head and leave the connection open: of the newer
version, without a word on a body or on the connection. -/
structure RequestHead.IsWhole (head : RequestHead) : Prop where
  version : head.version = .oneOne
  coding : ∀ header ∈ head.request.headers, header.name ≠ Header.transferEncoding
  length : ∀ header ∈ head.request.headers, header.name ≠ Header.contentLength
  connection : ∀ header ∈ head.request.headers, header.name ≠ Header.connection

namespace RequestHead.IsWhole

theorem framing {head : RequestHead} (h : head.IsWhole) :
    Framing.ofRequest head = .ok (.sized 0) := by
  have hfold : head.request.headers.foldlM (RequestFraming.next head.version) ⟨none, none⟩ =
      .ok ⟨none, none⟩ := by
    have hcoding := h.coding
    have hlength := h.length
    generalize head.request.headers = headers at hcoding hlength
    induction headers with
    | nil => rfl
    | cons header headers ih =>
        rw [List.foldlM_cons, RequestFraming.next, if_neg (hcoding header List.mem_cons_self),
          if_neg (hlength header List.mem_cons_self)]
        exact ih (fun later hmem => hcoding later (List.mem_cons_of_mem _ hmem))
          fun later hmem => hlength later (List.mem_cons_of_mem _ hmem)
  rw [Framing.ofRequest, hfold]
  rfl

theorem keepsOpen {head : RequestHead} (h : head.IsWhole) : head.keepsOpen = true := by
  simp only [RequestHead.keepsOpen, asksConnection, statesTwoLengths, allValues_eq_nil h.coding,
    allValues_eq_nil h.connection, h.version]
  rfl

end RequestHead.IsWhole

/-! ## Looking at heads -/

theorem holdsBlankLine_append (front : Octets) {octets : Octets}
    (h : holdsBlankLine octets = true) : holdsBlankLine (front ++ octets) = true := by
  induction front with
  | nil => exact h
  | cons octet front ih =>
      rw [List.cons_append, holdsBlankLine, ih, Bool.or_true]

/-- What is read of octets that are all kept is what is read of them without a bound, unless they
end inside the head. -/
theorem readBounded_eq {octets : Octets} (hlength : octets.length ≤ maxHeadLength)
    (hmore : RequestHead.read octets ≠ .more) :
    RequestHead.readBounded octets = RequestHead.read octets := by
  rw [RequestHead.readBounded, List.take_of_length_le hlength]
  split
  next hread => exact absurd hread hmore
  · rfl

/-- A head that ends with a blank line is read whole, though its first octets are looked at
first. -/
theorem readAfter_blankLine (seen : Nat) {front : Octets}
    (hlength : (front ++ (lineEnd ++ lineEnd)).length ≤ maxHeadLength)
    (hmore : RequestHead.read (front ++ (lineEnd ++ lineEnd)) ≠ .more) :
    RequestHead.readAfter seen (front ++ (lineEnd ++ lineEnd)) =
      RequestHead.read (front ++ (lineEnd ++ lineEnd)) := by
  have hseen : seen = 0 ∨ (front ++ (lineEnd ++ lineEnd)).length ≤ seen ∨
      holdsBlankLine ((front ++ (lineEnd ++ lineEnd)).drop (seen - 3)) = true := by
    by_cases hlength : (front ++ (lineEnd ++ lineEnd)).length ≤ seen
    · exact .inr (.inl hlength)
    · refine .inr (.inr ?_)
      have hfront : seen - 3 ≤ front.length := by
        simp only [List.length_append, lineEnd, List.length_cons, List.length_nil] at hlength
        omega
      rw [List.drop_append_of_le_length hfront]
      exact holdsBlankLine_append _ (by decide)
  rw [RequestHead.readAfter, readBounded_eq hlength hmore]
  split
  · rw [if_pos hseen]
  · rfl

theorem write_ends (request : Request) :
    ∃ front, RequestHead.write request = front ++ (lineEnd ++ lineEnd) := by
  have hblock : ∀ line headers, ∃ front,
      line ++ lineEnd ++ headerBlock headers = front ++ (lineEnd ++ lineEnd) := by
    intro line headers
    induction headers generalizing line with
    | nil =>
        refine ⟨line, ?_⟩
        rw [headerBlock, List.flatMap_nil, List.nil_append, List.append_assoc]
    | cons header headers ih =>
        obtain ⟨front, hfront⟩ := ih (line ++ lineEnd ++
          (Utf8.octets header.name ++ [0x3A, space] ++ header.value))
        refine ⟨front, ?_⟩
        rw [← hfront]
        simp only [headerBlock, List.flatMap_cons, Header.octets, List.append_assoc]
  exact hblock _ request.headers

/-- A request that is written is read whole by whoever keeps enough of its octets. -/
theorem readAfter_write (seen : Nat) {request : Request}
    (hmore : RequestHead.read (RequestHead.write request) ≠ .more)
    (hlength : (RequestHead.write request).length ≤ maxHeadLength) :
    RequestHead.readAfter seen (RequestHead.write request) =
      RequestHead.read (RequestHead.write request) := by
  obtain ⟨front, hends⟩ := write_ends request
  rw [hends] at hlength hmore ⊢
  exact readAfter_blankLine seen hlength hmore

/-- What starts like the newer protocol is of no version that is spoken here. -/
theorem read_otherProtocol (rest : Octets) :
    RequestHead.read (otherProtocol ++ rest) = .refused .version := by
  let method : Method := ⟨[0x50, 0x52, 0x49], by decide⟩
  let later := otherProtocol.drop 6 ++ rest
  have hskip : skipBlankLines (otherProtocol ++ rest) = .done () (otherProtocol ++ rest) := rfl
  have hsplit : otherProtocol ++ rest =
      method.octets ++ space :: (Utf8.octets "*" ++ space :: later) := rfl
  have hversion : readVersion later = .refused .version := rfl
  rw [RequestHead.read, hskip, hsplit]
  simp only [Progress.done_andThen, readMethod_octets,
    readTarget_octets (show "*" ≠ "" by decide) (show ∀ octet ∈ Utf8.octets "*",
      RequestHead.isTargetOctet octet = true by decide), hversion]
  rfl

theorem read_of_isOtherProtocol {request : Request}
    (hother : isOtherProtocol (RequestHead.write request) = true) :
    RequestHead.read (RequestHead.write request) = .refused .version := by
  have hdrop : (RequestHead.write request).dropWhile
      (fun octet => octet = carriageReturn || octet = lineFeed) = RequestHead.write request := by
    obtain ⟨octet, later, hoctets, hfeed, hreturn⟩ := head_octets_method request.method
    rw [← List.append_nil (RequestHead.write request), write_append, hoctets]
    apply dropWhile_of_head?
    rintro octet ⟨⟩
    simp [hfeed, hreturn]
  rw [isOtherProtocol, hdrop, List.isPrefixOf_iff_prefix] at hother
  obtain ⟨rest, hrest⟩ := hother
  rw [← hrest]
  exact read_otherProtocol rest

/-! ## Serving one request -/

/-- Nothing more is done once all octets are read. -/
theorem serveOctets_nil (service : Service) (version : Version) (seen fuel : Nat) :
    serveOctets service version seen fuel [] = ⟨[], []⟩ := by
  cases fuel with
  | zero => rfl
  | succ fuel =>
      have hread : RequestHead.readAfter seen [] = .more := by
        have hmore : RequestHead.read [] = .more := rfl
        rw [RequestHead.readAfter, List.take_nil, hmore]
        simp only [List.length_nil, Nat.zero_le, true_or, or_true, if_true]
        rw [RequestHead.readBounded, List.take_nil, hmore]
        rfl
      rw [serveOctets, hread]

/-- A request that is all that is sent gets the answer of the service, and leaves its record. -/
theorem serveConnection_of_read {service : Service} {octets : Octets} {head : RequestHead}
    (hread : RequestHead.readAfter firstLook octets = .done head []) (hwhole : head.IsWhole) :
    serveConnection service octets =
      ⟨[.ofResponse .oneOne true (service.handle head.request).1],
        [(service.handle head.request).2]⟩ := by
  have hafter : afterBody (.sized 0) [] = some [] := rfl
  rw [serveConnection, serveOctets, hread]
  simp only [hwhole.framing, hwhole.keepsOpen, hafter, serveOctets_nil, hwhole.version]

/-- A request that is refused leaves no record, and ends the connection. -/
theorem serveConnection_of_refused {service : Service} {octets : Octets} {fault : HeadFault}
    (hread : RequestHead.readAfter firstLook octets = .refused fault)
    (hother : isOtherProtocol octets = false) :
    serveConnection service octets = ⟨[fault.answer .oneOne], []⟩ := by
  rw [serveConnection, serveOctets, hread]
  simp only [refuse, hother]
  rfl

/-- A request that is refused as it is written leaves no record, and ends the connection. -/
theorem serveConnection_write_of_refused (service : Service) {request : Request}
    {fault : HeadFault}
    (hread : RequestHead.read (RequestHead.write request) = .refused fault)
    (hversion : fault ≠ .version)
    (hlength : (RequestHead.write request).length ≤ maxHeadLength) :
    serveConnection service (RequestHead.write request) = ⟨[fault.answer .oneOne], []⟩ := by
  have hmore : RequestHead.read (RequestHead.write request) ≠ .more := by
    rw [hread]
    rintro ⟨⟩
  refine serveConnection_of_refused ((readAfter_write firstLook hmore hlength).trans hread) ?_
  refine Bool.eq_false_iff.mpr fun hother => hversion ?_
  have hrefused := hread.symm.trans (read_of_isOtherProtocol hother)
  exact Progress.refused.inj hrefused

/-! ## Lengths -/

theorem lengthValue?_numeral {n : Nat} (h : n < Nat.pow 2 64) :
    lengthValue? (Utf8.octets (Decimal.numeral n)) = some n := by
  have hdigits : (Utf8.octets (Decimal.numeral n)).all
      (fun octet => 0x30 ≤ octet && octet ≤ 0x39) = true := by
    rw [List.all_eq_true]
    intro octet hmem
    have hoctet := Decimal.toNat_of_mem_octets_numeral hmem
    rw [Bool.and_eq_true, decide_eq_true_eq, decide_eq_true_eq, UInt8.le_iff_toNat_le,
      UInt8.le_iff_toNat_le]
    exact hoctet
  have hempty : (Utf8.octets (Decimal.numeral n)).isEmpty = false := by
    rw [List.isEmpty_eq_false_iff]
    exact Decimal.octets_numeral_ne_nil n
  rw [lengthValue?, hdigits, hempty, Decimal.foldl_octets_numeral]
  exact if_pos h

/-- The octets of a numeral do what is asked of those of a length: they are neither blanks nor
commas, and may stand in a value. -/
theorem of_mem_octets_numeral {n : Nat} {octet : UInt8}
    (h : octet ∈ Utf8.octets (Decimal.numeral n)) :
    Header.isPlainOctet octet = true ∧ isValueOctet octet = true ∧ isBlankOctet octet = false ∧
      (octet == 0x2C) = false := by
  have hoctet := Decimal.toNat_of_mem_octets_numeral h
  have hplain : 0x20 ≤ octet ∧ octet ≤ 0x7E := by
    rw [UInt8.le_iff_toNat_le, UInt8.le_iff_toNat_le]
    change 0x20 ≤ octet.toNat ∧ octet.toNat ≤ 0x7E
    omega
  have hne : ∀ mark : UInt8, mark.toNat < 0x30 → octet ≠ mark := by
    rintro mark hmark rfl
    omega
  refine ⟨?_, ?_, ?_, ?_⟩
  · simp [Header.isPlainOctet, hplain]
  · simp [isValueOctet, hplain]
  · simp [isBlankOctet, hne space (by decide), hne 0x09 (by decide)]
  · simpa using hne 0x2C (by decide)

theorem isSendable_contentLength (n : Nat) :
    (Header.ofText Header.contentLength (Decimal.numeral n)).IsSendable where
  token := by
    change isToken (Utf8.octets Header.contentLength) = true
    decide
  lower := by
    change asciiText ((Utf8.octets Header.contentLength).map Target.lower) = Header.contentLength
    decide
  value := fun _ hmem => (of_mem_octets_numeral hmem).2.1
  start := fun _ hmem => (of_mem_octets_numeral (List.mem_of_mem_head? hmem)).2.2.1
  finish := fun _ hmem => (of_mem_octets_numeral (List.mem_of_getLast? hmem)).2.2.1

/-! ## Responses with a stated length -/

/-- A response that states its length, and no coding, has a body of that length. Of some methods the
response has none, whatever it states. -/
theorem ofResponse_sized {method : Method} {head : ResponseHead} {n : Nat}
    (hmethod : method = .head ∨ (method = .connect ∧ head.status.code < 300) → n = 0)
    (hfinal : 200 ≤ head.status.code)
    (hbody : head.status.code ≠ 204 ∧ head.status.code ≠ 304)
    (hcoding : allValues Header.transferEncoding head.headers = [])
    (hlength : allValues Header.contentLength head.headers = [Utf8.octets (Decimal.numeral n)])
    (hn : n ≤ maxBodyLength) :
    Framing.ofResponse method head = .ok (some (.sized n)) := by
  have hplain : (Utf8.octets (Decimal.numeral n)).all Header.isPlainOctet = true := by
    rw [List.all_eq_true]
    exact fun octet hmem => (of_mem_octets_numeral hmem).1
  have hsplit : splitList (Utf8.octets (Decimal.numeral n)) =
      [Utf8.octets (Decimal.numeral n)] := by
    rw [splitList, List.splitOn_eq_splitOnP]
    exact List.splitOnP_eq_singleton fun octet hmem => (of_mem_octets_numeral hmem).2.2.2
  have htrim : trimPart (Utf8.octets (Decimal.numeral n)) = Utf8.octets (Decimal.numeral n) := by
    have hstart : (Utf8.octets (Decimal.numeral n)).dropWhile isBlankOctet =
        Utf8.octets (Decimal.numeral n) :=
      dropWhile_of_head? (isSendable_contentLength n).start
    rw [trimPart, hstart]
    exact trimEnd_eq (isSendable_contentLength n).finish
  have hvalue := lengthValue?_numeral (Nat.lt_of_le_of_lt hn (show maxBodyLength < _ by decide))
  have hheaders : framingOfHeaders head = .ok (.sized n) := by
    simp only [framingOfHeaders, hcoding, hlength, List.getLast?_nil, List.isEmpty_cons,
      Bool.false_eq_true, if_false, List.flatMap_cons, List.flatMap_nil, List.append_nil, hplain,
      if_true, hsplit, List.map_cons, List.map_nil, htrim, hvalue, agreedLength?, List.all_nil,
      if_pos hn]
  rw [Framing.ofResponse, if_neg (by omega), if_neg (by omega)]
  split
  next hbare => rw [hmethod hbare]
  · rw [hheaders]
    rfl

end Beacon.Http

namespace Beacon.Client

open Http

/-- A client that gets one answer, framed so that its body is all of it, gets its status and its
body. -/
theorem receive_answer {method : Method} {answer : Answer} {framing : Framing} {rest : Octets}
    (hheaders : ∀ header ∈ answer.head.headers, header.IsSendable)
    (hroom : answer.head.headers.length ≤ maxHeaders)
    (hframing : Framing.ofResponse method answer.head = .ok (some framing))
    (hbody : framing.readBody answer.body = some (answer.body, rest)) :
    receive method answer.octets =
      .ok ⟨answer.head.status, contentType? answer.head.headers, answer.body⟩ := by
  have hread := read_write_response hheaders hroom answer.body
  have hhead : readHead method (answer.octets.length + 1) answer.octets =
      .ok (answer.head, framing, answer.body) := by
    rw [readHead, Answer.octets, hread]
    simp only [hframing]
  rw [receive, hhead]
  simp only [hbody]

/-- A client that gets one answer whose headers end with its length gets its status and its body. -/
theorem receive_stated (method : Method) {status : Status} (front : List Header) {body : Octets}
    (hmethod : method = .head ∨ (method = .connect ∧ status.code < 300) → body = [])
    (hfinal : 200 ≤ status.code) (hbody : status.code ≠ 204 ∧ status.code ≠ 304)
    (hfront : ∀ header ∈ front, header.IsSendable ∧ header.name ≠ Header.transferEncoding ∧
      header.name ≠ Header.contentLength)
    (hroom : front.length < maxHeaders) (hlength : body.length ≤ maxBodyLength) :
    let headers := front ++ [.ofText Header.contentLength (Decimal.numeral body.length)]
    receive method (Answer.octets ⟨⟨.oneOne, status, headers⟩, body⟩) =
      .ok ⟨status, contentType? headers, body⟩ := by
  intro headers
  have hheaders : ∀ header ∈ headers, header.IsSendable := by
    intro header hmem
    rcases List.mem_append.mp hmem with hmem | hmem
    · exact (hfront header hmem).1
    · rw [List.mem_singleton.mp hmem]
      exact isSendable_contentLength _
  have hcount : headers.length ≤ maxHeaders := by
    rw [List.length_append, List.length_singleton]
    exact hroom
  have hcoding : allValues Header.transferEncoding headers = [] := by
    apply allValues_eq_nil
    intro header hmem
    rcases List.mem_append.mp hmem with hmem | hmem
    · exact (hfront header hmem).2.1
    · rw [List.mem_singleton.mp hmem]
      exact (by decide : Header.contentLength ≠ Header.transferEncoding)
  have hstated : allValues Header.contentLength headers =
      [Utf8.octets (Decimal.numeral body.length)] := by
    have hnone := allValues_eq_nil fun header hmem => (hfront header hmem).2.2
    rw [allValues_append, hnone, allValues_ofText_cons]
    rfl
  have hbare : method = .head ∨ (method = .connect ∧ status.code < 300) → body.length = 0 :=
    fun hbare => List.length_eq_zero_iff.mpr (hmethod hbare)
  have hframing : Framing.ofResponse method ⟨.oneOne, status, headers⟩ =
      .ok (some (.sized body.length)) :=
    ofResponse_sized hbare hfinal hbody hcoding hstated hlength
  have hwhole : (Framing.sized body.length).readBody body = some (body, []) := by
    rw [Framing.readBody, if_pos (Nat.le_refl _), List.take_length, List.drop_length]
  exact receive_answer hheaders hcount hframing hwhole

/-- An answer without a body is read whatever the method. -/
theorem receive_empty (method : Method) {status : Status} (front : List Header)
    (hfinal : 200 ≤ status.code) (hbody : status.code ≠ 204 ∧ status.code ≠ 304)
    (hfront : ∀ header ∈ front, header.IsSendable ∧ header.name ≠ Header.transferEncoding ∧
      header.name ≠ Header.contentLength)
    (hroom : front.length < maxHeaders) :
    let headers := front ++ [.ofText Header.contentLength "0"]
    receive method (Answer.octets ⟨⟨.oneOne, status, headers⟩, []⟩) =
      .ok ⟨status, contentType? headers, []⟩ := by
  have hread := receive_stated method front (fun _ => rfl) hfinal hbody hfront hroom
    (Nat.zero_le _)
  rwa [List.length_nil, Decimal.numeral_zero] at hread

end Beacon.Client
