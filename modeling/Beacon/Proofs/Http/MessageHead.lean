import Beacon.Http.RequestHead
import Beacon.Http.ResponseHead
import Beacon.Proofs.Http.Head
import Beacon.Proofs.Http.Method
import Beacon.Proofs.Text.Decimal

/-!
# Reading written message heads

The head of a request that is written is read as it was, but for its target, which is read from its
wire form. The head of a response that is written is read as it was.
-/

namespace Beacon.Http

/-! ## Request heads -/

theorem readMethod_octets (method : Method) (rest : Octets) :
    RequestHead.readMethod (method.octets ++ space :: rest) = .done method rest := by
  have htake := takeWhile_append_stop space method.isTokenOctet_of_mem (by decide) rest
  have hmethod : Method.ofOctets? method.octets = some method := dif_pos method.token
  simp only [RequestHead.readMethod, htake, List.drop_left, if_pos, hmethod]

theorem readTarget_octets {text : String} (hempty : text ≠ "")
    (hallowed : ∀ octet ∈ Utf8.octets text, RequestHead.isTargetOctet octet = true)
    (rest : Octets) :
    RequestHead.readTarget (Utf8.octets text ++ space :: rest) = .done (Utf8.octets text) rest := by
  have htake := takeWhile_append_stop space hallowed (by decide) rest
  have hne : Utf8.octets text ≠ [] := by
    intro hnil
    exact hempty (Utf8.octets_inj.mp hnil)
  have hdecode : (Utf8.decode? (Utf8.octets text)).isSome = true := by
    rw [Utf8.octets, Utf8.decode?_encode]
    rfl
  simp only [RequestHead.readTarget, htake, List.drop_left]
  rw [if_pos ⟨trivial, hne, hdecode⟩]

/-- The requests that are read as they were written, but for their targets. -/
structure Request.IsSendable (request : Request) : Prop where
  nonempty : request.target.wire ≠ ""
  allowed : ∀ octet ∈ Utf8.octets request.target.wire, RequestHead.isTargetOctet octet = true
  headers : ∀ header ∈ request.headers, header.IsSendable
  room : request.headers.length ≤ maxHeaders

/-- What comes of the head of a request whose target is read last. -/
def RequestHead.ofTarget (request : Request) (rest : Octets) :
    Except TargetError Target → Progress RequestHead
  | .ok target => .done ⟨.oneOne, { request with target := target }⟩ rest
  | .error fault => .refused (.target fault)

/-- A written request starts with its method. -/
theorem write_append (request : Request) (rest : Octets) :
    RequestHead.write request ++ rest =
      request.method.octets ++ space :: (Utf8.octets request.target.wire ++ space ::
        (Version.oneOne.octets ++ (lineEnd ++ (headerBlock request.headers ++ rest)))) := by
  simp only [RequestHead.write, List.append_assoc, List.cons_append, List.nil_append]

/-- A method starts with no line end. -/
theorem head_octets_method (method : Method) :
    ∃ octet later, method.octets = octet :: later ∧ octet ≠ lineFeed ∧ octet ≠ carriageReturn := by
  have hall := method.isTokenOctet_of_mem
  cases hoctets : method.octets with
  | nil =>
      have htoken := method.token
      rw [hoctets] at htoken
      cases htoken
  | cons octet later =>
      have hoctet := hall octet (by rw [hoctets]; exact List.mem_cons_self)
      refine ⟨octet, later, rfl, ?_, ?_⟩
      · rintro rfl
        exact absurd hoctet (by decide)
      · rintro rfl
        exact absurd hoctet (by decide)

/-- No blank lines stand in front of a written request. -/
theorem skipBlankLines_write (request : Request) (rest : Octets) :
    skipBlankLines (RequestHead.write request ++ rest) =
      .done () (RequestHead.write request ++ rest) := by
  obtain ⟨octet, later, hoctets, hfeed, hreturn⟩ := head_octets_method request.method
  rw [write_append, hoctets]
  exact skipBlankLines_cons hfeed hreturn _

/-- A request that is written is read as it was, with what its wire form is read as. -/
theorem read_write_request {request : Request} (h : request.IsSendable) (rest : Octets) :
    RequestHead.read (RequestHead.write request ++ rest) =
      RequestHead.ofTarget request rest (Target.parse (Utf8.octets request.target.wire)) := by
  rw [RequestHead.read, skipBlankLines_write, write_append]
  simp only [Progress.done_andThen, readMethod_octets, readTarget_octets h.nonempty h.allowed,
    readVersion_octets, readLineEnd_lineEnd, readHeaders_headerBlock h.headers h.room]
  cases Target.parse (Utf8.octets request.target.wire) <;> rfl

/-- A target is read up to the first octet that may not stand in it, and refused if that is no
space. -/
theorem readTarget_of_stop {front : Octets} {octet : UInt8}
    (hfront : ∀ octet ∈ front, RequestHead.isTargetOctet octet = true)
    (hstop : RequestHead.isTargetOctet octet = false) (hspace : octet ≠ space) (rest : Octets) :
    RequestHead.readTarget (front ++ octet :: rest) = .refused .header := by
  have htake := takeWhile_append_stop octet hfront hstop rest
  simp only [RequestHead.readTarget, htake, List.drop_left]
  rw [if_neg fun hread => hspace hread.1]

/-- A request whose target holds an octet that may not stand there is refused. -/
theorem read_write_of_stop {request : Request} {octet : UInt8}
    (hmem : octet ∈ Utf8.octets request.target.wire)
    (hallowed : ∀ other ∈ Utf8.octets request.target.wire, other ≠ octet →
      RequestHead.isTargetOctet other = true)
    (hstop : RequestHead.isTargetOctet octet = false) (hspace : octet ≠ space) (rest : Octets) :
    RequestHead.read (RequestHead.write request ++ rest) = .refused .header := by
  obtain ⟨front, later, hoctets, hfirst⟩ := List.eq_append_cons_of_mem hmem
  have hfront : ∀ other ∈ front, RequestHead.isTargetOctet other = true := by
    intro other hother
    refine hallowed other ?_ ?_
    · rw [hoctets]
      exact List.mem_append_left _ hother
    · rintro rfl
      exact hfirst hother
  rw [RequestHead.read, skipBlankLines_write, write_append, hoctets, List.append_assoc,
    List.cons_append]
  simp only [Progress.done_andThen, readMethod_octets,
    readTarget_of_stop hfront hstop hspace]
  rfl

/-! ## Response heads -/

/-- A three-digit number is written with three digits. -/
theorem digits_three {n : Nat} (h : 100 ≤ n ∧ n ≤ 999) :
    Decimal.digits n =
      [Nat.digitChar (n / 100), Nat.digitChar (n / 10 % 10), Nat.digitChar (n % 10)] := by
  rw [Decimal.digits, Nat.toDigits_of_base_le (by omega) (by omega),
    Nat.toDigits_of_base_le (by omega) (by omega), Nat.toDigits_of_lt_base (by omega),
    Nat.div_div_eq_div_mul]
  rfl

theorem readDigit_digitChar {n : Nat} (h : n < 10) (rest : Octets) :
    ResponseHead.readDigit (UInt8.ofNat (Nat.digitChar n).toNat :: rest) = .done n rest := by
  have hall : ∀ n : Fin 10, (0x30 ≤ UInt8.ofNat (Nat.digitChar n).toNat ∧
      UInt8.ofNat (Nat.digitChar n).toNat ≤ 0x39) ∧
      (UInt8.ofNat (Nat.digitChar n).toNat).toNat - 0x30 = n.val := by
    decide
  obtain ⟨hdigit, hvalue⟩ := hall ⟨n, h⟩
  rw [ResponseHead.readDigit, if_pos hdigit, hvalue]

theorem readCode_numeral (status : Status) (rest : Octets) :
    ResponseHead.readCode (Utf8.octets (Decimal.numeral status.code) ++ rest) =
      .done status.code rest := by
  obtain ⟨code, hcode⟩ := status
  rw [Decimal.octets_numeral, digits_three hcode]
  simp only [List.map_cons, List.map_nil, List.cons_append, List.nil_append,
    ResponseHead.readCode, readDigit_digitChar (show code / 100 < 10 by omega),
    readDigit_digitChar (show code / 10 % 10 < 10 by omega),
    readDigit_digitChar (show code % 10 < 10 by omega), Progress.done_andThen]
  congr 1
  omega

/-- No reason holds anything that is not passed over. -/
theorem isValueOctet_reason (code : Nat) :
    ∀ octet ∈ Utf8.octets ((Status.reason? code).getD "<unknown status code>"),
      isValueOctet octet = true := by
  unfold Status.reason?
  split <;> decide

theorem readReason_written {reason : Octets} (h : ∀ octet ∈ reason, isValueOctet octet = true)
    (rest : Octets) :
    ResponseHead.readReason (space :: (reason ++ (lineEnd ++ rest))) = .done () rest := by
  have hdrop : (reason ++ (lineEnd ++ rest)).dropWhile isValueOctet = lineEnd ++ rest := by
    rw [List.dropWhile_append_of_pos h]
    exact dropWhile_of_head? (by rintro octet ⟨⟩; decide)
  rw [ResponseHead.readReason, if_pos rfl, hdrop, readLineEnd_lineEnd]

/-- The head of a response that is written is read as it was. -/
theorem read_write_response {head : ResponseHead}
    (hheaders : ∀ header ∈ head.headers, header.IsSendable)
    (hroom : head.headers.length ≤ maxHeaders) (rest : Octets) :
    ResponseHead.read (head.write ++ rest) = .done head rest := by
  have hwritten : head.write ++ rest =
      head.version.octets ++ space :: (Utf8.octets (Decimal.numeral head.status.code) ++
        space :: (Utf8.octets ((Status.reason? head.status.code).getD "<unknown status code>") ++
          (lineEnd ++ (headerBlock head.headers ++ rest)))) := by
    have hblank : Utf8.octets " " = [space] := by decide
    simp only [ResponseHead.write, ResponseHead.statusLine, Status.text, Utf8.octets_append, hblank,
      List.append_assoc, List.cons_append, List.nil_append]
  have hskip : skipBlankLines (head.write ++ rest) = .done () (head.write ++ rest) := by
    rw [hwritten]
    cases head.version <;> exact skipBlankLines_cons (by decide) (by decide) _
  have hstatus : Status.ofCode? head.status.code = some head.status :=
    dif_pos head.status.three_digits
  rw [ResponseHead.read, hskip, hwritten]
  simp only [Progress.done_andThen, readVersion_octets, ResponseHead.readSpace, if_pos,
    readCode_numeral, readReason_written (isValueOctet_reason _),
    readHeaders_headerBlock hheaders hroom, hstatus]

end Beacon.Http
