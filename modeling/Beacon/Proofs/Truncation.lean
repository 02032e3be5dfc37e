import Beacon.Client
import Beacon.Proofs.Decoding

/-!
# Bodies that are cut off

A record ends with the bracket or the brace that closes it, so a reader that has come to the end of
one record has not come to the end of a longer one. A body that has lost anything but blanks at its
end is no body any more, and no exchange in which it is received succeeds.
-/

namespace Beacon

/-- What is left of a body that was cut off before its last octet that is no blank. -/
def CutOff (cut body : Octets) : Prop :=
  ∃ lost, body = cut ++ lost ∧ ¬ Json.Blank lost

/-! ## Readers and what follows -/

namespace Json.Shape

variable {shape : Shape} {octets rest : Octets} {values : List String}

/-- A reader reads the same record when more octets follow. -/
theorem read_append (h : shape.read octets = .ok (values, rest)) (more : Octets) :
    shape.read (octets ++ more) = .ok (values, rest ++ more) := by
  obtain ⟨before, record, hbefore, hrecord, rfl⟩ := bareRecord_of_read h
  rw [List.append_assoc, List.append_assoc, read_blank hbefore]
  obtain ⟨members, henclosed, hgives⟩ | ⟨henclosed, hlength⟩ := hrecord
  · exact read_of_object henclosed hgives (rest ++ more)
  · exact read_of_list henclosed hlength (rest ++ more)

/-- Of two texts that decode, one of which continues the other, the longer one has nothing but more
blanks. -/
theorem blank_of_decode_append {others : List String} {more : Octets}
    (h : shape.decode octets = .ok values) (hlonger : shape.decode (octets ++ more) = .ok others) :
    Blank more := by
  unfold decode at h
  split at h
  · cases h
  next found rest hread =>
    -- The longer text is read up to the same place, and only blanks may follow there.
    rw [decode, read_append hread more] at hlonger
    dsimp only at hlonger
    split at hlonger
    next hskip =>
      have hblank : Blank (rest ++ more) := skipSpace_eq_nil_iff.mp hskip
      exact fun octet hmem => hblank octet (List.mem_append_right rest hmem)
    · cases hlonger

theorem decode_of_cutOff {α : Type} {ofValues : List String → α} {body cut : Octets} {value : α}
    (h : (shape.decode body).map ofValues = .ok value) (hcut : CutOff cut body) :
    ∃ fault, (shape.decode cut).map ofValues = .error fault := by
  obtain ⟨lost, rfl, hlost⟩ := hcut
  obtain ⟨values, hwhole, -⟩ := map_eq_ok.mp h
  cases hdecode : shape.decode cut with
  | error fault => exact ⟨fault, rfl⟩
  | ok found => exact absurd (blank_of_decode_append hdecode hwhole) hlost

end Json.Shape

/-! ## Exchanges -/

/-- An exchange whose reply has a body that does not decode comes to a failure, whatever the status
of the reply is. -/
theorem Client.fails_of_undecoded {α : Type} {label : String}
    {decode : Octets → Except Json.Fault α} {exchange : Exchange Reply} {reply : Reply}
    {fault : Json.Fault} (hreply : exchange.result = .ok reply)
    (hdecode : decode reply.body = .error fault) :
    ∃ failure, ((exchange.andThen expectOk).andThen (expectBody label decode)).result =
      .error failure := by
  change ∃ failure, (exchange.result.bind expectOk).bind (expectBody label decode) = .error failure
  rw [hreply]
  by_cases hstatus : reply.status = .ok
  · refine ⟨.parse (label ++ ": " ++ fault.message reply.body), ?_⟩
    change (expectOk reply).bind _ = _
    rw [expectOk, if_pos hstatus]
    change expectBody label decode reply = _
    rw [expectBody, hdecode]
  · refine ⟨.status reply.status, ?_⟩
    change (expectOk reply).bind _ = _
    rw [expectOk, if_neg hstatus]
    rfl

/-- A kind of body needs its end: what is left of one that was cut off does not decode, and whoever
asks for it and receives no more than that is told of a failure. -/
structure NeedsEnd {α : Type} (decode : Octets → Except Json.Fault α) (path : String)
    (ask : Address → Duration → Except SystemError Client.Peer → Client.Exchange α) : Prop where
  refuses : ∀ {body value cut}, decode body = .ok value → CutOff cut body →
    ∃ fault, decode cut = .error fault
  fails : ∀ {body value address limit connected reply}, decode body = .ok value →
    (Client.request address limit connected .get path).result = .ok reply →
      CutOff reply.body body → ∃ failure, (ask address limit connected).result = .error failure

/-- What is asked for as a record needs its end. -/
theorem NeedsEnd.of_shape {α : Type} {shape : Json.Shape} {ofValues : List String → α}
    {label path : String}
    {ask : Address → Duration → Except SystemError Client.Peer → Client.Exchange α}
    (hask : ∀ address limit connected, ask address limit connected =
      ((Client.request address limit connected .get path).andThen Client.expectOk).andThen
        (Client.expectBody label fun body => (shape.decode body).map ofValues)) :
    NeedsEnd (fun body => (shape.decode body).map ofValues) path ask where
  refuses := Json.Shape.decode_of_cutOff
  fails := by
    intro body value address limit connected reply hbody hreply hcut
    obtain ⟨fault, hfault⟩ := Json.Shape.decode_of_cutOff hbody hcut
    rw [hask]
    exact Client.fails_of_undecoded hreply hfault

/-- No health and no information is ever reported out of a body that was cut off before its last
octet that is no blank: what is left of it does not decode. -/
theorem truncated_bodies_refused :
    NeedsEnd Health.decode "/health" Client.health ∧ NeedsEnd Info.decode "/" Client.info :=
  ⟨.of_shape fun _ _ _ => rfl, .of_shape fun _ _ _ => rfl⟩

/-- A health body in the form of a list, up to its ending. -/
def listedHealth (ending : String) : Octets :=
  Utf8.octets ("[ \"ok\", \"rust-cache\" " ++ ending)

/-- An answer that ends with its connection before its list is closed does not pass for health. -/
theorem unclosed_health_is_refused :
    (∃ fault, Health.decode (listedHealth "") = .error fault) ∧
      ∃ failure, (Client.health (.tcp defaultPort) Client.defaultLimit (.ok (.answers fun _ =>
        Utf8.octets "HTTP/1.1 200 OK\r\n\r\n" ++ listedHealth ""))).result = .error failure := by
  have hbody : Health.decode (listedHealth "] ") = .ok ⟨"ok", "rust-cache"⟩ := by decide +kernel
  have hcut : CutOff (listedHealth "") (listedHealth "] ") := by
    refine ⟨[0x5D, 0x20], by decide, fun hblank => ?_⟩
    exact absurd (hblank 0x5D List.mem_cons_self) (by decide)
  have hreply : (Client.request (.tcp defaultPort) Client.defaultLimit (.ok (.answers fun _ =>
      Utf8.octets "HTTP/1.1 200 OK\r\n\r\n" ++ listedHealth "")) .get "/health").result =
        .ok ⟨.ok, none, listedHealth ""⟩ := by
    decide +kernel
  obtain ⟨hrefuses, -⟩ := truncated_bodies_refused
  exact ⟨hrefuses.refuses hbody hcut, hrefuses.fails hbody hreply hcut⟩

end Beacon
