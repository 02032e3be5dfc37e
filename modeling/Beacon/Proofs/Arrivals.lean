import Beacon.Application
import Beacon.Http.Connection
import Beacon.Proofs.Http.Remainder
import Beacon.Proofs.Routing

/-!
# Requests that reach a router

A request is built from texts, or read from the octets of a connection. In both ways its target
comes as a text, and every record of a connection is that of a request that has arrived on it.
-/

namespace Beacon

open Http

/-! ## Requests that are read -/

namespace Http

namespace RequestHead

/-- What stands in a head where its target is expected. -/
def targetPlace (octets : Octets) : Progress Octets :=
  (skipBlankLines octets).andThen fun _ rest =>
    (readMethod rest).andThen fun _ rest => readTarget rest

/-- What is read as a target is a text. -/
theorem exists_text_of_readTarget {octets target rest : Octets}
    (h : readTarget octets = .done target rest) : ∃ text, target = Utf8.octets text := by
  simp only [readTarget] at h
  split at h
  · cases h
  split at h
  next hread =>
    cases h
    obtain ⟨text, htext⟩ := Option.isSome_iff_exists.mp hread.2.2
    refine ⟨String.ofList text, ?_⟩
    rw [Utf8.octets_ofList, Utf8.encode_of_decode? htext]
  · cases h

/-- The target of a head that is read is the text that stands in its place. -/
theorem exists_target_of_read {octets rest : Octets} {head : RequestHead}
    (h : read octets = .done head rest) :
    ∃ target later, targetPlace octets = .done (Utf8.octets target) later ∧
      Target.parse (Utf8.octets target) = .ok head.request.target := by
  simp only [read, Progress.andThen_eq_done_iff] at h
  obtain ⟨_, afterBlank, hblank, method, afterMethod, hmethod, octets', afterTarget, htarget,
    _, _, _, _, _, _, headers, _, _, hparse⟩ := h
  obtain ⟨target, rfl⟩ := exists_text_of_readTarget htarget
  refine ⟨target, afterTarget, ?_, ?_⟩
  · simp only [targetPlace, hblank, hmethod, Progress.done_andThen, htarget]
  · split at hparse
    next parsed hparsed =>
      cases hparse
      exact hparsed
    · cases hparse

theorem incomplete_ne_done (octets : Octets) (head : RequestHead) (rest : Octets) :
    incomplete octets ≠ .done head rest := by
  unfold incomplete
  split <;> rintro ⟨⟩

/-- A head that is read in parts is the one that is read at once. -/
theorem read_of_readAfter {seen : Nat} {octets rest : Octets} {head : RequestHead}
    (h : readAfter seen octets = .done head rest) : read octets = .done head rest := by
  have hbounded : readBounded octets = .done head rest → read octets = .done head rest := by
    intro hread
    unfold readBounded at hread
    split at hread
    · exact absurd hread (incomplete_ne_done _ _ _)
    · exact hread
  unfold readAfter at h
  split at h
  · split at h
    · exact hbounded h
    · exact absurd h (incomplete_ne_done _ _ _)
  · exact hbounded h

end RequestHead

end Http

/-! ## Requests that reach a router -/

/-- The ways in which a request reaches a router: it is built from texts, or its head is read from a
connection, of whose octets some were looked at before the others came. In both ways its target
comes as a text, which is read by a grammar. -/
inductive Arrives : Target.Grammar → String → Request → Prop where
  | built {grammar : Target.Grammar} {draft : Draft} {request : Request}
      (hbuild : draft.build grammar = .ok request) : Arrives grammar draft.target request
  | read {target : String} {seen : Nat} {octets rest later : Octets} {head : RequestHead}
      (hread : RequestHead.readAfter seen octets = .done head rest)
      (htarget : RequestHead.targetPlace octets = .done (Utf8.octets target) later) :
      Arrives .strict target head.request

theorem Arrives.parse {grammar : Target.Grammar} {target : String} {request : Request}
    (h : Arrives grammar target request) :
    Target.parse (Utf8.octets target) grammar = .ok request.target := by
  cases h with
  | built hbuild => exact (parts_of_build hbuild).2
  | read hread htarget =>
      obtain ⟨text, _, hplace, hparse⟩ :=
        RequestHead.exists_target_of_read (RequestHead.read_of_readAfter hread)
      rw [hplace] at htarget
      obtain ⟨hoctets, -⟩ := Progress.done.inj htarget
      rwa [hoctets] at hparse

theorem exists_arrives_of_read {seen : Nat} {octets rest : Octets} {head : RequestHead}
    (h : RequestHead.readAfter seen octets = .done head rest) :
    ∃ target, Arrives .strict target head.request := by
  obtain ⟨target, later, hplace, -⟩ :=
    RequestHead.exists_target_of_read (RequestHead.read_of_readAfter h)
  exact ⟨target, .read h hplace⟩

/-! ## Requests of a connection -/

namespace Http

/-- Behind the body of a request there are fewer octets than in front of its head. -/
theorem length_of_afterBody {seen : Nat} {octets rest later : Octets} {head : RequestHead}
    {framing : Framing} (hread : RequestHead.readAfter seen octets = .done head rest)
    (hbody : afterBody framing rest = some later) : later.length < octets.length :=
  Nat.lt_of_le_of_lt (suffix_of_afterBody hbody).length_le
    (RequestHead.length_of_read (RequestHead.read_of_readAfter hread))

/-- The requests that are read from the octets of a connection, of which the first `seen` are looked
at before the others come: one after another, until no head is read, or its body has no end, or the
connection does not go on behind it. -/
def requestsOf (seen : Nat) (octets : Octets) : List Request :=
  match hread : RequestHead.readAfter seen octets with
  | .done head rest =>
      match Framing.ofRequest head with
      | .error _ => []
      | .ok framing =>
          match head.keepsOpen, hbody : afterBody framing rest with
          | true, some later =>
              have := length_of_afterBody hread hbody
              head.request :: requestsOf (seen - (octets.length - later.length)) later
          | _, _ => [head.request]
  | _ => []
termination_by octets.length

theorem exists_arrives_of_mem {seen : Nat} {octets : Octets} :
    ∀ request ∈ requestsOf seen octets, ∃ target, Arrives .strict target request := by
  fun_induction requestsOf seen octets with
  | case1 => exact List.forall_mem_nil _
  | case2 seen octets head rest hread framing hframing later hbody hopen _ ih =>
      exact List.forall_mem_cons.mpr ⟨exists_arrives_of_read hread, ih⟩
  | case3 seen octets head rest hread =>
      exact List.forall_mem_singleton.mpr (exists_arrives_of_read hread)
  | case4 => exact List.forall_mem_nil _

/-- The records of a connection are those of the requests that are read from its octets: there is
one step more for them than there are octets. -/
theorem records_serveOctets (service : Service) (version : Version) {seen fuel : Nat}
    {octets : Octets} (hfuel : octets.length ≤ fuel) :
    (serveOctets service version seen (fuel + 1) octets).records =
      (requestsOf seen octets).map fun request => (service.handle request).2 := by
  fun_induction requestsOf seen octets generalizing version fuel with
  | case1 seen octets head rest hread fault hframing =>
      rw [serveOctets, hread]
      simp only [hframing]
      rfl
  | case2 seen octets head rest hread framing hframing later hbody hopen hshorter ih =>
      obtain ⟨fuel, rfl⟩ : ∃ less, fuel = less + 1 := ⟨fuel - 1, by omega⟩
      rw [serveOctets, hread]
      simp only [hframing, hbody, hopen]
      rw [ih head.version (by omega)]
      rfl
  | case3 seen octets head rest hread framing hframing hends =>
      rw [serveOctets, hread]
      simp only [hframing]
      rfl
  | case4 seen octets hunread =>
      rw [serveOctets]
      split
      · rfl
      · unfold refuse
        split <;> rfl
      next head rest hread => exact (hunread head rest hread).elim

end Http

end Beacon
