import Beacon.Http.Connection
import Mathlib.Data.List.TakeWhile

/-!
# What reading leaves

What follows a part of a message is an end of the octets that the part was read from, and behind the
head of a request there are fewer octets than in front of it.
-/

namespace Beacon.Http

namespace Progress

variable {α β : Type}

/-- If anything is read, what follows it is an end of the octets. -/
def LeavesEnd (progress : Progress α) (octets : Octets) : Prop :=
  ∀ value rest, progress = .done value rest → rest <:+ octets

theorem leavesEnd_done (value : α) {rest octets : Octets} (h : rest <:+ octets) :
    (Progress.done value rest).LeavesEnd octets := by
  rintro value rest ⟨⟩
  exact h

theorem leavesEnd_more (octets : Octets) : (Progress.more : Progress α).LeavesEnd octets := by
  rintro value rest ⟨⟩

theorem leavesEnd_refused (fault : HeadFault) (octets : Octets) :
    (Progress.refused fault : Progress α).LeavesEnd octets := by
  rintro value rest ⟨⟩

theorem LeavesEnd.mono {progress : Progress α} {octets whole : Octets}
    (h : progress.LeavesEnd octets) (hend : octets <:+ whole) : progress.LeavesEnd whole :=
  fun value rest hdone => (h value rest hdone).trans hend

theorem LeavesEnd.andThen {progress : Progress α} {octets : Octets}
    {next : α → Octets → Progress β} (h : progress.LeavesEnd octets)
    (hnext : ∀ value rest, (next value rest).LeavesEnd rest) :
    (progress.andThen next).LeavesEnd octets := by
  intro value rest hdone
  obtain ⟨first, later, hfirst, hlater⟩ := andThen_eq_done_iff.mp hdone
  exact (hnext first later value rest hlater).trans (h first later hfirst)

end Progress

open Progress

/-! ## Lines -/

theorem leavesEnd_readLineEnd (fault : HeadFault) (octets : Octets) :
    (readLineEnd fault octets).LeavesEnd octets := by
  unfold readLineEnd
  split
  · exact leavesEnd_more _
  next octet rest =>
    have hone := List.suffix_cons octet rest
    split
    · exact leavesEnd_done () hone
    split
    · split
      · exact leavesEnd_more _
      next next later =>
        split
        · exact leavesEnd_done () ((List.suffix_cons next later).trans hone)
        · exact leavesEnd_refused fault _
    · exact leavesEnd_refused fault _

theorem leavesEnd_skipBlankLines (octets : Octets) :
    (skipBlankLines octets).LeavesEnd octets := by
  fun_induction skipBlankLines octets with
  | case1 => exact leavesEnd_more _
  | case2 rest ih => exact ih.mono (List.suffix_cons lineFeed rest)
  | case3 => exact leavesEnd_more _
  | case4 rest _ ih =>
      exact ih.mono ((List.suffix_cons lineFeed rest).trans (List.suffix_cons _ _))
  | case5 => exact leavesEnd_refused _ _
  | case6 => exact leavesEnd_done () (List.suffix_refl _)

theorem leavesEnd_readVersion (octets : Octets) : (readVersion octets).LeavesEnd octets := by
  unfold readVersion
  split
  · split
    · exact leavesEnd_more _
    · exact leavesEnd_refused _ _
  split
  · exact leavesEnd_done _ (List.drop_suffix 8 octets)
  split
  · exact leavesEnd_done _ (List.drop_suffix 8 octets)
  · exact leavesEnd_refused _ _

/-! ## Headers -/

theorem leavesEnd_readValue (octets : Octets) : (readValue octets).LeavesEnd octets := by
  have hstart := (List.drop_suffix ((octets.dropWhile isBlankOctet).takeWhile isValueOctet).length
    (octets.dropWhile isBlankOctet)).trans (List.dropWhile_suffix isBlankOctet)
  exact ((leavesEnd_readLineEnd .header _).mono hstart).andThen fun _ rest =>
    leavesEnd_done _ (List.suffix_refl rest)

/-- What follows the octet behind something that was read is an end of it all. -/
theorem suffix_of_drop {octets rest : Octets} {n : Nat} {octet : UInt8}
    (h : octets.drop n = octet :: rest) : rest <:+ octets :=
  (List.suffix_cons octet rest).trans (h ▸ List.drop_suffix n octets)

theorem leavesEnd_readHeader (octets : Octets) : (readHeader octets).LeavesEnd octets := by
  simp only [readHeader]
  split
  · exact leavesEnd_more _
  next octet rest hdrop =>
    split
    · exact leavesEnd_refused _ _
    · exact ((leavesEnd_readValue rest).mono (suffix_of_drop hdrop)).andThen fun _ later =>
        leavesEnd_done _ (List.suffix_refl later)

theorem leavesEnd_readHeaders (room : Nat) (octets : Octets) :
    (readHeaders room octets).LeavesEnd octets := by
  induction room generalizing octets with
  | zero =>
      unfold readHeaders
      split
      · exact leavesEnd_more _
      split
      · exact (leavesEnd_readLineEnd .header _).andThen fun _ rest =>
          leavesEnd_done _ (List.suffix_refl rest)
      · exact (leavesEnd_readHeader _).andThen fun _ rest => leavesEnd_refused _ rest
  | succ room ih =>
      unfold readHeaders
      split
      · exact leavesEnd_more _
      split
      · exact (leavesEnd_readLineEnd .header _).andThen fun _ rest =>
          leavesEnd_done _ (List.suffix_refl rest)
      · exact (leavesEnd_readHeader _).andThen fun _ rest =>
          (ih rest).andThen fun _ later => leavesEnd_done _ (List.suffix_refl later)

/-! ## Request heads -/

namespace RequestHead

/-- The space behind a method is passed over. -/
theorem length_of_readMethod {octets rest : Octets} {method : Method}
    (h : readMethod octets = .done method rest) : rest.length < octets.length := by
  simp only [readMethod] at h
  split at h
  · cases h
  next octet later hdrop =>
    have hlater : (octet :: later).length ≤ octets.length :=
      hdrop ▸ (List.drop_suffix _ octets).length_le
    split at h
    · split at h
      · cases h
        exact hlater
      · cases h
    · cases h

theorem leavesEnd_readTarget (octets : Octets) : (readTarget octets).LeavesEnd octets := by
  simp only [readTarget]
  split
  · exact leavesEnd_more _
  next octet rest hdrop =>
    split
    · exact leavesEnd_done _ (suffix_of_drop hdrop)
    · exact leavesEnd_refused _ _

/-- What follows the head of a request is less than what it was read from. -/
theorem length_of_read {octets rest : Octets} {head : RequestHead}
    (h : read octets = .done head rest) : rest.length < octets.length := by
  simp only [read, andThen_eq_done_iff] at h
  obtain ⟨_, afterBlank, hblank, method, afterMethod, hmethod, _, afterTarget, htarget,
    version, afterVersion, hversion, _, afterLine, hline, headers, last, hheaders, hparse⟩ := h
  obtain rfl : last = rest := by
    split at hparse
    · cases hparse
      rfl
    · cases hparse
  calc last.length
      ≤ afterLine.length := (leavesEnd_readHeaders maxHeaders afterLine _ _ hheaders).length_le
    _ ≤ afterVersion.length := (leavesEnd_readLineEnd .header afterVersion _ _ hline).length_le
    _ ≤ afterTarget.length := (leavesEnd_readVersion afterTarget _ _ hversion).length_le
    _ ≤ afterMethod.length := (leavesEnd_readTarget afterMethod _ _ htarget).length_le
    _ < afterBlank.length := length_of_readMethod hmethod
    _ ≤ octets.length := (leavesEnd_skipBlankLines octets _ _ hblank).length_le

end RequestHead

/-! ## Bodies -/

theorem rest_add (state : ChunkState) (octet : UInt8) (chunks : Chunks) :
    (Chunks.add state octet chunks).rest = chunks.rest := by
  unfold Chunks.add
  split
  · split <;> rfl
  · rfl
  · split <;> rfl
  all_goals rfl

theorem suffix_of_readChunks {state : ChunkState} {octets : Octets} {chunks : Chunks}
    (h : readChunks state octets = some chunks) : chunks.rest <:+ octets := by
  fun_induction readChunks state octets generalizing chunks with
  | case1 octets =>
      cases h
      exact List.suffix_refl octets
  | case2 => cases h
  | case3 => cases h
  | case4 state octet rest _ after _ ih =>
      obtain ⟨later, hlater, rfl⟩ := Option.map_eq_some_iff.mp h
      rw [rest_add]
      exact (ih hlater).trans (List.suffix_cons octet rest)

/-- What follows the body of a request is an end of what followed its head. -/
theorem suffix_of_afterBody {framing : Framing} {octets later : Octets}
    (h : afterBody framing octets = some later) : later <:+ octets := by
  cases framing with
  | sized n =>
      simp only [afterBody, Framing.readBody] at h
      split at h
      · cases h
        exact List.drop_suffix n octets
      · cases h
  | chunked =>
      obtain ⟨chunks, hchunks, rfl⟩ := Option.map_eq_some_iff.mp h
      have hread := (Option.filter_eq_some_iff.mp hchunks).1
      exact suffix_of_readChunks (Option.filter_eq_some_iff.mp hread).1
  | untilClose =>
      cases h
      exact List.nil_suffix

end Beacon.Http
