import Beacon.Proofs.SocketFiles

/-!
# Socket files without an endpoint

A socket file that was made since some moment stands where the path of its endpoint leads, as long
as the endpoint is live and nobody puts something in its way or takes the file elsewhere. So once
no endpoint is live, no socket file is left that was not there before.
-/

namespace Beacon

/-- Every socket file of a file system stands in an older one too, or comes from a socket before a
number. -/
def FileSystem.AddsNoSocket (old fs : FileSystem) (bound : Nat) : Prop :=
  ∀ location id mode, fs.entryAt? location = some (.socket id mode) →
    id < bound ∨ old.entryAt? location = some (.socket id mode)

namespace Custody

variable {host : Host} {c c' : Custody} {move : Daemon.Move}

/-- Every socket file that was made since a host was as it is belongs to a live endpoint, whose path
leads to it. -/
def Claimed (host : Host) (c : Custody) : Prop :=
  ∀ location id mode, c.files.entryAt? location = some (.socket id mode) →
    id < host.nextSocket ∨ host.files.entryAt? location = some (.socket id mode) ∨
      ∃ file ∈ c.live, file.socket = id ∧ c.files.LeadsTo file.path location

/-- A move that leaves the path of a live endpoint alone leaves its claims alone. -/
theorem Claimed.of_untouched (h : c.Claimed host) {location : Location} {id mode : Nat}
    (hentry : c.files.entryAt? location = some (.socket id mode))
    (hlive : c.live ⊆ c'.live)
    (huntouched : ∀ file ∈ c.live, c.files.Untouched c'.files file.path) :
    id < host.nextSocket ∨ host.files.entryAt? location = some (.socket id mode) ∨
      ∃ file ∈ c'.live, file.socket = id ∧ c'.files.LeadsTo file.path location := by
  obtain hold | hfirst | ⟨file, hmem, hsocket, hleads⟩ := h location id mode hentry
  · exact .inl hold
  · exact .inr (.inl hfirst)
  · exact .inr (.inr ⟨file, hlive hmem, hsocket, (hleads.of_untouched (huntouched file hmem)).1⟩)

/-- The end of one endpoint takes its socket file along, and leaves the claims of the others. -/
theorem Claimed.of_ended (h : c.Claimed host) (hkept : c.Kept) {gone : SocketFile}
    (hfiles : c'.files = (guardUnlink c.files gone.path).files)
    (hlive : c.live.Perm (gone :: c'.live)) : c'.Claimed host := by
  intro location id mode hentry
  rw [hfiles] at hentry ⊢
  have hbefore := entryAt?_of_guardUnlink hentry
  obtain hold | hfirst | ⟨file, hmem, hsocket, hleads⟩ := h location id mode hbefore
  · exact .inl hold
  · exact .inr (.inl hfirst)
  · obtain rfl | hmem' := List.mem_cons.mp (hlive.mem_iff.mp hmem)
    · rw [files_guardUnlink_of_leadsTo hleads hbefore (by rintro ⟨⟩),
        FileSystem.entryAt?_erase_self c.files hleads.ne_nil] at hentry
      cases hentry
    · have hgone := hkept gone (hlive.mem_iff.mpr List.mem_cons_self)
      exact .inr (.inr ⟨file, hmem', hsocket, leadsTo_guardUnlink hgone hleads⟩)

/-- A considerate move leaves no socket file that no live endpoint claims. -/
theorem Claimed.of_effect (h : c.Claimed host) (hkept : c.Kept) (heffect : Effect c move c')
    (hconsiderate : Considerate c move c')
    (hmeddle : ∀ files, move = .meddle files → c.files.AddsNoSocket files host.nextSocket) :
    c'.Claimed host := by
  intro location id mode hentry
  cases heffect with
  | quiet _ hestate hlive =>
      have hfiles : c'.files = c.files := congrArg Estate.files hestate
      rw [hfiles] at hentry ⊢
      obtain hold | hfirst | ⟨file, hmem, hclaim⟩ := h location id mode hentry
      · exact .inl hold
      · exact .inr (.inl hfirst)
      · exact .inr (.inr ⟨file, hlive.mem_iff.mpr hmem, hclaim⟩)
  | @bound path hdeed _ hestate hlive =>
      have hfiles : c'.files = (bindUnix c.host path).host.files := congrArg Estate.files hestate
      rw [hfiles] at hentry
      obtain hbefore | ⟨-, hleads, hmade⟩ := entryAt?_of_bindUnix hentry
      · refine h.of_untouched hbefore (fun file hmem => ?_) (hconsiderate _ hdeed trivial)
        exact hlive.mem_iff.mpr (List.mem_cons_of_mem _ hmem)
      · cases hmade
        refine .inr (.inr ⟨_, hlive.mem_iff.mpr List.mem_cons_self, rfl, ?_⟩)
        rw [hfiles]
        exact hleads
  | @refused path failure hdeed hresult hestate hlive =>
      have hfiles : c'.files = (bindUnix c.host path).host.files := congrArg Estate.files hestate
      rw [hfiles] at hentry
      obtain hbefore | ⟨⟨endpoint, hok⟩, -⟩ := entryAt?_of_bindUnix hentry
      · exact h.of_untouched hbefore hlive.symm.subset (hconsiderate _ hdeed trivial)
      · cases hresult.symm.trans hok
  | ended _ hestate hlive =>
      exact h.of_ended hkept (congrArg Estate.files hestate) hlive location id mode hentry
  | @meddled files hmove hestate hlive =>
      have hfiles : c'.files = files := congrArg Estate.files hestate
      rw [hfiles] at hentry
      subst hmove
      obtain hold | hbefore := hmeddle files rfl location id mode hentry
      · exact .inl hold
      · exact h.of_untouched hbefore hlive.symm.subset (hconsiderate _ rfl trivial)

/-- Once no endpoint is live, nothing is left of what was made. -/
theorem Claimed.addsNoSocket (h : c.Claimed host) (hnone : c.live = []) :
    host.files.AddsNoSocket c.files host.nextSocket := by
  intro location id mode hentry
  obtain hold | hfirst | ⟨file, hmem, -⟩ := h location id mode hentry
  · exact .inl hold
  · exact .inr hfirst
  · rw [hnone] at hmem
    cases hmem

end Custody

end Beacon
