import Beacon.Requests
import Mathlib.Data.List.DropRight

/-!
# Windows of records

A window shows the end of everything that was put into it, as much of it as its capacity allows.
-/

namespace Beacon

/-! ## Ends of sequences -/

/-- Of what is cut off before more is added, nothing would be left anyway. -/
theorem rtake_rtake_append {α : Type} (capacity : Nat) (front rest : List α) :
    (front.rtake capacity ++ rest).rtake capacity = (front ++ rest).rtake capacity := by
  simp only [List.rtake, List.length_append, List.length_drop]
  by_cases hroom : front.length ≤ capacity
  · rw [Nat.sub_eq_zero_of_le hroom, List.drop_zero, Nat.sub_zero]
  · have hleft : front.length - (front.length - capacity) + rest.length - capacity =
        rest.length := by omega
    have hcut : front.length + rest.length - capacity =
        front.length - capacity + rest.length := by omega
    rw [hleft, hcut, ← List.drop_drop,
      List.drop_append_of_le_length (Nat.sub_le front.length capacity)]

namespace Window

variable {α : Type}

@[simp] theorem capacity_push (w : Window α) (entry : α) :
    (w.push entry).capacity = w.capacity := by
  unfold push
  split <;> rfl

/-- What is left when room was made are the latest entries, one fewer than the capacity allows. -/
theorem entries_makeRoom (w : Window α) (h : w.capacity ≠ 0) :
    w.makeRoom.entries = w.entries.rtake (w.capacity - 1) := by
  have hlength := w.length_le
  rw [makeRoom, List.rtake]
  split
  next hroom => rw [Nat.sub_eq_zero_of_le (by omega), List.drop_zero]
  next hfull =>
    have hone : w.entries.length - (w.capacity - 1) = 1 := by omega
    rw [hone, List.drop_one]

/-- A window without any capacity stays empty, and any other one has the entry behind what is left
when room was made. -/
theorem entries_push_eq (w : Window α) (entry : α) :
    (w.push entry).entries = if w.capacity = 0 then [] else w.makeRoom.entries ++ [entry] := by
  unfold push
  split
  next hnone =>
    have hlength := w.length_le
    exact List.eq_nil_of_length_eq_zero (by omega)
  · rfl

theorem entries_push (w : Window α) (entry : α) :
    (w.push entry).entries = (w.entries ++ [entry]).rtake w.capacity := by
  rw [entries_push_eq]
  split
  next hnone => rw [hnone, List.rtake_zero]
  next hsome =>
    have hone : w.capacity = w.capacity - 1 + 1 := by omega
    rw [hone, List.rtake_concat_succ, ← entries_makeRoom w hsome]

theorem capacity_pushAll (w : Window α) (entries : List α) :
    (w.pushAll entries).capacity = w.capacity := by
  induction entries generalizing w with
  | nil => rfl
  | cons entry rest ih => exact (ih (w.push entry)).trans (w.capacity_push entry)

/-- What is put in one after another, the window shows the end of. -/
theorem entries_pushAll (w : Window α) (entries : List α) :
    (w.pushAll entries).entries = (w.entries ++ entries).rtake w.capacity := by
  induction entries generalizing w with
  | nil =>
      rw [List.append_nil, List.rtake, Nat.sub_eq_zero_of_le w.length_le]
      rfl
  | cons entry rest ih =>
      change ((w.push entry).pushAll rest).entries = _
      rw [ih, capacity_push, entries_push, rtake_rtake_append, List.append_assoc]
      rfl

end Window

/-! ## Sequences of calls -/

section Calls

variable {α : Type}

/-- The entries that are shown of a sequence: its last ones, as many as the capacity allows. -/
structure IsLatest (capacity : Nat) (past shown : List α) : Prop where
  suffix : shown <:+ past
  length_eq : shown.length = min capacity past.length

theorem isLatest_pushAll (capacity : Nat) (past : List α) :
    IsLatest capacity past ((Window.empty capacity).pushAll past).entries := by
  rw [Window.entries_pushAll]
  change IsLatest capacity past (past.rtake capacity)
  refine ⟨List.drop_suffix _ past, ?_⟩
  rw [List.rtake, List.length_drop]
  omega

/-- The entry that a call puts in, if it puts one in. -/
def Window.Call.entry? : Window.Call α → Option α
  | .push entry => some entry
  | _ => none

def Window.pushed (calls : List (Window.Call α)) : List α :=
  calls.filterMap Window.Call.entry?

/-- What calls return on a window of a capacity, after the past. -/
inductive Replies (capacity : Nat) :
    List α → List (Window.Call α) → List (Window.Reply α) → Prop where
  | nil {past : List α} : Replies capacity past [] []
  | push {past : List α} {entry : α} {calls : List (Window.Call α)}
      {replies : List (Window.Reply α)}
      (hlater : Replies capacity (past ++ [entry]) calls replies) :
      Replies capacity past (.push entry :: calls) (.pushed :: replies)
  | entries {past shown : List α} {calls : List (Window.Call α)}
      {replies : List (Window.Reply α)} (hshown : IsLatest capacity past shown)
      (hlater : Replies capacity past calls replies) :
      Replies capacity past (.entries :: calls) (.entries shown :: replies)
  | size {past : List α} {calls : List (Window.Call α)} {replies : List (Window.Reply α)}
      (hlater : Replies capacity past calls replies) :
      Replies capacity past (.size :: calls) (.size (min capacity past.length) :: replies)
  | isEmpty {past : List α} {answer : Bool} {calls : List (Window.Call α)}
      {replies : List (Window.Reply α)}
      (hanswer : answer = true ↔ min capacity past.length = 0)
      (hlater : Replies capacity past calls replies) :
      Replies capacity past (.isEmpty :: calls) (.isEmpty answer :: replies)

namespace Window

/-- Only putting entries in changes a window. -/
theorem callAll_snd (w : Window α) (calls : List (Call α)) :
    (w.callAll calls).2 = w.pushAll (pushed calls) := by
  induction calls generalizing w with
  | nil => rfl
  | cons call rest ih => cases call <;> exact ih _

theorem replies_callAll (capacity : Nat) (past : List α) (calls : List (Call α)) :
    Replies capacity past calls (((empty capacity).pushAll past).callAll calls).1 := by
  induction calls generalizing past with
  | nil => exact .nil
  | cons call rest ih =>
      have hlatest := isLatest_pushAll capacity past
      cases call with
      | push entry =>
          have hpast : ((empty capacity).pushAll past).push entry =
              (empty capacity).pushAll (past ++ [entry]) := by
            rw [pushAll, pushAll, List.foldl_append]
            rfl
          have hlater := ih (past ++ [entry])
          rw [← hpast] at hlater
          exact .push hlater
      | entries => exact .entries hlatest (ih past)
      | size =>
          have hreplies := Replies.size (ih past)
          rw [← hlatest.length_eq] at hreplies
          exact hreplies
      | isEmpty =>
          refine .isEmpty ?_ (ih past)
          rw [← hlatest.length_eq, List.length_eq_zero_iff]
          exact List.isEmpty_iff

end Window

/-- What there is to know of a window of a capacity on which calls were made. -/
structure ShowsLatest (capacity : Nat) (calls : List (Window.Call α)) (w : Window α) : Prop where
  shown : IsLatest capacity (Window.pushed calls) w.entries
  /-- A call that puts nothing in leaves the window as it is. -/
  reading : ∀ call : Window.Call α, call.entry? = none → (w.call call).2 = w
  /-- The window is never too full: not between two calls, and not while an entry is put in, for
  room is made before. -/
  bounded : w.entries.length ≤ capacity ∧ w.makeRoom.entries.length ≤ capacity
  pushing : ∀ entry, (w.call (.push entry)).2.entries =
    if capacity = 0 then [] else w.makeRoom.entries ++ [entry]

/-- Whatever calls are made on a window, it shows the latest entries that were put in. -/
theorem window_shows_latest (capacity : Nat) (calls : List (Window.Call α)) :
    Replies capacity [] calls ((Window.empty capacity).callAll calls).1 ∧
      ShowsLatest capacity calls ((Window.empty capacity).callAll calls).2 := by
  refine ⟨Window.replies_callAll capacity [] calls, ?_⟩
  rw [Window.callAll_snd]
  have hlatest := isLatest_pushAll capacity (Window.pushed calls)
  have hcapacity := Window.capacity_pushAll (Window.empty capacity) (Window.pushed calls)
  generalize (Window.empty capacity).pushAll (Window.pushed calls) = w at hlatest hcapacity
  obtain rfl : w.capacity = capacity := hcapacity
  have hroom : w.makeRoom.entries.length ≤ w.capacity := by
    rw [← w.capacity_makeRoom]
    exact w.makeRoom.length_le
  refine ⟨hlatest, ?_, ⟨w.length_le, hroom⟩, w.entries_push_eq⟩
  intro call hcall
  cases call with
  | push entry => cases hcall
  | entries | size | isEmpty => rfl

end Calls

namespace Sink

/-- A window takes records without a word. -/
theorem recordAll_kept (window : Window Record) (records : List Record) :
    (kept window).recordAll records = (kept (window.pushAll records), []) := by
  induction records generalizing window with
  | nil => rfl
  | cons entry rest ih =>
      rw [recordAll, record, ih]
      rfl

/-- Records are taken one after another, however they are divided. -/
theorem recordAll_append (sink : Sink) (front rest : List Record) :
    (sink.recordAll (front ++ rest)).1 = ((sink.recordAll front).1.recordAll rest).1 := by
  induction front generalizing sink with
  | nil => rfl
  | cons entry front ih =>
      rw [List.cons_append, recordAll, ih]
      rfl

end Sink

end Beacon
