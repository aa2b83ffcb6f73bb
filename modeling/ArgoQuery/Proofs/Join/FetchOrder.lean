import ArgoQuery.Join.FetchWindow
import Mathlib.Data.List.Perm.Basic

/-!
# What happens to the requests of a window

`Trace` says what may happen to the requests of a window, whoever decides when one is made and which
one is answered: they are made in their order, as many at a time as there is room for, and all of
them are answered. `Trace.after` follows a trace event by event. Between the requests that wait,
those that are pending and the answers none is lost, and none is answered that was not made.

The capacity and the schedule of a run of requests choose one of these traces: `trace_events`. So
neither decides which requests are answered.
-/

namespace ArgoQuery.Join.FetchWindow

variable {Request : Type}

/-- The requests of a window that have no answer yet. -/
def unanswered (window : FetchWindow Request) : List Request := window.waiting ++ window.pending

/-- What may happen to the requests of a window until all of them are answered. -/
inductive Trace (capacity : Nat) : FetchWindow Request → List (FetchEvent Request) → Prop where
  | done : Trace capacity ⟨[], []⟩ []
  /-- The first waiting request is made if there is room for it. -/
  | ask {request : Request} {waiting pending : List Request} {later : List (FetchEvent Request)}
      (room : pending.length < capacity)
      (rest : Trace capacity ⟨waiting, pending ++ [request]⟩ later) :
      Trace capacity ⟨request :: waiting, pending⟩ (.asked request :: later)
  /-- Any pending request is answered. -/
  | answer {request : Request} {waiting pending : List Request} {later : List (FetchEvent Request)}
      {place : Nat} (found : pending[place]? = some request)
      (rest : Trace capacity ⟨waiting, pending.eraseIdx place⟩ later) :
      Trace capacity ⟨waiting, pending⟩ (.answered request :: later)

namespace Trace

variable {capacity : Nat} {window : FetchWindow Request} {events : List (FetchEvent Request)}

/-- Requests may be renamed. -/
theorem map {Other : Type} (f : Request → Other) (trace : Trace capacity window events) :
    Trace capacity ⟨window.waiting.map f, window.pending.map f⟩ (events.map (·.map f)) := by
  induction trace with
  | done => exact .done
  | ask room _ ih =>
    refine .ask (by rwa [List.length_map]) ?_
    rwa [List.map_append] at ih
  | answer found _ ih =>
    refine .answer (by rw [List.getElem?_map, found]; rfl) ?_
    exact List.eraseIdx_map .. ▸ ih

/-- The window after the first events of a trace. What was made has left the waiting requests, what
was made and not answered is pending, and there was always room for it. -/
theorem after {before later : List (FetchEvent Request)}
    (trace : Trace capacity window (before ++ later))
    (within : window.pending.length ≤ capacity) :
    ∃ rest : FetchWindow Request, Trace capacity rest later ∧
      rest.pending.length ≤ capacity ∧
      before.filterMap FetchEvent.asked? ++ rest.waiting = window.waiting ∧
      (before.filterMap FetchEvent.answered? ++ rest.pending).Perm
        (window.pending ++ before.filterMap FetchEvent.asked?) := by
  induction before generalizing window with
  | nil => exact ⟨window, trace, within, rfl, by simp⟩
  | cons event before ih =>
    cases trace with
    | @ask request waiting pending _ room rest =>
      have roomy : (pending ++ [request]).length ≤ capacity := by
        rw [List.length_append, List.length_singleton]
        exact room
      obtain ⟨window', trace', within', waiting', kept⟩ := ih rest roomy
      refine ⟨window', trace', within', congrArg (request :: ·) waiting', ?_⟩
      rw [List.append_assoc] at kept
      exact kept
    | @answer request waiting pending _ place found rest =>
      obtain ⟨inside, rfl⟩ := List.getElem?_eq_some_iff.mp found
      have fewer : (pending.eraseIdx place).length ≤ capacity :=
        Nat.le_trans (List.length_eraseIdx_le pending place) within
      obtain ⟨window', trace', within', waiting', kept⟩ := ih rest fewer
      refine ⟨window', trace', within', waiting', ?_⟩
      exact (kept.cons _).trans ((List.getElem_cons_eraseIdx_perm inside).append_right _)

section Fresh

variable {requests : List Request}

/-- Requests are made in their order, each once. -/
theorem asked_eq (trace : Trace capacity ⟨requests, []⟩ events) :
    events.filterMap FetchEvent.asked? = requests := by
  rw [← List.append_nil events] at trace
  obtain ⟨rest, ended, -, waiting, -⟩ := trace.after (Nat.zero_le _)
  cases ended
  simpa using waiting

/-- Each request is answered once. -/
theorem answered_perm (trace : Trace capacity ⟨requests, []⟩ events) :
    (events.filterMap FetchEvent.answered?).Perm requests := by
  have asked := trace.asked_eq
  rw [← List.append_nil events] at trace
  obtain ⟨rest, ended, -, -, kept⟩ := trace.after (Nat.zero_le _)
  cases ended
  simpa [asked] using kept

/-- At no time are more requests unanswered than there is room for, and only what was made is
answered. -/
theorem unanswered_le (trace : Trace capacity ⟨requests, []⟩ events)
    {before : List (FetchEvent Request)} (first : before <+: events) :
    ∃ pending : List Request, pending.length ≤ capacity ∧
      (before.filterMap FetchEvent.answered? ++ pending).Perm
        (before.filterMap FetchEvent.asked?) := by
  obtain ⟨later, rfl⟩ := first
  obtain ⟨rest, -, within, -, kept⟩ := trace.after (Nat.zero_le _)
  exact ⟨rest.pending, within, kept⟩

/-- Where nothing is to be fetched nothing happens. -/
theorem eq_nil (trace : Trace capacity ⟨[], []⟩ events) : events = [] := by
  cases trace with
  | done => rfl
  | answer found => cases found

end Fresh

/-- As many waiting requests as there is room for can be made at once. -/
theorem asks {requests waiting pending : List Request}
    (room : pending.length + requests.length ≤ capacity)
    (rest : Trace capacity ⟨waiting, pending ++ requests⟩ events) :
    Trace capacity ⟨requests ++ waiting, pending⟩ (requests.map FetchEvent.asked ++ events) := by
  induction requests generalizing pending with
  | nil => rwa [List.append_nil] at rest
  | cons request requests ih =>
    rw [List.length_cons] at room
    refine .ask (by omega) (ih ?_ ?_)
    · rw [List.length_append, List.length_singleton]
      omega
    · rwa [List.append_assoc]

/-- Filling a window is the first thing that may happen to it. -/
theorem of_fill (within : window.pending.length ≤ capacity)
    (rest : Trace capacity (window.fill capacity) events) :
    Trace capacity window ((window.asked capacity).map FetchEvent.asked ++ events) := by
  have room : window.pending.length + (window.asked capacity).length ≤ capacity := by
    simp only [asked, free, List.length_take]
    omega
  have whole : window.asked capacity ++ window.waiting.drop (window.free capacity) =
      window.waiting := List.take_append_drop ..
  have trace := asks room rest
  rwa [whole] at trace

end Trace

/-- Filling a window moves requests, and neither makes nor drops one. -/
theorem length_unanswered_fill (capacity : Nat) (window : FetchWindow Request) :
    (window.fill capacity).unanswered.length = window.unanswered.length := by
  have whole := congrArg List.length (List.take_append_drop (window.free capacity) window.waiting)
  simp only [unanswered, fill, List.length_append] at whole ⊢
  omega

/-- A window is not filled beyond its capacity. -/
theorem length_pending_fill {capacity : Nat} {window : FetchWindow Request}
    (within : window.pending.length ≤ capacity) :
    (window.fill capacity).pending.length ≤ capacity := by
  simp only [fill, free, List.length_append, List.length_take]
  omega

/-- A window with room for a request is not left without a pending one while any has no answer. -/
theorem pending_fill_ne_nil {capacity : Nat} {window : FetchWindow Request} (room : 0 < capacity)
    (remaining : window.unanswered ≠ []) : (window.fill capacity).pending ≠ [] := by
  have some_left : 0 < window.unanswered.length := List.length_pos_iff.mpr remaining
  apply List.ne_nil_of_length_pos
  simp only [unanswered, fill, free, List.length_append, List.length_take] at some_left ⊢
  omega

/-- A run is a trace of its window, if it is as long as there are requests without an answer.

Each step fills the window and answers one of the pending requests, of which there is one as long as
any request has no answer. It leaves one request less. -/
theorem trace_run {capacity left answers : Nat} {schedule : Schedule}
    {window : FetchWindow Request} (room : 0 < capacity)
    (within : window.pending.length ≤ capacity) (length : window.unanswered.length = left) :
    Trace capacity window (run capacity schedule left answers window) := by
  induction left generalizing answers window with
  | zero =>
    obtain ⟨waiting, pending⟩ := window
    obtain ⟨rfl, rfl⟩ := List.append_eq_nil_iff.mp (List.length_eq_zero_iff.mp length)
    exact .done
  | succ left ih =>
    have remaining : window.unanswered ≠ [] := by
      intro answered
      simp [answered] at length
    let filled := window.fill capacity
    let place := schedule answers % filled.pending.length
    have inside : place < filled.pending.length :=
      Nat.mod_lt _ (List.length_pos_iff.mpr (pending_fill_ne_nil room remaining))
    have found : filled.pending[place]? = some filled.pending[place] :=
      List.getElem?_eq_getElem inside
    have fewer : (filled.pending.eraseIdx place).length ≤ capacity :=
      Nat.le_trans (List.length_eraseIdx_le ..) (length_pending_fill within)
    have rest_length :
        (unanswered ⟨filled.waiting, filled.pending.eraseIdx place⟩).length = left := by
      have total : filled.unanswered.length = left + 1 :=
        (length_unanswered_fill capacity window).trans length
      simp only [unanswered, List.length_append] at total ⊢
      rw [List.length_eraseIdx_of_lt inside]
      omega
    have next : run capacity schedule (left + 1) answers window =
        (window.asked capacity).map FetchEvent.asked ++ .answered filled.pending[place] ::
          run capacity schedule left (answers + 1)
            ⟨filled.waiting, filled.pending.eraseIdx place⟩ := by
      rw [run]
      simp only [filled, place] at found
      simp only [found, filled, place]
    rw [next]
    exact .of_fill within (.answer found (ih fewer rest_length))

/-- The events of a run of requests are a trace, in a window that holds at least one. -/
theorem trace_events (capacity : Nat) (schedule : Schedule) (requests : List Request) :
    Trace (max 1 capacity) ⟨requests, []⟩ (events capacity schedule requests) := by
  have room : 0 < max 1 capacity := Nat.lt_of_lt_of_le Nat.one_pos (Nat.le_max_left 1 capacity)
  exact trace_run room (Nat.zero_le _) (congrArg List.length (List.append_nil requests))

/-- The answers of a run of requests are the requests, in some order. -/
theorem events_answered (capacity : Nat) (schedule : Schedule) (requests : List Request) :
    ((events capacity schedule requests).filterMap FetchEvent.answered?).Perm requests :=
  (trace_events capacity schedule requests).answered_perm

end ArgoQuery.Join.FetchWindow
