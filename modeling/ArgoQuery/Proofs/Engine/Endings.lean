import ArgoQuery.Engine.Race
import Mathlib.Algebra.Order.Monoid.Unbundled.WithTop
import Mathlib.Order.Lattice.Nat
import Mathlib.Order.Nat

/-!
# How a query ends under any order of events

The join, the advisory, the cancellation and the deadline become due at any moments, and all but the
deadline perhaps never. `ending_eq` says when and how the query ends, by comparing these moments
alone: `verdict` knows nothing of phases and of looks.

A watch is followed look by look. What carries the proof is that the looks miss nothing: whatever is
still to become due does so at one of them, so when a look finds something due, it has just become
so. The advisory is an exception. While the join is waited for, it may have become due before, and
then the phase remembers it.
-/

namespace ArgoQuery.Engine

/-- A moment in the order of time. What never becomes due comes after everything else. -/
def timeOf (moment : Option Nat) : WithTop Nat := moment

/-- What has a moment comes at it. -/
theorem timeOf_some (time : Nat) : timeOf (some time) = (time : WithTop Nat) := rfl

/-- Nothing comes before what comes at once. -/
theorem timeOf_zero_le (moment : Option Nat) : timeOf (some 0) ≤ timeOf moment := by
  cases moment with
  | none => exact le_top
  | some time => exact WithTop.coe_le_coe.mpr (Nat.zero_le time)

/-- What never comes is not awaited beyond any moment. -/
theorem not_never_le_min (time : WithTop Nat) (limit : Nat) :
    ¬ timeOf none ≤ min time (timeOf (some limit)) :=
  fun before => not_le_of_gt (WithTop.coe_lt_top limit) (before.trans (min_le_right _ _))

/-- Something is due from its moment on. -/
theorem isDue_iff {moment : Option Nat} {now : Nat} :
    Moments.isDue moment now = true ↔ timeOf moment ≤ now := by
  cases moment with
  | none =>
    have never : ¬ (⊤ : WithTop Nat) ≤ now := not_le_of_gt (WithTop.coe_lt_top now)
    exact ⟨fun due => (Bool.false_ne_true due).elim, fun due => (never due).elim⟩
  | some time =>
    have due : Moments.isDue (some time) now = true ↔ time ≤ now := decide_eq_true_iff
    exact due.trans WithTop.coe_le_coe.symm

/-- A moment is not missed if it is one of the looks, should it come. -/
def Watched (looks : List Nat) (moment : Option Nat) : Prop := ∀ time ∈ moment, time ∈ looks

section Looks

variable {now : Nat} {later : List Nat} {moment : Option Nat}

/-- Nothing that is watched becomes due before the next look. -/
theorem Watched.le_timeOf (watched : Watched (now :: later) moment)
    (ordered : (now :: later).Pairwise (· ≤ ·)) : (now : WithTop Nat) ≤ timeOf moment := by
  cases moment with
  | none => exact le_top
  | some time =>
    refine WithTop.coe_le_coe.mpr ?_
    rcases List.mem_cons.mp (watched time rfl) with rfl | member
    · exact Nat.le_refl _
    · exact List.rel_of_pairwise_cons ordered member

/-- What is not due at a look is left to the later ones. -/
theorem Watched.of_not_due (watched : Watched (now :: later) moment)
    (waiting : ¬ timeOf moment ≤ now) : Watched later moment := by
  intro time found
  rcases List.mem_cons.mp (watched time found) with rfl | member
  · rw [Option.mem_def.mp found, timeOf_some] at waiting
    exact absurd (Nat.le_refl _) (mt WithTop.coe_le_coe.mpr waiting)
  · exact member

end Looks

namespace Moments

variable (moments : Moments)

/-- When and how a query ends, from the order of the moments: a cancellation before the join is done
or the deadline passes, the deadline before the join is done, a join without a result, a
cancellation before the advisory comes or is given up, and otherwise the answer. -/
def verdict : WithTop Nat × Ending :=
  let join := timeOf moments.join
  let advisory := timeOf moments.advisory
  let cancellation := timeOf moments.cancellation
  let deadline := timeOf (some moments.deadline)
  if cancellation ≤ min join deadline then (cancellation, .cancelled)
  else if deadline < join then (deadline, .timedOut)
  else if moments.joinFails then (join, .failed)
  else if cancellation ≤ min advisory deadline then (cancellation, .cancelled)
  else (max join (min advisory deadline), .finished (decide (advisory ≤ deadline)))

variable {moments} {looks : List Nat}

/-- Once the join is done, a query waits for the advisory, no longer than to its deadline. -/
theorem watch_advising (ordered : looks.Pairwise (· ≤ ·))
    (cancellation : Watched looks moments.cancellation)
    (advisory : Watched looks moments.advisory) (deadline : Watched looks (some moments.deadline)) :
    ∃ time ending, moments.watch .advising looks = some (time, ending) ∧
      ((time : WithTop Nat), ending) =
        let given := min (timeOf moments.advisory) (timeOf (some moments.deadline))
        if timeOf moments.cancellation ≤ given then (timeOf moments.cancellation, .cancelled)
        else (given, .finished
          (decide (timeOf moments.advisory ≤ timeOf (some moments.deadline)))) := by
  induction looks with
  | nil => exact absurd (deadline _ rfl) List.not_mem_nil
  | cons now later ih =>
    have cancellation_ge := cancellation.le_timeOf ordered
    have advisory_ge := advisory.le_timeOf ordered
    have deadline_ge := deadline.le_timeOf ordered
    rw [watch, look]
    by_cases cancelled : timeOf moments.cancellation ≤ now
    · have before : timeOf moments.cancellation ≤
          min (timeOf moments.advisory) (timeOf (some moments.deadline)) :=
        cancelled.trans (le_min advisory_ge deadline_ge)
      rw [if_pos (isDue_iff.mpr cancelled)]
      refine ⟨now, .cancelled, rfl, ?_⟩
      simp only [if_pos before, le_antisymm cancellation_ge cancelled]
    · rw [if_neg (mt isDue_iff.mp cancelled), lookAtAdvisory]
      by_cases advised : timeOf moments.advisory ≤ now
      · have inTime : timeOf moments.advisory ≤ timeOf (some moments.deadline) :=
          advised.trans deadline_ge
        rw [if_pos (isDue_iff.mpr advised)]
        refine ⟨now, .finished true, rfl, ?_⟩
        have late : ¬ timeOf moments.cancellation ≤ timeOf moments.advisory :=
          fun before => cancelled (before.trans advised)
        simp only [min_eq_left inTime, if_neg late, decide_eq_true inTime,
          le_antisymm advisory_ge advised]
      · rw [if_neg (mt isDue_iff.mp advised)]
        by_cases passed : moments.deadline ≤ now
        · have now_eq : (now : WithTop Nat) = timeOf (some moments.deadline) :=
            le_antisymm deadline_ge (WithTop.coe_le_coe.mpr passed)
          rw [if_pos passed]
          refine ⟨now, .finished false, rfl, ?_⟩
          rw [now_eq] at cancelled advised
          have given : min (timeOf moments.advisory) (timeOf (some moments.deadline)) =
              timeOf (some moments.deadline) := min_eq_right (not_le.mp advised).le
          simp only [given, if_neg cancelled, decide_eq_false advised, now_eq]
        · rw [if_neg passed]
          have remaining : ¬ timeOf (some moments.deadline) ≤ now :=
            mt WithTop.coe_le_coe.mp passed
          exact ih ordered.of_cons (cancellation.of_not_due cancelled)
            (advisory.of_not_due advised) (deadline.of_not_due remaining)

/-- The verdict at the moment when the join is done, nothing having ended the query before. -/
theorem verdict_of_joined {now : Nat} (joined : timeOf moments.join = now)
    (free : ¬ timeOf moments.cancellation ≤ now)
    (inTime : (now : WithTop Nat) ≤ timeOf (some moments.deadline)) :
    moments.verdict =
      let given := min (timeOf moments.advisory) (timeOf (some moments.deadline))
      if moments.joinFails then ((now : WithTop Nat), .failed)
      else if timeOf moments.cancellation ≤ given then (timeOf moments.cancellation, .cancelled)
      else (max (now : WithTop Nat) given, .finished
        (decide (timeOf moments.advisory ≤ timeOf (some moments.deadline)))) := by
  have first : ¬ timeOf moments.cancellation ≤ min (now : WithTop Nat)
      (timeOf (some moments.deadline)) := fun before => free (before.trans (min_le_left _ _))
  simp only [verdict, joined, if_neg first, if_neg inTime.not_gt]

section Joining

variable {advised : Bool} {now : Nat} {later : List Nat}

/-- At the look that finds the join done the query ends, unless the join has a result and the
advisory is still missing. From there on the look is at the advisory alone, and `watch_advising` has
the rest. -/
theorem watch_joined (ordered : (now :: later).Pairwise (· ≤ ·))
    (cancellation : Watched (now :: later) moments.cancellation)
    (deadline : Watched (now :: later) (some moments.deadline))
    (missing : advised = false → Watched (now :: later) moments.advisory)
    (inHand : advised = true → timeOf moments.advisory ≤ (now : WithTop Nat))
    (free : ¬ timeOf moments.cancellation ≤ now) (joined : timeOf moments.join = now) :
    ∃ time ending, moments.watch (.joining advised) (now :: later) = some (time, ending) ∧
      ((time : WithTop Nat), ending) = moments.verdict := by
  have deadline_ge := deadline.le_timeOf ordered
  rw [verdict_of_joined joined free deadline_ge, watch, look, if_neg (mt isDue_iff.mp free)]
  simp only [if_pos (isDue_iff.mpr joined.le)]
  cases fails : moments.joinFails with
  | true => exact ⟨now, .failed, rfl, rfl⟩
  | false =>
    cases advised with
    | true =>
      have present : timeOf moments.advisory ≤ now := inHand rfl
      have late : ¬ timeOf moments.cancellation ≤ timeOf moments.advisory :=
        fun before => free (before.trans present)
      refine ⟨now, .finished true, rfl, ?_⟩
      simp [late, present, present.trans deadline_ge]
    | false =>
      have given_ge : (now : WithTop Nat) ≤
          min (timeOf moments.advisory) (timeOf (some moments.deadline)) :=
        le_min ((missing rfl).le_timeOf ordered) deadline_ge
      have rest := watch_advising ordered cancellation (missing rfl) deadline
      rw [watch, look, if_neg (mt isDue_iff.mp free)] at rest
      simp only [Bool.false_eq_true, if_false, max_eq_right given_ge]
      exact rest

/-- While the join is waited for, the advisory may be in hand already.

The looks follow the verdict: the first of them at which the cancellation, the join or the deadline
is due settles the matter. -/
theorem watch_joining (ordered : looks.Pairwise (· ≤ ·))
    (cancellation : Watched looks moments.cancellation) (join : Watched looks moments.join)
    (deadline : Watched looks (some moments.deadline))
    (missing : advised = false → Watched looks moments.advisory)
    (inHand : advised = true → ∀ now ∈ looks, timeOf moments.advisory ≤ (now : WithTop Nat)) :
    ∃ time ending, moments.watch (.joining advised) looks = some (time, ending) ∧
      ((time : WithTop Nat), ending) = moments.verdict := by
  induction looks generalizing advised with
  | nil => exact absurd (deadline _ rfl) List.not_mem_nil
  | cons now later ih =>
    have cancellation_ge := cancellation.le_timeOf ordered
    have join_ge := join.le_timeOf ordered
    have deadline_ge := deadline.le_timeOf ordered
    by_cases cancelled : timeOf moments.cancellation ≤ now
    · have before : timeOf moments.cancellation ≤
          min (timeOf moments.join) (timeOf (some moments.deadline)) :=
        cancelled.trans (le_min join_ge deadline_ge)
      rw [watch, look, if_pos (isDue_iff.mpr cancelled)]
      refine ⟨now, .cancelled, rfl, ?_⟩
      simp only [verdict, if_pos before, le_antisymm cancellation_ge cancelled]
    by_cases joined : timeOf moments.join ≤ now
    · exact watch_joined ordered cancellation deadline missing
        (fun given => inHand given now List.mem_cons_self) cancelled (le_antisymm joined join_ge)
    rw [watch, look, if_neg (mt isDue_iff.mp cancelled)]
    simp only [if_neg (mt isDue_iff.mp joined)]
    by_cases passed : moments.deadline ≤ now
    · have now_eq : timeOf (some moments.deadline) = now :=
        le_antisymm (WithTop.coe_le_coe.mpr passed) deadline_ge
      have first : ¬ timeOf moments.cancellation ≤ min (timeOf moments.join) now :=
        fun before => cancelled (before.trans (min_le_right _ _))
      rw [if_pos passed]
      refine ⟨now, .timedOut, rfl, ?_⟩
      simp only [verdict, now_eq, if_neg first, if_pos (not_le.mp joined)]
    · have remaining : ¬ timeOf (some moments.deadline) ≤ now := mt WithTop.coe_le_coe.mp passed
      rw [if_neg passed]
      refine ih ordered.of_cons (cancellation.of_not_due cancelled) (join.of_not_due joined)
        (deadline.of_not_due remaining) ?_ ?_
      · intro without
        obtain ⟨before, notNow⟩ := Bool.or_eq_false_iff.mp without
        refine (missing before).of_not_due ?_
        rw [← isDue_iff, notNow]
        exact Bool.false_ne_true
      · intro given time member
        rcases Bool.or_eq_true_iff.mp given with before | atNow
        · exact inHand before time (List.mem_cons_of_mem _ member)
        · exact (isDue_iff.mp atNow).trans
            (WithTop.coe_le_coe.mpr (List.rel_of_pairwise_cons ordered member))

end Joining

/-- A query ends as the verdict says. -/
theorem ending_eq (moments : Moments) :
    ((moments.ending.1 : WithTop Nat), moments.ending.2) = moments.verdict := by
  have ordered : moments.wakeUps.Pairwise (· ≤ ·) := by
    have sorted : moments.wakeUps.Pairwise fun left right => decide (left ≤ right) = true := by
      apply List.pairwise_mergeSort
      · intro first second third one other
        simp only [decide_eq_true_eq] at one other ⊢
        omega
      · intro first second
        simp only [Bool.or_eq_true, decide_eq_true_eq]
        omega
    exact sorted.imp of_decide_eq_true
  have watched (moment : Option Nat) (among : ∀ time ∈ moment, time ∈ moments.join.toList ++
      moments.advisory.toList ++ moments.cancellation.toList) : Watched moments.wakeUps moment := by
    intro time found
    rw [wakeUps, List.mem_mergeSort]
    exact List.mem_cons_of_mem _ (List.mem_cons_of_mem _ (among time found))
  have deadline : Watched moments.wakeUps (some moments.deadline) := by
    rintro time ⟨⟩
    rw [wakeUps, List.mem_mergeSort]
    exact List.mem_cons_of_mem _ List.mem_cons_self
  have cancellation : Watched moments.wakeUps moments.cancellation :=
    watched _ fun time found => by simp [Option.mem_def.mp found]
  have join : Watched moments.wakeUps moments.join :=
    watched _ fun time found => by simp [Option.mem_def.mp found]
  have advisory : Watched moments.wakeUps moments.advisory :=
    watched _ fun time found => by simp [Option.mem_def.mp found]
  obtain ⟨time, ending, found, eq⟩ := watch_joining ordered cancellation join deadline
    (fun _ => advisory) (fun inHand => absurd inHand Bool.false_ne_true)
  rw [Moments.ending, found]
  exact eq

end Moments

end ArgoQuery.Engine
