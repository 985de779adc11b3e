import Mathlib.Data.List.Basic

/-!
# Polled timetables

A timetable is a list of stages with their durations. It is not driven by a timer: a stage
ends at the first poll at or after its expiry, and the next stage begins at that poll. This
is how a cooperative loop runs a plan. `order` and `prompt` say that the plan is followed
and no stage is cut short, `finished_of_late` says how late it can all be when consecutive
polls are never more than `gap` apart.
-/

namespace BlueberryIrrigation.Semantics

universe u

/-- A stage of a plan and how long it is to last. -/
structure Planned (Stage : Type u) where
  stage : Stage
  duration : Nat
deriving DecidableEq, Repr

/-- A stage that has begun. -/
structure Begun (Stage : Type u) where
  stage : Stage
  duration : Nat
  time : Nat
deriving DecidableEq, Repr

/-- The state of a polled plan: the stage running since `since` stands first in `pending`,
and `begun` lists the stages begun so far, newest first. -/
structure Timetable (Stage : Type u) where
  pending : List (Planned Stage)
  since : Nat
  begun : List (Begun Stage)

namespace Timetable

variable {Stage : Type u}

/-- The beginning of the first of these stages. -/
def opening (now : Nat) : List (Planned Stage) → List (Begun Stage)
  | [] => []
  | planned :: _ => [⟨planned.stage, planned.duration, now⟩]

/-- The plan is started. -/
def start (plan : List (Planned Stage)) (origin : Nat) : Timetable Stage :=
  ⟨plan, origin, opening origin plan⟩

/-- One poll: a stage whose duration is over makes room for the next one. -/
def poll (now : Nat) (table : Timetable Stage) : Timetable Stage :=
  match table.pending with
  | [] => table
  | planned :: rest =>
      if now < table.since + planned.duration then table
      else ⟨rest, now, opening now rest ++ table.begun⟩

/-- The timetable after some polls, the newest of which stands first. -/
def after (table : Timetable Stage) : List Nat → Timetable Stage
  | [] => table
  | now :: earlier => (table.after earlier).poll now

/-- The newest poll, or the origin before the first one. -/
def lastPoll (origin : Nat) : List Nat → Nat
  | [] => origin
  | now :: _ => now

/-- Polls in order, each at most `gap` after the one before. -/
def Paced (gap origin : Nat) : List Nat → Prop
  | [] => True
  | now :: earlier => Paced gap origin earlier ∧ lastPoll origin earlier ≤ now ∧
      now ≤ lastPoll origin earlier + gap

/-- The time the stages of a plan take together, one `gap` of lateness for each included. -/
def budget (gap : Nat) : List (Planned Stage) → Nat
  | [] => 0
  | planned :: rest => planned.duration + gap + budget gap rest

@[simp] theorem budget_nil (gap : Nat) : budget gap ([] : List (Planned Stage)) = 0 := rfl

@[simp] theorem budget_cons (gap : Nat) (planned : Planned Stage) (rest : List (Planned Stage)) :
    budget gap (planned :: rest) = planned.duration + gap + budget gap rest := rfl

@[simp] theorem budget_append (gap : Nat) (first second : List (Planned Stage)) :
    budget gap (first ++ second) = budget gap first + budget gap second := by
  induction first with
  | nil => simp
  | cons planned rest ih =>
      simp only [List.cons_append, budget_cons, ih]
      omega

/-! ## One poll -/

theorem poll_nil {table : Timetable Stage} (now : Nat) (done : table.pending = []) :
    table.poll now = table := by
  simp [poll, done]

theorem poll_waiting {table : Timetable Stage} {now : Nat} {planned : Planned Stage}
    {rest : List (Planned Stage)} (pending : table.pending = planned :: rest)
    (waiting : now < table.since + planned.duration) : table.poll now = table := by
  simp [poll, pending, waiting]

theorem poll_over {table : Timetable Stage} {now : Nat} {planned : Planned Stage}
    {rest : List (Planned Stage)} (pending : table.pending = planned :: rest)
    (expired : ¬ now < table.since + planned.duration) :
    table.poll now = ⟨rest, now, opening now rest ++ table.begun⟩ := by
  simp [poll, pending, expired]

/-! ## The plan is followed -/

/-- What is pending is the rest of the plan. -/
theorem pending_suffix (table : Timetable Stage) (polls : List Nat) :
    (table.after polls).pending <:+ table.pending := by
  induction polls with
  | nil => exact List.suffix_rfl
  | cons now earlier ih =>
      rw [after, poll]
      split
      · exact ih
      · rename_i planned rest pending
        split
        · exact ih
        · exact (List.suffix_cons planned rest).trans (pending ▸ ih)

/-- The stages begun so far and those to come make up the plan. -/
theorem order (plan : List (Planned Stage)) (origin : Nat) (polls : List Nat) :
    let table := (start plan origin).after polls
    (table.begun.reverse.map fun begun => (⟨begun.stage, begun.duration⟩ : Planned Stage)) ++
      table.pending.tail = plan := by
  induction polls with
  | nil => cases plan <;> rfl
  | cons now earlier ih =>
      dsimp only at ih ⊢
      rw [after, poll]
      split
      · exact ih
      · rename_i planned rest pending
        rw [pending] at ih
        split
        · rw [pending]
          exact ih
        · cases rest with
          | nil => simpa [opening] using ih
          | cons next rest => simpa [opening] using ih

/-- The stage that is running was begun last, at `since`. -/
theorem running_begun (plan : List (Planned Stage)) (origin : Nat) (polls : List Nat) :
    let table := (start plan origin).after polls
    ∀ planned rest, table.pending = planned :: rest →
      ∃ earlier, table.begun = ⟨planned.stage, planned.duration, table.since⟩ :: earlier := by
  induction polls with
  | nil =>
      intro table planned rest pending
      cases plan with
      | nil => exact absurd pending (by simp [table, start, after])
      | cons head tail =>
          obtain ⟨rfl, rfl⟩ := List.cons.inj pending
          exact ⟨[], rfl⟩
  | cons now earlier ih =>
      dsimp only at ih ⊢
      rw [after, poll]
      split
      · rename_i done
        simp [done]
      · rename_i head tail before
        split
        · exact ih
        · rintro planned rest rfl
          exact ⟨_, rfl⟩

/-! ## Every stage ends at the first poll at or after its expiry -/

/-- This stage ended at `time`, the first poll at or after its expiry. -/
structure EndedPromptly (polls : List Nat) (ended : Begun Stage) (time : Nat) : Prop where
  polled : time ∈ polls
  lasted : ended.time + ended.duration ≤ time
  first : ∀ now ∈ polls, ended.time < now → ended.time + ended.duration ≤ now → time ≤ now

/-- Newest first, every stage began when the one before it ended, and promptly so. -/
def Prompt (polls : List Nat) : List (Begun Stage) → Prop
  | next :: ended :: earlier =>
      EndedPromptly polls ended next.time ∧ Prompt polls (ended :: earlier)
  | _ => True

/-- A later poll makes no difference to the stages that have ended. -/
theorem Prompt.later {polls : List Nat} {begun : List (Begun Stage)} {now : Nat}
    (prompt : Prompt polls begun) (past : ∀ stage ∈ begun, stage.time ≤ now) :
    Prompt (now :: polls) begun := by
  induction begun with
  | nil => trivial
  | cons next rest ih =>
      cases rest with
      | nil => trivial
      | cons ended earlier =>
          obtain ⟨⟨polled, lasted, first⟩, before⟩ := prompt
          have passed : next.time ≤ now := past next List.mem_cons_self
          refine ⟨⟨List.mem_cons_of_mem now polled, lasted, ?_⟩, ?_⟩
          · intro time listed began expired
            rcases List.mem_cons.mp listed with rfl | old
            · exact passed
            · exact first time old began expired
          · exact ih before fun stage listed => past stage (List.mem_cons_of_mem next listed)

/-- What every poll keeps of the stages begun so far. -/
structure Timely (polls : List Nat) (last : Nat) (table : Timetable Stage) : Prop where
  ordered : ∀ now ∈ polls, now ≤ last
  begun : ∀ stage ∈ table.begun, stage.time ≤ last
  running : ∀ planned rest, table.pending = planned :: rest →
    ∀ now ∈ polls, table.since < now → now < table.since + planned.duration
  prompt : Prompt polls table.begun

theorem timely_after (plan : List (Planned Stage)) {gap origin : Nat} {polls : List Nat}
    (paced : Paced gap origin polls) :
    Timely polls (lastPoll origin polls) ((start plan origin).after polls) := by
  induction polls with
  | nil =>
      refine ⟨by simp, ?_, by simp, ?_⟩
      · cases plan <;> simp [start, after, opening, lastPoll]
      · cases plan <;> trivial
  | cons now earlier ih =>
      obtain ⟨before, later, -⟩ := paced
      obtain ⟨ordered, begun, running, prompt⟩ := ih before
      have past : ∀ stage ∈ ((start plan origin).after earlier).begun, stage.time ≤ now :=
        fun stage listed => Nat.le_trans (begun stage listed) later
      have sorted : ∀ time ∈ now :: earlier, time ≤ now := by
        intro time listed
        rcases List.mem_cons.mp listed with rfl | old
        · exact Nat.le_refl time
        · exact Nat.le_trans (ordered time old) later
      change Timely (now :: earlier) now (((start plan origin).after earlier).poll now)
      match pending : ((start plan origin).after earlier).pending with
      | [] =>
          rw [poll_nil now pending]
          exact ⟨sorted, past, by simp [pending], prompt.later past⟩
      | planned :: rest =>
          obtain ⟨ended, began⟩ := running_begun plan origin earlier planned rest pending
          by_cases waiting : now < ((start plan origin).after earlier).since + planned.duration
          · rw [poll_waiting pending waiting]
            refine ⟨sorted, past, ?_, prompt.later past⟩
            intro head tail same time listed fresh
            obtain ⟨rfl, rfl⟩ := List.cons.inj (pending.symm.trans same)
            rcases List.mem_cons.mp listed with rfl | old
            · exact waiting
            · exact running planned rest pending time old fresh
          · rw [poll_over pending waiting]
            have still := prompt.later past
            refine ⟨sorted, ?_, ?_, ?_⟩
            · cases rest with
              | nil => exact past
              | cons next rest =>
                  intro stage listed
                  rcases List.mem_cons.mp listed with rfl | old
                  · exact Nat.le_refl now
                  · exact past stage old
            · intro head tail _ time listed fresh
              exact absurd (sorted time listed) (Nat.not_le_of_lt fresh)
            · rw [began] at still ⊢
              cases rest with
              | nil => exact still
              | cons next rest =>
                  refine ⟨⟨List.mem_cons_self, Nat.le_of_not_lt waiting, ?_⟩, still⟩
                  intro time listed fresh expired
                  rcases List.mem_cons.mp listed with rfl | old
                  · exact Nat.le_refl time
                  · have early := running planned _ pending time old fresh
                    exact absurd expired (Nat.not_le_of_lt early)

/-! ## The plan is done in time -/

/-- What every poll keeps: the running stage was not over at the last poll, and what is left
fits before the deadline. -/
structure OnTime (gap deadline last : Nat) (table : Timetable Stage) : Prop where
  started : table.since ≤ last
  running : ∀ planned rest, table.pending = planned :: rest →
    last < table.since + planned.duration ∨ last = table.since
  fits : table.since + budget gap table.pending ≤ deadline

theorem OnTime.poll {gap deadline last now : Nat} {table : Timetable Stage}
    (onTime : OnTime gap deadline last table) (ordered : last ≤ now) (close : now ≤ last + gap) :
    OnTime gap deadline now (table.poll now) := by
  obtain ⟨started, running, fits⟩ := onTime
  rw [Timetable.poll]
  split
  · rename_i done
    exact ⟨Nat.le_trans started ordered, by simp [done], fits⟩
  · rename_i planned rest pending
    split
    · rename_i waiting
      refine ⟨Nat.le_trans started ordered, ?_, fits⟩
      intro head tail same
      obtain ⟨rfl, rfl⟩ := List.cons.inj (pending.symm.trans same)
      exact .inl waiting
    · refine ⟨Nat.le_refl now, fun _ _ _ => .inr rfl, ?_⟩
      have late : now ≤ table.since + planned.duration + gap := by
        rcases running planned rest pending with waiting | fresh <;> omega
      rw [pending, budget_cons] at fits
      dsimp only
      omega

theorem onTime_after (plan : List (Planned Stage)) {gap origin : Nat} {polls : List Nat}
    (paced : Paced gap origin polls) :
    OnTime gap (origin + budget gap plan) (lastPoll origin polls)
      ((start plan origin).after polls) := by
  induction polls with
  | nil => exact ⟨Nat.le_refl origin, fun _ _ _ => .inr rfl, Nat.le_refl _⟩
  | cons now earlier ih =>
      obtain ⟨before, ordered, close⟩ := paced
      exact (ih before).poll ordered close

/-- By the deadline, the plan's budget, nothing is pending. -/
theorem finished_of_late (plan : List (Planned Stage)) {gap origin : Nat} {polls : List Nat}
    (positive : 0 < gap) (paced : Paced gap origin polls)
    (late : origin + budget gap plan ≤ lastPoll origin polls) :
    ((start plan origin).after polls).pending = [] := by
  obtain ⟨started, running, fits⟩ := onTime_after plan paced
  match pending : ((start plan origin).after polls).pending with
  | [] => rfl
  | planned :: rest =>
      rw [pending, budget_cons] at fits
      rcases running planned rest pending with waiting | fresh <;> omega

/-- The running stage was begun before the next poll. -/
theorem since_le {plan : List (Planned Stage)} {gap origin now : Nat} {polls : List Nat}
    (paced : Paced gap origin (now :: polls)) : ((start plan origin).after polls).since ≤ now :=
  Nat.le_trans (onTime_after plan paced.1).started paced.2.1

/-- Every poll finds the running stage less than its duration and one gap old. -/
theorem age_le (plan : List (Planned Stage)) {gap origin now : Nat} {polls : List Nat}
    (paced : Paced gap origin (now :: polls)) {planned : Planned Stage}
    {rest : List (Planned Stage)}
    (pending : ((start plan origin).after polls).pending = planned :: rest) :
    now - ((start plan origin).after polls).since ≤ planned.duration + gap := by
  obtain ⟨before, ordered, close⟩ := paced
  obtain ⟨started, running, -⟩ := onTime_after plan before
  rcases running planned rest pending with waiting | fresh <;> omega

/-- What bounds every duration and the gap together bounds the age of the running stage. -/
theorem age_lt {plan : List (Planned Stage)} {gap origin now bound : Nat} {polls : List Nat}
    (paced : Paced gap origin (now :: polls))
    (bounded : ∀ planned ∈ plan, planned.duration + gap < bound)
    (unfinished : ((start plan origin).after polls).pending ≠ []) :
    now - ((start plan origin).after polls).since < bound := by
  obtain ⟨planned, rest, pending⟩ := List.exists_cons_of_ne_nil unfinished
  have listed : planned ∈ plan :=
    (pending_suffix (start plan origin) polls).subset (by simp [pending])
  exact Nat.lt_of_le_of_lt (age_le plan paced pending) (bounded planned listed)

end Timetable
end BlueberryIrrigation.Semantics
