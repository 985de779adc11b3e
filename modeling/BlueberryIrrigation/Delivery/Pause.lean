import BlueberryIrrigation.Controller.Operation

/-!
# Pauses of a control flow

A pause stores when it was called and a resume moves the start of the flow by the time since then,
both without asking whether the flow is paused. The time shown for the flow is the time it was not
paused as long as each resume finds the time of the pause that it ends.
-/

namespace BlueberryIrrigation

open Semantics Controller

/-- The calls of `control_flow_pause` for one flow. -/
def pausing (flow : Fin 6) : Machine Controller Flag where
  run isPause now s := s.controlFlowPause now flow isPause

/-! ## The time that counts -/

/-- The newest call has paused the flow. -/
def IsPaused : List (Step Flag) → Prop
  | [] => False
  | call :: _ => call.operation ≠ 0

instance decidableIsPaused : (calls : List (Step Flag)) → Decidable (IsPaused calls)
  | [] => inferInstanceAs (Decidable False)
  | call :: _ => inferInstanceAs (Decidable (call.operation ≠ 0))

/-- The time from the start to the newest call during which the flow was not paused. -/
def unpausedTime (origin : Nat) : List (Step Flag) → Nat
  | [] => 0
  | call :: prior =>
      if IsPaused prior then unpausedTime origin prior
      else unpausedTime origin prior + (call.now - Machine.lastTime origin prior)

/-- The time of the first of the calls since which the flow is paused, where the newest call counts
as one. -/
def pausedSince (origin : Nat) : List (Step Flag) → Nat
  | [] => origin
  | call :: prior => if IsPaused prior then pausedSince origin prior else call.now

/-- The last moment that counts for the flow. -/
def countedUntil (origin : Nat) (calls : List (Step Flag)) : Nat :=
  if IsPaused calls then pausedSince origin calls else Machine.lastTime origin calls

namespace Controller

/-! ## One call -/

section

variable {now : Nat} {flow : Fin 6} {isPause : Flag} (s : Controller)

theorem controlFlowPause_of_pause (pause : isPause ≠ 0) :
    (s.controlFlowPause now flow isPause).controlFlowArray flow =
      { s.controlFlowArray flow with timePause := millis now, isPause := isPause } := by
  unfold controlFlowPause
  simp [setFlow, pause]

theorem controlFlowPause_of_resume (resume : isPause = 0) :
    (s.controlFlowPause now flow isPause).controlFlowArray flow =
      { s.controlFlowArray flow with
        timeStart := (s.controlFlowArray flow).timeStart +
          (millis now - (s.controlFlowArray flow).timePause)
        isPause := isPause } := by
  unfold controlFlowPause
  simp [setFlow, resume]

theorem controlFlowPause_sensorFlowArray :
    (s.controlFlowPause now flow isPause).sensorFlowArray = s.sensorFlowArray := by
  unfold controlFlowPause
  dsimp only
  split <;> rfl

end
end Controller

/-! ## What all calls keep -/

/-- The flow is active with this limit, has no pulses, and is paused if the calls say so. -/
structure TimedFlow (flow : Fin 6) (timeToDeliver : UInt16) (calls : List (Step Flag))
    (t : Controller) : Prop where
  active : t.FlowActive flow
  limit : (t.controlFlowArray flow).timeToDeliver = timeToDeliver
  empty : (t.sensorFlowArray (controlFlowSensor flow)).pulsesTotal = 0
  paused : (t.controlFlowArray flow).isPause ≠ 0 ↔ IsPaused calls

theorem TimedFlow.call {flow : Fin 6} {timeToDeliver : UInt16} {calls : List (Step Flag)}
    {t : Controller} (timed : TimedFlow flow timeToDeliver calls t) (call : Step Flag) :
    TimedFlow flow timeToDeliver (call :: calls)
      (t.controlFlowPause call.now flow call.operation) where
  active := (controlFlowPause_flowActive call.now flow t call.operation flow).mpr timed.active
  limit := by
    by_cases pause : call.operation = 0
    · rw [controlFlowPause_of_resume t pause]
      exact timed.limit
    · rw [controlFlowPause_of_pause t pause]
      exact timed.limit
  empty := by
    rw [controlFlowPause_sensorFlowArray]
    exact timed.empty
  paused := by
    by_cases pause : call.operation = 0
    · rw [controlFlowPause_of_resume t pause]
      exact Iff.rfl
    · rw [controlFlowPause_of_pause t pause]
      exact Iff.rfl

section

variable [FlowArithmetic]

/-- `control_flow_update` ends an unpaused flow by its limit alone. -/
theorem TimedFlow.update_iff {flow : Fin 6} {timeToDeliver : UInt16} {calls : List (Step Flag)}
    {t : Controller} (timed : TimedFlow flow timeToDeliver calls t) (now : Nat)
    (unpaused : (t.controlFlowArray flow).isPause = 0) :
    (t.controlFlowUpdate now).FlowActive flow ↔
      ¬ (timeToDeliver ≠ 0 ∧
        timeToDeliver.toNat * 1000 ≤ (millis now - (t.controlFlowArray flow).timeStart).toNat) := by
  have undelivered : ¬ ((t.controlFlowArray flow).pulsesToDeliver ≠ 0 ∧
      (t.controlFlowArray flow).pulsesToDeliver ≤
        (t.sensorFlowArray (controlFlowSensor flow)).pulsesTotal) := by
    rw [timed.empty]
    rintro ⟨target, reached⟩
    exact target (UInt32.le_antisymm reached UInt32.zero_le)
  rw [controlFlowUpdate_flowActive_iff now unpaused, and_iff_right timed.active]
  unfold FlowDue
  dsimp only
  rw [or_iff_right undelivered, timed.limit, UInt32.le_iff_toNat_le, toNat_limit]

/-! ## The start moves with the pauses -/

section

variable (origin : Nat) (flow : Fin 6) (volumeToDeliver timeToDeliver : UInt16) (s : Controller)

/-- The state in which the start of the flow and these calls leave the controller. -/
def afterCalls (calls : List (Step Flag)) : Controller :=
  (pausing flow).after (s.controlFlowStart origin flow volumeToDeliver timeToDeliver) calls

/-- The record of the flow after these calls. -/
def flowAfter (calls : List (Step Flag)) : ControlFlow :=
  (afterCalls origin flow volumeToDeliver timeToDeliver s calls).controlFlowArray flow

theorem timedFlow_after (calls : List (Step Flag)) :
    TimedFlow flow timeToDeliver calls
      (afterCalls origin flow volumeToDeliver timeToDeliver s calls) := by
  induction calls with
  | nil =>
      constructor
      · exact (controlFlowStart_flowActive origin flow s _ _ flow).mpr (.inl rfl)
      all_goals simp [afterCalls, controlFlowStart, setFlow, setSensor, IsPaused]
  | cons call prior ih => exact ih.call call

/-- The time shown for the flow at the last moment that counts is the time it was not paused. -/
def Tallied (calls : List (Step Flag)) : Prop :=
  (flowAfter origin flow volumeToDeliver timeToDeliver s calls).timeStart +
      Clock.reading (unpausedTime origin calls) = millis (countedUntil origin calls)

/-- A resume finds the time of the first of the pauses since which the flow is paused; where it is
not paused, the stored time is that of the resume itself. -/
def resumesOnTime (prior : List (Step Flag)) (call : Step Flag) : Prop :=
  call.operation = 0 →
    (flowAfter origin flow volumeToDeliver timeToDeliver s prior).timePause =
      millis (pausedSince origin (call :: prior))

/-- While the flow is not paused, the time shown for it is the time since its start that it was not
paused, and `control_flow_update` ends it exactly once that time has reached the limit. -/
def PauseAccounted (calls : List (Step Flag)) : Prop :=
  let t := afterCalls origin flow volumeToDeliver timeToDeliver s calls
  (t.controlFlowArray flow).isPause = 0 → ∀ now, Machine.lastTime origin calls ≤ now →
    let unpaused := unpausedTime origin calls + (now - Machine.lastTime origin calls)
    millis now - (t.controlFlowArray flow).timeStart = Clock.reading unpaused ∧
      ((t.controlFlowUpdate now).FlowActive flow ↔
        ¬ (timeToDeliver ≠ 0 ∧ timeToDeliver.toNat * 1000 ≤ unpaused % Clock.period))

end

variable {origin : Nat} {flow : Fin 6} {volumeToDeliver timeToDeliver : UInt16} {s : Controller}

theorem tallied_start : Tallied origin flow volumeToDeliver timeToDeliver s [] := by
  unfold Tallied flowAfter afterCalls
  simp [controlFlowStart, setFlow, setSensor, unpausedTime, countedUntil, IsPaused, Clock.reading]

/-- Until the next call the start stays where it is. -/
theorem Tallied.next {prior : List (Step Flag)} {call : Step Flag}
    (tallied : Tallied origin flow volumeToDeliver timeToDeliver s prior)
    (ordered : Machine.lastTime origin prior ≤ call.now) :
    (flowAfter origin flow volumeToDeliver timeToDeliver s prior).timeStart +
        Clock.reading (unpausedTime origin (call :: prior)) =
      millis (pausedSince origin (call :: prior)) := by
  unfold Tallied countedUntil at tallied
  unfold unpausedTime pausedSince
  by_cases paused : IsPaused prior
  · rw [if_pos paused] at tallied ⊢
    rw [if_pos paused]
    exact tallied
  · rw [if_neg paused] at tallied ⊢
    rw [if_neg paused, Clock.reading_add, ← Clock.reading_sub ordered]
    grind

/-- A pause keeps the tally, and a resume keeps it exactly if it is on time. -/
theorem tallied_cons {prior : List (Step Flag)} {call : Step Flag}
    (tallied : Tallied origin flow volumeToDeliver timeToDeliver s prior)
    (ordered : Machine.lastTime origin prior ≤ call.now) :
    Tallied origin flow volumeToDeliver timeToDeliver s (call :: prior) ↔
      resumesOnTime origin flow volumeToDeliver timeToDeliver s prior call := by
  have next := tallied.next ordered
  have record : flowAfter origin flow volumeToDeliver timeToDeliver s (call :: prior) =
      ((afterCalls origin flow volumeToDeliver timeToDeliver s prior).controlFlowPause call.now
        flow call.operation).controlFlowArray flow := rfl
  unfold Tallied
  rw [record]
  by_cases resume : call.operation = 0
  · have counted : countedUntil origin (call :: prior) = call.now := if_neg (not_not.mpr resume)
    rw [controlFlowPause_of_resume _ resume, counted]
    change (flowAfter origin flow volumeToDeliver timeToDeliver s prior).timeStart +
      (millis call.now - (flowAfter origin flow volumeToDeliver timeToDeliver s prior).timePause) +
        _ = millis call.now ↔ _
    constructor
    · intro moved _
      grind
    · intro stored
      have onTime := stored resume
      grind
  · have counted : countedUntil origin (call :: prior) = pausedSince origin (call :: prior) :=
      if_pos resume
    rw [controlFlowPause_of_pause _ resume, counted]
    exact iff_of_true next fun other => absurd other resume

theorem tallied_of_admitted {calls : List (Step Flag)}
    (admitted : Machine.Admitted (resumesOnTime origin flow volumeToDeliver timeToDeliver s) origin
      calls) : Tallied origin flow volumeToDeliver timeToDeliver s calls :=
  admitted.along _ tallied_start fun _ _ _ tallied ordered onTime =>
    (tallied_cons tallied ordered).mpr onTime

/-- The pauses are accounted for while the tally holds. -/
theorem Tallied.accounted {calls : List (Step Flag)}
    (tallied : Tallied origin flow volumeToDeliver timeToDeliver s calls) :
    PauseAccounted origin flow volumeToDeliver timeToDeliver s calls := by
  intro unpaused now later
  have timed := timedFlow_after origin flow volumeToDeliver timeToDeliver s calls
  have shown : millis now -
      (flowAfter origin flow volumeToDeliver timeToDeliver s calls).timeStart =
        Clock.reading (unpausedTime origin calls + (now - Machine.lastTime origin calls)) := by
    have running : ¬ IsPaused calls := fun paused => timed.paused.mpr paused unpaused
    have counted : countedUntil origin calls = Machine.lastTime origin calls := if_neg running
    have passed := Clock.reading_sub later
    unfold Tallied at tallied
    rw [counted] at tallied
    rw [Clock.reading_add]
    grind
  refine ⟨shown, ?_⟩
  rw [timed.update_iff now unpaused]
  change ¬ (_ ∧ _ ≤ (millis now -
    (flowAfter origin flow volumeToDeliver timeToDeliver s calls).timeStart).toNat) ↔ _
  rw [shown, Clock.toNat_reading]

/-- The tally holds where an unpaused flow is accounted for. -/
theorem PauseAccounted.tallied {calls : List (Step Flag)} (running : ¬ IsPaused calls)
    (accounted : PauseAccounted origin flow volumeToDeliver timeToDeliver s calls) :
    Tallied origin flow volumeToDeliver timeToDeliver s calls := by
  have timed := timedFlow_after origin flow volumeToDeliver timeToDeliver s calls
  have unpaused := not_not.mp fun paused => running (timed.paused.mp paused)
  obtain ⟨shown, -⟩ := accounted unpaused (Machine.lastTime origin calls) le_rfl
  have counted : countedUntil origin calls = Machine.lastTime origin calls := if_neg running
  rw [Nat.sub_self, Nat.add_zero] at shown
  unfold Tallied
  rw [counted, ← shown]
  change (flowAfter origin flow volumeToDeliver timeToDeliver s calls).timeStart +
    (_ - (flowAfter origin flow volumeToDeliver timeToDeliver s calls).timeStart) = _
  grind

/-- The pauses of a flow are accounted for after each of its calls exactly if every resume is on
time. -/
theorem pause_accounting {calls : List (Step Flag)}
    (ordered : Machine.Admitted (fun _ _ => True) origin calls) :
    (∀ later prior, later ++ prior = calls →
        PauseAccounted origin flow volumeToDeliver timeToDeliver s prior) ↔
      Machine.Admitted (resumesOnTime origin flow volumeToDeliver timeToDeliver s) origin
        calls := by
  constructor
  · intro accounted
    induction calls with
    | nil => trivial
    | cons call prior ih =>
        obtain ⟨before, next, -⟩ := ordered
        have admitted := ih before fun later rest split =>
          accounted (call :: later) rest (by rw [List.cons_append, split])
        refine ⟨admitted, next, fun resume => ?_⟩
        have running : ¬ IsPaused (call :: prior) := not_not.mpr resume
        have tallied := (accounted [] (call :: prior) rfl).tallied running
        exact (tallied_cons (tallied_of_admitted admitted) next).mp tallied resume
  · rintro admitted later prior rfl
    exact (tallied_of_admitted admitted.earlier).accounted

end

/-- A minute's flow is paused for two seconds. -/
theorem pause_accounting_matched :
    PauseAccounted 5000 3 0 60 boot [⟨9000, 0⟩, ⟨7000, 1⟩] := by
  have ordered : Machine.Admitted (fun _ _ => True) 5000
      [(⟨9000, 0⟩ : Step Flag), ⟨7000, 1⟩] := ⟨⟨trivial, by decide, trivial⟩, by decide, trivial⟩
  have onTime : Machine.Admitted (resumesOnTime 5000 3 0 60 boot) 5000
      [⟨9000, 0⟩, ⟨7000, 1⟩] :=
    ⟨⟨trivial, by decide, fun resume => absurd resume (by decide)⟩, by decide, fun _ => by decide⟩
  exact (pause_accounting ordered).mpr onTime [] _ rfl

/-- A paused flow is paused again and then resumed: the time from the first pause to the second
counts for it although the flow was paused. -/
theorem pause_counted :
    let calls : List (Step Flag) := [⟨9000, 0⟩, ⟨8000, 1⟩, ⟨6000, 1⟩]
    let t := afterCalls 5000 3 0 60 boot calls
    (t.controlFlowArray 3).isPause = 0 ∧ unpausedTime 5000 calls = 1000 ∧
      millis 9000 - (t.controlFlowArray 3).timeStart = 3000 ∧
      ¬ PauseAccounted 5000 3 0 60 boot calls := by
  refine ⟨by decide, by decide, by decide, fun accounted => ?_⟩
  obtain ⟨shown, -⟩ := accounted (by decide) 9000 (by decide)
  exact absurd shown (by decide)

end BlueberryIrrigation
