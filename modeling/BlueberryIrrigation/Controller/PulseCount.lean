import BlueberryIrrigation.Controller.Operation

/-!
# Interrupts between the statements of `sensor_flow_update`

Here the loop of `sensor_flow_update` runs statement by statement, and the handler of every sensor
that is attached may run in between. A flush adds and then clears; what makes it one step for the
handler is that the sensor is detached meanwhile.
-/

namespace BlueberryIrrigation

/-- The statement of `sensor_flow_update` that is next, `outside` its call. -/
inductive UpdatePoint where
  | outside
  | detach (counter : Fin 5)
  | add (counter : Fin 5)
  | clear (counter : Fin 5)
  | attach (counter : Fin 5)
  | finish
deriving DecidableEq, Repr

/-- Whether a sensor is between its `detachInterrupt` and its `attachInterrupt`. -/
def UpdatePoint.Detached (sensor : Fin 5) (point : UpdatePoint) : Prop :=
  point = .add sensor ∨ point = .clear sensor ∨ point = .attach sensor

/-- The memory while `sensor_flow_update` runs, and the handlers that are attached. -/
structure Counting where
  memory : Controller
  attached : Fin 5 → Bool
  point : UpdatePoint

/-- The history of the handlers. -/
structure Tally where
  /-- How often each handler has run. -/
  handled : Fin 5 → Nat
  /-- How often it has run since its sensor was flushed. -/
  pending : Fin 5 → Nat
  /-- The sensor when it was last detached. -/
  detached : Fin 5 → SensorFlow

namespace Counting

def sensor (counting : Counting) (sensor : Fin 5) : SensorFlow :=
  counting.memory.sensorFlowArray sensor

/-- The next statement, at real time `now`. -/
def statement (now : Nat) (counting : Counting) : Counting :=
  match counting.point with
  | .outside =>
      if millis now - counting.memory.sensorFlowTimeUpdateLast < sensorFlowUpdateInterval then
        counting
      else { counting with point := .detach 0 }
  | .detach counter =>
      { counting with
        attached := Function.update counting.attached counter false
        point := .add counter }
  | .add counter =>
      { counting with
        memory := counting.memory.setSensor counter
          { counting.sensor counter with
            pulsesTotal := (counting.sensor counter).pulsesTotal +
              (counting.sensor counter).pulsesInterrupt.toUInt32 }
        point := .clear counter }
  | .clear counter =>
      { counting with
        memory := counting.memory.setSensor counter
          { counting.sensor counter with pulsesInterrupt := 0 }
        point := .attach counter }
  | .attach counter =>
      { counting with
        attached := Function.update counting.attached counter true
        point := if more : counter.val + 1 < 5 then .detach ⟨counter.val + 1, more⟩ else .finish }
  | .finish =>
      { counting with
        memory := { counting.memory with sensorFlowTimeUpdateLast := millis now }
        point := .outside }

/-- A run of a handler. -/
def interrupted (sensor : Fin 5) (counting : Counting) : Counting :=
  { counting with memory := counting.memory.sensorFlowInterrupt sensor }

/-- Between two calls all handlers are attached; no pulse waits to be flushed. -/
structure Initial (counting : Counting) : Prop where
  point : counting.point = .outside
  attached : ∀ sensor, counting.attached sensor = true
  flushed : ∀ sensor, (counting.sensor sensor).pulsesInterrupt = 0

end Counting

namespace Tally

/-- The history of a beginning run. -/
def none (start : Counting) : Tally where
  handled _ := 0
  pending _ := 0
  detached := start.sensor

def interrupted (sensor : Fin 5) (tally : Tally) : Tally :=
  { tally with
    handled := Function.update tally.handled sensor (tally.handled sensor + 1)
    pending := Function.update tally.pending sensor (tally.pending sensor + 1) }

/-- What a statement does to the history. -/
def statement (counting : Counting) (tally : Tally) : Tally :=
  match counting.point with
  | .detach counter =>
      { tally with
        detached := Function.update tally.detached counter (counting.sensor counter) }
  | .clear counter => { tally with pending := Function.update tally.pending counter 0 }
  | _ => tally

end Tally

/-- The runs from `start`: statements at any time, and in between the handlers that are attached,
each less than 65536 times between two flushes of its sensor. -/
inductive PulseRun (start : Counting) : Counting → Tally → Prop where
  | start : PulseRun start start (.none start)
  | statement {counting : Counting} {tally : Tally} (prior : PulseRun start counting tally)
      (now : Nat) : PulseRun start (counting.statement now) (tally.statement counting)
  | interrupt {counting : Counting} {tally : Tally} (prior : PulseRun start counting tally)
      {sensor : Fin 5} (attached : counting.attached sensor = true)
      (few : tally.pending sensor + 1 < 65536) :
      PulseRun start (counting.interrupted sensor) (tally.interrupted sensor)

/-! ## The invariant -/

/-- The pulses of a sensor that are not in its total yet: none between the two halves of a flush,
when they are counted on both sides. -/
def Counting.waiting (sensor : Fin 5) (counting : Counting) : UInt32 :=
  if counting.point = .clear sensor then 0 else (counting.sensor sensor).pulsesInterrupt.toUInt32

theorem Counting.waiting_of_ne {sensor : Fin 5} {counting : Counting}
    (uncleared : counting.point ≠ .clear sensor) :
    counting.waiting sensor = (counting.sensor sensor).pulsesInterrupt.toUInt32 := if_neg uncleared

/-- What holds of a sensor at each statement. -/
structure PulsesKept (start counting : Counting) (tally : Tally) (sensor : Fin 5) : Prop where
  attached : counting.attached sensor = true ↔ ¬ counting.point.Detached sensor
  pending : tally.pending sensor = (counting.sensor sensor).pulsesInterrupt.toNat
  balance : (counting.sensor sensor).pulsesTotal + counting.waiting sensor =
    (start.sensor sensor).pulsesTotal + UInt32.ofNat (tally.handled sensor)
  add : counting.point = .add sensor → counting.sensor sensor = tally.detached sensor
  clear : counting.point = .clear sensor → counting.sensor sensor =
    { tally.detached sensor with
      pulsesTotal := (tally.detached sensor).pulsesTotal +
        (tally.detached sensor).pulsesInterrupt.toUInt32 }
  attach : counting.point = .attach sensor → counting.sensor sensor =
    { tally.detached sensor with
      pulsesTotal := (tally.detached sensor).pulsesTotal +
        (tally.detached sensor).pulsesInterrupt.toUInt32
      pulsesInterrupt := 0 }

namespace PulsesKept

variable {start counting next : Counting} {tally tallied : Tally} {sensor : Fin 5}

theorem initial (initial : start.Initial) (sensor : Fin 5) :
    PulsesKept start start (.none start) sensor := by
  refine ⟨?_, ?_, ?_, ?_, ?_, ?_⟩
  · simp [initial.attached, initial.point, UpdatePoint.Detached]
  · simp [Tally.none, initial.flushed]
  · simp [Tally.none, Counting.waiting, initial.flushed]
  all_goals
    intro point
    rw [initial.point] at point
    cases point

/-- Two states that agree on the sensor. -/
structure Same (sensor : Fin 5) (counting next : Counting) (tally tallied : Tally) : Prop where
  counts : next.sensor sensor = counting.sensor sensor
  attached : next.attached sensor = counting.attached sensor
  handled : tallied.handled sensor = tally.handled sensor
  pending : tallied.pending sensor = tally.pending sensor
  detached : tallied.detached sensor = tally.detached sensor

/-- A statement about another sensor keeps what holds of this one. -/
theorem of_aside (kept : PulsesKept start counting tally sensor)
    (same : Same sensor counting next tally tallied)
    (aside : ¬ counting.point.Detached sensor) (still : ¬ next.point.Detached sensor) :
    PulsesKept start next tallied sensor := by
  have before : counting.waiting sensor = (counting.sensor sensor).pulsesInterrupt.toUInt32 :=
    Counting.waiting_of_ne fun clear => aside (.inr (.inl clear))
  have after : next.waiting sensor = (counting.sensor sensor).pulsesInterrupt.toUInt32 := by
    rw [Counting.waiting_of_ne fun clear => still (.inr (.inl clear)), same.counts]
  refine ⟨?_, ?_, ?_, fun add => absurd (.inl add) still,
    fun clear => absurd (.inr (.inl clear)) still, fun attach => absurd (.inr (.inr attach)) still⟩
  · rw [same.attached, kept.attached]
    exact iff_of_true aside still
  · rw [same.pending, same.counts]
    exact kept.pending
  · rw [same.counts, same.handled, after, ← before]
    exact kept.balance

/-- So does the handler of another sensor, wherever this one stands. -/
theorem of_same (kept : PulsesKept start counting tally sensor)
    (same : Same sensor counting next tally tallied) (point : next.point = counting.point) :
    PulsesKept start next tallied sensor := by
  have waiting : next.waiting sensor = counting.waiting sensor := by
    rw [Counting.waiting, Counting.waiting, point, same.counts]
  refine ⟨?_, ?_, ?_, ?_, ?_, ?_⟩
  · rw [same.attached, point]
    exact kept.attached
  · rw [same.pending, same.counts]
    exact kept.pending
  · rw [same.counts, same.handled, waiting]
    exact kept.balance
  · rw [point, same.counts, same.detached]
    exact kept.add
  · rw [point, same.counts, same.detached]
    exact kept.clear
  · rw [point, same.counts, same.detached]
    exact kept.attach

/-- Every statement keeps the invariant of every sensor. -/
theorem statement (kept : PulsesKept start counting tally sensor) (now : Nat) :
    PulsesKept start (counting.statement now) (tally.statement counting) sensor := by
  obtain ⟨memory, attached, point⟩ := counting
  cases point with
  | outside =>
      by_cases early :
          millis now - memory.sensorFlowTimeUpdateLast < sensorFlowUpdateInterval
      · rw [Counting.statement]
        simp only [early, if_true]
        exact kept
      · rw [Counting.statement]
        simp only [early, if_false]
        exact kept.of_aside ⟨rfl, rfl, rfl, rfl, rfl⟩ (by simp [UpdatePoint.Detached])
          (by simp [UpdatePoint.Detached])
  | detach counter =>
      by_cases own : counter = sensor
      · subst own
        refine ⟨?_, kept.pending, ?_, fun _ => ?_, fun clear => UpdatePoint.noConfusion clear,
          fun attach => UpdatePoint.noConfusion attach⟩
        · simp [Counting.statement, UpdatePoint.Detached]
        · exact kept.balance
        · simp [Counting.statement, Tally.statement, Counting.sensor]
      · refine kept.of_aside ⟨rfl, ?_, rfl, rfl, ?_⟩ (by simp [UpdatePoint.Detached])
          (by simp [Counting.statement, UpdatePoint.Detached, own])
        · simp [Counting.statement, Ne.symm own]
        · simp [Tally.statement, Ne.symm own]
  | add counter =>
      by_cases own : counter = sensor
      · subst own
        have detached := kept.add rfl
        refine ⟨?_, ?_, ?_, fun add => UpdatePoint.noConfusion add, fun _ => ?_,
          fun attach => UpdatePoint.noConfusion attach⟩
        · simpa [Counting.statement, UpdatePoint.Detached] using kept.attached
        · simpa [Counting.statement, Tally.statement, Counting.sensor, Controller.setSensor]
            using kept.pending
        · simpa [Counting.statement, Tally.statement, Counting.sensor, Controller.setSensor,
            Counting.waiting] using kept.balance
        · change memory.sensorFlowArray counter = _ at detached
          simp [Counting.statement, Tally.statement, Counting.sensor, Controller.setSensor,
            detached]
      · refine kept.of_aside ⟨?_, rfl, rfl, rfl, rfl⟩ (by simp [UpdatePoint.Detached, own])
          (by simp [Counting.statement, UpdatePoint.Detached, own])
        simp [Counting.statement, Counting.sensor, Controller.setSensor, Ne.symm own]
  | clear counter =>
      by_cases own : counter = sensor
      · subst own
        have detached := kept.clear rfl
        refine ⟨?_, ?_, ?_, fun add => UpdatePoint.noConfusion add,
          fun clear => UpdatePoint.noConfusion clear, fun _ => ?_⟩
        · simpa [Counting.statement, UpdatePoint.Detached] using kept.attached
        · simp [Counting.statement, Tally.statement, Counting.sensor, Controller.setSensor]
        · simpa [Counting.statement, Tally.statement, Counting.sensor, Controller.setSensor,
            Counting.waiting] using kept.balance
        · change memory.sensorFlowArray counter = _ at detached
          simp [Counting.statement, Tally.statement, Counting.sensor, Controller.setSensor,
            detached]
      · refine kept.of_aside ⟨?_, rfl, rfl, ?_, rfl⟩ (by simp [UpdatePoint.Detached, own])
          (by simp [Counting.statement, UpdatePoint.Detached, own])
        · simp [Counting.statement, Counting.sensor, Controller.setSensor, Ne.symm own]
        · simp [Tally.statement, Ne.symm own]
  | attach counter =>
      have left : ¬ (if more : counter.val + 1 < 5 then
          UpdatePoint.detach ⟨counter.val + 1, more⟩ else .finish).Detached sensor := by
        split <;> simp [UpdatePoint.Detached]
      by_cases own : counter = sensor
      · subst own
        refine ⟨?_, kept.pending, ?_, fun add => absurd (.inl add) left,
          fun clear => absurd (.inr (.inl clear)) left,
          fun attach => absurd (.inr (.inr attach)) left⟩
        · exact iff_of_true (by simp [Counting.statement]) left
        · have before := kept.balance
          have uncleared :
              (Counting.statement now ⟨memory, attached, .attach counter⟩).point ≠
                .clear counter := fun clear => left (.inr (.inl clear))
          have flushed : (⟨memory, attached, .attach counter⟩ : Counting).point ≠
              .clear counter := UpdatePoint.noConfusion
          rw [Counting.waiting_of_ne flushed] at before
          rw [Counting.waiting_of_ne uncleared]
          exact before
      · refine kept.of_aside ⟨rfl, ?_, rfl, rfl, rfl⟩ (by simp [UpdatePoint.Detached, own]) left
        simp [Counting.statement, Ne.symm own]
  | finish =>
      exact kept.of_aside ⟨rfl, rfl, rfl, rfl, rfl⟩ (by simp [UpdatePoint.Detached])
        (by simp [Counting.statement, UpdatePoint.Detached])

/-- So does the handler of an attached sensor. -/
theorem interrupt (kept : PulsesKept start counting tally sensor) {handled : Fin 5}
    (attached : counting.attached handled = true) (few : tally.pending handled + 1 < 65536) :
    PulsesKept start (counting.interrupted handled) (tally.interrupted handled) sensor := by
  by_cases own : handled = sensor
  · subst own
    have aside := kept.attached.mp attached
    have uncleared : counting.point ≠ .clear handled := fun clear => aside (.inr (.inl clear))
    have count : ((counting.interrupted handled).sensor handled).pulsesInterrupt =
        (counting.sensor handled).pulsesInterrupt + 1 := by
      simp [Counting.interrupted, Counting.sensor, Controller.sensorFlowInterrupt,
        Controller.setSensor]
    have total : ((counting.interrupted handled).sensor handled).pulsesTotal =
        (counting.sensor handled).pulsesTotal := by
      simp [Counting.interrupted, Counting.sensor]
    have more : (tally.interrupted handled).handled handled = tally.handled handled + 1 := by
      simp [Tally.interrupted]
    have room := few
    rw [kept.pending] at room
    refine ⟨kept.attached, ?_, ?_, fun add => absurd (.inl add) aside,
      fun clear => absurd clear uncleared, fun attach => absurd (.inr (.inr attach)) aside⟩
    · rw [count, UInt16.toNat_add, ← kept.pending]
      simp [Tally.interrupted, Nat.mod_eq_of_lt few]
    · have before := kept.balance
      have still : (counting.interrupted handled).point ≠ .clear handled := uncleared
      rw [Counting.waiting_of_ne uncleared] at before
      have widened : ((counting.sensor handled).pulsesInterrupt + 1).toUInt32 =
          (counting.sensor handled).pulsesInterrupt.toUInt32 + 1 := by
        rw [← UInt32.toNat_inj]
        simp
        omega
      rw [Counting.waiting_of_ne still, count, total, more, widened, ← UInt32.add_assoc,
        before, UInt32.ofNat_add, UInt32.add_assoc]
      rfl
  · refine kept.of_same ⟨?_, rfl, ?_, ?_, rfl⟩ rfl
    · simp [Counting.interrupted, Counting.sensor, Controller.sensorFlowInterrupt,
        Controller.setSensor, Ne.symm own]
    · simp [Tally.interrupted, Ne.symm own]
    · simp [Tally.interrupted, Ne.symm own]

theorem run (initial : start.Initial) (run : PulseRun start counting tally) (sensor : Fin 5) :
    PulsesKept start counting tally sensor := by
  induction run with
  | start => exact .initial initial sensor
  | statement prior now ih => exact ih.statement now
  | interrupt prior attached few ih => exact ih.interrupt attached few

end PulsesKept

/-! ## The atomic call -/

/-- Without interrupts, the four statements of a sensor are its flush. -/
theorem statement_flush (now : Nat) (counter : Fin 5) {counting : Counting}
    (point : counting.point = .detach counter) (attached : counting.attached counter = true) :
    (Counting.statement now)^[4] counting =
      { counting with
        memory := counting.memory.sensorFlowFlush counter
        point := if more : counter.val + 1 < 5 then .detach ⟨counter.val + 1, more⟩
          else .finish } := by
  obtain ⟨memory, handlers, _⟩ := counting
  subst point
  have restored : Function.update (Function.update handlers counter false) counter true =
      handlers := by
    rw [Function.update_idem, ← attached]
    exact Function.update_eq_self counter handlers
  simp [Counting.statement, Counting.sensor, Controller.sensorFlowFlush, Controller.setSensor,
    restored]

/-- Without interrupts, the statements of a call that is due are `sensor_flow_update`. -/
theorem statements_sensorFlowUpdate (now : Nat) {counting : Counting}
    (point : counting.point = .outside) (attached : ∀ sensor, counting.attached sensor = true)
    (due : ¬ millis now - counting.memory.sensorFlowTimeUpdateLast < sensorFlowUpdateInterval) :
    (Counting.statement now)^[22] counting =
      { counting with memory := counting.memory.sensorFlowUpdate now } := by
  have entered : counting.statement now = { counting with point := .detach 0 } := by
    unfold Counting.statement
    rw [point]
    simp only [due, if_false]
  have flush (counter : Fin 5) (memory : Controller) :
      (Counting.statement now)^[4] ⟨memory, counting.attached, .detach counter⟩ =
        ⟨memory.sensorFlowFlush counter, counting.attached,
          if more : counter.val + 1 < 5 then .detach ⟨counter.val + 1, more⟩ else .finish⟩ :=
    statement_flush now counter rfl (attached counter)
  let step := Counting.statement now
  calc step^[22] counting
    _ = step^[21] { counting with point := .detach 0 } := congrArg step^[21] entered
    _ = step^[17] ⟨_, counting.attached, .detach 1⟩ :=
      (Function.iterate_add_apply step 17 4 _).trans (congrArg step^[17] (flush 0 _))
    _ = step^[13] ⟨_, counting.attached, .detach 2⟩ :=
      (Function.iterate_add_apply step 13 4 _).trans (congrArg step^[13] (flush 1 _))
    _ = step^[9] ⟨_, counting.attached, .detach 3⟩ :=
      (Function.iterate_add_apply step 9 4 _).trans (congrArg step^[9] (flush 2 _))
    _ = step^[5] ⟨_, counting.attached, .detach 4⟩ :=
      (Function.iterate_add_apply step 5 4 _).trans (congrArg step^[5] (flush 3 _))
    _ = step^[1] ⟨_, counting.attached, .finish⟩ :=
      (Function.iterate_add_apply step 1 4 _).trans (congrArg step^[1] (flush 4 _))
    _ = { counting with memory := counting.memory.sensorFlowUpdate now } := by
      unfold Controller.sensorFlowUpdate
      rw [if_neg due, point]
      rfl

/-- No pulse is lost or counted twice. Wherever the handlers run between the statements, a sensor
that is not between its detach and its attach has, in total and count together, what it had and
one pulse for every run of its handler; and before it is attached, its whole count has been moved
into its total. -/
theorem pulses_are_kept {start counting : Counting} {tally : Tally} (initial : start.Initial)
    (run : PulseRun start counting tally) (sensor : Fin 5) :
    (counting.attached sensor = true ↔ ¬ counting.point.Detached sensor) ∧
      (¬ counting.point.Detached sensor →
        (counting.sensor sensor).pulsesTotal +
            (counting.sensor sensor).pulsesInterrupt.toUInt32 =
          (start.sensor sensor).pulsesTotal + UInt32.ofNat (tally.handled sensor)) ∧
      (counting.point = .attach sensor → counting.sensor sensor =
        { tally.detached sensor with
          pulsesTotal := (tally.detached sensor).pulsesTotal +
            (tally.detached sensor).pulsesInterrupt.toUInt32
          pulsesInterrupt := 0 }) := by
  have kept := PulsesKept.run initial run sensor
  refine ⟨kept.attached, fun aside => ?_, kept.attach⟩
  have balance := kept.balance
  rwa [Counting.waiting_of_ne fun clear => aside (.inr (.inl clear))] at balance

/-- A pulse of sensor 0 before the flush and one of sensor 1 within it. -/
theorem pulses_are_kept_within :
    ∃ counting tally, PulseRun ⟨boot, fun _ => true, .outside⟩ counting tally ∧
      counting.point = .attach 0 ∧ tally.handled 0 = 1 ∧ tally.handled 1 = 1 ∧
      (counting.sensor 1).pulsesTotal + (counting.sensor 1).pulsesInterrupt.toUInt32 = 0 + 1 ∧
      counting.sensor 0 =
        { boot.sensorFlowArray 0 with pulsesTotal := 0 + 1, pulsesInterrupt := 0 } := by
  have initial : Counting.Initial ⟨boot, fun _ => true, .outside⟩ :=
    ⟨rfl, fun _ => rfl, fun _ => rfl⟩
  have pulse := @PulseRun.interrupt ⟨boot, fun _ => true, .outside⟩ _ _ .start 0 rfl (by decide)
  have entered := (pulse.statement 4000).statement 4000
  have flushed := ((@PulseRun.interrupt _ _ _ entered 1 rfl (by decide)).statement 4000).statement
    4000
  have aside : ¬ UpdatePoint.Detached 1 (.attach 0) := by simp [UpdatePoint.Detached]
  exact ⟨_, _, flushed, rfl, rfl, rfl, (pulses_are_kept initial flushed 1).2.1 aside,
    (pulses_are_kept initial flushed 0).2.2 rfl⟩

end BlueberryIrrigation
